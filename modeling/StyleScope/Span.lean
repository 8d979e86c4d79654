import StyleScope.Text.Basic

/-!
A span is a half-open range of byte offsets. Its text is defined when it runs forward, stays within
the source and cuts no character. Offsets are numbers of any size: in a source of less than 2^32
bytes, which is what the results about spans speak of, each of them fits into 32 bits.
-/

namespace StyleScope

/-- The bytes from `start` up to, but not including, `stop`. -/
structure Span where
  start : Nat
  stop : Nat
  deriving DecidableEq, Repr

namespace Span

/-- The span of no bytes at an offset. -/
def empty (offset : Nat) : Span := ⟨offset, offset⟩

def length (s : Span) : Nat := s.stop - s.start

def isEmpty (s : Span) : Bool := s.start == s.stop

def contains (s : Span) (offset : Nat) : Bool := s.start ≤ offset && offset < s.stop

/-- The characters that begin inside the span. -/
def slice (s : Span) (source : Text) : Text :=
  (Text.cut s.length (Text.cut s.start source).2).1

/-- Whether the span runs forward and both ends are character boundaries of the source. -/
def fits (s : Span) (source : Text) : Bool :=
  s.start ≤ s.stop && Text.isBoundary s.start source && Text.isBoundary s.stop source

/-- The text under the span, if it has one. -/
def slice? (s : Span) (source : Text) : Option Text :=
  if s.fits source then some (s.slice source) else none

end Span
end StyleScope
