import StyleScope.Text.Basic

/-!
Globs are patterns for the names of files. A glob is matched against the bytes of a path, and all of
them have to be used up. The wild cards `*` and `?` stand for any bytes, `/` among them.
-/

namespace StyleScope

/-- The bytes of a text in UTF-8. -/
def Text.utf8 (t : Text) : List UInt8 := t.flatMap String.utf8EncodeChar

/-- A glob. -/
inductive Glob where
  /-- Nothing at all. -/
  | empty
  | literal (c : Char)
  /-- Any one byte. -/
  | any
  /-- Any bytes. -/
  | star
  /-- Directories at the front of a path, or none. -/
  | leading
  /-- Everything in a directory. -/
  | trailing
  /-- Directories between two others, or none. -/
  | between
  /-- One byte that is in one of some ranges, or in none of them. -/
  | byteIn (negated : Bool) (ranges : List (UInt8 × UInt8))
  | seq (a b : Glob)
  | alt (a b : Glob)
  deriving DecidableEq, Repr

namespace Glob

/-- The byte `/`. -/
def slash : UInt8 := 0x2F

/-- All tails of some bytes. -/
def tails : List UInt8 → List (List UInt8)
  | [] => [[]]
  | b :: bs => (b :: bs) :: tails bs

/-- What stands after each `/`. -/
def afterSlashes : List UInt8 → List (List UInt8)
  | [] => []
  | b :: bs => if b = slash then bs :: afterSlashes bs else afterSlashes bs

/-- What stands after a text, if the bytes begin with it. -/
def after : List UInt8 → List UInt8 → List (List UInt8)
  | [], bs => [bs]
  | _ :: _, [] => []
  | e :: es, b :: bs => if b = e then after es bs else []

/-- Whether a byte is in one of some ranges. -/
def isIn (ranges : List (UInt8 × UInt8)) (b : UInt8) : Bool :=
  ranges.any fun (low, high) => low ≤ b && b ≤ high

/-- What can be left of some bytes when their front has been matched. -/
def rests : Glob → List UInt8 → List (List UInt8)
  | empty, bs => [bs]
  | literal c, bs => after (String.utf8EncodeChar c) bs
  | any, bs => bs.tail?.toList
  | star, bs => tails bs
  | leading, bs => bs :: afterSlashes bs
  | trailing, bs => (after [slash] bs).flatMap tails
  | between, bs => (after [slash] bs).flatMap fun r => r :: afterSlashes r
  | byteIn negated ranges, b :: bs => if isIn ranges b != negated then [bs] else []
  | byteIn _ _, [] => []
  | seq a b, bs => ((a.rests bs).flatMap b.rests).eraseDups
  | alt a b, bs => a.rests bs ++ b.rests bs

/-- Whether a glob matches a whole path. -/
def isMatch (g : Glob) (path : Text) : Bool := (g.rests (Text.utf8 path)).any List.isEmpty

/-- One glob after another, where an empty one leaves no trace. -/
def append : Glob → Glob → Glob
  | empty, b => b
  | a, empty => a
  | a, b => seq a b

/-- Globs one after another. -/
def concat (gs : List Glob) : Glob := gs.foldr append empty

/-- One of some globs. Empty ones are not among the choices; with no choice there is nothing to
match. -/
def choice (gs : List Glob) : Glob :=
  match gs.filter fun g => g != empty with
  | [] => empty
  | g :: gs => gs.foldl alt g

end Glob
end StyleScope
