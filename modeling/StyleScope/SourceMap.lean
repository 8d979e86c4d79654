import StyleScope.Bisection
import StyleScope.Span

/-!
Source maps tell where printed text came from. A builder records, piece by piece, which span of the
source each piece of output stands for; the finished map answers in both directions.
-/

namespace StyleScope

/-- A printed span and the source span it stands for. -/
structure Mapping where
  printed : Span
  source : Span
  deriving DecidableEq, Repr

/-- Whether both spans are equally long, which is taken as a plain copy. -/
def Mapping.isVerbatim (m : Mapping) : Bool := m.printed.length == m.source.length

/-- Mappings in the order of the printed text. -/
structure SourceMap where
  mappings : Array Mapping
  deriving DecidableEq, Repr

namespace SourceMap

/-- How many of the mappings `lo, …, hi - 1` and of those before `lo` begin at or before an offset,
found by halving. -/
def countStarted (ms : Array Mapping) (offset lo hi : Nat) : Nat :=
  bisect (fun i => ms[i]?.any fun m => m.printed.start ≤ offset) lo hi

/-- The mapping that covers a printed offset. -/
def covering? (map : SourceMap) (offset : Nat) : Option Mapping :=
  match countStarted map.mappings offset 0 map.mappings.size with
  | 0 => none
  | n + 1 => map.mappings[n]?.filter (·.printed.contains offset)

/-- The source offset behind a printed offset. Inside a piece that is no copy it is the start of
the source span. -/
def sourceOffset? (map : SourceMap) (offset : Nat) : Option Nat :=
  (map.covering? offset).map fun m =>
    if m.isVerbatim then m.source.start + (offset - m.printed.start) else m.source.start

/-- The printed offset of a source offset, by the first mapping that covers it. -/
def printedOffset? (map : SourceMap) (offset : Nat) : Option Nat :=
  (map.mappings.find? (·.source.contains offset)).map fun m =>
    if m.isVerbatim then m.printed.start + (offset - m.source.start) else m.printed.start

/-- A source map in the making, and how much has been printed. -/
structure Builder where
  mappings : Array Mapping := #[]
  offset : Nat := 0
  deriving DecidableEq, Repr

namespace Builder

/-- Records `size` printed bytes for a source span. Nothing printed leaves no mapping. -/
def push (b : Builder) (source : Span) (size : Nat) : Builder :=
  if size = 0 then b
  else ⟨b.mappings.push ⟨⟨b.offset, b.offset + size⟩, source⟩, b.offset + size⟩

/-- Records text copied from the source. -/
def addSource (b : Builder) (start : Nat) (text : Text) : Builder :=
  b.push ⟨start, start + text.size⟩ text.size

/-- Records text put in place of a source span. -/
def addReplaced (b : Builder) (source : Span) (text : Text) : Builder :=
  b.push source text.size

def build (b : Builder) : SourceMap := ⟨b.mappings⟩

end Builder
end SourceMap
end StyleScope
