import StyleScope.Sheet.Basic
import StyleScope.SourceMap

/-!
A sheet is printed by copying its source and putting each rule's current selector in the place of
the one in the source. Everything else stays as it is, byte for byte.
-/

namespace StyleScope

/-- A piece of printed text. -/
inductive Chunk where
  /-- Text of the source, with the offset it begins at. -/
  | copied (start : Nat) (text : Text)
  /-- Text in place of a span of the source. -/
  | replaced (source : Span) (text : Text)
  deriving DecidableEq, Repr

namespace Chunk

def text : Chunk → Text
  | copied _ t => t
  | replaced _ t => t

/-- Records a chunk in a source map. -/
def record (b : SourceMap.Builder) : Chunk → SourceMap.Builder
  | copied start t => b.addSource start t
  | replaced source t => b.addReplaced source t

end Chunk

/-- Printed text and its map to the source. -/
structure Printed where
  css : Text
  sourceMap : SourceMap
  deriving DecidableEq, Repr

namespace Sheet

/-- The chunk for a rule's selector, whose source text is `written`. -/
def selectorChunk (r : Rule) (written : Text) : Chunk :=
  if r.selector = written then .copied r.selectorSpan.start written
  else .replaced r.selectorSpan r.selector

/-- The chunks from offset `cursor` on, where the source still holds `rest`. -/
def chunksFrom (cursor : Nat) (rest : Text) : List Rule → List Chunk
  | [] => [.copied cursor rest]
  | r :: rs =>
    let (before, here) := Text.cut (r.selectorSpan.start - cursor) rest
    let (written, after) := Text.cut r.selectorSpan.length here
    .copied cursor before :: selectorChunk r written :: chunksFrom r.selectorSpan.stop after rs

/-- The printed sheet in pieces. -/
def chunks (s : Sheet) : List Chunk := chunksFrom 0 s.source (s.rules.map Prod.snd)

/-- Prints a sheet. -/
def print (s : Sheet) : Printed :=
  ⟨s.chunks.flatMap Chunk.text, (s.chunks.foldl Chunk.record {}).build⟩

def toCss (s : Sheet) : Text := s.print.css

end Sheet
end StyleScope
