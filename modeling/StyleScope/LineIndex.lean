import StyleScope.Bisection
import StyleScope.Text.Basic

/-!
Lines and columns of a text, counted from zero; columns count bytes. Only `\n` ends a line. As for
spans, the results speak of texts of less than 2^32 bytes, whose lines and columns fit into 32 bits.
-/

namespace StyleScope

/-- A position by line and byte column. -/
structure LineCol where
  line : Nat
  col : Nat
  deriving DecidableEq, Repr

/-- Where the lines of a text start, and how long the text is. -/
structure LineIndex where
  starts : Array Nat
  size : Nat
  deriving DecidableEq, Repr

namespace LineIndex

/-- The offsets just after each line end, when the text begins at `offset`. -/
def startsAfter (offset : Nat) : Text → List Nat
  | [] => []
  | c :: t =>
    let next := offset + c.utf8Size
    if c = '\n' then next :: startsAfter next t else startsAfter next t

def ofText (t : Text) : LineIndex := ⟨(0 :: startsAfter 0 t).toArray, t.size⟩

def lineCount (index : LineIndex) : Nat := index.starts.size

/-- How many lines begin at or before an offset, found by halving. -/
def countBegun (index : LineIndex) (offset : Nat) : Nat :=
  bisect (fun line => index.starts[line]?.any (· ≤ offset)) 0 index.starts.size

/-- The position of an offset; none past the end of the text. -/
def lineCol? (index : LineIndex) (offset : Nat) : Option LineCol :=
  if index.size < offset then none
  else
    let line := index.countBegun offset - 1
    index.starts[line]?.map fun start => ⟨line, offset - start⟩

/-- The offset of a position; none if there is no such line. The column is not bounded by the
line's length. -/
def offset? (index : LineIndex) (p : LineCol) : Option Nat :=
  index.starts[p.line]?.map (· + p.col)

end LineIndex
end StyleScope
