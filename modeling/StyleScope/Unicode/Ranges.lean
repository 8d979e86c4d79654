import StyleScope.Text.Search

/-!
The Unicode tables of this library are written as code points and ranges of code points, in
hexadecimal and parted by spaces. Read into ranges, they can be put in order and complemented.
-/

namespace StyleScope.Unicode

/-- Ranges of code points, both ends included. -/
abbrev Ranges := List (Nat × Nat)

/-- The value of a hexadecimal digit. -/
def hexDigit? (c : Char) : Option Nat :=
  if c.isDigit then some (c.toNat - '0'.toNat)
  else if 'a' ≤ c && c ≤ 'f' then some (c.toNat - 'a'.toNat + 10)
  else if 'A' ≤ c && c ≤ 'F' then some (c.toNat - 'A'.toNat + 10)
  else none

/-- The number that a text writes in hexadecimal; other characters count as zero. -/
def hex (t : Text) : Nat := t.foldl (fun n c => 16 * n + (hexDigit? c).getD 0) 0

namespace Ranges

def readRange (t : Text) : Nat × Nat :=
  match Text.splitOn '-' t with
  | lo :: hi :: _ => (hex lo, hex hi)
  | _ => (hex t, hex t)

/-- Reads the lines of a written table. -/
def read (lines : List String) : Ranges :=
  lines.flatMap fun s => (Text.splitOn ' ' s.toList).map readRange

def contains (rs : Ranges) (n : Nat) : Bool := rs.any fun r => r.1 ≤ n && n ≤ r.2

/-- Joins ranges that overlap or touch, in a list that is ordered by where they begin. -/
def join : Ranges → Ranges
  | [] => []
  | r :: rs =>
    match join rs with
    | [] => [r]
    | s :: rest => if s.1 ≤ r.2 + 1 then (r.1, max r.2 s.2) :: rest else r :: s :: rest

/-- The same code points in as few ranges as possible, in order. -/
def normalize (rs : Ranges) : Ranges := join (rs.mergeSort fun a b => a.1 ≤ b.1)

/-- The code points from `start` on that are in none of some ranges, which are in order and do not
touch. -/
def complFrom (start : Nat) : Ranges → Ranges
  | [] => if start ≤ 0x10FFFF then [(start, 0x10FFFF)] else []
  | r :: rs =>
    (if start < r.1 then [(start, r.1 - 1)] else []) ++ complFrom (r.2 + 1) rs

def compl (rs : Ranges) : Ranges := complFrom 0 rs

end Ranges
end StyleScope.Unicode
