import StyleScope.Regex.Basic

/-!
An expression may not be too large. Its size is the memory, in bytes, of a machine that reads the
UTF-8 form of a text backwards: sequences of bytes that begin alike share their states.
-/

namespace StyleScope.Regex

/-! ### Sequences of bytes -/

/-- How many code points `k` following bytes tell apart. -/
def span64 (k : Nat) : Nat := Nat.pow 64 k

/-- The code points from `lo` to `hi` as sequences of ranges: a leading part, and `k` parts of six
bits. In each sequence the parts vary independently of each other. -/
def byteSequences : (k : Nat) → (lo hi : Nat) → List (List (Nat × Nat))
  | 0, lo, hi => [[(lo, hi)]]
  | k + 1, lo, hi =>
    let unit := span64 (k + 1)
    let (a, b) := (lo / unit, hi / unit)
    let below (lead lo hi : Nat) := (byteSequences k lo hi).map ((lead, lead) :: ·)
    if a = b then below a (lo % unit) (hi % unit)
    else
      let first := if lo % unit = 0 then [] else below a (lo % unit) (unit - 1)
      let last := if hi % unit = unit - 1 then [] else below b 0 (hi % unit)
      let start := if lo % unit = 0 then a else a + 1
      let stop := if hi % unit = unit - 1 then b + 1 else b
      let middle := if start < stop then
        [(start, stop - 1) :: List.replicate (k + 1) (0, 63)] else []
      first ++ middle ++ last

/-- The bounds of the code points that are written with `k` following bytes, without surrogates. -/
def encodedRanges : List (Nat × Nat × Nat) :=
  [(0, 0, 0x7F), (1, 0x80, 0x7FF), (2, 0x800, 0xD7FF), (2, 0xE000, 0xFFFF), (3, 0x10000, 0x10FFFF)]

/-- The sequences of bytes for a range of code points. The number of bytes stands in front, since
leading bytes tell it. -/
def sequencesOf (r : Nat × Nat) : List (List (Nat × Nat)) :=
  encodedRanges.flatMap fun (k, lo, hi) =>
    let (lo, hi) := (max lo r.1, min hi r.2)
    if lo ≤ hi then (byteSequences k lo hi).map ((k, k) :: ·) else []

/-- How many elements two lists have in common at the front. -/
def commonLength : List (Nat × Nat) → List (Nat × Nat) → Nat
  | a :: as, b :: bs => if a = b then commonLength as bs + 1 else 0
  | _, _ => 0

/-- How many states a list of sequences takes after the one before it. -/
def stateCount (before : List (Nat × Nat)) : List (List (Nat × Nat)) → Nat
  | [] => 0
  | s :: rest => s.length - max 1 (commonLength before s) + stateCount s rest

/-! ### Memory -/

/-- A state of the machine. -/
def stateSize : Nat := 32

/-- A choice between two ways, with both of them. -/
def forkSize : Nat := stateSize + 8

/-- The memory for a set. One character takes a state for each of its bytes, and ASCII characters
share a state for all their ranges. -/
def setCost (s : CharSet) : Nat :=
  let ranges := s.ranges
  let sequences := ranges.flatMap sequencesOf
  if ranges.isEmpty then stateSize
  else if ranges.all fun r => r.1 = r.2 && ranges.length = 1 then
    stateSize * stateCount [] sequences
  else if ranges.all fun r => r.2 < 0x80 then 2 * stateSize + 8 * ranges.length
  else 2 * stateSize + stateSize * stateCount [] sequences + 4 * sequences.length

/-- The memory for an expression. -/
def cost : Regex → Nat
  | empty => 0
  | set s => setCost s
  | look _ => stateSize
  | concat a b => a.cost + b.cost
  | alt a (alt b c) => 4 + a.cost + (alt b c).cost
  | alt a b => forkSize + stateSize + a.cost + b.cost
  | repeated e n none _ => e.cost * max n 1 + forkSize
  | repeated e n (some m) _ => e.cost * n + (e.cost + forkSize) * (m - n)

/-- The most memory that an expression may take. -/
def costLimit : Nat := 10 * 1024 * 1024

end StyleScope.Regex
