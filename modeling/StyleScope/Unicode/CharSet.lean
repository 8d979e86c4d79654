import StyleScope.Unicode.CaseFold
import StyleScope.Unicode.Property
import StyleScope.Unicode.Script

/-!
Character sets as expressions; `contains` says what they mean.
-/

namespace StyleScope

open Unicode (Ranges)

/-- A set of characters. -/
inductive CharSet where
  | range (lo hi : Nat)
  | table (ranges : Ranges)
  | union (a b : CharSet)
  | inter (a b : CharSet)
  | compl (a : CharSet)
  /-- The characters that differ from one of `a` in case only. -/
  | folded (a : CharSet)
  /-- The same for ASCII letters alone. -/
  | foldedAscii (a : CharSet)
  deriving DecidableEq, Repr

namespace CharSet

def contains : CharSet → Char → Bool
  | range lo hi, c => lo ≤ c.toNat && c.toNat ≤ hi
  | table ranges, c => ranges.contains c.toNat
  | union a b, c => a.contains c || b.contains c
  | inter a b, c => a.contains c && b.contains c
  | compl a, c => !a.contains c
  | folded a, c => (Unicode.CaseFold.orbit c).any fun d => a.contains d
  | foldedAscii a, c => a.contains c || a.contains c.toLower || a.contains c.toUpper

def single (c : Char) : CharSet := range c.toNat c.toNat

@[simp] theorem contains_single (c d : Char) : (single c).contains d = (c == d) := by
  have h : (c.toNat ≤ d.toNat ∧ d.toNat ≤ c.toNat) ↔ c = d :=
    ⟨fun ⟨h₁, h₂⟩ => Char.toNat_inj.mp (Nat.le_antisymm h₁ h₂), by rintro rfl; simp⟩
  rw [Bool.eq_iff_iff]
  simpa [single, contains] using h

def empty : CharSet := table []

def all : CharSet := range 0 0x10FFFF

def diff (a b : CharSet) : CharSet := inter a (compl b)

def symmDiff (a b : CharSet) : CharSet := union (diff a b) (diff b a)

/-- The complement, if asked for. -/
def negatedIf (negated : Bool) (a : CharSet) : CharSet := if negated then compl a else a

/-- Whether no character or byte beyond ASCII belongs to the set. -/
def isAscii (a : CharSet) : Bool :=
  (List.range 128).all fun n => !a.contains (Char.ofNat (128 + n))

/-- The characters of the set as ranges of code points, in order. -/
def ranges : CharSet → Ranges
  | range lo hi => [(lo, hi)]
  | table rs => rs.normalize
  | union a b => Ranges.normalize (a.ranges ++ b.ranges)
  | inter a b => Ranges.compl (Ranges.normalize (a.ranges.compl ++ b.ranges.compl))
  | compl a => a.ranges.compl
  | folded a =>
    let rs := a.ranges
    let touched := Unicode.CaseFold.groups.filter fun group => group.any rs.contains
    Ranges.normalize (rs ++ touched.flatMap fun group => group.map fun n => (n, n))
  | foldedAscii a =>
    let rs := a.ranges
    let letters := (List.range 128).filter fun n =>
      rs.contains (Char.ofNat n).toLower.toNat || rs.contains (Char.ofNat n).toUpper.toNat
    Ranges.normalize (rs ++ letters.map fun n => (n, n))

end CharSet
end StyleScope
