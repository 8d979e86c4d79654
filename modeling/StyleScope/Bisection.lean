/-!
Where a condition on numbers turns from true to false, found by halving.
-/

namespace StyleScope

/-- The first number from `lo` on that does not satisfy `p`, or `hi` if there is none before it.
Those that satisfy `p` have to come first. -/
def bisect (p : Nat → Bool) (lo hi : Nat) : Nat :=
  if lo < hi then
    let mid := (lo + hi) / 2
    if p mid then bisect p (mid + 1) hi else bisect p lo mid
  else lo
termination_by hi - lo
decreasing_by all_goals omega

/-- Halving divides the numbers into those that satisfy the condition and those that do not. -/
theorem lt_bisect_iff {p : Nat → Bool} {lo hi : Nat} (hle : lo ≤ hi)
    (hp : ∀ i j, lo ≤ i → i ≤ j → j < hi → p j = true → p i = true) :
    lo ≤ bisect p lo hi ∧ bisect p lo hi ≤ hi ∧
      ∀ i, lo ≤ i → i < hi → (i < bisect p lo hi ↔ p i = true) := by
  fun_induction bisect p lo hi with
  | case1 lo hi hlt mid hmid ih =>
    obtain ⟨hlo, hhi, hiff⟩ := ih (by omega) fun i j h₁ h₂ h₃ => hp i j (by omega) h₂ h₃
    refine ⟨by omega, hhi, fun i h₁ h₂ => ?_⟩
    by_cases hi : i ≤ mid
    · exact ⟨fun _ => hp i mid h₁ hi (by omega) hmid, fun _ => by omega⟩
    · exact hiff i (by omega) h₂
  | case2 lo hi hlt mid hmid ih =>
    obtain ⟨hlo, hhi, hiff⟩ := ih (by omega) fun i j h₁ h₂ h₃ => hp i j h₁ h₂ (by omega)
    refine ⟨hlo, by omega, fun i h₁ h₂ => ?_⟩
    by_cases hi : i < mid
    · exact hiff i h₁ hi
    · exact ⟨fun h => by omega, fun h => absurd (hp mid i (by omega) (by omega) h₂ h) hmid⟩
  | case3 lo hi hge => exact ⟨Nat.le_refl _, hle, fun i h₁ h₂ => by omega⟩

end StyleScope
