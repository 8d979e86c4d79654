import Mathlib.Tactic.Common
import StyleScope.Text.Search

/-!
Replacing the occurrences of a text.

A text in which nothing occurs stays as it is. Where something occurs, a longer replacement makes a
longer text, so that the result with an empty replacement tells whether there was anything to
replace.
-/

namespace StyleScope.Text

variable {p r t : Text}

lemma replaceFrom_of_not_occursIn (h : occursIn p t = false) (r : Text) :
    replaceFrom p r 0 t = t := by
  induction t with
  | nil => rfl
  | cons c t ih =>
    rw [occursIn, Bool.or_eq_false_iff] at h
    rw [replaceFrom, if_neg (by simp [h.1]), ih h.2]

lemma replaceFrom_eq (p r : Text) (skip : Nat) (t : Text) :
    replaceFrom p r skip t = replaceFrom p r 0 (t.drop skip) := by
  induction t generalizing skip with
  | nil => cases skip <;> simp [replaceFrom]
  | cons c t ih =>
    cases skip with
    | zero => rfl
    | succ skip => rw [replaceFrom, ih, List.drop_succ_cons]

lemma replaceFrom_append {p : Text} (hp : p ≠ []) (r t : Text) :
    replaceFrom p r 0 (p ++ t) = r ++ replaceFrom p r 0 t := by
  obtain ⟨c, p, rfl⟩ := List.exists_cons_of_ne_nil hp
  have hprefix : (c :: p).isPrefixOf (c :: (p ++ t)) = true :=
    List.isPrefixOf_iff_prefix.mpr (List.prefix_append (c :: p) t)
  rw [List.cons_append, replaceFrom, if_pos hprefix, replaceFrom_eq, List.length_cons,
    Nat.add_sub_cancel, List.drop_left]

lemma length_replaceFrom_nil_le (p r : Text) (skip : Nat) (t : Text) :
    (replaceFrom p [] skip t).length ≤ (replaceFrom p r skip t).length := by
  fun_induction replaceFrom p r skip t with
  | case1 skip => simp [replaceFrom]
  | case2 c t hprefix ih =>
    rw [replaceFrom, if_pos hprefix, List.nil_append, List.length_append]
    omega
  | case3 c t hprefix ih =>
    rw [replaceFrom, if_neg hprefix, List.length_cons, List.length_cons]
    omega
  | case4 skip c t ih => exact ih

lemma length_replaceFrom_nil_lt (hp : p ≠ []) (hr : r ≠ []) (h : occursIn p t = true) :
    (replaceFrom p [] 0 t).length < (replaceFrom p r 0 t).length := by
  induction t with
  | nil => exact absurd (List.isEmpty_iff.mp h) hp
  | cons c t ih =>
    by_cases hprefix : p.isPrefixOf (c :: t) = true
    · have hle := length_replaceFrom_nil_le p r (p.length - 1) t
      have hpos := List.length_pos_iff.mpr hr
      rw [replaceFrom, replaceFrom, if_pos hprefix, if_pos hprefix, List.nil_append,
        List.length_append]
      omega
    · rw [occursIn, Bool.or_eq_true, or_iff_right hprefix] at h
      have hlt := ih h
      rw [replaceFrom, replaceFrom, if_neg hprefix, if_neg hprefix, List.length_cons,
        List.length_cons]
      omega

/-- **When it does not matter what something is replaced by**: if that is nothing anyway, or if
there is nothing to replace. -/
lemma replaceAll_nil_eq_iff (hp : p ≠ []) :
    replaceAll p [] t = replaceAll p r t ↔ r = [] ∨ occursIn p t = false := by
  have hempty : ¬ p.isEmpty = true := by simpa using hp
  rw [replaceAll, replaceAll, if_neg hempty, if_neg hempty]
  constructor
  · intro heq
    by_contra hne
    rw [not_or, Bool.not_eq_false] at hne
    have hlt := length_replaceFrom_nil_lt hp hne.1 hne.2
    rw [heq] at hlt
    exact Nat.lt_irrefl _ hlt
  · rintro (rfl | hnone)
    · rfl
    · rw [replaceFrom_of_not_occursIn hnone, replaceFrom_of_not_occursIn hnone]

end StyleScope.Text
