import Mathlib.Data.List.TakeWhile
import Mathlib.Tactic.Common
import StyleScope.Text.Blank

/-!
Dropping a tail, and trimming.

What `dropTailWhile` drops satisfies the predicate throughout, and what it keeps ends with an
element that does not. A trimmed text is the text without blanks at either end, so it is empty
exactly when the text is blank, and text put behind a text that is not blank stays in place.
-/

namespace StyleScope

section Tail

variable {α : Type} {p : α → Bool}

lemma dropTailWhile_cons (a : α) (l : List α) :
    dropTailWhile p (a :: l) =
      if dropTailWhile p l = [] ∧ p a = true then [] else a :: dropTailWhile p l := by
  rw [dropTailWhile]
  rcases h : dropTailWhile p l with _ | ⟨b, r⟩
  · by_cases ha : p a = true <;> simp [ha]
  · simp

lemma dropTailWhile_eq_nil {l : List α} : dropTailWhile p l = [] ↔ ∀ a ∈ l, p a = true := by
  induction l with
  | nil => simp [dropTailWhile]
  | cons a l ih =>
    rw [dropTailWhile_cons]
    split_ifs with h
    · simpa [h.2] using ih.mp h.1
    · simp only [List.mem_cons, forall_eq_or_imp, false_iff]
      rintro ⟨ha, hl⟩
      exact h ⟨ih.mpr hl, ha⟩

lemma exists_dropTailWhile_append (p : α → Bool) (l : List α) :
    ∃ t, l = dropTailWhile p l ++ t ∧ ∀ a ∈ t, p a = true := by
  induction l with
  | nil => exact ⟨[], by simp [dropTailWhile]⟩
  | cons a l ih =>
    obtain ⟨t, hl, ht⟩ := ih
    rw [dropTailWhile_cons]
    split_ifs with h
    · rw [h.1, List.nil_append] at hl
      subst hl
      exact ⟨a :: l, rfl, by simpa [h.2] using ht⟩
    · exact ⟨t, by rw [List.cons_append, ← hl], ht⟩

lemma dropTailWhile_append_drop (p : α → Bool) (l : List α) :
    dropTailWhile p l ++ l.drop (dropTailWhile p l).length = l := by
  obtain ⟨t, hl, -⟩ := exists_dropTailWhile_append p l
  conv_lhs => arg 2; arg 2; rw [hl]
  rw [List.drop_left, ← hl]

lemma dropTailWhile_append_of_ne_nil {l : List α} (h : dropTailWhile p l ≠ []) (k : List α) :
    dropTailWhile p (k ++ l) = k ++ dropTailWhile p l := by
  induction k with
  | nil => rfl
  | cons a k ih =>
    rw [List.cons_append, dropTailWhile_cons, ih, if_neg (by simp [h]), List.cons_append]

lemma dropTailWhile_append_singleton {a : α} (ha : p a = false) (k : List α) :
    dropTailWhile p (k ++ [a]) = k ++ [a] := by
  have h : dropTailWhile p [a] = [a] := by simp [dropTailWhile, ha]
  rw [dropTailWhile_append_of_ne_nil (by simp [h]), h]

lemma getLast?_dropTailWhile (l : List α) : ∀ a ∈ (dropTailWhile p l).getLast?, p a = false := by
  induction l with
  | nil => simp [dropTailWhile]
  | cons a l ih =>
    rw [dropTailWhile_cons]
    split_ifs with h
    · simp
    · rcases hl : dropTailWhile p l with _ | ⟨b, r⟩
      · have ha : p a = false := by simpa [hl] using h
        simp [ha]
      · rw [hl] at ih
        simpa [List.getLast?_cons_cons] using ih

end Tail

namespace Text

def Blank (t : Text) : Prop := ∀ c ∈ t, isBlank c = true

instance (t : Text) : Decidable (Blank t) := List.decidableBAll (isBlank · = true) t

@[simp] lemma blank_nil : Blank [] := by simp [Blank]

lemma not_blank_append {a : Text} (h : ¬ Blank a) (b : Text) : ¬ Blank (a ++ b) :=
  fun hb => h fun c hc => hb c (List.mem_append_left b hc)

lemma trimStart_append_of_not_blank {a : Text} (h : ¬ Blank a) (b : Text) :
    trimStart (a ++ b) = trimStart a ++ b := by
  induction a with
  | nil => exact absurd blank_nil h
  | cons c a ih =>
    unfold trimStart at ih ⊢
    rw [List.cons_append, List.dropWhile_cons, List.dropWhile_cons]
    split_ifs with hc
    · refine ih fun ha => h ?_
      simpa [Blank, hc] using ha
    · rfl

lemma exists_trim (t : Text) : ∃ before after, t = before ++ (trim t ++ after) ∧
    Blank before ∧ Blank after := by
  obtain ⟨after, hafter, hblank⟩ := exists_dropTailWhile_append isBlank (trimStart t)
  refine ⟨t.takeWhile isBlank, after, ?_, fun c hc => List.mem_takeWhile_imp hc, hblank⟩
  have h : trim t ++ after = trimStart t := hafter.symm
  rw [h]
  exact (List.takeWhile_append_dropWhile).symm

lemma trim_eq_nil {t : Text} : trim t = [] ↔ Blank t := by
  constructor
  · intro h
    obtain ⟨before, after, ht, hb, ha⟩ := exists_trim t
    rw [h, List.nil_append] at ht
    rw [ht]
    intro c hc
    exact (List.mem_append.mp hc).elim (hb c) (ha c)
  · intro h
    have hstart : trimStart t = [] := List.dropWhile_eq_nil_iff.mpr h
    rw [trim, hstart]
    rfl

/-- No blank stands at either end. -/
def Tight (t : Text) : Prop :=
  (∀ c ∈ t.head?, isBlank c = false) ∧ ∀ c ∈ t.getLast?, isBlank c = false

lemma tight_trim (t : Text) : Tight (trim t) := by
  refine ⟨fun c hc => ?_, getLast?_dropTailWhile _⟩
  obtain ⟨after, hafter, -⟩ := exists_dropTailWhile_append isBlank (trimStart t)
  have happ : trimStart t = trim t ++ after := hafter
  have hhead : (trimStart t).head? = some c := by
    obtain ⟨rest, hrest⟩ := List.head?_eq_some_iff.mp hc
    rw [happ, hrest]
    rfl
  have hnot := List.head?_dropWhile_not isBlank t
  unfold trimStart at hhead
  rw [hhead] at hnot
  exact hnot

lemma trim_of_tight {t : Text} (h : Tight t) : trim t = t := by
  have hstart : trimStart t = t := by
    cases t with
    | nil => rfl
    | cons c t => simp [trimStart, h.1 c rfl]
  rw [trim, hstart]
  rcases List.eq_nil_or_concat t with rfl | ⟨k, a, rfl⟩
  · rfl
  · rw [List.concat_eq_append] at h ⊢
    exact dropTailWhile_append_singleton (h.2 a (by simp)) k

lemma trim_trim (t : Text) : trim (trim t) = trim t := trim_of_tight (tight_trim t)

lemma trim_append {a : Text} {c : Char} (h : ¬ Blank a) (hc : isBlank c = false) (b : Text) :
    trim (a ++ c :: b) = trimStart a ++ trimEnd (c :: b) := by
  have hne : dropTailWhile isBlank (c :: b) ≠ [] := fun hnil => by
    have hblank := dropTailWhile_eq_nil.mp hnil c (by simp)
    simp [hc] at hblank
  rw [trim, trimStart_append_of_not_blank h, trimEnd, dropTailWhile_append_of_ne_nil hne]
  rfl

lemma trim_append_ne {a : Text} {c : Char} (h : ¬ Blank a) (hc : isBlank c = false) (b : Text) :
    trim (a ++ c :: b) ≠ trim a := by
  intro heq
  have hlong : 0 < (trimEnd (c :: b)).length := by
    refine List.length_pos_iff.mpr fun hnil => ?_
    have hblank := dropTailWhile_eq_nil.mp hnil c (by simp)
    simp [hc] at hblank
  obtain ⟨t, ht, -⟩ := exists_dropTailWhile_append isBlank (trimStart a)
  have hlen := congrArg List.length heq
  have htrim : (trimStart a).length = (trim a).length + t.length := by
    conv_lhs => rw [ht]
    rw [List.length_append]
    rfl
  rw [trim_append h hc, List.length_append] at hlen
  omega

end Text
end StyleScope
