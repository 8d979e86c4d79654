import Mathlib.Tactic.Common
import StyleScope.Text.Search

/-!
Splitting a text at a character, and joining the pieces.

Splitting and joining are those of lists, and so they undo one another: the pieces of a text join
to the text, and pieces without the character are found again.
-/

namespace StyleScope.Text

lemma splitOn_eq (sep : Char) (t : Text) : splitOn sep t = List.splitOn sep t := by
  induction t with
  | nil => rfl
  | cons c t ih =>
    obtain ⟨piece, pieces, hpieces⟩ := List.exists_cons_of_ne_nil (List.splitOn_ne_nil sep t)
    have hcons : List.splitOn sep (c :: t) =
        if c = sep then [] :: List.splitOn sep t else (List.splitOn sep t).modifyHead (c :: ·) := by
      simp only [List.splitOn_eq_splitOnP, List.splitOnP_cons_eq_if_modifyHead, beq_iff_eq]
    rw [splitOn, ih, hcons, hpieces, List.modifyHead_cons]

lemma join_eq (sep : Text) (ts : List Text) : join sep ts = sep.intercalate ts := by
  induction ts with
  | nil => rfl
  | cons t ts ih =>
    cases ts with
    | nil => simp [join]
    | cons u ts =>
      rw [join, ih, List.intercalate_cons_cons]
      rintro ⟨⟩

lemma join_cons (sep t : Text) {ts : List Text} (h : ts ≠ []) :
    join sep (t :: ts) = t ++ (sep ++ join sep ts) := by
  obtain ⟨u, ts, rfl⟩ := List.exists_cons_of_ne_nil h
  rw [join, List.append_assoc]
  rintro ⟨⟩

lemma cons_join (c : Char) (sep t : Text) (ts : List Text) :
    c :: join sep (t :: ts) = join sep ((c :: t) :: ts) := by
  cases ts <;> simp [join]

lemma mem_join {sep : Text} {ts : List Text} {c : Char} (h : c ∈ join sep ts) :
    c ∈ sep ∨ ∃ t ∈ ts, c ∈ t := by
  induction ts with
  | nil => simp [join] at h
  | cons t ts ih =>
    by_cases hts : ts = []
    · exact .inr ⟨t, by simp, by simpa [hts, join] using h⟩
    · rw [join_cons sep t hts, List.mem_append, List.mem_append] at h
      rcases h with h | h | h
      · exact .inr ⟨t, by simp, h⟩
      · exact .inl h
      · exact (ih h).imp_right fun ⟨u, hu, hc⟩ => ⟨u, List.mem_cons_of_mem t hu, hc⟩

lemma join_append (sep : Text) {ts us : List Text} (hts : ts ≠ []) (hus : us ≠ []) :
    join sep (ts ++ us) = join sep ts ++ (sep ++ join sep us) := by
  induction ts with
  | nil => exact absurd rfl hts
  | cons t ts ih =>
    rcases List.eq_nil_or_concat ts with rfl | ⟨_, _, rfl⟩
    · exact join_cons sep t hus
    · rw [List.cons_append, join_cons sep t (by simp), join_cons sep t (by simp), ih (by simp)]
      simp [List.append_assoc]

lemma countP_join (q : Char → Bool) (sep : Text) (ts : List Text) :
    (join sep ts).countP q = ts.flatten.countP q + (ts.length - 1) * sep.countP q := by
  induction ts with
  | nil => simp [join]
  | cons t ts ih =>
    by_cases hts : ts = []
    · simp [hts, join]
    · obtain ⟨n, hn⟩ : ∃ n, ts.length = n + 1 :=
        Nat.exists_eq_succ_of_ne_zero (by simpa using hts)
      rw [join_cons sep t hts, List.countP_append, List.countP_append, ih, List.flatten_cons,
        List.countP_append, List.length_cons, hn, Nat.add_sub_cancel, Nat.add_sub_cancel,
        Nat.succ_mul]
      omega

variable {sep : Char}

lemma splitOn_ne_nil (sep : Char) (t : Text) : splitOn sep t ≠ [] := by
  rw [splitOn_eq]
  exact List.splitOn_ne_nil sep t

lemma splitOn_append (sep : Char) (a b : Text) :
    splitOn sep (a ++ sep :: b) = splitOn sep a ++ splitOn sep b := by
  simp only [splitOn_eq, List.splitOn_eq_splitOnP]
  exact List.splitOnP_append_cons a b (by simp)

lemma splitOn_join {ts : List Text} (hne : ts ≠ []) (h : ∀ t ∈ ts, sep ∉ t) :
    splitOn sep (join [sep] ts) = ts := by
  rw [splitOn_eq, join_eq]
  exact List.splitOn_intercalate sep h hne

lemma splitOn_of_notMem {t : Text} (h : sep ∉ t) : splitOn sep t = [t] := by
  have hjoin : splitOn sep (join [sep] [t]) = [t] := splitOn_join (by simp) (by simpa using h)
  exact hjoin

lemma join_splitOn (sep : Char) (t : Text) : join [sep] (splitOn sep t) = t := by
  rw [splitOn_eq, join_eq]
  exact List.intercalate_splitOn sep

lemma notMem_of_mem_splitOn {t u : Text} (h : u ∈ splitOn sep t) : sep ∉ u := by
  induction t generalizing u with
  | nil =>
    rw [splitOn, List.mem_singleton] at h
    simp [h]
  | cons c t ih =>
    obtain ⟨piece, pieces, hpieces⟩ := List.exists_cons_of_ne_nil (splitOn_ne_nil sep t)
    rw [splitOn, hpieces] at h
    rw [hpieces] at ih
    split_ifs at h with hc
    · rcases List.mem_cons.mp h with rfl | h
      · simp
      · exact ih h
    · rcases List.mem_cons.mp h with rfl | h
      · rw [List.mem_cons, not_or]
        exact ⟨Ne.symm hc, ih List.mem_cons_self⟩
      · exact ih (List.mem_cons_of_mem _ h)

end StyleScope.Text
