import StyleScope.Proofs.Selector.Marks
import StyleScope.Proofs.Text.Split
import StyleScope.Proofs.Text.Trim

/-!
The pieces of a selector list.

A comma that separates is met with nothing open, so what stands behind it is read as if it stood
alone: a list is read piece by piece, and splitting a list at such a comma splits both sides.
Blanks open and close nothing, so trimming a piece does not change how the rest of it is read,
with one exception: a blank at its end may have been escaped, and its backslash is left behind.
-/

namespace StyleScope

lemma Text.tidy_cons_of_not_blank {a : Text} (h : ¬ Blank a) (l : List Text) :
    tidy (a :: l) = trim a :: tidy l := by
  rw [tidy_cons, if_neg fun hnil => h (trim_eq_nil.mp hnil)]

namespace SelectorList

open Text (Blank tidy)

namespace Context

lemma run_append (s : Context) (a b : Text) : s.run (a ++ b) = (s.run a).run b :=
  List.foldl_append

lemma run_cons (s : Context) (c : Char) (t : Text) : s.run (c :: t) = (s.step c).run t := rfl

/-- The open quote, if any, is no blank. -/
def QuoteShown (s : Context) : Prop := ∀ d ∈ s.quote, isBlank d = false

lemma QuoteShown.step {s : Context} (h : s.QuoteShown) (c : Char) : (s.step c).QuoteShown := by
  have hquote {d : Char} (hd : (s.step c).quote = some d) :
      s.quote = some d ∨ d = '"' ∨ d = '\'' := by
    unfold Context.step at hd
    split_ifs at hd <;> simp_all
  intro d hd
  rcases hquote hd with hold | rfl | rfl
  · exact h d hold
  · decide
  · decide

lemma QuoteShown.run {s : Context} (h : s.QuoteShown) (t : Text) : (s.run t).QuoteShown := by
  induction t generalizing s with
  | nil => exact h
  | cons c t ih => exact ih (h.step c)

lemma quoteShown_outer : outer.QuoteShown := by simp [QuoteShown, outer]

lemma QuoteShown.run_of_blank {s : Context} (h : s.QuoteShown) (hs : s.escaped = false) {u : Text}
    (hu : Blank u) : s.run u = s := by
  induction u with
  | nil => rfl
  | cons c u ih =>
    have hc : isBlank c = true := hu c (by simp)
    obtain ⟨hsign, hback⟩ := not_isSign_of (p := isBlank) (by decide) hc
    have hquote : s.quote ≠ some c := fun hq => by simp [h c hq] at hc
    have hstep : s.step c = s := by
      simp only [isSign, Bool.or_eq_false_iff, beq_eq_false_iff_ne] at hsign
      simp_all [Context.step]
    rw [run_cons, hstep]
    exact ih fun d hd => hu d (by simp [hd])

lemma run_outer_of_blank {u : Text} (hu : Blank u) : outer.run u = .outer :=
  quoteShown_outer.run_of_blank rfl hu

end Context

lemma marks_of_uncut {s : Context} {t : Text} (h : true ∉ marks s t) :
    marks s t = List.replicate t.length false := by
  induction t generalizing s with
  | nil => rfl
  | cons c t ih =>
    rw [marks, List.mem_cons, not_or] at h
    rw [marks, ih h.2, List.length_cons, List.replicate_succ]
    cases hc : s.separates c with
    | true => exact absurd hc.symm h.1
    | false => rfl

lemma mem_marks_append_comma {s : Context} {a : Text} (h : s.run a = .outer) (b : Text) :
    true ∈ marks s (a ++ ',' :: b) := by
  rw [marks_append, h, marks, Context.separates_iff.mpr ⟨rfl, rfl⟩]
  simp

/-! ### Reading piece by piece -/

/-- A text, read from a context on, is the list of some pieces: no comma in a piece separates, and
each comma between two pieces does. -/
inductive Lists : Context → Text → List Text → Prop
  | last {s : Context} {t : Text} : true ∉ marks s t → Lists s t [t]
  | next {s : Context} {a b : Text} {ps : List Text} : true ∉ marks s a → s.run a = .outer →
      Lists .outer b ps → Lists s (a ++ ',' :: b) (a :: ps)

lemma Lists.cons {s : Context} {c : Char} {t p : Text} {ps : List Text}
    (hc : s.separates c = false) (h : Lists (s.step c) t (p :: ps)) :
    Lists s (c :: t) ((c :: p) :: ps) := by
  have hmarks {a : Text} (ha : true ∉ marks (s.step c) a) : true ∉ marks s (c :: a) := by
    simpa [marks, hc] using ha
  cases h with
  | last ht => exact .last (hmarks ht)
  | next ha hrun hb => exact .next (hmarks ha) hrun hb

lemma lists_pieces (s : Context) (t : Text) : Lists s t (pieces s t) := by
  induction t generalizing s with
  | nil => exact .last (by simp [marks])
  | cons c t ih =>
    rw [pieces]
    split_ifs with hc
    · obtain ⟨rfl, rfl⟩ := Context.separates_iff.mp hc
      exact Lists.next (a := []) (by simp [marks]) rfl (ih .outer)
    · have h := ih (s.step c)
      rcases hp : pieces (s.step c) t with _ | ⟨p, ps⟩
      · rw [hp] at h
        cases h
      · exact .cons (by simpa using hc) (hp ▸ h)

lemma Lists.ne_nil {s : Context} {t : Text} {ps : List Text} (h : Lists s t ps) : ps ≠ [] := by
  cases h <;> simp

lemma Lists.join {s : Context} {t : Text} {ps : List Text} (h : Lists s t ps) :
    Text.join [','] ps = t := by
  induction h with
  | last => rfl
  | next _ _ hb ih => rw [Text.join_cons _ _ hb.ne_nil, ih]; rfl

lemma Lists.uncut {s : Context} {t : Text} {ps : List Text} (h : Lists s t ps) (hs : s = .outer) :
    ∀ p ∈ ps, true ∉ marks .outer p := by
  induction h with
  | last ht => simpa [← hs] using ht
  | next ha _ _ ih =>
    rintro p (_ | ⟨_, hp⟩)
    · exact hs ▸ ha
    · exact ih rfl p hp

lemma pieces_ne_nil (s : Context) (t : Text) : pieces s t ≠ [] := (lists_pieces s t).ne_nil

lemma join_pieces (s : Context) (t : Text) : Text.join [','] (pieces s t) = t :=
  (lists_pieces s t).join

lemma length_pieces {t : Text} (h : ',' ∉ t) (s : Context) : (pieces s t).length = 1 := by
  have hlists := lists_pieces s t
  generalize pieces s t = ps at hlists
  cases hlists with
  | last => rfl
  | next => simp at h

/-- **A list is split at a comma that is met with nothing open.** -/
lemma pieces_append_comma {s : Context} {a : Text} (h : s.run a = .outer) (b : Text) :
    pieces s (a ++ ',' :: b) = pieces s a ++ pieces .outer b := by
  induction a generalizing s with
  | nil =>
    obtain rfl : s = .outer := h
    rfl
  | cons c a ih =>
    rw [List.cons_append, pieces, pieces]
    split_ifs with hc
    · rw [Context.run_cons, Context.step_of_separates hc] at h
      rw [ih h, List.cons_append]
    · obtain ⟨p, ps, hp⟩ := List.exists_cons_of_ne_nil (pieces_ne_nil (s.step c) a)
      rw [ih h, hp]
      rfl

lemma split_append_comma {a : Text} (h : Context.outer.run a = .outer) (b : Text) :
    split (a ++ ',' :: b) = split a ++ split b := by
  rw [split, pieces_append_comma h, List.map_append, List.filter_append]
  rfl

lemma split_eq_tidy (t : Text) : split t = tidy (pieces .outer t) := rfl

@[simp] lemma split_nil : split [] = [] := rfl

lemma split_blank_append {u : Text} (hu : Blank u) (t : Text) : split (u ++ t) = split t := by
  induction u with
  | nil => rfl
  | cons c u ih =>
    have hc : isBlank c = true := hu c (by simp)
    have hstep : Context.outer.step c = .outer :=
      Context.run_outer_of_blank (u := [c]) (by simpa [Blank] using hc)
    have hsep : Context.outer.separates c = false :=
      separates_of_not_isSign (not_isSign_of (p := isBlank) (by decide) hc).1
    obtain ⟨p, ps, hp⟩ := List.exists_cons_of_ne_nil (pieces_ne_nil .outer (u ++ t))
    have htrim : Text.trim (c :: p) = Text.trim p := by simp [Text.trim, Text.trimStart, hc]
    have hcons : split (c :: (u ++ t)) = split (u ++ t) := by
      rw [split_eq_tidy, split_eq_tidy, pieces, hsep, hstep, hp]
      simp [Text.tidy_cons, htrim]
    rw [List.cons_append, hcons]
    exact ih fun d hd => hu d (by simp [hd])

/-! ### Trimming a piece -/

lemma uncut_trim {p : Text} (h : true ∉ marks .outer p) : true ∉ marks .outer (Text.trim p) := by
  obtain ⟨before, after, hp, hb, -⟩ := Text.exists_trim p
  intro hmem
  apply h
  rw [hp, marks_append, Context.run_outer_of_blank hb, marks_append]
  simp [hmem]

lemma run_trim {p : Text} (h : Context.outer.run p = .outer)
    (hesc : (Context.outer.run (Text.trim p)).escaped = false) :
    Context.outer.run (Text.trim p) = .outer := by
  obtain ⟨before, after, hp, hb, ha⟩ := Text.exists_trim p
  have hshown := Context.quoteShown_outer.run (Text.trim p)
  rw [hp, Context.run_append, Context.run_outer_of_blank hb, Context.run_append,
    hshown.run_of_blank hesc ha] at h
  exact h

lemma Lists.exists_of_mem_dropLast {s : Context} {t : Text} {ps : List Text} (h : Lists s t ps)
    (hs : s = .outer) {x : Text} (hx : x ∈ (tidy ps).dropLast) :
    ∃ p, x = Text.trim p ∧ Context.outer.run p = .outer := by
  induction h with
  | last =>
    rw [Text.tidy_cons] at hx
    split_ifs at hx <;> simp [tidy] at hx
  | @next s a b ps ha hrun hb ih =>
    rw [Text.tidy_cons] at hx
    split_ifs at hx
    · exact ih rfl hx
    · by_cases hnil : tidy ps = []
      · simp [hnil] at hx
      · rw [List.dropLast_cons_of_ne_nil hnil] at hx
        rcases List.mem_cons.mp hx with rfl | hx
        · exact ⟨a, rfl, hs ▸ hrun⟩
        · exact ih rfl hx

end SelectorList
end StyleScope
