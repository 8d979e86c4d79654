import StyleScope.Proofs.Text.Replace
import StyleScope.Proofs.Text.Split

/-!
The text between the occurrences of a token.

The occurrences of a token are found from the left without overlap, and the text between them is
kept. Replacing the token joins what is kept by the replacement. No occurrence can form across a
seam when the replacement begins with a character that the token does not have and nowhere has
the character that the token begins with.
-/

namespace StyleScope.Text

variable {p t : Text}

lemma occursIn_iff : occursIn p t = true ↔ p <:+: t := by
  induction t with
  | nil => simp [occursIn]
  | cons c t ih =>
    rw [occursIn, Bool.or_eq_true, ih, List.isPrefixOf_iff_prefix, List.infix_cons_iff]

/-- The texts between the leftmost occurrences of a token that do not overlap. -/
inductive Gaps (p : Text) : Text → List Text → Prop
  | last {u : Text} : ¬ p <:+: u → Gaps p u [u]
  | next {u rest : Text} {us : List Text} :
      (∀ a b, u ++ (p ++ rest) = a ++ (p ++ b) → u.length ≤ a.length) → Gaps p rest us →
      Gaps p (u ++ (p ++ rest)) (u :: us)

namespace Gaps

variable {u : Text} {us vs : List Text}

lemma ne_nil (h : Gaps p t us) : us ≠ [] := by
  cases h <;> simp

lemma two_le_length (h : Gaps p t us) (hp : p <:+: t) : 2 ≤ us.length := by
  cases h with
  | last hu => exact absurd hp hu
  | next _ hrest =>
    have hpos := List.length_pos_iff.mpr hrest.ne_nil
    simp only [List.length_cons]
    omega

lemma cons {c : Char} (hc : ¬ p <+: c :: t) (h : Gaps p t (u :: us)) :
    Gaps p (c :: t) ((c :: u) :: us) := by
  cases h with
  | last hu =>
    refine .last fun hinfix => ?_
    exact (List.infix_cons_iff.mp hinfix).elim hc hu
  | @next _ rest _ hleft hrest =>
    refine Gaps.next (u := c :: u) (fun a b hab => ?_) hrest
    cases a with
    | nil => exact absurd ⟨b, hab.symm⟩ hc
    | cons d a =>
      have hle := hleft a b (List.cons.inj hab).2
      simp only [List.length_cons]
      omega

lemma unique (h : Gaps p t us) (h' : Gaps p t vs) : us = vs := by
  induction h generalizing vs with
  | @last u hu =>
    generalize ht : u = t at h'
    cases h' with
    | last => rfl
    | next _ _ => exact absurd ⟨_, _, by rw [ht, List.append_assoc]⟩ hu
  | @next u rest us hleft hrest ih =>
    generalize ht : u ++ (p ++ rest) = t at h'
    cases h' with
    | last hu => exact absurd ⟨u, rest, by rw [← ht, List.append_assoc]⟩ hu
    | @next v rest' vs hleft' hrest' =>
      have hlen : u.length = v.length := by
        have h1 := hleft v rest' ht
        have h2 := hleft' u rest ht.symm
        omega
      obtain ⟨rfl, hrests⟩ := List.append_inj ht hlen
      obtain rfl := List.append_cancel_left hrests
      rw [ih hrest']

lemma not_infix_of_leftmost {rest : Text} (hp : p ≠ [])
    (h : ∀ a b, u ++ (p ++ rest) = a ++ (p ++ b) → u.length ≤ a.length) : ¬ p <:+: u := by
  rintro ⟨a, b, rfl⟩
  have hle := h a (b ++ (p ++ rest)) (by simp)
  have hpos := List.length_pos_iff.mpr hp
  simp only [List.length_append] at hle
  omega

/-- **A replacement brings no new occurrence of the token.** -/
lemma not_infix_join (h : Gaps p t us) {d : Char} {p' : Text} (hp : p = d :: p') {c : Char}
    {r : Text} (hc : c ∉ p) (hd : d ∉ c :: r) : ¬ p <:+: join (c :: r) us := by
  induction h with
  | last hu => exact hu
  | @next u rest us hleft hrest ih =>
    have hu : ¬ p <:+: u := not_infix_of_leftmost (by simp [hp]) hleft
    rw [join_cons _ _ hrest.ne_nil]
    intro hinfix
    rcases List.infix_append_iff_ne_nil.mp hinfix with hin | hin | ⟨a, b, -, hb, hab, -, hpre⟩
    · exact hu hin
    · -- past the kept text, an occurrence begins in the replacement or behind it
      rcases List.infix_append_iff_ne_nil.mp hin with hin | hin | ⟨a, b, ha, -, hab, hsuf, -⟩
      · exact hd (hin.subset (by simp [hp]))
      · exact ih hin
      · obtain ⟨e, a, rfl⟩ := List.exists_cons_of_ne_nil ha
        obtain rfl : d = e := (List.cons.inj (hp.symm.trans hab)).1
        exact hd (hsuf.subset (by simp))
    · -- across the first seam it has the first character of the replacement
      obtain ⟨e, b, rfl⟩ := List.exists_cons_of_ne_nil hb
      obtain ⟨tail, htail⟩ := hpre
      obtain rfl : e = c := (List.cons.inj htail).1
      exact hc (by simp [hab])

end Gaps

/-- **Replacing a token joins the text between its occurrences.** -/
lemma exists_gaps (hp : p ≠ []) (t : Text) :
    ∃ us, Gaps p t us ∧ ∀ r, replaceFrom p r 0 t = join r us := by
  induction hn : t.length using Nat.strongRecOn generalizing t with
  | _ n ih =>
    rcases t with _ | ⟨c, t⟩
    · exact ⟨[[]], .last (by simpa using hp), fun r => rfl⟩
    by_cases hprefix : p <+: c :: t
    · obtain ⟨rest, hrest⟩ := hprefix
      have hlen : rest.length < n := by
        have hpos := List.length_pos_iff.mpr hp
        have happ := congrArg List.length hrest
        rw [List.length_append] at happ
        omega
      obtain ⟨us, hus, hjoin⟩ := ih rest.length hlen rest rfl
      rw [← hrest]
      refine ⟨[] :: us, Gaps.next (u := []) (by simp) hus, fun r => ?_⟩
      rw [replaceFrom_append hp, join_cons _ _ hus.ne_nil, hjoin r]
      rfl
    · obtain ⟨us, hus, hjoin⟩ := ih t.length (by rw [← hn]; simp) t rfl
      obtain ⟨u, us, rfl⟩ := List.exists_cons_of_ne_nil hus.ne_nil
      refine ⟨(c :: u) :: us, hus.cons hprefix, fun r => ?_⟩
      rw [replaceFrom, if_neg (by simpa [List.isPrefixOf_iff_prefix] using hprefix), hjoin r]
      exact cons_join c r u us

end StyleScope.Text
