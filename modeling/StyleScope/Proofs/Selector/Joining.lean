import StyleScope.Proofs.Selector.Pieces

/-!
Selector lists written from their selectors.

A list is split at a comma into the lists on both sides exactly when what stands before the comma
leaves nothing open. So selectors joined by a comma and blanks are found again exactly when no
selector but the last leaves something open, for only then does each of the commas separate. The
selectors of a list leave nothing open but an escape: trimming takes an escaped blank away from
its backslash, which then escapes the comma that is put behind it.
-/

namespace StyleScope.SelectorList

open Text (Blank)

lemma pieces_of_uncut {t : Text} (h : true ∉ marks .outer t) : pieces .outer t = [t] := by
  have hlists := lists_pieces .outer t
  generalize hps : pieces .outer t = ps at hlists
  cases hlists with
  | last => rfl
  | next _ hrun _ => exact absurd (mem_marks_append_comma hrun _) h

/-- A selector as it stands in a list: trimmed, not empty, and without a comma that separates. -/
structure IsItem (x : Text) : Prop where
  trimmed : Text.trim x = x
  ne_nil : x ≠ []
  uncut : true ∉ marks .outer x

namespace IsItem

variable {x : Text}

lemma not_blank (h : IsItem x) : ¬ Blank x := by
  rw [← Text.trim_eq_nil, h.trimmed]
  exact h.ne_nil

lemma split (h : IsItem x) : split x = [x] := by
  rw [split_eq_tidy, pieces_of_uncut h.uncut, Text.tidy_cons_of_not_blank h.not_blank, h.trimmed]
  rfl

end IsItem

lemma isItem_of_mem_split {t x : Text} (h : x ∈ split t) : IsItem x := by
  obtain ⟨hmem, hne⟩ := List.mem_filter.mp h
  obtain ⟨p, hp, rfl⟩ := List.mem_map.mp hmem
  exact ⟨Text.trim_trim p, by simpa using hne, uncut_trim ((lists_pieces .outer t).uncut rfl p hp)⟩

lemma isItem_iff {x : Text} : IsItem x ↔ split x = [x] :=
  ⟨IsItem.split, fun h => isItem_of_mem_split (t := x) (by rw [h]; simp)⟩

instance (x : Text) : Decidable (IsItem x) := decidable_of_iff _ isItem_iff.symm

/-! ### Commas that something open hides -/

lemma exists_pieces_of_open {a : Text} (huncut : true ∉ marks .outer a)
    (hopen : Context.outer.run a ≠ .outer) (b : Text) :
    ∃ z ps, pieces .outer (a ++ ',' :: b) = (a ++ ',' :: z) :: ps := by
  have hlists := lists_pieces .outer (a ++ ',' :: b)
  generalize hps : pieces .outer (a ++ ',' :: b) = ps at hlists
  generalize ht : a ++ ',' :: b = t at hlists
  cases hlists with
  | last => exact ⟨b, [], by rw [ht]⟩
  | @next _ first rest ps _ hrun _ =>
    rcases List.append_eq_append_iff.mp ht with ⟨z, rfl, hz⟩ | ⟨z, rfl, hz⟩
    · rcases z with _ | ⟨c, z⟩
      · rw [List.append_nil] at hrun
        exact absurd hrun hopen
      · obtain rfl : ',' = c := (List.cons.inj hz).1
        exact ⟨z, ps, rfl⟩
    · rcases z with _ | ⟨c, z⟩
      · rw [List.append_nil] at hopen
        exact absurd hrun hopen
      · obtain rfl : ',' = c := (List.cons.inj hz).1
        exact absurd (mem_marks_append_comma hrun z) huncut

lemma split_ne_of_open {a : Text} (huncut : true ∉ marks .outer a)
    (hopen : Context.outer.run a ≠ .outer) (b : Text) (items : List Text) :
    split (a ++ ',' :: b) ≠ Text.trim a :: items := by
  obtain ⟨z, ps, hpieces⟩ := exists_pieces_of_open huncut hopen b
  have hnot : ¬ Blank a := fun hblank => hopen (Context.run_outer_of_blank hblank)
  rw [split_eq_tidy, hpieces, Text.tidy_cons_of_not_blank (Text.not_blank_append hnot _)]
  intro heq
  exact Text.trim_append_ne hnot (by decide) z (List.cons.inj heq).1

/-- What is open at the end of a list is open in its last piece, and hides a comma there. -/
lemma Lists.split_append_ne {s : Context} {a : Text} {ps : List Text} (h : Lists s a ps)
    (hs : s = .outer) (hopen : s.run a ≠ .outer) (b : Text) :
    split (a ++ ',' :: b) ≠ split a ++ split b := by
  induction h with
  | @last s a huncut =>
    subst hs
    have hnot : ¬ Blank a := fun hblank => hopen (Context.run_outer_of_blank hblank)
    have hsplit : split a = [Text.trim a] := by
      rw [split_eq_tidy, pieces_of_uncut huncut, Text.tidy_cons_of_not_blank hnot]
      rfl
    rw [hsplit]
    exact split_ne_of_open huncut hopen b (split b)
  | @next s first rest ps _ hrun _ ih =>
    subst hs
    have hrest : Context.outer.run rest ≠ .outer := by
      rwa [Context.run_append, hrun, Context.run_cons] at hopen
    rw [List.append_assoc, List.cons_append, split_append_comma hrun, split_append_comma hrun,
      List.append_assoc]
    exact fun heq => ih rfl hrest (List.append_cancel_left heq)

/-- **Selector lists put together.** A list is the lists on both sides of a comma exactly when
nothing is open before the comma: no bracket, no quote and no escape. Its selectors are not empty,
have no blank at either end, and are lists of one. -/
theorem split_composes (a b t : Text) :
    (split (a ++ ',' :: b) = split a ++ split b ↔ Context.outer.run a = .outer) ∧
      ∀ x ∈ split t, x ≠ [] ∧ Text.Tight x ∧ split x = [x] := by
  refine ⟨⟨fun heq => ?_, fun hrun => split_append_comma hrun b⟩, fun x hx => ?_⟩
  · by_contra hopen
    exact (lists_pieces .outer a).split_append_ne rfl hopen b heq
  · have hitem := isItem_of_mem_split hx
    exact ⟨hitem.ne_nil, hitem.trimmed ▸ Text.tight_trim x, hitem.split⟩

/-! ### Selectors joined -/

/-- **When selectors are found again in the list written from them**: exactly when no selector but
the last leaves something open. -/
theorem split_join_iff {blanks : Text} (hb : Blank blanks) {items : List Text}
    (h : ∀ x ∈ items, IsItem x) :
    split (Text.join (',' :: blanks) items) = items ↔
      ∀ x ∈ items.dropLast, Context.outer.run x = .outer := by
  induction items with
  | nil => simp [Text.join]
  | cons x items ih =>
    have hx := h x (by simp)
    by_cases hnil : items = []
    · subst hnil
      simpa [Text.join] using hx.split
    · rw [Text.join_cons _ _ hnil, List.dropLast_cons_of_ne_nil hnil, List.forall_mem_cons,
        List.cons_append]
      by_cases hrun : Context.outer.run x = .outer
      · rw [split_append_comma hrun, split_blank_append hb, hx.split, List.singleton_append,
          List.cons.injEq, ih fun y hy => h y (by simp [hy])]
        simp [hrun]
      · have hne := split_ne_of_open hx.uncut hrun (blanks ++ Text.join (',' :: blanks) items) items
        rw [hx.trimmed] at hne
        simp [hrun, hne]

/-- **When a list is the same after its selectors are written anew**: exactly when none of them
but the last ends in a backslash that has lost the blank it escaped. -/
theorem split_join_split_iff (t : Text) :
    split (Text.join [',', ' '] (split t)) = split t ↔
      ∀ x ∈ (split t).dropLast, (Context.outer.run x).escaped = false := by
  rw [@split_join_iff [' '] (by decide) (split t) fun x hx => isItem_of_mem_split hx]
  refine forall₂_congr fun x hx => ⟨fun hrun => by rw [hrun]; rfl, fun hesc => ?_⟩
  obtain ⟨p, rfl, hp⟩ := (lists_pieces .outer t).exists_of_mem_dropLast rfl hx
  exact run_trim hp hesc

/-- Two selectors become one when the blank at the end of the first is escaped. -/
theorem split_join_split_ne_of_escaped_blank :
    split ".a\\ , .b".toList = [".a\\".toList, ".b".toList] ∧
      split (Text.join [',', ' '] (split ".a\\ , .b".toList)) = [".a\\, .b".toList] := by
  decide

end StyleScope.SelectorList
