import StyleScope.Proofs.Scope.Rewriting
import StyleScope.Proofs.Selector.Lookahead
import StyleScope.Proofs.Token.Moving

/-!
Qualifying `html`.

Putting a class behind every `html` of a selector changes no other component: what stands before
an `html` sees no further than its first two characters, and what stands behind it cannot go on
with a name, so it ends the class where it ended `html`. The components of the qualified selector
are those of the selector, with the class behind each `html`.
-/

namespace StyleScope

namespace Component

open Text (Agree)

/-! ### Names -/

lemma isIdentChar_ne_backslash {c : Char} (h : isIdentChar c = true) : c ≠ '\\' := by
  rintro rfl
  exact absurd h (by decide)

lemma identLength_append {name rest : Text} (hname : ∀ c ∈ name, isIdentChar c = true)
    (hrest : identLength rest = 0) : identLength (name ++ rest) = name.length := by
  induction name with
  | nil => exact hrest
  | cons c name ih =>
    have hc : isIdentChar c = true := hname c (by simp)
    rw [List.cons_append, identLength_cons (isIdentChar_ne_backslash hc), if_pos hc,
      ih fun d hd => hname d (by simp [hd]), List.length_cons]

lemma identLength_drop_identLength (t : Text) : identLength (t.drop (identLength t)) = 0 := by
  induction t using Text.escapeInduction with
  | nil => rfl
  | lone => rfl
  | escape c t ih => simpa [identLength] using ih
  | cons c t hc ih =>
    by_cases hident : isIdentChar c = true
    · simpa [identLength_cons hc, hident] using ih
    · simp [identLength_cons hc, hident]

lemma identLength_drop_nameAt {t : Text} (h : (nameAt t).1 = .typeName) :
    identLength (t.drop ((nameAt t).2 + 1)) = 0 := by
  have hend := identLength_drop_identLength
  unfold nameAt at h ⊢
  split_ifs at h ⊢ with hzero hbar hstar
  · simpa [Nat.sub_add_cancel (Nat.pos_of_ne_zero hzero)] using hend t
  · have hdrop := hend (t.drop (identLength t)).tail
    rw [List.tail_drop, List.drop_drop] at hdrop
    simpa [List.tail_drop, Nat.add_right_comm] using hdrop

lemma classify_h (rest : Text) : classify 'h' rest = nameAt ('h' :: rest) := by
  rw [classify_other (by decide), if_neg (by decide), if_neg (by simp [combinatorLength]),
    if_neg (by simp)]

lemma nameAt_ne_combinator (t : Text) : (nameAt t).1 ≠ .combinator := by
  intro h
  have hkind := nameAt_kind t
  simp [h] at hkind

lemma classifyAt_h (offset : Nat) (rest : Text) :
    classifyAt offset 'h' rest = nameAt ('h' :: rest) := by
  rw [classifyAt_of_ne (by rw [classify_h]; exact nameAt_ne_combinator _), classify_h]

lemma tile_html {name rest : Text} (hname : ∀ c ∈ name, isIdentChar c = true)
    (hrest : identLength rest = 0) (offset : Nat) :
    tile classifyAt offset ("html".toList ++ ('.' :: name ++ rest)) =
      ⟨.typeName, offset, "html".toList⟩ :: ⟨.className, offset + 4, '.' :: name⟩ ::
        tile classifyAt (offset + 4 + Text.size ('.' :: name)) rest := by
  have hdot : identLength ('.' :: (name ++ rest)) = 0 := by simp [identLength_cons, isIdentChar]
  have hhtml : identLength ("html".toList ++ '.' :: (name ++ rest)) = 4 :=
    identLength_append (List.all_eq_true.mp (by decide)) hdot
  have hrule : classifyAt offset 'h' ("tml".toList ++ ('.' :: name ++ rest)) = (.typeName, 3) := by
    rw [classifyAt_h]
    change nameAt ("html".toList ++ '.' :: (name ++ rest)) = _
    rw [nameAt, hhtml]
    simp [barLength]
  have hclass : classifyAt (offset + 4) '.' (name ++ rest) = (.className, name.length) := by
    rw [classifyAt_of_ne (by simp [classify]), classify, identLength_append hname hrest]
  have hfirst : tile classifyAt offset ('h' :: "tml".toList ++ ('.' :: name ++ rest)) = _ :=
    tile_append_of (by rw [hrule]; rfl)
  have hsecond : tile classifyAt (offset + 4) ('.' :: name ++ rest) = _ :=
    tile_append_of (by rw [hclass]; exact List.take_left)
  rw [hrule] at hfirst
  rw [hclass] at hsecond
  exact hfirst.trans (congrArg _ hsecond)

/-! ### Qualified components -/

def IsHtml (c : Component) : Prop := c.kind = .typeName ∧ c.text = "html".toList

instance (c : Component) : Decidable c.IsHtml := instDecidableAnd

lemma isTypeNamed_html {c : Component} : isTypeNamed "html".toList c = true ↔ c.IsHtml := by
  simp [isTypeNamed, IsHtml]

/-- The components with a class put behind every `html`. -/
def qualified (cls : Text) (cs : List Component) : List Component :=
  cs.flatMap fun c => if c.IsHtml then [c, ⟨.className, c.stop, cls⟩] else [c]

lemma qualified_cons_of_isHtml {c : Component} (h : c.IsHtml) (cls : Text) (cs : List Component) :
    qualified cls (c :: cs) = c :: ⟨.className, c.stop, cls⟩ :: qualified cls cs := by
  simp [qualified, h]

lemma qualified_cons_of_not_isHtml {c : Component} (h : ¬ c.IsHtml) (cls : Text)
    (cs : List Component) : qualified cls (c :: cs) = c :: qualified cls cs := by
  simp [qualified, h]

lemma textOf_qualified (cls : Text) (cs : List Component) :
    Piece.textOf (qualified cls cs) =
      cs.flatMap fun c => if isTypeNamed "html".toList c then c.text ++ cls else c.text := by
  induction cs with
  | nil => rfl
  | cons c cs ih =>
    rw [List.flatMap_cons, ← ih]
    by_cases h : c.IsHtml
    · rw [qualified_cons_of_isHtml h, if_pos (isTypeNamed_html.mpr h), Piece.textOf_cons,
        Piece.textOf_cons, List.append_assoc]
    · rw [qualified_cons_of_not_isHtml h, if_neg (mt isTypeNamed_html.mp h), Piece.textOf_cons]

lemma agree_qualified (cls : Text) (offset : Nat) (t : Text) :
    Agree 2 t (Piece.textOf (qualified cls (tile classifyAt offset t))) := by
  fun_induction tile classifyAt offset t with
  | case1 => rfl
  | case2 offset c rest text ih =>
    by_cases h : IsHtml ⟨(classifyAt offset c rest).1, offset, text⟩
    · have htext : text = "html".toList := h.2
      have hrest : c :: rest = text ++ rest.drop (classifyAt offset c rest).2 := by
        simp [text]
      rw [qualified_cons_of_isHtml h, Piece.textOf_cons, hrest, htext]
      exact rfl
    · rw [qualified_cons_of_not_isHtml h, Piece.textOf_cons]
      exact (Agree.take_append ih).cons_cons.mono (by omega)

lemma IsHtml.identLength_drop {offset start : Nat} {c : Char} {rest : Text}
    (h : IsHtml ⟨(classifyAt offset c rest).1, start,
      c :: rest.take (classifyAt offset c rest).2⟩) :
    identLength (rest.drop (classifyAt offset c rest).2) = 0 := by
  obtain ⟨hkind, htext⟩ := h
  obtain rfl : c = 'h' := (List.cons.inj htext).1
  rw [classifyAt_h] at hkind ⊢
  exact identLength_drop_nameAt hkind

/-- **The components of a qualified text are the qualified components.** -/
theorem tile_qualified {name : Text} (hname : ∀ c ∈ name, isIdentChar c = true)
    {offset offset' : Nat} (ho : offset' = 0 ↔ offset = 0) (t : Text) :
    tile classifyAt offset' (Piece.textOf (qualified ('.' :: name) (tile classifyAt offset t))) =
      Piece.lay offset' (qualified ('.' :: name) (tile classifyAt offset t)) := by
  fun_induction tile classifyAt offset t generalizing offset' with
  | case1 => simp [qualified, Piece.lay]
  | case2 offset c rest text =>
    rename_i ih
    have hsize : 0 < text.size := by
      have hpos := Char.utf8Size_pos c
      rw [Text.size_cons]
      omega
    have hagree := agree_qualified ('.' :: name) (offset + text.size)
      (rest.drop (classifyAt offset c rest).2)
    generalize tile classifyAt (offset + text.size) (rest.drop (classifyAt offset c rest).2) = ps
      at ih hagree ⊢
    by_cases h : IsHtml ⟨(classifyAt offset c rest).1, offset, text⟩
    · -- what follows cannot go on with a name, so the class ends where it was put
      have hend : identLength (Piece.textOf (qualified ('.' :: name) ps)) = 0 := by
        have hzero := h.identLength_drop
        rw [looksAhead_identLength _ _ (hagree.mono (by omega)), hzero]
      rw [qualified_cons_of_isHtml h]
      obtain ⟨hkind, htext⟩ := h
      dsimp only at hkind htext
      simp only [Piece.textOf_cons, Piece.lay, hkind, htext]
      rw [tile_html hname hend, ih (by omega)]
      rfl
    · -- what this component sees behind it has not changed
      have hcut := Agree.take_append hagree
      have hrule : classifyAt offset' c (rest.take (classifyAt offset c rest).2 ++
          Piece.textOf (qualified ('.' :: name) ps)) = classifyAt offset c rest :=
        classifyAt_congr ho hcut
      rw [qualified_cons_of_not_isHtml h, Piece.textOf_cons, Piece.lay, tile_append_of, hrule, ih]
      · change offset' + text.size = 0 ↔ offset + text.size = 0
        omega
      · rw [hrule]
        exact (hcut.mono (by omega)).symm

end Component

namespace ScopePolicy

open Component (isIdentChar qualified)

lemma trim_class {name : Text} (hname : ∀ c ∈ name, isIdentChar c = true) :
    ∃ kept, Text.trim ('.' :: name) = '.' :: kept ∧ ∀ c ∈ kept, isIdentChar c = true := by
  have hdot : isBlank '.' = false := by decide
  obtain ⟨dropped, happ, -⟩ := exists_dropTailWhile_append isBlank name
  refine ⟨dropTailWhile isBlank name, ?_, fun c hc => hname c ?_⟩
  · simp [Text.trim, Text.trimStart, Text.trimEnd, dropTailWhile_cons, hdot]
  · rw [happ]
    exact List.mem_append_left dropped hc

lemma comma_notMem_class {name : Text} (hname : ∀ c ∈ name, isIdentChar c = true) :
    ',' ∉ '.' :: name := by
  rw [List.mem_cons, not_or]
  exact ⟨by decide, fun hmem => absurd (hname ',' hmem) (by decide)⟩

/-- **A class qualifies `html` and nothing else.** A selector without the type `html` is not
qualified. The components of a qualified selector are those of the selector in their order, each
with its kind and text, and behind every `html` stands the trimmed namespace as a class. -/
theorem qualifyHtml?_class (selector name : Text) (hname : ∀ c ∈ name, isIdentChar c = true) :
    (qualifyHtml? selector ('.' :: name) = none ↔
      ∀ c ∈ Component.split selector, ¬ c.IsHtml) ∧
    ∀ result ∈ qualifyHtml? selector ('.' :: name), Component.split result =
      Piece.lay 0 (qualified (Text.trim ('.' :: name)) (Component.split selector)) := by
  have hqualify : qualifyHtml? selector ('.' :: name) =
      if (Component.split selector).any (Component.isTypeNamed "html".toList) then
        some (Piece.textOf (qualified (Text.trim ('.' :: name)) (Component.split selector)))
      else none := by
    rw [qualifyHtml?, variants_of_notMem (comma_notMem_class hname), Component.textOf_qualified]
  rw [hqualify]
  constructor
  · simp only [← Component.isTypeNamed_html]
    simp
  · intro result hresult
    split_ifs at hresult with hany
    · obtain ⟨kept, htrim, hkept⟩ := trim_class hname
      obtain rfl := Option.some.inj hresult
      rw [htrim]
      exact Component.tile_qualified hkept Iff.rfl selector
    · simp at hresult

/-- A bar begins a combinator behind `html` and behind the class, and a no-break space
at the end of the class is trimmed. -/
theorem qualifyHtml?_class_combinator :
    (∀ c ∈ "ns-é\u00a0".toList, isIdentChar c = true) ∧
      qualifyHtml? "html||html:not(html)".toList ".ns-é\u00a0".toList =
        some "html.ns-é||html.ns-é:not(html)".toList ∧
      Component.split "html.ns-é||html.ns-é:not(html)".toList =
        Piece.lay 0 (qualified (Text.trim ".ns-é\u00a0".toList)
          (Component.split "html||html:not(html)".toList)) := by
  have hresult : qualifyHtml? "html||html:not(html)".toList ".ns-é\u00a0".toList =
      some "html.ns-é||html.ns-é:not(html)".toList := by decide +kernel
  have hname : ∀ c ∈ "ns-é\u00a0".toList, isIdentChar c = true :=
    List.all_eq_true.mp (by decide)
  exact ⟨hname, hresult, (qualifyHtml?_class _ _ hname).2 _ hresult⟩

end ScopePolicy
end StyleScope
