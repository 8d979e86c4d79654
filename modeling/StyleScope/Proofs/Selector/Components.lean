import StyleScope.Proofs.Selector.Lookahead
import StyleScope.Proofs.SourceMap.Cover
import StyleScope.Proofs.Text.Trim
import StyleScope.Proofs.Token.Partition

/-!
The components of a selector.

Every component takes the character it begins with, and as many behind it as the rule says. These
are always there: no name, argument, comment or run of spaces is measured past the end of the
text, whatever is left open in it. So the components lie side by side over the whole selector.
White space is told by its place alone: a run of spaces is no combinator at either end of the
selector and before a comma.
-/

namespace StyleScope

namespace Piece

variable {κ : Type}

lemma tiles_of_adjacent {offset : Nat} {ps : List (Piece κ)} (h : Adjacent offset ps)
    (hne : ∀ p ∈ ps, p.text ≠ []) :
    Span.Tiles offset (ps.map span) (offset + (textOf ps).size) := by
  induction ps generalizing offset with
  | nil => rfl
  | cons p ps ih =>
    obtain ⟨rfl, h⟩ := h
    have hsize : p.text.size ≠ 0 := mt Text.size_eq_zero.mp (hne p (by simp))
    have hrest := ih h fun q hq => hne q (by simp [hq])
    rw [stop, Nat.add_assoc, ← Text.size_append, ← textOf_cons] at hrest
    exact ⟨rfl, by simp only [span, stop]; omega, hrest⟩

lemma length_le_of_ne_nil {ps : List (Piece κ)} (hne : ∀ p ∈ ps, p.text ≠ []) :
    ps.length ≤ (textOf ps).length := by
  induction ps with
  | nil => rfl
  | cons p ps ih =>
    have hpos := List.length_pos_iff.mpr (hne p (by simp))
    have hrest := ih fun q hq => hne q (by simp [hq])
    rw [textOf_cons, List.length_append, List.length_cons]
    omega

lemma textOf_eq_nil {ps : List (Piece κ)} (hne : ∀ p ∈ ps, p.text ≠ []) :
    textOf ps = [] ↔ ps = [] := by
  refine ⟨fun h => ?_, fun h => h ▸ rfl⟩
  have hlength := length_le_of_ne_nil hne
  rw [h] at hlength
  exact List.length_eq_zero_iff.mp (Nat.le_zero.mp hlength)

/-- The piece is what a rule takes at its place, with a text behind it: the character that it begins
with, and as many more as the rule says. -/
def CutBy (rule : Nat → Char → Text → κ × Nat) (p : Piece κ) (behind : Text) : Prop :=
  ∃ c cs, p.text = c :: cs ∧ rule p.start c (cs ++ behind) = (p.kind, cs.length)

lemma cutBy_of_tile {rule : Nat → Char → Text → κ × Nat}
    (hle : ∀ offset c rest, (rule offset c rest).2 ≤ rest.length) {offset : Nat} {t : Text}
    {as bs : List (Piece κ)} {p : Piece κ} (h : tile rule offset t = as ++ p :: bs) :
    p.CutBy rule (textOf bs) := by
  fun_induction tile rule offset t generalizing as with
  | case1 => simp at h
  | case2 offset c rest text =>
    rename_i ih
    cases as with
    | nil =>
      obtain ⟨rfl, rfl⟩ := List.cons.inj h
      refine ⟨c, rest.take (rule offset c rest).2, rfl, ?_⟩
      rw [textOf_tile, List.take_append_drop, List.length_take_of_le (hle offset c rest)]
    | cons q as => exact ih (List.cons.inj h).2

end Piece

namespace Component

open Text (Blank)
open Token (isSpace isBlank_of_isSpace runLength runLength_le runLength_append commentLength_le)

/-! ### Nothing is measured past the end -/

lemma identLength_le (t : Text) : identLength t ≤ t.length := by
  induction t using Text.escapeInduction with
  | nil => rfl
  | lone => rfl
  | escape c t ih => simpa [identLength] using ih
  | cons c t hc ih =>
    rw [identLength_cons hc]
    split_ifs
    · simpa using ih
    · exact Nat.zero_le _

lemma balancedLength_le (opener closer : Char) (depth : Nat) (quote : Option Char) (t : Text) :
    balancedLength opener closer depth quote t ≤ t.length := by
  induction t using Text.escapeInduction generalizing depth quote with
  | nil => simp [balancedLength]
  | lone => simp [balancedLength]
  | escape c t ih => simpa [balancedLength] using ih depth quote
  | cons c t hc ih =>
    rcases balancedLength_cons hc opener closer depth quote with hend | ⟨depth', quote', hgo⟩
    · simp [hend]
    · simpa [hgo] using ih depth' quote'

lemma combinatorLength_le (t : Text) : combinatorLength t ≤ t.length := by
  unfold combinatorLength
  split
  all_goals simp [runLength_le]

lemma argumentLength_le (t : Text) : argumentLength t ≤ t.length := by
  unfold argumentLength
  split
  · exact balancedLength_le _ _ _ _ _
  · exact Nat.zero_le _

lemma functionLength_le (t : Text) : functionLength t ≤ t.length := by
  have hname := identLength_le t
  have hargument := argumentLength_le (t.drop (identLength t))
  rw [List.length_drop] at hargument
  rw [functionLength]
  omega

lemma exists_of_barLength_ne_zero {t : Text} (h : barLength t ≠ 0) : ∃ name, t = '|' :: name := by
  rw [barLength_eq] at h
  split_ifs at h with hbar
  · exact List.head?_eq_some_iff.mp hbar.1
  · contradiction

lemma universalLength_le (t : Text) : universalLength t ≤ t.length := by
  rw [universalLength]
  split_ifs with hbar
  · exact Nat.zero_le _
  · obtain ⟨name, rfl⟩ := exists_of_barLength_ne_zero hbar
    have hname := identLength_le name
    simp only [List.drop_one, List.tail_cons]
    split
    · simp
    · simpa using hname

lemma nameAt_lt {t : Text} (h : t ≠ []) : (nameAt t).2 < t.length := by
  have hpos := List.length_pos_iff.mpr h
  have hname := identLength_le t
  have hlength : (t.drop (identLength t)).length = t.length - identLength t := List.length_drop
  unfold nameAt
  split_ifs with hzero hbar hstar
  · exact hpos
  · simp only
    omega
  · obtain ⟨name, hdrop⟩ := exists_of_barLength_ne_zero hbar
    rw [hdrop, List.tail_cons] at hstar
    obtain ⟨rest, rfl⟩ := List.head?_eq_some_iff.mp hstar
    rw [hdrop, List.length_cons, List.length_cons] at hlength
    simp only
    omega
  · obtain ⟨name, hdrop⟩ := exists_of_barLength_ne_zero hbar
    have hbehind := identLength_le name
    rw [hdrop, List.length_cons] at hlength
    rw [hdrop, List.tail_cons]
    simp only
    omega

/-- **The rule asks for no more characters than there are.** -/
theorem classify_le (c : Char) (rest : Text) : (classify c rest).2 ≤ rest.length := by
  by_cases hsign : c ∈ signs
  · simp only [signs, List.mem_cons, List.not_mem_nil, or_false] at hsign
    rcases hsign with rfl | rfl | rfl | rfl | rfl | rfl | rfl | rfl | rfl | rfl
    · exact runLength_le isSpace rest
    · exact runLength_le isSpace rest
    · exact runLength_le isSpace rest
    · exact identLength_le rest
    · exact identLength_le rest
    · have hbracket := balancedLength_le '[' ']' 0 none ('[' :: rest)
      simp only [classify, List.length_cons] at hbracket ⊢
      omega
    · rw [classify_colon]
      split_ifs with hcolon
      · obtain ⟨name, rfl⟩ := List.head?_eq_some_iff.mp hcolon
        simpa using functionLength_le name
      · exact functionLength_le rest
    · exact Nat.zero_le _
    · exact Nat.zero_le _
    · exact universalLength_le rest
  · rw [classify_other hsign]
    have hspaces := runLength_le isSpace rest
    have hcombinator := combinatorLength_le (rest.drop (runLength isSpace rest))
    have hbars := combinatorLength_le (c :: rest)
    rw [List.length_drop] at hcombinator
    rw [List.length_cons] at hbars
    split_ifs with hspace hcomma hbar hcomment
    · exact hspaces
    · simp only
      omega
    · simp only
      omega
    · obtain ⟨body, rfl⟩ := List.head?_eq_some_iff.mp hcomment.2
      simpa using commentLength_le body
    · exact Nat.le_of_lt_succ (nameAt_lt (List.cons_ne_nil c rest))

/-! ### White space -/

lemma isBlank_head_of_combinatorLength {c : Char} {t : Text} (h : combinatorLength (c :: t) ≠ 0) :
    isBlank c = false := by
  rw [combinatorLength_eq] at h
  simp only [List.head?_cons, Option.some.injEq] at h
  split_ifs at h with hone htwo
  · rcases hone with rfl | rfl | rfl <;> decide
  · obtain ⟨rfl, -⟩ := htwo
    decide
  · contradiction

lemma classify_of_not_isSpace {c : Char} (h : isSpace c = false) (rest : Text) :
    (classify c rest).1 ≠ .whitespace ∧
      ((classify c rest).1 = .combinator → isBlank c = false) := by
  rcases eq_or_ne c ':' with rfl | hcolon
  · rw [classify_colon]
    split_ifs <;> simp
  by_cases hsign : c ∈ signs
  · simp only [signs, List.mem_cons, List.not_mem_nil, or_false, hcolon, false_or] at hsign
    rcases hsign with rfl | rfl | rfl | rfl | rfl | rfl | rfl | rfl | rfl
    all_goals exact ⟨by simp [classify], fun _ => by decide⟩
  · rw [classify_other hsign, h]
    simp only [Bool.false_eq_true, if_false]
    split_ifs with hbar hcomment
    · exact ⟨by simp, fun _ => isBlank_head_of_combinatorLength hbar⟩
    · simp
    · have hkind := nameAt_kind (c :: rest)
      constructor <;> intro hk <;> simp [hk] at hkind

/-- Blanks that a run of spaces and a combinator make up are spaces: a visible combinator would
show. -/
lemma isSpace_of_blank {cs rest : Text}
    (h : runLength isSpace (cs ++ rest) +
      combinatorLength ((cs ++ rest).drop (runLength isSpace (cs ++ rest))) = cs.length)
    (hblank : Blank cs) : ∀ d ∈ cs, isSpace d = true := by
  by_cases hzero : combinatorLength ((cs ++ rest).drop (runLength isSpace (cs ++ rest))) = 0
  · rw [hzero, Nat.add_zero] at h
    exact (runLength_append.mp h).1
  · have hlt : runLength isSpace (cs ++ rest) < cs.length := by omega
    rw [List.drop_append_of_le_length (Nat.le_of_lt hlt), List.drop_eq_getElem_cons hlt,
      List.cons_append] at hzero
    have hseen := isBlank_head_of_combinatorLength hzero
    rw [hblank _ (List.getElem_mem hlt)] at hseen
    contradiction

lemma classify_spaces {c : Char} {cs rest : Text} (h : ∀ d ∈ c :: cs, isSpace d = true)
    (hlength : (classify c (cs ++ rest)).2 = cs.length) :
    (classify c (cs ++ rest)).1 =
      if rest.head? = some ',' then .whitespace else .combinator := by
  rw [classify_of_isSpace (h c (by simp))] at hlength ⊢
  by_cases hcomma : rest.head? = some ','
  · have hrun : runLength isSpace (cs ++ rest) = cs.length := by
      refine runLength_append.mpr ⟨fun d hd => h d (by simp [hd]), fun d hd => ?_⟩
      obtain rfl : d = ',' := by simpa [hcomma] using hd.symm
      decide
    rw [hrun, List.drop_left, if_pos hcomma, if_pos hcomma]
  · rw [if_neg hcomma]
    split_ifs at hlength ⊢ with hbehind
    · have hrun : runLength isSpace (cs ++ rest) = cs.length := hlength
      rw [hrun, List.drop_left] at hbehind
      exact absurd hbehind hcomma
    · rfl

lemma isSpace_of_whitespace {c : Char} {cs rest : Text}
    (hlength : (classify c (cs ++ rest)).2 = cs.length)
    (hkind : (classify c (cs ++ rest)).1 = .whitespace ∨
      (classify c (cs ++ rest)).1 = .combinator ∧ Blank (c :: cs)) :
    ∀ d ∈ c :: cs, isSpace d = true := by
  have hspace : isSpace c = true := by
    by_contra hnot
    obtain ⟨hne, hseen⟩ := classify_of_not_isSpace (Bool.eq_false_iff.mpr hnot) (cs ++ rest)
    rcases hkind with hk | ⟨hk, hblank⟩
    · exact hne hk
    · have hc := hseen hk
      rw [hblank c (by simp)] at hc
      contradiction
  rw [classify_of_isSpace hspace] at hlength hkind
  refine List.forall_mem_cons.mpr ⟨hspace, ?_⟩
  split_ifs at hlength hkind with hcomma
  · exact (runLength_append.mp hlength).1
  · have hblank : Blank (c :: cs) := by simpa using hkind
    exact isSpace_of_blank hlength fun d hd => hblank d (by simp [hd])

lemma classifyAt_fst (offset : Nat) {c : Char} {cs rest : Text}
    (hlength : (classify c (cs ++ rest)).2 = cs.length) :
    (classifyAt offset c (cs ++ rest)).1 =
      if (classify c (cs ++ rest)).1 = .combinator ∧ (offset = 0 ∨ rest = []) ∧ Blank (c :: cs) then
        .whitespace
      else (classify c (cs ++ rest)).1 := by
  simp only [classifyAt, hlength, List.take_left, List.drop_left, Bool.and_eq_true,
    Bool.or_eq_true, decide_eq_true_eq, beq_iff_eq, List.isEmpty_iff, Text.trim_eq_nil, and_assoc]
  split_ifs <;> rfl

/-- **Where spaces are white space**: at either end of the selector, and before a comma. -/
theorem kind_eq_whitespace_iff {p : Component} {behind : Text} (h : p.CutBy classifyAt behind) :
    p.kind = .whitespace ↔ (∀ c ∈ p.text, isSpace c = true) ∧
      (p.start = 0 ∨ behind = [] ∨ behind.head? = some ',') := by
  obtain ⟨c, cs, htext, hrule⟩ := h
  have hlength : (classify c (cs ++ behind)).2 = cs.length := by
    rw [← classifyAt_snd p.start, hrule]
  have hkind : p.kind = _ := (congrArg Prod.fst hrule).symm.trans (classifyAt_fst p.start hlength)
  rw [htext, hkind]
  by_cases hspaces : ∀ d ∈ c :: cs, isSpace d = true
  · have hblank : Blank (c :: cs) := fun d hd => isBlank_of_isSpace (hspaces d hd)
    rw [classify_spaces hspaces hlength]
    split_ifs <;> simp_all
  · simp only [hspaces, false_and, iff_false]
    intro hwhite
    apply hspaces
    refine isSpace_of_whitespace hlength ?_
    split_ifs at hwhite with hedge
    · exact .inr ⟨hedge.1, hedge.2.2⟩
    · exact .inl hwhite

/-! ### The components of a selector -/

lemma adjacent_split (t : Text) : Piece.Adjacent 0 (split t) := Piece.adjacent_tile classifyAt 0 t

lemma textOf_split (t : Text) : Piece.textOf (split t) = t := textOf_tile classifyAt 0 t

lemma cutBy_of_split {t : Text} {as bs : List Component} {p : Component}
    (h : split t = as ++ p :: bs) : p.CutBy classifyAt (Piece.textOf bs) :=
  Piece.cutBy_of_tile (fun offset c rest => by rw [classifyAt_snd]; exact classify_le c rest) h

lemma text_ne_nil_of_mem_split {t : Text} {p : Component} (h : p ∈ split t) : p.text ≠ [] := by
  obtain ⟨as, bs, happ⟩ := List.append_of_mem h
  obtain ⟨c, cs, htext, -⟩ := cutBy_of_split happ
  simp [htext]

/-- **The components of a selector.** There are no more of them than characters. Their spans are not
empty and lie side by side from the start of the selector to its end, cut no character, and have
the components' texts under them, which put together are the selector. Each component is what the
rule takes where the one before it ends. The white space among them is the spaces at the start of
the selector, at its end and directly before a comma. -/
theorem split_tiles (t : Text) :
    (split t).length ≤ t.length ∧
    Span.Tiles 0 ((split t).map Piece.span) t.size ∧
    Piece.textOf (split t) = t ∧
    (∀ p ∈ split t, p.span.slice? t = some p.text) ∧
    ∀ as p bs, split t = as ++ p :: bs → p.CutBy classifyAt (Piece.textOf bs) ∧
      (p.kind = .whitespace ↔ (∀ c ∈ p.text, isSpace c = true) ∧
        (as = [] ∨ bs = [] ∨ (Piece.textOf bs).head? = some ',')) := by
  have hadj := adjacent_split t
  have htext := textOf_split t
  have hne : ∀ p ∈ split t, p.text ≠ [] := fun p => text_ne_nil_of_mem_split
  have htiles := Piece.tiles_of_adjacent hadj hne
  have hlength := Piece.length_le_of_ne_nil hne
  rw [htext, Nat.zero_add] at htiles
  rw [htext] at hlength
  refine ⟨hlength, htiles, htext, fun p hp => ?_, fun as p bs happ => ?_⟩
  · have hslice := Piece.slice?_of_mem_adjacent hadj hp
    rwa [htext] at hslice
  · have hcut := cutBy_of_split happ
    rw [happ] at hadj hne
    have hstart : p.start = (Piece.textOf as).size := by
      obtain ⟨-, hstart, -⟩ := Piece.adjacent_append.mp hadj
      rw [hstart, Nat.zero_add]
    refine ⟨hcut, ?_⟩
    rw [kind_eq_whitespace_iff hcut, hstart, Text.size_eq_zero,
      Piece.textOf_eq_nil fun q hq => hne q (by simp [hq]),
      Piece.textOf_eq_nil fun q hq => hne q (by simp [hq])]

-- a space behind a comma is a combinator
example : (split " a , b > c ".toList).map Piece.kind =
    [.whitespace, .typeName, .whitespace, .comma, .combinator, .typeName, .combinator, .typeName,
      .whitespace] := by
  decide +kernel

end Component
end StyleScope
