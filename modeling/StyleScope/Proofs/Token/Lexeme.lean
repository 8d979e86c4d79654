import Mathlib.Tactic.Common
import StyleScope.Text.Blank
import StyleScope.Token.Lexer

/-!
Tokens as they are spelled.

Cutting a text into tokens takes, at every place, the token that the rule names there.
`Spelled` says the same without running the rule: which characters a token of each kind has,
and which character may follow it. A token is never cut by what follows it beyond the next
character, so a run of tokens can be put in front of another text that begins alike.
-/

namespace StyleScope

namespace Piece

variable {κ : Type}

/-- Pieces that follow one another without a gap, from an offset on. -/
def Adjacent : Nat → List (Piece κ) → Prop
  | _, [] => True
  | offset, p :: ps => p.start = offset ∧ Adjacent p.stop ps

@[simp] lemma adjacent_nil (offset : Nat) : Adjacent offset ([] : List (Piece κ)) := trivial

@[simp] lemma adjacent_cons {offset : Nat} {p : Piece κ} {ps : List (Piece κ)} :
    Adjacent offset (p :: ps) ↔ p.start = offset ∧ Adjacent p.stop ps := Iff.rfl

lemma adjacent_append {offset : Nat} {as bs : List (Piece κ)} :
    Adjacent offset (as ++ bs) ↔
      Adjacent offset as ∧ Adjacent (offset + (textOf as).size) bs := by
  induction as generalizing offset with
  | nil => simp
  | cons a as ih =>
    simp only [List.cons_append, adjacent_cons, ih, textOf_cons, Text.size_append]
    constructor
    · rintro ⟨rfl, h1, h2⟩
      exact ⟨⟨rfl, h1⟩, by rwa [stop, Nat.add_assoc] at h2⟩
    · rintro ⟨⟨rfl, h1⟩, h2⟩
      exact ⟨rfl, h1, by rwa [stop, Nat.add_assoc]⟩

lemma adjacent_tile (rule : Nat → Char → Text → κ × Nat) (offset : Nat) (t : Text) :
    Adjacent offset (tile rule offset t) := by
  fun_induction tile rule offset t with
  | case1 => trivial
  | case2 offset c rest text ih => exact ⟨rfl, ih⟩

end Piece

lemma Text.notMem_of_all {p : Char → Bool} {cs : Text} (h : cs.all (fun d => !p d) = true)
    {c : Char} (hc : p c = true) : c ∉ cs := by
  intro hmem
  have hnot := List.all_eq_true.mp h c hmem
  simp [hc] at hnot

namespace Token

lemma isBlank_of_isSpace {c : Char} (h : isSpace c = true) : isBlank c = true := by
  simp only [isSpace, Bool.or_eq_true, beq_iff_eq] at h
  rcases h with (((rfl | rfl) | rfl) | rfl) | rfl <;> decide

/-! ### The lengths that the rule computes -/

lemma runLength_append {p : Char → Bool} {cs rest : Text} :
    runLength p (cs ++ rest) = cs.length ↔
      (∀ c ∈ cs, p c = true) ∧ ∀ c ∈ rest.head?, p c = false := by
  induction cs with
  | nil => cases rest <;> simp [runLength, List.takeWhile_cons]
  | cons c cs ih =>
    by_cases h : p c = true
    · simpa [runLength, List.takeWhile_cons, h] using ih
    · simp [runLength, h]

lemma runLength_le (p : Char → Bool) (t : Text) : runLength p t ≤ t.length :=
  (List.takeWhile_sublist p).length_le

lemma commentLength_le (t : Text) : commentLength t ≤ t.length := by
  fun_induction commentLength t with
  | case1 => simp
  | case2 => simp
  | case3 c t _ ih => simpa using ih

lemma stringLength_le (quote : Char) (escaped : Bool) (t : Text) :
    stringLength quote escaped t ≤ t.length := by
  fun_induction stringLength quote escaped t <;> simp_all

lemma commentLength_congr {cs rest rest' : Text} (h : commentLength (cs ++ rest) = cs.length)
    (hr : rest.head? = rest'.head?) : commentLength (cs ++ rest') = cs.length := by
  induction cs with
  | nil =>
    rcases rest with _ | ⟨c, rest⟩
    · have : rest' = [] := by simpa using hr.symm
      subst this
      exact h
    · exfalso
      simp only [List.nil_append, List.length_nil] at h
      unfold commentLength at h
      split at h <;> simp_all
  | cons c cs ih =>
    by_cases hstar : c = '*' ∧ (cs ++ rest).head? = some '/'
    · obtain ⟨rfl, hslash⟩ := hstar
      rcases cs with _ | ⟨d, cs⟩
      · rcases rest with _ | ⟨d, rest⟩
        · simp at hslash
        · simp only [List.nil_append, List.head?_cons, Option.some.injEq] at hslash
          subst hslash
          simp [commentLength] at h
      · simp only [List.cons_append, List.head?_cons, Option.some.injEq] at hslash
        subst hslash
        simp only [List.cons_append, commentLength] at h ⊢
        exact h
    · have hstep (r : Text) (hr' : r.head? = rest.head?) :
          commentLength (c :: (cs ++ r)) = commentLength (cs ++ r) + 1 := by
        have hne : ¬ (c = '*' ∧ (cs ++ r).head? = some '/') := by
          rcases cs with _ | ⟨d, cs⟩
          · simpa [hr'] using hstar
          · simpa using hstar
        rw [commentLength]
        rintro t rfl heq
        exact hne ⟨rfl, by simp [heq]⟩
      simp only [List.cons_append, List.length_cons] at h ⊢
      rw [hstep rest rfl] at h
      rw [hstep rest' hr.symm, ih (by omega)]

lemma stringLength_congr {quote : Char} {escaped : Bool} {cs rest rest' : Text}
    (h : stringLength quote escaped (cs ++ rest) = cs.length) (hr : rest.head? = rest'.head?) :
    stringLength quote escaped (cs ++ rest') = cs.length := by
  induction cs generalizing escaped with
  | nil =>
    rcases rest with _ | ⟨c, rest⟩
    · have : rest' = [] := by simpa using hr.symm
      subst this
      exact h
    · rcases rest' with _ | ⟨c', rest'⟩
      · simp at hr
      · have hc : c = c' := by simpa using hr
        subst hc
        cases escaped with
        | true => simp [stringLength] at h
        | false =>
          simp only [List.nil_append, List.length_nil, stringLength] at h ⊢
          split_ifs at h ⊢
          rfl
  | cons c cs ih =>
    cases escaped with
    | true =>
      simp only [List.cons_append, stringLength, List.length_cons, Nat.add_right_cancel_iff] at h ⊢
      exact ih h
    | false =>
      simp only [List.cons_append, stringLength, List.length_cons] at h ⊢
      split_ifs at h ⊢ with h1 h2 h3
      · rw [ih (by omega)]
      · exact h
      · rw [ih (by omega)]

lemma classify_le (c : Char) (rest : Text) : (classify c rest).2 ≤ rest.length := by
  unfold classify
  split <;> try simp only [Nat.zero_le]
  · exact stringLength_le _ _ _
  · exact stringLength_le _ _ _
  · split
    · simpa using commentLength_le _
    · simp
  · split
    · split
      · simpa using runLength_le _ _
      · simp
    · simp
  · split
    · split <;> simp
    · simp
  · split
    · exact runLength_le _ _
    · exact runLength_le _ _

/-! ### Spelling -/

/-- How a token of a kind is spelled when `rest` follows it. -/
inductive Spelled : TokenKind → Text → Text → Prop
  | leftBrace {rest} : Spelled .leftBrace ['{'] rest
  | rightBrace {rest} : Spelled .rightBrace ['}'] rest
  | leftParen {rest} : Spelled .leftParen ['('] rest
  | rightParen {rest} : Spelled .rightParen [')'] rest
  | leftBracket {rest} : Spelled .leftBracket ['['] rest
  | rightBracket {rest} : Spelled .rightBracket [']'] rest
  | semicolon {rest} : Spelled .semicolon [';'] rest
  | comma {rest} : Spelled .comma [','] rest
  | colon {rest} : Spelled .colon [':'] rest
  | string {quote body rest} (hq : quote = '"' ∨ quote = '\'')
      (hb : stringLength quote false (body ++ rest) = body.length) :
      Spelled .string (quote :: body) rest
  | comment {body rest} (hb : commentLength (body ++ rest) = body.length) :
      Spelled .comment ('/' :: '*' :: body) rest
  | slash {rest} (hr : rest.head? ≠ some '*') : Spelled .slash ['/'] rest
  | atKeyword {c body rest} (hc : isNameStart c = true) (hb : ∀ d ∈ body, isNameChar d = true)
      (hr : ∀ d ∈ rest.head?, isNameChar d = false) : Spelled .atKeyword ('@' :: c :: body) rest
  | atSign {rest} (hr : ∀ d ∈ rest.head?, isNameStart d = false) : Spelled .atSign ['@'] rest
  | escape {c rest} (hc : c ≠ '\n') : Spelled .escape ['\\', c] rest
  | invalid {rest} (hr : ∀ d ∈ rest.head?, d = '\n') : Spelled .invalid ['\\'] rest
  | whitespace {c cs rest} (hs : ∀ d ∈ c :: cs, isSpace d = true)
      (hr : ∀ d ∈ rest.head?, isSpace d = false) : Spelled .whitespace (c :: cs) rest
  | word {c cs rest} (hw : ∀ d ∈ c :: cs, isDelimiter d = false)
      (hr : ∀ d ∈ rest.head?, isDelimiter d = true) : Spelled .word (c :: cs) rest

/-- The rule cuts off exactly `text` of `text ++ rest`, as a token of the kind. -/
def Munched (kind : TokenKind) (text rest : Text) : Prop :=
  ∃ c cs, text = c :: cs ∧ classify c (cs ++ rest) = (kind, cs.length)

lemma classify_other {c : Char} (h : isDelimiter c = false ∨ isSpace c = true) (rest : Text) :
    classify c rest =
      if isSpace c then (.whitespace, runLength isSpace rest)
      else (.word, runLength (fun d => !isDelimiter d) rest) := by
  unfold classify
  split <;> first | rfl | (exfalso; revert h; decide)

lemma spelled_of_munched {kind : TokenKind} {text rest : Text} (h : Munched kind text rest) :
    Spelled kind text rest := by
  obtain ⟨c, cs, rfl, hc⟩ := h
  have hnil {k : TokenKind} (h : (k, 0) = (kind, cs.length)) : kind = k ∧ cs = [] := by
    simp only [Prod.mk.injEq] at h
    exact ⟨h.1.symm, List.length_eq_zero_iff.mp h.2.symm⟩
  unfold classify at hc
  split at hc
  case h_10 => -- a double quote
    obtain ⟨rfl, h⟩ := Prod.mk.inj hc
    exact .string (.inl rfl) h
  case h_11 => -- a single quote
    obtain ⟨rfl, h⟩ := Prod.mk.inj hc
    exact .string (.inr rfl) h
  case h_12 => -- a slash
    split at hc
    · next body heq =>
      obtain ⟨rfl, h⟩ := Prod.mk.inj hc
      rcases cs with _ | ⟨d, cs⟩
      · simp at h
      · simp only [List.cons_append, List.cons.injEq] at heq
        obtain ⟨rfl, rfl⟩ := heq
        exact .comment (by simpa using h)
    · next hne =>
      obtain ⟨rfl, rfl⟩ := hnil hc
      refine .slash fun hh => ?_
      rcases rest with _ | ⟨d, rest⟩
      · simp at hh
      · exact hne rest (by simpa using hh)
  case h_13 => -- an at sign
    split at hc
    · next d body heq =>
      split_ifs at hc with hd
      · obtain ⟨rfl, h⟩ := Prod.mk.inj hc
        rcases cs with _ | ⟨e, cs⟩
        · simp at h
        · simp only [List.cons_append, List.cons.injEq] at heq
          obtain ⟨rfl, rfl⟩ := heq
          obtain ⟨hb, hr⟩ := runLength_append.mp (by simpa using h)
          exact .atKeyword hd hb hr
      · obtain ⟨rfl, rfl⟩ := hnil hc
        simp only [List.nil_append] at heq
        subst heq
        exact .atSign (by simpa using hd)
    · next heq =>
      obtain ⟨rfl, rfl⟩ := hnil hc
      simp only [List.nil_append] at heq
      subst heq
      exact .atSign (by simp)
  case h_14 => -- a backslash
    split at hc
    · next d body heq =>
      split_ifs at hc with hd
      · obtain ⟨rfl, rfl⟩ := hnil hc
        simp only [List.nil_append] at heq
        subst heq
        exact .invalid (by simpa using hd)
      · obtain ⟨rfl, h⟩ := Prod.mk.inj hc
        rcases cs with _ | ⟨e, _ | ⟨f, cs⟩⟩
        · simp at h
        · simp only [List.cons_append, List.cons.injEq] at heq
          obtain ⟨rfl, -⟩ := heq
          exact .escape hd
        · simp at h
    · next heq =>
      obtain ⟨rfl, rfl⟩ := hnil hc
      simp only [List.nil_append] at heq
      subst heq
      exact .invalid (by simp)
  case h_15 => -- anything else
    split_ifs at hc with hsp
    · obtain ⟨rfl, h⟩ := Prod.mk.inj hc
      obtain ⟨hs, hr⟩ := runLength_append.mp h
      exact .whitespace (by simpa [hsp] using hs) hr
    · obtain ⟨rfl, h⟩ := Prod.mk.inj hc
      obtain ⟨hw, hr⟩ := runLength_append.mp h
      have hdel : isDelimiter c = false := by
        simp_all [isDelimiter]
      exact .word (by simpa [hdel] using hw) (by simpa using hr)
  all_goals
    obtain ⟨rfl, rfl⟩ := hnil hc
    constructor

lemma isDelimiter_of_isSpace {c : Char} (h : isSpace c = true) : isDelimiter c = true := by
  simp [isDelimiter, h]

lemma isNameChar_of_isNameStart {c : Char} (h : isNameStart c = true) : isNameChar c = true := by
  simp only [isNameStart, Bool.or_eq_true] at h
  simp only [isNameChar, Char.isAlphanum, Bool.or_eq_true]
  tauto

lemma munched_of_spelled {kind : TokenKind} {text rest : Text} (h : Spelled kind text rest) :
    Munched kind text rest := by
  cases h with
  | string hq hb => rcases hq with rfl | rfl <;> exact ⟨_, _, rfl, by simp [classify, hb]⟩
  | comment hb => exact ⟨_, _, rfl, by simp [classify, hb]⟩
  | slash hr =>
    refine ⟨_, _, rfl, ?_⟩
    rcases rest with _ | ⟨d, rest⟩
    · rfl
    · simp only [List.nil_append, List.length_nil, classify]
      split
      · next heq => simp_all
      · rfl
  | atKeyword hc hb hr =>
    have h := runLength_append.mpr ⟨hb, hr⟩
    exact ⟨_, _, rfl, by simp [classify, hc, h]⟩
  | atSign hr =>
    refine ⟨_, _, rfl, ?_⟩
    rcases rest with _ | ⟨d, rest⟩
    · rfl
    · simp [classify, hr d (by simp)]
  | escape hc => exact ⟨_, _, rfl, by simp [classify, hc]⟩
  | invalid hr =>
    refine ⟨_, _, rfl, ?_⟩
    rcases rest with _ | ⟨d, rest⟩
    · rfl
    · simp [classify, hr d (by simp)]
  | @whitespace c cs rest hs hr =>
    refine ⟨_, _, rfl, ?_⟩
    have hc : isSpace c = true := hs c (by simp)
    have h : runLength isSpace (cs ++ rest) = cs.length :=
      runLength_append.mpr ⟨fun d hd => hs d (by simp [hd]), hr⟩
    rw [classify_other (.inr hc), if_pos hc, h]
  | @word c cs rest hw hr =>
    refine ⟨_, _, rfl, ?_⟩
    have hc : isDelimiter c = false := hw c (by simp)
    have hs : isSpace c ≠ true := fun h => by simp [isDelimiter_of_isSpace h] at hc
    have h : runLength (fun d => !isDelimiter d) (cs ++ rest) = cs.length :=
      runLength_append.mpr ⟨fun d hd => by simp [hw d (by simp [hd])], by simpa using hr⟩
    rw [classify_other (.inl hc), if_neg hs, h]
  | _ => exact ⟨_, _, rfl, rfl⟩

/-- **The rule and the spelling agree.** -/
theorem munched_iff_spelled {kind : TokenKind} {text rest : Text} :
    Munched kind text rest ↔ Spelled kind text rest :=
  ⟨spelled_of_munched, munched_of_spelled⟩

namespace Spelled

variable {kind : TokenKind} {text rest rest' : Text}

lemma congr_rest (h : Spelled kind text rest) (hr : rest.head? = rest'.head?) :
    Spelled kind text rest' := by
  cases h with
  | string hq hb => exact .string hq (stringLength_congr hb hr)
  | comment hb => exact .comment (commentLength_congr hb hr)
  | slash h => exact .slash (hr ▸ h)
  | atKeyword hc hb h => exact .atKeyword hc hb (hr ▸ h)
  | atSign h => exact .atSign (hr ▸ h)
  | escape hc => exact .escape hc
  | invalid h => exact .invalid (hr ▸ h)
  | whitespace hs h => exact .whitespace hs (hr ▸ h)
  | word hw h => exact .word hw (hr ▸ h)
  | _ => constructor

lemma ne_nil (h : Spelled kind text rest) : text ≠ [] := by
  cases h <;> simp

lemma eq_leftBrace (h : Spelled kind text rest) (hk : kind = .leftBrace) : text = ['{'] := by
  subst hk
  cases h
  rfl

lemma eq_rightBrace (h : Spelled kind text rest) (hk : kind = .rightBrace) : text = ['}'] := by
  subst hk
  cases h
  rfl

end Spelled

/-! ### Runs of tokens -/

/-- Tokens that are spelled as they stand, each with the next ones behind it. -/
def Lexes : List Token → Prop
  | [] => True
  | t :: ts => Spelled t.kind t.text (Piece.textOf ts) ∧ Lexes ts

@[simp] lemma lexes_nil : Lexes [] := trivial

@[simp] lemma lexes_cons {t : Token} {ts : List Token} :
    Lexes (t :: ts) ↔ Spelled t.kind t.text (Piece.textOf ts) ∧ Lexes ts := Iff.rfl

lemma lexes_tile (offset : Nat) (text : Text) :
    Lexes (tile (fun _ => classify) offset text) := by
  fun_induction tile (fun _ => classify) offset text with
  | case1 => trivial
  | case2 offset c rest text ih =>
    refine ⟨spelled_of_munched ⟨c, rest.take (classify c rest).2, rfl, ?_⟩, ih⟩
    rw [textOf_tile, List.take_append_drop, List.length_take_of_le (classify_le c rest)]

/-- **Tokens that are spelled as they stand are the tokens of their text.** -/
theorem tile_textOf {offset : Nat} {ts : List Token} (ha : Piece.Adjacent offset ts)
    (hl : Lexes ts) : tile (fun _ => classify) offset (Piece.textOf ts) = ts := by
  induction ts generalizing offset with
  | nil => simp
  | cons t ts ih =>
    obtain ⟨rfl, ha⟩ := ha
    obtain ⟨ht, hl⟩ := hl
    obtain ⟨c, cs, htext, hc⟩ := munched_of_spelled ht
    rw [Piece.textOf_cons, htext, List.cons_append, tile, hc]
    simp only [List.take_left', List.drop_left']
    have hstop : t.start + Text.size (c :: cs) = t.stop := by rw [Piece.stop, htext]
    rw [hstop, ih ha hl]
    congr 1
    cases t
    simp_all

lemma scan_spec (text : Text) :
    Piece.Adjacent 0 (scan text) ∧ Lexes (scan text) ∧ Piece.textOf (scan text) = text :=
  ⟨Piece.adjacent_tile _ _ _, lexes_tile _ _, textOf_tile _ _ _⟩

/-- Tokens that are spelled as they stand when a text follows them. -/
def LexesTo : List Token → Text → Prop
  | [], _ => True
  | t :: ts, out => Spelled t.kind t.text (Piece.textOf ts ++ out) ∧ LexesTo ts out

lemma lexes_append {as bs : List Token} :
    Lexes (as ++ bs) ↔ LexesTo as (Piece.textOf bs) ∧ Lexes bs := by
  induction as with
  | nil => simp [LexesTo]
  | cons a as ih => simp [LexesTo, ih, and_assoc]

lemma lexesTo_append {as bs : List Token} {out : Text} :
    LexesTo (as ++ bs) out ↔ LexesTo as (Piece.textOf bs ++ out) ∧ LexesTo bs out := by
  induction as with
  | nil => simp [LexesTo]
  | cons a as ih => simp [LexesTo, ih, and_assoc]

lemma Lexes.ne_nil {ts : List Token} (h : Lexes ts) : ∀ t ∈ ts, t.text ≠ [] := by
  induction ts with
  | nil => simp
  | cons t ts ih => simpa using ⟨h.1.ne_nil, ih h.2⟩

end Token
end StyleScope
