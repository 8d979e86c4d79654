import Mathlib.Data.List.Infix
import StyleScope.Proofs.Token.Modes

/-!
Strings and comments with their ends.

A string has its end when the quote that opens it occurs again and is not escaped, and a comment
when `*/` occurs after the two characters that open it. The checks of the parser look for less,
because the tokens they are asked about were cut off by the lexer: there the two agree.
-/

namespace StyleScope.Token

/-- Characters and escapes, none of them broken off, so that what follows is not escaped. -/
inductive Whole : Text → Prop
  | nil : Whole []
  | char {c : Char} {t : Text} (hc : c ≠ '\\') (h : Whole t) : Whole (c :: t)
  | escape {c : Char} {t : Text} (h : Whole t) : Whole ('\\' :: c :: t)

/-- The quote that opens a text, which is no backslash, occurs again where it is not escaped. -/
def HasClosingQuote (text : Text) : Prop :=
  ∃ quote body after, quote ≠ '\\' ∧ text = quote :: (body ++ quote :: after) ∧ Whole body

/-- The end of a comment occurs after the two characters that open it. -/
def HasCommentEnd (text : Text) : Prop := ['*', '/'] <:+: text.drop 2

/-- A string or a comment with its end, or another token. -/
def IsClosed (t : Token) : Prop :=
  (t.kind = .string → HasClosingQuote t.text) ∧ (t.kind = .comment → HasCommentEnd t.text)

/-! ### Strings -/

lemma hasClosingQuote_iff {quote : Char} (hq : quote ≠ '\\') (escaped : Bool) (t : Text) :
    hasClosingQuote quote escaped t = true ↔
      ∃ body after, t = body ++ quote :: after ∧
        Whole (if escaped then '\\' :: body else body) := by
  fun_induction hasClosingQuote quote escaped t with
  | case1 escaped => simp
  | case2 c t ih =>
    rw [ih]
    constructor
    · rintro ⟨body, after, rfl, h⟩
      exact ⟨c :: body, after, rfl, .escape h⟩
    · rintro ⟨body, after, ht, h⟩
      obtain _ | ⟨hc, -⟩ | h := h
      · exact absurd rfl hc
      · obtain ⟨rfl, rfl⟩ := List.cons.inj ht
        exact ⟨_, after, rfl, h⟩
  | case3 t ih =>
    rw [ih]
    constructor
    · rintro ⟨body, after, rfl, h⟩
      exact ⟨'\\' :: body, after, rfl, h⟩
    · rintro ⟨body, after, ht, h⟩
      rcases body with _ | ⟨c, body⟩
      · exact absurd (List.cons.inj ht).1.symm hq
      · obtain ⟨rfl, rfl⟩ := List.cons.inj ht
        exact ⟨body, after, rfl, h⟩
  | case4 c t hc ih =>
    rw [Bool.or_eq_true, beq_iff_eq, ih]
    constructor
    · rintro (rfl | ⟨body, after, rfl, h⟩)
      · exact ⟨[], t, rfl, .nil⟩
      · exact ⟨c :: body, after, rfl, .char hc h⟩
    · rintro ⟨body, after, ht, h⟩
      obtain _ | ⟨-, h⟩ | h := h
      · exact .inl (List.cons.inj ht).1
      · exact .inr ⟨_, after, (List.cons.inj ht).2, h⟩
      · exact absurd (List.cons.inj ht).1 hc

lemma hasClosingQuote_backslash (escaped : Bool) (t : Text) :
    hasClosingQuote '\\' escaped t = false := by
  fun_induction hasClosingQuote '\\' escaped t <;> simp_all

/-- **A string is taken as closed when its quote occurs again, not escaped.** -/
theorem isClosedString_iff {text : Text} : isClosedString text = true ↔ HasClosingQuote text := by
  rcases text with _ | ⟨quote, t⟩
  · simp [isClosedString, HasClosingQuote]
  by_cases hq : quote = '\\'
  · subst hq
    rw [isClosedString, hasClosingQuote_backslash]
    refine ⟨fun h => absurd h (by simp), ?_⟩
    rintro ⟨q, body, after, hne, h, -⟩
    exact absurd (List.cons.inj h).1.symm hne
  · rw [isClosedString, hasClosingQuote_iff hq]
    constructor
    · rintro ⟨body, after, rfl, h⟩
      exact ⟨quote, body, after, hq, rfl, h⟩
    · rintro ⟨q, body, after, -, h, hw⟩
      obtain ⟨rfl, rfl⟩ := List.cons.inj h
      exact ⟨body, after, rfl, hw⟩

instance (text : Text) : Decidable (HasClosingQuote text) :=
  decidable_of_iff _ isClosedString_iff

instance (text : Text) : Decidable (HasCommentEnd text) :=
  inferInstanceAs (Decidable (_ <:+: _))

instance (t : Token) : Decidable t.IsClosed := inferInstanceAs (Decidable (_ ∧ _))

/-! ### Comments -/

lemma suffix_of_infix {cs rest : Text} (hb : commentLength (cs ++ rest) = cs.length)
    (h : ['*', '/'] <:+: cs) : ['*', '/'] <:+ cs := by
  induction cs with
  | nil => simp at h
  | cons c cs ih =>
    by_cases hend : c = '*' ∧ (cs ++ rest).head? = some '/'
    · obtain ⟨rfl, hslash⟩ := hend
      rcases cs with _ | ⟨d, cs⟩
      · exact absurd h.length_le (by simp)
      · obtain rfl : d = '/' := by simpa using hslash
        have hnil : cs = [] := by simpa [commentLength] using hb
        exact hnil ▸ List.suffix_rfl
    · have hlen := Mode.commentLength_cons hend
      rw [List.cons_append, hlen, List.length_cons, Nat.add_right_cancel_iff] at hb
      have hcs : ['*', '/'] <:+: cs := by
        rcases List.infix_cons_iff.mp h with hp | hcs
        · obtain ⟨after, ha⟩ := hp
          obtain ⟨rfl, rfl⟩ := List.cons.inj ha
          exact absurd ⟨rfl, rfl⟩ hend
        · exact hcs
      exact (ih hb hcs).trans (List.suffix_cons c cs)

/-! ### Tokens of a text -/

/-- A token as the lexer cuts it off in front of some text. -/
def Lexed (t : Token) : Prop := ∃ rest, Spelled t.kind t.text rest

lemma lexed_of_mem_scan {text : Text} {t : Token} (ht : t ∈ scan text) : t.Lexed := by
  have hall {ts : List Token} (h : Lexes ts) : ∀ t ∈ ts, t.Lexed := by
    induction ts with
    | nil => simp
    | cons t ts ih => simpa using ⟨⟨_, h.1⟩, ih h.2⟩
  exact hall (scan_spec text).2.1 t ht

lemma Lexed.text_ne_nil {t : Token} (h : t.Lexed) : t.text ≠ [] := by
  obtain ⟨rest, h⟩ := h
  exact h.ne_nil

lemma Lexed.one_lt_length_iff {t : Token} (h : t.Lexed)
    (hk : t.kind = .atKeyword ∨ t.kind = .atSign) : 1 < t.text.length ↔ t.kind = .atKeyword := by
  obtain ⟨kind, start, text⟩ := t
  obtain ⟨rest, h⟩ := h
  rcases hk with hk | hk
  · subst hk
    cases h
    simp
  · subst hk
    cases h
    simp

lemma Lexed.at_cons_drop {t : Token} (h : t.Lexed) (hk : t.kind = .atKeyword ∨ t.kind = .atSign) :
    '@' :: t.text.drop 1 = t.text := by
  obtain ⟨kind, start, text⟩ := t
  obtain ⟨rest, hspell⟩ := h
  rcases hk with hk | hk <;> subst hk <;> cases hspell <;> rfl

lemma Lexed.isClosedComment_iff {t : Token} (h : t.Lexed) (hk : t.kind = .comment) :
    isClosedComment t.text = true ↔ HasCommentEnd t.text := by
  obtain ⟨kind, start, text⟩ := t
  obtain ⟨rest, h⟩ := h
  subst hk
  cases h with
  | comment hb =>
    exact Token.isClosedComment_iff.trans ⟨List.IsSuffix.isInfix, suffix_of_infix hb⟩

/-- **The parser finds the ends of strings and comments where they are.** -/
theorem Lexed.isClosed_iff {t : Token} (h : t.Lexed) : t.IsClosed ↔ Ended t.kind t.text :=
  and_congr (imp_congr_right fun _ => isClosedString_iff.symm)
    (imp_congr_right fun hk => (h.isClosedComment_iff hk).symm)

end StyleScope.Token
