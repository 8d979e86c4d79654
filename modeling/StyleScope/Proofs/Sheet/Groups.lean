import Mathlib.Tactic.Common
import StyleScope.Sheet.Statement

/-!
How tokens are grouped into statements.

`Groups ts sts` says that the tokens `ts` are the statements `sts` with white space and
semicolons between them. It is a grammar, and grouping the tokens of a list is the only way to
read it by that grammar. Every token belongs to one statement or is dropped between two, so
what is shown for one statement and for one dropped token is shown for a whole source.
-/

namespace StyleScope

namespace TokenKind

/-- Whether a prelude that begins with a token of the kind is a selector or a declaration. -/
def startsHead : TokenKind → Bool
  | whitespace | semicolon | rightBrace | comment | leftBrace | atKeyword | atSign => false
  | _ => true

def deepen (k : TokenKind) (depth : Nat) : Nat :=
  match k with
  | leftParen | leftBracket => depth + 1
  | rightParen | rightBracket => depth - 1
  | _ => depth

end TokenKind

namespace Prelude

/-- The number of open brackets after a run of tokens, unless one of them ends the prelude. -/
def depth? : Nat → List Token → Option Nat
  | depth, [] => some depth
  | depth, t :: ts =>
    if t.kind = .leftBrace ∨ t.kind = .rightBrace ∨ (t.kind = .semicolon ∧ depth = 0) then none
    else depth? (t.kind.deepen depth) ts

/-- The token that comes next ends the prelude, as there is none or it is a brace or a
semicolon outside brackets. -/
def Stops (depth : Nat) (ts : List Token) : Prop :=
  ∀ t ∈ ts.head?,
    t.kind = .leftBrace ∨ t.kind = .rightBrace ∨ (t.kind = .semicolon ∧ depth = 0)

@[simp] lemma stops_nil (depth : Nat) : Stops depth [] := by simp [Stops]

end Prelude

namespace Statement

open Prelude

lemma preludeLength_cons (depth : Nat) (t : Token) (ts : List Token) :
    preludeLength depth (t :: ts) =
      if t.kind = .leftBrace ∨ t.kind = .rightBrace ∨ (t.kind = .semicolon ∧ depth = 0) then 0
      else preludeLength (t.kind.deepen depth) ts + 1 := by
  rw [preludeLength]
  cases h : t.kind <;> simp [TokenKind.deepen]

lemma preludeLength_eq {depth d : Nat} {head tail : List Token}
    (hh : depth? depth head = some d) (ht : Stops d tail) :
    preludeLength depth (head ++ tail) = head.length := by
  induction head generalizing depth with
  | nil =>
    simp only [depth?, Option.some.injEq] at hh
    subst hh
    rcases tail with _ | ⟨t, tail⟩
    · simp [preludeLength]
    · rw [List.nil_append, preludeLength_cons, if_pos (ht t (by simp))]
      rfl
  | cons t head ih =>
    simp only [depth?] at hh
    split_ifs at hh with hstop
    rw [List.cons_append, preludeLength_cons, if_neg hstop, ih hh, List.length_cons]

lemma take_drop_preludeLength (depth : Nat) (ts : List Token) :
    ∃ d, depth? depth (ts.take (preludeLength depth ts)) = some d ∧
      Stops d (ts.drop (preludeLength depth ts)) := by
  induction ts generalizing depth with
  | nil => exact ⟨depth, by simp [preludeLength, depth?]⟩
  | cons t ts ih =>
    rw [preludeLength_cons]
    split_ifs with hstop
    · exact ⟨depth, by simpa [depth?, Stops] using hstop⟩
    · obtain ⟨d, hd, hs⟩ := ih (t.kind.deepen depth)
      exact ⟨d, by simpa [depth?, hstop] using hd, by simpa using hs⟩

end Statement

/-! ### Endings -/

namespace PreludeEnd

def tokens : PreludeEnd → List Token
  | block brace => [brace]
  | semicolon mark => [mark]
  | close => []

/-- The ending comes after a prelude with `depth` open brackets, and `rest` after it. -/
def Follows (depth : Nat) (rest : List Token) : PreludeEnd → Prop
  | block brace => brace.kind = .leftBrace
  | semicolon mark => mark.kind = .semicolon ∧ depth = 0
  | close => ∀ t ∈ rest.head?, t.kind = .rightBrace

lemma Follows.stops {depth : Nat} {rest : List Token} {ending : PreludeEnd}
    (h : ending.Follows depth rest) : Prelude.Stops depth (ending.tokens ++ rest) := by
  cases ending with
  | block brace =>
    have hk : brace.kind = .leftBrace := h
    simp [Prelude.Stops, tokens, hk]
  | semicolon mark =>
    obtain ⟨hk, hd⟩ : mark.kind = .semicolon ∧ depth = 0 := h
    simp [Prelude.Stops, tokens, hk, hd]
  | close => exact fun t ht => .inr (.inl (h t ht))

lemma Follows.splitEnding {depth : Nat} {rest : List Token} {ending : PreludeEnd}
    (h : ending.Follows depth rest) :
    Statement.splitEnding (ending.tokens ++ rest) = (ending, rest) := by
  cases ending with
  | block brace =>
    have hk : brace.kind = .leftBrace := h
    simp [tokens, Statement.splitEnding, hk]
  | semicolon mark =>
    have hk : mark.kind = .semicolon := h.1
    simp [tokens, Statement.splitEnding, hk]
  | close =>
    rcases rest with _ | ⟨t, rest⟩
    · rfl
    · have hk : t.kind = .rightBrace := h t (by simp)
      simp [tokens, Statement.splitEnding, hk]

end PreludeEnd

lemma Statement.splitEnding_spec {depth : Nat} {ts : List Token} (h : Prelude.Stops depth ts) :
    (splitEnding ts).1.Follows depth (splitEnding ts).2 ∧
      (splitEnding ts).1.tokens ++ (splitEnding ts).2 = ts := by
  rcases ts with _ | ⟨t, ts⟩
  · simp [splitEnding, PreludeEnd.Follows, PreludeEnd.tokens]
  · rcases h t (by simp) with hk | hk | ⟨hk, hd⟩
    · simp [splitEnding, hk, PreludeEnd.Follows, PreludeEnd.tokens]
    · simp [splitEnding, hk, PreludeEnd.Follows, PreludeEnd.tokens]
    · simp [splitEnding, hk, hd, PreludeEnd.Follows, PreludeEnd.tokens]

/-! ### Statements -/

namespace Statement

def tokens : Statement → List Token
  | closeBlock brace => [brace]
  | comment t => [t]
  | atRule name head ending => name :: head ++ ending.tokens
  | qualified head ending => head ++ ending.tokens

/-- What the tokens of a statement are, when `rest` comes after it. -/
inductive Shaped (rest : List Token) : Statement → Prop
  | closeBlock {brace : Token} (hk : brace.kind = .rightBrace) : Shaped rest (.closeBlock brace)
  | comment {t : Token} (hk : t.kind = .comment) : Shaped rest (.comment t)
  | atRule {name : Token} {head : List Token} {ending : PreludeEnd} {depth : Nat}
      (hk : name.kind = .atKeyword ∨ name.kind = .atSign)
      (hd : Prelude.depth? 0 head = some depth) (he : ending.Follows depth rest) :
      Shaped rest (.atRule name head ending)
  | bare {brace : Token} (hk : brace.kind = .leftBrace) :
      Shaped rest (.qualified [] (.block brace))
  | qualified {t : Token} {head : List Token} {ending : PreludeEnd} {depth : Nat}
      (hk : t.kind.startsHead = true) (hd : Prelude.depth? 0 (t :: head) = some depth)
      (he : ending.Follows depth rest) : Shaped rest (.qualified (t :: head) ending)

lemma Shaped.next {rest : List Token} {st : Statement} (h : st.Shaped rest) :
    ∃ t ts, st.tokens ++ rest = t :: ts ∧ next t ts = (some st, rest) := by
  cases h with
  | closeBlock hk => exact ⟨_, _, rfl, by simp [Statement.next, hk]⟩
  | comment hk => exact ⟨_, _, rfl, by simp [Statement.next, hk]⟩
  | bare hk => exact ⟨_, _, rfl, by simp [Statement.next, hk]⟩
  | @atRule name head ending depth hk hd he =>
    refine ⟨name, head ++ ending.tokens ++ rest, rfl, ?_⟩
    have hn := preludeLength_eq hd he.stops
    rw [List.append_assoc]
    rcases hk with hk | hk <;> simp [Statement.next, hk, hn, he.splitEnding]
  | @qualified t head ending depth hk hd he =>
    refine ⟨t, head ++ ending.tokens ++ rest, rfl, ?_⟩
    have hn := preludeLength_eq hd he.stops
    rw [List.cons_append, List.length_cons] at hn
    rw [List.append_assoc]
    unfold Statement.next
    split <;> simp_all [TokenKind.startsHead, he.splitEnding]

/-- The kinds of token that are dropped between statements. -/
def isGap (k : TokenKind) : Bool := k = .whitespace || k = .semicolon

lemma next_of_isGap {t : Token} (h : isGap t.kind = true) (ts : List Token) :
    next t ts = (none, ts) := by
  simp only [isGap, Bool.or_eq_true, decide_eq_true_eq] at h
  rcases h with h | h <;> simp [next, h]

/-- What `next` takes is a statement, or one token that is dropped. -/
lemma next_spec (t : Token) (ts : List Token) :
    (isGap t.kind = true ∧ next t ts = (none, ts)) ∨
      ∃ st rest, next t ts = (some st, rest) ∧ t :: ts = st.tokens ++ rest ∧ st.Shaped rest := by
  by_cases hgap : isGap t.kind = true
  · exact .inl ⟨hgap, next_of_isGap hgap ts⟩
  refine .inr ?_
  by_cases hat : t.kind = .atKeyword ∨ t.kind = .atSign
  · -- an at-rule
    obtain ⟨d, hd, hs⟩ := take_drop_preludeLength 0 ts
    obtain ⟨hf, happ⟩ := splitEnding_spec hs
    refine ⟨_, _, ?_, ?_, .atRule hat hd hf⟩
    · rcases hat with h | h <;> simp [next, h]
    · simp [tokens, happ]
  by_cases hhead : t.kind.startsHead = true
  · -- a selector or a declaration: the first token is part of the prelude
    obtain ⟨d, hd, hs⟩ := take_drop_preludeLength 0 (t :: ts)
    obtain ⟨n, hn⟩ : ∃ n, preludeLength 0 (t :: ts) = n + 1 := by
      rw [preludeLength_cons, if_neg]
      · exact ⟨_, rfl⟩
      · rintro (h | h | ⟨h, -⟩) <;> simp [h, TokenKind.startsHead] at hhead
    rw [hn, List.take_succ_cons] at hd
    rw [hn, List.drop_succ_cons] at hs
    obtain ⟨hf, happ⟩ := splitEnding_spec hs
    refine ⟨_, _, ?_, ?_, .qualified hhead hd hf⟩
    · unfold next
      split <;> simp_all [TokenKind.startsHead]
    · simp [tokens, happ]
  · -- a brace or a comment stands for itself
    cases hk : t.kind with
    | rightBrace => exact ⟨.closeBlock t, ts, by simp [next, hk], rfl, .closeBlock hk⟩
    | comment => exact ⟨.comment t, ts, by simp [next, hk], rfl, .comment hk⟩
    | leftBrace => exact ⟨.qualified [] (.block t), ts, by simp [next, hk], rfl, .bare hk⟩
    | _ => simp_all [TokenKind.startsHead, isGap]

/-- The tokens are the statements, with white space and semicolons between them. -/
inductive Groups : List Token → List Statement → Prop
  | nil : Groups [] []
  | gap {t : Token} {ts : List Token} {sts : List Statement} (hk : isGap t.kind = true)
      (h : Groups ts sts) : Groups (t :: ts) sts
  | take {st : Statement} {rest : List Token} {sts : List Statement} (hs : st.Shaped rest)
      (h : Groups rest sts) : Groups (st.tokens ++ rest) (st :: sts)

lemma Groups.exists_of_mem {ts : List Token} {sts : List Statement} (h : Groups ts sts)
    {st : Statement} (hst : st ∈ sts) :
    ∃ pre rest, ts = pre ++ (st.tokens ++ rest) ∧ st.Shaped rest := by
  induction h with
  | nil => simp at hst
  | @gap t ts sts hk h ih =>
    obtain ⟨pre, rest, rfl, hs⟩ := ih hst
    exact ⟨t :: pre, rest, rfl, hs⟩
  | @take st' rest sts hs h ih =>
    rcases List.mem_cons.mp hst with rfl | hst
    · exact ⟨[], rest, rfl, hs⟩
    · obtain ⟨pre, rest', rfl, hs'⟩ := ih hst
      exact ⟨st'.tokens ++ pre, rest', by simp, hs'⟩

lemma groups_ofTokens (ts : List Token) : Groups ts (ofTokens ts) := by
  fun_induction ofTokens ts with
  | case1 => exact .nil
  | case2 t ts ih =>
    rcases next_spec t ts with ⟨hk, hn⟩ | ⟨st, rest, hn, happ, hs⟩
    · rw [hn] at ih ⊢
      exact .gap hk ih
    · rw [hn] at ih ⊢
      rw [happ]
      exact .take hs ih

lemma Groups.eq_ofTokens {ts : List Token} {sts : List Statement} (h : Groups ts sts) :
    ofTokens ts = sts := by
  induction h with
  | nil => rw [ofTokens]
  | gap hk h ih => rw [ofTokens, next_of_isGap hk, ih]; rfl
  | take hs h ih =>
    obtain ⟨t, ts, happ, hn⟩ := hs.next
    rw [happ, ofTokens, hn, ih]
    rfl

lemma ofTokens_take {st : Statement} {rest : List Token} (hs : st.Shaped rest) :
    ofTokens (st.tokens ++ rest) = st :: ofTokens rest :=
  (Groups.take hs (groups_ofTokens rest)).eq_ofTokens

lemma ofTokens_gap {t : Token} (hk : isGap t.kind = true) (ts : List Token) :
    ofTokens (t :: ts) = ofTokens ts :=
  (Groups.gap hk (groups_ofTokens ts)).eq_ofTokens

/-- **Grouping is the one reading of the grammar.** -/
theorem groups_iff {ts : List Token} {sts : List Statement} :
    Groups ts sts ↔ ofTokens ts = sts :=
  ⟨Groups.eq_ofTokens, fun h => h ▸ groups_ofTokens ts⟩

end Statement
end StyleScope
