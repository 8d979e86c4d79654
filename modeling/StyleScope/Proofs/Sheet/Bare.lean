import StyleScope.Proofs.Sheet.Faults
import StyleScope.Proofs.Text.Trim
import StyleScope.Proofs.Token.Moving

/-!
Statements without their places.

Where a token stands matters for spans alone. Tokens that differ in their offsets are grouped
alike, the statements have the same faults, and a prelude is free of faults when every string
and comment in it has its end and every bracket is closed.
-/

namespace StyleScope

/-! ### Preludes -/

namespace Prelude

/-- The number of open brackets after a run of tokens. -/
def level (depth : Nat) (ts : List Token) : Nat :=
  ts.foldl (fun depth t => t.kind.deepen depth) depth

lemma depth?_eq_some {depth d : Nat} {ts : List Token} :
    depth? depth ts = some d ↔
      (∀ t ∈ ts, t.kind ≠ .leftBrace ∧ t.kind ≠ .rightBrace) ∧
      (∀ before mark after, ts = before ++ mark :: after → mark.kind = .semicolon →
        0 < level depth before) ∧ level depth ts = d := by
  induction ts generalizing depth with
  | nil => simp [depth?, level]
  | cons t ts ih =>
    have hlevel (before : List Token) :
        level depth (t :: before) = level (t.kind.deepen depth) before := rfl
    rw [depth?, hlevel]
    constructor
    · intro h
      split_ifs at h with hstop
      simp only [not_or, not_and] at hstop
      obtain ⟨hbrace, hmark, hd⟩ := ih.mp h
      refine ⟨by simpa [hstop.1, hstop.2.1] using hbrace, ?_, hd⟩
      rintro (_ | ⟨t', before⟩) mark after heq hk
      · obtain ⟨rfl, -⟩ := List.cons.inj heq
        exact Nat.pos_of_ne_zero (hstop.2.2 hk)
      · obtain ⟨rfl, hts⟩ := List.cons.inj heq
        exact hmark before mark after hts hk
    · rintro ⟨hbrace, hmark, hd⟩
      obtain ⟨hleft, hright⟩ := hbrace t (by simp)
      have hsemi : ¬ (t.kind = .semicolon ∧ depth = 0) := by
        rintro ⟨hk, hzero⟩
        exact absurd (hmark [] t ts rfl hk) (by simp [level, hzero])
      rw [if_neg (by simp [hleft, hright, hsemi])]
      exact ih.mpr ⟨fun t' ht' => hbrace t' (by simp [ht']),
        fun before mark after heq hk => hmark (t :: before) mark after (by simp [heq]) hk, hd⟩

lemma level_eq_of_depth? {depth d : Nat} {ts : List Token} (h : depth? depth ts = some d) :
    level depth ts = d :=
  (depth?_eq_some.mp h).2.2

lemma unended?_eq_none {t : Token} : unended? t = none ↔ Token.Ended t.kind t.text := by
  unfold unended? Token.Ended
  split <;> simp_all

lemma length_openBrackets (stack ts : List Token) :
    (openBrackets stack ts).length = level stack.length ts := by
  induction ts generalizing stack with
  | nil => rfl
  | cons t ts ih =>
    have hlevel (n : Nat) : level n (t :: ts) = level (t.kind.deepen n) ts := rfl
    rw [openBrackets, hlevel]
    cases hk : t.kind <;> simp [ih, TokenKind.deepen]

/-- **A prelude has no faults when all that it opens is closed.** -/
theorem errors_eq_nil {ts : List Token} :
    errors ts = [] ↔ (∀ t ∈ ts, Token.Ended t.kind t.text) ∧ level 0 ts = 0 := by
  have hopen : openBrackets [] ts = [] ↔ level 0 ts = 0 := by
    rw [← List.length_eq_zero_iff, length_openBrackets, List.length_nil]
  simp [errors, List.filterMap_eq_nil_iff, unended?_eq_none, hopen]

@[simp] lemma level_bare (depth : Nat) (ts : List Token) :
    level depth (ts.map Piece.bare) = level depth ts := by
  simp [level, List.foldl_map, Piece.bare]

@[simp] lemma depth?_bare (depth : Nat) (ts : List Token) :
    depth? depth (ts.map Piece.bare) = depth? depth ts := by
  induction ts generalizing depth with
  | nil => rfl
  | cons t ts ih =>
    have hk : t.bare.kind = t.kind := rfl
    simp only [List.map_cons, depth?, hk, ih]

lemma errors_bare {ts : List Token} : errors (ts.map Piece.bare) = [] ↔ errors ts = [] := by
  simp only [errors_eq_nil, level_bare, List.forall_mem_map]
  rfl

@[simp] lemma content_bare (ts : List Token) :
    content (ts.map Piece.bare) = (content ts).map Piece.bare := by
  unfold content
  induction ts with
  | nil => rfl
  | cons t ts ih =>
    have hk : t.bare.kind = t.kind := rfl
    rw [List.map_cons, dropTailWhile_cons, dropTailWhile_cons, ih, hk]
    split_ifs <;> simp_all

lemma splitColon?_bare (depth : Nat) (ts : List Token) :
    splitColon? depth (ts.map Piece.bare) =
      (splitColon? depth ts).map fun p => (p.1.map Piece.bare, p.2.map Piece.bare) := by
  induction ts generalizing depth with
  | nil => rfl
  | cons t ts ih =>
    have hk : t.bare.kind = t.kind := rfl
    simp only [List.map_cons, splitColon?, hk, ih, Option.map_map]
    cases t.kind <;> simp [Function.comp_def]
    split_ifs <;> simp [Function.comp_def]

end Prelude

lemma Declaration.ofTokens?_bare (ts : List Token) :
    ofTokens? (ts.map Piece.bare) = ofTokens? ts := by
  simp [ofTokens?, Prelude.splitColon?_bare, Function.comp_def]

/-! ### Statements -/

def PreludeEnd.bare : PreludeEnd → PreludeEnd
  | block brace => block brace.bare
  | semicolon mark => semicolon mark.bare
  | close => close

namespace Statement

def bare : Statement → Statement
  | closeBlock brace => closeBlock brace.bare
  | comment t => comment t.bare
  | atRule name head ending => atRule name.bare (head.map Piece.bare) ending.bare
  | qualified head ending => qualified (head.map Piece.bare) ending.bare

lemma tokens_bare (st : Statement) : st.bare.tokens = st.tokens.map Piece.bare := by
  have hend (ending : PreludeEnd) : ending.bare.tokens = ending.tokens.map Piece.bare := by
    cases ending <;> rfl
  cases st <;> simp [bare, tokens, hend]

lemma Shaped.map_bare {st : Statement} {rest : List Token} (h : st.Shaped rest) :
    st.bare.Shaped (rest.map Piece.bare) := by
  have hend {depth : Nat} {ending : PreludeEnd} (he : ending.Follows depth rest) :
      ending.bare.Follows depth (rest.map Piece.bare) := by
    cases ending with
    | close =>
      intro t ht
      rw [List.head?_map] at ht
      obtain ⟨t', ht', rfl⟩ := Option.map_eq_some_iff.mp ht
      exact he t' ht'
    | _ => exact he
  cases h with
  | closeBlock hk => exact .closeBlock hk
  | comment hk => exact .comment hk
  | bare hk => exact .bare hk
  | atRule hk hd he => exact .atRule hk (by simpa using hd) (hend he)
  | qualified hk hd he =>
    rw [← Prelude.depth?_bare] at hd
    exact .qualified hk hd (hend he)

lemma Groups.bare {ts : List Token} {sts : List Statement} (h : Groups ts sts) :
    Groups (ts.map Piece.bare) (sts.map Statement.bare) := by
  induction h with
  | nil => exact .nil
  | gap hk h ih => exact .gap hk ih
  | take hs h ih =>
    rw [List.map_append, ← tokens_bare]
    exact .take hs.map_bare ih

/-- **Tokens are grouped alike wherever they stand.** -/
theorem ofTokens_bare (ts : List Token) :
    ofTokens (ts.map Piece.bare) = (ofTokens ts).map Statement.bare :=
  (groups_ofTokens ts).bare.eq_ofTokens

lemma faultless_bare {inside : Bool} {st : Statement} :
    st.bare.Faultless inside ↔ st.Faultless inside := by
  cases st with
  | qualified head ending =>
    cases ending <;> simp [bare, PreludeEnd.bare, Faultless, Prelude.errors_bare,
      Declaration.ofTokens?_bare]
  | atRule name head ending => exact and_congr_right fun _ => Prelude.errors_bare
  | _ => rfl

lemma nest_bare (depth : Nat) (st : Statement) : st.bare.nest depth = st.nest depth := by
  cases st with
  | atRule name head ending => cases ending <;> rfl
  | qualified head ending => cases ending <;> rfl
  | _ => rfl

lemma sound_bare {depth : Nat} {sts : List Statement} :
    Sound depth (sts.map Statement.bare) ↔ Sound depth sts := by
  induction sts generalizing depth with
  | nil => rfl
  | cons st sts ih => simp only [List.map_cons, Sound, faultless_bare, nest_bare, ih]

end Statement
end StyleScope
