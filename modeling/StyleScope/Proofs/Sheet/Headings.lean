import StyleScope.Proofs.Sheet.Shape
import StyleScope.Proofs.Sheet.Splice

/-!
A source told anew with other headings.

The heading of a rule is the text before its brace. When the headings of a source are replaced
by texts that end as whole tokens before the brace, each new heading is read as if it stood
alone, and everything between the headings is read as before.
-/

namespace StyleScope

open Token (LexesTo Lexes Spelled SelfEnding lexemes lexemes_append)

namespace Statement

lemma ofTokens_lexemes_spaces {spaces : Text} (hs : ∀ c ∈ spaces, Token.isSpace c = true)
    (out : Text) : ofTokens (lexemes (spaces ++ out)) = ofTokens (lexemes out) := by
  -- white space that is followed by none is one token, or nothing
  have hone {ws rest : Text} (hws : ∀ c ∈ ws, Token.isSpace c = true)
      (hr : ∀ c ∈ rest.head?, Token.isSpace c = false) :
      ofTokens (lexemes (ws ++ rest)) = ofTokens (lexemes rest) := by
    rcases ws with _ | ⟨c, ws⟩
    · rfl
    · have hlex : LexesTo [⟨.whitespace, 0, c :: ws⟩] rest := ⟨.whitespace hws hr, trivial⟩
      have htokens := lexemes_append hlex
      simp only [Piece.textOf_cons, Piece.textOf_nil, List.append_nil] at htokens
      rw [htokens, List.map_cons, List.cons_append, ofTokens_gap (by rfl)]
      rfl
  have hout := List.takeWhile_append_dropWhile (p := Token.isSpace) (l := out)
  have hmore : ∀ c ∈ out.takeWhile Token.isSpace, Token.isSpace c = true :=
    fun c hc => List.mem_takeWhile_imp hc
  have hstop : ∀ c ∈ (out.dropWhile Token.isSpace).head?, Token.isSpace c = false := by
    intro c hc
    have hnot := List.head?_dropWhile_not Token.isSpace out
    rw [show (out.dropWhile Token.isSpace).head? = some c from hc] at hnot
    exact hnot
  rw [← hout, ← List.append_assoc, hone hmore hstop]
  refine hone (fun c hc => ?_) hstop
  exact (List.mem_append.mp hc).elim (hs c) (hmore c)

/-! ### Headings -/

def openBrace : Token := ⟨.leftBrace, 0, ['{']⟩

/-- The tokens are read from `text` when a brace follows it, and nothing is left open by them. -/
structure Heading (text : Text) (head : List Token) : Prop where
  text_eq : Piece.textOf head = text
  lexes : LexesTo head ['{']
  ended : ∀ t ∈ head, Token.Ended t.kind t.text
  level : Prelude.depth? 0 head = some 0

lemma lexemes_openBrace {head : List Token} (h : LexesTo head ['{']) (out : Text) :
    lexemes (Piece.textOf head ++ '{' :: out) =
      head.map Piece.bare ++ openBrace :: lexemes out := by
  have hlex : LexesTo (head ++ [openBrace]) out :=
    Token.lexesTo_append.mpr ⟨h.congr_rest rfl, .leftBrace, trivial⟩
  have htokens := lexemes_append hlex
  rw [Piece.textOf_append, List.append_assoc, List.map_append, List.append_assoc] at htokens
  exact htokens

lemma map_bare_eq_of_lexesTo {head head' : List Token} (h : LexesTo head ['{'])
    (h' : LexesTo head' ['{']) (htext : Piece.textOf head = Piece.textOf head') :
    head.map Piece.bare = head'.map Piece.bare := by
  have heq := lexemes_openBrace h []
  rw [htext, lexemes_openBrace h' []] at heq
  exact List.append_cancel_right heq.symm

lemma Heading.lexemes_append {text : Text} {head : List Token} (h : Heading text head)
    (out : Text) :
    lexemes (text ++ '{' :: out) = head.map Piece.bare ++ openBrace :: lexemes out := by
  rw [← h.text_eq]
  exact lexemes_openBrace h.lexes out

/-- What the tokens of a heading are to the grouping: nothing, white space or a comment and then
a heading, or one prelude. -/
lemma ofTokens_heading_cases {brace : Token} (hb : brace.kind = .leftBrace) {t : Token}
    {ts : List Token} (h : Prelude.depth? 0 (t :: ts) = some 0) :
    t.kind = .whitespace ∧ Prelude.depth? 0 ts = some 0 ∧
        (∀ rest, ofTokens (t :: ts ++ brace :: rest) = ofTokens (ts ++ brace :: rest)) ∨
      t.kind = .comment ∧ Prelude.depth? 0 ts = some 0 ∧
        (∀ rest, ofTokens (t :: ts ++ brace :: rest) =
          .comment t :: ofTokens (ts ++ brace :: rest)) ∨
      (∀ rest, ofTokens (t :: ts ++ brace :: rest) =
          .atRule t ts (.block brace) :: ofTokens rest) ∧ t.kind.startsHead = false ∨
      t.kind.startsHead = true ∧
        ∀ rest, ofTokens (t :: ts ++ brace :: rest) =
          .qualified (t :: ts) (.block brace) :: ofTokens rest := by
  have hlevel := h
  rw [Prelude.depth?] at hlevel
  split_ifs at hlevel with hstop
  by_cases hat : t.kind = .atKeyword ∨ t.kind = .atSign
  · have hdeep : t.kind.deepen 0 = 0 := by rcases hat with hk | hk <;> rw [hk] <;> rfl
    rw [hdeep] at hlevel
    refine .inr (.inr (.inl ⟨fun rest => ?_, ?_⟩))
    · have htake := @ofTokens_take _ rest
        (.atRule hat hlevel (show (PreludeEnd.block brace).Follows 0 rest from hb))
      simpa [tokens, PreludeEnd.tokens] using htake
    · rcases hat with hk | hk <;> rw [hk] <;> rfl
  by_cases hhead : t.kind.startsHead = true
  · refine .inr (.inr (.inr ⟨hhead, fun rest => ?_⟩))
    have htake := @ofTokens_take _ rest
      (.qualified hhead h (show (PreludeEnd.block brace).Follows 0 rest from hb))
    simpa [tokens, PreludeEnd.tokens] using htake
  · cases hk : t.kind with
    | whitespace =>
      rw [hk] at hlevel
      exact .inl ⟨rfl, hlevel, fun rest => ofTokens_gap (by simp [isGap, hk]) _⟩
    | comment =>
      rw [hk] at hlevel
      exact .inr (.inl ⟨rfl, hlevel, fun rest => ofTokens_take (.comment hk)⟩)
    | _ => simp_all [TokenKind.startsHead]

lemma ofTokens_nil_heading {brace : Token} (hb : brace.kind = .leftBrace) (rest : List Token) :
    ofTokens (brace :: rest) = .qualified [] (.block brace) :: ofTokens rest :=
  ofTokens_take (.bare hb)

/-- **A heading is grouped by itself.** -/
theorem ofTokens_heading {brace : Token} (hb : brace.kind = .leftBrace) {head : List Token}
    (h : Prelude.depth? 0 head = some 0) (rest : List Token) :
    ofTokens (head ++ brace :: rest) = ofTokens (head ++ [brace]) ++ ofTokens rest := by
  have hnil : ofTokens [] = [] := by rw [ofTokens]
  induction head with
  | nil =>
    rw [List.nil_append, List.nil_append, ofTokens_nil_heading hb, ofTokens_nil_heading hb, hnil]
    rfl
  | cons t ts ih =>
    rcases ofTokens_heading_cases hb h with
      ⟨-, hts, heq⟩ | ⟨-, hts, heq⟩ | ⟨heq, -⟩ | ⟨-, heq⟩
    · rw [heq, heq, ih hts]
    · rw [heq, heq, ih hts]
      rfl
    · rw [heq, heq, hnil]
      rfl
    · rw [heq, heq, hnil]
      rfl

lemma Heading.ofTokens_append {text : Text} {head : List Token} (h : Heading text head)
    (out : Text) : ofTokens (lexemes (text ++ '{' :: out)) =
      ofTokens (lexemes (text ++ ['{'])) ++ ofTokens (lexemes out) := by
  have hlevel : Prelude.depth? 0 (head.map Piece.bare) = some 0 := by simpa using h.level
  rw [h.lexemes_append, h.lexemes_append [], Token.lexemes_nil]
  exact ofTokens_heading rfl hlevel _

/-! ### Between the headings -/

lemma Shaped.brace_kind {head rest : List Token} {brace : Token}
    (hs : (Statement.qualified head (.block brace)).Shaped rest) : brace.kind = .leftBrace := by
  cases hs with
  | bare hk => exact hk
  | qualified hk hd he => exact he

lemma Shaped.rest_cases {st : Statement} {rest : List Token} (hs : st.Shaped rest)
    (hlex : LexesTo st.tokens (Piece.textOf rest))
    (hend : ∀ t ∈ st.tokens, Token.Ended t.kind t.text) :
    (∀ rest' out, st.Shaped rest' ∧ LexesTo st.tokens out) ∨
      (∀ t ∈ rest.head?, t.kind = .rightBrace) ∧
        ∀ rest', (∀ t ∈ rest'.head?, t.kind = .rightBrace) → st.Shaped rest' := by
  -- a last token that ends by itself
  have hfree {before : List Token} {last : Token} (heq : st.tokens = before ++ [last])
      (hself : SelfEnding last) (hshape : ∀ rest', st.Shaped rest') :
      ∀ rest' out, st.Shaped rest' ∧ LexesTo st.tokens out := by
    intro rest' out
    rw [heq] at hlex ⊢
    exact ⟨hshape rest', hlex.of_selfEnding hself out⟩
  have hending {depth : Nat} {ending : PreludeEnd} (he : ending.Follows depth rest) :
      (∃ last, ending.tokens = [last] ∧ SelfEnding last ∧
        ∀ rest', ending.Follows depth rest') ∨
      (∀ t ∈ rest.head?, t.kind = .rightBrace) ∧
        ∀ rest', (∀ t ∈ rest'.head?, t.kind = .rightBrace) → ending.Follows depth rest' := by
    cases ending with
    | block brace => exact .inl ⟨brace, rfl, .inl he, fun _ => he⟩
    | semicolon mark => exact .inl ⟨mark, rfl, .inr (.inr (.inl he.1)), fun _ => he⟩
    | close => exact .inr ⟨he, fun _ h => h⟩
  cases hs with
  | @closeBlock brace hk =>
    exact .inl (@hfree [] _ rfl (.inr (.inl hk)) fun _ => .closeBlock hk)
  | @comment t hk =>
    have hclosed := (hend t (by simp [tokens])).2 hk
    exact .inl (@hfree [] _ rfl (.inr (.inr (.inr ⟨hk, hclosed⟩))) fun _ => .comment hk)
  | @bare brace hk => exact .inl (@hfree [] _ rfl (.inl hk) fun _ => .bare hk)
  | @atRule name head ending depth hk hd he =>
    rcases hending he with ⟨last, hlast, hself, hfollows⟩ | ⟨hclose, hfollows⟩
    · refine .inl (@hfree (name :: head) _ ?_ hself fun rest' => .atRule hk hd (hfollows _))
      rw [tokens, hlast]
    · exact .inr ⟨hclose, fun rest' h => .atRule hk hd (hfollows rest' h)⟩
  | @qualified t head ending depth hk hd he =>
    rcases hending he with ⟨last, hlast, hself, hfollows⟩ | ⟨hclose, hfollows⟩
    · refine .inl (@hfree (t :: head) _ ?_ hself fun rest' => .qualified hk hd (hfollows _))
      rw [tokens, hlast]
    · exact .inr ⟨hclose, fun rest' h => .qualified hk hd (hfollows rest' h)⟩

lemma Retold.of_rightBrace {ts : List Token} {sts : List Statement} {news : List Text} {out : Text}
    (h : Retold ts sts news out) (hlex : Lexes ts) (hb : ∀ t ∈ ts.head?, t.kind = .rightBrace) :
    out.head? = (Piece.textOf ts).head? ∧ ∀ t ∈ (lexemes out).head?, t.kind = .rightBrace := by
  have hnone {st : Statement} {rest : List Token} (hs : st.Shaped rest)
      (hb : ∀ t ∈ (st.tokens ++ rest).head?, t.kind = .rightBrace) :
      ∃ brace, st = .closeBlock brace ∧ brace.kind = .rightBrace := by
    cases hs with
    | closeBlock hk => exact ⟨_, rfl, hk⟩
    | comment hk => simp [hb _ rfl] at hk
    | bare hk => simp [hb _ rfl] at hk
    | atRule hk hd he => simp [hb _ rfl] at hk
    | qualified hk hd he => simp [hb _ rfl, TokenKind.startsHead] at hk
  cases h with
  | nil => simp
  | gap hk h => simp [hb _ rfl, isGap] at hk
  | @keep st rest sts news out hs hr h =>
    obtain ⟨brace, rfl, hk⟩ := hnone hs hb
    have htext : brace.text = ['}'] := hlex.1.eq_rightBrace hk
    have hto : LexesTo [⟨.rightBrace, 0, ['}']⟩] out := ⟨.rightBrace, trivial⟩
    have hlexemes := lexemes_append hto
    simp only [Piece.textOf_cons, Piece.textOf_nil, List.append_nil] at hlexemes
    simp only [tokens, Piece.textOf_cons, Piece.textOf_nil, List.append_nil, htext,
      List.cons_append, List.nil_append] at hlexemes ⊢
    rw [hlexemes]
    simp [Piece.bare]
  | @rule head rest brace sts new news out hs h =>
    obtain ⟨_, hst, -⟩ := hnone hs (by simpa [tokens, PreludeEnd.tokens] using hb)
    cases hst

lemma Retold.shaped_keep {st : Statement} {rest : List Token} {sts : List Statement}
    {news : List Text} {out : Text} (h : Retold rest sts news out) (hs : st.Shaped rest)
    (hlex : Lexes (st.tokens ++ rest)) (hend : ∀ t ∈ st.tokens, Token.Ended t.kind t.text) :
    st.Shaped (lexemes out) ∧ LexesTo st.tokens out := by
  obtain ⟨hto, hrest⟩ := Token.lexes_append.mp hlex
  rcases hs.rest_cases hto hend with hfree | ⟨hclose, hshape⟩
  · exact hfree (lexemes out) out
  · obtain ⟨hhead, hbrace⟩ := h.of_rightBrace hrest hclose
    exact ⟨hshape _ hbrace, hto.congr_rest hhead.symm⟩

/-- The statements `vs` are the statements `sts`, where every rule is replaced by what its new
selector and the text before the block are read as. -/
inductive Matched : List Statement → List Text → List Statement → Prop
  | nil : Matched [] [] []
  | keep {st : Statement} {sts vs : List Statement} {news : List Text} (hr : st.rule? = none)
      (h : Matched sts news vs) : Matched (st :: sts) news (st.bare :: vs)
  | rule {head : List Token} {brace : Token} {sts vs : List Statement} {new : Text}
      {news : List Text} (h : Matched sts news vs) :
      Matched (.qualified head (.block brace) :: sts) (new :: news)
        (ofTokens (lexemes (new ++ Piece.textOf (Prelude.trailing head) ++ ['{'])) ++ vs)

/-- **With new headings, a source is read as before between them.** -/
theorem Retold.matched {ts : List Token} {sts : List Statement} {news : List Text} {out : Text}
    (h : Retold ts sts news out) (hlex : Lexes ts) (hend : ∀ t ∈ ts, Token.Ended t.kind t.text)
    (hheads : List.Forall₂ (fun r new => ∃ head, Heading (new ++ r.between) head)
      (sts.filterMap rule?) news) : Matched sts news (ofTokens (lexemes out)) := by
  induction h with
  | nil =>
    rw [Token.lexemes_nil, ofTokens]
    exact .nil
  | @gap t ts sts news out hk h ih =>
    have hrest := ih hlex.2 (fun t' ht' => hend t' (by simp [ht'])) hheads
    have hdrop : ofTokens (lexemes (t.text ++ out)) = ofTokens (lexemes out) := by
      obtain ⟨kind, start, text⟩ := t
      have hspell : Spelled kind text (Piece.textOf ts) := hlex.1
      cases hspell with
      | whitespace hs hr => exact ofTokens_lexemes_spaces hs out
      | semicolon =>
        have hto : LexesTo [⟨.semicolon, 0, [';']⟩] out := ⟨.semicolon, trivial⟩
        have hlexemes := lexemes_append hto
        simp only [Piece.textOf_cons, Piece.textOf_nil, List.append_nil] at hlexemes
        rw [hlexemes, List.map_cons, List.cons_append, ofTokens_gap (by rfl)]
        rfl
      | _ => simp [isGap] at hk
    rw [hdrop]
    exact hrest
  | @keep st rest sts news out hs hr h ih =>
    rw [List.filterMap_cons, hr] at hheads
    have hrest := (Token.lexes_append.mp hlex).2
    have hmatched := ih hrest (fun t ht => hend t (by simp [ht])) hheads
    have hsame := h.shaped_keep hs hlex fun t ht => hend t (by simp [ht])
    have hbare := hsame.1.map_bare
    rw [Token.map_bare_lexemes] at hbare
    rw [lexemes_append hsame.2, ← tokens_bare, ofTokens_take hbare]
    exact .keep hr hmatched
  | @rule head rest brace sts new news out hs h ih =>
    obtain ⟨-, hspell, hrest⟩ := Token.lexes_append.mp hlex
    have hbrace := hspell.eq_leftBrace hs.brace_kind
    simp only [List.filterMap_cons, rule?, List.forall₂_cons] at hheads
    obtain ⟨⟨head', hhead⟩, hheads⟩ := hheads
    have hmatched := ih hrest (fun t ht => hend t (by simp [ht])) hheads
    have hsplit := hhead.ofTokens_append out
    rw [hbrace, ← List.append_assoc, List.cons_append, List.nil_append, hsplit]
    exact .rule hmatched

/-! ### Headings that open a rule -/

/-- The text is read as the selector of a rule when a brace follows it. -/
def Opens (text : Text) : Prop :=
  ∃ t ts, Heading text (t :: ts) ∧ t.kind.startsHead = true

lemma Opens.ofTokens_eq {text : Text} (h : Opens text) :
    ∃ head, ofTokens (lexemes (text ++ ['{'])) = [.qualified head (.block openBrace)] ∧
      ∀ inside, (Statement.qualified head (.block openBrace)).Faultless inside := by
  obtain ⟨t, ts, hhead, hstart⟩ := h
  have hlevel : Prelude.depth? 0 (t.bare :: ts.map Piece.bare) = some 0 := by
    simpa using (Prelude.depth?_bare 0 (t :: ts)).trans hhead.level
  have hshape : (qualified (t.bare :: ts.map Piece.bare) (.block openBrace)).Shaped [] :=
    .qualified hstart hlevel rfl
  have htake := ofTokens_take hshape
  refine ⟨(t :: ts).map Piece.bare, ?_, fun inside => ⟨Prelude.errors_bare.mpr ?_, ?_⟩⟩
  · rw [hhead.lexemes_append [], Token.lexemes_nil]
    rw [ofTokens, List.append_nil] at htake
    exact htake
  · exact Prelude.errors_eq_nil.mpr ⟨hhead.ended, Prelude.level_eq_of_depth? hhead.level⟩
  · rw [Prelude.content_bare, Piece.textOf_bare, Prelude.content_of_startsHead hstart,
      Piece.textOf_cons]
    have hne : t.text ≠ [] := hhead.lexes.1.ne_nil
    simp [hne]

/-- **Headings that open rules keep a source free of faults, and its shape.** -/
theorem Matched.sound {sts vs : List Statement} {news : List Text} (h : Matched sts news vs)
    (hopens : List.Forall₂ (fun r new => Opens (new ++ r.between)) (sts.filterMap rule?) news)
    {depth : Nat} (hsound : Sound depth sts) :
    Sound depth vs ∧ ∀ id path, shape id path vs = shape id path sts := by
  induction h generalizing depth with
  | nil => exact ⟨hsound, fun _ _ => rfl⟩
  | @keep st sts vs news hr h ih =>
    rw [List.filterMap_cons, hr] at hopens
    obtain ⟨hvs, hshape⟩ := ih hopens hsound.2
    refine ⟨⟨faultless_bare.mpr hsound.1, by rw [nest_bare]; exact hvs⟩, fun id path => ?_⟩
    rw [shape, shape, outline?_bare, openAfter_bare, hshape]
  | @rule head brace sts vs new news h ih =>
    simp only [List.filterMap_cons, rule?, List.forall₂_cons] at hopens
    obtain ⟨hvs, hshape⟩ := ih hopens.2 hsound.2
    obtain ⟨head', heq, hfaultless⟩ := hopens.1.ofTokens_eq
    rw [heq]
    refine ⟨⟨hfaultless _, hvs⟩, fun id path => ?_⟩
    rw [List.singleton_append, shape, shape, hshape]
    rfl

lemma exists_startsHead {head : List Token} (hlevel : Prelude.depth? 0 head = some 0)
    {vs : List Statement} {os : List Outline} {depth : Nat}
    (hout : (ofTokens (head.map Piece.bare ++ [openBrace]) ++ vs).filterMap outline? = .rule :: os)
    (hsound : Sound depth (ofTokens (head.map Piece.bare ++ [openBrace]) ++ vs)) :
    (∃ spaces t ts, head = spaces ++ t :: ts ∧ (∀ s ∈ spaces, s.kind = .whitespace) ∧
      t.kind.startsHead = true) ∧ vs.filterMap outline? = os ∧ ∃ depth', Sound depth' vs := by
  have hnil : ofTokens [] = [] := by rw [ofTokens]
  induction head with
  | nil =>
    rw [List.map_nil, List.nil_append, ofTokens_nil_heading rfl] at hsound
    exact absurd rfl hsound.1.2
  | cons t ts ih =>
    have hbare : Prelude.depth? 0 (t.bare :: ts.map Piece.bare) = some 0 :=
      (Prelude.depth?_bare 0 (t :: ts)).trans hlevel
    rw [List.map_cons] at hout hsound
    rcases @ofTokens_heading_cases openBrace rfl _ _ hbare with
      ⟨hk, hts, heq⟩ | ⟨hk, hts, heq⟩ | ⟨heq, -⟩ | ⟨hk, heq⟩
    · rw [heq] at hout hsound
      rw [Prelude.depth?_bare] at hts
      obtain ⟨⟨spaces, t', ts', rfl, hspaces, hstart⟩, hrest⟩ := ih hts hout hsound
      refine ⟨⟨t :: spaces, t', ts', rfl, ?_, hstart⟩, hrest⟩
      simpa using ⟨hk, hspaces⟩
    · rw [heq] at hout
      simp [outline?] at hout
    · rw [heq] at hout
      simp [outline?] at hout
    · rw [heq, hnil] at hout hsound
      refine ⟨⟨[], t, ts, rfl, by simp, hk⟩, ?_, _, hsound.2⟩
      simpa [outline?] using hout

/-- **A source that is read without faults and in its shape has headings that begin with a
selector.** -/
theorem Matched.startsHead {sts vs : List Statement} {news : List Text} (h : Matched sts news vs)
    (hheads : List.Forall₂ (fun r new => ∃ head, Heading (new ++ r.between) head)
      (sts.filterMap rule?) news) {depth : Nat} (hsound : Sound depth vs)
    (hout : vs.filterMap outline? = sts.filterMap outline?) :
    List.Forall₂ (fun r new => ∃ spaces t ts, Heading (new ++ r.between) (spaces ++ t :: ts) ∧
      (∀ s ∈ spaces, s.kind = .whitespace) ∧ t.kind.startsHead = true)
      (sts.filterMap rule?) news := by
  induction h generalizing depth with
  | nil => exact .nil
  | @keep st sts vs news hr h ih =>
    rw [List.filterMap_cons, hr] at hheads ⊢
    refine ih hheads hsound.2 ?_
    rw [List.filterMap_cons, List.filterMap_cons, outline?_bare] at hout
    cases ho : st.outline? <;> simpa [ho] using hout
  | @rule head brace sts vs new news h ih =>
    simp only [List.filterMap_cons, rule?, List.forall₂_cons] at hheads ⊢
    obtain ⟨⟨head', hhead⟩, hheads⟩ := hheads
    rw [hhead.lexemes_append [], Token.lexemes_nil] at hout hsound
    obtain ⟨⟨spaces, t, ts, rfl, hspaces, hstart⟩, hrest, depth', hsound'⟩ :=
      exists_startsHead hhead.level hout hsound
    exact ⟨⟨spaces, t, ts, hhead, hspaces, hstart⟩, ih hheads hsound' hrest⟩

end Statement
end StyleScope
