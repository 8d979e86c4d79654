import StyleScope.Proofs.Sheet.Bare
import StyleScope.Proofs.Sheet.Rules
import StyleScope.Proofs.Token.Endings

/-!
The grammar of style sheets.

`Body` says which runs of tokens are a sheet, or what stands between the braces of a block,
without a word about parsing: headings and their blocks, statements with a semicolon after them,
white space, semicolons and comments. The statement at the end of a body needs no semicolon. A
source parses without a fault exactly when its tokens are a sheet by this grammar.
-/

namespace StyleScope

namespace Grammar

open Prelude (level)

/-- Tokens that may stand in front of a brace or a semicolon. -/
structure IsPrelude (ts : List Token) : Prop where
  unbraced : ∀ t ∈ ts, t.kind ≠ .leftBrace ∧ t.kind ≠ .rightBrace
  /-- A semicolon stands inside brackets. -/
  enclosed : ∀ before mark after, ts = before ++ mark :: after → mark.kind = .semicolon →
    0 < level 0 before
  closed : ∀ t ∈ ts, t.IsClosed
  balanced : level 0 ts = 0

/-- A keyword with the prelude of its at-rule. -/
def IsAtRule (ts : List Token) : Prop :=
  ∃ name ps, ts = name :: ps ∧ name.kind = .atKeyword ∧ IsPrelude ps

/-- A prelude that begins like a selector. -/
structure IsHead (ts : List Token) : Prop extends IsPrelude ts where
  begins : ∃ t rest, ts = t :: rest ∧ t.kind ≠ .whitespace ∧ t.kind ≠ .comment ∧
    t.kind ≠ .semicolon ∧ t.kind ≠ .atKeyword ∧ t.kind ≠ .atSign

def HasColon (ts : List Token) : Prop :=
  ∃ before colon after, ts = before ++ colon :: after ∧ colon.kind = .colon ∧ level 0 before = 0

/-- A statement without a block: an at-rule or, inside a block, a declaration. -/
def IsStatement (inside : Bool) (ts : List Token) : Prop :=
  IsAtRule ts ∨ inside = true ∧ IsHead ts ∧ HasColon ts

/-- The tokens of a sheet or, inside a block, those between its braces. -/
inductive Body : Bool → List Token → Prop
  | nil {inside : Bool} : Body inside []
  | gap {inside : Bool} {t : Token} {rest : List Token}
      (ht : t.kind = .whitespace ∨ t.kind = .semicolon) (h : Body inside rest) :
      Body inside (t :: rest)
  | comment {inside : Bool} {t : Token} {rest : List Token} (ht : t.kind = .comment)
      (hc : t.IsClosed) (h : Body inside rest) : Body inside (t :: rest)
  /-- An at-rule or a rule with its block. -/
  | block {inside : Bool} {head body rest : List Token} {left right : Token}
      (hh : IsAtRule head ∨ IsHead head) (hl : left.kind = .leftBrace) (hb : Body true body)
      (hr : right.kind = .rightBrace) (h : Body inside rest) :
      Body inside (head ++ left :: (body ++ right :: rest))
  | statement {inside : Bool} {ts rest : List Token} {mark : Token} (hs : IsStatement inside ts)
      (hm : mark.kind = .semicolon) (h : Body inside rest) : Body inside (ts ++ mark :: rest)
  /-- A statement that the end of the block or of the sheet ends. -/
  | last {inside : Bool} {ts : List Token} (hs : IsStatement inside ts) : Body inside ts

end Grammar

/-! ### Preludes -/

namespace Prelude

lemma isPrelude_iff {ts : List Token} (hlex : ∀ t ∈ ts, t.Lexed) :
    Grammar.IsPrelude ts ↔ depth? 0 ts = some 0 ∧ errors ts = [] := by
  have hclosed : (∀ t ∈ ts, t.IsClosed) ↔ ∀ t ∈ ts, Token.Ended t.kind t.text :=
    forall₂_congr fun t ht => (hlex t ht).isClosed_iff
  rw [errors_eq_nil, depth?_eq_some, ← hclosed]
  constructor
  · rintro ⟨hbrace, hmark, hc, hlevel⟩
    exact ⟨⟨hbrace, hmark, hlevel⟩, hc, hlevel⟩
  · rintro ⟨⟨hbrace, hmark, hlevel⟩, hc, -⟩
    exact ⟨hbrace, hmark, hc, hlevel⟩

lemma depth_eq_zero {depth : Nat} {ts : List Token} (hd : depth? 0 ts = some depth)
    (he : errors ts = []) : depth = 0 := by
  rw [← level_eq_of_depth? hd]
  exact (errors_eq_nil.mp he).2

lemma splitColon?_isSome {depth : Nat} {ts : List Token} :
    (splitColon? depth ts).isSome = true ↔ ∃ before colon after, ts = before ++ colon :: after ∧
      colon.kind = .colon ∧ level depth before = 0 := by
  induction ts generalizing depth with
  | nil => simp [splitColon?]
  | cons t ts ih =>
    have hlevel (before : List Token) :
        level depth (t :: before) = level (t.kind.deepen depth) before := rfl
    -- what the tokens after the first decide
    have hstep : (splitColon? (t.kind.deepen depth) ts).isSome = true ↔
        ∃ before colon after, t :: ts = (t :: before) ++ colon :: after ∧
          colon.kind = .colon ∧ level depth (t :: before) = 0 := by
      simp only [ih, hlevel, List.cons_append, List.cons.injEq, true_and]
    by_cases hk : t.kind = .colon ∧ depth = 0
    · simp only [splitColon?, hk.1, hk.2, if_true, Option.isSome_some, true_iff]
      exact ⟨[], t, ts, rfl, hk.1, rfl⟩
    · have hsplit : (splitColon? depth (t :: ts)).isSome =
          (splitColon? (t.kind.deepen depth) ts).isSome := by
        rw [splitColon?]
        cases h : t.kind <;> simp_all [TokenKind.deepen]
      rw [hsplit, hstep]
      constructor
      · rintro ⟨before, colon, after, h⟩
        exact ⟨t :: before, colon, after, h⟩
      · rintro ⟨_ | ⟨t', before⟩, colon, after, heq, hcolon, hzero⟩
        · obtain ⟨rfl, -⟩ := List.cons.inj heq
          exact absurd ⟨hcolon, hzero⟩ hk
        · obtain ⟨rfl, -⟩ := List.cons.inj heq
          exact ⟨before, colon, after, heq, hcolon, hzero⟩

lemma hasColon_content {ts : List Token} :
    Grammar.HasColon (content ts) ↔ Grammar.HasColon ts := by
  have happ := content_append_trailing ts
  constructor
  · rintro ⟨before, colon, after, heq, hcolon, hzero⟩
    rw [heq, List.append_assoc] at happ
    exact ⟨before, colon, after ++ trailing ts, happ.symm, hcolon, hzero⟩
  · rintro ⟨before, colon, after, heq, hcolon, hzero⟩
    have hnot : colon ∉ trailing ts := by
      intro hmem
      have htrivia := isTrivia_of_mem_trailing hmem
      simp [hcolon, TokenKind.isTrivia] at htrivia
    rcases List.append_eq_append_iff.mp (happ.trans heq) with
      ⟨mid, hbefore, htrail⟩ | ⟨mid, hcontent, htail⟩
    · exact absurd (by simp [htrail]) hnot
    · rcases mid with _ | ⟨t, mid⟩
      · rw [List.nil_append] at htail
        exact absurd (htail ▸ List.mem_cons_self) hnot
      · obtain ⟨rfl, -⟩ := List.cons.inj htail
        exact ⟨before, colon, mid, hcontent, hcolon, hzero⟩

lemma isSome_ofTokens?_content {ts : List Token} :
    (Declaration.ofTokens? (content ts)).isSome = true ↔ Grammar.HasColon ts := by
  rw [Declaration.ofTokens?, Option.isSome_map, splitColon?_isSome]
  exact hasColon_content

end Prelude

namespace Grammar

lemma isHead_iff {ts : List Token} :
    IsHead ts ↔ IsPrelude ts ∧ ∃ t rest, ts = t :: rest ∧ t.kind.startsHead = true := by
  constructor
  · rintro ⟨hp, t, rest, rfl, h1, h2, h3, h4, h5⟩
    obtain ⟨hleft, hright⟩ := hp.unbraced t (by simp)
    refine ⟨hp, t, rest, rfl, ?_⟩
    cases hk : t.kind <;> simp_all [TokenKind.startsHead]
  · rintro ⟨hp, t, rest, rfl, hk⟩
    refine ⟨hp, t, rest, rfl, ?_⟩
    cases h : t.kind <;> simp_all [TokenKind.startsHead]

/-! ### Statements of a body -/

open Statement

lemma Body.kind_ne {inside : Bool} {t : Token} {ts : List Token} (h : Body inside (t :: ts)) :
    t.kind ≠ .rightBrace := by
  have hhead {head : List Token} (hh : IsAtRule head ∨ IsHead head) :
      ∃ t' head', head = t' :: head' ∧ t'.kind ≠ .rightBrace := by
    rcases hh with ⟨name, ps, rfl, hk, -⟩ | hh
    · exact ⟨name, ps, rfl, by simp [hk]⟩
    · obtain ⟨t', rest, rfl, -⟩ := hh.begins
      exact ⟨t', rest, rfl, (hh.unbraced t' (by simp)).2⟩
  have hstatement {ts : List Token} (hs : IsStatement inside ts) :
      ∃ t' ts', ts = t' :: ts' ∧ t'.kind ≠ .rightBrace :=
    hhead (hs.imp id fun h => h.2.1)
  generalize hts : t :: ts = us at h
  cases h with
  | nil => simp at hts
  | gap ht => obtain ⟨rfl, -⟩ := List.cons.inj hts; rcases ht with h | h <;> simp [h]
  | comment ht => obtain ⟨rfl, -⟩ := List.cons.inj hts; simp [ht]
  | block hh =>
    obtain ⟨t', head', rfl, hk⟩ := hhead hh
    obtain ⟨rfl, -⟩ := List.cons.inj hts
    exact hk
  | statement hs =>
    obtain ⟨t', head', rfl, hk⟩ := hstatement hs
    obtain ⟨rfl, -⟩ := List.cons.inj hts
    exact hk
  | last hs =>
    obtain ⟨t', head', rfl, hk⟩ := hstatement hs
    obtain ⟨rfl, -⟩ := List.cons.inj hts
    exact hk

lemma exists_opening {head : List Token} {left : Token} (hh : IsAtRule head ∨ IsHead head)
    (hl : left.kind = .leftBrace) (hlex : ∀ t ∈ head, t.Lexed) :
    ∃ st : Statement, st.tokens = head ++ [left] ∧ (∀ rest, st.Shaped rest) ∧
      (∀ inside, st.Faultless inside) ∧ ∀ depth, st.nest depth = depth + 1 := by
  rcases hh with ⟨name, ps, rfl, hk, hp⟩ | hh
  · obtain ⟨hd, he⟩ := (Prelude.isPrelude_iff fun t ht => hlex t (by simp [ht])).mp hp
    have hname := ((hlex name (by simp)).one_lt_length_iff (.inl hk)).mpr hk
    exact ⟨.atRule name ps (.block left), rfl, fun _ => .atRule (.inl hk) hd hl,
      fun _ => ⟨hname, he⟩, fun _ => rfl⟩
  · obtain ⟨hp, t, ts, rfl, hk⟩ := isHead_iff.mp hh
    obtain ⟨hd, he⟩ := (Prelude.isPrelude_iff hlex).mp hp
    have htext : Piece.textOf (Prelude.content (t :: ts)) ≠ [] := by
      simp [Prelude.content_of_startsHead hk, (hlex t (by simp)).text_ne_nil]
    exact ⟨.qualified (t :: ts) (.block left), rfl, fun _ => .qualified hk hd hl,
      fun _ => ⟨he, htext⟩, fun _ => rfl⟩

lemma exists_ended {inside : Bool} {ts : List Token} (hs : IsStatement inside ts)
    (hlex : ∀ t ∈ ts, t.Lexed) (ending : PreludeEnd) (hb : ∀ brace, ending ≠ .block brace)
    (rest : List Token) (he : ending.Follows 0 rest) :
    ∃ st : Statement, st.tokens = ts ++ ending.tokens ∧ st.Shaped rest ∧ st.Faultless inside ∧
      ∀ depth, st.nest depth = depth := by
  rcases hs with ⟨name, ps, rfl, hk, hp⟩ | ⟨hin, hh, hcolon⟩
  · obtain ⟨hd, herr⟩ := (Prelude.isPrelude_iff fun t ht => hlex t (by simp [ht])).mp hp
    have hname := ((hlex name (by simp)).one_lt_length_iff (.inl hk)).mpr hk
    refine ⟨.atRule name ps ending, rfl, .atRule (.inl hk) hd he, ⟨hname, herr⟩, fun _ => ?_⟩
    cases ending with
    | block brace => exact absurd rfl (hb brace)
    | _ => rfl
  · obtain ⟨hp, t, ts, rfl, hk⟩ := isHead_iff.mp hh
    obtain ⟨hd, herr⟩ := (Prelude.isPrelude_iff hlex).mp hp
    have hdecl := Prelude.isSome_ofTokens?_content.mpr hcolon
    refine ⟨.qualified (t :: ts) ending, rfl, .qualified hk hd he, ?_, fun _ => ?_⟩
    · cases ending with
      | block brace => exact absurd rfl (hb brace)
      | _ => exact ⟨herr, .inr ⟨hin, hdecl⟩⟩
    · cases ending with
      | block brace => exact absurd rfl (hb brace)
      | _ => rfl

/-- **What the grammar derives has no faults.** The tokens behind a body are none, or begin with
the brace that closes its block. -/
theorem Body.sound {inside : Bool} {ts : List Token} (h : Body inside ts)
    (hlex : ∀ t ∈ ts, t.Lexed) {rest : List Token} {depth : Nat} (hin : (depth != 0) = inside)
    (hrest : ∀ t ∈ rest.head?, t.kind = .rightBrace) (hs : Sound depth (ofTokens rest)) :
    Sound depth (ofTokens (ts ++ rest)) := by
  induction h generalizing rest depth with
  | nil => exact hs
  | @gap inside t ts ht h ih =>
    have hgap : isGap t.kind = true := by rcases ht with ht | ht <;> simp [isGap, ht]
    rw [List.cons_append, ofTokens_gap hgap]
    exact ih (fun t' ht' => hlex t' (by simp [ht'])) hin hrest hs
  | @comment inside t ts ht hc h ih =>
    have htake : ofTokens (t :: (ts ++ rest)) = .comment t :: ofTokens (ts ++ rest) :=
      ofTokens_take (.comment ht)
    have hclosed := ((hlex t (by simp)).isClosed_iff.mp hc).2 ht
    rw [List.cons_append, htake]
    exact ⟨hclosed, ih (fun t' ht' => hlex t' (by simp [ht'])) hin hrest hs⟩
  | @block inside head body ts left right hh hl hb hr h ihb ih =>
    obtain ⟨st, htokens, hshape, hfault, hnest⟩ :=
      exists_opening hh hl fun t ht => hlex t (by simp [ht])
    have happ : head ++ left :: (body ++ right :: ts) ++ rest =
        st.tokens ++ (body ++ right :: (ts ++ rest)) := by simp [htokens]
    have hclose : ofTokens (right :: (ts ++ rest)) = .closeBlock right :: ofTokens (ts ++ rest) :=
      ofTokens_take (.closeBlock hr)
    rw [happ, ofTokens_take (hshape _)]
    refine ⟨hfault _, ?_⟩
    rw [hnest]
    refine ihb (fun t ht => hlex t (by simp [ht])) (by simp) (by simp [hr]) ?_
    rw [hclose]
    exact ⟨by simp [Faultless], ih (fun t ht => hlex t (by simp [ht])) hin hrest hs⟩
  | @statement inside ts tail mark hst hm h ih =>
    obtain ⟨st, htokens, hshape, hfault, hnest⟩ :=
      exists_ended hst (fun t ht => hlex t (by simp [ht])) (.semicolon mark) (by simp)
        (tail ++ rest) ⟨hm, rfl⟩
    have happ : ts ++ mark :: tail ++ rest = st.tokens ++ (tail ++ rest) := by
      simp [htokens, PreludeEnd.tokens]
    rw [happ, ofTokens_take hshape]
    refine ⟨hin ▸ hfault, ?_⟩
    rw [hnest]
    exact ih (fun t ht => hlex t (by simp [ht])) hin hrest hs
  | @last inside ts hst =>
    obtain ⟨st, htokens, hshape, hfault, hnest⟩ :=
      exists_ended hst hlex .close (by simp) rest hrest
    rw [show ts ++ rest = st.tokens ++ rest by simp [htokens, PreludeEnd.tokens],
      ofTokens_take hshape]
    refine ⟨hin ▸ hfault, ?_⟩
    rw [hnest]
    exact hs

/-! ### Bodies from statements -/

/-- What is left of a source when `depth` blocks are open: the rest of each body, with the brace
that closes it, and the rest of the sheet. -/
def Closes : Nat → List Token → Prop
  | 0, ts => Body false ts
  | depth + 1, ts => ∃ body right rest, ts = body ++ right :: rest ∧ Body true body ∧
      right.kind = .rightBrace ∧ Closes depth rest

lemma Closes.prepend {depth : Nat} {ts : List Token} (h : Closes depth ts) (front : List Token)
    (hf : ∀ {body : List Token}, Body (depth != 0) body → Body (depth != 0) (front ++ body)) :
    Closes depth (front ++ ts) := by
  cases depth with
  | zero => exact hf h
  | succ depth =>
    obtain ⟨body, right, rest, rfl, hb, hr, hc⟩ := h
    exact ⟨front ++ body, right, rest, by simp, hf hb, hr, hc⟩

lemma Closes.last {depth : Nat} {front ts : List Token} (h : Closes depth ts)
    (hts : ∀ t ∈ ts.head?, t.kind = .rightBrace) (hf : IsStatement (depth != 0) front) :
    Closes depth (front ++ ts) := by
  cases depth with
  | zero =>
    rcases ts with _ | ⟨t, ts⟩
    · rw [List.append_nil]
      exact Body.last hf
    · exact absurd (hts t (by simp)) (Body.kind_ne h)
  | succ depth =>
    obtain ⟨body, right, rest, rfl, hb, hr, hc⟩ := h
    rcases body with _ | ⟨t, body⟩
    · exact ⟨front, right, rest, by simp, Body.last hf, hr, hc⟩
    · exact absurd (hts t (by simp)) hb.kind_ne

/-- **Statements without faults are bodies of the grammar**, one within the other. -/
theorem closes_of_sound {ts : List Token} {sts : List Statement} (h : Groups ts sts)
    (hlex : ∀ t ∈ ts, t.Lexed) {depth : Nat} (hs : Sound depth sts) : Closes depth ts := by
  induction h generalizing depth with
  | nil =>
    obtain rfl : depth = 0 := hs
    exact .nil
  | @gap t ts sts hk h ih =>
    have ht : t.kind = .whitespace ∨ t.kind = .semicolon := by simpa [isGap] using hk
    exact (ih (fun t' ht' => hlex t' (by simp [ht'])) hs).prepend [t] fun hb => .gap ht hb
  | @take st rest sts hshape h ih =>
    obtain ⟨hfault, hrest⟩ := hs
    have hclose := ih (fun t ht => hlex t (by simp [ht])) hrest
    have hlex' : ∀ t ∈ st.tokens, t.Lexed := fun t ht => hlex t (by simp [ht])
    -- a heading opens one more body, which the rest begins with
    have hopen {head : List Token} {left : Token} (hh : IsAtRule head ∨ IsHead head)
        (hl : left.kind = .leftBrace) (hc : Closes (depth + 1) rest) :
        Closes depth (head ++ [left] ++ rest) := by
      obtain ⟨body, right, rest, rfl, hb, hr, hc⟩ := hc
      have hfront := hc.prepend (head ++ left :: (body ++ [right])) fun hb' => by
        simpa using Body.block hh hl hb hr hb'
      simpa using hfront
    -- the other endings
    have hend {ts : List Token} {ending : PreludeEnd} (hst : IsStatement (depth != 0) ts)
        (hb : ∀ brace, ending ≠ .block brace) (he : ending.Follows 0 rest)
        (hc : Closes depth rest) : Closes depth (ts ++ ending.tokens ++ rest) := by
      cases ending with
      | block brace => exact absurd rfl (hb brace)
      | semicolon mark =>
        exact hc.prepend _ fun hb' => by simpa [PreludeEnd.tokens] using Body.statement hst he.1 hb'
      | close => simpa [PreludeEnd.tokens] using hc.last he hst
    cases hshape with
    | @closeBlock brace hk =>
      rcases depth with _ | depth
      · simp [Faultless] at hfault
      · exact ⟨[], brace, rest, rfl, .nil, hk, hclose⟩
    | @comment t hk =>
      have hc : t.IsClosed := (hlex t (by simp [tokens])).isClosed_iff.mpr
        ⟨fun h => by simp [hk] at h, fun _ => hfault⟩
      exact hclose.prepend [t] fun hb => .comment hk hc hb
    | @bare brace hk => exact absurd hfault.2 (by simp [Prelude.content, dropTailWhile])
    | @atRule name head ending d hk hd he =>
      obtain ⟨hname, herr⟩ := hfault
      obtain rfl := Prelude.depth_eq_zero hd herr
      have hat : IsAtRule (name :: head) := by
        have hlexed : name.Lexed := hlex' name (by simp [tokens])
        refine ⟨name, head, rfl, (hlexed.one_lt_length_iff hk).mp hname, ?_⟩
        exact (Prelude.isPrelude_iff fun t ht => hlex' t (by simp [tokens, ht])).mpr ⟨hd, herr⟩
      cases ending with
      | block brace => exact hopen (.inl hat) he hclose
      | semicolon mark => exact hend (.inl hat) (by simp) he hclose
      | close => exact hend (.inl hat) (by simp) he hclose
    | @qualified t head ending d hk hd he =>
      have herr : Prelude.errors (t :: head) = [] := by cases ending <;> exact hfault.1
      obtain rfl := Prelude.depth_eq_zero hd herr
      have hhead : IsHead (t :: head) := by
        refine isHead_iff.mpr ⟨?_, t, head, rfl, hk⟩
        exact (Prelude.isPrelude_iff fun t ht => hlex' t (by
          rw [tokens]; exact List.mem_append_left _ ht)).mpr ⟨hd, herr⟩
      have hdecl (h : Prelude.content (t :: head) = [] ∨ (depth != 0) = true ∧
          (Declaration.ofTokens? (Prelude.content (t :: head))).isSome = true) :
          IsStatement (depth != 0) (t :: head) := by
        rw [Prelude.content_of_startsHead hk] at h
        obtain ⟨hin, hcolon⟩ := h.resolve_left (by simp)
        rw [← Prelude.content_of_startsHead hk, Prelude.isSome_ofTokens?_content] at hcolon
        exact .inr ⟨hin, hhead, hcolon⟩
      cases ending with
      | block brace => exact hopen (.inr hhead) he hclose
      | semicolon mark => exact hend (hdecl hfault.2) (by simp) he hclose
      | close => exact hend (hdecl hfault.2) (by simp) he hclose

end Grammar

/-- **A source has no faults exactly when its tokens are a sheet by the grammar.** -/
theorem Sheet.errors_parse_eq_nil_iff_body (source : Text) (file : Option Text) :
    (parse source file).errors = [] ↔ Grammar.Body false (Token.scan source) := by
  have hlex : ∀ t ∈ Token.scan source, t.Lexed := fun t ht => Token.lexed_of_mem_scan ht
  rw [errors_parse_eq_nil]
  constructor
  · intro hs
    exact Grammar.closes_of_sound (Statement.groups_ofTokens _) hlex hs
  · intro hb
    have hend : Statement.Sound 0 (Statement.ofTokens []) := by
      simp [Statement.ofTokens, Statement.Sound]
    simpa using hb.sound hlex rfl (by simp) hend

end StyleScope
