import StyleScope.Proofs.Sheet.Braces

/-!
Where faults are found.

Every fault is about a run of tokens of the source: one token, or the content of a prelude. The
run is empty only for a block with nothing before it, and then the brace comes next. So a fault is
found before the end of the source, at a character that is no white space, and it says what stands
there: a word or a heading that it names is the one that it is found at.
-/

namespace StyleScope

/-- What a fault says of the part of the source that it is found at. -/
def ParseFault.Describes (inside : Text) : ParseFault → Prop
  | unclosedBlock openedBy => openedBy = inside
  | unexpectedClosingBrace => inside = ['}']
  | unclosedComment => ['/', '*'] <+: inside
  | unclosedString => inside.head? = some '"' ∨ inside.head? = some '\''
  | unclosedBracket closer => inside = ['('] ∧ closer = ')' ∨ inside = ['['] ∧ closer = ']'
  | emptyAtRuleName => inside = ['@']
  | emptySelector => inside = ['{']
  | unknownWord word => word = inside

/-- The fault is found at a part of the source, of which it tells. A character that is no white
space comes first there. -/
def ParseError.Stands (source : Text) (e : ParseError) : Prop :=
  ∃ before inside after, source = before ++ (inside ++ after) ∧ e.span = .between before inside ∧
    (∃ c ∈ (inside ++ after).head?, Token.isSpace c = false) ∧ e.fault.Describes inside

namespace Token

variable {source : Text} {fault : ParseFault}

lemma Lexed.exists_head {t : Token} (h : t.Lexed) (hk : t.kind ≠ .whitespace) :
    ∃ c ∈ t.text.head?, isSpace c = false := by
  obtain ⟨kind, start, text⟩ := t
  obtain ⟨rest, hspell⟩ := h
  cases hspell with
  | string hq hb => rcases hq with rfl | rfl <;> exact ⟨_, rfl, rfl⟩
  | whitespace hs hr => exact absurd rfl hk
  | word hw hr =>
    refine ⟨_, rfl, ?_⟩
    by_contra hspace
    have hdelim := isDelimiter_of_isSpace (Bool.not_eq_false _ ▸ hspace)
    simp [hw _ List.mem_cons_self] at hdelim
  | _ => exact ⟨_, rfl, rfl⟩

lemma Lexed.describes {t : Token} (h : t.Lexed) :
    (t.kind = .leftBrace → ParseFault.emptySelector.Describes t.text) ∧
    (t.kind = .rightBrace → ParseFault.unexpectedClosingBrace.Describes t.text) ∧
    (t.kind = .string → ParseFault.unclosedString.Describes t.text) ∧
    (t.kind = .comment → ParseFault.unclosedComment.Describes t.text) ∧
    (t.kind = .leftParen ∨ t.kind = .leftBracket →
      (Prelude.unclosedBracket t).fault.Describes t.text) := by
  obtain ⟨kind, start, text⟩ := t
  obtain ⟨rest, hspell⟩ := h
  cases hspell with
  | string hq hb => rcases hq with rfl | rfl <;> simp [ParseFault.Describes]
  | _ => simp [ParseFault.Describes, Prelude.unclosedBracket]

/-- **A fault at a run of tokens stands in the source**, where the run does not begin with white
space. -/
lemma stands_of_run {as : List Token} (run : List Token) {bs : List Token}
    (h : scan source = as ++ (run ++ bs)) {t : Token} (ht : t ∈ (run ++ bs).head?)
    (hk : t.kind ≠ .whitespace)
    (hd : fault.Describes (Piece.textOf run)) :
    ParseError.Stands source ⟨fault, .between (Piece.textOf as) (Piece.textOf run)⟩ := by
  obtain ⟨-, -, hsource⟩ := scan_spec source
  have hmem : t ∈ scan source := by
    rw [h]
    exact List.mem_append_right as (List.mem_of_head? ht)
  obtain ⟨c, hc, hspace⟩ := (lexed_of_mem_scan hmem).exists_head hk
  obtain ⟨ts, hts⟩ : ∃ ts, run ++ bs = t :: ts := by
    rcases hrun : run ++ bs with _ | ⟨u, ts⟩
    · simp [hrun] at ht
    · rw [hrun] at ht
      exact ⟨ts, by rw [Option.some.inj ht]⟩
  refine ⟨_, _, Piece.textOf bs, ?_, rfl, ⟨c, ?_, hspace⟩, hd⟩
  · rw [← hsource, h, Piece.textOf_append, Piece.textOf_append]
  · rw [← Piece.textOf_append, hts, Piece.textOf_cons,
      List.head?_append_of_ne_nil _ (lexed_of_mem_scan hmem).text_ne_nil]
    exact hc

lemma stands_of_mem {t : Token} (ht : t ∈ scan source) (hk : t.kind ≠ .whitespace)
    (hd : fault.Describes t.text) : ParseError.Stands source ⟨fault, t.span⟩ := by
  obtain ⟨as, bs, h⟩ := List.append_of_mem ht
  have hadj := (scan_spec source).1
  rw [h] at hadj
  obtain ⟨-, hstart, -⟩ := Piece.adjacent_append.mp hadj
  have hspan : t.span = .between (Piece.textOf as) (Piece.textOf [t]) := by
    rw [Piece.span, Piece.stop, Span.between, hstart]
    simp
  rw [hspan]
  exact stands_of_run [t] h rfl hk (by simpa using hd)

end Token

namespace Prelude

lemma mem_of_mem_openBrackets {stack ts : List Token} {t : Token}
    (h : t ∈ openBrackets stack ts) :
    t ∈ stack ∨ t ∈ ts ∧ (t.kind = .leftParen ∨ t.kind = .leftBracket) := by
  induction ts generalizing stack with
  | nil => exact .inl h
  | cons u ts ih =>
    have hlater {stack' : List Token} (h : t ∈ openBrackets stack' ts) :
        t ∈ stack' ∨ t ∈ u :: ts ∧ (t.kind = .leftParen ∨ t.kind = .leftBracket) :=
      (ih h).imp_right fun ⟨hmem, hk⟩ => ⟨List.mem_cons_of_mem u hmem, hk⟩
    have hpush (hk : u.kind = .leftParen ∨ u.kind = .leftBracket)
        (h : t ∈ openBrackets (u :: stack) ts) :
        t ∈ stack ∨ t ∈ u :: ts ∧ (t.kind = .leftParen ∨ t.kind = .leftBracket) := by
      rcases hlater h with hmem | hmem
      · rcases List.mem_cons.mp hmem with rfl | hmem
        · exact .inr ⟨List.mem_cons_self, hk⟩
        · exact .inl hmem
      · exact .inr hmem
    rw [openBrackets] at h
    split at h
    · next hk => exact hpush (.inl hk) h
    · next hk => exact hpush (.inr hk) h
    · exact (hlater h).imp_left List.mem_of_mem_tail
    · exact (hlater h).imp_left List.mem_of_mem_tail
    · exact hlater h

lemma exists_of_mem_errors {head : List Token} (hlex : ∀ t ∈ head, t.Lexed) {e : ParseError}
    (h : e ∈ errors head) :
    ∃ t ∈ head, t.kind ≠ .whitespace ∧ e.span = t.span ∧ e.fault.Describes t.text := by
  rcases List.mem_append.mp h with h | h
  · obtain ⟨t, ht, hunended⟩ := List.mem_filterMap.mp h
    obtain ⟨-, -, hstring, hcomment, -⟩ := (hlex t ht).describes
    unfold unended? at hunended
    split at hunended
    · next hk =>
      split_ifs at hunended
      rw [← Option.some.inj hunended]
      exact ⟨t, ht, by simp [hk], rfl, hstring hk⟩
    · next hk =>
      split_ifs at hunended
      rw [← Option.some.inj hunended]
      exact ⟨t, ht, by simp [hk], rfl, hcomment hk⟩
    · cases hunended
  · obtain ⟨t, ht, rfl⟩ := List.mem_map.mp h
    rcases mem_of_mem_openBrackets (List.mem_reverse.mp ht) with hnil | ⟨hmem, hk⟩
    · cases hnil
    · obtain ⟨-, -, -, -, hbracket⟩ := (hlex t hmem).describes
      exact ⟨t, hmem, by rcases hk with hk | hk <;> simp [hk], rfl, hbracket hk⟩

end Prelude

namespace Statement

variable {source : Text} {e : ParseError}

lemma mem_reported {depth : Nat} {sts : List Statement} (h : e ∈ reported depth sts) :
    ∃ st ∈ sts, ∃ inside, e ∈ st.reports inside := by
  induction sts generalizing depth with
  | nil => simp [reported] at h
  | cons st sts ih =>
    rcases List.mem_append.mp h with h | h
    · exact ⟨st, List.mem_cons_self, _, h⟩
    · obtain ⟨st', hst', hrest⟩ := ih h
      exact ⟨st', List.mem_cons_of_mem st hst', hrest⟩

lemma mem_foldl_pending {faults : List ParseError} {sts : List Statement}
    (h : e ∈ sts.foldl pending faults) : e ∈ faults ∨ ∃ st ∈ sts, st.opened? = some e := by
  induction sts generalizing faults with
  | nil => exact .inl h
  | cons st sts ih =>
    rcases ih h with hmem | ⟨st', hst', hopen⟩
    · have hstep : e ∈ faults ∨ st.opened? = some e := by
        cases st with
        | closeBlock brace => exact .inl (List.mem_of_mem_tail hmem)
        | _ =>
          rcases List.mem_append.mp hmem with hmem | hmem
          · exact .inr (Option.mem_toList.mp hmem)
          · exact .inl hmem
      exact hstep.imp_right fun hopen => ⟨st, List.mem_cons_self, hopen⟩
    · exact .inr ⟨st', List.mem_cons_of_mem st hst', hopen⟩

section

variable {st : Statement} {before rest : List Token}

lemma stands_content {t : Token} {head : List Token} (hk : t.kind.startsHead = true)
    (h : Token.scan source = before ++ (t :: head ++ rest)) {fault : ParseFault}
    (hd : fault.Describes (Piece.textOf (Prelude.content (t :: head)))) :
    ParseError.Stands source ⟨fault, Prelude.spanFrom t.start (Prelude.content (t :: head))⟩ := by
  have hadj := (Token.scan_spec source).1
  rw [h] at hadj
  obtain ⟨-, hstart, -⟩ := Piece.adjacent_append.mp hadj
  have hspan : Prelude.spanFrom t.start (Prelude.content (t :: head)) =
      .between (Piece.textOf before) (Piece.textOf (Prelude.content (t :: head))) := by
    rw [Prelude.spanFrom, hstart, Nat.zero_add]
    rfl
  have hrun : Token.scan source = before ++ (Prelude.content (t :: head) ++
      (Prelude.trailing (t :: head) ++ rest)) := by
    rw [← List.append_assoc (Prelude.content _), Prelude.content_append_trailing]
    exact h
  have hspace : t.kind ≠ .whitespace := by
    rintro heq
    simp [heq, TokenKind.startsHead] at hk
  rw [hspan]
  exact Token.stands_of_run _ hrun (by simp [Prelude.content_of_startsHead hk]) hspace hd

/-- **The faults of a statement stand in the source.** -/
lemma Shaped.stands_of_mem_reports (hs : st.Shaped rest)
    (h : Token.scan source = before ++ (st.tokens ++ rest)) {inside : Bool}
    (he : e ∈ st.reports inside) : e.Stands source := by
  have hmem {t : Token} (ht : t ∈ st.tokens) : t ∈ Token.scan source := by simp [h, ht]
  have hlex {t : Token} (ht : t ∈ st.tokens) : t.Lexed := Token.lexed_of_mem_scan (hmem ht)
  have hhead {head : List Token} (hsub : ∀ t ∈ head, t ∈ st.tokens)
      (he : e ∈ Prelude.errors head) : e.Stands source := by
    obtain ⟨t, ht, hk, hspan, hd⟩ :=
      Prelude.exists_of_mem_errors (fun t ht => hlex (hsub t ht)) he
    obtain ⟨fault, span⟩ := e
    obtain rfl : span = t.span := hspan
    exact Token.stands_of_mem (hmem (hsub t ht)) hk hd
  have hbrace {brace : Token} (hk : brace.kind = .leftBrace) (ht : brace ∈ st.tokens)
      (he : e ∈ [⟨.emptySelector, brace.span⟩]) : e.Stands source := by
    rw [List.mem_singleton.mp he]
    exact Token.stands_of_mem (hmem ht) (by simp [hk]) ((hlex ht).describes.1 hk)
  have hword {t : Token} {head : List Token} {ending : PreludeEnd}
      (hk : t.kind.startsHead = true) (hst : st = .qualified (t :: head) ending)
      (he : e ∈ misplaced inside (Prelude.content (t :: head))) : e.Stands source := by
    rw [misplaced, Prelude.content_of_startsHead hk] at he
    simp only [List.head?_cons] at he
    split_ifs at he
    · cases he
    · rw [List.mem_singleton.mp he, ← Prelude.content_of_startsHead hk]
      rw [hst, tokens, List.append_assoc] at h
      exact stands_content hk h rfl
  cases hs with
  | @closeBlock brace hk =>
    simp only [reports] at he
    split_ifs at he
    · cases he
    · have ht : brace ∈ (Statement.closeBlock brace).tokens := List.mem_singleton_self brace
      rw [List.mem_singleton.mp he]
      exact Token.stands_of_mem (hmem ht) (by simp [hk]) ((hlex ht).describes.2.1 hk)
  | @comment t hk =>
    simp only [reports] at he
    split_ifs at he
    · cases he
    · have ht : t ∈ (Statement.comment t).tokens := List.mem_singleton_self t
      rw [List.mem_singleton.mp he]
      exact Token.stands_of_mem (hmem ht) (by simp [hk]) ((hlex ht).describes.2.2.2.1 hk)
  | @atRule name head ending depth hk hd hends =>
    rcases List.mem_append.mp he with he | he
    · split_ifs at he with hshort
      · have ht : name ∈ (Statement.atRule name head ending).tokens := by simp [tokens]
        -- a name of one character is the at-sign alone
        have hdrop := (hlex ht).at_cons_drop hk
        rw [List.drop_eq_nil_of_le hshort] at hdrop
        rw [List.mem_singleton.mp he]
        exact Token.stands_of_mem (hmem ht) (by rcases hk with hk | hk <;> simp [hk]) hdrop.symm
      · cases he
    · exact hhead (by simp +contextual [tokens]) he
  | @bare brace hk =>
    simp only [reports, Prelude.errors, Prelude.openBrackets, List.filterMap_nil, List.reverse_nil,
      List.map_nil, List.nil_append] at he
    split_ifs at he
    · exact hbrace hk (by simp [tokens, PreludeEnd.tokens]) he
    · cases he
  | @qualified t head ending depth hk hd hends =>
    cases ending with
    | block brace =>
      rcases List.mem_append.mp he with he | he
      · exact hhead (by simp +contextual [tokens]) he
      · split_ifs at he
        · exact hbrace hends (by simp [tokens, PreludeEnd.tokens]) he
        · cases he
    | semicolon mark =>
      rcases List.mem_append.mp he with he | he
      · exact hhead (by simp +contextual [tokens]) he
      · exact hword hk rfl he
    | close =>
      rcases List.mem_append.mp he with he | he
      · exact hhead (by simp +contextual [tokens]) he
      · exact hword hk rfl he

/-- **The fault of a block that stays open stands in the source**, at the heading of the block. -/
lemma Shaped.stands_of_opened? (hs : st.Shaped rest)
    (h : Token.scan source = before ++ (st.tokens ++ rest)) (he : st.opened? = some e) :
    e.Stands source := by
  cases hs with
  | closeBlock hk => cases he
  | comment hk => cases he
  | @atRule name head ending depth hk hd hends =>
    cases ending with
    | block brace =>
      rw [← Option.some.inj he]
      have hmem : name ∈ Token.scan source := by simp [h, tokens]
      exact Token.stands_of_mem hmem (by rcases hk with hk | hk <;> simp [hk])
        ((Token.lexed_of_mem_scan hmem).at_cons_drop hk)
    | _ => cases he
  | @bare brace hk =>
    have hadj := (Token.scan_spec source).1
    rw [h] at hadj
    obtain ⟨-, hstart, -⟩ := Piece.adjacent_append.mp hadj
    have hspan : Prelude.spanFrom brace.start [] =
        .between (Piece.textOf before) (Piece.textOf ([] : List Token)) := by
      rw [Prelude.spanFrom, hstart, Nat.zero_add]
      rfl
    have hfault : e = ⟨.unclosedBlock [], Prelude.spanFrom brace.start []⟩ :=
      (Option.some.inj he).symm
    rw [hfault, hspan]
    -- nothing stands before the brace, so that the brace is what comes first
    exact Token.stands_of_run [] h rfl (by simp [hk]) rfl
  | @qualified t head ending depth hk hd hends =>
    cases ending with
    | block brace =>
      rw [← Option.some.inj he]
      rw [tokens, List.append_assoc] at h
      exact stands_content hk h rfl
    | _ => cases he

end

end Statement

/-- **Every fault of a source is found in it.** -/
theorem Sheet.stands_of_mem_errors {source : Text} {file : Option Text} {e : ParseError}
    (he : e ∈ (parse source file).errors) : e.Stands source := by
  have hgroups := Statement.groups_ofTokens (Token.scan source)
  rw [errors_parse] at he
  rcases List.mem_append.mp he with he | he
  · obtain ⟨st, hst, inside, hmem⟩ := Statement.mem_reported he
    obtain ⟨before, rest, h, hs⟩ := hgroups.exists_of_mem hst
    exact hs.stands_of_mem_reports h hmem
  · rcases Statement.mem_foldl_pending he with hnil | ⟨st, hst, hopen⟩
    · cases hnil
    · obtain ⟨before, rest, h, hs⟩ := hgroups.exists_of_mem hst
      exact hs.stands_of_opened? h hopen

end StyleScope
