import StyleScope.Proofs.Selector.Pieces
import StyleScope.Proofs.Sheet.Bare
import StyleScope.Proofs.Sheet.Rules

/-!
The selectors of a rule, by characters and by tokens.

A rule gives the selectors of its list as the splitter finds them. The tokens of its selector
give them too, cut at the commas outside brackets. Both lists are the same exactly when both
readers mark the same commas, as a comma between two texts that are not blank is never lost by
trimming. The splitter goes wrong only over comments with signs in them.
-/

namespace StyleScope

namespace Text

lemma cutAt_append (a : Text) (c : Char) (ms : List Bool) (rest : Text) :
    cutAt (List.replicate a.length false ++ true :: ms) (a ++ c :: rest) =
      a :: cutAt ms rest := by
  induction a with
  | nil => rfl
  | cons d a ih =>
    rw [List.length_cons, List.replicate_succ, List.cons_append, List.cons_append, cutAt, ih]

lemma cutAt_replicate (t : Text) : cutAt (List.replicate t.length false) t = [t] := by
  induction t with
  | nil => rfl
  | cons c t ih => rw [List.length_cons, List.replicate_succ, cutAt, ih]

lemma tidy_cons_cancel {a : Text} {l l' : List Text} (h : tidy (a :: l) = tidy (a :: l')) :
    tidy l = tidy l' := by
  rw [tidy_cons, tidy_cons] at h
  split_ifs at h
  · exact h
  · exact (List.cons.inj h).2

lemma tidy_ne {a x : Text} {l l' : List Text} (h : ¬ Blank a) :
    tidy (a :: l) ≠ tidy ((a ++ ',' :: x) :: l') := by
  rw [tidy_cons_of_not_blank h, tidy_cons_of_not_blank (not_blank_append h _)]
  intro heq
  exact trim_append_ne h (by decide) x (List.cons.inj heq).1.symm

end Text

/-! ### First cuts -/

/-- The first mark is after the text `a`, and `ms` are the marks behind it. -/
def FirstMark (marks : List Bool) (a : Text) (ms : List Bool) : Prop :=
  marks = List.replicate a.length false ++ true :: ms

namespace SelectorList

open Text (Blank)

lemma firstMark_marks (s : Context) (t : Text) :
    marks s t = List.replicate t.length false ∨
      ∃ a rest, t = a ++ ',' :: rest ∧ FirstMark (marks s t) a (marks .outer rest) := by
  obtain ⟨ps, hlists⟩ : ∃ ps, Lists s t ps := ⟨_, lists_pieces s t⟩
  cases hlists with
  | last ht => exact .inl (marks_of_uncut ht)
  | @next _ a b ps ha hrun =>
    refine .inr ⟨a, b, rfl, ?_⟩
    rw [FirstMark, marks_append, marks_of_uncut ha, hrun]
    rfl

lemma firstMark_marks_of_blank {u : Text} (hu : Blank u) (rest : Text) :
    FirstMark (marks .outer (u ++ ',' :: rest)) u (marks .outer rest) := by
  obtain ⟨hm, hr⟩ := @marks_of_plain 0 u fun c hc => not_isSign_of (by decide) (hu c hc)
  have hlevel : Context.outer = .level 0 := rfl
  rw [FirstMark, marks_append, hlevel, hm, hr]
  rfl

end SelectorList

namespace Token

open Text (Blank)

lemma text_of_comma {t : Token} {rest : Text} (h : Spelled t.kind t.text rest)
    (hk : t.kind = .comma) : t.text = [','] := by
  generalize t.text = text at h
  rw [hk] at h
  cases h
  rfl

lemma firstMark_commaMarks {ts post : List Token} (hlex : Lexes (ts ++ post)) (depth : Nat) :
    commaMarks depth ts = List.replicate (Piece.textOf ts).length false ∨
      ∃ as t bs, ts = as ++ t :: bs ∧ t.text = [','] ∧
        FirstMark (commaMarks depth ts) (Piece.textOf as) (commaMarks 0 bs) := by
  induction ts generalizing depth with
  | nil => exact .inl rfl
  | cons t ts ih =>
    by_cases h : t.kind = .comma ∧ depth = 0
    · obtain ⟨hk, rfl⟩ := h
      have htext := text_of_comma hlex.1 hk
      refine .inr ⟨[], t, ts, rfl, htext, ?_⟩
      simp [FirstMark, commaMarks, htext, hk, TokenKind.deepen]
    · have hmark : (decide (t.kind = .comma) && depth == 0) = false := by simpa using h
      rw [commaMarks, hmark]
      rcases ih hlex.2 (t.kind.deepen depth) with hall | ⟨as, t', bs, rfl, htext, hfirst⟩
      · exact .inl (by
          rw [hall, List.replicate_append_replicate, Piece.textOf_cons, List.length_append])
      · refine .inr ⟨t :: as, t', bs, rfl, htext, ?_⟩
        rw [FirstMark] at hfirst ⊢
        rw [hfirst, Piece.textOf_cons, List.length_append, ← List.replicate_append_replicate,
          List.append_assoc]

lemma Spelled.of_isBlank {kind : TokenKind} {c : Char} {cs rest : Text}
    (h : Spelled kind (c :: cs) rest) (hc : isBlank c = true) :
    (kind = .whitespace ∨ kind = .word) ∧ ',' ∉ c :: cs := by
  cases h with
  | whitespace hs hr =>
    exact ⟨.inl rfl, fun hmem => by simpa [isSpace] using hs ',' hmem⟩
  | word hw hr => exact ⟨.inr rfl, fun hmem => by simpa [isDelimiter] using hw ',' hmem⟩
  | string hq hb => rcases hq with rfl | rfl <;> exact absurd hc (by decide)
  | _ => exact absurd hc (by decide)

lemma firstMark_commaMarks_of_blank {ts post : List Token} (hlex : Lexes (ts ++ post))
    {u rest : Text} (hu : Blank u) (htext : Piece.textOf ts = u ++ ',' :: rest) :
    ∃ as t bs, ts = as ++ t :: bs ∧ t.text = [','] ∧ Piece.textOf as = u ∧
      FirstMark (commaMarks 0 ts) u (commaMarks 0 bs) := by
  induction ts generalizing u with
  | nil => simp at htext
  | cons t ts ih =>
    obtain ⟨c, cs, hcs⟩ := List.exists_cons_of_ne_nil hlex.1.ne_nil
    have hspell := hlex.1
    rw [hcs] at hspell
    rw [Piece.textOf_cons, hcs] at htext
    rcases u with _ | ⟨d, u⟩
    · -- the comma itself
      obtain rfl : c = ',' := (List.cons.inj htext).1
      obtain ⟨rfl, hk⟩ : cs = [] ∧ t.kind = .comma := by
        generalize t.kind = kind at hspell
        cases hspell with
        | comma => exact ⟨rfl, rfl⟩
        | string hq hb => rcases hq with h | h <;> exact absurd h (by decide)
        | whitespace hs hr => exact absurd (hs ',' (by simp)) (by decide)
        | word hw hr => exact absurd (hw ',' (by simp)) (by decide)
      exact ⟨[], t, ts, rfl, hcs, rfl, by simp [FirstMark, commaMarks, hcs, hk, TokenKind.deepen]⟩
    · -- a token of blanks, which the text `u` begins with
      obtain rfl : c = d := (List.cons.inj htext).1
      obtain ⟨hk, hcomma⟩ := hspell.of_isBlank (hu c (by simp))
      obtain ⟨u', hu', hrest⟩ : ∃ u', c :: u = c :: cs ++ u' ∧
          Piece.textOf ts = u' ++ ',' :: rest := by
        rcases List.append_eq_append_iff.mp htext with ⟨u', h1, h2⟩ | ⟨x, h1, h2⟩
        · exact ⟨u', h1, h2⟩
        · rcases x with _ | ⟨e, x⟩
          · exact ⟨[], by simpa using h1.symm, by simpa using h2.symm⟩
          · obtain rfl : ',' = e := (List.cons.inj h2).1
            exact absurd (by rw [h1]; simp) hcomma
      have hblank : Blank u' := fun e he => hu e (by rw [hu']; simp [he])
      obtain ⟨as, t', bs, rfl, htext', has, hfirst⟩ := ih hlex.2 hblank hrest
      refine ⟨t :: as, t', bs, rfl, htext', by rw [Piece.textOf_cons, has, hcs, hu'], ?_⟩
      have hmark : (decide (t.kind = .comma) && (0 : Nat) == 0) = false := by
        rcases hk with hk | hk <;> simp [hk]
      have hdeep : t.kind.deepen 0 = 0 := by rcases hk with hk | hk <;> simp [hk, TokenKind.deepen]
      rw [FirstMark] at hfirst ⊢
      rw [commaMarks, hmark, hdeep, hfirst, hu', hcs, List.length_append,
        ← List.replicate_append_replicate, List.append_assoc]

end Token

/-! ### Both readings of a list -/

namespace SelectorList

open Text (Blank cutAt tidy)

/-- Behind the first mark the two readings of a list are told apart by what is left. -/
lemma eq_of_firstMark {a rest : Text} {m m' ms ms' : List Bool} (h : FirstMark m a ms)
    (h' : FirstMark m' a ms')
    (heq : tidy (cutAt m (a ++ ',' :: rest)) = tidy (cutAt m' (a ++ ',' :: rest)))
    (hrest : tidy (cutAt ms rest) = tidy (cutAt ms' rest) → ms = ms') : m = m' := by
  rw [FirstMark] at h h'
  rw [h, h', Text.cutAt_append, Text.cutAt_append] at heq
  rw [h, h', hrest (Text.tidy_cons_cancel heq)]

lemma tidy_cutAt_ne {text a x rest rest' : Text} {m m' ms ms' : List Bool}
    (ha : text = a ++ ',' :: rest) (hx : text = a ++ ',' :: x ++ ',' :: rest')
    (h : FirstMark m a ms) (h' : FirstMark m' (a ++ ',' :: x) ms') (hnot : ¬ Blank a) :
    tidy (cutAt m text) ≠ tidy (cutAt m' text) := by
  have hshort : cutAt m text = a :: cutAt ms rest := by rw [h, ha, Text.cutAt_append]
  have hlong : cutAt m' text = (a ++ ',' :: x) :: cutAt ms' rest' := by
    rw [h', hx, Text.cutAt_append]
  rw [hshort, hlong]
  exact Text.tidy_ne hnot

/-- **Lists that are equal after trimming are cut at the same commas.** -/
theorem marks_eq_of_tidy_eq {ts post : List Token} (hlex : Token.Lexes (ts ++ post))
    (heq : tidy (cutAt (marks .outer (Piece.textOf ts)) (Piece.textOf ts)) =
      tidy (cutAt (Token.commaMarks 0 ts) (Piece.textOf ts))) :
    marks .outer (Piece.textOf ts) = Token.commaMarks 0 ts := by
  induction hn : ts.length using Nat.strongRecOn generalizing ts with
  | _ n ih =>
    -- the step past a comma where both readers cut
    have hpast {as bs : List Token} {t : Token} (hts : ts = as ++ t :: bs) (ht : t.text = [','])
        (h1 : FirstMark (marks .outer (Piece.textOf ts)) (Piece.textOf as)
          (marks .outer (Piece.textOf bs)))
        (h2 : FirstMark (Token.commaMarks 0 ts) (Piece.textOf as) (Token.commaMarks 0 bs)) :
        marks .outer (Piece.textOf ts) = Token.commaMarks 0 ts := by
      have htext : Piece.textOf ts = Piece.textOf as ++ ',' :: Piece.textOf bs := by
        simp [hts, ht]
      refine eq_of_firstMark h1 h2 (by rw [← htext]; exact heq) fun hbs => ?_
      have hlex' : Token.Lexes (bs ++ post) := by
        rw [hts, List.append_assoc] at hlex
        exact (Token.lexes_append.mp hlex).2.2
      exact ih bs.length (by rw [← hn, hts]; simp; omega) hlex' hbs rfl
    by_cases hblank : ∃ u rest, Blank u ∧ Piece.textOf ts = u ++ ',' :: rest
    · obtain ⟨u, rest, hu, htext⟩ := hblank
      obtain ⟨as, t, bs, hts, ht, rfl, h2⟩ := Token.firstMark_commaMarks_of_blank hlex hu htext
      have hrest : rest = Piece.textOf bs := by
        rw [hts, Piece.textOf_append, Piece.textOf_cons, ht] at htext
        simpa using htext.symm
      subst hrest
      have h1 := firstMark_marks_of_blank hu (Piece.textOf bs)
      rw [← htext] at h1
      exact hpast hts ht h1 h2
    -- otherwise a first piece is not blank, and a cut of one reader alone would show
    · have hnot {a rest : Text} (h : Piece.textOf ts = a ++ ',' :: rest) : ¬ Blank a :=
        fun hb => hblank ⟨a, rest, hb, h⟩
      rcases firstMark_marks .outer (Piece.textOf ts) with h1 | ⟨a, rest, ha, h1⟩
      · rcases Token.firstMark_commaMarks hlex 0 with h2 | ⟨as, t, bs, hts, ht, h2⟩
        · rw [h1, h2]
        · have htext : Piece.textOf ts = Piece.textOf as ++ ',' :: Piece.textOf bs := by
            simp [hts, ht]
          rw [h1, Text.cutAt_replicate, h2, htext, Text.cutAt_append] at heq
          exact absurd heq.symm (Text.tidy_ne (hnot htext))
      · rcases Token.firstMark_commaMarks hlex 0 with h2 | ⟨as, t, bs, hts, ht, h2⟩
        · rw [h2, Text.cutAt_replicate, h1, ha, Text.cutAt_append] at heq
          exact absurd heq (Text.tidy_ne (hnot ha))
        · have htext : Piece.textOf ts = Piece.textOf as ++ ',' :: Piece.textOf bs := by
            simp [hts, ht]
          have hboth := ha.symm.trans htext
          rcases List.append_eq_append_iff.mp hboth with ⟨x, hx, hx'⟩ | ⟨x, hx, hx'⟩
          · rcases x with _ | ⟨c, x⟩
            · rw [List.append_nil] at hx
              obtain rfl : rest = Piece.textOf bs := (List.cons.inj hx').2
              exact hpast hts ht (hx ▸ h1) h2
            · obtain rfl : ',' = c := (List.cons.inj hx').1
              rw [hx] at htext h2
              exact absurd heq (tidy_cutAt_ne ha htext h1 h2 (hnot ha))
          · rcases x with _ | ⟨c, x⟩
            · rw [List.append_nil] at hx
              obtain rfl : rest = Piece.textOf bs := (List.cons.inj hx').2.symm
              exact hpast hts ht (hx ▸ h1) h2
            · obtain rfl : ',' = c := (List.cons.inj hx').1
              rw [hx] at ha h1
              exact absurd heq.symm (tidy_cutAt_ne htext ha h2 h1 (hnot htext))

end SelectorList

/-! ### The selectors of a rule -/

def Token.isInside (span : Span) (t : Token) : Bool :=
  span.start ≤ t.start ∧ t.stop ≤ span.stop

lemma Token.isInside_between {a b : Text} {t : Token} :
    isInside (Span.between a b) t = true ↔ a.size ≤ t.start ∧ t.stop ≤ a.size + b.size :=
  decide_eq_true_iff

def Token.inside (span : Span) (source : Text) : List Token :=
  (scan source).filter (isInside span)

lemma Piece.start_le_of_adjacent {κ : Type} {offset : Nat} {ps : List (Piece κ)}
    (h : Adjacent offset ps) :
    ∀ p ∈ ps, offset ≤ p.start ∧ p.stop ≤ offset + (textOf ps).size := by
  induction ps generalizing offset with
  | nil => simp
  | cons p ps ih =>
    obtain ⟨rfl, h⟩ := h
    have hstop : p.stop = p.start + p.text.size := rfl
    intro q hq
    rw [textOf_cons, Text.size_append]
    rcases List.mem_cons.mp hq with rfl | hq
    · omega
    · have hq' := ih h q hq
      omega

lemma Token.inside_eq {source : Text} {pre ts post : List Token}
    (h : scan source = pre ++ (ts ++ post)) :
    inside (Span.between (Piece.textOf pre) (Piece.textOf ts)) source = ts := by
  obtain ⟨hadj, hlex, -⟩ := scan_spec source
  have hpos : ∀ t ∈ scan source, t.start < t.stop := by
    intro t ht
    have hne : t.text.size ≠ 0 := fun h0 => hlex.ne_nil t ht (Text.size_eq_zero.mp h0)
    have hstop : t.stop = t.start + t.text.size := rfl
    omega
  rw [inside, h]
  rw [h] at hadj hpos
  obtain ⟨hpre, hadj⟩ := Piece.adjacent_append.mp hadj
  obtain ⟨hts, hpost⟩ := Piece.adjacent_append.mp hadj
  have hpre := Piece.start_le_of_adjacent hpre
  have hts := Piece.start_le_of_adjacent hts
  have hpost := Piece.start_le_of_adjacent hpost
  rw [List.filter_append, List.filter_append]
  have h1 : pre.filter (isInside (Span.between (Piece.textOf pre) (Piece.textOf ts))) = [] := by
    refine List.filter_eq_nil_iff.mpr fun t ht => ?_
    have hle := hpre t ht
    have hlt := hpos t (by simp [ht])
    rw [isInside_between]
    omega
  have h2 : ts.filter (isInside (Span.between (Piece.textOf pre) (Piece.textOf ts))) = ts := by
    refine List.filter_eq_self.mpr fun t ht => ?_
    have hle := hts t ht
    rw [isInside_between]
    omega
  have h3 : post.filter (isInside (Span.between (Piece.textOf pre) (Piece.textOf ts))) = [] := by
    refine List.filter_eq_nil_iff.mpr fun t ht => ?_
    have hle := hpost t ht
    have hlt := hpos t (by simp [ht])
    rw [isInside_between]
    omega
  rw [h1, h2, h3, List.nil_append, List.append_nil]

namespace Rule

/-- The selectors of a rule, cut at the commas among its tokens. -/
def tokenSelectors (source : Text) (r : Rule) : List Text :=
  Text.tidy (Text.cutAt (Token.commaMarks 0 (Token.inside r.selectorSpan source)) r.selector)

end Rule

namespace Sheet

/-- **When the selectors of a rule are those of its tokens.** They are exactly when the splitter
marks the commas that are tokens outside brackets and no others, and in a source without faults
whenever no comment in the selector has a comma, a quote or a bracket. -/
theorem selectors_eq_tokenSelectors_iff {source : Text} {file : Option Text} {id : NodeId}
    {r : Rule} (hr : (id, r) ∈ (parse source file).sheet.rules) :
    (r.selectors = r.tokenSelectors source ↔
      SelectorList.marks .outer r.selector =
        Token.commaMarks 0 (Token.inside r.selectorSpan source)) ∧
    ((parse source file).errors = [] →
      (∀ t ∈ Token.inside r.selectorSpan source, t.kind = .comment →
        ∀ c ∈ t.text, SelectorList.isSign c = false) →
      r.selectors = r.tokenSelectors source) := by
  obtain ⟨pre, head, brace, post, hscan, hst, hsel, -, hspan⟩ := exists_prelude_of_mem_rules hr
  rw [← Prelude.content_append_trailing head, List.append_assoc] at hscan
  have hinside : Token.inside r.selectorSpan source = Prelude.content head := by
    rw [hspan, hsel]
    exact Token.inside_eq hscan
  have hlex := (Token.scan_spec source).2.1
  rw [hscan] at hlex
  have hlex := (Token.lexes_append.mp hlex).2
  have hiff : r.selectors = r.tokenSelectors source ↔
      SelectorList.marks .outer r.selector =
        Token.commaMarks 0 (Token.inside r.selectorSpan source) := by
    rw [Rule.selectors, Rule.tokenSelectors, SelectorList.split_eq_cutAt, hinside, hsel]
    constructor
    · exact SelectorList.marks_eq_of_tidy_eq hlex
    · intro h
      rw [h]
  refine ⟨hiff, fun herr hcomments => hiff.mpr ?_⟩
  rw [hinside, hsel]
  rw [hinside] at hcomments
  obtain ⟨inside, hfault⟩ := (errors_parse_eq_nil.mp herr).faultless _ hst
  refine SelectorList.marks_textOf hlex rfl (fun t ht => ?_) (.inl rfl)
  have hmem : t ∈ head := by
    rw [← Prelude.content_append_trailing head]
    exact List.mem_append_left _ ht
  obtain ⟨hs, hc⟩ := (Prelude.errors_eq_nil.mp hfault.1).1 t hmem
  exact ⟨hs, fun hk => ⟨hc hk, hcomments t ht hk⟩⟩

/-- A comment without signs is passed over. -/
theorem selectors_eq_of_plain_comment :
    (parse ".a /* b */, .c\x7b\x7d".toList none).errors = [] ∧
      ∀ p ∈ (parse ".a /* b */, .c\x7b\x7d".toList none).sheet.rules,
        p.2.selectors = p.2.tokenSelectors ".a /* b */, .c\x7b\x7d".toList := by
  refine ⟨by decide +kernel, fun p hp => ?_⟩
  refine (selectors_eq_tokenSelectors_iff hp).2 (by decide +kernel) fun t ht hk c hc => ?_
  have hplain : ((parse ".a /* b */, .c\x7b\x7d".toList none).sheet.rules.all fun p =>
      (Token.inside p.2.selectorSpan ".a /* b */, .c\x7b\x7d".toList).all fun t =>
        t.kind != .comment || t.text.all (!SelectorList.isSign ·)) = true := by
    decide +kernel
  have hcomment := List.all_eq_true.mp (List.all_eq_true.mp hplain p hp) t ht
  rw [hk, bne_self_eq_false, Bool.false_or] at hcomment
  simpa using List.all_eq_true.mp hcomment c hc

/-- A quote in a comment hides the comma behind it from the splitter. -/
theorem selectors_ne_of_comment :
    (parse ".a /* don't */, .b \x7b\x7d".toList none).errors = [] ∧
      ∃ p ∈ (parse ".a /* don't */, .b \x7b\x7d".toList none).sheet.rules,
        p.2.selectors = [".a /* don't */, .b".toList] ∧
        p.2.tokenSelectors ".a /* don't */, .b \x7b\x7d".toList =
          [".a /* don't */".toList, ".b".toList] := by
  decide +kernel

end Sheet
end StyleScope
