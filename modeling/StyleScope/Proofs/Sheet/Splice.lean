import StyleScope.Proofs.Sheet.Rules
import StyleScope.Proofs.Text.Cut
import StyleScope.Sheet.Printer

/-!
Printing a sheet whose selectors were changed.

A sheet keeps its source, and a rule keeps the span of the selector it was parsed with.
`Spliced` says what the printed text should be: the source, with each rule's selector in the
place of its span, the rules in order and every other character as it was. It holds of every
parsed sheet, whatever was wrong with its source, because the spans come from tokens that lie
side by side; and no change of a selector touches a span.
-/

namespace StyleScope

/-- `text` is the source from `cursor` on, and `out` the same text with the selectors of the
rules, in order, in place of what is under their spans. -/
inductive Spliced : Nat → Text → List Rule → Text → Prop
  | rest {cursor : Nat} {text : Text} : Spliced cursor text [] text
  | rule {cursor : Nat} {gap written text out : Text} {r : Rule} {rs : List Rule}
      (hspan : r.selectorSpan = ⟨cursor + gap.size, cursor + gap.size + written.size⟩)
      (h : Spliced r.selectorSpan.stop text rs out) :
      Spliced cursor (gap ++ (written ++ text)) (r :: rs) (gap ++ (r.selector ++ out))

namespace Spliced

lemma gap {cursor : Nat} {text out : Text} {rs : List Rule} (g : Text)
    (h : Spliced (cursor + g.size) text rs out) : Spliced cursor (g ++ text) rs (g ++ out) := by
  cases h with
  | rest => exact .rest
  | @rule _ gap written text out r rs hspan h =>
    rw [← List.append_assoc, ← List.append_assoc g]
    refine .rule ?_ h
    simp only [hspan, Text.size_append, Span.mk.injEq]
    omega

lemma respan {cursor : Nat} {text out : Text} {rs rs' : List Rule}
    (h : Spliced cursor text rs out)
    (hrs : rs'.map Rule.selectorSpan = rs.map Rule.selectorSpan) :
    ∃ out', Spliced cursor text rs' out' := by
  induction h generalizing rs' with
  | @rest cursor text =>
    rw [List.map_nil, List.map_eq_nil_iff] at hrs
    subst hrs
    exact ⟨text, .rest⟩
  | rule hspan h ih =>
    obtain ⟨r', rs', rfl, hs, hrs⟩ := List.map_eq_cons_iff.mp hrs
    obtain ⟨out', h'⟩ := ih hrs
    exact ⟨_, .rule (hs.trans hspan) (hs ▸ h')⟩

lemma unique {cursor : Nat} {text out out' : Text} {rs : List Rule}
    (h : Spliced cursor text rs out) (h' : Spliced cursor text rs out') : out = out' := by
  induction h generalizing out' with
  | rest => cases h'; rfl
  | @rule cursor gap written text out r rs hspan h ih =>
    generalize hsrc : gap ++ (written ++ text) = src at h'
    obtain _ | @⟨_, gap', written', text', out', _, _, hspan', h'⟩ := h'
    rw [hspan, Span.mk.injEq] at hspan'
    obtain ⟨rfl, hrest⟩ : gap = gap' ∧ written ++ text = written' ++ text' := by
      have hcut := congrArg (Text.cut gap.size) hsrc
      rw [Text.cut_size_append, show gap.size = gap'.size by omega,
        Text.cut_size_append] at hcut
      exact Prod.mk.inj hcut
    obtain ⟨rfl, rfl⟩ : written = written' ∧ text = text' := by
      have hcut := congrArg (Text.cut written.size) hrest
      rw [Text.cut_size_append, show written.size = written'.size by omega,
        Text.cut_size_append] at hcut
      exact Prod.mk.inj hcut
    rw [ih h']

end Spliced

/-! ### The printer -/

namespace Sheet

@[simp] lemma text_selectorChunk (r : Rule) (written : Text) :
    (selectorChunk r written).text = r.selector := by
  unfold selectorChunk
  split_ifs with heq <;> simp [Chunk.text, heq]

lemma flatMap_chunksFrom {cursor : Nat} {text out : Text} {rs : List Rule}
    (h : Spliced cursor text rs out) : (chunksFrom cursor text rs).flatMap Chunk.text = out := by
  induction h with
  | rest => simp [chunksFrom, Chunk.text]
  | @rule cursor gap written text out r rs hspan h ih =>
    have hgap : r.selectorSpan.start - cursor = gap.size := by simp [hspan]
    have hwritten : r.selectorSpan.length = written.size := by simp [Span.length, hspan]
    rw [chunksFrom, hgap, Text.cut_size_append]
    simp only [hwritten, Text.cut_size_append, List.flatMap_cons, ih, text_selectorChunk]
    rfl

/-- The source with the selectors of the rules in place of their spans, where every slice of
the source is checked; none if one of them is no slice. -/
def splice? (source : Text) : Nat → List Rule → Option Text
  | cursor, [] => (Span.mk cursor source.size).slice? source
  | cursor, r :: rs => do
    let gap ← (Span.mk cursor r.selectorSpan.start).slice? source
    let _ ← r.selectorSpan.slice? source
    let out ← splice? source r.selectorSpan.stop rs
    return gap ++ (r.selector ++ out)

lemma splice?_eq_some (before : Text) {text out : Text} {rs : List Rule}
    (h : Spliced before.size text rs out) : splice? (before ++ text) before.size rs = some out := by
  generalize hcursor : before.size = cursor at h
  induction h generalizing before with
  | @rest cursor text =>
    subst hcursor
    have hs := Span.slice?_between before text []
    rw [List.append_nil] at hs
    simpa [splice?, Span.between] using hs
  | @rule cursor gap written text out r rs hspan h ih =>
    subst hcursor
    have hgap := Span.slice?_between before gap (written ++ text)
    have hwritten := Span.slice?_between (before ++ gap) written text
    have hrest : splice? (before ++ gap ++ written ++ text) r.selectorSpan.stop rs = some out :=
      ih _ (by simp [hspan, Nat.add_assoc])
    simp only [Span.between, Text.size_append, List.append_assoc] at hgap hwritten hrest
    rw [hspan] at hrest
    simp [splice?, hspan, hgap, hwritten, hrest]

end Sheet

/-! ### Parsed sheets -/

namespace Statement

/-- The tokens are the statements with gaps between them, and `out` is their text with the texts
`news` in place of the selectors of the rules. -/
inductive Retold : List Token → List Statement → List Text → Text → Prop
  | nil : Retold [] [] [] []
  | gap {t : Token} {ts : List Token} {sts : List Statement} {news : List Text} {out : Text}
      (hk : isGap t.kind = true) (h : Retold ts sts news out) :
      Retold (t :: ts) sts news (t.text ++ out)
  | keep {st : Statement} {rest : List Token} {sts : List Statement} {news : List Text}
      {out : Text} (hs : st.Shaped rest) (hr : st.rule? = none) (h : Retold rest sts news out) :
      Retold (st.tokens ++ rest) (st :: sts) news (Piece.textOf st.tokens ++ out)
  | rule {head rest : List Token} {brace : Token} {sts : List Statement} {new : Text}
      {news : List Text} {out : Text} (hs : (Statement.qualified head (.block brace)).Shaped rest)
      (h : Retold rest sts news out) :
      Retold (head ++ brace :: rest) (.qualified head (.block brace) :: sts) (new :: news)
        (new ++ (Piece.textOf (Prelude.trailing head) ++ (brace.text ++ out)))

lemma rule?_cases (st : Statement) :
    st.rule? = none ∨ ∃ head brace, st = .qualified head (.block brace) := by
  cases st with
  | qualified head ending =>
    cases ending with
    | block brace => exact .inr ⟨head, brace, rfl⟩
    | _ => exact .inl rfl
  | _ => exact .inl rfl

lemma Groups.exists_retold {ts : List Token} {sts : List Statement} (h : Groups ts sts)
    {news : List Text} (hlen : news.length = (sts.filterMap rule?).length) :
    ∃ out, Retold ts sts news out := by
  induction h generalizing news with
  | nil =>
    obtain rfl : news = [] := List.length_eq_zero_iff.mp hlen
    exact ⟨[], .nil⟩
  | gap hk h ih =>
    obtain ⟨out, hout⟩ := ih hlen
    exact ⟨_, .gap hk hout⟩
  | @take st rest sts hs h ih =>
    rw [List.filterMap_cons] at hlen
    rcases rule?_cases st with hr | ⟨head, brace, rfl⟩
    · rw [hr] at hlen
      obtain ⟨out, hout⟩ := ih hlen
      exact ⟨_, .keep hs hr hout⟩
    · rcases news with _ | ⟨new, news⟩
      · simp [rule?] at hlen
      · obtain ⟨out, hout⟩ := @ih news (by simpa [rule?] using hlen)
        have htokens : (Statement.qualified head (.block brace)).tokens ++ rest =
            head ++ brace :: rest := by simp [tokens, PreludeEnd.tokens]
        rw [htokens]
        exact ⟨_, .rule hs hout⟩

lemma Retold.eq_textOf {ts : List Token} {sts : List Statement} {out : Text}
    {news : List Text} (h : Retold ts sts news out)
    (hnews : news = (sts.filterMap rule?).map Rule.selector) : out = Piece.textOf ts := by
  induction h with
  | nil => rfl
  | gap hk h ih => rw [ih hnews, Piece.textOf_cons]
  | keep hs hr h ih =>
    rw [List.filterMap_cons, hr] at hnews
    rw [ih hnews, Piece.textOf_append]
  | @rule head rest brace sts new news out hs h ih =>
    simp only [List.filterMap_cons, rule?, List.map_cons, List.cons.injEq] at hnews
    rw [ih hnews.2, hnews.1, ← List.append_assoc, Prelude.textOf_content_append_trailing]
    simp

/-- **Telling tokens anew puts the texts in the places of the selectors.** -/
theorem Retold.spliced {ts : List Token} {sts : List Statement} {news : List Text} {out : Text}
    (h : Retold ts sts news out) {offset : Nat} (ha : Piece.Adjacent offset ts) {rs : List Rule}
    (hspan : rs.map Rule.selectorSpan = (sts.filterMap rule?).map Rule.selectorSpan)
    (hsel : rs.map Rule.selector = news) : Spliced offset (Piece.textOf ts) rs out := by
  induction h generalizing offset rs with
  | nil =>
    obtain rfl : rs = [] := List.map_eq_nil_iff.mp hsel
    exact .rest
  | @gap t ts sts news out hk h ih =>
    have ht := ih ha.2 hspan hsel
    rw [Piece.stop, ha.1] at ht
    exact ht.gap _
  | @keep st rest sts news out hs hr h ih =>
    rw [List.filterMap_cons, hr] at hspan
    rw [Piece.textOf_append]
    exact (ih (Piece.adjacent_append.mp ha).2 hspan hsel).gap _
  | @rule head rest brace sts new news out hs h ih =>
    obtain ⟨r, rs, rfl, rfl, hsels⟩ := List.map_eq_cons_iff.mp hsel
    have hstart : (head.head?.map Piece.start).getD brace.start = offset := by
      rcases head with _ | ⟨t, head⟩
      · exact ha.1
      · exact ha.1
    simp only [List.filterMap_cons, rule?, hstart, List.map_cons, List.cons.injEq] at hspan
    obtain ⟨hspan, hspans⟩ := hspan
    obtain ⟨-, hbrace, hrest⟩ := Piece.adjacent_append.mp ha
    have htext : Piece.textOf (head ++ brace :: rest) =
        [] ++ (Piece.textOf (Prelude.content head) ++
          (Piece.textOf (Prelude.trailing head) ++ (brace.text ++ Piece.textOf rest))) := by
      rw [List.nil_append, ← List.append_assoc, Prelude.textOf_content_append_trailing]
      simp
    rw [htext]
    refine .rule (by simpa [Prelude.spanFrom] using hspan) (.gap _ (.gap _ ?_))
    have hstop : r.selectorSpan.stop + (Piece.textOf (Prelude.trailing head)).size +
        brace.text.size = brace.stop := by
      rw [hspan, Piece.stop, hbrace, ← Prelude.textOf_content_append_trailing head,
        Text.size_append]
      simp [Prelude.spanFrom, Nat.add_assoc]
    rw [hstop]
    exact ih hrest hspans hsels

end Statement

namespace Sheet

lemma map_rules_parse {β : Type} {g : Rule → β} (hg : ∀ r, g r.childless = g r) (source : Text)
    (file : Option Text) : ((parse source file).sheet.rules.map Prod.snd).map g =
      ((Statement.ofTokens (Token.scan source)).filterMap Statement.rule?).map g := by
  rw [← childless_rules_parse source file]
  generalize (parse source file).sheet.rules.map Prod.snd = rs
  rw [List.map_map]
  exact List.map_congr_left fun r _ => (hg r).symm

lemma spliced_of_retold {source : Text} {file : Option Text} {news : List Text} {out : Text}
    (h : Statement.Retold (Token.scan source) (Statement.ofTokens (Token.scan source)) news out)
    {rs : List Rule} (hspan : rs.map Rule.selectorSpan =
      ((parse source file).sheet.rules.map Prod.snd).map Rule.selectorSpan)
    (hsel : rs.map Rule.selector = news) : Spliced 0 source rs out := by
  obtain ⟨hadj, -, htext⟩ := Token.scan_spec source
  have hs := h.spliced hadj (hspan.trans (map_rules_parse (fun _ => rfl) source file)) hsel
  rwa [htext] at hs

lemma spliced_parse (source : Text) (file : Option Text) :
    Spliced 0 source ((parse source file).sheet.rules.map Prod.snd) source := by
  have hsel := @map_rules_parse _ Rule.selector (fun _ => rfl) source file
  have hlen : (((parse source file).sheet.rules.map Prod.snd).map Rule.selector).length =
      ((Statement.ofTokens (Token.scan source)).filterMap Statement.rule?).length := by
    rw [hsel, List.length_map]
  obtain ⟨out, hout⟩ := (Statement.groups_ofTokens (Token.scan source)).exists_retold hlen
  have heq : out = source := (hout.eq_textOf hsel).trans (Token.scan_spec source).2.2
  exact heq ▸ spliced_of_retold hout rfl rfl

/-! ### Changes of selectors -/

/-- A change of the selector of one rule. -/
inductive Edit where
  /-- A new selector text. -/
  | selector (id : NodeId) (text : Text)
  /-- A new list of selectors, written with the separator of the rule. -/
  | selectors (id : NodeId) (items : List Text)
  deriving DecidableEq, Repr

/-- The sheet after a change; a node that is no rule stays as it is. -/
def edit (s : Sheet) : Edit → Sheet
  | .selector id text => s.modifyRule id (·.setSelector text)
  | .selectors id items => s.modifyRule id (·.setSelectors items)

def editAll (s : Sheet) (edits : List Edit) : Sheet := edits.foldl edit s

lemma map_rulesFrom {β : Type} (g : Rule → β) {ns ns' : List Node}
    (h : ns'.map (fun n => n.data.rule?.map g) = ns.map fun n => n.data.rule?.map g)
    (id : NodeId) : (rulesFrom id ns').map (fun p => (p.1, g p.2)) =
      (rulesFrom id ns).map fun p => (p.1, g p.2) := by
  induction ns generalizing ns' id with
  | nil => simp [List.map_eq_nil_iff.mp h]
  | cons n ns ih =>
    obtain ⟨n', ns', rfl, hn, hns⟩ := List.map_eq_cons_iff.mp h
    have hih := ih hns (id + 1)
    rw [rulesFrom, rulesFrom]
    cases hr : n.data.rule? <;> cases hr' : n'.data.rule? <;> simp_all

lemma map_rules_modifyRule {β : Type} {g : Rule → β} {f : Rule → Rule} (hf : ∀ r, g (f r) = g r)
    (s : Sheet) (id : NodeId) : (s.modifyRule id f).rules.map (fun p => (p.1, g p.2)) =
      s.rules.map fun p => (p.1, g p.2) := by
  refine map_rulesFrom g (toList_map_modify (fun n => ?_) _ _) 0
  obtain ⟨data, parent, span⟩ := n
  cases data <;> simp [NodeData.mapRule, NodeData.rule?, hf]

lemma map_rules_editAll {β : Type} {g : Rule → β} (hg : ∀ r text, g (r.setSelector text) = g r)
    (s : Sheet) (edits : List Edit) : (s.editAll edits).rules.map (fun p => (p.1, g p.2)) =
      s.rules.map fun p => (p.1, g p.2) := by
  induction edits generalizing s with
  | nil => rfl
  | cons e edits ih =>
    refine (ih (s.edit e)).trans ?_
    cases e with
    | selector id text => exact map_rules_modifyRule (fun r => hg r text) s id
    | selectors id items =>
      exact map_rules_modifyRule (fun r => hg r (Text.join r.separator items)) s id

def places (s : Sheet) : List (NodeId × Span) := s.rules.map fun p => (p.1, p.2.selectorSpan)

/-- **Changes of selectors move no rule.** -/
theorem places_editAll (s : Sheet) (edits : List Edit) : (s.editAll edits).places = s.places :=
  map_rules_editAll (fun _ _ => rfl) s edits

lemma source_editAll (s : Sheet) (edits : List Edit) : (s.editAll edits).source = s.source := by
  induction edits generalizing s with
  | nil => rfl
  | cons e edits ih => exact (ih (s.edit e)).trans (by cases e <;> rfl)

lemma print_of_places {s : Sheet} {source : Text} {file : Option Text}
    (hsource : s.source = source) (hplaces : s.places = (parse source file).sheet.places) :
    Spliced 0 source (s.rules.map Prod.snd) s.print.css := by
  have hspans : (s.rules.map Prod.snd).map Rule.selectorSpan =
      ((parse source file).sheet.rules.map Prod.snd).map Rule.selectorSpan := by
    simpa [places, Function.comp_def] using congrArg (List.map Prod.snd) hplaces
  obtain ⟨out, hout⟩ := (spliced_parse source file).respan hspans
  have hcss : s.print.css = out := by
    rw [print, chunks, hsource, flatMap_chunksFrom hout]
  exact hcss ▸ hout

/-- **Printing puts every selector in its place and copies the rest.** After any run of changes
to the selectors of a parsed sheet, the rules still have their numbers and spans; every slice of
the source that printing takes is one; the printed text is the source with the current selector
of every rule in place of its span; and a sheet that was not changed prints as its source. -/
theorem print_editAll (source : Text) (file : Option Text) (edits : List Edit) :
    ((parse source file).sheet.editAll edits).places = (parse source file).sheet.places ∧
    splice? source 0 (((parse source file).sheet.editAll edits).rules.map Prod.snd) =
      some ((parse source file).sheet.editAll edits).print.css ∧
    Spliced 0 source (((parse source file).sheet.editAll edits).rules.map Prod.snd)
      ((parse source file).sheet.editAll edits).print.css ∧
    (parse source file).sheet.toCss = source := by
  have hplaces := places_editAll (parse source file).sheet edits
  have hspliced : Spliced 0 source (((parse source file).sheet.editAll edits).rules.map Prod.snd)
      ((parse source file).sheet.editAll edits).print.css :=
    print_of_places (source_editAll (parse source file).sheet edits) hplaces
  refine ⟨hplaces, ?_, hspliced, ?_⟩
  · exact splice?_eq_some [] hspliced
  · rw [toCss, print, chunks]
    exact flatMap_chunksFrom (spliced_parse source file)

end Sheet
end StyleScope
