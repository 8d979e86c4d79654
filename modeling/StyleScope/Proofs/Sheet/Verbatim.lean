import StyleScope.Proofs.Sheet.Provenance

/-!
What a source map says about rewritten selectors.

A map does not record which pieces were copied: it takes a piece for a copy when both its spans
are equally long. `TellsRewritten` says what a reader of the map relies on, that every offset in
a rewritten selector leads to the start of the old one and that exactly the copies are reported as
such. A parsed sheet has such a map exactly when no selector was rewritten to one of its own length.
-/

namespace StyleScope

namespace Chunk

variable {source : Text} {cursor stop offset : Nat} {c : Chunk} {cs : List Chunk} {m : Mapping}

lemma Reads.holds (h : Reads source cursor cs stop) (hc : c ∈ cs) : c.Holds source := by
  induction cs generalizing cursor with
  | nil => simp at hc
  | cons c' cs ih =>
    obtain ⟨hholds, -, -, hrest⟩ := h
    rcases List.mem_cons.mp hc with rfl | hc
    · exact hholds
    · exact ih hrest hc

lemma exists_of_mem_mappings (hm : m ∈ mappings offset cs) :
    ∃ c ∈ cs, m.source = c.source ∧ ∃ before after : Text,
      cs.flatMap text = before ++ (c.text ++ after) ∧
      m.printed = ⟨offset + before.size, offset + before.size + c.text.size⟩ := by
  induction cs generalizing offset with
  | nil => simp [mappings] at hm
  | cons c cs ih =>
    have htail (hm : m ∈ mappings (offset + c.text.size) cs) : ∃ c' ∈ c :: cs,
        m.source = c'.source ∧ ∃ before after : Text,
          (c :: cs).flatMap text = before ++ (c'.text ++ after) ∧
          m.printed = ⟨offset + before.size, offset + before.size + c'.text.size⟩ := by
      obtain ⟨c', hc', hsource, before, after, htext, hprinted⟩ := ih hm
      refine ⟨c', List.mem_cons_of_mem c hc', hsource, c.text ++ before, after, ?_, ?_⟩
      · rw [List.flatMap_cons, htext, List.append_assoc]
      · rw [hprinted, Text.size_append, Nat.add_assoc offset]
    rw [mappings] at hm
    split_ifs at hm with hsize
    · exact htail (by rwa [hsize])
    · rcases List.mem_cons.mp hm with rfl | hm
      · exact ⟨c, List.mem_cons_self, rfl, [], cs.flatMap text, rfl, rfl⟩
      · exact htail hm

lemma mem_mappings_of_tail (hm : m ∈ mappings (offset + c.text.size) cs) :
    m ∈ mappings offset (c :: cs) := by
  rw [mappings]
  split_ifs with hsize
  · rwa [hsize] at hm
  · exact List.mem_cons_of_mem _ hm

lemma mem_mappings_self (hc : c.text ≠ []) :
    ⟨⟨offset, offset + c.text.size⟩, c.source⟩ ∈ mappings offset (c :: cs) := by
  rw [mappings, if_neg fun hsize => hc (Text.size_eq_zero.mp hsize)]
  exact List.mem_cons_self

lemma slice?_source {start : Nat} {t : Text} (h : (copied start t).Holds source) :
    (copied start t).source.slice? source = some t := by
  obtain ⟨before, after, rfl, rfl⟩ := h
  exact Span.slice?_between before t after

end Chunk

namespace Sheet

/-! ### Printed selectors -/

/-- Where the selectors of rules stand in the printed text, when the source from `cursor` on is
printed from `offset` on. -/
def printedFrom : Nat → Nat → List Rule → List (Rule × Span)
  | _, _, [] => []
  | cursor, offset, r :: rs =>
    let start := offset + (r.selectorSpan.start - cursor)
    (r, ⟨start, start + r.selector.size⟩) ::
      printedFrom r.selectorSpan.stop (start + r.selector.size) rs

/-- The rules of a sheet, each with the span of its selector in the printed text. -/
def printedSelectors (s : Sheet) : List (Rule × Span) := printedFrom 0 0 (s.rules.map Prod.snd)

lemma map_fst_printedFrom (cursor offset : Nat) (rs : List Rule) :
    (printedFrom cursor offset rs).map Prod.fst = rs := by
  induction rs generalizing cursor offset with
  | nil => rfl
  | cons r rs ih => rw [printedFrom, List.map_cons, ih]

lemma stop_of_mem_printedFrom {cursor offset : Nat} {rs : List Rule} :
    ∀ p ∈ printedFrom cursor offset rs, p.2.stop = p.2.start + p.1.selector.size := by
  induction rs generalizing cursor offset with
  | nil => simp [printedFrom]
  | cons r rs ih =>
    intro p hp
    simp only [printedFrom, List.mem_cons] at hp
    rcases hp with rfl | hp
    · rfl
    · exact ih p hp

lemma slice?_of_mem_printedFrom {cursor : Nat} {text out : Text} {rs : List Rule}
    (h : Spliced cursor text rs out) (done : Text) :
    ∀ p ∈ printedFrom cursor done.size rs, p.2.slice? (done ++ out) = some p.1.selector := by
  induction h generalizing done with
  | rest => simp [printedFrom]
  | @rule cursor gap written text out r rs hspan h ih =>
    have hgap : r.selectorSpan.start - cursor = gap.size := by simp [hspan]
    intro p hp
    simp only [printedFrom, hgap, List.mem_cons] at hp
    rcases hp with rfl | hp
    · have hslice := Span.slice?_between (done ++ gap) r.selector out
      rwa [List.append_assoc, Span.between, Text.size_append] at hslice
    · have hrest := ih (done ++ (gap ++ r.selector)) p
        (by rwa [Text.size_append, Text.size_append, ← Nat.add_assoc])
      simpa [List.append_assoc] using hrest

variable {source : Text} {rs : List Rule} {out : Text}

lemma mem_mappings_of_isRewritten (h : Spliced 0 source rs out) (offset : Nat) :
    ∀ p ∈ printedFrom 0 offset rs, p.1.isRewritten source = true → p.1.selector ≠ [] →
      ⟨p.2, p.1.selectorSpan⟩ ∈ Chunk.mappings offset (chunksFrom 0 source rs) := by
  revert offset
  refine chunksFrom_induction (motive := fun cursor rs cs => ∀ offset,
      ∀ p ∈ printedFrom cursor offset rs, p.1.isRewritten source = true → p.1.selector ≠ [] →
        ⟨p.2, p.1.selectorSpan⟩ ∈ Chunk.mappings offset cs)
    (fun before text _ => by simp [printedFrom])
    (fun before gap written text r rs cs hsource hspan ih => ?_) h
  intro offset p hp hrewritten hne
  have hgap : r.selectorSpan.start - before.size = gap.size := by simp [hspan]
  simp only [printedFrom, hgap, List.mem_cons] at hp
  refine Chunk.mem_mappings_of_tail ?_
  rcases hp with rfl | hp
  · have hchunk : selectorChunk r written = .replaced r.selectorSpan r.selector := by
      rw [← List.append_assoc] at hsource
      rw [selectorChunk_eq text hspan, ← hsource, if_pos hrewritten]
    rw [hchunk]
    exact Chunk.mem_mappings_self hne
  · refine Chunk.mem_mappings_of_tail ?_
    rw [text_selectorChunk]
    exact ih _ p hp hrewritten hne

lemma slice?_selectorSpan (h : Spliced 0 source rs out) : ∀ r ∈ rs,
    ∃ written, r.selectorSpan.slice? source = some written ∧
      written.size = r.selectorSpan.length := by
  refine chunksFrom_induction (motive := fun _ rs _ => ∀ r ∈ rs,
      ∃ written, r.selectorSpan.slice? source = some written ∧
        written.size = r.selectorSpan.length)
    (fun before text _ => by simp) (fun before gap written text r rs cs hsource hspan ih => ?_) h
  intro r' hr'
  rcases List.mem_cons.mp hr' with rfl | hr'
  · refine ⟨written, ?_, by simp [hspan, Span.length]⟩
    rw [hspan, hsource, ← List.append_assoc, Span.slice?_between]
  · exact ih r' hr'

lemma size_pos_of_isRewritten (h : Spliced 0 source rs out) {r : Rule} (hr : r ∈ rs)
    (hrewritten : r.isRewritten source = true)
    (hsize : r.selector.size = r.selectorSpan.length) : 0 < r.selector.size := by
  obtain ⟨written, hslice, hlength⟩ := slice?_selectorSpan h r hr
  by_contra hzero
  have hnew : r.selector = [] := Text.size_eq_zero.mp (by omega)
  have hold : written = [] := Text.size_eq_zero.mp (by omega)
  rw [Rule.isRewritten, hslice, hnew, hold] at hrewritten
  simp at hrewritten

/-! ### Copies and replacements -/

/-- The map of a sheet tells its rewritten selectors from the text that was copied. -/
structure TellsRewritten (s : Sheet) : Prop where
  /-- An offset in a rewritten selector leads to the start of the old one, by a mapping that is not
  reported as a copy. -/
  rewritten : ∀ p ∈ s.printedSelectors, p.1.isRewritten s.source = true →
    ∀ g, p.2.contains g = true →
      s.print.sourceMap.sourceOffset? g = some p.1.selectorSpan.start ∧
      ∃ m, s.print.sourceMap.covering? g = some m ∧ m.isVerbatim = false
  /-- A mapping is reported as a copy exactly when its two spans have the same text. -/
  verbatim : ∀ m ∈ s.print.sourceMap.mappings, m.isVerbatim = true ↔
    ∃ t, m.printed.slice? s.print.css = some t ∧ m.source.slice? s.source = some t

section Spliced

variable {s : Sheet} {m : Mapping}

lemma slice?_of_mem_printedSelectors (h : Spliced 0 s.source (s.rules.map Prod.snd) s.print.css) :
    ∀ p ∈ s.printedSelectors, p.2.slice? s.print.css = some p.1.selector :=
  slice?_of_mem_printedFrom h []

lemma covering?_of_isRewritten (h : Spliced 0 s.source (s.rules.map Prod.snd) s.print.css)
    {p : Rule × Span} (hp : p ∈ s.printedSelectors) (hrewritten : p.1.isRewritten s.source = true)
    {g : Nat} (hg : p.2.contains g = true) :
    s.print.sourceMap.covering? g = some ⟨p.2, p.1.selectorSpan⟩ := by
  have hstop := stop_of_mem_printedFrom p hp
  have hne : p.1.selector ≠ [] := by
    intro hnil
    rw [hnil, Text.size_nil] at hstop
    rw [Span.contains_iff] at hg
    omega
  have hmem := mem_mappings_of_isRewritten h 0 p hp hrewritten hne
  rw [← chunks, ← mappings_print, Array.mem_toList_iff] at hmem
  exact SourceMap.covering?_eq_some s.tiles_print hmem hg

lemma mapping_cases (h : Spliced 0 s.source (s.rules.map Prod.snd) s.print.css)
    (hm : m ∈ s.print.sourceMap.mappings) :
    (m.isVerbatim = true ∧ ∃ t, m.printed.slice? s.print.css = some t ∧
      m.source.slice? s.source = some t) ∨
    ∃ p ∈ s.rules, p.2.isRewritten s.source = true ∧ m.source = p.2.selectorSpan ∧
      m.printed.length = p.2.selector.size ∧
      m.printed.slice? s.print.css = some p.2.selector := by
  rw [← Array.mem_toList_iff, mappings_print] at hm
  obtain ⟨c, hc, hsource, before, after, hcss, hprinted⟩ := Chunk.exists_of_mem_mappings hm
  rw [Nat.zero_add] at hprinted
  have hslice : m.printed.slice? s.print.css = some c.text := by
    rw [print, hcss, hprinted]
    exact Span.slice?_between before c.text after
  have hlength : m.printed.length = c.text.size := by
    rw [hprinted, Span.length, Nat.add_sub_cancel_left]
  cases c with
  | copied start t =>
    refine .inl ⟨?_, t, hslice, ?_⟩
    · rw [Mapping.isVerbatim, hlength, hsource]
      simp [Chunk.source, Chunk.text, Span.length]
    · rw [hsource]
      exact Chunk.slice?_source ((reads_chunksFrom h).holds hc)
  | replaced span t =>
    obtain ⟨r, hr, hrewritten, hspan, htext⟩ := exists_isRewritten h hc
    obtain ⟨p, hp, rfl⟩ := List.mem_map.mp hr
    subst hspan htext
    exact .inr ⟨p, hp, hrewritten, hsource, hlength, hslice⟩

lemma isVerbatim_iff_of_ne (h : Spliced 0 s.source (s.rules.map Prod.snd) s.print.css)
    (hne : ∀ p ∈ s.rules, p.2.isRewritten s.source = true →
      p.2.selector.size ≠ p.2.selectorSpan.length) (hm : m ∈ s.print.sourceMap.mappings) :
    m.isVerbatim = true ↔
      ∃ t, m.printed.slice? s.print.css = some t ∧ m.source.slice? s.source = some t := by
  rcases mapping_cases h hm with ⟨hverbatim, htext⟩ | ⟨p, hp, hrewritten, hsource, hlength, hslice⟩
  · exact ⟨fun _ => htext, fun _ => hverbatim⟩
  · rw [Mapping.isVerbatim, hsource, hlength, beq_iff_eq]
    refine ⟨fun heq => absurd heq (hne p hp hrewritten), ?_⟩
    rintro ⟨t, hprinted, hold⟩
    -- the old text is the new selector, so nothing was rewritten
    rw [hslice, Option.some.injEq] at hprinted
    rw [Rule.isRewritten, hold, ← hprinted] at hrewritten
    simp at hrewritten

lemma isVerbatim_printedSelectors {p : Rule × Span} (hp : p ∈ s.printedSelectors) :
    (Mapping.mk p.2 p.1.selectorSpan).isVerbatim = true ↔
      p.1.selector.size = p.1.selectorSpan.length := by
  have hstop := stop_of_mem_printedFrom p hp
  have hlength : p.2.length = p.1.selector.size := by
    rw [Span.length]
    omega
  rw [Mapping.isVerbatim, hlength, beq_iff_eq]

theorem tellsRewritten_iff (h : Spliced 0 s.source (s.rules.map Prod.snd) s.print.css) :
    s.TellsRewritten ↔ ∀ p ∈ s.rules, p.2.isRewritten s.source = true →
      p.2.selector.size ≠ p.2.selectorSpan.length := by
  constructor
  · intro htells p hp hrewritten hsize
    obtain ⟨q, hq, hqp⟩ : ∃ q ∈ s.printedSelectors, q.1 = p.2 := by
      rw [← List.mem_map, printedSelectors, map_fst_printedFrom]
      exact List.mem_map_of_mem hp
    rw [← hqp] at hrewritten hsize
    have hpos := size_pos_of_isRewritten h (hqp ▸ List.mem_map_of_mem hp) hrewritten hsize
    have hstop := stop_of_mem_printedFrom q hq
    have hg : q.2.contains q.2.start = true := Span.contains_iff.mpr ⟨Nat.le_refl _, by omega⟩
    obtain ⟨-, m, hm, hverbatim⟩ := htells.rewritten q hq hrewritten q.2.start hg
    rw [covering?_of_isRewritten h hq hrewritten hg, Option.some.injEq] at hm
    rw [← hm, (isVerbatim_printedSelectors hq).mpr hsize] at hverbatim
    contradiction
  · intro hne
    refine ⟨fun p hp hrewritten g hg => ?_, fun m hm => isVerbatim_iff_of_ne h hne hm⟩
    have hcovering := covering?_of_isRewritten h hp hrewritten hg
    obtain ⟨q, hq, hqp⟩ : ∃ q ∈ s.rules, q.2 = p.1 := by
      rw [← List.mem_map, ← map_fst_printedFrom 0 0 (s.rules.map Prod.snd)]
      exact List.mem_map_of_mem hp
    have hverbatim : (Mapping.mk p.2 p.1.selectorSpan).isVerbatim = false := by
      rw [← Bool.not_eq_true, isVerbatim_printedSelectors hp, ← hqp]
      exact hne q hq (hqp ▸ hrewritten)
    refine ⟨?_, _, hcovering, hverbatim⟩
    rw [SourceMap.sourceOffset?, hcovering]
    simp [hverbatim]

end Spliced

/-- **A map tells rewritten selectors from copies exactly when no selector was rewritten to one of
its own length.** After any run of changes to the selectors of a parsed sheet, `printedSelectors`
are the places of the selectors in the printed text, and an offset in one that was rewritten is
covered by the mapping between that place and the old selector. -/
theorem tellsRewritten_editAll_iff (source : Text) (file : Option Text) (edits : List Edit) :
    let s := (parse source file).sheet.editAll edits
    s.source = source ∧ s.printedSelectors.map Prod.fst = s.rules.map Prod.snd ∧
    (∀ p ∈ s.printedSelectors, p.2.slice? s.print.css = some p.1.selector ∧
      (p.1.isRewritten source = true → ∀ g, p.2.contains g = true →
        s.print.sourceMap.covering? g = some ⟨p.2, p.1.selectorSpan⟩)) ∧
    (s.TellsRewritten ↔ ∀ p ∈ s.rules, p.2.isRewritten source = true →
      p.2.selector.size ≠ p.2.selectorSpan.length) := by
  intro s
  have hsource : s.source = source := source_editAll (parse source file).sheet edits
  have hspliced : Spliced 0 s.source (s.rules.map Prod.snd) s.print.css := by
    rw [hsource]
    exact print_of_places hsource (places_editAll (parse source file).sheet edits)
  refine ⟨hsource, map_fst_printedFrom 0 0 _, fun p hp => ⟨?_, fun hrewritten g hg => ?_⟩, ?_⟩
  · exact slice?_of_mem_printedSelectors hspliced p hp
  · exact covering?_of_isRewritten hspliced hp (hsource ▸ hrewritten) hg
  · rw [tellsRewritten_iff hspliced, hsource]

/-- A selector that is replaced by another of its length is reported as a copy, and the offsets in
it lead into the old selector. -/
theorem not_tellsRewritten_of_equal_size :
    ((parse ".aa \x7b\x7d".toList none).sheet.edit (.selector 0 ".bb".toList)).print.css =
      ".bb \x7b\x7d".toList ∧
    (((parse ".aa \x7b\x7d".toList none).sheet.edit
      (.selector 0 ".bb".toList)).print.sourceMap.covering? 1).map Mapping.isVerbatim =
      some true ∧
    ((parse ".aa \x7b\x7d".toList none).sheet.edit
      (.selector 0 ".bb".toList)).print.sourceMap.sourceOffset? 1 = some 1 ∧
    ¬ ((parse ".aa \x7b\x7d".toList none).sheet.edit
      (.selector 0 ".bb".toList)).TellsRewritten := by
  refine ⟨by decide +kernel, by decide +kernel, by decide +kernel, fun htells => ?_⟩
  have hoffset := htells.rewritten (⟨".bb".toList, ⟨0, 3⟩, [' '], []⟩, ⟨0, 3⟩)
    (by decide +kernel) (by decide +kernel) 1 (by decide)
  exact absurd hoffset.1 (by decide +kernel)

end Sheet
end StyleScope
