import StyleScope.Proofs.Sheet.Splice
import StyleScope.Proofs.SourceMap.Cover

/-!
Where the bytes of a printed sheet come from.

`trace` is the printed text byte by byte, each byte with the offset of the source byte that it is a
copy of, or none for a byte of a selector that was changed. It is put together from the source,
the spans of the rules and their selectors, and knows nothing of mappings. A source map is
faithful when it agrees with it, and the map of every parsed sheet is, whatever was done to the
selectors.
-/

namespace StyleScope

namespace Text

def bytes (t : Text) : List UInt8 := t.flatMap String.utf8EncodeChar

@[simp] lemma bytes_append (a b : Text) : bytes (a ++ b) = bytes a ++ bytes b :=
  List.flatMap_append

@[simp] lemma length_bytes (t : Text) : (bytes t).length = t.size := by
  induction t with
  | nil => rfl
  | cons c t ih =>
    rw [bytes, List.flatMap_cons, List.length_append, String.length_utf8EncodeChar, size_cons]
    exact congrArg _ ih

end Text

/-! ### Traces -/

/-- The bytes of the source under a span, each with its offset. -/
def Span.copies (s : Span) (source : Text) : List (UInt8 × Option Nat) :=
  ((source.bytes.zipIdx.drop s.start).take s.length).map (Prod.map id some)

/-- Whether a rule has another selector than the source has at its place. -/
def Rule.isRewritten (r : Rule) (source : Text) : Bool :=
  r.selectorSpan.slice? source != some r.selector

namespace Sheet

/-- The bytes to print from offset `cursor` of the source on, each with the source offset that it
is a copy of. -/
def traceFrom (source : Text) : Nat → List Rule → List (UInt8 × Option Nat)
  | cursor, [] => (Span.mk cursor source.size).copies source
  | cursor, r :: rs =>
    (Span.mk cursor r.selectorSpan.start).copies source ++
      ((if r.isRewritten source then r.selector.bytes.map (·, none)
        else r.selectorSpan.copies source) ++
      traceFrom source r.selectorSpan.stop rs)

/-- The bytes of the printed sheet, each with the source offset that it is a copy of. -/
def trace (s : Sheet) : List (UInt8 × Option Nat) :=
  traceFrom s.source 0 (s.rules.map Prod.snd)

/-- The source offset that a printed byte is a copy of. -/
def origin? (s : Sheet) (g : Nat) : Option Nat := s.trace[g]?.bind Prod.snd

end Sheet

/-- The byte of a chunk at every offset, with the source offset that it is a copy of. -/
def Chunk.trace : Chunk → List (UInt8 × Option Nat)
  | copied start t => (t.bytes.zipIdx start).map (Prod.map id some)
  | replaced _ t => t.bytes.map (·, none)

lemma Span.copies_between (a b c : Text) :
    (between a b).copies (a ++ (b ++ c)) = (Chunk.copied a.size b).trace := by
  have ha : a.bytes.zipIdx.length = a.size := by simp
  have hb : (b.bytes.zipIdx a.size).length = b.size := by simp
  rw [copies, Chunk.trace, length, between_start, between_stop, Nat.add_sub_cancel_left,
    Text.bytes_append, Text.bytes_append, List.zipIdx_append, List.zipIdx_append,
    List.drop_left' ha, Text.length_bytes, Nat.zero_add, List.take_left' hb]

lemma Rule.isRewritten_between {r : Rule} {a b c : Text} (h : r.selectorSpan = .between a b) :
    r.isRewritten (a ++ (b ++ c)) = (b != r.selector) := by
  rw [isRewritten, h, Span.slice?_between]
  rfl

/-! ### Chunks that read the source in order -/

namespace Chunk

@[simp] lemma map_fst_trace (c : Chunk) : c.trace.map Prod.fst = c.text.bytes := by
  cases c <;> simp [trace, text, List.map_map, Function.comp_def]

@[simp] lemma length_trace (c : Chunk) : c.trace.length = c.text.size := by
  rw [← List.length_map Prod.fst, map_fst_trace, Text.length_bytes]

lemma map_fst_flatMap_trace (cs : List Chunk) :
    (cs.flatMap trace).map Prod.fst = Text.bytes (cs.flatMap text) := by
  induction cs with
  | nil => rfl
  | cons c cs ih =>
    rw [List.flatMap_cons, List.flatMap_cons, List.map_append, ih, map_fst_trace,
      Text.bytes_append]

lemma getElem?_trace_copied {start i o : Nat} {t : Text} {b : UInt8} :
    (copied start t).trace[i]? = some (b, some o) ↔ t.bytes[i]? = some b ∧ start + i = o := by
  simp [trace, List.getElem?_zipIdx]

lemma getElem?_trace_replaced {span : Span} {i o : Nat} {t : Text} {b : UInt8} :
    (replaced span t).trace[i]? ≠ some (b, some o) := by
  simp [trace]

/-- A chunk that is a copy stands in the source. -/
def Holds (source : Text) : Chunk → Prop
  | copied start t => ∃ before after, source = before ++ (t ++ after) ∧ before.size = start
  | replaced _ _ => True

/-- The chunks stand for the source from offset `cursor` to offset `stop`, in order. -/
def Reads (source : Text) : Nat → List Chunk → Nat → Prop
  | cursor, [], stop => cursor = stop
  | cursor, c :: cs, stop =>
    c.Holds source ∧ c.source.start = cursor ∧ c.source.start ≤ c.source.stop ∧
      Reads source c.source.stop cs stop

variable {source : Text} {cursor stop : Nat} {c : Chunk} {cs : List Chunk} {b : UInt8} {o : Nat}

lemma Holds.mem_trace (h : c.Holds source) (hmem : (b, some o) ∈ c.trace) :
    c.source.start ≤ o ∧ o < c.source.stop ∧ source.bytes[o]? = some b := by
  obtain ⟨i, hi⟩ := List.mem_iff_getElem?.mp hmem
  cases c with
  | replaced span t => exact absurd hi getElem?_trace_replaced
  | copied start t =>
    obtain ⟨before, after, rfl, rfl⟩ := h
    obtain ⟨hb, rfl⟩ := getElem?_trace_copied.mp hi
    have hlt : i < t.bytes.length := (List.getElem?_eq_some_iff.mp hb).1
    rw [Text.length_bytes] at hlt
    refine ⟨Nat.le_add_right _ _, Nat.add_lt_add_left hlt _, ?_⟩
    rw [Text.bytes_append, Text.bytes_append, List.getElem?_append_right (by simp),
      Text.length_bytes, Nat.add_sub_cancel_left, List.getElem?_append_left (by simpa), hb]

lemma pairwise_trace (c : Chunk) :
    c.trace.Pairwise fun x y => ∀ o o', x.2 = some o → y.2 = some o' → o < o' := by
  refine List.pairwise_iff_getElem.mpr fun i j hi hj hij o o' ho ho' => ?_
  cases c with
  | replaced span t => simp [trace] at ho
  | copied start t =>
    simp only [trace, List.getElem_map, List.getElem_zipIdx, Prod.map_snd, Option.some.injEq]
      at ho ho'
    omega

lemma exists_mem_trace (ho : c.source.contains o = true) :
    (∃ b, (b, some o) ∈ c.trace) ∨ ∃ t, c = .replaced c.source t := by
  cases c with
  | replaced span t => exact .inr ⟨t, rfl⟩
  | copied start t =>
    obtain ⟨hstart, hstop⟩ := Span.contains_iff.mp ho
    simp only [source] at hstart hstop
    have hlt : o - start < t.bytes.length := by
      rw [Text.length_bytes]
      omega
    refine .inl ⟨t.bytes[o - start], List.mem_iff_getElem?.mpr ⟨o - start, ?_⟩⟩
    rw [getElem?_trace_copied]
    exact ⟨List.getElem?_eq_getElem hlt, by omega⟩

lemma Reads.le (h : Reads source cursor cs stop) : cursor ≤ stop := by
  induction cs generalizing cursor with
  | nil => exact Nat.le_of_eq h
  | cons c cs ih =>
    obtain ⟨-, rfl, hle, hrest⟩ := h
    exact Nat.le_trans hle (ih hrest)

lemma Reads.mem_trace (h : Reads source cursor cs stop) (hmem : (b, some o) ∈ cs.flatMap trace) :
    cursor ≤ o ∧ o < stop ∧ source.bytes[o]? = some b := by
  induction cs generalizing cursor with
  | nil => simp at hmem
  | cons c cs ih =>
    obtain ⟨hc, rfl, hle, hrest⟩ := h
    rw [List.flatMap_cons, List.mem_append] at hmem
    rcases hmem with hmem | hmem
    · obtain ⟨hstart, hstop, hbyte⟩ := hc.mem_trace hmem
      exact ⟨hstart, Nat.lt_of_lt_of_le hstop hrest.le, hbyte⟩
    · obtain ⟨hstart, hrest⟩ := ih hrest hmem
      exact ⟨Nat.le_trans hle hstart, hrest⟩

lemma Reads.pairwise_trace (h : Reads source cursor cs stop) :
    (cs.flatMap trace).Pairwise fun x y => ∀ o o', x.2 = some o → y.2 = some o' → o < o' := by
  induction cs generalizing cursor with
  | nil => exact List.Pairwise.nil
  | cons c cs ih =>
    obtain ⟨hc, -, -, hrest⟩ := h
    refine List.pairwise_append.mpr ⟨c.pairwise_trace, ih hrest, ?_⟩
    rintro ⟨b, _⟩ hx ⟨b', _⟩ hy o o' rfl rfl
    have hlt := (hc.mem_trace hx).2.1
    have hge := (hrest.mem_trace hy).1
    omega

lemma Reads.exists_mem_trace (h : Reads source cursor cs stop) (hcursor : cursor ≤ o)
    (hstop : o < stop) : (∃ b, (b, some o) ∈ cs.flatMap trace) ∨
      ∃ span t, .replaced span t ∈ cs ∧ span.contains o = true := by
  induction cs generalizing cursor with
  | nil =>
    have heq : cursor = stop := h
    omega
  | cons c cs ih =>
    obtain ⟨-, rfl, -, hrest⟩ := h
    by_cases ho : o < c.source.stop
    · have hc : c.source.contains o = true := Span.contains_iff.mpr ⟨hcursor, ho⟩
      rcases c.exists_mem_trace hc with ⟨b, hb⟩ | ⟨t, ht⟩
      · exact .inl ⟨b, List.mem_append_left _ hb⟩
      · exact .inr ⟨c.source, t, ht ▸ List.mem_cons_self, hc⟩
    · rcases ih hrest (Nat.le_of_not_lt ho) with ⟨b, hb⟩ | ⟨span, t, hmem, hspan⟩
      · exact .inl ⟨b, List.mem_append_right _ hb⟩
      · exact .inr ⟨span, t, List.mem_cons_of_mem _ hmem, hspan⟩

/-! ### The mappings of such chunks -/

lemma mem_mappings_cons {offset : Nat} {m : Mapping} (hm : m ∈ mappings offset (c :: cs)) :
    m.source = c.source ∨ m ∈ mappings (offset + c.text.size) cs := by
  rw [mappings] at hm
  split_ifs at hm with hsize
  · exact .inr (by rwa [hsize])
  · rcases List.mem_cons.mp hm with rfl | hm
    · exact .inl rfl
    · exact .inr hm

lemma Reads.source_bounds (h : Reads source cursor cs stop) {offset : Nat} :
    ∀ m ∈ mappings offset cs,
      cursor ≤ m.source.start ∧ m.source.start ≤ m.source.stop ∧ m.source.stop ≤ stop := by
  induction cs generalizing cursor offset with
  | nil => simp [mappings]
  | cons c cs ih =>
    obtain ⟨-, rfl, hle, hrest⟩ := h
    intro m hm
    rcases mem_mappings_cons hm with hm | hm
    · rw [hm]
      exact ⟨Nat.le_refl _, hle, hrest.le⟩
    · obtain ⟨hstart, hbounds⟩ := ih hrest m hm
      exact ⟨Nat.le_trans hle hstart, hbounds⟩

lemma Reads.pairwise_source (h : Reads source cursor cs stop) (offset : Nat) :
    (mappings offset cs).Pairwise fun m m' => m.source.stop ≤ m'.source.start := by
  induction cs generalizing cursor offset with
  | nil => exact List.Pairwise.nil
  | cons c cs ih =>
    obtain ⟨-, -, -, hrest⟩ := h
    rw [mappings]
    split_ifs with hsize
    · exact ih hrest offset
    · exact List.pairwise_cons.mpr ⟨fun m hm => (hrest.source_bounds m hm).1, ih hrest _⟩

lemma exists_copies (offset : Nat) {i : Nat} (hi : (cs.flatMap trace)[i]? = some (b, some o)) :
    ∃ m ∈ mappings offset cs, m.Copies (offset + i) o := by
  induction cs generalizing offset i with
  | nil => simp at hi
  | cons c cs ih =>
    rw [List.flatMap_cons] at hi
    rw [mappings]
    by_cases hlt : i < c.trace.length
    · rw [List.getElem?_append_left hlt] at hi
      rw [length_trace] at hlt
      cases c with
      | replaced span t => exact absurd hi getElem?_trace_replaced
      | copied start t =>
        obtain ⟨-, rfl⟩ := getElem?_trace_copied.mp hi
        rw [if_neg (by omega)]
        refine ⟨_, List.mem_cons_self, by simp [Mapping.isVerbatim, Span.length, source, text], i,
          by simpa [Span.length] using hlt, rfl, rfl⟩
    · rw [List.getElem?_append_right (Nat.le_of_not_lt hlt)] at hi
      rw [length_trace] at hlt hi
      obtain ⟨m, hm, hcopies⟩ := ih (offset + c.text.size) hi
      rw [show offset + c.text.size + (i - c.text.size) = offset + i by omega] at hcopies
      refine ⟨m, ?_, hcopies⟩
      split_ifs with hsize
      · rwa [hsize] at hm
      · exact List.mem_cons_of_mem _ hm

end Chunk

/-! ### Printed sheets -/

namespace Sheet

/-- Induction over the chunks of a source: the last chunk is the rest of it, and every rule puts
the text before its selector and the selector in front. -/
lemma chunksFrom_induction {source : Text} {motive : Nat → List Rule → List Chunk → Prop}
    (rest : ∀ before text, source = before ++ text →
      motive before.size [] [.copied before.size text])
    (rule : ∀ before gap written text (r : Rule) rs cs,
      source = before ++ (gap ++ (written ++ text)) →
      r.selectorSpan = .between (before ++ gap) written →
      motive r.selectorSpan.stop rs cs →
      motive before.size (r :: rs) (.copied before.size gap :: selectorChunk r written :: cs))
    {rs : List Rule} {out : Text} (h : Spliced 0 source rs out) :
    motive 0 rs (chunksFrom 0 source rs) := by
  have hfrom (before text : Text) {cursor : Nat} {rs : List Rule} {out : Text}
      (h : Spliced cursor text rs out) (hsource : source = before ++ text)
      (hcursor : before.size = cursor) : motive cursor rs (chunksFrom cursor text rs) := by
    induction h generalizing before with
    | rest =>
      subst hcursor
      exact rest before _ hsource
    | @rule cursor gap written text out r rs hspan h ih =>
      subst hcursor
      have hbetween : r.selectorSpan = .between (before ++ gap) written := by
        rw [hspan, Span.between, Text.size_append]
      have hgap : r.selectorSpan.start - before.size = gap.size := by simp [hspan]
      have hwritten : r.selectorSpan.length = written.size := by simp [Span.length, hspan]
      rw [chunksFrom, hgap, Text.cut_size_append]
      simp only [hwritten, Text.cut_size_append]
      refine rule before gap written text r rs _ hsource hbetween ?_
      exact ih (before ++ (gap ++ written)) (by simp [hsource])
        (by simp [hspan, Nat.add_assoc])
  exact hfrom [] source h rfl rfl

variable {source : Text} {rs : List Rule} {out : Text}

lemma reads_chunksFrom (h : Spliced 0 source rs out) :
    Chunk.Reads source 0 (chunksFrom 0 source rs) source.size := by
  refine chunksFrom_induction
    (motive := fun cursor _ cs => Chunk.Reads source cursor cs source.size)
    (fun before text hsource => ?_) (fun before gap written text r rs cs hsource hspan ih => ?_) h
  · refine ⟨⟨before, [], by simpa using hsource, rfl⟩, rfl, Nat.le_add_right _ _, ?_⟩
    simp [Chunk.Reads, Chunk.source, hsource]
  · refine ⟨⟨before, _, hsource, rfl⟩, rfl, Nat.le_add_right _ _, ?_⟩
    rw [hspan] at ih
    unfold selectorChunk
    split_ifs
    · refine ⟨⟨before ++ gap, text, by simpa using hsource, by rw [hspan]; rfl⟩, ?_, ?_, ?_⟩
      · simp [Chunk.source, hspan]
      · simp [Chunk.source]
      · simpa [Chunk.source, hspan] using ih
    · refine ⟨trivial, ?_, ?_, ?_⟩
      · simp [Chunk.source, hspan]
      · simp [Chunk.source, hspan]
      · simpa [Chunk.source, hspan] using ih

lemma selectorChunk_eq {r : Rule} {before written : Text} (after : Text)
    (hspan : r.selectorSpan = .between before written) :
    selectorChunk r written = if r.isRewritten (before ++ (written ++ after))
      then .replaced r.selectorSpan r.selector else .copied before.size written := by
  rw [Rule.isRewritten_between hspan, selectorChunk, hspan]
  by_cases heq : written = r.selector
  · simp [heq]
  · rw [if_neg (Ne.symm heq), if_pos (by simpa using heq)]

lemma traceFrom_eq (h : Spliced 0 source rs out) :
    traceFrom source 0 rs = (chunksFrom 0 source rs).flatMap Chunk.trace := by
  refine chunksFrom_induction
    (motive := fun cursor rs cs => traceFrom source cursor rs = cs.flatMap Chunk.trace)
    (fun before text hsource => ?_) (fun before gap written text r rs cs hsource hspan ih => ?_) h
  · have hcopies := Span.copies_between before text []
    rw [List.append_nil, ← hsource] at hcopies
    simpa [traceFrom, Span.between, hsource] using hcopies
  · have hgap : (Span.mk before.size r.selectorSpan.start).copies source =
        (Chunk.copied before.size gap).trace := by
      rw [hspan, hsource, Span.between_start, Text.size_append]
      exact Span.copies_between before gap (written ++ text)
    have hselector : (if r.isRewritten source then r.selector.bytes.map (·, none)
        else r.selectorSpan.copies source) = (selectorChunk r written).trace := by
      rw [← List.append_assoc] at hsource
      rw [selectorChunk_eq text hspan, hsource]
      split_ifs
      · rfl
      · rw [hspan, Span.copies_between]
    rw [traceFrom, hgap, hselector, ih]
    simp

lemma exists_isRewritten (h : Spliced 0 source rs out) {span : Span} {t : Text}
    (hmem : .replaced span t ∈ chunksFrom 0 source rs) :
    ∃ r ∈ rs, r.isRewritten source = true ∧ r.selectorSpan = span ∧ r.selector = t := by
  revert hmem
  refine chunksFrom_induction (motive := fun _ rs cs => .replaced span t ∈ cs →
      ∃ r ∈ rs, r.isRewritten source = true ∧ r.selectorSpan = span ∧ r.selector = t)
    (fun before text _ => by simp) (fun before gap written text r rs cs hsource hspan ih => ?_) h
  intro hmem
  rw [← List.append_assoc] at hsource
  rw [selectorChunk_eq text hspan, ← hsource] at hmem
  simp only [List.mem_cons, reduceCtorEq, false_or] at hmem
  rcases hmem with hchunk | hmem
  · split_ifs at hchunk with hr
    obtain ⟨hspan', ht⟩ := Chunk.replaced.inj hchunk
    exact ⟨r, List.mem_cons_self, hr, hspan'.symm, ht.symm⟩
  · obtain ⟨r', hr', hrewritten⟩ := ih hmem
    exact ⟨r', List.mem_cons_of_mem r hr', hrewritten⟩

/-- The source map of a printed sheet tells where its bytes come from. -/
structure IsFaithful (s : Sheet) : Prop where
  /-- The printed spans are not empty, lie side by side and cover the printed text. -/
  tiles : Span.Tiles 0 (s.print.sourceMap.mappings.toList.map Mapping.printed) s.print.css.size
  within : ∀ m ∈ s.print.sourceMap.mappings,
    m.source.start ≤ m.source.stop ∧ m.source.stop ≤ s.source.size
  /-- The source spans are apart and go forward. -/
  apart : s.print.sourceMap.mappings.toList.Pairwise fun m m' => m.source.stop ≤ m'.source.start
  /-- The trace is the printed text. -/
  bytes : s.trace.map Prod.fst = s.print.css.bytes
  /-- The map leads from a copied byte to the byte it is a copy of, and back. -/
  copied : ∀ g o, s.origin? g = some o →
    s.print.sourceMap.sourceOffset? g = some o ∧ s.print.sourceMap.printedOffset? o = some g ∧
    ∃ b, s.print.css.bytes[g]? = some b ∧ s.source.bytes[o]? = some b
  increasing : ∀ g g', (s.origin? g).isSome → (s.origin? g').isSome → g < g' →
    ∃ o o', s.print.sourceMap.sourceOffset? g = some o ∧
      s.print.sourceMap.sourceOffset? g' = some o' ∧ o < o'
  /-- Every byte of the source is copied, unless it belongs to a rewritten selector. -/
  covered : ∀ o < s.source.size,
    (∀ p ∈ s.rules, p.2.isRewritten s.source = true → p.2.selectorSpan.contains o = false) →
    ∃ g, s.origin? g = some o ∧ s.print.sourceMap.printedOffset? o = some g

lemma origin?_eq_some {s : Sheet} {g o : Nat} :
    s.origin? g = some o ↔ ∃ b, s.trace[g]? = some (b, some o) := by
  rw [origin?, Option.bind_eq_some_iff]
  constructor
  · rintro ⟨⟨b, _⟩, hb, rfl⟩
    exact ⟨b, hb⟩
  · rintro ⟨b, hb⟩
    exact ⟨_, hb, rfl⟩

lemma mappings_print (s : Sheet) :
    s.print.sourceMap.mappings.toList = Chunk.mappings 0 s.chunks :=
  Chunk.toList_foldl_record s.chunks {}

lemma tiles_print (s : Sheet) :
    Span.Tiles 0 (s.print.sourceMap.mappings.toList.map Mapping.printed) s.print.css.size := by
  have htiles := Chunk.tiles_mappings 0 s.chunks
  rwa [Nat.zero_add, ← mappings_print] at htiles

section Spliced

variable {s : Sheet} {g g' o o' : Nat}

lemma apart_print (h : Spliced 0 s.source (s.rules.map Prod.snd) out) :
    s.print.sourceMap.mappings.toList.Pairwise fun m m' => m.source.stop ≤ m'.source.start := by
  rw [mappings_print]
  exact (reads_chunksFrom h).pairwise_source 0

lemma offsets_of_origin? (h : Spliced 0 s.source (s.rules.map Prod.snd) out)
    (hg : s.origin? g = some o) :
    s.print.sourceMap.sourceOffset? g = some o ∧ s.print.sourceMap.printedOffset? o = some g := by
  obtain ⟨b, hb⟩ := origin?_eq_some.mp hg
  rw [trace, traceFrom_eq h] at hb
  obtain ⟨m, hm, hcopies⟩ := Chunk.exists_copies 0 hb
  rw [Nat.zero_add] at hcopies
  have hmem : m ∈ s.print.sourceMap.mappings := by
    rwa [← Array.mem_toList_iff, mappings_print]
  exact ⟨SourceMap.sourceOffset?_of_copies s.tiles_print hmem hcopies,
    SourceMap.printedOffset?_of_copies (apart_print h) hmem hcopies⟩

lemma lt_of_origin? (h : Spliced 0 s.source (s.rules.map Prod.snd) out)
    (hg : s.origin? g = some o) (hg' : s.origin? g' = some o') (hlt : g < g') : o < o' := by
  obtain ⟨b, hb⟩ := origin?_eq_some.mp hg
  obtain ⟨b', hb'⟩ := origin?_eq_some.mp hg'
  obtain ⟨hsize, hb⟩ := List.getElem?_eq_some_iff.mp hb
  obtain ⟨hsize', hb'⟩ := List.getElem?_eq_some_iff.mp hb'
  have hpair := (reads_chunksFrom h).pairwise_trace
  rw [← traceFrom_eq h] at hpair
  exact List.pairwise_iff_getElem.mp hpair g g' hsize hsize' hlt o o' (congrArg Prod.snd hb)
    (congrArg Prod.snd hb')

lemma exists_origin? (h : Spliced 0 s.source (s.rules.map Prod.snd) out) (ho : o < s.source.size)
    (hout : ∀ p ∈ s.rules, p.2.isRewritten s.source = true →
      p.2.selectorSpan.contains o = false) : ∃ g, s.origin? g = some o := by
  have hreads := reads_chunksFrom h
  rcases hreads.exists_mem_trace (Nat.zero_le o) ho with ⟨b, hb⟩ | ⟨span, t, ht, hspan⟩
  · rw [← traceFrom_eq h] at hb
    obtain ⟨g, hg⟩ := List.mem_iff_getElem?.mp hb
    exact ⟨g, origin?_eq_some.mpr ⟨b, hg⟩⟩
  · obtain ⟨r, hr, hrewritten, rfl, -⟩ := exists_isRewritten h ht
    obtain ⟨p, hp, rfl⟩ := List.mem_map.mp hr
    rw [hout p hp hrewritten] at hspan
    contradiction

lemma bytes_trace (h : Spliced 0 s.source (s.rules.map Prod.snd) out) :
    s.trace.map Prod.fst = s.print.css.bytes := by
  rw [trace, traceFrom_eq h]
  exact Chunk.map_fst_flatMap_trace s.chunks

lemma byte_of_origin? (h : Spliced 0 s.source (s.rules.map Prod.snd) out)
    (hg : s.origin? g = some o) :
    ∃ b, s.print.css.bytes[g]? = some b ∧ s.source.bytes[o]? = some b := by
  obtain ⟨b, hb⟩ := origin?_eq_some.mp hg
  refine ⟨b, ?_, ?_⟩
  · rw [← bytes_trace h, List.getElem?_map, hb]
    rfl
  · rw [trace, traceFrom_eq h] at hb
    exact ((reads_chunksFrom h).mem_trace (List.mem_of_getElem? hb)).2.2

/-- A sheet whose rules stand in order in its source has a faithful map. -/
theorem isFaithful_of_spliced (h : Spliced 0 s.source (s.rules.map Prod.snd) out) :
    s.IsFaithful where
  tiles := s.tiles_print
  within m hm := by
    rw [← Array.mem_toList_iff, mappings_print] at hm
    exact ((reads_chunksFrom h).source_bounds m hm).2
  apart := apart_print h
  bytes := bytes_trace h
  copied g o hg := by
    obtain ⟨hsource, hprinted⟩ := offsets_of_origin? h hg
    exact ⟨hsource, hprinted, byte_of_origin? h hg⟩
  increasing g g' hg hg' hlt := by
    obtain ⟨o, ho⟩ := Option.isSome_iff_exists.mp hg
    obtain ⟨o', ho'⟩ := Option.isSome_iff_exists.mp hg'
    exact ⟨o, o', (offsets_of_origin? h ho).1, (offsets_of_origin? h ho').1,
      lt_of_origin? h ho ho' hlt⟩
  covered o ho hout := by
    obtain ⟨g, hg⟩ := exists_origin? h ho hout
    exact ⟨g, hg, (offsets_of_origin? h hg).2⟩

end Spliced

/-- **The source map of every parsed sheet is faithful**, whatever was wrong with its source and
whatever was done to its selectors. -/
theorem isFaithful_editAll (source : Text) (file : Option Text) (edits : List Edit) :
    ((parse source file).sheet.editAll edits).source = source ∧
    ((parse source file).sheet.editAll edits).IsFaithful := by
  have hsource := source_editAll (parse source file).sheet edits
  have hspliced := print_of_places hsource (places_editAll (parse source file).sheet edits)
  exact ⟨hsource, isFaithful_of_spliced (hsource.symm ▸ hspliced)⟩

-- the new selector is two bytes long, and what follows it is found one byte further on
example : (List.range 5).map ((parse "a\x7b\x7d".toList none).sheet.edit
    (.selector 0 ".b".toList)).origin? = [none, none, some 1, some 2, none] := by decide +kernel

end Sheet
end StyleScope
