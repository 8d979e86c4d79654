import Mathlib.Logic.ExistsUnique
import StyleScope.Proofs.SourceMap.Cover

/-!
Looking a printed offset up.

A builder may be told of any source spans, empty, overlapping or out of order: the search goes by
the printed spans alone, and these lie side by side from the start up to what has been printed,
since a chunk without text leaves no mapping. So every offset that has been printed lies under one
mapping, and the search by halving comes to the mapping that going through all of them would.
-/

namespace StyleScope

namespace Span.Tiles

variable {first last : Nat} {ss : List Span}

lemma first_le_last (h : Tiles first ss last) : first ≤ last := by
  induction ss generalizing first with
  | nil => exact Nat.le_of_eq h
  | cons s ss ih =>
    obtain ⟨rfl, hlt, hss⟩ := h
    have hle := ih hss
    omega

lemma exists_contains_iff (h : Tiles first ss last) {offset : Nat} :
    (∃ s ∈ ss, s.contains offset = true) ↔ first ≤ offset ∧ offset < last := by
  induction ss generalizing first with
  | nil =>
    obtain rfl : first = last := h
    simp only [List.not_mem_nil, false_and, exists_false, false_iff]
    omega
  | cons s ss ih =>
    obtain ⟨rfl, hlt, hss⟩ := h
    have hle := hss.first_le_last
    simp only [List.mem_cons, exists_eq_or_imp]
    rw [ih hss, contains_iff]
    omega

end Span.Tiles

/-- The source offset that a mapping gives for a printed offset under it. -/
def Mapping.sourceAt (m : Mapping) (offset : Nat) : Nat :=
  if m.isVerbatim then m.source.start + (offset - m.printed.start) else m.source.start

namespace SourceMap

variable {map : SourceMap} {m : Mapping} {offset : Nat}

lemma sourceOffset?_eq (map : SourceMap) (offset : Nat) :
    map.sourceOffset? offset = (map.covering? offset).map (·.sourceAt offset) := rfl

lemma mem_of_covering? (h : map.covering? offset = some m) :
    m ∈ map.mappings ∧ m.printed.contains offset = true := by
  unfold covering? at h
  split at h
  · contradiction
  · obtain ⟨hget, hcontains⟩ := Option.filter_eq_some_iff.mp h
    exact ⟨Array.mem_of_getElem? hget, hcontains⟩

/-! ### Maps whose printed spans lie side by side -/

/-- Each printed offset before `last` lies under one mapping, and is looked up there; the others are
not found. -/
structure Answers (map : SourceMap) (last : Nat) : Prop where
  tiles : Span.Tiles 0 (map.mappings.toList.map Mapping.printed) last
  isSome_iff : ∀ g, (map.sourceOffset? g).isSome = true ↔ g < last
  existsUnique : ∀ g < last, ∃! m, m ∈ map.mappings ∧ m.printed.contains g = true
  eq_sourceAt : ∀ g, ∀ m ∈ map.mappings, m.printed.contains g = true →
    map.sourceOffset? g = some (m.sourceAt g)
  eq_find? : ∀ g, map.sourceOffset? g =
    (map.mappings.find? (·.printed.contains g)).map (·.sourceAt g)

section Tiled

variable {first last : Nat}
  (htiles : Span.Tiles first (map.mappings.toList.map Mapping.printed) last)

include htiles

lemma exists_covers_iff :
    (∃ m ∈ map.mappings, m.printed.contains offset = true) ↔ first ≤ offset ∧ offset < last := by
  rw [← htiles.exists_contains_iff]
  simp only [List.mem_map, Array.mem_toList_iff, exists_exists_and_eq_and]

lemma eq_of_covers {m' : Mapping} (hm : m ∈ map.mappings)
    (hoffset : m.printed.contains offset = true) (hm' : m' ∈ map.mappings)
    (hoffset' : m'.printed.contains offset = true) : m' = m :=
  Option.some.inj ((covering?_eq_some htiles hm' hoffset').symm.trans
    (covering?_eq_some htiles hm hoffset))

/-- **Halving and going through all mappings come to the same one.** -/
lemma covering?_eq_find? :
    map.covering? offset = map.mappings.find? (·.printed.contains offset) := by
  cases hfind : map.mappings.find? (·.printed.contains offset) with
  | some m =>
    have hoffset : m.printed.contains offset = true := by simpa using Array.find?_some hfind
    exact covering?_eq_some htiles (Array.mem_of_find?_eq_some hfind) hoffset
  | none =>
    cases hcovering : map.covering? offset with
    | none => rfl
    | some m =>
      obtain ⟨hm, hoffset⟩ := mem_of_covering? hcovering
      exact absurd hoffset (Array.find?_eq_none.mp hfind m hm)

end Tiled

/-- The search needs nothing but printed spans side by side. -/
theorem answers_of_tiles {last : Nat}
    (htiles : Span.Tiles 0 (map.mappings.toList.map Mapping.printed) last) : map.Answers last where
  tiles := htiles
  isSome_iff g := by
    rw [sourceOffset?_eq, Option.isSome_map, covering?_eq_find? htiles, Array.find?_isSome,
      exists_covers_iff htiles]
    omega
  existsUnique g hg := by
    obtain ⟨m, hm, hoffset⟩ := (exists_covers_iff htiles).mpr ⟨Nat.zero_le g, hg⟩
    exact ⟨m, ⟨hm, hoffset⟩, fun m' h => eq_of_covers htiles hm hoffset h.1 h.2⟩
  eq_sourceAt g m hm hoffset := by
    rw [sourceOffset?_eq, covering?_eq_some htiles hm hoffset, Option.map_some]
  eq_find? g := by rw [sourceOffset?_eq, covering?_eq_find? htiles]

end SourceMap

/-! ### What a builder has recorded -/

namespace Chunk

lemma offset_record (b : SourceMap.Builder) (c : Chunk) :
    (c.record b).offset = b.offset + c.text.size := by
  rw [record_eq, SourceMap.Builder.push]
  split_ifs with hsize
  · rw [hsize, Nat.add_zero]
  · rfl

lemma offset_foldl_record (cs : List Chunk) (b : SourceMap.Builder) :
    (cs.foldl record b).offset = b.offset + Text.size (cs.flatMap text) := by
  induction cs generalizing b with
  | nil => rfl
  | cons c cs ih =>
    rw [List.foldl_cons, ih, offset_record, List.flatMap_cons, Text.size_append, Nat.add_assoc]

lemma map_mappings (offset : Nat) (cs : List Chunk) :
    (mappings offset cs).map (fun m => (m.printed.length, m.source)) =
      (cs.filter (·.text ≠ [])).map fun c => (c.text.size, c.source) := by
  induction cs generalizing offset with
  | nil => rfl
  | cons c cs ih =>
    by_cases htext : c.text = []
    · rw [mappings, if_pos (Text.size_eq_zero.mpr htext), ih,
        List.filter_cons_of_neg (by simpa using htext)]
    · rw [mappings, if_neg (mt Text.size_eq_zero.mp htext), List.map_cons, ih,
        List.filter_cons_of_pos (by simpa using htext), List.map_cons]
      simp [Span.length]

end Chunk

namespace SourceMap.Builder

/-- The builder that has recorded some chunks one after the other. -/
def recorded (cs : List Chunk) : Builder := cs.foldl Chunk.record {}

/-- **What a builder has recorded is found again.** Whatever chunks are copied or put in place of
source spans, in whatever order, the mappings are those of the chunks with text, in order, each as
long as its text. Their printed spans are not empty and lie side by side from the start to what has
been printed, which is the text of all chunks. Exactly the offsets before it have a source offset,
the one that the only mapping over them gives; it is found by halving as by going through all. -/
theorem answers_recorded (cs : List Chunk) :
    (recorded cs).build.Answers (recorded cs).offset ∧
    (recorded cs).offset = Text.size (cs.flatMap Chunk.text) ∧
    (recorded cs).build.mappings.toList.map (fun m => (m.printed.length, m.source)) =
      (cs.filter (·.text ≠ [])).map fun c => (c.text.size, c.source) := by
  have hoffset := Chunk.offset_foldl_record cs {}
  have hmappings := Chunk.toList_foldl_record cs {}
  have htiles := Chunk.tiles_mappings 0 cs
  rw [Nat.zero_add] at hoffset htiles
  rw [List.nil_append] at hmappings
  refine ⟨answers_of_tiles ?_, hoffset, ?_⟩
  · rw [recorded, hoffset, build, hmappings]
    exact htiles
  · rw [recorded, build, hmappings, Chunk.map_mappings]

end SourceMap.Builder
end StyleScope
