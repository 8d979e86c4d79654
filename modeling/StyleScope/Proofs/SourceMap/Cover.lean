import Mathlib.Data.List.Pairwise
import Mathlib.Tactic.Common
import StyleScope.Sheet.Printer

/-!
What a source map covers.

Chunks that are printed one after the other leave mappings whose printed spans lie side by side.
`Tiles` says so, and it is all that the search by halving needs: the mapping it comes to is the
one that covers the offset. In the other direction the first mapping that covers a source offset
is the only one, as soon as the source spans go forward.
-/

namespace StyleScope

namespace Span

/-- The spans lie side by side from `first` to `last`, and none of them is empty. -/
def Tiles : Nat → List Span → Nat → Prop
  | first, [], last => first = last
  | first, s :: ss, last => s.start = first ∧ s.start < s.stop ∧ Tiles s.stop ss last

lemma contains_iff {s : Span} {offset : Nat} :
    s.contains offset = true ↔ s.start ≤ offset ∧ offset < s.stop := by
  simp [contains]

lemma Tiles.start_le {first last : Nat} {ss : List Span} (h : Tiles first ss last) :
    ∀ s ∈ ss, first ≤ s.start := by
  induction ss generalizing first with
  | nil => simp
  | cons s ss ih =>
    obtain ⟨rfl, hlt, hss⟩ := h
    intro s' hs'
    rcases List.mem_cons.mp hs' with rfl | hs'
    · exact Nat.le_refl _
    · have hstart := ih hss s' hs'
      omega

lemma Tiles.pairwise {first last : Nat} {ss : List Span} (h : Tiles first ss last) :
    ss.Pairwise fun s s' => s.start < s.stop ∧ s.stop ≤ s'.start := by
  induction ss generalizing first with
  | nil => exact List.Pairwise.nil
  | cons s ss ih =>
    obtain ⟨-, hlt, hss⟩ := h
    exact List.pairwise_cons.mpr ⟨fun s' hs' => ⟨hlt, hss.start_le s' hs'⟩, ih hss⟩

end Span

/-! ### Recorded chunks -/

namespace Chunk

/-- The source span that a chunk stands for. -/
def source : Chunk → Span
  | copied start t => ⟨start, start + t.size⟩
  | replaced source _ => source

/-- The mappings of chunks that are printed from `offset` on. -/
def mappings (offset : Nat) : List Chunk → List Mapping
  | [] => []
  | c :: cs =>
    if c.text.size = 0 then mappings offset cs
    else ⟨⟨offset, offset + c.text.size⟩, c.source⟩ :: mappings (offset + c.text.size) cs

lemma record_eq (b : SourceMap.Builder) (c : Chunk) :
    c.record b = b.push c.source c.text.size := by
  cases c <;> rfl

lemma toList_foldl_record (cs : List Chunk) (b : SourceMap.Builder) :
    (cs.foldl record b).mappings.toList = b.mappings.toList ++ mappings b.offset cs := by
  induction cs generalizing b with
  | nil => simp [mappings]
  | cons c cs ih =>
    rw [List.foldl_cons, ih, record_eq, mappings, SourceMap.Builder.push]
    split_ifs with hsize
    · rfl
    · simp

/-- **Recorded chunks tile the printed text.** -/
theorem tiles_mappings (offset : Nat) (cs : List Chunk) :
    Span.Tiles offset ((mappings offset cs).map Mapping.printed)
      (offset + Text.size (cs.flatMap text)) := by
  induction cs generalizing offset with
  | nil => rfl
  | cons c cs ih =>
    have hrest := ih (offset + c.text.size)
    rw [Nat.add_assoc, ← Text.size_append, ← List.flatMap_cons] at hrest
    rw [mappings]
    split_ifs with hsize
    · rwa [hsize, Nat.add_zero] at hrest
    · exact ⟨rfl, by simp only; omega, hrest⟩

end Chunk

/-! ### The search by halving -/

namespace SourceMap

lemma rel_of_pairwise {R : Mapping → Mapping → Prop} {ms : Array Mapping}
    (h : ms.toList.Pairwise R) {i j : Nat} {m m' : Mapping} (hi : ms[i]? = some m)
    (hj : ms[j]? = some m') (hij : i < j) : R m m' := by
  obtain ⟨hisize, rfl⟩ := Array.getElem?_eq_some_iff.mp hi
  obtain ⟨hjsize, rfl⟩ := Array.getElem?_eq_some_iff.mp hj
  exact List.pairwise_iff_getElem.mp h i j hisize hjsize hij

/-- The search counts the mappings that begin at or before the offset, when it knows this of the
mappings below `lo` and above `hi`. -/
lemma lt_countStarted_iff {ms : Array Mapping} {offset lo hi : Nat}
    (hsorted : ms.toList.Pairwise fun m m' => m.printed.start ≤ m'.printed.start)
    (hle : lo ≤ hi) (hhi : hi ≤ ms.size)
    (hbelow : ∀ i m, ms[i]? = some m → i < lo → m.printed.start ≤ offset)
    (habove : ∀ i m, ms[i]? = some m → hi ≤ i → offset < m.printed.start) :
    countStarted ms offset lo hi ≤ ms.size ∧ ∀ i m, ms[i]? = some m →
      (i < countStarted ms offset lo hi ↔ m.printed.start ≤ offset) := by
  have hmono {i j : Nat} {m m' : Mapping} (hi : ms[i]? = some m) (hj : ms[j]? = some m')
      (hij : i ≤ j) : m.printed.start ≤ m'.printed.start := by
    rcases Nat.lt_or_eq_of_le hij with hlt | rfl
    · exact rel_of_pairwise hsorted hi hj hlt
    · obtain rfl : m = m' := Option.some.inj (hi.symm.trans hj)
      exact Nat.le_refl _
  have hany {i : Nat} : (ms[i]?.any fun m => m.printed.start ≤ offset) = true ↔
      ∃ m, ms[i]? = some m ∧ m.printed.start ≤ offset := by
    simp [Option.any_eq_true]
  have hdown (i j : Nat) (hij : i ≤ j)
      (hj : (ms[j]?.any fun m => m.printed.start ≤ offset) = true) :
      (ms[i]?.any fun m => m.printed.start ≤ offset) = true := by
    obtain ⟨m, hm, hstart⟩ := hany.mp hj
    obtain ⟨hsize, -⟩ := Array.getElem?_eq_some_iff.mp hm
    have hi := Array.getElem?_eq_getElem (Nat.lt_of_le_of_lt hij hsize)
    exact hany.mpr ⟨_, hi, Nat.le_trans (hmono hi hm hij) hstart⟩
  obtain ⟨hlo, hcount, hiff⟩ := lt_bisect_iff hle fun i j _ hij _ => hdown i j hij
  refine ⟨Nat.le_trans hcount hhi, fun i m hm => ?_⟩
  rw [countStarted]
  by_cases hlow : i < lo
  · exact ⟨fun _ => hbelow i m hm hlow, fun _ => Nat.lt_of_lt_of_le hlow hlo⟩
  by_cases hhigh : i < hi
  · rw [hiff i (by omega) hhigh, hany]
    simp [hm]
  · have hgt := habove i m hm (by omega)
    omega

/-- **The search finds the mapping that covers an offset.** -/
theorem covering?_eq_some {map : SourceMap} {first last : Nat}
    (htiles : Span.Tiles first (map.mappings.toList.map Mapping.printed) last) {m : Mapping}
    (hm : m ∈ map.mappings) {offset : Nat} (hoffset : m.printed.contains offset = true) :
    map.covering? offset = some m := by
  have hpair := List.pairwise_map.mp htiles.pairwise
  obtain ⟨hcount, hstarted⟩ := @lt_countStarted_iff map.mappings offset 0 map.mappings.size
    (hpair.imp fun h => by omega) (Nat.zero_le _) (Nat.le_refl _) (by omega)
    fun i m hi hge => by
      have hlt := (Array.getElem?_eq_some_iff.mp hi).1
      omega
  obtain ⟨i, hi⟩ := Array.getElem?_of_mem hm
  obtain ⟨hstart, hstop⟩ := Span.contains_iff.mp hoffset
  have hlow : i < countStarted map.mappings offset 0 map.mappings.size :=
    (hstarted i m hi).mpr hstart
  -- the next mapping begins where this one stops
  have hhigh : countStarted map.mappings offset 0 map.mappings.size ≤ i + 1 := by
    by_contra hgt
    have hnext : i + 1 < map.mappings.size := by omega
    have hi' := Array.getElem?_eq_getElem hnext
    have hstart' := (hstarted _ _ hi').mp (by omega)
    have hle := rel_of_pairwise hpair hi hi' (Nat.lt_succ_self i)
    omega
  have hn : countStarted map.mappings offset 0 map.mappings.size = i + 1 := by omega
  rw [covering?, hn]
  simp [hi, hoffset]

lemma find?_source_eq_some {ms : List Mapping}
    (hpair : ms.Pairwise fun m m' => m.source.stop ≤ m'.source.start) {m : Mapping} (hm : m ∈ ms)
    {offset : Nat} (hoffset : m.source.contains offset = true) :
    ms.find? (·.source.contains offset) = some m := by
  induction ms with
  | nil => simp at hm
  | cons m' ms ih =>
    obtain ⟨hhead, hpair⟩ := List.pairwise_cons.mp hpair
    rw [List.find?_cons]
    rcases List.mem_cons.mp hm with rfl | hm
    · rw [hoffset]
    · have hstop := hhead m hm
      have hoffset' : m'.source.contains offset = false := by
        rw [Span.contains_iff] at hoffset
        rw [← Bool.not_eq_true, Span.contains_iff]
        omega
      rw [hoffset']
      exact ih hpair hm

end SourceMap

/-! ### Copied offsets -/

/-- The printed offset `g` and the source offset `o` stand at the same place of a copy. -/
def Mapping.Copies (m : Mapping) (g o : Nat) : Prop :=
  m.isVerbatim = true ∧
    ∃ k < m.printed.length, g = m.printed.start + k ∧ o = m.source.start + k

namespace SourceMap

variable {map : SourceMap} {m : Mapping} {g o : Nat}

lemma sourceOffset?_of_copies {first last : Nat}
    (htiles : Span.Tiles first (map.mappings.toList.map Mapping.printed) last)
    (hm : m ∈ map.mappings) (h : m.Copies g o) : map.sourceOffset? g = some o := by
  obtain ⟨hverbatim, k, hk, rfl, rfl⟩ := h
  have hcovers : m.printed.contains (m.printed.start + k) = true := by
    rw [Span.contains_iff]
    rw [Span.length] at hk
    omega
  rw [sourceOffset?, covering?_eq_some htiles hm hcovers]
  simp [hverbatim]

lemma printedOffset?_of_copies
    (hpair : map.mappings.toList.Pairwise fun m m' => m.source.stop ≤ m'.source.start)
    (hm : m ∈ map.mappings) (h : m.Copies g o) : map.printedOffset? o = some g := by
  obtain ⟨hverbatim, k, hk, rfl, rfl⟩ := h
  have hcovers : m.source.contains (m.source.start + k) = true := by
    rw [Span.contains_iff]
    rw [Mapping.isVerbatim, beq_iff_eq, Span.length, Span.length] at hverbatim
    rw [Span.length] at hk
    omega
  have hfind := find?_source_eq_some hpair (Array.mem_toList_iff.mpr hm) hcovers
  rw [printedOffset?, ← Array.find?_toList, hfind]
  simp [hverbatim]

end SourceMap
end StyleScope
