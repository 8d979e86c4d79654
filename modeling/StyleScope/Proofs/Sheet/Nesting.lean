import Mathlib.Logic.Relation
import Mathlib.Tactic.Common
import StyleScope.Proofs.Text.Cut
import StyleScope.Sheet.Basic

/-!
Numbered trees under construction.

While a sheet is read, some of its nodes are still open: they lie on a path from the top level
inwards, and new nodes are hung below the innermost of them. `Nested` is what the parents and
the child lists of a sheet satisfy together with such a path, and `Extents` is the same for the
spans. Hanging a node, opening it, closing the innermost node and letting the open nodes reach
further to the right keep both.
-/

namespace StyleScope

/-- The child list of a node that can hold nodes. -/
def NodeData.block? : NodeData → Option (List NodeId)
  | rule r => some r.children
  | atRule a => a.body
  | declaration _ => none
  | comment _ => none

def NodeData.kids (d : NodeData) : List NodeId := d.block?.getD []

lemma NodeData.block?_withChildren {d : NodeData} (h : d.block?.isSome) (ids : List NodeId) :
    (d.withChildren ids).block? = some ids := by
  cases d <;> simp_all [block?, withChildren]

lemma NodeData.withChildren_withChildren (d : NodeData) (ids ids' : List NodeId) :
    (d.withChildren ids).withChildren ids' = d.withChildren ids' := by
  cases d <;> rfl

/-! ### Chains of parents -/

/-- `p` is met on the way from `id` outwards. -/
def Above (parent? : NodeId → Option NodeId) (id p : NodeId) : Prop :=
  Relation.TransGen (fun a b => parent? a = some b) id p

section Above

variable {parent? parent?' : NodeId → Option NodeId}

lemma Above.lt (hprior : ∀ a b, parent? a = some b → b < a) {id p : NodeId}
    (h : Above parent? id p) : p < id := by
  induction h with
  | single h => exact hprior _ _ h
  | tail _ h ih => exact Nat.lt_trans (hprior _ _ h) ih

lemma above_iff {id p : NodeId} :
    Above parent? id p ↔ ∃ q, parent? id = some q ∧ (q = p ∨ Above parent? q p) := by
  constructor
  · intro h
    obtain ⟨q, hq, hqp⟩ := Relation.TransGen.head'_iff.mp h
    refine ⟨q, hq, ?_⟩
    rcases Relation.reflTransGen_iff_eq_or_transGen.mp hqp with rfl | h
    · exact .inl rfl
    · exact .inr h
  · rintro ⟨q, hq, rfl | h⟩
    · exact .single hq
    · exact .head hq h

lemma above_congr {n : Nat} (hprior : ∀ a b, parent? a = some b → b < a)
    (heq : ∀ a < n, parent?' a = parent? a) {id p : NodeId} (hid : id < n) :
    Above parent?' id p ↔ Above parent? id p := by
  induction id using Nat.strongRecOn with
  | _ id ih =>
    rw [above_iff, above_iff, heq id hid]
    constructor
    · rintro ⟨q, hq, h⟩
      have hlt := hprior _ _ hq
      exact ⟨q, hq, h.imp_right (ih q hlt (Nat.lt_trans hlt hid)).mp⟩
    · rintro ⟨q, hq, h⟩
      have hlt := hprior _ _ hq
      exact ⟨q, hq, h.imp_right (ih q hlt (Nat.lt_trans hlt hid)).mpr⟩

/-- Each node of a path has the next one as its parent, and the last has none. -/
def IsPath (parent? : NodeId → Option NodeId) : List NodeId → Prop
  | [] => True
  | p :: ps => parent? p = ps.head? ∧ IsPath parent? ps

lemma mem_path_iff {path : List NodeId} (h : IsPath parent? path) {p : NodeId} :
    p ∈ path ↔ ∃ q, path.head? = some q ∧ (q = p ∨ Above parent? q p) := by
  induction path with
  | nil => simp
  | cons q ps ih =>
    have hq := ih h.2
    rw [List.mem_cons, hq, List.head?_cons]
    constructor
    · rintro (rfl | ⟨r, hr, hrp⟩)
      · exact ⟨p, rfl, .inl rfl⟩
      · exact ⟨q, rfl, .inr (above_iff.mpr ⟨r, h.1.trans hr, hrp⟩)⟩
    · rintro ⟨r, hr, hrp⟩
      obtain rfl := Option.some.inj hr
      rcases hrp with rfl | hqp
      · exact .inl rfl
      · obtain ⟨r, hr, hrp⟩ := above_iff.mp hqp
        exact .inr ⟨r, h.1 ▸ hr, hrp⟩

lemma IsPath.congr {path : List NodeId} (h : IsPath parent? path)
    (heq : ∀ a ∈ path, parent?' a = parent? a) : IsPath parent?' path := by
  induction path with
  | nil => trivial
  | cons p ps ih =>
    exact ⟨(heq p (by simp)).trans h.1, ih h.2 fun a ha => heq a (by simp [ha])⟩

lemma IsPath.lt (hprior : ∀ a b, parent? a = some b → b < a) {p : NodeId} {ps : List NodeId}
    (h : IsPath parent? (p :: ps)) : ∀ q ∈ ps, q < p := by
  intro q hq
  obtain ⟨r, hr, hrq⟩ := (mem_path_iff h.2).mp hq
  exact Above.lt hprior (above_iff.mpr ⟨r, h.1.trans hr, hrq⟩)

end Above

/-! ### Parents and child lists -/

namespace Sheet

/-- The nodes with a given parent, or without one, by number. -/
def kidsOf (s : Sheet) (p? : Option NodeId) : List NodeId :=
  (List.range s.nodes.size).filter fun id => s.parent? id = p?

lemma parent?_eq_some {s : Sheet} {id p : NodeId} :
    s.parent? id = some p ↔ ∃ n, s.node? id = some n ∧ n.parent = some p := by
  simp [parent?, Option.bind_eq_some_iff]

lemma lt_of_node? {s : Sheet} {id : NodeId} {n : Node} (h : s.node? id = some n) :
    id < s.nodes.size := by
  obtain ⟨hlt, -⟩ := Array.getElem?_eq_some_iff.mp h
  exact hlt

lemma lt_of_parent? {s : Sheet} {id p : NodeId} (h : s.parent? id = some p) :
    id < s.nodes.size := by
  obtain ⟨n, hn, -⟩ := parent?_eq_some.mp h
  exact lt_of_node? hn

lemma mem_kidsOf {s : Sheet} {id : NodeId} {p? : Option NodeId} :
    id ∈ s.kidsOf p? ↔ id < s.nodes.size ∧ s.parent? id = p? := by
  simp [kidsOf]

lemma pairwise_kidsOf (s : Sheet) (p? : Option NodeId) : (s.kidsOf p?).Pairwise (· < ·) :=
  List.Pairwise.filter _ List.pairwise_lt_range

/-- The parents and child lists of a sheet whose open nodes, innermost first, are `path`. -/
structure Nested (s : Sheet) (path : List NodeId) : Prop where
  prior : ∀ id p, s.parent? id = some p → p < id
  top : s.children = s.kidsOf none
  kids : ∀ id n, s.node? id = some n → n.data.kids = s.kidsOf (some id)
  chain : IsPath s.parent? path
  holds : ∀ p ∈ path, ∃ n, s.node? p = some n ∧ n.data.block?.isSome
  /-- Everything after an open node is inside it. -/
  below : ∀ p ∈ path, ∀ id, p < id → id < s.nodes.size → Above s.parent? id p
  /-- What lies between a node and one inside it is inside it too. -/
  solid : ∀ p id id', p < id → id < id' → Above s.parent? id' p → Above s.parent? id p

lemma Nested.close {s : Sheet} {p : NodeId} {path : List NodeId} (h : s.Nested (p :: path)) :
    s.Nested path :=
  ⟨h.prior, h.top, h.kids, h.chain.2, fun q hq => h.holds q (by simp [hq]),
    fun q hq => h.below q (by simp [hq]), h.solid⟩

/-! ### Hanging a node -/

/-- Puts a number at the end of the child list of a node. -/
def addKid (id : NodeId) (n : Node) : Node :=
  { n with data := n.data.withChildren (n.data.kids ++ [id]) }

/-- Adds a node below the innermost open one. -/
def hang (s : Sheet) (path : List NodeId) (data : NodeData) (span : Span) : Sheet :=
  match path with
  | [] =>
    { s with
      nodes := s.nodes.push ⟨data, none, span⟩
      children := s.children ++ [s.nodes.size] }
  | p :: _ =>
    { s with nodes := (s.nodes.modify p (addKid s.nodes.size)).push ⟨data, some p, span⟩ }

section Hang

variable {s : Sheet} {path : List NodeId} {data : NodeData} {span : Span}

@[simp] lemma size_hang : (s.hang path data span).nodes.size = s.nodes.size + 1 := by
  cases path <;> simp [hang]

lemma node?_hang_new (s : Sheet) (path : List NodeId) (data : NodeData) (span : Span) :
    (s.hang path data span).node? s.nodes.size = some ⟨data, path.head?, span⟩ := by
  cases path with
  | nil => simp [hang, node?]
  | cons p ps =>
    have h : ((s.nodes.modify p (addKid s.nodes.size)).push ⟨data, some p, span⟩)[
        (s.nodes.modify p (addKid s.nodes.size)).size]? = some ⟨data, some p, span⟩ :=
      Array.getElem?_push_size
    rwa [Array.size_modify] at h

lemma node?_hang_old {id : NodeId} (hid : id ≠ s.nodes.size) :
    (s.hang path data span).node? id =
      if path.head? = some id then (s.node? id).map (addKid s.nodes.size) else s.node? id := by
  cases path with
  | nil => simp [hang, node?, Array.getElem?_push, hid]
  | cons p ps =>
    simp [hang, node?, Array.getElem?_push, Array.getElem?_modify, hid]

lemma parent?_hang_old {id : NodeId} (hid : id ≠ s.nodes.size) :
    (s.hang path data span).parent? id = s.parent? id := by
  rw [parent?, node?_hang_old hid, parent?]
  split_ifs
  · cases s.node? id <;> rfl
  · rfl

lemma parent?_hang_new : (s.hang path data span).parent? s.nodes.size = path.head? := by
  rw [parent?, node?_hang_new]
  rfl

lemma kidsOf_hang (p? : Option NodeId) :
    (s.hang path data span).kidsOf p? =
      s.kidsOf p? ++ if path.head? = p? then [s.nodes.size] else [] := by
  unfold kidsOf
  rw [size_hang, List.range_succ, List.filter_append]
  congr 1
  · refine List.filter_congr fun id hid => ?_
    rw [parent?_hang_old (Nat.ne_of_lt (List.mem_range.mp hid))]
  · simp only [List.filter_cons, List.filter_nil, parent?_hang_new, decide_eq_true_eq]

lemma above_hang_old (hprior : ∀ id p, s.parent? id = some p → p < id) {id p : NodeId}
    (hid : id < s.nodes.size) :
    Above (s.hang path data span).parent? id p ↔ Above s.parent? id p :=
  above_congr hprior (fun _ ha => parent?_hang_old (Nat.ne_of_lt ha)) hid

lemma above_hang_new (h : s.Nested path) {p : NodeId} :
    Above (s.hang path data span).parent? s.nodes.size p ↔ p ∈ path := by
  rw [above_iff, parent?_hang_new, mem_path_iff h.chain]
  refine exists_congr fun q => and_congr_right fun hq => or_congr_right ?_
  obtain ⟨n, hn, -⟩ := h.holds q (List.mem_of_mem_head? hq)
  exact above_hang_old h.prior (lt_of_node? hn)

lemma Nested.lt_size (h : s.Nested path) {p : NodeId} (hp : p ∈ path) : p < s.nodes.size := by
  obtain ⟨n, hn, -⟩ := h.holds p hp
  exact lt_of_node? hn

lemma Nested.kidsOf_size (h : s.Nested path) : s.kidsOf (some s.nodes.size) = [] := by
  refine List.eq_nil_iff_forall_not_mem.mpr fun id hid => ?_
  obtain ⟨hlt, hpar⟩ := mem_kidsOf.mp hid
  exact Nat.lt_asymm hlt (h.prior _ _ hpar)

lemma Nested.kids_hang (h : s.Nested path) (hdata : data.kids = []) {id : NodeId} {n : Node}
    (hn : (s.hang path data span).node? id = some n) :
    n.data.kids = (s.hang path data span).kidsOf (some id) := by
  rw [kidsOf_hang]
  by_cases hid : id = s.nodes.size
  · subst hid
    rw [node?_hang_new, Option.some.injEq] at hn
    rw [← hn, h.kidsOf_size, if_neg]
    · simpa using hdata
    · exact fun hp => Nat.lt_irrefl _ (h.lt_size (List.mem_of_mem_head? hp))
  · rw [node?_hang_old hid] at hn
    split_ifs at hn ⊢ with hp
    · obtain ⟨m, hm, rfl⟩ := Option.map_eq_some_iff.mp hn
      obtain ⟨m', hm', hb⟩ := h.holds id (List.mem_of_mem_head? hp)
      obtain rfl := Option.some.inj (hm.symm.trans hm')
      rw [← h.kids id m hm, addKid, NodeData.kids, NodeData.block?_withChildren hb]
      rfl
    · rw [List.append_nil, h.kids id n hn]

/-- **Hanging a node** keeps the numbering: the open nodes stay open. -/
theorem Nested.hang (h : s.Nested path) (hdata : data.kids = []) :
    (s.hang path data span).Nested path where
  prior := by
    intro id p hp
    by_cases hid : id = s.nodes.size
    · subst hid
      rw [parent?_hang_new] at hp
      exact h.lt_size (List.mem_of_mem_head? hp)
    · rw [parent?_hang_old hid] at hp
      exact h.prior id p hp
  top := by
    rw [kidsOf_hang, ← h.top]
    cases path <;> simp [Sheet.hang]
  kids := fun id n hn => h.kids_hang hdata hn
  chain := h.chain.congr fun p hp => parent?_hang_old (Nat.ne_of_lt (h.lt_size hp))
  holds := by
    intro p hp
    obtain ⟨n, hn, hb⟩ := h.holds p hp
    rw [node?_hang_old (Nat.ne_of_lt (lt_of_node? hn)), hn]
    split_ifs
    · exact ⟨_, rfl, by rw [addKid, NodeData.block?_withChildren hb]; rfl⟩
    · exact ⟨n, rfl, hb⟩
  below := by
    intro p hp id hlt hid
    rw [size_hang] at hid
    rcases Nat.lt_succ_iff_lt_or_eq.mp hid with hid | rfl
    · exact (above_hang_old h.prior hid).mpr (h.below p hp id hlt hid)
    · exact (above_hang_new h).mpr hp
  solid := by
    intro p id id' hlt hlt' habove
    by_cases hid' : id' = s.nodes.size
    · subst hid'
      have hp := (above_hang_new h).mp habove
      exact (above_hang_old h.prior hlt').mpr (h.below p hp id hlt hlt')
    · have hsize : id' < s.nodes.size + 1 := by
        obtain ⟨q, hq, -⟩ := above_iff.mp habove
        simpa using lt_of_parent? hq
      have hid : id' < s.nodes.size := Nat.lt_of_le_of_ne (Nat.le_of_lt_succ hsize) hid'
      rw [above_hang_old h.prior hid] at habove
      exact (above_hang_old h.prior (Nat.lt_trans hlt' hid)).mpr (h.solid p id id' hlt hlt' habove)

/-- A node that can hold nodes may be opened when it is hung. -/
theorem Nested.hang_open (h : s.Nested path) (hdata : data.block? = some []) :
    (s.hang path data span).Nested (s.nodes.size :: path) := by
  have h' : (s.hang path data span).Nested path := h.hang (by simp [NodeData.kids, hdata])
  refine ⟨h'.prior, h'.top, h'.kids, ⟨parent?_hang_new, h'.chain⟩, ?_, ?_, h'.solid⟩
  · intro p hp
    rcases List.mem_cons.mp hp with rfl | hp
    · exact ⟨_, node?_hang_new s path data span, by simp [hdata]⟩
    · exact h'.holds p hp
  · intro p hp id hlt hid
    rcases List.mem_cons.mp hp with rfl | hp
    · rw [size_hang] at hid
      exact absurd hid (Nat.not_lt.mpr hlt)
    · exact h'.below p hp id hlt hid

end Hang

/-! ### Spans -/

/-- The spans of a sheet with the given open nodes: open nodes reach to `stop`, and the others
end at `low` or before. Of two nodes the later lies in the earlier or after it. -/
structure Extents (s : Sheet) (path : List NodeId) (low stop : Nat) : Prop where
  fits : ∀ id n, s.node? id = some n → n.span.fits s.source = true
  reach : ∀ p ∈ path, ∀ n, s.node? p = some n → n.span.stop = stop
  begun : ∀ p ∈ path, ∀ n, s.node? p = some n → n.span.start ≤ low
  done : ∀ id n, s.node? id = some n → id ∉ path → n.span.stop ≤ low
  inside : ∀ id id' n n', id < id' → s.node? id = some n → s.node? id' = some n' →
    Above s.parent? id' id → n.span.start ≤ n'.span.start ∧ n'.span.stop ≤ n.span.stop
  after : ∀ id id' n n', id < id' → s.node? id = some n → s.node? id' = some n' →
    ¬ Above s.parent? id' id → n.span.stop ≤ n'.span.start

lemma Extents.mono {s : Sheet} {path : List NodeId} {low low' stop : Nat}
    (h : s.Extents path low stop) (hle : low ≤ low') : s.Extents path low' stop :=
  ⟨h.fits, h.reach, fun p hp n hn => Nat.le_trans (h.begun p hp n hn) hle,
    fun id n hn hid => Nat.le_trans (h.done id n hn hid) hle, h.inside, h.after⟩

lemma Extents.close {s : Sheet} {p : NodeId} {path : List NodeId} {low stop : Nat}
    (h : s.Extents (p :: path) low stop) (hle : low ≤ stop) : s.Extents path stop stop := by
  refine ⟨h.fits, fun q hq => h.reach q (by simp [hq]),
    fun q hq n hn => Nat.le_trans (h.begun q (by simp [hq]) n hn) hle,
    fun id n hn hid => ?_, h.inside, h.after⟩
  by_cases hp : id = p
  · exact Nat.le_of_eq (h.reach id (by simp [hp]) n hn)
  · exact Nat.le_trans (h.done id n hn (by simp [hp, hid])) hle

/-- Lets the open nodes reach to `stop`. -/
def stretch (s : Sheet) (path : List NodeId) (stop : Nat) : Sheet :=
  { s with nodes := s.nodes.mapIdx fun id n =>
      if id ∈ path then { n with span := ⟨n.span.start, stop⟩ } else n }

section Stretch

variable {s : Sheet} {path : List NodeId} {stop : Nat}

@[simp] lemma size_stretch : (s.stretch path stop).nodes.size = s.nodes.size := by
  simp [stretch]

lemma node?_stretch (s : Sheet) (path : List NodeId) (stop : Nat) (id : NodeId) :
    (s.stretch path stop).node? id =
    (s.node? id).map fun n =>
      if id ∈ path then { n with span := ⟨n.span.start, stop⟩ } else n := by
  simp [stretch, node?]

lemma parent?_stretch : (s.stretch path stop).parent? = s.parent? := by
  funext id
  rw [parent?, node?_stretch, parent?]
  rcases s.node? id with _ | n
  · rfl
  · simp only [Option.map_some, Option.bind_some]
    split_ifs <;> rfl

lemma node?_stretch_eq_some {id : NodeId} {n : Node}
    (h : (s.stretch path stop).node? id = some n) :
    ∃ m, s.node? id = some m ∧ n.data = m.data ∧ n.span.start = m.span.start ∧
      n.span.stop = if id ∈ path then stop else m.span.stop := by
  rw [node?_stretch] at h
  obtain ⟨m, hm, rfl⟩ := Option.map_eq_some_iff.mp h
  refine ⟨m, hm, ?_⟩
  split_ifs <;> simp

lemma Nested.stretch (h : s.Nested path) : (s.stretch path stop).Nested path := by
  have hkids (p? : Option NodeId) : (s.stretch path stop).kidsOf p? = s.kidsOf p? := by
    simp [kidsOf, parent?_stretch]
  refine ⟨?_, ?_, ?_, ?_, ?_, ?_, ?_⟩
  · rw [parent?_stretch]; exact h.prior
  · rw [hkids]; exact h.top
  · intro id n hn
    obtain ⟨m, hm, hd, -⟩ := node?_stretch_eq_some hn
    rw [hkids, hd, h.kids id m hm]
  · rw [parent?_stretch]; exact h.chain
  · intro p hp
    obtain ⟨n, hn, hb⟩ := h.holds p hp
    refine ⟨_, by rw [node?_stretch, hn]; rfl, ?_⟩
    simpa [hp] using hb
  · rw [parent?_stretch, size_stretch]; exact h.below
  · rw [parent?_stretch]; exact h.solid

/-- Open nodes may reach further: everything after them is inside them. -/
theorem Extents.stretch {low old : Nat} (hnest : s.Nested path) (h : s.Extents path low old)
    (hle : old ≤ stop) (hlow : low ≤ stop) (hstop : Text.isBoundary stop s.source = true) :
    (s.stretch path stop).Extents path low stop := by
  have hold {id : NodeId} {m : Node} (hm : s.node? id = some m) : m.span.stop ≤ stop := by
    by_cases hid : id ∈ path
    · exact h.reach id hid m hm ▸ hle
    · exact Nat.le_trans (h.done id m hm hid) hlow
  refine ⟨?_, ?_, ?_, ?_, ?_, ?_⟩
  · intro id n hn
    obtain ⟨m, hm, -, hs, he⟩ := node?_stretch_eq_some hn
    have hf := h.fits id m hm
    have hmle := hold hm
    simp only [Span.fits, Bool.and_eq_true, decide_eq_true_eq] at hf ⊢
    rw [hs, he]
    split_ifs
    · exact ⟨⟨Nat.le_trans hf.1.1 hmle, hf.1.2⟩, hstop⟩
    · exact hf
  · intro p hp n hn
    obtain ⟨m, -, -, -, he⟩ := node?_stretch_eq_some hn
    rw [he, if_pos hp]
  · intro p hp n hn
    obtain ⟨m, hm, -, hs, -⟩ := node?_stretch_eq_some hn
    rw [hs]
    exact h.begun p hp m hm
  · intro id n hn hid
    obtain ⟨m, hm, -, -, he⟩ := node?_stretch_eq_some hn
    rw [he, if_neg hid]
    exact h.done id m hm hid
  · intro id id' n n' hlt hn hn' habove
    rw [parent?_stretch] at habove
    obtain ⟨m, hm, -, hs, he⟩ := node?_stretch_eq_some hn
    obtain ⟨m', hm', -, hs', he'⟩ := node?_stretch_eq_some hn'
    obtain ⟨h1, h2⟩ := h.inside id id' m m' hlt hm hm' habove
    refine ⟨by rw [hs, hs']; exact h1, ?_⟩
    rw [he, he']
    split_ifs with hid' hid hid
    · exact Nat.le_refl _
    · -- a node around an open one is open
      exact absurd ((mem_path_iff hnest.chain).mpr (by
        obtain ⟨q, hq, hqp⟩ := (mem_path_iff hnest.chain).mp hid'
        refine ⟨q, hq, .inr ?_⟩
        rcases hqp with rfl | hqp
        · exact habove
        · exact hqp.trans habove)) hid
    · exact hold hm'
    · exact h2
  · intro id id' n n' hlt hn hn' habove
    rw [parent?_stretch] at habove
    obtain ⟨m, hm, -, -, he⟩ := node?_stretch_eq_some hn
    obtain ⟨m', hm', -, hs', -⟩ := node?_stretch_eq_some hn'
    rw [he, hs', if_neg]
    · exact h.after id id' m m' hlt hm hm' habove
    · exact fun hid => habove (hnest.below id hid id' hlt (lt_of_node? hm'))

end Stretch

section Hang

variable {s : Sheet} {path : List NodeId} {data : NodeData} {span : Span} {low stop : Nat}

lemma node?_hang_eq_some {id : NodeId} {n : Node} (hid : id ≠ s.nodes.size)
    (h : (s.hang path data span).node? id = some n) :
    ∃ m, s.node? id = some m ∧ n.span = m.span := by
  rw [node?_hang_old hid] at h
  split_ifs at h
  · obtain ⟨m, hm, rfl⟩ := Option.map_eq_some_iff.mp h
    exact ⟨m, hm, rfl⟩
  · exact ⟨n, h, rfl⟩

lemma span_of_node?_hang {n : Node} (hn : (s.hang path data span).node? s.nodes.size = some n) :
    n.span = span := by
  rw [node?_hang_new, Option.some.injEq] at hn
  rw [← hn]

/-- **Hanging a node** after all that is done and within what is open keeps the spans. -/
theorem Extents.hang (hnest : s.Nested path) (h : s.Extents path low stop)
    (hfits : span.fits s.source = true) (hlow : low ≤ span.start) (hstop : span.stop ≤ stop) :
    (s.hang path data span).Extents path span.stop stop := by
  have hle := (Span.stop_le_of_fits hfits).1
  have hsrc : (s.hang path data span).source = s.source := by cases path <;> rfl
  have hold {id : NodeId} (hid : id < s.nodes.size) {n : Node}
      (hn : (s.hang path data span).node? id = some n) :=
    node?_hang_eq_some (Nat.ne_of_lt hid) hn
  -- a later node is new, or both were there before
  have hcases {id id' : NodeId} {n' : Node} (hlt : id < id')
      (hn' : (s.hang path data span).node? id' = some n') :
      id < s.nodes.size ∧ (id' = s.nodes.size ∨ id' < s.nodes.size) := by
    have hid' : id' < s.nodes.size + 1 := by simpa using lt_of_node? hn'
    exact ⟨Nat.lt_of_lt_of_le hlt (Nat.le_of_lt_succ hid'), (Nat.lt_succ_iff_lt_or_eq.mp hid').symm⟩
  refine ⟨?_, ?_, ?_, ?_, ?_, ?_⟩
  · intro id n hn
    rw [hsrc]
    by_cases hid : id = s.nodes.size
    · subst hid
      rw [span_of_node?_hang hn]
      exact hfits
    · obtain ⟨m, hm, hs⟩ := node?_hang_eq_some hid hn
      rw [hs]
      exact h.fits id m hm
  · intro p hp n hn
    obtain ⟨m, hm, hs⟩ := hold (hnest.lt_size hp) hn
    rw [hs]
    exact h.reach p hp m hm
  · intro p hp n hn
    obtain ⟨m, hm, hs⟩ := hold (hnest.lt_size hp) hn
    rw [hs]
    exact Nat.le_trans (h.begun p hp m hm) (Nat.le_trans hlow hle)
  · intro id n hn hp
    by_cases hid : id = s.nodes.size
    · subst hid
      exact Nat.le_of_eq (by rw [span_of_node?_hang hn])
    · obtain ⟨m, hm, hs⟩ := node?_hang_eq_some hid hn
      rw [hs]
      exact Nat.le_trans (h.done id m hm hp) (Nat.le_trans hlow hle)
  · intro id id' n n' hlt hn hn' habove
    obtain ⟨hid, rfl | hid'⟩ := hcases hlt hn'
    · have hp := (above_hang_new hnest).mp habove
      obtain ⟨m, hm, hs⟩ := hold hid hn
      rw [hs, span_of_node?_hang hn', h.reach id hp m hm]
      exact ⟨Nat.le_trans (h.begun id hp m hm) hlow, hstop⟩
    · rw [above_hang_old hnest.prior hid'] at habove
      obtain ⟨m, hm, hs⟩ := hold hid hn
      obtain ⟨m', hm', hs'⟩ := hold hid' hn'
      rw [hs, hs']
      exact h.inside id id' m m' hlt hm hm' habove
  · intro id id' n n' hlt hn hn' habove
    obtain ⟨hid, rfl | hid'⟩ := hcases hlt hn'
    · rw [above_hang_new hnest] at habove
      obtain ⟨m, hm, hs⟩ := hold hid hn
      rw [hs, span_of_node?_hang hn']
      exact Nat.le_trans (h.done id m hm habove) hlow
    · rw [above_hang_old hnest.prior hid'] at habove
      obtain ⟨m, hm, hs⟩ := hold hid hn
      obtain ⟨m', hm', hs'⟩ := hold hid' hn'
      rw [hs, hs']
      exact h.after id id' m m' hlt hm hm' habove

/-- The node may be opened when it reaches as far as the others. -/
theorem Extents.hang_open (hnest : s.Nested path) (h : s.Extents path low stop)
    (hfits : span.fits s.source = true) (hlow : low ≤ span.start) (hstop : span.stop = stop) :
    (s.hang path data span).Extents (s.nodes.size :: path) stop stop := by
  have h' : (s.hang path data span).Extents path span.stop stop :=
    h.hang hnest hfits hlow (Nat.le_of_eq hstop)
  rw [hstop] at h'
  refine ⟨h'.fits, ?_, ?_, ?_, h'.inside, h'.after⟩
  · intro p hp n hn
    rcases List.mem_cons.mp hp with rfl | hp
    · rw [span_of_node?_hang hn, hstop]
    · exact h'.reach p hp n hn
  · intro p hp n hn
    rcases List.mem_cons.mp hp with rfl | hp
    · rw [span_of_node?_hang hn, ← hstop]
      exact (Span.stop_le_of_fits hfits).1
    · exact h'.begun p hp n hn
  · intro id n hn hid
    exact h'.done id n hn fun hp => hid (by simp [hp])

end Hang
end Sheet
end StyleScope
