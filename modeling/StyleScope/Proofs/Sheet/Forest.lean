import Mathlib.Data.Nat.Find
import StyleScope.Proofs.Sheet.Growth

/-!
Parsed sheets are ordered forests.

A parsed sheet numbers its nodes in preorder, and their spans nest as the nodes do. Statement by
statement the invariants of `Nesting` are kept, whatever is wrong with the source, and at its end
all blocks are closed.
-/

namespace StyleScope

/-- The rule stands in the source at an offset: its selector, what is between, and a brace. -/
def Rule.Stands (source : Text) (start : Nat) (r : Rule) : Prop :=
  ∃ before after, source = before ++ (r.selector ++ (r.between ++ '{' :: after)) ∧
    r.selectorSpan = Span.between before r.selector ∧ start = before.size

lemma NodeData.rule?_withChildren (d : NodeData) (ids : List NodeId) :
    (d.withChildren ids).rule? = d.rule?.map fun r => { r with children := ids } := by
  cases d <;> rfl

namespace Sheet

/-- What holds of the sheet in the making, whose open nodes reach to `stop` and whose other
nodes end before `low`. -/
structure Laid (s : Sheet) (path : List NodeId) (low stop : Nat) : Prop where
  nested : s.Nested path
  extents : s.Extents path low stop
  stands : ∀ id n r, s.node? id = some n → n.data.rule? = some r →
    r.Stands s.source n.span.start

section Laid

variable {s : Sheet} {path : List NodeId} {data : NodeData} {span : Span} {low old stop : Nat}

lemma Laid.mono (h : s.Laid path low stop) {low' : Nat} (hle : low ≤ low') :
    s.Laid path low' stop :=
  ⟨h.nested, h.extents.mono hle, h.stands⟩

lemma Laid.stretch (h : s.Laid path low old) (hle : old ≤ stop) (hlow : low ≤ stop)
    (hstop : Text.isBoundary stop s.source = true) : (s.stretch path stop).Laid path low stop := by
  refine ⟨h.nested.stretch, h.extents.stretch h.nested hle hlow hstop, ?_⟩
  intro id n r hn hr
  obtain ⟨m, hm, hdata, hstart, -⟩ := node?_stretch_eq_some hn
  rw [hdata] at hr
  rw [hstart]
  exact h.stands id m r hm hr

lemma Laid.close {p : NodeId} (h : s.Laid (p :: path) low stop) (hle : low ≤ stop) :
    s.Laid path stop stop :=
  ⟨h.nested.close, h.extents.close hle, h.stands⟩

lemma Laid.stands_hang (h : s.Laid path low stop)
    (hnew : ∀ r, data.rule? = some r → r.Stands s.source span.start) {id : NodeId} {n : Node}
    {r : Rule} (hn : (s.hang path data span).node? id = some n) (hr : n.data.rule? = some r) :
    r.Stands (s.hang path data span).source n.span.start := by
  have hsrc : (s.hang path data span).source = s.source := by cases path <;> rfl
  rw [hsrc]
  by_cases hid : id = s.nodes.size
  · subst hid
    rw [node?_hang_new, Option.some.injEq] at hn
    subst hn
    exact hnew r hr
  · rw [node?_hang_old hid] at hn
    split_ifs at hn
    · -- one more child changes nothing of how a rule stands
      obtain ⟨m, hm, rfl⟩ := Option.map_eq_some_iff.mp hn
      rw [addKid, NodeData.rule?_withChildren] at hr
      obtain ⟨r', hr', rfl⟩ := Option.map_eq_some_iff.mp hr
      exact h.stands id m r' hm hr'
    · exact h.stands id n r hn hr

lemma Laid.hang (h : s.Laid path low stop) (hdata : data.kids = [])
    (hnew : ∀ r, data.rule? = some r → r.Stands s.source span.start)
    (hfits : span.fits s.source = true) (hlow : low ≤ span.start) (hstop : span.stop ≤ stop) :
    (s.hang path data span).Laid path span.stop stop :=
  ⟨h.nested.hang hdata, h.extents.hang h.nested hfits hlow hstop,
    fun _ _ _ hn hr => h.stands_hang hnew hn hr⟩

lemma Laid.hang_open (h : s.Laid path low stop) (hdata : data.block? = some [])
    (hnew : ∀ r, data.rule? = some r → r.Stands s.source span.start)
    (hfits : span.fits s.source = true) (hlow : low ≤ span.start) (hstop : span.stop = stop) :
    (s.hang path data span).Laid (s.nodes.size :: path) stop stop :=
  ⟨h.nested.hang_open hdata, h.extents.hang_open h.nested hfits hlow hstop,
    fun _ _ _ hn hr => h.stands_hang hnew hn hr⟩

end Laid
end Sheet

/-! ### Statement by statement -/

namespace SheetBuilder

variable {file : Option Text} {b c : SheetBuilder}

lemma SameTree.size (h : SameTree b c) : c.nodes.size = b.nodes.size := by rw [h.1]

/-- **A statement keeps the tree in order.** -/
theorem Grows.laid {before text after : Text} (hg : Grows before.size text b c)
    (h : (b.sheetAt (before ++ (text ++ after)) file before.size).Laid b.path before.size
      before.size) :
    (c.sheetAt (before ++ (text ++ after)) file (before ++ text).size).Laid c.path
      (before ++ text).size (before ++ text).size := by
  -- before anything else the open nodes reach over the statement
  have hle : before.size ≤ (before ++ text).size := by simp
  have hstop : Text.isBoundary (before ++ text).size (before ++ (text ++ after)) = true := by
    rw [← List.append_assoc]
    exact Text.isBoundary_size_append _ _
  have hreach := h.stretch hle hle hstop
  rw [← sheetAt_eq_stretch (nodup_path h.nested)] at hreach
  cases hg with
  | same hsame =>
    rw [hsame.sheetAt, hsame.path]
    exact hreach.mono hle
  | @close block outer hb =>
    have hpath : b.path = block.node :: outer.map OpenBlock.node := by simp [path, hb]
    rw [hpath] at hreach
    have hclosed := hreach.close hle
    have hsheet : ({ b with blocks := outer }.finishBlock block
        (before.size + text.size)).sheetAt (before ++ (text ++ after)) file (before ++ text).size =
        b.sheetAt (before ++ (text ++ after)) file (before ++ text).size := by
      simp only [sheetAt, finishBlock, hb, settle, List.foldl_cons, Text.size_append]
      rfl
    rw [hsheet]
    exact hclosed
  | @leaf c data inside t hsame hd ht =>
    subst ht
    rw [path_add, hsame.path, sheetAt_add (by rw [hsame.sheetAt, hsame.path]; exact hreach.nested),
      hsame.sheetAt, hsame.path]
    have hfits := Span.fits_between before inside (t ++ after)
    refine (hreach.hang (by simp [NodeData.kids, hd]) ?_ ?_ (Nat.le_refl _) ?_).mono ?_
    · intro r hr
      cases data <;> simp_all [NodeData.rule?, NodeData.block?]
    · simpa [sheetAt, Span.between] using hfits
    · simp
    · simp
  | @block c data openedBy opener hsame hd hr =>
    rw [path_addBlock, hsame.path, hsame.size, sheetAt_addBlock hd,
      sheetAt_add (by rw [hsame.sheetAt, hsame.path]; exact hreach.nested), hsame.sheetAt,
      hsame.path, ← size_sheetAt]
    refine hreach.hang_open hd ?_ ?_ (Nat.le_refl _) rfl
    · intro r hrule
      obtain ⟨hspan, rfl⟩ := hr r hrule
      exact ⟨before, after, by simp [sheetAt], hspan, rfl⟩
    · simpa [sheetAt, Span.between] using Span.fits_between before text after

/-- **A run of statements keeps the tree in order.** -/
theorem laid_foldl_step {ts : List Token} {sts : List Statement} (h : Statement.Groups ts sts)
    {before : Text} (ha : Piece.Adjacent before.size ts) (hl : Token.Lexes ts)
    (hb : (b.sheetAt (before ++ Piece.textOf ts) file before.size).Laid b.path before.size
      before.size) :
    ((sts.foldl step b).sheetAt (before ++ Piece.textOf ts) file
      (before ++ Piece.textOf ts).size).Laid (sts.foldl step b).path
      (before ++ Piece.textOf ts).size (before ++ Piece.textOf ts).size := by
  induction h generalizing before b with
  | nil => simpa using hb
  | @gap t ts sts hk h ih =>
    have hstep := Grows.laid (c := b) (.same ⟨rfl, rfl, rfl⟩) hb
    have ht : t.stop = (before ++ t.text).size := by simp [Piece.stop, ha.1]
    have hrest := @ih b (before ++ t.text) (ht ▸ ha.2) hl.2
    rw [List.append_assoc] at hrest
    exact hrest hstep
  | @take st rest sts hs h ih =>
    rw [Piece.textOf_append] at hb ⊢
    have hstep := (grows_step hs ha hl).laid hb
    have hadj := (Piece.adjacent_append.mp ha).2
    rw [← Text.size_append] at hadj
    have hrest := @ih (b.step st) (before ++ Piece.textOf st.tokens) hadj
      (Token.lexes_append.mp hl).2
    rw [List.append_assoc] at hrest
    exact hrest hstep

end SheetBuilder

/-! ### Parsed sheets -/

namespace Sheet

lemma Laid.closeAll {s : Sheet} {path : List NodeId} {stop : Nat} (h : s.Laid path stop stop) :
    s.Laid [] stop stop := by
  induction path with
  | nil => exact h
  | cons p path ih => exact ih (h.close (Nat.le_refl _))

lemma laid_empty (source : Text) (file : Option Text) :
    (Sheet.mk source file #[] []).Laid [] 0 0 := by
  have hnode (id : NodeId) : (Sheet.mk source file #[] []).node? id = none := by simp [node?]
  have hparent (id : NodeId) : (Sheet.mk source file #[] []).parent? id = none := by
    simp [parent?, hnode]
  have habove (id p : NodeId) : ¬ Above (Sheet.mk source file #[] []).parent? id p := by
    rw [above_iff]
    simp [hparent]
  refine ⟨⟨?_, rfl, ?_, trivial, ?_, ?_, ?_⟩, ⟨?_, ?_, ?_, ?_, ?_, ?_⟩, ?_⟩
  all_goals simp [hnode, hparent, habove]

lemma laid_parse (source : Text) (file : Option Text) :
    (parse source file).sheet.Laid [] source.size source.size := by
  obtain ⟨hadj, hlex, htext⟩ := Token.scan_spec source
  have hrun := @SheetBuilder.laid_foldl_step file .empty _ _
    (Statement.groups_ofTokens (Token.scan source)) [] hadj hlex (laid_empty _ _)
  rw [List.nil_append, htext] at hrun
  have hsheet : (parse source file).sheet =
      ((Statement.ofTokens (Token.scan source)).foldl SheetBuilder.step .empty).sheetAt
        source file source.size := by
    simp only [parse, SheetBuilder.sheetAt, SheetBuilder.nodes_closeAll, SheetBuilder.top_closeAll]
  rw [hsheet]
  exact hrun.closeAll

/-! ### Ordered forests -/

/-- The child list of a node, or the list of the top level. -/
def listOf (s : Sheet) : Option NodeId → List NodeId
  | none => s.children
  | some p => ((s.node? p).map fun n => n.data.kids).getD []

/-- The nodes of a sheet are an ordered forest, numbered in preorder and laid out in the source. -/
structure IsForest (s : Sheet) : Prop where
  /-- A node comes after its parent, which can hold nodes. -/
  parent : ∀ id n p, s.node? id = some n → n.parent = some p →
    p < id ∧ ∃ m ids, s.node? p = some m ∧ m.data.block? = some ids
  /-- A node is once in the list of its parent, or of the top level, and in no other. -/
  listed : ∀ id n p?, s.node? id = some n →
    (s.listOf p?).count id = if n.parent = p? then 1 else 0
  /-- The lists have nothing but nodes. -/
  known : ∀ p? id, id ∈ s.listOf p? → id < s.nodes.size
  ascending : ∀ p?, (s.listOf p?).Pairwise (· < ·)
  /-- The nodes inside a node have the numbers right after it. -/
  interval : ∀ p < s.nodes.size, ∃ stop, p < stop ∧ stop ≤ s.nodes.size ∧
    ∀ id, Above s.parent? id p ↔ p < id ∧ id < stop
  spans : ∀ id n, s.node? id = some n → n.span.start ≤ n.span.stop ∧
    n.span.stop ≤ s.source.size ∧ Text.isBoundary n.span.start s.source = true ∧
    Text.isBoundary n.span.stop s.source = true
  inside : ∀ id n p m, s.node? id = some n → n.parent = some p → s.node? p = some m →
    m.span.start ≤ n.span.start ∧ n.span.stop ≤ m.span.stop
  siblings : ∀ id id' n n', id < id' → s.node? id = some n → s.node? id' = some n' →
    n.parent = n'.parent → n.span.stop ≤ n'.span.start
  /-- The selector of a rule is where its node begins, before the text between and a brace. -/
  rules : ∀ id n r, s.node? id = some n → n.data.rule? = some r →
    r.selectorSpan.slice? s.source = some r.selector ∧ r.selectorSpan.start = n.span.start ∧
    ∃ before after, s.source = before ++ (r.selector ++ (r.between ++ '{' :: after)) ∧
      r.selectorSpan = Span.between before r.selector

section Forest

variable {s : Sheet} (h : s.Nested [])

include h in
lemma Nested.listOf_eq (p? : Option NodeId) : s.listOf p? = s.kidsOf p? := by
  cases p? with
  | none => exact h.top
  | some p =>
    cases hn : s.node? p with
    | some n => simp [listOf, hn, h.kids p n hn]
    | none =>
      refine Eq.symm ?_
      simp only [listOf, hn, Option.map_none, Option.getD_none]
      refine List.eq_nil_iff_forall_not_mem.mpr fun id hid => ?_
      obtain ⟨hlt, hp⟩ := mem_kidsOf.mp hid
      have hsize : p < s.nodes.size := Nat.lt_trans (h.prior id p hp) hlt
      simp [node?, hsize] at hn

include h in
lemma Nested.parent_holds {id p : NodeId} (hp : s.parent? id = some p) :
    ∃ m ids, s.node? p = some m ∧ m.data.block? = some ids := by
  have hid : id ∈ s.listOf (some p) := by
    rw [h.listOf_eq]
    exact mem_kidsOf.mpr ⟨lt_of_parent? hp, hp⟩
  rcases hm : s.node? p with _ | m
  · simp [listOf, hm] at hid
  · rcases hb : m.data.block? with _ | ids
    · simp [listOf, hm, NodeData.kids, hb] at hid
    · exact ⟨m, ids, rfl, hb⟩

include h in
/-- The first number after a node that is not inside it ends what is inside it. -/
lemma Nested.exists_interval {p : NodeId} (hp : p < s.nodes.size) :
    ∃ stop, p < stop ∧ stop ≤ s.nodes.size ∧
      ∀ id, Above s.parent? id p ↔ p < id ∧ id < stop := by
  classical
  have hend : p < s.nodes.size ∧ ¬ Above s.parent? s.nodes.size p := by
    refine ⟨hp, fun habove => ?_⟩
    obtain ⟨q, hq, -⟩ := above_iff.mp habove
    exact Nat.lt_irrefl _ (lt_of_parent? hq)
  have hex : ∃ stop, p < stop ∧ ¬ Above s.parent? stop p := ⟨_, hend⟩
  obtain ⟨hlt, hnot⟩ := Nat.find_spec hex
  refine ⟨Nat.find hex, hlt, Nat.find_min' hex hend, fun id => ⟨fun habove => ?_, ?_⟩⟩
  · refine ⟨habove.lt h.prior, Nat.lt_of_not_le fun hle => ?_⟩
    rcases Nat.lt_or_eq_of_le hle with hlt' | heq
    · exact hnot (h.solid p _ id hlt hlt' habove)
    · exact hnot (heq ▸ habove)
  · rintro ⟨hlt, hid⟩
    by_contra habove
    exact Nat.find_min hex hid ⟨hlt, habove⟩

end Forest

lemma Laid.isForest {s : Sheet} {low stop : Nat} (h : s.Laid [] low stop) : s.IsForest := by
  have hparent {id : NodeId} {n : Node} (hn : s.node? id = some n) :
      s.parent? id = n.parent := by simp [parent?, hn]
  refine ⟨?_, ?_, ?_, ?_, ?_, ?_, ?_, ?_, ?_⟩
  · intro id n p hn hp
    rw [← hparent hn] at hp
    exact ⟨h.nested.prior id p hp, h.nested.parent_holds hp⟩
  · intro id n p? hn
    have hnodup : (s.kidsOf p?).Nodup := (s.pairwise_kidsOf p?).imp Nat.ne_of_lt
    have hmem : id ∈ s.kidsOf p? ↔ n.parent = p? := by
      rw [mem_kidsOf, hparent hn]
      exact and_iff_right (lt_of_node? hn)
    rw [h.nested.listOf_eq, hnodup.count]
    simp only [hmem]
  · intro p? id hid
    rw [h.nested.listOf_eq] at hid
    exact (mem_kidsOf.mp hid).1
  · intro p?
    rw [h.nested.listOf_eq]
    exact s.pairwise_kidsOf p?
  · intro p hp
    exact h.nested.exists_interval hp
  · intro id n hn
    have hfits := h.extents.fits id n hn
    obtain ⟨hle, hsize⟩ := Span.stop_le_of_fits hfits
    simp only [Span.fits, Bool.and_eq_true] at hfits
    exact ⟨hle, hsize, hfits.1.2, hfits.2⟩
  · intro id n p m hn hp hm
    rw [← hparent hn] at hp
    exact h.extents.inside p id m n (h.nested.prior id p hp) hm hn (.single hp)
  · intro id id' n n' hlt hn hn' heq
    refine h.extents.after id id' n n' hlt hn hn' fun habove => ?_
    -- the parent of both is before the first, so the first is not around the second
    obtain ⟨q, hq, hqid⟩ := above_iff.mp habove
    rw [hparent hn', ← heq, ← hparent hn] at hq
    have hqlt := h.nested.prior id q hq
    rcases hqid with rfl | hqid
    · exact Nat.lt_irrefl _ hqlt
    · exact Nat.lt_asymm hqlt (hqid.lt h.nested.prior)
  · intro id n r hn hr
    obtain ⟨before, after, hsource, hspan, hstart⟩ := h.stands id n r hn hr
    refine ⟨?_, ?_, before, after, hsource, hspan⟩
    · rw [hspan, hsource]
      exact Span.slice?_between _ _ _
    · rw [hspan, hstart]
      rfl

/-- **Every source parses to an ordered forest**, whatever is wrong with it. -/
theorem isForest_parse (source : Text) (file : Option Text) :
    (parse source file).sheet.source = source ∧ (parse source file).sheet.IsForest :=
  ⟨rfl, (laid_parse source file).isForest⟩

end Sheet
end StyleScope
