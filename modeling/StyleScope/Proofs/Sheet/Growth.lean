import StyleScope.Proofs.Sheet.Nesting
import StyleScope.Proofs.Sheet.Rules

/-!
How a builder grows a tree.

The blocks that a builder keeps open are a path in the sheet that would result if the source
ended where the builder stands. Seen from that sheet, a statement closes the innermost block,
hangs a node below it, or hangs a node and opens it, and otherwise only records faults.
-/

namespace StyleScope

namespace SheetBuilder

def path (b : SheetBuilder) : List NodeId := b.blocks.map OpenBlock.node

/-- The nodes with the open ones closed at `stop`. -/
def settle (stop : Nat) (blocks : List OpenBlock) (nodes : Array Node) : Array Node :=
  blocks.foldl (fun nodes block => nodes.modify block.node (block.finish stop)) nodes

lemma nodes_closeAll (stop : Nat) (b : SheetBuilder) :
    (b.closeAll stop).nodes = settle stop b.blocks b.nodes := by
  have hfold (blocks : List OpenBlock) (c : SheetBuilder) :
      (blocks.foldl (fun c block => (c.report (.unclosedBlock block.openedBy)
        block.opener).finishBlock block stop) c).nodes = settle stop blocks c.nodes := by
    induction blocks generalizing c with
    | nil => rfl
    | cons block blocks ih => exact ih _
  exact hfold _ _

lemma top_closeAll (stop : Nat) (b : SheetBuilder) : (b.closeAll stop).top = b.top := by
  have hfold (blocks : List OpenBlock) (c : SheetBuilder) :
      (blocks.foldl (fun c block => (c.report (.unclosedBlock block.openedBy)
        block.opener).finishBlock block stop) c).top = c.top := by
    induction blocks generalizing c with
    | nil => rfl
    | cons block blocks ih => exact ih _
  exact hfold _ _

@[simp] lemma size_settle (stop : Nat) (blocks : List OpenBlock) (nodes : Array Node) :
    (settle stop blocks nodes).size = nodes.size := by
  induction blocks generalizing nodes with
  | nil => rfl
  | cons block blocks ih => exact (ih _).trans (by simp)

/-- What a node is when the open blocks are closed at `stop`. -/
def settleNode (stop : Nat) (id : NodeId) (n : Node) : List OpenBlock → Node
  | [] => n
  | block :: blocks =>
    if block.node = id then block.finish stop n else settleNode stop id n blocks

lemma settleNode_of_notMem {stop : Nat} {id : NodeId} {n : Node} {blocks : List OpenBlock}
    (h : id ∉ blocks.map OpenBlock.node) : settleNode stop id n blocks = n := by
  induction blocks with
  | nil => rfl
  | cons block blocks ih =>
    simp only [List.map_cons, List.mem_cons, not_or] at h
    rw [settleNode, if_neg (Ne.symm h.1), ih h.2]

lemma getElem?_settle {stop : Nat} {blocks : List OpenBlock}
    (hnd : (blocks.map OpenBlock.node).Nodup) (nodes : Array Node) (id : NodeId) :
    (settle stop blocks nodes)[id]? = nodes[id]?.map (settleNode stop id · blocks) := by
  induction blocks generalizing nodes with
  | nil => simp [settle, settleNode]
  | cons block blocks ih =>
    obtain ⟨hnot, hnd⟩ := List.nodup_cons.mp hnd
    have hrec : settle stop (block :: blocks) nodes =
        settle stop blocks (nodes.modify block.node (block.finish stop)) := rfl
    rw [hrec, ih hnd, Array.getElem?_modify]
    by_cases hid : block.node = id
    · subst hid
      rw [if_pos rfl, Option.map_map]
      refine congrArg (Option.map · _) (funext fun n => ?_)
      rw [Function.comp_apply, settleNode_of_notMem hnot, settleNode, if_pos rfl]
    · rw [if_neg hid]
      refine congrArg (Option.map · _) (funext fun n => ?_)
      rw [settleNode, if_neg hid]

lemma settleNode_stop (stop stop' : Nat) (id : NodeId) (n : Node) (blocks : List OpenBlock) :
    settleNode stop' id n blocks =
      if id ∈ blocks.map OpenBlock.node then
        { settleNode stop id n blocks with
          span := ⟨(settleNode stop id n blocks).span.start, stop'⟩ }
      else settleNode stop id n blocks := by
  induction blocks with
  | nil => rfl
  | cons block blocks ih =>
    by_cases hid : block.node = id
    · simp [settleNode, hid, OpenBlock.finish]
    · simpa [settleNode, hid, Ne.symm hid] using ih

/-- The sheet that results if the source ends at `stop`. -/
def sheetAt (b : SheetBuilder) (source : Text) (file : Option Text) (stop : Nat) : Sheet :=
  ⟨source, file, settle stop b.blocks b.nodes, b.top⟩

/-- The builders differ in their faults only. -/
def SameTree (b c : SheetBuilder) : Prop :=
  c.nodes = b.nodes ∧ c.blocks = b.blocks ∧ c.top = b.top

section SheetAt

variable {source : Text} {file : Option Text} {stop : Nat} {b c : SheetBuilder}

lemma SameTree.sheetAt (h : SameTree b c) (source : Text) (file : Option Text) (stop : Nat) :
    c.sheetAt source file stop = b.sheetAt source file stop := by
  obtain ⟨h1, h2, h3⟩ := h
  simp [SheetBuilder.sheetAt, h1, h2, h3]

lemma SameTree.path (h : SameTree b c) : c.path = b.path := by
  simp [SheetBuilder.path, h.2.1]

lemma nodup_path (h : (b.sheetAt source file stop).Nested b.path) : b.path.Nodup := by
  have hchain := h.chain
  generalize b.path = path at hchain
  induction path with
  | nil => exact List.nodup_nil
  | cons p ps ih =>
    refine List.nodup_cons.mpr ⟨fun hp => ?_, ih hchain.2⟩
    exact Nat.lt_irrefl p (hchain.lt h.prior p hp)

lemma node?_sheetAt (hnd : b.path.Nodup) (source : Text) (file : Option Text) (stop : Nat)
    (id : NodeId) : (b.sheetAt source file stop).node? id =
      b.nodes[id]?.map (settleNode stop id · b.blocks) :=
  getElem?_settle hnd b.nodes id

lemma sheetAt_eq_stretch (hnd : b.path.Nodup) (stop stop' : Nat) :
    b.sheetAt source file stop' = (b.sheetAt source file stop).stretch b.path stop' := by
  have hnodes : (b.sheetAt source file stop').nodes =
      ((b.sheetAt source file stop).stretch b.path stop').nodes := by
    refine Array.ext_getElem? fun id => ?_
    have hr := (b.sheetAt source file stop).node?_stretch b.path stop' id
    rw [node?_sheetAt hnd] at hr
    refine (node?_sheetAt hnd source file stop' id).trans (Eq.trans ?_ hr.symm)
    rw [Option.map_map]
    refine congrArg (Option.map · _) (funext fun n => ?_)
    exact settleNode_stop stop stop' id n b.blocks
  calc b.sheetAt source file stop'
      = ⟨source, file, (b.sheetAt source file stop').nodes, b.top⟩ := rfl
    _ = (b.sheetAt source file stop).stretch b.path stop' := by rw [hnodes]; rfl

lemma size_sheetAt : (b.sheetAt source file stop).nodes.size = b.nodes.size :=
  size_settle _ _ _

lemma kids_withChildren {d : NodeData} {ids : List NodeId}
    (h : (d.withChildren ids).block?.isSome) : (d.withChildren ids).kids = ids := by
  cases d <;> simp_all [NodeData.kids, NodeData.block?, NodeData.withChildren]

lemma finish_addKid {block : OpenBlock} {n : Node} {id : NodeId}
    (h : (block.finish stop n).data.block?.isSome) :
    OpenBlock.finish { block with children := block.children ++ [id] } stop n =
      Sheet.addKid id (block.finish stop n) := by
  have hk : (block.finish stop n).data.kids = block.children := kids_withChildren h
  rw [Sheet.addKid, hk]
  simp only [OpenBlock.finish, NodeData.withChildren_withChildren]

lemma sheetAt_add (h : (b.sheetAt source file stop).Nested b.path) (data : NodeData)
    (span : Span) : (b.add data span).sheetAt source file stop =
      (b.sheetAt source file stop).hang b.path data span := by
  rcases hb : b.blocks with _ | ⟨block, outer⟩
  · simp [add, sheetAt, Sheet.hang, path, hb, settle]
  have hpath : b.path = block.node :: outer.map OpenBlock.node := by simp [path, hb]
  have hadd : b.add data span =
      { b with
        nodes := b.nodes.push ⟨data, some block.node, span⟩
        blocks := { block with children := block.children ++ [b.nodes.size] } :: outer } := by
    simp [add, hb]
  have hpath' : (b.add data span).path = b.path := by simp [hadd, path, hb]
  have hnd := nodup_path h
  have hnodes : ((b.add data span).sheetAt source file stop).nodes =
      ((b.sheetAt source file stop).hang b.path data span).nodes := by
    refine Array.ext_getElem? fun id => ?_
    refine (node?_sheetAt (hpath' ▸ hnd) source file stop id).trans ?_
    refine Eq.trans ?_ (rfl : ((b.sheetAt source file stop).hang b.path data span).node? id = _)
    -- two nodes are not as before: the new one, and the one it is hung below
    by_cases hid : id = b.nodes.size
    · have hnew := Sheet.node?_hang_new (b.sheetAt source file stop) b.path data span
      have hnot : b.nodes.size ∉ (b.add data span).path := by
        rw [hpath']
        exact fun hp => Nat.lt_irrefl _ (size_sheetAt ▸ h.lt_size hp)
      rw [size_sheetAt] at hnew
      rw [hid, hnew, hadd, Array.getElem?_push_size, Option.map_some, hpath]
      exact congrArg some (settleNode_of_notMem (hadd ▸ hnot))
    · rw [Sheet.node?_hang_old (by rwa [size_sheetAt]), size_sheetAt, node?_sheetAt hnd, hadd,
        Array.getElem?_push, if_neg hid]
      by_cases hp : block.node = id
      · subst hp
        obtain ⟨n, hn, hholds⟩ := h.holds block.node (by simp [hpath])
        rw [node?_sheetAt hnd] at hn
        obtain ⟨m, hm, rfl⟩ := Option.map_eq_some_iff.mp hn
        rw [hb, settleNode, if_pos rfl] at hholds
        simp [hm, hpath, hb, settleNode, finish_addKid hholds]
      · simp [hpath, hb, settleNode, hp]
  calc (b.add data span).sheetAt source file stop
      = ⟨source, file, ((b.add data span).sheetAt source file stop).nodes, b.top⟩ := by
        simp [sheetAt, hadd]
    _ = (b.sheetAt source file stop).hang b.path data span := by
        rw [hnodes, hpath]; rfl

lemma sheetAt_addBlock {data : NodeData} (hdata : data.block? = some []) (start : Nat)
    (openedBy : Text) (opener : Span) :
    (b.addBlock data start openedBy opener).sheetAt source file stop =
      (b.add data ⟨start, stop⟩).sheetAt source file stop := by
  have hsame : data.withChildren [] = data := by
    cases data with
    | rule r => rw [NodeData.withChildren, ← Option.some.inj hdata]
    | atRule a => rw [NodeData.withChildren, ← show a.body = some [] from hdata]
    | _ => cases hdata
  have hpush (n m : Node) (f : Node → Node) (hf : f n = m) :
      (b.nodes.push n).modify b.nodes.size f = b.nodes.push m := by
    refine Array.ext_getElem? fun id => ?_
    rw [Array.getElem?_modify, Array.getElem?_push, Array.getElem?_push]
    by_cases hid : id = b.nodes.size
    · simp [hid, hf]
    · simp [hid, Ne.symm hid]
  rcases hb : b.blocks with _ | ⟨block, outer⟩
  · simp [addBlock, add, sheetAt, hb, settle, hpush _ _ _ rfl, OpenBlock.finish, hsame]
  · simp [addBlock, add, sheetAt, hb, settle, hpush _ _ _ rfl, OpenBlock.finish, hsame]

lemma path_add (data : NodeData) (span : Span) : (b.add data span).path = b.path := by
  rcases hb : b.blocks with _ | ⟨block, outer⟩ <;> simp [add, path, hb]

lemma path_addBlock (data : NodeData) (start : Nat) (openedBy : Text) (opener : Span) :
    (b.addBlock data start openedBy opener).path = b.nodes.size :: b.path := by
  have h : (b.add data opener).path = b.path := path_add data opener
  rw [← h]
  rfl

end SheetAt

/-! ### One statement -/

/-- What a statement with the given text, which begins at `pos`, makes of a builder: nothing but
faults, a closed block, a node that holds no nodes, or a node that is opened. -/
inductive Grows (pos : Nat) (text : Text) (b : SheetBuilder) : SheetBuilder → Prop
  | same {c : SheetBuilder} (h : SameTree b c) : Grows pos text b c
  | close {block : OpenBlock} {outer : List OpenBlock} (hb : b.blocks = block :: outer) :
      Grows pos text b ({ b with blocks := outer }.finishBlock block (pos + text.size))
  | leaf {c : SheetBuilder} {data : NodeData} {inside t : Text} (h : SameTree b c)
      (hd : data.block? = none) (ht : text = inside ++ t) :
      Grows pos text b (c.add data ⟨pos, pos + inside.size⟩)
  | block {c : SheetBuilder} {data : NodeData} {openedBy : Text} {opener : Span}
      (h : SameTree b c) (hd : data.block? = some [])
      (hr : ∀ r, data.rule? = some r →
        r.selectorSpan = ⟨pos, pos + r.selector.size⟩ ∧
          text = r.selector ++ (r.between ++ ['{'])) :
      Grows pos text b (c.addBlock data pos openedBy opener)

section Grows

variable {pos : Nat} {b c : SheetBuilder} {rest : List Token}

lemma grows_closeBlock {brace : Token} (ha : brace.start = pos) :
    Grows pos brace.text b (b.closeBlock brace) := by
  unfold closeBlock
  split
  · exact .same ⟨rfl, rfl, rfl⟩
  · next block outer hb =>
    rw [Piece.stop, ha]
    exact .close hb

lemma grows_addComment {t : Token} (ha : t.start = pos) :
    Grows pos t.text b (b.addComment t) := by
  have hspan : t.span = ⟨pos, pos + t.text.size⟩ := by rw [Piece.span, Piece.stop, ha]
  unfold addComment
  rw [hspan]
  split
  · exact .leaf ⟨rfl, rfl, rfl⟩ rfl (List.append_nil _).symm
  · exact .leaf ⟨rfl, rfl, rfl⟩ rfl (List.append_nil _).symm

lemma grows_addAtRule (h : SameTree b c) {name : Token} {head : List Token}
    {ending : PreludeEnd} (ha : Piece.Adjacent pos (name :: head ++ ending.tokens)) :
    Grows pos (Piece.textOf (name :: head ++ ending.tokens)) b (c.addAtRule name head ending) := by
  obtain ⟨hname, hhead⟩ := Piece.adjacent_append.mp ha
  simp only [addAtRule, hname.1]
  cases ending with
  | block brace => exact .block h rfl (by simp [NodeData.rule?])
  | semicolon mark =>
    have hstop : mark.stop = pos + (Piece.textOf (name :: head ++ [mark])).size := by
      simp [Piece.stop, hhead.1, Nat.add_assoc]
    simp only [hstop]
    exact .leaf h rfl (List.append_nil _).symm
  | close =>
    have hstop : (Prelude.spanFrom name.stop (Prelude.content head)).stop =
        pos + (name.text ++ Piece.textOf (Prelude.content head)).size := by
      simp [Prelude.spanFrom, Piece.stop, hname.1, Nat.add_assoc]
    simp only [hstop]
    refine .leaf (c := c) (t := Piece.textOf (Prelude.trailing head)) h rfl ?_
    simp [PreludeEnd.tokens, ← Prelude.textOf_content_append_trailing head]

lemma grows_addRule (h : SameTree b c) {head : List Token} {brace : Token}
    (hl : brace.text = ['{']) (ha : Piece.Adjacent pos (head ++ [brace])) :
    Grows pos (Piece.textOf (head ++ [brace])) b (c.addRule head brace) := by
  have hstart : (head.head?.map Piece.start).getD brace.start = pos := by
    rcases head with _ | ⟨t, head⟩
    · exact ha.1
    · exact ha.1
  unfold addRule
  rw [hstart]
  refine .block (b := b) ?_ rfl ?_
  · split
    · exact h
    · exact h
  · rintro r ⟨⟩
    refine ⟨rfl, ?_⟩
    simp [← Prelude.textOf_content_append_trailing head, hl]

lemma grows_addDeclaration (h : SameTree b c) {t : Token} {head : List Token} {tail : Text}
    {stop? : Option Nat} (hk : t.kind.startsHead = true) (ha : t.start = pos)
    (hstop : ∀ stop ∈ stop?, stop = pos + (Piece.textOf (t :: head) ++ tail).size) :
    Grows pos (Piece.textOf (t :: head) ++ tail) b (c.addDeclaration (t :: head) stop?) := by
  have hbody := Prelude.content_of_startsHead hk head
  have htext := Prelude.textOf_content_append_trailing (t :: head)
  simp only [addDeclaration, hbody, List.head?_cons, ha]
  rw [hbody] at htext
  split
  · exact .same h
  · next d _ =>
    cases stop? with
    | none =>
      refine .leaf (t := Piece.textOf (Prelude.trailing (t :: head)) ++ tail) h rfl ?_
      rw [← List.append_assoc, htext]
    | some stop =>
      rw [Option.getD_some, hstop stop rfl]
      exact .leaf h rfl (List.append_nil _).symm

/-- **What a statement does to the tree.** -/
theorem grows_step {st : Statement} (hs : st.Shaped rest)
    (ha : Piece.Adjacent pos (st.tokens ++ rest)) (hl : Token.Lexes (st.tokens ++ rest)) :
    Grows pos (Piece.textOf st.tokens) b (b.step st) := by
  have ha := (Piece.adjacent_append.mp ha).1
  have hbrace {t : Token} (ht : t ∈ st.tokens) (hk : t.kind = .leftBrace) : t.text = ['{'] := by
    obtain ⟨before, after, happ⟩ := List.append_of_mem ht
    rw [happ, List.append_assoc] at hl
    obtain ⟨hspell, -⟩ := (Token.lexes_append.mp hl).2
    exact hspell.eq_leftBrace hk
  have hsame (head : List Token) : SameTree b (b.reportAll (Prelude.errors head)) :=
    ⟨rfl, rfl, rfl⟩
  cases hs with
  | closeBlock hk => simpa [step, Statement.tokens] using grows_closeBlock ha.1
  | comment hk => simpa [step, Statement.tokens] using grows_addComment ha.1
  | atRule hk hd he =>
    refine grows_addAtRule ?_ ha
    split
    · exact ⟨rfl, rfl, rfl⟩
    · exact ⟨rfl, rfl, rfl⟩
  | bare hk =>
    exact grows_addRule (hsame _) (hbrace (by simp [Statement.tokens, PreludeEnd.tokens]) hk) ha
  | @qualified t head ending depth hk hd he =>
    cases ending with
    | block brace =>
      exact grows_addRule (hsame _)
        (hbrace (by simp [Statement.tokens, PreludeEnd.tokens]) he) ha
    | semicolon mark =>
      rw [Statement.tokens, Piece.textOf_append]
      refine grows_addDeclaration (hsame _) hk ha.1 ?_
      rintro _ ⟨⟩
      have hmark := (Piece.adjacent_append.mp ha).2
      simp [Piece.stop, hmark.1, Nat.add_assoc, PreludeEnd.tokens]
    | close =>
      rw [Statement.tokens, Piece.textOf_append]
      refine grows_addDeclaration (hsame _) hk ha.1 ?_
      rintro _ ⟨⟩

end Grows
end SheetBuilder
end StyleScope
