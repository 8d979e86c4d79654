import StyleScope.Proofs.Sheet.Bare
import StyleScope.Proofs.Sheet.Growth

/-!
The shape of a sheet.

The shape of a tree is what is left of it without selectors, the texts of comments and spans:
what every node is and which node is its parent. Where a source is free of faults, the shape is
read off its statements.
-/

namespace StyleScope

/-- What a node is, apart from the text of a selector or a comment. -/
inductive Outline where
  | rule
  | atRule (name params : Text)
  | declaration (d : Declaration)
  | comment
  deriving DecidableEq, Repr

def NodeData.outline : NodeData → Outline
  | rule _ => .rule
  | atRule a => .atRule a.name a.params
  | declaration d => .declaration d
  | comment _ => .comment

def Node.outline (n : Node) : Outline × Option NodeId := (n.data.outline, n.parent)

/-- The outlines of the nodes and their parents, by number. -/
def Sheet.shape (s : Sheet) : List (Outline × Option NodeId) := s.nodes.toList.map Node.outline

namespace Statement

/-- The outline of the node that a statement adds. -/
def outline? : Statement → Option Outline
  | closeBlock _ => none
  | comment _ => some .comment
  | atRule name head _ =>
    some (.atRule (name.text.drop 1) (Text.trim (Piece.textOf (Prelude.content head))))
  | qualified _ (.block _) => some .rule
  | qualified head _ => (Declaration.ofTokens? (Prelude.content head)).map .declaration

/-- The nodes whose blocks are open after a statement, innermost first; its own node is `id`. -/
def openAfter (id : NodeId) (path : List NodeId) : Statement → List NodeId
  | closeBlock _ => path.tail
  | atRule _ _ (.block _) => id :: path
  | qualified _ (.block _) => id :: path
  | _ => path

/-- The outlines and parents of the nodes that statements add, from number `id` on. -/
def shape (id : NodeId) (path : List NodeId) : List Statement → List (Outline × Option NodeId)
  | [] => []
  | st :: sts =>
    (st.outline?.map fun o => (o, path.head?)).toList ++
      shape (id + st.outline?.toList.length) (st.openAfter id path) sts

lemma map_fst_shape (id : NodeId) (path : List NodeId) (sts : List Statement) :
    (shape id path sts).map Prod.fst = sts.filterMap outline? := by
  induction sts generalizing id path with
  | nil => rfl
  | cons st sts ih =>
    rw [shape, List.map_append, ih, List.filterMap_cons]
    cases st.outline? <;> rfl

lemma outline?_bare (st : Statement) : st.bare.outline? = st.outline? := by
  cases st with
  | qualified head ending =>
    cases ending <;> simp [bare, PreludeEnd.bare, outline?, Declaration.ofTokens?_bare]
  | atRule name head ending =>
    simp only [bare, outline?, Prelude.content_bare, Piece.textOf_bare]
    rfl
  | _ => rfl

lemma openAfter_bare (id : NodeId) (path : List NodeId) (st : Statement) :
    st.bare.openAfter id path = st.openAfter id path := by
  cases st with
  | atRule name head ending => cases ending <;> rfl
  | qualified head ending => cases ending <;> rfl
  | _ => rfl

lemma shape_bare (id : NodeId) (path : List NodeId) (sts : List Statement) :
    shape id path (sts.map Statement.bare) = shape id path sts := by
  induction sts generalizing id path with
  | nil => rfl
  | cons st sts ih => simp only [List.map_cons, shape, outline?_bare, openAfter_bare, ih]

end Statement

/-! ### Building -/

namespace SheetBuilder

variable {b : SheetBuilder}

def outlines (b : SheetBuilder) : List (Outline × Option NodeId) := b.nodes.toList.map Node.outline

lemma outline_finish (block : OpenBlock) (stop : Nat) (n : Node) :
    (block.finish stop n).outline = n.outline := by
  obtain ⟨data, parent, span⟩ := n
  cases data <;> rfl

@[simp] lemma outlines_reportAll (errors : List ParseError) :
    (b.reportAll errors).outlines = b.outlines := rfl

@[simp] lemma outlines_add (data : NodeData) (span : Span) :
    (b.add data span).outlines = b.outlines ++ [(data.outline, b.path.head?)] := by
  rcases hb : b.blocks with _ | ⟨block, outer⟩ <;>
    simp [add, outlines, hb, path, Node.outline]

@[simp] lemma outlines_addBlock (data : NodeData) (start : Nat) (openedBy : Text) (opener : Span) :
    (b.addBlock data start openedBy opener).outlines =
      b.outlines ++ [(data.outline, b.path.head?)] :=
  outlines_add data opener

@[simp] lemma path_reportAll (errors : List ParseError) : (b.reportAll errors).path = b.path := rfl

@[simp] lemma nodes_reportAll (errors : List ParseError) :
    (b.reportAll errors).nodes = b.nodes := rfl

lemma outlines_addDeclaration {head : List Token} (stop? : Option Nat)
    (h : Prelude.content head = [] ∨ b.blocks ≠ [] ∧
      (Declaration.ofTokens? (Prelude.content head)).isSome = true) :
    (b.addDeclaration head stop?).outlines = b.outlines ++
      ((Declaration.ofTokens? (Prelude.content head)).map fun d =>
        (Outline.declaration d, b.path.head?)).toList ∧
    (b.addDeclaration head stop?).path = b.path := by
  unfold addDeclaration
  rcases hc : Prelude.content head with _ | ⟨t, ts⟩
  · simp [Declaration.ofTokens?, Prelude.splitColon?]
  · rw [hc] at h
    obtain ⟨hb, hsome⟩ := h.resolve_left (by simp)
    obtain ⟨d, hd⟩ := Option.isSome_iff_exists.mp hsome
    simp [hb, hd, path_add, NodeData.outline]

/-- **A faultless statement adds its outline below the innermost open block.** -/
theorem outlines_step {st : Statement} (h : st.Faultless (b.blocks.length != 0)) :
    (b.step st).outlines =
        b.outlines ++ (st.outline?.map fun o => (o, b.path.head?)).toList ∧
      (b.step st).path = st.openAfter b.nodes.size b.path := by
  cases st with
  | closeBlock brace =>
    constructor
    · rw [Statement.outline?, Option.map_none, Option.toList_none, List.append_nil]
      exact map_nodes_closeBlock outline_finish b brace
    · rcases hb : b.blocks with _ | ⟨block, outer⟩ <;>
        simp [step, closeBlock, hb, finishBlock, Statement.openAfter, path, report]
  | comment t =>
    have hc : Token.isClosedComment t.text = true := h
    simp [step, addComment, hc, Statement.outline?, Statement.openAfter, path_add,
      NodeData.outline]
  | atRule name head ending =>
    have hname : ¬ name.text.length ≤ 1 := Nat.not_le.mpr h.1
    simp only [step, if_neg hname]
    cases ending <;>
      simp [addAtRule, Statement.outline?, Statement.openAfter, path_add, path_addBlock,
        NodeData.outline]
  | qualified head ending =>
    cases ending with
    | block brace =>
      obtain ⟨-, hne⟩ := h
      simp [step, addRule, hne, Statement.outline?, Statement.openAfter, path_addBlock,
        NodeData.outline]
    | semicolon mark =>
      obtain ⟨-, hd⟩ := h
      simpa [step, Statement.outline?, Statement.openAfter, Function.comp_def] using
        outlines_addDeclaration (b := b.reportAll (Prelude.errors head)) (some mark.stop)
          (by simpa using hd)
    | close =>
      obtain ⟨-, hd⟩ := h
      simpa [step, Statement.outline?, Statement.openAfter, Function.comp_def] using
        outlines_addDeclaration (b := b.reportAll (Prelude.errors head)) none (by simpa using hd)

lemma outlines_foldl_step {sts : List Statement} (h : Statement.Sound b.blocks.length sts) :
    (sts.foldl step b).outlines =
      b.outlines ++ Statement.shape b.nodes.size b.path sts := by
  induction sts generalizing b with
  | nil => simp [Statement.shape]
  | cons st sts ih =>
    obtain ⟨houtlines, hpath⟩ := outlines_step h.1
    have hsize : (b.step st).nodes.size = b.nodes.size + st.outline?.toList.length := by
      have hlen := congrArg List.length houtlines
      cases ho : st.outline? <;> simpa [outlines, ho] using hlen
    have hrest := h.2
    rw [← length_blocks_step] at hrest
    rw [List.foldl_cons, ih hrest, houtlines, hpath, hsize, Statement.shape, List.append_assoc]

end SheetBuilder

/-- **The shape of a faultless source is read off its statements.** -/
theorem Sheet.shape_parse {source : Text} {file : Option Text}
    (h : (parse source file).errors = []) :
    (parse source file).sheet.shape =
      Statement.shape 0 [] (Statement.ofTokens (Token.scan source)) := by
  have hsound := errors_parse_eq_nil.mp h
  have hrun := SheetBuilder.outlines_foldl_step (b := .empty) hsound
  have hclose := SheetBuilder.map_nodes_closeAll SheetBuilder.outline_finish source.size
    ((Statement.ofTokens (Token.scan source)).foldl SheetBuilder.step .empty)
  exact hclose.trans hrun

end StyleScope
