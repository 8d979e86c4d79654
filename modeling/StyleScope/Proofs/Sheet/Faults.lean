import StyleScope.Proofs.Sheet.Groups
import StyleScope.Sheet.Parser

/-!
When a source is free of faults.

A builder only ever adds to its list of faults, so a source is free of them when none of its
statements has one. Whether a statement has one depends on its own tokens and on whether a block
is open around it, and the blocks are counted by the statements alone.
-/

namespace StyleScope

namespace Statement

/-- No fault is found in the statement, which stands inside a block or outside. -/
def Faultless (inside : Bool) : Statement → Prop
  | closeBlock _ => inside = true
  | comment t => Token.isClosedComment t.text = true
  | atRule name head _ => 1 < name.text.length ∧ Prelude.errors head = []
  | qualified head (.block _) =>
    Prelude.errors head = [] ∧ Piece.textOf (Prelude.content head) ≠ []
  | qualified head _ =>
    Prelude.errors head = [] ∧ (Prelude.content head = [] ∨
      inside = true ∧ (Declaration.ofTokens? (Prelude.content head)).isSome = true)

/-- The number of open blocks after a statement. -/
def nest (depth : Nat) : Statement → Nat
  | closeBlock _ => depth - 1
  | atRule _ _ (.block _) => depth + 1
  | qualified _ (.block _) => depth + 1
  | _ => depth

/-- No fault is found in the statements, `depth` blocks are open before them and all are closed
after them. -/
def Sound : Nat → List Statement → Prop
  | depth, [] => depth = 0
  | depth, st :: sts => st.Faultless (depth != 0) ∧ Sound (st.nest depth) sts

lemma Sound.faultless {depth : Nat} {sts : List Statement} (h : Sound depth sts) :
    ∀ st ∈ sts, ∃ inside, st.Faultless inside := by
  induction sts generalizing depth with
  | nil => simp
  | cons st sts ih =>
    intro st' hst'
    rcases List.mem_cons.mp hst' with rfl | hst'
    · exact ⟨_, h.1⟩
    · exact ih h.2 st' hst'

end Statement

namespace SheetBuilder

variable (b : SheetBuilder)

@[simp] lemma errors_report (fault : ParseFault) (span : Span) :
    (b.report fault span).errors ≠ #[] := by
  simp [report]

@[simp] lemma errors_reportAll (errors : List ParseError) :
    (b.reportAll errors).errors = #[] ↔ b.errors = #[] ∧ errors = [] := by
  simp [reportAll]

@[simp] lemma blocks_reportAll (errors : List ParseError) :
    (b.reportAll errors).blocks = b.blocks := rfl

@[simp] lemma errors_add (data : NodeData) (span : Span) : (b.add data span).errors = b.errors := by
  unfold add
  split <;> rfl

@[simp] lemma errors_addBlock (data : NodeData) (start : Nat) (openedBy : Text) (opener : Span) :
    (b.addBlock data start openedBy opener).errors = b.errors :=
  errors_add b data opener

@[simp] lemma length_blocks_add (data : NodeData) (span : Span) :
    (b.add data span).blocks.length = b.blocks.length := by
  unfold add
  split <;> simp [*]

@[simp] lemma length_blocks_addBlock (data : NodeData) (start : Nat) (openedBy : Text)
    (opener : Span) :
    (b.addBlock data start openedBy opener).blocks.length = b.blocks.length + 1 := by
  simp [addBlock]

lemma errors_addRule (head : List Token) (brace : Token) :
    (b.addRule head brace).errors = #[] ↔
      b.errors = #[] ∧ Piece.textOf (Prelude.content head) ≠ [] := by
  simp only [addRule, errors_addBlock]
  split_ifs with h
  · simp_all
  · simp_all

lemma errors_addDeclaration (head : List Token) (stop? : Option Nat) :
    (b.addDeclaration head stop?).errors = #[] ↔ b.errors = #[] ∧
      (Prelude.content head = [] ∨ b.blocks ≠ [] ∧
        (Declaration.ofTokens? (Prelude.content head)).isSome = true) := by
  unfold addDeclaration
  rcases hc : Prelude.content head with _ | ⟨t, ts⟩
  · simp
  · rcases hb : b.blocks with _ | ⟨block, outer⟩
    · simp
    · rcases hd : Declaration.ofTokens? (t :: ts) with _ | d <;> simp [hd]

/-- **A statement adds no fault when it has none.** -/
theorem errors_step (st : Statement) :
    (b.step st).errors = #[] ↔ b.errors = #[] ∧ st.Faultless (b.blocks.length != 0) := by
  cases st with
  | closeBlock brace =>
    rcases hb : b.blocks with _ | ⟨block, outer⟩ <;>
      simp [step, closeBlock, hb, finishBlock, Statement.Faultless]
  | comment t =>
    simp only [step, addComment, Statement.Faultless]
    split_ifs with h <;> simp [h]
  | atRule name head ending =>
    have hadd (c : SheetBuilder) : (c.addAtRule name head ending).errors = c.errors := by
      cases ending <;> simp [addAtRule]
    simp only [step, hadd, errors_reportAll, Statement.Faultless]
    split_ifs with h
    · simp only [errors_report, false_and, false_iff]
      omega
    · simp only [Nat.lt_of_not_le h, true_and]
  | qualified head ending =>
    cases ending with
    | block brace => simp [step, errors_addRule, Statement.Faultless, and_assoc]
    | semicolon mark => simp [step, errors_addDeclaration, Statement.Faultless, and_assoc]
    | close => simp [step, errors_addDeclaration, Statement.Faultless, and_assoc]

lemma length_blocks_step (st : Statement) :
    (b.step st).blocks.length = st.nest b.blocks.length := by
  cases st with
  | closeBlock brace =>
    rcases hb : b.blocks with _ | ⟨block, outer⟩ <;>
      simp [step, closeBlock, hb, finishBlock, Statement.nest, report]
  | comment t =>
    simp only [step, addComment, Statement.nest]
    split_ifs <;> simp [report]
  | atRule name head ending =>
    simp only [step, addAtRule]
    split_ifs <;> cases ending <;> simp [Statement.nest, report]
  | qualified head ending =>
    cases ending with
    | block brace =>
      simp only [step, addRule, Statement.nest]
      split_ifs <;> simp [report]
    | semicolon mark =>
      simp only [step, addDeclaration, Statement.nest]
      repeat' split
      all_goals simp [report]
    | close =>
      simp only [step, addDeclaration, Statement.nest]
      repeat' split
      all_goals simp [report]

lemma errors_closeAll (size : Nat) :
    (b.closeAll size).errors = #[] ↔ b.errors = #[] ∧ b.blocks = [] := by
  have hfold (blocks : List OpenBlock) (c : SheetBuilder) :
      (blocks.foldl (fun c block => (c.report (.unclosedBlock block.openedBy)
        block.opener).finishBlock block size) c).errors = #[] ↔ c.errors = #[] ∧ blocks = [] := by
    induction blocks generalizing c with
    | nil => simp
    | cons block blocks ih =>
      rw [List.foldl_cons, ih]
      simp [finishBlock, report]
  exact hfold _ _

lemma errors_foldl_step (sts : List Statement) (size : Nat) :
    ((sts.foldl step b).closeAll size).errors = #[] ↔
      b.errors = #[] ∧ Statement.Sound b.blocks.length sts := by
  induction sts generalizing b with
  | nil => simp [errors_closeAll, Statement.Sound]
  | cons st sts ih =>
    rw [List.foldl_cons, ih, errors_step, length_blocks_step, Statement.Sound, and_assoc]

end SheetBuilder

/-- **A source has no faults when its statements are sound.** -/
theorem Sheet.errors_parse_eq_nil {source : Text} {file : Option Text} :
    (parse source file).errors = [] ↔
      Statement.Sound 0 (Statement.ofTokens (Token.scan source)) := by
  have h := SheetBuilder.empty.errors_foldl_step (Statement.ofTokens (Token.scan source))
    source.size
  simpa [SheetBuilder.empty, parse] using h

end StyleScope
