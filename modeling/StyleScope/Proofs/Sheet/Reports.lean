import StyleScope.Proofs.Sheet.Faults

/-!
What is reported of a source.

A builder only ever adds to its faults, and what a statement adds is a function of the statement
and of whether a block is open around it. At the end of the source every block that is still
open adds one more, innermost first. So the faults of a source are read off its statements.
-/

namespace StyleScope

/-- The fault of a block that nothing closes. -/
def OpenBlock.fault (block : OpenBlock) : ParseError :=
  ⟨.unclosedBlock block.openedBy, block.opener⟩

namespace Statement

/-- The fault of content that is no declaration, or stands outside a block. -/
def misplaced (inside : Bool) (content : List Token) : List ParseError :=
  match content.head? with
  | none => []
  | some first =>
    if inside && (Declaration.ofTokens? content).isSome then []
    else [⟨.unknownWord (Piece.textOf content), Prelude.spanFrom first.start content⟩]

/-- The faults of a statement, which stands inside a block or outside. -/
def reports (inside : Bool) : Statement → List ParseError
  | closeBlock brace => if inside then [] else [⟨.unexpectedClosingBrace, brace.span⟩]
  | comment t => if Token.isClosedComment t.text then [] else [⟨.unclosedComment, t.span⟩]
  | atRule name head _ =>
    (if name.text.length ≤ 1 then [⟨.emptyAtRuleName, name.span⟩] else []) ++ Prelude.errors head
  | qualified head (.block brace) =>
    Prelude.errors head ++
      if (Piece.textOf (Prelude.content head)).isEmpty then [⟨.emptySelector, brace.span⟩] else []
  | qualified head _ => Prelude.errors head ++ misplaced inside (Prelude.content head)

/-- The faults of statements, before which `depth` blocks are open. -/
def reported : Nat → List Statement → List ParseError
  | _, [] => []
  | depth, st :: sts => st.reports (depth != 0) ++ reported (st.nest depth) sts

/-- The fault of the block that a statement opens, if nothing closes it. -/
def opened? : Statement → Option ParseError
  | atRule name _ (.block _) => some ⟨.unclosedBlock ('@' :: name.text.drop 1), name.span⟩
  | qualified head (.block brace) =>
    some ⟨.unclosedBlock (Piece.textOf (Prelude.content head)),
      Prelude.spanFrom ((head.head?.map Piece.start).getD brace.start) (Prelude.content head)⟩
  | _ => none

/-- The faults of the blocks that are open after a statement, innermost first. -/
def pending (faults : List ParseError) : Statement → List ParseError
  | closeBlock _ => faults.tail
  | st => st.opened?.toList ++ faults

end Statement

namespace SheetBuilder

variable (b : SheetBuilder)

def found (b : SheetBuilder) : List ParseError := b.errors.toList

/-- The faults of the open blocks, should nothing close them. -/
def awaited (b : SheetBuilder) : List ParseError := b.blocks.map OpenBlock.fault

@[simp] lemma found_report (fault : ParseFault) (span : Span) :
    (b.report fault span).found = b.found ++ [⟨fault, span⟩] := by
  simp [found, report]

@[simp] lemma found_reportAll (errors : List ParseError) :
    (b.reportAll errors).found = b.found ++ errors := by
  simp [found, reportAll]

@[simp] lemma found_add (data : NodeData) (span : Span) : (b.add data span).found = b.found := by
  simp [found]

@[simp] lemma found_addBlock (data : NodeData) (start : Nat) (openedBy : Text) (opener : Span) :
    (b.addBlock data start openedBy opener).found = b.found := by
  simp [found]

@[simp] lemma awaited_report (fault : ParseFault) (span : Span) :
    (b.report fault span).awaited = b.awaited := rfl

@[simp] lemma awaited_reportAll (errors : List ParseError) :
    (b.reportAll errors).awaited = b.awaited := rfl

@[simp] lemma awaited_add (data : NodeData) (span : Span) :
    (b.add data span).awaited = b.awaited := by
  rcases hb : b.blocks with _ | ⟨block, outer⟩ <;> simp [add, awaited, hb, OpenBlock.fault]

@[simp] lemma awaited_addBlock (data : NodeData) (start : Nat) (openedBy : Text) (opener : Span) :
    (b.addBlock data start openedBy opener).awaited =
      ⟨.unclosedBlock openedBy, opener⟩ :: b.awaited := by
  rw [← awaited_add b data opener]
  rfl

lemma found_addDeclaration (head : List Token) (stop? : Option Nat) :
    (b.addDeclaration head stop?).found =
      b.found ++ Statement.misplaced (b.blocks.length != 0) (Prelude.content head) := by
  unfold addDeclaration Statement.misplaced
  rcases hc : Prelude.content head with _ | ⟨t, ts⟩
  · simp
  · rcases hb : b.blocks with _ | ⟨block, outer⟩
    · simp
    · rcases hd : Declaration.ofTokens? (t :: ts) with _ | d <;> simp [hd]

lemma awaited_addDeclaration (head : List Token) (stop? : Option Nat) :
    (b.addDeclaration head stop?).awaited = b.awaited := by
  unfold addDeclaration
  rcases hc : Prelude.content head with _ | ⟨t, ts⟩
  · rfl
  · rcases hb : b.blocks with _ | ⟨block, outer⟩
    · simp
    · rcases hd : Declaration.ofTokens? (t :: ts) with _ | d <;> simp [hd]

/-- **A statement adds its own faults.** -/
theorem found_step (st : Statement) :
    (b.step st).found = b.found ++ st.reports (b.blocks.length != 0) := by
  cases st with
  | closeBlock brace =>
    rcases hb : b.blocks with _ | ⟨block, outer⟩
    · simp [step, closeBlock, hb, Statement.reports]
    · simp [step, closeBlock, hb, Statement.reports, found, finishBlock]
  | comment t =>
    simp only [step, addComment, Statement.reports]
    split_ifs <;> simp
  | atRule name head ending =>
    have hadd (c : SheetBuilder) : (c.addAtRule name head ending).found = c.found := by
      cases ending <;> simp [addAtRule]
    simp only [step, hadd, Statement.reports]
    split_ifs <;> simp
  | qualified head ending =>
    cases ending with
    | block brace =>
      simp only [step, addRule, found_addBlock, Statement.reports]
      split_ifs <;> simp
    | semicolon mark => simp [step, found_addDeclaration, Statement.reports]
    | close => simp [step, found_addDeclaration, Statement.reports]

lemma awaited_step (st : Statement) : (b.step st).awaited = st.pending b.awaited := by
  cases st with
  | closeBlock brace =>
    rcases hb : b.blocks with _ | ⟨block, outer⟩ <;>
      simp [step, closeBlock, hb, Statement.pending, awaited, finishBlock, report]
  | comment t =>
    simp only [step, addComment, Statement.pending, Statement.opened?]
    split_ifs <;> simp
  | atRule name head ending =>
    simp only [step, Statement.pending]
    split_ifs <;> cases ending <;> simp [addAtRule, Statement.opened?]
  | qualified head ending =>
    cases ending with
    | block brace =>
      simp only [step, addRule, awaited_addBlock, Statement.pending, Statement.opened?]
      split_ifs <;> simp
    | semicolon mark => simp [step, awaited_addDeclaration, Statement.pending, Statement.opened?]
    | close => simp [step, awaited_addDeclaration, Statement.pending, Statement.opened?]

lemma found_closeAll (size : Nat) : (b.closeAll size).found = b.found ++ b.awaited := by
  have hfold (blocks : List OpenBlock) (c : SheetBuilder) :
      (blocks.foldl (fun c block => (c.report (.unclosedBlock block.openedBy)
        block.opener).finishBlock block size) c).found = c.found ++ blocks.map OpenBlock.fault := by
    induction blocks generalizing c with
    | nil => simp
    | cons block blocks ih =>
      rw [List.foldl_cons, ih]
      simp [found, finishBlock, report, OpenBlock.fault]
  exact hfold _ _

lemma found_foldl_step (sts : List Statement) :
    (sts.foldl step b).found = b.found ++ Statement.reported b.blocks.length sts ∧
      (sts.foldl step b).awaited = sts.foldl Statement.pending b.awaited := by
  induction sts generalizing b with
  | nil => simp [Statement.reported]
  | cons st sts ih =>
    obtain ⟨hfound, hawaited⟩ := ih (b.step st)
    simp only [List.foldl_cons, Statement.reported]
    rw [hfound, hawaited, found_step, awaited_step, length_blocks_step, List.append_assoc]
    exact ⟨rfl, rfl⟩

end SheetBuilder

/-- **The faults of a source are those of its statements**, and then one for every block that
is still open at its end. -/
theorem Sheet.errors_parse (source : Text) (file : Option Text) :
    (parse source file).errors =
      Statement.reported 0 (Statement.ofTokens (Token.scan source)) ++
        (Statement.ofTokens (Token.scan source)).foldl Statement.pending [] := by
  obtain ⟨hfound, hawaited⟩ :=
    SheetBuilder.empty.found_foldl_step (Statement.ofTokens (Token.scan source))
  have hclose := SheetBuilder.found_closeAll
    ((Statement.ofTokens (Token.scan source)).foldl SheetBuilder.step .empty) source.size
  rw [hfound, hawaited] at hclose
  exact hclose

end StyleScope
