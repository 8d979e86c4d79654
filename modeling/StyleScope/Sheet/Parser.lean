import StyleScope.Sheet.Prelude

/-!
The statements of a source are taken one after another. A builder keeps the nodes found so far and
the blocks that are open, and never gives up: a fault is recorded, and parsing goes on.
-/

namespace StyleScope

/-- A parsed sheet and what was wrong with its source. -/
structure Parsed where
  sheet : Sheet
  errors : List ParseError
  deriving DecidableEq, Repr

/-- An open block. -/
structure OpenBlock where
  node : NodeId
  start : Nat
  /-- How a fault names the block. -/
  openedBy : Text
  /-- Where it is reported if nothing closes it. -/
  opener : Span
  children : List NodeId
  deriving DecidableEq, Repr

/-- A sheet in the making. -/
structure SheetBuilder where
  nodes : Array Node
  errors : Array ParseError
  /-- The open blocks, innermost first. -/
  blocks : List OpenBlock
  /-- The top-level nodes. -/
  top : List NodeId
  deriving DecidableEq, Repr

namespace SheetBuilder

def empty : SheetBuilder := ⟨#[], #[], [], []⟩

def report (b : SheetBuilder) (fault : ParseFault) (span : Span) : SheetBuilder :=
  { b with errors := b.errors.push ⟨fault, span⟩ }

def reportAll (b : SheetBuilder) (errors : List ParseError) : SheetBuilder :=
  { b with errors := b.errors ++ errors.toArray }

/-- Adds a node to the innermost open block. -/
def add (b : SheetBuilder) (data : NodeData) (span : Span) : SheetBuilder :=
  let id := b.nodes.size
  match b.blocks with
  | [] => { b with nodes := b.nodes.push ⟨data, none, span⟩, top := b.top ++ [id] }
  | block :: outer =>
    { b with
      nodes := b.nodes.push ⟨data, some block.node, span⟩
      blocks := { block with children := block.children ++ [id] } :: outer }

/-- Adds a node and opens its block. -/
def addBlock (b : SheetBuilder) (data : NodeData) (start : Nat) (openedBy : Text) (opener : Span) :
    SheetBuilder :=
  let b' := b.add data opener
  { b' with blocks := ⟨b.nodes.size, start, openedBy, opener, []⟩ :: b'.blocks }

/-- Gives the node of a block its children and its final span. -/
def finishBlock (b : SheetBuilder) (block : OpenBlock) (stop : Nat) : SheetBuilder :=
  { b with
    nodes := b.nodes.modify block.node fun n =>
      { n with data := n.data.withChildren block.children, span := ⟨block.start, stop⟩ } }

/-- Closes the innermost block. -/
def closeBlock (b : SheetBuilder) (brace : Token) : SheetBuilder :=
  match b.blocks with
  | [] => b.report .unexpectedClosingBrace brace.span
  | block :: outer => { b with blocks := outer }.finishBlock block brace.stop

def addComment (b : SheetBuilder) (t : Token) : SheetBuilder :=
  let body := t.text.drop 2
  if Token.isClosedComment t.text then b.add (.comment (body.take (body.length - 2))) t.span
  else (b.report .unclosedComment t.span).add (.comment body) t.span

def addRule (b : SheetBuilder) (head : List Token) (brace : Token) : SheetBuilder :=
  let content := Prelude.content head
  let selector := Piece.textOf content
  let start := (head.head?.map Piece.start).getD brace.start
  let span := Prelude.spanFrom start content
  let b := if selector.isEmpty then b.report .emptySelector brace.span else b
  b.addBlock (.rule ⟨selector, span, Piece.textOf (Prelude.trailing head), []⟩) start selector span

/-- Adds a declaration, which has a colon and stands inside a block. -/
def addDeclaration (b : SheetBuilder) (head : List Token) (stop? : Option Nat) : SheetBuilder :=
  let content := Prelude.content head
  match content.head? with
  | none => b
  | some first =>
    let span := Prelude.spanFrom first.start content
    let declaration? := if b.blocks.isEmpty then none else Declaration.ofTokens? content
    match declaration? with
    | none => b.report (.unknownWord (Piece.textOf content)) span
    | some d => b.add (.declaration d) ⟨span.start, stop?.getD span.stop⟩

def addAtRule (b : SheetBuilder) (name : Token) (head : List Token) (ending : PreludeEnd) :
    SheetBuilder :=
  let content := Prelude.content head
  let label := name.text.drop 1
  let params := Text.trim (Piece.textOf content)
  match ending with
  | .block _ =>
    b.addBlock (.atRule ⟨label, params, some []⟩) name.start ('@' :: label) name.span
  | .semicolon mark => b.add (.atRule ⟨label, params, none⟩) ⟨name.start, mark.stop⟩
  | .close =>
    b.add (.atRule ⟨label, params, none⟩) ⟨name.start, (Prelude.spanFrom name.stop content).stop⟩

/-- Takes in a statement. -/
def step (b : SheetBuilder) : Statement → SheetBuilder
  | .closeBlock brace => b.closeBlock brace
  | .comment t => b.addComment t
  | .atRule name head ending =>
    let b := if name.text.length ≤ 1 then b.report .emptyAtRuleName name.span else b
    (b.reportAll (Prelude.errors head)).addAtRule name head ending
  | .qualified head ending =>
    let b := b.reportAll (Prelude.errors head)
    match ending with
    | .block brace => b.addRule head brace
    | .semicolon mark => b.addDeclaration head (some mark.stop)
    | .close => b.addDeclaration head none

/-- Closes every block that is still open, innermost first, at the end of the source. -/
def closeAll (size : Nat) (b : SheetBuilder) : SheetBuilder :=
  b.blocks.foldl
    (fun b block => (b.report (.unclosedBlock block.openedBy) block.opener).finishBlock block size)
    { b with blocks := [] }

end SheetBuilder

namespace Sheet

/-- Parses a source text. -/
def parse (source : Text) (file : Option Text) : Parsed :=
  let statements := Statement.ofTokens (Token.scan source)
  let b := (statements.foldl SheetBuilder.step SheetBuilder.empty).closeAll source.size
  ⟨⟨source, file, b.nodes, b.top⟩, b.errors.toList⟩

end Sheet
end StyleScope
