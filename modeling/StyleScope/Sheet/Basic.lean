import StyleScope.Selector.List
import StyleScope.Span

/-!
A style sheet is its source text and the nodes found in it. Nodes are numbered in document order,
each before its children, and name their parent, so that walking outwards goes to smaller numbers.
-/

namespace StyleScope

/-- The number of a node in its sheet. -/
abbrev NodeId := Nat

/-- A style rule. -/
structure Rule where
  /-- The current selector text. -/
  selector : Text
  /-- Where the selector stands in the source. -/
  selectorSpan : Span
  /-- The source between the selector and the block. -/
  between : Text
  children : List NodeId
  deriving DecidableEq, Repr

namespace Rule

/-- The selectors of the rule's list. -/
def selectors (r : Rule) : List Text := SelectorList.split r.selector

/-- What stands between two selectors of the rule: the first comma with the blanks after it or, for
a single selector, a comma and the text before the block. -/
def separator (r : Rule) : Text :=
  match r.selector.dropWhile (fun c => c != ',') with
  | [] => ',' :: r.between
  | comma :: rest => comma :: rest.takeWhile isBlank

def setSelector (r : Rule) (selector : Text) : Rule := { r with selector := selector }

/-- Replaces the whole list, written with the rule's own separator. -/
def setSelectors (r : Rule) (items : List Text) : Rule :=
  r.setSelector (Text.join r.separator items)

end Rule

/-- An at-rule. -/
structure AtRule where
  /-- The name after `@`. -/
  name : Text
  /-- The text after the name, trimmed. -/
  params : Text
  /-- The nodes of its block; none for a statement. -/
  body : Option (List NodeId)
  deriving DecidableEq, Repr

/-- A declaration. -/
structure Declaration where
  property : Text
  /-- The value without `!important`. -/
  value : Text
  important : Bool
  deriving DecidableEq, Repr

/-- What a node is. -/
inductive NodeData where
  | rule (r : Rule)
  | atRule (a : AtRule)
  | declaration (d : Declaration)
  /-- A comment outside any prelude, by the text between its marks. -/
  | comment (text : Text)
  deriving DecidableEq, Repr

namespace NodeData

def rule? : NodeData → Option Rule
  | rule r => some r
  | _ => none

def atRule? : NodeData → Option AtRule
  | atRule a => some a
  | _ => none

def isRule (d : NodeData) : Bool := d.rule?.isSome

/-- Puts the nodes of its block into a rule or an at-rule. -/
def withChildren (d : NodeData) (children : List NodeId) : NodeData :=
  match d with
  | rule r => rule { r with children := children }
  | atRule a => atRule { a with body := some children }
  | d => d

/-- Changes the rule, if the node is one. -/
def mapRule (f : Rule → Rule) : NodeData → NodeData
  | rule r => rule (f r)
  | d => d

end NodeData

/-- A node of a sheet. -/
structure Node where
  data : NodeData
  parent : Option NodeId
  span : Span
  deriving DecidableEq, Repr

/-- A style sheet. -/
structure Sheet where
  source : Text
  /-- The file it was read from. -/
  file : Option Text
  nodes : Array Node
  /-- The top-level nodes. -/
  children : List NodeId
  deriving DecidableEq, Repr

namespace Sheet

def node? (s : Sheet) (id : NodeId) : Option Node := s.nodes[id]?

def parent? (s : Sheet) (id : NodeId) : Option NodeId := (s.node? id).bind Node.parent

def rule? (s : Sheet) (id : NodeId) : Option Rule := (s.node? id).bind (·.data.rule?)

def atRule? (s : Sheet) (id : NodeId) : Option AtRule := (s.node? id).bind (·.data.atRule?)

/-- The nodes around a node, innermost first. -/
def ancestors (s : Sheet) (id : NodeId) : List (NodeId × Node) :=
  match s.parent? id with
  | none => []
  | some p =>
    if p < id then
      match s.node? p with
      | none => []
      | some n => (p, n) :: s.ancestors p
    else []
termination_by id

/-- The style rules in document order, numbered from `id` on. -/
def rulesFrom (id : NodeId) : List Node → List (NodeId × Rule)
  | [] => []
  | n :: ns =>
    match n.data.rule? with
    | some r => (id, r) :: rulesFrom (id + 1) ns
    | none => rulesFrom (id + 1) ns

/-- The style rules in document order. -/
def rules (s : Sheet) : List (NodeId × Rule) := rulesFrom 0 s.nodes.toList

/-- Changes one rule; other nodes stay as they are. -/
def modifyRule (s : Sheet) (id : NodeId) (f : Rule → Rule) : Sheet :=
  { s with nodes := s.nodes.modify id fun n => { n with data := n.data.mapRule f } }

end Sheet
end StyleScope
