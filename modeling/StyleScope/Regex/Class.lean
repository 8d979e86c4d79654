import StyleScope.Regex.Escape

/-!
A class in brackets lists characters, ranges and other classes. Lists can be combined by `&&`, `--`
and `~~`, which bind alike and to the left, and classes can be nested.
-/

namespace StyleScope.Regex

/-- How two sets are combined. -/
inductive SetOp where
  | inter
  | diff
  | symmDiff
  deriving DecidableEq, Repr

def SetOp.apply : SetOp → CharSet → CharSet → CharSet
  | inter => .inter
  | diff => .diff
  | symmDiff => .symmDiff

/-- An open bracket: whether its class is negated, what precedes the last operator, and what has
been listed since. -/
structure OpenClass where
  negated : Bool
  lhs : Option (SetOp × CharSet)
  items : CharSet
  deriving DecidableEq, Repr

namespace OpenClass

def add (k : OpenClass) (s : CharSet) : OpenClass := { k with items := .union k.items s }

/-- What the class holds so far. -/
def combined (f : Flags) (k : OpenClass) : CharSet :=
  match k.lhs with
  | none => k.items
  | some (op, lhs) => op.apply (foldCase f lhs) (foldCase f k.items)

def applyOp (f : Flags) (op : SetOp) (k : OpenClass) : OpenClass :=
  { k with lhs := some (op, k.combined f), items := .empty }

/-- The class when its bracket is closed. -/
def close (f : Flags) (k : OpenClass) : CharSet :=
  .negatedIf k.negated (foldCase f (k.combined f))

end OpenClass

/-- The set of a literal. -/
def literalSet? (f : Flags) (c : Char) : Option CharSet :=
  if f.unicode || c.toNat < 128 then some (.single c) else none

/-- Reads the beginning of a class after its bracket: `^`, and then `-` or one `]` as literals. -/
def openClass? (f : Flags) (t : Text) : Option (OpenClass × Text) :=
  let (negated, t) := match skip f t with
    | '^' :: t => (true, skip f t)
    | t => (false, t)
  let (dashes, t) := takeSkipping f (fun c => c == '-') t
  let start : OpenClass := ⟨negated, none, .empty⟩
  match dashes, t with
  | _, [] => none
  | [], ']' :: t =>
    match skip f t with
    | [] => none
    | t => some (start.add (.single ']'), t)
  | [], t => some (start, t)
  | _ :: _, t => some (start.add (.single '-'), t)

/-- Reads a named ASCII class after its bracket, such as `:alpha:]`. -/
def asciiClass? (f : Flags) (t : Text) : Option (CharSet × Text) := do
  let t ← match t with
    | ':' :: t => some t
    | _ => none
  let (negated, t) := match t with
    | '^' :: t => (true, t)
    | t => (false, t)
  let (name, t) := t.span fun c => c != ':'
  match t with
  | ':' :: ']' :: t => return (.negatedIf negated (foldCase f (← asciiSet? name)), t)
  | _ => none

/-- Reads one item of a class. -/
def classItem? (f : Flags) : Text → Option (Item × Text)
  | [] => none
  | '\\' :: t => escape? f t
  | c :: t => some (.literal c, t)

/-- Reads an item or a range of a class. -/
def classRange? (f : Flags) (t : Text) : Option (CharSet × Text) := do
  let (item, t) ← classItem? f t
  let t := skip f t
  let isRange := match t with
    | '-' :: t =>
      match skip f t with
      | ']' :: _ | '-' :: _ => false
      | _ => true
    | _ => false
  guard (!t.isEmpty)
  match isRange, item with
  | false, .literal c => return (← literalSet? f c, t)
  | false, .set s => return (s, t)
  | true, .literal lo =>
    let (stop, t) ← classItem? f (skip f (t.drop 1))
    match stop with
    | .literal hi =>
      guard (lo ≤ hi && (f.unicode || hi.toNat < 128))
      return (.range lo.toNat hi.toNat, t)
    | _ => none
  | _, _ => none

/-- Where the reading of a class stands. -/
inductive ClassStep where
  /-- The class is read. -/
  | closed (s : CharSet) (rest : Text)
  /-- Brackets are open, `k` the innermost. -/
  | opened (k : OpenClass) (outer : List OpenClass) (rest : Text)

/-- Reads one piece of a class, inside the bracket `k` and those around it. -/
def classStep? (f : Flags) (k : OpenClass) (outer : List OpenClass) (t : Text) :
    Option ClassStep :=
  match skip f t with
  | [] => none
  | '&' :: '&' :: rest => some (.opened (k.applyOp f .inter) outer rest)
  | '-' :: '-' :: rest => some (.opened (k.applyOp f .diff) outer rest)
  | '~' :: '~' :: rest => some (.opened (k.applyOp f .symmDiff) outer rest)
  | ']' :: rest =>
    match outer with
    | [] => some (.closed (k.close f) rest)
    | o :: outer => some (.opened (o.add (k.close f)) outer rest)
  | '[' :: rest =>
    match asciiClass? f rest with
    | some (s, rest) => some (.opened (k.add s) outer rest)
    | none => (openClass? f rest).map fun (inner, rest) => .opened inner (k :: outer) rest
  | t => (classRange? f t).map fun (s, rest) => .opened (k.add s) outer rest

/-- Reads a class to its end. -/
def classFrom? (f : Flags) (k : OpenClass) (outer : List OpenClass) (t : Text) :
    Option (CharSet × Text) :=
  match classStep? f k outer t with
  | none => none
  | some (.closed s rest) => some (s, rest)
  | some (.opened k outer rest) =>
    if rest.length < t.length then classFrom? f k outer rest else none
termination_by t.length

/-- Reads a class after its first bracket. -/
def class? (f : Flags) (t : Text) : Option (CharSet × Text) := do
  let (k, t) ← openClass? f t
  let (s, t) ← classFrom? f k [] t
  return (← allowed? f s, t)

end StyleScope.Regex
