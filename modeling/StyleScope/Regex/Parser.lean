import StyleScope.Regex.Class
import StyleScope.Regex.Program

/-!
A pattern is read from the left with the groups that are open, the alternatives that are complete
and the items of the one being read. Look-around and back-references are no part of the language.
-/

namespace StyleScope.Regex

/-- An item of an alternative. Flags are one too, and cannot be repeated. -/
inductive Part where
  | flags
  | expr (e : Regex)
  deriving DecidableEq, Repr

def Part.toRegex : Part → Regex
  | flags => empty
  | expr e => e

/-- A group that is open, or the pattern itself: the flags to go back to, the alternatives read so
far and the items of the current one, each latest first. -/
structure OpenGroup where
  flags : Flags
  branches : List Regex
  parts : List Part
  deriving DecidableEq, Repr

namespace OpenGroup

def start (f : Flags) : OpenGroup := ⟨f, [], []⟩

def push (g : OpenGroup) (e : Regex) : OpenGroup := { g with parts := .expr e :: g.parts }

/-- The alternative being read. -/
def branch (g : OpenGroup) : Regex := ofList (g.parts.reverse.map Part.toRegex)

/-- Begins another alternative. -/
def nextBranch (g : OpenGroup) : OpenGroup :=
  { g with branches := g.branch :: g.branches, parts := [] }

/-- The group as an expression. -/
def close (g : OpenGroup) : Regex := g.branches.foldl (fun e b => alt b e) g.branch

/-- Takes back the item that a repetition is about. -/
def pop? (g : OpenGroup) : Option (Regex × OpenGroup) :=
  match g.parts with
  | .expr e :: parts => some (e, { g with parts := parts })
  | _ => none

end OpenGroup

/-- A pattern that is being read: the flags in force, the names of groups, the innermost group and
those around it. -/
structure Reading where
  flags : Flags
  names : List Text
  group : OpenGroup
  outer : List OpenGroup
  deriving DecidableEq, Repr

namespace Reading

def start : Reading := ⟨{}, [], .start {}, []⟩

def push (r : Reading) (e : Regex) : Reading := { r with group := r.group.push e }

/-- Opens a group in which other flags may hold. -/
def openGroup (r : Reading) (f : Flags) : Reading :=
  { r with flags := f, group := .start r.flags, outer := r.group :: r.outer }

/-- Closes the innermost group. -/
def closeGroup? (r : Reading) : Option Reading :=
  match r.outer with
  | [] => none
  | o :: outer =>
    some { r with flags := r.group.flags, group := o.push r.group.close, outer := outer }

/-- The expression of an item. -/
def itemRegex? (f : Flags) : Item → Option Regex
  | .literal c => some (.set (foldCase f (.single c)))
  | .set s => (allowed? f s).map .set
  | .look l => some (.look l)

/-- The expression for `.`, which without Unicode is not allowed. -/
def dot? (f : Flags) : Option Regex :=
  if !f.unicode then none
  else if f.dotAll then some (.set .all)
  else if f.crlf then some (.set (.compl (.table (.read ["a d"]))))
  else some (.set (.compl (.single '\n')))

def lineStart (f : Flags) : Regex := .look (if f.multiLine then .lineStart f.crlf else .textStart)

def lineEnd (f : Flags) : Regex := .look (if f.multiLine then .lineEnd f.crlf else .textEnd)

def isNameChar (first : Bool) (c : Char) : Bool :=
  c == '_' || Unicode.Property.alphabetic.contains c.toNat ||
    (!first && (c == '.' || c == '[' || c == ']' || Unicode.Category.number.contains c.toNat))

/-- Reads the name of a group up to `>`; no two groups have one name. -/
def groupName? (r : Reading) (t : Text) : Option (Reading × Text) :=
  let (name, rest) := t.span fun c => c != '>'
  match name, rest with
  | c :: cs, _ :: rest =>
    if isNameChar true c && cs.all (isNameChar false) && !r.names.contains name then
      some ({ r with names := name :: r.names }, rest)
    else none
  | _, _ => none

/-- Reads what follows an opening parenthesis. -/
def group? (r : Reading) (t : Text) : Option (Reading × Text) :=
  match skip r.flags t with
  | '?' :: 'P' :: '<' :: t => (r.groupName? t).map fun (r, t) => (r.openGroup r.flags, t)
  | '?' :: '<' :: '=' :: _ | '?' :: '<' :: '!' :: _ => none
  | '?' :: '<' :: t => (r.groupName? t).map fun (r, t) => (r.openGroup r.flags, t)
  | '?' :: t =>
    match flagChanges? false false [] t with
    | none => none
    | some (changes, ':', t) => some (r.openGroup (r.flags.setAll changes), t)
    | some (changes, _, t) =>
      if changes.isEmpty then none
      else
        some ({ r with
          flags := r.flags.setAll changes
          group := { r.group with parts := .flags :: r.group.parts } }, t)
  | t => some (r.openGroup r.flags, t)

/-- Repeats the last item. A `?` right after the operator turns its preference round. -/
def repeat? (r : Reading) (least : Nat) (most : Option Nat) (t : Text) :
    Option (Reading × Text) := do
  let (e, group) ← r.group.pop?
  let (lazy, t) := match t with
    | '?' :: t => (true, t)
    | t => (false, t)
  let greedy := lazy == r.flags.swapGreed
  return ({ r with group := group.push (.repeated e least most greedy) }, t)

/-- Reads the numbers of a repetition after `{`. -/
def counts? (f : Flags) (t : Text) : Option (Nat × Option Nat × Text) := do
  let (least, t) ← decimal? f (skip f t)
  match t with
  | '}' :: t => return (least, some least, skip f t)
  | ',' :: t =>
    match skip f t with
    | '}' :: t => return (least, none, skip f t)
    | t =>
      let (most, t) ← decimal? f t
      match t with
      | '}' :: t => if least ≤ most then return (least, some most, skip f t) else none
      | _ => none
  | _ => none

/-- Reads one piece of a pattern, which begins with `c`. -/
def step? (r : Reading) (c : Char) (t : Text) : Option (Reading × Text) :=
  match c with
  | '(' => r.group? t
  | ')' => r.closeGroup?.map fun r => (r, t)
  | '|' => some ({ r with group := r.group.nextBranch }, t)
  | '[' => (class? r.flags t).map fun (s, t) => (r.push (.set s), t)
  | '?' => r.repeat? 0 (some 1) t
  | '*' => r.repeat? 0 none t
  | '+' => r.repeat? 1 none t
  | '{' => do
    let (least, most, t) ← counts? r.flags t
    r.repeat? least most t
  | '.' => (dot? r.flags).map fun e => (r.push e, t)
  | '^' => some (r.push (lineStart r.flags), t)
  | '$' => some (r.push (lineEnd r.flags), t)
  | '\\' => do
    let (item, t) ← escape? r.flags t
    return (r.push (← itemRegex? r.flags item), t)
  | c => (itemRegex? r.flags (.literal c)).map fun e => (r.push e, t)

/-- Reads a pattern to its end. -/
def finish? (r : Reading) (t : Text) : Option Regex :=
  match skip r.flags t with
  | [] => if r.outer.isEmpty then some r.group.close else none
  | c :: rest =>
    match r.step? c rest with
    | none => none
    | some (r, rest') => if rest'.length < t.length then r.finish? rest' else none
termination_by t.length

end Reading

/-- Reads a pattern; none if it is not valid. -/
def parse? (t : Text) : Option Regex := Reading.start.finish? t

/-- Reads and compiles a pattern. -/
def Program.ofPattern? (t : Text) : Option Program := (parse? t).bind compile?

end StyleScope.Regex
