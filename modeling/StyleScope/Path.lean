import StyleScope.Text.Blank
import StyleScope.Text.Search

/-!
Paths are texts whose segments are parted by `/`. Empty segments and `.` have no meaning, except
for a leading `.`; `..` is a component of its own and is not resolved here.
-/

namespace StyleScope

/-- A path as it is written. -/
abbrev Path := Text

/-- A component of a path. The order of the constructors is the order of components. -/
inductive PathComponent where
  | root
  | current
  | parent
  | normal (name : Text)
  deriving DecidableEq, Repr

namespace PathComponent

def rank : PathComponent → Nat
  | root => 0
  | current => 1
  | parent => 2
  | normal _ => 3

def compare (a b : PathComponent) : Ordering :=
  match a, b with
  | normal x, normal y => compareOn id (x.map Char.toNat) (y.map Char.toNat)
  | a, b => compareOn rank a b

end PathComponent

namespace Path

def isAbsolute (p : Path) : Bool := p.head? == some '/'

/-- Whether a segment has no meaning. -/
def isVoid (segment : Text) : Bool := segment == [] || segment == ['.']

def component (segment : Text) : PathComponent :=
  if segment = ['.', '.'] then .parent else .normal segment

/-- A path taken apart: what it begins with, and the segments after that. -/
structure Split where
  head : Option PathComponent
  body : List Text
  deriving DecidableEq, Repr

def split (p : Path) : Split :=
  match Text.splitOn '/' p with
  | [] :: body => ⟨if isAbsolute p then some .root else none, body⟩
  | ['.'] :: body => ⟨some .current, body⟩
  | body => ⟨none, body⟩

/-- The path written from its parts. -/
def Split.toPath (s : Split) : Path :=
  match s.head, s.body with
  | some .root, body => '/' :: Text.join ['/'] body
  | some _, [] => ['.']
  | some _, body => '.' :: '/' :: Text.join ['/'] body
  | none, body => Text.join ['/'] body

/-- The components of a path. -/
def components (p : Path) : List PathComponent :=
  let s := split p
  s.head.toList ++ (s.body.filter fun segment => !isVoid segment).map component

/-- Whether two paths have the same components. -/
def same (a b : Path) : Bool := components a == components b

/-- Compares two lists of components. -/
def compareComponents : List PathComponent → List PathComponent → Ordering
  | [], [] => .eq
  | [], _ :: _ => .lt
  | _ :: _, [] => .gt
  | a :: as, b :: bs => (a.compare b).then (compareComponents as bs)

/-- The order of paths, component by component. -/
def le (a b : Path) : Bool := (compareComponents (components a) (components b)).isLE

/-- The path that `q` names when it is looked up from `p`. -/
def join (p q : Path) : Path :=
  if isAbsolute q then q
  else if p.isEmpty || p.getLast? == some '/' then p ++ q
  else p ++ '/' :: q

/-- The path without its last component; none at the root and for the empty path. -/
def parent? (p : Path) : Option Path :=
  let s := split p
  match dropTailWhile isVoid s.body with
  | [] =>
    match s.head with
    | some .current => some []
    | _ => none
  | body => some { s with body := dropTailWhile isVoid body.dropLast }.toPath

/-- The last component, if it is a name. -/
def fileName? (p : Path) : Option Text :=
  match (components p).getLast? with
  | some (.normal name) => some name
  | _ => none

/-- The file name up to its last dot, unless it has none or begins with it. -/
def fileStem? (p : Path) : Option Text :=
  (fileName? p).map fun name =>
    match Text.splitLast? '.' name with
    | none | some ([], _) => name
    | some (stem, _) => stem

/-- Drops `n` components. -/
def dropComponents : Nat → List Text → List Text
  | 0, body => body.dropWhile isVoid
  | _ + 1, [] => []
  | n + 1, segment :: body =>
    if isVoid segment then dropComponents (n + 1) body else dropComponents n body

/-- The rest of a path after the components of `base`, if it begins with them. -/
def relativeTo? (p base : Path) : Option Path :=
  let s := split p
  let bs := components base
  if bs.isPrefixOf (components p) then
    if bs.isEmpty then some { s with body := dropTailWhile isVoid s.body }.toPath
    else
      let body := dropComponents (bs.length - s.head.toList.length) s.body
      some (Text.join ['/'] (dropTailWhile isVoid body))
  else none

end Path
end StyleScope
