import StyleScope.Regex.Program

/-!
A program is run on all its preferred ways at once. The threads at a position are the places that
wait for a character or accept, in the order of preference; a thread that accepts ends those it is
preferred to. No place is entered twice at one position.
-/

namespace StyleScope.Regex.Program

/-- The places reached from `todo` without taking a character, in the order of preference. `seen`
are the places already entered, and `fuel` bounds the number of steps. -/
def reach (p : Program) (before after : Option Char) :
    (fuel : Nat) → (todo seen : List Nat) → List Nat
  | 0, _, _ => []
  | _, [], _ => []
  | fuel + 1, pc :: todo, seen =>
    if seen.contains pc then p.reach before after fuel todo seen
    else
      match p.code[pc]? with
      | some (.split a b) => p.reach before after fuel (a :: b :: todo) (pc :: seen)
      | some (.look l next) =>
        if l.holds before after then p.reach before after fuel (next :: todo) (pc :: seen)
        else p.reach before after fuel todo (pc :: seen)
      | _ => pc :: p.reach before after fuel todo (pc :: seen)

/-- The threads that start at the given places. Every place is entered once and adds at most two to
do, which bounds the steps. -/
def threads (p : Program) (before after : Option Char) (starts : List Nat) : List Nat :=
  p.reach before after (starts.length + 2 * p.code.size + 1) starts []

/-- Whether a thread is at the end of the program. -/
def accepts (p : Program) (pc : Nat) : Bool := p.code[pc]? == some .accept

/-- Where a thread goes on after a character. -/
def advance? (p : Program) (c : Char) (pc : Nat) : Option Nat :=
  match p.code[pc]? with
  | some (.char s next) => if s.contains c then some next else none
  | _ => none

/-- Runs threads on a text and gives the length of the preferred match; `best` is the one known so
far, and `taken` counts the characters taken. -/
def runFrom (p : Program) (before : Option Char) (starts : List Nat) (taken : Nat)
    (best : Option Nat) (t : Text) : Option Nat :=
  let here := p.threads before t.head? starts
  let live := here.takeWhile fun pc => !p.accepts pc
  let best := if live.length < here.length then some taken else best
  match t with
  | [] => best
  | c :: t =>
    match live.filterMap (p.advance? c) with
    | [] => best
    | starts => p.runFrom (some c) starts (taken + 1) best t

/-- The length in characters of the match that begins where `t` begins. -/
def matchLength? (p : Program) (before : Option Char) (t : Text) : Option Nat :=
  p.runFrom before [p.entry] 0 none t

/-- How many characters precede the leftmost match. -/
def find? (p : Program) (before : Option Char) : Text → Option Nat
  | [] => (p.matchLength? before []).map fun _ => 0
  | c :: t =>
    if (p.matchLength? before (c :: t)).isSome then some 0
    else (p.find? (some c) t).map (· + 1)

/-- Whether there is a match anywhere. -/
def isMatch (p : Program) (t : Text) : Bool := (p.find? none t).isSome

/-- Whether the leftmost match begins at the start. -/
def matchesAtStart (p : Program) (t : Text) : Bool := (p.matchLength? none t).isSome

/-- Replaces every match. `skip` characters of a replaced match are still to be passed over;
`joined` says that a match ends here, and an empty match there is none. -/
def replaceFrom (p : Program) (r : Text) (before : Option Char) (joined : Bool) :
    Nat → Text → Text
  | 0, [] => if !joined && (p.matchLength? before []).isSome then r else []
  | _ + 1, [] => []
  | skip + 1, c :: t => p.replaceFrom r (some c) joined skip t
  | 0, c :: t =>
    match p.matchLength? before (c :: t) with
    | some (n + 1) => r ++ p.replaceFrom r (some c) true n t
    | some 0 =>
      if joined then c :: p.replaceFrom r (some c) false 0 t
      else r ++ c :: p.replaceFrom r (some c) false 0 t
    | none => c :: p.replaceFrom r (some c) false 0 t

/-- Replaces every match, from left to right without overlap. -/
def replaceAll (p : Program) (r t : Text) : Text := p.replaceFrom r none false 0 t

/-- Replaces the leftmost match of a text that follows `before`. -/
def replaceFirstFrom (p : Program) (r : Text) (before : Option Char) : Text → Text
  | [] => if (p.matchLength? before []).isSome then r else []
  | c :: t =>
    match p.matchLength? before (c :: t) with
    | some n => r ++ (c :: t).drop n
    | none => c :: p.replaceFirstFrom r (some c) t

/-- Replaces the leftmost match. -/
def replaceFirst (p : Program) (r t : Text) : Text := p.replaceFirstFrom r none t

end StyleScope.Regex.Program
