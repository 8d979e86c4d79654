import StyleScope.Regex.Cost

/-!
An expression is compiled to a program whose instructions name the ones to go on with, in the order
of preference. Repetitions are laid out so that a turn which consumes nothing cannot be followed by
another one.
-/

namespace StyleScope.Regex

/-- An instruction; numbers are places in the program. -/
inductive Inst where
  /-- Takes a character of the set. -/
  | char (s : CharSet) (next : Nat)
  | look (l : Look) (next : Nat)
  /-- Goes on at `first`, or else at `second`. -/
  | split (first second : Nat)
  | accept
  deriving DecidableEq, Repr

/-- Code, and the place where it is entered. -/
structure Block where
  entry : Nat
  code : List Inst
  deriving DecidableEq, Repr

/-- A rule that lays out code from place `base` on, which goes on at `next`. -/
abbrev Layout := Nat → Nat → Block

namespace Layout

/-- A choice between another turn and going on. -/
def choice (greedy : Bool) (turn next : Nat) : Inst :=
  if greedy then .split turn next else .split next turn

/-- `a`, then `b`. -/
def seq (a b : Layout) : Layout := fun base next =>
  let y := b base next
  let x := a (base + y.code.length) y.entry
  ⟨x.entry, y.code ++ x.code⟩

/-- `x`, `n` times. -/
def copies (x : Layout) : Nat → Layout
  | 0 => fun _ next => ⟨next, []⟩
  | n + 1 => seq x (copies x n)

/-- `x`, at most `n` times; each turn may be the last. -/
def atMost (greedy : Bool) (x : Layout) : Nat → Layout
  | 0 => fun _ next => ⟨next, []⟩
  | n + 1 => fun base next =>
    let rest := atMost greedy x n base next
    let fork := base + rest.code.length
    let turn := x (fork + 1) rest.entry
    ⟨fork, rest.code ++ choice greedy turn.entry next :: turn.code⟩

/-- `x`, once or more. -/
def plus (greedy : Bool) (x : Layout) : Layout := fun base next =>
  let turn := x (base + 1) base
  ⟨turn.entry, choice greedy turn.entry next :: turn.code⟩

/-- `x`, any number of times. Where a turn can be empty, the way in is apart from the way back. -/
def star (greedy nullable : Bool) (x : Layout) : Layout := fun base next =>
  if nullable then
    let turn := x (base + 2) base
    ⟨base + 1, choice greedy turn.entry next :: choice greedy turn.entry next :: turn.code⟩
  else
    let turn := x (base + 1) base
    ⟨base, choice greedy turn.entry next :: turn.code⟩

end Layout

open Layout in
/-- The code of an expression. -/
def layout : Regex → Layout
  | empty => fun _ next => ⟨next, []⟩
  | set s => fun base next => ⟨base, [.char s next]⟩
  | look l => fun base next => ⟨base, [.look l next]⟩
  | concat a b => seq a.layout b.layout
  | alt a b => fun base next =>
    let x := a.layout (base + 1) next
    let y := b.layout (base + 1 + x.code.length) next
    ⟨base, .split x.entry y.entry :: x.code ++ y.code⟩
  | repeated e 0 none greedy => star greedy e.nullable e.layout
  | repeated e (n + 1) none greedy => seq (copies e.layout n) (plus greedy e.layout)
  | repeated e n (some m) greedy => seq (copies e.layout n) (atMost greedy e.layout (m - n))

/-- A compiled expression. -/
structure Program where
  code : Array Inst
  entry : Nat
  deriving DecidableEq, Repr

/-- Compiles an expression, if its code is not too large. The program ends at its first place. -/
def compile? (e : Regex) : Option Program :=
  if e.cost ≤ costLimit then
    let block := e.layout 1 0
    some ⟨(Inst.accept :: block.code).toArray, block.entry⟩
  else none

end StyleScope.Regex
