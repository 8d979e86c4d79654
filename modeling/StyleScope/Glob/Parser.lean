import StyleScope.Glob.Basic

/-!
A glob is read from left to right. `**` stands for directories if it fills the place between two
slashes, or between a slash and an end; everywhere else it is like `*`. Braces hold alternatives
and may be nested, and brackets hold the bytes that may stand in one place.
-/

namespace StyleScope.Glob

/-! ### Bytes in brackets -/

/-- The ranges of characters that brackets hold, given the first of them. A dash extends the range
before it, unless nothing follows. -/
def charRanges (range : Char × Char) : Text → Option (List (Char × Char))
  | [] => some [range]
  | ['-'] => some [range, ('-', '-')]
  | '-' :: c :: t => if c < range.1 then none else charRanges (range.1, c) t
  | c :: t => (charRanges (c, c) t).map (range :: ·)

/-- The bytes of a range of characters. Of a character in several bytes, all but the one next to the
dash stand for themselves. -/
def byteRanges (range : Char × Char) : List (UInt8 × UInt8) :=
  let low := String.utf8EncodeChar range.1
  let high := String.utf8EncodeChar range.2
  let single (b : UInt8) : UInt8 × UInt8 := (b, b)
  if range.1 = range.2 then low.map single
  else
    match low.getLast?, high with
    | some b, c :: high => low.dropLast.map single ++ (b, c) :: high.map single
    | _, _ => []

/-- Reads what follows an opening bracket. A bracket that comes first does not close. Also gives the
number of characters read. -/
def brackets? (t : Text) : Option (Glob × Nat) := do
  let negated := t.head? == some '!' || t.head? == some '^'
  let t := if negated then t.drop 1 else t
  let first ← t.head?
  let body := (t.drop 1).takeWhile fun c => c != ']'
  if body.length + 1 < t.length then
    let ranges ← charRanges (first, first) body
    return (.byteIn negated (ranges.flatMap byteRanges),
      body.length + 2 + (if negated then 1 else 0))
  else none

/-! ### The state of a reader -/

/-- What has been read of a glob. -/
structure Draft where
  /-- The parts of the branch that is being read, the last one first. -/
  parts : List Glob := []
  /-- For each open brace, from the inside out: the branches read so far, the last one first, and
  the parts before the brace. -/
  braces : List (List Glob × List Glob) := []
  /-- The character read last. -/
  last : Option Char := none
  deriving DecidableEq, Repr

namespace Draft

/-- Takes in a part that ends with the character `c`. -/
def push (p : Draft) (g : Glob) (c : Char) : Draft :=
  { p with parts := g :: p.parts, last := some c }

def isNested (p : Draft) : Bool := !p.braces.isEmpty

/-- The branch that is being read. -/
def branch (p : Draft) : Glob := concat p.parts.reverse

def openBrace (p : Draft) : Draft := ⟨[], ([], p.parts) :: p.braces, some '{'⟩

/-- Begins the next branch; outside of braces, a comma is a character like others. -/
def comma (p : Draft) : Draft :=
  match p.braces with
  | [] => p.push (.literal ',') ','
  | (branches, before) :: rest => ⟨[], (p.branch :: branches, before) :: rest, some ','⟩

def closeBrace? (p : Draft) : Option Draft :=
  match p.braces with
  | [] => none
  | (branches, before) :: rest =>
    some ⟨choice (p.branch :: branches).reverse :: before, rest, some '}'⟩

/-- Takes in `**` as directories, given the character after it; none if it is only a `*`. -/
def directories? (p : Draft) (next : Option Char) : Option Draft :=
  let atEnd := next == none || (p.isNested && (next == some ',' || next == some '}'))
  let last := if next == some '/' then some '/' else some '*'
  match p.parts with
  | [] =>
    if next == none || next == some '/' then some { p with parts := [leading], last := last }
    else none
  | part :: parts =>
    let atStart := p.last == some '/' ||
      (p.isNested && (p.last == some ',' || p.last == some '{'))
    if atStart && (atEnd || next == some '/') then
      let part := if part = leading then leading
        else if part = trailing || atEnd then trailing
        else between
      some { p with parts := part :: parts, last := last }
    else none

/-- The glob, if all braces are closed. A glob that is nothing but `**`, without braces, matches
everything. -/
def finish? (p : Draft) : Option Glob :=
  if p.isNested then none
  else if p.parts = [leading] && p.last != some '}' then some star
  else some p.branch

end Draft

/-- Reads the rest of a glob. -/
def parseFrom (p : Draft) (t : Text) : Option Glob :=
  match t with
  | [] => p.finish?
  | '*' :: '*' :: t =>
    match p.directories? t.head? with
    | some p => parseFrom p (if t.head? = some '/' then t.drop 1 else t)
    | none => parseFrom (p.push star '*') t
  | '[' :: t =>
    match brackets? t with
    | some (g, n) => parseFrom (p.push g ']') (t.drop n)
    | none => none
  | '}' :: t =>
    match p.closeBrace? with
    | some p => parseFrom p t
    | none => none
  | ['\\'] => none
  | '\\' :: c :: t => parseFrom (p.push (literal c) c) t
  | '?' :: t => parseFrom (p.push any '?') t
  | '*' :: t => parseFrom (p.push star '*') t
  | '{' :: t => parseFrom p.openBrace t
  | ',' :: t => parseFrom p.comma t
  | c :: t => parseFrom (p.push (literal c) c) t
termination_by t.length
decreasing_by all_goals grind

/-- Reads a glob. -/
def parse? (t : Text) : Option Glob := parseFrom {} t

end StyleScope.Glob
