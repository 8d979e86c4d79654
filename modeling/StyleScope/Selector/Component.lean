import StyleScope.Text.Blank
import StyleScope.Token.Lexer

/-!
A selector is tiled into simple selectors, combinators and white space. The cut is lexical: a
functional pseudo-class is one component together with its argument, and every component keeps its
text, so a selector can be put together again with one of them changed.
-/

namespace StyleScope

/-- The kinds of component. -/
inductive ComponentKind where
  | typeName
  | universal
  | className
  | id
  | attribute
  | pseudoClass
  | pseudoElement
  | nesting
  | combinator
  | whitespace
  | comment
  | comma
  | other
  deriving DecidableEq, Repr

/-- A component is a piece of a selector. -/
abbrev Component := Piece ComponentKind

namespace Component

open Token (isSpace runLength commentLength)

def isIdentChar (c : Char) : Bool := c.isAlphanum || c == '-' || c == '_' || 128 ≤ c.toNat

/-- How many characters an identifier takes; a backslash takes the character after it along. -/
def identLength : Text → Nat
  | [] => 0
  | ['\\'] => 1
  | '\\' :: _ :: t => identLength t + 2
  | c :: t => if isIdentChar c then identLength t + 1 else 0

/-- How many characters there are through the closer that matches the first opener, or to the end;
strings and escaped characters are passed over. -/
def balancedLength (opener closer : Char) : Nat → Option Char → Text → Nat
  | _, _, [] => 0
  | _, _, ['\\'] => 1
  | depth, quote, '\\' :: _ :: t => balancedLength opener closer depth quote t + 2
  | depth, quote, c :: t =>
    if quote = some c then balancedLength opener closer depth none t + 1
    else if quote.isSome then balancedLength opener closer depth quote t + 1
    else if c = '"' || c = '\'' then balancedLength opener closer depth (some c) t + 1
    else if c = opener then balancedLength opener closer (depth + 1) quote t + 1
    else if c = closer then
      if depth ≤ 1 then 1 else balancedLength opener closer (depth - 1) quote t + 1
    else balancedLength opener closer depth quote t + 1

/-- How many characters a visible combinator takes with the spaces after it; none if there is no
combinator. -/
def combinatorLength : Text → Nat
  | '>' :: t | '+' :: t | '~' :: t => runLength isSpace t + 1
  | '|' :: '|' :: t => runLength isSpace t + 2
  | _ => 0

/-- How many characters the bar takes that parts a namespace from a name. -/
def barLength : Text → Nat
  | '|' :: '|' :: _ => 0
  | '|' :: _ => 1
  | _ => 0

/-- How many characters the argument of a functional pseudo-class takes. -/
def argumentLength (t : Text) : Nat :=
  match t with
  | '(' :: _ => balancedLength '(' ')' 0 none t
  | _ => 0

/-- How many characters a name takes with its argument. -/
def functionLength (t : Text) : Nat :=
  identLength t + argumentLength (t.drop (identLength t))

/-- How many characters follow `*`: a bar, then a name or another `*`. -/
def universalLength (t : Text) : Nat :=
  if barLength t = 0 then 0
  else
    let name := t.drop 1
    match identLength name, name with
    | 0, '*' :: _ => 2
    | n, _ => n + 1

/-- The component that begins with `c`, before white space at the ends is told apart. -/
def classify (c : Char) (rest : Text) : ComponentKind × Nat :=
  match c with
  | '>' | '+' | '~' => (.combinator, runLength isSpace rest)
  | '.' => (.className, identLength rest)
  | '#' => (.id, identLength rest)
  | '[' => (.attribute, balancedLength '[' ']' 0 none (c :: rest) - 1)
  | ':' =>
    match rest with
    | ':' :: name => (.pseudoElement, functionLength name + 1)
    | _ => (.pseudoClass, functionLength rest)
  | '&' => (.nesting, 0)
  | ',' => (.comma, 0)
  | '*' => (.universal, universalLength rest)
  | _ =>
    if isSpace c then
      let n := runLength isSpace rest
      match rest.drop n with
      | ',' :: _ => (.whitespace, n)
      | t => (.combinator, n + combinatorLength t)
    else if combinatorLength (c :: rest) ≠ 0 then (.combinator, combinatorLength (c :: rest) - 1)
    else if c = '/' && rest.head? = some '*' then (.comment, commentLength (rest.drop 1) + 1)
    else
      let n := identLength (c :: rest)
      if n = 0 then (.other, 0)
      else
        let t := (c :: rest).drop n
        if barLength t = 0 then (.typeName, n - 1)
        else
          match t.drop 1 with
          | '*' :: _ => (.universal, n + 1)
          | name => (.typeName, n + identLength name)

/-- Blanks at an end of the selector are no combinator. -/
def classifyAt (offset : Nat) (c : Char) (rest : Text) : ComponentKind × Nat :=
  let (kind, n) := classify c rest
  if kind = .combinator && (offset == 0 || (rest.drop n).isEmpty) &&
      (Text.trim (c :: rest.take n)).isEmpty then
    (.whitespace, n)
  else (kind, n)

/-- The components of a selector. -/
def split (t : Text) : List Component := tile classifyAt 0 t

/-- Whether this is a type selector with exactly the given name. -/
def isTypeNamed (name : Text) (c : Component) : Bool := c.kind = .typeName && c.text == name

end Component
end StyleScope
