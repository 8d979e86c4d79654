import StyleScope.Sheet.Basic
import StyleScope.Sheet.ParseError
import StyleScope.Sheet.Statement
import StyleScope.Text.Search

/-!
Preludes, the tokens before a block or a semicolon: what of them is content, which faults they have,
and how they are read as a declaration.
-/

namespace StyleScope.Prelude

/-- The prelude without the white space and comments at its end. -/
def content (ts : List Token) : List Token := dropTailWhile (·.kind.isTrivia) ts

/-- The white space and comments at the end of the prelude. -/
def trailing (ts : List Token) : List Token := ts.drop (content ts).length

/-- The span of a run of tokens that begins at `start`. -/
def spanFrom (start : Nat) (ts : List Token) : Span := ⟨start, start + (Piece.textOf ts).size⟩

/-- A string or comment that does not end. -/
def unended? (t : Token) : Option ParseError :=
  match t.kind with
  | .string => if Token.isClosedString t.text then none else some ⟨.unclosedString, t.span⟩
  | .comment => if Token.isClosedComment t.text then none else some ⟨.unclosedComment, t.span⟩
  | _ => none

/-- The brackets left open, the innermost first. A closing bracket closes the nearest open one,
whatever its shape. -/
def openBrackets : List Token → List Token → List Token
  | stack, [] => stack
  | stack, t :: ts =>
    match t.kind with
    | .leftParen | .leftBracket => openBrackets (t :: stack) ts
    | .rightParen | .rightBracket => openBrackets stack.tail ts
    | _ => openBrackets stack ts

/-- The fault of a bracket that is left open. -/
def unclosedBracket (t : Token) : ParseError :=
  ⟨.unclosedBracket (if t.kind = .leftParen then ')' else ']'), t.span⟩

/-- The faults inside a prelude: unended strings and comments, then open brackets. -/
def errors (ts : List Token) : List ParseError :=
  ts.filterMap unended? ++ (openBrackets [] ts).reverse.map unclosedBracket

/-- The tokens before and after the first colon outside brackets. -/
def splitColon? : Nat → List Token → Option (List Token × List Token)
  | _, [] => none
  | depth, t :: ts =>
    let deeper (depth : Nat) := (splitColon? depth ts).map fun (a, b) => (t :: a, b)
    match t.kind with
    | .colon => if depth = 0 then some ([], ts) else deeper depth
    | .leftParen | .leftBracket => deeper (depth + 1)
    | .rightParen | .rightBracket => deeper (depth - 1)
    | _ => deeper depth

end Prelude

namespace Declaration

/-- Reads a value, which may end in `!important`. -/
def ofTexts (property value : Text) : Declaration :=
  let value := Text.trim value
  match Text.splitLast? '!' value with
  | some (before, after) =>
    if Text.eqIgnoringCase (Text.trim after) "important".toList then
      ⟨Text.trim property, Text.trimEnd before, true⟩
    else ⟨Text.trim property, value, false⟩
  | none => ⟨Text.trim property, value, false⟩

/-- Reads tokens as a declaration, if they have a colon outside brackets. -/
def ofTokens? (ts : List Token) : Option Declaration :=
  (Prelude.splitColon? 0 ts).map fun (a, b) => ofTexts (Piece.textOf a) (Piece.textOf b)

end Declaration
end StyleScope
