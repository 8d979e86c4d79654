import StyleScope.Token.Lexer

/-!
The tokens of a style sheet are grouped into statements before anything is nested: closing braces,
comments, at-rules up to their block or semicolon, and other preludes, which are selectors or
declarations. White space and semicolons between statements are dropped.
-/

namespace StyleScope

/-- What ends a prelude. -/
inductive PreludeEnd where
  /-- A `{`, which opens a block. -/
  | block (brace : Token)
  | semicolon (mark : Token)
  /-- A `}` or the end of the file, neither of which belongs to the statement. -/
  | close
  deriving DecidableEq, Repr

/-- A group of tokens. -/
inductive Statement where
  | closeBlock (brace : Token)
  | comment (token : Token)
  | atRule (name : Token) (head : List Token) (ending : PreludeEnd)
  | qualified (head : List Token) (ending : PreludeEnd)
  deriving DecidableEq, Repr

namespace Statement

/-- How many tokens there are before a brace or a semicolon outside brackets. -/
def preludeLength : Nat → List Token → Nat
  | _, [] => 0
  | depth, t :: ts =>
    match t.kind with
    | .leftBrace | .rightBrace => 0
    | .semicolon => if depth = 0 then 0 else preludeLength depth ts + 1
    | .leftParen | .leftBracket => preludeLength (depth + 1) ts + 1
    | .rightParen | .rightBracket => preludeLength (depth - 1) ts + 1
    | _ => preludeLength depth ts + 1

/-- The end of a prelude, and the tokens after it. -/
def splitEnding : List Token → PreludeEnd × List Token
  | [] => (.close, [])
  | t :: ts =>
    match t.kind with
    | .leftBrace => (.block t, ts)
    | .semicolon => (.semicolon t, ts)
    | _ => (.close, t :: ts)

theorem length_splitEnding_le (ts : List Token) : (splitEnding ts).2.length ≤ ts.length := by
  fun_cases splitEnding ts <;> simp

/-- The statement that begins with `t`, if there is one, and the tokens after it. -/
def next (t : Token) (ts : List Token) : Option Statement × List Token :=
  match t.kind with
  | .whitespace | .semicolon => (none, ts)
  | .rightBrace => (some (closeBlock t), ts)
  | .comment => (some (comment t), ts)
  | .leftBrace => (some (qualified [] (.block t)), ts)
  | .atKeyword | .atSign =>
    let n := preludeLength 0 ts
    let (ending, rest) := splitEnding (ts.drop n)
    (some (atRule t (ts.take n) ending), rest)
  | _ =>
    let n := preludeLength 0 (t :: ts) - 1
    let (ending, rest) := splitEnding (ts.drop n)
    (some (qualified (t :: ts.take n) ending), rest)

theorem length_next_le (t : Token) (ts : List Token) : (next t ts).2.length ≤ ts.length := by
  have hdrop (n : Nat) : (splitEnding (ts.drop n)).2.length ≤ ts.length :=
    Nat.le_trans (length_splitEnding_le _) (by simp)
  fun_cases next t ts <;> simp_all <;> grind

/-- The statements of a list of tokens. -/
def ofTokens : List Token → List Statement
  | [] => []
  | t :: ts => (next t ts).1.toList ++ ofTokens (next t ts).2
termination_by ts => ts.length
decreasing_by exact Nat.lt_succ_of_le (length_next_le t ts)

end Statement
end StyleScope
