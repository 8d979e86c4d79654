import StyleScope.Unicode.CharSet

/-!
Regular expressions without captures: a match is told by where it begins and where it ends. Of two
ways to match from the same place the earlier alternative wins, and a repetition says whether it
prefers another turn or to go on.
-/

namespace StyleScope

/-- A position relative to words. -/
inductive WordEdge where
  | boundary
  | noBoundary
  | start
  | stop
  /-- No word character before. -/
  | startHalf
  /-- No word character after. -/
  | stopHalf
  deriving DecidableEq, Repr

/-- A condition on a position. -/
inductive Look where
  | textStart
  | textEnd
  /-- At the start of a line; with `crlf`, `\r\n` is one line end and `\r` another. -/
  | lineStart (crlf : Bool)
  | lineEnd (crlf : Bool)
  | word (edge : WordEdge) (unicode : Bool)
  deriving DecidableEq, Repr

namespace Look

def isWordChar (unicode : Bool) (c : Char) : Bool :=
  if unicode then Unicode.Property.word.contains c.toNat else c.isAlphanum || c == '_'

/-- Whether the condition holds between two characters; none stands for an end of the text. -/
def holds (look : Look) (before after : Option Char) : Bool :=
  match look with
  | textStart => before.isNone
  | textEnd => after.isNone
  | lineStart false => before.isNone || before == some '\n'
  | lineEnd false => after.isNone || after == some '\n'
  | lineStart true =>
    before.isNone || before == some '\n' || (before == some '\r' && after != some '\n')
  | lineEnd true =>
    after.isNone || after == some '\r' || (after == some '\n' && before != some '\r')
  | word edge unicode =>
    let a := before.any (isWordChar unicode)
    let b := after.any (isWordChar unicode)
    match edge with
    | .boundary => a != b
    | .noBoundary => a == b
    | .start => !a && b
    | .stop => a && !b
    | .startHalf => !a
    | .stopHalf => !b

end Look

/-- A regular expression. -/
inductive Regex where
  /-- Matches the empty text. -/
  | empty
  /-- Matches one character of the set. -/
  | set (s : CharSet)
  | look (l : Look)
  | concat (a b : Regex)
  /-- Matches `a` or else `b`. -/
  | alt (a b : Regex)
  | repeated (e : Regex) (least : Nat) (most : Option Nat) (greedy : Bool)
  deriving DecidableEq, Repr

namespace Regex

/-- One expression after another. -/
def ofList (es : List Regex) : Regex := es.foldr concat empty

/-- The expression that matches exactly a text. -/
def literal (t : Text) : Regex := ofList (t.map fun c => set (.single c))

/-- Whether the empty text may match. -/
def nullable : Regex → Bool
  | empty | look _ => true
  | set _ => false
  | concat a b => a.nullable && b.nullable
  | alt a b => a.nullable || b.nullable
  | repeated e least _ _ => least == 0 || e.nullable

end Regex
end StyleScope
