import StyleScope.Regex.Match
import StyleScope.Regex.Parser
import StyleScope.Text.Search

/-!
How a token of a selector is recognised: by a regular expression, or as a literal text.
-/

namespace StyleScope

/-- A pattern as it is given. -/
inductive Pattern where
  | regex (source : Text)
  | literal (text : Text)
  deriving DecidableEq, Repr

/-- A pattern that is ready for use. -/
inductive Matcher where
  | regex (program : Regex.Program)
  | literal (text : Text)
  deriving DecidableEq, Repr

/-- Compiles a pattern; none if its regular expression is not valid. -/
def Pattern.compile? : Pattern → Option Matcher
  | regex source => (Regex.Program.ofPattern? source).map .regex
  | literal text => some (.literal text)

namespace Matcher

/-- Whether the pattern is found anywhere. -/
def isMatch (m : Matcher) (t : Text) : Bool :=
  match m with
  | regex p => p.isMatch t
  | literal s => Text.occursIn s t

/-- Whether the leftmost match begins at the start. -/
def matchesAtStart (m : Matcher) (t : Text) : Bool :=
  match m with
  | regex p => p.matchesAtStart t
  | literal s => s.isPrefixOf t

/-- Replaces every match; the replacement is put in as it is. -/
def replaceAll (m : Matcher) (r t : Text) : Text :=
  match m with
  | regex p => p.replaceAll r t
  | literal s => Text.replaceAll s r t

/-- Replaces the leftmost match. -/
def replaceFirst (m : Matcher) (r t : Text) : Text :=
  match m with
  | regex p => p.replaceFirst r t
  | literal s => Text.replaceFirst s r t

end Matcher
end StyleScope
