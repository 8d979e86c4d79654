import StyleScope.Span

/-!
What can be wrong with a style sheet, and how it is reported.
-/

namespace StyleScope

/-- What is wrong. -/
inductive ParseFault where
  /-- A block that the end of the file closes. -/
  | unclosedBlock (openedBy : Text)
  /-- A `}` with no block to close. -/
  | unexpectedClosingBrace
  | unclosedComment
  | unclosedString
  /-- A bracket that is still open where its prelude ends. -/
  | unclosedBracket (closer : Char)
  /-- An `@` with no name. -/
  | emptyAtRuleName
  /-- A block with nothing before it. -/
  | emptySelector
  /-- Text that is neither a rule nor a declaration. -/
  | unknownWord (word : Text)
  deriving DecidableEq, Repr

namespace ParseFault

def message : ParseFault → Text
  | unclosedBlock openedBy => "unclosed block: missing '\x7d' for ".toList ++ openedBy
  | unexpectedClosingBrace => "unexpected '\x7d'".toList
  | unclosedComment => "unclosed comment".toList
  | unclosedString => "unclosed string".toList
  | unclosedBracket closer => "unclosed bracket: expected '".toList ++ [closer, '\'']
  | emptyAtRuleName => "at-rule without a name".toList
  | emptySelector => "rule without a selector".toList
  | unknownWord word => "unknown word: ".toList ++ word

/-- A stable name for the fault. -/
def code : ParseFault → Text
  | unclosedBlock _ => "unclosed-block".toList
  | unexpectedClosingBrace => "unexpected-closing-brace".toList
  | unclosedComment => "unclosed-comment".toList
  | unclosedString => "unclosed-string".toList
  | unclosedBracket _ => "unclosed-bracket".toList
  | emptyAtRuleName => "empty-at-rule-name".toList
  | emptySelector => "empty-selector".toList
  | unknownWord _ => "unknown-word".toList

end ParseFault

/-- A fault and the span it is found at. -/
structure ParseError where
  fault : ParseFault
  span : Span
  deriving DecidableEq, Repr

end StyleScope
