import StyleScope.Tiling

/-!
Tokens tell apart only what shapes a style sheet: brackets, separators, at-keywords, comments and
strings. Every other run of characters is a word.
-/

namespace StyleScope

/-- The kinds of token. -/
inductive TokenKind where
  | whitespace
  | comment
  | string
  | leftBrace
  | rightBrace
  | leftParen
  | rightParen
  | leftBracket
  | rightBracket
  | semicolon
  | comma
  | colon
  | atKeyword
  | atSign
  | slash
  | escape
  | word
  | endOfFile
  | invalid
  deriving DecidableEq, Repr

namespace TokenKind

/-- How a message names the kind. -/
def name : TokenKind → String
  | whitespace => "whitespace"
  | comment => "comment"
  | string => "string"
  | leftBrace => "'\x7b'"
  | rightBrace => "'\x7d'"
  | leftParen => "'('"
  | rightParen => "')'"
  | leftBracket => "'['"
  | rightBracket => "']'"
  | semicolon => "';'"
  | comma => "','"
  | colon => "':'"
  | atKeyword => "at-keyword"
  | atSign => "'@'"
  | slash => "'/'"
  | escape => "escape"
  | word => "text"
  | endOfFile => "end of file"
  | invalid => "invalid token"

/-- Whether tokens of the kind carry no structure. -/
def isTrivia : TokenKind → Bool
  | whitespace | comment => true
  | _ => false

end TokenKind

/-- A token is a piece of the source. -/
abbrev Token := Piece TokenKind

namespace Token

/-- Whether an unescaped `quote` occurs; `escaped` says that the next character is taken as it
stands. -/
def hasClosingQuote (quote : Char) : Bool → Text → Bool
  | _, [] => false
  | true, _ :: t => hasClosingQuote quote false t
  | false, c :: t =>
    if c = '\\' then hasClosingQuote quote true t
    else c == quote || hasClosingQuote quote false t

/-- Whether the text of a string token ends with its closing quote. -/
def isClosedString : Text → Bool
  | [] => false
  | quote :: t => hasClosingQuote quote false t

/-- Whether the text of a comment token ends with a `*/` of its own. -/
def isClosedComment (t : Text) : Bool := 4 ≤ t.size && ['*', '/'].isSuffixOf t

end Token
end StyleScope
