import StyleScope.Token.Basic

/-!
`classify` is the rule by which a style sheet is tiled: it looks at a character and the text after
it, and says which kind of token begins there and how many further characters belong to it.
-/

namespace StyleScope.Token

/-- The white space of style sheets. -/
def isSpace (c : Char) : Bool :=
  c == ' ' || c == '\t' || c == '\r' || c == '\n' || c == '\x0c'

/-- Characters with a meaning of their own, which end a word. -/
def isDelimiter (c : Char) : Bool :=
  isSpace c || c == '{' || c == '}' || c == '(' || c == ')' || c == '[' || c == ']' ||
    c == ';' || c == ',' || c == ':' || c == '@' || c == '/' || c == '\'' || c == '"' || c == '\\'

def isNameStart (c : Char) : Bool := c.isAlpha || c == '_' || c == '-'

def isNameChar (c : Char) : Bool := c.isAlphanum || c == '_' || c == '-'

/-- How many characters satisfy `p` before the first that does not. -/
def runLength (p : Char → Bool) (t : Text) : Nat := (t.takeWhile p).length

/-- How many characters there are up to and including the first `*/`, or to the end. -/
def commentLength : Text → Nat
  | [] => 0
  | '*' :: '/' :: _ => 2
  | _ :: t => commentLength t + 1

/-- How many characters of a string follow its opening quote. An unescaped line end stops the
string before it. -/
def stringLength (quote : Char) : Bool → Text → Nat
  | _, [] => 0
  | true, _ :: t => stringLength quote false t + 1
  | false, c :: t =>
    if c = '\\' then stringLength quote true t + 1
    else if c = '\n' then 0
    else if c = quote then 1
    else stringLength quote false t + 1

/-- The kind of the token that begins with `c`, and how many characters of `rest` it takes. -/
def classify (c : Char) (rest : Text) : TokenKind × Nat :=
  match c with
  | '{' => (.leftBrace, 0)
  | '}' => (.rightBrace, 0)
  | '(' => (.leftParen, 0)
  | ')' => (.rightParen, 0)
  | '[' => (.leftBracket, 0)
  | ']' => (.rightBracket, 0)
  | ';' => (.semicolon, 0)
  | ',' => (.comma, 0)
  | ':' => (.colon, 0)
  | '"' => (.string, stringLength '"' false rest)
  | '\'' => (.string, stringLength '\'' false rest)
  | '/' =>
    match rest with
    | '*' :: body => (.comment, commentLength body + 1)
    | _ => (.slash, 0)
  | '@' =>
    match rest with
    | d :: body =>
      if isNameStart d then (.atKeyword, runLength isNameChar body + 1) else (.atSign, 0)
    | [] => (.atSign, 0)
  | '\\' =>
    match rest with
    | d :: _ => if d = '\n' then (.invalid, 0) else (.escape, 1)
    | [] => (.invalid, 0)
  | c =>
    if isSpace c then (.whitespace, runLength isSpace rest)
    else (.word, runLength (fun d => !isDelimiter d) rest)

/-- The tokens of a text. -/
def scan (t : Text) : List Token := tile (fun _ => classify) 0 t

/-- The empty token at the end of a text. -/
def endOfFile (t : Text) : Token := ⟨.endOfFile, t.size, []⟩

/-- The tokens of a text, closed by the end of the file. -/
def scanAll (t : Text) : List Token := scan t ++ [endOfFile t]

end StyleScope.Token
