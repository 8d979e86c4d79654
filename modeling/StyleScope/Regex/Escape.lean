import StyleScope.Regex.Flags

/-!
Single items of a pattern: escape sequences, property names and named ASCII classes. Case folding
closes a set under change of case before it is negated.
-/

namespace StyleScope.Regex

/-- What an item of a pattern stands for. -/
inductive Item where
  | literal (c : Char)
  | set (s : CharSet)
  | look (l : Look)
  deriving DecidableEq, Repr

/-- Closes a set under change of case, if the flags say so. -/
def foldCase (f : Flags) (s : CharSet) : CharSet :=
  if f.ignoreCase then if f.unicode then .folded s else .foldedAscii s else s

/-! ### Characters by number -/

/-- The character with a number, if there is one. -/
def charOfNat? (n : Nat) : Option Char := if n.isValidChar then some (Char.ofNat n) else none

/-- Exactly `n` hexadecimal digits. -/
def hexDigits? (f : Flags) : Nat → Text → Option (Text × Text)
  | 0, t => some ([], t)
  | _ + 1, [] => none
  | n + 1, c :: t =>
    if (Unicode.hexDigit? c).isSome then
      (hexDigits? f n (skip f t)).map fun (digits, rest) => (c :: digits, rest)
    else none

/-- A character by its number, after a letter that asks for `n` digits or for braces. Without
Unicode, two digits stand for a byte, which must be ASCII. -/
def numbered? (f : Flags) (n : Nat) (t : Text) : Option (Item × Text) :=
  match skip f t with
  | '{' :: t => do
    let (digits, rest) := takeSkipping f (fun c => c != '}') (skip f t)
    guard (!digits.isEmpty && digits.all fun c => (Unicode.hexDigit? c).isSome)
    guard (!rest.isEmpty)
    let c ← charOfNat? (Unicode.hex digits)
    return (.literal c, skip f (rest.drop 1))
  | t => do
    let (digits, rest) ← hexDigits? f n t
    let c ← charOfNat? (Unicode.hex digits)
    guard (f.unicode || n != 2 || c.toNat < 128)
    return (.literal c, rest)

/-! ### Properties -/

/-- A property name as it is looked up: in lower case, without blanks, lines and a leading `is`. -/
def normalName (t : Text) : Text :=
  let kept := t.filter fun c => c.toNat < 128 && !isBlank c && c != '_' && c != '-'
  let plain := kept.map Char.toLower
  match plain with
  | ['i', 's', 'c'] => plain
  | 'i' :: 's' :: name => name
  | _ => plain

def lookup? (named : List (List String × Unicode.Ranges)) (name : Text) : Option CharSet :=
  (named.find? fun row => row.1.contains (String.ofList name)).map fun row => .table row.2

/-- The general category with a name. -/
def category? (name : Text) : Option CharSet :=
  match String.ofList name with
  | "any" => some .all
  | "ascii" => some (.range 0 127)
  | "cn" | "unassigned" => some (.compl (.table Unicode.Category.assigned))
  | "c" | "other" =>
    some (.union (.compl (.table Unicode.Category.assigned))
      (.table (Unicode.Category.control ++ Unicode.Category.format ++ Unicode.Category.privateUse)))
  | _ => lookup? Unicode.Category.named name

/-- The characters with a property, category or script, by its name. -/
def property? (name : Text) : Option CharSet :=
  (lookup? Unicode.Property.named name).or
    ((category? name).or (lookup? Unicode.Script.named name))

/-- The characters whose property has a value. -/
def propertyValue? (property value : Text) : Option CharSet :=
  match String.ofList (normalName property) with
  | "gc" | "generalcategory" => category? (normalName value)
  | "sc" | "script" => lookup? Unicode.Script.named (normalName value)
  | _ => none

/-- The set that the text in the braces of `\p{…}` stands for. -/
def propertyQuery? (query : Text) : Option CharSet :=
  match query.span (fun c => c != '!'), Text.splitOn ':' query, Text.splitOn '=' query with
  | (name, '!' :: '=' :: value), _, _ => (propertyValue? name value).map .compl
  | _, name :: value :: values, _ => propertyValue? name (Text.join [':'] (value :: values))
  | _, _, name :: value :: values => propertyValue? name (Text.join ['='] (value :: values))
  | _, _, _ => property? (normalName query)

/-- A set by property, after `\p` or `\P`. -/
def propertySet? (f : Flags) (negated : Bool) (t : Text) : Option (Item × Text) := do
  guard f.unicode
  let (query, rest) ← match skip f t with
    | '{' :: t =>
      let (name, rest) := takeSkipping f (fun c => c != '}') (skip f t)
      if rest.isEmpty then none else some (propertyQuery? name, rest.drop 1)
    | c :: t => if c = '\\' then none else some (property? (normalName [c]), skip f t)
    | [] => none
  return (.set (.negatedIf negated (foldCase f (← query))), rest)

/-! ### Classes -/

/-- The sets that a letter after a backslash stands for. -/
def perlSet (f : Flags) : Char → CharSet
  | 'd' => if f.unicode then .table Unicode.Category.decimalNumber else .table (.read ["30-39"])
  | 's' => if f.unicode then .table Unicode.Property.whiteSpace else .table (.read ["9-d 20"])
  | _ => if f.unicode then .table Unicode.Property.word else .table (.read ["30-39 41-5a 5f 61-7a"])

/-- The ASCII classes by name. -/
def asciiSet? (name : Text) : Option CharSet :=
  (written (String.ofList name)).map fun ranges => .table (.read [ranges])
where
  written : String → Option String
    | "alnum" => some "30-39 41-5a 61-7a"
    | "alpha" => some "41-5a 61-7a"
    | "ascii" => some "0-7f"
    | "blank" => some "9 20"
    | "cntrl" => some "0-1f 7f"
    | "digit" => some "30-39"
    | "graph" => some "21-7e"
    | "lower" => some "61-7a"
    | "print" => some "20-7e"
    | "punct" => some "21-2f 3a-40 5b-60 7b-7e"
    | "space" => some "9-d 20"
    | "upper" => some "41-5a"
    | "word" => some "30-39 41-5a 5f 61-7a"
    | "xdigit" => some "30-39 41-46 61-66"
    | _ => none

/-- A set that is allowed on its own: without Unicode it must be ASCII. -/
def allowed? (f : Flags) (s : CharSet) : Option CharSet :=
  if f.unicode || s.isAscii then some s else none

/-! ### Escape sequences -/

/-- Whether a character that has no meaning after a backslash may still stand there. -/
def isEscapable (c : Char) : Bool :=
  c.toNat < 128 && !c.isAlphanum && c != '<' && c != '>'

/-- A named word edge in braces after `\b`. Where the braces hold no name they are left alone. -/
def namedEdge? (f : Flags) (t : Text) : Option (WordEdge × Text) :=
  let isNameChar (c : Char) : Bool := c.isAlpha || c == '-'
  match t with
  | '{' :: t =>
    match skip f t with
    | [] => none
    | c :: t =>
      if isNameChar c then
        let (name, rest) := takeSkipping f isNameChar (c :: t)
        match String.ofList name, rest with
        | "start", '}' :: rest => some (.start, rest)
        | "end", '}' :: rest => some (.stop, rest)
        | "start-half", '}' :: rest => some (.startHalf, rest)
        | "end-half", '}' :: rest => some (.stopHalf, rest)
        | _, _ => none
      else some (.boundary, '{' :: c :: t)
  | t => some (.boundary, t)

/-- The item after a backslash. -/
def escape? (f : Flags) : Text → Option (Item × Text)
  | [] => none
  | c :: t =>
    match c with
    | 'x' => numbered? f 2 t
    | 'u' => numbered? f 4 t
    | 'U' => numbered? f 8 t
    | 'p' => propertySet? f false t
    | 'P' => propertySet? f true t
    | 'd' | 's' | 'w' => some (.set (perlSet f c), t)
    | 'D' | 'S' | 'W' => some (.set (.compl (perlSet f c.toLower)), t)
    | 'a' => some (.literal '\x07', t)
    | 'f' => some (.literal '\x0c', t)
    | 't' => some (.literal '\t', t)
    | 'n' => some (.literal '\n', t)
    | 'r' => some (.literal '\r', t)
    | 'v' => some (.literal '\x0b', t)
    | 'A' => some (.look .textStart, t)
    | 'z' => some (.look .textEnd, t)
    | 'b' => (namedEdge? f t).map fun (edge, rest) => (.look (.word edge f.unicode), rest)
    | 'B' => some (.look (.word .noBoundary f.unicode), t)
    | '<' => some (.look (.word .start f.unicode), t)
    | '>' => some (.look (.word .stop f.unicode), t)
    | c => if isEscapable c then some (.literal c, t) else none

end StyleScope.Regex
