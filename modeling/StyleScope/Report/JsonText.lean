import StyleScope.Text.Basic

/-!
JSON values are written with two spaces for each level. The functions take the level and the parts,
which are written already.
-/

namespace StyleScope.JsonText

/-- A character inside a string. -/
def stringChar (c : Char) : Text :=
  match c with
  | '"' => ['\\', '"']
  | '\\' => ['\\', '\\']
  | '\x08' => ['\\', 'b']
  | '\x0c' => ['\\', 'f']
  | '\n' => ['\\', 'n']
  | '\r' => ['\\', 'r']
  | '\t' => ['\\', 't']
  | c =>
    if c.toNat < 0x20 then
      "\\u00".toList ++ [Nat.digitChar (c.toNat / 16), Nat.digitChar (c.toNat % 16)]
    else [c]

def string (t : Text) : Text := '"' :: t.flatMap stringChar ++ ['"']

def number (n : Nat) : Text := Text.ofNat n

def null : Text := "null".toList

/-- A line break and the indentation of a level. -/
def newline (level : Nat) : Text := '\n' :: List.replicate (2 * level) ' '

/-- Items between brackets, one on each line. -/
def bracketed (level : Nat) (opener closer : Char) (items : List Text) : Text :=
  if items.isEmpty then [opener, closer]
  else
    opener :: newline (level + 1) ++ Text.join (',' :: newline (level + 1)) items ++
      newline level ++ [closer]

def array (level : Nat) (items : List Text) : Text := bracketed level '[' ']' items

def object (level : Nat) (fields : List (String × Text)) : Text :=
  bracketed level '{' '}' (fields.map fun (key, value) => string key.toList ++ ": ".toList ++ value)

end StyleScope.JsonText
