import StyleScope.Text.Basic
import StyleScope.Unicode.Property

/-!
A text in double quotes in which everything can be seen: control characters, marks that attach to
the character before them, and other invisible characters are written by name or by number.
-/

namespace StyleScope.Text

/-- A character by its number in hexadecimal. -/
def numbered (c : Char) : Text := "\\u\x7b".toList ++ Nat.toDigits 16 c.toNat ++ ['}']

def quotedChar (c : Char) : Text :=
  match c with
  | '\x00' => ['\\', '0']
  | '\t' => ['\\', 't']
  | '\r' => ['\\', 'r']
  | '\n' => ['\\', 'n']
  | '\\' => ['\\', '\\']
  | '"' => ['\\', '"']
  | c =>
    if Unicode.Property.graphemeExtend.contains c.toNat then numbered c
    else if Unicode.Property.isPrintable c then [c]
    else numbered c

def quoted (t : Text) : Text := '"' :: t.flatMap quotedChar ++ ['"']

end StyleScope.Text
