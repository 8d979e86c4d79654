import StyleScope.Text.Basic

/-!
The characters with the Unicode property `White_Space`, and removing them from the ends of a text.
-/

namespace StyleScope

/-- The Unicode property `White_Space`. -/
def isBlank (c : Char) : Bool :=
  let n := c.toNat
  (9 ≤ n && n ≤ 13) || n == 0x20 || n == 0x85 || n == 0xA0 || n == 0x1680 ||
    (0x2000 ≤ n && n ≤ 0x200A) || n == 0x2028 || n == 0x2029 || n == 0x202F || n == 0x205F ||
    n == 0x3000

/-- Drops the longest tail whose elements all satisfy `p`. -/
def dropTailWhile {α : Type} (p : α → Bool) : List α → List α
  | [] => []
  | a :: l =>
    match dropTailWhile p l with
    | [] => if p a then [] else [a]
    | b :: r => a :: b :: r

namespace Text

/-- Drops blanks from the front. -/
def trimStart (t : Text) : Text := t.dropWhile isBlank

/-- Drops blanks from the end. -/
def trimEnd (t : Text) : Text := dropTailWhile isBlank t

/-- Drops blanks from both ends. -/
def trim (t : Text) : Text := trimEnd (trimStart t)

end Text
end StyleScope
