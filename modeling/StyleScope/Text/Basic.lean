/-!
A text is a list of characters. Offsets into it count bytes of its UTF-8 form, so `size` adds up
the widths of the characters and `cut` divides a text at such an offset.
-/

namespace StyleScope

/-- A text, as its characters. -/
abbrev Text := List Char

namespace Text

/-- Length in bytes. -/
def size : Text → Nat
  | [] => 0
  | c :: t => c.utf8Size + size t

@[simp] theorem size_nil : size [] = 0 := rfl

@[simp] theorem size_cons (c : Char) (t : Text) : size (c :: t) = c.utf8Size + size t := rfl

@[simp] theorem size_append (a b : Text) : size (a ++ b) = size a + size b := by
  induction a with
  | nil => simp
  | cons c a ih => simp [ih, Nat.add_assoc]

theorem size_eq_zero {t : Text} : size t = 0 ↔ t = [] := by
  cases t with
  | nil => simp
  | cons c t =>
    have := Char.utf8Size_pos c
    simp only [size_cons, reduceCtorEq, iff_false]
    omega

/-- The characters that begin before byte `n`, and the others. -/
def cut : Nat → Text → Text × Text
  | 0, t => ([], t)
  | _ + 1, [] => ([], [])
  | n + 1, c :: t => (c :: (cut (n + 1 - c.utf8Size) t).1, (cut (n + 1 - c.utf8Size) t).2)

@[simp] theorem cut_zero (t : Text) : cut 0 t = ([], t) := by
  simp [cut]

theorem cut_append (n : Nat) (t : Text) : (cut n t).1 ++ (cut n t).2 = t := by
  fun_induction cut n t with
  | case1 => rfl
  | case2 => rfl
  | case3 n c t ih => simp [ih]

@[simp] theorem cut_size_append (a b : Text) : cut (size a) (a ++ b) = (a, b) := by
  induction a with
  | nil => simp
  | cons c a ih =>
    obtain ⟨k, hk⟩ : ∃ k, c.utf8Size + size a = k + 1 :=
      ⟨c.utf8Size + size a - 1, by have := Char.utf8Size_pos c; omega⟩
    have hsub : k + 1 - c.utf8Size = size a := by omega
    simp [hk, cut, hsub, ih]

/-- Whether byte `n` is the start of a character or the end of the text. -/
def isBoundary (n : Nat) (t : Text) : Bool := size (cut n t).1 == n

/-- Joins texts, with `sep` between neighbours. -/
def join (sep : Text) : List Text → Text
  | [] => []
  | [t] => t
  | t :: ts => t ++ sep ++ join sep ts

/-- The decimal digits of a number. -/
def ofNat (n : Nat) : Text := Nat.toDigits 10 n

end Text
end StyleScope
