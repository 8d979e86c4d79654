import StyleScope.Span

/-!
A text is cut into adjacent pieces by a rule that looks at the first character and the rest, and
says what kind of piece begins there and how many characters of the rest it takes. Every piece has
a character, so the cut ends, and the pieces put together are the text.
-/

namespace StyleScope

/-- A piece of a text: its kind, where it begins, and its characters. -/
structure Piece (κ : Type) where
  kind : κ
  start : Nat
  text : Text
  deriving DecidableEq, Repr

namespace Piece

variable {κ : Type}

/-- The offset just after the piece. -/
def stop (p : Piece κ) : Nat := p.start + p.text.size

def span (p : Piece κ) : Span := ⟨p.start, p.stop⟩

/-- The characters of a run of pieces. -/
def textOf (ps : List (Piece κ)) : Text := ps.flatMap Piece.text

@[simp] theorem textOf_nil : textOf ([] : List (Piece κ)) = [] := rfl

@[simp] theorem textOf_cons (p : Piece κ) (ps : List (Piece κ)) :
    textOf (p :: ps) = p.text ++ textOf ps := rfl

@[simp] theorem textOf_append (as bs : List (Piece κ)) :
    textOf (as ++ bs) = textOf as ++ textOf bs := by
  simp [textOf]

end Piece

/-- The pieces of a text that begins at an offset, cut by a rule. -/
def tile {κ : Type} (rule : Nat → Char → Text → κ × Nat) (offset : Nat) : Text → List (Piece κ)
  | [] => []
  | c :: rest =>
    let text : Text := c :: rest.take (rule offset c rest).2
    ⟨(rule offset c rest).1, offset, text⟩ ::
      tile rule (offset + text.size) (rest.drop (rule offset c rest).2)
termination_by t => t.length
decreasing_by
  simp only [List.length_drop, List.length_cons]
  omega

@[simp] theorem tile_nil {κ : Type} (rule : Nat → Char → Text → κ × Nat) (offset : Nat) :
    tile rule offset [] = [] := by
  rw [tile]

theorem textOf_tile {κ : Type} (rule : Nat → Char → Text → κ × Nat) (offset : Nat) (t : Text) :
    Piece.textOf (tile rule offset t) = t := by
  fun_induction tile rule offset t with
  | case1 => rfl
  | case2 offset c rest text ih =>
    rw [Piece.textOf_cons, ih]
    simp [text]

/-- A piece that the rule cuts off a text is the first of its tiling. -/
theorem tile_append_of {κ : Type} {rule : Nat → Char → Text → κ × Nat} {offset : Nat} {c : Char}
    {cs rest : Text} (h : (cs ++ rest).take (rule offset c (cs ++ rest)).2 = cs) :
    tile rule offset (c :: cs ++ rest) =
      ⟨(rule offset c (cs ++ rest)).1, offset, c :: cs⟩ ::
        tile rule (offset + Text.size (c :: cs)) rest := by
  have hdrop : (cs ++ rest).drop (rule offset c (cs ++ rest)).2 = rest := by
    have happ := List.take_append_drop (rule offset c (cs ++ rest)).2 (cs ++ rest)
    rw [h] at happ
    exact List.append_cancel_left happ
  rw [List.cons_append, tile, h, hdrop]

end StyleScope
