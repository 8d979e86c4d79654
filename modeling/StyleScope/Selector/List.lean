import StyleScope.Text.Blank

/-!
A selector list is split at its commas, except those in a string, in parentheses or brackets, or
after a backslash. Comments have no meaning here.
-/

namespace StyleScope.SelectorList

/-- What has been opened and not closed when a selector list is read from the left. -/
structure Context where
  depth : Nat
  quote : Option Char
  escaped : Bool
  deriving DecidableEq, Repr

namespace Context

/-- Nothing is open. -/
def outer : Context := ⟨0, none, false⟩

/-- The context after a character. A closing bracket closes the nearest open one, whatever its
shape. -/
def step (s : Context) (c : Char) : Context :=
  if s.escaped then { s with escaped := false }
  else if c = '\\' then { s with escaped := true }
  else if s.quote = some c then { s with quote := none }
  else if s.quote.isSome then s
  else if c = '"' || c = '\'' then { s with quote := some c }
  else if c = '(' || c = '[' then { s with depth := s.depth + 1 }
  else if c = ')' || c = ']' then { s with depth := s.depth - 1 }
  else s

/-- Whether a character here separates two selectors. -/
def separates (s : Context) (c : Char) : Bool :=
  !s.escaped && s.quote.isNone && s.depth == 0 && c == ','

end Context

/-- The pieces between separating commas, as written. -/
def pieces (s : Context) : Text → List Text
  | [] => [[]]
  | c :: t =>
    if s.separates c then [] :: pieces s t
    else
      match pieces (s.step c) t with
      | [] => [[c]]
      | piece :: rest => (c :: piece) :: rest

/-- The selectors of a list, trimmed; blank ones are dropped. -/
def split (t : Text) : List Text :=
  ((pieces Context.outer t).map Text.trim).filter (fun item => !item.isEmpty)

end StyleScope.SelectorList
