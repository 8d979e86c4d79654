import StyleScope.Text.Basic

/-!
Finding one text in another, replacing its occurrences from left to right without overlap, and
splitting at a character. The empty text occurs before every character and at the end.
-/

namespace StyleScope.Text

/-- Whether `p` occurs in a text. -/
def occursIn (p : Text) : Text → Bool
  | [] => p.isEmpty
  | c :: t => p.isPrefixOf (c :: t) || occursIn p t

/-- Replaces every occurrence of the nonempty text `p`; `skip` characters of an occurrence that is
already replaced are still to be passed over. -/
def replaceFrom (p r : Text) : Nat → Text → Text
  | _, [] => []
  | 0, c :: t =>
    if p.isPrefixOf (c :: t) then r ++ replaceFrom p r (p.length - 1) t
    else c :: replaceFrom p r 0 t
  | skip + 1, _ :: t => replaceFrom p r skip t

/-- Replaces every occurrence of `p` by `r`. -/
def replaceAll (p r t : Text) : Text :=
  if p.isEmpty then r ++ t.flatMap (fun c => c :: r) else replaceFrom p r 0 t

/-- Replaces the first occurrence of `p` by `r`. -/
def replaceFirst (p r : Text) : Text → Text
  | [] => if p.isEmpty then r else []
  | c :: t =>
    if p.isPrefixOf (c :: t) then r ++ (c :: t).drop p.length else c :: replaceFirst p r t

/-- The pieces between the occurrences of a character. -/
def splitOn (sep : Char) : Text → List Text
  | [] => [[]]
  | c :: t =>
    if c = sep then [] :: splitOn sep t
    else
      match splitOn sep t with
      | [] => [[c]]
      | piece :: pieces => (c :: piece) :: pieces

/-- The texts before and after the last occurrence of a character. -/
def splitLast? (sep : Char) : Text → Option (Text × Text)
  | [] => none
  | c :: t =>
    match splitLast? sep t with
    | some (a, b) => some (c :: a, b)
    | none => if c = sep then some ([], t) else none

/-- Whether two texts agree up to the case of ASCII letters. -/
def eqIgnoringCase (a b : Text) : Bool := a.map Char.toLower == b.map Char.toLower

/-- The lines of a text without their ends, `\n` or `\r\n`; a final line end opens no line. -/
def lines (t : Text) : List Text :=
  match t with
  | [] => []
  | _ :: _ =>
    let pieces := splitOn '\n' t
    let ended := pieces.dropLast.map fun l => if l.getLast? = some '\r' then l.dropLast else l
    match pieces.getLast? with
    | some [] | none => ended
    | some last => ended ++ [last]

end StyleScope.Text
