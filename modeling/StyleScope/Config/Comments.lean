import StyleScope.Text.Basic

/-!
Comments in JSON run from `//` to the end of the line, which stays, and from `/*` to `*/`. In a
string there are none.
-/

namespace StyleScope.Comments

/-- What the characters being read belong to. -/
inductive Mode where
  | plain
  | string
  | line
  | block
  deriving DecidableEq, Repr

/-- Removes the comments of a text that is entered in a mode. -/
def removeFrom : Mode → Text → Text
  | _, [] => []
  | .plain, '"' :: t => '"' :: removeFrom .string t
  | .plain, '/' :: '/' :: t => removeFrom .line t
  | .plain, '/' :: '*' :: t => removeFrom .block t
  | .plain, c :: t => c :: removeFrom .plain t
  | .string, '"' :: t => '"' :: removeFrom .plain t
  | .string, '\\' :: c :: t => '\\' :: c :: removeFrom .string t
  | .string, c :: t => c :: removeFrom .string t
  | .line, '\n' :: t => '\n' :: removeFrom .plain t
  | .line, _ :: t => removeFrom .line t
  | .block, '*' :: '/' :: t => removeFrom .plain t
  | .block, _ :: t => removeFrom .block t

/-- Removes the comments of a text. -/
def remove (t : Text) : Text := removeFrom .plain t

end StyleScope.Comments
