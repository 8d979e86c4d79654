import StyleScope.Regex.Basic
import StyleScope.Text.Blank

/-!
The flags that a pattern can set for a group or for the rest of one, and skipping of white space
and comments under the flag `x`.
-/

namespace StyleScope.Regex

/-- What the flags of a pattern say. -/
structure Flags where
  ignoreCase : Bool := false
  multiLine : Bool := false
  dotAll : Bool := false
  swapGreed : Bool := false
  unicode : Bool := true
  crlf : Bool := false
  /-- White space and comments in the pattern have no meaning. -/
  extended : Bool := false
  deriving DecidableEq, Repr

/-- A flag by its letter. -/
inductive Flag where
  | ignoreCase
  | multiLine
  | dotAll
  | swapGreed
  | unicode
  | crlf
  | extended
  deriving DecidableEq, Repr

namespace Flag

def ofChar? : Char → Option Flag
  | 'i' => some ignoreCase
  | 'm' => some multiLine
  | 's' => some dotAll
  | 'U' => some swapGreed
  | 'u' => some unicode
  | 'R' => some crlf
  | 'x' => some extended
  | _ => none

end Flag

namespace Flags

def set (f : Flags) (flag : Flag) (on : Bool) : Flags :=
  match flag with
  | .ignoreCase => { f with ignoreCase := on }
  | .multiLine => { f with multiLine := on }
  | .dotAll => { f with dotAll := on }
  | .swapGreed => { f with swapGreed := on }
  | .unicode => { f with unicode := on }
  | .crlf => { f with crlf := on }
  | .extended => { f with extended := on }

/-- Switches a list of flags. -/
def setAll (f : Flags) (changes : List (Flag × Bool)) : Flags :=
  changes.foldl (fun f change => f.set change.1 change.2) f

end Flags

/-- Reads flags up to `:` or `)`, which is given back with the text after it. Each flag stands at
most once, and so does `-`, which switches off those after it. -/
def flagChanges? (negated dangling : Bool) (changes : List (Flag × Bool)) :
    Text → Option (List (Flag × Bool) × Char × Text)
  | [] => none
  | c :: t =>
    if c = ':' || c = ')' then if dangling then none else some (changes, c, t)
    else if c = '-' then if negated then none else flagChanges? true true changes t
    else
      match Flag.ofChar? c with
      | none => none
      | some flag =>
        if changes.any (fun change => change.1 == flag) then none
        else flagChanges? negated false (changes ++ [(flag, !negated)]) t

/-- Skips white space, and comments from `#` to the end of the line. -/
def skipBlank (inComment : Bool) : Text → Text
  | [] => []
  | c :: t =>
    if inComment then skipBlank (c != '\n') t
    else if isBlank c then skipBlank false t
    else if c = '#' then skipBlank true t
    else c :: t

theorem length_skipBlank_le (inComment : Bool) (t : Text) :
    (skipBlank inComment t).length ≤ t.length := by
  fun_induction skipBlank inComment t <;> simp_all <;> omega

/-- Skips what has no meaning under the flags. -/
def skip (f : Flags) (t : Text) : Text := if f.extended then skipBlank false t else t

theorem length_skip_le (f : Flags) (t : Text) : (skip f t).length ≤ t.length := by
  unfold skip
  split
  · exact length_skipBlank_le false t
  · exact Nat.le_refl _

/-- The characters that satisfy `p`, with what may be skipped after each, and the rest. -/
def takeSkipping (f : Flags) (p : Char → Bool) : Text → Text × Text
  | [] => ([], [])
  | c :: t =>
    if p c then
      let (taken, rest) := takeSkipping f p (skip f t)
      (c :: taken, rest)
    else ([], c :: t)
termination_by t => t.length
decreasing_by exact Nat.lt_succ_of_le (length_skip_le f t)

/-- A number in decimal, with white space around it; it must fit into 32 bits. -/
def decimal? (f : Flags) (t : Text) : Option (Nat × Text) :=
  let (digits, rest) := takeSkipping f Char.isDigit (t.dropWhile isBlank)
  let n := digits.foldl (fun n c => 10 * n + (c.toNat - '0'.toNat)) 0
  if digits.isEmpty || 0x100000000 ≤ n then none else some (n, skip f (rest.dropWhile isBlank))

end StyleScope.Regex
