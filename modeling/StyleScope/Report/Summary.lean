import StyleScope.Text.Basic

/-!
The numbers of a run and the line that reports them.
-/

namespace StyleScope

/-- The numbers of a run. -/
structure RunSummary where
  /-- Files that were looked at. -/
  files : Nat := 0
  /-- Files whose result differs from their source. -/
  changed : Nat := 0
  /-- Faults in sources. -/
  errors : Nat := 0
  /-- Files that gave no output. -/
  failed : Nat := 0
  deriving DecidableEq, Repr

namespace RunSummary

def hasFailed (s : RunSummary) : Bool := 0 < s.failed

/-- A number and what it counts. -/
def counted (n : Nat) (noun : String) : Text :=
  Text.ofNat n ++ ' ' :: noun.toList ++ (if n = 1 then [] else ['s'])

def format (s : RunSummary) : Text :=
  List.replicate 36 '=' ++ "\ncss-namespace processed ".toList ++ counted s.files "file" ++
    ": ".toList ++ Text.ofNat s.changed ++ " changed, ".toList ++ counted s.errors "error" ++
    ", ".toList ++ Text.ofNat s.failed ++ " failed".toList

end RunSummary
end StyleScope
