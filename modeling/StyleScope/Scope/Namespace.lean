import StyleScope.Path
import StyleScope.Text.Quoted

/-!
The selector that rules are scoped under: the same for every sheet, or computed from the file a
sheet was read from.
-/

namespace StyleScope

/-- Where the namespace comes from. -/
inductive Namespace where
  | fixed (selector : Text)
  /-- Computed from the file; the function may fail, or give nothing. -/
  | perFile (f : Option Path → Except Text (Option Text))

/-- A namespace that could not be computed. -/
structure ResolveError where
  file : Option Path
  cause : Text
  deriving DecidableEq, Repr

def ResolveError.message (e : ResolveError) : Text :=
  "failed to compute namespace for ".toList ++ e.file.getD "<input>".toList ++
    ": ".toList ++ e.cause

namespace Namespace

/-- The namespace that a template gives for a file: the file's stem stands for its name, and then
the name of the directory around it for its directory. -/
def expand (template : Text) : Option Path → Except Text (Option Text)
  | none =>
    .error ("namespace template `".toList ++ template ++
      "` needs a file name (use --stdin-filename)".toList)
  | some file =>
    let name := (Path.fileStem? file).getD []
    let dir := ((Path.parent? file).bind Path.fileName?).getD []
    let named := Text.replaceAll "\x7bname\x7d".toList name template
    .ok (some (Text.replaceAll "\x7bdir\x7d".toList dir named))

/-- The namespace of a template. -/
def template (t : Text) : Namespace := .perFile (expand t)

/-- The namespace for a file; an empty one is none. -/
def resolve (n : Namespace) (file : Option Path) : Except ResolveError (Option Text) :=
  match n with
  | fixed selector => .ok (some selector |>.filter fun s => !s.isEmpty)
  | perFile f =>
    match f file with
    | .ok s => .ok (s.filter fun s => !s.isEmpty)
    | .error cause => .error ⟨file, cause⟩

/-- The namespace as it is shown to a developer. -/
def describe : Namespace → Text
  | fixed selector => "Static(".toList ++ Text.quoted selector ++ [')']
  | perFile _ => "PerFile(..)".toList

end Namespace
end StyleScope
