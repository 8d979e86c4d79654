import StyleScope.FileTree
import StyleScope.Glob.Parser
import StyleScope.Pipeline
import StyleScope.Settings

/-!
What a run needs to know before it looks at style sheets, and which files it looks at.
-/

namespace StyleScope

/-- Why a run ends without looking at style sheets. -/
inductive RunError where
  | configUnreadable (path : Path) (e : FileError)
  | configInvalid (path : Path) (f : JsonFault)
  | pattern (e : PatternError)
  | glob
  | stdin (e : FileError)
  | watch
  deriving DecidableEq, Repr

namespace RunError

/-- What part of the program an error comes from. -/
def code : RunError → Text
  | configUnreadable _ _ | configInvalid _ _ => "css_namespace::config".toList
  | pattern _ => "css_namespace::options".toList
  | glob => "css_namespace::glob".toList
  | stdin _ => "css_namespace::io".toList
  | watch => "css_namespace::watch".toList

/-- What may help with an error. -/
def help? : RunError → Option Text
  | pattern _ => some "--self-selector and --root-selector take regular expressions".toList
  | _ => none

def faultMessage : JsonFault → Text
  | .malformed => "not valid JSON".toList
  | .mismatched => "not of the expected form".toList
  | .unfinished => "unexpected end".toList

def optionName : PatternOption → Text
  | .self => "selfSelector".toList
  | .root => "rootSelector".toList

def message : RunError → Text
  | configUnreadable path e => "failed to read ".toList ++ path ++ ": ".toList ++ e.message
  | configInvalid path f => "invalid config ".toList ++ path ++ ": ".toList ++ faultMessage f
  | pattern e =>
    "invalid ".toList ++ optionName e.option ++ " pattern `".toList ++ e.source ++
      "`: not a regular expression".toList
  | glob => "invalid glob pattern".toList
  | stdin e => "failed to read stdin: ".toList ++ e.message
  | watch => "watch error: the workspace cannot be watched".toList

end RunError

/-- What a run needs to know. -/
structure RunContext where
  workspace : Path
  settings : Settings
  pipeline : Pipeline
  /-- Files that a scan leaves out. -/
  ignored : List Glob
  format : OutputFormat

namespace RunContext

/-- The globs that are always in force. -/
def defaultIgnored : List Glob :=
  ["**/node_modules/**", "**/dist/**"].filterMap fun g => Glob.parse? g.toList

/-- The glob for everything in the output directory, so that output is not read again. There is none
if the directory is not inside the workspace, or if its name is no glob. -/
def outputIgnored (workspace : Path) (outDir : Option Path) : Option Glob := do
  let inside ← Path.relativeTo? (← outDir) workspace
  if inside.isEmpty then none else Glob.parse? (inside ++ "/**".toList)

/-- The globs of a run; none if one that was asked for is invalid. -/
def ignoredGlobs? (workspace : Path) (s : Settings) : Option (List Glob) :=
  (s.ignore.mapM Glob.parse?).map fun globs =>
    globs ++ defaultIgnored ++ (outputIgnored workspace s.outDir).toList

/-- The context that follows from a command line in the directory `cwd` and a configuration in the
directory `dir`. -/
def ofConfig (a : Arguments) (cwd : Path) (c : ProjectConfig) (dir : Path) :
    Except RunError RunContext := do
  let workspace := Path.join cwd a.workspaceOrDefault
  let resolved := Settings.resolve a c dir
  let settings := { resolved with outDir := resolved.outDir.map (Path.join cwd) }
  let scoper ← (Scoper.ofOptions settings.options).mapError .pattern
  match ignoredGlobs? workspace settings with
  | none => .error .glob
  | some ignored => .ok ⟨workspace, settings, ⟨[scoper.plugin]⟩, ignored, a.outputOrDefault⟩

/-- The path of a file in the workspace as seen from there. -/
def relative? (ctx : RunContext) (p : Path) : Option Path := Path.relativeTo? p ctx.workspace

/-- Whether a file has the name of a style sheet. -/
def isSheet (ctx : RunContext) (p : Path) : Bool :=
  let name := (Path.fileName? p).getD []
  ctx.settings.extensions.any fun extension => extension.isSuffixOf name

/-- Whether a scan leaves a file out. -/
def isIgnored (ctx : RunContext) (p : Path) : Bool :=
  ctx.ignored.any fun g => g.isMatch ((ctx.relative? p).getD p)

/-- The style sheets among the files of the workspace, in order. -/
def select (ctx : RunContext) (files : List Path) : List Path :=
  (files.filter fun p => ctx.isSheet p && !ctx.isIgnored p).mergeSort Path.le

end RunContext
end StyleScope
