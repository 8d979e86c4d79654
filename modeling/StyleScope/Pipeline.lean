import StyleScope.Scope.Basic
import StyleScope.Sheet.Parser
import StyleScope.Sheet.Printer

/-!
A source is parsed, changed by a list of plugins in order, and printed. A plugin that fails ends
the run.
-/

namespace StyleScope

/-- A change to style sheets, which may fail with a message. -/
structure Plugin where
  name : Text
  run : Sheet → Except Text Sheet

/-- A plugin that failed. -/
structure PluginError where
  plugin : Text
  cause : Text
  deriving DecidableEq, Repr

def PluginError.message (e : PluginError) : Text :=
  "plugin `".toList ++ e.plugin ++ "` failed: ".toList ++ e.cause

/-- The plugin that scopes sheets. -/
def Scoper.plugin (s : Scoper) : Plugin where
  name := "selector-namespace".toList
  run sheet :=
    match s.apply sheet with
    | .ok (sheet, _) => .ok sheet
    | .error e => .error e.message

/-- What a run produces. -/
structure Processed where
  printed : Printed
  sheet : Sheet
  /-- What was wrong with the source. -/
  errors : List ParseError
  deriving DecidableEq, Repr

/-- Plugins in the order in which they run. -/
structure Pipeline where
  plugins : List Plugin

namespace Pipeline

def names (p : Pipeline) : List Text := p.plugins.map Plugin.name

/-- Runs one plugin. -/
def runPlugin (sheet : Sheet) (plugin : Plugin) : Except PluginError Sheet :=
  match plugin.run sheet with
  | .ok sheet => .ok sheet
  | .error cause => .error ⟨plugin.name, cause⟩

/-- Parses, changes and prints a source. -/
def process (p : Pipeline) (source : Text) (file : Option Path) : Except PluginError Processed := do
  let parsed := Sheet.parse source file
  let sheet ← p.plugins.foldlM runPlugin parsed.sheet
  return ⟨sheet.print, sheet, parsed.errors⟩

/-- The pipeline as it is shown to a developer. -/
def describe (p : Pipeline) : Text :=
  "Processor \x7b plugins: [".toList ++ Text.join ", ".toList (p.names.map Text.quoted) ++
    "] \x7d".toList

end Pipeline
end StyleScope
