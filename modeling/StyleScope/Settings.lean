import StyleScope.CommandLine
import StyleScope.Config.Basic
import StyleScope.Scope.Basic

/-!
The settings that a run goes by. The command line comes first, then the project's configuration,
then the defaults.
-/

namespace StyleScope

/-- What a run goes by. -/
structure Settings where
  options : ScopeOptions
  /-- The endings of the names of style sheets, each with its dot. -/
  extensions : List Text
  /-- Globs for files that are left alone. -/
  ignore : List Text
  outDir : Option Path

namespace Settings

/-- The namespace given by a selector or by a template. -/
def namespace? (selector template : Option Text) : Option Namespace :=
  (selector.map Namespace.fixed).or (template.map Namespace.template)

/-- An extension with its dot. -/
def dotted (extension : Text) : Text :=
  if extension.head? = some '.' then extension else '.' :: extension

/-- The options of the command line `a` over those of the configuration `c`. -/
def mergeOptions (a : Arguments) (c : ProjectConfig) : ScopeOptions :=
  let d : ScopeOptions := {}
  { under := ((namespace? a.under a.template).or (namespace? c.under c.template)).getD d.under
    self := ((a.self.or c.self).map Pattern.regex).getD d.self
    root := ((a.root.or c.root).map Pattern.regex).getD d.root
    ignoreRoot := ((a.keepRootPrefix.map not).or c.ignoreRoot).getD d.ignoreRoot
    dropRoot := ((a.keepRoot.map not).or c.dropRoot).getD d.dropRoot
    htmlTag := (a.htmlTag.or c.htmlTag).getD d.htmlTag }

/-- The extensions of the command line `a`, or else those of the configuration `c`. -/
def mergeExtensions (a : Arguments) (c : ProjectConfig) : List Text :=
  if !a.extensions.isEmpty then a.extensions
  else if !c.extensions.isEmpty then c.extensions
  else [".css".toList]

/-- The settings that follow from a command line and a configuration in the directory `dir`. -/
def resolve (a : Arguments) (c : ProjectConfig) (dir : Path) : Settings where
  options := mergeOptions a c
  extensions := (mergeExtensions a c).map dotted
  ignore := c.ignore ++ a.ignore
  outDir := a.outDir.or (c.outDir.map (Path.join dir))

end Settings
end StyleScope
