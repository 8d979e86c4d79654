import StyleScope.Run.Outcome

/-!
A run over a tree of files. All style sheets are read and scoped before the first result is written.
Results go to standard output, each under a line with its file's path, or to files in the output
directory, where no result takes the place of the file that it comes from.
-/

namespace StyleScope

/-- What a run finds around it besides files. -/
structure Surroundings where
  cwd : Location := []
  stdin : Contents := .text []
  /-- A standard output on which no line can be written. It is taken to accept everything or no
  line at all: one that fills up in the middle of a run is not among them. -/
  stdoutFull : Bool := false
  deriving DecidableEq, Repr

/-- Where a run has got to. -/
structure RunState where
  tree : FileTree
  stdout : Text := []
  report : RunReport := {}
  deriving DecidableEq, Repr

/-- How a run ends. -/
inductive RunEnd where
  | finished (s : RunSummary)
  | failed (e : RunError)
  /-- It goes on watching the workspace. -/
  | watching
  deriving DecidableEq, Repr

/-- What a run leaves behind. -/
structure RunResult where
  ending : RunEnd
  tree : FileTree
  stdout : Text
  stderr : Text
  deriving DecidableEq, Repr

namespace Surroundings

/-- Writes to standard output, all of a text or nothing of it. On a full one, a text with a line end
fails, and another is lost. -/
def print (env : Surroundings) (s : RunState) (text : Text) : RunState × Except FileError Unit :=
  if env.stdoutFull then (s, if text.contains '\n' then .error .noSpace else .ok ())
  else ({ s with stdout := s.stdout ++ text }, .ok ())

end Surroundings

namespace Failure

def ofStdout (e : FileError) : Failure :=
  ofAccess ("failed to write to stdout: ".toList ++ e.message)

def ofTarget (target : Path) (e : FileError) : Failure :=
  ofAccess ("failed to write ".toList ++ target ++ ": ".toList ++ e.message)

/-- A result that would take the place of its source. -/
def ofOverwrite (target : Path) : Failure :=
  ofAccess ("refusing to overwrite input file ".toList ++ target ++
    "; choose an --out-dir outside the sources".toList)

end Failure

namespace Outcome

/-- The result under a line with the file's path. -/
def page (o : Outcome) (css : Text) : Text :=
  "/* ".toList ++ o.shown ++ " */\n".toList ++ css ++ ['\n']

end Outcome

namespace RunContext

/-- Writes a result. -/
def emit (ctx : RunContext) (env : Surroundings) (s : RunState) (o : Outcome) (css : Text) :
    RunState × Except Failure Unit :=
  match ctx.settings.outDir with
  | none =>
    let (s, r) := env.print s (o.page css)
    (s, r.mapError Failure.ofStdout)
  | some outDir =>
    let target := Path.join outDir o.output
    if Path.same target o.path then (s, .error (Failure.ofOverwrite target))
    else
      let (tree, r) := s.tree.writeDeep env.cwd target css
      ({ s with tree := tree }, r.mapError (Failure.ofTarget target))

/-- Deals with one outcome. -/
def settle (ctx : RunContext) (env : Surroundings) (s : RunState) (o : Outcome) : RunState :=
  match o.result with
  | .failed f => { s with report := s.report.addFailure ctx.format o.shown f }
  | .faulty errors => { s with report := s.report.addFaults ctx.format o.shown o.source errors }
  | .scoped css =>
    let s := { s with report := s.report.addChange o.source css }
    match ctx.emit env s o css with
    | (s, .ok ()) => s
    | (s, .error f) => { s with report := s.report.addFailure ctx.format o.shown f }

/-- The files of a run: those given, or the style sheets of the workspace. -/
def collect (ctx : RunContext) (env : Surroundings) (a : Arguments) (tree : FileTree) : List Path :=
  if a.files.isEmpty then ctx.select (tree.filesUnder env.cwd ctx.workspace)
  else a.files.map (Path.join env.cwd.path)

/-- Looks at every file once. -/
def outcomes (ctx : RunContext) (env : Surroundings) (tree : FileTree) (files : List Path) :
    List Outcome :=
  files.map fun p => ctx.outcome p (tree.readText env.cwd p)

/-- Looks at files and writes their results; `notes` is what has been written about the run
before. -/
def runOnce (ctx : RunContext) (env : Surroundings) (files : List Path) (notes : Text)
    (tree : FileTree) : RunState :=
  let begin : RunState := ⟨tree, [], { summary := { files := files.length }, notes := notes }⟩
  let s := (ctx.outcomes env tree files).foldl (ctx.settle env) begin
  { s with report := s.report.close ctx.format }

/-- Scopes the style sheet on standard input. Its numbers are not told, and its diagnostics as JSON
only if there are some. -/
def runStdin (ctx : RunContext) (env : Surroundings) (file : Option Path) (source : Text)
    (tree : FileTree) : RunState :=
  let shown := file.getD "<stdin>".toList
  let s : RunState := ⟨tree, [], { summary := { files := 1 } }⟩
  let s := match ctx.scopeSource source file with
    | .failed f => { s with report := s.report.addFailure ctx.format shown f }
    | .faulty errors => { s with report := s.report.addFaults ctx.format shown source errors }
    | .scoped css =>
      let s := { s with report := s.report.addChange source css }
      match env.print s css with
      | (s, .ok ()) => s
      | (s, .error e) => { s with report := s.report.addFailure ctx.format shown (.ofStdout e) }
  if ctx.format = .json && !s.report.diagnostics.isEmpty then
    { s with report := s.report.close ctx.format }
  else s

end RunContext

namespace RunState

def result (s : RunState) (ending : RunEnd) : RunResult :=
  ⟨ending, s.tree, s.stdout, s.report.notes⟩

end RunState

namespace Arguments

/-- Reads a configuration and the directory that it is in. -/
def readConfig (a : Arguments) (env : Surroundings) (tree : FileTree) :
    Except RunError (ProjectConfig × Path) := do
  let load (p : Path) : Except RunError ProjectConfig := do
    let text ← (tree.readText env.cwd p).mapError (.configUnreadable p)
    (ProjectConfig.parse text).mapError (.configInvalid p)
  match a.config with
  | some p => return (← load p, (Path.parent? p).getD [])
  | none =>
    let workspace := Path.join env.cwd.path a.workspaceOrDefault
    let p := Path.join workspace ProjectConfig.fileName
    if tree.exists? env.cwd p then return (← load p, workspace) else return ({}, workspace)

/-- What a run in some surroundings goes by. -/
def context (a : Arguments) (env : Surroundings) (tree : FileTree) :
    Except RunError RunContext := do
  let (config, dir) ← a.readConfig env tree
  RunContext.ofConfig a env.cwd.path config dir

/-- What a run over a tree does. -/
def run (a : Arguments) (env : Surroundings) (tree : FileTree) : RunResult :=
  match a.context env tree with
  | .error e => ⟨.failed e, tree, [], []⟩
  | .ok ctx =>
    if a.stdin then
      match env.stdin.read with
      | .error e => ⟨.failed (.stdin e), tree, [], []⟩
      | .ok source =>
        let s := ctx.runStdin env a.stdinFilename source tree
        s.result (.finished s.report.summary)
    else
      let files := ctx.collect env a tree
      if a.watch then
        let s := ctx.runOnce env files "Starting watch mode...\n\n".toList tree
        s.result (if s.tree.exists? env.cwd ctx.workspace then .watching else .failed .watch)
      else
        let s := ctx.runOnce env files [] tree
        s.result (.finished s.report.summary)

end Arguments
end StyleScope
