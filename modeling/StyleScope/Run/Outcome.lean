import StyleScope.Report.Diagnostic
import StyleScope.Report.Summary
import StyleScope.Run.Context

/-!
What comes of one style sheet: its scoped text, the faults in it, or a failure. Also what is told
about it.
-/

namespace StyleScope

/-- What comes of a style sheet. -/
inductive SheetResult where
  | scoped (css : Text)
  /-- The sheet has faults and is not used. -/
  | faulty (errors : List ParseError)
  | failed (f : Failure)
  deriving DecidableEq, Repr

/-- A style sheet that was looked at. -/
structure Outcome where
  path : Path
  /-- The path that is shown. -/
  shown : Path
  /-- Where the result goes in the output directory. -/
  output : Path
  source : Text
  result : SheetResult
  deriving DecidableEq, Repr

namespace RunContext

/-- Scopes a source that is known by the name of a file. -/
def scopeSource (ctx : RunContext) (source : Text) (file : Option Path) : SheetResult :=
  match ctx.pipeline.process source file with
  | .error e => .failed (Failure.ofNamespace e.cause)
  | .ok p => if p.errors.isEmpty then .scoped p.printed.css else .faulty p.errors

/-- The outcome for a file, given its text. A file outside of the workspace has its result at the
top of the output directory. -/
def outcome (ctx : RunContext) (path : Path) (text : Except FileError Text) : Outcome :=
  let relative := ctx.relative? path
  let shown := relative.getD path
  let output := (relative.or (Path.fileName? path)).getD path
  match text with
  | .ok source => ⟨path, shown, output, source, ctx.scopeSource source (some path)⟩
  | .error e =>
    let failure := Failure.ofAccess ("failed to read file: ".toList ++ e.message)
    ⟨path, shown, output, [], .failed failure⟩

end RunContext

/-- What a run has told so far. -/
structure RunReport where
  summary : RunSummary := {}
  diagnostics : List Diagnostic := []
  /-- What has been written about them. -/
  notes : Text := []
  deriving DecidableEq, Repr

namespace RunReport

/-- Tells diagnostics of a source. -/
def tell (r : RunReport) (f : OutputFormat) (source : Text) (ds : List Diagnostic) : RunReport :=
  { r with
    diagnostics := r.diagnostics ++ ds
    notes := r.notes ++ Diagnostic.format f source ds }

/-- Counts a file as failed, and tells why. -/
def addFailure (r : RunReport) (f : OutputFormat) (shown : Path) (failure : Failure) : RunReport :=
  { r with summary := { r.summary with failed := r.summary.failed + 1 } }.tell f []
    [Diagnostic.ofFailure shown failure]

/-- Counts the faults of a file, and tells them. -/
def addFaults (r : RunReport) (f : OutputFormat) (shown : Path) (source : Text)
    (errors : List ParseError) : RunReport :=
  { r with summary := { r.summary with
      errors := r.summary.errors + errors.length
      failed := r.summary.failed + 1 } }.tell f source
    (Diagnostic.ofParseErrors shown source errors)

/-- Counts a file as changed if its result differs from its source. -/
def addChange (r : RunReport) (source css : Text) : RunReport :=
  { r with summary := { r.summary with
      changed := r.summary.changed + (if css = source then 0 else 1) } }

/-- Tells the diagnostics as JSON, or else the numbers. -/
def close (r : RunReport) (f : OutputFormat) : RunReport :=
  match f with
  | .json => { r with notes := r.notes ++ Diagnostic.listJson r.diagnostics ++ ['\n'] }
  | _ => { r with notes := r.notes ++ r.summary.format ++ ['\n'] }

end RunReport
end StyleScope
