import Mathlib.Algebra.BigOperators.Group.List.Basic
import Mathlib.Algebra.GroupWithZero.Nat
import StyleScope.Proofs.Run.Outputs
import StyleScope.Proofs.Run.Source

/-!
Runs that write to standard output.

Without an output directory a file has a page on standard output or is counted as failed, and what
it gives depends on no other file. The pages of a run stand one after the other, and its numbers are
the sums of what is counted for each file. So a run over some files and then others is a run over
the ones, followed by a run over the others.
-/

namespace StyleScope

namespace RunSummary

attribute [ext] RunSummary

instance : Zero RunSummary := ⟨{}⟩

instance : Add RunSummary where
  add r s := ⟨r.files + s.files, r.changed + s.changed, r.errors + s.errors, r.failed + s.failed⟩

instance : AddCommMonoid RunSummary where
  nsmul := nsmulRec
  add_assoc _ _ _ := RunSummary.ext (add_assoc ..) (add_assoc ..) (add_assoc ..) (add_assoc ..)
  zero_add _ := RunSummary.ext (zero_add _) (zero_add _) (zero_add _) (zero_add _)
  add_zero _ := rfl
  add_comm _ _ := RunSummary.ext (add_comm ..) (add_comm ..) (add_comm ..) (add_comm ..)

@[simp] lemma files_zero : (0 : RunSummary).files = 0 := rfl

@[simp] lemma changed_zero : (0 : RunSummary).changed = 0 := rfl

@[simp] lemma errors_zero : (0 : RunSummary).errors = 0 := rfl

@[simp] lemma failed_zero : (0 : RunSummary).failed = 0 := rfl

@[simp] lemma files_add (r s : RunSummary) : (r + s).files = r.files + s.files := rfl

@[simp] lemma changed_add (r s : RunSummary) : (r + s).changed = r.changed + s.changed := rfl

@[simp] lemma errors_add (r s : RunSummary) : (r + s).errors = r.errors + s.errors := rfl

@[simp] lemma failed_add (r s : RunSummary) : (r + s).failed = r.failed + s.failed := rfl

end RunSummary

namespace Outcome

lemma tally_eq_add (o : Outcome) (written : Bool) (r : RunSummary) :
    o.tally written r = r + o.tally written 0 := by
  unfold tally
  split
  · ext <;> simp
  · ext <;> simp
  · ext <;> cases written <;> simp

/-- The page of an outcome, if it is scoped and standard output takes it. -/
def page? (o : Outcome) (full : Bool) : Option Text :=
  match o.result, full with
  | .scoped css, false => some (o.page css)
  | _, _ => none

lemma page?_eq_some {o : Outcome} {full : Bool} {text : Text} :
    o.page? full = some text ↔
      ∃ css, o.result = .scoped css ∧ full = false ∧ text = o.page css := by
  unfold page?
  cases o.result <;> cases full <;> simp [eq_comm]

lemma failed_tally_page (o : Outcome) (full : Bool) :
    (o.tally (o.page? full).isSome 0).failed = if o.page? full = none then 1 else 0 := by
  unfold tally page?
  cases o.result <;> cases full <;> rfl

lemma newline_mem_page (o : Outcome) (css : Text) : (o.page css).contains '\n' = true := by
  have hmem : '\n' ∈ o.page css := List.mem_append_right _ List.mem_cons_self
  exact List.contains_iff_mem.mpr hmem

end Outcome

namespace RunContext

variable {ctx : RunContext} {env : Surroundings} {a : Arguments} {tree : FileTree} {sc : Scoper}

/-! ### Outcomes -/

lemma print_page_eq_ok (s : RunState) (o : Outcome) (css : Text) :
    (env.print s (o.page css)).2 = .ok () ↔ env.stdoutFull = false := by
  unfold Surroundings.print
  rw [o.newline_mem_page]
  cases env.stdoutFull <;> simp

/-- **What an outcome does to a run** without an output directory. -/
lemma settle_page (hd : ctx.settings.outDir = none) (env : Surroundings) (s : RunState)
    (o : Outcome) :
    (ctx.settle env s o).stdout = s.stdout ++ (o.page? env.stdoutFull).getD [] ∧
      (ctx.settle env s o).report.summary =
        s.report.summary + o.tally (o.page? env.stdoutFull).isSome 0 := by
  rw [← Outcome.tally_eq_add]
  unfold settle Outcome.tally Outcome.page?
  rcases hresult : o.result with css | errors | f
  · simp only [emit, hd, Surroundings.print, o.newline_mem_page]
    cases env.stdoutFull
    · exact ⟨rfl, rfl⟩
    · exact ⟨(List.append_nil _).symm, rfl⟩
  · exact ⟨(List.append_nil _).symm, rfl⟩
  · exact ⟨(List.append_nil _).symm, rfl⟩

lemma settleAll_pages (hd : ctx.settings.outDir = none) (env : Surroundings) (s : RunState)
    (os : List Outcome) :
    (ctx.settleAll env s os).stdout =
        s.stdout ++ os.flatMap (fun o => (o.page? env.stdoutFull).getD []) ∧
      (ctx.settleAll env s os).report.summary =
        s.report.summary + (os.map fun o => o.tally (o.page? env.stdoutFull).isSome 0).sum := by
  induction os generalizing s with
  | nil => exact ⟨(List.append_nil _).symm, (add_zero _).symm⟩
  | cons o os ih =>
    obtain ⟨hstdout, hsummary⟩ := settle_page hd env s o
    obtain ⟨ihstdout, ihsummary⟩ := ih (ctx.settle env s o)
    rw [settleAll_cons, ihstdout, ihsummary, hstdout, hsummary, List.flatMap_cons, List.map_cons,
      List.sum_cons, List.append_assoc, add_assoc]
    exact ⟨rfl, rfl⟩

/-! ### Files -/

def fileOutcome (ctx : RunContext) (env : Surroundings) (tree : FileTree) (f : Path) : Outcome :=
  ctx.outcome (Path.join env.cwd.path f) (tree.readText env.cwd (Path.join env.cwd.path f))

def pageOf? (ctx : RunContext) (env : Surroundings) (tree : FileTree) (f : Path) : Option Text :=
  (ctx.fileOutcome env tree f).page? env.stdoutFull

/-- What is counted for a file besides the file itself. -/
def countOf (ctx : RunContext) (env : Surroundings) (tree : FileTree) (f : Path) : RunSummary :=
  (ctx.fileOutcome env tree f).tally (ctx.pageOf? env tree f).isSome 0

/-- The number of faults in a file; none if it cannot be read. -/
def faultsOf (env : Surroundings) (tree : FileTree) (f : Path) : Nat :=
  match tree.readText env.cwd (Path.join env.cwd.path f) with
  | .ok source => (Sheet.parse source (some (Path.join env.cwd.path f))).errors.length
  | .error _ => 0

lemma shown_outcome (ctx : RunContext) (p : Path) (text : Except FileError Text) :
    (ctx.outcome p text).shown = (ctx.relative? p).getD p := by
  cases text <;> rfl

lemma result_outcome_eq_scoped {p : Path} {text : Except FileError Text} {css : Text} :
    (ctx.outcome p text).result = .scoped css ↔
      ∃ source, text = .ok source ∧ ctx.scopeSource source (some p) = .scoped css := by
  cases text with
  | error e => simp [outcome]
  | ok source => simp [outcome]

/-- **When a file has a page**, and what is on it. -/
lemma pageOf?_eq_some (hsc : ctx.pipeline = ⟨[sc.plugin]⟩) (env : Surroundings) (tree : FileTree)
    (f : Path) (text : Text) :
    let p := Path.join env.cwd.path f
    ctx.pageOf? env tree f = some text ↔ ∃ source ns,
      tree.readText env.cwd p = .ok source ∧ sc.under.resolve (some p) = .ok ns ∧
      (Sheet.parse source (some p)).errors = [] ∧ (∀ s, (env.print s text).2 = .ok ()) ∧
      text = "/* ".toList ++ (ctx.relative? p).getD p ++ " */\n".toList ++
        (sc.scopeUnder ns (Sheet.parse source (some p)).sheet).toCss ++ ['\n'] := by
  intro p
  have hshown : (ctx.fileOutcome env tree f).shown = (ctx.relative? p).getD p := shown_outcome ..
  have hpage (css : Text) : (ctx.fileOutcome env tree f).page css = "/* ".toList ++
      (ctx.fileOutcome env tree f).shown ++ " */\n".toList ++ css ++ ['\n'] := rfl
  rw [hshown] at hpage
  unfold pageOf?
  rw [Outcome.page?_eq_some]
  constructor
  · rintro ⟨css, hresult, hfull, rfl⟩
    obtain ⟨source, hread, hscoped⟩ := result_outcome_eq_scoped.mp hresult
    obtain ⟨ns, hns, herrors, rfl⟩ := (scopeSource_eq_scoped hsc).mp hscoped
    refine ⟨source, ns, hread, hns, herrors, fun s => ?_, hpage _⟩
    exact (print_page_eq_ok s _ _).mpr hfull
  · rintro ⟨source, ns, hread, hns, herrors, hprint, htext⟩
    rw [← hpage] at htext
    have hscoped := (scopeSource_eq_scoped hsc).mpr ⟨ns, hns, herrors, rfl⟩
    have hfull : env.stdoutFull = false := by
      have hok := hprint ⟨tree, [], {}⟩
      rwa [htext, print_page_eq_ok] at hok
    exact ⟨_, result_outcome_eq_scoped.mpr ⟨source, hread, hscoped⟩, hfull, htext⟩

lemma errors_countOf (hsc : ctx.pipeline = ⟨[sc.plugin]⟩) (hunder : sc.under.IsWritten)
    (env : Surroundings) (tree : FileTree) (f : Path) :
    (ctx.countOf env tree f).errors = faultsOf env tree f := by
  unfold countOf fileOutcome outcome faultsOf
  cases tree.readText env.cwd (Path.join env.cwd.path f) with
  | error e => rfl
  | ok source =>
    obtain ⟨ns, hns⟩ := hunder.exists_resolve (Path.join env.cwd.path f)
    simp only [scopeSource_eq hsc, hns]
    by_cases herrors : (Sheet.parse source (some (Path.join env.cwd.path f))).errors = []
    · rw [if_pos herrors, herrors]
      rfl
    · rw [if_neg herrors]
      exact zero_add _

lemma failed_countOf (ctx : RunContext) (env : Surroundings) (tree : FileTree) (f : Path) :
    (ctx.countOf env tree f).failed = if ctx.pageOf? env tree f = none then 1 else 0 :=
  Outcome.failed_tally_page _ _

lemma sum_countOf (hsc : ctx.pipeline = ⟨[sc.plugin]⟩) (hunder : sc.under.IsWritten)
    (env : Surroundings) (tree : FileTree) (fs : List Path) :
    let r := (fs.map (ctx.countOf env tree)).sum
    r.files = 0 ∧ r.failed = fs.countP (fun f => ctx.pageOf? env tree f = none) ∧
      r.errors = (fs.map (faultsOf env tree)).sum := by
  induction fs with
  | nil => exact ⟨rfl, rfl, rfl⟩
  | cons f fs ih =>
    obtain ⟨hfiles, hfailed, herrors⟩ := ih
    have hone : (ctx.countOf env tree f).files = 0 := Outcome.files_tally ..
    simp only [List.map_cons, List.sum_cons, RunSummary.files_add, RunSummary.failed_add,
      RunSummary.errors_add, List.countP_cons, decide_eq_true_eq, failed_countOf,
      errors_countOf hsc hunder]
    omega

lemma final_files (hfiles : a.files ≠ []) :
    ctx.final env a tree = ctx.settleAll env ⟨tree, [], { summary := { files := a.files.length } }⟩
      (a.files.map (ctx.fileOutcome env tree)) := by
  have hcollect : ctx.collect env a tree = a.files.map (Path.join env.cwd.path) :=
    if_neg (by simpa using hfiles)
  unfold final initial allOutcomes outcomes
  rw [hcollect, List.length_map, List.map_map]
  rfl

/-- **A run over files** writes their pages and sums up what is counted for them. -/
lemma run_files (hctx : a.context env tree = .ok ctx) (hd : ctx.settings.outDir = none)
    (hstdin : a.stdin = false) (hwatch : a.watch = false) (hfiles : a.files ≠ []) :
    (a.run env tree).ending =
        .finished ({ files := a.files.length } + (a.files.map (ctx.countOf env tree)).sum) ∧
      (a.run env tree).stdout = a.files.flatMap fun f => (ctx.pageOf? env tree f).getD [] := by
  obtain ⟨hpages, hsum⟩ := settleAll_pages hd env
    ⟨tree, [], { summary := { files := a.files.length } }⟩ (a.files.map (ctx.fileOutcome env tree))
  rw [← final_files hfiles, List.flatMap_map] at hpages
  rw [← final_files hfiles, List.map_map] at hsum
  have hstdout : (a.run env tree).stdout = (ctx.final env a tree).stdout := by
    simp only [Arguments.run, hctx, hstdin, hwatch, Bool.false_eq_true, if_false]
    rfl
  rw [(run_eq hctx hstdin hwatch).2, hsum, hstdout, hpages]
  exact ⟨rfl, rfl⟩

end RunContext

namespace Arguments

open RunContext

/-- **Runs follow one another.** Without an output directory, what a run over some files and then
others writes to standard output is what the two runs write one after the other, and its numbers are
their sums. Each file has a page exactly when it can be read, its namespace is known, it has no
faults and the page can be written; a file without a page is counted as failed, and the faults of
all files are counted. -/
theorem run_files_append {a : Arguments} {env : Surroundings} {tree : FileTree} {ctx : RunContext}
    (hctx : a.context env tree = .ok ctx) (hd : ctx.settings.outDir = none)
    (hstdin : a.stdin = false) (hwatch : a.watch = false) :
    let runOver (fs : List Path) : RunResult := { a with files := fs }.run env tree
    (∀ xs ys, xs ≠ [] → ys ≠ [] →
      (runOver (xs ++ ys)).stdout = (runOver xs).stdout ++ (runOver ys).stdout ∧
      ∃ r s, (runOver xs).ending = .finished r ∧ (runOver ys).ending = .finished s ∧
        (runOver (xs ++ ys)).ending = .finished ⟨r.files + s.files, r.changed + s.changed,
          r.errors + s.errors, r.failed + s.failed⟩) ∧
    (∀ fs, fs ≠ [] →
      (runOver fs).stdout = fs.flatMap (fun f => (ctx.pageOf? env tree f).getD []) ∧
      ∃ r, (runOver fs).ending = .finished r ∧ r.files = fs.length ∧
        r.failed = fs.countP (fun f => ctx.pageOf? env tree f = none) ∧
        r.errors = (fs.map (faultsOf env tree)).sum ∧
        (r.hasFailed = true ↔ ∃ f ∈ fs, ctx.pageOf? env tree f = none)) ∧
    ∃ sc, Scoper.ofOptions ctx.settings.options = .ok sc ∧ ∀ f text,
      let p := Path.join env.cwd.path f
      ctx.pageOf? env tree f = some text ↔ ∃ source ns,
        tree.readText env.cwd p = .ok source ∧ sc.under.resolve (some p) = .ok ns ∧
        (Sheet.parse source (some p)).errors = [] ∧ (∀ s, (env.print s text).2 = .ok ()) ∧
        text = "/* ".toList ++ (ctx.relative? p).getD p ++ " */\n".toList ++
          (sc.scopeUnder ns (Sheet.parse source (some p)).sheet).toCss ++ ['\n'] := by
  intro runOver
  obtain ⟨sc, hoptions, hsc, hunder⟩ := exists_scoper hctx
  have hrun {fs : List Path} (hfs : fs ≠ []) :
      (runOver fs).ending =
          .finished ({ files := fs.length } + (fs.map (ctx.countOf env tree)).sum) ∧
        (runOver fs).stdout = fs.flatMap fun f => (ctx.pageOf? env tree f).getD [] :=
    run_files (a := { a with files := fs }) hctx hd hstdin hwatch hfs
  refine ⟨fun xs ys hxs hys => ?_, fun fs hfs => ?_, sc, hoptions, pageOf?_eq_some hsc env tree⟩
  · obtain ⟨hxend, hxout⟩ := hrun hxs
    obtain ⟨hyend, hyout⟩ := hrun hys
    obtain ⟨hend, hout⟩ := hrun (List.append_ne_nil_of_left_ne_nil hxs ys)
    refine ⟨by rw [hout, hxout, hyout, List.flatMap_append], _, _, hxend, hyend, ?_⟩
    have hlength : ({ files := (xs ++ ys).length } : RunSummary) =
        { files := xs.length } + { files := ys.length } := by
      rw [List.length_append]
      rfl
    rw [hend, hlength, List.map_append, List.sum_append, add_add_add_comm]
    rfl
  · obtain ⟨hend, hout⟩ := hrun hfs
    obtain ⟨hfiles, hfailed, herrors⟩ := sum_countOf hsc hunder env tree fs
    refine ⟨hout, _, hend, ?_, ?_, ?_, ?_⟩
    · rw [RunSummary.files_add, hfiles, add_zero]
    · rw [RunSummary.failed_add, hfailed, zero_add]
    · rw [RunSummary.errors_add, herrors, zero_add]
    · rw [RunSummary.hasFailed, decide_eq_true_eq, RunSummary.failed_add, hfailed, zero_add,
        List.countP_pos_iff]
      simp only [decide_eq_true_eq]

/-- Two sheets, and one with a block that is not closed. -/
def pagesTree : FileTree :=
  .ofFiles [("w/a.css", ".a {}"), ("w/b.css", ".b \x7b"), ("w/c.css", ".c {}")]

/-- A run with a template, which the files are given to. -/
def pagesArguments : Arguments := { template := some ".\x7bdir\x7d-\x7bname\x7d".toList }

/-- A sheet and a file that cannot be found, and then a sheet with a fault and another one. -/
theorem run_files_append_mixed :
    let runOver (fs : List String) : RunResult :=
      { pagesArguments with files := fs.map String.toList }.run (.inside "w") pagesTree
    (runOver ["a.css", "lost.css", "b.css", "c.css"]).stdout =
        (runOver ["a.css", "lost.css"]).stdout ++ (runOver ["b.css", "c.css"]).stdout ∧
      (runOver ["a.css", "lost.css"]).stdout = "/* a.css */\n.w-a .a \x7b\x7d\n".toList ∧
      ∃ r s, (runOver ["a.css", "lost.css"]).ending = .finished r ∧
        (runOver ["b.css", "c.css"]).ending = .finished s ∧
        (runOver ["a.css", "lost.css", "b.css", "c.css"]).ending =
          .finished ⟨r.files + s.files, r.changed + s.changed, r.errors + s.errors,
            r.failed + s.failed⟩ := by
  have hrun : (pagesArguments.context (.inside "w") pagesTree).toOption.map
      (fun ctx => ctx.settings.outDir) = some none := by decide +kernel
  obtain ⟨ctx, hctx, hd⟩ := exists_context hrun
  obtain ⟨happend, -, -⟩ := run_files_append hctx hd rfl rfl
  obtain ⟨hstdout, hsums⟩ := happend ["a.css".toList, "lost.css".toList]
    ["b.css".toList, "c.css".toList] (List.cons_ne_nil _ _) (List.cons_ne_nil _ _)
  exact ⟨hstdout, by decide +kernel, hsums⟩

end Arguments
end StyleScope
