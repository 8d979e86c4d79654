import StyleScope.Proofs.Path.Names
import StyleScope.Proofs.Run.Pages
import StyleScope.Proofs.Text.Replace

/-!
Style sheets on standard input.

A style sheet that is piped under the name of a file is treated like the file itself, except that
the name is not joined to the current directory before its namespace is computed. That makes a
difference for one kind of name only: a bare one, in a directory that has a name, with a template
in which the directory is mentioned. There the template finds no directory.
-/

namespace StyleScope

namespace Namespace

/-- A template with the name of a file filled in. -/
def named (t : Text) (file : Path) : Text :=
  Text.replaceAll "\x7bname\x7d".toList ((Path.fileStem? file).getD []) t

lemma resolve_template (t : Text) (file : Path) :
    (template t).resolve (some file) = .ok ((some (Text.replaceAll "\x7bdir\x7d".toList
      (((Path.parent? file).bind Path.fileName?).getD []) (named t file))).filter
        fun s => !s.isEmpty) :=
  rfl

lemma filter_ne_nil_inj {x y : Text} :
    (some x).filter (fun s => !s.isEmpty) = (some y).filter (fun s => !s.isEmpty) ↔ x = y := by
  cases x <;> cases y <;> simp [Option.filter]

/-- **When a template does not need the current directory** to find the directory of a file. -/
lemma resolve_template_join_iff {f : Path} (hne : Path.names f ≠ []) (cwd : Path) (t : Text) :
    (template t).resolve (some f) = (template t).resolve (some (Path.join cwd f)) ↔
      Path.isAbsolute f = true ∨ 2 ≤ (Path.names f).length ∨ Path.fileName? cwd = none ∨
        Text.occursIn "\x7bdir\x7d".toList (named t f) = false := by
  by_cases habs : Path.isAbsolute f = true
  · have hjoin : Path.join cwd f = f := if_pos habs
    simp [habs, hjoin]
  rw [Bool.not_eq_true] at habs
  have hnamed : named t (Path.join cwd f) = named t f := by
    rw [named, named, Path.fileStem?_join habs hne]
  rw [resolve_template, resolve_template, Except.ok.injEq, filter_ne_nil_inj, hnamed]
  by_cases htwo : 2 ≤ (Path.names f).length
  · rw [Path.directory_join_of_two_le habs hne cwd htwo]
    simp [htwo]
  · obtain ⟨hnone, hcwd⟩ := Path.directory_join_of_lt_two habs hne cwd (by omega)
    rw [hnone, hcwd, Option.getD_none, Text.replaceAll_nil_eq_iff (by decide)]
    simp [habs, htwo, Path.getD_fileName?_eq_nil]

end Namespace

namespace Diagnostic

/-- What a diagnostic says besides the file that it is about. -/
def told (d : Diagnostic) : Option (Position × Position) × Text × Text :=
  (d.range, d.message, d.code)

lemma told_ofParseErrors (file file' : Path) (source : Text) (es : List ParseError) :
    (ofParseErrors file source es).map told = (ofParseErrors file' source es).map told := by
  unfold ofParseErrors
  rw [List.map_map, List.map_map]
  rfl

end Diagnostic

namespace RunContext

variable {ctx : RunContext} {env : Surroundings} {tree : FileTree}

/-- What a run over one source leaves behind, given what comes of the source: `written` is how a
result is written, and `shown` the path that is shown. -/
def Leaves (written : Text → Text) (shown : Path) (source : Text) (s : RunState) :
    SheetResult → Prop
  | .scoped css => s.stdout = written css ∧ s.report.diagnostics = [] ∧
      s.report.summary = { files := 1, changed := if css = source then 0 else 1 }
  | .faulty errors => s.stdout = [] ∧
      s.report.diagnostics = Diagnostic.ofParseErrors shown source errors ∧
      s.report.summary = { files := 1, errors := errors.length, failed := 1 }
  | .failed f => s.stdout = [] ∧ s.report.diagnostics = [Diagnostic.ofFailure shown f] ∧
      s.report.summary = { files := 1, failed := 1 }

lemma Leaves.close {written : Text → Text} {shown : Path} {source : Text} {s : RunState}
    {r : SheetResult} (h : Leaves written shown source s r) (f : OutputFormat) :
    Leaves written shown source { s with report := s.report.close f } r := by
  have hclose : (s.report.close f).summary = s.report.summary ∧
      (s.report.close f).diagnostics = s.report.diagnostics := by
    cases f <;> exact ⟨rfl, rfl⟩
  unfold Leaves at h ⊢
  rw [hclose.1, hclose.2]
  exact h

lemma runStdin_leaves (hfull : env.stdoutFull = false) (f : Path) (source : Text)
    (tree : FileTree) :
    Leaves id f source (ctx.runStdin env (some f) source tree)
      (ctx.scopeSource source (some f)) := by
  have hend {s : RunState} {r : SheetResult} (h : Leaves id f source s r) :
      Leaves id f source (if ctx.format = .json && !s.report.diagnostics.isEmpty then
        { s with report := s.report.close ctx.format } else s) r := by
    split_ifs
    · exact h.close ctx.format
    · exact h
  unfold runStdin Surroundings.print
  rcases ctx.scopeSource source (some f) with css | errors | e
  · refine hend ?_
    simp only [hfull]
    exact ⟨rfl, rfl, by simp [RunReport.addChange]⟩
  · exact hend ⟨rfl, rfl, by simp [RunReport.addFaults, RunReport.tell]⟩
  · exact hend ⟨rfl, rfl, rfl⟩

lemma runOnce_leaves (hd : ctx.settings.outDir = none) (hfull : env.stdoutFull = false) {p : Path}
    {source : Text} (hread : tree.readText env.cwd p = .ok source) :
    Leaves (fun css => "/* ".toList ++ (ctx.relative? p).getD p ++ " */\n".toList ++ css ++ ['\n'])
      ((ctx.relative? p).getD p) source (ctx.runOnce env [p] [] tree)
      (ctx.scopeSource source (some p)) := by
  simp only [runOnce, outcomes, List.map_cons, List.map_nil, List.foldl_cons, List.foldl_nil,
    outcome, hread]
  refine Leaves.close ?_ ctx.format
  unfold settle
  rcases ctx.scopeSource source (some p) with css | errors | e
  · simp only [emit, hd, Surroundings.print, hfull, Except.mapError]
    exact ⟨rfl, rfl, by simp [RunReport.addChange]⟩
  · exact ⟨rfl, rfl, by simp [RunReport.addFaults, RunReport.tell]⟩
  · exact ⟨rfl, rfl, rfl⟩

lemma Leaves.agree {written : Text → Text} {shown shown' : Path} {source : Text}
    {s s' : RunState} {r : SheetResult} (h : Leaves id shown source s r)
    (h' : Leaves written shown' source s' r) :
    s.report.summary = s'.report.summary ∧
    s.report.diagnostics.map Diagnostic.told = s'.report.diagnostics.map Diagnostic.told ∧
    (s.report.summary.failed = 0 ∧ s'.stdout = written s.stdout ∨
      s.report.summary.failed = 1 ∧ s.stdout = [] ∧ s'.stdout = []) := by
  rcases r with css | errors | f
  all_goals
    obtain ⟨hout, hdiag, hsum⟩ := h
    obtain ⟨hout', hdiag', hsum'⟩ := h'
    rw [hsum, hsum', hdiag, hdiag', hout, hout']
  · exact ⟨rfl, rfl, .inl ⟨rfl, rfl⟩⟩
  · exact ⟨rfl, Diagnostic.told_ofParseErrors shown shown' source errors, .inr ⟨rfl, rfl, rfl⟩⟩
  · exact ⟨rfl, rfl, .inr ⟨rfl, rfl, rfl⟩⟩

end RunContext

lemma FileTree.names_ne_nil_of_readText {t : FileTree} {cwd : Location} {p f : Path}
    {source : Text} (h : t.readText cwd (Path.join p f) = .ok source) : Path.names f ≠ [] := by
  obtain ⟨ss, s, hsplit, hs⟩ := exists_last_of_readText h
  have hmem : s ∈ Text.splitOn '/' f := by
    by_cases habs : Path.isAbsolute f = true
    · have hjoin : Path.join p f = f := if_pos habs
      rw [← hjoin, hsplit]
      exact List.mem_append_right ss List.mem_cons_self
    · obtain ⟨ts, hts, -⟩ := Path.splitOn_join_path p (Bool.not_eq_true _ ▸ habs)
      have hlast := congrArg List.getLast? (hsplit.symm.trans hts)
      rw [List.getLast?_concat,
        List.getLast?_append_of_ne_nil ts (Text.splitOn_ne_nil '/' f)] at hlast
      exact List.mem_of_getLast? hlast.symm
  exact List.ne_nil_of_mem (List.mem_filter.mpr ⟨hmem, by simp [hs]⟩)

namespace Arguments

open RunContext

/-- **A piped style sheet is treated like a file** when both have the same namespace: the same comes
of them, and two runs that write to standard output count and tell the same. A selector is always
the same namespace. A template is the same unless it mentions the directory, the name is a bare one
and the current directory has a name. -/
theorem piped_eq_given {a : Arguments} {env : Surroundings} {tree : FileTree} {ctx : RunContext}
    {f : Path} {source : Text} (hctx : a.context env tree = .ok ctx)
    (hread : tree.readText env.cwd (Path.join env.cwd.path f) = .ok source)
    (hstdin : env.stdin = .text source) :
    let p := Path.join env.cwd.path f
    let s := ctx.runStdin env (some f) source tree
    let s' := ctx.runOnce env [p] [] tree
    { a with files := [], stdin := true, stdinFilename := some f }.run env tree =
      s.result (.finished s.report.summary) ∧
    { a with files := [f], stdin := false, watch := false }.run env tree =
      s'.result (.finished s'.report.summary) ∧
    ∃ sc, Scoper.ofOptions ctx.settings.options = .ok sc ∧
      (sc.under.resolve (some f) = sc.under.resolve (some p) →
        ctx.scopeSource source (some f) = (ctx.fileOutcome env tree f).result ∧
        (ctx.settings.outDir = none → env.stdoutFull = false →
          s.report.summary = s'.report.summary ∧
          s.report.diagnostics.map Diagnostic.told = s'.report.diagnostics.map Diagnostic.told ∧
          (s.report.summary.failed = 0 ∧ s'.stdout =
              "/* ".toList ++ (ctx.relative? p).getD p ++ " */\n".toList ++ s.stdout ++ ['\n'] ∨
            s.report.summary.failed = 1 ∧ s.stdout = [] ∧ s'.stdout = []))) ∧
      ((∃ t, sc.under = .fixed t) ∧ sc.under.resolve (some f) = sc.under.resolve (some p) ∨
        ∃ t, sc.under = .template t ∧
          (sc.under.resolve (some f) = sc.under.resolve (some p) ↔
            Path.isAbsolute f = true ∨ 2 ≤ (Path.names f).length ∨
            Path.fileName? env.cwd.path = none ∨
            Text.occursIn "\x7bdir\x7d".toList (Namespace.named t f) = false)) := by
  intro p s s'
  obtain ⟨sc, hoptions, hsc, hunder⟩ := exists_scoper hctx
  refine ⟨?_, ?_, sc, hoptions, fun hsame => ?_, ?_⟩
  · have hctx' : ({ a with files := [], stdin := true, stdinFilename := some f } :
        Arguments).context env tree = .ok ctx := hctx
    simp only [run, hctx', hstdin, Contents.read, if_true]
    rfl
  · have hctx' : ({ a with files := [f], stdin := false, watch := false } :
        Arguments).context env tree = .ok ctx := hctx
    simp only [run, hctx', Bool.false_eq_true, if_false]
    rfl
  · have hscope := scopeSource_congr hsc hsame source
    refine ⟨?_, fun hd hfull => ?_⟩
    · rw [hscope, fileOutcome, hread]
      rfl
    · have hpiped : Leaves id f source s (ctx.scopeSource source (some f)) :=
        runStdin_leaves hfull f source tree
      rw [hscope] at hpiped
      exact hpiped.agree (runOnce_leaves hd hfull hread)
  · rcases hunder with ⟨t, ht⟩ | ⟨t, ht⟩
    · exact .inl ⟨⟨t, ht⟩, by rw [ht]; rfl⟩
    · have hne := FileTree.names_ne_nil_of_readText hread
      rw [ht]
      exact .inr ⟨t, rfl, Namespace.resolve_template_join_iff hne env.cwd.path t⟩

/-- Two sheets of one name, one of them in a directory of its own. -/
def pipedTree : FileTree := .ofFiles [("w/a.css", ".a {}"), ("w/sub/a.css", ".a {}")]

/-- The directory `w`, with the text of both sheets on standard input. -/
def pipedSurroundings : Surroundings :=
  { Surroundings.inside "w" with stdin := .text ".a {}".toList }

/-- A run over the sheet on standard input under the name of a file. -/
def pipedRun (f : String) : RunResult :=
  { pagesArguments with stdin := true, stdinFilename := some f.toList }.run pipedSurroundings
    pipedTree

def givenRun (f : String) : RunResult :=
  { pagesArguments with files := [f.toList] }.run pipedSurroundings pipedTree

/-- The sheet in a directory of its own has the same namespace either way. -/
theorem piped_eq_given_nested :
    (pipedRun "sub/a.css").stdout = ".sub-a .a \x7b\x7d".toList ∧
      ∃ r, (pipedRun "sub/a.css").ending = .finished r ∧
        (givenRun "sub/a.css").ending = .finished r := by
  have hrun : (pagesArguments.context pipedSurroundings pipedTree).toOption.map (fun ctx =>
      (ctx.settings.outDir, decide (ctx.settings.options.under.resolve
        (some "sub/a.css".toList) =
          ctx.settings.options.under.resolve (some "/w/sub/a.css".toList)))) =
      some (none, true) := by decide +kernel
  obtain ⟨ctx, hctx, hf⟩ := exists_context hrun
  simp only [Prod.mk.injEq, decide_eq_true_eq] at hf
  obtain ⟨hd, hsame⟩ := hf
  obtain ⟨hpiped, hgiven, sc, hoptions, hagree, -⟩ := piped_eq_given
    (f := "sub/a.css".toList) hctx (by decide +kernel) rfl
  rw [← Scoper.under_ofOptions hoptions] at hsame
  obtain ⟨hsum, -, -⟩ := (hagree hsame).2 hd rfl
  refine ⟨by decide +kernel, _, congrArg RunResult.ending hpiped, ?_⟩
  rw [hsum]
  exact congrArg RunResult.ending hgiven

/-- A bare name is looked up in no directory: the namespace of the file is `.w-a`, and that of the
same text under the same name is `.-a`. -/
theorem piped_ne_given_bare : ¬ ∃ css, (pipedRun "a.css").stdout = css ∧
    (givenRun "a.css").stdout = "/* a.css */\n".toList ++ css ++ ['\n'] := by
  rintro ⟨css, rfl, h⟩
  revert h
  decide +kernel

end Arguments
end StyleScope
