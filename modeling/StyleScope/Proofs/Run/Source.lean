import StyleScope.Proofs.Run.Scan
import StyleScope.Proofs.Scope.Frame

/-!
What a run makes of one source.

In a run the only plugin is the scoper of the run's settings, so what comes of a source is told by
the namespace that the scoper finds for the source's file, and by the source itself. The namespaces
of settings are selectors and templates, so that a file always has one.
-/

namespace StyleScope

namespace Scoper

/-- Scopes a sheet under a namespace; without one it stays as it is. -/
def scopeUnder (sc : Scoper) (ns : Option Text) (sheet : Sheet) : Sheet :=
  match ns with
  | none => sheet
  | some ns => sc.scopeSheet ns sheet

lemma run_plugin (sc : Scoper) (sheet : Sheet) :
    sc.plugin.run sheet =
      match sc.under.resolve sheet.file with
      | .error e => .error e.message
      | .ok ns => .ok (sc.scopeUnder ns sheet) := by
  unfold plugin
  dsimp only
  cases hresolve : sc.under.resolve sheet.file with
  | error e =>
    have happly : sc.apply sheet = .error e := by
      rw [apply, hresolve]
      rfl
    rw [happly]
  | ok ns =>
    obtain ⟨report, happly⟩ : ∃ report, sc.apply sheet = .ok (sc.scopeUnder ns sheet, report) := by
      rw [apply, hresolve]
      cases ns <;> exact ⟨_, rfl⟩
    rw [happly]

lemma scopeSheet_withFile (sc : Scoper) (ns : Text) (sheet : Sheet) (file : Option Text) :
    sc.scopeSheet ns { sheet with file := file } =
      { sc.scopeSheet ns sheet with file := file } := by
  have hfold (l : List (NodeId × Rule)) (s : Sheet) :
      l.foldl (fun s p => s.modifyRule p.1 (sc.scopeRule ns)) { s with file := file } =
        { l.foldl (fun s p => s.modifyRule p.1 (sc.scopeRule ns)) s with file := file } := by
    induction l generalizing s with
    | nil => rfl
    | cons p l ih => exact ih (s.modifyRule p.1 (sc.scopeRule ns))
  have heligible (id : NodeId) :
      ({ sheet with file := file } : Sheet).isEligible id = sheet.isEligible id := by
    refine Sheet.isEligible_congr (fun k => ?_) id
    rfl
  unfold scopeSheet
  simp only [heligible]
  exact hfold _ sheet

lemma toCss_scopeUnder (sc : Scoper) (ns : Option Text) (source : Text)
    (file file' : Option Text) :
    (sc.scopeUnder ns (Sheet.parse source file).sheet).toCss =
      (sc.scopeUnder ns (Sheet.parse source file').sheet).toCss := by
  have hfile : (Sheet.parse source file).sheet =
      { (Sheet.parse source file').sheet with file := file } := rfl
  rw [hfile]
  cases ns with
  | none => rfl
  | some ns =>
    simp only [scopeUnder]
    rw [scopeSheet_withFile]
    rfl

end Scoper

/-- A namespace that can be written in settings: a selector or a template. -/
def Namespace.IsWritten (n : Namespace) : Prop := (∃ t, n = .fixed t) ∨ ∃ t, n = .template t

lemma Namespace.IsWritten.exists_resolve {n : Namespace} (h : n.IsWritten) (file : Path) :
    ∃ ns, n.resolve (some file) = .ok ns := by
  rcases h with ⟨t, rfl⟩ | ⟨t, rfl⟩
  · exact ⟨_, rfl⟩
  · exact ⟨_, rfl⟩

lemma Settings.isWritten_under (a : Arguments) (c : ProjectConfig) (dir : Path) :
    (resolve a c dir).options.under.IsWritten := by
  have hnamespace {l l' : Option Text} {n : Namespace} (h : namespace? l l' = some n) :
      n.IsWritten := by
    unfold namespace? at h
    cases l with
    | some t => exact .inl ⟨t, (Option.some.inj h).symm⟩
    | none =>
      obtain ⟨t, -, ht⟩ := Option.map_eq_some_iff.mp h
      exact .inr ⟨t, ht.symm⟩
  simp only [resolve, mergeOptions]
  cases hargs : namespace? a.under a.template with
  | some n => exact hnamespace hargs
  | none =>
    cases hconfig : namespace? c.under c.template with
    | some n => exact hnamespace hconfig
    | none => exact .inl ⟨_, rfl⟩

namespace RunContext

variable {ctx : RunContext} {env : Surroundings} {a : Arguments} {tree : FileTree} {sc : Scoper}

lemma exists_scoper (h : a.context env tree = .ok ctx) : ∃ sc,
    Scoper.ofOptions ctx.settings.options = .ok sc ∧ ctx.pipeline = ⟨[sc.plugin]⟩ ∧
      sc.under.IsWritten := by
  obtain ⟨config, dir, -, hctx⟩ := context_eq_ok h
  obtain ⟨-, -, -, hoptions, sc, hsc, hpipeline⟩ := ofConfig_eq_ok hctx
  have hunder := Settings.isWritten_under a config dir
  rw [← hoptions, ← Scoper.under_ofOptions hsc] at hunder
  exact ⟨sc, hsc, hpipeline, hunder⟩

/-- **What comes of a source** in a run. -/
lemma scopeSource_eq (hsc : ctx.pipeline = ⟨[sc.plugin]⟩) (source : Text) (file : Option Path) :
    ctx.scopeSource source file =
      match sc.under.resolve file with
      | .error e => .failed (.ofNamespace e.message)
      | .ok ns =>
        if (Sheet.parse source file).errors = [] then
          .scoped (sc.scopeUnder ns (Sheet.parse source file).sheet).toCss
        else .faulty (Sheet.parse source file).errors := by
  have hrun := sc.run_plugin (Sheet.parse source file).sheet
  have hfile : (Sheet.parse source file).sheet.file = file := rfl
  rw [hfile] at hrun
  unfold scopeSource Pipeline.process
  rw [hsc]
  simp only [List.foldlM_cons, List.foldlM_nil, Pipeline.runPlugin, hrun]
  rcases sc.under.resolve file with e | ns
  · rfl
  · simp only [bind, Except.bind, pure, Except.pure, List.isEmpty_iff]
    rfl

lemma scopeSource_eq_scoped (hsc : ctx.pipeline = ⟨[sc.plugin]⟩) {source css : Text}
    {file : Option Path} :
    ctx.scopeSource source file = .scoped css ↔ ∃ ns, sc.under.resolve file = .ok ns ∧
      (Sheet.parse source file).errors = [] ∧
      css = (sc.scopeUnder ns (Sheet.parse source file).sheet).toCss := by
  rw [scopeSource_eq hsc]
  cases sc.under.resolve file with
  | error e => simp
  | ok ns =>
    by_cases herrors : (Sheet.parse source file).errors = []
    · simp [herrors, eq_comm]
    · simp [herrors]

/-- **The file of a source** counts only for its namespace. -/
lemma scopeSource_congr (hsc : ctx.pipeline = ⟨[sc.plugin]⟩) {file file' : Option Path}
    (h : sc.under.resolve file = sc.under.resolve file') (source : Text) :
    ctx.scopeSource source file = ctx.scopeSource source file' := by
  have herrors : (Sheet.parse source file).errors = (Sheet.parse source file').errors := rfl
  rw [scopeSource_eq hsc, scopeSource_eq hsc, h, herrors]
  simp only [sc.toCss_scopeUnder _ source file file']

end RunContext
end StyleScope
