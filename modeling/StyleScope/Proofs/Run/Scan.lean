import StyleScope.Proofs.FileTree.Listing
import StyleScope.Proofs.Run.Delivery

/-!
What a run goes by, and the files that a scan collects.

The workspace and the output directory are paths from the root. A file that a scan collects stands
below the workspace under some names, and its result goes to the same names below the output
directory, so that different files have different targets.
-/

namespace StyleScope

namespace Path

lemma place_join (cwd : Location) {p q : Path} (hp : isAbsolute p = true)
    (hq : isAbsolute q = false) : place cwd (join p q) = (place cwd p).enter (names q) := by
  rw [place_eq, place_eq, names_join p hq, Location.enter_append, FileTree.start, FileTree.start,
    if_pos hp, if_pos (isAbsolute_join hp)]

lemma isAbsolute_join_names {ns : List Text} (hns : ∀ n ∈ ns, IsName n) :
    isAbsolute (Text.join ['/'] ns) = false := by
  refine isAbsolute_join_segments (fun n hn => (hns n hn).2.2) fun n hn => ?_
  exact (hns n (List.mem_of_mem_head? hn)).1

lemma names_join_of_isName {ns : List Text} (hns : ∀ n ∈ ns, IsName n) :
    names (Text.join ['/'] ns) = ns := by
  rw [names_join_names fun n hn => (hns n hn).2.2, filter_of_isName hns]

lemma names_join_isName (p : Path) {ns : List Text} (hns : ∀ n ∈ ns, IsName n) :
    names (join p (Text.join ['/'] ns)) = names p ++ ns := by
  rw [names_join p (isAbsolute_join_names hns), names_join_of_isName hns]

lemma place_join_names (cwd : Location) {p : Path} (hp : isAbsolute p = true) {ns : List Text}
    (hns : ∀ n ∈ ns, IsName n) : place cwd (join p (Text.join ['/'] ns)) = place cwd p ++ ns := by
  rw [place_join cwd hp (isAbsolute_join_names hns), names_join_of_isName hns,
    enter_of_isName hns]

lemma place_foldl_join (cwd : Location) {p : Path} (hp : isAbsolute p = true) {ns : List Text}
    (hns : ∀ n ∈ ns, IsName n) : place cwd (ns.foldl join p) = place cwd p ++ ns := by
  rw [place_eq, place_eq, names_foldl_join p hns, Location.enter_append, FileTree.start,
    FileTree.start, if_pos hp, if_pos (isAbsolute_foldl_join hp ns), enter_of_isName hns]

end Path

namespace RunContext

variable {ctx : RunContext} {env : Surroundings} {a : Arguments} {tree : FileTree} {p : Path}

/-! ### The context -/

lemma ofConfig_eq_ok {cwd dir : Path} {c : ProjectConfig} (h : ofConfig a cwd c dir = .ok ctx) :
    ctx.workspace = Path.join cwd a.workspaceOrDefault ∧
      (∃ out : Option Path, ctx.settings.outDir = out.map (Path.join cwd)) ∧
      ignoredGlobs? ctx.workspace ctx.settings = some ctx.ignored ∧
      ctx.settings.options = (Settings.resolve a c dir).options ∧
      ∃ sc, Scoper.ofOptions ctx.settings.options = .ok sc ∧ ctx.pipeline = ⟨[sc.plugin]⟩ := by
  unfold ofConfig at h
  rcases hscoper : Scoper.ofOptions (Settings.resolve a c dir).options with e | scoper
  · simp [hscoper, Except.mapError, bind, Except.bind] at h
  · simp only [hscoper, Except.mapError, bind, Except.bind] at h
    split at h
    · contradiction
    · rename_i hglobs
      obtain rfl := Except.ok.inj h
      exact ⟨rfl, ⟨_, rfl⟩, hglobs, rfl, scoper, hscoper, rfl⟩

lemma context_eq_ok (h : a.context env tree = .ok ctx) : ∃ config dir,
    a.readConfig env tree = .ok (config, dir) ∧ ofConfig a env.cwd.path config dir = .ok ctx := by
  unfold Arguments.context at h
  cases hread : a.readConfig env tree with
  | error e =>
    rw [hread] at h
    contradiction
  | ok r =>
    rw [hread] at h
    exact ⟨r.1, r.2, rfl, h⟩

lemma isAbsolute_workspace (h : a.context env tree = .ok ctx) :
    Path.isAbsolute ctx.workspace = true := by
  obtain ⟨config, dir, -, hctx⟩ := context_eq_ok h
  rw [(ofConfig_eq_ok hctx).1]
  exact Path.isAbsolute_join rfl

lemma isAbsolute_outDir {d : Path} (h : a.context env tree = .ok ctx)
    (hd : ctx.settings.outDir = some d) : Path.isAbsolute d = true := by
  obtain ⟨config, dir, -, hctx⟩ := context_eq_ok h
  obtain ⟨-, ⟨out, hout⟩, -⟩ := ofConfig_eq_ok hctx
  rw [hout, Option.map_eq_some_iff] at hd
  obtain ⟨p, -, rfl⟩ := hd
  exact Path.isAbsolute_join rfl

/-! ### The run -/

def allOutcomes (ctx : RunContext) (env : Surroundings) (a : Arguments) (tree : FileTree) :
    List Outcome :=
  ctx.outcomes env tree (ctx.collect env a tree)

def initial (ctx : RunContext) (env : Surroundings) (a : Arguments) (tree : FileTree) : RunState :=
  ⟨tree, [], { summary := { files := (ctx.collect env a tree).length } }⟩

def final (ctx : RunContext) (env : Surroundings) (a : Arguments) (tree : FileTree) : RunState :=
  ctx.settleAll env (ctx.initial env a tree) (ctx.allOutcomes env a tree)

/-- The outcomes of a run that are not counted as failed. -/
def successes (ctx : RunContext) (env : Surroundings) (a : Arguments) (tree : FileTree) :
    List Outcome :=
  ctx.delivered env (ctx.initial env a tree) (ctx.allOutcomes env a tree)

lemma successes_congr {b : Arguments} (h : ctx.collect env a tree = ctx.collect env b tree) :
    ctx.successes env a tree = ctx.successes env b tree := by
  rw [successes, initial, allOutcomes, h]
  rfl

lemma final_congr {b : Arguments} (h : ctx.collect env a tree = ctx.collect env b tree) :
    ctx.final env a tree = ctx.final env b tree := by
  rw [final, initial, allOutcomes, h]
  rfl

lemma grows_final {d : Path} (hd : ctx.settings.outDir = some d) (habs : Path.isAbsolute d = true)
    (env : Surroundings) (a : Arguments) (tree : FileTree) :
    tree.Grows (ctx.final env a tree).tree :=
  grows_settleAll hd habs env (ctx.initial env a tree) (ctx.allOutcomes env a tree)

lemma isTree_final {d : Path} (hd : ctx.settings.outDir = some d) (habs : Path.isAbsolute d = true)
    (htree : tree.IsTree) (env : Surroundings) (a : Arguments) :
    (ctx.final env a tree).tree.IsTree := by
  have hinitial : (ctx.initial env a tree).tree.IsTree := htree
  exact isTree_settleAll hd habs hinitial env (ctx.allOutcomes env a tree)

lemma run_eq (hctx : a.context env tree = .ok ctx) (hstdin : a.stdin = false)
    (hwatch : a.watch = false) : (a.run env tree).tree = (ctx.final env a tree).tree ∧
      (a.run env tree).ending = .finished (ctx.final env a tree).report.summary := by
  have hclose (r : RunReport) (f : OutputFormat) : (r.close f).summary = r.summary := by
    cases f <;> rfl
  simp only [Arguments.run, hctx, hstdin, hwatch, Bool.false_eq_true, if_false, runOnce,
    RunState.result, hclose]
  exact ⟨rfl, rfl⟩

/-! ### Scans -/

lemma mem_collect_iff (hfiles : a.files = []) : p ∈ ctx.collect env a tree ↔
    p ∈ tree.filesUnder env.cwd ctx.workspace ∧ ctx.isSheet p = true ∧
      ctx.isIgnored p = false := by
  simp [collect, hfiles, select]

/-- What a scan finds, before it is sorted. -/
def found (ctx : RunContext) (env : Surroundings) (tree : FileTree) : List Path :=
  (tree.filesUnder env.cwd ctx.workspace).filter fun p => ctx.isSheet p && !ctx.isIgnored p

lemma collect_of_sorted (hfiles : a.files = [])
    (hsorted : (ctx.found env tree).Pairwise fun p q => Path.le p q = true) :
    ctx.collect env a tree = ctx.found env tree := by
  rw [collect, hfiles, List.isEmpty_nil, if_pos rfl]
  exact List.mergeSort_of_pairwise hsorted

lemma exists_of_mem_collect (htree : tree.IsTree) (hfiles : a.files = [])
    (hp : p ∈ ctx.collect env a tree) : ∃ base ns c,
      tree.locate env.cwd ctx.workspace = .ok base ∧ tree.get? (base ++ ns) = some (.file c) ∧
      (∀ n ∈ ns, Path.IsName n) ∧ p = ns.foldl Path.join ctx.workspace := by
  obtain ⟨hmem, -, -⟩ := (mem_collect_iff hfiles).mp hp
  cases hws : tree.locate env.cwd ctx.workspace with
  | error e => simp [FileTree.filesUnder, hws] at hmem
  | ok base =>
    obtain ⟨ns, c, hfile, rfl⟩ := (htree.mem_filesUnder_iff hws).mp hmem
    exact ⟨base, ns, c, rfl, hfile, htree.isName_below hfile, rfl⟩

lemma path_outcome (ctx : RunContext) (p : Path) (text : Except FileError Text) :
    (ctx.outcome p text).path = p := by
  unfold outcome
  cases text <;> rfl

lemma isAbsolute_path_of_mem (hctx : a.context env tree = .ok ctx) {o : Outcome}
    (ho : o ∈ ctx.allOutcomes env a tree) : Path.isAbsolute o.path = true := by
  obtain ⟨p, hp, rfl⟩ := List.mem_map.mp ho
  rw [path_outcome]
  by_cases hfiles : a.files = []
  · obtain ⟨hmem, -⟩ := (mem_collect_iff hfiles).mp hp
    unfold FileTree.filesUnder at hmem
    split at hmem
    · simp at hmem
    · obtain ⟨f, -, hf⟩ := List.mem_filterMap.mp hmem
      obtain ⟨ns, -, rfl⟩ := Option.map_eq_some_iff.mp hf
      exact Path.isAbsolute_foldl_join (isAbsolute_workspace hctx) ns
  · rw [collect, if_neg (by simpa using hfiles)] at hp
    obtain ⟨f, -, rfl⟩ := List.mem_map.mp hp
    exact Path.isAbsolute_join rfl

lemma target_outcome (hws : Path.isAbsolute ctx.workspace = true) {d : Path}
    (hd : Path.isAbsolute d = true) {ns : List Text} (hns : ∀ n ∈ ns, Path.IsName n)
    (text : Except FileError Text) (cwd : Location) :
    let target := (ctx.outcome (ns.foldl Path.join ctx.workspace) text).target d
    Path.names target = Path.names d ++ ns ∧ Path.place cwd target = Path.place cwd d ++ ns := by
  have houtput : (ctx.outcome (ns.foldl Path.join ctx.workspace) text).output =
      Text.join ['/'] ns := by
    unfold outcome relative?
    rw [Path.relativeTo?_foldl_join hws hns]
    cases text <;> rfl
  simp only [Outcome.target, houtput]
  exact ⟨Path.names_join_isName d hns, Path.place_join_names cwd hd hns⟩

lemma exists_names_of_mem (hctx : a.context env tree = .ok ctx) (htree : tree.IsTree)
    (hfiles : a.files = []) {d : Path} (hd : ctx.settings.outDir = some d) {o : Outcome}
    (ho : o ∈ ctx.allOutcomes env a tree) : ∃ base ns c,
      tree.locate env.cwd ctx.workspace = .ok base ∧ tree.get? (base ++ ns) = some (.file c) ∧
      (∀ n ∈ ns, Path.IsName n) ∧
      o = ctx.outcome (ns.foldl Path.join ctx.workspace)
        (tree.readText env.cwd (ns.foldl Path.join ctx.workspace)) ∧
      Path.names (o.target d) = Path.names d ++ ns ∧
      Path.place env.cwd (o.target d) = Path.place env.cwd d ++ ns := by
  obtain ⟨p, hp, rfl⟩ := List.mem_map.mp ho
  obtain ⟨base, ns, c, hbase, hfile, hns, rfl⟩ := exists_of_mem_collect htree hfiles hp
  obtain ⟨hnames, hplace⟩ :=
    target_outcome (isAbsolute_workspace hctx) (isAbsolute_outDir hctx hd) hns _ env.cwd
  exact ⟨base, ns, c, hbase, hfile, hns, rfl, hnames, hplace⟩

/-- **The targets of a scan** lie in the output directory, and different files have different
ones. -/
lemma target_scan (hctx : a.context env tree = .ok ctx) (htree : tree.IsTree)
    (hfiles : a.files = []) {d : Path} (hd : ctx.settings.outDir = some d) {o o' : Outcome}
    (ho : o ∈ ctx.allOutcomes env a tree) (ho' : o' ∈ ctx.allOutcomes env a tree) :
    Path.place env.cwd d <+: Path.place env.cwd (o.target d) ∧
      (Path.place env.cwd (o.target d) = Path.place env.cwd (o'.target d) → o = o') := by
  obtain ⟨-, ns, -, -, -, -, heq, -, hplace⟩ := exists_names_of_mem hctx htree hfiles hd ho
  obtain ⟨-, ms, -, -, -, -, heq', -, hplace'⟩ := exists_names_of_mem hctx htree hfiles hd ho'
  rw [hplace, hplace']
  refine ⟨List.prefix_append _ _, fun h => ?_⟩
  rw [heq, heq', List.append_cancel_left h]

end RunContext
end StyleScope
