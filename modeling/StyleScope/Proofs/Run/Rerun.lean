import StyleScope.Proofs.Glob.Literal
import StyleScope.Proofs.Run.Outputs

/-!
Scanning a workspace that the output is written into.

The output directory is kept out of a scan by a glob made of its path. When the path is written in
names only, and no name has a character that is special in globs, the scan never collects a file
that lies in the output directory. The same command then collects the same files a second time, and
leaves what the first run left.
-/

namespace StyleScope

namespace Arguments

variable {a : Arguments} {env : Surroundings}

def configPath (a : Arguments) (env : Surroundings) : Path :=
  match a.config with
  | some p => p
  | none => Path.join (Path.join env.cwd.path a.workspaceOrDefault) ProjectConfig.fileName

lemma readConfig_congr {t t' : FileTree} {r : ProjectConfig × Path}
    (htext : ∀ text, t.readText env.cwd (a.configPath env) = .ok text →
      t'.readText env.cwd (a.configPath env) = .ok text)
    (hexists : a.config = none → t'.exists? env.cwd (a.configPath env) =
      t.exists? env.cwd (a.configPath env))
    (h : a.readConfig env t = .ok r) : a.readConfig env t' = .ok r := by
  unfold readConfig at h ⊢
  cases hconfig : a.config with
  | some p =>
    simp only [configPath, hconfig] at htext h ⊢
    cases hread : t.readText env.cwd p with
    | error e => simp [hread, bind, Except.bind, Except.mapError] at h
    | ok text => rwa [htext text hread, ← hread]
  | none =>
    simp only [configPath, hconfig, true_implies] at htext hexists h ⊢
    rw [hexists]
    split_ifs at h ⊢
    · cases hread : t.readText env.cwd
        (Path.join (Path.join env.cwd.path a.workspaceOrDefault) ProjectConfig.fileName) with
      | error e => simp [hread, bind, Except.bind, Except.mapError] at h
      | ok text => rwa [htext text hread, ← hread]
    · exact h

end Arguments

namespace RunContext

/-- The output directory lies below the workspace under some names, which stand for themselves in a
glob. -/
structure WritesBelow (ctx : RunContext) (d : Path) (names : List Text) : Prop where
  outDir : ctx.settings.outDir = some d
  inside : Path.relativeTo? d ctx.workspace = some (Text.join ['/'] names)
  ne_nil : names ≠ []
  isName : ∀ n ∈ names, Path.IsName n
  plain : ∀ n ∈ names, ∀ c ∈ n, Glob.isSpecial c = false

variable {ctx : RunContext} {env : Surroundings} {a : Arguments} {tree : FileTree} {d p : Path}
  {names : List Text} {o : Outcome}

/-! ### The scan stays out of the output directory -/

lemma WritesBelow.names_eq (h : ctx.WritesBelow d names) (hctx : a.context env tree = .ok ctx) :
    Path.names d = Path.names ctx.workspace ++ names := by
  have habs := isAbsolute_outDir hctx h.outDir
  obtain ⟨-, hnames⟩ := Path.relativeTo?_eq_some habs (isAbsolute_workspace hctx) h.inside
  rw [hnames, Path.names_join_of_isName h.isName]

lemma WritesBelow.place_eq (h : ctx.WritesBelow d names) (hctx : a.context env tree = .ok ctx)
    (cwd : Location) : Path.place cwd d = Path.place cwd ctx.workspace ++ names := by
  rw [Path.place_eq, Path.place_eq, FileTree.start, FileTree.start,
    if_pos (isAbsolute_outDir hctx h.outDir), if_pos (isAbsolute_workspace hctx),
    h.names_eq hctx, Location.enter_append, Path.enter_of_isName h.isName]

lemma WritesBelow.exists_glob (h : ctx.WritesBelow d names) (hctx : a.context env tree = .ok ctx) :
    ∃ g ∈ ctx.ignored, ∀ x, g.isMatch (Text.join ['/'] names ++ '/' :: x) = true := by
  have hplain : ∀ c ∈ Text.join ['/'] names, Glob.isSpecial c = false := by
    intro c hc
    rcases Text.mem_join hc with hc | ⟨n, hn, hc⟩
    · rw [List.mem_singleton.mp hc]
      decide
    · exact h.plain n hn c hc
  obtain ⟨g, hg, hmatch⟩ := Glob.exists_parse? hplain
  obtain ⟨config, dir, -, hof⟩ := context_eq_ok hctx
  obtain ⟨-, -, hglobs, -⟩ := ofConfig_eq_ok hof
  refine ⟨g, ?_, hmatch⟩
  have hnonempty : Text.join ['/'] names ≠ [] := by
    intro hnil
    have hnames := Path.names_join_of_isName h.isName
    rw [hnil] at hnames
    exact h.ne_nil hnames.symm
  have hout : outputIgnored ctx.workspace ctx.settings.outDir = some g := by
    simpa [outputIgnored, h.outDir, h.inside, hnonempty] using hg
  unfold ignoredGlobs? at hglobs
  rw [hout] at hglobs
  obtain ⟨globs, -, hignored⟩ := Option.map_eq_some_iff.mp hglobs
  rw [← hignored]
  simp

lemma WritesBelow.isIgnored (h : ctx.WritesBelow d names) (hctx : a.context env tree = .ok ctx)
    {rest : List Text} (hrest : ∀ n ∈ rest, Path.IsName n) (hne : rest ≠ []) :
    ctx.isIgnored ((names ++ rest).foldl Path.join ctx.workspace) = true := by
  obtain ⟨g, hg, hmatch⟩ := h.exists_glob hctx
  have hall : ∀ n ∈ names ++ rest, Path.IsName n := fun n hn =>
    (List.mem_append.mp hn).elim (h.isName n) (hrest n)
  have hrelative : ctx.relative? ((names ++ rest).foldl Path.join ctx.workspace) =
      some (Text.join ['/'] names ++ '/' :: Text.join ['/'] rest) := by
    rw [relative?, Path.relativeTo?_foldl_join (isAbsolute_workspace hctx) hall,
      Text.join_append _ h.ne_nil hne]
    rfl
  rw [RunContext.isIgnored, hrelative]
  exact List.any_eq_true.mpr ⟨g, hg, hmatch _⟩

/-- **A scan never collects a file that lies in the output directory.** -/
lemma WritesBelow.place_ne (h : ctx.WritesBelow d names) (hctx : a.context env tree = .ok ctx)
    (hfiles : a.files = []) {t : FileTree} (ht : t.IsTree) (hp : p ∈ ctx.collect env a t)
    {rest : List Text} (hne : rest ≠ []) :
    Path.place env.cwd p ≠ Path.place env.cwd d ++ rest := by
  intro hplace
  obtain ⟨-, -, hnot⟩ := (mem_collect_iff hfiles).mp hp
  obtain ⟨-, ns, -, -, -, hns, rfl⟩ := exists_of_mem_collect ht hfiles hp
  rw [Path.place_foldl_join env.cwd (isAbsolute_workspace hctx) hns, h.place_eq hctx,
    List.append_assoc, List.append_cancel_left_eq] at hplace
  subst hplace
  rw [h.isIgnored hctx (fun n hn => hns n (List.mem_append_right names hn)) hne] at hnot
  contradiction

/-! ### What the first run leaves -/

lemma final_of_locate_error (hfiles : a.files = []) {e : FileError}
    (hbase : tree.locate env.cwd ctx.workspace = .error e) :
    (ctx.final env a tree).tree = tree := by
  have hcollect : ctx.collect env a tree = [] := by
    simp [collect, hfiles, select, FileTree.filesUnder, hbase]
  simp [final, allOutcomes, outcomes, hcollect, initial]

lemma isSome_of_prefix_workspace (hctx : a.context env tree = .ok ctx) (htree : tree.IsTree)
    {base : Location} {us : List Text}
    (hbase : tree.locate env.cwd ctx.workspace = .ok base)
    (hdir : tree.get? base = some .directory) (hus : us <+: Path.names ctx.workspace) :
    (tree.get? (Location.enter [] us)).isSome = true := by
  have hwalk := (FileTree.locate_eq_ok.mp hbase).2
  rw [FileTree.start, if_pos (isAbsolute_workspace hctx)] at hwalk
  have hreach : tree.reach? [] (Path.names ctx.workspace) = some base := by
    rw [Path.names, FileTree.reach?_filter]
    exact FileTree.reach?_eq_some.mpr ⟨hwalk, hdir⟩
  obtain ⟨vs, hvs⟩ := hus
  have hnames := (FileTree.reach?_eq_some.mp hreach).1
  rw [← hvs, FileTree.walk_append] at hnames
  cases hk : tree.walk [] us with
  | error e => simp [hk] at hnames
  | ok k =>
    rw [← FileTree.enter_of_walk hk]
    exact htree.connected.isSome_of_walk (by simp) hk

section Rerun

variable (h : ctx.WritesBelow d names) (hctx : a.context env tree = .ok ctx)
  (htree : tree.IsTree) (hfiles : a.files = [])

include h hctx htree hfiles

lemma exists_place_of_mem_successes (ho : o ∈ ctx.successes env a tree) : ∃ rest, rest ≠ [] ∧
    Path.place env.cwd (o.target d) = Path.place env.cwd d ++ rest := by
  have habs := isAbsolute_outDir hctx h.outDir
  obtain ⟨base, ns, c, hbase, hfile, -, -, -, hplace⟩ :=
    exists_names_of_mem hctx htree hfiles h.outDir (mem_of_mem_delivered ho)
  refine ⟨ns, ?_, hplace⟩
  rintro rfl
  -- else the workspace is a file, and there is a file in it
  obtain ⟨-, -, css, -, -, hget⟩ := exists_get?_target h.outDir habs ho
  rw [hplace, List.append_nil, h.place_eq hctx, ← FileTree.place_of_locate hbase] at hget
  have hdirectory := (isTree_final h.outDir habs htree env a).connected.directory_of_append h.ne_nil
    (Option.isSome_of_mem hget)
  rw [List.append_nil] at hfile
  exact (grows_final h.outDir habs env a tree).ne_directory hfile hdirectory

lemma file_final_iff {j : Location} (hj : ∀ rest, rest ≠ [] → j ≠ Path.place env.cwd d ++ rest)
    (c : Contents) :
    (ctx.final env a tree).tree.get? j = some (.file c) ↔ tree.get? j = some (.file c) := by
  have habs := isAbsolute_outDir hctx h.outDir
  rcases file_settleAll h.outDir habs env (ctx.initial env a tree) (ctx.allOutcomes env a tree) j
    with ⟨o, ho, css, -, hplace, -⟩ | ⟨-, hfile⟩
  · obtain ⟨rest, hne, hrest⟩ := exists_place_of_mem_successes h hctx htree hfiles ho
    exact absurd (hplace.symm.trans hrest) (hj rest hne)
  · exact hfile c

lemma collect_final : ctx.collect env a (ctx.final env a tree).tree = ctx.collect env a tree := by
  have habs := isAbsolute_outDir hctx h.outDir
  have hws := isAbsolute_workspace hctx
  have hfinal := isTree_final h.outDir habs htree env a
  have hgrows := grows_final h.outDir habs env a tree
  cases hbase : tree.locate env.cwd ctx.workspace with
  | error e => rw [final_of_locate_error hfiles hbase]
  | ok base =>
    have hbase' := hgrows.locate hbase
    simp only [collect, hfiles, List.isEmpty_nil, if_true, select]
    refine Path.mergeSort_eq ((hfinal.nodup_filesUnder _ _).filter _)
      ((htree.nodup_filesUnder _ _).filter _) (fun p => ?_) (fun p hp q hq heq => ?_)
    · rw [List.mem_filter, List.mem_filter]
      constructor
      · rintro ⟨hp, hkeep⟩
        obtain ⟨ns, c, hfile, rfl⟩ := (hfinal.mem_filesUnder_iff hbase').mp hp
        have hns := hfinal.isName_below hfile
        refine ⟨(htree.mem_filesUnder_iff hbase).mpr ⟨ns, c, ?_, rfl⟩, hkeep⟩
        refine (file_final_iff h hctx htree hfiles (fun rest hne heq => ?_) c).mp hfile
        -- what is new lies in the output directory and is left out
        rw [h.place_eq hctx, ← FileTree.place_of_locate hbase, List.append_assoc,
          List.append_cancel_left_eq] at heq
        subst heq
        rw [h.isIgnored hctx (fun n hn => hns n (List.mem_append_right names hn)) hne] at hkeep
        simp at hkeep
      · rintro ⟨hp, hkeep⟩
        obtain ⟨ns, c, hfile, rfl⟩ := (htree.mem_filesUnder_iff hbase).mp hp
        obtain ⟨c', hfile'⟩ := hgrows.file hfile
        exact ⟨(hfinal.mem_filesUnder_iff hbase').mpr ⟨ns, c', hfile', rfl⟩, hkeep⟩
    · exact hfinal.eq_of_components hws hbase' (List.mem_filter.mp hp).1
        (List.mem_filter.mp hq).1 heq

lemma readText_final (hp : p ∈ ctx.collect env a tree) :
    (ctx.final env a tree).tree.readText env.cwd p = tree.readText env.cwd p := by
  have habs := isAbsolute_outDir hctx h.outDir
  have hws := isAbsolute_workspace hctx
  have hfinal := isTree_final h.outDir habs htree env a
  have hgrows := grows_final h.outDir habs env a tree
  have hout : ∀ rest, rest ≠ [] → Path.place env.cwd p ≠ Path.place env.cwd d ++ rest :=
    fun rest hne => h.place_ne hctx hfiles htree hp hne
  obtain ⟨base, ns, c, hbase, hfile, hns, rfl⟩ := exists_of_mem_collect htree hfiles hp
  rw [Path.place_foldl_join env.cwd hws hns, ← FileTree.place_of_locate hbase] at hout
  have hfile' := (file_final_iff h hctx htree hfiles hout c).mpr hfile
  have hbase' := hgrows.locate hbase
  -- the workspace itself may be the file
  by_cases hne : ns = []
  · subst hne
    rw [List.append_nil] at hfile hfile'
    rw [List.foldl_nil, FileTree.readText_of_locate hbase, FileTree.readText_of_locate hbase',
      hfile, hfile']
  · have hlocate := htree.connected.locate_below hws hbase hns hne (Option.isSome_of_mem hfile)
    have hlocate' := hfinal.connected.locate_below hws hbase' hns hne (Option.isSome_of_mem hfile')
    have hsame := hlocate'.trans hlocate.symm
    cases hl : tree.locate env.cwd (ns.foldl Path.join ctx.workspace) with
    | error e =>
      rw [hl] at hsame
      simp [FileTree.readText, hl, hsame, bind, Except.bind]
    | ok l =>
      rw [hl] at hsame
      have hplace := FileTree.place_of_locate hl
      rw [Path.place_foldl_join env.cwd hws hns, ← FileTree.place_of_locate hbase] at hplace
      rw [FileTree.readText_of_locate hl, FileTree.readText_of_locate hsame, hplace, hfile, hfile']

lemma allOutcomes_final :
    ctx.allOutcomes env a (ctx.final env a tree).tree = ctx.allOutcomes env a tree := by
  unfold allOutcomes outcomes
  rw [collect_final h hctx htree hfiles]
  refine List.map_congr_left fun p hp => ?_
  rw [readText_final h hctx htree hfiles hp]

/-- **The second run** counts what the first one counted, and leaves the same tree. -/
lemma final_final :
    (ctx.final env a (ctx.final env a tree).tree).report.summary =
      (ctx.final env a tree).report.summary ∧
    ∀ l, (ctx.final env a (ctx.final env a tree).tree).tree.get? l =
      (ctx.final env a tree).tree.get? l := by
  have habs := isAbsolute_outDir hctx h.outDir
  have hinitial : (ctx.initial env a tree).tree.IsTree := htree
  have hsum : (ctx.initial env a (ctx.final env a tree).tree).report.summary =
      (ctx.initial env a tree).report.summary := by
    simp only [initial, collect_final h hctx htree hfiles]
  have hagain :=
    settleAll_again h.outDir habs hinitial hsum (fun _ => rfl) fun o ho css hresult => ?_
  · rw [final, allOutcomes_final h hctx htree hfiles]
    exact hagain
  · obtain ⟨o', ho', css', hresult', hplace, hget⟩ := exists_get?_target h.outDir habs ho
    obtain rfl := eq_of_place_target hctx htree hfiles h.outDir ho' ho hplace
    obtain rfl : css' = css := by simpa [hresult'] using hresult
    exact hget

/-! ### The configuration -/

lemma readText_final_of_ok {text : Text}
    (hout : ∀ rest, rest ≠ [] → Path.place env.cwd p ≠ Path.place env.cwd d ++ rest)
    (hread : tree.readText env.cwd p = .ok text) :
    (ctx.final env a tree).tree.readText env.cwd p = .ok text := by
  have hgrows := grows_final h.outDir (isAbsolute_outDir hctx h.outDir) env a tree
  cases hl : tree.locate env.cwd p with
  | error e => simp [FileTree.readText, hl, bind, Except.bind] at hread
  | ok l =>
    rw [← FileTree.place_of_locate hl] at hout
    rw [FileTree.readText_of_locate hl] at hread
    rw [FileTree.readText_of_locate (hgrows.locate hl)]
    rcases hget : tree.get? l with _ | _ | c
    · simp [hget] at hread
    · simp [hget] at hread
    · rw [hget] at hread
      rw [(file_final_iff h hctx htree hfiles hout c).mpr hget]
      exact hread

lemma head?_of_new {base : Location} {n : Text}
    (hbase : tree.locate env.cwd ctx.workspace = .ok base)
    (hnone : tree.get? (base ++ [n]) = none)
    (hsome : ((ctx.final env a tree).tree.get? (base ++ [n])).isSome = true) :
    names.head? = some n := by
  have habs := isAbsolute_outDir hctx h.outDir
  have hws := isAbsolute_workspace hctx
  have hgrows := grows_final h.outDir habs env a tree
  have hdir : tree.get? base = some .directory := by
    have hfinal := (isTree_final h.outDir habs htree env a).connected.directory_of_append
      (by simp) hsome
    obtain ⟨e, he⟩ := Option.isSome_iff_exists.mp (htree.connected.isSome_of_locate hws hbase)
    cases e with
    | directory => exact he
    | file c => exact absurd hfinal (hgrows.ne_directory he)
  obtain ⟨o, ho, us, hus, henter⟩ := exists_of_settleAll h.outDir habs hnone hsome
  obtain ⟨-, ns, -, -, -, hns, -, htarget, -⟩ := exists_names_of_mem hctx htree hfiles h.outDir ho
  rw [htarget, h.names_eq hctx, List.append_assoc] at hus
  -- what leads to the workspace is there already, so the new name is behind it
  rcases List.prefix_or_prefix_of_prefix hus (List.prefix_append _ _) with hfront | ⟨vs, rfl⟩
  · have hthere := isSome_of_prefix_workspace hctx htree hbase hdir hfront
    simp [← henter, hnone] at hthere
  · have hvs := (List.prefix_append_right_inj _).mp hus
    have hall : ∀ v ∈ vs, Path.IsName v := fun v hv =>
      (List.mem_append.mp (hvs.subset hv)).elim (h.isName v) (hns v)
    have hplace : Location.enter [] (Path.names ctx.workspace) = base := by
      rw [FileTree.place_of_locate hbase, Path.place_eq, FileTree.start, if_pos hws]
    rw [Location.enter_append, hplace, Path.enter_of_isName hall, List.append_cancel_left_eq]
      at henter
    rw [← henter] at hvs
    obtain ⟨m, ms, rfl⟩ := List.exists_cons_of_ne_nil h.ne_nil
    rw [List.cons_append, List.cons_prefix_cons] at hvs
    rw [List.head?_cons, hvs.1]

lemma exists?_final {n : Text} (hn : Path.IsName n)
    (hapart : ¬ Path.place env.cwd (Path.join ctx.workspace n) <+: Path.place env.cwd d) :
    (ctx.final env a tree).tree.exists? env.cwd (Path.join ctx.workspace n) =
      tree.exists? env.cwd (Path.join ctx.workspace n) := by
  have habs := isAbsolute_outDir hctx h.outDir
  have hws := isAbsolute_workspace hctx
  have hfinal := isTree_final h.outDir habs htree env a
  have hgrows := grows_final h.outDir habs env a tree
  have hns : ∀ m ∈ [n], Path.IsName m := by simpa using hn
  cases hbase : tree.locate env.cwd ctx.workspace with
  | error e => rw [final_of_locate_error hfiles hbase]
  | ok base =>
    have hbase' := hgrows.locate hbase
    have hplace : Path.place env.cwd (Path.join ctx.workspace n) = base ++ [n] := by
      rw [FileTree.place_of_locate hbase]
      exact Path.place_foldl_join env.cwd hws hns
    have hhead : names.head? ≠ some n := by
      intro hhead
      obtain ⟨ms, rfl⟩ := List.head?_eq_some_iff.mp hhead
      rw [hplace, h.place_eq hctx, ← FileTree.place_of_locate hbase,
        List.prefix_append_right_inj] at hapart
      simp at hapart
    by_cases hthere : (tree.get? (base ++ [n])).isSome = true
    · -- it leads to the same place in both trees
      have hlocate := htree.connected.locate_below hws hbase hns (by simp) hthere
      have hlocate' :=
        hfinal.connected.locate_below hws hbase' hns (by simp) (hgrows.isSome hthere)
      have hsame : (ctx.final env a tree).tree.locate env.cwd (Path.join ctx.workspace n) =
          tree.locate env.cwd (Path.join ctx.workspace n) := hlocate'.trans hlocate.symm
      rw [FileTree.exists?, FileTree.exists?, hsame]
    · have hthere' : ¬ ((ctx.final env a tree).tree.get? (base ++ [n])).isSome = true :=
        fun hsome => hhead
          (head?_of_new h hctx htree hfiles hbase (by simpa using hthere) hsome)
      rw [← hplace] at hthere hthere'
      rw [htree.connected.exists?_eq_false (Path.isAbsolute_join hws) hthere,
        hfinal.connected.exists?_eq_false (Path.isAbsolute_join hws) hthere']

lemma context_final
    (hconfig : ¬ Path.place env.cwd d <+: Path.place env.cwd (a.configPath env) ∧
      ¬ Path.place env.cwd (a.configPath env) <+: Path.place env.cwd d) :
    a.context env (ctx.final env a tree).tree = .ok ctx := by
  obtain ⟨config, dir, hread, hof⟩ := context_eq_ok hctx
  have hread' : a.readConfig env (ctx.final env a tree).tree = .ok (config, dir) := by
    refine Arguments.readConfig_congr (fun text htext => ?_) (fun hnone => ?_) hread
    · refine readText_final_of_ok h hctx htree hfiles (fun rest _ hplace => ?_) htext
      exact hconfig.1 (hplace ▸ List.prefix_append _ _)
    · have hpath : a.configPath env = Path.join ctx.workspace ProjectConfig.fileName := by
        rw [Arguments.configPath, hnone, (ofConfig_eq_ok hof).1]
      rw [hpath] at hconfig ⊢
      exact exists?_final h hctx htree hfiles (by decide) hconfig.2
  unfold Arguments.context
  rw [hread']
  exact hof

end Rerun

end RunContext

namespace Arguments

open RunContext

/-- **Scanning twice.** When the output directory lies below the workspace under plain names, apart
from the configuration, no scan of any tree collects a file that lies in it. The same command, run
in the tree that its first run leaves, goes by the same context, collects the same files, ends with
the same numbers and leaves the same tree. -/
theorem run_twice {a : Arguments} {env : Surroundings} {tree : FileTree} {ctx : RunContext}
    {d : Path} {names : List Text} (hctx : a.context env tree = .ok ctx)
    (hbelow : ctx.WritesBelow d names)
    (hconfig : ¬ Path.place env.cwd d <+: Path.place env.cwd (a.configPath env) ∧
      ¬ Path.place env.cwd (a.configPath env) <+: Path.place env.cwd d)
    (htree : tree.IsTree) (hfiles : a.files = []) (hstdin : a.stdin = false)
    (hwatch : a.watch = false) :
    (∀ t : FileTree, t.IsTree → ∀ p ∈ ctx.collect env a t, ∀ rest, rest ≠ [] →
      Path.place env.cwd p ≠ Path.place env.cwd d ++ rest) ∧
    a.context env (a.run env tree).tree = .ok ctx ∧
    ctx.collect env a (a.run env tree).tree = ctx.collect env a tree ∧
    (a.run env (a.run env tree).tree).ending = (a.run env tree).ending ∧
    ∀ l, (a.run env (a.run env tree).tree).tree.get? l = (a.run env tree).tree.get? l := by
  obtain ⟨hrun, hending⟩ := run_eq hctx hstdin hwatch
  have hctx' := context_final hbelow hctx htree hfiles hconfig
  obtain ⟨hrun', hending'⟩ := run_eq hctx' hstdin hwatch
  obtain ⟨hsum, hsame⟩ := final_final hbelow hctx htree hfiles
  rw [hrun, hending, hrun', hending', hsum]
  exact ⟨fun t ht p hp rest hne => hbelow.place_ne hctx hfiles ht hp hne, hctx',
    collect_final hbelow hctx htree hfiles, rfl, hsame⟩

/-- A scan that writes into a directory of the workspace, twice over a small tree. -/
theorem run_twice_of_scan : ∃ ctx,
    scanArguments.context (.inside "w") sheetTree = .ok ctx ∧
    ctx.WritesBelow "/w/out".toList ["out".toList] ∧
    (ctx.successes (.inside "w") scanArguments sheetTree).length = 2 ∧
    ctx.collect (.inside "w") scanArguments (scanArguments.run (.inside "w") sheetTree).tree =
      ctx.collect (.inside "w") scanArguments sheetTree ∧
    ∀ l, (scanArguments.run (.inside "w")
        (scanArguments.run (.inside "w") sheetTree).tree).tree.get? l =
      (scanArguments.run (.inside "w") sheetTree).tree.get? l := by
  have hrun : (scanArguments.context (.inside "w") sheetTree).toOption.map (fun ctx =>
      (ctx.found (.inside "w") sheetTree, ctx.settings.outDir,
        Path.relativeTo? "/w/out".toList ctx.workspace,
        (ctx.successes (.inside "w") sheetArguments sheetTree).length)) =
        some (sheetArguments.files, some "/w/out".toList,
          some (Text.join ['/'] ["out".toList]), 2) := by decide +kernel
  obtain ⟨ctx, hctx, hfound, hf⟩ := exists_scan rfl (by decide) hrun
  simp only [Prod.mk.injEq] at hf
  obtain ⟨hd, hinside, hlength⟩ := hf
  have hbelow : ctx.WritesBelow "/w/out".toList ["out".toList] :=
    ⟨hd, hinside, by simp, by decide, by simp [Glob.isSpecial]⟩
  obtain ⟨-, -, hcollect, -, hsame⟩ :=
    run_twice hctx hbelow (by decide +kernel) (by decide +kernel) rfl rfl rfl
  rw [← successes_congr (b := sheetArguments) hfound] at hlength
  exact ⟨ctx, hctx, hbelow, hlength, hcollect, hsame⟩

/-- A scan with an output directory whose name is a glob for another one. -/
def bracketArguments : Arguments := { under := some ".ns".toList, outDir := some "[o]".toList }

/-- The name `[o]` is a glob for `o`, so that the second run reads what the first one wrote. -/
theorem output_collected_of_bracket : ¬ ∀ ctx d,
    bracketArguments.context (.inside "w") sheetTree = .ok ctx → ctx.settings.outDir = some d →
    ∀ p ∈ ctx.collect (.inside "w") bracketArguments
        (bracketArguments.run (.inside "w") sheetTree).tree,
      ∀ rest, rest ≠ [] → Path.place ["w".toList] p ≠ Path.place ["w".toList] d ++ rest := by
  have hrun : (bracketArguments.context (.inside "w") sheetTree).toOption.map (fun ctx =>
      (ctx.found (.inside "w") sheetTree, ctx.settings.outDir,
        ((ctx.final (.inside "w") sheetArguments sheetTree).tree.filesUnder
          (Surroundings.inside "w").cwd ctx.workspace).contains "/w/./[o]/sub/a.css".toList,
        ctx.isSheet "/w/./[o]/sub/a.css".toList, ctx.isIgnored "/w/./[o]/sub/a.css".toList)) =
        some (sheetArguments.files, some "/w/[o]".toList, true, true, false) := by decide +kernel
  obtain ⟨ctx, hctx, hfound, hf⟩ := exists_scan rfl (by decide) hrun
  simp only [Prod.mk.injEq] at hf
  obtain ⟨hd, hmem, hsheet, hignored⟩ := hf
  rw [← final_congr (b := sheetArguments) hfound, ← (run_eq hctx rfl rfl).1] at hmem
  intro h
  refine h ctx _ hctx hd "/w/./[o]/sub/a.css".toList ?_ ["sub".toList, "a.css".toList] (by simp)
    (by decide +kernel)
  exact (mem_collect_iff rfl).mpr ⟨List.contains_iff_mem.mp hmem, hsheet, hignored⟩

end Arguments
end StyleScope
