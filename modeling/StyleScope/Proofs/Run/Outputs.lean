import StyleScope.Proofs.Run.Scan

/-!
What a run with an output directory does to the files around it.

The results of a run can all be found under their targets exactly when results that differ have
targets at different places, which holds for every scan. The files that are read stay as they are,
and a result that would replace one is counted as failed, exactly when every such result is caught
by the comparison of its target with the path of its own source.
-/

namespace StyleScope

/-- A tree with some files and the directories around them. -/
def FileTree.ofFiles (files : List (String × String)) : FileTree :=
  files.foldl (fun t f => t.putFile (Text.splitOn '/' f.1.toList) (.text f.2.toList)) {}

def Surroundings.inside (dir : String) : Surroundings := { cwd := Text.splitOn '/' dir.toList }

namespace RunContext

variable {ctx : RunContext} {env : Surroundings} {a : Arguments} {tree : FileTree} {d : Path}
  {o : Outcome}

/-! ### Finding the results -/

lemma files_final (hd : ctx.settings.outDir = some d) :
    (ctx.final env a tree).report.summary.files = (ctx.collect env a tree).length := by
  unfold final
  rw [files_settleAll hd]
  rfl

lemma failed_final (hd : ctx.settings.outDir = some d) :
    (ctx.final env a tree).report.summary.failed + (ctx.successes env a tree).length =
      (ctx.collect env a tree).length := by
  unfold final successes
  rw [failed_settleAll hd]
  simp [initial, allOutcomes, outcomes]

lemma readText_target_iff (hd : ctx.settings.outDir = some d) (habs : Path.isAbsolute d = true)
    (ho : o ∈ ctx.successes env a tree) {css : Text} :
    (ctx.final env a tree).tree.readText env.cwd (o.target d) = .ok css ↔
      (ctx.final env a tree).tree.get? (Path.place env.cwd (o.target d)) =
        some (.file (.text css)) := by
  obtain ⟨-, -, hlocate⟩ := locate_settleAll hd habs ho
  unfold final
  rw [FileTree.readText_of_locate hlocate]
  rcases FileTree.get? _ _ with _ | _ | _ | _ <;> simp [Contents.read]

lemma exists_get?_target (hd : ctx.settings.outDir = some d) (habs : Path.isAbsolute d = true)
    (ho : o ∈ ctx.successes env a tree) :
    ∃ o' ∈ ctx.successes env a tree, ∃ css, o'.result = .scoped css ∧
      Path.place env.cwd (o'.target d) = Path.place env.cwd (o.target d) ∧
      (ctx.final env a tree).tree.get? (Path.place env.cwd (o.target d)) =
        some (.file (.text css)) := by
  rcases file_settleAll hd habs env (ctx.initial env a tree) (ctx.allOutcomes env a tree)
    (Path.place env.cwd (o.target d)) with hlast | ⟨hnone, -⟩
  · exact hlast
  · exact absurd rfl (hnone o ho)

lemma readText_successes_iff (hd : ctx.settings.outDir = some d) (habs : Path.isAbsolute d = true)
    (env : Surroundings) (a : Arguments) (tree : FileTree) :
    (∀ o ∈ ctx.successes env a tree, ∃ css, o.result = .scoped css ∧
      (ctx.final env a tree).tree.readText env.cwd (o.target d) = .ok css) ↔
    ∀ o ∈ ctx.successes env a tree, ∀ o' ∈ ctx.successes env a tree,
      Path.place env.cwd (o.target d) = Path.place env.cwd (o'.target d) →
        o.result = o'.result := by
  constructor
  · intro h o ho o' ho' hplace
    obtain ⟨css, hresult, hread⟩ := h o ho
    obtain ⟨css', hresult', hread'⟩ := h o' ho'
    rw [readText_target_iff hd habs ho, hplace] at hread
    rw [readText_target_iff hd habs ho', hread] at hread'
    obtain rfl : css = css' := by simpa using hread'
    rw [hresult, hresult']
  · intro h o ho
    obtain ⟨o', ho', css, hresult, hplace, hget⟩ := exists_get?_target hd habs ho
    exact ⟨css, (h o' ho' o ho hplace) ▸ hresult, (readText_target_iff hd habs ho).mpr hget⟩

lemma eq_of_place_target (hctx : a.context env tree = .ok ctx) (htree : tree.IsTree)
    (hfiles : a.files = []) (hd : ctx.settings.outDir = some d) {o' : Outcome}
    (ho : o ∈ ctx.successes env a tree) (ho' : o' ∈ ctx.successes env a tree)
    (h : Path.place env.cwd (o.target d) = Path.place env.cwd (o'.target d)) : o = o' :=
  (target_scan hctx htree hfiles hd (mem_of_mem_delivered ho) (mem_of_mem_delivered ho')).2 h

/-! ### Keeping the inputs -/

/-- A place at which a run reads a file. -/
def IsInput (ctx : RunContext) (env : Surroundings) (a : Arguments) (tree : FileTree)
    (l : Location) (c : Contents) : Prop :=
  (∃ p ∈ ctx.collect env a tree, tree.locate env.cwd p = .ok l) ∧ tree.get? l = some (.file c)

/-- An outcome whose target leads to a file that the run reads, once directories are made. -/
def HitsInput (ctx : RunContext) (env : Surroundings) (a : Arguments) (tree : FileTree) (d : Path)
    (o : Outcome) : Prop :=
  ∃ l c, ctx.IsInput env a tree l c ∧
    (ctx.final env a tree).tree.locate env.cwd (o.target d) = .ok l

lemma hitsInput_of_mem_successes (hd : ctx.settings.outDir = some d)
    (habs : Path.isAbsolute d = true) (ho : o ∈ ctx.successes env a tree) {c : Contents}
    (hin : ctx.IsInput env a tree (Path.place env.cwd (o.target d)) c) :
    ctx.HitsInput env a tree d o := by
  obtain ⟨-, -, hlocate⟩ := locate_settleAll hd habs ho
  exact ⟨_, c, hin, hlocate⟩

lemma get?_final_of_isInput (hd : ctx.settings.outDir = some d) (habs : Path.isAbsolute d = true)
    (h : ∀ o ∈ ctx.successes env a tree, ¬ ctx.HitsInput env a tree d o) {l : Location}
    {c : Contents} (hin : ctx.IsInput env a tree l c) :
    (ctx.final env a tree).tree.get? l = some (.file c) := by
  rcases file_settleAll hd habs env (ctx.initial env a tree) (ctx.allOutcomes env a tree) l with
    ⟨o, ho, css, -, hplace, -⟩ | ⟨-, hfile⟩
  · rw [← hplace] at hin
    exact absurd (hitsInput_of_mem_successes hd habs ho hin) (h o ho)
  · exact (hfile c).mpr hin.2

lemma not_hitsInput_iff (htree : tree.IsTree) (hd : ctx.settings.outDir = some d)
    (habs : Path.isAbsolute d = true) :
    (∀ o ∈ ctx.successes env a tree, ¬ ctx.HitsInput env a tree d o) ↔
      ∀ o ∈ ctx.allOutcomes env a tree, ∀ css, o.result = .scoped css →
        ctx.HitsInput env a tree d o → Path.same (o.target d) o.path = true := by
  constructor
  · intro h o ho css hresult hhits
    by_contra hsame
    obtain ⟨l, c, hin, hlocate⟩ := hhits
    obtain ⟨c', hc'⟩ := (grows_final hd habs env a tree).file hin.2
    have hmem := mem_delivered_of_locate hd habs htree ho hresult (by simpa using hsame) hlocate hc'
    exact h o hmem ⟨l, c, hin, hlocate⟩
  · intro h o ho hhits
    obtain ⟨css, hresult, hsame⟩ := scoped_of_mem_delivered hd ho
    simp [h o (mem_of_mem_delivered ho) css hresult hhits] at hsame

lemma not_hitsInput_of_apart (hctx : a.context env tree = .ok ctx) (htree : tree.IsTree)
    (hfiles : a.files = []) (hd : ctx.settings.outDir = some d)
    (hout : ¬ Path.place env.cwd d <+: Path.place env.cwd ctx.workspace)
    (hws : ¬ Path.place env.cwd ctx.workspace <+: Path.place env.cwd d) :
    ∀ o ∈ ctx.allOutcomes env a tree, ¬ ctx.HitsInput env a tree d o := by
  rintro o ho ⟨l, c, ⟨⟨p, hp, hlp⟩, -⟩, hlocate⟩
  obtain ⟨-, ns, -, -, -, -, -, -, hplace⟩ := exists_names_of_mem hctx htree hfiles hd ho
  obtain ⟨-, ms, -, -, -, hms, rfl⟩ := exists_of_mem_collect htree hfiles hp
  have htarget : Path.place env.cwd d <+: l := by
    rw [FileTree.place_of_locate hlocate, hplace]
    exact List.prefix_append _ _
  have hsource : Path.place env.cwd ctx.workspace <+: l := by
    rw [FileTree.place_of_locate hlp,
      Path.place_foldl_join env.cwd (isAbsolute_workspace hctx) hms]
    exact List.prefix_append _ _
  exact (List.prefix_or_prefix_of_prefix htarget hsource).elim hout hws

end RunContext

namespace Arguments

open RunContext

lemma exists_context {a : Arguments} {env : Surroundings} {tree : FileTree} {α : Type}
    {f : RunContext → α} {x : α} (h : (a.context env tree).toOption.map f = some x) :
    ∃ ctx, a.context env tree = .ok ctx ∧ f ctx = x := by
  cases hctx : a.context env tree with
  | error e => simp [hctx, Except.toOption] at h
  | ok ctx => exact ⟨ctx, rfl, by simpa [hctx, Except.toOption] using h⟩

/-- A scan that finds its files in order has nothing to sort, and can be evaluated. -/
lemma exists_scan {a : Arguments} {env : Surroundings} {tree : FileTree} {α : Type}
    {f : RunContext → α} {x : α} {ps : List Path} (hfiles : a.files = [])
    (hsorted : ps.Pairwise fun p q => Path.le p q = true)
    (h : (a.context env tree).toOption.map (fun ctx => (ctx.found env tree, f ctx)) =
      some (ps, x)) :
    ∃ ctx, a.context env tree = .ok ctx ∧ ctx.collect env a tree = ps ∧ f ctx = x := by
  obtain ⟨ctx, hctx, hf⟩ := exists_context h
  obtain ⟨rfl, hx⟩ := Prod.mk.inj hf
  exact ⟨ctx, hctx, collect_of_sorted hfiles hsorted, hx⟩

/-- **When every result can be found.** Each collected file is counted, and counted as failed unless
its result was written. Those results stand under their targets in the end exactly when no two that
differ were written at one place. A scan writes no two at one place, and all of them in the output
directory. -/
theorem results_found_iff {a : Arguments} {env : Surroundings} {tree : FileTree}
    {ctx : RunContext} {d : Path} (hctx : a.context env tree = .ok ctx)
    (hd : ctx.settings.outDir = some d) (hstdin : a.stdin = false) (hwatch : a.watch = false) :
    (∃ sum, (a.run env tree).ending = .finished sum ∧
      sum.files = (ctx.collect env a tree).length ∧
      sum.failed + (ctx.successes env a tree).length = sum.files) ∧
    ((∀ o ∈ ctx.successes env a tree, ∃ css, o.result = .scoped css ∧
        (a.run env tree).tree.readText env.cwd (o.target d) = .ok css) ↔
      ∀ o ∈ ctx.successes env a tree, ∀ o' ∈ ctx.successes env a tree,
        Path.place env.cwd (o.target d) = Path.place env.cwd (o'.target d) →
          o.result = o'.result) ∧
    (a.files = [] → tree.IsTree → ∀ o ∈ ctx.successes env a tree,
      Path.place env.cwd d <+: Path.place env.cwd (o.target d) ∧
        ∃ css, o.result = .scoped css ∧
          (a.run env tree).tree.readText env.cwd (o.target d) = .ok css) := by
  have habs := isAbsolute_outDir hctx hd
  obtain ⟨htree, hending⟩ := run_eq hctx hstdin hwatch
  have hiff := readText_successes_iff hd habs env a tree
  rw [htree]
  refine ⟨⟨_, hending, files_final hd, ?_⟩, hiff, fun hfiles hwell o ho => ⟨?_, ?_⟩⟩
  · rw [failed_final hd, files_final hd]
  · have hmem := mem_of_mem_delivered ho
    exact (target_scan hctx hwell hfiles hd hmem hmem).1
  · refine hiff.mpr (fun o ho o' ho' hplace => ?_) o ho
    rw [eq_of_place_target hctx hwell hfiles hd ho ho' hplace]

/-- Two sheets of one name in the directory `w` and below it, and a file that is none. -/
def sheetTree : FileTree :=
  .ofFiles [("w/sub/a.css", ".a {}"), ("w/a.css", ".b {}"), ("w/notes.txt", "")]

/-- The two sheets by the paths that a scan finds them under. -/
def sheetArguments : Arguments where
  files := ["/w/./a.css".toList, "/w/./sub/a.css".toList]

/-- A scan of the current directory with the output directory `out`. -/
def scanArguments : Arguments := { under := some ".ns".toList, outDir := some "out".toList }

/-- Both sheets are scoped, and both results are found. -/
theorem results_found_of_scan : ∃ ctx d,
    scanArguments.context (.inside "w") sheetTree = .ok ctx ∧ ctx.settings.outDir = some d ∧
    (ctx.successes (.inside "w") scanArguments sheetTree).length = 2 ∧
    ∀ o ∈ ctx.successes (.inside "w") scanArguments sheetTree,
      ∃ css, o.result = .scoped css ∧
        (scanArguments.run (.inside "w") sheetTree).tree.readText ["w".toList] (o.target d) =
          .ok css := by
  have hrun : (scanArguments.context (.inside "w") sheetTree).toOption.map (fun ctx =>
      (ctx.found (.inside "w") sheetTree, ctx.settings.outDir,
        (ctx.successes (.inside "w") sheetArguments sheetTree).length)) =
        some (sheetArguments.files, some "/w/out".toList, 2) := by decide +kernel
  obtain ⟨ctx, hctx, hcollect, hf⟩ := exists_scan rfl (by decide) hrun
  obtain ⟨hd, hlength⟩ := Prod.mk.inj hf
  refine ⟨ctx, _, hctx, hd, by rwa [successes_congr (b := sheetArguments) hcollect], fun o ho => ?_⟩
  exact ((results_found_iff hctx hd rfl rfl).2.2 rfl (by decide +kernel) o ho).2

/-- Two sheets of one name, of which the first is outside of the workspace `w/p`. -/
def outsideTree : FileTree := .ofFiles [("w/o/b/a.css", ".x {}"), ("w/p/b/a.css", ".y {}")]

/-- A run over both of them, with the output directory `o` in the workspace. -/
def outsideArguments : Arguments where
  under := some ".ns".toList
  outDir := some "o".toList
  files := ["../o/b/a.css".toList, "b/a.css".toList]

/-- A path that begins like the workspace and then leads out of it is taken for one inside, so that
its result goes to the place of another one and is lost. -/
theorem result_lost_outside : ¬ ∀ ctx d,
    outsideArguments.context (.inside "w/p") outsideTree = .ok ctx →
    ctx.settings.outDir = some d →
    ∀ o ∈ ctx.successes (.inside "w/p") outsideArguments outsideTree,
      ∃ css, o.result = .scoped css ∧
        (outsideArguments.run (.inside "w/p") outsideTree).tree.readText
          ["w".toList, "p".toList] (o.target d) = .ok css := by
  have hrun : (outsideArguments.context (.inside "w/p") outsideTree).toOption.map (fun ctx =>
      (ctx.settings.outDir, (ctx.successes (.inside "w/p") outsideArguments outsideTree).map
        fun o => (o.result, (outsideArguments.run (.inside "w/p") outsideTree).tree.readText
          ["w".toList, "p".toList] (o.target "/w/p/o".toList)))) =
        some (some "/w/p/o".toList, [(.scoped ".ns .x {}".toList, .ok ".ns .y {}".toList),
          (.scoped ".ns .y {}".toList, .ok ".ns .y {}".toList)]) := by decide +kernel
  obtain ⟨ctx, hctx, hf⟩ := exists_context hrun
  obtain ⟨hd, hresults⟩ := Prod.mk.inj hf
  intro h
  obtain ⟨o, ho, heq⟩ := List.mem_map.mp (hresults ▸ List.mem_cons_self)
  obtain ⟨hresult, hread⟩ := Prod.mk.inj heq
  obtain ⟨css, hresult', hread'⟩ := h ctx _ hctx hd o ho
  rw [hresult] at hresult'
  rw [hread, ← SheetResult.scoped.inj hresult'] at hread'
  exact absurd (Except.ok.inj hread') (by decide)

/-- **When a run keeps its inputs.** A file is counted as failed unless its result was written.
Every file that is read stays as it is, and no result whose target leads to one of them is written,
exactly when each of those results has the path of its own source as its target, component by
component. That comparison is enough for a result that would replace its own source, as long as
neither path has a `..`; and a scan cannot reach any of its inputs if neither the workspace nor the
output directory lies in the other. -/
theorem inputs_kept_iff {a : Arguments} {env : Surroundings} {tree : FileTree}
    {ctx : RunContext} {d : Path} (hwell : tree.IsTree) (hctx : a.context env tree = .ok ctx)
    (hd : ctx.settings.outDir = some d) (hstdin : a.stdin = false) (hwatch : a.watch = false) :
    (∃ sum, (a.run env tree).ending = .finished sum ∧
      sum.failed + (ctx.successes env a tree).length = sum.files) ∧
    (((∀ l c, ctx.IsInput env a tree l c → (a.run env tree).tree.get? l = some (.file c)) ∧
        ∀ o ∈ ctx.successes env a tree, ¬ ctx.HitsInput env a tree d o) ↔
      ∀ o ∈ ctx.allOutcomes env a tree, ∀ css, o.result = .scoped css →
        ctx.HitsInput env a tree d o → Path.same (o.target d) o.path = true) ∧
    (∀ o ∈ ctx.successes env a tree, PathComponent.parent ∉ Path.components (o.target d) →
      PathComponent.parent ∉ Path.components o.path →
        Path.place env.cwd (o.target d) ≠ Path.place env.cwd o.path) ∧
    (a.files = [] → ¬ Path.place env.cwd d <+: Path.place env.cwd ctx.workspace →
      ¬ Path.place env.cwd ctx.workspace <+: Path.place env.cwd d →
        ∀ o ∈ ctx.allOutcomes env a tree, ¬ ctx.HitsInput env a tree d o) := by
  have habs := isAbsolute_outDir hctx hd
  obtain ⟨htree, hending⟩ := run_eq hctx hstdin hwatch
  rw [htree]
  refine ⟨⟨_, hending, ?_⟩, ?_, ?_, ?_⟩
  · rw [failed_final hd, files_final hd]
  · rw [← not_hitsInput_iff hwell hd habs, and_iff_right_iff_imp]
    exact fun h l c hin => get?_final_of_isInput hd habs h hin
  · intro o ho htarget hpath hplace
    obtain ⟨css, hresult, hsame⟩ := scoped_of_mem_delivered hd ho
    have hsource := isAbsolute_path_of_mem hctx (mem_of_mem_delivered ho)
    have hrefused := Path.same_of_place_eq (o.isAbsolute_target habs) hsource htarget hpath hplace
    rw [hsame] at hrefused
    contradiction
  · exact fun hfiles => not_hitsInput_of_apart hctx hwell hfiles hd

/-- A scan of the current directory with an output directory beside it. -/
def besideArguments : Arguments := { under := some ".ns".toList, outDir := some "../out".toList }

/-- Both sheets are read, and stay as they are. -/
theorem inputs_kept_of_beside : ∃ ctx d,
    besideArguments.context (.inside "w") sheetTree = .ok ctx ∧ ctx.settings.outDir = some d ∧
    ctx.IsInput (.inside "w") besideArguments sheetTree
      ["w".toList, "a.css".toList] (.text ".b {}".toList) ∧
    ctx.IsInput (.inside "w") besideArguments sheetTree
      ["w".toList, "sub".toList, "a.css".toList] (.text ".a {}".toList) ∧
    (ctx.successes (.inside "w") besideArguments sheetTree).length = 2 ∧
    ∀ l c, ctx.IsInput (.inside "w") besideArguments sheetTree l c →
      (besideArguments.run (.inside "w") sheetTree).tree.get? l = some (.file c) := by
  have hrun : (besideArguments.context (.inside "w") sheetTree).toOption.map (fun ctx =>
      (ctx.found (.inside "w") sheetTree, ctx.settings.outDir, ctx.workspace,
        (ctx.successes (.inside "w") sheetArguments sheetTree).length)) =
        some (sheetArguments.files, some "/w/../out".toList, "/w/.".toList, 2) := by
    decide +kernel
  obtain ⟨ctx, hctx, hcollect, hf⟩ := exists_scan rfl (by decide) hrun
  simp only [Prod.mk.injEq] at hf
  obtain ⟨hd, hws, hlength⟩ := hf
  obtain ⟨-, hiff, -, hapart⟩ := inputs_kept_iff (by decide +kernel) hctx hd rfl rfl
  have htop : "/w/./a.css".toList ∈ ctx.collect (.inside "w") besideArguments sheetTree := by
    simp [hcollect, sheetArguments]
  have hsub : "/w/./sub/a.css".toList ∈ ctx.collect (.inside "w") besideArguments sheetTree := by
    simp [hcollect, sheetArguments]
  refine ⟨ctx, _, hctx, hd, ⟨⟨_, htop, ?_⟩, ?_⟩, ⟨⟨_, hsub, ?_⟩, ?_⟩,
    by rwa [successes_congr (b := sheetArguments) hcollect],
    (hiff.mpr fun o ho css _ hhits => ?_).1⟩
  · decide +kernel
  · decide +kernel
  · decide +kernel
  · decide +kernel
  · exact absurd hhits (hapart rfl (by rw [hws]; decide +kernel) (by rw [hws]; decide +kernel) o ho)

/-- A sheet beside an empty directory. -/
def backTree : FileTree :=
  (FileTree.ofFiles [("w/a.css", ".a {}")]).putDirectory ["w".toList, "sub".toList]

/-- A run over the sheet, with an output directory that leads back to where it stands. -/
def backArguments : Arguments where
  under := some ".ns".toList
  outDir := some "sub/..".toList
  files := ["a.css".toList]

/-- A target that leads back to its source with `..` is not refused: the source is replaced, and
nothing is counted as failed. -/
theorem input_replaced_by_back : ¬ ∀ ctx d,
    backArguments.context (.inside "w") backTree = .ok ctx → ctx.settings.outDir = some d →
    (∀ l c, ctx.IsInput (.inside "w") backArguments backTree l c →
      (backArguments.run (.inside "w") backTree).tree.get? l = some (.file c)) ∧
    ∀ o ∈ ctx.successes (.inside "w") backArguments backTree,
      ¬ ctx.HitsInput (.inside "w") backArguments backTree d o := by
  have hrun : (backArguments.context (.inside "w") backTree).toOption.map (fun ctx =>
      (ctx.settings.outDir, ctx.collect (.inside "w") backArguments backTree)) =
        some (some "/w/sub/..".toList, ["/w/a.css".toList]) := by decide +kernel
  obtain ⟨ctx, hctx, hf⟩ := exists_context hrun
  obtain ⟨hd, hcollect⟩ := Prod.mk.inj hf
  intro h
  have hin : ctx.IsInput (.inside "w") backArguments backTree ["w".toList, "a.css".toList]
      (.text ".a {}".toList) := by
    refine ⟨⟨"/w/a.css".toList, by rw [hcollect]; exact List.mem_cons_self, ?_⟩, ?_⟩
    · decide +kernel
    · decide +kernel
  have hreplaced : (backArguments.run (.inside "w") backTree).tree.get?
      ["w".toList, "a.css".toList] ≠ some (.file (.text ".a {}".toList)) := by decide +kernel
  exact hreplaced ((h ctx _ hctx hd).1 _ _ hin)

end Arguments
end StyleScope
