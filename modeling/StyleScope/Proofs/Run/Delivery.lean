import StyleScope.Proofs.FileTree.Writing
import StyleScope.Run.Basic

/-!
Settling outcomes into an output directory.

`settle_cases` says all that one outcome can do to a run: it is counted as failed and no file is
written, or its result is written under its target, which may fail as well. The outcomes that are
not counted as failed are `delivered`. From one outcome to the next the tree grows, and in the end
the file at a place is that of the last outcome delivered there, or what it was before.
-/

namespace StyleScope

namespace Outcome

def target (o : Outcome) (outDir : Path) : Path := Path.join outDir o.output

lemma isAbsolute_target {d : Path} (hd : Path.isAbsolute d = true) (o : Outcome) :
    Path.isAbsolute (o.target d) = true :=
  Path.isAbsolute_join hd

/-- What is counted for an outcome, given whether its result was written. -/
def tally (o : Outcome) (written : Bool) (r : RunSummary) : RunSummary :=
  match o.result with
  | .failed _ => { r with failed := r.failed + 1 }
  | .faulty errors => { r with errors := r.errors + errors.length, failed := r.failed + 1 }
  | .scoped css => { r with
      changed := r.changed + (if css = o.source then 0 else 1)
      failed := if written then r.failed else r.failed + 1 }

@[simp] lemma files_tally (o : Outcome) (written : Bool) (r : RunSummary) :
    (o.tally written r).files = r.files := by
  unfold tally
  split <;> rfl

lemma failed_tally_false (o : Outcome) (r : RunSummary) :
    (o.tally false r).failed = r.failed + 1 := by
  unfold tally
  split <;> rfl

lemma failed_tally_true {o : Outcome} {css : Text} (h : o.result = .scoped css) (r : RunSummary) :
    (o.tally true r).failed = r.failed := by
  unfold tally
  rw [h]
  rfl

end Outcome

namespace RunContext

variable {ctx : RunContext} {env : Surroundings} {d : Path} {s : RunState} {o : Outcome}
  {os : List Outcome}

/-! ### One outcome -/

/-- **What an outcome can do to a run**: it is counted as failed and the tree stays as it is, or its
result is written under its target, and it is counted as failed if that fails. -/
lemma settle_cases (hd : ctx.settings.outDir = some d) (env : Surroundings) (s : RunState)
    (o : Outcome) :
    ((∀ css, o.result = .scoped css → Path.same (o.target d) o.path = true) ∧
      (ctx.settle env s o).tree = s.tree ∧
      (ctx.settle env s o).report.summary = o.tally false s.report.summary) ∨
    (∃ css, o.result = .scoped css ∧ Path.same (o.target d) o.path = false ∧
      (ctx.settle env s o).tree = (s.tree.writeDeep env.cwd (o.target d) css).1 ∧
      (ctx.settle env s o).report.summary =
        o.tally (decide ((s.tree.writeDeep env.cwd (o.target d) css).2 = .ok ()))
          s.report.summary) := by
  unfold settle Outcome.tally
  rcases hresult : o.result with css | errors | f
  · simp only [emit, hd]
    cases hsame : Path.same (Path.join d o.output) o.path with
    | true => exact .inl ⟨fun _ _ => hsame, rfl, rfl⟩
    | false =>
      refine .inr ⟨css, rfl, hsame, ?_⟩
      unfold Outcome.target
      rcases s.tree.writeDeep env.cwd (Path.join d o.output) css with ⟨t, e | u⟩
      · exact ⟨rfl, rfl⟩
      · exact ⟨rfl, rfl⟩
  · exact .inl ⟨by simp, rfl, rfl⟩
  · exact .inl ⟨by simp, rfl, rfl⟩

/-- An outcome that is not counted as failed. -/
def Delivers (ctx : RunContext) (env : Surroundings) (s : RunState) (o : Outcome) : Prop :=
  (ctx.settle env s o).report.summary.failed = s.report.summary.failed

instance (ctx : RunContext) (env : Surroundings) (s : RunState) (o : Outcome) :
    Decidable (ctx.Delivers env s o) :=
  inferInstanceAs (Decidable (_ = _))

lemma failed_settle_of_not_delivers (hd : ctx.settings.outDir = some d)
    (h : ¬ ctx.Delivers env s o) :
    (ctx.settle env s o).report.summary.failed = s.report.summary.failed + 1 := by
  unfold Delivers at h
  rcases settle_cases hd env s o with ⟨-, -, hsum⟩ | ⟨css, hresult, -, -, hsum⟩
  · rw [hsum, o.failed_tally_false]
  · by_cases hok : (s.tree.writeDeep env.cwd (o.target d) css).2 = .ok ()
    · rw [hsum, decide_eq_true hok, Outcome.failed_tally_true hresult] at h
      exact absurd rfl h
    · rw [hsum, decide_eq_false hok, o.failed_tally_false]

lemma delivers_iff (hd : ctx.settings.outDir = some d) : ctx.Delivers env s o ↔
    ∃ css, o.result = .scoped css ∧ Path.same (o.target d) o.path = false ∧
      (s.tree.writeDeep env.cwd (o.target d) css).2 = .ok () := by
  unfold Delivers
  rcases settle_cases hd env s o with ⟨hsame, -, hsum⟩ | ⟨css, hresult, hsame, -, hsum⟩
  · rw [hsum, o.failed_tally_false]
    refine iff_of_false (by omega) ?_
    rintro ⟨css, hresult, hdiffer, -⟩
    simp [hsame css hresult] at hdiffer
  · by_cases hok : (s.tree.writeDeep env.cwd (o.target d) css).2 = .ok ()
    · rw [hsum, decide_eq_true hok, Outcome.failed_tally_true hresult]
      exact iff_of_true rfl ⟨css, hresult, hsame, hok⟩
    · rw [hsum, decide_eq_false hok, o.failed_tally_false]
      refine iff_of_false (by omega) ?_
      rintro ⟨css', hresult', -, hok'⟩
      obtain rfl : css = css' := by simpa [hresult] using hresult'
      exact hok hok'

lemma tree_settle_of_scoped {css : Text} (hd : ctx.settings.outDir = some d)
    (hresult : o.result = .scoped css) (hsame : Path.same (o.target d) o.path = false) :
    (ctx.settle env s o).tree = (s.tree.writeDeep env.cwd (o.target d) css).1 := by
  rcases settle_cases hd env s o with ⟨hrefused, -, -⟩ | ⟨css', hresult', -, htree, -⟩
  · simp [hrefused css hresult] at hsame
  · obtain rfl : css = css' := by simpa [hresult] using hresult'
    exact htree

section Absolute

variable (hd : ctx.settings.outDir = some d) (habs : Path.isAbsolute d = true)

include hd habs

lemma grows_settle (env : Surroundings) (s : RunState) (o : Outcome) :
    s.tree.Grows (ctx.settle env s o).tree := by
  rcases settle_cases hd env s o with ⟨-, htree, -⟩ | ⟨css, -, -, htree, -⟩
  · rw [htree]
    exact .refl _
  · rw [htree]
    exact FileTree.grows_writeDeep (o.isAbsolute_target habs) s.tree env.cwd css

lemma isTree_settle (h : s.tree.IsTree) (env : Surroundings) (o : Outcome) :
    (ctx.settle env s o).tree.IsTree := by
  rcases settle_cases hd env s o with ⟨-, htree, -⟩ | ⟨css, -, -, htree, -⟩
  · rwa [htree]
  · rw [htree]
    exact h.writeDeep (o.isAbsolute_target habs) env.cwd css

lemma file_settle_iff {j : Location} (c : Contents)
    (hj : ctx.Delivers env s o → j ≠ Path.place env.cwd (o.target d)) :
    (ctx.settle env s o).tree.get? j = some (.file c) ↔ s.tree.get? j = some (.file c) := by
  rcases settle_cases hd env s o with ⟨-, htree, -⟩ | ⟨css, hresult, hsame, htree, -⟩
  · rw [htree]
  · rw [htree]
    refine FileTree.file_writeDeep_iff (o.isAbsolute_target habs) c fun hok => hj ?_
    exact (delivers_iff hd).mpr ⟨css, hresult, hsame, hok⟩

lemma locate_settle (h : ctx.Delivers env s o) : ∃ css, o.result = .scoped css ∧
    (ctx.settle env s o).tree.locate env.cwd (o.target d) =
      .ok (Path.place env.cwd (o.target d)) ∧
    (ctx.settle env s o).tree.get? (Path.place env.cwd (o.target d)) =
      some (.file (.text css)) := by
  obtain ⟨css, hresult, hsame, hok⟩ := (delivers_iff hd).mp h
  refine ⟨css, hresult, ?_⟩
  rw [tree_settle_of_scoped hd hresult hsame]
  exact FileTree.locate_writeDeep (o.isAbsolute_target habs) hok

end Absolute

/-! ### All outcomes -/

/-- The outcomes that are not counted as failed when they are settled one after the other. -/
def delivered (ctx : RunContext) (env : Surroundings) : RunState → List Outcome → List Outcome
  | _, [] => []
  | s, o :: os =>
    if ctx.Delivers env s o then o :: delivered ctx env (ctx.settle env s o) os
    else delivered ctx env (ctx.settle env s o) os

def settleAll (ctx : RunContext) (env : Surroundings) (s : RunState) (os : List Outcome) :
    RunState :=
  os.foldl (ctx.settle env) s

@[simp] lemma settleAll_nil : ctx.settleAll env s [] = s := rfl

@[simp] lemma settleAll_cons : ctx.settleAll env s (o :: os) =
    ctx.settleAll env (ctx.settle env s o) os := rfl

lemma mem_of_mem_delivered (h : o ∈ ctx.delivered env s os) : o ∈ os := by
  induction os generalizing s with
  | nil => simp [delivered] at h
  | cons o' os ih =>
    rw [delivered] at h
    split_ifs at h
    · rcases List.mem_cons.mp h with rfl | h
      · exact List.mem_cons_self
      · exact List.mem_cons_of_mem _ (ih h)
    · exact List.mem_cons_of_mem _ (ih h)

lemma scoped_of_mem_delivered (hd : ctx.settings.outDir = some d)
    (h : o ∈ ctx.delivered env s os) :
    ∃ css, o.result = .scoped css ∧ Path.same (o.target d) o.path = false := by
  induction os generalizing s with
  | nil => simp [delivered] at h
  | cons o' os ih =>
    rw [delivered] at h
    split_ifs at h with ho
    · rcases List.mem_cons.mp h with rfl | h
      · obtain ⟨css, hresult, hsame, -⟩ := (delivers_iff hd).mp ho
        exact ⟨css, hresult, hsame⟩
      · exact ih h
    · exact ih h

lemma delivered_cons_subset {o' : Outcome} (h : o ∈ ctx.delivered env (ctx.settle env s o') os) :
    o ∈ ctx.delivered env s (o' :: os) := by
  rw [delivered]
  split_ifs
  · exact List.mem_cons_of_mem _ h
  · exact h

lemma files_settleAll (hd : ctx.settings.outDir = some d) (env : Surroundings) (s : RunState)
    (os : List Outcome) :
    (ctx.settleAll env s os).report.summary.files = s.report.summary.files := by
  induction os generalizing s with
  | nil => rfl
  | cons o os ih =>
    rw [settleAll_cons, ih]
    rcases settle_cases hd env s o with ⟨-, -, hsum⟩ | ⟨css, -, -, -, hsum⟩ <;> simp [hsum]

lemma failed_settleAll (hd : ctx.settings.outDir = some d) (env : Surroundings) (s : RunState)
    (os : List Outcome) :
    (ctx.settleAll env s os).report.summary.failed + (ctx.delivered env s os).length =
      s.report.summary.failed + os.length := by
  induction os generalizing s with
  | nil => rfl
  | cons o os ih =>
    have htail := ih (ctx.settle env s o)
    rw [settleAll_cons, delivered, List.length_cons]
    split_ifs with ho
    · have hsame : (ctx.settle env s o).report.summary.failed = s.report.summary.failed := ho
      rw [List.length_cons]
      omega
    · have hnext := failed_settle_of_not_delivers hd ho
      omega

section Absolute

variable (hd : ctx.settings.outDir = some d) (habs : Path.isAbsolute d = true)

include hd habs

lemma grows_settleAll (env : Surroundings) (s : RunState) (os : List Outcome) :
    s.tree.Grows (ctx.settleAll env s os).tree := by
  induction os generalizing s with
  | nil => exact .refl _
  | cons o os ih => exact (grows_settle hd habs env s o).trans (ih _)

lemma isTree_settleAll (h : s.tree.IsTree) (env : Surroundings) (os : List Outcome) :
    (ctx.settleAll env s os).tree.IsTree := by
  induction os generalizing s with
  | nil => exact h
  | cons o os ih => exact ih (isTree_settle hd habs h env o)

/-- **What stands at a place in the end**: the result that was delivered there last, or else what
was there before. -/
lemma file_settleAll (env : Surroundings) (s : RunState) (os : List Outcome) (j : Location) :
    (∃ o ∈ ctx.delivered env s os, ∃ css, o.result = .scoped css ∧
      Path.place env.cwd (o.target d) = j ∧
      (ctx.settleAll env s os).tree.get? j = some (.file (.text css))) ∨
    ((∀ o ∈ ctx.delivered env s os, Path.place env.cwd (o.target d) ≠ j) ∧
      ∀ c, (ctx.settleAll env s os).tree.get? j = some (.file c) ↔
        s.tree.get? j = some (.file c)) := by
  induction os generalizing s with
  | nil => exact .inr ⟨by simp [delivered], fun _ => Iff.rfl⟩
  | cons o os ih =>
    rw [settleAll_cons]
    rcases ih (ctx.settle env s o) with ⟨o', ho', css, hlast⟩ | ⟨hnone, hfile⟩
    · exact .inl ⟨o', delivered_cons_subset ho', css, hlast⟩
    by_cases ho : ctx.Delivers env s o
    · by_cases hj : Path.place env.cwd (o.target d) = j
      · -- the last one delivered there is this one
        obtain ⟨css, hresult, -, hget⟩ := locate_settle hd habs ho
        refine .inl ⟨o, by simp [delivered, ho], css, hresult, hj, ?_⟩
        rw [hfile, ← hj, hget]
      · refine .inr ⟨?_, fun c => ?_⟩
        · simpa [delivered, ho] using ⟨hj, hnone⟩
        · rw [hfile, file_settle_iff hd habs c fun _ => Ne.symm hj]
    · refine .inr ⟨by simpa [delivered, ho] using hnone, fun c => ?_⟩
      rw [hfile, file_settle_iff hd habs c fun h => absurd h ho]

lemma locate_settleAll (h : o ∈ ctx.delivered env s os) : ∃ css, o.result = .scoped css ∧
    (ctx.settleAll env s os).tree.locate env.cwd (o.target d) =
      .ok (Path.place env.cwd (o.target d)) := by
  induction os generalizing s with
  | nil => simp [delivered] at h
  | cons o' os ih =>
    rw [settleAll_cons]
    by_cases ho : ctx.Delivers env s o'
    · rw [delivered, if_pos ho, List.mem_cons] at h
      rcases h with rfl | h
      · obtain ⟨css, hresult, hlocate, -⟩ := locate_settle hd habs ho
        exact ⟨css, hresult, (grows_settleAll hd habs env _ os).locate hlocate⟩
      · exact ih h
    · rw [delivered, if_neg ho] at h
      exact ih h

lemma exists_of_settleAll {j : Location} (hnone : s.tree.get? j = none)
    (hsome : ((ctx.settleAll env s os).tree.get? j).isSome = true) :
    ∃ o ∈ os, ∃ us, us <+: Path.names (o.target d) ∧ j = Location.enter [] us := by
  induction os generalizing s with
  | nil => simp [hnone] at hsome
  | cons o os ih =>
    by_cases hstep : (ctx.settle env s o).tree.get? j = none
    · obtain ⟨o', ho', us, hus⟩ := ih hstep hsome
      exact ⟨o', List.mem_cons_of_mem o ho', us, hus⟩
    · rcases settle_cases hd env s o with ⟨-, htree, -⟩ | ⟨css, -, -, htree, -⟩
      · rw [htree] at hstep
        exact absurd hnone hstep
      · rw [htree, ← ne_eq, Option.ne_none_iff_isSome] at hstep
        exact ⟨o, List.mem_cons_self,
          FileTree.exists_of_writeDeep (o.isAbsolute_target habs) hnone hstep⟩

lemma mem_delivered_of_locate {css : Text} {l : Location} {c : Contents} (ht : s.tree.IsTree)
    (ho : o ∈ os) (hresult : o.result = .scoped css)
    (hsame : Path.same (o.target d) o.path = false)
    (hl : (ctx.settleAll env s os).tree.locate env.cwd (o.target d) = .ok l)
    (hc : (ctx.settleAll env s os).tree.get? l = some (.file c)) :
    o ∈ ctx.delivered env s os := by
  have htarget := o.isAbsolute_target habs
  induction os generalizing s with
  | nil => simp at ho
  | cons o' os ih =>
    rcases List.mem_cons.mp ho with rfl | ho
    · have hdelivers : ctx.Delivers env s o := by
        refine (delivers_iff hd).mpr ⟨css, hresult, hsame, ?_⟩
        by_contra hfail
        -- a write that failed would still fail at the end
        have hgrows := grows_settleAll hd habs env (ctx.settle env s o) os
        rw [tree_settle_of_scoped hd hresult hsame] at hgrows
        have hagain := FileTree.writeDeep_fails_again ht.connected htarget hfail hgrows css
        have hfinal := isTree_settleAll hd habs ht env (o :: os)
        exact hagain.1 (FileTree.writeDeep_of_locate hfinal.connected htarget hl hc css)
      simp [delivered, hdelivers]
    · exact delivered_cons_subset (ih (isTree_settle hd habs ht env o') ho hl hc)

/-- **Settling again changes nothing**: when every result that was delivered is found in the end,
the same outcomes settled in the tree that they left are counted as before and leave the same
tree. -/
lemma settleAll_again {r : RunState} (ht : s.tree.IsTree)
    (hsum : r.report.summary = s.report.summary)
    (hsame : ∀ l, r.tree.get? l = (ctx.settleAll env s os).tree.get? l)
    (hfound : ∀ o ∈ ctx.delivered env s os, ∀ css, o.result = .scoped css →
      (ctx.settleAll env s os).tree.get? (Path.place env.cwd (o.target d)) =
        some (.file (.text css))) :
    (ctx.settleAll env r os).report.summary = (ctx.settleAll env s os).report.summary ∧
      ∀ l, (ctx.settleAll env r os).tree.get? l = (ctx.settleAll env s os).tree.get? l := by
  induction os generalizing s r with
  | nil => exact ⟨hsum, hsame⟩
  | cons o os ih =>
    have hs' := isTree_settle hd habs ht env o
    have hrest := fun o' ho' => hfound o' (delivered_cons_subset ho')
    have hgrows := grows_settleAll hd habs env (ctx.settle env s o) os
    simp only [settleAll_cons] at hsame hfound hrest ⊢
    rcases settle_cases hd env s o with
      ⟨hrefused, htree, hsum₁⟩ | ⟨css, hresult, hdiffer, htree, hsum₁⟩
    · rcases settle_cases hd env r o with ⟨-, htree', hsum₂⟩ | ⟨css, hresult, hdiffer, -, -⟩
      · exact ih hs' (by rw [hsum₁, hsum₂, hsum]) (by rwa [htree']) hrest
      · simp [hrefused css hresult] at hdiffer
    rcases settle_cases hd env r o with ⟨hrefused, -, -⟩ | ⟨css', hresult', -, htree', hsum₂⟩
    · simp [hrefused css hresult] at hdiffer
    obtain rfl : css = css' := by simpa [hresult] using hresult'
    rw [htree] at hgrows
    have hinto := hgrows.congr hsame
    have htarget := o.isAbsolute_target habs
    by_cases hok : (s.tree.writeDeep env.cwd (o.target d) css).2 = .ok ()
    · obtain ⟨hok', hput⟩ := FileTree.writeDeep_succeeds_again ht.connected htarget hok hinto css
      have hdelivers : ctx.Delivers env s o := (delivers_iff hd).mpr ⟨css, hresult, hdiffer, hok⟩
      have hget := hfound o (by simp [delivered, hdelivers]) css hresult
      refine ih hs' (by rw [hsum₁, hsum₂, hsum, decide_eq_true hok, decide_eq_true hok']) ?_ hrest
      -- what is written stands there already
      intro l
      rw [htree', hput, FileTree.get?_put_of_get? ((hsame _).trans hget), hsame l]
    · obtain ⟨hok', hstays⟩ := FileTree.writeDeep_fails_again ht.connected htarget hok hinto css
      refine ih hs' (by rw [hsum₁, hsum₂, hsum, decide_eq_false hok, decide_eq_false hok']) ?_ hrest
      rwa [htree', hstays]

end Absolute

end RunContext
end StyleScope
