import StyleScope.Proofs.Sheet.Forest
import StyleScope.Scope.Eligibility

/-!
Eligible rules are outermost.

In a parsed sheet every parent is a rule or an at-rule with a block and has a smaller number than
its children, so walking outwards meets exactly the nodes around a node, and the parent it meets
first is one that eligibility can judge. No rule is around an eligible one, hence of the rules on
a path from the top level inwards only the outermost can be eligible.
-/

namespace StyleScope

lemma AtRule.isTransparent_iff {a : AtRule} : a.isTransparent = true ↔
    "media".toList <:+ a.name ∨ "supports".toList <:+ a.name ∨ "for".toList <:+ a.name := by
  simp only [isTransparent, Bool.or_eq_true, List.isSuffixOf_iff_suffix, or_assoc]

namespace Sheet

variable {s : Sheet} {id p : NodeId}

/-! ### Walking outwards -/

section Nested

variable (h : s.Nested [])

include h in
lemma Nested.ancestors_of_parent? (hp : s.parent? id = some p) :
    ∃ m ids, s.node? p = some m ∧ m.data.block? = some ids ∧
      s.ancestors id = (p, m) :: s.ancestors p := by
  obtain ⟨m, ids, hm, hids⟩ := h.parent_holds hp
  refine ⟨m, ids, hm, hids, ?_⟩
  rw [ancestors, hp]
  simp [h.prior id p hp, hm]

lemma ancestors_of_top (hp : s.parent? id = none) : s.ancestors id = [] := by
  rw [ancestors, hp]

include h in
/-- **Walking outwards meets the nodes around a node**, all of them and no others. -/
theorem Nested.mem_ancestors {n : Node} :
    (p, n) ∈ s.ancestors id ↔ Above s.parent? id p ∧ s.node? p = some n := by
  induction id using Nat.strongRecOn with
  | _ id ih =>
    rw [above_iff]
    cases hq : s.parent? id with
    | none => simp [ancestors_of_top hq]
    | some q =>
      obtain ⟨m, -, hm, -, hanc⟩ := h.ancestors_of_parent? hq
      rw [hanc, List.mem_cons, ih q (h.prior id q hq)]
      simp only [Prod.mk.injEq, Option.some.injEq, exists_eq_left']
      constructor
      · rintro (⟨rfl, rfl⟩ | ⟨habove, hn⟩)
        · exact ⟨.inl rfl, hm⟩
        · exact ⟨.inr habove, hn⟩
      · rintro ⟨rfl | habove, hn⟩
        · exact .inl ⟨rfl, Option.some.inj (hn.symm.trans hm)⟩
        · exact .inr ⟨habove, hn⟩

include h in
lemma Nested.any_isRule_ancestors : ((s.ancestors id).any fun q => q.2.data.isRule) = true ↔
    ∃ p, Above s.parent? id p ∧ (s.rule? p).isSome = true := by
  rw [List.any_eq_true]
  constructor
  · rintro ⟨⟨p, n⟩, hmem, hrule⟩
    obtain ⟨habove, hn⟩ := h.mem_ancestors.mp hmem
    exact ⟨p, habove, by rw [rule?, hn]; exact hrule⟩
  · rintro ⟨p, habove, hrule⟩
    obtain ⟨r, hr⟩ := Option.isSome_iff_exists.mp hrule
    obtain ⟨n, hn, hdata⟩ := Option.bind_eq_some_iff.mp hr
    exact ⟨(p, n), h.mem_ancestors.mpr ⟨habove, hn⟩, Option.isSome_of_eq_some hdata⟩

/-! ### What makes a rule eligible -/

/-- What may be right around an eligible rule: nothing, or an at-rule that only says when its
rules apply. -/
def AdmitsParent (s : Sheet) (id : NodeId) : Prop :=
  s.parent? id = none ∨ ∃ p a, s.parent? id = some p ∧ s.atRule? p = some a ∧
    ("media".toList <:+ a.name ∨ "supports".toList <:+ a.name ∨ "for".toList <:+ a.name)

include h in
/-- A parent with a block is a rule or an at-rule, and of these the transparent at-rules admit
eligible rules. -/
lemma Nested.admits_iff (hp : s.parent? id = some p) {m : Node} (hm : s.node? p = some m) :
    m.data.admits = true ↔ s.AdmitsParent id := by
  have hparent : s.AdmitsParent id ↔ ∃ a, m.data.atRule? = some a ∧ a.isTransparent = true := by
    simp [AdmitsParent, hp, atRule?, hm, AtRule.isTransparent_iff]
  obtain ⟨m', ids, hm', hids⟩ := h.parent_holds hp
  obtain rfl : m = m' := Option.some.inj (hm.symm.trans hm')
  rw [hparent]
  cases hd : m.data with
  | rule r => simp [NodeData.admits, NodeData.atRule?]
  | atRule a => simp [NodeData.admits, NodeData.atRule?]
  | declaration d => simp [hd, NodeData.block?] at hids
  | comment t => simp [hd, NodeData.block?] at hids

include h in
/-- **A rule is eligible exactly when no rule is around it and its parent admits it.** -/
theorem Nested.isEligible_iff : s.isEligible id = true ↔
    (∀ p, Above s.parent? id p → s.rule? p = none) ∧ s.AdmitsParent id := by
  cases hp : s.parent? id with
  | none =>
    have hnone (q : NodeId) : ¬ Above s.parent? id q := by
      rw [above_iff, hp]
      simp
    simp [isEligible, ancestors_of_top hp, AdmitsParent, hp, hnone]
  | some p =>
    obtain ⟨m, ids, hm, hids, hanc⟩ := h.ancestors_of_parent? hp
    -- a parent that admits rules is none itself
    have hself : m.data.admits = true → s.rule? p = none := by
      cases hd : m.data <;> simp [NodeData.admits, rule?, hm, hd, NodeData.rule?]
    have houter : (!(s.ancestors p).any fun q => q.2.data.isRule) = true ↔
        ∀ q, Above s.parent? p q → s.rule? q = none := by
      rw [Bool.not_eq_true', ← Bool.not_eq_true, h.any_isRule_ancestors]
      simp
    rw [isEligible, hanc]
    simp only [Bool.and_eq_true, houter, ← h.admits_iff hp hm]
    constructor
    · rintro ⟨hadmits, hfree⟩
      refine ⟨fun q habove => ?_, hadmits⟩
      obtain ⟨q', hq', hq⟩ := above_iff.mp habove
      obtain rfl : p = q' := Option.some.inj (hp.symm.trans hq')
      rcases hq with rfl | habove
      · exact hself hadmits
      · exact hfree q habove
    · rintro ⟨hfree, hadmits⟩
      exact ⟨hadmits, fun q habove => hfree q (above_iff.mpr ⟨p, hp, .inr habove⟩)⟩

end Nested

/-! ### Eligible rules on a path -/

def EligibleRule (s : Sheet) (id : NodeId) : Prop :=
  (s.rule? id).isSome = true ∧ s.isEligible id = true

/-- The nodes from a node out to the top level. -/
def pathFrom (s : Sheet) (id : NodeId) : List NodeId := id :: (s.ancestors id).map Prod.fst

def rulesAmong (s : Sheet) (path : List NodeId) : List NodeId :=
  path.filter fun id => (s.rule? id).isSome

lemma Nested.isPath_pathFrom (h : s.Nested []) (id : NodeId) :
    IsPath s.parent? (s.pathFrom id) := by
  induction id using Nat.strongRecOn with
  | _ id ih =>
    cases hp : s.parent? id with
    | none => simp [pathFrom, ancestors_of_top hp, IsPath, hp]
    | some p =>
      obtain ⟨m, -, -, -, hanc⟩ := h.ancestors_of_parent? hp
      rw [pathFrom, hanc]
      exact ⟨hp, ih p (h.prior id p hp)⟩

/-- **The eligible rule of a path is the outermost of its rules.** -/
theorem Nested.getLast?_rulesAmong (h : s.Nested []) {path : List NodeId}
    (hpath : IsPath s.parent? path) (hid : id ∈ path) (he : s.EligibleRule id) :
    (s.rulesAmong path).getLast? = some id := by
  induction path with
  | nil => simp at hid
  | cons q ps ih =>
    rcases List.mem_cons.mp hid with rfl | hid
    · -- the rest of the path is around the rule, so it has no rules
      have hnone : s.rulesAmong ps = [] := by
        refine List.filter_eq_nil_iff.mpr fun p hp => ?_
        obtain ⟨r, hr, hrp⟩ := (mem_path_iff hpath.2).mp hp
        have habove := above_iff.mpr ⟨r, hpath.1.trans hr, hrp⟩
        simp [(h.isEligible_iff.mp he.2).1 p habove]
      have hcons : s.rulesAmong (id :: ps) = id :: s.rulesAmong ps := by
        simp [rulesAmong, he.1]
      rw [hcons, hnone]
      rfl
    · have hlast := ih hpath.2 hid
      rw [rulesAmong] at hlast ⊢
      rw [List.filter_cons]
      split_ifs
      · rw [List.getLast?_cons, hlast]
        rfl
      · exact hlast

/-- The rules that are scoped are told by what is around them, and no two of them are nested. -/
structure ScopesOutermost (s : Sheet) : Prop where
  /-- No node around the rule is a rule, and the one right around it is transparent. -/
  eligible : ∀ id, s.isEligible id = true ↔
    (∀ p, Above s.parent? id p → s.rule? p = none) ∧ s.AdmitsParent id
  /-- Every node has its path to the top level. -/
  path : ∀ id, IsPath s.parent? (s.pathFrom id)
  outermost : ∀ path, IsPath s.parent? path → ∀ id ∈ path, s.EligibleRule id →
    (s.rulesAmong path).getLast? = some id
  single : ∀ path, IsPath s.parent? path → ∀ id ∈ path, ∀ id' ∈ path, s.EligibleRule id →
    s.EligibleRule id' → id = id'
  apart : ∀ id id', s.EligibleRule id → s.EligibleRule id' → ¬ Above s.parent? id' id

lemma Nested.scopesOutermost (h : s.Nested []) : s.ScopesOutermost where
  eligible _ := h.isEligible_iff
  path := h.isPath_pathFrom
  outermost _ hpath _ hid he := h.getLast?_rulesAmong hpath hid he
  single path hpath id hid id' hid' he he' := by
    have hlast := h.getLast?_rulesAmong hpath hid he
    exact Option.some.inj (hlast.symm.trans (h.getLast?_rulesAmong hpath hid' he'))
  apart id id' he he' habove := by
    have hnone := (h.isEligible_iff.mp he'.2).1 id habove
    simp [EligibleRule, hnone] at he

/-- **In a parsed sheet only outermost rules are scoped**, whatever is wrong with the source. -/
theorem scopesOutermost_parse (source : Text) (file : Option Text) :
    (parse source file).sheet.ScopesOutermost :=
  (laid_parse source file).nested.scopesOutermost

end Sheet
end StyleScope
