import StyleScope.Proofs.Scope.Rules

/-!
What scoping a sheet leaves alone.

Whether a rule is eligible is read off the nodes around it, and of those only what kind they are.
A changed selector therefore makes no rule eligible or ineligible, and the eligible rules can be
read off once, before the first of them is changed. `ScopedFrom` says of two sheets that they
differ in the selectors of the eligible rules only, and how. Scoping under any options leaves
such a sheet, or the sheet as it was.
-/

namespace StyleScope

namespace Sheet

/-! ### Changes of rules, node by node -/

lemma node?_modifyRule (s : Sheet) (id : NodeId) (f : Rule → Rule) (k : NodeId) :
    (s.modifyRule id f).node? k =
      if id = k then (s.node? k).map fun n => { n with data := n.data.mapRule f }
      else s.node? k :=
  Array.getElem?_modify

lemma rule?_modifyRule_of_ne {s : Sheet} {id k : NodeId} (h : id ≠ k) (f : Rule → Rule) :
    (s.modifyRule id f).rule? k = s.rule? k := by
  rw [rule?, node?_modifyRule, if_neg h, rule?]

lemma modifyRule_congr {s : Sheet} {id : NodeId} {f g : Rule → Rule}
    (h : ∀ r, s.rule? id = some r → f r = g r) : s.modifyRule id f = s.modifyRule id g := by
  have hnodes : (s.modifyRule id f).nodes = (s.modifyRule id g).nodes := by
    refine Array.ext_getElem? fun k => ?_
    have hnode : (s.modifyRule id f).node? k = (s.modifyRule id g).node? k := by
      rw [node?_modifyRule, node?_modifyRule]
      split_ifs with hk
      · subst hk
        refine Option.map_congr fun n hn => ?_
        obtain ⟨data, parent, span⟩ := n
        cases data with
        | rule r => simp only [NodeData.mapRule, h r (by simp [rule?, hn, NodeData.rule?])]
        | _ => rfl
      · rfl
    exact hnode
  exact congrArg (fun nodes => { s with nodes := nodes }) hnodes

lemma foldl_modifyRule_eq (f : Rule → Rule) (l : List (NodeId × Rule)) (s : Sheet) :
    l.foldl (fun s p => s.modifyRule p.1 f) s =
      { s with nodes := (l.foldl (fun s p => s.modifyRule p.1 f) s).nodes } := by
  induction l generalizing s with
  | nil => rfl
  | cons p l ih => exact ih _

lemma size_foldl_modifyRule (f : Rule → Rule) (l : List (NodeId × Rule)) (s : Sheet) :
    (l.foldl (fun s p => s.modifyRule p.1 f) s).nodes.size = s.nodes.size := by
  induction l generalizing s with
  | nil => rfl
  | cons p l ih => exact (ih _).trans Array.size_modify

lemma node?_foldl_modifyRule (f : Rule → Rule) {l : List (NodeId × Rule)}
    (hnd : (l.map Prod.fst).Nodup) (s : Sheet) (k : NodeId) :
    (l.foldl (fun s p => s.modifyRule p.1 f) s).node? k =
      if k ∈ l.map Prod.fst then (s.node? k).map fun n => { n with data := n.data.mapRule f }
      else s.node? k := by
  induction l generalizing s with
  | nil => simp
  | cons p l ih =>
    rw [List.map_cons, List.nodup_cons] at hnd
    rw [List.foldl_cons, ih hnd.2, node?_modifyRule, List.map_cons]
    simp only [List.mem_cons]
    by_cases hk : k = p.1
    · subst hk
      simp [hnd.1]
    · rw [if_neg (Ne.symm hk)]
      simp only [hk, false_or]

lemma mem_rulesFrom {id k : NodeId} {ns : List Node} {r : Rule} :
    (k, r) ∈ rulesFrom id ns ↔ ∃ i, k = id + i ∧ ns[i]?.bind (·.data.rule?) = some r := by
  induction ns generalizing id with
  | nil => simp [rulesFrom]
  | cons n ns ih =>
    have htail : (k, r) ∈ rulesFrom (id + 1) ns ↔
        ∃ i, k = id + (i + 1) ∧ (n :: ns)[i + 1]?.bind (·.data.rule?) = some r := by
      rw [ih]
      simp only [List.getElem?_cons_succ, Nat.add_assoc, Nat.add_comm 1]
    have hhead : (∃ i, k = id + i ∧ (n :: ns)[i]?.bind (·.data.rule?) = some r) ↔
        (k = id ∧ n.data.rule? = some r) ∨ (k, r) ∈ rulesFrom (id + 1) ns := by
      rw [htail]
      constructor
      · rintro ⟨_ | i, hk, hr⟩
        · exact .inl ⟨hk, by simpa using hr⟩
        · exact .inr ⟨i, hk, hr⟩
      · rintro (⟨hk, hr⟩ | ⟨i, hk, hr⟩)
        · exact ⟨0, hk, by simpa using hr⟩
        · exact ⟨i + 1, hk, hr⟩
    rw [hhead, rulesFrom]
    cases hn : n.data.rule? with
    | none => simp
    | some q => simp [eq_comm]

lemma mem_rules {s : Sheet} {id : NodeId} {r : Rule} :
    (id, r) ∈ s.rules ↔ s.rule? id = some r := by
  rw [rules, mem_rulesFrom]
  simp [rule?, node?]

/-! ### Eligibility -/

lemma map_ancestors_congr {β : Type} {g : Node → β} {s s' : Sheet}
    (h : ∀ id, (s'.node? id).map (fun n => (n.parent, g n)) =
      (s.node? id).map fun n => (n.parent, g n)) (id : NodeId) :
    (s'.ancestors id).map (fun p => g p.2) = (s.ancestors id).map fun p => g p.2 := by
  have hparent (k : NodeId) : s'.parent? k = s.parent? k := by
    have hk := congrArg (Option.bind · Prod.fst) (h k)
    simpa only [parent?, Option.bind_map, Function.comp_def] using hk
  fun_induction Sheet.ancestors s id with
  | case1 id hp => rw [ancestors, hparent, hp]
  | case2 id p hp hlt hn =>
    have hn' : s'.node? p = none := by simpa [hn] using h p
    rw [ancestors, hparent, hp]
    simp [hlt, hn']
  | case3 id p hp hlt n hn ih =>
    obtain ⟨n', hn', heq⟩ : ∃ n', s'.node? p = some n' ∧ g n' = g n := by
      have hk := h p
      rw [hn, Option.map_some, Option.map_eq_some_iff] at hk
      obtain ⟨n', hn', heq⟩ := hk
      exact ⟨n', hn', (Prod.mk.inj heq).2⟩
    rw [ancestors, hparent, hp]
    simp [hlt, hn', heq, ih]
  | case4 id p hp hlt =>
    rw [ancestors, hparent, hp]
    simp [hlt]

/-- Eligibility is settled by what the nodes around a rule admit and which of them are rules. -/
lemma isEligible_eq (s : Sheet) (id : NodeId) :
    s.isEligible id =
      match (s.ancestors id).map fun p => (p.2.data.admits, p.2.data.isRule) with
      | [] => true
      | (admits, _) :: outer => admits && !outer.any Prod.snd := by
  rw [isEligible]
  cases s.ancestors id with
  | nil => rfl
  | cons p outer => simp [Function.comp_def]

lemma isEligible_congr {s s' : Sheet}
    (h : ∀ id, (s'.node? id).map (fun n => (n.parent, n.data.admits, n.data.isRule)) =
      (s.node? id).map fun n => (n.parent, n.data.admits, n.data.isRule)) (id : NodeId) :
    s'.isEligible id = s.isEligible id := by
  rw [isEligible_eq, isEligible_eq, map_ancestors_congr h]

end Sheet

lemma NodeData.admits_mapRule (f : Rule → Rule) (d : NodeData) :
    (d.mapRule f).admits = d.admits := by
  cases d <;> rfl

lemma NodeData.isRule_mapRule (f : Rule → Rule) (d : NodeData) :
    (d.mapRule f).isRule = d.isRule := by
  cases d <;> rfl

/-! ### Scoped sheets -/

/-- `after` is `before` with its eligible rules scoped, and nothing else is changed. -/
structure ScopedFrom (policy : ScopePolicy) (ns : Text) (before after : Sheet) : Prop where
  source : after.source = before.source
  file : after.file = before.file
  children : after.children = before.children
  size : after.nodes.size = before.nodes.size
  /-- A node that is no rule is as it was. -/
  other : ∀ id n, before.node? id = some n → n.data.rule? = none → after.node? id = some n
  /-- So is a rule that is not eligible. -/
  skipped : ∀ id n r, before.node? id = some n → n.data = .rule r →
    before.isEligible id = false → after.node? id = some n
  /-- Of an eligible rule the selector is new and nothing else: each item of its list is scoped,
  and they are joined with the separator of the rule as it was. -/
  changed : ∀ id n r, before.node? id = some n → n.data = .rule r → before.isEligible id = true →
    after.node? id = some { n with data := .rule { r with
      selector := Text.join r.separator (r.selectors.map fun item => policy.apply item ns) } }
  eligible : ∀ id, after.isEligible id = before.isEligible id

namespace Scoper

variable (sc : Scoper) (ns : Text) (sheet : Sheet)

lemma node?_scopeSheet (id : NodeId) :
    (sc.scopeSheet ns sheet).node? id = (sheet.node? id).map fun n =>
      if sheet.isEligible id then { n with data := n.data.mapRule (sc.scopeRule ns) } else n := by
  have hmem : id ∈ (sheet.rules.filter fun p => sheet.isEligible p.1).map Prod.fst ↔
      (sheet.rule? id).isSome ∧ sheet.isEligible id := by
    simp [Sheet.mem_rules, Option.isSome_iff_exists]
  have hfold := Sheet.node?_foldl_modifyRule (sc.scopeRule ns) sheet.nodup_eligible sheet id
  simp only [hmem] at hfold
  refine hfold.trans ?_
  cases hn : sheet.node? id with
  | none => simp
  | some n =>
    obtain ⟨data, parent, span⟩ := n
    cases he : sheet.isEligible id <;> cases data <;>
      simp [Sheet.rule?, hn, NodeData.rule?, NodeData.mapRule]

lemma isEligible_scopeSheet (id : NodeId) :
    (sc.scopeSheet ns sheet).isEligible id = sheet.isEligible id := by
  refine Sheet.isEligible_congr (fun k => ?_) id
  rw [node?_scopeSheet, Option.map_map]
  refine Option.map_congr fun n _ => ?_
  simp only [Function.comp_apply]
  split_ifs
  · simp [NodeData.admits_mapRule, NodeData.isRule_mapRule]
  · rfl

lemma scopeSheet_eq_nodes :
    sc.scopeSheet ns sheet = { sheet with nodes := (sc.scopeSheet ns sheet).nodes } :=
  Sheet.foldl_modifyRule_eq (sc.scopeRule ns) _ sheet

theorem scopedFrom_scopeSheet : ScopedFrom sc.policy ns sheet (sc.scopeSheet ns sheet) where
  source := source_scopeSheet sc ns sheet
  file := by rw [scopeSheet_eq_nodes]
  children := by rw [scopeSheet_eq_nodes]
  size := Sheet.size_foldl_modifyRule (sc.scopeRule ns) _ sheet
  other id n hn hr := by
    have hdata : n.data.mapRule (sc.scopeRule ns) = n.data := by
      cases hd : n.data with
      | rule r => simp [hd, NodeData.rule?] at hr
      | _ => rfl
    simp [node?_scopeSheet, hn, hdata]
  skipped id n r hn _ he := by simp [node?_scopeSheet, hn, he]
  changed id n r hn hd he := by
    rw [node?_scopeSheet, hn, Option.map_some, if_pos he, hd]
    rfl
  eligible := isEligible_scopeSheet sc ns sheet

/-- The changes that scoping makes, read off the sheet as it is. -/
def edits : List Sheet.Edit :=
  (sheet.rules.filter fun p => sheet.isEligible p.1).map fun p =>
    .selectors p.1 (p.2.selectors.map fun item => sc.policy.apply item ns)

/-- **Every change is settled before the first is made**: scoping the rules one by one is the
same as reading off all new selectors and then writing them. -/
theorem scopeSheet_eq_editAll : sc.scopeSheet ns sheet = sheet.editAll (sc.edits ns sheet) := by
  have hwrite (l : List (NodeId × Rule)) (hnd : (l.map Prod.fst).Nodup) (s : Sheet)
      (hl : ∀ p ∈ l, s.rule? p.1 = some p.2) :
      l.foldl (fun s p => s.modifyRule p.1 (sc.scopeRule ns)) s =
        s.editAll (l.map fun p =>
          .selectors p.1 (p.2.selectors.map fun item => sc.policy.apply item ns)) := by
    induction l generalizing s with
    | nil => rfl
    | cons p l ih =>
      rw [List.map_cons, List.nodup_cons] at hnd
      have hedit : s.modifyRule p.1 (sc.scopeRule ns) = s.edit
          (.selectors p.1 (p.2.selectors.map fun item => sc.policy.apply item ns)) := by
        refine Sheet.modifyRule_congr fun r hr => ?_
        obtain rfl : p.2 = r := Option.some.inj ((hl p List.mem_cons_self).symm.trans hr)
        rfl
      -- the rules still to come are not touched by this change
      have hrest : ∀ q ∈ l, (s.modifyRule p.1 (sc.scopeRule ns)).rule? q.1 = some q.2 := by
        intro q hq
        have hne : p.1 ≠ q.1 := fun heq => hnd.1 (heq ▸ List.mem_map_of_mem hq)
        rw [Sheet.rule?_modifyRule_of_ne hne]
        exact hl q (List.mem_cons_of_mem p hq)
      rw [List.foldl_cons, ih hnd.2 _ hrest, hedit, List.map_cons]
      rfl
  refine hwrite _ sheet.nodup_eligible sheet fun p hp => ?_
  exact Sheet.mem_rules.mp (List.mem_filter.mp hp).1

end Scoper

/-! ### Scoping under options -/

/-- What a namespace says for a file. -/
def Namespace.value (n : Namespace) (file : Option Path) : Except Text (Option Text) :=
  match n with
  | fixed selector => .ok (some selector)
  | perFile f => f file

lemma Namespace.resolve_eq (n : Namespace) (file : Option Path) :
    n.resolve file =
      match n.value file with
      | .error cause => .error ⟨file, cause⟩
      | .ok s => .ok (s.filter fun s => !s.isEmpty) := by
  cases n with
  | fixed selector => rfl
  | perFile f =>
    rw [resolve, value]
    cases f file <;> rfl

namespace Scoper

/-- Scopes a sheet in its place: what the sheet is afterwards, and what was reported. By
`apply_eq_error_iff` nothing has been edited when an error is met. -/
def applied (sc : Scoper) (sheet : Sheet) : Sheet × Except ResolveError ScopeReport :=
  match sc.apply sheet with
  | .ok (sheet', report) => (sheet', .ok report)
  | .error e => (sheet, .error e)

lemma under_ofOptions {o : ScopeOptions} {sc : Scoper} (h : ofOptions o = .ok sc) :
    sc.under = o.under := by
  unfold ofOptions at h
  cases hself : o.self.compileFor .self with
  | error e => simp [hself, bind, Except.bind] at h
  | ok self =>
    cases hroot : o.root.compileFor .root with
    | error e => simp [hself, hroot, bind, Except.bind] at h
    | ok root =>
      simp only [hself, hroot, bind, Except.bind, pure, Except.pure, Except.ok.injEq] at h
      exact h ▸ rfl

lemma apply_of_value {sc : Scoper} {sheet : Sheet} {ns : Text}
    (h : sc.under.value sheet.file = .ok (some ns)) (hns : ns ≠ []) :
    sc.apply sheet = .ok (sc.scopeSheet ns sheet,
      ⟨some ns, (sheet.rules.filter fun p => sheet.isEligible p.1).length,
        sheet.rules.length - (sheet.rules.filter fun p => sheet.isEligible p.1).length⟩) := by
  have hresolve : sc.under.resolve sheet.file = .ok (some ns) := by
    rw [Namespace.resolve_eq, h]
    simp [hns]
  rw [apply, hresolve]
  rfl

/-- **Scoping changes the selectors of the eligible rules and nothing else.** A sheet whose
namespace cannot be computed, is none or is empty stays as it is. Under any other namespace every
change is read off the sheet as it was, each eligible rule has its own selectors scoped one by
one, whatever the other rules are, and the report counts the rules that are eligible and the
rules that are not. -/
theorem applied_eq {o : ScopeOptions} {sc : Scoper} (ho : ofOptions o = .ok sc) (sheet : Sheet) :
    match o.under.value sheet.file with
    | .error cause => sc.applied sheet = (sheet, .error ⟨sheet.file, cause⟩)
    | .ok none => sc.applied sheet = (sheet, .ok {})
    | .ok (some []) => sc.applied sheet = (sheet, .ok {})
    | .ok (some (c :: cs)) => ∃ sheet' report, sc.applied sheet = (sheet', .ok report) ∧
        sheet' = sheet.editAll (sc.edits (c :: cs) sheet) ∧
        ScopedFrom sc.policy (c :: cs) sheet sheet' ∧
        report.selector = some (c :: cs) ∧
        report.changed = sheet.rules.countP (fun p => sheet.isEligible p.1) ∧
        report.skipped = sheet.rules.countP (fun p => !sheet.isEligible p.1) ∧
        report.changed + report.skipped = sheet.rules.length := by
  rw [← under_ofOptions ho]
  have hresolve := Namespace.resolve_eq sc.under sheet.file
  cases hvalue : sc.under.value sheet.file with
  | error cause =>
    rw [hvalue] at hresolve
    simp only [applied, apply_eq_error_iff.mpr hresolve]
  | ok value =>
    rw [hvalue] at hresolve
    match value, hvalue, hresolve with
    | none, _, hresolve =>
      simp only [applied, apply, hresolve]
      rfl
    | some [], _, hresolve =>
      simp only [applied, apply, hresolve]
      rfl
    | some (c :: cs), hvalue, _ =>
      have happly := apply_of_value hvalue (List.cons_ne_nil c cs)
      have hsum : sheet.rules.length = sheet.rules.countP (fun p => sheet.isEligible p.1) +
          sheet.rules.countP fun p => !sheet.isEligible p.1 := by
        simpa using sheet.rules.length_eq_countP_add_countP fun p => sheet.isEligible p.1
      rw [← List.countP_eq_length_filter] at happly
      refine ⟨_, _, by rw [applied, happly], scopeSheet_eq_editAll sc (c :: cs) sheet,
        scopedFrom_scopeSheet sc (c :: cs) sheet, rfl, rfl, ?_, ?_⟩
      · simp only
        omega
      · simp only
        omega

/-- In a sheet of `card.css` with the namespace named for the file, the rule in the media query
is scoped and the rule inside it is not. -/
theorem applied_card :
    ofOptions { under := .template ".\x7bname\x7d".toList } =
      .ok ⟨.template ".\x7bname\x7d".toList, .standard⟩ ∧
    ∃ sheet' report, (⟨.template ".\x7bname\x7d".toList, .standard⟩ : Scoper).applied
        (Sheet.parse "@media print \x7b a, b \x7b i \x7b\x7d \x7d \x7d".toList
          (some "lib/card.css".toList)).sheet = (sheet', .ok report) ∧
      ScopedFrom .standard ".card".toList
        (Sheet.parse "@media print \x7b a, b \x7b i \x7b\x7d \x7d \x7d".toList
          (some "lib/card.css".toList)).sheet sheet' ∧
      report.changed = 1 ∧ report.skipped = 1 := by
  have ho : ofOptions { under := .template ".\x7bname\x7d".toList } =
      .ok ⟨.template ".\x7bname\x7d".toList, .standard⟩ := rfl
  have hvalue : (Namespace.template ".\x7bname\x7d".toList).value (some "lib/card.css".toList) =
      .ok (some ".card".toList) := by decide +kernel
  have h := applied_eq ho (Sheet.parse "@media print \x7b a, b \x7b i \x7b\x7d \x7d \x7d".toList
    (some "lib/card.css".toList)).sheet
  rw [show (Sheet.parse _ (some "lib/card.css".toList)).sheet.file = some "lib/card.css".toList
    from rfl, hvalue] at h
  obtain ⟨sheet', report, happlied, -, hframe, -, hchanged, hskipped, -⟩ := h
  exact ⟨ho, sheet', report, happlied, hframe, hchanged.trans (by decide +kernel),
    hskipped.trans (by decide +kernel)⟩

end Scoper
end StyleScope
