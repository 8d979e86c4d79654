import StyleScope.Proofs.Scope.Rewriting
import StyleScope.Proofs.Sheet.Splice

/-!
The rules of a scoped sheet.

Scoping changes the eligible rules of a sheet one after another. Which rules are eligible is
settled before the first change, and no rule is changed twice, so in the end every eligible rule
is scoped and every other rule is as it was.
-/

namespace StyleScope

namespace Sheet

lemma le_of_mem_rulesFrom {id : NodeId} {ns : List Node} {p : NodeId × Rule}
    (h : p ∈ rulesFrom id ns) : id ≤ p.1 := by
  induction ns generalizing id with
  | nil => simp [rulesFrom] at h
  | cons n ns ih =>
    rw [rulesFrom] at h
    split at h
    · rcases List.mem_cons.mp h with rfl | h
      · exact Nat.le_refl _
      · exact Nat.le_of_succ_le (ih h)
    · exact Nat.le_of_succ_le (ih h)

lemma nodup_rules (s : Sheet) : (s.rules.map Prod.fst).Nodup := by
  have hfrom (id : NodeId) (ns : List Node) : ((rulesFrom id ns).map Prod.fst).Nodup := by
    induction ns generalizing id with
    | nil => exact List.nodup_nil
    | cons n ns ih =>
      rw [rulesFrom]
      split
      · rw [List.map_cons, List.nodup_cons]
        refine ⟨fun hmem => ?_, ih _⟩
        obtain ⟨p, hp, hid⟩ := List.mem_map.mp hmem
        have hle : id + 1 ≤ p.1 := le_of_mem_rulesFrom hp
        exact Nat.ne_of_gt hle hid
      · exact ih _
  exact hfrom 0 _

lemma nodup_eligible (s : Sheet) :
    ((s.rules.filter fun p => s.isEligible p.1).map Prod.fst).Nodup :=
  s.nodup_rules.sublist (List.filter_sublist.map _)

lemma rulesFrom_modify (f : Rule → Rule) (id : NodeId) (ns : List Node) (k : Nat) :
    rulesFrom id (ns.modify k fun n => { n with data := n.data.mapRule f }) =
      (rulesFrom id ns).map fun p => if p.1 = id + k then (p.1, f p.2) else p := by
  induction ns generalizing id k with
  | nil => cases k <;> rfl
  | cons n ns ih =>
    cases k with
    | zero =>
      have hrest : (rulesFrom (id + 1) ns).map (fun p => if p.1 = id + 0 then (p.1, f p.2) else p) =
          rulesFrom (id + 1) ns := by
        refine (List.map_congr_left fun p hp => ?_).trans (List.map_id _)
        have hle : id + 1 ≤ p.1 := le_of_mem_rulesFrom hp
        exact if_neg (Nat.ne_of_gt hle)
      obtain ⟨data, parent, span⟩ := n
      cases data <;>
        simp_all [List.modify_zero_cons, rulesFrom, NodeData.mapRule, NodeData.rule?]
    | succ k =>
      have hk : id + 1 + k = id + (k + 1) := Nat.succ_add_eq_add_succ id k
      rw [List.modify_succ_cons, rulesFrom, rulesFrom, ih, hk]
      split
      · rw [List.map_cons, if_neg (by simp)]
      · rfl

lemma rules_modifyRule (s : Sheet) (id : NodeId) (f : Rule → Rule) :
    (s.modifyRule id f).rules = s.rules.map fun p => if p.1 = id then (p.1, f p.2) else p := by
  have h := rulesFrom_modify f 0 s.nodes.toList id
  rw [Nat.zero_add, ← Array.toList_modify] at h
  exact h

lemma rules_foldl_modifyRule (f : Rule → Rule) {l : List (NodeId × Rule)}
    (hnd : (l.map Prod.fst).Nodup) (s : Sheet) :
    (l.foldl (fun s p => s.modifyRule p.1 f) s).rules =
      s.rules.map fun p => if p.1 ∈ l.map Prod.fst then (p.1, f p.2) else p := by
  induction l generalizing s with
  | nil => simp
  | cons q l ih =>
    rw [List.map_cons, List.nodup_cons] at hnd
    rw [List.foldl_cons, ih hnd.2, rules_modifyRule, List.map_map]
    refine List.map_congr_left fun p _ => ?_
    simp only [Function.comp_apply, List.map_cons, List.mem_cons]
    by_cases hp : p.1 = q.1
    · simp only [hp, if_true, true_or]
      exact if_neg hnd.1
    · simp only [hp, if_false, false_or]

end Sheet

namespace Scoper

/-- **Every eligible rule is scoped, and every other rule is as it was.** -/
theorem rules_scopeSheet (sc : Scoper) (ns : Text) (sheet : Sheet) :
    (sc.scopeSheet ns sheet).rules = sheet.rules.map fun p =>
      if sheet.isEligible p.1 then (p.1, sc.scopeRule ns p.2) else p := by
  have h := Sheet.rules_foldl_modifyRule (sc.scopeRule ns) sheet.nodup_eligible sheet
  refine h.trans (List.map_congr_left fun p hp => ?_)
  have hiff : p.1 ∈ (sheet.rules.filter fun p => sheet.isEligible p.1).map Prod.fst ↔
      sheet.isEligible p.1 = true := by
    constructor
    · rintro hmem
      obtain ⟨q, hq, heq⟩ := List.mem_map.mp hmem
      exact heq ▸ (List.mem_filter.mp hq).2
    · intro he
      exact List.mem_map_of_mem (List.mem_filter.mpr ⟨hp, he⟩)
  simp only [hiff]

lemma source_scopeSheet (sc : Scoper) (ns : Text) (sheet : Sheet) :
    (sc.scopeSheet ns sheet).source = sheet.source := by
  have hfold (l : List (NodeId × Rule)) (s : Sheet) :
      (l.foldl (fun s p => s.modifyRule p.1 (sc.scopeRule ns)) s).source = s.source := by
    induction l generalizing s with
    | nil => rfl
    | cons p l ih => exact ih _
  exact hfold _ _

lemma ofOptions_standard (ns : Text) :
    ofOptions { under := .fixed ns } = .ok ⟨.fixed ns, .standard⟩ := rfl

lemma apply_fixed {ns : Text} (hns : IsClass ns) (sheet : Sheet) :
    ∃ report, (⟨.fixed ns, .standard⟩ : Scoper).apply sheet =
      .ok ((⟨.fixed ns, .standard⟩ : Scoper).scopeSheet ns sheet, report) := by
  obtain ⟨name, rfl, -⟩ := hns
  exact ⟨_, rfl⟩

def selectorsUnder (ns : Text) (sheet : Sheet) : List Text :=
  sheet.rules.map fun p =>
    if sheet.isEligible p.1 then p.2.scopedSelector ns else p.2.selector

lemma selectors_scopeSheet (under : Namespace) (ns : Text) (sheet : Sheet) :
    (((⟨under, .standard⟩ : Scoper).scopeSheet ns sheet).rules.map Prod.snd).map Rule.selector =
      selectorsUnder ns sheet := by
  rw [rules_scopeSheet, List.map_map, List.map_map, selectorsUnder]
  refine List.map_congr_left fun p _ => ?_
  simp only [Function.comp_apply]
  split_ifs <;> rfl

lemma places_scopeSheet (sc : Scoper) (ns : Text) (sheet : Sheet) :
    (sc.scopeSheet ns sheet).places = sheet.places := by
  rw [Sheet.places, Sheet.places, rules_scopeSheet, List.map_map]
  refine List.map_congr_left fun p _ => ?_
  simp only [Function.comp_apply]
  split_ifs <;> rfl

/-- **A scoped sheet prints as its source told anew.** -/
theorem toCss_scopeSheet {source : Text} {file : Option Text} {under : Namespace} {ns out : Text}
    (h : Statement.Retold (Token.scan source) (Statement.ofTokens (Token.scan source))
      (selectorsUnder ns (Sheet.parse source file).sheet) out) :
    ((⟨under, .standard⟩ : Scoper).scopeSheet ns (Sheet.parse source file).sheet).toCss = out := by
  have hplaces := places_scopeSheet ⟨under, .standard⟩ ns (Sheet.parse source file).sheet
  have hspans : (((⟨under, .standard⟩ : Scoper).scopeSheet ns
      (Sheet.parse source file).sheet).rules.map Prod.snd).map Rule.selectorSpan =
      ((Sheet.parse source file).sheet.rules.map Prod.snd).map Rule.selectorSpan := by
    simpa [Sheet.places, Function.comp_def] using congrArg (List.map Prod.snd) hplaces
  have hprint := Sheet.print_of_places (source_scopeSheet ⟨under, .standard⟩ ns _) hplaces
  exact hprint.unique (Sheet.spliced_of_retold h hspans (selectors_scopeSheet under ns _))

end Scoper
end StyleScope
