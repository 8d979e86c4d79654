import StyleScope.Scope.Eligibility
import StyleScope.Scope.Namespace
import StyleScope.Scope.Policy

/-!
Every eligible rule of a sheet is put under the namespace of the sheet's file.
-/

namespace StyleScope

/-- What to scope under, and how. -/
structure ScopeOptions where
  under : Namespace := .fixed ".self".toList
  self : Pattern := .literal ":--namespace".toList
  root : Pattern := .literal ":root".toList
  ignoreRoot : Bool := true
  dropRoot : Bool := true
  htmlTag : Bool := false

/-- The options that hold a pattern. -/
inductive PatternOption where
  | self
  | root
  deriving DecidableEq, Repr

/-- A pattern that is no valid regular expression. -/
structure PatternError where
  option : PatternOption
  source : Text
  deriving DecidableEq, Repr

/-- Scopes style sheets under a namespace. -/
structure Scoper where
  under : Namespace
  policy : ScopePolicy

/-- What happened to a sheet. -/
structure ScopeReport where
  /-- The namespace used; none if the sheet was left alone. -/
  selector : Option Text := none
  changed : Nat := 0
  skipped : Nat := 0
  deriving DecidableEq, Repr

namespace Pattern

def source : Pattern → Text
  | regex s => s
  | literal s => s

/-- Compiles the pattern of an option. -/
def compileFor (p : Pattern) (option : PatternOption) : Except PatternError Matcher :=
  match p.compile? with
  | some m => .ok m
  | none => .error ⟨option, p.source⟩

end Pattern

namespace Scoper

/-- Compiles the options; of two invalid patterns the self token's is reported. -/
def ofOptions (o : ScopeOptions) : Except PatternError Scoper := do
  let self ← o.self.compileFor .self
  let root ← o.root.compileFor .root
  return ⟨o.under, ⟨self, root, o.ignoreRoot, o.dropRoot, o.htmlTag⟩⟩

/-- Scopes one rule. -/
def scopeRule (s : Scoper) (ns : Text) (r : Rule) : Rule :=
  r.setSelectors (r.selectors.map fun selector => s.policy.apply selector ns)

/-- Scopes the eligible rules of a sheet. -/
def scopeSheet (s : Scoper) (ns : Text) (sheet : Sheet) : Sheet :=
  let eligible := sheet.rules.filter fun (id, _) => sheet.isEligible id
  eligible.foldl (fun result (id, _) => result.modifyRule id (s.scopeRule ns)) sheet

/-- Scopes a sheet and reports. The namespace is computed before any rule is changed, and nothing
that comes after it can fail. -/
def apply (s : Scoper) (sheet : Sheet) : Except ResolveError (Sheet × ScopeReport) := do
  match ← s.under.resolve sheet.file with
  | none => return (sheet, {})
  | some ns =>
    let changed := (sheet.rules.filter fun (id, _) => sheet.isEligible id).length
    return (s.scopeSheet ns sheet, ⟨some ns, changed, sheet.rules.length - changed⟩)

/-- The only error is that of the namespace, which comes before every edit. -/
theorem apply_eq_error_iff {s : Scoper} {sheet : Sheet} {e : ResolveError} :
    s.apply sheet = .error e ↔ s.under.resolve sheet.file = .error e := by
  unfold apply
  cases s.under.resolve sheet.file with
  | error e' => simp [bind, Except.bind]
  | ok value => cases value <;> simp [bind, Except.bind, pure, Except.pure]

end Scoper
end StyleScope
