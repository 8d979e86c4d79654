import StyleScope.Proofs.Regex.Literal
import StyleScope.Scope.Basic

/-!
One token, spelled two ways.

The self token and the root token can be given as literals or as regular expressions. Four things
are asked of either: whether it occurs, whether it stands at the start, and the text with all or
with the first of its occurrences replaced. A literal and a regular expression of the same text
answer alike, also for the empty text, so it does not matter which of them a scoper is given.
-/

namespace StyleScope

/-! ### Matchers -/

/-- Two matchers that find the same matches. -/
structure Matcher.Agrees (m m' : Matcher) : Prop where
  isMatch : ∀ t, m.isMatch t = m'.isMatch t
  matchesAtStart : ∀ t, m.matchesAtStart t = m'.matchesAtStart t
  replaceAll : ∀ r t, m.replaceAll r t = m'.replaceAll r t
  replaceFirst : ∀ r t, m.replaceFirst r t = m'.replaceFirst r t

lemma Matcher.Agrees.refl (m : Matcher) : m.Agrees m :=
  ⟨fun _ => rfl, fun _ => rfl, fun _ _ => rfl, fun _ _ => rfl⟩

lemma Matcher.agrees_literal (t : Text) : (regex (.literal t)).Agrees (literal t) where
  isMatch := Regex.Program.isSome_find?_literal t none
  matchesAtStart := Regex.Program.isSome_matchLength?_literal t none
  replaceAll := Regex.Program.replaceAll_literal t
  replaceFirst r s := Regex.Program.replaceFirstFrom_literal t r none s

/-! ### Patterns -/

/-- The patterns are the same, or a regular expression without metacharacters and the literal of
its text. -/
inductive Pattern.Respelled : Pattern → Pattern → Prop
  | same (p : Pattern) : Respelled p p
  | plain {t : Text} : Regex.Plain t → Respelled (regex t) (literal t)

lemma Pattern.Respelled.exists_compile {p q : Pattern} (h : p.Respelled q) {m : Matcher}
    (hm : p.compile? = some m) : ∃ m', q.compile? = some m' ∧ m.Agrees m' := by
  cases h with
  | same => exact ⟨m, hm, .refl m⟩
  | @plain t ht =>
    rw [compile?, Regex.Program.ofPattern?_of_plain ht] at hm
    refine ⟨.literal t, rfl, ?_⟩
    split_ifs at hm
    · obtain rfl : .regex (.literal t) = m := by simpa using hm
      exact Matcher.agrees_literal t
    · simp at hm

/-! ### Policies and scopers -/

lemma ScopePolicy.apply_congr (p : ScopePolicy) {self root : Matcher} (hself : p.self.Agrees self)
    (hroot : p.root.Agrees root) (selector ns : Text) :
    { p with self := self, root := root }.apply selector ns = p.apply selector ns := by
  have hwithout : { p with self := self, root := root }.withoutRoot selector =
      p.withoutRoot selector := by
    simp only [withoutRoot, hroot.replaceFirst]
  have hscope : { p with self := self, root := root }.scope selector ns = p.scope selector ns := by
    simp only [scope, hself.isMatch, hself.replaceAll, hroot.matchesAtStart, hwithout]
  simp only [apply, hscope]

lemma Scoper.ofOptions_eq_ok {o : ScopeOptions} {sc : Scoper} :
    ofOptions o = .ok sc ↔ ∃ self root, o.self.compile? = some self ∧
      o.root.compile? = some root ∧
      sc = ⟨o.under, ⟨self, root, o.ignoreRoot, o.dropRoot, o.htmlTag⟩⟩ := by
  unfold ofOptions Pattern.compileFor
  rcases o.self.compile? with _ | self
  · simp [bind, Except.bind]
  · rcases o.root.compile? with _ | root
    · simp [bind, Except.bind]
    · simp [bind, Except.bind, pure, Except.pure, eq_comm]

/-- **A regular expression without metacharacters scopes as the literal of its text**, as the self
token, as the root token or as both, whatever the other options are. -/
theorem Scoper.apply_respelled {o : ScopeOptions} {self root : Pattern}
    (hself : o.self.Respelled self) (hroot : o.root.Respelled root) {sc : Scoper}
    (hsc : ofOptions o = .ok sc) :
    ∃ sc', ofOptions { o with self := self, root := root } = .ok sc' ∧
      ∀ selector ns, sc'.policy.apply selector ns = sc.policy.apply selector ns := by
  obtain ⟨m, n, hm, hn, rfl⟩ := ofOptions_eq_ok.mp hsc
  obtain ⟨m', hm', hself⟩ := hself.exists_compile hm
  obtain ⟨n', hn', hroot⟩ := hroot.exists_compile hn
  refine ⟨_, ofOptions_eq_ok.mpr ⟨m', n', hm', hn', rfl⟩, fun selector ns => ?_⟩
  exact ScopePolicy.apply_congr ⟨m, n, o.ignoreRoot, o.dropRoot, o.htmlTag⟩ hself hroot selector ns

/-- Both tokens as regular expressions, the empty one included. -/
theorem Scoper.apply_respelled_both :
    ofOptions { self := .regex "é&".toList, root := .regex [], htmlTag := true } =
        .ok ⟨.fixed ".self".toList, ⟨.regex (.literal "é&".toList), .regex (.literal []), true,
          true, true⟩⟩ ∧
      ∃ sc', ofOptions { self := .literal "é&".toList, root := .literal [], htmlTag := true } =
          .ok sc' ∧
        ∀ selector ns, sc'.policy.apply selector ns =
          (ScopePolicy.mk (.regex (.literal "é&".toList)) (.regex (.literal [])) true true
            true).apply selector ns := by
  have hself : Regex.Plain "é&".toList := by decide
  have hroot : Regex.Plain [] := by decide
  have hoptions : ofOptions { self := .regex "é&".toList, root := .regex [], htmlTag := true } =
      .ok ⟨.fixed ".self".toList, ⟨.regex (.literal "é&".toList), .regex (.literal []), true,
        true, true⟩⟩ := by
    refine ofOptions_eq_ok.mpr ⟨_, _, ?_, ?_, rfl⟩
    · rw [Pattern.compile?, Regex.Program.ofPattern?_of_plain hself, if_pos (by decide)]
      rfl
    · rw [Pattern.compile?, Regex.Program.ofPattern?_of_plain hroot, if_pos (by decide)]
      rfl
  exact ⟨hoptions, apply_respelled (.plain hself) (.plain hroot) hoptions⟩

end StyleScope
