import StyleScope.Proofs.Scope.Rewriting
import StyleScope.Proofs.Text.Gaps

/-!
Namespaces with commas.

A namespace is cut at all of its commas, also at those that stand in brackets, in a string or
behind a backslash and separate nothing. Both ways to put a namespace into a selector join texts
that are kept: the text between the matches of the self token, or nothing and the selector. With
several parts the kept texts are written several times, so the namespace is put in whole only if
it has no comma. Where the self token is a literal, what is kept is the text between its
occurrences, and a part that cannot be confused with the token leaves none of them.
-/

namespace StyleScope

/-! ### What a replacement keeps -/

/-- The texts between the matches do not depend on the replacement. -/
lemma Regex.Program.exists_join_replaceFrom (p : Regex.Program) (before : Option Char)
    (joined : Bool) (skip : Nat) (t : Text) :
    ∃ u us, ∀ r, p.replaceFrom r before joined skip t = Text.join r (u :: us) := by
  induction t generalizing before joined skip with
  | nil =>
    cases skip with
    | zero =>
      by_cases hmatch : (!joined && (p.matchLength? before []).isSome) = true
      · exact ⟨[], [[]], fun r => by rw [replaceFrom, if_pos hmatch]; simp [Text.join]⟩
      · exact ⟨[], [], fun r => by rw [replaceFrom, if_neg hmatch]; rfl⟩
    | succ skip => exact ⟨[], [], fun r => rfl⟩
  | cons c t ih =>
    cases skip with
    | succ skip => exact ih (some c) joined skip
    | zero =>
      obtain ⟨u, us, hus⟩ := ih (some c) false 0
      have hkeep (r : Text) : c :: p.replaceFrom r (some c) false 0 t =
          Text.join r ((c :: u) :: us) := by rw [hus r, Text.cons_join]
      rcases hlen : p.matchLength? before (c :: t) with _ | _ | n
      · exact ⟨c :: u, us, fun r => by rw [replaceFrom, hlen]; exact hkeep r⟩
      · cases joined with
        | true => exact ⟨c :: u, us, fun r => by rw [replaceFrom, hlen]; exact hkeep r⟩
        | false =>
          refine ⟨[], (c :: u) :: us, fun r => ?_⟩
          rw [replaceFrom, hlen, Text.join_cons _ _ (by simp), ← hkeep r]
          rfl
      · obtain ⟨v, vs, hvs⟩ := ih (some c) true n
        refine ⟨[], v :: vs, fun r => ?_⟩
        rw [replaceFrom, hlen, Text.join_cons _ _ (by simp), ← hvs r]
        rfl

lemma Text.exists_join_replaceAll (p t : Text) :
    ∃ us, us ≠ [] ∧ ∀ r, replaceAll p r t = join r us := by
  by_cases hp : p = []
  · -- the empty text is found around every character
    have hflat : ∃ us, us ≠ [] ∧ ∀ r, t.flatMap (fun c => c :: r) = join r us := by
      induction t with
      | nil => exact ⟨[[]], by simp, fun r => rfl⟩
      | cons c t ih =>
        obtain ⟨us, hne, hus⟩ := ih
        refine ⟨[c] :: us, by simp, fun r => ?_⟩
        rw [List.flatMap_cons, hus r, join_cons _ _ hne]
        rfl
    obtain ⟨us, hne, hus⟩ := hflat
    refine ⟨[] :: us, by simp, fun r => ?_⟩
    rw [replaceAll, if_pos (by simpa using hp), hus r, join_cons _ _ hne]
    rfl
  · obtain ⟨us, hus, hjoin⟩ := exists_gaps hp t
    refine ⟨us, hus.ne_nil, fun r => ?_⟩
    rw [replaceAll, if_neg (by simpa using hp), hjoin r]

lemma Matcher.exists_join_replaceAll (m : Matcher) (t : Text) :
    ∃ us, us ≠ [] ∧ ∀ r, m.replaceAll r t = Text.join r us := by
  cases m with
  | regex p =>
    obtain ⟨u, us, hus⟩ := p.exists_join_replaceFrom none false 0 t
    exact ⟨u :: us, by simp, hus⟩
  | literal s => exact Text.exists_join_replaceAll s t

namespace ScopePolicy

/-! ### A namespace in whole -/

lemma join_alternatives (ns : Text) : Text.join [','] (alternatives ns) = ns :=
  Text.join_splitOn ',' ns

lemma length_alternatives_eq_one {ns : Text} : (alternatives ns).length = 1 ↔ ',' ∉ ns := by
  constructor
  · intro hlen
    obtain ⟨part, hpart⟩ := List.length_eq_one_iff.mp hlen
    have hjoin := join_alternatives ns
    rw [hpart] at hjoin
    obtain rfl : part = ns := hjoin
    exact Text.notMem_of_mem_splitOn (t := part) (by rw [← alternatives, hpart]; simp)
  · intro hcomma
    rw [alternatives, Text.splitOn_of_notMem hcomma]
    rfl

/-- How many characters of a text are no commas. -/
def bulk (t : Text) : Nat := t.countP (· != ',')

lemma bulk_append (a b : Text) : bulk (a ++ b) = bulk a + bulk b := List.countP_append

lemma bulk_join (sep : Text) (ts : List Text) :
    bulk (Text.join sep ts) = bulk ts.flatten + (ts.length - 1) * bulk sep :=
  Text.countP_join _ sep ts

lemma bulk_join_comma (ts : List Text) : bulk (Text.join [','] ts) = bulk ts.flatten := by
  have hcomma : bulk [','] = 0 := rfl
  rw [bulk_join, hcomma, Nat.mul_zero, Nat.add_zero]

/-- The kept texts are written once for every part, and each part once for every gap. -/
lemma bulk_flatten_map_join (us parts : List Text) :
    bulk (parts.map fun part => Text.join part us).flatten =
      parts.length * bulk us.flatten + (us.length - 1) * bulk parts.flatten := by
  induction parts with
  | nil => simp [bulk]
  | cons part parts ih =>
    rw [List.map_cons, List.flatten_cons, List.flatten_cons, bulk_append, bulk_append, bulk_join,
      ih, List.length_cons, Nat.succ_mul, Nat.mul_add]
    omega

lemma bulk_variants (us : List Text) (ns : Text) :
    bulk (variants (fun part => Text.join part us) ns) =
      (alternatives ns).length * bulk us.flatten + (us.length - 1) * bulk ns := by
  calc bulk (variants (fun part => Text.join part us) ns)
      = bulk ((alternatives ns).map fun part => Text.join part us).flatten := bulk_join_comma _
    _ = (alternatives ns).length * bulk us.flatten +
          (us.length - 1) * bulk (alternatives ns).flatten := bulk_flatten_map_join us _
    _ = (alternatives ns).length * bulk us.flatten + (us.length - 1) * bulk ns := by
        rw [← bulk_join_comma (alternatives ns), join_alternatives]

/-- **When a namespace is put in whole between texts that are kept**: exactly when it has no comma,
if more than commas is kept. -/
lemma variants_join_iff {us : List Text} (hus : ∃ u ∈ us, ∃ c ∈ u, c ≠ ',') (ns : Text) :
    variants (fun part => Text.join part us) ns = Text.join ns us ↔ ',' ∉ ns := by
  refine ⟨fun heq => ?_, fun hcomma => variants_of_notMem hcomma _⟩
  have hpos : 0 < bulk us.flatten := by
    obtain ⟨u, hu, c, hc, hne⟩ := hus
    exact List.countP_pos_iff.mpr ⟨c, List.mem_flatten_of_mem hu hc, by simpa using hne⟩
  -- what is kept is written once for each part
  have hone : (alternatives ns).length * bulk us.flatten = 1 * bulk us.flatten := by
    have hboth := congrArg bulk heq
    rw [bulk_variants, bulk_join] at hboth
    omega
  exact length_alternatives_eq_one.mp (Nat.eq_of_mul_eq_mul_right hpos hone)

/-- **When a namespace is used whole.** A namespace that is a single selector is one alternative
exactly when it has no comma. A selector without self token that is not taken for a root selector
is put under the whole namespace exactly then. A selector with self tokens has them replaced by
the whole namespace then, or if it is a self token and nothing else, but not otherwise if it has
more than commas beside them. -/
theorem scope_whole_iff (p : ScopePolicy) {ns : Text} (hns : SelectorList.split ns = [ns])
    (selector : Text) :
    (alternatives ns = SelectorList.split ns ↔ ',' ∉ ns) ∧
    (p.self.isMatch selector = false → (p.ignoreRoot && p.root.matchesAtStart selector) = false →
      (p.scope selector ns = ns ++ ' ' :: selector ↔ ',' ∉ ns)) ∧
    (p.self.isMatch selector = true →
      (',' ∉ ns → p.scope selector ns = p.self.replaceAll ns selector) ∧
      ((∀ r, p.self.replaceAll r selector = r) → p.scope selector ns = ns) ∧
      ((∃ c ∈ p.self.replaceAll [] selector, c ≠ ',') →
        p.scope selector ns = p.self.replaceAll ns selector → ',' ∉ ns)) := by
  refine ⟨?_, fun hself hroot => ?_, fun hself => ?_⟩
  · rw [hns]
    constructor
    · intro heq
      exact length_alternatives_eq_one.mp (by rw [heq]; rfl)
    · exact Text.splitOn_of_notMem
  · have hscope : p.scope selector ns =
        variants (fun part => Text.join part [[], ' ' :: selector]) ns := by
      rw [scope, if_neg (by simp [hself]), if_neg (by simp [hroot])]
      simp [Text.join]
    have hwhole : ns ++ ' ' :: selector = Text.join ns [[], ' ' :: selector] := by
      simp [Text.join]
    rw [hscope, hwhole]
    exact variants_join_iff ⟨' ' :: selector, by simp, ' ', by simp, by decide⟩ ns
  · have hscope :
        p.scope selector ns = variants (fun part => p.self.replaceAll part selector) ns := by
      rw [scope, if_pos hself]
    rw [hscope]
    refine ⟨fun hcomma => variants_of_notMem hcomma _, fun honly => ?_, fun hkept heq => ?_⟩
    · simp only [honly, variants, List.map_id', join_alternatives]
    · obtain ⟨us, -, hus⟩ := p.self.exists_join_replaceAll selector
      simp only [hus] at heq hkept
      obtain ⟨c, hc, hne⟩ := hkept
      obtain ⟨u, hu, hcu⟩ := (Text.mem_join hc).resolve_left (by simp)
      exact (variants_join_iff ⟨u, hu, c, hcu, hne⟩ ns).mp heq

/-- Brackets and strings without a comma are left alone. -/
theorem scope_whole_of_brackets :
    SelectorList.split ":not([a=\"(\"])".toList = [":not([a=\"(\"])".toList] ∧
      standard.scope ".foo".toList ":not([a=\"(\"])".toList = ":not([a=\"(\"]) .foo".toList ∧
      standard.scope ":--namespace:hover".toList ":not([a=\"(\"])".toList =
        ":not([a=\"(\"]):hover".toList := by
  have hns : SelectorList.split ":not([a=\"(\"])".toList = [":not([a=\"(\"])".toList] := by decide
  have hfoo := scope_whole_iff standard hns ".foo".toList
  have hself := scope_whole_iff standard hns ":--namespace:hover".toList
  refine ⟨hns, (hfoo.2.1 (by decide) (by decide)).mpr (by decide), ?_⟩
  exact (hself.2.2 (by decide)).1 (by decide)

/-- A namespace is cut at a comma inside its parentheses. -/
theorem scope_not_whole_of_inner_comma :
    SelectorList.split ":is(.a, .b)".toList = [":is(.a, .b)".toList] ∧
      standard.scope ".foo".toList ":is(.a, .b)".toList = ":is(.a .foo, .b) .foo".toList ∧
      standard.scope ":--namespace:hover".toList ":is(.a, .b)".toList =
        ":is(.a:hover, .b):hover".toList := by
  decide

/-! ### A literal self token -/

/-- **Every occurrence of a literal self token is replaced, and none is left.** The texts between
its leftmost occurrences are kept as they are, once for every part of the namespace, and the part
stands in every gap. -/
theorem scope_literal_self {p : ScopePolicy} {token selector ns : Text}
    (hself : p.self = .literal token) (htoken : token ≠ []) (hocc : token <:+: selector)
    (hns : ∀ part ∈ alternatives ns,
      (∃ c ∈ part.head?, c ∉ token) ∧ ∀ d ∈ token.head?, d ∉ part) :
    ∃ us, (∀ vs, Text.Gaps token selector vs ↔ vs = us) ∧ 2 ≤ us.length ∧
      p.scope selector ns =
        Text.join [','] ((alternatives ns).map fun part => Text.join part us) ∧
      ∀ part ∈ alternatives ns, ¬ token <:+: Text.join part us := by
  obtain ⟨us, hus, hjoin⟩ := Text.exists_gaps htoken selector
  have hmatch : p.self.isMatch selector = true := by
    rw [hself]
    exact Text.occursIn_iff.mpr hocc
  have hreplace (r : Text) : p.self.replaceAll r selector = Text.join r us := by
    rw [hself, Matcher.replaceAll, Text.replaceAll, if_neg (by simpa using htoken), hjoin r]
  refine ⟨us, fun vs => ⟨fun hvs => hvs.unique hus, fun heq => heq ▸ hus⟩,
    hus.two_le_length hocc, ?_, fun part hpart => ?_⟩
  · rw [scope, if_pos hmatch, variants]
    simp only [hreplace]
  · obtain ⟨⟨c, hc, hctoken⟩, hd⟩ := hns part hpart
    obtain ⟨d, token', htoken'⟩ := List.exists_cons_of_ne_nil htoken
    obtain ⟨r, rfl⟩ := List.head?_eq_some_iff.mp hc
    exact hus.not_infix_join htoken' hctoken (hd d (by simp [htoken']))

/-- Of two occurrences that overlap the left one is replaced. -/
theorem scope_literal_self_of_overlap :
    (ScopePolicy.mk (.literal "aa".toList) (.literal ":root".toList) true true false).scope
        "xaaay".toList ".b,.c".toList = "x.bay,x.cay".toList ∧
      ∃ us, (∀ vs, Text.Gaps "aa".toList "xaaay".toList vs ↔ vs = us) ∧ 2 ≤ us.length ∧
        (ScopePolicy.mk (.literal "aa".toList) (.literal ":root".toList) true true false).scope
            "xaaay".toList ".b,.c".toList =
          Text.join [','] ((alternatives ".b,.c".toList).map fun part => Text.join part us) ∧
        ∀ part ∈ alternatives ".b,.c".toList, ¬ "aa".toList <:+: Text.join part us := by
  refine ⟨by decide, scope_literal_self rfl (by decide) (by decide) ?_⟩
  have hparts : alternatives ".b,.c".toList = [".b".toList, ".c".toList] := by decide
  rw [hparts]
  simp

end ScopePolicy
end StyleScope
