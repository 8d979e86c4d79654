import Mathlib.Data.List.Forall2
import StyleScope.Proofs.Scope.Headings
import StyleScope.Proofs.Scope.Rules

/-!
Parsing a scoped sheet.

The text of a scoped sheet is parsed again. It has no faults and the shape of the sheet when each
scoped selector still begins like a selector, breaks no string, and leaves the brace of its rule
alone; and if no scoped selector ends in a backslash right before a comment, it has them only
then. Trimming is what leaves such a backslash: a selector may end in an escaped blank.
-/

namespace StyleScope

open Token (Lexes LexesTo lexemes scan)

/-! ### How a text begins and ends -/

lemma Mode.isOpen_settle (m : Mode) : m.settle.isOpen = m.isOpen := by cases m <;> rfl

namespace Token

lemma Spelled.exists_space {kind : TokenKind} {text rest : Text} (h : Spelled kind text rest)
    (hk : kind = .whitespace) : ∃ c cs, text = c :: cs ∧ isSpace c = true := by
  subst hk
  cases h with
  | whitespace hs hr => exact ⟨_, _, rfl, hs _ (by simp)⟩

lemma startsHead_slash (rest : Text) :
    (classify '/' rest).1.startsHead = (rest.head? != some '*') := by
  rcases rest with _ | ⟨c, rest⟩
  · rfl
  · by_cases hc : c = '*'
    · subst hc
      rfl
    · simp only [classify]
      split <;> simp_all [TokenKind.startsHead]

lemma startsHead_of_ne {c : Char} (hc : c ≠ '/') (rest rest' : Text) :
    (classify c rest).1.startsHead = (classify c rest').1.startsHead := by
  have hat (rest : Text) : (classify '@' rest).1.startsHead = false := by
    simp only [classify]
    split
    · split <;> rfl
    · rfl
  have hescape (rest : Text) : (classify '\\' rest).1.startsHead = true := by
    simp only [classify]
    split
    · split <;> rfl
    · rfl
  by_cases h1 : c = '@'
  · rw [h1, hat, hat]
  by_cases h2 : c = '\\'
  · rw [h2, hescape, hescape]
  unfold classify
  split <;> first | rfl | contradiction | split_ifs <;> rfl

/-- How a text begins does not depend on what is put behind it, unless a comment is made. -/
lemma startsHead_append (c : Char) {cs more : Text} (h : more.head? ≠ some '*') :
    (classify c (cs ++ more)).1.startsHead = (classify c cs).1.startsHead := by
  by_cases hc : c = '/'
  · subst hc
    rw [startsHead_slash, startsHead_slash]
    rcases cs with _ | ⟨d, cs⟩
    · rw [List.nil_append, bne_iff_ne.mpr h]
      rfl
    · rfl
  · exact startsHead_of_ne hc _ _

lemma exists_head?_scan (c : Char) (cs : Text) :
    ∃ t, (scan (c :: cs)).head? = some t ∧ t.kind = (classify c cs).1 := by
  rw [scan, tile]
  exact ⟨_, rfl, rfl⟩

lemma run_eq_escape {ts : List Token} (hlex : Lexes ts)
    (hend : ∀ t ∈ ts, Ended t.kind t.text) :
    Mode.plain.run (Piece.textOf ts) = .escape ↔ ∃ t ∈ ts.getLast?, t.kind = .invalid := by
  rcases List.eq_nil_or_concat ts with rfl | ⟨before, last, hts⟩
  · simp
  · rw [List.concat_eq_append] at hts
    subst hts
    obtain ⟨hto, hspell, -⟩ := lexes_append.mp hlex
    obtain ⟨-, hready⟩ := signs_textOf hto (fun t ht => hend t (by simp [ht])) (m := .plain)
      (.inl rfl)
    have hrun := (hready.eq_plain hspell.ne_nil).1
    obtain ⟨-, -, hescape, -⟩ := hspell.read_ended (hend last (by simp))
    rw [Piece.textOf_append, Mode.run_append, Piece.textOf_cons, Piece.textOf_nil, List.append_nil,
      hrun, hescape]
    simp

end Token

namespace Statement

lemma Heading.kind_eq {c : Char} {rest : Text} {t : Token} {ts : List Token}
    (h : Heading (c :: rest) (t :: ts)) : t.kind = (Token.classify c (rest ++ ['{'])).1 := by
  obtain ⟨d, ds, htext, hclass⟩ := Token.munched_of_spelled h.lexes.1
  have heq := h.text_eq
  rw [Piece.textOf_cons, htext, List.cons_append] at heq
  obtain ⟨rfl, rfl⟩ := List.cons.inj heq
  rw [List.append_assoc, hclass]

end Statement

/-! ### The scoped selector of a rule -/

namespace Rule

open Statement (Heading Opens Renames Unbroken)

/-- The scoped selector ends in a backslash with nothing behind it. -/
def Dangles (ns : Text) (r : Rule) : Prop :=
  ∃ t ∈ (scan (r.scopedSelector ns)).getLast?, t.kind = .invalid

instance (ns : Text) (r : Rule) : Decidable (r.Dangles ns) :=
  inferInstanceAs (Decidable (∃ t ∈ (scan (r.scopedSelector ns)).getLast?, t.kind = .invalid))

/-- A backslash at the end of the scoped selector comes right before a comment. -/
def Hides (ns : Text) (r : Rule) : Prop := r.Dangles ns ∧ r.between.head? = some '/'

instance (ns : Text) (r : Rule) : Decidable (r.Hides ns) := inferInstanceAs (Decidable (_ ∧ _))

/-- The scoped selector can take the place of the selector: it begins like a selector, its
strings are closed, and it does not end in a backslash right before the brace. -/
structure Survives (ns : Text) (r : Rule) : Prop where
  begins : ∃ t ∈ (scan (r.scopedSelector ns)).head?, t.kind.startsHead = true
  strings : ∀ t ∈ scan (r.scopedSelector ns), t.kind = .string →
    Token.isClosedString t.text = true
  ends : r.Dangles ns → r.between ≠ []

instance (ns : Text) (r : Rule) : Decidable (r.Survives ns) :=
  decidable_of_iff
    ((∃ t ∈ (scan (r.scopedSelector ns)).head?, t.kind.startsHead = true) ∧
      (∀ t ∈ scan (r.scopedSelector ns), t.kind = .string → Token.isClosedString t.text = true) ∧
      (r.Dangles ns → r.between ≠ []))
    ⟨fun ⟨h1, h2, h3⟩ => ⟨h1, h2, h3⟩, fun ⟨h1, h2, h3⟩ => ⟨h1, h2, h3⟩⟩

/-- The rule is read from the tokens of a heading. -/
structure ReadFrom (r : Rule) (head : List Token) : Prop where
  selector : r.selector = Piece.textOf (Prelude.content head)
  between : r.between = Piece.textOf (Prelude.trailing head)
  heading : Heading (Piece.textOf head) head

variable {ns : Text} {r : Rule} {head : List Token}

lemma ReadFrom.append (h : r.ReadFrom head) : r.selector ++ r.between = Piece.textOf head := by
  rw [h.selector, h.between, Prelude.textOf_content_append_trailing]

lemma ReadFrom.ready (h : r.ReadFrom head) :
    '\n' ∉ Mode.plain.signs r.selector ∧
      (Mode.plain.run r.selector).Ready (r.between ++ ['{']) := by
  obtain ⟨hsigns, hready⟩ := h.heading.read_content
  rw [h.selector, h.between, hsigns]
  exact ⟨Token.newline_notMem _, hready⟩

lemma ReadFrom.renames_selector (h : r.ReadFrom head) : Renames r r.selector := by
  refine fun _ => ⟨⟨rfl, .inl rfl⟩, fun hesc hslash => ?_⟩
  have hready := h.ready.2
  rw [hesc] at hready
  rcases hready with hr | ⟨hr, -⟩ | ⟨-, hr⟩
  · cases hr
  · cases hr
  · obtain ⟨rest, hrest⟩ := List.head?_eq_some_iff.mp hslash
    have hline : '/' = '\n' := hr '/' (by rw [hrest]; rfl)
    exact absurd hline (by decide)

section Scoped

variable (h : r.ReadFrom head) (hns : IsClass ns)
  (hn : '\n' ∉ Mode.plain.signs (r.scopedSelector ns))

include h hns hn in
lemma ReadFrom.ended : ∀ t ∈ scan (r.scopedSelector ns), Token.Ended t.kind t.text := by
  obtain ⟨-, hlex, htext⟩ := Token.scan_spec (r.scopedSelector ns)
  have htracks := tracks_scopedSelector hns h.ready.1 hn
  have hopen : (Mode.plain.run (r.scopedSelector ns)).isOpen = false := by
    rw [← Mode.isOpen_settle, htracks.settle, Mode.isOpen_settle]
    exact h.ready.2.not_isOpen
  refine Token.ended_of_signs hlex (m := .plain) (.inl rfl) ?_ ?_
  · rwa [htext]
  · rwa [htext]

include h hns hn in
lemma ReadFrom.dangles_iff : r.Dangles ns ↔ Mode.plain.run (r.scopedSelector ns) = .escape := by
  obtain ⟨-, hlex, htext⟩ := Token.scan_spec (r.scopedSelector ns)
  have hrun := Token.run_eq_escape hlex (h.ended hns hn)
  rw [htext] at hrun
  exact hrun.symm

end Scoped

lemma ReadFrom.renames_scoped (h : r.ReadFrom head) (hns : IsClass ns) (hhides : ¬ r.Hides ns) :
    Renames r (r.scopedSelector ns) := by
  refine fun hn => ⟨tracks_scopedSelector hns h.ready.1 hn, fun hesc hslash => ?_⟩
  exact hhides ⟨(h.dangles_iff hns hn).mpr hesc, hslash⟩

lemma ReadFrom.unbroken_iff (h : r.ReadFrom head) (hns : IsClass ns) :
    Unbroken r (r.scopedSelector ns) ↔
      (∀ t ∈ scan (r.scopedSelector ns), t.kind = .string → Token.isClosedString t.text = true) ∧
        (r.Dangles ns → r.between ≠ []) := by
  obtain ⟨-, hlex, htext⟩ := Token.scan_spec (r.scopedSelector ns)
  constructor
  · intro hu
    refine ⟨fun t ht => (h.ended hns hu.line t ht).1, fun hd => ?_⟩
    exact hu.brace ((h.dangles_iff hns hu.line).mp hd)
  · rintro ⟨hstrings, hends⟩
    have hline : '\n' ∉ Mode.plain.signs (r.scopedSelector ns) := by
      have hn := Token.newline_notMem_signs hlex hstrings (m := .plain) (.inl rfl)
      rwa [htext] at hn
    exact ⟨hline, fun hesc => hends ((h.dangles_iff hns hline).mpr hesc)⟩

lemma ReadFrom.startsHead_eq (h : r.ReadFrom head) {c : Char} {cs : Text} {t : Token}
    {ts : List Token} (hsel : r.scopedSelector ns = c :: cs)
    (hhead : Heading (r.scopedSelector ns ++ r.between) (t :: ts)) :
    t.kind.startsHead = (Token.classify c cs).1.startsHead := by
  rw [hsel, List.cons_append] at hhead
  rw [hhead.kind_eq, List.append_assoc]
  refine Token.startsHead_append c fun hstar => ?_
  have hbetween := @Statement.head?_trailing head _ h.heading.split.2.1
  rw [← h.between] at hbetween
  rcases hb : r.between with _ | ⟨d, ds⟩
  · rw [hb] at hstar
    exact absurd (Option.some.inj hstar) (by decide)
  · rw [hb] at hstar hbetween
    obtain rfl : d = '*' := Option.some.inj hstar
    rcases hbetween rfl with hspace | hslash
    · exact absurd hspace (by decide)
    · exact absurd hslash (by decide)

/-- **A scoped selector that survives opens its rule.** -/
theorem ReadFrom.opens (h : r.ReadFrom head) (hns : IsClass ns) (hhides : ¬ r.Hides ns)
    (hs : r.Survives ns) : Opens (r.scopedSelector ns ++ r.between) := by
  have hu := (h.unbroken_iff hns).mpr ⟨hs.strings, hs.ends⟩
  obtain ⟨htracks, hapart⟩ := h.renames_scoped hns hhides hu.line
  rw [h.selector] at htracks
  obtain ⟨head', hhead⟩ := h.heading.rename htracks fun hesc => by
    rw [← h.between]
    exact ⟨hu.brace hesc, hapart hesc⟩
  rw [← h.between] at hhead
  obtain ⟨t, ht, hstart⟩ := hs.begins
  rcases hsel : r.scopedSelector ns with _ | ⟨c, cs⟩
  · rw [hsel] at ht
    simp [scan] at ht
  · obtain ⟨t', ht', hkind⟩ := Token.exists_head?_scan c cs
    rw [hsel] at ht
    obtain rfl : t' = t := Option.some.inj (ht'.symm.trans ht)
    rcases head' with _ | ⟨u, us⟩
    · have hnil := hhead.text_eq
      rw [hsel] at hnil
      cases hnil
    · refine ⟨u, us, hsel ▸ hhead, ?_⟩
      rw [h.startsHead_eq hsel hhead, ← hkind, hstart]

/-- **A scoped selector that opens its rule survives.** -/
theorem ReadFrom.begins (h : r.ReadFrom head) (hns : IsClass ns) {spaces : List Token} {t : Token}
    {ts : List Token} (hhead : Heading (r.scopedSelector ns ++ r.between) (spaces ++ t :: ts))
    (hspaces : ∀ s ∈ spaces, s.kind = .whitespace) (hstart : t.kind.startsHead = true) :
    ∃ t ∈ (scan (r.scopedSelector ns)).head?, t.kind.startsHead = true := by
  rcases hsel : r.scopedSelector ns with _ | ⟨c, cs⟩
  · -- nothing would be left but white space and comments
    exfalso
    have htext : Piece.textOf (spaces ++ t :: ts) = Piece.textOf (Prelude.trailing head) := by
      rw [hhead.text_eq, hsel, h.between, List.nil_append]
    have hbare := Statement.map_bare_eq_of_lexesTo hhead.lexes h.heading.split.2.1 htext
    have hmem : t.bare ∈ (Prelude.trailing head).map Piece.bare := by
      rw [← hbare]
      exact List.mem_map_of_mem (by simp)
    obtain ⟨t', ht', heq⟩ := List.mem_map.mp hmem
    have hkind : t'.kind = t.kind := (Piece.mk.inj heq).1
    have htrivia := Prelude.isTrivia_of_mem_trailing ht'
    rw [hkind] at htrivia
    cases hk : t.kind <;> simp [hk, TokenKind.startsHead, TokenKind.isTrivia] at hstart htrivia
  · obtain rfl : spaces = [] := by
      rcases spaces with _ | ⟨s, spaces⟩
      · rfl
      · -- a scoped selector begins with no blank
        exfalso
        have hblank := head?_scopedSelector hns r c (by rw [hsel]; rfl)
        obtain ⟨d, ds, htext, hspace⟩ := hhead.lexes.1.exists_space (hspaces s (by simp))
        have heq := hhead.text_eq
        rw [hsel, List.cons_append, Piece.textOf_cons, htext, List.cons_append,
          List.cons_append] at heq
        obtain rfl : d = c := (List.cons.inj heq).1
        rw [Token.isBlank_of_isSpace hspace] at hblank
        cases hblank
    obtain ⟨t', ht', hkind⟩ := Token.exists_head?_scan c cs
    exact ⟨t', ht', by rw [hkind, ← h.startsHead_eq hsel hhead, hstart]⟩

end Rule

/-! ### The scoped sheet -/

namespace Sheet

open Statement (Heading Opens Renames Unbroken Retold)

def eligibleRules (s : Sheet) : List (NodeId × Rule) := s.rules.filter fun p => s.isEligible p.1

/-- The text is parsed without faults into a tree of the shape of the sheet. -/
def Reparses (s : Sheet) (text : Text) : Prop :=
  (parse text s.file).errors = [] ∧ (parse text s.file).sheet.shape = s.shape

instance (s : Sheet) (text : Text) : Decidable (s.Reparses text) :=
  inferInstanceAs (Decidable (_ ∧ _))

variable {source : Text} {file : Option Text} {ns : Text}

lemma exists_readFrom (herr : (parse source file).errors = []) {p : NodeId × Rule}
    (hp : p ∈ (parse source file).sheet.rules) :
    ∃ head, p.2.ReadFrom head ∧ Opens (Piece.textOf head) := by
  obtain ⟨id, r⟩ := p
  obtain ⟨-, head, brace, -, -, hst, hsel, hbetween, -⟩ := exists_prelude_of_mem_rules hp
  obtain ⟨inside, herrors, hne⟩ := (errors_parse_eq_nil.mp herr).faultless _ hst
  obtain ⟨pre, rest, hscan, hs⟩ := (Statement.groups_ofTokens _).exists_of_mem hst
  have hlex := (Token.scan_spec source).2.1
  rw [hscan] at hlex
  have hlex := (Token.lexes_append.mp hlex).2
  simp only [Statement.tokens, PreludeEnd.tokens, List.append_assoc, List.cons_append,
    List.nil_append] at hlex
  have hhead := hs.heading hlex herrors
  refine ⟨head, ⟨hsel, hbetween, hhead⟩, ?_⟩
  cases hs with
  | bare hk => exact absurd rfl hne
  | qualified hk hd he => exact ⟨_, _, hhead, hk⟩

lemma forall₂_selectorsUnder {P : Rule → Text → Prop} :
    List.Forall₂ P ((Statement.ofTokens (scan source)).filterMap Statement.rule?)
        (Scoper.selectorsUnder ns (parse source file).sheet) ↔
      ∀ p ∈ (parse source file).sheet.rules, P p.2.childless
        (if (parse source file).sheet.isEligible p.1 then p.2.scopedSelector ns
          else p.2.selector) := by
  rw [← childless_rules_parse source file, List.map_map, Scoper.selectorsUnder,
    List.forall₂_map_left_iff, List.forall₂_map_right_iff, List.forall₂_same]
  rfl

lemma signs_of_errors (herr : (parse source file).errors = []) :
    (∀ t ∈ scan source, Token.Ended t.kind t.text) ∧
      Mode.plain.signs source = Token.signs (scan source) ∧
      Mode.tilt (Token.signs (scan source)) = 0 := by
  have hsound := errors_parse_eq_nil.mp herr
  have hgroups := Statement.groups_ofTokens (scan source)
  have hended := hgroups.ended hsound.faultless
  have hsigns := (Token.signs_textOf (Token.lexesTo_scan source) hended (m := .plain) (.inl rfl)).1
  rw [(Token.scan_spec source).2.2] at hsigns
  exact ⟨hended, hsigns, hgroups.tilt hsound⟩

section Retold

variable {out : Text} (herr : (parse source file).errors = [])
  (hretold : Retold (scan source) (Statement.ofTokens (scan source))
    (Scoper.selectorsUnder ns (parse source file).sheet) out)

include herr hretold in
/-- **A scoped sheet is read as it was when every new heading opens a rule.** -/
theorem reparses_of_opens (hopens : ∀ p ∈ (parse source file).sheet.eligibleRules,
    Opens (p.2.scopedSelector ns ++ p.2.between)) : (parse source file).sheet.Reparses out := by
  have hall : List.Forall₂ (fun r new => Opens (new ++ r.between))
      ((Statement.ofTokens (scan source)).filterMap Statement.rule?)
      (Scoper.selectorsUnder ns (parse source file).sheet) := by
    refine (@forall₂_selectorsUnder source file ns _).mpr fun p hp => ?_
    split_ifs with he
    · exact hopens p (List.mem_filter.mpr ⟨hp, he⟩)
    · obtain ⟨head, hread, hopen⟩ := exists_readFrom herr hp
      rw [← hread.append] at hopen
      exact hopen
  have hheads := hall.imp fun r new h => (⟨_, h.choose_spec.choose_spec.1⟩ :
    ∃ head, Heading (new ++ r.between) head)
  have hmatched := hretold.matched (Token.scan_spec source).2.1 (signs_of_errors herr).1 hheads
  obtain ⟨hsound, hshape⟩ := hmatched.sound hall (errors_parse_eq_nil.mp herr)
  rw [Token.lexemes, Statement.ofTokens_bare] at hsound hshape
  have herr' : (parse out file).errors = [] :=
    errors_parse_eq_nil.mpr (Statement.sound_bare.mp hsound)
  refine ⟨herr', ?_⟩
  have hsame := hshape 0 []
  rw [Statement.shape_bare] at hsame
  exact (shape_parse herr').trans (hsame.trans (shape_parse herr).symm)

include herr hretold in
/-- **A scoped sheet is read as it was only when every scoped selector survives.** -/
theorem survives_of_reparses (hns : IsClass ns)
    (hhides : ∀ p ∈ (parse source file).sheet.eligibleRules, ¬ p.2.Hides ns)
    (h : (parse source file).sheet.Reparses out) :
    ∀ p ∈ (parse source file).sheet.eligibleRules, p.2.Survives ns := by
  obtain ⟨herr', hshape⟩ := h
  obtain ⟨hended, hsigns, htilt⟩ := signs_of_errors herr
  obtain ⟨-, hsigns', htilt'⟩ := signs_of_errors herr'
  have hfault := (errors_parse_eq_nil.mp herr).faultless
  have hlex := (Token.scan_spec source).2.1
  have hrenames : ∀ p ∈ (parse source file).sheet.rules, Renames p.2.childless
      (if (parse source file).sheet.isEligible p.1 then p.2.scopedSelector ns
        else p.2.selector) := by
    intro p hp
    obtain ⟨head, hread, -⟩ := exists_readFrom herr hp
    split_ifs with he
    · exact hread.renames_scoped hns (hhides p (List.mem_filter.mpr ⟨hp, he⟩))
    · exact hread.renames_selector
  -- the braces balance on both sides, so none of them is lost
  have hunbroken := (hretold.unbroken hlex hfault (forall₂_selectorsUnder.mpr hrenames) (.inl rfl)
    (hsigns' ▸ Token.newline_notMem _)).2 (by rw [hsigns', htilt', htilt])
  rw [forall₂_selectorsUnder] at hunbroken
  have hheads := hretold.headings hlex hfault
    ((@forall₂_selectorsUnder source file ns _).mpr fun p hp => ⟨hrenames p hp, hunbroken p hp⟩)
  have hmatched := hretold.matched hlex hended hheads
  have hsound : Statement.Sound 0 (Statement.ofTokens (Token.lexemes out)) := by
    rw [Token.lexemes, Statement.ofTokens_bare]
    exact Statement.sound_bare.mpr (errors_parse_eq_nil.mp herr')
  have hout : (Statement.ofTokens (Token.lexemes out)).filterMap Statement.outline? =
      (Statement.ofTokens (scan source)).filterMap Statement.outline? := by
    rw [Token.lexemes, Statement.ofTokens_bare, ← Statement.map_fst_shape 0 [],
      ← Statement.map_fst_shape 0 [], Statement.shape_bare]
    exact congrArg _ ((shape_parse herr').symm.trans (hshape.trans (shape_parse herr)))
  have hstarts := hmatched.startsHead hheads hsound hout
  rw [@forall₂_selectorsUnder source file] at hstarts
  intro p hp
  obtain ⟨hp, he⟩ := List.mem_filter.mp hp
  obtain ⟨head, hread, -⟩ := exists_readFrom herr hp
  have hu := hunbroken p hp
  have hstart := hstarts p hp
  rw [if_pos he] at hu hstart
  obtain ⟨spaces, t, ts, hhead, hspaces, hstart⟩ := hstart
  obtain ⟨hstrings, hends⟩ := (hread.unbroken_iff hns).mp ⟨hu.line, hu.brace⟩
  exact ⟨hread.begins hns hhead hspaces hstart, hstrings, hends⟩

end Retold

/-- **When a scoped sheet is parsed into the same tree.** A source without faults is scoped under
a class with the options that are not set. The printed sheet is parsed without faults and into
the same shape when the scoped selector of every eligible rule, with the text before the block,
is read as the opening of a rule. Where no scoped selector ends in a backslash right before a
comment, it is so exactly when every scoped selector begins like a selector, has its strings
closed, and does not end in a backslash right before the brace. -/
theorem apply_reparses_iff (herr : (parse source file).errors = []) (hns : IsClass ns) :
    ∃ sc result report, Scoper.ofOptions { under := .fixed ns } = .ok sc ∧
      sc.apply (parse source file).sheet = .ok (result, report) ∧
      ((∀ p ∈ (parse source file).sheet.eligibleRules,
          Opens (p.2.scopedSelector ns ++ p.2.between)) →
        (parse source file).sheet.Reparses result.toCss) ∧
      ((∀ p ∈ (parse source file).sheet.eligibleRules, ¬ p.2.Hides ns) →
        ((parse source file).sheet.Reparses result.toCss ↔
          ∀ p ∈ (parse source file).sheet.eligibleRules, p.2.Survives ns)) := by
  have hlen : (Scoper.selectorsUnder ns (parse source file).sheet).length =
      ((Statement.ofTokens (scan source)).filterMap Statement.rule?).length := by
    rw [← childless_rules_parse source file, Scoper.selectorsUnder]
    simp
  obtain ⟨out, hretold⟩ := (Statement.groups_ofTokens (scan source)).exists_retold hlen
  obtain ⟨report, happly⟩ := Scoper.apply_fixed hns (parse source file).sheet
  refine ⟨_, _, report, Scoper.ofOptions_standard ns, happly, ?_⟩
  rw [Scoper.toCss_scopeSheet hretold]
  refine ⟨reparses_of_opens herr hretold, fun hhides => ⟨?_, fun hs => ?_⟩⟩
  · exact survives_of_reparses herr hretold hns hhides
  · refine reparses_of_opens herr hretold fun p hp => ?_
    obtain ⟨head, hread, -⟩ := exists_readFrom herr (List.mem_filter.mp hp).1
    exact hread.opens hns (hhides p hp) (hs p hp)

/-- A list with a root token and an escaped colon is scoped and parsed again. -/
theorem reparses_of_root :
    (parse ":root .a, .b\\:c > d\x7be: f\x7d".toList none).errors = [] ∧
      ∃ sc result report, Scoper.ofOptions { under := .fixed ".ns".toList } = .ok sc ∧
        sc.apply (parse ":root .a, .b\\:c > d\x7be: f\x7d".toList none).sheet =
          .ok (result, report) ∧
        (parse ":root .a, .b\\:c > d\x7be: f\x7d".toList none).sheet.Reparses result.toCss := by
  have herr : (parse ":root .a, .b\\:c > d\x7be: f\x7d".toList none).errors = [] := by
    decide +kernel
  have hns : IsClass ".ns".toList :=
    ⟨"ns".toList, rfl, by decide, List.all_eq_true.mp (by decide)⟩
  obtain ⟨sc, result, report, hsc, happly, -, hiff⟩ := apply_reparses_iff herr hns
  refine ⟨herr, sc, result, report, hsc, happly, (hiff ?_).mpr ?_⟩
  · decide +kernel
  · decide +kernel

/-- An escaped blank at the end of a selector is trimmed, and the backslash takes the brace. -/
theorem not_reparses_of_escaped_blank :
    (parse ".a\\ \x7b\x7d".toList none).errors = [] ∧
      ∃ sc result report, Scoper.ofOptions { under := .fixed ".ns".toList } = .ok sc ∧
        sc.apply (parse ".a\\ \x7b\x7d".toList none).sheet = .ok (result, report) ∧
        result.toCss = ".ns .a\\\x7b\x7d".toList ∧
        ¬ (parse ".a\\ \x7b\x7d".toList none).sheet.Reparses result.toCss := by
  refine ⟨by decide +kernel, ⟨.fixed ".ns".toList, .standard⟩, _, _, rfl, rfl, ?_, ?_⟩
  · decide +kernel
  · decide +kernel

end Sheet
end StyleScope
