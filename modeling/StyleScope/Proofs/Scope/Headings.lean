import StyleScope.Proofs.Scope.Rewriting
import StyleScope.Proofs.Sheet.Headings
import StyleScope.Proofs.Sheet.Signs

/-!
The heading of a rule under a new selector.

A selector that has the signs of the old one can take its place when it breaks no string and
does not end in a backslash that the brace comes behind. Where a source with new selectors has no
faults, no string is broken, and the braces show that none of them is taken by a backslash.
-/

namespace StyleScope

open Token (LexesTo Lexes lexemes)

/-- Behind modes that differ in a slash or an escape at most, white space and comments are read
alike. -/
lemma Mode.read_between {n m : Mode} {between : Text} (hmode : n = m ∨ n.settle = m)
    (hready : m.Ready (between ++ ['{']))
    (hhead : ∀ c ∈ between.head?, Token.isSpace c = true ∨ c = '/')
    (hesc : n = .escape → between ≠ [] ∧ between.head? ≠ some '/') :
    n.signs between = m.signs between ∧
      (n.run between = m.run between ∨ n.run between = .slash) := by
  rcases hmode with rfl | rfl
  · exact ⟨rfl, .inl rfl⟩
  have hclosed := hready.not_isOpen
  cases n with
  | plain => exact ⟨rfl, .inl rfl⟩
  | slash =>
    by_cases hnil : between = []
    · subst hnil
      exact ⟨rfl, .inr rfl⟩
    · have hslash : Mode.slash.Ready (between ++ []) := by
        refine .inr (.inl ⟨rfl, fun hstar => ?_⟩)
        rw [List.append_nil] at hstar
        rcases hhead _ hstar with h | h
        · exact absurd h (by decide)
        · exact absurd h (by decide)
      obtain ⟨hrun, hsigns⟩ := hslash.eq_plain hnil
      exact ⟨hsigns, .inl hrun⟩
  | escape =>
    -- the escaped character is a blank, which counts nowhere
    obtain ⟨hne, hslash⟩ := hesc rfl
    obtain ⟨c, cs, rfl⟩ := List.exists_cons_of_ne_nil hne
    have hspace : Token.isSpace c = true :=
      (hhead c rfl).resolve_right fun h => hslash (by rw [h]; rfl)
    obtain ⟨hrun, hsign⟩ := @run_plain [c] (by simpa using isPlain_of_isSpace hspace)
    have hstep : plain.step c = .plain := hrun
    have hsign' : plain.sign? c = none := by simpa using hsign
    simp [settle, hstep, hsign', show escape.step c = .plain from rfl,
      show escape.sign? c = none from rfl]
  | _ => simp [settle, isOpen] at hclosed

namespace Statement

lemma Shaped.heading {head rest : List Token} {brace : Token}
    (hs : (Statement.qualified head (.block brace)).Shaped rest)
    (hlex : Lexes (head ++ brace :: rest)) (herrors : Prelude.errors head = []) :
    Heading (Piece.textOf head) head := by
  obtain ⟨hto, hspell, -⟩ := Token.lexes_append.mp hlex
  obtain ⟨hended, hlevel⟩ := Prelude.errors_eq_nil.mp herrors
  refine ⟨rfl, hto.congr_rest ?_, hended, ?_⟩
  · rw [Piece.textOf_cons, hspell.eq_leftBrace hs.brace_kind]
    rfl
  · cases hs with
    | bare hk => rfl
    | qualified hk hd he =>
      rw [hd, ← Prelude.level_eq_of_depth? hd, hlevel]

lemma head?_trailing {head : List Token} {out : Text} (h : LexesTo (Prelude.trailing head) out)
    {c : Char} (hc : (Piece.textOf (Prelude.trailing head)).head? = some c) :
    Token.isSpace c = true ∨ c = '/' := by
  have htrivia := @Prelude.isTrivia_of_mem_trailing head
  rcases htail : Prelude.trailing head with _ | ⟨⟨kind, start, text⟩, ts⟩
  · simp [htail] at hc
  · rw [htail] at h hc htrivia
    have hk := htrivia (List.mem_cons_self)
    have hspell : Token.Spelled kind text (Piece.textOf ts ++ out) := h.1
    cases hspell with
    | whitespace hs hr =>
      obtain rfl := Option.some.inj hc
      exact .inl (hs _ (by simp))
    | comment hb =>
      obtain rfl := Option.some.inj hc
      exact .inr rfl
    | _ => cases hk

lemma Heading.split {head : List Token} (h : Heading (Piece.textOf head) head) :
    (LexesTo (Prelude.content head) (Piece.textOf (Prelude.trailing head) ++ ['{']) ∧
      ∀ t ∈ Prelude.content head, Token.Ended t.kind t.text) ∧
    LexesTo (Prelude.trailing head) ['{'] ∧
      ∀ t ∈ Prelude.trailing head, Token.Ended t.kind t.text := by
  have hlex := h.lexes
  have hended := h.ended
  rw [← Prelude.content_append_trailing head, Token.lexesTo_append] at hlex
  rw [← Prelude.content_append_trailing head] at hended
  exact ⟨⟨hlex.1, fun t ht => hended t (by simp [ht])⟩, hlex.2, fun t ht => hended t (by simp [ht])⟩

lemma Heading.read_content {head : List Token} (h : Heading (Piece.textOf head) head) :
    Mode.plain.signs (Piece.textOf (Prelude.content head)) = Token.signs (Prelude.content head) ∧
      (Mode.plain.run (Piece.textOf (Prelude.content head))).Ready
        (Piece.textOf (Prelude.trailing head) ++ ['{']) := by
  obtain ⟨⟨hlex, hended⟩, -⟩ := h.split
  exact Token.signs_textOf hlex hended (.inl rfl)

/-- **A selector with the signs of the old one keeps those of the heading**, unless a backslash
at its end takes what follows. -/
theorem Heading.signs_rename {head : List Token} (h : Heading (Piece.textOf head) head)
    {new : Text} (ht : Mode.plain.Tracks new (Piece.textOf (Prelude.content head)))
    (hesc : Mode.plain.run new = .escape → Piece.textOf (Prelude.trailing head) ≠ [] ∧
      (Piece.textOf (Prelude.trailing head)).head? ≠ some '/') :
    Mode.plain.signs (new ++ Piece.textOf (Prelude.trailing head)) = Token.signs head ∧
      (Mode.plain.run (new ++ Piece.textOf (Prelude.trailing head)) = .plain ∨
        Mode.plain.run (new ++ Piece.textOf (Prelude.trailing head)) = .slash) := by
  obtain ⟨hsigns, hready⟩ := h.read_content
  obtain ⟨-, hlex, hended⟩ := h.split
  obtain ⟨hsigns', hready'⟩ := Token.signs_textOf hlex hended hready
  have hsame := Mode.read_between ht.mode hready (fun c hc => head?_trailing hlex hc) hesc
  rw [Mode.signs_append, Mode.run_append, ht.signs, hsame.1, hsigns, hsigns']
  constructor
  · conv_rhs => rw [← Prelude.content_append_trailing head, Token.signs_append]
    rfl
  · rcases hsame.2 with hrun | hrun
    · rw [hrun]
      rcases hready' with hp | ⟨hp, -⟩ | ⟨-, hp⟩
      · exact .inl hp
      · exact .inr hp
      · exact absurd (hp '{' rfl) (by decide)
    · exact .inr hrun

/-- A new selector with the signs of the old one is read as a heading. -/
theorem Heading.rename {head : List Token} (h : Heading (Piece.textOf head) head)
    {new : Text} (ht : Mode.plain.Tracks new (Piece.textOf (Prelude.content head)))
    (hesc : Mode.plain.run new = .escape → Piece.textOf (Prelude.trailing head) ≠ [] ∧
      (Piece.textOf (Prelude.trailing head)).head? ≠ some '/') :
    ∃ head', Heading (new ++ Piece.textOf (Prelude.trailing head)) head' := by
  obtain ⟨hsigns, hrun⟩ := h.signs_rename ht hesc
  generalize new ++ Piece.textOf (Prelude.trailing head) = text at *
  obtain ⟨-, hlex, htext⟩ := Token.scan_spec (text ++ ['{'])
  obtain ⟨as, brace, bs, hscan, has, -, hbrace, hended⟩ :=
    Token.exists_leftBrace hlex (m := .plain) (.inl rfl) htext
      (hsigns ▸ Token.newline_notMem head) hrun
  rw [hscan] at hlex
  have hto : LexesTo as ['{'] :=
    (Token.lexes_append.mp hlex).1.congr_rest (by rw [Piece.textOf_cons, hbrace]; rfl)
  have hsigns' : Token.signs as = Token.signs head :=
    (Token.signs_textOf hto hended (m := .plain) (.inl rfl)).1.symm.trans (has ▸ hsigns)
  refine ⟨as, has, hto, hended, ?_⟩
  rw [Prelude.depth?_eq_walk, hsigns', ← Prelude.depth?_eq_walk]
  exact h.level

/-! ### All headings of a source -/

/-- What is known of the text that takes the place of a rule's selector, where it breaks no
string: it has the signs of the selector, and ends in no backslash right before a comment. -/
def Renames (r : Rule) (new : Text) : Prop :=
  '\n' ∉ Mode.plain.signs new → Mode.plain.Tracks new r.selector ∧
    (Mode.plain.run new = .escape → r.between.head? ≠ some '/')

/-- The text has no string that is broken off, and no brace is taken by a backslash at its end. -/
structure Unbroken (r : Rule) (new : Text) : Prop where
  line : '\n' ∉ Mode.plain.signs new
  brace : Mode.plain.run new = .escape → r.between ≠ []

/-- The new headings of a source without faults. -/
theorem Retold.headings {ts : List Token} {sts : List Statement} {news : List Text} {out : Text}
    (h : Retold ts sts news out) (hlex : Lexes ts)
    (hf : ∀ st ∈ sts, ∃ inside, st.Faultless inside)
    (hnews : List.Forall₂ (fun r new => Renames r new ∧ Unbroken r new)
      (sts.filterMap rule?) news) :
    List.Forall₂ (fun r new => ∃ head, Heading (new ++ r.between) head)
      (sts.filterMap rule?) news := by
  induction h with
  | nil => exact .nil
  | gap hk h ih => exact ih hlex.2 hf hnews
  | @keep st rest sts news out hs hr h ih =>
    rw [List.filterMap_cons, hr] at hnews ⊢
    exact ih (Token.lexes_append.mp hlex).2 (fun st' hst' => hf st' (by simp [hst'])) hnews
  | @rule head rest brace sts new news out hs h ih =>
    simp only [List.filterMap_cons, rule?, List.forall₂_cons] at hnews ⊢
    obtain ⟨⟨hrename, hunbroken⟩, hnews⟩ := hnews
    obtain ⟨inside, hfault⟩ := hf _ (List.mem_cons_self)
    have hhead := hs.heading hlex hfault.1
    obtain ⟨htracks, hapart⟩ := hrename hunbroken.line
    refine ⟨hhead.rename htracks fun hesc => ?_, ?_⟩
    · exact ⟨hunbroken.brace hesc, hapart hesc⟩
    · exact ih (Token.lexes_append.mp hlex).2.2 (fun st' hst' => hf st' (by simp [hst'])) hnews

/-- The brace behind a new selector counts, unless a backslash takes it. -/
lemma Heading.read_brace {head : List Token} (h : Heading (Piece.textOf head) head)
    {new : Text} (ht : Mode.plain.Tracks new (Piece.textOf (Prelude.content head)))
    (hapart : Mode.plain.run new = .escape →
      (Piece.textOf (Prelude.trailing head)).head? ≠ some '/') :
    Mode.plain.run (new ++ Piece.textOf (Prelude.trailing head) ++ ['{']) = .plain ∧
      (Mode.plain.signs (new ++ Piece.textOf (Prelude.trailing head) ++ ['{']) =
          Token.signs head ∨
        Mode.plain.signs (new ++ Piece.textOf (Prelude.trailing head) ++ ['{']) =
            Token.signs head ++ ['{'] ∧
          (Mode.plain.run new = .escape → Piece.textOf (Prelude.trailing head) ≠ [])) := by
  rw [Mode.signs_append, Mode.run_append]
  by_cases hlost : Mode.plain.run new = .escape ∧ Piece.textOf (Prelude.trailing head) = []
  · obtain ⟨hesc, hnil⟩ := hlost
    have hselector : Piece.textOf (Prelude.content head) = Piece.textOf head := by
      rw [← Prelude.textOf_content_append_trailing head, hnil, List.append_nil]
    have hold : Mode.plain.signs new = Token.signs head := by
      rw [ht.signs, hselector]
      exact (Token.signs_textOf h.lexes h.ended (.inl rfl)).1
    rw [hnil, List.append_nil, hesc, hold]
    exact ⟨rfl, .inl (List.append_nil _)⟩
  · have hkeep : Mode.plain.run new = .escape → Piece.textOf (Prelude.trailing head) ≠ [] :=
      fun hesc hnil => hlost ⟨hesc, hnil⟩
    obtain ⟨hsigns, hrun⟩ := h.signs_rename ht fun hesc => ⟨hkeep hesc, hapart hesc⟩
    rw [hsigns]
    rcases hrun with hrun | hrun <;> rw [hrun] <;> exact ⟨rfl, .inr ⟨rfl, hkeep⟩⟩

/-- **A source without line ends that count has no broken selectors**, if its braces close what
they open. A brace that a backslash takes is missing among the signs. -/
theorem Retold.unbroken {ts : List Token} {sts : List Statement} {news : List Text} {out : Text}
    (h : Retold ts sts news out) (hlex : Lexes ts)
    (hf : ∀ st ∈ sts, ∃ inside, st.Faultless inside)
    (hnews : List.Forall₂ Renames (sts.filterMap rule?) news) {m : Mode} (hm : m.Ready out)
    (hn : '\n' ∉ m.signs out) :
    Mode.tilt (m.signs out) ≤ Mode.tilt (Token.signs ts) ∧
      (Mode.tilt (m.signs out) = Mode.tilt (Token.signs ts) →
        List.Forall₂ Unbroken (sts.filterMap rule?) news) := by
  induction h generalizing m with
  | nil => exact ⟨Int.le_refl _, fun _ => .nil⟩
  | @gap t ts sts news out hk h ih =>
    have hgap : t.kind = .whitespace ∨ t.kind = .semicolon := by simpa [isGap] using hk
    have hended : Token.Ended t.kind t.text := by
      rcases hgap with hk | hk <;> exact ended_of_kind (by simp [hk]) (by simp [hk]) t.text
    obtain ⟨hsign, hready, hescape, hslash⟩ := hlex.1.read_ended hended
    have hplain : Mode.plain.run t.text = .plain := by
      rcases hready with hr | ⟨hr, -⟩ | ⟨hr, -⟩
      · exact hr
      · rcases hgap with hk | hk <;> simp [hslash.mp hr] at hk
      · rcases hgap with hk | hk <;> simp [hescape.mp hr] at hk
    obtain ⟨hrun, hsigns⟩ := hm.eq_plain hlex.1.ne_nil
    rw [Mode.signs_append, hrun, hplain, hsigns, hsign] at hn ⊢
    rw [Token.signs_cons, Mode.tilt_append, Mode.tilt_append]
    obtain ⟨hle, heq⟩ := ih hlex.2 hf hnews (.inl rfl) fun hmem => hn (by simp [hmem])
    exact ⟨by omega, fun hsum => heq (by omega)⟩
  | @keep st rest sts news out hs hr h ih =>
    rw [List.filterMap_cons, hr] at hnews ⊢
    obtain ⟨inside, hfault⟩ := hf st (by simp)
    obtain ⟨-, hto⟩ := h.shaped_keep hs hlex (hs.ended hfault)
    obtain ⟨hsigns, hready⟩ := Token.signs_textOf hto (hs.ended hfault) hm
    have hsigns : m.signs (Piece.textOf st.tokens) = Token.signs st.tokens := hsigns
    rw [Mode.signs_append, hsigns] at hn ⊢
    rw [Token.signs_append, Mode.tilt_append, Mode.tilt_append]
    obtain ⟨hle, heq⟩ := ih (Token.lexes_append.mp hlex).2
      (fun st' hst' => hf st' (by simp [hst'])) hnews hready fun hmem => hn (by simp [hmem])
    exact ⟨by omega, fun hsum => heq (by omega)⟩
  | @rule head rest brace sts new news out hs h ih =>
    simp only [List.filterMap_cons, rule?, List.forall₂_cons] at hnews ⊢
    obtain ⟨hrename, hnews⟩ := hnews
    obtain ⟨inside, hfault⟩ := hf _ (List.mem_cons_self)
    obtain ⟨-, hspell, hrest⟩ := Token.lexes_append.mp hlex
    have hhead := hs.heading hlex hfault.1
    have hbrace := hspell.eq_leftBrace hs.brace_kind
    have hsigns : Token.signs (head ++ brace :: rest) =
        Token.signs head ++ '{' :: Token.signs rest := by
      rw [Token.signs_append, Token.signs_cons, hs.brace_kind]
      rfl
    -- the heading and its brace are read from the beginning
    have hout : new ++ (Piece.textOf (Prelude.trailing head) ++ (brace.text ++ out)) =
        new ++ Piece.textOf (Prelude.trailing head) ++ ['{'] ++ out := by simp [hbrace]
    rw [hout] at hm hn ⊢
    obtain ⟨hrun, hread⟩ := hm.eq_plain (by simp)
    rw [Mode.signs_append, hrun, hread] at hn ⊢
    have hline : '\n' ∉ Mode.plain.signs new := by
      intro hmem
      refine hn ?_
      rw [List.append_assoc, Mode.signs_append]
      simp [hmem]
    obtain ⟨htracks, hapart⟩ := hrename hline
    obtain ⟨hrun, hcount⟩ := hhead.read_brace htracks hapart
    rw [hrun] at hn ⊢
    obtain ⟨hle, heq⟩ := ih hrest (fun st' hst' => hf st' (by simp [hst'])) hnews (.inl rfl)
      fun hmem => hn (by simp [hmem])
    have htilt : Mode.tilt ('{' :: Token.signs rest) = 1 + Mode.tilt (Token.signs rest) := rfl
    rw [hsigns, Mode.tilt_append, Mode.tilt_append, htilt]
    rcases hcount with hcount | ⟨hcount, hkeep⟩
    · -- nothing behind the brace makes up for it
      rw [hcount]
      exact ⟨by omega, fun hsum => absurd hsum (by omega)⟩
    · rw [hcount, Mode.tilt_append, show Mode.tilt ['{'] = 1 from rfl]
      exact ⟨by omega, fun hsum => ⟨⟨hline, hkeep⟩, heq (by omega)⟩⟩

end Statement
end StyleScope
