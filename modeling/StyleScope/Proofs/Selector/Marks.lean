import StyleScope.Proofs.Token.Lexeme
import StyleScope.Proofs.Sheet.Groups
import StyleScope.Selector.List

/-!
Where a selector list is cut.

Two readers find the commas of a selector list: the splitter, which goes over the characters and
knows brackets, quotes and backslashes, and the tokens, among which a comma outside brackets is
one of its own. Both are put as a mark for every character. They agree on every kind of token
except comments, which the splitter does not know.
-/

namespace StyleScope

/-- The text between marked characters. -/
def Text.cutAt : List Bool → Text → List Text
  | true :: ms, _ :: t => [] :: cutAt ms t
  | false :: ms, c :: t =>
    match cutAt ms t with
    | [] => [[c]]
    | piece :: rest => (c :: piece) :: rest
  | _, _ => [[]]

/-- Pieces trimmed, without the blank ones. -/
def Text.tidy (pieces : List Text) : List Text :=
  (pieces.map Text.trim).filter fun item => !item.isEmpty

lemma Text.tidy_cons (a : Text) (l : List Text) :
    tidy (a :: l) = if trim a = [] then tidy l else trim a :: tidy l := by
  unfold tidy
  rw [List.map_cons, List.filter_cons]
  by_cases h : trim a = [] <;> simp [h]

namespace SelectorList

/-- Which characters of a text separate two selectors. -/
def marks (s : Context) : Text → List Bool
  | [] => []
  | c :: t => s.separates c :: marks (s.step c) t

namespace Context

def run (s : Context) (t : Text) : Context := t.foldl step s

/-- Nothing but brackets is open. -/
def level (depth : Nat) : Context := ⟨depth, none, false⟩

lemma separates_iff {s : Context} {c : Char} : s.separates c = true ↔ s = .outer ∧ c = ',' := by
  obtain ⟨depth, quote, escaped⟩ := s
  simp only [separates, outer, Bool.and_eq_true, Bool.not_eq_eq_eq_not, Bool.not_true,
    Option.isNone_iff_eq_none, beq_iff_eq, mk.injEq]
  tauto

lemma step_of_separates {s : Context} {c : Char} (h : s.separates c = true) : s.step c = s := by
  obtain ⟨rfl, rfl⟩ := separates_iff.mp h
  rfl

end Context

lemma marks_append (s : Context) (a b : Text) :
    marks s (a ++ b) = marks s a ++ marks (s.run a) b := by
  induction a generalizing s with
  | nil => rfl
  | cons c a ih => simp [marks, ih, Context.run]

lemma pieces_eq_cutAt (s : Context) (t : Text) : pieces s t = Text.cutAt (marks s t) t := by
  induction t generalizing s with
  | nil => rfl
  | cons c t ih =>
    rw [pieces, marks]
    split_ifs with h
    · rw [h, Text.cutAt, Context.step_of_separates h, ih]
    · rw [Bool.eq_false_iff.mpr h, Text.cutAt]
      exact ih (s.step c) ▸ rfl

/-- **Splitting a list is cutting it at its marks.** -/
theorem split_eq_cutAt (t : Text) : split t = Text.tidy (Text.cutAt (marks .outer t) t) := by
  rw [split, pieces_eq_cutAt]
  rfl

end SelectorList

/-- Which characters of a run of tokens are commas outside brackets. -/
def Token.commaMarks : Nat → List Token → List Bool
  | _, [] => []
  | depth, t :: ts =>
    List.replicate t.text.length (t.kind = .comma && depth == 0) ++
      commaMarks (t.kind.deepen depth) ts

/-! ### One token -/

namespace SelectorList

/-- The characters that the splitter takes to be more than themselves, backslashes apart. -/
def isSign (c : Char) : Bool :=
  c == ',' || c == '"' || c == '\'' || c == '(' || c == ')' || c == '[' || c == ']'

/-- Only brackets are open, or the next character is escaped and is no more than a line end. -/
def Context.At (s : Context) (depth : Nat) (rest : Text) : Prop :=
  s = level depth ∨ s = ⟨depth, none, true⟩ ∧ ∀ c ∈ rest.head?, c = '\n'

lemma step_level_of_not_isSign {depth : Nat} {c : Char} (h : isSign c = false) (hb : c ≠ '\\') :
    (Context.level depth).step c = .level depth := by
  simp_all [isSign, Context.step, Context.level]

lemma separates_of_not_isSign {s : Context} {c : Char} (h : isSign c = false) :
    s.separates c = false := by
  simp_all [isSign, Context.separates]

lemma marks_of_plain {depth : Nat} {t : Text} (h : ∀ c ∈ t, isSign c = false ∧ c ≠ '\\') :
    marks (.level depth) t = List.replicate t.length false ∧
      (Context.level depth).run t = .level depth := by
  induction t with
  | nil => exact ⟨rfl, rfl⟩
  | cons c t ih =>
    obtain ⟨hc, hb⟩ := h c (by simp)
    obtain ⟨hm, hr⟩ := ih fun d hd => h d (by simp [hd])
    have hstep : (Context.level depth).step c = .level depth := step_level_of_not_isSign hc hb
    constructor
    · rw [marks, hstep, hm, separates_of_not_isSign hc, List.length_cons, List.replicate_succ]
    · rw [Context.run, List.foldl_cons, hstep]
      exact hr

lemma marks_of_no_sign {depth : Nat} {escaped : Bool} {t : Text}
    (h : ∀ c ∈ t, isSign c = false) :
    marks ⟨depth, none, escaped⟩ t = List.replicate t.length false ∧
      ∃ escaped', Context.run ⟨depth, none, escaped⟩ t = ⟨depth, none, escaped'⟩ := by
  induction t generalizing escaped with
  | nil => exact ⟨rfl, escaped, rfl⟩
  | cons c t ih =>
    have hc := h c (by simp)
    obtain ⟨escaped', hstep⟩ : ∃ escaped', Context.step ⟨depth, none, escaped⟩ c =
        ⟨depth, none, escaped'⟩ := by
      simp only [isSign, Bool.or_eq_false_iff, beq_eq_false_iff_ne] at hc
      cases escaped with
      | true => exact ⟨false, rfl⟩
      | false =>
        by_cases hb : c = '\\'
        · exact ⟨true, by simp [Context.step, hb]⟩
        · exact ⟨false, by simp_all [Context.step]⟩
    obtain ⟨hm, hr⟩ := @ih escaped' fun d hd => h d (by simp [hd])
    constructor
    · rw [marks, hstep, hm, separates_of_not_isSign hc, List.length_cons, List.replicate_succ]
    · rw [Context.run, List.foldl_cons, hstep]
      exact hr

lemma marks_of_closed {quote : Char} {depth : Nat} {escaped : Bool} {body rest : Text}
    (hb : Token.stringLength quote escaped (body ++ rest) = body.length)
    (hc : Token.hasClosingQuote quote escaped body = true) :
    marks ⟨depth, some quote, escaped⟩ body = List.replicate body.length false ∧
      Context.run ⟨depth, some quote, escaped⟩ body = .level depth := by
  induction body generalizing escaped with
  | nil => simp [Token.hasClosingQuote] at hc
  | cons c body ih =>
    have hsep : Context.separates ⟨depth, some quote, escaped⟩ c = false := by
      simp [Context.separates]
    rw [marks, hsep, List.length_cons, List.replicate_succ, Context.run, List.foldl_cons]
    cases escaped with
    | true =>
      simp only [List.cons_append, Token.stringLength, Token.hasClosingQuote, List.length_cons,
        Nat.add_right_cancel_iff] at hb hc
      obtain ⟨hm, hr⟩ := ih hb hc
      exact ⟨congrArg _ hm, hr⟩
    | false =>
      simp only [List.cons_append, Token.stringLength, Token.hasClosingQuote,
        List.length_cons] at hb hc
      split_ifs at hb hc with h1 h2 h3
      · have hstep : Context.step ⟨depth, some quote, false⟩ c = ⟨depth, some quote, true⟩ := by
          simp [Context.step, h1]
        obtain ⟨hm, hr⟩ := @ih true (by omega) hc
        rw [hstep]
        exact ⟨congrArg _ hm, hr⟩
      · -- the closing quote is the last character
        have hnil : body = [] := List.length_eq_zero_iff.mp (by omega)
        subst h3 hnil
        simp [marks, Context.step, h1, Context.level]
      · have hstep : Context.step ⟨depth, some quote, false⟩ c = ⟨depth, some quote, false⟩ := by
          simp [Context.step, h1, Ne.symm h3]
        obtain ⟨hm, hr⟩ := @ih false (by omega) (by simpa [h3] using hc)
        rw [hstep]
        exact ⟨congrArg _ hm, hr⟩

lemma not_isSign_of {p : Char → Bool}
    (hp : [',', '"', '\'', '(', ')', '[', ']', '\\'].all (fun d => !p d) = true) {c : Char}
    (hc : p c = true) : isSign c = false ∧ c ≠ '\\' := by
  have hnot := Text.notMem_of_all hp hc
  simp only [List.mem_cons, not_or] at hnot
  simp_all [isSign]

/-- A string that is closed, a comment that is closed and has no sign, or another token. -/
def Legible (kind : TokenKind) (text : Text) : Prop :=
  (kind = .string → Token.isClosedString text = true) ∧
    (kind = .comment → Token.isClosedComment text = true ∧ ∀ c ∈ text, isSign c = false)

lemma marks_of_comment {depth : Nat} {text : Text} (h : ∀ c ∈ text, isSign c = false)
    (hc : Token.isClosedComment text = true) :
    marks (.level depth) text = List.replicate text.length false ∧
      (Context.level depth).run text = .level depth := by
  simp only [Token.isClosedComment, Bool.and_eq_true, List.isSuffixOf_iff_suffix] at hc
  obtain ⟨before, rfl⟩ := hc.2
  obtain ⟨hm, -⟩ := @marks_of_no_sign depth false _ h
  refine ⟨hm, ?_⟩
  obtain ⟨-, escaped, hr⟩ := @marks_of_no_sign depth false before fun c hc => h c (by simp [hc])
  rw [Context.run, List.foldl_append]
  have hbefore : before.foldl Context.step (.level depth) = ⟨depth, none, escaped⟩ := hr
  rw [hbefore]
  cases escaped <;> rfl

lemma marks_of_spelled_level {kind : TokenKind} {text rest : Text} {depth : Nat}
    (h : Token.Spelled kind text rest) (hl : Legible kind text) :
    marks (.level depth) text = List.replicate text.length (kind = .comma && depth == 0) ∧
      ((Context.level depth).run text).At (kind.deepen depth) rest := by
  have hplain {t : Text} (ht : ∀ c ∈ t, isSign c = false ∧ c ≠ '\\') :
      marks (.level depth) t = List.replicate t.length false ∧
        ((Context.level depth).run t).At depth rest := by
    obtain ⟨hm, hr⟩ := @marks_of_plain depth t ht
    exact ⟨hm, .inl hr⟩
  cases h with
  | leftBrace => exact hplain (by simp [isSign])
  | rightBrace => exact hplain (by simp [isSign])
  | semicolon => exact hplain (by simp [isSign])
  | colon => exact hplain (by simp [isSign])
  | slash => exact hplain (by simp [isSign])
  | atSign => exact hplain (by simp [isSign])
  | leftParen => exact ⟨by simp [marks, Context.separates], .inl rfl⟩
  | rightParen => exact ⟨by simp [marks, Context.separates], .inl rfl⟩
  | leftBracket => exact ⟨by simp [marks, Context.separates], .inl rfl⟩
  | rightBracket => exact ⟨by simp [marks, Context.separates], .inl rfl⟩
  | comma => exact ⟨by simp [marks, Context.separates, Context.level], .inl rfl⟩
  | escape hc => exact ⟨by simp [marks, Context.separates, Context.step, Context.level], .inl rfl⟩
  -- a backslash by itself leaves only a line end escaped
  | invalid hr => exact ⟨by simp [marks, Context.separates], .inr ⟨rfl, hr⟩⟩
  | @string quote body rest hq hb =>
    obtain ⟨hm, hr⟩ := @marks_of_closed quote depth false body rest hb (hl.1 rfl)
    have hstep : (Context.level depth).step quote = ⟨depth, some quote, false⟩ := by
      rcases hq with rfl | rfl <;> rfl
    have hsep : (Context.level depth).separates quote = false := by
      rcases hq with rfl | rfl <;> simp [Context.separates]
    constructor
    · rw [marks, hstep, hm, hsep]
      rfl
    · rw [Context.run, List.foldl_cons, hstep]
      exact .inl hr
  | comment hb =>
    obtain ⟨hc, hsign⟩ := hl.2 rfl
    obtain ⟨hm, hr⟩ := @marks_of_comment depth _ hsign hc
    exact ⟨hm, .inl hr⟩
  | @atKeyword c body rest hc hb hr =>
    have hname := Token.isNameChar_of_isNameStart hc
    refine hplain ?_
    simp only [List.mem_cons, forall_eq_or_imp]
    exact ⟨by decide, not_isSign_of (by decide) hname,
      fun d hd => not_isSign_of (by decide) (hb d hd)⟩
  | whitespace hs hr => exact hplain fun c hc => not_isSign_of (by decide) (hs c hc)
  | word hw hr =>
    exact hplain fun c hc =>
      @not_isSign_of (!Token.isDelimiter ·) (by decide) c (by simp [hw c hc])

lemma marks_of_spelled {kind : TokenKind} {text rest : Text} {depth : Nat} {s : Context}
    (h : Token.Spelled kind text rest) (hl : Legible kind text) (hs : s.At depth (text ++ rest)) :
    marks s text = List.replicate text.length (kind = .comma && depth == 0) ∧
      (s.run text).At (kind.deepen depth) rest := by
  rcases hs with rfl | ⟨rfl, hnext⟩
  · exact marks_of_spelled_level h hl
  -- what is escaped is a line end, which no reader takes for more
  obtain ⟨c, cs, rfl⟩ := List.exists_cons_of_ne_nil h.ne_nil
  obtain rfl : c = '\n' := hnext c rfl
  cases h with
  | whitespace hs hr =>
    obtain ⟨hm, hr⟩ := @marks_of_plain depth cs fun d hd =>
      not_isSign_of (by decide) (hs d (by simp [hd]))
    have hstep : Context.step ⟨depth, none, true⟩ '\n' = .level depth := rfl
    constructor
    · rw [marks, hstep, hm]
      rfl
    · rw [Context.run, List.foldl_cons, hstep]
      exact .inl hr
  | word hw hr => exact absurd (hw '\n' (by simp)) (by decide)
  | string hq hb => rcases hq with h | h <;> exact absurd h (by decide)

/-- **The splitter agrees with legible tokens.** -/
theorem marks_textOf {ts : List Token} (hlex : Token.Lexes ts) :
    ∀ {pre post : List Token}, ts = pre ++ post → (∀ t ∈ pre, Legible t.kind t.text) →
      ∀ {depth : Nat} {s : Context}, s.At depth (Piece.textOf ts) →
        marks s (Piece.textOf pre) = Token.commaMarks depth pre := by
  induction ts with
  | nil =>
    intro pre post happ _ depth s _
    obtain ⟨rfl, -⟩ := List.nil_eq_append_iff.mp happ
    rfl
  | cons t ts ih =>
    intro pre post happ hl depth s hs
    rcases pre with _ | ⟨t', pre⟩
    · rfl
    · obtain ⟨rfl, rfl⟩ := List.cons_eq_cons.mp happ
      obtain ⟨hm, hr⟩ := marks_of_spelled hlex.1 (hl t (by simp)) hs
      rw [Piece.textOf_cons, marks_append, hm, Token.commaMarks,
        ih hlex.2 rfl (fun t' ht' => hl t' (by simp [ht'])) hr]

end SelectorList
end StyleScope
