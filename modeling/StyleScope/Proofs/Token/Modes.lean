import StyleScope.Proofs.Token.Lexeme

/-!
Reading tokens one character at a time.

What a character means to the grouping of tokens depends on whether it stands in a string or in
a comment, or is escaped. `Mode` keeps just that, and `signs` are the brackets, braces and
semicolons that count, with the line ends that break off a string. A text has the same signs as
its tokens, so texts that are not cut alike can still be compared.
-/

namespace StyleScope

/-- What a reader is in the middle of. -/
inductive Mode where
  | plain
  /-- After a slash, which may begin a comment. -/
  | slash
  | escape
  /-- In a string, between double quotes or single ones. -/
  | quoted (double : Bool)
  | quotedEscape (double : Bool)
  | comment
  /-- After an asterisk in a comment, which may be about to end. -/
  | star
  deriving DecidableEq, Repr

namespace Mode

def quote (double : Bool) : Char := if double then '"' else '\''

/-- The mode after a character that stands for itself. -/
def begin (c : Char) : Mode :=
  if c = '\\' then escape
  else if c = '/' then slash
  else if c = '"' then quoted true
  else if c = '\'' then quoted false
  else plain

def step : Mode → Char → Mode
  | plain, c => begin c
  | slash, c => if c = '*' then comment else begin c
  | escape, _ => plain
  | quoted d, c =>
    if c = '\\' then quotedEscape d else if c = '\n' ∨ c = quote d then plain else quoted d
  | quotedEscape d, _ => quoted d
  | comment, c => if c = '*' then star else comment
  | star, c => if c = '/' then plain else if c = '*' then star else comment

/-- The characters that group tokens. -/
def isMark (c : Char) : Bool :=
  c == '{' || c == '}' || c == '(' || c == ')' || c == '[' || c == ']' || c == ';'

/-- What counts of a character: a mark outside strings and comments, or the end of a line that
breaks off a string. -/
def sign? : Mode → Char → Option Char
  | plain, c => if isMark c then some c else none
  | slash, c => if isMark c then some c else none
  | quoted _, c => if c = '\n' then some c else none
  | _, _ => none

def run (m : Mode) (t : Text) : Mode := t.foldl step m

def signs : Mode → Text → List Char
  | _, [] => []
  | m, c :: t => (m.sign? c).toList ++ signs (m.step c) t

@[simp] lemma run_nil (m : Mode) : m.run [] = m := rfl

@[simp] lemma run_cons (m : Mode) (c : Char) (t : Text) : m.run (c :: t) = (m.step c).run t := rfl

@[simp] lemma signs_nil (m : Mode) : m.signs [] = [] := rfl

@[simp] lemma signs_cons (m : Mode) (c : Char) (t : Text) :
    m.signs (c :: t) = (m.sign? c).toList ++ (m.step c).signs t := rfl

lemma run_append (m : Mode) (a b : Text) : m.run (a ++ b) = (m.run a).run b :=
  List.foldl_append

lemma signs_append (m : Mode) (a b : Text) :
    m.signs (a ++ b) = m.signs a ++ (m.run a).signs b := by
  induction a generalizing m with
  | nil => rfl
  | cons c a ih => simp [ih]

def isOpen : Mode → Bool
  | quoted _ | quotedEscape _ | comment | star => true
  | _ => false

/-- A token may begin here: what stands before says nothing about the next character. -/
def Ready (m : Mode) (rest : Text) : Prop :=
  m = plain ∨ m = slash ∧ rest.head? ≠ some '*' ∨ m = escape ∧ ∀ c ∈ rest.head?, c = '\n'

lemma Ready.not_isOpen {m : Mode} {rest : Text} (h : m.Ready rest) : m.isOpen = false := by
  rcases h with rfl | ⟨rfl, -⟩ | ⟨rfl, -⟩ <;> rfl

lemma Ready.eq_plain {m : Mode} {text rest : Text} (h : m.Ready (text ++ rest))
    (hne : text ≠ []) : m.run text = plain.run text ∧ m.signs text = plain.signs text := by
  obtain ⟨c, cs, rfl⟩ := List.exists_cons_of_ne_nil hne
  rcases h with rfl | ⟨rfl, hc⟩ | ⟨rfl, hc⟩
  · exact ⟨rfl, rfl⟩
  · have hstep : slash.step c = plain.step c := by
      have hne : c ≠ '*' := by simpa using hc
      simp [step, hne]
    simp [hstep, sign?]
  · obtain rfl : c = '\n' := hc c rfl
    exact ⟨rfl, rfl⟩

/-! ### Plain characters -/

/-- A character that stands for itself and groups nothing. -/
def isPlain (c : Char) : Bool := begin c = plain && !isMark c

lemma run_plain {t : Text} (h : ∀ c ∈ t, isPlain c = true) :
    plain.run t = plain ∧ plain.signs t = [] := by
  induction t with
  | nil => exact ⟨rfl, rfl⟩
  | cons c t ih =>
    have hc := h c (by simp)
    simp only [isPlain, Bool.and_eq_true, decide_eq_true_eq, Bool.not_eq_true'] at hc
    obtain ⟨hrun, hsigns⟩ := ih fun d hd => h d (by simp [hd])
    have hstep : plain.step c = plain := hc.1
    simp [hstep, hrun, hsigns, sign?, hc.2]

lemma isPlain_of {p : Char → Bool} (hp : ['\\', '/', '"', '\'', '{', '}', '(', ')', '[', ']',
    ';'].all (fun d => !p d) = true) {c : Char} (hc : p c = true) : isPlain c = true := by
  have hnot := Text.notMem_of_all hp hc
  simp only [List.mem_cons, not_or] at hnot
  simp_all [isPlain, begin, isMark]

lemma isPlain_of_isDelimiter {c : Char} (h : Token.isDelimiter c = false) : isPlain c = true :=
  @isPlain_of (!Token.isDelimiter ·) (by decide) c (by simp [h])

lemma isPlain_of_isSpace {c : Char} (h : Token.isSpace c = true) : isPlain c = true :=
  isPlain_of (by decide) h

lemma isPlain_of_isNameChar {c : Char} (h : Token.isNameChar c = true) : isPlain c = true :=
  isPlain_of (by decide) h

/-! ### Strings -/

def inString (double escaped : Bool) : Mode :=
  if escaped then quotedEscape double else quoted double

lemma inString_backslash (d : Bool) :
    (inString d false).step '\\' = inString d true ∧ (inString d false).sign? '\\' = none := by
  cases d <;> decide

lemma inString_quote (d : Bool) :
    (inString d false).step (quote d) = plain ∧ (inString d false).sign? (quote d) = none := by
  cases d <;> decide

lemma inString_other {d : Bool} {c : Char} (h1 : c ≠ '\\') (h2 : c ≠ '\n') (h3 : c ≠ quote d) :
    (inString d false).step c = inString d false ∧ (inString d false).sign? c = none := by
  simp [inString, step, sign?, h1, h2, h3]

lemma exists_inString {c : Char} (h : c = '"' ∨ c = '\'') :
    ∃ d, c = quote d ∧ plain.step c = inString d false ∧ plain.sign? c = none := by
  rcases h with rfl | rfl
  · exact ⟨true, rfl, rfl, rfl⟩
  · exact ⟨false, rfl, rfl, rfl⟩

lemma run_inString {d e : Bool} {a w : Text}
    (h : a.length < Token.stringLength (quote d) e (a ++ w)) :
    (∃ e', (inString d e).run a = inString d e') ∧ (inString d e).signs a = [] := by
  induction a generalizing e with
  | nil => exact ⟨⟨e, rfl⟩, rfl⟩
  | cons c a ih =>
    rw [run_cons, signs_cons]
    cases e with
    | true =>
      simp only [List.cons_append, Token.stringLength, List.length_cons] at h
      exact @ih false (by omega)
    | false =>
      simp only [List.cons_append, Token.stringLength, List.length_cons] at h
      split_ifs at h with h1 h2 h3
      · rw [h1, (inString_backslash d).1, (inString_backslash d).2]
        exact @ih true (by omega)
      · omega
      · omega
      · rw [(inString_other h1 h2 h3).1, (inString_other h1 h2 h3).2]
        exact @ih false (by omega)

lemma run_inString_of_closed {d e : Bool} {body rest : Text}
    (hb : Token.stringLength (quote d) e (body ++ rest) = body.length)
    (hc : Token.hasClosingQuote (quote d) e body = true) :
    (inString d e).run body = plain ∧ (inString d e).signs body = [] := by
  induction body generalizing e with
  | nil => simp [Token.hasClosingQuote] at hc
  | cons c body ih =>
    rw [run_cons, signs_cons]
    cases e with
    | true =>
      simp only [List.cons_append, Token.stringLength, Token.hasClosingQuote, List.length_cons,
        Nat.add_right_cancel_iff] at hb hc
      exact @ih false hb hc
    | false =>
      simp only [List.cons_append, Token.stringLength, Token.hasClosingQuote,
        List.length_cons] at hb hc
      split_ifs at hb hc with h1 h2 h3
      · rw [h1, (inString_backslash d).1, (inString_backslash d).2]
        exact @ih true (by omega) hc
      · have hnil : body = [] := List.length_eq_zero_iff.mp (by omega)
        rw [hnil, h3, (inString_quote d).1, (inString_quote d).2]
        exact ⟨rfl, rfl⟩
      · rw [(inString_other h1 h2 h3).1, (inString_other h1 h2 h3).2]
        exact @ih false (by omega) (by simpa [h3] using hc)

lemma run_inString_of_not_closed {d e : Bool} {body rest : Text}
    (hb : Token.stringLength (quote d) e (body ++ rest) = body.length)
    (hc : Token.hasClosingQuote (quote d) e body = false) :
    (∃ e', (inString d e).run body = inString d e' ∧
      (rest = [] ∨ e' = false ∧ rest.head? = some '\n')) ∧ (inString d e).signs body = [] := by
  induction body generalizing e with
  | nil =>
    refine ⟨⟨e, rfl, ?_⟩, rfl⟩
    -- the string stops here, so the text ends or its line does
    rcases rest with _ | ⟨c, rest⟩
    · exact .inl rfl
    · cases e with
      | true => simp [Token.stringLength] at hb
      | false =>
        simp only [List.nil_append, Token.stringLength, List.length_nil] at hb
        split_ifs at hb with h1 h2
        exact .inr ⟨rfl, by rw [h2]; rfl⟩
  | cons c body ih =>
    rw [run_cons, signs_cons]
    cases e with
    | true =>
      simp only [List.cons_append, Token.stringLength, Token.hasClosingQuote, List.length_cons,
        Nat.add_right_cancel_iff] at hb hc
      exact @ih false hb hc
    | false =>
      simp only [List.cons_append, Token.stringLength, Token.hasClosingQuote,
        List.length_cons] at hb hc
      split_ifs at hb hc with h1 h2 h3
      · rw [h1, (inString_backslash d).1, (inString_backslash d).2]
        exact @ih true (by omega) hc
      · simp [h3] at hc
      · rw [(inString_other h1 h2 h3).1, (inString_other h1 h2 h3).2]
        exact @ih false (by omega) (by simpa [h3] using hc)

/-! ### Comments -/

lemma run_star {t : Text} (h : t.head? ≠ some '/') (hne : t ≠ []) :
    star.run t = comment.run t ∧ star.signs t = comment.signs t := by
  obtain ⟨c, t, rfl⟩ := List.exists_cons_of_ne_nil hne
  have hc : c ≠ '/' := by simpa using h
  have hstep : star.step c = comment.step c := by simp [step, hc]
  simp [hstep, sign?]

lemma run_comment_cons {c : Char} {t : Text} (hne : t ≠ [])
    (h : ¬ (c = '*' ∧ t.head? = some '/')) :
    comment.run (c :: t) = comment.run t ∧ comment.signs (c :: t) = comment.signs t := by
  by_cases hc : c = '*'
  · subst hc
    exact run_star (fun hs => h ⟨rfl, hs⟩) hne
  · have hstep : comment.step c = comment := by simp [step, hc]
    simp [hstep, sign?]

lemma commentLength_cons {c : Char} {t : Text} (h : ¬ (c = '*' ∧ t.head? = some '/')) :
    Token.commentLength (c :: t) = Token.commentLength t + 1 := by
  rw [Token.commentLength]
  rintro t' rfl heq
  exact h ⟨rfl, by simp [heq]⟩

lemma run_comment {a w : Text} (h : a.length < Token.commentLength (a ++ w)) :
    (comment.run a).isOpen = true ∧ comment.signs a = [] := by
  induction a with
  | nil => exact ⟨rfl, rfl⟩
  | cons c a ih =>
    rcases a with _ | ⟨d, a⟩
    · by_cases hc : c = '*' <;> simp [step, hc, sign?, isOpen]
    · have hgo : ¬ (c = '*' ∧ (d :: a).head? = some '/') := by
        rintro ⟨rfl, hd⟩
        obtain rfl : d = '/' := by simpa using hd
        simp only [List.cons_append, Token.commentLength, List.length_cons] at h
        omega
      obtain ⟨hrun, hsigns⟩ := @run_comment_cons c (d :: a) (by simp) hgo
      rw [hrun, hsigns]
      have hlen := @commentLength_cons c (d :: a ++ w) (by simpa using hgo)
      rw [List.cons_append, hlen] at h
      exact ih (by simpa using h)

lemma suffix_of_cons {c : Char} {cs : Text} (hc : ['*', '/'] <:+ c :: cs)
    (h : ¬ (c = '*' ∧ cs.head? = some '/')) :
    ['*', '/'] <:+ cs ∧ ∀ rest, (cs ++ rest).head? = cs.head? := by
  have hsuffix : ['*', '/'] <:+ cs := by
    rcases List.suffix_cons_iff.mp hc with heq | hcs
    · obtain ⟨rfl, rfl⟩ := List.cons.inj heq
      exact absurd ⟨rfl, rfl⟩ h
    · exact hcs
  refine ⟨hsuffix, fun rest => ?_⟩
  rcases cs with _ | ⟨d, cs⟩
  · simp at hsuffix
  · rfl

lemma run_comment_of_closed {cs rest : Text} (hb : Token.commentLength (cs ++ rest) = cs.length)
    (hc : ['*', '/'] <:+ cs) : comment.run cs = plain ∧ comment.signs cs = [] := by
  induction cs with
  | nil => simp at hc
  | cons c cs ih =>
    by_cases hend : c = '*' ∧ cs.head? = some '/'
    · obtain ⟨rfl, hslash⟩ := hend
      rcases cs with _ | ⟨d, cs⟩
      · simp at hslash
      · obtain rfl : d = '/' := by simpa using hslash
        have hnil : cs = [] := by simpa [Token.commentLength] using hb
        subst hnil
        exact ⟨rfl, rfl⟩
    · obtain ⟨hsuffix, hhead⟩ := suffix_of_cons hc hend
      have hne : cs ≠ [] := by
        rintro rfl
        simp at hsuffix
      obtain ⟨hrun, hsigns⟩ := run_comment_cons hne hend
      have hlen := @commentLength_cons c (cs ++ rest) (by rw [hhead]; exact hend)
      rw [List.cons_append, hlen] at hb
      rw [hrun, hsigns]
      exact ih (by simpa using hb) hsuffix

lemma run_comment_of_not_closed {cs rest : Text}
    (hb : Token.commentLength (cs ++ rest) = cs.length) (hc : ¬ ['*', '/'] <:+ cs) :
    rest = [] ∧ (comment.run cs).isOpen = true ∧ comment.signs cs = [] := by
  induction cs with
  | nil =>
    rcases rest with _ | ⟨c, rest⟩
    · exact ⟨rfl, rfl, rfl⟩
    · exfalso
      simp only [List.nil_append, List.length_nil] at hb
      unfold Token.commentLength at hb
      split at hb <;> simp_all
  | cons c cs ih =>
    by_cases hend : c = '*' ∧ (cs ++ rest).head? = some '/'
    · obtain ⟨rfl, hslash⟩ := hend
      rcases cs with _ | ⟨d, cs⟩
      · rcases rest with _ | ⟨d, rest⟩
        · simp at hslash
        · obtain rfl : d = '/' := by simpa using hslash
          simp [Token.commentLength] at hb
      · obtain rfl : d = '/' := by simpa using hslash
        have hnil : cs = [] := by simpa [Token.commentLength] using hb
        exact absurd (hnil ▸ List.suffix_rfl) hc
    · have hlen := commentLength_cons hend
      rw [List.cons_append, hlen] at hb
      obtain ⟨hrest, hopen, hsigns⟩ := ih (by simpa using hb) fun h =>
        hc (h.trans (List.suffix_cons c cs))
      subst hrest
      refine ⟨rfl, ?_⟩
      rcases cs with _ | ⟨d, cs⟩
      · by_cases hstar : c = '*' <;> simp [step, hstar, sign?, isOpen]
      · obtain ⟨hrun, hsigns'⟩ := @run_comment_cons c (d :: cs) (by simp) (by simpa using hend)
        rw [hrun, hsigns']
        exact ⟨hopen, hsigns⟩

end Mode

/-! ### Tokens -/

/-- What counts of a token of the kind. -/
def TokenKind.sign? : TokenKind → Option Char
  | leftBrace => some '{'
  | rightBrace => some '}'
  | leftParen => some '('
  | rightParen => some ')'
  | leftBracket => some '['
  | rightBracket => some ']'
  | semicolon => some ';'
  | _ => none

namespace Token

/-- A string or a comment with its end, or another token. -/
def Ended (kind : TokenKind) (text : Text) : Prop :=
  (kind = .string → isClosedString text = true) ∧ (kind = .comment → isClosedComment text = true)

lemma isClosedComment_iff {body : Text} :
    isClosedComment ('/' :: '*' :: body) = true ↔ ['*', '/'] <:+ body := by
  simp only [isClosedComment, Bool.and_eq_true, decide_eq_true_eq, List.isSuffixOf_iff_suffix]
  constructor
  · rintro ⟨hsize, hsuffix⟩
    rcases List.suffix_cons_iff.mp hsuffix with h | h
    · exact absurd h (by simp)
    · rcases List.suffix_cons_iff.mp h with h | h
      · obtain rfl : body = ['/'] := (List.cons.inj h).2.symm
        exact absurd hsize (by decide)
      · exact h
  · intro h
    refine ⟨?_, h.trans ((List.suffix_cons _ _).trans (List.suffix_cons _ _))⟩
    obtain ⟨before, rfl⟩ := h
    have hslash : Char.utf8Size '/' = 1 := by decide
    have hstar : Char.utf8Size '*' = 1 := by decide
    simp only [Text.size_cons, Text.size_append, hslash, hstar]
    omega

open Mode

lemma Spelled.read_ended {kind : TokenKind} {text rest : Text} (h : Spelled kind text rest)
    (hc : Ended kind text) :
    plain.signs text = kind.sign?.toList ∧ (plain.run text).Ready rest ∧
      (plain.run text = .escape ↔ kind = .invalid) ∧ (plain.run text = .slash ↔ kind = .slash) := by
  have hplain {t : Text} (ht : ∀ c ∈ t, isPlain c = true) :
      plain.signs t = [] ∧ (plain.run t).Ready rest ∧
        (plain.run t = .escape ↔ False) ∧ (plain.run t = .slash ↔ False) := by
    obtain ⟨hrun, hsigns⟩ := run_plain ht
    rw [hrun]
    exact ⟨hsigns, .inl rfl, by simp, by simp⟩
  cases h with
  | slash hr => exact ⟨rfl, .inr (.inl ⟨rfl, hr⟩), by decide, by decide⟩
  | invalid hr => exact ⟨rfl, .inr (.inr ⟨rfl, hr⟩), by decide, by decide⟩
  | escape hc => exact ⟨rfl, .inl rfl, by simp [begin, step], by simp [begin, step]⟩
  | @string quote body rest hq hb =>
    have hclosed : hasClosingQuote quote false body = true := hc.1 rfl
    obtain ⟨d, rfl, hd, hsign⟩ := exists_inString hq
    obtain ⟨hrun, hsigns⟩ := run_inString_of_closed hb hclosed
    rw [run_cons, signs_cons, hd, hrun, hsigns, hsign]
    exact ⟨rfl, .inl rfl, by simp, by simp⟩
  | @comment body rest hb =>
    obtain ⟨hrun, hsigns⟩ := run_comment_of_closed hb (isClosedComment_iff.mp (hc.2 rfl))
    have hstart : plain.run ('/' :: '*' :: body) = Mode.comment.run body := rfl
    have hsigns' : plain.signs ('/' :: '*' :: body) = Mode.comment.signs body := rfl
    rw [hstart, hsigns', hrun, hsigns]
    exact ⟨rfl, .inl rfl, by simp, by simp⟩
  | @atKeyword c body rest hstart hb hr =>
    have hname := isNameChar_of_isNameStart hstart
    have hall : ∀ d ∈ '@' :: c :: body, isPlain d = true := by
      simp only [List.mem_cons, forall_eq_or_imp]
      exact ⟨by decide, isPlain_of_isNameChar hname, fun d hd => isPlain_of_isNameChar (hb d hd)⟩
    simpa [TokenKind.sign?] using hplain hall
  | whitespace hs hr =>
    simpa [TokenKind.sign?] using hplain fun c hc => isPlain_of_isSpace (hs c hc)
  | word hw hr =>
    simpa [TokenKind.sign?] using hplain fun c hc => isPlain_of_isDelimiter (hw c hc)
  | _ => exact ⟨rfl, .inl rfl, by decide, by decide⟩

lemma Spelled.read_open {kind : TokenKind} {text rest : Text} (h : Spelled kind text rest)
    (hc : ¬ Ended kind text) :
    plain.signs text = [] ∧ (plain.run text).isOpen = true ∧
      (rest = [] ∨ kind = .string ∧ (∃ d, plain.run text = quoted d) ∧ rest.head? = some '\n') := by
  cases h with
  | @string quote body rest hq hb =>
    have hopen : hasClosingQuote quote false body = false := by
      by_contra hclosed
      exact hc ⟨fun _ => by simpa [isClosedString] using hclosed, by simp⟩
    obtain ⟨d, rfl, hd, hsign⟩ := exists_inString hq
    obtain ⟨⟨e, hrun, hrest⟩, hsigns⟩ := run_inString_of_not_closed hb hopen
    rw [run_cons, signs_cons, hd, hrun, hsigns, hsign]
    refine ⟨rfl, by cases e <;> rfl, ?_⟩
    rcases hrest with hrest | ⟨rfl, hrest⟩
    · exact .inl hrest
    · exact .inr ⟨rfl, ⟨d, rfl⟩, hrest⟩
  | @comment body rest hb =>
    have hopen : ¬ ['*', '/'] <:+ body := fun h =>
      hc ⟨by simp, fun _ => isClosedComment_iff.mpr h⟩
    obtain ⟨hrest, hrun, hsigns⟩ := run_comment_of_not_closed hb hopen
    exact ⟨hsigns, hrun, .inl hrest⟩
  | _ => exact absurd ⟨by simp, by simp⟩ hc

/-- A brace inside a token does not count. -/
lemma Spelled.read_prefix {kind : TokenKind} {a b rest : Text}
    (h : Spelled kind (a ++ '{' :: b) rest) (ha : a ≠ []) :
    plain.run a ≠ plain ∧ plain.run a ≠ .slash := by
  obtain ⟨c, a, rfl⟩ := List.exists_cons_of_ne_nil ha
  generalize htext : c :: a ++ '{' :: b = text at h
  have hmem : '{' ∈ text := by simp [← htext]
  -- a brace behind the first character is in a string, a comment or an escape
  cases h with
  | @string quote body rest hq hb =>
    obtain ⟨rfl, hbody⟩ := List.cons.inj htext
    obtain ⟨d, rfl, hd, -⟩ := exists_inString hq
    have hlong : a.length < stringLength (Mode.quote d) false (a ++ ('{' :: b ++ rest)) := by
      have happ : a ++ '{' :: b = body := hbody
      rw [← List.append_assoc, happ, hb, ← happ]
      simp
    obtain ⟨⟨e, hrun⟩, -⟩ := run_inString hlong
    rw [run_cons, hd, hrun]
    cases e <;> simp [inString]
  | @comment body rest hb =>
    obtain ⟨rfl, hbody⟩ := List.cons.inj htext
    rcases a with _ | ⟨d, a⟩
    · exact absurd (List.cons.inj hbody).1 (by decide)
    · obtain ⟨rfl, hbody'⟩ := List.cons.inj hbody
      have hlong : a.length < commentLength (a ++ ('{' :: b ++ rest)) := by
        have happ : a ++ '{' :: b = body := hbody'
        rw [← List.append_assoc, happ, hb, ← happ]
        simp
      obtain ⟨hopen, -⟩ := run_comment hlong
      have hrun : plain.run ('/' :: '*' :: a) = Mode.comment.run a := rfl
      rw [hrun]
      constructor <;> intro h <;> rw [h] at hopen <;> simp [isOpen] at hopen
  | escape hc =>
    obtain ⟨rfl, hbody⟩ := List.cons.inj htext
    rcases a with _ | ⟨d, a⟩
    · decide
    · simp at hbody
  | @atKeyword c' body rest hc hb hr =>
    simp only [List.mem_cons] at hmem
    rcases hmem with h | rfl | h
    · exact absurd h (by decide)
    · exact absurd hc (by decide)
    · exact absurd (hb _ h) (by decide)
  | whitespace hs hr => exact absurd (hs _ hmem) (by decide)
  | word hw hr => exact absurd (hw _ hmem) (by decide)
  | _ => simp at htext

/-! ### Runs of tokens -/

/-- **A text has the signs of its tokens.** -/
theorem signs_textOf {ts : List Token} {out : Text} (hlex : LexesTo ts out)
    (hend : ∀ t ∈ ts, Ended t.kind t.text) {m : Mode} (hm : m.Ready (Piece.textOf ts ++ out)) :
    m.signs (Piece.textOf ts) = ts.filterMap (·.kind.sign?) ∧
      (m.run (Piece.textOf ts)).Ready out := by
  induction ts generalizing m with
  | nil => exact ⟨rfl, hm⟩
  | cons t ts ih =>
    rw [Piece.textOf_cons, List.append_assoc] at hm
    obtain ⟨hrun, hsigns⟩ := hm.eq_plain hlex.1.ne_nil
    obtain ⟨hsign, hready, -⟩ := hlex.1.read_ended (hend t (by simp))
    obtain ⟨hsigns', hrun'⟩ := ih hlex.2 (fun t' ht' => hend t' (by simp [ht'])) hready
    rw [Piece.textOf_cons, signs_append, run_append, hrun, hsigns, hsign, hsigns']
    refine ⟨?_, hrun'⟩
    rw [List.filterMap_cons]
    cases t.kind.sign? <;> rfl

lemma newline_notMem_signs {ts : List Token} (hlex : Lexes ts)
    (hend : ∀ t ∈ ts, t.kind = .string → isClosedString t.text = true) {m : Mode}
    (hm : m.Ready (Piece.textOf ts)) : '\n' ∉ m.signs (Piece.textOf ts) := by
  induction ts generalizing m with
  | nil => simp
  | cons t ts ih =>
    obtain ⟨hrun, hsigns⟩ := hm.eq_plain hlex.1.ne_nil
    rw [Piece.textOf_cons, signs_append, hrun, hsigns]
    by_cases hc : Ended t.kind t.text
    · obtain ⟨hsign, hready, -⟩ := hlex.1.read_ended hc
      have hrest := ih hlex.2 (fun t' ht' => hend t' (by simp [ht'])) hready
      have hmark : '\n' ∉ t.kind.sign?.toList := by cases t.kind <;> decide
      rw [hsign]
      simp [hmark, hrest]
    · obtain ⟨hsign, -, hnil | ⟨hk, -⟩⟩ := hlex.1.read_open hc
      · simp [hsign, hnil]
      · exact absurd ⟨fun _ => hend t (by simp) hk, by simp [hk]⟩ hc

lemma ended_of_signs {ts : List Token} (hlex : Lexes ts) {m : Mode}
    (hm : m.Ready (Piece.textOf ts)) (hn : '\n' ∉ m.signs (Piece.textOf ts))
    (hopen : (m.run (Piece.textOf ts)).isOpen = false) : ∀ t ∈ ts, Ended t.kind t.text := by
  induction ts generalizing m with
  | nil => simp
  | cons t ts ih =>
    obtain ⟨hrun, hsigns⟩ := hm.eq_plain hlex.1.ne_nil
    rw [Piece.textOf_cons, signs_append, hrun, hsigns, List.mem_append, not_or] at hn
    rw [Piece.textOf_cons, run_append, hrun] at hopen
    have hc : Ended t.kind t.text := by
      by_contra hc
      obtain ⟨-, hopen', hnil | ⟨-, ⟨d, hd⟩, hhead⟩⟩ := hlex.1.read_open hc
      · rw [hnil, run_nil, hopen'] at hopen
        cases hopen
      · obtain ⟨rest, hrest⟩ := List.head?_eq_some_iff.mp hhead
        rw [hd, hrest] at hn
        exact hn.2 (by simp [sign?])
    obtain ⟨-, hready, -⟩ := hlex.1.read_ended hc
    intro t' ht'
    rcases List.mem_cons.mp ht' with rfl | ht'
    · exact hc
    · exact ih hlex.2 hready hn.2 hopen t' ht'

lemma Spelled.of_leftBrace {kind : TokenKind} {cs rest : Text}
    (h : Spelled kind ('{' :: cs) rest) : kind = .leftBrace ∧ cs = [] := by
  cases h with
  | leftBrace => exact ⟨rfl, rfl⟩
  | string hq hb => rcases hq with h | h <;> exact absurd h (by decide)
  | whitespace hs hr => exact absurd (hs '{' (by simp)) (by decide)
  | word hw hr => exact absurd (hw '{' (by simp)) (by decide)

/-- **A brace that counts is a token.** What stands before it is a run of tokens. -/
theorem exists_leftBrace {ts : List Token} (hlex : Lexes ts) {m : Mode}
    (hm : m.Ready (Piece.textOf ts)) {text rest : Text}
    (htext : Piece.textOf ts = text ++ '{' :: rest) (hn : '\n' ∉ m.signs text)
    (hrun : m.run text = plain ∨ m.run text = .slash) :
    ∃ as brace bs, ts = as ++ brace :: bs ∧ Piece.textOf as = text ∧ brace.kind = .leftBrace ∧
      brace.text = ['{'] ∧ ∀ a ∈ as, Ended a.kind a.text := by
  induction ts generalizing m text with
  | nil => simp at htext
  | cons t ts ih =>
    obtain ⟨c, cs, hcs⟩ := List.exists_cons_of_ne_nil hlex.1.ne_nil
    have hspell := hlex.1
    by_cases hnil : text = []
    · subst hnil
      rw [Piece.textOf_cons, hcs] at htext
      obtain rfl : c = '{' := (List.cons.inj htext).1
      rw [hcs] at hspell
      obtain ⟨hk, rfl⟩ := hspell.of_leftBrace
      exact ⟨[], t, ts, rfl, rfl, hk, hcs, by simp⟩
    -- a token that the text before the brace begins with
    have hfirst {text' : Text} (happ : text = t.text ++ text')
        (hrest : Piece.textOf ts = text' ++ '{' :: rest) :
        ∃ as brace bs, t :: ts = as ++ brace :: bs ∧ Piece.textOf as = text ∧
          brace.kind = .leftBrace ∧ brace.text = ['{'] ∧ ∀ a ∈ as, Ended a.kind a.text := by
      obtain ⟨heq, hsigns⟩ := hm.eq_plain hlex.1.ne_nil
      rw [happ, signs_append, heq, hsigns, List.mem_append, not_or] at hn
      rw [happ, run_append, heq] at hrun
      have hc : Ended t.kind t.text := by
        by_contra hc
        obtain ⟨-, -, hempty | ⟨-, ⟨d, hd⟩, hhead⟩⟩ := hspell.read_open hc
        · rw [hempty] at hrest
          simp at hrest
        · rcases text' with _ | ⟨e, text'⟩
          · rw [hrest] at hhead
            exact absurd hhead (by simp)
          · rw [hrest, List.cons_append, List.head?_cons, Option.some.injEq] at hhead
            rw [hd, hhead] at hn
            exact hn.2 (by simp [sign?])
      obtain ⟨-, hready, -⟩ := hspell.read_ended hc
      obtain ⟨as, brace, bs, rfl, has, hk, hb, hended⟩ := ih hlex.2 hready hrest hn.2 hrun
      refine ⟨t :: as, brace, bs, rfl, by rw [Piece.textOf_cons, has, happ], hk, hb, ?_⟩
      simpa using ⟨hc, hended⟩
    rw [Piece.textOf_cons] at htext
    rcases List.append_eq_append_iff.mp htext with ⟨text', happ, hrest⟩ | ⟨x, happ, hrest⟩
    · exact hfirst happ hrest
    · rcases x with _ | ⟨d, x⟩
      · exact @hfirst [] (by simpa using happ.symm) (by simpa using hrest.symm)
      · -- the brace would be inside the token
        obtain rfl : '{' = d := (List.cons.inj hrest).1
        have hready : m.Ready (text ++ ('{' :: x ++ Piece.textOf ts)) := by
          rw [← List.append_assoc, ← happ]
          exact hm
        rw [(hready.eq_plain hnil).1] at hrun
        rw [happ] at hspell
        obtain ⟨h1, h2⟩ := hspell.read_prefix hnil
        rcases hrun with h | h
        · exact absurd h h1
        · exact absurd h h2

end Token
end StyleScope
