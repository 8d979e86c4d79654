import Mathlib.Data.List.Chain
import Mathlib.Tactic.Common
import StyleScope.Config.Json
import StyleScope.Tiling

/-!
The grammar of JSON.

A text is cut into white space, marks, strings and words: a string goes to the quote that closes it,
and a word as far as there is nothing else. What is not white space is a lexeme, and a text is JSON
if its lexemes are a value. Lexemes of JSON are cut off the front of any text alike, a word if no
more of a word follows it, so that they can be moved apart.
-/

namespace StyleScope.Json

open JsonReader (isSpace hexDigit?)

/-! ### Cutting a text -/

inductive Kind where
  | space
  | mark
  | string
  | word
  deriving DecidableEq, Repr

def isMark (c : Char) : Bool :=
  c == '{' || c == '}' || c == '[' || c == ']' || c == ':' || c == ','

def isWordChar (c : Char) : Bool := !isSpace c && !isMark c && c != '"'

/-- How many characters of a string follow its opening quote. -/
def stringLength : Text → Nat
  | [] => 0
  | '"' :: _ => 1
  | '\\' :: _ :: t => stringLength t + 2
  | _ :: t => stringLength t + 1

/-- The kind of the piece that begins with `c`, and how many characters of `rest` it takes. -/
def classify (c : Char) (rest : Text) : Kind × Nat :=
  if isSpace c then (.space, 0)
  else if isMark c then (.mark, 0)
  else if c = '"' then (.string, stringLength rest)
  else (.word, (rest.takeWhile isWordChar).length)

def scan (t : Text) : List (Piece Kind) := tile (fun _ => classify) 0 t

/-- A piece that has a meaning, wherever it stands. -/
structure Lexeme where
  kind : Kind
  text : Text
  deriving DecidableEq, Repr

namespace Lexeme

def ofPiece? (p : Piece Kind) : Option Lexeme :=
  if p.kind = .space then none else some ⟨p.kind, p.text⟩

def ofPieces (ps : List (Piece Kind)) : List Lexeme := ps.filterMap ofPiece?

def mark (c : Char) : Lexeme := ⟨.mark, [c]⟩

end Lexeme

def lexemes (t : Text) : List Lexeme := Lexeme.ofPieces (scan t)

/-! ### Values -/

/-- What may follow the opening quote of a string, to its closing quote. -/
def isStringRest : Text → Bool
  | ['"'] => true
  | '\\' :: 'u' :: a :: b :: c :: d :: t =>
    [a, b, c, d].all (fun x => (hexDigit? x).isSome) && isStringRest t
  | '\\' :: e :: t => ['"', '\\', '/', 'b', 'f', 'n', 'r', 't'].contains e && isStringRest t
  | c :: t => c != '"' && c != '\\' && decide (0x20 ≤ c.toNat) && isStringRest t
  | [] => false

def isDigits (t : Text) : Bool := !t.isEmpty && t.all Char.isDigit

/-- What may follow the digits of a number: its exponent, or nothing. -/
def isExponent : Text → Bool
  | [] => true
  | e :: '+' :: t => (e == 'e' || e == 'E') && isDigits t
  | e :: '-' :: t => (e == 'e' || e == 'E') && isDigits t
  | e :: t => (e == 'e' || e == 'E') && isDigits t

/-- What may follow the whole part of a number. -/
def isFraction : Text → Bool
  | '.' :: t => isDigits (t.takeWhile Char.isDigit) && isExponent (t.dropWhile Char.isDigit)
  | t => isExponent t

/-- A number without a sign; only zero begins with a zero. -/
def isUnsigned : Text → Bool
  | '0' :: t => isFraction t
  | c :: t => c.isDigit && isFraction (t.dropWhile Char.isDigit)
  | [] => false

def isNumber : Text → Bool
  | '-' :: t => isUnsigned t
  | t => isUnsigned t

def isLiteral (t : Text) : Bool :=
  t == ['t', 'r', 'u', 'e'] || t == ['f', 'a', 'l', 's', 'e'] || t == ['n', 'u', 'l', 'l']

/-- What a run of lexemes can be. -/
inductive Phrase where
  | value
  /-- The values between the brackets of an array. -/
  | elements
  /-- The names and values between the braces of an object. -/
  | members
  deriving DecidableEq, Repr

/-- The grammar. -/
inductive Written : Phrase → List Lexeme → Prop
  | string {s : Text} (hs : isStringRest s = true) : Written .value [⟨.string, '"' :: s⟩]
  | word {w : Text} (hw : isNumber w = true ∨ isLiteral w = true) : Written .value [⟨.word, w⟩]
  | emptyArray : Written .value [.mark '[', .mark ']']
  | array {ls : List Lexeme} (h : Written .elements ls) :
      Written .value (.mark '[' :: (ls ++ [.mark ']']))
  | emptyObject : Written .value [.mark '{', .mark '}']
  | object {ls : List Lexeme} (h : Written .members ls) :
      Written .value (.mark '{' :: (ls ++ [.mark '}']))
  | element {ls : List Lexeme} (h : Written .value ls) : Written .elements ls
  | elements {ls ms : List Lexeme} (h : Written .value ls) (hms : Written .elements ms) :
      Written .elements (ls ++ .mark ',' :: ms)
  | member {s : Text} {ls : List Lexeme} (hs : isStringRest s = true) (h : Written .value ls) :
      Written .members (⟨.string, '"' :: s⟩ :: .mark ':' :: ls)
  | members {ls ms : List Lexeme} (h : Written .members ls) (hms : Written .members ms) :
      Written .members (ls ++ .mark ',' :: ms)

/-- A text that is JSON. -/
def IsValid (t : Text) : Prop := Written .value (lexemes t)

/-! ### Lexemes of JSON -/

/-- The pieces that JSON is made of. -/
inductive Solid : Kind → Text → Prop
  | space {c : Char} (hc : isSpace c = true) : Solid .space [c]
  | mark {c : Char} (hc : isMark c = true) : Solid .mark [c]
  | string {s : Text} (hs : isStringRest s = true) : Solid .string ('"' :: s)
  | word {c : Char} {w : Text} (hw : ∀ x ∈ c :: w, isWordChar x = true ∧ x ≠ '/') :
      Solid .word (c :: w)

def isNumberChar (c : Char) : Bool :=
  c.isDigit || c == '-' || c == '+' || c == '.' || c == 'e' || c == 'E'

lemma isWordChar_of_isNumberChar {c : Char} (h : isNumberChar c = true) :
    isWordChar c = true ∧ c ≠ '/' := by
  have hall : ∀ x ∈ [' ', '\n', '\t', '\r', '{', '}', '[', ']', ':', ',', '"', '/'],
      isNumberChar x = false := by simp [isNumberChar]
  have hne : ∀ x ∈ [' ', '\n', '\t', '\r', '{', '}', '[', ']', ':', ',', '"', '/'], c ≠ x := by
    rintro x hx rfl
    rw [hall c hx] at h
    cases h
  simpa [isWordChar, isSpace, isMark, and_assoc] using hne

lemma all_of_all_isDigit {t : Text} (h : t.all Char.isDigit = true) :
    t.all isNumberChar = true := by
  refine List.all_eq_true.mpr fun c hc => ?_
  simp [isNumberChar, List.all_eq_true.mp h c hc]

lemma all_of_isDigits {t : Text} (h : isDigits t = true) : t.all isNumberChar = true :=
  all_of_all_isDigit (Bool.and_eq_true_iff.mp h).2

lemma all_of_all_dropWhile {t : Text} (h : (t.dropWhile Char.isDigit).all isNumberChar = true) :
    t.all isNumberChar = true := by
  rw [← @List.takeWhile_append_dropWhile _ Char.isDigit t, List.all_append, h, Bool.and_true]
  exact all_of_all_isDigit List.all_takeWhile

lemma isNumberChar_of_isE {e : Char} (h : (e == 'e' || e == 'E') = true) :
    isNumberChar e = true := by
  rw [isNumberChar, Bool.or_assoc, h, Bool.or_true]

lemma all_of_isExponent (t : Text) : isExponent t = true → t.all isNumberChar = true := by
  fun_cases isExponent t with
  | case1 => exact fun _ => rfl
  | case2 e t | case3 e t =>
    intro h
    obtain ⟨he, ht⟩ := Bool.and_eq_true_iff.mp h
    rw [List.all_cons, List.all_cons, isNumberChar_of_isE he, all_of_isDigits ht]
    rfl
  | case4 e t =>
    intro h
    obtain ⟨he, ht⟩ := Bool.and_eq_true_iff.mp h
    rw [List.all_cons, isNumberChar_of_isE he, all_of_isDigits ht]
    rfl

lemma all_of_isFraction (t : Text) : isFraction t = true → t.all isNumberChar = true := by
  fun_cases isFraction t with
  | case1 t =>
    intro h
    obtain ⟨-, ht⟩ := Bool.and_eq_true_iff.mp h
    rw [List.all_cons, all_of_all_dropWhile (all_of_isExponent _ ht)]
    rfl
  | case2 => exact all_of_isExponent t

lemma all_of_isUnsigned (t : Text) : isUnsigned t = true → t.all isNumberChar = true := by
  fun_cases isUnsigned t with
  | case1 t =>
    intro h
    rw [List.all_cons, all_of_isFraction t h]
    rfl
  | case2 c t =>
    intro h
    obtain ⟨hc, ht⟩ := Bool.and_eq_true_iff.mp h
    rw [List.all_cons, all_of_all_dropWhile (all_of_isFraction _ ht), isNumberChar, hc]
    rfl
  | case3 => exact fun _ => rfl

lemma all_of_isNumber (t : Text) : isNumber t = true → t.all isNumberChar = true := by
  fun_cases isNumber t with
  | case1 t =>
    intro h
    rw [List.all_cons, all_of_isUnsigned t h]
    rfl
  | case2 => exact all_of_isUnsigned t

lemma ne_nil_of_isNumber {t : Text} (h : isNumber t = true) : t ≠ [] := by
  rintro rfl
  exact absurd h (by decide)

lemma solid_of_isNumber {w : Text} (h : isNumber w = true) : Solid .word w := by
  have hall := List.all_eq_true.mp (all_of_isNumber w h)
  obtain ⟨c, w, rfl⟩ := List.exists_cons_of_ne_nil (ne_nil_of_isNumber h)
  exact .word fun x hx => isWordChar_of_isNumberChar (hall x hx)

lemma solid_of_isLiteral {w : Text} (h : isLiteral w = true) : Solid .word w := by
  simp only [isLiteral, Bool.or_eq_true, beq_iff_eq] at h
  rcases h with (rfl | rfl) | rfl
  · exact .word (by simp [isWordChar, isSpace, isMark])
  · exact .word (by simp [isWordChar, isSpace, isMark])
  · exact .word (by simp [isWordChar, isSpace, isMark])

lemma Written.solid {phrase : Phrase} {ls : List Lexeme} (h : Written phrase ls) :
    ∀ l ∈ ls, Solid l.kind l.text := by
  have hmark (c : Char) (hc : isMark c = true) : Solid (Lexeme.mark c).kind (Lexeme.mark c).text :=
    .mark hc
  induction h with
  | string hs => simpa using Solid.string hs
  | word hw =>
    rcases hw with hw | hw
    · simpa using solid_of_isNumber hw
    · simpa using solid_of_isLiteral hw
  | emptyArray => simp [hmark '[' rfl, hmark ']' rfl]
  | emptyObject => simp [hmark '{' rfl, hmark '}' rfl]
  | array _ ih =>
    simp only [List.forall_mem_cons, List.forall_mem_append]
    exact ⟨hmark '[' rfl, ih, hmark ']' rfl, by simp⟩
  | object _ ih =>
    simp only [List.forall_mem_cons, List.forall_mem_append]
    exact ⟨hmark '{' rfl, ih, hmark '}' rfl, by simp⟩
  | element _ ih => exact ih
  | elements _ _ ih ihms | members _ _ ih ihms =>
    simp only [List.forall_mem_cons, List.forall_mem_append]
    exact ⟨ih, hmark ',' rfl, ihms⟩
  | member hs _ ih =>
    simp only [List.forall_mem_cons]
    exact ⟨.string hs, hmark ':' rfl, ih⟩

/-! ### Cutting lexemes off -/

lemma classify_eq_space_iff {c : Char} {rest : Text} :
    (classify c rest).1 = .space ↔ isSpace c = true := by
  unfold classify
  split_ifs <;> simp_all

lemma classify_eq_word_iff {c : Char} {rest : Text} :
    (classify c rest).1 = .word ↔ isWordChar c = true := by
  unfold classify isWordChar
  split_ifs <;> simp_all

lemma classify_of_space {c : Char} (hc : isSpace c = true) (rest : Text) :
    classify c rest = (.space, 0) := by
  rw [classify, if_pos hc]

lemma classify_of_word {c : Char} (hc : isWordChar c = true) (rest : Text) :
    classify c rest = (.word, (rest.takeWhile isWordChar).length) := by
  simp only [isWordChar, Bool.and_eq_true, Bool.not_eq_true', bne_iff_ne] at hc
  rw [classify, if_neg (by simp [hc]), if_neg (by simp [hc]), if_neg hc.2]

lemma isSpace_of_isMark {c : Char} (h : isMark c = true) : isSpace c = false := by
  rw [Bool.eq_false_iff]
  intro hspace
  simp only [isSpace, Bool.or_eq_true, beq_iff_eq] at hspace
  rcases hspace with ((rfl | rfl) | rfl) | rfl <;> exact absurd h (by decide)

lemma stringLength_escape (e : Char) (t : Text) :
    stringLength ('\\' :: e :: t) = stringLength t + 2 := rfl

lemma stringLength_char {c : Char} (hquote : c ≠ '"') (hescape : c ≠ '\\') (t : Text) :
    stringLength (c :: t) = stringLength t + 1 := by
  rw [stringLength]
  · exact hquote
  · exact fun _ _ h _ => hescape h

lemma stringLength_hexDigit {c : Char} (h : (hexDigit? c).isSome = true) (t : Text) :
    stringLength (c :: t) = stringLength t + 1 := by
  apply stringLength_char
  · rintro rfl
    exact absurd h (by decide)
  · rintro rfl
    exact absurd h (by decide)

lemma stringLength_append (s rest : Text) :
    isStringRest s = true → stringLength (s ++ rest) = s.length := by
  fun_induction isStringRest s with
  | case1 => exact fun _ => rfl
  | case2 a b c d t ih =>
    simp only [List.all_cons, List.all_nil, Bool.and_true, Bool.and_eq_true]
    rintro ⟨⟨ha, hb, hc, hd⟩, ht⟩
    simp only [List.cons_append, stringLength_escape, stringLength_hexDigit ha,
      stringLength_hexDigit hb, stringLength_hexDigit hc, stringLength_hexDigit hd, ih ht,
      List.length_cons]
  | case3 e t _ ih =>
    rw [Bool.and_eq_true]
    rintro ⟨-, ht⟩
    rw [List.cons_append, List.cons_append, stringLength_escape, ih ht]
    rfl
  | case4 c t _ _ _ ih =>
    simp only [Bool.and_eq_true, bne_iff_ne]
    rintro ⟨⟨⟨hquote, hescape⟩, -⟩, ht⟩
    rw [List.cons_append, stringLength_char hquote hescape, ih ht]
    rfl
  | case5 => simp

lemma classify_of_solid {kind : Kind} {c : Char} {cs rest : Text} (h : Solid kind (c :: cs))
    (hrest : kind = .word → ∀ x ∈ rest.head?, isWordChar x = false) :
    classify c (cs ++ rest) = (kind, cs.length) := by
  cases h with
  | space hc => exact classify_of_space hc _
  | mark hc => simp [classify, hc, isSpace_of_isMark hc]
  | string hs =>
    have hquote : classify '"' (cs ++ rest) = (.string, stringLength (cs ++ rest)) := rfl
    rw [hquote, stringLength_append cs rest hs]
  | word hw =>
    have hnone : rest.takeWhile isWordChar = [] := by
      cases rest with
      | nil => rfl
      | cons x rest => exact List.takeWhile_cons_of_neg (by simp [hrest rfl x rfl])
    have hrun : (cs ++ rest).takeWhile isWordChar = cs := by
      rw [List.takeWhile_append_of_pos fun x hx => (hw x (List.mem_cons_of_mem c hx)).1, hnone,
        List.append_nil]
    rw [classify_of_word (hw c List.mem_cons_self).1, hrun]

lemma Solid.exists_cons {kind : Kind} {t : Text} (h : Solid kind t) : ∃ c cs, t = c :: cs := by
  cases h with
  | space | mark | string | word => exact ⟨_, _, rfl⟩

lemma Solid.isWordChar_eq_false {kind : Kind} {c : Char} {cs : Text} (h : Solid kind (c :: cs))
    (hkind : kind ≠ .word) : isWordChar c = false := by
  rw [Bool.eq_false_iff]
  intro hc
  have hclass := @classify_of_solid kind c cs [] h (by simp)
  rw [classify_of_word hc] at hclass
  exact hkind (congrArg Prod.fst hclass).symm

/-! ### Pieces -/

namespace Lexeme

lemma ofPieces_append (ps qs : List (Piece Kind)) :
    ofPieces (ps ++ qs) = ofPieces ps ++ ofPieces qs := List.filterMap_append

lemma ofPieces_cons (p : Piece Kind) (ps : List (Piece Kind)) :
    ofPieces (p :: ps) = ofPieces [p] ++ ofPieces ps := ofPieces_append [p] ps

lemma ofPieces_tile (a b : Nat) (t : Text) :
    ofPieces (tile (fun _ => classify) a t) = ofPieces (tile (fun _ => classify) b t) := by
  fun_induction tile (fun _ => classify) a t generalizing b with
  | case1 => rw [tile_nil]
  | case2 a c rest text ih =>
    rw [tile, ofPieces_cons, ofPieces_cons ⟨_, b, _⟩, ih (b + text.size)]
    rfl

end Lexeme

lemma lexemes_append {p : Piece Kind} {rest : Text} (h : Solid p.kind p.text)
    (hrest : p.kind = .word → ∀ x ∈ rest.head?, isWordChar x = false) :
    lexemes (p.text ++ rest) = Lexeme.ofPieces [p] ++ lexemes rest := by
  obtain ⟨kind, start, text⟩ := p
  obtain ⟨c, cs, rfl⟩ := h.exists_cons
  have hclass := classify_of_solid h hrest
  have htake : (cs ++ rest).take (classify c (cs ++ rest)).2 = cs := by
    rw [hclass, List.take_left]
  rw [lexemes, scan, tile_append_of htake, Lexeme.ofPieces_cons, hclass, lexemes, scan,
    Lexeme.ofPieces_tile _ 0]
  rfl

lemma solid_of_space {p : Piece Kind} {offset : Nat} {t : Text}
    (hp : p ∈ tile (fun _ => classify) offset t) (hkind : p.kind = .space) :
    Solid p.kind p.text := by
  fun_induction tile (fun _ => classify) offset t with
  | case1 => simp at hp
  | case2 offset c rest text ih =>
    rcases List.mem_cons.mp hp with rfl | hp
    · have hc := classify_eq_space_iff.mp hkind
      simp only [text, classify_of_space hc, List.take_zero]
      exact .space hc
    · exact ih hp

lemma IsValid.solid {t : Text} (h : IsValid t) : ∀ p ∈ scan t, Solid p.kind p.text := by
  intro p hp
  by_cases hkind : p.kind = .space
  · exact solid_of_space hp hkind
  · have hmem : ⟨p.kind, p.text⟩ ∈ lexemes t :=
      List.mem_filterMap.mpr ⟨p, hp, if_neg hkind⟩
    exact Written.solid h _ hmem

/-- Pieces of which no two words stand side by side. -/
def Apart (ps : List (Piece Kind)) : Prop := ps.IsChain fun p q => p.kind = .word → q.kind ≠ .word

lemma classify_of_mem_head? {p : Piece Kind} {offset : Nat} {t : Text}
    (hp : p ∈ (tile (fun _ => classify) offset t).head?) :
    ∃ c rest, t = c :: rest ∧ p.kind = (classify c rest).1 := by
  cases t with
  | nil => simp at hp
  | cons c rest =>
    rw [tile, List.head?_cons, Option.mem_some_iff] at hp
    exact ⟨c, rest, rfl, hp ▸ rfl⟩

lemma apart_tile (offset : Nat) (t : Text) : Apart (tile (fun _ => classify) offset t) := by
  fun_induction tile (fun _ => classify) offset t with
  | case1 => exact .nil
  | case2 offset c rest text ih =>
    refine List.isChain_cons.mpr ⟨fun q hq hword hq' => ?_, ih⟩
    -- a word takes all it can, so that what comes next begins with another character
    obtain ⟨x, rest', hrest, hkind⟩ := classify_of_mem_head? hq
    rw [hkind, classify_eq_word_iff] at hq'
    have hdrop : rest.drop (rest.takeWhile isWordChar).length = rest.dropWhile isWordChar := by
      nth_rewrite 2 [← @List.takeWhile_append_dropWhile _ isWordChar rest]
      exact List.drop_left
    rw [classify_of_word (classify_eq_word_iff.mp hword), hdrop] at hrest
    have hnot := List.head?_dropWhile_not isWordChar rest
    rw [hrest] at hnot
    simp [hq'] at hnot

lemma lexemes_space {c : Char} (hc : isSpace c = true) (t : Text) :
    lexemes (c :: t) = lexemes t :=
  lexemes_append (p := ⟨.space, 0, [c]⟩) (.space hc) nofun

end StyleScope.Json
