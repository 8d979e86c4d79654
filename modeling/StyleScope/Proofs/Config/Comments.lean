import StyleScope.Config.Comments
import StyleScope.Proofs.Config.Grammar

/-!
Removing comments from JSON.

Between the pieces of a JSON text, any comments may stand. Outside a string a comment is read from
its opening to its end, whatever it holds, and leaves at most a line end; the pieces stay as they
are, because a string is closed where JSON closes it and nothing else has a quote or a slash. In any
text, a slash that stays is followed by the character that followed it before, so that no comment is
made by removing others.
-/

namespace StyleScope.Comments

open Json

/-! ### Reading outside and inside of strings -/

lemma removeFrom_plain_cons {c : Char} {t : Text} (hquote : c ≠ '"')
    (hslash : c = '/' → ∀ x ∈ t.head?, x ≠ '/' ∧ x ≠ '*') :
    removeFrom .plain (c :: t) = c :: removeFrom .plain t := by
  rw [removeFrom]
  · exact hquote
  · rintro t' rfl rfl
    exact (hslash rfl '/' rfl).1 rfl
  · rintro t' rfl rfl
    exact (hslash rfl '*' rfl).2 rfl

lemma removeFrom_plain_append {s : Text} (hs : ∀ c ∈ s, c ≠ '"' ∧ c ≠ '/') (t : Text) :
    removeFrom .plain (s ++ t) = s ++ removeFrom .plain t := by
  induction s with
  | nil => rfl
  | cons c s ih =>
    rw [List.forall_mem_cons] at hs
    rw [List.cons_append, removeFrom_plain_cons hs.1.1 fun h => absurd h hs.1.2, ih hs.2,
      List.cons_append]

lemma removeFrom_string_cons {c : Char} {t : Text} (hquote : c ≠ '"')
    (hescape : ∀ e t', c = '\\' → t = e :: t' → False) :
    removeFrom .string (c :: t) = c :: removeFrom .string t := by
  rw [removeFrom]
  · exact hquote
  · exact hescape

lemma removeFrom_string (t : Text) :
    removeFrom .string t =
      t.take (stringLength t) ++ removeFrom .plain (t.drop (stringLength t)) := by
  fun_induction stringLength t with
  | case1 => rfl
  | case2 t => rfl
  | case3 c t ih =>
    have hescape : removeFrom .string ('\\' :: c :: t) = '\\' :: c :: removeFrom .string t := rfl
    rw [hescape, ih]
    rfl
  | case4 c t hquote hescape ih =>
    rw [removeFrom_string_cons hquote hescape, ih]
    rfl

lemma ne_of_isWordChar_or {c : Char}
    (hc : JsonReader.isSpace c = true ∨ isMark c = true ∨ isWordChar c = true ∧ c ≠ '/') :
    c ≠ '"' ∧ c ≠ '/' := by
  constructor
  · rintro rfl
    exact absurd hc (by decide)
  · rintro rfl
    exact absurd hc (by decide)

lemma removeFrom_solid {kind : Kind} {s : Text} (h : Solid kind s) (t : Text) :
    removeFrom .plain (s ++ t) = s ++ removeFrom .plain t := by
  cases h with
  | space hc =>
    refine removeFrom_plain_append (List.forall_mem_singleton.mpr ?_) t
    exact ne_of_isWordChar_or (.inl hc)
  | mark hc =>
    refine removeFrom_plain_append (List.forall_mem_singleton.mpr ?_) t
    exact ne_of_isWordChar_or (.inr (.inl hc))
  | word hw =>
    refine removeFrom_plain_append (fun c hc => ?_) t
    exact ne_of_isWordChar_or (.inr (.inr (hw c hc)))
  | @string s hs =>
    have hquote : removeFrom .plain ('"' :: s ++ t) = '"' :: removeFrom .string (s ++ t) := rfl
    rw [hquote, removeFrom_string, stringLength_append s t hs, List.take_left, List.drop_left,
      List.cons_append]

/-! ### Comments -/

/-- A comment of JSON. -/
inductive Comment where
  /-- It goes to the end of its line. -/
  | line (body : Text) (h : '\n' ∉ body)
  | block (body : Text) (h : ¬ ['*', '/'] <:+: body)

namespace Comment

/-- How a comment is written; the line end belongs to it. -/
def text : Comment → Text
  | line body _ => '/' :: '/' :: (body ++ ['\n'])
  | block body _ => '/' :: '*' :: (body ++ ['*', '/'])

/-- What stays of a comment. -/
def residue : Comment → Text
  | line _ _ => ['\n']
  | block _ _ => []

end Comment

lemma removeFrom_line {body : Text} (h : '\n' ∉ body) (t : Text) :
    removeFrom .line (body ++ '\n' :: t) = '\n' :: removeFrom .plain t := by
  induction body with
  | nil => rfl
  | cons c body ih =>
    rw [List.mem_cons, not_or] at h
    rw [List.cons_append, removeFrom, ih h.2]
    exact fun hc => h.1 hc.symm

lemma removeFrom_block {body : Text} (h : ¬ ['*', '/'] <:+: body) (t : Text) :
    removeFrom .block (body ++ '*' :: '/' :: t) = removeFrom .plain t := by
  induction body with
  | nil => rfl
  | cons c body ih =>
    rw [List.infix_cons_iff, not_or] at h
    rw [List.cons_append, removeFrom, ih h.2]
    -- the end of a comment has two characters, and does not begin with the second
    rintro t' rfl hbody
    cases body with
    | nil => simp at hbody
    | cons d body =>
      obtain ⟨rfl, -⟩ := List.cons.inj hbody
      exact h.1 ⟨body, rfl⟩

lemma removeFrom_comment (k : Comment) (t : Text) :
    removeFrom .plain (k.text ++ t) = k.residue ++ removeFrom .plain t := by
  cases k with
  | line body h =>
    have hopen : removeFrom .plain ((Comment.line body h).text ++ t) =
        removeFrom .line (body ++ '\n' :: t) := by
      simp [Comment.text, removeFrom]
    rw [hopen, removeFrom_line h]
    rfl
  | block body h =>
    have hopen : removeFrom .plain ((Comment.block body h).text ++ t) =
        removeFrom .block (body ++ '*' :: '/' :: t) := by
      simp [Comment.text, removeFrom]
    rw [hopen, removeFrom_block h]
    rfl

/-- A text that has comments between the pieces. -/
inductive Commented : List (Piece Kind) → Text → Prop
  | nil : Commented [] []
  | piece {ps : List (Piece Kind)} {t : Text} (p : Piece Kind) (h : Commented ps t) :
      Commented (p :: ps) (p.text ++ t)
  | comment {ps : List (Piece Kind)} {t : Text} (k : Comment) (h : Commented ps t) :
      Commented ps (k.text ++ t)

variable {ps : List (Piece Kind)} {t : Text}

lemma remove_textOf (hps : ∀ p ∈ ps, Solid p.kind p.text) :
    remove (Piece.textOf ps) = Piece.textOf ps := by
  induction ps with
  | nil => rfl
  | cons p ps ih =>
    rw [List.forall_mem_cons] at hps
    rw [Piece.textOf_cons, remove, removeFrom_solid hps.1, ← remove, ih hps.2]

lemma head_remove (h : Commented ps t) (hps : ∀ p ∈ ps, Solid p.kind p.text)
    (hword : ∀ p ∈ ps.head?, p.kind ≠ .word) : ∀ x ∈ (remove t).head?, isWordChar x = false := by
  induction h with
  | nil => simp [remove, removeFrom]
  | piece p h ih =>
    have hp := hps p List.mem_cons_self
    obtain ⟨c, cs, htext⟩ := hp.exists_cons
    rw [remove, removeFrom_solid hp, htext]
    rintro x ⟨rfl⟩
    exact (htext ▸ hp).isWordChar_eq_false (hword p rfl)
  | comment k h ih =>
    rw [remove, removeFrom_comment]
    cases k with
    | line body _ =>
      rintro x ⟨rfl⟩
      rfl
    | block body _ => exact ih hps hword

/-- **The lexemes of a commented text without its comments are those of the text.** -/
lemma lexemes_remove (h : Commented ps t) (hps : ∀ p ∈ ps, Solid p.kind p.text)
    (hapart : Apart ps) : lexemes (remove t) = Lexeme.ofPieces ps := by
  induction h with
  | nil => simp [remove, removeFrom, lexemes, scan]
  | @piece ps t p h ih =>
    obtain ⟨hp, hps⟩ := List.forall_mem_cons.mp hps
    obtain ⟨hnext, hapart⟩ := List.isChain_cons.mp hapart
    have hhead (hword : p.kind = .word) : ∀ x ∈ (remove t).head?, isWordChar x = false :=
      head_remove h hps fun q hq => hnext q hq hword
    rw [remove, removeFrom_solid hp, ← remove, lexemes_append hp hhead, ih hps hapart,
      ← Lexeme.ofPieces_cons]
  | @comment ps t k h ih =>
    rw [remove, removeFrom_comment, ← remove]
    cases k with
    | line body _ =>
      have hspace : lexemes ('\n' :: remove t) = lexemes (remove t) := lexemes_space rfl (remove t)
      exact hspace.trans (ih hps hapart)
    | block body _ => exact ih hps hapart

/-! ### Any text -/

/-- The mode in which what stays of a text is read again. -/
def Mode.again : Mode → Mode
  | .string => .string
  | _ => .plain

lemma head?_removeFrom_plain {t : Text} (h : t.head? ≠ some '/') :
    (removeFrom .plain t).head? = t.head? := by
  cases t with
  | nil => rfl
  | cons c t =>
    by_cases hquote : c = '"'
    · subst hquote
      rfl
    · rw [removeFrom_plain_cons hquote fun hslash => absurd (hslash ▸ rfl) h]
      rfl

lemma removeFrom_removeFrom (mode : Mode) (t : Text) :
    removeFrom mode.again (removeFrom mode t) = removeFrom mode t := by
  fun_induction removeFrom mode t with
  | case1 => simp [removeFrom]
  | case2 t ih => exact congrArg ('"' :: ·) ih
  | case3 t ih | case4 t ih => exact ih
  | case5 c t hquote hline hblock ih =>
    -- after a slash comes what came after it before
    have hslash (hc : c = '/') : ∀ x ∈ (removeFrom .plain t).head?, x ≠ '/' ∧ x ≠ '*' := by
      have hnot : t.head? ≠ some '/' := by
        intro hhead
        obtain ⟨t', rfl⟩ := List.head?_eq_some_iff.mp hhead
        exact hline t' hc rfl
      rw [head?_removeFrom_plain hnot]
      intro x hx
      obtain ⟨t', rfl⟩ := List.head?_eq_some_iff.mp hx
      exact ⟨fun hx => hline t' hc (hx ▸ rfl), fun hx => hblock t' hc (hx ▸ rfl)⟩
    exact (removeFrom_plain_cons hquote hslash).trans (congrArg (c :: ·) ih)
  | case6 t ih => exact congrArg ('"' :: ·) ih
  | case7 c t ih => exact congrArg ('\\' :: c :: ·) ih
  | case8 c t hquote hescape ih =>
    have hend (e : Char) (t' : Text) (hc : c = '\\') (ht : removeFrom .string t = e :: t') :
        False := by
      cases t with
      | nil => simp [removeFrom] at ht
      | cons e t => exact hescape e t hc rfl
    exact (removeFrom_string_cons hquote hend).trans (congrArg (c :: ·) ih)
  | case9 t ih => exact congrArg ('\n' :: ·) ih
  | case10 c t _ ih | case11 t ih | case12 c t _ ih => exact ih

/-- Whether a text that is entered inside or outside a string ends inside one. -/
def endsInside : Bool → Text → Bool
  | inside, [] => inside
  | false, '"' :: t => endsInside true t
  | false, _ :: t => endsInside false t
  | true, '"' :: t => endsInside false t
  | true, '\\' :: _ :: t => endsInside true t
  | true, _ :: t => endsInside true t

def Mode.ofInside (inside : Bool) : Mode := if inside then .string else .plain

lemma length_removeFrom_le (mode : Mode) (t : Text) :
    (removeFrom mode t).length ≤ t.length := by
  fun_induction removeFrom mode t <;> simp only [List.length_cons, List.length_nil] at * <;> omega

lemma of_removeFrom_plain_eq {c : Char} {t : Text} (hquote : c ≠ '"')
    (h : removeFrom .plain (c :: t) = c :: t) :
    (c = '/' → ∀ x ∈ t.head?, x ≠ '/' ∧ x ≠ '*') ∧ removeFrom .plain t = t := by
  have hslash : c = '/' → ∀ x ∈ t.head?, x ≠ '/' ∧ x ≠ '*' := by
    rintro rfl x hx
    obtain ⟨t', rfl⟩ := List.head?_eq_some_iff.mp hx
    constructor
    · rintro rfl
      have hle := length_removeFrom_le .line t'
      have hline : removeFrom .line t' = '/' :: '/' :: t' := h
      rw [hline, List.length_cons, List.length_cons] at hle
      omega
    · rintro rfl
      have hle := length_removeFrom_le .block t'
      have hblock : removeFrom .block t' = '/' :: '*' :: t' := h
      rw [hblock, List.length_cons, List.length_cons] at hle
      omega
  rw [removeFrom_plain_cons hquote hslash] at h
  exact ⟨hslash, List.tail_eq_of_cons_eq h⟩

lemma endsInside_of_removeFrom_eq {inside : Bool} {before after : Text} {mark : Char}
    (hmark : mark = '/' ∨ mark = '*')
    (h : removeFrom (.ofInside inside) (before ++ '/' :: mark :: after) =
      before ++ '/' :: mark :: after) : endsInside inside before = true := by
  fun_induction endsInside inside before with
  | case1 inside =>
    cases inside with
    | true => rfl
    | false =>
      have hnot := (of_removeFrom_plain_eq (by decide) h).1 rfl mark rfl
      exact absurd hmark (not_or.mpr hnot)
  | case2 t ih | case4 t ih => exact ih (List.tail_eq_of_cons_eq h)
  | case3 c t hquote ih => exact ih (of_removeFrom_plain_eq hquote h).2
  | case5 c t ih => exact ih (List.tail_eq_of_cons_eq (List.tail_eq_of_cons_eq h))
  | case6 c t hquote hescape ih =>
    cases t with
    | nil => rfl
    | cons e t =>
      have hchar := @removeFrom_string_cons c (e :: t ++ '/' :: mark :: after) hquote
        fun _ _ hc _ => hescape e t hc rfl
      exact ih (List.tail_eq_of_cons_eq (hchar.symm.trans h))

/-- **Comments between the lexemes of JSON are removed, and nothing else.** Whatever comments are
put between the pieces of a JSON text, removing them gives a text with the same lexemes, each
string among them as it was written; a JSON text itself stays as it is. From any text at all,
removing comments twice takes away no more than removing them once, and leaves no opening of a
comment outside of strings. -/
theorem lexemes_remove_commented :
    (∀ j, IsValid j →
      remove j = j ∧ ∀ t, Commented (scan j) t → lexemes (remove t) = lexemes j) ∧
    ∀ t, remove (remove t) = remove t ∧
      ∀ before mark after, remove t = before ++ '/' :: mark :: after → mark = '/' ∨ mark = '*' →
        endsInside false before = true := by
  constructor
  · intro j hj
    have hsolid := hj.solid
    refine ⟨?_, fun t ht => lexemes_remove ht hsolid (apart_tile 0 j)⟩
    have hstays := remove_textOf hsolid
    rwa [scan, textOf_tile] at hstays
  · intro t
    have hagain : remove (remove t) = remove t := removeFrom_removeFrom .plain t
    refine ⟨hagain, fun before mark after ht hmark => ?_⟩
    rw [ht] at hagain
    exact @endsInside_of_removeFrom_eq false before after mark hmark hagain

/-- Comments with quotes, braces and openings in them, beside each other and at both ends, around
strings that have openings too. -/
theorem lexemes_remove_commented_of_quotes :
    let j := "\x7b\"a//\": [1, \"\\\"/*\"]\x7d".toList
    let t := "/*/\"\x7b*/\x7b\"a//\"/***///\\\"\x7d\n: [1, \"\\\"/*\"/* // */]\x7d// /*\n".toList
    IsValid j ∧ Commented (scan j) t ∧ remove j = j ∧ lexemes (remove t) = lexemes j := by
  intro j t
  have hscan : scan j =
      [⟨.mark, 0, ['{']⟩, ⟨.string, 1, '"' :: "a//\"".toList⟩, ⟨.mark, 6, [':']⟩,
        ⟨.space, 7, [' ']⟩, ⟨.mark, 8, ['[']⟩, ⟨.word, 9, ['1']⟩, ⟨.mark, 10, [',']⟩,
        ⟨.space, 11, [' ']⟩, ⟨.string, 12, '"' :: "\\\"/*\"".toList⟩, ⟨.mark, 18, [']']⟩,
        ⟨.mark, 19, ['}']⟩] := by decide +kernel
  have hj : IsValid j := by
    rw [IsValid, lexemes, hscan]
    exact .object (.member rfl (.array (.elements (.word (w := ['1']) (.inl rfl))
      (.element (.string (s := "\\\"/*\"".toList) rfl)))))
  have hcongr {ps : List (Piece Kind)} {u : Text} (h : Commented ps u) (hu : u = t) :
      Commented ps t := hu ▸ h
  have ht : Commented (scan j) t := by
    rw [hscan]
    exact hcongr (.comment (.block "/\"\x7b".toList (by decide +kernel)) <| .piece _ <| .piece _ <|
      .comment (.block ['*'] (by decide)) <|
      .comment (.line "\\\"\x7d".toList (by decide +kernel)) <|
      .piece _ <| .piece _ <| .piece _ <| .piece _ <| .piece _ <| .piece _ <| .piece _ <|
      .comment (.block " // ".toList (by decide +kernel)) <| .piece _ <| .piece _ <|
      .comment (.line " /*".toList (by decide +kernel)) .nil) (by decide +kernel)
  have hremove := lexemes_remove_commented.1 j hj
  exact ⟨hj, ht, hremove.1, hremove.2 t ht⟩

end StyleScope.Comments
