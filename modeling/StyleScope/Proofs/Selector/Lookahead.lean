import StyleScope.Proofs.Token.Lexeme
import StyleScope.Selector.Component

/-!
How far a component looks ahead.

The rule that cuts a selector into components measures identifiers, arguments, comments and runs
of spaces. None of these measures sees more than two characters past what it measures, and what
has reached the end of the text sees that it has. So a component stays what it is when the text
behind it is changed beyond those two characters.
-/

namespace StyleScope

namespace Text

/-! ### Texts that begin alike -/

/-- The texts agree in their first `n` characters, or are both shorter and equal. -/
def Agree (n : Nat) (t t' : Text) : Prop := t.take n = t'.take n

namespace Agree

variable {m n : Nat} {c : Char} {t t' : Text}

lemma mono (h : Agree n t t') (hle : m ≤ n) : Agree m t t' := by
  have htake := congrArg (List.take m) h
  rwa [List.take_take, List.take_take, Nat.min_eq_left hle] at htake

lemma nil (h : Agree (n + 1) [] t') : t' = [] := by
  cases t' with
  | nil => rfl
  | cons c t' => simp [Agree] at h

lemma cons (h : Agree (n + 1) (c :: t) t') : ∃ u, t' = c :: u ∧ Agree n t u := by
  cases t' with
  | nil => simp [Agree] at h
  | cons d u =>
    obtain ⟨rfl, hu⟩ : c = d ∧ t.take n = u.take n := by simpa [Agree] using h
    exact ⟨u, rfl, hu⟩

lemma cons_cons (h : Agree n t t') : Agree (n + 1) (c :: t) (c :: t') := by
  simpa [Agree] using h

lemma drop (h : Agree (m + n) t t') : Agree n (t.drop m) (t'.drop m) := by
  have hdrop := congrArg (List.drop m) h
  simpa [Agree, List.drop_take] using hdrop

lemma head? (h : Agree (n + 1) t t') : t'.head? = t.head? := by
  cases t with
  | nil => rw [h.nil]
  | cons c t =>
    obtain ⟨u, rfl, -⟩ := h.cons
    rfl

lemma tail (h : Agree (n + 1) t t') : Agree n t.tail t'.tail := by
  simpa using drop (m := 1) (h.mono (by omega))

lemma take_append (h : Agree (m + 1) (t.drop n) t') :
    Agree (n + (m + 1)) t (t.take n ++ t') := by
  induction n generalizing t with
  | zero => simpa using h
  | succ n ih =>
    cases t with
    | nil =>
      rw [List.drop_nil] at h
      rw [h.nil]
      rfl
    | cons c t =>
      rw [Nat.add_right_comm]
      exact (ih h).cons_cons

end Agree

/-- A measure that sees at most `k` characters past what it measures. -/
def LooksAhead (k : Nat) (f : Text → Nat) : Prop := ∀ t t', Agree (f t + k) t t' → f t' = f t

lemma LooksAhead.mono {k k' : Nat} {f : Text → Nat} (h : LooksAhead k f) (hle : k ≤ k') :
    LooksAhead k' f :=
  fun t t' hagree => h t t' (hagree.mono (Nat.add_le_add_left hle _))

/-- Induction over a text in which a backslash takes the character after it along. -/
@[elab_as_elim]
theorem escapeInduction {motive : Text → Prop} (nil : motive []) (lone : motive ['\\'])
    (escape : ∀ c t, motive t → motive ('\\' :: c :: t))
    (cons : ∀ c t, c ≠ '\\' → motive t → motive (c :: t)) : ∀ t, motive t
  | [] => nil
  | [c] => by
    by_cases hc : c = '\\'
    · exact hc ▸ lone
    · exact cons c [] hc nil
  | c :: d :: t => by
    by_cases hc : c = '\\'
    · exact hc ▸ escape d t (escapeInduction nil lone escape cons t)
    · exact cons c (d :: t) hc (escapeInduction nil lone escape cons (d :: t))

end Text

namespace Token

open Text (Agree LooksAhead)

lemma looksAhead_runLength (p : Char → Bool) : LooksAhead 1 (runLength p) := by
  intro t
  induction t with
  | nil =>
    intro t' h
    rw [h.nil]
  | cons c t ih =>
    intro t' h
    obtain ⟨u, rfl, hu⟩ := h.cons
    by_cases hc : p c = true
    · have hcons (v : Text) : runLength p (c :: v) = runLength p v + 1 := by
        simp [runLength, hc]
      rw [hcons] at hu
      rw [hcons, hcons, ih u hu]
    · simp [runLength, hc]

lemma looksAhead_commentLength : LooksAhead 1 commentLength := by
  intro t
  fun_induction commentLength t with
  | case1 =>
    intro t' h
    rw [h.nil]
    rfl
  | case2 t =>
    intro t' h
    obtain ⟨u, rfl, hu⟩ := h.cons
    obtain ⟨v, rfl, -⟩ := hu.cons
    rfl
  | case3 c t hnot ih =>
    intro t' h
    obtain ⟨u, rfl, hu⟩ := h.cons
    rw [commentLength, ih u hu]
    -- an end of the comment would be seen in both texts
    rintro v rfl rfl
    have hhead := hu.head?
    cases t with
    | nil => simp at hhead
    | cons d t =>
      obtain rfl : '/' = d := by simpa using hhead
      exact hnot t rfl rfl

end Token

namespace Component

open Text (Agree LooksAhead)
open Token (isSpace runLength commentLength looksAhead_runLength looksAhead_commentLength)

/-! ### Measures -/

lemma identLength_cons {c : Char} (hc : c ≠ '\\') (t : Text) :
    identLength (c :: t) = if isIdentChar c then identLength t + 1 else 0 := by
  rw [identLength.eq_def]
  simp [hc]

lemma looksAhead_identLength : LooksAhead 1 identLength := by
  intro t
  induction t using Text.escapeInduction with
  | nil =>
    intro t' h
    rw [h.nil]
  | lone =>
    intro t' h
    obtain ⟨u, rfl, hu⟩ := h.cons
    rw [hu.nil]
  | escape c t ih =>
    intro t' h
    obtain ⟨u, rfl, hu⟩ := h.cons
    obtain ⟨v, rfl, hv⟩ := hu.cons
    rw [identLength, identLength, ih v hv]
  | cons c t hc ih =>
    intro t' h
    obtain ⟨u, rfl, hu⟩ := h.cons
    rw [identLength_cons hc] at hu
    rw [identLength_cons hc, identLength_cons hc]
    split_ifs at hu ⊢
    · rw [ih u hu]
    · rfl

lemma balancedLength_cons {c : Char} (hc : c ≠ '\\') (opener closer : Char) (depth : Nat)
    (quote : Option Char) :
    (∀ t, balancedLength opener closer depth quote (c :: t) = 1) ∨
      ∃ depth' quote', ∀ t, balancedLength opener closer depth quote (c :: t) =
        balancedLength opener closer depth' quote' t + 1 := by
  have hcons (t : Text) : balancedLength opener closer depth quote (c :: t) =
      if quote = some c then balancedLength opener closer depth none t + 1
      else if quote.isSome then balancedLength opener closer depth quote t + 1
      else if c = '"' || c = '\'' then balancedLength opener closer depth (some c) t + 1
      else if c = opener then balancedLength opener closer (depth + 1) quote t + 1
      else if c = closer then
        if depth ≤ 1 then 1 else balancedLength opener closer (depth - 1) quote t + 1
      else balancedLength opener closer depth quote t + 1 := by
    rw [balancedLength.eq_def]
    simp [hc]
  simp only [hcons]
  split_ifs
  case pos => exact .inr ⟨_, _, fun _ => rfl⟩
  case pos => exact .inr ⟨_, _, fun _ => rfl⟩
  case pos => exact .inr ⟨_, _, fun _ => rfl⟩
  case pos => exact .inr ⟨_, _, fun _ => rfl⟩
  case pos => exact .inl fun _ => rfl
  case neg => exact .inr ⟨_, _, fun _ => rfl⟩
  case neg => exact .inr ⟨_, _, fun _ => rfl⟩

lemma looksAhead_balancedLength (opener closer : Char) (depth : Nat) (quote : Option Char) :
    LooksAhead 1 (balancedLength opener closer depth quote) := by
  intro t
  induction t using Text.escapeInduction generalizing depth quote with
  | nil =>
    intro t' h
    rw [h.nil]
  | lone =>
    intro t' h
    obtain ⟨u, rfl, hu⟩ := h.cons
    rw [hu.nil]
  | escape c t ih =>
    intro t' h
    obtain ⟨u, rfl, hu⟩ := h.cons
    obtain ⟨v, rfl, hv⟩ := hu.cons
    rw [balancedLength, balancedLength, ih depth quote v hv]
  | cons c t hc ih =>
    intro t' h
    obtain ⟨u, rfl, hu⟩ := h.cons
    rcases balancedLength_cons hc opener closer depth quote with hend | ⟨depth', quote', hgo⟩
    · rw [hend, hend]
    · rw [hgo] at hu
      rw [hgo, hgo, ih depth' quote' u hu]

lemma barLength_eq (t : Text) :
    barLength t = if t.head? = some '|' ∧ t.tail.head? ≠ some '|' then 1 else 0 := by
  unfold barLength
  split <;> simp_all [List.head?_eq_some_iff]

lemma barLength_congr {t t' : Text} (h : Agree 2 t t') : barLength t' = barLength t := by
  rw [barLength_eq, barLength_eq, h.head?, h.tail.head?]

lemma combinatorLength_eq (t : Text) :
    combinatorLength t =
      if t.head? = some '>' ∨ t.head? = some '+' ∨ t.head? = some '~' then
        runLength isSpace t.tail + 1
      else if t.head? = some '|' ∧ t.tail.head? = some '|' then
        runLength isSpace t.tail.tail + 2
      else 0 := by
  rcases t with _ | ⟨c, _ | ⟨d, t⟩⟩
  all_goals
    unfold combinatorLength
    split <;> simp_all

lemma looksAhead_combinatorLength : LooksAhead 2 combinatorLength := by
  intro t t' h
  have hagree : Agree 2 t t' := h.mono (by omega)
  rw [combinatorLength_eq t] at h
  rw [combinatorLength_eq, combinatorLength_eq, hagree.head?, hagree.tail.head?]
  split_ifs at h ⊢ with hone htwo
  · rw [looksAhead_runLength isSpace _ _ (h.mono (by omega)).tail]
  · rw [looksAhead_runLength isSpace _ _ (h.mono (by omega)).tail.tail]
  · rfl

lemma looksAhead_argumentLength : LooksAhead 1 argumentLength := by
  have heq (t : Text) : argumentLength t =
      if t.head? = some '(' then balancedLength '(' ')' 0 none t else 0 := by
    unfold argumentLength
    split <;> simp_all [List.head?_eq_some_iff]
  intro t t' h
  have hagree : Agree 1 t t' := h.mono (by omega)
  rw [heq t] at h
  rw [heq, heq, hagree.head?]
  split_ifs at h ⊢
  · exact looksAhead_balancedLength _ _ _ _ t t' h
  · rfl

lemma looksAhead_functionLength : LooksAhead 1 functionLength := by
  intro t t' h
  rw [functionLength] at h
  have hident : identLength t' = identLength t := looksAhead_identLength t t' (h.mono (by omega))
  rw [functionLength, functionLength, hident]
  rw [Nat.add_assoc] at h
  rw [looksAhead_argumentLength _ _ h.drop]

lemma looksAhead_universalLength : LooksAhead 2 universalLength := by
  have heq (t : Text) : universalLength t =
      if barLength t = 0 then 0
      else if identLength t.tail = 0 ∧ t.tail.head? = some '*' then 2
      else identLength t.tail + 1 := by
    simp only [universalLength, List.drop_one]
    split_ifs with hbar hstar
    · rfl
    · obtain ⟨name, hname⟩ := List.head?_eq_some_iff.mp hstar.2
      rw [hname] at hstar ⊢
      rw [hstar.1]
      rfl
    · split
      · next hzero heq => simp_all
      · rfl
  intro t t' h
  have hagree : Agree 2 t t' := h.mono (by omega)
  rw [heq t] at h
  rw [heq, heq, barLength_congr hagree]
  split_ifs at h with hbar hstar
  · rw [if_pos hbar, if_pos hbar]
  · rw [hagree.tail.head?, looksAhead_identLength _ _ (h.mono (by omega)).tail]
  · rw [hagree.tail.head?, looksAhead_identLength _ _ (h.mono (by omega)).tail]

/-! ### Components -/

/-- The component that begins with a name: a type, or with a bar behind the name a type or
everything in a namespace. -/
def nameAt (t : Text) : ComponentKind × Nat :=
  if identLength t = 0 then (.other, 0)
  else if barLength (t.drop (identLength t)) = 0 then (.typeName, identLength t - 1)
  else if (t.drop (identLength t)).tail.head? = some '*' then (.universal, identLength t + 1)
  else (.typeName, identLength t + identLength (t.drop (identLength t)).tail)

lemma nameAt_kind (t : Text) : (nameAt t).1 ∈ [.typeName, .universal, .other] := by
  unfold nameAt
  split_ifs <;> simp

/-- The characters that tell the kind of the component they begin. -/
def signs : List Char := ['>', '+', '~', '.', '#', '[', ':', '&', ',', '*']

lemma classify_other {c : Char} (h : c ∉ signs) (rest : Text) :
    classify c rest =
      if isSpace c then
        if (rest.drop (runLength isSpace rest)).head? = some ',' then
          (.whitespace, runLength isSpace rest)
        else (.combinator, runLength isSpace rest +
          combinatorLength (rest.drop (runLength isSpace rest)))
      else if combinatorLength (c :: rest) ≠ 0 then
        (.combinator, combinatorLength (c :: rest) - 1)
      else if c = '/' ∧ rest.head? = some '*' then (.comment, commentLength rest.tail + 1)
      else nameAt (c :: rest) := by
  unfold classify
  split
  case h_11 =>
    rw [nameAt]
    simp only [Bool.and_eq_true, decide_eq_true_eq, List.drop_one]
    congr 1
    · generalize rest.drop (runLength isSpace rest) = t
      split <;> simp_all [List.head?_eq_some_iff]
    · congr 4
      generalize (List.drop (identLength (c :: rest)) (c :: rest)).tail = t
      split <;> simp_all [List.head?_eq_some_iff]
  all_goals simp [signs] at h

lemma classify_of_isSpace {c : Char} (hc : isSpace c = true) (rest : Text) :
    classify c rest =
      if (rest.drop (runLength isSpace rest)).head? = some ',' then
        (.whitespace, runLength isSpace rest)
      else (.combinator, runLength isSpace rest +
        combinatorLength (rest.drop (runLength isSpace rest))) := by
  have hnotMem : c ∉ signs := Text.notMem_of_all (p := isSpace) (by decide) hc
  rw [classify_other hnotMem, if_pos hc]

lemma identLength_le_nameAt (t : Text) : identLength t ≤ (nameAt t).2 + 1 := by
  unfold nameAt
  split_ifs <;> simp only <;> omega

/-- A name sees what ends it, and behind a bar what ends the name there. -/
lemma nameAt_congr {t t' : Text} (h : Agree ((nameAt t).2 + 3) t t') : nameAt t' = nameAt t := by
  have hle := identLength_le_nameAt t
  have hdrop : Agree 2 (t.drop (identLength t)) (t'.drop (identLength t)) :=
    Agree.drop (h.mono (by omega))
  unfold nameAt at h ⊢
  rw [looksAhead_identLength t t' (h.mono (by unfold nameAt at hle; omega)),
    barLength_congr hdrop, hdrop.tail.head?]
  split_ifs at h ⊢
  · rfl
  · rfl
  · rfl
  · simp only [Nat.add_assoc] at h
    rw [looksAhead_identLength _ _ (h.drop.mono (by omega)).tail]

lemma classify_congr_of_isSpace {c : Char} (hc : isSpace c = true) {rest rest' : Text}
    (h : Agree ((classify c rest).2 + 2) rest rest') : classify c rest' = classify c rest := by
  rw [classify_of_isSpace hc] at h
  rw [classify_of_isSpace hc, classify_of_isSpace hc]
  have hrun : runLength isSpace rest' = runLength isSpace rest := by
    refine looksAhead_runLength isSpace rest rest' (h.mono ?_)
    split_ifs <;> simp only <;> omega
  rw [hrun]
  split_ifs at h with hcomma
  · rw [if_pos hcomma, h.drop.head?, if_pos hcomma]
  · simp only [Nat.add_assoc] at h
    rw [if_neg hcomma, h.drop.head?, if_neg hcomma,
      looksAhead_combinatorLength _ _ h.drop]

lemma classify_congr_of_not_isSpace {c : Char} (hc : c ∉ signs) (hspace : ¬ isSpace c = true)
    {rest rest' : Text} (h : Agree ((classify c rest).2 + 2) rest rest') :
    classify c rest' = classify c rest := by
  rw [classify_other hc, if_neg hspace] at h
  rw [classify_other hc, classify_other hc, if_neg hspace, if_neg hspace]
  by_cases hzero : combinatorLength (c :: rest) = 0
  · have hagree : Agree 2 (c :: rest) (c :: rest') := (h.mono (by omega)).cons_cons
    have hzero' : combinatorLength (c :: rest') = 0 := by
      rw [looksAhead_combinatorLength _ _ (hagree.mono (by omega)), hzero]
    rw [if_neg (not_not.mpr hzero)] at h
    rw [if_neg (not_not.mpr hzero), if_neg (not_not.mpr hzero'), h.head?]
    split_ifs at h ⊢ with hcomment
    · rw [looksAhead_commentLength _ _ (h.mono (by simp only; omega)).tail]
    · exact nameAt_congr h.cons_cons
  · rw [if_pos hzero] at h
    rw [looksAhead_combinatorLength _ _ (h.cons_cons.mono (by simp only; omega)),
      if_pos hzero, if_pos hzero]

lemma classify_colon (rest : Text) : classify ':' rest =
    if rest.head? = some ':' then (.pseudoElement, functionLength rest.tail + 1)
    else (.pseudoClass, functionLength rest) := by
  cases rest with
  | nil => rfl
  | cons d t =>
    by_cases hd : d = ':'
    · subst hd
      rfl
    · simp [classify, hd]

/-- **A component sees at most two characters behind it.** -/
theorem classify_congr {c : Char} {rest rest' : Text}
    (h : Agree ((classify c rest).2 + 2) rest rest') : classify c rest' = classify c rest := by
  have hrun : LooksAhead 2 (runLength isSpace) := (looksAhead_runLength isSpace).mono (by decide)
  have hident : LooksAhead 2 identLength := looksAhead_identLength.mono (by decide)
  by_cases hc : c ∈ signs
  · simp only [signs, List.mem_cons, List.not_mem_nil, or_false] at hc
    -- three combinators, a class and an id, an attribute, a pseudo-class, then the single signs
    rcases hc with rfl | rfl | rfl | rfl | rfl | rfl | rfl | rfl | rfl | rfl
    · exact congrArg (Prod.mk _) (hrun rest rest' h)
    · exact congrArg (Prod.mk _) (hrun rest rest' h)
    · exact congrArg (Prod.mk _) (hrun rest rest' h)
    · exact congrArg (Prod.mk _) (hident rest rest' h)
    · exact congrArg (Prod.mk _) (hident rest rest' h)
    · have hopen (t : Text) : balancedLength '[' ']' 0 none ('[' :: t) - 1 =
          balancedLength '[' ']' 1 none t := by simp [balancedLength]
      simp only [classify, hopen] at h ⊢
      rw [looksAhead_balancedLength _ _ _ _ _ _ (h.mono (by omega))]
    · rw [classify_colon] at h
      rw [classify_colon, classify_colon, h.head?]
      split_ifs at h ⊢
      · rw [looksAhead_functionLength _ _ (h.mono (by simp only; omega)).tail]
      · rw [looksAhead_functionLength _ _ (h.mono (by simp only; omega))]
    · rfl
    · rfl
    · exact congrArg (Prod.mk _) (looksAhead_universalLength rest rest' h)
  · by_cases hspace : isSpace c = true
    · exact classify_congr_of_isSpace hspace h
    · exact classify_congr_of_not_isSpace hc hspace h

@[simp] lemma classifyAt_snd (offset : Nat) (c : Char) (rest : Text) :
    (classifyAt offset c rest).2 = (classify c rest).2 := by
  simp only [classifyAt]
  split_ifs <;> rfl

lemma classifyAt_of_ne {c : Char} {rest : Text} (h : (classify c rest).1 ≠ .combinator)
    (offset : Nat) : classifyAt offset c rest = classify c rest := by
  simp only [classifyAt]
  rw [if_neg (by simp [h])]

/-- **A component sees at most two characters behind it, and whether one stands before it.** -/
theorem classifyAt_congr {offset offset' : Nat} (ho : offset' = 0 ↔ offset = 0) {c : Char}
    {rest rest' : Text} (h : Agree ((classifyAt offset c rest).2 + 2) rest rest') :
    classifyAt offset' c rest' = classifyAt offset c rest := by
  rw [classifyAt_snd] at h
  have htake : rest'.take (classify c rest).2 = rest.take (classify c rest).2 :=
    (h.mono (Nat.le_add_right _ 2)).symm
  have hempty : (rest'.drop (classify c rest).2).isEmpty =
      (rest.drop (classify c rest).2).isEmpty := by
    rw [Bool.eq_iff_iff, List.isEmpty_iff, List.isEmpty_iff, ← List.head?_eq_none_iff,
      ← List.head?_eq_none_iff, h.drop.head?]
  have hzero : (offset' == 0) = (offset == 0) := by
    rw [Bool.eq_iff_iff, beq_iff_eq, beq_iff_eq, ho]
  rw [classifyAt, classifyAt, classify_congr h]
  simp only [htake, hempty, hzero]

end Component
end StyleScope
