import Mathlib.Tactic.Common
import StyleScope.Regex.Match
import StyleScope.Regex.Parser

/-!
Patterns without metacharacters.

Such a pattern is read character by character, and the code that is laid out for it stands in
reverse order: place `n` waits for the last `n` characters of the text, and place `0` accepts. A
run has one thread, which goes down the places as long as the text to be searched goes along. So
the pattern matches its own text and nothing else.
-/

namespace StyleScope.Regex

/-- The characters that have a meaning in a pattern. -/
def metacharacters : Text := "\\.+*?()|[]\x7b\x7d^$".toList

def Plain (t : Text) : Prop := ∀ c ∈ t, c ∉ metacharacters

instance (t : Text) : Decidable (Plain t) := List.decidableBAll (· ∉ metacharacters) t

/-! ### Reading -/

lemma Reading.step?_of_notMem {c : Char} (hc : c ∉ metacharacters) (r : Reading) (t : Text) :
    r.step? c t = some (r.push (.set (foldCase r.flags (.single c))), t) := by
  unfold step?
  split
  case h_13 => rfl
  all_goals exact absurd (by decide) hc

lemma Reading.finish?_of_plain {t : Text} (ht : Plain t) (names : List Text)
    (parts : List Part) :
    finish? ⟨{}, names, ⟨{}, [], parts⟩, []⟩ t =
      some (ofList (parts.reverse.map Part.toRegex ++ t.map fun c => .set (.single c))) := by
  induction t generalizing parts with
  | nil =>
    rw [finish?]
    simp [skip, OpenGroup.close, OpenGroup.branch]
  | cons c t ih =>
    have hstep : step? ⟨{}, names, ⟨{}, [], parts⟩, []⟩ c t =
        some (⟨{}, names, ⟨{}, [], .expr (.set (.single c)) :: parts⟩, []⟩, t) :=
      step?_of_notMem (ht c List.mem_cons_self) _ t
    rw [finish?]
    simp only [skip, Bool.false_eq_true, if_false, hstep, List.length_cons, Nat.lt_succ_self,
      if_true]
    rw [ih fun d hd => ht d (List.mem_cons_of_mem c hd)]
    simp [Part.toRegex]

lemma parse?_of_plain {t : Text} (ht : Plain t) : parse? t = some (literal t) :=
  Reading.finish?_of_plain ht [] []

/-! ### Laying out -/

/-- The code of a literal, from the place that accepts upwards. -/
def literalCode : Text → List Inst
  | [] => [.accept]
  | c :: t => literalCode t ++ [.char (.single c) t.length]

@[simp] lemma length_literalCode (t : Text) : (literalCode t).length = t.length + 1 := by
  induction t with
  | nil => rfl
  | cons c t ih => simp [literalCode, ih]

lemma layout_literal (t : Text) :
    .accept :: ((literal t).layout 1 0).code = literalCode t ∧
      ((literal t).layout 1 0).entry = t.length := by
  induction t with
  | nil => exact ⟨rfl, rfl⟩
  | cons c t ih =>
    obtain ⟨hcode, hentry⟩ := ih
    have hlayout : (literal (c :: t)).layout =
        Layout.seq (Regex.set (.single c)).layout (literal t).layout := rfl
    have hlen := congrArg List.length hcode
    rw [List.length_cons, length_literalCode] at hlen
    rw [hlayout, Layout.seq, layout, literalCode, ← hcode, hentry]
    exact ⟨rfl, by simp only [List.length_cons]; omega⟩

def Program.literal (t : Text) : Program := ⟨(literalCode t).toArray, t.length⟩

/-- **A pattern without metacharacters compiles to the program of its text**, unless it is too
large. -/
theorem Program.ofPattern?_of_plain {t : Text} (ht : Plain t) :
    Program.ofPattern? t =
      if (Regex.literal t).cost ≤ costLimit then some (.literal t) else none := by
  obtain ⟨hcode, hentry⟩ := layout_literal t
  rw [ofPattern?, parse?_of_plain ht, Option.bind_some, compile?, Program.literal, ← hcode,
    ← hentry]

/-! ### Running -/

namespace Program

variable {p : Program}

/-- The program begins with the code of a literal. -/
def Expects (p : Program) (t : Text) : Prop := literalCode t <+: p.code.toList

lemma Expects.tail {c : Char} {t : Text} (h : p.Expects (c :: t)) : p.Expects t :=
  (List.prefix_append _ _).trans h

lemma Expects.accept (h : p.Expects []) : p.code[0]? = some .accept := by
  obtain ⟨rest, hrest⟩ := h
  rw [← Array.getElem?_toList, ← hrest]
  rfl

lemma Expects.char {c : Char} {t : Text} (h : p.Expects (c :: t)) :
    p.code[t.length + 1]? = some (.char (.single c) t.length) := by
  obtain ⟨rest, hrest⟩ := h
  rw [← Array.getElem?_toList, ← hrest, literalCode, List.append_assoc,
    List.getElem?_append_right (by simp)]
  simp

lemma threads_of_waits {pc : Nat} {i : Inst} (h : p.code[pc]? = some i)
    (hi : i = .accept ∨ ∃ s next, i = .char s next) (before after : Option Char) :
    p.threads before after [pc] = [pc] := by
  have hdone (fuel : Nat) : p.reach before after fuel [] [pc] = [] := by
    cases fuel <;> rfl
  have hfuel : [pc].length + 2 * p.code.size + 1 = (2 * p.code.size + 1) + 1 := by
    simp only [List.length_singleton]
    omega
  rw [threads, hfuel, reach, h]
  rcases hi with rfl | ⟨s, next, rfl⟩
  · simp [hdone]
  · simp [hdone]

lemma runFrom_accept {pc : Nat} (h : p.code[pc]? = some .accept) (before : Option Char)
    (taken : Nat) (best : Option Nat) (s : Text) :
    p.runFrom before [pc] taken best s = some taken := by
  have haccepts : p.accepts pc = true := by simp [accepts, h]
  rw [runFrom.eq_def, threads_of_waits h (.inl rfl)]
  cases s <;> simp [haccepts]

lemma runFrom_char {pc next : Nat} {set : CharSet} (h : p.code[pc]? = some (.char set next))
    (before : Option Char) (taken : Nat) (best : Option Nat) (s : Text) :
    p.runFrom before [pc] taken best s =
      match s with
      | [] => best
      | c :: s =>
        if set.contains c then p.runFrom (some c) [next] (taken + 1) best s else best := by
  have haccepts : p.accepts pc = false := by simp [accepts, h]
  rw [runFrom.eq_def, threads_of_waits h (.inr ⟨set, next, rfl⟩)]
  cases s with
  | nil => simp [haccepts]
  | cons c s =>
    by_cases hc : set.contains c = true
    · simp [haccepts, advance?, h, hc]
    · simp [haccepts, advance?, h, hc]

/-- **The one thread of a literal** goes down to the place that accepts as long as the text goes
along. -/
theorem runFrom_of_expects {t : Text} (h : p.Expects t) (before : Option Char) (taken : Nat)
    (best : Option Nat) (s : Text) :
    p.runFrom before [t.length] taken best s =
      if t <+: s then some (taken + t.length) else best := by
  induction t generalizing before taken s with
  | nil => simp [runFrom_accept h.accept]
  | cons c t ih =>
    rw [List.length_cons, runFrom_char h.char]
    cases s with
    | nil => simp
    | cons d s =>
      simp only [CharSet.contains_single, beq_iff_eq, ih h.tail, List.cons_prefix_cons]
      by_cases hcd : c = d
      · simp [hcd, Nat.add_assoc, Nat.add_comm 1]
      · simp [hcd]

/-- **A literal matches its own text.** -/
theorem matchLength?_literal (t : Text) (before : Option Char) (s : Text) :
    (literal t).matchLength? before s = if t <+: s then some t.length else none := by
  have h : (literal t).Expects t := List.prefix_rfl
  have hrun := runFrom_of_expects h before 0 none s
  rwa [Nat.zero_add] at hrun

lemma isSome_matchLength?_literal (t : Text) (before : Option Char) (s : Text) :
    ((literal t).matchLength? before s).isSome = t.isPrefixOf s := by
  rw [matchLength?_literal, Bool.eq_iff_iff, List.isPrefixOf_iff_prefix]
  split_ifs with h <;> simp [h]

/-! ### Searching and replacing -/

lemma isSome_find?_literal (t : Text) (before : Option Char) (s : Text) :
    ((literal t).find? before s).isSome = Text.occursIn t s := by
  induction s generalizing before with
  | nil =>
    rw [find?, Option.isSome_map, isSome_matchLength?_literal, Text.occursIn]
    cases t <;> rfl
  | cons c s ih =>
    rw [find?, isSome_matchLength?_literal, Text.occursIn, ← ih (some c)]
    cases t.isPrefixOf (c :: s) <;> simp

lemma replaceFrom_literal_nil (r : Text) (before : Option Char) (s : Text) :
    (literal []).replaceFrom r before false 0 s = r ++ s.flatMap fun c => c :: r := by
  induction s generalizing before with
  | nil => simp [replaceFrom, isSome_matchLength?_literal]
  | cons c s ih =>
    rw [replaceFrom, matchLength?_literal, if_pos List.nil_prefix]
    simp [ih]

lemma replaceFrom_literal {t : Text} (ht : t ≠ []) (r : Text) (before : Option Char)
    (joined : Bool) (skip : Nat) (s : Text) :
    (literal t).replaceFrom r before joined skip s = Text.replaceFrom t r skip s := by
  induction s generalizing before joined skip with
  | nil =>
    cases skip with
    | zero => simp [replaceFrom, Text.replaceFrom, matchLength?_literal, ht]
    | succ skip => rfl
  | cons c s ih =>
    cases skip with
    | zero =>
      obtain ⟨n, hn⟩ : ∃ n, t.length = n + 1 :=
        Nat.exists_eq_succ_of_ne_zero (by simpa using ht)
      rw [replaceFrom, Text.replaceFrom, matchLength?_literal, hn]
      by_cases hbegins : t <+: c :: s
      · simp [hbegins, ih]
      · simp [hbegins, ih]
    | succ skip => exact ih (some c) joined skip

lemma replaceAll_literal (t r s : Text) : (literal t).replaceAll r s = Text.replaceAll t r s := by
  rw [replaceAll, Text.replaceAll]
  by_cases ht : t = []
  · rw [ht, replaceFrom_literal_nil]
    rfl
  · rw [replaceFrom_literal ht, if_neg (by simpa using ht)]

lemma replaceFirstFrom_literal (t r : Text) (before : Option Char) (s : Text) :
    (literal t).replaceFirstFrom r before s = Text.replaceFirst t r s := by
  induction s generalizing before with
  | nil =>
    rw [replaceFirstFrom, isSome_matchLength?_literal, Text.replaceFirst]
    cases t <;> rfl
  | cons c s ih =>
    rw [replaceFirstFrom, matchLength?_literal, Text.replaceFirst]
    by_cases hbegins : t <+: c :: s
    · simp [hbegins]
    · simp [hbegins, ih]

end Program
end StyleScope.Regex
