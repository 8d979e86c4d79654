import StyleScope.Proofs.Selector.Joining
import StyleScope.Proofs.Sheet.Splice
import StyleScope.Proofs.Token.Endings

/-!
Setting the selectors of a rule.

A rule writes its selectors with a separator of its own: the first comma of its selector, wherever
that stands, with the blanks behind it, or a comma and all that stands before the block. The
selectors are found again when the separator is a comma and blanks. What stands before the block
may be a comment, and its slashes then turn up in the selectors: splitting a list loses nothing
but blanks and commas.
-/

namespace StyleScope

open Text (Blank tidy)

namespace Text

variable {q : Char → Bool} (hq : ∀ c, isBlank c = true → q c = false)

include hq in
lemma countP_trim (t : Text) : (trim t).countP q = t.countP q := by
  have hzero {u : Text} (hu : Blank u) : u.countP q = 0 :=
    List.countP_eq_zero.mpr fun c hc => by simp [hq c (hu c hc)]
  obtain ⟨before, after, ht, hb, ha⟩ := exists_trim t
  conv_rhs => rw [ht, List.countP_append, List.countP_append, hzero hb, hzero ha]
  omega

include hq in
lemma countP_flatten_tidy (ps : List Text) :
    (tidy ps).flatten.countP q = ps.flatten.countP q := by
  induction ps with
  | nil => rfl
  | cons p ps ih =>
    have hp := countP_trim hq p
    rw [tidy_cons]
    split_ifs with hnil
    · rw [hnil, List.countP_nil] at hp
      rw [List.flatten_cons, List.countP_append, ih]
      omega
    · rw [List.flatten_cons, List.flatten_cons, List.countP_append, List.countP_append, ih, hp]

end Text

namespace SelectorList

/-- A character that splitting never loses. -/
def isKept (c : Char) : Bool := !isBlank c && c != ','

/-- **Splitting a list loses nothing but blanks and commas.** -/
lemma countP_flatten_split (t : Text) :
    (split t).flatten.countP isKept = t.countP isKept := by
  have hq (c : Char) (hc : isBlank c = true) : isKept c = false := by simp [isKept, hc]
  have hcomma : List.countP isKept [','] = 0 := by decide
  have hjoin := Text.countP_join isKept [','] (pieces .outer t)
  rw [join_pieces, hcomma, Nat.mul_zero, Nat.add_zero] at hjoin
  rw [split_eq_tidy, Text.countP_flatten_tidy hq, hjoin]

end SelectorList

namespace Rule

lemma separator_of_mem {r : Rule} (h : ',' ∈ r.selector) :
    ∃ blanks, Blank blanks ∧ r.separator = ',' :: blanks := by
  unfold separator
  rcases hd : r.selector.dropWhile (fun c => c != ',') with _ | ⟨comma, rest⟩
  · have hall := List.dropWhile_eq_nil_iff.mp hd ',' h
    simp at hall
  · have hnot := List.head?_dropWhile_not (fun c => c != ',') r.selector
    rw [hd] at hnot
    have hcomma : comma = ',' := by simpa using hnot
    exact ⟨rest.takeWhile isBlank, fun c hc => List.mem_takeWhile_imp hc, by rw [hcomma]⟩

lemma separator_of_notMem {r : Rule} (h : ',' ∉ r.selector) : r.separator = ',' :: r.between := by
  have hnil : r.selector.dropWhile (fun c => c != ',') = [] :=
    List.dropWhile_eq_nil_iff.mpr fun c hc => by
      have hne : c ≠ ',' := fun heq => h (heq ▸ hc)
      simpa using hne
  rw [separator, hnil]

lemma exists_separator {r : Rule} (h : ',' ∈ r.selector ∨ Blank r.between) :
    ∃ blanks, Blank blanks ∧ r.separator = ',' :: blanks := by
  by_cases hcomma : ',' ∈ r.selector
  · exact separator_of_mem hcomma
  · exact ⟨r.between, h.resolve_left hcomma, separator_of_notMem hcomma⟩

end Rule

lemma Token.Lexed.blank_or_slash_mem {t : Token} (h : t.Lexed) (hk : t.kind.isTrivia = true) :
    Blank t.text ∨ '/' ∈ t.text := by
  obtain ⟨rest, h⟩ := h
  generalize t.kind = kind at h hk
  generalize t.text = text at h
  cases h with
  | whitespace hs => exact .inl fun c hc => Token.isBlank_of_isSpace (hs c hc)
  | comment => exact .inr (by simp)
  | _ => simp [TokenKind.isTrivia] at hk

namespace Sheet

open SelectorList (IsItem Context split isKept split_join_iff countP_flatten_split)

lemma slash_mem_between {source : Text} {file : Option Text} {id : NodeId} {r : Rule}
    (hr : (id, r) ∈ (parse source file).sheet.rules) (h : ¬ Blank r.between) :
    '/' ∈ r.between := by
  obtain ⟨pre, head, brace, post, hscan, -, -, hbetween, -⟩ := exists_prelude_of_mem_rules hr
  have hlexed {t : Token} (ht : t ∈ Prelude.trailing head) : t.Lexed := by
    refine @Token.lexed_of_mem_scan source t ?_
    rw [hscan, ← Prelude.content_append_trailing head]
    simp [ht]
  rw [hbetween, Piece.textOf] at h ⊢
  by_contra hslash
  refine h fun c hc => ?_
  obtain ⟨t, ht, hc⟩ := List.mem_flatMap.mp hc
  rcases (hlexed ht).blank_or_slash_mem (Prelude.isTrivia_of_mem_trailing ht) with hblank | hmem
  · exact hblank c hc
  · exact absurd (List.mem_flatMap.mpr ⟨t, ht, hmem⟩) hslash

lemma exists_between_of_mem_editAll {s : Sheet} {edits : List Edit} {id : NodeId} {r : Rule}
    (hr : (id, r) ∈ (s.editAll edits).rules) :
    ∃ r₀, (id, r₀) ∈ s.rules ∧ r₀.between = r.between := by
  have hmap := @map_rules_editAll _ Rule.between (fun _ _ => rfl) s edits
  have hmem : (id, r.between) ∈ s.rules.map fun p => (p.1, p.2.between) :=
    hmap ▸ List.mem_map.mpr ⟨(id, r), hr, rfl⟩
  obtain ⟨⟨id₀, r₀⟩, hr₀, hp⟩ := List.mem_map.mp hmem
  obtain ⟨rfl, hbetween⟩ := Prod.mk.inj hp
  exact ⟨r₀, hr₀, hbetween⟩

/-- **When a rule gives back the selectors it was given.** After any run of changes to a parsed
sheet, selectors that are trimmed, uncut and closed are read back from a rule exactly when there
is at most one of them, or the old selector has a comma, or only blanks stand before the block. -/
theorem selectors_setSelectors_iff {source : Text} {file : Option Text} {edits : List Edit}
    {id : NodeId} {r : Rule} (hr : (id, r) ∈ ((parse source file).sheet.editAll edits).rules)
    {items : List Text} (hitems : ∀ x ∈ items, IsItem x ∧ Context.outer.run x = .outer) :
    (r.setSelectors items).selectors = items ↔
      items.length ≤ 1 ∨ ',' ∈ r.selector ∨ Blank r.between := by
  have hset : (r.setSelectors items).selectors = split (Text.join r.separator items) := rfl
  rw [hset]
  constructor
  · intro heq
    by_contra hnot
    rw [not_or, not_or, not_le] at hnot
    obtain ⟨hlen, hcomma, hblank⟩ := hnot
    -- the slash of the comment is written once more than it is read
    obtain ⟨r₀, hr₀, hbetween⟩ := exists_between_of_mem_editAll hr
    have hslash : '/' ∈ r.between := hbetween ▸ slash_mem_between hr₀ (hbetween ▸ hblank)
    have hpos : 0 < (',' :: r.between).countP isKept :=
      List.countP_pos_iff.mpr ⟨'/', by simp [hslash], by decide⟩
    have hmore : 0 < (items.length - 1) * (',' :: r.between).countP isKept :=
      Nat.mul_pos (by omega) hpos
    have hcount := countP_flatten_split (Text.join r.separator items)
    rw [heq, Text.countP_join, Rule.separator_of_notMem hcomma] at hcount
    omega
  · intro hcase
    have hfound {blanks : Text} (hb : Blank blanks) :
        split (Text.join (',' :: blanks) items) = items :=
      (split_join_iff hb fun x hx => (hitems x hx).1).mpr fun x hx =>
        (hitems x (List.mem_of_mem_dropLast hx)).2
    rcases hcase with hlen | hsep
    · -- no separator is written
      have hone : Text.join r.separator items = Text.join [','] items := by
        rcases items with _ | ⟨x, _ | ⟨y, items⟩⟩
        · rfl
        · rfl
        · simp at hlen
      rw [hone]
      exact hfound Text.blank_nil
    · obtain ⟨blanks, hb, hsep⟩ := Rule.exists_separator hsep
      rw [hsep]
      exact hfound hb

/-- The comma of a string serves as well, whatever stands before the block. -/
theorem selectors_setSelectors_of_string :
    (parse "[t=\",  \"] /* c */ \x7b\x7d".toList none).sheet.rules.length = 1 ∧
      ∀ p ∈ (parse "[t=\",  \"] /* c */ \x7b\x7d".toList none).sheet.rules,
        (p.2.setSelectors [":is(.x, .y)".toList, ".z\\,".toList]).selectors =
          [":is(.x, .y)".toList, ".z\\,".toList] := by
  refine ⟨by decide +kernel, fun p hp => ?_⟩
  have hcomma : ((parse "[t=\",  \"] /* c */ \x7b\x7d".toList none).sheet.rules.all
      fun p => p.2.selector.contains ',') = true := by decide +kernel
  refine (@selectors_setSelectors_iff _ none [] p.1 p.2 hp _ (by decide)).mpr ?_
  exact .inr (.inl (by simpa using List.all_eq_true.mp hcomma p hp))

/-- A comment before the block gets into the second selector. -/
theorem selectors_setSelectors_ne_of_comment :
    (∀ x ∈ [".x".toList, ".y".toList], IsItem x ∧ Context.outer.run x = .outer) ∧
      ∃ p ∈ (parse ".a /* c */ \x7b\x7d".toList none).sheet.rules,
        (p.2.setSelectors [".x".toList, ".y".toList]).selectors =
          [".x".toList, "/* c */ .y".toList] := by
  decide +kernel

end Sheet
end StyleScope
