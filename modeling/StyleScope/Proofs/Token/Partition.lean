import StyleScope.Proofs.Text.Cut
import StyleScope.Proofs.Token.Endings

/-!
The tokens of a text by themselves.

A token is cut off where its text could go on no further, or where another kind of token begins.
So what follows it can be taken away, and the rule cuts off the same token again: a string that
was stopped by a line end, or a comment that was stopped by the end of the text, then runs to its
own end. Two runs of white space, or two words, never stand side by side.
-/

namespace StyleScope

namespace Piece

variable {κ : Type}

lemma slice?_of_mem_adjacent {ps : List (Piece κ)} (h : Adjacent 0 ps) {p : Piece κ}
    (hp : p ∈ ps) : p.span.slice? (textOf ps) = some p.text := by
  obtain ⟨as, bs, rfl⟩ := List.append_of_mem hp
  obtain ⟨-, hstart, -⟩ := adjacent_append.mp h
  have hspan : p.span = Span.between (textOf as) p.text := by
    rw [span, stop, Span.between, hstart, Nat.zero_add]
  rw [textOf_append, textOf_cons, hspan, Span.slice?_between]

end Piece

namespace Token

/-! ### A token without what follows it -/

lemma stringLength_alone {quote : Char} {escaped : Bool} {cs rest : Text}
    (h : stringLength quote escaped (cs ++ rest) = cs.length) :
    stringLength quote escaped cs = cs.length := by
  induction cs generalizing escaped with
  | nil => cases escaped <;> rfl
  | cons c cs ih =>
    cases escaped with
    | true =>
      simp only [List.cons_append, stringLength, List.length_cons, Nat.add_right_cancel_iff] at h ⊢
      exact ih h
    | false =>
      simp only [List.cons_append, stringLength, List.length_cons] at h ⊢
      split_ifs at h ⊢ with hescape hline hquote
      · rw [ih (by omega)]
      · exact h
      · rw [ih (by omega)]

lemma commentLength_alone {cs rest : Text} (h : commentLength (cs ++ rest) = cs.length) :
    commentLength cs = cs.length := by
  induction cs with
  | nil => rfl
  | cons c cs ih =>
    rw [List.cons_append] at h
    unfold commentLength at h
    split at h
    · contradiction
    · -- the end of the comment stands in its own text
      next heq =>
      obtain ⟨rfl, hcs⟩ := List.cons.inj heq
      have hlength : cs.length = 1 := by simpa using h.symm
      obtain ⟨d, rfl⟩ := List.length_eq_one_iff.mp hlength
      obtain ⟨rfl, -⟩ := List.cons.inj hcs
      rfl
    · next hne heq =>
      obtain ⟨rfl, rfl⟩ := List.cons.inj heq
      have hcs := ih (by simpa using h)
      rw [commentLength, hcs, List.length_cons]
      rintro t rfl rfl
      exact hne (t ++ rest) rfl rfl

/-- **A token is spelled as it is when nothing follows it.** -/
lemma Spelled.alone {kind : TokenKind} {text rest : Text} (h : Spelled kind text rest) :
    Spelled kind text [] := by
  cases h with
  | string hq hb => exact .string hq (by rw [List.append_nil]; exact stringLength_alone hb)
  | comment hb => exact .comment (by rw [List.append_nil]; exact commentLength_alone hb)
  | slash _ => exact .slash (by simp)
  | atKeyword hc hb _ => exact .atKeyword hc hb (by simp)
  | atSign _ => exact .atSign (by simp)
  | escape hc => exact .escape hc
  | invalid _ => exact .invalid (by simp)
  | whitespace hs _ => exact .whitespace hs (by simp)
  | word hw _ => exact .word hw (by simp)
  | _ => constructor

lemma scan_of_spelled {kind : TokenKind} {text rest : Text} (h : Spelled kind text rest) :
    scan text = [⟨kind, 0, text⟩] := by
  have hadj : Piece.Adjacent 0 [(⟨kind, 0, text⟩ : Token)] := ⟨rfl, trivial⟩
  have hlex : Lexes [(⟨kind, 0, text⟩ : Token)] := ⟨h.alone, trivial⟩
  have htile := tile_textOf hadj hlex
  rwa [Piece.textOf_cons, Piece.textOf_nil, List.append_nil] at htile

/-! ### Neighbours -/

/-- Tokens that can stand side by side: white space and words take in all that would continue
them. -/
def Parted (s t : Token) : Prop :=
  ¬ (s.kind = .whitespace ∧ t.kind = .whitespace) ∧ ¬ (s.kind = .word ∧ t.kind = .word)

lemma Spelled.exists_of_whitespace {text rest : Text} (h : Spelled .whitespace text rest) :
    ∃ c cs, text = c :: cs ∧ isSpace c = true ∧ ∀ d ∈ rest.head?, isSpace d = false := by
  cases h with
  | whitespace hs hr => exact ⟨_, _, rfl, hs _ List.mem_cons_self, hr⟩

lemma Spelled.exists_of_word {text rest : Text} (h : Spelled .word text rest) :
    ∃ c cs, text = c :: cs ∧ isDelimiter c = false ∧ ∀ d ∈ rest.head?, isDelimiter d = true := by
  cases h with
  | word hw hr => exact ⟨_, _, rfl, hw _ List.mem_cons_self, hr⟩

lemma parted_of_spelled {s t : Token} {rest : Text} (hs : Spelled s.kind s.text (t.text ++ rest))
    (ht : Spelled t.kind t.text rest) : Parted s t := by
  constructor
  · rintro ⟨hks, hkt⟩
    rw [hks] at hs
    rw [hkt] at ht
    obtain ⟨-, -, -, -, hend⟩ := hs.exists_of_whitespace
    obtain ⟨c, cs, htext, hc, -⟩ := ht.exists_of_whitespace
    have hnot := hend c (by simp [htext])
    rw [hc] at hnot
    contradiction
  · rintro ⟨hks, hkt⟩
    rw [hks] at hs
    rw [hkt] at ht
    obtain ⟨-, -, -, -, hend⟩ := hs.exists_of_word
    obtain ⟨c, cs, htext, hc, -⟩ := ht.exists_of_word
    have hdelim := hend c (by simp [htext])
    rw [hc] at hdelim
    contradiction

lemma Lexes.isChain_parted {ts : List Token} (h : Lexes ts) : ts.IsChain Parted := by
  induction ts with
  | nil => exact .nil
  | cons t ts ih =>
    cases ts with
    | nil => exact .singleton t
    | cons u ts => exact .cons_cons (parted_of_spelled h.1 h.2.1) (ih h.2)

/-! ### The tokens of a text -/

lemma adjacent_scanAll (text : Text) : Piece.Adjacent 0 (scanAll text) := by
  obtain ⟨hadj, -, htext⟩ := scan_spec text
  refine Piece.adjacent_append.mpr ⟨hadj, ?_, trivial⟩
  rw [htext, Nat.zero_add]
  rfl

/-- **The tokens of a text.** The end of the file comes last and only there. The tokens before it
begin at the first byte, follow one another without a gap up to the end of the text, have at least
one character each, cut none in two, and put together are the text. No two neighbours are both
white space or both words. And every token, also a string or comment without its end, is the only
token of its own text. -/
theorem scanAll_partitions (text : Text) :
    scanAll text = scan text ++ [⟨.endOfFile, text.size, []⟩] ∧
    Piece.Adjacent 0 (scanAll text) ∧
    Piece.textOf (scan text) = text ∧
    (∀ t ∈ scan text, t.kind ≠ .endOfFile ∧ t.text ≠ [] ∧ t.start < t.stop ∧
      t.span.slice? text = some t.text) ∧
    (scan text).IsChain Parted ∧
    ∀ t ∈ scan text, scanAll t.text = [⟨t.kind, 0, t.text⟩, ⟨.endOfFile, t.text.size, []⟩] := by
  obtain ⟨hadj, hlex, htext⟩ := scan_spec text
  refine ⟨rfl, adjacent_scanAll text, htext, fun t ht => ?_, hlex.isChain_parted, fun t ht => ?_⟩
  · obtain ⟨rest, hspell⟩ := lexed_of_mem_scan ht
    have hslice := Piece.slice?_of_mem_adjacent hadj ht
    rw [htext] at hslice
    have hkind : t.kind ≠ .endOfFile := by
      intro hk
      rw [hk] at hspell
      cases hspell
    have hsize : t.text.size ≠ 0 := fun h0 => hspell.ne_nil (Text.size_eq_zero.mp h0)
    have hstop : t.stop = t.start + t.text.size := rfl
    exact ⟨hkind, hspell.ne_nil, by omega, hslice⟩
  · obtain ⟨rest, hspell⟩ := lexed_of_mem_scan ht
    rw [scanAll, scan_of_spelled hspell]
    rfl

end Token
end StyleScope
