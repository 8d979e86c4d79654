import StyleScope.LineIndex
import StyleScope.Proofs.Text.Split
import StyleScope.Proofs.Text.Trim

/-!
Positions and offsets.

A text is divided at an offset into the lines that have ended, the part of the last line up to the
offset, and the rest. The table of an index has an entry for each line end of the first part and
none in the second, so halving comes to the line that the offset is in. From that one fact follow
both directions: a position counts the line ends and the bytes after the last of them, and every
position within a line is the position of its offset.
-/

namespace StyleScope

namespace Text

/-! ### Texts before an offset -/

lemma le_size_cut {offset : Nat} {t : Text} (h : offset ≤ t.size) :
    offset ≤ (cut offset t).1.size := by
  fun_induction cut offset t with
  | case1 t => simp
  | case2 n => simp at h
  | case3 n c t ih =>
    rw [size_cons] at h ⊢
    have hrest := ih (by omega)
    omega

lemma size_lt_of_cut {offset : Nat} {t a b : Text} {c : Char}
    (h : (cut offset t).1 = a ++ c :: b) : a.size < offset := by
  fun_induction cut offset t generalizing a with
  | case1 t => simp at h
  | case2 n => simp at h
  | case3 n d t ih =>
    cases a with
    | nil => simp
    | cons e a =>
      obtain ⟨rfl, hrest⟩ := List.cons.inj h
      have hlt := ih hrest
      rw [size_cons]
      omega

lemma cut_prefix_cut {offset offset' : Nat} (h : offset ≤ offset') (t : Text) :
    (cut offset t).1 <+: (cut offset' t).1 := by
  fun_induction cut offset t generalizing offset' with
  | case1 t => exact List.nil_prefix
  | case2 n => exact List.nil_prefix
  | case3 n c t ih =>
    obtain ⟨n', rfl⟩ : ∃ n', offset' = n' + 1 := ⟨offset' - 1, by omega⟩
    rw [cut, List.cons_prefix_cons]
    exact ⟨rfl, ih (by omega)⟩

/-- The text is empty or ends with a line end. -/
def EndsLine (t : Text) : Prop := ∀ c ∈ t.getLast?, c = '\n'

/-- Where the line of an offset starts: after the last line end before the offset. -/
def lineStart (offset : Nat) (t : Text) : Nat :=
  size (dropTailWhile (· != '\n') (cut offset t).1)

/-- The division of a text at an offset: lines that have ended, a part of a line, and the rest. -/
lemma exists_parts {offset : Nat} {t : Text} (h : offset ≤ t.size) :
    ∃ ended line rest, t = ended ++ (line ++ rest) ∧ (cut offset t).1 = ended ++ line ∧
      ended.EndsLine ∧ '\n' ∉ line ∧ ended.size = lineStart offset t ∧ ended.size ≤ offset ∧
      offset - ended.size ≤ line.size := by
  obtain ⟨line, hcut, hline⟩ :=
    exists_dropTailWhile_append (fun c => c != '\n') (cut offset t).1
  have hends : EndsLine (dropTailWhile (· != '\n') (cut offset t).1) := fun c hc => by
    simpa using getLast?_dropTailWhile _ c hc
  rw [lineStart]
  generalize dropTailWhile (· != '\n') (cut offset t).1 = ended at hcut hends
  refine ⟨ended, line, (cut offset t).2, ?_, hcut, hends, ?_, rfl, ?_, ?_⟩
  · rw [← List.append_assoc, ← hcut, cut_append]
  · exact fun hmem => by simpa using hline _ hmem
  · rcases List.eq_nil_or_concat ended with rfl | ⟨a, c, rfl⟩
    · simp
    · -- the line end is a single byte, so the offset is not inside it
      rw [List.concat_eq_append] at hcut hends ⊢
      obtain rfl : c = '\n' := hends c (by simp)
      have hlt := @size_lt_of_cut offset t a line '\n' (by simpa using hcut)
      have hone : Char.utf8Size '\n' = 1 := rfl
      rw [size_append, size_cons, size_nil, hone]
      omega
  · have hle := le_size_cut h
    rw [hcut, size_append] at hle
    omega

lemma exists_parts_of_line {t line : Text} {n : Nat} (h : (splitOn '\n' t)[n]? = some line) :
    ∃ ended rest, t = ended ++ (line ++ rest) ∧ ended.EndsLine ∧ ended.count '\n' = n := by
  induction t generalizing n line with
  | nil =>
    obtain ⟨rfl, rfl⟩ : n = 0 ∧ line = [] := by
      cases n <;> simp_all [splitOn]
    exact ⟨[], [], rfl, by simp [EndsLine], rfl⟩
  | cons c t ih =>
    obtain ⟨piece, pieces, hpieces⟩ := List.exists_cons_of_ne_nil (splitOn_ne_nil '\n' t)
    rw [splitOn, hpieces] at h
    rw [hpieces] at ih
    split_ifs at h with hc
    · subst hc
      cases n with
      | zero =>
        obtain rfl : [] = line := by simpa using h
        exact ⟨[], '\n' :: t, rfl, by simp [EndsLine], rfl⟩
      | succ n =>
        obtain ⟨ended, rest, rfl, hends, hcount⟩ := ih (by simpa using h)
        refine ⟨'\n' :: ended, rest, rfl, ?_, by simp [hcount]⟩
        cases ended with
        | nil => simp [EndsLine]
        | cons d ended => simpa [EndsLine, List.getLast?_cons_cons] using hends
    · cases n with
      | zero =>
        obtain rfl : c :: piece = line := by simpa using h
        obtain ⟨ended, rest, rfl, hends, hcount⟩ := @ih piece 0 rfl
        -- no line has ended before the first one
        have hnil : ended = [] := by
          rcases List.eq_nil_or_concat ended with hnil | ⟨a, d, rfl⟩
          · exact hnil
          · rw [List.concat_eq_append] at hends hcount
            obtain rfl : d = '\n' := hends d (by simp)
            simp at hcount
        subst hnil
        exact ⟨[], rest, rfl, by simp [EndsLine], rfl⟩
      | succ n =>
        obtain ⟨ended, rest, rfl, hends, hcount⟩ := @ih line (n + 1) (by simpa using h)
        refine ⟨c :: ended, rest, rfl, ?_, by simp [hc, hcount]⟩
        cases ended with
        | nil => simp at hcount
        | cons d ended => simpa [EndsLine, List.getLast?_cons_cons] using hends

lemma length_splitOn (sep : Char) (t : Text) : (splitOn sep t).length = t.count sep + 1 := by
  induction t with
  | nil => rfl
  | cons c t ih =>
    obtain ⟨piece, pieces, hpieces⟩ := List.exists_cons_of_ne_nil (splitOn_ne_nil sep t)
    rw [splitOn, List.count_cons]
    rw [hpieces] at ih ⊢
    split_ifs with hc <;> simp_all

end Text

namespace LineIndex

/-! ### The table of starts -/

lemma startsAfter_append (offset : Nat) (a b : Text) :
    startsAfter offset (a ++ b) = startsAfter offset a ++ startsAfter (offset + a.size) b := by
  induction a generalizing offset with
  | nil => rfl
  | cons c a ih =>
    rw [List.cons_append, startsAfter, startsAfter, ih, Text.size_cons, Nat.add_assoc]
    split_ifs <;> rfl

lemma length_startsAfter (offset : Nat) (t : Text) :
    (startsAfter offset t).length = t.count '\n' := by
  induction t generalizing offset with
  | nil => rfl
  | cons c t ih =>
    rw [startsAfter, List.count_cons]
    split_ifs with hc <;> simp_all

lemma startsAfter_of_notMem {t : Text} (h : '\n' ∉ t) (offset : Nat) :
    startsAfter offset t = [] := by
  rw [← List.length_eq_zero_iff, length_startsAfter]
  exact List.count_eq_zero.mpr h

lemma bounds_of_mem_startsAfter {offset start : Nat} {t : Text}
    (h : start ∈ startsAfter offset t) : offset < start ∧ start ≤ offset + t.size := by
  induction t generalizing offset with
  | nil => simp [startsAfter] at h
  | cons c t ih =>
    have hpos := Char.utf8Size_pos c
    have hrest (h : start ∈ startsAfter (offset + c.utf8Size) t) :
        offset < start ∧ start ≤ offset + (c.utf8Size + Text.size t) := by
      have hbounds := ih h
      omega
    rw [startsAfter] at h
    rw [Text.size_cons]
    split_ifs at h
    · rcases List.mem_cons.mp h with rfl | h
      · omega
      · exact hrest h
    · exact hrest h

section Parts

variable {ended line : Text} {col : Nat}

lemma starts_of_parts (hline : '\n' ∉ line) (rest : Text) :
    (ofText (ended ++ (line ++ rest))).starts.toList =
      (0 :: startsAfter 0 ended) ++ startsAfter (ended.size + line.size) rest := by
  simp [ofText, startsAfter_append, startsAfter_of_notMem hline]

lemma length_starts_ended (ended : Text) :
    (0 :: startsAfter 0 ended).length = ended.count '\n' + 1 := by
  rw [List.length_cons, length_startsAfter]

lemma getElem?_starts (hended : ended.EndsLine) (hline : '\n' ∉ line) (rest : Text) :
    (ofText (ended ++ (line ++ rest))).starts[ended.count '\n']? = some ended.size := by
  have hlt : ended.count '\n' < (0 :: startsAfter 0 ended).length := by
    rw [length_starts_ended]
    exact Nat.lt_succ_self _
  rw [← Array.getElem?_toList, starts_of_parts hline rest, List.getElem?_append_left hlt]
  rcases List.eq_nil_or_concat ended with rfl | ⟨a, c, rfl⟩
  · rfl
  · rw [List.concat_eq_append] at hended ⊢
    obtain rfl : c = '\n' := hended c (by simp)
    have hcount : (a ++ ['\n']).count '\n' = (startsAfter 0 a).length + 1 := by
      simp [length_startsAfter]
    rw [hcount, List.getElem?_cons_succ, startsAfter_append,
      List.getElem?_append_right (Nat.le_refl _), Text.size_append]
    simp [startsAfter]

lemma begun_iff (hline : '\n' ∉ line) (hcol : col ≤ line.size) (rest : Text) {i : Nat} :
    ((ofText (ended ++ (line ++ rest))).starts[i]?.any (· ≤ ended.size + col)) = true ↔
      i < ended.count '\n' + 1 := by
  rw [← Array.getElem?_toList, starts_of_parts hline rest, ← length_starts_ended,
    Option.any_eq_true]
  constructor
  · rintro ⟨start, hstart, hle⟩
    by_contra hhigh
    rw [List.getElem?_append_right (Nat.le_of_not_lt hhigh)] at hstart
    have hbounds := bounds_of_mem_startsAfter (List.mem_of_getElem? hstart)
    simp only [decide_eq_true_eq] at hle
    omega
  · intro hlow
    refine ⟨_, by rw [List.getElem?_append_left hlow, List.getElem?_eq_getElem hlow], ?_⟩
    have hle : (0 :: startsAfter 0 ended)[i] ≤ ended.size := by
      rcases List.mem_cons.mp (List.getElem_mem hlow) with heq | hmem
      · omega
      · have hbounds := bounds_of_mem_startsAfter hmem
        omega
    simp only [decide_eq_true_eq]
    omega

/-- **Halving comes to the line that an offset is in.** -/
theorem countBegun_of_parts (hline : '\n' ∉ line) (hcol : col ≤ line.size) (rest : Text) :
    (ofText (ended ++ (line ++ rest))).countBegun (ended.size + col) = ended.count '\n' + 1 := by
  have hsize : ended.count '\n' + 1 ≤ (ofText (ended ++ (line ++ rest))).starts.size := by
    rw [← Array.length_toList, starts_of_parts hline rest, List.length_append, length_starts_ended]
    omega
  obtain ⟨-, hle, hiff⟩ := lt_bisect_iff
    (Nat.zero_le (ofText (ended ++ (line ++ rest))).starts.size) fun i j _ hij _ hj =>
      (begun_iff hline hcol rest).mpr (Nat.lt_of_le_of_lt hij ((begun_iff hline hcol rest).mp hj))
  rw [countBegun]
  refine Nat.le_antisymm (Nat.le_of_not_lt fun hgt => ?_) ?_
  · have hbegun := (hiff _ (Nat.zero_le _) (by omega)).mp hgt
    exact Nat.lt_irrefl _ ((begun_iff hline hcol rest).mp hbegun)
  · exact (hiff _ (Nat.zero_le _) hsize).mpr ((begun_iff hline hcol rest).mpr (Nat.lt_succ_self _))

/-- **An offset and its position**, where the text is divided into lines that have ended, a part of
a line and the rest. -/
theorem position_of_parts (hended : ended.EndsLine) (hline : '\n' ∉ line)
    (hcol : col ≤ line.size) (rest : Text) :
    (ofText (ended ++ (line ++ rest))).lineCol? (ended.size + col) =
        some ⟨ended.count '\n', col⟩ ∧
      (ofText (ended ++ (line ++ rest))).offset? ⟨ended.count '\n', col⟩ =
        some (ended.size + col) := by
  have hstart := getElem?_starts hended hline rest
  have hsize : (ofText (ended ++ (line ++ rest))).size = ended.size + (line.size + rest.size) := by
    simp [ofText]
  constructor
  · rw [lineCol?, if_neg (by omega), countBegun_of_parts hline hcol rest]
    simp [hstart]
  · rw [offset?, hstart]
    rfl

end Parts

/-! ### Positions of a text -/

variable {t : Text} {offset offset' : Nat} {p p' : LineCol}

lemma lineCol?_ofText (h : offset ≤ t.size) :
    Text.lineStart offset t ≤ offset ∧ (ofText t).lineCol? offset =
      some ⟨(Text.cut offset t).1.count '\n', offset - Text.lineStart offset t⟩ := by
  obtain ⟨ended, line, rest, ht, hcut, hended, hline, hstart, hle, hcol⟩ := Text.exists_parts h
  have hcount : (Text.cut offset t).1.count '\n' = ended.count '\n' := by
    rw [hcut, List.count_append, List.count_eq_zero.mpr hline, Nat.add_zero]
  have hpos := (position_of_parts hended hline hcol rest).1
  rw [← ht, Nat.add_sub_of_le hle] at hpos
  rw [← hstart, hcount]
  exact ⟨hle, hpos⟩

lemma lineCol?_past (h : t.size < offset) : (ofText t).lineCol? offset = none := if_pos h

lemma le_of_lineCol? (h : (ofText t).lineCol? offset = some p) : offset ≤ t.size := by
  by_contra hlt
  rw [lineCol?_past (Nat.lt_of_not_le hlt)] at h
  cases h

lemma offset?_of_lineCol? (h : (ofText t).lineCol? offset = some p) :
    (ofText t).offset? p = some offset := by
  obtain ⟨ended, line, rest, ht, -, hended, hline, -, hle, hcol⟩ :=
    Text.exists_parts (le_of_lineCol? h)
  obtain ⟨hpos, hoffset⟩ := position_of_parts hended hline hcol rest
  rw [← ht, Nat.add_sub_of_le hle] at hpos hoffset
  rw [h, Option.some.injEq] at hpos
  rwa [hpos]

lemma lineCol?_strictMono (h : (ofText t).lineCol? offset = some p)
    (h' : (ofText t).lineCol? offset' = some p') (hlt : offset < offset') :
    Prod.Lex (· < ·) (· < ·) (p.line, p.col) (p'.line, p'.col) := by
  have hline : p.line ≤ p'.line := by
    have hpos := (lineCol?_ofText (le_of_lineCol? h)).2
    have hpos' := (lineCol?_ofText (le_of_lineCol? h')).2
    rw [h, Option.some.injEq] at hpos
    rw [h', Option.some.injEq] at hpos'
    rw [hpos, hpos']
    exact (Text.cut_prefix_cut (Nat.le_of_lt hlt) t).sublist.count_le '\n'
  rcases Nat.lt_or_eq_of_le hline with hline | hline
  · exact .left _ _ hline
  · -- on one line both offsets are counted from the same start
    have hoffset := offset?_of_lineCol? h
    have hoffset' := offset?_of_lineCol? h'
    rw [offset?, Option.map_eq_some_iff] at hoffset hoffset'
    obtain ⟨start, hstart, rfl⟩ := hoffset
    obtain ⟨start', hstart', rfl⟩ := hoffset'
    rw [← hline, hstart, Option.some.injEq] at hstart'
    rw [hline]
    exact .right _ (by omega)

lemma lineCol?_of_line {line : Text} {n col : Nat} (h : (Text.splitOn '\n' t)[n]? = some line)
    (hcol : col ≤ line.size) :
    ∃ offset, (ofText t).offset? ⟨n, col⟩ = some offset ∧
      (ofText t).lineCol? offset = some ⟨n, col⟩ := by
  obtain ⟨ended, rest, rfl, hended, rfl⟩ := Text.exists_parts_of_line h
  have hline := Text.notMem_of_mem_splitOn (List.mem_of_getElem? h)
  have hpos := position_of_parts hended hline hcol rest
  exact ⟨_, hpos.2, hpos.1⟩

lemma lineCount_ofText (t : Text) : (ofText t).lineCount = (Text.splitOn '\n' t).length := by
  simp [lineCount, ofText, length_startsAfter, Text.length_splitOn]

/-- An index that tells the position of every offset of a text, and the offset of every position
within one of its lines. -/
structure Locates (index : LineIndex) (t : Text) : Prop where
  /-- The lines are the texts between the line ends. -/
  lines : index.lineCount = (Text.splitOn '\n' t).length
  /-- A position has the number of line ends before the offset, and how far the offset is behind
  the last of them. -/
  position : ∀ offset ≤ t.size, Text.lineStart offset t ≤ offset ∧ index.lineCol? offset =
    some ⟨(Text.cut offset t).1.count '\n', offset - Text.lineStart offset t⟩
  past : ∀ offset, t.size < offset → index.lineCol? offset = none
  /-- The position of an offset leads back to it. -/
  back : ∀ offset p, index.lineCol? offset = some p → index.offset? p = some offset
  ascending : ∀ offset offset' p p', index.lineCol? offset = some p →
    index.lineCol? offset' = some p' → offset < offset' →
    Prod.Lex (· < ·) (· < ·) (p.line, p.col) (p'.line, p'.col)
  /-- So does the offset of a position within a line; its end, or the end of the text, is the
  last column of a line. -/
  forth : ∀ n line col, (Text.splitOn '\n' t)[n]? = some line → col ≤ line.size →
    ∃ offset, index.offset? ⟨n, col⟩ = some offset ∧ index.lineCol? offset = some ⟨n, col⟩

/-- **Positions and offsets of a text are inverse to one another**, and go up together. -/
theorem locates_ofText (t : Text) : (ofText t).Locates t where
  lines := lineCount_ofText t
  position _ h := lineCol?_ofText h
  past _ h := lineCol?_past h
  back _ _ h := offset?_of_lineCol? h
  ascending _ _ _ _ h h' hlt := lineCol?_strictMono h h' hlt
  forth _ _ _ h hcol := lineCol?_of_line h hcol

end LineIndex
end StyleScope
