import StyleScope.Proofs.LineIndex.Positions

/-!
The lines of a text.

The lines are the texts between the line ends, each without the carriage return before its line
end, and without the empty text behind the last line end. So a character that ends no line is on a
line that is listed, under the number of line ends before it, and texts that are written one on
each line are listed again.
-/

namespace StyleScope.Text

/-- A line without the carriage return before its end. -/
def chomp (line : Text) : Text := if line.getLast? = some '\r' then line.dropLast else line

lemma chomp_eq_self {line : Text} (h : line.getLast? ≠ some '\r') : chomp line = line := if_neg h

lemma chomp_of_return (line : Text) : chomp (line ++ ['\r']) = line := by
  simp [chomp]

lemma lines_eq (t : Text) : lines t = (splitOn '\n' t).dropLast.map chomp ++
    ((splitOn '\n' t).getLast?.filter fun last => !last.isEmpty).toList := by
  cases t with
  | nil => rfl
  | cons c t =>
    rw [lines]
    rcases (splitOn '\n' (c :: t)).getLast? with _ | (_ | ⟨d, last⟩)
    · exact (List.append_nil _).symm
    · exact (List.append_nil _).symm
    · rfl

section Parts

variable {ended line : Text}

lemma splitOn_of_parts (hended : ended.EndsLine) (hline : '\n' ∉ line) :
    ∃ before, before.length = ended.count '\n' ∧ splitOn '\n' (ended ++ line) = before ++ [line] ∧
      ∀ rest, splitOn '\n' (ended ++ (line ++ '\n' :: rest)) =
        before ++ line :: splitOn '\n' rest := by
  have hlast := splitOn_of_notMem hline
  have hmore (rest : Text) : splitOn '\n' (line ++ '\n' :: rest) = line :: splitOn '\n' rest := by
    rw [splitOn_append, hlast, List.singleton_append]
  rcases List.eq_nil_or_concat ended with rfl | ⟨a, c, rfl⟩
  · exact ⟨[], rfl, hlast, hmore⟩
  · rw [List.concat_eq_append] at hended ⊢
    obtain rfl : c = '\n' := hended c (by simp)
    refine ⟨splitOn '\n' a, by simp [length_splitOn], ?_, fun rest => ?_⟩
    · rw [List.append_assoc, List.singleton_append, splitOn_append, hlast]
    · rw [List.append_assoc, List.singleton_append, splitOn_append, hmore]

lemma getElem?_lines (hended : ended.EndsLine) (hline : '\n' ∉ line) (rest : Text) :
    (lines (ended ++ (line ++ '\n' :: rest)))[ended.count '\n']? = some (chomp line) := by
  obtain ⟨before, hlength, -, hsplit⟩ := splitOn_of_parts hended hline
  rw [lines_eq, hsplit, List.dropLast_append_of_ne_nil (by simp),
    List.dropLast_cons_of_ne_nil (splitOn_ne_nil '\n' rest), ← hlength]
  simp

lemma getElem?_lines_last (hended : ended.EndsLine) (hline : '\n' ∉ line) (hne : line ≠ []) :
    (lines (ended ++ line))[ended.count '\n']? = some line := by
  obtain ⟨before, hlength, hsplit, -⟩ := splitOn_of_parts hended hline
  rw [lines_eq, hsplit, List.dropLast_concat, List.getLast?_concat, ← hlength,
    Option.filter_some, if_pos (by simpa using hne)]
  simp

end Parts

/-- The line of a text that an offset is in, and where it starts. The line end, `\n` or `\r\n`, is
no part of it; the last line may have none. -/
def LineAt (t : Text) (offset start : Nat) (line : Text) : Prop :=
  ∃ ended ending rest, t = ended ++ (line ++ (ending ++ rest)) ∧ ended.EndsLine ∧
    ended.size = start ∧ '\n' ∉ line ∧
    (ending = [] ∧ rest = [] ∨ ending = ['\n'] ∧ line.getLast? ≠ some '\r' ∨
      ending = ['\r', '\n']) ∧
    start ≤ offset ∧ offset < start + line.size

lemma exists_line_before (before after : Text) :
    ∃ ended part, before = ended ++ part ∧ ended.EndsLine ∧ '\n' ∉ part ∧
      lineStart before.size (before ++ after) = ended.size := by
  obtain ⟨part, hbefore, hpart⟩ := exists_dropTailWhile_append (fun c => c != '\n') before
  refine ⟨_, part, hbefore, fun c hc => ?_, fun hmem => ?_, ?_⟩
  · simpa using getLast?_dropTailWhile _ c hc
  · simpa using hpart _ hmem
  · rw [lineStart, cut_size_append]

lemma exists_line_after (after : Text) :
    ∃ tail, '\n' ∉ tail ∧ (after = tail ∨ ∃ rest, after = tail ++ '\n' :: rest) := by
  have happ := List.takeWhile_append_dropWhile (p := (· != '\n')) (l := after)
  refine ⟨after.takeWhile (· != '\n'), fun hmem => ?_, ?_⟩
  · simpa using List.mem_takeWhile_imp hmem
  rcases hrest : after.dropWhile (· != '\n') with _ | ⟨d, rest⟩
  · rw [hrest, List.append_nil] at happ
    exact .inl happ.symm
  · have hhead := List.head_dropWhile_not (p := (· != '\n')) (l := after) (by simp [hrest])
    obtain rfl : d = '\n' := by simpa [hrest] using hhead
    rw [hrest] at happ
    exact .inr ⟨rest, happ.symm⟩

/-- **A character that ends no line is on a line that is listed**, under the number of line ends
before it. -/
theorem exists_lineAt {c : Char} (hreturn : c ≠ '\r') (hline : c ≠ '\n') (before after : Text) :
    ∃ line, (before ++ c :: after).LineAt before.size
        (lineStart before.size (before ++ c :: after)) line ∧
      (lines (before ++ c :: after))[before.count '\n']? = some line := by
  obtain ⟨ended, part, hbefore, hended, hpart, hstart⟩ := exists_line_before before (c :: after)
  obtain ⟨tail, htail, hafter⟩ := exists_line_after after
  rw [hstart]
  subst hbefore
  have hcount : (ended ++ part).count '\n' = ended.count '\n' := by
    rw [List.count_append, List.count_eq_zero.mpr hpart, Nat.add_zero]
  have hwhole : '\n' ∉ part ++ c :: tail := by
    simp [hpart, Ne.symm hline, htail]
  have hwithin (tail : Text) : (ended ++ part).size < ended.size + (part ++ c :: tail).size := by
    have hpos := Char.utf8Size_pos c
    simp only [size_append, size_cons]
    omega
  rw [hcount]
  rcases hafter with rfl | ⟨rest, rfl⟩
  · refine ⟨part ++ c :: after, ⟨ended, [], [], by simp, hended, rfl, hwhole, .inl ⟨rfl, rfl⟩,
      by simp, hwithin after⟩, ?_⟩
    rw [List.append_assoc]
    exact getElem?_lines_last hended hwhole (by simp)
  · have hget := getElem?_lines hended hwhole rest
    have hassoc : ended ++ part ++ c :: (tail ++ '\n' :: rest) =
        ended ++ (part ++ c :: tail ++ '\n' :: rest) := by simp
    rw [hassoc]
    refine ⟨_, ?_, hget⟩
    by_cases hend : (part ++ c :: tail).getLast? = some '\r'
    · -- the carriage return is not the character itself, so it stands behind it
      obtain ⟨tail, rfl⟩ : ∃ tail', tail = tail' ++ ['\r'] := by
        rcases List.eq_nil_or_concat tail with rfl | ⟨tail', d, rfl⟩
        · simp [hreturn] at hend
        · rw [List.concat_eq_append, ← List.cons_append, ← List.append_assoc,
            List.getLast?_concat] at hend
          exact ⟨tail', by rw [Option.some.inj hend, List.concat_eq_append]⟩
      have happ : part ++ c :: (tail ++ ['\r']) = part ++ c :: tail ++ ['\r'] := by simp
      rw [happ] at hwhole ⊢
      rw [chomp_of_return]
      exact ⟨ended, ['\r', '\n'], rest, by simp, hended, rfl,
        fun hmem => hwhole (List.mem_append_left _ hmem), .inr (.inr rfl), by simp, hwithin tail⟩
    · rw [chomp_eq_self hend]
      exact ⟨ended, ['\n'], rest, by simp, hended, rfl, hwhole, .inr (.inl ⟨rfl, hend⟩), by simp,
        hwithin tail⟩

/-- **Texts written one on each line are the lines again.** -/
theorem lines_flatMap {ts : List Text} (hline : ∀ t ∈ ts, '\n' ∉ t)
    (hreturn : ∀ t ∈ ts, t.getLast? ≠ some '\r') : lines (ts.flatMap (· ++ ['\n'])) = ts := by
  have hjoin (us : List Text) : us.flatMap (· ++ ['\n']) = join ['\n'] (us ++ [[]]) := by
    induction us with
    | nil => rfl
    | cons u us ih =>
      rw [List.flatMap_cons, ih, List.cons_append, join_cons _ _ (by simp), List.append_assoc]
  have hsplit : splitOn '\n' (join ['\n'] (ts ++ [[]])) = ts ++ [[]] := by
    refine splitOn_join (by simp) fun t ht => ?_
    rcases List.mem_append.mp ht with ht | ht
    · exact hline t ht
    · simp [List.mem_singleton.mp ht]
  rw [hjoin, lines_eq, hsplit, List.dropLast_concat, List.getLast?_concat]
  have hchomp : ts.map chomp = ts := by
    refine (List.map_congr_left fun t ht => ?_).trans (List.map_id ts)
    exact chomp_eq_self (hreturn t ht)
  simp [hchomp]

lemma length_lines {t : Text} (h : t.EndsLine) : (lines t).length = t.count '\n' := by
  obtain ⟨before, hlength, hsplit, -⟩ := splitOn_of_parts h List.not_mem_nil
  rw [List.append_nil] at hsplit
  rw [lines_eq, hsplit, List.dropLast_concat, List.getLast?_concat, ← hlength]
  simp

end StyleScope.Text
