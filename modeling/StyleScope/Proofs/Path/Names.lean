import StyleScope.Proofs.Path.Place

/-!
File names and directories, read off the names of a path.

Whatever a path begins with, its components after that are its names. So the file name is the last
name, the parent has all names but the last, and the directory around a file is the name before the
last. A `..` stands for no name.
-/

namespace StyleScope.Path

lemma filter_split_body (p : Path) :
    (split p).body.filter (fun s => !isVoid s) = names p := by
  unfold split names
  split
  · next body hbody => rw [hbody, List.filter_cons_of_neg (by decide)]
  · next body hbody => rw [hbody, List.filter_cons_of_neg (by decide)]
  · rfl

lemma notMem_of_mem_split_body {p : Path} {s : Text} (h : s ∈ (split p).body) : '/' ∉ s := by
  refine Text.notMem_of_mem_splitOn (t := p) ?_
  unfold split at h
  split at h
  · next body hbody => exact hbody ▸ List.mem_cons_of_mem _ h
  · next body hbody => exact hbody ▸ List.mem_cons_of_mem _ h
  · exact h

lemma split_head_ne_normal (p : Path) (name : Text) : (split p).head ≠ some (.normal name) := by
  unfold split
  split
  · split_ifs <;> simp
  · simp
  · simp

lemma components_eq (p : Path) :
    components p = (split p).head.toList ++ (names p).map component := by
  rw [← filter_split_body]
  rfl

def lastName? (ns : List Text) : Option Text := ns.getLast?.filter fun n => n ≠ ['.', '.']

lemma fileName?_eq (p : Path) : fileName? p = lastName? (names p) := by
  unfold fileName? lastName?
  rw [components_eq]
  rcases List.eq_nil_or_concat' (names p) with hnil | ⟨ns, n, hn⟩
  · rw [hnil, List.map_nil, List.append_nil]
    have hhead := split_head_ne_normal p
    cases hsplit : (split p).head with
    | none => rfl
    | some c =>
      cases c with
      | normal name => exact absurd hsplit (hhead name)
      | _ => rfl
  · rw [hn, List.map_append, List.map_singleton, ← List.append_assoc, List.getLast?_concat,
      List.getLast?_concat]
    unfold component
    split_ifs with hparent
    · rw [hparent]
      rfl
    · simp [Option.filter, hparent]

lemma fileName?_ne_some_nil (p : Path) : fileName? p ≠ some [] := by
  intro h
  rw [fileName?_eq, lastName?, Option.filter_eq_some_iff] at h
  have hvoid := isVoid_of_mem_names (List.mem_of_getLast? h.1)
  contradiction

lemma getD_fileName?_eq_nil {p : Path} : (fileName? p).getD [] = [] ↔ fileName? p = none := by
  have hne := fileName?_ne_some_nil p
  cases hname : fileName? p with
  | none => simp
  | some n =>
    rw [hname] at hne
    simpa using hne

lemma names_toPath {s : Split} (hbody : ∀ n ∈ s.body, '/' ∉ n) :
    names s.toPath = s.body.filter fun n => !isVoid n := by
  have hjoin := names_join_names hbody
  obtain ⟨head, body⟩ := s
  unfold Split.toPath
  split
  · next heq =>
    rw [← hjoin, names, Text.splitOn, if_pos rfl, List.filter_cons_of_neg (by decide)]
    rfl
  · next heq =>
    simp only at heq
    rw [heq]
    rfl
  · next heq =>
    have hdot := Text.splitOn_append '/' ['.'] (Text.join ['/'] body)
    rw [List.singleton_append] at hdot
    rw [← hjoin, names, hdot]
    rfl
  · exact hjoin

lemma parent?_of_body {p : Path} {ss : List Text} {s : Text}
    (h : dropTailWhile isVoid (split p).body = ss ++ [s]) :
    parent? p = some (Split.mk (split p).head (dropTailWhile isVoid ss)).toPath := by
  simp only [parent?, h]
  split
  · next heq => exact absurd heq (by simp)
  · rw [List.dropLast_concat]

/-- **The parent of a path** has its names but the last. -/
lemma exists_parent? {p : Path} (h : names p ≠ []) :
    ∃ q, parent? p = some q ∧ names q = (names p).dropLast := by
  have hslash {ss ts us : List Text} (hss : ∀ s ∈ ss, '/' ∉ s) (heq : ss = ts ++ us) :
      ∀ s ∈ ts, '/' ∉ s :=
    fun s hs => hss s (heq ▸ List.mem_append_left us hs)
  have hnames := filter_split_body p
  rw [← filter_dropTailWhile_isVoid] at hnames
  rcases List.eq_nil_or_concat' (dropTailWhile isVoid (split p).body) with hnil | ⟨ss, s, hss⟩
  · rw [hnil] at hnames
    exact absurd hnames.symm h
  · have hs : isVoid s = false :=
      getLast?_dropTailWhile (split p).body s (by rw [hss, List.getLast?_concat]; rfl)
    obtain ⟨us, hus, -⟩ := exists_dropTailWhile_append isVoid (split p).body
    obtain ⟨vs, hvs, -⟩ := exists_dropTailWhile_append isVoid ss
    have hbody := hslash (fun s => notMem_of_mem_split_body) hus
    have hparent : ∀ s ∈ dropTailWhile isVoid ss, '/' ∉ s := hslash (hslash hbody hss) hvs
    refine ⟨_, parent?_of_body hss, ?_⟩
    rw [names_toPath hparent, filter_dropTailWhile_isVoid, ← hnames, hss, List.filter_append,
      List.filter_cons_of_pos (by simp [hs]), List.filter_nil, List.dropLast_concat]

lemma parent?_fileName? {p : Path} (h : names p ≠ []) :
    (parent? p).bind fileName? = lastName? (names p).dropLast := by
  obtain ⟨q, hq, hnames⟩ := exists_parent? h
  rw [hq, Option.bind_some, fileName?_eq, hnames]

/-! ### Joining -/

section Join

variable {q : Path} (hq : isAbsolute q = false) (hne : names q ≠ []) (p : Path)

include hq hne

lemma fileStem?_join : fileStem? (join p q) = fileStem? q := by
  have hname : fileName? (join p q) = fileName? q := by
    rw [fileName?_eq, fileName?_eq, names_join p hq, lastName?, lastName?,
      List.getLast?_append_of_ne_nil _ hne]
  rw [fileStem?, fileStem?, hname]

lemma directory_join_of_two_le (h : 2 ≤ (names q).length) :
    (parent? (join p q)).bind fileName? = (parent? q).bind fileName? := by
  have hnames := names_join p hq
  have hdir : (names q).dropLast ≠ [] := by
    rw [← List.length_pos_iff, List.length_dropLast]
    omega
  have hjoined : names (join p q) ≠ [] := by simp [hnames, hne]
  rw [parent?_fileName? hjoined, parent?_fileName? hne, hnames,
    List.dropLast_append_of_ne_nil hne, lastName?, lastName?, List.getLast?_append_of_ne_nil _ hdir]

lemma directory_join_of_lt_two (h : (names q).length < 2) :
    (parent? q).bind fileName? = none ∧ (parent? (join p q)).bind fileName? = fileName? p := by
  have hnames := names_join p hq
  have hdir : (names q).dropLast = [] := by
    rw [← List.length_eq_zero_iff, List.length_dropLast]
    omega
  have hjoined : names (join p q) ≠ [] := by simp [hnames, hne]
  rw [parent?_fileName? hne, parent?_fileName? hjoined, hnames,
    List.dropLast_append_of_ne_nil hne, hdir, List.append_nil, fileName?_eq]
  exact ⟨rfl, rfl⟩

end Join

end StyleScope.Path
