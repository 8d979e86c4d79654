import StyleScope.Proofs.FileTree.Directories

/-!
Writing files in directories that are made on the way.

A write that succeeds puts its text where the path leads and changes no other file, and one that
fails changes no file at all. Both do the same again in every tree that the result grows into.
-/

namespace StyleScope

namespace FileTree

variable {t t' t'' : FileTree} {l k : Location} {s : Text} {ss ts : List Text} {cwd : Location}
  {p : Path}

/-! ### Files by their paths -/

/-- A path under which a file can be written, whatever the tree is. -/
structure CanWrite (ss : List Text) (s : Text) : Prop where
  slash : ∀ s' ∈ ss ++ [s], '/' ∉ s'
  isName : Path.IsName s
  size : Text.size s ≤ maxNameSize
  check : checkPath (Path.rooted (ss ++ [s])) = .ok ()

lemma write_eq (t : FileTree) (cwd : Location) (p : Path) (text : Text) : t.write cwd p text =
    match t.locateParent cwd p with
    | .error e => .error e
    | .ok (_, none) => .error .isDirectory
    | .ok (l, some name) =>
      if p.getLast? = some '/' ∨ t.get? (l ++ [name]) = some .directory then .error .isDirectory
      else .ok (t.put (l ++ [name]) (.file (.text text))) := by
  unfold write
  rcases t.locateParent cwd p with e | ⟨l, _ | name⟩ <;> rfl

lemma getLast?_rooted (ss : List Text) (hs : s ≠ []) :
    (Path.rooted (ss ++ [s])).getLast? = s.getLast? := by
  have hsome := List.getLast?_eq_some_getLast hs
  by_cases hss : ss = []
  · simp [hss, Path.rooted, Text.join, List.getLast?_cons, hsome]
  · rw [Path.rooted_append hss (by simp), List.getLast?_append]
    simp [Path.rooted, Text.join, List.getLast?_cons, hsome]

lemma write_of_canWrite (h : CanWrite ss s) (hl : t.reach? [] ss = some l) (cwd : Location)
    (text : Text) : t.write cwd (Path.rooted (ss ++ [s])) text =
      if t.get? (l ++ [s]) = some .directory then .error .isDirectory
      else .ok (t.put (l ++ [s]) (.file (.text text))) := by
  obtain ⟨hwalk, hdir⟩ := reach?_eq_some.mp hl
  have hdots : ¬ (s = ['.'] ∨ s = ['.', '.']) := by
    rintro (rfl | rfl)
    · exact absurd h.isName (by decide)
    · exact absurd h.isName (by decide)
  have hlast : (Path.rooted (ss ++ [s])).getLast? ≠ some '/' := by
    rw [getLast?_rooted ss h.isName.ne_nil]
    exact fun hs => h.isName.2.2 (List.mem_of_getLast? hs)
  rw [write_eq, locateParent_rooted t cwd h.slash h.isName.ne_nil h.check, hwalk]
  simp only [ne_eq, hdir, not_true_eq_false, if_false, hdots, Nat.not_lt.mpr h.size, hlast,
    false_or]

lemma canWrite_of_write {text : Text} (hss : ∀ s' ∈ ss ++ [s], '/' ∉ s')
    (h : t.write cwd (Path.rooted (ss ++ [s])) text = .ok t') : CanWrite ss s := by
  rw [write_eq] at h
  have hcheck : checkPath (Path.rooted (ss ++ [s])) = .ok () := by
    cases hcheck : checkPath (Path.rooted (ss ++ [s])) with
    | ok u => rfl
    | error e =>
      unfold locateParent at h
      rw [hcheck] at h
      contradiction
  have hne : s ≠ [] := by
    rintro rfl
    have hlast : (Path.rooted (ss ++ [[]])).getLast? = some '/' := by
      by_cases hempty : ss = []
      · rw [hempty]
        rfl
      · rw [Path.rooted_append hempty (by simp)]
        exact List.getLast?_concat
    rw [hlast] at h
    rcases hparent : t.locateParent cwd (Path.rooted (ss ++ [[]])) with e | ⟨l, _ | name⟩ <;>
      simp [hparent] at h
  rw [locateParent_rooted t cwd hss hne hcheck] at h
  cases hwalk : t.walk [] ss with
  | error e => simp [hwalk] at h
  | ok l =>
    simp only [hwalk] at h
    split_ifs at h with hdir hdots hsize
    obtain ⟨hdot, hparent⟩ := not_or.mp hdots
    refine ⟨hss, ⟨by simp [Path.isVoid, hne, hdot], hparent, hss s (by simp)⟩, ?_, hcheck⟩
    exact Nat.le_of_not_lt hsize

/-- Makes directories along segments and writes a file there. -/
def writeAlong (t : FileTree) (ss : List Text) (s text : Text) : FileTree × Option Location :=
  match t.makeAlong [] ss with
  | (t, none) => (t, none)
  | (t, some l) =>
    if t.get? (l ++ [s]) = some .directory then (t, none)
    else (t.put (l ++ [s]) (.file (.text text)), some (l ++ [s]))

lemma writeDeep_of_canWrite (h : CanWrite ss s) (t : FileTree) (cwd : Location) (text : Text) :
    Agrees (t.writeDeep cwd (Path.rooted (ss ++ [s])) text) (t.writeAlong ss s text) := by
  have hss : ∀ s' ∈ ss, '/' ∉ s' := fun s' hs' => h.slash s' (List.mem_append_left [s] hs')
  have hcheck : checkPath (Path.rooted (dropTailWhile Path.isVoid ss)) = .ok () := by
    obtain ⟨ts, hts, -⟩ := exists_dropTailWhile_append Path.isVoid ss
    refine checkPath_of_prefix ?_ (by simp [Path.rooted]) h.check
    conv_rhs => rw [hts, List.append_assoc]
    exact Path.rooted_isPrefix_append _ _
  obtain ⟨htree, hok⟩ := makeDirectories_rooted t cwd hss hcheck
  unfold writeDeep writeAlong
  rw [Path.parent?_rooted_append h.slash h.isName.1, Option.getD_some]
  rcases hrun : t.makeDirectories cwd (Path.rooted (dropTailWhile Path.isVoid ss)) with
    ⟨t', e | u⟩
  · rcases hmade : t.makeAlong [] ss with ⟨t₁, _ | l⟩ <;> simp_all [Agrees]
  · rcases hmade : t.makeAlong [] ss with ⟨t₁, _ | l⟩
    · simp_all
    · obtain rfl : t' = t₁ := by simp_all
      simp only [write_of_canWrite h (reach?_of_makeAlong (get?_nil t) hmade)]
      by_cases hdir : t'.get? (l ++ [s]) = some .directory <;> simp [Agrees, hdir]

/-- **What a write can do**: write a file under its path in directories made along it, or else
fail, having made directories. -/
lemma writeDeep_cases (hp : Path.isAbsolute p = true) (cwd : Location) :
    (∃ ss s, CanWrite ss s ∧ p = Path.rooted (ss ++ [s]) ∧
      ∀ (t : FileTree) (text : Text),
        Agrees (t.writeDeep cwd p text) (t.writeAlong ss s text)) ∨
    (∃ ss, ss <+: (Text.splitOn '/' p).tail ∧ ∀ (t : FileTree) (text : Text),
      (t.writeDeep cwd p text).2 ≠ .ok () ∧
        (t.writeDeep cwd p text).1 = (t.makeAlong [] ss).1) := by
  obtain ⟨body, hne, hbody, rfl⟩ := Path.exists_rooted hp
  obtain ⟨ts, hbelow, hts⟩ := exists_makeDirectories cwd hne hbody
  rw [Path.splitOn_rooted hne hbody, List.tail_cons]
  obtain ⟨ss, s, rfl⟩ := (List.eq_nil_or_concat' body).resolve_left hne
  by_cases hcan : CanWrite ss s
  · exact .inl ⟨ss, s, hcan, rfl, fun t text => writeDeep_of_canWrite hcan t cwd text⟩
  · refine .inr ⟨ts, hbelow, fun t text => ?_⟩
    rw [← hts t]
    unfold writeDeep
    rcases t.makeDirectories cwd ((Path.parent? (Path.rooted (ss ++ [s]))).getD []) with
      ⟨t', e | u⟩
    · simp
    · cases hwrite : t'.write cwd (Path.rooted (ss ++ [s])) text with
      | error e => simp [hwrite]
      | ok t'' => exact absurd (canWrite_of_write hbody hwrite) hcan

/-! ### What a write leaves -/

variable {text text' : Text}

lemma writeAlong_cases (t : FileTree) (ss : List Text) (s text : Text) :
    (∃ t₁ k, t.makeAlong [] ss = (t₁, some k) ∧ t₁.get? (k ++ [s]) ≠ some .directory ∧
      t.writeAlong ss s text = (t₁.put (k ++ [s]) (.file (.text text)), some (k ++ [s]))) ∨
    (t.writeAlong ss s text = ((t.makeAlong [] ss).1, none) ∧
      ∀ k, (t.makeAlong [] ss).2 = some k →
        (t.makeAlong [] ss).1.get? (k ++ [s]) = some .directory) := by
  unfold writeAlong
  rcases hmake : t.makeAlong [] ss with ⟨t₁, _ | k⟩
  · exact .inr ⟨rfl, by simp⟩
  · by_cases hdir : t₁.get? (k ++ [s]) = some .directory
    · exact .inr ⟨by simp [hdir], by simpa using hdir⟩
    · exact .inl ⟨t₁, k, rfl, hdir, by simp [hdir]⟩

/-- **A write that fails** leaves directories behind and nothing else. -/
lemma writeDeep_failed (hp : Path.isAbsolute p = true)
    (h : (t.writeDeep cwd p text).2 ≠ .ok ()) :
    ∃ ss, ss <+: (Text.splitOn '/' p).tail ∧
      (t.writeDeep cwd p text).1 = (t.makeAlong [] ss).1 := by
  rcases writeDeep_cases hp cwd with ⟨ss, s, hcan, rfl, hagrees⟩ | ⟨ss, hbelow, hfails⟩
  · obtain ⟨htree, hok⟩ := hagrees t text
    rcases writeAlong_cases t ss s text with ⟨t₁, k, -, -, hwrite⟩ | ⟨hwrite, -⟩
    · rw [hwrite] at hok
      exact absurd (hok.mpr rfl) h
    · rw [Path.splitOn_rooted (by simp) hcan.slash, List.tail_cons]
      exact ⟨ss, List.prefix_append ss [s], by rw [htree, hwrite]⟩
  · exact ⟨ss, hbelow, (hfails t text).2⟩

/-- **A write that succeeds** puts the text at the place that the path names, in directories that
are made on the way. -/
lemma writeDeep_succeeded (hp : Path.isAbsolute p = true)
    (h : (t.writeDeep cwd p text).2 = .ok ()) :
    ∃ ss s k t₁, CanWrite ss s ∧ p = Path.rooted (ss ++ [s]) ∧
      t.makeAlong [] ss = (t₁, some k) ∧ Path.place cwd p = k ++ [s] ∧
      t₁.get? (k ++ [s]) ≠ some .directory ∧
      (t.writeDeep cwd p text).1 = t₁.put (k ++ [s]) (.file (.text text)) := by
  rcases writeDeep_cases hp cwd with ⟨ss, s, hcan, rfl, hagrees⟩ | ⟨ss, -, hfails⟩
  · obtain ⟨htree, hok⟩ := hagrees t text
    rcases writeAlong_cases t ss s text with ⟨t₁, k, hmake, hdir, hwrite⟩ | ⟨hwrite, -⟩
    · refine ⟨ss, s, k, t₁, hcan, rfl, hmake, ?_, hdir, by rw [htree, hwrite]⟩
      have hwalk := (reach?_eq_some.mp (reach?_of_makeAlong (get?_nil t) hmake)).1
      rw [Path.place_rooted cwd (by simp) hcan.slash, Location.enter_append, ← enter_of_walk hwalk,
        Location.enter_cons, Location.enter_nil, Path.step_of_isName hcan.isName]
    · rw [hwrite] at hok
      exact absurd (hok.mp h) (by simp)
  · exact absurd h (hfails t text).1

lemma grows_writeDeep (hp : Path.isAbsolute p = true) (t : FileTree) (cwd : Location)
    (text : Text) : t.Grows (t.writeDeep cwd p text).1 := by
  by_cases h : (t.writeDeep cwd p text).2 = .ok ()
  · obtain ⟨ss, s, k, t₁, -, -, hmake, -, hdir, htree⟩ := writeDeep_succeeded hp h
    have hgrows := grows_makeAlong t [] ss
    rw [hmake] at hgrows
    rw [htree]
    exact hgrows.trans (.put_file (by simp) hdir _)
  · obtain ⟨ss, -, htree⟩ := writeDeep_failed hp h
    rw [htree]
    exact grows_makeAlong t [] ss

lemma file_writeDeep_iff (hp : Path.isAbsolute p = true) {j : Location} (c : Contents)
    (hj : (t.writeDeep cwd p text).2 = .ok () → j ≠ Path.place cwd p) :
    (t.writeDeep cwd p text).1.get? j = some (.file c) ↔ t.get? j = some (.file c) := by
  by_cases h : (t.writeDeep cwd p text).2 = .ok ()
  · obtain ⟨ss, s, k, t₁, -, -, hmake, hplace, -, htree⟩ := writeDeep_succeeded hp h
    have hfile := file_makeAlong_iff t [] ss j c
    rw [hmake] at hfile
    rw [htree, get?_put_of_ne t₁ (hplace ▸ hj h), hfile]
  · obtain ⟨ss, -, htree⟩ := writeDeep_failed hp h
    rw [htree, file_makeAlong_iff]

lemma locate_writeDeep (hp : Path.isAbsolute p = true)
    (h : (t.writeDeep cwd p text).2 = .ok ()) :
    (t.writeDeep cwd p text).1.locate cwd p = .ok (Path.place cwd p) ∧
      (t.writeDeep cwd p text).1.get? (Path.place cwd p) = some (.file (.text text)) := by
  obtain ⟨ss, s, k, t₁, hcan, rfl, hmake, hplace, hdir, htree⟩ := writeDeep_succeeded hp h
  rw [htree, hplace]
  have hself := get?_put_self t₁ (l := k ++ [s]) (by simp) (.file (.text text))
  have hgrows : t₁.Grows (t₁.put (k ++ [s]) (.file (.text text))) := .put_file (by simp) hdir _
  obtain ⟨hwalk, hk⟩ := reach?_eq_some.mp (reach?_of_makeAlong (get?_nil t) hmake)
  have hfollow : (t₁.put (k ++ [s]) (.file (.text text))).follow k s = .ok (k ++ [s]) := by
    rw [follow_of_name (hgrows.directory hk) hcan.isName.1 hcan.isName.2.1, hself,
      if_neg (Nat.not_lt.mpr hcan.size)]
    rfl
  refine ⟨locate_eq_ok.mpr ⟨hcan.check, ?_⟩, hself⟩
  rw [walk_rooted _ (by simp) hcan.slash, walk_append, hgrows.walk hwalk]
  exact walk_cons_eq_ok.mpr ⟨k ++ [s], hfollow, rfl⟩

/-! ### Writing again -/

lemma IsTree.writeDeep (h : t.IsTree) (hp : Path.isAbsolute p = true) (cwd : Location)
    (text : Text) : (t.writeDeep cwd p text).1.IsTree := by
  by_cases hok : (t.writeDeep cwd p text).2 = .ok ()
  · obtain ⟨ss, s, k, t₁, hcan, -, hmake, -, hdir, htree⟩ := writeDeep_succeeded hp hok
    have ht₁ := h.makeAlong [] fun s' hs' => hcan.slash s' (List.mem_append_left [s] hs')
    rw [hmake] at ht₁
    have hk := (reach?_eq_some.mp (reach?_of_makeAlong (get?_nil t) hmake)).2
    rw [htree]
    exact ht₁.put hk hcan.isName fun hdir' => absurd hdir' hdir
  · obtain ⟨ss, hbelow, htree⟩ := writeDeep_failed hp hok
    rw [htree]
    refine h.makeAlong [] fun s hs => ?_
    exact Text.notMem_of_mem_splitOn (List.mem_of_mem_tail (hbelow.subset hs))

lemma exists_of_writeDeep (hp : Path.isAbsolute p = true) {j : Location} (hnone : t.get? j = none)
    (hsome : ((t.writeDeep cwd p text).1.get? j).isSome = true) :
    ∃ us, us <+: Path.names p ∧ j = Location.enter [] us := by
  have hfront {us : List Text} (hus : us <+: (Text.splitOn '/' p).tail) (hj : j = .enter [] us) :
      ∃ us, us <+: Path.names p ∧ j = Location.enter [] us := by
    refine ⟨us.filter fun s => !Path.isVoid s, ?_, by rw [hj, Location.enter_filter]⟩
    obtain ⟨body, hne, hbody, rfl⟩ := Path.exists_rooted hp
    rw [Path.splitOn_rooted hne hbody, List.tail_cons] at hus
    rw [Path.names, Path.splitOn_rooted hne hbody, List.filter_cons_of_neg (by decide)]
    exact hus.filter _
  by_cases hok : (t.writeDeep cwd p text).2 = .ok ()
  · obtain ⟨ss, s, k, t₁, hcan, rfl, hmake, hplace, -, htree⟩ := writeDeep_succeeded hp hok
    have hwhole : ss ++ [s] <+: (Text.splitOn '/' (Path.rooted (ss ++ [s]))).tail :=
      ⟨[], by rw [List.append_nil, Path.splitOn_rooted (by simp) hcan.slash, List.tail_cons]⟩
    by_cases hj : j = k ++ [s]
    · refine hfront hwhole ?_
      rw [hj, ← hplace, Path.place_rooted cwd (by simp) hcan.slash]
    · rw [htree, get?_put_of_ne t₁ hj] at hsome
      obtain ⟨us, hus, heq⟩ := exists_of_makeAlong hnone (by rw [hmake]; exact hsome)
      exact hfront ((hus.trans (List.prefix_append ss [s])).trans hwhole) heq
  · obtain ⟨ss, hbelow, htree⟩ := writeDeep_failed hp hok
    rw [htree] at hsome
    obtain ⟨us, hus, heq⟩ := exists_of_makeAlong hnone hsome
    exact hfront (hus.trans hbelow) heq

lemma writeDeep_succeeds_again (ht : t.Connected) (hp : Path.isAbsolute p = true)
    (hok : (t.writeDeep cwd p text).2 = .ok ()) (h : (t.writeDeep cwd p text).1.Grows t'')
    (text' : Text) : (t''.writeDeep cwd p text').2 = .ok () ∧
      (t''.writeDeep cwd p text').1 = t''.put (Path.place cwd p) (.file (.text text')) := by
  obtain ⟨ss, s, k, t₁, hcan, rfl, hmake, hplace, hdir, htree⟩ := writeDeep_succeeded hp hok
  rw [htree] at h
  have hgrows : (t.makeAlong [] ss).1.Grows t'' := by
    rw [hmake]
    exact (Grows.put_file (by simp) hdir _).trans h
  have hmake'' : t''.makeAlong [] ss = (t'', some k) := by
    rw [makeAlong_again ht (get?_nil t) hgrows, hmake]
  have hfile : t''.get? (k ++ [s]) ≠ some .directory :=
    h.ne_directory (get?_put_self t₁ (by simp) _)
  obtain ⟨htree'', hok''⟩ := writeDeep_of_canWrite hcan t'' cwd text'
  rw [htree'', hok'', writeAlong, hmake'', hplace]
  simp [hfile]

lemma writeDeep_fails_again (ht : t.Connected) (hp : Path.isAbsolute p = true)
    (hfail : (t.writeDeep cwd p text).2 ≠ .ok ()) (h : (t.writeDeep cwd p text).1.Grows t'')
    (text' : Text) : (t''.writeDeep cwd p text').2 ≠ .ok () ∧
      (t''.writeDeep cwd p text').1 = t'' := by
  rcases writeDeep_cases hp cwd with ⟨ss, s, hcan, rfl, hagrees⟩ | ⟨ss, -, hfails⟩
  · obtain ⟨htree, hok⟩ := hagrees t text
    rcases writeAlong_cases t ss s text with ⟨t₁, k, -, -, hwrite⟩ | ⟨hwrite, hdir⟩
    · rw [hwrite] at hok
      exact absurd (hok.mpr rfl) hfail
    · rw [htree, hwrite] at h
      obtain ⟨htree'', hok''⟩ := hagrees t'' text'
      have hwrite'' : t''.writeAlong ss s text' = (t'', none) := by
        unfold writeAlong
        rw [makeAlong_again ht (get?_nil t) h]
        rcases hmade : (t.makeAlong [] ss).2 with _ | k
        · rfl
        · simp [h.directory (hdir k hmade)]
      rw [htree'', ne_eq, hok'', hwrite'']
      simp
  · rw [(hfails t text).2] at h
    rw [(hfails t'' text').2, makeAlong_again ht (get?_nil t) h]
    exact ⟨(hfails t'' text').1, rfl⟩

lemma writeDeep_of_locate {c : Contents} (ht : t.Connected) (hp : Path.isAbsolute p = true)
    (h : t.locate cwd p = .ok l) (hl : t.get? l = some (.file c)) (text : Text) :
    (t.writeDeep cwd p text).2 = .ok () := by
  obtain ⟨hcheck, hwalk⟩ := locate_eq_ok.mp h
  obtain ⟨body, hne, hbody, rfl⟩ := Path.exists_rooted hp
  obtain ⟨ss, s, rfl⟩ := (List.eq_nil_or_concat' body).resolve_left hne
  rw [walk_rooted t hne hbody, walk_append] at hwalk
  cases hss : t.walk [] ss with
  | error e => simp [hss] at hwalk
  | ok k =>
    simp only [hss, walk_cons_eq_ok, walk_nil, Except.ok.injEq, exists_eq_right] at hwalk
    have hk := directory_of_follow hwalk
    have hstep := step_of_follow hwalk
    -- a segment that is no name leads to a directory
    have hvoid : Path.isVoid s = false := by
      by_contra hvoid
      rw [Location.step_of_isVoid (by simpa using hvoid)] at hstep
      simp [hstep, hk] at hl
    have hparent : s ≠ ['.', '.'] := by
      rintro rfl
      rw [follow_parent hk] at hwalk
      obtain rfl := Except.ok.inj hwalk
      simp [ht k (by simp [hk])] at hl
    have hname : Path.IsName s := ⟨hvoid, hparent, hbody s (by simp)⟩
    have hsize : Text.size s ≤ maxNameSize := by
      by_contra hsize
      rw [follow_of_name hk hvoid hparent, if_pos (by omega)] at hwalk
      contradiction
    have hmake : t.makeAlong [] ss = (t, some k) := by
      rw [makeAlong_of_walk (get?_nil t) (by simp [hss]), reach?_eq_some.mpr ⟨hss, hk⟩]
    rw [Path.step_of_isName hname] at hstep
    rw [(writeDeep_of_canWrite ⟨hbody, hname, hsize, hcheck⟩ t cwd text).2, writeAlong, hmake]
    simp [← hstep, hl]

end FileTree
end StyleScope
