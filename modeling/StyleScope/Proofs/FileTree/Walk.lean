import StyleScope.Proofs.Path.Place

/-!
Following paths through a tree that grows.

A tree grows when directories stay directories and files stay files, whatever they hold. A path
that was followed in a tree is followed to the same place in every tree that it grows into, and
that place is the one the path names.
-/

namespace StyleScope

namespace FileTree

/-! ### Entries -/

@[simp] lemma get?_nil (t : FileTree) : t.get? [] = some .directory := rfl

lemma get?_eq_lookup (t : FileTree) {l : Location} (hl : l ≠ []) :
    t.get? l = t.entries.lookup l := by
  rw [get?, if_neg hl]

lemma lookup_filter_of_ne {entries : List (Location × Entry)} {l k : Location} (h : k ≠ l) :
    (entries.filter fun entry => entry.1 != l).lookup k = entries.lookup k := by
  induction entries with
  | nil => rfl
  | cons entry entries ih =>
    obtain ⟨j, e⟩ := entry
    by_cases hj : j = l
    · have hk : (k == l) = false := by simpa using h
      rw [List.filter_cons_of_neg (by simp [hj]), ih, List.lookup_cons, hj, hk]
    · rw [List.filter_cons_of_pos (by simpa using hj), List.lookup_cons, List.lookup_cons, ih]

lemma get?_put_self (t : FileTree) {l : Location} (hl : l ≠ []) (e : Entry) :
    (t.put l e).get? l = some e := by
  rw [get?_eq_lookup _ hl, put]
  simp

lemma get?_put_of_ne (t : FileTree) {l k : Location} (h : k ≠ l) (e : Entry) :
    (t.put l e).get? k = t.get? k := by
  by_cases hk : k = []
  · rw [hk, get?_nil, get?_nil]
  · have hne : (k == l) = false := by simpa using h
    rw [get?_eq_lookup _ hk, get?_eq_lookup _ hk, put, List.lookup_cons, hne]
    exact lookup_filter_of_ne h

lemma get?_put_of_get? {t : FileTree} {l : Location} {c : Contents}
    (h : t.get? l = some (.file c)) (k : Location) : (t.put l (.file c)).get? k = t.get? k := by
  by_cases hk : k = l
  · have hl : l ≠ [] := by
      rintro rfl
      simp at h
    rw [hk, get?_put_self t hl, h]
  · rw [get?_put_of_ne t hk]

/-! ### Growth -/

/-- Directories stay directories and files stay files; what the files hold may change. -/
structure Grows (t t' : FileTree) : Prop where
  directory : ∀ {l : Location}, t.get? l = some .directory → t'.get? l = some .directory
  file : ∀ {l : Location} {c : Contents}, t.get? l = some (.file c) →
    ∃ c', t'.get? l = some (.file c')

namespace Grows

variable {t t' t'' : FileTree} {l : Location}

lemma refl (t : FileTree) : t.Grows t := ⟨id, fun h => ⟨_, h⟩⟩

lemma trans (h : t.Grows t') (h' : t'.Grows t'') : t.Grows t'' where
  directory hl := h'.directory (h.directory hl)
  file hl := by
    obtain ⟨c', hc'⟩ := h.file hl
    exact h'.file hc'

lemma congr (h : t.Grows t') (heq : ∀ l, t''.get? l = t'.get? l) : t.Grows t'' where
  directory hl := (heq _).trans (h.directory hl)
  file hl := by
    obtain ⟨c', hc'⟩ := h.file hl
    exact ⟨c', (heq _).trans hc'⟩

lemma isSome (h : t.Grows t') (hl : (t.get? l).isSome = true) : (t'.get? l).isSome = true := by
  obtain ⟨e, he⟩ := Option.isSome_iff_exists.mp hl
  cases e with
  | directory => simp [h.directory he]
  | file c =>
    obtain ⟨c', hc'⟩ := h.file he
    simp [hc']

lemma ne_directory {c : Contents} (h : t.Grows t') (hl : t.get? l = some (.file c)) :
    t'.get? l ≠ some .directory := by
  obtain ⟨c', hc'⟩ := h.file hl
  simp [hc']

lemma put_directory (hl : t.get? l = none) : t.Grows (t.put l .directory) := by
  have hne {k : Location} {e : Entry} (hk : t.get? k = some e) : k ≠ l := by
    rintro rfl
    simp [hl] at hk
  exact ⟨fun hk => by rwa [get?_put_of_ne t (hne hk)],
    fun hk => ⟨_, by rwa [get?_put_of_ne t (hne hk)]⟩⟩

lemma put_file (hl : l ≠ []) (hdir : t.get? l ≠ some .directory) (c : Contents) :
    t.Grows (t.put l (.file c)) where
  directory {k} hk := by
    rw [get?_put_of_ne t (by rintro rfl; exact hdir hk)]
    exact hk
  file {k d} hk := by
    by_cases hkl : k = l
    · exact ⟨c, by rw [hkl, get?_put_self t hl]⟩
    · exact ⟨d, by rwa [get?_put_of_ne t hkl]⟩

end Grows

/-! ### Following segments -/

def walk (t : FileTree) (l : Location) (ss : List Text) : Except FileError Location :=
  ss.foldlM t.follow l

variable {t t' : FileTree} {l l' : Location} {s : Text} {ss : List Text} {cwd : Location}
  {p : Path}

@[simp] lemma walk_nil : t.walk l [] = .ok l := rfl

lemma walk_cons : t.walk l (s :: ss) = match t.follow l s with
    | .ok l' => t.walk l' ss
    | .error e => .error e := by
  unfold walk
  rw [List.foldlM_cons]
  cases t.follow l s <;> rfl

lemma walk_cons_eq_ok :
    t.walk l (s :: ss) = .ok l' ↔ ∃ k, t.follow l s = .ok k ∧ t.walk k ss = .ok l' := by
  rw [walk_cons]
  cases t.follow l s <;> simp

lemma walk_append (ss ts : List Text) : t.walk l (ss ++ ts) = match t.walk l ss with
    | .ok l' => t.walk l' ts
    | .error e => .error e := by
  induction ss generalizing l with
  | nil => rfl
  | cons s ss ih =>
    rw [List.cons_append, walk_cons, walk_cons]
    cases t.follow l s with
    | error e => rfl
    | ok l' => exact ih

lemma follow_of_isVoid (hl : t.get? l = some .directory) (hs : Path.isVoid s = true) :
    t.follow l s = .ok l := by
  simp [follow, hl, hs]

lemma follow_parent (hl : t.get? l = some .directory) :
    t.follow l ['.', '.'] = .ok l.dropLast := by
  simp [follow, hl, Path.isVoid]

lemma follow_of_name (hl : t.get? l = some .directory) (hs : Path.isVoid s = false)
    (hparent : s ≠ ['.', '.']) : t.follow l s =
      if maxNameSize < Text.size s then .error .nameTooLong
      else if (t.get? (l ++ [s])).isSome then .ok (l ++ [s]) else .error .notFound := by
  simp [follow, hl, hs, hparent]

lemma follow_of_ne_directory (hl : t.get? l ≠ some .directory) :
    t.follow l s = .error .notDirectory := by
  simp [follow, hl]

lemma directory_of_follow (h : t.follow l s = .ok l') : t.get? l = some .directory := by
  by_contra hl
  rw [follow_of_ne_directory hl] at h
  contradiction

lemma step_of_follow (h : t.follow l s = .ok l') : l' = l.step s := by
  have hl := directory_of_follow h
  unfold Location.step
  by_cases hs : Path.isVoid s = true
  · rw [follow_of_isVoid hl hs] at h
    rw [if_pos hs]
    exact (Except.ok.inj h).symm
  rw [if_neg hs]
  by_cases hparent : s = ['.', '.']
  · rw [hparent, follow_parent hl] at h
    rw [if_pos hparent]
    exact (Except.ok.inj h).symm
  · rw [follow_of_name hl (by simpa using hs) hparent] at h
    rw [if_neg hparent]
    split_ifs at h
    exact (Except.ok.inj h).symm

lemma Grows.follow (h : t.Grows t') (hs : t.follow l s = .ok l') : t'.follow l s = .ok l' := by
  have hl := directory_of_follow hs
  have hl' := h.directory hl
  by_cases hvoid : Path.isVoid s = true
  · rw [follow_of_isVoid hl hvoid] at hs
    rw [follow_of_isVoid hl' hvoid, hs]
  by_cases hparent : s = ['.', '.']
  · rw [hparent, follow_parent hl] at hs
    rw [hparent, follow_parent hl', hs]
  · rw [follow_of_name hl (by simpa using hvoid) hparent] at hs
    rw [follow_of_name hl' (by simpa using hvoid) hparent]
    split_ifs at hs with hsize hsome
    rw [if_neg hsize, if_pos (h.isSome hsome), hs]

lemma enter_of_walk (h : t.walk l ss = .ok l') : l' = l.enter ss := by
  induction ss generalizing l with
  | nil => exact (Except.ok.inj h).symm
  | cons s ss ih =>
    obtain ⟨k, hs, hss⟩ := walk_cons_eq_ok.mp h
    rw [Location.enter_cons, ← step_of_follow hs]
    exact ih hss

/-- **What was followed can still be followed when the tree has grown.** -/
lemma Grows.walk (h : t.Grows t') (hss : t.walk l ss = .ok l') : t'.walk l ss = .ok l' := by
  induction ss generalizing l with
  | nil => exact hss
  | cons s ss ih =>
    obtain ⟨k, hs, hss⟩ := walk_cons_eq_ok.mp hss
    exact walk_cons_eq_ok.mpr ⟨k, h.follow hs, ih hss⟩

/-! ### Locating -/

lemma locate_eq (t : FileTree) (cwd : Location) (p : Path) : t.locate cwd p =
    match checkPath p with
    | .ok () => t.walk (start cwd p) (Text.splitOn '/' p)
    | .error e => .error e := by
  unfold locate walk
  cases checkPath p <;> rfl

lemma locate_eq_ok : t.locate cwd p = .ok l ↔
    checkPath p = .ok () ∧ t.walk (start cwd p) (Text.splitOn '/' p) = .ok l := by
  rw [locate_eq]
  cases checkPath p <;> simp

lemma place_of_locate (h : t.locate cwd p = .ok l) : l = Path.place cwd p :=
  enter_of_walk (locate_eq_ok.mp h).2

lemma Grows.locate (h : t.Grows t') (hp : t.locate cwd p = .ok l) : t'.locate cwd p = .ok l := by
  obtain ⟨hcheck, hwalk⟩ := locate_eq_ok.mp hp
  exact locate_eq_ok.mpr ⟨hcheck, h.walk hwalk⟩

lemma walk_rooted (t : FileTree) {body : List Text} (hne : body ≠ []) (h : ∀ s ∈ body, '/' ∉ s)
    (cwd : Location) : t.walk (start cwd (Path.rooted body)) (Text.splitOn '/' (Path.rooted body)) =
      t.walk [] body := by
  rw [Path.splitOn_rooted hne h, walk_cons, start, if_pos (Path.isAbsolute_rooted body),
    follow_of_isVoid (get?_nil t) (by decide)]

lemma readText_of_locate (h : t.locate cwd p = .ok l) : t.readText cwd p =
    match t.get? l with
    | none => .error .notFound
    | some .directory => .error .isDirectory
    | some (.file c) => c.read := by
  unfold readText
  rw [h]
  rfl

lemma exists_last_of_readText {source : Text} (h : t.readText cwd p = .ok source) :
    ∃ ss s, Text.splitOn '/' p = ss ++ [s] ∧ Path.isVoid s = false := by
  cases hlocate : t.locate cwd p with
  | error e =>
    rw [readText, hlocate] at h
    contradiction
  | ok l =>
    obtain ⟨-, hwalk⟩ := locate_eq_ok.mp hlocate
    rcases List.eq_nil_or_concat' (Text.splitOn '/' p) with hnil | ⟨ss, s, hsplit⟩
    · exact absurd hnil (Text.splitOn_ne_nil '/' p)
    refine ⟨ss, s, hsplit, Bool.eq_false_iff.mpr fun hs => ?_⟩
    rw [hsplit, walk_append] at hwalk
    cases hss : t.walk (start cwd p) ss with
    | error e =>
      rw [hss] at hwalk
      contradiction
    | ok k =>
      rw [hss] at hwalk
      obtain ⟨j, hfollow, hj⟩ := walk_cons_eq_ok.mp hwalk
      obtain rfl := Except.ok.inj hj
      -- a segment without a meaning leads to the directory that it is followed from
      have hdir := directory_of_follow hfollow
      rw [follow_of_isVoid hdir hs] at hfollow
      obtain rfl := Except.ok.inj hfollow
      rw [readText_of_locate hlocate, hdir] at h
      contradiction

end FileTree
end StyleScope
