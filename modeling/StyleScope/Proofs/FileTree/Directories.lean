import Mathlib.Data.List.Nodup
import StyleScope.Proofs.FileTree.Walk

/-!
Making directories along a path.

`makeAlong` makes directories in the order in which a path names them, where the operation of the
tree tries the longest path first and goes back; both leave the same tree. What was made is not made
again in a tree that has grown since, and in a tree without gaps what could not be made cannot be
made later.
-/

namespace StyleScope

namespace FileTree

/-- Makes sure that a segment leads to a directory, which is made if nothing has the name. -/
def makeStep (t : FileTree) (l : Location) (s : Text) : FileTree × Option Location :=
  match t.follow l s with
  | .ok k => (t, if t.get? k = some .directory then some k else none)
  | .error .notFound => (t.put (l ++ [s]) .directory, some (l ++ [s]))
  | .error _ => (t, none)

/-- Makes sure that segments lead from directory to directory. -/
def makeAlong : FileTree → Location → List Text → FileTree × Option Location
  | t, l, [] => (t, some l)
  | t, l, s :: ss =>
    match t.makeStep l s with
    | (t, some k) => makeAlong t k ss
    | (t, none) => (t, none)

variable {t t' t'' : FileTree} {l k : Location} {s : Text} {ss ts : List Text} {cwd : Location}
  {p : Path}

lemma follow_eq_notFound (h : t.follow l s = .error .notFound) :
    t.get? l = some .directory ∧ t.get? (l ++ [s]) = none ∧ Path.isVoid s = false ∧
      s ≠ ['.', '.'] ∧ Text.size s ≤ maxNameSize := by
  have hl : t.get? l = some .directory := by
    by_contra hl
    simp [follow_of_ne_directory hl] at h
  have hvoid : Path.isVoid s = false := by
    by_contra hvoid
    simp [follow_of_isVoid hl (by simpa using hvoid)] at h
  have hparent : s ≠ ['.', '.'] := by
    rintro rfl
    simp [follow_parent hl] at h
  rw [follow_of_name hl hvoid hparent] at h
  split_ifs at h with hsize hsome
  · simp at h
  · exact ⟨hl, by simpa using hsome, hvoid, hparent, Nat.le_of_not_lt hsize⟩

/-! ### One step -/

lemma makeStep_of_follow (h : t.follow l s = .ok k) (hk : t.get? k = some .directory) :
    t.makeStep l s = (t, some k) := by
  simp [makeStep, h, hk]

lemma follow_of_makeStep (h : t.makeStep l s = (t', some k)) :
    t'.follow l s = .ok k ∧ t'.get? k = some .directory := by
  unfold makeStep at h
  split at h
  · rename_i k' hfollow
    split_ifs at h with hk
    · simp only [Prod.mk.injEq, Option.some.injEq] at h
      obtain ⟨rfl, rfl⟩ := h
      exact ⟨hfollow, hk⟩
    · simp at h
  · rename_i hfollow
    simp only [Prod.mk.injEq, Option.some.injEq] at h
    obtain ⟨rfl, rfl⟩ := h
    obtain ⟨hl, -, hvoid, hparent, hsize⟩ := follow_eq_notFound hfollow
    have hself := get?_put_self t (l := l ++ [s]) (by simp) .directory
    have hl' : (t.put (l ++ [s]) .directory).get? l = some .directory := by
      rwa [get?_put_of_ne t (by simp)]
    refine ⟨?_, hself⟩
    rw [follow_of_name hl' hvoid hparent, hself, if_neg (by omega)]
    rfl
  · simp at h

/-- What allows a directory to be made: it is missing in one that is there, and its segment is not
one of those that lead nowhere or back. -/
structure CanMake (t : FileTree) (l : Location) (s : Text) : Prop where
  missing : t.get? (l ++ [s]) = none
  directory : t.get? l = some .directory
  isVoid : Path.isVoid s = false
  parent : s ≠ ['.', '.']

lemma makeStep_tree (t : FileTree) (l : Location) (s : Text) :
    (t.makeStep l s).1 = t ∨
      (t.CanMake l s ∧ (t.makeStep l s).1 = t.put (l ++ [s]) .directory) := by
  unfold makeStep
  split
  · exact .inl rfl
  · rename_i hfollow
    obtain ⟨hl, hnone, hvoid, hparent, -⟩ := follow_eq_notFound hfollow
    exact .inr ⟨⟨hnone, hl, hvoid, hparent⟩, rfl⟩
  · exact .inl rfl

lemma tree_of_makeStep_none (h : t.makeStep l s = (t', none)) : t' = t := by
  unfold makeStep at h
  split at h <;> simp_all

lemma Grows.makeStep (h : t'.Grows t'') (hstep : t.makeStep l s = (t', some k)) :
    t''.makeStep l s = (t'', some k) := by
  obtain ⟨hfollow, hk⟩ := follow_of_makeStep hstep
  exact makeStep_of_follow (h.follow hfollow) (h.directory hk)

/-! ### Several steps -/

lemma makeAlong_cons_some (h : t.makeStep l s = (t', some k)) (ss : List Text) :
    t.makeAlong l (s :: ss) = t'.makeAlong k ss := by
  rw [makeAlong, h]

lemma makeAlong_cons_none (h : t.makeStep l s = (t', none)) (ss : List Text) :
    t.makeAlong l (s :: ss) = (t', none) := by
  rw [makeAlong, h]

/-- What holds between a tree and the tree with one more directory in a directory holds between a
tree and what making directories leaves. -/
lemma makeAlong_induction {R : FileTree → FileTree → Prop} (refl : ∀ t, R t t)
    (trans : ∀ t t' t'', R t t' → R t' t'' → R t t'') {ss : List Text}
    (put : ∀ t l, ∀ s ∈ ss, t.CanMake l s → R t (t.put (l ++ [s]) .directory))
    (t : FileTree) (l : Location) : R t (t.makeAlong l ss).1 := by
  induction ss generalizing t l with
  | nil => exact refl t
  | cons s ss ih =>
    have hstep : R t (t.makeStep l s).1 := by
      rcases makeStep_tree t l s with h | ⟨hcan, h⟩
      · rw [h]
        exact refl t
      · rw [h]
        exact put t l s List.mem_cons_self hcan
    rcases hmake : t.makeStep l s with ⟨t', _ | k⟩
    · rw [makeAlong_cons_none hmake]
      rwa [hmake] at hstep
    · rw [makeAlong_cons_some hmake]
      rw [hmake] at hstep
      refine trans _ _ _ hstep (ih (fun t l s' hs' => ?_) t' k)
      exact put t l s' (List.mem_cons_of_mem s hs')

lemma grows_makeAlong (t : FileTree) (l : Location) (ss : List Text) :
    t.Grows (t.makeAlong l ss).1 :=
  makeAlong_induction .refl (fun _ _ _ h h' => h.trans h')
    (fun _ _ _ _ hcan => .put_directory hcan.missing) t l

lemma file_makeAlong_iff (t : FileTree) (l : Location) (ss : List Text) (j : Location)
    (c : Contents) : (t.makeAlong l ss).1.get? j = some (.file c) ↔ t.get? j = some (.file c) := by
  refine makeAlong_induction
    (R := fun t t' => t'.get? j = some (.file c) ↔ t.get? j = some (.file c))
    (fun _ => Iff.rfl) (fun _ _ _ h h' => h'.trans h) (fun t l s _ hcan => ?_) t l
  by_cases hj : j = l ++ [s]
  · rw [hj, get?_put_self t (by simp), hcan.missing]
    simp
  · rw [get?_put_of_ne t hj]

lemma exists_of_makeAlong {j : Location} (hnone : t.get? j = none)
    (hsome : ((t.makeAlong l ss).1.get? j).isSome = true) : ∃ us, us <+: ss ∧ j = l.enter us := by
  induction ss generalizing t l with
  | nil => simp [makeAlong, hnone] at hsome
  | cons s ss ih =>
    by_cases hj : j = l.step s
    · exact ⟨[s], by simp, by simp [hj]⟩
    have hstep : (t.makeStep l s).1.get? j = none := by
      rcases makeStep_tree t l s with h | ⟨hcan, h⟩
      · rwa [h]
      · have hname : l.step s = l ++ [s] := by simp [Location.step, hcan.isVoid, hcan.parent]
        rw [h, get?_put_of_ne t (hname ▸ hj), hnone]
    rcases hmake : t.makeStep l s with ⟨t', _ | k⟩
    · rw [hmake] at hstep
      simp [makeAlong_cons_none hmake, hstep] at hsome
    · rw [hmake] at hstep
      rw [makeAlong_cons_some hmake] at hsome
      obtain ⟨us, hus, rfl⟩ := ih hstep hsome
      have hk := step_of_follow (follow_of_makeStep hmake).1
      exact ⟨s :: us, List.cons_prefix_cons.mpr ⟨rfl, hus⟩, by rw [hk, Location.enter_cons]⟩

lemma makeAlong_append (ss ts : List Text) : t.makeAlong l (ss ++ ts) =
    match t.makeAlong l ss with
    | (t, some k) => t.makeAlong k ts
    | (t, none) => (t, none) := by
  induction ss generalizing t l with
  | nil => rfl
  | cons s ss ih =>
    rw [List.cons_append]
    rcases hstep : t.makeStep l s with ⟨t', _ | k⟩
    · rw [makeAlong_cons_none hstep, makeAlong_cons_none hstep]
    · rw [makeAlong_cons_some hstep, makeAlong_cons_some hstep, ih]

lemma makeAlong_singleton (t : FileTree) (l : Location) (s : Text) :
    t.makeAlong l [s] = t.makeStep l s := by
  rcases hstep : t.makeStep l s with ⟨t', _ | k⟩
  · rw [makeAlong_cons_none hstep]
  · rw [makeAlong_cons_some hstep, makeAlong]

/-- The directory that segments lead to. -/
def reach? (t : FileTree) (l : Location) (ss : List Text) : Option Location :=
  match t.walk l ss with
  | .ok k => if t.get? k = some .directory then some k else none
  | .error _ => none

lemma reach?_eq_some : t.reach? l ss = some k ↔
    t.walk l ss = .ok k ∧ t.get? k = some .directory := by
  unfold reach?
  cases t.walk l ss with
  | error e => simp
  | ok j =>
    simp only [Option.ite_none_right_eq_some, Option.some.injEq, Except.ok.injEq]
    constructor
    · rintro ⟨hj, rfl⟩
      exact ⟨rfl, hj⟩
    · rintro ⟨rfl, hj⟩
      exact ⟨hj, rfl⟩

lemma reach?_of_ne_directory (hl : t.get? l ≠ some .directory) (ss : List Text) :
    t.reach? l ss = none := by
  cases ss with
  | nil => simp [reach?, hl]
  | cons s ss => simp [reach?, walk_cons, follow_of_ne_directory hl]

lemma reach?_cons_of_follow (h : t.follow l s = .ok k) (ss : List Text) :
    t.reach? l (s :: ss) = t.reach? k ss := by
  rw [reach?, walk_cons, h, reach?]

lemma reach?_filter (l : Location) (ss : List Text) :
    t.reach? l (ss.filter fun s => !Path.isVoid s) = t.reach? l ss := by
  induction ss generalizing l with
  | nil => rfl
  | cons s ss ih =>
    by_cases hl : t.get? l = some .directory
    · by_cases hs : Path.isVoid s = true
      · rw [List.filter_cons_of_neg (by simp [hs]), ih,
          reach?_cons_of_follow (follow_of_isVoid hl hs)]
      · rw [List.filter_cons_of_pos (by simpa using hs)]
        cases hfollow : t.follow l s with
        | ok k => rw [reach?_cons_of_follow hfollow, reach?_cons_of_follow hfollow, ih]
        | error e => simp [reach?, walk_cons, hfollow]
    · rw [reach?_of_ne_directory hl, reach?_of_ne_directory hl]

lemma makeAlong_of_walk (hl : t.get? l = some .directory)
    (h : t.walk l ss ≠ .error .notFound) : t.makeAlong l ss = (t, t.reach? l ss) := by
  induction ss generalizing l with
  | nil => simp [makeAlong, reach?, hl]
  | cons s ss ih =>
    rw [walk_cons] at h
    rw [reach?, walk_cons]
    cases hfollow : t.follow l s with
    | error e =>
      have hstep : t.makeStep l s = (t, none) := by
        rw [hfollow] at h
        unfold makeStep
        rw [hfollow]
        cases e <;> simp_all
      rw [makeAlong_cons_none hstep]
    | ok k =>
      rw [hfollow] at h
      by_cases hk : t.get? k = some .directory
      · rw [makeAlong_cons_some (makeStep_of_follow hfollow hk), ih hk h]
        rfl
      · have hstep : t.makeStep l s = (t, none) := by simp [makeStep, hfollow, hk]
        rw [makeAlong_cons_none hstep]
        -- there is no way on from what is no directory
        cases ss with
        | nil => simp [hk]
        | cons s' ss => simp [walk_cons, follow_of_ne_directory hk]

lemma reach?_of_makeAlong (hl : t.get? l = some .directory)
    (h : t.makeAlong l ss = (t', some k)) : t'.reach? l ss = some k := by
  rw [reach?_eq_some]
  induction ss generalizing t l with
  | nil =>
    simp only [makeAlong, Prod.mk.injEq, Option.some.injEq] at h
    obtain ⟨rfl, rfl⟩ := h
    exact ⟨rfl, hl⟩
  | cons s ss ih =>
    rcases hstep : t.makeStep l s with ⟨t₁, _ | j⟩
    · simp [makeAlong_cons_none hstep] at h
    · rw [makeAlong_cons_some hstep] at h
      obtain ⟨hfollow, hj⟩ := follow_of_makeStep hstep
      have hgrows := grows_makeAlong t₁ j ss
      rw [h] at hgrows
      obtain ⟨hwalk, hk⟩ := ih hj h
      exact ⟨walk_cons_eq_ok.mpr ⟨j, hgrows.follow hfollow, hwalk⟩, hk⟩

lemma makeAlong_of_isVoid (hl : t.get? l = some .directory)
    (hss : ∀ s ∈ ss, Path.isVoid s = true) : t.makeAlong l ss = (t, some l) := by
  induction ss with
  | nil => rfl
  | cons s ss ih =>
    have hfollow := follow_of_isVoid hl (hss s List.mem_cons_self)
    rw [makeAlong_cons_some (makeStep_of_follow hfollow hl),
      ih fun s' hs' => hss s' (List.mem_cons_of_mem s hs')]

lemma makeAlong_dropTailWhile (hl : t.get? l = some .directory) (ss : List Text) :
    t.makeAlong l (dropTailWhile Path.isVoid ss) = t.makeAlong l ss := by
  obtain ⟨ts, hss, hts⟩ := exists_dropTailWhile_append Path.isVoid ss
  conv_rhs => rw [hss, makeAlong_append]
  rcases hmake : t.makeAlong l (dropTailWhile Path.isVoid ss) with ⟨t', _ | k⟩
  · rfl
  · have hk := (reach?_eq_some.mp (reach?_of_makeAlong hl hmake)).2
    exact (makeAlong_of_isVoid hk hts).symm

/-! ### Trees without gaps -/

/-- Whatever a tree holds stands in a directory of it. -/
def Connected (t : FileTree) : Prop :=
  ∀ l : Location, (t.get? l).isSome = true → t.get? l.dropLast = some .directory

lemma Connected.directory_of_append {ns : List Text} (h : t.Connected) (hne : ns ≠ [])
    (hsome : (t.get? (l ++ ns)).isSome = true) : t.get? l = some .directory := by
  induction ns using List.reverseRecOn with
  | nil => exact absurd rfl hne
  | append_singleton ns n ih =>
    have hparent := h (l ++ (ns ++ [n])) hsome
    rw [← List.append_assoc, List.dropLast_concat] at hparent
    by_cases hns : ns = []
    · simpa [hns] using hparent
    · exact ih hns (by simp [hparent])

lemma Connected.put {e : Entry} (h : t.Connected) (hl : l ≠ [])
    (hparent : t.get? l.dropLast = some .directory)
    (he : t.get? l = some .directory → e = .directory) : (t.put l e).Connected := by
  have hshort {j : Location} (hj : j ≠ []) : j.dropLast ≠ j := by
    intro heq
    have hlength := congrArg List.length heq
    have hpos := List.length_pos_of_ne_nil hj
    rw [List.length_dropLast] at hlength
    omega
  intro k hk
  by_cases hkl : k = l
  · rw [hkl, get?_put_of_ne t (hshort hl)]
    exact hparent
  rw [get?_put_of_ne t hkl] at hk
  have hdir := h k hk
  by_cases hlast : k.dropLast = l
  · rw [hlast] at hdir ⊢
    rw [get?_put_self t hl, he hdir]
  · rw [get?_put_of_ne t hlast]
    exact hdir

lemma Connected.makeAlong (h : t.Connected) (l : Location) (ss : List Text) :
    (t.makeAlong l ss).1.Connected := by
  refine makeAlong_induction (R := fun t t' => t.Connected → t'.Connected) (fun _ => id)
    (fun _ _ _ h h' ht => h' (h ht)) (fun t l s _ hcan ht => ?_) t l h
  exact ht.put (by simp) (by simpa using hcan.directory) fun _ => rfl

/-- A tree as a file system has it: one entry for a place, names that can be followed, and no
gaps. -/
structure IsTree (t : FileTree) : Prop where
  nodup : (t.entries.map Prod.fst).Nodup
  names : ∀ e ∈ t.entries, e.1 ≠ [] ∧ ∀ n ∈ e.1, Path.IsName n
  connected : t.Connected

lemma mem_entries_of_get? {e : Entry} (hl : l ≠ []) (h : t.get? l = some e) :
    (l, e) ∈ t.entries := by
  rw [get?_eq_lookup t hl, List.lookup_eq_some_iff] at h
  obtain ⟨before, after, hentries, -⟩ := h
  simp [hentries]

lemma isSome_get?_of_mem {e : Location × Entry} (he : e ∈ t.entries) :
    (t.get? e.1).isSome = true := by
  by_cases hl : e.1 = []
  · simp [hl]
  · rw [get?_eq_lookup t hl, List.lookup_isSome_iff]
    exact ⟨e, he, by simp⟩

lemma connected_iff (t : FileTree) :
    t.Connected ↔ ∀ e ∈ t.entries, t.get? e.1.dropLast = some .directory := by
  constructor
  · exact fun h e he => h e.1 (isSome_get?_of_mem he)
  · intro h l hl
    by_cases hnil : l = []
    · simp [hnil]
    · obtain ⟨e, he⟩ := Option.isSome_iff_exists.mp hl
      exact h (l, e) (mem_entries_of_get? hnil he)

instance (t : FileTree) : Decidable t.IsTree :=
  decidable_of_iff ((t.entries.map Prod.fst).Nodup ∧
      (∀ e ∈ t.entries, e.1 ≠ [] ∧ ∀ n ∈ e.1, Path.IsName n) ∧
      ∀ e ∈ t.entries, t.get? e.1.dropLast = some .directory)
    ⟨fun ⟨hnodup, hnames, hheld⟩ => ⟨hnodup, hnames, (connected_iff t).mpr hheld⟩,
      fun h => ⟨h.nodup, h.names, (connected_iff t).mp h.connected⟩⟩

lemma IsTree.isName {n : Text} (h : t.IsTree) (hl : (t.get? l).isSome = true) (hn : n ∈ l) :
    Path.IsName n := by
  obtain ⟨e, he⟩ := Option.isSome_iff_exists.mp hl
  exact (h.names (l, e) (mem_entries_of_get? (List.ne_nil_of_mem hn) he)).2 n hn

lemma IsTree.mem_entries_iff {e : Entry} (h : t.IsTree) :
    (l, e) ∈ t.entries ↔ l ≠ [] ∧ t.get? l = some e := by
  constructor
  · intro hmem
    have hl := (h.names (l, e) hmem).1
    refine ⟨hl, ?_⟩
    obtain ⟨e', he'⟩ := Option.isSome_iff_exists.mp (isSome_get?_of_mem hmem)
    have hmem' := mem_entries_of_get? hl he'
    obtain ⟨-, rfl⟩ := Prod.mk.inj (List.inj_on_of_nodup_map h.nodup hmem hmem' rfl)
    exact he'
  · exact fun ⟨hl, he⟩ => mem_entries_of_get? hl he

lemma IsTree.put {e : Entry} (h : t.IsTree) {s : Text}
    (hdir : t.get? l = some .directory) (hs : Path.IsName s)
    (he : t.get? (l ++ [s]) = some .directory → e = .directory) : (t.put (l ++ [s]) e).IsTree where
  nodup := by
    have hsub := (List.filter_sublist (p := fun entry : Location × Entry => entry.1 != l ++ [s])
      (l := t.entries)).map Prod.fst
    refine List.nodup_cons.mpr ⟨?_, h.nodup.sublist hsub⟩
    simp
  names := by
    intro entry hentry
    rcases List.mem_cons.mp hentry with rfl | hentry
    · refine ⟨by simp, fun n hn => ?_⟩
      rcases List.mem_append.mp hn with hn | hn
      · exact h.isName (by simp [hdir]) hn
      · rwa [List.mem_singleton.mp hn]
    · exact h.names entry (List.mem_filter.mp hentry).1
  connected := h.connected.put (by simp) (by simpa using hdir) he

lemma IsTree.makeAlong (h : t.IsTree) (l : Location) (hss : ∀ s ∈ ss, '/' ∉ s) :
    (t.makeAlong l ss).1.IsTree := by
  refine makeAlong_induction (R := fun t t' => t.IsTree → t'.IsTree) (fun _ => id)
    (fun _ _ _ h h' ht => h' (h ht)) (fun t l s hs hcan ht => ?_) t l h
  exact ht.put hcan.directory ⟨hcan.isVoid, hcan.parent, hss s hs⟩ fun _ => rfl

/-- A step fails for good: the name is too long, or a file has it. -/
lemma Grows.makeStep_none (h : t.Grows t'') (ht : t.Connected) (hl : t.get? l = some .directory)
    (hstep : t.makeStep l s = (t', none)) : t''.makeStep l s = (t'', none) := by
  have hl'' := h.directory hl
  unfold FileTree.makeStep at hstep ⊢
  by_cases hvoid : Path.isVoid s = true
  · simp [follow_of_isVoid hl hvoid, hl] at hstep
  by_cases hparent : s = ['.', '.']
  · simp [hparent, follow_parent hl, ht l (by simp [hl])] at hstep
  have hvoid : Path.isVoid s = false := by simpa using hvoid
  rw [follow_of_name hl hvoid hparent] at hstep
  rw [follow_of_name hl'' hvoid hparent]
  by_cases hsize : maxNameSize < Text.size s
  · simp [hsize]
  by_cases hsome : (t.get? (l ++ [s])).isSome = true
  · have hfile : t.get? (l ++ [s]) ≠ some .directory := by
      intro hdir
      simp [hsize, hdir] at hstep
    obtain ⟨e, he⟩ := Option.isSome_iff_exists.mp hsome
    cases e with
    | directory => exact absurd he hfile
    | file c =>
      obtain ⟨c', hc'⟩ := h.file he
      simp [hsize, hc']
  · simp [hsize, hsome] at hstep

/-- **Directories that are asked for again change nothing**, whether they could be made or not. -/
lemma makeAlong_again (ht : t.Connected) (hl : t.get? l = some .directory)
    (h : (t.makeAlong l ss).1.Grows t'') :
    t''.makeAlong l ss = (t'', (t.makeAlong l ss).2) := by
  induction ss generalizing t l with
  | nil => rfl
  | cons s ss ih =>
    rcases hstep : t.makeStep l s with ⟨t₁, _ | k⟩
    · rw [makeAlong_cons_none hstep] at h ⊢
      rw [tree_of_makeStep_none hstep] at h
      rw [makeAlong_cons_none (h.makeStep_none ht hl hstep)]
    · have ht₁ : t₁.Connected := by
        have hmake := ht.makeAlong l [s]
        rwa [makeAlong_singleton, hstep] at hmake
      rw [makeAlong_cons_some hstep] at h ⊢
      have hgrows := (grows_makeAlong t₁ k ss).trans h
      rw [makeAlong_cons_some (hgrows.makeStep hstep)]
      exact ih ht₁ (follow_of_makeStep hstep).2 h

/-! ### Directories by their paths -/

lemma checkPath_eq_ok : checkPath p = .ok () ↔
    '\x00' ∉ p ∧ p ≠ [] ∧ Text.size p ≤ maxPathSize := by
  unfold checkPath
  split_ifs with hzero hempty hsize
  · simp_all
  · simp_all
  · simp only [false_iff]
    omega
  · simp_all

lemma checkPath_of_prefix {q : Path} (h : q <+: p) (hq : q ≠ []) (hp : checkPath p = .ok ()) :
    checkPath q = .ok () := by
  obtain ⟨r, rfl⟩ := h
  rw [checkPath_eq_ok] at hp ⊢
  obtain ⟨hzero, -, hsize⟩ := hp
  rw [Text.size_append] at hsize
  exact ⟨fun hmem => hzero (List.mem_append_left r hmem), hq, by omega⟩

lemma locateParent_rooted (t : FileTree) (cwd : Location) (hss : ∀ s' ∈ ss ++ [s], '/' ∉ s')
    (hs : s ≠ []) (hcheck : checkPath (Path.rooted (ss ++ [s])) = .ok ()) :
    t.locateParent cwd (Path.rooted (ss ++ [s])) = match t.walk [] ss with
      | .error e => .error e
      | .ok l =>
        if t.get? l ≠ some .directory then .error .notDirectory
        else if s = ['.'] ∨ s = ['.', '.'] then .ok (l, none)
        else if maxNameSize < Text.size s then .error .nameTooLong
        else .ok (l, some s) := by
  have hnames : dropTailWhile List.isEmpty (Text.splitOn '/' (Path.rooted (ss ++ [s]))) =
      [] :: ss ++ [s] := by
    rw [Path.splitOn_rooted (by simp) hss, ← List.cons_append,
      dropTailWhile_append_singleton (by simpa using hs)]
  have hwalk : List.foldlM t.follow [] ([] :: ss) = t.walk [] ss := by
    change t.walk [] ([] :: ss) = _
    rw [walk_cons, follow_of_isVoid (get?_nil t) (by decide)]
  unfold locateParent
  simp only [hcheck, hnames, List.dropLast_concat, List.getLast?_concat, start,
    Path.isAbsolute_rooted, if_true, hwalk]
  cases t.walk [] ss with
  | error e => rfl
  | ok l =>
    change (if _ then _ else _) = _
    refine if_congr Iff.rfl rfl ?_
    split
    · contradiction
    · rename_i h
      simp [Option.some.inj h]
    · rename_i h
      simp [Option.some.inj h]
    · rename_i name hdot hparent h
      obtain rfl := Option.some.inj h
      have hnames : ¬ (s = ['.'] ∨ s = ['.', '.']) := not_or.mpr ⟨hdot, hparent⟩
      rw [if_neg hnames]

lemma isDirectory_rooted (t : FileTree) (cwd : Location) {body : List Text} (hne : body ≠ [])
    (hbody : ∀ s ∈ body, '/' ∉ s) (hcheck : checkPath (Path.rooted body) = .ok ()) :
    t.isDirectory cwd (Path.rooted body) = (t.reach? [] body).isSome := by
  unfold isDirectory reach?
  rw [locate_eq, hcheck, walk_rooted t hne hbody]
  cases t.walk [] body with
  | error e => rfl
  | ok k => by_cases hk : t.get? k = some .directory <;> simp [hk]

/-- A tree with an outcome agrees with a tree and the directory reached in it. -/
def Agrees (r : FileTree × Except FileError Unit) (m : FileTree × Option Location) : Prop :=
  r.1 = m.1 ∧ (r.2 = .ok () ↔ m.2.isSome = true)

lemma makeDirectory_eq (t : FileTree) (cwd : Location) (p : Path) : t.makeDirectory cwd p =
    match t.locateParent cwd p with
    | .error e => .error e
    | .ok (_, none) => .error .alreadyExists
    | .ok (l, some name) =>
      if (t.get? (l ++ [name])).isSome then .error .alreadyExists
      else .ok (t.put (l ++ [name]) .directory) := by
  unfold makeDirectory
  rcases t.locateParent cwd p with e | ⟨l, _ | name⟩ <;> rfl

lemma makeDirectory_rooted (t : FileTree) (cwd : Location) (hss : ∀ s' ∈ ss ++ [s], '/' ∉ s')
    (hs : Path.isVoid s = false) (hcheck : checkPath (Path.rooted (ss ++ [s])) = .ok ()) :
    t.makeDirectory cwd (Path.rooted (ss ++ [s])) = match t.walk [] ss with
      | .error e => .error e
      | .ok l =>
        match t.follow l s with
        | .ok _ => .error .alreadyExists
        | .error .notFound => .ok (t.put (l ++ [s]) .directory)
        | .error e => .error e := by
  have hne : s ≠ [] ∧ s ≠ ['.'] := by
    constructor <;> rintro rfl <;> exact absurd hs (by decide)
  rw [makeDirectory_eq, locateParent_rooted t cwd hss hne.1 hcheck]
  cases t.walk [] ss with
  | error e => rfl
  | ok l =>
    by_cases hl : t.get? l = some .directory
    · by_cases hparent : s = ['.', '.']
      · simp [hl, hparent, follow_parent hl]
      · by_cases hsize : maxNameSize < Text.size s
        · simp [hl, hne.2, hparent, hsize, follow_of_name hl hs hparent]
        · by_cases hsome : (t.get? (l ++ [s])).isSome = true <;>
            simp [hl, hne.2, hparent, hsize, hsome, follow_of_name hl hs hparent]
    · simp [hl, follow_of_ne_directory hl]

lemma ensureDirectory_rooted (t : FileTree) (cwd : Location) (hss : ∀ s' ∈ ss ++ [s], '/' ∉ s')
    (hs : Path.isVoid s = false) (hcheck : checkPath (Path.rooted (ss ++ [s])) = .ok ()) :
    Agrees (t.ensureDirectory cwd (Path.rooted (ss ++ [s])))
      (match t.reach? [] ss with
        | some l => t.makeStep l s
        | none => (t, none)) := by
  have hdir := isDirectory_rooted t cwd (by simp) hss hcheck
  unfold ensureDirectory
  rw [makeDirectory_rooted t cwd hss hs hcheck, hdir]
  unfold reach?
  rw [walk_append]
  cases t.walk [] ss with
  | error e => simp [Agrees]
  | ok l =>
    simp only [walk_cons, walk_nil]
    cases hfollow : t.follow l s with
    | ok k =>
      have hl := directory_of_follow hfollow
      by_cases hk : t.get? k = some .directory <;> simp [Agrees, makeStep, hfollow, hl, hk]
    | error e =>
      by_cases hl : t.get? l = some .directory
      · cases e <;> simp [Agrees, makeStep, hfollow, hl]
      · rw [follow_of_ne_directory hl] at hfollow
        obtain rfl := Except.error.inj hfollow
        simp [Agrees, hl]

lemma makeDirectories_root (t : FileTree) (cwd : Location) :
    t.makeDirectories cwd (Path.rooted []) = (t, .ok ()) := by
  have hcheck : checkPath ['/'] = .ok () := by decide
  have hmake : t.makeDirectory cwd ['/'] = .error .alreadyExists := by
    rw [makeDirectory_eq]
    rfl
  have hdir : t.isDirectory cwd ['/'] = true := by
    unfold isDirectory
    rw [locate_eq, hcheck]
    rfl
  change t.makeDirectories cwd ['/'] = _
  unfold makeDirectories ensureDirectory
  simp [hmake, hdir]

lemma makeDirectories_append (t : FileTree) (cwd : Location) (hss : ∀ s' ∈ ss ++ [s], '/' ∉ s')
    (hs : Path.isVoid s = false) (hcheck : checkPath (Path.rooted (ss ++ [s])) = .ok ())
    (hparent : Agrees (t.makeDirectories cwd (Path.rooted (dropTailWhile Path.isVoid ss)))
      (t.makeAlong [] ss)) :
    Agrees (t.makeDirectories cwd (Path.rooted (ss ++ [s]))) (t.makeAlong [] (ss ++ [s])) := by
  have hmake := makeDirectory_rooted t cwd hss hs hcheck
  rw [makeDirectories, if_neg (by simp [Path.rooted]), Path.parent?_rooted_append hss hs,
    makeAlong_append]
  by_cases hwalk : t.walk [] ss = .error .notFound
  · -- the directory around is made first
    rw [hwalk] at hmake
    rw [hmake]
    simp only [if_pos (Path.length_rooted_lt hs)]
    obtain ⟨htree, hok⟩ := hparent
    rcases hrun : t.makeDirectories cwd (Path.rooted (dropTailWhile Path.isVoid ss)) with
      ⟨t', e | u⟩
    · rcases hmade : t.makeAlong [] ss with ⟨t₁, _ | k⟩ <;> simp_all [Agrees]
    · rcases hmade : t.makeAlong [] ss with ⟨t₁, _ | k⟩
      · simp_all
      · obtain rfl : t' = t₁ := by simp_all
        have hensure := ensureDirectory_rooted t' cwd hss hs hcheck
        rw [reach?_of_makeAlong (get?_nil t) hmade] at hensure
        simpa only [makeAlong_singleton] using hensure
  · rw [makeAlong_of_walk (get?_nil t) hwalk]
    have hensure := ensureDirectory_rooted t cwd hss hs hcheck
    have hother : t.makeDirectory cwd (Path.rooted (ss ++ [s])) ≠ .error .notFound := by
      rw [hmake]
      cases hw : t.walk [] ss with
      | error e => simpa [hw] using hwalk
      | ok l =>
        cases hfollow : t.follow l s with
        | ok k => simp [hfollow]
        | error e => cases e <;> simp [hfollow]
    split
    · contradiction
    · cases hreach : t.reach? [] ss with
      | none => simpa only [hreach] using hensure
      | some l => simpa only [hreach, makeAlong_singleton] using hensure

/-- **Directories are made as if in the order in which the path names them.** -/
lemma makeDirectories_rooted (t : FileTree) (cwd : Location) {body : List Text}
    (hbody : ∀ s ∈ body, '/' ∉ s)
    (hcheck : checkPath (Path.rooted (dropTailWhile Path.isVoid body)) = .ok ()) :
    Agrees (t.makeDirectories cwd (Path.rooted (dropTailWhile Path.isVoid body)))
      (t.makeAlong [] body) := by
  induction hn : body.length using Nat.strongRecOn generalizing body with
  | ind n ih =>
    rw [← makeAlong_dropTailWhile (get?_nil t)]
    obtain ⟨ts, hts, -⟩ := exists_dropTailWhile_append Path.isVoid body
    rcases List.eq_nil_or_concat' (dropTailWhile Path.isVoid body) with hnil | ⟨ss, s, hconcat⟩
    · rw [hnil, makeDirectories_root]
      simp [Agrees, makeAlong]
    · have hs : Path.isVoid s = false :=
        getLast?_dropTailWhile body s (by rw [hconcat]; simp)
      rw [hconcat] at hts hcheck ⊢
      have hss : ∀ s' ∈ ss ++ [s], '/' ∉ s' := fun s' hs' =>
        hbody s' (by rw [hts]; exact List.mem_append_left ts hs')
      have hshorter : ss.length < n := by
        have hlength := congrArg List.length hts
        simp only [List.length_append, List.length_singleton] at hlength
        omega
      refine makeDirectories_append t cwd hss hs hcheck
        (ih ss.length hshorter (fun s' hs' => hss s' (List.mem_append_left [s] hs')) ?_ rfl)
      obtain ⟨us, hus, -⟩ := exists_dropTailWhile_append Path.isVoid ss
      refine checkPath_of_prefix ?_ (by simp [Path.rooted]) hcheck
      conv_rhs => rw [hus, List.append_assoc]
      exact Path.rooted_isPrefix_append _ _

lemma makeDirectories_of_checkPath {e : FileError} (hp : p ≠ []) (h : checkPath p = .error e)
    (t : FileTree) (cwd : Location) : t.makeDirectories cwd p = (t, .error e) := by
  have he : e ≠ .notFound := by
    rintro rfl
    unfold checkPath at h
    split_ifs at h <;> simp_all
  have hmake : t.makeDirectory cwd p = .error e := by
    rw [makeDirectory_eq]
    unfold locateParent
    rw [h]
    rfl
  have hdir : t.isDirectory cwd p = false := by
    unfold isDirectory
    rw [locate_eq, h]
  rw [makeDirectories, if_neg (by simpa using hp), hmake]
  unfold ensureDirectory
  rw [hmake, hdir]
  cases e <;> simp_all

lemma exists_makeDirectories (cwd : Location) {body : List Text} (hne : body ≠ [])
    (hbody : ∀ s ∈ body, '/' ∉ s) : ∃ ss, ss <+: body ∧ ∀ t : FileTree,
      (t.makeDirectories cwd ((Path.parent? (Path.rooted body)).getD [])).1 =
        (t.makeAlong [] ss).1 := by
  rw [Path.parent?_rooted hne hbody]
  rcases hdrop : dropTailWhile Path.isVoid body with _ | ⟨s, ss⟩
  · refine ⟨[], List.nil_prefix, fun t => ?_⟩
    rw [Option.getD_none, makeDirectories, if_pos List.isEmpty_nil, makeAlong]
  · have hbelow : (s :: ss).dropLast <+: body := by
      obtain ⟨ts, hts, -⟩ := exists_dropTailWhile_append Path.isVoid body
      rw [hts, hdrop]
      exact (List.dropLast_prefix _).trans (List.prefix_append _ ts)
    rw [Option.getD_some]
    cases hcheck : checkPath (Path.rooted (dropTailWhile Path.isVoid (s :: ss).dropLast)) with
    | error e =>
      refine ⟨[], List.nil_prefix, fun t => ?_⟩
      rw [makeDirectories_of_checkPath (by simp [Path.rooted]) hcheck, makeAlong]
    | ok u =>
      refine ⟨_, hbelow, fun t => (makeDirectories_rooted t cwd (fun s' hs' => ?_) hcheck).1⟩
      exact hbody s' (hbelow.subset hs')

end FileTree
end StyleScope
