import Mathlib.Data.List.Sort
import Mathlib.Order.Compare
import StyleScope.Proofs.FileTree.Directories

/-!
Listing the files under a path, and putting them in order.

A tree is well formed when every place has one entry, names can be followed, and everything stands
in a directory. Then the files listed under a directory are those below its place, each under one
path, and two lists of the same files are the same once they are sorted.
-/

namespace StyleScope

/-! ### The order of paths -/

namespace PathComponent

/-- A list of numbers that tells components apart and orders them. -/
def key : PathComponent → List Nat
  | root => [0]
  | current => [1]
  | parent => [2]
  | normal name => 3 :: name.map Char.toNat

lemma key_injective : Function.Injective key := by
  have hmap : Function.Injective (List.map Char.toNat) := List.map_injective_iff.mpr
    fun c c' h => Char.ext (UInt32.toNat_inj.mp h)
  intro a b h
  cases a <;> cases b <;> simp [key] at h ⊢
  exact hmap h

lemma compare_eq (a b : PathComponent) : a.compare b = compareOn key a b := by
  cases a <;> cases b <;> rfl

end PathComponent

namespace Path

lemma compareComponents_eq (as bs : List PathComponent) :
    compareComponents as bs = List.compareLex (compareOn PathComponent.key) as bs := by
  induction as generalizing bs with
  | nil => cases bs <;> rfl
  | cons a as ih =>
    cases bs with
    | nil => rfl
    | cons b bs =>
      rw [compareComponents, ih, PathComponent.compare_eq, List.compareLex_cons_cons]

lemma le_trans (p q r : Path) (hpq : le p q = true) (hqr : le q r = true) : le p r = true := by
  rw [le, compareComponents_eq] at *
  exact Std.TransCmp.isLE_trans hpq hqr

lemma le_total (p q : Path) : (le p q || le q p) = true := by
  have hswap : List.compareLex (compareOn PathComponent.key) (components p) (components q) =
      (List.compareLex (compareOn PathComponent.key) (components q) (components p)).swap :=
    Std.OrientedCmp.eq_swap
  rw [le, le, compareComponents_eq, compareComponents_eq, hswap]
  cases List.compareLex (compareOn PathComponent.key) (components q) (components p) <;> rfl

lemma components_eq_of_le {p q : Path} (hpq : le p q = true) (hqp : le q p = true) :
    components p = components q := by
  have hlawful : Std.LawfulEqCmp (compareOn PathComponent.key) :=
    ⟨fun h => PathComponent.key_injective (Std.LawfulEqCmp.eq_of_compare h)⟩
  rw [le, compareComponents_eq] at hpq hqp
  exact Std.LawfulEqCmp.eq_of_compare (Std.OrientedCmp.isLE_antisymm hpq hqp)

lemma mergeSort_eq {ps qs : List Path} (hps : ps.Nodup) (hqs : qs.Nodup)
    (hmem : ∀ p, p ∈ ps ↔ p ∈ qs)
    (hinj : ∀ p ∈ ps, ∀ q ∈ ps, components p = components q → p = q) :
    ps.mergeSort le = qs.mergeSort le := by
  have hperm : (ps.mergeSort le).Perm (qs.mergeSort le) :=
    (List.mergeSort_perm ps le).trans
      (((List.perm_ext_iff_of_nodup hps hqs).mpr hmem).trans (List.mergeSort_perm qs le).symm)
  have hsorted (rs : List Path) : (rs.mergeSort le).Pairwise fun p q => le p q = true :=
    List.pairwise_mergeSort le_trans le_total rs
  refine hperm.eq_of_pairwise (fun p q hp hq hpq hqp => ?_) (hsorted ps) (hsorted qs)
  refine hinj p (List.mem_mergeSort.mp hp) q ?_ (components_eq_of_le hpq hqp)
  exact (hmem q).mpr (List.mem_mergeSort.mp hq)

end Path

/-! ### Files under a path -/

namespace FileTree

variable {t : FileTree} {cwd base l : Location} {p q : Path}

lemma below?_eq_some {ns : List Text} : below? base l = some ns ↔ l = base ++ ns := by
  unfold below?
  rw [Option.ite_none_right_eq_some, List.isPrefixOf_iff_prefix]
  constructor
  · rintro ⟨⟨ms, rfl⟩, hdrop⟩
    rw [List.drop_left] at hdrop
    rw [Option.some.inj hdrop]
  · rintro rfl
    exact ⟨List.prefix_append base ns, by rw [List.drop_left]⟩

lemma IsTree.mem_files_iff {c : Contents} (h : t.IsTree) :
    (l, c) ∈ t.files ↔ t.get? l = some (.file c) := by
  have hentry : (l, c) ∈ t.files ↔ (l, Entry.file c) ∈ t.entries := by
    rw [files, List.mem_filterMap]
    constructor
    · rintro ⟨⟨k, e⟩, hmem, he⟩
      cases e with
      | directory => simp at he
      | file c' =>
        obtain ⟨rfl, rfl⟩ := Prod.mk.inj (Option.some.inj he)
        exact hmem
    · exact fun hmem => ⟨_, hmem, rfl⟩
  rw [hentry, h.mem_entries_iff, and_iff_right_iff_imp]
  rintro hfile rfl
  simp at hfile

lemma IsTree.mem_filesUnder_iff (h : t.IsTree) (hp : t.locate cwd p = .ok base) :
    q ∈ t.filesUnder cwd p ↔
      ∃ ns c, t.get? (base ++ ns) = some (.file c) ∧ q = ns.foldl Path.join p := by
  rw [filesUnder, hp]
  simp only [List.mem_filterMap, Option.map_eq_some_iff, below?_eq_some]
  constructor
  · rintro ⟨⟨l, c⟩, hmem, ns, rfl, rfl⟩
    exact ⟨ns, c, h.mem_files_iff.mp hmem, rfl⟩
  · rintro ⟨ns, c, hfile, rfl⟩
    exact ⟨(base ++ ns, c), h.mem_files_iff.mpr hfile, ns, rfl, rfl⟩

lemma IsTree.isName_below {ns : List Text} {c : Contents} (h : t.IsTree)
    (hfile : t.get? (base ++ ns) = some (.file c)) : ∀ n ∈ ns, Path.IsName n :=
  fun _ hn => h.isName (by simp [hfile]) (List.mem_append_right base hn)

lemma IsTree.pairwise_files (h : t.IsTree) : t.files.Pairwise fun f f' => f.1 ≠ f'.1 := by
  unfold files
  rw [List.pairwise_filterMap]
  refine (List.pairwise_map.mp h.nodup).imp fun {e e'} hne => ?_
  rintro f hf f' hf'
  obtain ⟨l, _ | c⟩ := e
  · simp at hf
  obtain ⟨l', _ | c'⟩ := e'
  · simp at hf'
  obtain rfl := Option.some.inj hf
  obtain rfl := Option.some.inj hf'
  exact hne

lemma IsTree.nodup_filesUnder (h : t.IsTree) (cwd : Location) (p : Path) :
    (t.filesUnder cwd p).Nodup := by
  unfold filesUnder
  cases t.locate cwd p with
  | error e => exact List.nodup_nil
  | ok base =>
    rw [List.Nodup, List.pairwise_filterMap]
    refine h.pairwise_files.imp_of_mem fun {f f'} hf hf' hne => ?_
    rintro q hq q' hq' rfl
    obtain ⟨ns, hns, rfl⟩ := Option.map_eq_some_iff.mp hq
    obtain ⟨ms, hms, heq⟩ := Option.map_eq_some_iff.mp hq'
    rw [below?_eq_some] at hns hms
    rw [h.mem_files_iff] at hf hf'
    -- the names of the path are those of its front and those of the place
    have hnames := congrArg Path.names heq
    rw [Path.names_foldl_join p (h.isName_below (hms ▸ hf')),
      Path.names_foldl_join p (h.isName_below (hns ▸ hf)), List.append_cancel_left_eq] at hnames
    exact hne (by rw [hns, hms, hnames])

lemma IsTree.eq_of_components {q' : Path} (h : t.IsTree) (habs : Path.isAbsolute p = true)
    (hp : t.locate cwd p = .ok base) (hq : q ∈ t.filesUnder cwd p) (hq' : q' ∈ t.filesUnder cwd p)
    (heq : Path.components q = Path.components q') : q = q' := by
  obtain ⟨ns, c, hns, rfl⟩ := (h.mem_filesUnder_iff hp).mp hq
  obtain ⟨ms, c', hms, rfl⟩ := (h.mem_filesUnder_iff hp).mp hq'
  rw [Path.components_of_isAbsolute (Path.isAbsolute_foldl_join habs ns),
    Path.components_of_isAbsolute (Path.isAbsolute_foldl_join habs ms)] at heq
  have hnames := List.map_injective_iff.mpr Path.component_injective (List.cons.inj heq).2
  rw [Path.names_foldl_join p (h.isName_below hns), Path.names_foldl_join p (h.isName_below hms),
    List.append_cancel_left_eq] at hnames
  rw [hnames]

/-! ### Locating what is below -/

lemma Connected.isSome_of_walk {ss : List Text} {k : Location} (h : t.Connected)
    (hl : (t.get? l).isSome = true) (hwalk : t.walk l ss = .ok k) : (t.get? k).isSome = true := by
  induction ss generalizing l with
  | nil =>
    obtain rfl := Except.ok.inj hwalk
    exact hl
  | cons s ss ih =>
    obtain ⟨j, hfollow, hwalk⟩ := walk_cons_eq_ok.mp hwalk
    refine ih ?_ hwalk
    have hdir := directory_of_follow hfollow
    by_cases hvoid : Path.isVoid s = true
    · rw [follow_of_isVoid hdir hvoid] at hfollow
      rwa [← Except.ok.inj hfollow]
    by_cases hparent : s = ['.', '.']
    · rw [hparent, follow_parent hdir] at hfollow
      rw [← Except.ok.inj hfollow, h l hl]
      rfl
    · rw [follow_of_name hdir (by simpa using hvoid) hparent] at hfollow
      split_ifs at hfollow with hsize hsome
      rwa [← Except.ok.inj hfollow]

lemma Connected.isSome_of_locate (h : t.Connected) (habs : Path.isAbsolute p = true)
    (hp : t.locate cwd p = .ok l) : (t.get? l).isSome = true := by
  have hwalk := (locate_eq_ok.mp hp).2
  rw [start, if_pos habs] at hwalk
  exact h.isSome_of_walk (by simp) hwalk

lemma Connected.exists?_eq_false (h : t.Connected) (habs : Path.isAbsolute p = true)
    (hnone : ¬ (t.get? (Path.place cwd p)).isSome = true) : t.exists? cwd p = false := by
  unfold exists?
  cases hl : t.locate cwd p with
  | error e => rfl
  | ok l =>
    have hsome := h.isSome_of_locate habs hl
    rw [place_of_locate hl] at hsome
    contradiction

lemma Connected.walk_names {ns : List Text} (h : t.Connected) (hns : ∀ n ∈ ns, Path.IsName n)
    (hsome : (t.get? (l ++ ns)).isSome = true) : t.walk l ns =
      if ∀ n ∈ ns, Text.size n ≤ maxNameSize then .ok (l ++ ns) else .error .nameTooLong := by
  induction ns generalizing l with
  | nil => simp
  | cons n ns ih =>
    have hn := hns n List.mem_cons_self
    have hl := h.directory_of_append (by simp) hsome
    rw [List.append_cons] at hsome ⊢
    have hnext : (t.get? (l ++ [n])).isSome = true := by
      by_cases hne : ns = []
      · simpa [hne] using hsome
      · simp [h.directory_of_append hne hsome]
    rw [walk_cons, follow_of_name hl hn.1 hn.2.1]
    by_cases hsize : maxNameSize < Text.size n
    · rw [if_pos hsize, if_neg]
      intro hall
      have hle := hall n List.mem_cons_self
      omega
    · have hle : Text.size n ≤ maxNameSize := by omega
      have hrest := ih (fun m hm => hns m (List.mem_cons_of_mem n hm)) hsome
      simp [if_neg hsize, if_pos hnext, hrest, hle]

lemma Connected.locate_below {ns : List Text} (h : t.Connected) (habs : Path.isAbsolute p = true)
    (hp : t.locate cwd p = .ok base) (hns : ∀ n ∈ ns, Path.IsName n) (hne : ns ≠ [])
    (hsome : (t.get? (base ++ ns)).isSome = true) : t.locate cwd (ns.foldl Path.join p) =
      match checkPath (ns.foldl Path.join p) with
      | .error e => .error e
      | .ok () => if ∀ n ∈ ns, Text.size n ≤ maxNameSize then .ok (base ++ ns)
        else .error .nameTooLong := by
  have hbase := h.directory_of_append hne hsome
  obtain ⟨ss, hsplit, hss⟩ := Path.splitOn_foldl_join p hns
  have hreach : t.reach? [] ss = some base := by
    have hwalk := (locate_eq_ok.mp hp).2
    rw [start, if_pos habs] at hwalk
    rw [← reach?_filter, hss, Path.names, reach?_filter]
    exact reach?_eq_some.mpr ⟨hwalk, hbase⟩
  have hwalk := (reach?_eq_some.mp hreach).1
  rw [locate_eq, start, if_pos (Path.isAbsolute_foldl_join habs ns), hsplit, walk_append, hwalk,
    ← h.walk_names hns hsome]
  cases checkPath (ns.foldl Path.join p) <;> rfl

end FileTree
end StyleScope
