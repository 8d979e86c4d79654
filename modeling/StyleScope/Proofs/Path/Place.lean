import Mathlib.Data.List.Basic
import Mathlib.Data.List.Induction
import StyleScope.FileTree
import StyleScope.Proofs.Text.Split
import StyleScope.Proofs.Text.Trim

/-!
The place that a path names.

`place` follows the segments of a path without looking at a tree: a name leads one directory down,
`..` leads back, and segments without meaning lead nowhere. What the operations on paths do is
said in terms of `names`, the segments with a meaning: joining appends them, a relative path is
what is left of them, and a path without `..` is told by them alone.
-/

namespace StyleScope

namespace Location

/-- Where a segment of a path leads. -/
def step (l : Location) (segment : Text) : Location :=
  if Path.isVoid segment then l
  else if segment = ['.', '.'] then l.dropLast
  else l ++ [segment]

def enter (l : Location) (segments : List Text) : Location := segments.foldl step l

@[simp] lemma enter_nil (l : Location) : l.enter [] = l := rfl

@[simp] lemma enter_cons (l : Location) (s : Text) (ss : List Text) :
    l.enter (s :: ss) = (l.step s).enter ss := rfl

lemma enter_append (l : Location) (ss ts : List Text) :
    l.enter (ss ++ ts) = (l.enter ss).enter ts :=
  List.foldl_append

lemma step_of_isVoid {s : Text} (h : Path.isVoid s = true) (l : Location) : l.step s = l := by
  rw [step, if_pos h]

lemma enter_filter (l : Location) (ss : List Text) :
    l.enter (ss.filter fun s => !Path.isVoid s) = l.enter ss := by
  induction ss generalizing l with
  | nil => rfl
  | cons s ss ih =>
    by_cases hs : Path.isVoid s = true
    · rw [List.filter_cons_of_neg (by simp [hs]), enter_cons, step_of_isVoid hs, ih]
    · rw [List.filter_cons_of_pos (by simp [hs]), enter_cons, enter_cons, ih]

end Location

namespace Path

/-- A segment that leads one directory down. -/
def IsName (n : Text) : Prop := isVoid n = false ∧ n ≠ ['.', '.'] ∧ '/' ∉ n

instance (n : Text) : Decidable (IsName n) := inferInstanceAs (Decidable (_ ∧ _ ∧ _))

lemma IsName.ne_nil {n : Text} (h : IsName n) : n ≠ [] := by
  rintro rfl
  exact absurd h.1 (by decide)

lemma step_of_isName {n : Text} (h : IsName n) (l : Location) : l.step n = l ++ [n] := by
  rw [Location.step, if_neg (by simp [h.1]), if_neg h.2.1]

lemma enter_of_isName {ns : List Text} (h : ∀ n ∈ ns, IsName n) (l : Location) :
    l.enter ns = l ++ ns := by
  induction ns generalizing l with
  | nil => simp
  | cons n ns ih =>
    rw [Location.enter_cons, step_of_isName (h n List.mem_cons_self),
      ih fun m hm => h m (List.mem_cons_of_mem n hm), List.append_assoc, List.singleton_append]

/-! ### Names -/

/-- The segments of a path that have a meaning. -/
def names (p : Path) : List Text := (Text.splitOn '/' p).filter fun s => !isVoid s

/-- The place that a path names from a current directory. -/
def place (cwd : Location) (p : Path) : Location :=
  (FileTree.start cwd p).enter (Text.splitOn '/' p)

lemma place_eq (cwd : Location) (p : Path) :
    place cwd p = (FileTree.start cwd p).enter (names p) :=
  (Location.enter_filter _ _).symm

lemma notMem_of_mem_names {p : Path} {n : Text} (h : n ∈ names p) : '/' ∉ n :=
  Text.notMem_of_mem_splitOn (List.mem_filter.mp h).1

lemma isVoid_of_mem_names {p : Path} {n : Text} (h : n ∈ names p) : isVoid n = false := by
  simpa using (List.mem_filter.mp h).2

lemma filter_of_isName {ns : List Text} (h : ∀ n ∈ ns, IsName n) :
    ns.filter (fun s => !isVoid s) = ns :=
  List.filter_eq_self.mpr fun n hn => by simp [(h n hn).1]

lemma names_join_names {ns : List Text} (hns : ∀ n ∈ ns, '/' ∉ n) :
    names (Text.join ['/'] ns) = ns.filter fun s => !isVoid s := by
  rcases List.eq_nil_or_concat' ns with rfl | ⟨_, _, rfl⟩
  · rfl
  · rw [names, Text.splitOn_join (by simp) hns]

/-! ### Paths from the root -/

def rooted (body : List Text) : Path := '/' :: Text.join ['/'] body

lemma splitOn_rooted {body : List Text} (hne : body ≠ []) (h : ∀ s ∈ body, '/' ∉ s) :
    Text.splitOn '/' (rooted body) = [] :: body := by
  rw [rooted, Text.splitOn, if_pos rfl, Text.splitOn_join hne h]

lemma exists_rooted {p : Path} (h : isAbsolute p = true) :
    ∃ body, body ≠ [] ∧ (∀ s ∈ body, '/' ∉ s) ∧ p = rooted body := by
  obtain ⟨t, rfl⟩ : ∃ t, p = '/' :: t := by
    rwa [isAbsolute, beq_iff_eq, List.head?_eq_some_iff] at h
  refine ⟨Text.splitOn '/' t, Text.splitOn_ne_nil '/' t, fun s hs => ?_, ?_⟩
  · exact Text.notMem_of_mem_splitOn hs
  · rw [rooted, Text.join_splitOn]

@[simp] lemma isAbsolute_rooted (body : List Text) : isAbsolute (rooted body) = true := rfl

lemma place_rooted (cwd : Location) {body : List Text} (hne : body ≠ [])
    (h : ∀ s ∈ body, '/' ∉ s) : place cwd (rooted body) = Location.enter [] body := by
  rw [place, splitOn_rooted hne h]
  rfl

lemma split_rooted {body : List Text} (hne : body ≠ []) (h : ∀ s ∈ body, '/' ∉ s) :
    split (rooted body) = ⟨some .root, body⟩ := by
  rw [split, splitOn_rooted hne h]
  simp

lemma components_rooted {body : List Text} (hne : body ≠ []) (h : ∀ s ∈ body, '/' ∉ s) :
    components (rooted body) = .root :: (names (rooted body)).map component := by
  rw [components, split_rooted hne h, names, splitOn_rooted hne h]
  simp [isVoid]

lemma components_of_isAbsolute {p : Path} (h : isAbsolute p = true) :
    components p = .root :: (names p).map component := by
  obtain ⟨body, hne, hbody, rfl⟩ := exists_rooted h
  exact components_rooted hne hbody

lemma component_injective : Function.Injective component := by
  intro s t h
  unfold component at h
  split_ifs at h with hs ht ht
  · rw [hs, ht]
  · exact PathComponent.normal.inj h

lemma isName_of_mem_names {p : Path} (h : isAbsolute p = true)
    (hparent : PathComponent.parent ∉ components p) : ∀ n ∈ names p, IsName n := by
  intro n hn
  refine ⟨isVoid_of_mem_names hn, ?_, notMem_of_mem_names hn⟩
  rintro rfl
  rw [components_of_isAbsolute h] at hparent
  exact hparent (List.mem_cons_of_mem _ (List.mem_map.mpr ⟨_, hn, rfl⟩))

lemma place_of_isName {p : Path} (h : isAbsolute p = true) (hnames : ∀ n ∈ names p, IsName n)
    (cwd : Location) : place cwd p = names p := by
  rw [place_eq, FileTree.start, if_pos h, enter_of_isName hnames]
  rfl

lemma same_of_place_eq {p q : Path} (hp : isAbsolute p = true) (hq : isAbsolute q = true)
    (hpparent : PathComponent.parent ∉ components p)
    (hqparent : PathComponent.parent ∉ components q) {cwd : Location}
    (h : place cwd p = place cwd q) : same p q = true := by
  rw [place_of_isName hp (isName_of_mem_names hp hpparent),
    place_of_isName hq (isName_of_mem_names hq hqparent)] at h
  rw [same, beq_iff_eq, components_of_isAbsolute hp, components_of_isAbsolute hq, h]

/-! ### Joining -/

lemma isAbsolute_join {p q : Path} (hp : isAbsolute p = true) : isAbsolute (join p q) = true := by
  obtain ⟨body, -, -, rfl⟩ := exists_rooted hp
  unfold join
  split_ifs with hq
  · exact hq
  · rfl
  · rfl

lemma splitOn_join_path (p : Path) {q : Path} (hq : isAbsolute q = false) :
    ∃ ss, Text.splitOn '/' (join p q) = ss ++ Text.splitOn '/' q ∧
      (ss.filter fun s => !isVoid s) = names p ∧
      (p.getLast? ≠ some '/' → p ≠ [] → ss = Text.splitOn '/' p) := by
  unfold join
  rw [if_neg (by simp [hq])]
  split_ifs with hend
  · rw [Bool.or_eq_true, List.isEmpty_iff, beq_iff_eq] at hend
    rcases hend with rfl | hlast
    · exact ⟨[], rfl, rfl, fun _ hne => absurd rfl hne⟩
    · obtain ⟨p, rfl⟩ := List.getLast?_eq_some_iff.mp hlast
      refine ⟨Text.splitOn '/' p, ?_, ?_, fun hne => absurd hlast hne⟩
      · rw [List.append_assoc, List.singleton_append, Text.splitOn_append]
      · rw [names, Text.splitOn_append, List.filter_append]
        simp [Text.splitOn, isVoid]
  · exact ⟨Text.splitOn '/' p, Text.splitOn_append '/' p q, rfl, fun _ _ => rfl⟩

lemma names_join (p : Path) {q : Path} (hq : isAbsolute q = false) :
    names (join p q) = names p ++ names q := by
  obtain ⟨ss, hsplit, hss, -⟩ := splitOn_join_path p hq
  rw [names, hsplit, List.filter_append, hss]
  rfl

lemma isAbsolute_of_isName {n : Text} (h : IsName n) : isAbsolute n = false := by
  obtain ⟨c, t, rfl⟩ := List.exists_cons_of_ne_nil h.ne_nil
  have hc : c ≠ '/' := fun hc => h.2.2 (by simp [hc])
  simp [isAbsolute, hc]

lemma join_name_ends (p : Path) {n : Text} (hn : IsName n) :
    join p n ≠ [] ∧ (join p n).getLast? ≠ some '/' := by
  have hlast (q : Path) : (q ++ n).getLast? ≠ some '/' := by
    rw [List.getLast?_append, List.getLast?_eq_some_getLast hn.ne_nil, Option.some_or]
    exact fun h => hn.2.2 (Option.some.inj h ▸ List.getLast_mem hn.ne_nil)
  unfold join
  rw [if_neg (by simp [isAbsolute_of_isName hn])]
  split_ifs
  · exact ⟨by simp [hn.ne_nil], hlast p⟩
  · have h := hlast (p ++ ['/'])
    rw [List.append_assoc, List.singleton_append] at h
    exact ⟨by simp, h⟩

lemma isAbsolute_foldl_join {p : Path} (hp : isAbsolute p = true) (ns : List Text) :
    isAbsolute (ns.foldl join p) = true := by
  induction ns generalizing p with
  | nil => exact hp
  | cons n ns ih => exact ih (isAbsolute_join hp)

lemma splitOn_foldl_join (p : Path) {ns : List Text} (hns : ∀ n ∈ ns, IsName n) :
    ∃ ss, Text.splitOn '/' (ns.foldl join p) = ss ++ ns ∧
      (ss.filter fun s => !isVoid s) = names p := by
  induction ns using List.reverseRecOn with
  | nil => exact ⟨Text.splitOn '/' p, by simp, rfl⟩
  | append_singleton ns n ih =>
    have hn : IsName n := hns n (by simp)
    obtain ⟨ss, hsplit, hss⟩ := ih fun m hm => hns m (by simp [hm])
    obtain ⟨ts, htsplit, hts, heq⟩ :=
      splitOn_join_path (ns.foldl join p) (isAbsolute_of_isName hn)
    rw [Text.splitOn_of_notMem hn.2.2] at htsplit
    rw [List.foldl_append, List.foldl_cons, List.foldl_nil, htsplit]
    -- only the path itself may end in `/`
    rcases List.eq_nil_or_concat' ns with rfl | ⟨ms, m, rfl⟩
    · exact ⟨ts, rfl, hts⟩
    · have hends := join_name_ends (ms.foldl join p) (hns m (by simp))
      rw [List.foldl_append, List.foldl_cons, List.foldl_nil] at heq hsplit
      rw [heq hends.2 hends.1, hsplit]
      exact ⟨ss, by simp, hss⟩

lemma names_foldl_join (p : Path) {ns : List Text} (hns : ∀ n ∈ ns, IsName n) :
    names (ns.foldl join p) = names p ++ ns := by
  obtain ⟨ss, hsplit, hss⟩ := splitOn_foldl_join p hns
  rw [names, hsplit, List.filter_append, hss, filter_of_isName hns]

/-! ### Parents -/

lemma parent?_rooted {body : List Text} (hne : body ≠ []) (hbody : ∀ s ∈ body, '/' ∉ s) :
    parent? (rooted body) = match dropTailWhile isVoid body with
      | [] => none
      | s :: ss => some (rooted (dropTailWhile isVoid (s :: ss).dropLast)) := by
  rw [parent?, split_rooted hne hbody]
  rcases dropTailWhile isVoid body with _ | ⟨s, ss⟩ <;> rfl

lemma parent?_rooted_append {ss : List Text} {s : Text} (hss : ∀ s' ∈ ss ++ [s], '/' ∉ s')
    (hs : isVoid s = false) :
    parent? (rooted (ss ++ [s])) = some (rooted (dropTailWhile isVoid ss)) := by
  rw [parent?_rooted (by simp) hss, dropTailWhile_append_singleton hs]
  cases ss with
  | nil => rfl
  | cons r ss =>
    change some (rooted (dropTailWhile isVoid (r :: (ss ++ [s])).dropLast)) = _
    rw [← List.cons_append, List.dropLast_concat]

lemma rooted_append {ss ts : List Text} (hss : ss ≠ []) (hts : ts ≠ []) :
    rooted (ss ++ ts) = rooted ss ++ rooted ts := by
  rw [rooted, rooted, rooted, Text.join_append _ hss hts]
  rfl

lemma rooted_isPrefix_append (ss ts : List Text) : rooted ss <+: rooted (ss ++ ts) := by
  by_cases hss : ss = []
  · exact ⟨Text.join ['/'] ts, by rw [hss]; rfl⟩
  · by_cases hts : ts = []
    · simp [hts]
    · exact ⟨rooted ts, (rooted_append hss hts).symm⟩

lemma length_rooted_lt {ss : List Text} {s : Text} (hs : isVoid s = false) :
    (rooted (dropTailWhile isVoid ss)).length < (rooted (ss ++ [s])).length := by
  obtain ⟨ts, hts, -⟩ := exists_dropTailWhile_append isVoid ss
  have hle : (rooted (dropTailWhile isVoid ss)).length ≤ (rooted ss).length := by
    conv_rhs => rw [hts]
    exact (rooted_isPrefix_append (dropTailWhile isVoid ss) ts).length_le
  have hpos : 0 < s.length := by
    refine List.length_pos_of_ne_nil ?_
    rintro rfl
    exact absurd hs (by decide)
  have hlt : (rooted ss).length < (rooted (ss ++ [s])).length := by
    by_cases hss : ss = []
    · simp [hss, rooted, Text.join, hpos]
    · rw [rooted_append hss (by simp), List.length_append]
      simp [rooted]
  omega

/-! ### Relative paths -/

lemma filter_dropWhile_isVoid (ss : List Text) :
    (ss.dropWhile isVoid).filter (fun s => !isVoid s) = ss.filter fun s => !isVoid s := by
  induction ss with
  | nil => rfl
  | cons s ss ih =>
    by_cases hs : isVoid s = true
    · rw [List.dropWhile_cons_of_pos hs, ih, List.filter_cons_of_neg (by simp [hs])]
    · rw [List.dropWhile_cons_of_neg (by simpa using hs)]

lemma filter_dropTailWhile_isVoid (ss : List Text) :
    (dropTailWhile isVoid ss).filter (fun s => !isVoid s) = ss.filter fun s => !isVoid s := by
  obtain ⟨ts, hss, hts⟩ := exists_dropTailWhile_append isVoid ss
  have hnil : ts.filter (fun s => !isVoid s) = [] :=
    List.filter_eq_nil_iff.mpr (by simpa using hts)
  conv_rhs => rw [hss, List.filter_append, hnil, List.append_nil]

lemma filter_dropComponents (k : Nat) (ss : List Text) :
    (dropComponents k ss).filter (fun s => !isVoid s) =
      (ss.filter fun s => !isVoid s).drop k := by
  fun_induction dropComponents k ss with
  | case1 ss => rw [filter_dropWhile_isVoid, List.drop_zero]
  | case2 k => simp
  | case3 k s ss hs ih => rw [ih, List.filter_cons_of_neg (by simp [hs])]
  | case4 k s ss hs ih =>
    rw [ih, List.filter_cons_of_pos (by simpa using hs), List.drop_succ_cons]

lemma head?_dropComponents (k : Nat) (ss : List Text) :
    ∀ s ∈ (dropComponents k ss).head?, isVoid s = false := by
  fun_induction dropComponents k ss with
  | case1 ss =>
    intro s hs
    have hhead := List.head?_dropWhile_not isVoid ss
    rw [Option.mem_def.mp hs] at hhead
    simpa using hhead
  | case2 k => simp
  | case3 k s ss hs ih => exact ih
  | case4 k s ss hs ih => exact ih

lemma mem_dropComponents (k : Nat) (ss : List Text) : ∀ s ∈ dropComponents k ss, s ∈ ss := by
  fun_induction dropComponents k ss with
  | case1 ss => exact fun s hs => (List.dropWhile_sublist _).subset hs
  | case2 k => simp
  | case3 k t ss ht ih => exact fun s hs => List.mem_cons_of_mem _ (ih s hs)
  | case4 k t ss ht ih => exact fun s hs => List.mem_cons_of_mem _ (ih s hs)

lemma dropComponents_append {ns : List Text} (hns : ∀ n ∈ ns, IsName n) (ss : List Text) :
    dropComponents (ss.filter fun s => !isVoid s).length (ss ++ ns) = ns := by
  induction ss with
  | nil =>
    cases ns with
    | nil => rfl
    | cons n ns =>
      have hn := (hns n List.mem_cons_self).1
      simp [dropComponents, hn]
  | cons s ss ih =>
    by_cases hs : isVoid s = true
    · rw [List.filter_cons_of_neg (by simp [hs]), List.cons_append]
      cases hk : (ss.filter fun s => !isVoid s).length with
      | zero =>
        rw [hk, dropComponents] at ih
        rw [dropComponents, List.dropWhile_cons_of_pos hs, ih]
      | succ k =>
        rw [hk] at ih
        rw [dropComponents, if_pos hs, ih]
    · rw [List.filter_cons_of_pos (by simpa using hs), List.length_cons, List.cons_append,
        dropComponents, if_neg hs, ih]

lemma dropTailWhile_of_isName {ns : List Text} (hns : ∀ n ∈ ns, IsName n) :
    dropTailWhile isVoid ns = ns := by
  rcases List.eq_nil_or_concat' ns with rfl | ⟨ms, m, rfl⟩
  · rfl
  · exact dropTailWhile_append_singleton (hns m (by simp)).1 ms

lemma relativeTo?_rooted {body : List Text} (hne : body ≠ []) (hbody : ∀ s ∈ body, '/' ∉ s)
    {base : Path} (hbase : isAbsolute base = true) :
    relativeTo? (rooted body) base = if names base <+: names (rooted body) then
      some (Text.join ['/'] (dropTailWhile isVoid (dropComponents (names base).length body)))
    else none := by
  have hprefix : (components base).isPrefixOf (components (rooted body)) = true ↔
      names base <+: names (rooted body) := by
    rw [List.isPrefixOf_iff_prefix, components_of_isAbsolute hbase, components_rooted hne hbody,
      List.cons_prefix_cons]
    constructor
    · rintro ⟨-, t, ht⟩
      obtain ⟨front, back, hnames, hfront, -⟩ := List.map_eq_append_iff.mp ht.symm
      rw [List.map_injective_iff.mpr component_injective hfront] at hnames
      exact ⟨back, hnames.symm⟩
    · exact fun h => ⟨rfl, h.map component⟩
  unfold relativeTo?
  simp only [split_rooted hne hbody, hprefix]
  simp [components_of_isAbsolute hbase]

lemma relativeTo?_foldl_join {p : Path} (hp : isAbsolute p = true) {ns : List Text}
    (hns : ∀ n ∈ ns, IsName n) :
    relativeTo? (ns.foldl join p) p = some (Text.join ['/'] ns) := by
  obtain ⟨body, hne, hbody, hrooted⟩ := exists_rooted (isAbsolute_foldl_join hp ns)
  obtain ⟨ss, hsplit, hss⟩ := splitOn_foldl_join p hns
  have hnames := names_foldl_join p hns
  rw [hrooted] at hsplit hnames ⊢
  rw [splitOn_rooted hne hbody] at hsplit
  -- the empty segment in front of the first `/` belongs to the directory
  obtain ⟨ss, rfl, rfl⟩ : ∃ ss', ss = [] :: ss' ∧ body = ss' ++ ns := by
    cases ss with
    | nil =>
      rw [List.nil_append] at hsplit
      have hnil : [] ∈ ns := hsplit ▸ List.mem_cons_self
      exact absurd rfl (hns [] hnil).ne_nil
    | cons s ss =>
      obtain ⟨rfl, rfl⟩ := List.cons.inj hsplit
      exact ⟨ss, rfl, rfl⟩
  rw [List.filter_cons_of_neg (by decide)] at hss
  rw [relativeTo?_rooted hne hbody hp, if_pos (hnames ▸ List.prefix_append _ _), ← hss,
    dropComponents_append hns, dropTailWhile_of_isName hns]

lemma isAbsolute_join_segments {ss : List Text} (hbody : ∀ s ∈ ss, '/' ∉ s)
    (hhead : ∀ s ∈ ss.head?, isVoid s = false) : isAbsolute (Text.join ['/'] ss) = false := by
  cases ss with
  | nil => rfl
  | cons s ss =>
    have hs : s ≠ [] := by
      rintro rfl
      exact absurd (hhead [] rfl) (by decide)
    obtain ⟨c, t, rfl⟩ := List.exists_cons_of_ne_nil hs
    have hc : c ≠ '/' := fun hc => hbody (c :: t) List.mem_cons_self (by simp [hc])
    have hjoin : (Text.join ['/'] ((c :: t) :: ss)).head? = some c := by
      cases ss with
      | nil => rfl
      | cons u ss => rw [Text.join_cons _ _ (by simp)]; rfl
    simp [isAbsolute, hjoin, hc]

lemma relativeTo?_eq_some {p base rel : Path} (hp : isAbsolute p = true)
    (hbase : isAbsolute base = true) (h : relativeTo? p base = some rel) :
    isAbsolute rel = false ∧ names p = names base ++ names rel := by
  obtain ⟨body, hne, hbody, rfl⟩ := exists_rooted hp
  rw [relativeTo?_rooted hne hbody hbase] at h
  split_ifs at h with hprefix
  obtain rfl := Option.some.inj h
  set left := dropComponents (names base).length body with hleft
  obtain ⟨ts, hts, -⟩ := exists_dropTailWhile_append isVoid left
  have hslash : ∀ s ∈ dropTailWhile isVoid left, '/' ∉ s := by
    intro s hs
    refine hbody s (mem_dropComponents (names base).length body s ?_)
    rw [← hleft, hts]
    exact List.mem_append_left ts hs
  refine ⟨isAbsolute_join_segments hslash fun s hs => ?_, ?_⟩
  · refine head?_dropComponents (names base).length body s ?_
    rw [← hleft, hts, List.head?_append, Option.mem_def.mp hs]
    rfl
  · obtain ⟨back, hback⟩ := hprefix
    have hfilter : body.filter (fun s => !isVoid s) = names (rooted body) := by
      rw [names, splitOn_rooted hne hbody, List.filter_cons_of_neg (by decide)]
    rw [names_join_names hslash, filter_dropTailWhile_isVoid, hleft, filter_dropComponents, hfilter,
      ← hback, List.drop_left]

end Path
end StyleScope
