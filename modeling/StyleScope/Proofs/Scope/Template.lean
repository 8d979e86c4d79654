import Mathlib.Data.List.Infix
import StyleScope.Proofs.Text.Replace
import StyleScope.Scope.Namespace

/-!
Templates of namespaces.

A template is read once, from left to right, as characters and mentions of the name and of the
directory. A mention has one opening brace, in front, so a text can be divided before any opening
brace and its parts are divided with it. Filling in the name first and the directory in the result
is the same as filling in both at once, unless the name, with what stands around it, makes a
mention of the directory that the template does not have.
-/

namespace StyleScope

/-- A part of a template. -/
inductive TemplatePart where
  | char (c : Char)
  /-- A mention of the file's name. -/
  | name
  /-- A mention of the directory around the file. -/
  | dir
  deriving DecidableEq, Repr

namespace TemplatePart

def ofText : Text → List TemplatePart
  | '{' :: 'n' :: 'a' :: 'm' :: 'e' :: '}' :: t => .name :: ofText t
  | '{' :: 'd' :: 'i' :: 'r' :: '}' :: t => .dir :: ofText t
  | c :: t => .char c :: ofText t
  | [] => []

def fill (name dir : Text) : TemplatePart → Text
  | .char c => [c]
  | .name => name
  | .dir => dir

def nameMark : Text := ['{', 'n', 'a', 'm', 'e', '}']

def dirMark : Text := ['{', 'd', 'i', 'r', '}']

/-! ### Reading a template -/

lemma ofText_nameMark (t : Text) : ofText (nameMark ++ t) = .name :: ofText t := rfl

lemma ofText_dirMark (t : Text) : ofText (dirMark ++ t) = .dir :: ofText t := rfl

lemma ofText_cons {c : Char} {t : Text} (hname : ¬ nameMark <+: c :: t)
    (hdir : ¬ dirMark <+: c :: t) : ofText (c :: t) = .char c :: ofText t := by
  rw [ofText]
  · rintro t' rfl rfl
    exact hname ⟨t', rfl⟩
  · rintro t' rfl rfl
    exact hdir ⟨t', rfl⟩

lemma ofText_induction {motive : Text → Prop} (nil : motive [])
    (name : ∀ t, motive t → motive (nameMark ++ t)) (dir : ∀ t, motive t → motive (dirMark ++ t))
    (char : ∀ c t, ¬ nameMark <+: c :: t → ¬ dirMark <+: c :: t → motive t → motive (c :: t))
    (t : Text) : motive t := by
  induction t using ofText.induct with
  | case1 t ih => exact name t ih
  | case2 t ih => exact dir t ih
  | case3 c t hname hdir ih =>
    refine char c t ?_ ?_ ih
    · rintro ⟨t', h⟩
      obtain ⟨rfl, rfl⟩ := List.cons.inj h
      exact hname t' rfl rfl
    · rintro ⟨t', h⟩
      obtain ⟨rfl, rfl⟩ := List.cons.inj h
      exact hdir t' rfl rfl
  | case4 => exact nil

lemma prefix_append_brace_iff {w : Text} (hw : '{' ∉ w) (u t : Text) :
    w <+: u ++ '{' :: t ↔ w <+: u := by
  induction u generalizing w with
  | nil =>
    cases w with
    | nil => simp
    | cons b w =>
      rw [List.nil_append, List.cons_prefix_cons, List.prefix_nil]
      have hb : b ≠ '{' := fun h => hw (h ▸ List.mem_cons_self)
      simp [hb]
  | cons c u ih =>
    cases w with
    | nil => simp
    | cons b w =>
      rw [List.cons_append, List.cons_prefix_cons, List.cons_prefix_cons,
        ih (fun h => hw (List.mem_cons_of_mem b h))]

/-- **A text divides before an opening brace as its parts do.** -/
lemma ofText_append (u t : Text) : ofText (u ++ '{' :: t) = ofText u ++ ofText ('{' :: t) := by
  induction u using ofText_induction with
  | nil => rfl
  | name u ih => rw [List.append_assoc, ofText_nameMark, ofText_nameMark, ih, List.cons_append]
  | dir u ih => rw [List.append_assoc, ofText_dirMark, ofText_dirMark, ih, List.cons_append]
  | char c u hname hdir ih =>
    rw [ofText_cons hname hdir, List.cons_append, ofText_cons, ih, List.cons_append]
    · rw [nameMark, List.cons_prefix_cons, prefix_append_brace_iff (by decide)]
      exact fun h => hname (List.cons_prefix_cons.mpr h)
    · rw [dirMark, List.cons_prefix_cons, prefix_append_brace_iff (by decide)]
      exact fun h => hdir (List.cons_prefix_cons.mpr h)

/-! ### Filling in -/

/-- What a template becomes when both are filled in at once. -/
def filled (name dir : Text) (ps : List TemplatePart) : Text := ps.flatMap (fill name dir)

variable {name dir dir' : Text} {ps qs : List TemplatePart}

@[simp] lemma filled_nil : filled name dir [] = [] := rfl

@[simp] lemma filled_cons (p : TemplatePart) :
    filled name dir (p :: ps) = fill name dir p ++ filled name dir ps := rfl

@[simp] lemma filled_append :
    filled name dir (ps ++ qs) = filled name dir ps ++ filled name dir qs :=
  List.flatMap_append

lemma filled_marks (t : Text) : filled nameMark dirMark (ofText t) = t := by
  induction t using ofText_induction with
  | nil => rfl
  | name t ih => rw [ofText_nameMark, filled_cons, ih, fill]
  | dir t ih => rw [ofText_dirMark, filled_cons, ih, fill]
  | char c t hname hdir ih =>
    rw [ofText_cons hname hdir, filled_cons, ih, fill, List.singleton_append]

lemma filled_congr_dir (h : .dir ∉ ps) : filled name dir ps = filled name dir' ps := by
  refine List.flatMap_congr fun p hp => ?_
  cases p with
  | char c => rfl
  | name => rfl
  | dir => exact absurd hp h

lemma length_filled_add (name dir dir' : Text) (ps : List TemplatePart) :
    (filled name dir ps).length + ps.count .dir * dir'.length =
      (filled name dir' ps).length + ps.count .dir * dir.length := by
  induction ps with
  | nil => simp
  | cons p ps ih =>
    cases p with
    | char c => simp [fill]; omega
    | name => simp [fill]; omega
    | dir => simp [fill, Nat.succ_mul]; omega

lemma length_filled_eq (hlength : dir.length = dir'.length) :
    (filled name dir ps).length = (filled name dir' ps).length := by
  have hadd := length_filled_add name dir dir' ps
  rw [hlength] at hadd
  exact Nat.add_right_cancel hadd

lemma filled_eq_filled_iff :
    filled name dir ps = filled name dir' ps ↔ dir = dir' ∨ .dir ∉ ps := by
  constructor
  · intro h
    rw [or_iff_not_imp_right, not_not]
    intro hdir
    have hlength : dir'.length = dir.length := by
      have hadd := length_filled_add name dir dir' ps
      rw [h, Nat.add_left_cancel_iff] at hadd
      exact Nat.eq_of_mul_eq_mul_left (List.count_pos_iff.mpr hdir) hadd
    -- both begin alike up to the first mention
    obtain ⟨qs, qs', rfl, hqs⟩ := List.eq_append_cons_of_mem hdir
    rw [filled_append, filled_append, filled_congr_dir hqs, List.append_cancel_left_eq] at h
    exact (List.append_inj h hlength.symm).1
  · rintro (rfl | hdir)
    · rfl
    · exact filled_congr_dir hdir

/-! ### Filling in one after the other -/

lemma replaceFrom_nameMark (name t : Text) :
    Text.replaceFrom nameMark name 0 t = filled name dirMark (ofText t) := by
  induction t using ofText_induction with
  | nil => rfl
  | name t ih =>
    rw [Text.replaceFrom_append (by decide), ih, ofText_nameMark, filled_cons, fill]
  | dir t ih => rw [ofText_dirMark, filled_cons, ← ih]; rfl
  | char c t hname hdir ih =>
    rw [Text.replaceFrom, if_neg (mt List.isPrefixOf_iff_prefix.mp hname), ih,
      ofText_cons hname hdir, filled_cons, fill, List.singleton_append]

lemma replaceFrom_dirMark (dir t : Text) :
    Text.replaceFrom dirMark dir 0 t = filled nameMark dir (ofText t) := by
  induction t using ofText_induction with
  | nil => rfl
  | name t ih => rw [ofText_nameMark, filled_cons, ← ih]; rfl
  | dir t ih =>
    rw [Text.replaceFrom_append (by decide), ih, ofText_dirMark, filled_cons, fill]
  | char c t hname hdir ih =>
    rw [Text.replaceFrom, if_neg (mt List.isPrefixOf_iff_prefix.mp hdir), ih,
      ofText_cons hname hdir, filled_cons, fill, List.singleton_append]

/-- What a template becomes when the name is filled in first, and then the directory in the
result. -/
def filledInTurn (name dir : Text) (ps : List TemplatePart) : Text :=
  filled nameMark dir (ofText (filled name dirMark ps))

/-- The mentions of the directory once the name is filled in. -/
def mentions (name : Text) (ps : List TemplatePart) : Nat :=
  (ofText (filled name dirMark ps)).count .dir

lemma ofText_filled_dir (qs ps : List TemplatePart) :
    ofText (filled name dirMark (qs ++ .dir :: ps)) =
      ofText (filled name dirMark qs) ++ .dir :: ofText (filled name dirMark ps) := by
  rw [filled_append, filled_cons, fill]
  exact ofText_append (filled name dirMark qs) _

lemma mentions_dir (qs ps : List TemplatePart) :
    mentions name (qs ++ .dir :: ps) = mentions name qs + (mentions name ps + 1) := by
  rw [mentions, ofText_filled_dir, List.count_append, List.count_cons_self, mentions, mentions]

lemma filledInTurn_dir (qs ps : List TemplatePart) :
    filledInTurn name dir (qs ++ .dir :: ps) =
      filledInTurn name dir qs ++ (dir ++ filledInTurn name dir ps) := by
  rw [filledInTurn, ofText_filled_dir, filled_append, filled_cons, fill, filledInTurn, filledInTurn]

/-- What holds of parts without a mention of the directory, and carries over from what follows
the first one, holds of all parts. -/
lemma induction_on_dir {motive : List TemplatePart → Prop}
    (plain : ∀ qs, .dir ∉ qs → motive qs)
    (dir : ∀ qs ps, .dir ∉ qs → motive ps → motive (qs ++ .dir :: ps)) (ps : List TemplatePart) :
    motive ps := by
  by_cases h : .dir ∈ ps
  · obtain ⟨qs, ps', hps, hqs⟩ := List.eq_append_cons_of_mem h
    rw [hps]
    exact dir qs ps' hqs (induction_on_dir plain dir ps')
  · exact plain ps h
termination_by ps.length
decreasing_by simp [hps]; omega

lemma count_le_mentions (name : Text) (ps : List TemplatePart) :
    ps.count .dir ≤ mentions name ps := by
  induction ps using induction_on_dir with
  | plain qs hqs => simp [List.count_eq_zero.mpr hqs]
  | dir qs ps hqs ih =>
    rw [mentions_dir, List.count_append, List.count_cons_self, List.count_eq_zero.mpr hqs]
    omega

lemma filledInTurn_eq_iff_of_plain (hqs : .dir ∉ qs) :
    filledInTurn name dir qs = filled name dir qs ↔ dir = dirMark ∨ mentions name qs = 0 := by
  have hplain : filled name dir qs = filled nameMark dirMark (ofText (filled name dirMark qs)) := by
    rw [filled_marks, filled_congr_dir hqs]
  rw [hplain, filledInTurn, filled_eq_filled_iff, mentions, List.count_eq_zero]

lemma filledInTurn_eq_of_mentions_eq (h : mentions name ps = ps.count .dir) :
    filledInTurn name dir ps = filled name dir ps := by
  induction ps using induction_on_dir with
  | plain qs hqs =>
    rw [List.count_eq_zero.mpr hqs] at h
    exact (filledInTurn_eq_iff_of_plain hqs).mpr (.inr h)
  | dir qs ps hqs ih =>
    have hle := count_le_mentions name ps
    rw [mentions_dir, List.count_append, List.count_cons_self, List.count_eq_zero.mpr hqs] at h
    have hplain : mentions name qs = 0 := by omega
    have hps : mentions name ps = ps.count .dir := by omega
    rw [filledInTurn_dir, (filledInTurn_eq_iff_of_plain hqs).mpr (.inr hplain), ih hps,
      filled_append, filled_cons, fill]

lemma length_filledInTurn_add (name dir : Text) (ps : List TemplatePart) :
    (filledInTurn name dir ps).length + mentions name ps * dirMark.length =
      (filled name dirMark ps).length + mentions name ps * dir.length := by
  rw [filledInTurn, mentions, length_filled_add nameMark dir dirMark, filled_marks]

lemma mentions_eq_of_filledInTurn_eq (h : filledInTurn name dir ps = filled name dir ps)
    (hdir : dir.length ≠ dirMark.length) : mentions name ps = ps.count .dir := by
  have hturn := length_filledInTurn_add name dir ps
  have honce := length_filled_add name dir dirMark ps
  obtain ⟨extra, hextra⟩ := Nat.exists_eq_add_of_le (count_le_mentions name ps)
  rw [h, hextra, Nat.add_mul, Nat.add_mul] at hturn
  have hmul : extra * dir.length = extra * dirMark.length := by omega
  rcases Nat.eq_zero_or_pos extra with rfl | hpos
  · exact hextra
  · exact absurd (Nat.eq_of_mul_eq_mul_left hpos hmul) hdir

/-- A directory as long as its mention keeps everything in its place, so that the two ways can be
compared from mention to mention. -/
lemma eq_or_mentions_eq_of_length (hdir : dir.length = dirMark.length)
    (h : filledInTurn name dir ps = filled name dir ps) :
    dir = dirMark ∨ mentions name ps = ps.count .dir := by
  induction ps using induction_on_dir with
  | plain qs hqs =>
    rw [List.count_eq_zero.mpr hqs]
    exact (filledInTurn_eq_iff_of_plain hqs).mp h
  | dir qs ps hqs ih =>
    have hlength : (filledInTurn name dir qs).length = (filled name dir qs).length := by
      rw [filledInTurn, length_filled_eq hdir, filled_marks, length_filled_eq hdir]
    rw [filledInTurn_dir, filled_append, filled_cons, fill] at h
    obtain ⟨hplain, hrest⟩ := List.append_inj h hlength
    rcases (filledInTurn_eq_iff_of_plain hqs).mp hplain with hmark | hplain
    · exact .inl hmark
    · refine (ih (List.append_cancel_left hrest)).imp id fun hps => ?_
      rw [mentions_dir, List.count_append, List.count_cons_self, List.count_eq_zero.mpr hqs, hplain,
        hps]

lemma filledInTurn_eq_filled_iff :
    filledInTurn name dir ps = filled name dir ps ↔
      dir = dirMark ∨ mentions name ps = ps.count .dir := by
  constructor
  · intro h
    by_cases hdir : dir.length = dirMark.length
    · exact eq_or_mentions_eq_of_length hdir h
    · exact .inr (mentions_eq_of_filledInTurn_eq h hdir)
  · rintro (rfl | hmentions)
    · rw [filledInTurn, filled_marks]
    · exact filledInTurn_eq_of_mentions_eq hmentions

end TemplatePart

namespace Namespace

open TemplatePart

def nameOf (file : Path) : Text := (Path.fileStem? file).getD []

def dirOf (file : Path) : Text := ((Path.parent? file).bind Path.fileName?).getD []

lemma expand_eq_filledInTurn (t : Text) (file : Path) :
    expand t (some file) = .ok (some (filledInTurn (nameOf file) (dirOf file) (ofText t))) := by
  rw [filledInTurn, ← replaceFrom_nameMark, ← replaceFrom_dirMark]
  rfl

/-- **When a template is filled in at once.** The namespace of a file is the template with each
mention of the name replaced by the file's stem, each mention of the directory by the name of the
directory around the file, and everything else kept, exactly if the stem, where it is filled in,
makes no mention of the directory that the template does not have, or the directory is named like
its mention. -/
theorem expand_eq_filled_iff (t : Text) (file : Path) :
    expand t (some file) = .ok (some (filled (nameOf file) (dirOf file) (ofText t))) ↔
      dirOf file = dirMark ∨
        (ofText (filled (nameOf file) dirMark (ofText t))).count .dir = (ofText t).count .dir := by
  rw [expand_eq_filledInTurn, Except.ok.injEq, Option.some.injEq, filledInTurn_eq_filled_iff,
    mentions]

/-- A stem that is a mention of the directory, and one that the braces around it make into one:
the directory stands where the stem should. -/
theorem expand_ne_filled_of_mention :
    (let t := "\x7bname\x7d".toList
    let file := "x/\x7bdir\x7d.css".toList
    expand t (some file) = .ok (some ['x']) ∧
      filled (nameOf file) (dirOf file) (ofText t) = "\x7bdir\x7d".toList) ∧
    (let t := "\x7b\x7bname\x7d\x7d".toList
    let file := "x/dir.css".toList
    expand t (some file) = .ok (some ['x']) ∧
      filled (nameOf file) (dirOf file) (ofText t) = "\x7bdir\x7d".toList) := by
  decide +kernel

end Namespace
end StyleScope
