import Mathlib.Data.List.Basic
import StyleScope.Glob.Parser

/-!
Globs made from the path of a directory.

A path is taken for a glob when `/**` is put behind it. As long as it has none of the characters
that open brackets, braces and escapes or close braces, the glob can be read and matches everything
in the directory: a wild card in the path matches at least itself. The reader keeps this as an
invariant, part by part.
-/

namespace StyleScope

namespace Glob

/-! ### Passing over texts -/

/-- A glob that matches a text, whatever follows. -/
def Passes (g : Glob) (t : Text) : Prop := ∀ bs, bs ∈ g.rests (Text.utf8 t ++ bs)

lemma utf8_append (t u : Text) : Text.utf8 (t ++ u) = Text.utf8 t ++ Text.utf8 u :=
  List.flatMap_append

lemma after_append (as bs : List UInt8) : after as (as ++ bs) = [bs] := by
  induction as with
  | nil => rfl
  | cons a as ih => simp [after, ih]

lemma mem_tails (as bs : List UInt8) : bs ∈ tails (as ++ bs) := by
  induction as with
  | nil => cases bs <;> simp [tails]
  | cons a as ih => exact List.mem_cons_of_mem _ ih

lemma mem_afterSlashes (as bs : List UInt8) : bs ∈ afterSlashes (as ++ slash :: bs) := by
  induction as with
  | nil => simp [afterSlashes]
  | cons a as ih =>
    rw [List.cons_append, afterSlashes]
    split_ifs
    · exact List.mem_cons_of_mem _ ih
    · exact ih

lemma mem_rests_append {a b : Glob} {bs rest : List UInt8} :
    rest ∈ (append a b).rests bs ↔ ∃ m ∈ a.rests bs, rest ∈ b.rests m := by
  by_cases ha : a = empty
  · simp [ha, append, rests]
  by_cases hb : b = empty
  · have happend : append a b = a := by cases a <;> simp_all [append]
    rw [happend, hb]
    simp [rests]
  · have happend : append a b = seq a b := by cases a <;> cases b <;> simp_all [append]
    simp [happend, rests, List.mem_eraseDups]

lemma mem_rests_concat_append {as bs : List Glob} {xs rest : List UInt8} :
    rest ∈ (concat (as ++ bs)).rests xs ↔
      ∃ m ∈ (concat as).rests xs, rest ∈ (concat bs).rests m := by
  induction as generalizing xs with
  | nil => simp [concat, rests]
  | cons a as ih =>
    change rest ∈ (append a (concat (as ++ bs))).rests xs ↔
      ∃ m ∈ (append a (concat as)).rests xs, _
    simp only [mem_rests_append, ih]
    constructor
    · rintro ⟨m, hm, k, hk, hrest⟩
      exact ⟨k, ⟨m, hm, hk⟩, hrest⟩
    · rintro ⟨k, ⟨m, hm, hk⟩, hrest⟩
      exact ⟨m, hm, k, hk, hrest⟩

lemma mem_rests_concat_singleton {g : Glob} {xs rest : List UInt8} :
    rest ∈ (concat [g]).rests xs ↔ rest ∈ g.rests xs := by
  change rest ∈ (append g empty).rests xs ↔ _
  simp [mem_rests_append, rests]

lemma isMatch_of_mem {g : Glob} {t : Text} (h : [] ∈ g.rests (Text.utf8 t)) :
    g.isMatch t = true :=
  List.any_eq_true.mpr ⟨[], h, rfl⟩

/-! ### What a reader has read -/

/-- A part that a reader makes of some text, behind other parts. -/
inductive Piece (before : List Glob) : Glob → Text → Prop
  | literal (c : Char) : Piece before (literal c) [c]
  | any : Piece before any ['?']
  | star (t : Text) : Piece before star (t ++ ['*'])
  | leading (t : Text) : before = [] → Piece before leading (t ++ ['/'])
  | between (t t' : Text) : '/' :: t = t' ++ ['/'] → Piece before between ('/' :: t)

/-- The parts that a reader makes of a text, the last one first. -/
inductive Reads : List Glob → Text → Prop
  | nil : Reads [] []
  | cons {gs : List Glob} {g : Glob} {t u : Text} :
    Reads gs t → Piece gs g u → Reads (g :: gs) (t ++ u)

lemma utf8_append_slash (t : Text) (bs : List UInt8) :
    Text.utf8 (t ++ ['/']) ++ bs = Text.utf8 t ++ slash :: bs := by
  rw [utf8_append, List.append_assoc]
  rfl

lemma Piece.passes {before : List Glob} {g : Glob} {t : Text} (h : Piece before g t) :
    g.Passes t := by
  intro bs
  cases h with
  | literal c => simp [rests, Text.utf8, after_append]
  | any => exact List.mem_singleton.mpr rfl
  | star t => exact mem_tails _ bs
  | leading t _ =>
    rw [utf8_append_slash]
    exact List.mem_cons_of_mem _ (mem_afterSlashes _ bs)
  | between t t' ht =>
    change bs ∈ (after [slash] (slash :: (Text.utf8 t ++ bs))).flatMap fun r => r :: afterSlashes r
    simp only [after, if_true, List.flatMap_cons, List.flatMap_nil, List.append_nil]
    -- the last `/` is the first one, or one after it
    rcases List.eq_nil_or_concat' t with rfl | ⟨u, c, rfl⟩
    · exact List.mem_cons_self
    · have hlast : c = '/' := by
        rw [← List.cons_append] at ht
        simpa using (List.append_inj' ht rfl).2
      rw [hlast, utf8_append_slash]
      exact List.mem_cons_of_mem _ (mem_afterSlashes _ bs)

lemma Reads.passes {gs : List Glob} {t : Text} (h : Reads gs t) :
    (concat gs.reverse).Passes t := by
  induction h with
  | nil => exact fun bs => List.mem_singleton.mpr rfl
  | @cons gs g t u _ hpiece ih =>
    intro bs
    rw [List.reverse_cons, mem_rests_concat_append, utf8_append, List.append_assoc]
    exact ⟨_, ih _, mem_rests_concat_singleton.mpr (hpiece.passes bs)⟩

lemma Reads.eq_nil {t : Text} (h : Reads [] t) : t = [] := by
  cases h
  rfl

lemma Piece.of_slash {before : List Glob} {g : Glob} {t : Text} (h : Piece before g t)
    (hlast : t.getLast? = some '/') :
    (g = Glob.leading ∧ before = []) ∨
      (g ≠ Glob.leading ∧ g ≠ trailing ∧ ∃ u, t = '/' :: u) := by
  cases h with
  | literal c =>
    obtain rfl : c = '/' := by simpa using hlast
    exact .inr ⟨by simp, by simp, [], rfl⟩
  | any => exact absurd hlast (by decide)
  | star t => simp at hlast
  | leading t hbefore => exact .inl ⟨rfl, hbefore⟩
  | between t t' _ => exact .inr ⟨by simp, by simp, t, rfl⟩

lemma Piece.getLast?_of_append {before : List Glob} {g : Glob} {t u : Text} {c : Char}
    (h : Piece before g u) (hlast : (t ++ u).getLast? = some c) : u.getLast? = some c := by
  have hne : u ≠ [] := by cases h <;> simp
  rwa [List.getLast?_append, List.getLast?_eq_some_getLast hne, Option.some_or,
    ← List.getLast?_eq_some_getLast hne] at hlast

/-- A reader outside of braces that has made its parts of a text. -/
structure Draft.Reading (p : Draft) (t : Text) : Prop where
  parts : Reads p.parts t
  braces : p.braces = []
  last : p.last = t.getLast?

namespace Draft

variable {p p' : Draft} {t : Text}

lemma Reading.push (h : p.Reading t) {g : Glob} {u : Text} {c : Char}
    (hpiece : Piece p.parts g (u ++ [c])) : (p.push g c).Reading (t ++ (u ++ [c])) where
  parts := .cons h.parts hpiece
  braces := h.braces
  last := by simp [Draft.push]

lemma directories?_eq_none (hbraces : p.braces = []) {c : Char} (hc : c ≠ '/') :
    p.directories? (some c) = none := by
  unfold directories?
  cases p.parts <;> simp [Draft.isNested, hbraces, hc]

lemma directories?_slash (hbraces : p.braces = []) : p.directories? (some '/') =
    match p.parts with
    | [] => some { p with parts := [leading], last := some '/' }
    | part :: parts =>
      if p.last = some '/' then
        let part :=
          if part = leading then leading else if part = trailing then trailing else between
        some { p with parts := part :: parts, last := some '/' }
      else none := by
  unfold directories?
  cases p.parts <;> simp [Draft.isNested, hbraces]

lemma directories?_end (hlast : p.last = some '/') {part : Glob}
    {parts : List Glob} (hparts : p.parts = part :: parts) : p.directories? none =
    some { p with parts := (if part = leading then leading else trailing) :: parts,
                  last := some '*' } := by
  simp [directories?, hparts, hlast]

lemma Reading.directories (h : p.Reading t) (hdirectories : p.directories? (some '/') = some p') :
    p'.Reading (t ++ ['*', '*', '/']) := by
  obtain ⟨hreads, hbraces, hlast⟩ := h
  rw [directories?_slash hbraces] at hdirectories
  cases hparts : p.parts with
  | nil =>
    rw [hparts] at hdirectories hreads
    obtain rfl := Option.some.inj hdirectories
    rw [hreads.eq_nil]
    exact ⟨.cons .nil (.leading ['*', '*'] rfl), hbraces, by simp⟩
  | cons part parts =>
    simp only [hparts, Option.ite_none_right_eq_some, Option.some.injEq] at hdirectories
    obtain ⟨hslash, rfl⟩ := hdirectories
    rw [hparts] at hreads
    cases hreads with
    | @cons _ _ t u hbefore hpiece =>
      have hu := hpiece.getLast?_of_append (hlast.symm.trans hslash)
      refine ⟨?_, hbraces, by simp⟩
      rw [List.append_assoc]
      refine .cons hbefore ?_
      rcases hpiece.of_slash hu with ⟨rfl, hfirst⟩ | ⟨hleading, htrailing, v, rfl⟩
      · rw [if_pos rfl]
        have hend : u ++ ['*', '*', '/'] = (u ++ ['*', '*']) ++ ['/'] := by simp
        rw [hend]
        exact .leading _ hfirst
      · rw [if_neg hleading, if_neg htrailing]
        exact .between _ ('/' :: v ++ ['*', '*']) (by simp)

lemma Reading.finish (h : p.Reading t) (hlast : t.getLast? = some '/') :
    ∃ p' g, p.directories? none = some p' ∧ p'.finish? = some g ∧
      ∀ x, g.isMatch (t ++ x) = true := by
  obtain ⟨hreads, hbraces, hplast⟩ := h
  cases hparts : p.parts with
  | nil =>
    rw [hparts] at hreads
    rw [hreads.eq_nil] at hlast
    contradiction
  | cons part parts =>
    rw [hparts] at hreads
    cases hreads with
    | @cons _ _ t u hbefore hpiece =>
      have hu := hpiece.getLast?_of_append hlast
      rw [directories?_end (hplast.trans hlast) hparts]
      rcases hpiece.of_slash hu with ⟨rfl, rfl⟩ | ⟨hleading, -, v, rfl⟩
      · refine ⟨_, star, rfl, by simp [finish?, Draft.isNested, hbraces], fun x => ?_⟩
        have htails := mem_tails (Text.utf8 (t ++ u ++ x)) []
        rw [List.append_nil] at htails
        exact isMatch_of_mem htails
      · refine ⟨_, concat (trailing :: parts).reverse, rfl, ?_, fun x => isMatch_of_mem ?_⟩
        · simp [finish?, Draft.isNested, hbraces, hleading, branch]
        · rw [List.append_assoc, utf8_append, List.reverse_cons, mem_rests_concat_append]
          refine ⟨_, hbefore.passes _, mem_rests_concat_singleton.mpr ?_⟩
          change [] ∈ (after [slash] (slash :: Text.utf8 (v ++ x))).flatMap tails
          simpa [after] using mem_tails (Text.utf8 (v ++ x)) []

end Draft

/-- The characters that a path must not have to be read as a glob for itself. -/
def isSpecial (c : Char) : Bool := c = '[' || c = '{' || c = '}' || c = '\\'

/-- What is left to read behind a text: characters that are not special, the last one a `/` unless
that has been read, and `**`. -/
structure Ahead (t u w : Text) : Prop where
  plain : ∀ c ∈ u, isSpecial c = false
  slash : (t ++ u).getLast? = some '/'
  text : w = u ++ ['*', '*']

lemma Ahead.cons {t u w : Text} {c : Char} (h : Ahead t u (c :: w)) (hne : u ≠ []) :
    ∃ v, u = c :: v ∧ Ahead (t ++ [c]) v w := by
  obtain ⟨a, v, rfl⟩ := List.exists_cons_of_ne_nil hne
  obtain ⟨rfl, rfl⟩ := List.cons.inj h.text
  refine ⟨v, rfl, fun b hb => h.plain b (List.mem_cons_of_mem c hb), ?_, rfl⟩
  simpa using h.slash

lemma Ahead.ne_nil {t u w : Text} {c : Char} (h : Ahead t u (c :: w)) (hc : c ≠ '*') : u ≠ [] := by
  rintro rfl
  exact hc (List.cons.inj h.text).1

lemma Ahead.not_isSpecial {t u w : Text} {c : Char} (h : Ahead t u (c :: w)) :
    isSpecial c = false := by
  by_cases hc : c = '*'
  · rw [hc]
    decide
  · obtain ⟨v, rfl, -⟩ := h.cons (h.ne_nil hc)
    exact h.plain c List.mem_cons_self

lemma Ahead.stars {t u w : Text} (h : Ahead t u ('*' :: '*' :: w)) :
    (u = [] ∧ w = []) ∨ ∃ v, u = '*' :: '*' :: v ∧ Ahead (t ++ ['*', '*']) v w := by
  by_cases hu : u = []
  · obtain ⟨-, hslash, htext⟩ := h
    simp only [hu, List.nil_append, List.cons.injEq, true_and] at htext
    exact .inl ⟨hu, htext⟩
  · obtain ⟨v, rfl, hv⟩ := h.cons hu
    have hne : v ≠ [] := by
      rintro rfl
      simpa using hv.slash
    obtain ⟨v', rfl, hv'⟩ := hv.cons hne
    rw [List.append_assoc] at hv'
    exact .inr ⟨v', rfl, hv'⟩

/-- What is read of a text that ends in `/**` matches everything in the directory before that. -/
lemma parseFrom_ahead {p : Draft} {t u w : Text} (h : p.Reading t) (hw : Ahead t u w) :
    ∃ g, parseFrom p w = some g ∧ ∀ x, g.isMatch (t ++ u ++ x) = true := by
  fun_induction parseFrom p w generalizing t u with
  | case1 p => simpa using hw.text
  | case2 p w p' hdirectories ih =>
    rcases hw.stars with ⟨rfl, rfl⟩ | ⟨v, rfl, hv⟩
    · -- these are the two stars at the end
      rw [List.append_nil]
      obtain ⟨p'', g, hp'', hg, hmatch⟩ := h.finish (by simpa using hw.slash)
      obtain rfl : p' = p'' := Option.some.inj (hdirectories.symm.trans hp'')
      exact ⟨g, by simpa [parseFrom] using hg, hmatch⟩
    · -- stars that stand for directories have a `/` behind them
      obtain ⟨c, w, rfl⟩ : ∃ c w', w = c :: w' :=
        List.exists_cons_of_ne_nil (by simp [hv.text])
      have hc : c = '/' := by
        by_contra hc
        simp [Draft.directories?_eq_none h.braces hc] at hdirectories
      subst hc
      obtain ⟨v', rfl, hv'⟩ := hv.cons (hv.ne_nil (by decide))
      rw [List.append_assoc] at hv'
      simpa using ih (h.directories hdirectories) (by simpa using hv')
  | case3 p w hdirectories ih =>
    rcases hw.stars with ⟨rfl, rfl⟩ | ⟨v, rfl, hv⟩
    · obtain ⟨p'', g, hp'', -⟩ := h.finish (by simpa using hw.slash)
      exact absurd (hdirectories.symm.trans hp'') (by simp)
    · simpa using ih (h.push (u := ['*']) (.star ['*'])) hv
  | case4 p w g n _ ih => exact absurd hw.not_isSpecial (by decide)
  | case5 p w _ => exact absurd hw.not_isSpecial (by decide)
  | case6 p w p' _ ih => exact absurd hw.not_isSpecial (by decide)
  | case7 p w _ => exact absurd hw.not_isSpecial (by decide)
  | case8 p => exact absurd hw.not_isSpecial (by decide)
  | case9 p c w ih => exact absurd hw.not_isSpecial (by decide)
  | case10 p w ih =>
    obtain ⟨v, rfl, hv⟩ := hw.cons (hw.ne_nil (by decide))
    simpa using ih (h.push (u := []) .any) hv
  | case11 p w hstar ih =>
    have hne : u ≠ [] := by
      rintro rfl
      exact hstar [] (List.cons.inj hw.text).2
    obtain ⟨v, rfl, hv⟩ := hw.cons hne
    simpa using ih (h.push (u := []) (.star [])) hv
  | case12 p w ih => exact absurd hw.not_isSpecial (by decide)
  | case13 p w ih =>
    obtain ⟨v, rfl, hv⟩ := hw.cons (hw.ne_nil (by decide))
    rw [Draft.comma, h.braces] at ih ⊢
    simpa using ih (h.push (u := []) (.literal ',')) hv
  | case14 p c w _ _ _ _ _ _ hc _ _ ih =>
    obtain ⟨v, rfl, hv⟩ := hw.cons (hw.ne_nil hc)
    simpa using ih (h.push (u := []) (.literal c)) hv

/-- **The glob for a directory**: the path of a directory with `/**` behind it is a glob for
everything in the directory, unless the path has a special character. -/
theorem exists_parse? {dir : Text} (h : ∀ c ∈ dir, isSpecial c = false) :
    ∃ g, parse? (dir ++ "/**".toList) = some g ∧ ∀ x, g.isMatch (dir ++ '/' :: x) = true := by
  have hahead : Ahead [] (dir ++ ['/']) (dir ++ "/**".toList) := by
    refine ⟨fun c hc => ?_, by simp, by simp⟩
    rcases List.mem_append.mp hc with hc | hc
    · exact h c hc
    · rw [List.mem_singleton.mp hc]
      decide
  have hempty : Draft.Reading {} [] := ⟨.nil, rfl, rfl⟩
  obtain ⟨g, hg, hmatch⟩ := parseFrom_ahead hempty hahead
  exact ⟨g, hg, fun x => by simpa using hmatch x⟩

end Glob
end StyleScope
