import StyleScope.Proofs.Sheet.Separators
import StyleScope.Proofs.Text.Replace
import StyleScope.Proofs.Token.Modes
import StyleScope.Scope.Basic

/-!
Scoping keeps the signs of a selector.

A selector list is cut at its commas, its parts are trimmed, scoped and joined again. The cut
knows nothing of comments and may fall into one, or into a string. Even so the new text has the
signs of the old one: blanks and commas count nowhere, and what is put in or taken out is made
of characters that stand for themselves. Only the line ends of a separator can break a string.
-/

namespace StyleScope

open Text (Blank Tight tidy)

namespace Mode

/-- The mode after a character that stands for itself in every mode. -/
def settle : Mode → Mode
  | plain | slash | escape => plain
  | quoted d | quotedEscape d => quoted d
  | comment | star => comment

@[simp] lemma settle_settle (m : Mode) : m.settle.settle = m.settle := by cases m <;> rfl

/-- A character that stands for itself in every mode and counts in none. -/
def isOrdinary (c : Char) : Bool := isPlain c && c != '*' && c != '\n'

lemma step_of_isOrdinary {c : Char} (h : isOrdinary c = true) (m : Mode) :
    m.step c = m.settle ∧ m.sign? c = none := by
  simp only [isOrdinary, isPlain, Bool.and_eq_true, decide_eq_true_eq, Bool.not_eq_true',
    bne_iff_ne, ne_eq] at h
  obtain ⟨⟨⟨hbegin, hmark⟩, hstar⟩, hline⟩ := h
  have hne : c ≠ '\\' ∧ c ≠ '/' ∧ c ≠ '"' ∧ c ≠ '\'' := by
    refine ⟨?_, ?_, ?_, ?_⟩ <;> rintro rfl <;> revert hbegin <;> decide
  obtain ⟨h1, h2, h3, h4⟩ := hne
  cases m with
  | quoted d =>
    have hquote : c ≠ quote d := by cases d <;> simp [quote, h3, h4]
    simp [step, settle, sign?, h1, hline, hquote]
  | _ => simp_all [step, settle, sign?]

lemma run_of_isOrdinary {t : Text} (h : ∀ c ∈ t, isOrdinary c = true) (hne : t ≠ [])
    (m : Mode) : m.run t = m.settle ∧ m.signs t = [] := by
  induction t generalizing m with
  | nil => exact absurd rfl hne
  | cons c t ih =>
    obtain ⟨hstep, hsign⟩ := step_of_isOrdinary (h c (by simp)) m
    rw [run_cons, signs_cons, hstep, hsign]
    rcases t with _ | ⟨d, t⟩
    · exact ⟨rfl, rfl⟩
    · simpa using ih (fun e he => h e (by simp [he])) (by simp) m.settle

lemma isOrdinary_of_isBlank {c : Char} (h : isBlank c = true) (hline : c ≠ '\n') :
    isOrdinary c = true := by
  have hplain : isPlain c = true := isPlain_of (by decide) h
  have hstar : c ≠ '*' := by
    rintro rfl
    exact absurd h (by decide)
  simp [isOrdinary, hplain, hstar, hline]

lemma isOrdinary_of_isAlpha {c : Char} (h : c.isAlpha = true) : isOrdinary c = true := by
  have hplain : isPlain c = true := isPlain_of (by decide) h
  have hne : c ≠ '*' ∧ c ≠ '\n' := by
    constructor <;> rintro rfl <;> exact absurd h (by decide)
  simp [isOrdinary, hplain, hne.1, hne.2]

lemma step_of_isBlank {c : Char} (h : isBlank c = true) (m : Mode) (hn : m.sign? c ≠ some '\n') :
    m.step c = m.settle ∧ m.sign? c = none := by
  by_cases hline : c = '\n'
  · subst hline
    cases m with
    | quoted d => exact absurd rfl hn
    | _ => exact ⟨rfl, rfl⟩
  · exact step_of_isOrdinary (isOrdinary_of_isBlank h hline) m

lemma run_of_blank {t : Text} (h : Blank t) {m : Mode} (hn : '\n' ∉ m.signs t) :
    m.signs t = [] ∧ (t ≠ [] → m.run t = m.settle) ∧ (m.run t).settle = m.settle := by
  induction t generalizing m with
  | nil => simp
  | cons c t ih =>
    rw [signs_cons, List.mem_append, not_or] at hn
    have hsign : m.sign? c ≠ some '\n' := fun hs => hn.1 (by simp [hs])
    obtain ⟨hstep, hnone⟩ := step_of_isBlank (h c (by simp)) m hsign
    rw [hstep] at hn
    obtain ⟨hsigns, hrun, hsettle⟩ := ih (fun d hd => h d (by simp [hd])) hn.2
    have hrun' : m.settle.run t = m.settle := by
      rcases t with _ | ⟨d, t⟩
      · rfl
      · simpa using hrun (by simp)
    rw [run_cons, signs_cons, hstep, hnone, hsigns, hrun']
    simp

lemma run_blank_append {before text : Text} (hb : Blank before) {m : Mode} (hm : m.settle = m)
    (hn : '\n' ∉ m.signs (before ++ text)) :
    m.run (before ++ text) = m.run text ∧ m.signs (before ++ text) = m.signs text := by
  rw [signs_append, List.mem_append, not_or] at hn
  obtain ⟨hsigns, hrun, -⟩ := run_of_blank hb hn.1
  have hbefore : m.run before = m := by
    rcases before with _ | ⟨c, before⟩
    · rfl
    · rw [hrun (by simp), hm]
  rw [run_append, signs_append, hbefore, hsigns]
  exact ⟨rfl, rfl⟩

lemma run_comma (m : Mode) (t : Text) : m.run (',' :: t) = m.settle.run t := by
  rw [run_cons, (step_of_isOrdinary (by decide) m).1]

lemma signs_comma (m : Mode) (t : Text) : m.signs (',' :: t) = m.settle.signs t := by
  obtain ⟨hstep, hsign⟩ := @step_of_isOrdinary ',' (by decide) m
  rw [signs_cons, hstep, hsign]
  rfl

end Mode

/-! ### Replacing ordinary text -/

lemma Mode.run_replaceFrom {p r : Text} (hp : ∀ c ∈ p, isOrdinary c = true) (hpne : p ≠ [])
    (hr : ∀ c ∈ r, isOrdinary c = true) (hrne : r ≠ []) (t : Text) (m : Mode) :
    m.run (Text.replaceFrom p r 0 t) = m.run t ∧
      m.signs (Text.replaceFrom p r 0 t) = m.signs t := by
  induction hn : t.length using Nat.strongRecOn generalizing t m with
  | _ n ih =>
    rcases t with _ | ⟨c, t⟩
    · exact ⟨rfl, rfl⟩
    by_cases hprefix : p.isPrefixOf (c :: t) = true
    · obtain ⟨t', ht'⟩ := List.isPrefixOf_iff_prefix.mp hprefix
      obtain ⟨hprun, hpsigns⟩ := run_of_isOrdinary hp hpne m
      obtain ⟨hrrun, hrsigns⟩ := run_of_isOrdinary hr hrne m
      have hlen : t'.length < n := by
        have hpos := List.length_pos_iff.mpr hpne
        have happ := congrArg List.length ht'
        rw [List.length_append] at happ
        omega
      obtain ⟨hrun, hsigns⟩ := ih t'.length hlen t' m.settle rfl
      rw [← ht', Text.replaceFrom_append hpne]
      simp only [run_append, signs_append, hprun, hpsigns, hrrun, hrsigns, hrun, hsigns]
      exact ⟨trivial, trivial⟩
    · obtain ⟨hrun, hsigns⟩ := ih t.length (by rw [← hn]; simp) t (m.step c) rfl
      rw [Text.replaceFrom, if_neg hprefix, run_cons, signs_cons, hrun, hsigns]
      exact ⟨rfl, rfl⟩

/-! ### Scoping one selector -/

/-- A namespace that is a class of letters. -/
def IsClass (ns : Text) : Prop :=
  ∃ name, ns = '.' :: name ∧ name ≠ [] ∧ ∀ c ∈ name, c.isAlpha = true

lemma IsClass.isOrdinary {ns : Text} (h : IsClass ns) :
    (∀ c ∈ ns, Mode.isOrdinary c = true) ∧ ',' ∉ ns := by
  obtain ⟨name, rfl, -, halpha⟩ := h
  constructor
  · intro c hc
    rcases List.mem_cons.mp hc with rfl | hc
    · decide
    · exact Mode.isOrdinary_of_isAlpha (halpha c hc)
  · intro hmem
    rcases List.mem_cons.mp hmem with h | h
    · exact absurd h (by decide)
    · exact absurd (halpha _ h) (by decide)

namespace ScopePolicy

/-- The policy of the options that are not set. -/
def standard : ScopePolicy :=
  ⟨.literal ":--namespace".toList, .literal ":root".toList, true, true, false⟩

lemma variants_of_notMem {ns : Text} (h : ',' ∉ ns) (f : Text → Text) : variants f ns = f ns := by
  rw [variants, alternatives, Text.splitOn_of_notMem h]
  rfl

lemma apply_standard {ns : Text} (h : IsClass ns) (selector : Text) :
    standard.apply selector ns = Text.replaceFrom ":--namespace".toList ns 0 selector ∨
    (∃ rest, selector = ":root".toList ++ rest ∧ ¬ Blank rest ∧
      standard.apply selector ns = Text.trim rest) ∨
    standard.apply selector ns = selector ∧ selector ≠ [] ∨
    standard.apply selector ns = ns ++ ' ' :: selector := by
  have happly : standard.apply selector ns = standard.scope selector ns := rfl
  rw [happly, scope]
  split_ifs with hself hroot
  · left
    rw [variants_of_notMem h.isOrdinary.2]
    rfl
  · right
    have hprefix : ":root".toList.isPrefixOf selector = true := by
      simpa [standard, Matcher.matchesAtStart] using hroot
    obtain ⟨rest, rfl⟩ := List.isPrefixOf_iff_prefix.mp hprefix
    have hfirst : standard.root.replaceFirst [] (":root".toList ++ rest) = rest := by
      simp [standard, Matcher.replaceFirst, Text.replaceFirst]
    have hdrop : standard.dropRoot = true := rfl
    rw [withoutRoot, if_pos hdrop, hfirst]
    by_cases hblank : Blank rest
    · refine .inr (.inl ?_)
      rw [Text.trim_eq_nil.mpr hblank]
      exact ⟨rfl, by simp⟩
    · refine .inl ⟨rest, rfl, hblank, ?_⟩
      obtain ⟨c, t, ht⟩ := List.exists_cons_of_ne_nil (fun h => hblank (Text.trim_eq_nil.mp h))
      rw [ht]
  · right; right; right
    rw [variants_of_notMem h.isOrdinary.2]

/-- **Scoping a selector keeps its mode and its signs**, also in the middle of a string or of a
comment. -/
theorem run_apply_standard {ns : Text} (h : IsClass ns) {selector : Text} (ht : Tight selector)
    (hne : selector ≠ []) {m : Mode} (hm : m.settle = m) (hn : '\n' ∉ m.signs selector) :
    m.run (standard.apply selector ns) = m.run selector ∧
      m.signs (standard.apply selector ns) = m.signs selector := by
  have hns : ns ≠ [] := by
    obtain ⟨name, rfl, -⟩ := h
    simp
  rcases apply_standard h selector with heq | ⟨rest, rfl, hblank, heq⟩ | ⟨heq, -⟩ | heq
  · rw [heq]
    exact Mode.run_replaceFrom (List.all_eq_true.mp (by decide)) (by decide) h.isOrdinary.1 hns
      selector m
  · -- the root token is ordinary text, and the blanks behind it do not count
    obtain ⟨before, after, hrest, hb, ha⟩ := Text.exists_trim rest
    have hafter : after = [] := by
      by_contra hafter
      obtain ⟨c, hc⟩ := List.getLast?_isSome.mpr hafter |> Option.isSome_iff_exists.mp
      have hlast : c ∈ (":root".toList ++ rest).getLast? := by
        rw [hrest, ← List.append_assoc, ← List.append_assoc, List.getLast?_append, hc]
        rfl
      have hblank' := ha c (List.mem_of_getLast? hc)
      rw [ht.2 c hlast] at hblank'
      cases hblank'
    rw [hafter, List.append_nil] at hrest
    obtain ⟨hrun, hsigns⟩ := Mode.run_of_isOrdinary (t := ":root".toList)
      (List.all_eq_true.mp (by decide)) (by decide) m
    have hroot : m.run (":root".toList ++ rest) = m.run rest ∧
        m.signs (":root".toList ++ rest) = m.signs rest := by
      rw [Mode.run_append, Mode.signs_append, hrun, hsigns, hm]
      exact ⟨rfl, rfl⟩
    rw [hroot.2] at hn
    rw [heq, hroot.1, hroot.2]
    generalize Text.trim rest = core at hrest
    subst hrest
    obtain ⟨hrun', hsigns'⟩ := Mode.run_blank_append hb hm hn
    exact ⟨hrun'.symm, hsigns'.symm⟩
  · rw [heq]
    exact ⟨rfl, rfl⟩
  · obtain ⟨hrun, hsigns⟩ := Mode.run_of_isOrdinary h.isOrdinary.1 hns m
    obtain ⟨hstep, hsign⟩ := Mode.step_of_isOrdinary (c := ' ') (by decide) m
    rw [heq, Mode.run_append, Mode.signs_append, hrun, hsigns, hm, Mode.run_cons, Mode.signs_cons,
      hstep, hsign, hm]
    exact ⟨rfl, rfl⟩

lemma head?_apply_standard {ns : Text} (h : IsClass ns) {selector : Text} (ht : Tight selector)
    (hne : selector ≠ []) :
    standard.apply selector ns ≠ [] ∧
      ∀ c ∈ (standard.apply selector ns).head?, isBlank c = false := by
  obtain ⟨name, rfl, -⟩ := id h
  rcases apply_standard h selector with heq | ⟨rest, rfl, hblank, heq⟩ | ⟨heq, -⟩ | heq
  · rw [heq]
    obtain ⟨c, t, rfl⟩ := List.exists_cons_of_ne_nil hne
    rw [Text.replaceFrom]
    split_ifs
    · exact ⟨by simp, by simpa using (by decide : isBlank '.' = false)⟩
    · exact ⟨by simp, by simpa using ht.1⟩
  · rw [heq]
    exact ⟨fun hnil => hblank (Text.trim_eq_nil.mp hnil), (Text.tight_trim rest).1⟩
  · rw [heq]
    exact ⟨hne, ht.1⟩
  · rw [heq]
    exact ⟨by simp, by simpa using (by decide : isBlank '.' = false)⟩

end ScopePolicy

/-! ### Scoping a list -/

namespace Mode

/-- A change of selectors that keeps modes and signs. -/
def Keeps (f : Text → Text) : Prop :=
  ∀ (t : Text) (m : Mode), Tight t → t ≠ [] → m.settle = m → '\n' ∉ m.signs t →
    m.run (f t) = m.run t ∧ m.signs (f t) = m.signs t

/-- Both texts have the same signs and end in the same mode, up to an escape or a slash at the
end of the first that the second goes on from. -/
structure Tracks (m : Mode) (new old : Text) : Prop where
  signs : m.signs new = m.signs old
  mode : m.run new = m.run old ∨ (m.run new).settle = m.run old

lemma Tracks.settle {m : Mode} {new old : Text} (h : m.Tracks new old) :
    (m.run new).settle = (m.run old).settle := by
  rcases h.mode with hmode | hmode
  · rw [hmode]
  · rw [← hmode, settle_settle]

lemma tracks_trim {text : Text} {m : Mode} (hm : m.settle = m) (hn : '\n' ∉ m.signs text) :
    m.Tracks (Text.trim text) text := by
  obtain ⟨before, after, htext, hb, ha⟩ := Text.exists_trim text
  generalize Text.trim text = core at htext
  subst htext
  obtain ⟨hrun, hsigns⟩ := run_blank_append hb hm hn
  rw [hsigns, signs_append, List.mem_append, not_or] at hn
  obtain ⟨hasigns, harun, -⟩ := run_of_blank ha hn.2
  constructor
  · rw [hsigns, signs_append, hasigns, List.append_nil]
  · rw [hrun, run_append]
    by_cases hafter : after = []
    · exact .inl (by rw [hafter, run_nil])
    · exact .inr (harun hafter).symm

lemma Keeps.tracks {f : Text → Text} (hf : Keeps f) {text : Text} {m : Mode} (hm : m.settle = m)
    (htrim : Text.trim text ≠ []) (hn : '\n' ∉ m.signs text) :
    m.Tracks (f (Text.trim text)) text := by
  have h := tracks_trim hm hn
  obtain ⟨hrun, hsigns⟩ := hf _ m (Text.tight_trim text) htrim hm (h.signs ▸ hn)
  exact ⟨hsigns.trans h.signs, by rw [hrun]; exact h.mode⟩

lemma Tracks.append {m : Mode} {new old new' old' blanks : Text} (h : m.Tracks new old)
    (hb : Blank blanks) (hn : '\n' ∉ (m.run old).settle.signs (blanks ++ new'))
    (h' : (m.run old).settle.Tracks new' old') :
    m.Tracks (new ++ ',' :: (blanks ++ new')) (old ++ ',' :: old') := by
  obtain ⟨hrun, hsigns⟩ := run_blank_append hb (settle_settle _) hn
  constructor
  · rw [signs_append, signs_append, signs_comma, signs_comma, h.settle, h.signs, hsigns, h'.signs]
  · rw [run_append, run_append, run_comma, run_comma, h.settle, hrun]
    exact h'.mode

/-- **A list whose parts are trimmed and changed keeps its signs**, unless the separator breaks
a string. -/
theorem tracks_join_tidy {f : Text → Text} (hf : Keeps f) {sep : Text} {ps : List Text}
    (hps : ps ≠ []) (hsep : 2 ≤ ps.length → ∃ blanks, Blank blanks ∧ sep = ',' :: blanks)
    {m : Mode} (hm : m.settle = m) (hn : '\n' ∉ m.signs (Text.join [','] ps))
    (hn' : '\n' ∉ m.signs (Text.join sep ((tidy ps).map f))) :
    m.Tracks (Text.join sep ((tidy ps).map f)) (Text.join [','] ps) := by
  induction ps generalizing m with
  | nil => exact absurd rfl hps
  | cons p ps ih =>
    by_cases hnil : ps = []
    · -- one part
      subst hnil
      have hjoin : Text.join [','] [p] = p := rfl
      rw [hjoin] at hn ⊢
      rw [Text.tidy_cons]
      split_ifs with htrim
      · have h := tracks_trim hm hn
        rwa [htrim] at h
      · exact hf.tracks hm htrim hn
    · obtain ⟨blanks, hblanks, rfl⟩ := hsep (by
        have := List.length_pos_iff.mpr hnil
        simp only [List.length_cons]
        omega)
      rw [Text.join_cons _ _ hnil, List.cons_append, List.nil_append] at hn ⊢
      rw [signs_append, signs_comma, List.mem_append, not_or] at hn
      have hrest := @ih hnil (fun _ => ⟨blanks, hblanks, rfl⟩) (m.run p).settle (settle_settle _)
        hn.2
      rw [Text.tidy_cons] at hn' ⊢
      split_ifs at hn' ⊢ with htrim
      · -- a blank part leaves no trace
        have hp := tracks_trim hm hn.1
        rw [htrim] at hp
        have hback : (m.run p).settle = m := by rw [← hp.settle, run_nil, hm]
        rw [hback] at hrest
        have h := hrest hn'
        constructor
        · rw [signs_append, ← hp.signs, signs_comma, hback]
          exact h.signs
        · rw [run_append, run_comma, hback]
          exact h.mode
      · have hfp := hf.tracks hm htrim hn.1
        by_cases htidy : tidy ps = []
        · -- the parts behind it are blank
          rw [htidy] at hrest ⊢
          have h := hrest (by simp [Text.join])
          have hnew : Text.join (',' :: blanks) ([Text.trim p].map f) = f (Text.trim p) := rfl
          rw [hnew]
          constructor
          · rw [signs_append, signs_comma, ← h.signs, hfp.signs]
            simp [Text.join]
          · right
            rw [run_append, run_comma, hfp.settle]
            rcases h.mode with hmode | hmode
            · exact hmode
            · exact (settle_settle _).symm.trans hmode
        · have hmap : (tidy ps).map f ≠ [] := by simpa using htidy
          rw [List.map_cons, Text.join_cons _ _ hmap, List.cons_append] at hn' ⊢
          rw [signs_append, signs_comma, hfp.settle, List.mem_append, not_or] at hn'
          refine hfp.append hblanks hn'.2 (hrest ?_)
          exact (run_blank_append hblanks (settle_settle _) hn'.2).2 ▸ hn'.2

end Mode

/-! ### Scoping a rule -/

namespace Rule

def scopedSelector (ns : Text) (r : Rule) : Text :=
  Text.join r.separator (r.selectors.map fun selector => ScopePolicy.standard.apply selector ns)

/-- **Scoping a rule keeps the signs of its selector**, unless its separator breaks a string. -/
theorem tracks_scopedSelector {ns : Text} (h : IsClass ns) {r : Rule}
    (hn : '\n' ∉ Mode.plain.signs r.selector)
    (hn' : '\n' ∉ Mode.plain.signs (r.scopedSelector ns)) :
    Mode.plain.Tracks (r.scopedSelector ns) r.selector := by
  have hf : Mode.Keeps fun selector => ScopePolicy.standard.apply selector ns :=
    fun t m ht hne hm hn => ScopePolicy.run_apply_standard h ht hne hm hn
  have hsep : 2 ≤ (SelectorList.pieces .outer r.selector).length →
      ∃ blanks, Blank blanks ∧ r.separator = ',' :: blanks := by
    intro hlen
    refine separator_of_mem (by_contra fun hmem => ?_)
    rw [SelectorList.length_pieces hmem] at hlen
    omega
  have hjoin := SelectorList.join_pieces .outer r.selector
  have htracks := Mode.tracks_join_tidy hf (SelectorList.pieces_ne_nil .outer r.selector) hsep
    (m := .plain) rfl (by rw [hjoin]; exact hn) hn'
  rw [hjoin] at htracks
  exact htracks

lemma head?_scopedSelector {ns : Text} (h : IsClass ns) (r : Rule) :
    ∀ c ∈ (r.scopedSelector ns).head?, isBlank c = false := by
  have htight : ∀ t ∈ r.selectors, Tight t ∧ t ≠ [] := by
    intro t ht
    obtain ⟨hmem, hne⟩ := List.mem_filter.mp ht
    obtain ⟨piece, -, rfl⟩ := List.mem_map.mp hmem
    exact ⟨Text.tight_trim piece, by simpa using hne⟩
  unfold scopedSelector
  rcases hsel : r.selectors with _ | ⟨t, ts⟩
  · simp [Text.join]
  · obtain ⟨ht, hne⟩ := htight t (by simp [hsel])
    obtain ⟨happly, hhead⟩ := ScopePolicy.head?_apply_standard h ht hne
    obtain ⟨c, u, hcu⟩ := List.exists_cons_of_ne_nil happly
    rw [hcu] at hhead
    rcases ts with _ | ⟨t', ts⟩
    · simpa [Text.join, hcu] using hhead
    · rw [List.map_cons, Text.join_cons _ _ (by simp), hcu]
      simpa using hhead

end Rule
end StyleScope
