import Mathlib.Data.List.Chain
import StyleScope.Proofs.CommandLine.Grammar
import StyleScope.Settings

/-!
Where each setting comes from.

`flagsOf` and `valuesOf` find the occurrences of flags and options by looking at the arguments of a
command line one by one, up to `--`, and at nothing else. In a command line that is read they are
what the reader took in: of two opposite flags the last one, of an option that may be given once its
only value, of the others all values in order. So each setting is told by the occurrences of its own
flags and by its own members of the configuration.
-/

namespace StyleScope

def OutputFormat.name : OutputFormat → String
  | human => "human"
  | humanVerbose => "human-verbose"
  | json => "json"
  | machine => "machine"

lemma OutputFormat.name_of_ofName? {s : String} {f : OutputFormat} (h : ofName? s = some f) :
    s = f.name := by
  unfold ofName? at h
  split at h
  case h_5 => contradiction
  all_goals
    obtain rfl := Option.some.inj h
    rfl

/-- The pairs of opposite flags. -/
inductive FlagPair where
  | keepRootPrefix
  | keepRoot
  | htmlTag
  deriving DecidableEq, Repr

namespace FlagPair

def switch : FlagPair → Bool → SwitchOption
  | keepRootPrefix, on => .keepRootPrefix on
  | keepRoot, on => .keepRoot on
  | htmlTag, on => .htmlTag on

def name (k : FlagPair) (on : Bool) : String := (CommandOption.switch (k.switch on)).longName

lemma switch_injective {k : FlagPair} : Function.Injective k.switch := by
  intro on on' h
  cases k <;> injection h

end FlagPair

namespace Arguments

/-- The values that were taken in for an option. -/
def valuesFor (a : Arguments) : ValueOption → List Text
  | .workspace => a.workspace.toList
  | .config => a.config.toList
  | .under => a.under.toList
  | .template => a.template.toList
  | .self => a.self.toList
  | .root => a.root.toList
  | .outDir => a.outDir.toList
  | .extension => a.extensions
  | .ignore => a.ignore
  | .stdinFilename => a.stdinFilename.toList
  | .output => (a.output.map fun f => f.name.toList).toList

/-- The flag of a pair that is in force. -/
def flagFor (a : Arguments) : FlagPair → Option Bool
  | .keepRootPrefix => a.keepRootPrefix
  | .keepRoot => a.keepRoot
  | .htmlTag => a.htmlTag

lemma once_eq_ok {α : Type} {old r : Option α} {new : α} :
    once old new = .ok r ↔ old = none ∧ r = some new := by
  cases old <;> simp [once, eq_comm]

lemma toggle_eq_ok {old r : Option Bool} {on : Bool} :
    toggle old on = .ok r ↔ old ≠ some on ∧ r = some on := by
  unfold toggle
  split_ifs with h <;> simp [h, eq_comm]

lemma setValue_eq_ok {a a' : Arguments} {o : ValueOption} {v : Text}
    (h : a.setValue o v = .ok a') :
    (∀ o', a'.valuesFor o' = a.valuesFor o' ++ if o' = o then [v] else []) ∧
      ∀ k, a'.flagFor k = a.flagFor k := by
  cases o with
  | extension | ignore =>
    obtain rfl := Except.ok.inj h
    exact ⟨fun o' => by cases o' <;> simp [valuesFor], fun k => by cases k <;> rfl⟩
  | output =>
    simp only [setValue] at h
    split at h
    · contradiction
    · contradiction
    · next f hold hname =>
      obtain rfl := Except.ok.inj h
      have hv : v = f.name.toList := by
        rw [← OutputFormat.name_of_ofName? hname, String.toList_ofList]
      exact ⟨fun o' => by cases o' <;> simp [valuesFor, hold, hv], fun k => by cases k <;> rfl⟩
  | _ =>
    obtain ⟨r, hr, h⟩ := CommandLine.bind_eq_ok.mp h
    obtain ⟨hold, rfl⟩ := once_eq_ok.mp hr
    obtain rfl := Except.ok.inj h
    exact ⟨fun o' => by cases o' <;> simp [valuesFor, hold], fun k => by cases k <;> rfl⟩

/-- Taking in a flag of a pair puts it in force unless it is so already, and taking in another flag
leaves the pair alone. -/
lemma setSwitch_eq_ok {a a' : Arguments} {o : SwitchOption} (h : a.setSwitch o = .ok a') :
    (∀ o', a'.valuesFor o' = a.valuesFor o') ∧
      ∀ k, (∃ on, o = k.switch on ∧ a.flagFor k ≠ some on ∧ a'.flagFor k = some on) ∨
        (∀ on, o ≠ k.switch on) ∧ a'.flagFor k = a.flagFor k := by
  cases o with
  | keepRootPrefix on | keepRoot on | htmlTag on =>
    obtain ⟨r, hr, h⟩ := CommandLine.bind_eq_ok.mp h
    obtain ⟨hold, rfl⟩ := toggle_eq_ok.mp hr
    obtain rfl := Except.ok.inj h
    refine ⟨fun o' => by cases o' <;> rfl, fun k => ?_⟩
    cases k <;> simp [FlagPair.switch, flagFor, hold]
  | help | version => contradiction
  | _ =>
    obtain ⟨r, -, h⟩ := CommandLine.bind_eq_ok.mp h
    obtain rfl := Except.ok.inj h
    refine ⟨fun o' => by cases o' <;> rfl, fun k => .inr ?_⟩
    cases k <;> simp [FlagPair.switch, flagFor]

end Arguments

namespace CommandLine

/-! ### What was taken in -/

namespace Given

def valueFor? (o : ValueOption) : Given → Option Text
  | value o' v => if o = o' then some v else none
  | _ => none

def flagFor? (k : FlagPair) : Given → Option Bool
  | switch o =>
    if o = k.switch true then some true else if o = k.switch false then some false else none
  | _ => none

lemma flagFor?_switch (k : FlagPair) (on : Bool) :
    flagFor? k (.switch (k.switch on)) = some on := by
  cases on
  · rw [flagFor?, if_neg fun h => absurd (FlagPair.switch_injective h) (by decide), if_pos rfl]
  · rw [flagFor?, if_pos rfl]

lemma flagFor?_eq_none {k : FlagPair} {o : SwitchOption} (h : ∀ on, o ≠ k.switch on) :
    flagFor? k (.switch o) = none := by
  rw [flagFor?, if_neg (h true), if_neg (h false)]

end Given

section Views

variable {a a' : Arguments} {g : Given} {gs : List Given}

lemma valuesFor_accept (h : accept a g = .ok a') (o : ValueOption) :
    a'.valuesFor o = a.valuesFor o ++ (g.valueFor? o).toList := by
  cases g with
  | value o' v =>
    rw [(Arguments.setValue_eq_ok h).1 o, Given.valueFor?]
    split_ifs <;> rfl
  | switch o' =>
    rw [(Arguments.setSwitch_eq_ok h).1 o]
    exact (List.append_nil _).symm
  | file p =>
    obtain rfl := Except.ok.inj h
    cases o <;> simp [Arguments.valuesFor, Given.valueFor?]

lemma flagFor_accept (h : accept a g = .ok a') (k : FlagPair) :
    (∃ on, g.flagFor? k = some on ∧ a.flagFor k ≠ some on ∧ a'.flagFor k = some on) ∨
      g.flagFor? k = none ∧ a'.flagFor k = a.flagFor k := by
  cases g with
  | value o v => exact .inr ⟨rfl, (Arguments.setValue_eq_ok h).2 k⟩
  | switch o =>
    rcases (Arguments.setSwitch_eq_ok h).2 k with ⟨on, rfl, hold, hnew⟩ | ⟨hne, hnew⟩
    · exact .inl ⟨on, Given.flagFor?_switch k on, hold, hnew⟩
    · exact .inr ⟨Given.flagFor?_eq_none hne, hnew⟩
  | file p =>
    obtain rfl := Except.ok.inj h
    exact .inr ⟨rfl, by cases k <;> rfl⟩

lemma valuesFor_acceptAll (h : acceptAll a gs = .ok a') (o : ValueOption) :
    a'.valuesFor o = a.valuesFor o ++ gs.filterMap (Given.valueFor? o) := by
  induction gs generalizing a with
  | nil =>
    obtain rfl := acceptAll_nil.mp h
    simp
  | cons g gs ih =>
    obtain ⟨b, hb, h⟩ := acceptAll_cons.mp h
    rw [ih h, valuesFor_accept hb, List.append_assoc]
    cases hg : g.valueFor? o <;> simp [hg]

lemma flagFor_acceptAll (h : acceptAll a gs = .ok a') (k : FlagPair) :
    a'.flagFor k = (gs.filterMap (Given.flagFor? k)).getLast?.or (a.flagFor k) ∧
      ((a.flagFor k).toList ++ gs.filterMap (Given.flagFor? k)).IsChain (· ≠ ·) := by
  induction gs generalizing a with
  | nil =>
    obtain rfl := acceptAll_nil.mp h
    cases hflag : a.flagFor k <;> simp
  | cons g gs ih =>
    obtain ⟨b, hb, h⟩ := acceptAll_cons.mp h
    obtain ⟨hlast, hchain⟩ := ih h
    rcases flagFor_accept hb k with ⟨on, hg, hold, hnew⟩ | ⟨hg, hnew⟩
    · rw [List.filterMap_cons_some hg]
      rw [hnew] at hlast hchain
      refine ⟨?_, ?_⟩
      · rw [hlast, List.getLast?_cons]
        cases (gs.filterMap (Given.flagFor? k)).getLast? <;> rfl
      · cases hflag : a.flagFor k with
        | none => exact hchain
        | some old =>
          have hne : old ≠ on := fun heq => hold (by rw [hflag, heq])
          exact .cons_cons hne hchain
    · rw [List.filterMap_cons_none hg]
      rw [hnew] at hlast hchain
      exact ⟨hlast, hchain⟩

end Views

/-! ### What stands on the command line -/

/-- The value that an argument gives to an option after `=`. -/
def valueIn? (name : String) (w : Text) : Option Text :=
  let front := optionWord name ++ ['=']
  if front.isPrefixOf w then some (w.drop front.length) else none

/-- The values given to the option with a long name, in order: after `=` or as the next argument. -/
def valuesOf (name : String) : List Text → List Text
  | [] => []
  | w :: ws =>
    if w = ['-', '-'] then []
    else if w = optionWord name then ws.head?.toList ++ valuesOf name ws
    else (valueIn? name w).toList ++ valuesOf name ws

/-- The occurrences of two opposite flags, in order. -/
def flagsOf (on off : String) : List Text → List Bool
  | [] => []
  | w :: ws =>
    if w = ['-', '-'] then []
    else if w = optionWord on then true :: flagsOf on off ws
    else if w = optionWord off then false :: flagsOf on off ws
    else flagsOf on off ws

lemma optionWord_longName_ne (o : CommandOption) : optionWord o.longName ≠ ['-', '-'] := by
  intro h
  have hnil : o.longName = "" := by
    rw [← String.toList_inj]
    simpa [optionWord] using h
  have ho := CommandOption.ofLong?_longName o
  rw [hnil] at ho
  contradiction

lemma optionWord_longName_inj {o o' : CommandOption} :
    optionWord o.longName = optionWord o'.longName ↔ o = o' :=
  (optionWord_injective.comp CommandOption.longName_injective).eq_iff

lemma equals_notMem_optionWord (o : CommandOption) : '=' ∉ optionWord o.longName := by
  simpa [optionWord] using o.equals_notMem_longName

lemma valueIn?_of_notMem {name : String} {w : Text} (h : '=' ∉ w) : valueIn? name w = none := by
  refine if_neg fun hfront => h ?_
  have hsubset := (List.isPrefixOf_iff_prefix.mp hfront).subset
  exact hsubset (by simp)

lemma valueIn?_assigned (o o' : CommandOption) (v : Text) :
    valueIn? o.longName (optionWord o'.longName ++ '=' :: v) =
      if o = o' then some v else none := by
  have hfront : optionWord o.longName ++ ['='] <+: optionWord o'.longName ++ '=' :: v ↔ o = o' := by
    constructor
    · rintro ⟨t, ht⟩
      rw [List.append_assoc, List.singleton_append] at ht
      -- the names end at the first `=`
      have hname (o : CommandOption) (u : Text) :
          (optionWord o.longName ++ '=' :: u).takeWhile (· != '=') = optionWord o.longName := by
        rw [List.takeWhile_append_of_pos]
        · simp
        · intro c hc
          exact bne_iff_ne.mpr fun heq => equals_notMem_optionWord o (heq ▸ hc)
      rw [← optionWord_longName_inj, ← hname o t, ht, hname o' v]
    · rintro rfl
      exact ⟨v, by simp⟩
  unfold valueIn?
  simp only [List.isPrefixOf_iff_prefix, hfront]
  split_ifs with h
  · subst h
    simp
  · rfl

lemma valuesOf_cons_of_plain {name : String} {w : Text} (hw : ¬ ['-', '-'] <+: w)
    (ws : List Text) : valuesOf name (w :: ws) = valuesOf name ws := by
  have hdash : w ≠ ['-', '-'] := fun h => hw (h ▸ List.prefix_rfl)
  have hword : w ≠ optionWord name := fun h => hw (h ▸ ⟨name.toList, rfl⟩)
  have hvalue : valueIn? name w = none := by
    refine if_neg fun hfront => hw ?_
    exact .trans ⟨name.toList ++ ['='], rfl⟩ (List.isPrefixOf_iff_prefix.mp hfront)
  rw [valuesOf, if_neg hdash, if_neg hword, hvalue]
  rfl

lemma flagsOf_cons_of_plain {on off : String} {w : Text} (hw : ¬ ['-', '-'] <+: w)
    (ws : List Text) : flagsOf on off (w :: ws) = flagsOf on off ws := by
  have hdash : w ≠ ['-', '-'] := fun h => hw (h ▸ List.prefix_rfl)
  have hword (name : String) : w ≠ optionWord name := fun h => hw (h ▸ ⟨name.toList, rfl⟩)
  rw [flagsOf, if_neg hdash, if_neg (hword on), if_neg (hword off)]

lemma not_prefix_of_isDashed {w : Text} (h : isDashed w = false) : ¬ ['-', '-'] <+: w := by
  rintro ⟨t, rfl⟩
  contradiction

lemma not_prefix_of_letter {c : Char} (hc : c ≠ '-') (cs : Text) :
    ¬ ['-', '-'] <+: '-' :: c :: cs := by
  simp [List.cons_prefix_cons, hc.symm]

/-- **The values on a command line** are those that it spells. -/
lemma valuesOf_of_spells {ws : List Text} {gs : List Given} (h : Spells ws gs) (o : ValueOption) :
    valuesOf (CommandOption.value o).longName ws = gs.filterMap (Given.valueFor? o) := by
  induction h with
  | nil => rfl
  | files ps =>
    rw [valuesOf, if_pos rfl, List.filterMap_map]
    exact (List.filterMap_eq_nil_iff.mpr fun _ _ => rfl).symm
  | @assigned o' v ws gs h ih =>
    have hmem : '=' ∈ optionWord (CommandOption.value o').longName ++ '=' :: v := by simp
    have hdash : optionWord (CommandOption.value o').longName ++ '=' :: v ≠ ['-', '-'] := by
      intro heq
      simp [heq] at hmem
    have hword : optionWord (CommandOption.value o').longName ++ '=' :: v ≠
        optionWord (CommandOption.value o).longName :=
      fun heq => equals_notMem_optionWord _ (heq ▸ hmem)
    rw [valuesOf, if_neg hdash, if_neg hword, valueIn?_assigned, ih, List.filterMap_cons,
      Given.valueFor?]
    by_cases ho : o = o' <;> simp [ho]
  | @followed o' v ws gs hv h ih =>
    rw [valuesOf, if_neg (optionWord_longName_ne _), List.head?_cons,
      valuesOf_cons_of_plain (not_prefix_of_isDashed hv), ih,
      valueIn?_of_notMem (equals_notMem_optionWord _), List.filterMap_cons, Given.valueFor?]
    by_cases ho : o = o'
    · simp [ho]
    · simp [ho, optionWord_longName_inj, Ne.symm ho]
  | @switch o' ws gs h ih =>
    have hne : CommandOption.switch o' ≠ CommandOption.value o := by simp
    rw [valuesOf, if_neg (optionWord_longName_ne _), if_neg (mt optionWord_longName_inj.mp hne),
      valueIn?_of_notMem (equals_notMem_optionWord _), ih]
    rfl
  | @letters c cs os ws gs hc hos h ih =>
    have hnone : (os.map Given.switch).filterMap (Given.valueFor? o) = [] := by
      rw [List.filterMap_map]
      exact List.filterMap_eq_nil_iff.mpr fun _ _ => rfl
    rw [valuesOf_cons_of_plain (not_prefix_of_letter hc cs), ih, List.filterMap_append, hnone,
      List.nil_append]
  | file hp h ih => rw [valuesOf_cons_of_plain (not_prefix_of_isDashed hp), ih]; rfl

lemma switch_ne_of_ofShort? {c : Char} {o : SwitchOption} (h : CommandOption.ofShort? c = some o)
    (k : FlagPair) (on : Bool) : o ≠ k.switch on := by
  unfold CommandOption.ofShort? at h
  split at h
  case h_4 => contradiction
  all_goals
    obtain rfl := Option.some.inj h
    cases k <;> simp [FlagPair.switch]

/-- **The flags on a command line** are those that it spells. -/
lemma flagsOf_of_spells {ws : List Text} {gs : List Given} (h : Spells ws gs) (k : FlagPair) :
    flagsOf (k.name true) (k.name false) ws = gs.filterMap (Given.flagFor? k) := by
  have hvalue (o : ValueOption) (on : Bool) :
      optionWord (CommandOption.value o).longName ≠ optionWord (k.name on) :=
    mt optionWord_longName_inj.mp (by simp)
  induction h with
  | nil => rfl
  | files ps =>
    rw [flagsOf, if_pos rfl, List.filterMap_map]
    exact (List.filterMap_eq_nil_iff.mpr fun _ _ => rfl).symm
  | @assigned o v ws gs h ih =>
    have hne {w : Text} (hw : '=' ∉ w) :
        optionWord (CommandOption.value o).longName ++ '=' :: v ≠ w :=
      fun heq => hw (by simp [← heq])
    have hflag (on : Bool) :
        optionWord (CommandOption.value o).longName ++ '=' :: v ≠ optionWord (k.name on) :=
      hne (equals_notMem_optionWord (.switch (k.switch on)))
    rw [flagsOf, if_neg (hne (by decide)), if_neg (hflag true), if_neg (hflag false), ih]
    rfl
  | @followed o v ws gs hv h ih =>
    rw [flagsOf, if_neg (optionWord_longName_ne _), if_neg (hvalue o true),
      if_neg (hvalue o false), flagsOf_cons_of_plain (not_prefix_of_isDashed hv), ih]
    rfl
  | @switch o ws gs h ih =>
    have hword (on : Bool) : optionWord (CommandOption.switch o).longName =
        optionWord (k.name on) ↔ o = k.switch on := by
      rw [FlagPair.name, optionWord_longName_inj, CommandOption.switch.injEq]
    rw [flagsOf, if_neg (optionWord_longName_ne _), ih, List.filterMap_cons, Given.flagFor?]
    simp only [hword]
    split_ifs <;> rfl
  | @letters c cs os ws gs hc hos h ih =>
    -- no letter stands for a flag of a pair
    have hnone : (os.map Given.switch).filterMap (Given.flagFor? k) = [] := by
      rw [List.filterMap_map]
      refine List.filterMap_eq_nil_iff.mpr fun o ho => Given.flagFor?_eq_none fun on => ?_
      have hmem : some o ∈ (c :: cs).map CommandOption.ofShort? := hos ▸ List.mem_map_of_mem ho
      obtain ⟨d, -, hd⟩ := List.mem_map.mp hmem
      exact switch_ne_of_ofShort? hd k on
    rw [flagsOf_cons_of_plain (not_prefix_of_letter hc cs), ih, List.filterMap_append, hnone,
      List.nil_append]
  | file hp h ih => rw [flagsOf_cons_of_plain (not_prefix_of_isDashed hp), ih]; rfl

/-! ### What is read -/

section Read

variable {argv : List Text} {a : Arguments}

lemma valuesFor_of_read (h : read argv = .ok a) (o : ValueOption) :
    a.valuesFor o = valuesOf (CommandOption.value o).longName argv := by
  obtain ⟨gs, hspells, haccept⟩ := exists_spells_of_read h
  rw [valuesFor_acceptAll haccept o, valuesOf_of_spells hspells o]
  cases o <;> rfl

lemma flagFor_of_read (h : read argv = .ok a) (k : FlagPair) :
    a.flagFor k = (flagsOf (k.name true) (k.name false) argv).getLast? ∧
      (flagsOf (k.name true) (k.name false) argv).IsChain (· ≠ ·) := by
  obtain ⟨gs, hspells, haccept⟩ := exists_spells_of_read h
  obtain ⟨hlast, hchain⟩ := flagFor_acceptAll haccept k
  have hnone : ({} : Arguments).flagFor k = none := by cases k <;> rfl
  rw [hnone] at hlast hchain
  rw [flagsOf_of_spells hspells k]
  exact ⟨hlast.trans Option.or_none, hchain⟩

end Read

end CommandLine

/-! ### Flags in pairs -/

/-- A flag of a pair is in force: it was given, and its opposite was not given after it. -/
def Arguments.hasFlag (a : Arguments) (k : FlagPair) (on : Bool) : Bool := a.flagFor k == some on

namespace Settings

open CommandLine

/-- The value that two opposite flags set, if either is in force. -/
def toggled (on off : Bool) : Option Bool :=
  match on, off with
  | true, _ => some true
  | false, true => some false
  | false, false => none

lemma toggled_hasFlag (a : Arguments) (k : FlagPair) :
    toggled (a.hasFlag k true) (a.hasFlag k false) = a.flagFor k := by
  unfold Arguments.hasFlag
  rcases a.flagFor k with _ | _ | _ <;> rfl

lemma toggled_hasFlag_off (a : Arguments) (k : FlagPair) :
    toggled (a.hasFlag k false) (a.hasFlag k true) = (a.flagFor k).map not := by
  unfold Arguments.hasFlag
  rcases a.flagFor k with _ | _ | _ <;> rfl

/-- **Opposite flags and the configuration.** Each pair of flags is one value, with the member of
the configuration behind it and then the default. -/
theorem mergeOptions_toggled (a : Arguments) (c : ProjectConfig) :
    (mergeOptions a c).ignoreRoot = ((toggled (a.hasFlag .keepRootPrefix false)
      (a.hasFlag .keepRootPrefix true)).or c.ignoreRoot).getD true ∧
    (mergeOptions a c).dropRoot = ((toggled (a.hasFlag .keepRoot false)
      (a.hasFlag .keepRoot true)).or c.dropRoot).getD true ∧
    (mergeOptions a c).htmlTag = ((toggled (a.hasFlag .htmlTag true)
      (a.hasFlag .htmlTag false)).or c.htmlTag).getD false := by
  rw [toggled_hasFlag_off, toggled_hasFlag_off, toggled_hasFlag]
  exact ⟨rfl, rfl, rfl⟩

/-- **Where each setting comes from.** On a command line that is read, two opposite flags alternate
and the last one counts, with any others in between, and an option is given at most once unless it
adds to a list. Each setting is then told by its own flags or option, else by its own member of the
configuration, else by its default; only the patterns of the configuration and of the command line
are put together. -/
theorem resolve_of_read {argv : List Text} {a : Arguments} (h : read argv = .ok a)
    (c : ProjectConfig) (dir : Path) :
    let value (name : String) : Option Text := (valuesOf name argv).head?
    let last (on off : String) : Option Bool := (flagsOf on off argv).getLast?
    (∀ k : FlagPair, (flagsOf (k.name true) (k.name false) argv).IsChain (· ≠ ·) ∧
      a.flagFor k = last (k.name true) (k.name false)) ∧
    (∀ o, o ≠ .extension → o ≠ .ignore →
      (valuesOf (CommandOption.value o).longName argv).length ≤ 1) ∧
    resolve a c dir =
      { options :=
          { under :=
              (((value "namespace").map Namespace.fixed).or <|
                ((value "namespace-template").map Namespace.template).or <|
                (c.under.map Namespace.fixed).or <|
                c.template.map Namespace.template).getD (.fixed ".self".toList)
            self := (((value "self-selector").or c.self).map Pattern.regex).getD
              (.literal ":--namespace".toList)
            root := (((value "root-selector").or c.root).map Pattern.regex).getD
              (.literal ":root".toList)
            ignoreRoot :=
              (((last "keep-root-prefix" "no-keep-root-prefix").map not).or c.ignoreRoot).getD true
            dropRoot := (((last "keep-root" "no-keep-root").map not).or c.dropRoot).getD true
            htmlTag := ((last "html-tag" "no-html-tag").or c.htmlTag).getD false }
        extensions :=
          (if valuesOf "ext" argv ≠ [] then valuesOf "ext" argv
            else if c.extensions ≠ [] then c.extensions else [".css".toList]).map dotted
        ignore := c.ignore ++ valuesOf "ignore" argv
        outDir := (value "out-dir").or (c.outDir.map (Path.join dir)) } := by
  intro value last
  have hflag (k : FlagPair) := flagFor_of_read h k
  have hvalues (o : ValueOption) := valuesFor_of_read h o
  have honce {o : ValueOption} {v : Option Text} (hv : a.valuesFor o = v.toList) :
      v = value (CommandOption.value o).longName := by
    rw [hvalues o] at hv
    change v = (valuesOf _ argv).head?
    rw [hv]
    cases v <;> rfl
  refine ⟨fun k => ⟨(hflag k).2, (hflag k).1⟩, fun o hext hignore => ?_, ?_⟩
  · rw [← hvalues o]
    cases o with
    | extension => contradiction
    | ignore => contradiction
    | _ => exact Option.length_toList_le
  · have hunder : a.under = value "namespace" := honce (o := .under) rfl
    have htemplate : a.template = value "namespace-template" := honce (o := .template) rfl
    have hself : a.self = value "self-selector" := honce (o := .self) rfl
    have hroot : a.root = value "root-selector" := honce (o := .root) rfl
    have hout : a.outDir = value "out-dir" := honce (o := .outDir) rfl
    have hprefix : a.keepRootPrefix = last "keep-root-prefix" "no-keep-root-prefix" :=
      (hflag .keepRootPrefix).1
    have hkeep : a.keepRoot = last "keep-root" "no-keep-root" := (hflag .keepRoot).1
    have hhtml : a.htmlTag = last "html-tag" "no-html-tag" := (hflag .htmlTag).1
    have hext : a.extensions = valuesOf "ext" argv := hvalues .extension
    have hignore : a.ignore = valuesOf "ignore" argv := hvalues .ignore
    have hfound : mergeExtensions a c = if valuesOf "ext" argv ≠ [] then valuesOf "ext" argv
        else if c.extensions ≠ [] then c.extensions else [".css".toList] := by
      simp only [mergeExtensions, hext, Bool.not_eq_true', List.isEmpty_eq_false_iff, ne_eq]
    unfold resolve mergeOptions namespace?
    rw [hunder, htemplate, hself, hroot, hout, hprefix, hkeep, hhtml, hfound, hignore,
      Option.or_assoc]

/-- Flags that go back and forth, and a file that looks like one of them. -/
theorem resolve_of_read_alternating :
    let argv := ["--keep-root", "--no-keep-root", "--html-tag", "--namespace=.a", "--keep-root",
      "--ignore", "x", "--no-html-tag", "--", "--no-keep-root"].map String.toList
    let c : ProjectConfig :=
      { under := some ".b".toList, htmlTag := some true, ignore := ["y".toList] }
    ∃ a, read argv = .ok a ∧
      flagsOf "keep-root" "no-keep-root" argv = [true, false, true] ∧
      (resolve a c []).options.under = .fixed ".a".toList ∧
      (resolve a c []).options.dropRoot = false ∧
      (resolve a c []).options.htmlTag = false ∧
      (resolve a c []).ignore = ["y".toList, "x".toList] := by
  intro argv c
  have hread : read argv = .ok
      { files := ["--no-keep-root".toList], under := some ".a".toList, keepRoot := some true,
        htmlTag := some false, ignore := ["x".toList] } := by decide +kernel
  obtain ⟨-, -, hresolve⟩ := resolve_of_read hread c []
  refine ⟨_, hread, by decide +kernel, ?_⟩
  rw [hresolve]
  exact ⟨rfl, rfl, rfl, rfl⟩

end Settings
end StyleScope
