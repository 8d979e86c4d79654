import Mathlib.Data.List.TakeDrop
import Mathlib.Tactic.Common
import StyleScope.CommandLine

/-!
What a command line spells.

`Spells` is the grammar of command lines: which arguments spell an option with its value, a flag,
some letters or a file. It knows nothing of what may be repeated or combined. The arguments that are
read from a command line are what it spells, taken in one after the other.
-/

namespace StyleScope

namespace CommandOption

def longName : CommandOption → String
  | value .workspace => "workspace"
  | value .config => "config"
  | value .under => "namespace"
  | value .template => "namespace-template"
  | value .self => "self-selector"
  | value .root => "root-selector"
  | value .outDir => "out-dir"
  | value .extension => "ext"
  | value .ignore => "ignore"
  | value .stdinFilename => "stdin-filename"
  | value .output => "output"
  | switch (.keepRootPrefix true) => "keep-root-prefix"
  | switch (.keepRootPrefix false) => "no-keep-root-prefix"
  | switch (.keepRoot true) => "keep-root"
  | switch (.keepRoot false) => "no-keep-root"
  | switch (.htmlTag true) => "html-tag"
  | switch (.htmlTag false) => "no-html-tag"
  | switch .stdin => "stdin"
  | switch .watch => "watch"
  | switch .preserveWatchOutput => "preserveWatchOutput"
  | switch .verbose => "verbose"
  | switch .help => "help"
  | switch .version => "version"

lemma ofLong?_longName (o : CommandOption) : ofLong? o.longName = some o := by
  rcases o with o | o
  · cases o <;> rfl
  · rcases o with on | on | on | _ | _ | _ | _ | _ | _
    iterate 3 (cases on <;> rfl)
    all_goals rfl

lemma ofLong?_eq_some {s : String} {o : CommandOption} : ofLong? s = some o ↔ s = o.longName := by
  refine ⟨fun h => ?_, fun h => h ▸ ofLong?_longName o⟩
  unfold ofLong? at h
  split at h
  case h_24 => contradiction
  all_goals
    obtain rfl := Option.some.inj h
    rfl

lemma equals_notMem_longName (o : CommandOption) : '=' ∉ o.longName.toList := by
  rcases o with o | o
  · cases o <;> decide
  · rcases o with on | on | on | _ | _ | _ | _ | _ | _
    iterate 3 (cases on <;> decide)
    all_goals decide

lemma longName_injective : Function.Injective longName := by
  intro o o' h
  have ho := ofLong?_longName o
  rw [h, ofLong?_longName o'] at ho
  exact (Option.some.inj ho).symm

end CommandOption

/-- The argument that names an option, if it has this name. -/
def optionWord (name : String) : Text := '-' :: '-' :: name.toList

lemma optionWord_injective : Function.Injective optionWord := by
  intro s s' h
  simpa [optionWord, String.toList_inj] using h

namespace CommandLine

/-- One thing that a command line says. -/
inductive Given where
  | value (o : ValueOption) (v : Text)
  | switch (o : SwitchOption)
  | file (p : Path)
  deriving DecidableEq, Repr

/-- Whether an argument is taken for options, and not for a value or a file. -/
def isDashed : Text → Bool
  | '-' :: _ :: _ => true
  | _ => false

/-- What the arguments of a command line say. -/
inductive Spells : List Text → List Given → Prop
  | nil : Spells [] []
  | files (ps : List Text) : Spells (['-', '-'] :: ps) (ps.map .file)
  | assigned {o v ws gs} (h : Spells ws gs) :
      Spells ((optionWord (CommandOption.value o).longName ++ '=' :: v) :: ws) (.value o v :: gs)
  | followed {o v ws gs} (hv : isDashed v = false) (h : Spells ws gs) :
      Spells (optionWord (CommandOption.value o).longName :: v :: ws) (.value o v :: gs)
  | switch {o ws gs} (h : Spells ws gs) :
      Spells (optionWord (CommandOption.switch o).longName :: ws) (.switch o :: gs)
  | letters {c cs} {os : List SwitchOption} {ws gs} (hc : c ≠ '-')
      (hos : (c :: cs).map CommandOption.ofShort? = os.map some) (h : Spells ws gs) :
      Spells (('-' :: c :: cs) :: ws) (os.map .switch ++ gs)
  | file {p ws gs} (hp : isDashed p = false) (h : Spells ws gs) : Spells (p :: ws) (.file p :: gs)

/-- What the arguments say when a value is still to be taken in. -/
inductive SpellsAfter : Pending → List Text → List Given → Prop
  | none {ws gs} (h : Spells ws gs) : SpellsAfter none ws gs
  | met {o v ws gs} (h : Spells ws gs) : SpellsAfter (some (o, some v)) ws (.value o v :: gs)
  | awaited {o v ws gs} (hv : isDashed v = false) (h : Spells ws gs) :
      SpellsAfter (some (o, Option.none)) (v :: ws) (.value o v :: gs)

/-- Takes in one thing that is spelled. -/
def accept (a : Arguments) : Given → Except UsageStop Arguments
  | .value o v => a.setValue o v
  | .switch o => a.setSwitch o
  | .file p => .ok { a with files := a.files ++ [p] }

def acceptAll (a : Arguments) (gs : List Given) : Except UsageStop Arguments := gs.foldlM accept a

lemma bind_eq_ok {ε α β : Type} {x : Except ε α} {f : α → Except ε β} {b : β} :
    (x >>= f) = .ok b ↔ ∃ a, x = .ok a ∧ f a = .ok b := by
  cases x <;> simp [bind, Except.bind]

@[simp] lemma acceptAll_nil {a a' : Arguments} : acceptAll a [] = .ok a' ↔ a = a' := by
  simp [acceptAll, pure, Except.pure]

lemma acceptAll_cons {a a' : Arguments} {g : Given} {gs : List Given} :
    acceptAll a (g :: gs) = .ok a' ↔ ∃ b, accept a g = .ok b ∧ acceptAll b gs = .ok a' := by
  rw [acceptAll, List.foldlM_cons, bind_eq_ok]
  rfl

lemma acceptAll_append {a a' : Arguments} {gs hs : List Given} :
    acceptAll a (gs ++ hs) = .ok a' ↔ ∃ b, acceptAll a gs = .ok b ∧ acceptAll b hs = .ok a' := by
  rw [acceptAll, List.foldlM_append, bind_eq_ok]
  rfl

lemma acceptAll_files (a : Arguments) (ps : List Path) :
    acceptAll a (ps.map .file) = .ok { a with files := a.files ++ ps } := by
  induction ps generalizing a with
  | nil => simp
  | cons p ps ih =>
    rw [List.map_cons, acceptAll_cons]
    exact ⟨_, rfl, by simp [ih]⟩

/-! ### Reading -/

lemma splitValue_eq {t name : Text} {value : Option Text} (h : splitValue t = (name, value)) :
    t = name ++ value.elim [] ('=' :: ·) := by
  have happend := List.takeWhile_append_dropWhile (p := fun c : Char => c != '=') (l := t)
  unfold splitValue at h
  rw [List.span_eq_takeWhile_dropWhile] at h
  cases hrest : t.dropWhile (fun c : Char => c != '=') with
  | nil =>
    rw [hrest] at h happend
    obtain ⟨rfl, rfl⟩ := Prod.mk.inj h
    exact happend.symm
  | cons c v =>
    have hc : c = '=' := by
      have hhead := List.head?_dropWhile_not (fun c : Char => c != '=') t
      rw [hrest] at hhead
      simpa using hhead
    rw [hrest] at h happend
    obtain ⟨rfl, rfl⟩ := Prod.mk.inj h
    rw [hc] at happend
    exact happend.symm

lemma exists_spellsAfter {a b a' : Arguments} {pending : Pending} {ws : List Text}
    {gs : List Given} (hsettle : settle a pending = .ok b) (hspells : Spells ws gs)
    (haccept : acceptAll b gs = .ok a') :
    ∃ hs, SpellsAfter pending ws hs ∧ acceptAll a hs = .ok a' := by
  rcases pending with _ | ⟨o, _ | v⟩
  · obtain rfl := Except.ok.inj hsettle
    exact ⟨gs, .none hspells, haccept⟩
  · contradiction
  · exact ⟨_, .met hspells, acceptAll_cons.mpr ⟨b, hsettle, haccept⟩⟩

/-- What a long option does: a pending value is taken in, and then the option waits for its value,
or its value is taken in, or it has none. -/
lemma long_eq_ok {a a' : Arguments} {pending pending' : Pending} {name : Text}
    {value : Option Text} (h : long a pending name value = .ok (a', pending')) :
    ∃ b, settle a pending = .ok b ∧
      ((∃ o, name = (CommandOption.value o).longName.toList ∧ value = none ∧ a' = b ∧
          pending' = some (o, none)) ∨
        (∃ o v, name = (CommandOption.value o).longName.toList ∧ value = some v ∧
          accept b (.value o v) = .ok a' ∧ pending' = none) ∨
        ∃ o, name = (CommandOption.switch o).longName.toList ∧ value = none ∧
          accept b (.switch o) = .ok a' ∧ pending' = none) := by
  have hname {o : CommandOption} (ho : CommandOption.ofLong? (String.ofList name) = some o) :
      name = o.longName.toList := by
    rw [← CommandOption.ofLong?_eq_some.mp ho, String.toList_ofList]
  unfold long at h
  split at h
  · contradiction
  · next o ho =>
    obtain ⟨b, hb, h⟩ := bind_eq_ok.mp h
    obtain ⟨rfl, rfl⟩ := Prod.mk.inj (Except.ok.inj h)
    exact ⟨b, hb, .inl ⟨o, hname ho, rfl, rfl, rfl⟩⟩
  · next o v ho =>
    obtain ⟨b, hb, h⟩ := bind_eq_ok.mp h
    obtain ⟨b', hb', h⟩ := bind_eq_ok.mp h
    obtain ⟨rfl, rfl⟩ := Prod.mk.inj (Except.ok.inj h)
    exact ⟨b, hb, .inr (.inl ⟨o, v, hname ho, rfl, hb', rfl⟩)⟩
  · contradiction
  · next o ho =>
    obtain ⟨b, hb, h⟩ := bind_eq_ok.mp h
    obtain ⟨b', hb', h⟩ := bind_eq_ok.mp h
    obtain ⟨rfl, rfl⟩ := Prod.mk.inj (Except.ok.inj h)
    exact ⟨b, hb, .inr (.inr ⟨o, hname ho, rfl, hb', rfl⟩)⟩

lemma short_eq_ok {a a' : Arguments} {pending pending' : Pending} {c : Char} {cs : Text}
    (h : short a pending (c :: cs) = .ok (a', pending')) :
    pending' = none ∧ ∃ b, settle a pending = .ok b ∧ ∃ os : List SwitchOption,
      (c :: cs).map CommandOption.ofShort? = os.map some ∧
      acceptAll b (os.map .switch) = .ok a' := by
  induction cs generalizing a c pending with
  | nil =>
    unfold short at h
    split at h
    · contradiction
    · next o ho =>
      obtain ⟨b, hb, h⟩ := bind_eq_ok.mp h
      obtain ⟨b', hb', h⟩ := bind_eq_ok.mp h
      obtain ⟨rfl, rfl⟩ := Prod.mk.inj (Except.ok.inj h)
      exact ⟨rfl, b, hb, [o], by simp [ho], acceptAll_cons.mpr ⟨b', hb', by simp⟩⟩
  | cons d cs ih =>
    rw [short] at h
    split at h
    · contradiction
    · next o ho =>
      obtain ⟨b, hb, h⟩ := bind_eq_ok.mp h
      obtain ⟨b', hb', h⟩ := bind_eq_ok.mp h
      obtain ⟨rfl, b'', hsettle, os, hos, haccept⟩ := ih h
      obtain rfl := Except.ok.inj hsettle
      exact ⟨rfl, b, hb, o :: os, by rw [List.map_cons, hos, ho]; rfl,
        acceptAll_cons.mpr ⟨_, hb', haccept⟩⟩

lemma isDashed_eq_false {v : Text} (h : ∀ c cs, v = '-' :: c :: cs → False) :
    isDashed v = false := by
  unfold isDashed
  split
  · next c cs => exact (h c cs rfl).elim
  · rfl

/-- **Reading takes in what is spelled.** -/
theorem exists_spells {a a' : Arguments} {pending : Pending} {ws : List Text}
    (h : readFrom a pending ws = .ok a') :
    ∃ gs, SpellsAfter pending ws gs ∧ acceptAll a gs = .ok a' := by
  induction a, pending, ws using readFrom.induct with
  | case1 a pending =>
    rw [readFrom] at h
    exact exists_spellsAfter h .nil (by simp)
  | case2 a pending files =>
    rw [readFrom] at h
    obtain ⟨b, hb, h⟩ := bind_eq_ok.mp h
    exact exists_spellsAfter hb (.files files) ((acceptAll_files b files).trans h)
  | case3 a pending option ws hne name value hsplit ih =>
    rw [readFrom, hsplit] at h
    · obtain ⟨⟨b, pending'⟩, hlong, h⟩ := bind_eq_ok.mp h
      obtain ⟨gs, hafter, haccept⟩ := ih b pending' h
      obtain rfl := splitValue_eq hsplit
      obtain ⟨b', hsettle, hcases⟩ := long_eq_ok hlong
      rcases hcases with ⟨o, rfl, rfl, rfl, rfl⟩ | ⟨o, v, rfl, rfl, hb, rfl⟩ |
        ⟨o, rfl, rfl, hb, rfl⟩
      · -- the option waits, so the next argument has to be its value
        cases hafter with
        | awaited hv hspells =>
          rw [Option.elim_none, List.append_nil]
          exact exists_spellsAfter hsettle (.followed hv hspells) haccept
      · cases hafter with
        | none hspells =>
          exact exists_spellsAfter hsettle (.assigned hspells) (acceptAll_cons.mpr ⟨b, hb, haccept⟩)
      · cases hafter with
        | none hspells =>
          rw [Option.elim_none, List.append_nil]
          exact exists_spellsAfter hsettle (.switch hspells) (acceptAll_cons.mpr ⟨b, hb, haccept⟩)
    · exact hne
  | case4 a pending c cs ws hne hc ih =>
    rw [readFrom] at h
    · obtain ⟨⟨b, pending'⟩, hshort, h⟩ := bind_eq_ok.mp h
      obtain ⟨gs, hafter, haccept⟩ := ih b pending' h
      obtain ⟨rfl, b', hsettle, os, hos, hb⟩ := short_eq_ok hshort
      cases hafter with
      | none hspells =>
        exact exists_spellsAfter hsettle (.letters hc hos hspells)
          (acceptAll_append.mpr ⟨b, hb, haccept⟩)
    · exact hne
    · exact hc
  | case5 a v ws hdash hlong hshort o ih =>
    rw [readFrom] at h
    · obtain ⟨gs, hafter, haccept⟩ := ih h
      cases hafter with
      | met hspells => exact ⟨_, .awaited (isDashed_eq_false hshort) hspells, haccept⟩
    · exact hdash
    · exact hlong
    · exact hshort
  | case6 a v ws hdash hlong hshort pending hpending ih =>
    rw [readFrom] at h
    · obtain ⟨b, hb, h⟩ := bind_eq_ok.mp h
      obtain ⟨gs, hafter, haccept⟩ := ih b h
      cases hafter with
      | none hspells =>
        exact exists_spellsAfter hb (.file (isDashed_eq_false hshort) hspells)
          (acceptAll_cons.mpr ⟨_, rfl, haccept⟩)
    · exact hdash
    · exact hlong
    · exact hshort
    · exact hpending

lemma check_eq_ok {a a' : Arguments} (h : a.check = .ok a') : a' = a := by
  unfold Arguments.check at h
  split_ifs at h
  exact (Except.ok.inj h).symm

lemma exists_spells_of_read {argv : List Text} {a : Arguments} (h : read argv = .ok a) :
    ∃ gs, Spells argv gs ∧ acceptAll {} gs = .ok a := by
  obtain ⟨b, hread, hcheck⟩ := bind_eq_ok.mp h
  obtain rfl := check_eq_ok hcheck
  obtain ⟨gs, hafter, haccept⟩ := exists_spells hread
  cases hafter with
  | none hspells => exact ⟨gs, hspells, haccept⟩

end CommandLine
end StyleScope
