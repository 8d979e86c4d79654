import StyleScope.Path
import StyleScope.Report.Diagnostic

/-!
The arguments of the command. An option takes its value after `=` or from the next argument; a
value that follows is taken note of, and checked when the next option or file is met. After `--`
everything is a file.
-/

namespace StyleScope

/-- The arguments of a run. -/
structure Arguments where
  files : List Path := []
  workspace : Option Path := none
  config : Option Path := none
  under : Option Text := none
  template : Option Text := none
  self : Option Text := none
  root : Option Text := none
  /-- Put root selectors under the namespace like others: true after `--keep-root-prefix`, false
  after `--no-keep-root-prefix`, whichever of them came last. -/
  keepRootPrefix : Option Bool := none
  /-- Keep the root token: true after `--keep-root`, false after `--no-keep-root`. -/
  keepRoot : Option Bool := none
  /-- Qualify `html` instead: true after `--html-tag`, false after `--no-html-tag`. -/
  htmlTag : Option Bool := none
  outDir : Option Path := none
  extensions : List Text := []
  ignore : List Text := []
  stdin : Bool := false
  stdinFilename : Option Path := none
  output : Option OutputFormat := none
  watch : Bool := false
  preserveWatchOutput : Bool := false
  verbose : Bool := false
  deriving DecidableEq, Repr

/-- Why arguments start no run. -/
inductive UsageStop where
  | unknownArgument
  /-- A value that is missing or not one of those possible. -/
  | invalidValue
  /-- Arguments that exclude each other, or one that is repeated. -/
  | argumentConflict
  | missingRequiredArgument
  /-- A value for an option that takes none. -/
  | tooManyValues
  | displayHelp
  | displayVersion
  deriving DecidableEq, Repr

/-- The options that take a value. -/
inductive ValueOption where
  | workspace
  | config
  | under
  | template
  | self
  | root
  | outDir
  | extension
  | ignore
  | stdinFilename
  | output
  deriving DecidableEq, Repr

/-- The options that take none. -/
inductive SwitchOption where
  | keepRootPrefix (on : Bool)
  | keepRoot (on : Bool)
  | htmlTag (on : Bool)
  | stdin
  | watch
  | preserveWatchOutput
  | verbose
  | help
  | version
  deriving DecidableEq, Repr

/-- An option. -/
inductive CommandOption where
  | value (o : ValueOption)
  | switch (o : SwitchOption)
  deriving DecidableEq, Repr

namespace CommandOption

/-- The option with a long name. -/
def ofLong? : String → Option CommandOption
  | "workspace" => some (value .workspace)
  | "config" => some (value .config)
  | "namespace" => some (value .under)
  | "namespace-template" => some (value .template)
  | "self-selector" => some (value .self)
  | "root-selector" => some (value .root)
  | "keep-root-prefix" => some (switch (.keepRootPrefix true))
  | "no-keep-root-prefix" => some (switch (.keepRootPrefix false))
  | "keep-root" => some (switch (.keepRoot true))
  | "no-keep-root" => some (switch (.keepRoot false))
  | "html-tag" => some (switch (.htmlTag true))
  | "no-html-tag" => some (switch (.htmlTag false))
  | "out-dir" => some (value .outDir)
  | "ext" => some (value .extension)
  | "ignore" => some (value .ignore)
  | "stdin" => some (switch .stdin)
  | "stdin-filename" => some (value .stdinFilename)
  | "output" => some (value .output)
  | "watch" => some (switch .watch)
  | "preserveWatchOutput" => some (switch .preserveWatchOutput)
  | "verbose" => some (switch .verbose)
  | "help" => some (switch .help)
  | "version" => some (switch .version)
  | _ => none

/-- The option with a letter. -/
def ofShort? : Char → Option SwitchOption
  | 'v' => some .verbose
  | 'h' => some .help
  | 'V' => some .version
  | _ => none

end CommandOption

/-- The output format with a name. -/
def OutputFormat.ofName? : String → Option OutputFormat
  | "human" => some human
  | "human-verbose" => some humanVerbose
  | "json" => some json
  | "machine" => some machine
  | _ => none

namespace Arguments

/-- The directory that is scanned. -/
def workspaceOrDefault (a : Arguments) : Path := a.workspace.getD ['.']

def outputOrDefault (a : Arguments) : OutputFormat := a.output.getD .human

/-- Fills in what may be given once. -/
def once {α : Type} (old : Option α) (new : α) : Except UsageStop (Option α) :=
  match old with
  | none => .ok (some new)
  | some _ => .error .argumentConflict

/-- Sets a flag that may be given once. -/
def onceFlag (old : Bool) : Except UsageStop Bool :=
  if old then .error .argumentConflict else .ok true

/-- Sets one of two opposite flags. It overrides the other, but must not be repeated. -/
def toggle (old : Option Bool) (on : Bool) : Except UsageStop (Option Bool) :=
  if old = some on then .error .argumentConflict else .ok (some on)

/-- Takes in the value of an option. -/
def setValue (a : Arguments) (o : ValueOption) (v : Text) : Except UsageStop Arguments :=
  match o with
  | .workspace => return { a with workspace := ← once a.workspace v }
  | .config => return { a with config := ← once a.config v }
  | .under => return { a with under := ← once a.under v }
  | .template => return { a with template := ← once a.template v }
  | .self => return { a with self := ← once a.self v }
  | .root => return { a with root := ← once a.root v }
  | .outDir => return { a with outDir := ← once a.outDir v }
  | .extension => return { a with extensions := a.extensions ++ [v] }
  | .ignore => return { a with ignore := a.ignore ++ [v] }
  | .stdinFilename => return { a with stdinFilename := ← once a.stdinFilename v }
  | .output =>
    match a.output, OutputFormat.ofName? (String.ofList v) with
    | some _, _ => .error .argumentConflict
    | none, none => .error .invalidValue
    | none, some f => .ok { a with output := some f }

/-- Takes in an option without a value. -/
def setSwitch (a : Arguments) (o : SwitchOption) : Except UsageStop Arguments :=
  match o with
  | .keepRootPrefix on => return { a with keepRootPrefix := ← toggle a.keepRootPrefix on }
  | .keepRoot on => return { a with keepRoot := ← toggle a.keepRoot on }
  | .htmlTag on => return { a with htmlTag := ← toggle a.htmlTag on }
  | .stdin => return { a with stdin := ← onceFlag a.stdin }
  | .watch => return { a with watch := ← onceFlag a.watch }
  | .preserveWatchOutput =>
    return { a with preserveWatchOutput := ← onceFlag a.preserveWatchOutput }
  | .verbose => return { a with verbose := ← onceFlag a.verbose }
  | .help => .error .displayHelp
  | .version => .error .displayVersion

/-- Refuses arguments that exclude each other, and a file name for standard input without standard
input, unless standard input is excluded anyway. -/
def check (a : Arguments) : Except UsageStop Arguments :=
  if a.under.isSome && a.template.isSome then .error .argumentConflict
  else if a.stdin && (!a.files.isEmpty || a.watch) then .error .argumentConflict
  else if a.stdinFilename.isSome && !a.stdin && a.files.isEmpty && !a.watch then
    .error .missingRequiredArgument
  else .ok a

end Arguments

namespace CommandLine

/-- An option whose value is not taken in yet, and the value, if it has been met. -/
abbrev Pending := Option (ValueOption × Option Text)

/-- Takes in a pending value. -/
def settle (a : Arguments) : Pending → Except UsageStop Arguments
  | none => .ok a
  | some (_, none) => .error .invalidValue
  | some (o, some v) => a.setValue o v

/-- Reads a long option, with what may stand after `=`. -/
def long (a : Arguments) (pending : Pending) (name : Text) (value : Option Text) :
    Except UsageStop (Arguments × Pending) :=
  match CommandOption.ofLong? (String.ofList name), value with
  | none, _ => .error .unknownArgument
  | some (.value o), none => return (← settle a pending, some (o, none))
  | some (.value o), some v => return (← (← settle a pending).setValue o v, none)
  | some (.switch _), some _ => .error .tooManyValues
  | some (.switch o), none => return (← (← settle a pending).setSwitch o, none)

/-- Reads letters after a single dash. -/
def short (a : Arguments) (pending : Pending) : Text → Except UsageStop (Arguments × Pending)
  | [] => .ok (a, pending)
  | c :: cs =>
    match CommandOption.ofShort? c with
    | none => .error .unknownArgument
    | some o => do
      let a ← settle a pending
      short (← a.setSwitch o) none cs

/-- The name of a long option and what stands after `=`. -/
def splitValue (t : Text) : Text × Option Text :=
  match t.span fun c => c != '=' with
  | (name, _ :: value) => (name, some value)
  | (name, []) => (name, none)

/-- Reads arguments one after another. -/
def readFrom (a : Arguments) (pending : Pending) : List Text → Except UsageStop Arguments
  | [] => settle a pending
  | ['-', '-'] :: files => do
    let a ← settle a pending
    return { a with files := a.files ++ files }
  | ('-' :: '-' :: option) :: rest => do
    let (name, value) := splitValue option
    let (a, pending) ← long a pending name value
    readFrom a pending rest
  | ('-' :: c :: cs) :: rest => do
    let (a, pending) ← short a pending (c :: cs)
    readFrom a pending rest
  | v :: rest =>
    match pending with
    | some (o, none) => readFrom a (some (o, some v)) rest
    | pending => do
      let a ← settle a pending
      readFrom { a with files := a.files ++ [v] } none rest

/-- Reads a command line, without the name of the command. -/
def read (argv : List Text) : Except UsageStop Arguments := do
  (← readFrom {} none argv).check

end CommandLine
end StyleScope
