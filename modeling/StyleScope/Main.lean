import StyleScope.Run.Basic

/-!
The command: it takes in the files that a run may look at, runs, and puts out what the run leaves
behind.
-/

namespace StyleScope.Command

def usage : String :=
  "Scope every rule of your stylesheets under a namespace selector\n\n" ++
  "Usage: css-namespace [OPTIONS] [FILE]...\n\n" ++
  "  --workspace <DIR>             directory to scan when no files are given\n" ++
  "  --config <FILE>               path to a selector-namespace.json\n" ++
  "  --namespace <SELECTOR>        namespace selector\n" ++
  "  --namespace-template <TEXT>   namespace for each file\n" ++
  "  --self-selector <REGEX>       what is replaced by the namespace\n" ++
  "  --root-selector <REGEX>       what is the document root\n" ++
  "  --[no-]keep-root-prefix       put root selectors under the namespace\n" ++
  "  --[no-]keep-root              keep the root token\n" ++
  "  --[no-]html-tag               append the namespace to html\n" ++
  "  --out-dir <DIR>               directory for results\n" ++
  "  --ext <EXT>                   extension of stylesheets\n" ++
  "  --ignore <GLOB>               files to leave out\n" ++
  "  --stdin                       read one stylesheet from stdin\n" ++
  "  --stdin-filename <FILE>       its file name\n" ++
  "  --output <FORMAT>             human, human-verbose, json or machine\n" ++
  "  --watch                       run again when stylesheets change\n" ++
  "  --preserveWatchOutput         do not clear the screen\n" ++
  "  -v, --verbose                 log what is done\n" ++
  "  -h, --help                    print help\n" ++
  "  -V, --version                 print version\n"

/-- What is said about arguments that start no run. -/
def usageMessage : UsageStop → String
  | .unknownArgument => "error: unexpected argument"
  | .invalidValue => "error: missing or invalid value"
  | .argumentConflict => "error: arguments cannot be used together or more than once"
  | .missingRequiredArgument => "error: --stdin-filename needs --stdin"
  | .tooManyValues => "error: a value for an option that takes none"
  | .displayHelp => usage
  | .displayVersion => "css-namespace 0.3.0"

/-! ### Taking in files -/

/-- What a sequence of bytes is as the contents of a file. -/
def contents (bytes : ByteArray) : Contents :=
  match String.fromUTF8? bytes with
  | some s => .text s.toList
  | none => .binary

/-- Adds a directory with all that is in it. What cannot be read is left out. -/
partial def loadDirectory (t : FileTree) (l : Location) : IO FileTree := do
  try
    let dir ← IO.FS.realPath (String.ofList l.path)
    let mut t := t.putDirectory l
    for entry in ← dir.readDir do
      let place := l ++ [entry.fileName.toList]
      match (← entry.path.symlinkMetadata).type with
      | .dir => t ← loadDirectory t place
      | .file => t := t.putFile place (contents (← IO.FS.readBinFile entry.path))
      | _ => pure ()
    return t
  catch _ => return t

/-- Adds what stands at a place, without what is in it. -/
def loadPlace (t : FileTree) (l : Location) : IO FileTree := do
  try
    let file ← IO.FS.realPath (String.ofList l.path)
    if ← file.isDir then return t.putDirectory l
    else return t.putFile l (contents (← IO.FS.readBinFile file))
  catch _ => return t

/-- Adds what stands on the way of a path, and gives the place where it ends. -/
def loadPath (t : FileTree) (cwd : Location) (p : Path) : IO (FileTree × Location) :=
  (Path.components p).foldlM (fun (t, l) c =>
    match c with
    | .root | .current => return (t, l)
    | .parent => return (t, l.dropLast)
    | .normal name => return (← loadPlace t (l ++ [name]), l ++ [name]))
    (t, FileTree.start cwd p)

/-- The files that a run may look at. -/
def loadTree (a : Arguments) (cwd : Location) : IO FileTree := do
  let mut t := ({} : FileTree).putDirectory cwd
  for p in a.config.toList ++ a.files ++ [Path.join a.workspaceOrDefault ProjectConfig.fileName] do
    t := (← loadPath t cwd p).1
  let (u, workspace) ← loadPath t cwd a.workspaceOrDefault
  if a.files.isEmpty && !a.stdin && u.get? workspace == some .directory then
    loadDirectory u workspace
  else return u

/-! ### Putting out results -/

/-- Writes the files in which a tree differs from the one before. -/
def storeTree (before after : FileTree) : IO Unit := do
  for (l, c) in after.files do
    if before.get? l != some (.file c) then
      if let .text t := c then
        IO.FS.createDirAll (String.ofList (Location.path l.dropLast))
        IO.FS.writeFile (String.ofList l.path) (String.ofList t)

/-- Puts out what a run leaves behind. -/
def put (before : FileTree) (r : RunResult) : IO Unit := do
  storeTree before r.tree
  IO.print (String.ofList r.stdout)
  IO.eprint (String.ofList r.stderr)

/-- What is said about a run that failed. -/
def errorMessage (e : RunError) : String :=
  let help := match e.help? with
    | some h => "\n  help: ".toList ++ h
    | none => []
  String.ofList ("Error: ".toList ++ e.code ++ "\n  ".toList ++ e.message ++ help)

/-- The style sheets of a run, with their texts. -/
def sheets (a : Arguments) (env : Surroundings) (tree : FileTree) : List (Path × Option Text) :=
  match a.context env tree with
  | .ok ctx => (ctx.collect env a tree).map fun p => (p, (tree.readText env.cwd p).toOption)
  | .error _ => []

/-- Looks at the style sheets again and again, and runs when they have changed. -/
partial def watch (a : Arguments) (env : Surroundings) (last : List (Path × Option Text)) :
    IO UInt32 := do
  IO.sleep 1000
  let tree ← loadTree a env.cwd
  let current := sheets a env tree
  if current != last then
    unless a.preserveWatchOutput do IO.eprint "\x1b[2J\x1b[1;1H"
    IO.eprint "File changed, re-processing...\n\n"
    put tree ({ a with watch := false }.run env tree)
  watch a env current

/-- Runs with arguments that have been read, and gives the exit code. -/
def run (a : Arguments) : IO UInt32 := do
  let here := (← IO.currentDir).toString.toList
  let cwd := (Text.splitOn '/' here).filter fun name => !Path.isVoid name
  let stdin ← if a.stdin then contents <$> (← IO.getStdin).readBinToEnd else pure (.text [])
  let env : Surroundings := { cwd := cwd, stdin := stdin }
  let tree ← loadTree a cwd
  let r := a.run env tree
  put tree r
  match r.ending with
  | .finished s => return if s.hasFailed then 1 else 0
  | .failed e =>
    IO.eprintln (errorMessage e)
    return 1
  | .watching =>
    IO.eprint "Watching for changes... (Ctrl+C to stop)\n\n"
    watch a env (sheets a env tree)

end StyleScope.Command

def main (argv : List String) : IO UInt32 := do
  match StyleScope.CommandLine.read (argv.map String.toList) with
  | .ok a => StyleScope.Command.run a
  | .error .displayHelp => IO.print StyleScope.Command.usage; return 0
  | .error .displayVersion => IO.println (StyleScope.Command.usageMessage .displayVersion); return 0
  | .error u => IO.eprintln (StyleScope.Command.usageMessage u); return 2
