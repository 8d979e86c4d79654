import StyleScope.Path

/-!
Directories and files, and what reading and writing do to them. A path is followed name by name from
the root or from the current directory; every name but the last has to be a directory, and `..`
leads back to the directory that holds it. A path that ends in `/` names a directory.
-/

namespace StyleScope

/-- Why a file or directory cannot be read or written. -/
inductive FileError where
  | notFound
  | alreadyExists
  | notDirectory
  | isDirectory
  | noSpace
  | nameTooLong
  /-- The contents are no text. -/
  | invalidText
  /-- A path with a zero character in it. -/
  | invalidName
  deriving DecidableEq, Repr

def FileError.message : FileError → Text
  | notFound => "No such file or directory (os error 2)".toList
  | alreadyExists => "File exists (os error 17)".toList
  | notDirectory => "Not a directory (os error 20)".toList
  | isDirectory => "Is a directory (os error 21)".toList
  | noSpace => "No space left on device (os error 28)".toList
  | nameTooLong => "File name too long (os error 36)".toList
  | invalidText => "stream did not contain valid UTF-8".toList
  | invalidName => "file name contained an unexpected NUL byte".toList

/-- What a file holds: a text, or bytes that are none. -/
inductive Contents where
  | text (t : Text)
  | binary
  deriving DecidableEq, Repr

def Contents.read : Contents → Except FileError Text
  | text t => .ok t
  | binary => .error .invalidText

/-- What stands at a place of a tree. -/
inductive Entry where
  | directory
  | file (c : Contents)
  deriving DecidableEq, Repr

/-- A place in a tree: the names on the way to it from the root. -/
abbrev Location := List Text

/-- The path of a place. -/
def Location.path (l : Location) : Path := '/' :: Text.join ['/'] l

/-- A tree of files. Its root is a directory and needs no entry. -/
structure FileTree where
  entries : List (Location × Entry) := []
  deriving DecidableEq, Repr

namespace FileTree

/-- What stands at a place. -/
def get? (t : FileTree) (l : Location) : Option Entry :=
  if l = [] then some .directory else t.entries.lookup l

/-- Puts an entry at a place, instead of the one that may be there. -/
def put (t : FileTree) (l : Location) (e : Entry) : FileTree :=
  ⟨(l, e) :: t.entries.filter fun entry => entry.1 != l⟩

/-- Makes a place a directory, and all places above it. -/
def putDirectory (t : FileTree) (l : Location) : FileTree :=
  (List.range (l.length + 1)).foldl (fun t n =>
    if (t.get? (l.take n)).isSome then t else t.put (l.take n) .directory) t

/-- Puts a file at a place, in directories that are made if they are missing. -/
def putFile (t : FileTree) (l : Location) (c : Contents) : FileTree :=
  (t.putDirectory l.dropLast).put l (.file c)

/-- The files of a tree. -/
def files (t : FileTree) : List (Location × Contents) :=
  t.entries.filterMap fun (l, e) =>
    match e with
    | .file c => some (l, c)
    | .directory => none

/-! ### Following paths -/

/-- The length of a name in bytes is limited. -/
def maxNameSize : Nat := 255

/-- So is the length of a path. -/
def maxPathSize : Nat := 4095

/-- Goes from a place, which has to be a directory, to the place with a name in it. -/
def follow (t : FileTree) (l : Location) (name : Text) : Except FileError Location :=
  if t.get? l ≠ some .directory then .error .notDirectory
  else if Path.isVoid name then .ok l
  else if name = ['.', '.'] then .ok l.dropLast
  else if maxNameSize < Text.size name then .error .nameTooLong
  else if (t.get? (l ++ [name])).isSome then .ok (l ++ [name])
  else .error .notFound

/-- Refuses paths that no place can have. -/
def checkPath (p : Path) : Except FileError Unit :=
  if p.contains '\x00' then .error .invalidName
  else if p.isEmpty then .error .notFound
  else if maxPathSize < Text.size p then .error .nameTooLong
  else .ok ()

/-- Where a path starts. -/
def start (cwd : Location) (p : Path) : Location := if Path.isAbsolute p then [] else cwd

/-- The place that a path names from a current directory. -/
def locate (t : FileTree) (cwd : Location) (p : Path) : Except FileError Location := do
  checkPath p
  (Text.splitOn '/' p).foldlM t.follow (start cwd p)

/-- The directory in which a path's last name stands, and that name; none if it is a dot, or if the
path is the root. Slashes at the end do not count. -/
def locateParent (t : FileTree) (cwd : Location) (p : Path) :
    Except FileError (Location × Option Text) := do
  checkPath p
  let names := dropTailWhile List.isEmpty (Text.splitOn '/' p)
  let l ← names.dropLast.foldlM t.follow (start cwd p)
  if t.get? l ≠ some .directory then .error .notDirectory
  else
    match names.getLast? with
    | none | some ['.'] | some ['.', '.'] => .ok (l, none)
    | some name => if maxNameSize < Text.size name then .error .nameTooLong else .ok (l, some name)

/-! ### Reading -/

/-- Whether a path names anything. -/
def exists? (t : FileTree) (cwd : Location) (p : Path) : Bool := (t.locate cwd p).isOk

def isDirectory (t : FileTree) (cwd : Location) (p : Path) : Bool :=
  match t.locate cwd p with
  | .ok l => t.get? l == some .directory
  | .error _ => false

/-- The text of a file. -/
def readText (t : FileTree) (cwd : Location) (p : Path) : Except FileError Text := do
  match t.get? (← t.locate cwd p) with
  | none => .error .notFound
  | some .directory => .error .isDirectory
  | some (.file c) => c.read

/-- The names that lead from one place down to another. -/
def below? (base l : Location) : Option (List Text) :=
  if base.isPrefixOf l then some (l.drop base.length) else none

/-- The paths of all files at or under a path, in no particular order. -/
def filesUnder (t : FileTree) (cwd : Location) (p : Path) : List Path :=
  match t.locate cwd p with
  | .error _ => []
  | .ok base =>
    t.files.filterMap fun (l, _) => (below? base l).map fun names => names.foldl Path.join p

/-! ### Writing -/

/-- Makes a directory in one that exists. -/
def makeDirectory (t : FileTree) (cwd : Location) (p : Path) : Except FileError FileTree := do
  match ← t.locateParent cwd p with
  | (_, none) => .error .alreadyExists
  | (l, some name) =>
    if (t.get? (l ++ [name])).isSome then .error .alreadyExists
    else .ok (t.put (l ++ [name]) .directory)

/-- Makes a directory, which may exist already. The tree stays as it is if that fails. -/
def ensureDirectory (t : FileTree) (cwd : Location) (p : Path) : FileTree × Except FileError Unit :=
  match t.makeDirectory cwd p with
  | .ok t => (t, .ok ())
  | .error e => (t, if t.isDirectory cwd p then .ok () else .error e)

/-- Makes a directory and those around it. What has been made stays, even if it fails later. -/
def makeDirectories (t : FileTree) (cwd : Location) (p : Path) :
    FileTree × Except FileError Unit :=
  if p.isEmpty then (t, .ok ())
  else
    match t.makeDirectory cwd p, Path.parent? p with
    | .error .notFound, some parent =>
      if parent.length < p.length then
        match t.makeDirectories cwd parent with
        | (t, .ok ()) => t.ensureDirectory cwd p
        | (t, .error e) => (t, .error e)
      else (t, .error .notFound)
    | _, _ => t.ensureDirectory cwd p
termination_by p.length

/-- Writes a file in a directory that exists, instead of the file that may be there. -/
def write (t : FileTree) (cwd : Location) (p : Path) (text : Text) : Except FileError FileTree := do
  match ← t.locateParent cwd p with
  | (_, none) => .error .isDirectory
  | (l, some name) =>
    if p.getLast? = some '/' ∨ t.get? (l ++ [name]) = some .directory then .error .isDirectory
    else .ok (t.put (l ++ [name]) (.file (.text text)))

/-- Writes a file, and makes the directories around it first. -/
def writeDeep (t : FileTree) (cwd : Location) (p : Path) (text : Text) :
    FileTree × Except FileError Unit :=
  match t.makeDirectories cwd ((Path.parent? p).getD []) with
  | (t, .error e) => (t, .error e)
  | (t, .ok ()) =>
    match t.write cwd p text with
    | .ok t => (t, .ok ())
    | .error e => (t, .error e)

end FileTree
end StyleScope
