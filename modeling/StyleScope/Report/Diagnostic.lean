import StyleScope.LineIndex
import StyleScope.Path
import StyleScope.Report.JsonText
import StyleScope.Sheet.ParseError
import StyleScope.Text.Search

/-!
Faults of style sheets and failures of files, in the formats in which they are reported. Lines and
columns are counted from one, columns in bytes.
-/

namespace StyleScope

/-- How diagnostics are written. -/
inductive OutputFormat where
  | human
  /-- With the source line and a mark under it. -/
  | humanVerbose
  | json
  /-- One line for each diagnostic. -/
  | machine
  deriving DecidableEq, Repr

/-- A file that gave no result, for a reason that has no place in it. -/
structure Failure where
  code : Text
  message : Text
  deriving DecidableEq, Repr

namespace Failure

/-- The namespace could not be computed. -/
def ofNamespace (message : Text) : Failure := ⟨"namespace-failed".toList, message⟩

/-- A file could not be read, or a result not written. -/
def ofAccess (message : Text) : Failure := ⟨"io-failed".toList, message⟩

end Failure

/-- A place in a source. -/
structure Position where
  line : Nat
  column : Nat
  offset : Nat
  deriving DecidableEq, Repr

/-- The place of an offset; offsets past the end are shown at the first character. -/
def Position.ofOffset (index : LineIndex) (offset : Nat) : Position :=
  let p := (index.lineCol? offset).getD ⟨0, 0⟩
  ⟨p.line + 1, p.col + 1, offset⟩

/-- A diagnostic, which has no place if it is about a whole file. -/
structure Diagnostic where
  file : Path
  range : Option (Position × Position)
  message : Text
  code : Text
  deriving DecidableEq, Repr

namespace Diagnostic

def ofParseError (file : Path) (index : LineIndex) (e : ParseError) : Diagnostic :=
  ⟨file, some (.ofOffset index e.span.start, .ofOffset index e.span.stop), e.fault.message,
    e.fault.code⟩

/-- The diagnostics for the faults of a file. -/
def ofParseErrors (file : Path) (source : Text) (es : List ParseError) : List Diagnostic :=
  es.map (ofParseError file (LineIndex.ofText source))

def ofFailure (file : Path) (f : Failure) : Diagnostic := ⟨file, none, f.message, f.code⟩

/-- The message and the code. -/
def summary (d : Diagnostic) : Text := d.message ++ " (".toList ++ d.code ++ [')']

/-- `:line:column` of a position. -/
def place (p : Position) : Text := ':' :: Text.ofNat p.line ++ ':' :: Text.ofNat p.column

/-- The source line of a position, with a mark under the column; nothing if there is no such
line. -/
def snippet (lines : List Text) (p : Position) : Text :=
  match lines[p.line - 1]? with
  | none => []
  | some line =>
    let gutter := Text.ofNat p.line
    "  ".toList ++ gutter ++ " | ".toList ++ line ++ "\n  ".toList ++
      List.replicate gutter.length ' ' ++ " | ".toList ++ List.replicate (p.column - 1) ' ' ++
      "^\n".toList

/-- A diagnostic for people; `lines` are the source lines to show. -/
def human (lines : List Text) (d : Diagnostic) : Text :=
  let (place, snippet) := match d.range with
    | some (start, _) => (place start, snippet lines start)
    | none => ([], [])
  d.file ++ place ++ "\nError: ".toList ++ d.summary ++ "\n".toList ++ snippet ++ "\n".toList

/-- A diagnostic on one line. -/
def machine (d : Diagnostic) : Text :=
  let place := match d.range with
    | some (start, stop) => place start ++ place stop
    | none => []
  "ERROR ".toList ++ d.file ++ place ++ ' ' :: d.summary ++ "\n".toList

/-- Writes diagnostics of a source. The JSON of a run is written at its end, so here it is
nothing. -/
def format (f : OutputFormat) (source : Text) (ds : List Diagnostic) : Text :=
  match f with
  | .human => ds.flatMap (human [])
  | .humanVerbose => ds.flatMap (human (Text.lines source))
  | .json => []
  | .machine => ds.flatMap machine

def positionJson (p : Position) : Text :=
  JsonText.object 2 [("line", JsonText.number p.line), ("column", JsonText.number p.column),
    ("offset", JsonText.number p.offset)]

def toJson (d : Diagnostic) : Text :=
  JsonText.object 1 [("type", JsonText.string "Error".toList), ("filename", JsonText.string d.file),
    ("start", (d.range.map fun r => positionJson r.1).getD JsonText.null),
    ("end", (d.range.map fun r => positionJson r.2).getD JsonText.null),
    ("message", JsonText.string d.message), ("code", JsonText.string d.code)]

/-- All diagnostics as a JSON array. -/
def listJson (ds : List Diagnostic) : Text := JsonText.array 0 (ds.map toJson)

end Diagnostic
end StyleScope
