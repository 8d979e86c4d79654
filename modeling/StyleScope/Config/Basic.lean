import StyleScope.Config.Comments
import StyleScope.Config.Json
import StyleScope.Path

/-!
What a project says in its configuration file: a JSON object with the members below, each at most
once and none of them required, or an array of all of them in their order. Comments are allowed.
-/

namespace StyleScope

/-- What a project says about its style sheets. -/
structure ProjectConfig where
  under : Option Text := none
  template : Option Text := none
  self : Option Text := none
  root : Option Text := none
  ignoreRoot : Option Bool := none
  dropRoot : Option Bool := none
  htmlTag : Option Bool := none
  extensions : List Text := []
  ignore : List Text := []
  /-- Relative to the directory of the configuration. -/
  outDir : Option Path := none
  deriving DecidableEq, Repr

/-- The members of a configuration. -/
inductive ConfigKey where
  | under
  | template
  | self
  | root
  | ignoreRoot
  | dropRoot
  | htmlTag
  | extensions
  | ignore
  | outDir
  deriving DecidableEq, Repr

namespace ConfigKey

/-- The members in their order. -/
def all : List ConfigKey :=
  [under, template, self, root, ignoreRoot, dropRoot, htmlTag, extensions, ignore, outDir]

def name : ConfigKey → String
  | under => "namespace"
  | template => "namespaceTemplate"
  | self => "selfSelector"
  | root => "rootSelector"
  | ignoreRoot => "ignoreRoot"
  | dropRoot => "dropRoot"
  | htmlTag => "processHtmlTagSpecifically"
  | extensions => "extensions"
  | ignore => "ignore"
  | outDir => "outDir"

end ConfigKey

namespace ProjectConfig

open JsonReader

/-- The name of a project's configuration file. -/
def fileName : Path := "selector-namespace.json".toList

/-- Reads the value of a member. -/
def readValue (c : ProjectConfig) : ConfigKey → JsonReader ProjectConfig
  | .under => (optional string).map fun v => { c with under := v }
  | .template => (optional string).map fun v => { c with template := v }
  | .self => (optional string).map fun v => { c with self := v }
  | .root => (optional string).map fun v => { c with root := v }
  | .ignoreRoot => (optional boolean).map fun v => { c with ignoreRoot := v }
  | .dropRoot => (optional boolean).map fun v => { c with dropRoot := v }
  | .htmlTag => (optional boolean).map fun v => { c with htmlTag := v }
  | .extensions => stringArray.map fun v => { c with extensions := v }
  | .ignore => stringArray.map fun v => { c with ignore := v }
  | .outDir => (optional string).map fun v => { c with outDir := v }

/-- Reads the members of an object; `keys` are those that have not been met. -/
def readMembers (keys : List ConfigKey) (first : Bool) (c : ProjectConfig) :
    JsonReader ProjectConfig := fun t =>
  match nextMember first t with
  | .error f => .error f
  | .ok (.stop t) => .ok (c, t)
  | .ok (.item t) => do
    let (name, t) ← stringBody t
    match h : keys.find? fun key => key.name.toList = name with
    | none => .error .mismatched
    | some key =>
      have : (keys.erase key).length < keys.length := by
        have hmem := List.mem_of_find?_eq_some h
        have := List.length_pos_of_mem hmem
        rw [List.length_erase_of_mem hmem]
        omega
      let (_, t) ← colon t
      let (c, t) ← c.readValue key t
      readMembers (keys.erase key) false c t
termination_by keys.length

/-- Reads the elements of an array, which are the values of the members `keys`. -/
def readElements : List ConfigKey → Bool → ProjectConfig → JsonReader ProjectConfig
  | [], _, c, t => arrayEnd.map (fun _ => c) t
  | key :: keys, first, c, t => do
    match ← nextElement first t with
    | .stop _ => .error .mismatched
    | .item t =>
      let (c, t) ← c.readValue key t
      readElements keys false c t

def read : JsonReader ProjectConfig := fun t =>
  match skipSpace t with
  | '{' :: t => readMembers ConfigKey.all true {} t
  | '[' :: t => readElements ConfigKey.all true {} t
  | t => .error (valueFault t)

/-- Reads a configuration. -/
def parse (t : Text) : Except JsonFault ProjectConfig := do
  let (c, t) ← read (Comments.remove t)
  finish t
  return c

end ProjectConfig
end StyleScope
