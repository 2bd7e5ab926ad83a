/-
Reading a world from a JSON value.

Where a text is expected any value will do and stands for its spelling. Where a list is expected a
text stands for its characters and an object for the names of its fields. The parts of a world are
read and checked in a fixed order, and the first fault counts.

* `Seed.decode`: a node of the tree, after its kind and before the nodes beside it.
* `Milestone.decode`: a milestone by itself; `Milestone.validate` checks a whole table.
* `World.decode`: a world.
-/
import StoryShell.World.Basic
import StoryShell.World.LoadError
import StoryShell.Json.Document
import StoryShell.Story.Prerequisites

set_option autoImplicit false

namespace StoryShell

/-! ## Values -/

namespace Json

/-- The items of a value where a list is expected. -/
def elements : Json → Except LoadError (List Json)
  | .array items => .ok items
  | .string value => .ok (value.toList.map fun c => .string (String.ofList [c]))
  | .object fields => .ok (fields.map fun (name, _) => .string name)
  | _ => .error .notAList

/-- The spelling of a field, or a default if the field is missing. -/
def textField (name default : String) (fields : List (String × Json)) : String :=
  ((field? name fields).map spelling).getD default

/-- The spelling of a field that has to be there. -/
def requiredField (name : String) (fields : List (String × Json)) : Except LoadError String :=
  match field? name fields with
  | some value => .ok value.spelling
  | none => .error (.missingField name)

/-- The spelling of a field, unless it is missing or null. -/
def optionalField (name : String) (fields : List (String × Json)) : Option String :=
  match field? name fields with
  | none | some .null => none
  | some value => some value.spelling

/-- The items of a field; a missing field has none. -/
def listField (name : String) (fields : List (String × Json)) : Except LoadError (List Json) :=
  match field? name fields with
  | none => .ok []
  | some value => value.elements

/-- The spellings of the items of a field. -/
def textsField (name : String) (fields : List (String × Json)) : Except LoadError (List String) :=
  (listField name fields).map (·.map spelling)

/-- The spellings of the items of a field, in lower case. -/
def lowerField (name : String) (fields : List (String × Json)) : Except LoadError (List String) :=
  (textsField name fields).map (·.map Text.lower)

end Json

/-! ## The tree -/

namespace Seed

/-- The kinds of node that a document may name. -/
def kinds : List String := ["directory", "file"]

/-- The first seed whose name is that of one before it, whose keys are given, up to case. -/
def duplicate? : List String → List Seed → Option Seed
  | _, [] => none
  | keys, seed :: rest =>
    let key := Text.lower seed.name
    if key ∈ keys then some seed else duplicate? (key :: keys) rest

/-- Refuses seeds of one directory with names that are the same up to case. -/
def checkNames (directory : String) (seeds : List Seed) : Except LoadError Unit :=
  match duplicate? [] seeds with
  | some seed => .error (.duplicateName seed.name directory)
  | none => .ok ()

/-- A seed from the fields of an object and from what its children came to. -/
def ofFields (fields : List (String × Json)) (children : Except LoadError (List Seed)) :
    Except LoadError Seed := do
  let name := Text.trim (Json.textField "name" "" fields)
  if name = "" || name.toList.contains '/' then
    throw (.invalidName (Json.field? "name" fields))
  let kind := Json.textField "type" "file" fields
  if kind ∉ kinds then
    throw (.unknownType name kind)
  if kind = "file" && !((Json.field? "children" fields).getD .null).isNothing then
    throw (.fileWithChildren name)
  let children ← children
  checkNames name children
  let text := Json.textField "content" "" fields
  return if kind = "file" then .file name text else .directory name text children

mutual

/-- **Reads a node of the tree** and all below it. -/
def decode : Json → Except LoadError Seed
  | .object fields => ofFields fields (decodeChildren fields)
  | _ => .error .notAnObject

/-- Reads the children among the fields of a node; without that field there are none. -/
def decodeChildren : List (String × Json) → Except LoadError (List Seed)
  | [] => .ok []
  | (name, value) :: rest =>
    if name = "children" then decodeElements value else decodeChildren rest

/-- Reads the nodes that are the items of a value. The items of a text or of an object are texts,
so none of them is a node. -/
def decodeElements : Json → Except LoadError (List Seed)
  | .array items => decodeAll items
  | .string value => if value = "" then .ok [] else .error .notAnObject
  | .object fields => if fields.isEmpty then .ok [] else .error .notAnObject
  | _ => .error .notAList

/-- Reads a list of nodes. -/
def decodeAll : List Json → Except LoadError (List Seed)
  | [] => .ok []
  | item :: rest =>
    match decode item with
    | .error error => .error error
    | .ok seed => (decodeAll rest).map (seed :: ·)

end

end Seed

/-! ## Milestones -/

namespace Milestone

/-- **Reads a milestone.** -/
def decode : Json → Except LoadError Milestone
  | .object fields => do
    return {
      id := ← Json.requiredField "id" fields
      command := Text.lower (← Json.requiredField "command" fields)
      targetName := Json.optionalField "target_name" fields
      location := Json.optionalField "location" fields
      requires := ← Json.textsField "requires" fields
      unlocks := ← Json.lowerField "unlocks" fields
      unblocks := ← Json.lowerField "unblocks" fields
      narrative := ← Json.textsField "narrative" fields }
  | _ => .error .notAnObject

/-- The first id that is given a second time. -/
def duplicateId? : List String → List Milestone → Option String
  | _, [] => none
  | ids, milestone :: rest =>
    if milestone.id ∈ ids then some milestone.id else duplicateId? (milestone.id :: ids) rest

/-- The first requirement that is no milestone of the table, after the milestone that has it. -/
def unknownPrerequisite? (table : List Milestone) : Option (String × String) :=
  table.findSome? fun milestone =>
    (milestone.requires.find? fun id => !table.any (·.id = id)).map (milestone.id, ·)

/-- **Checks a table of milestones**: every id is given once, every requirement is in the table, and
none leads back to itself. -/
def validate (table : List Milestone) : Except LoadError Unit :=
  match duplicateId? [] table with
  | some id => .error (.duplicateMilestone id)
  | none =>
    match unknownPrerequisite? table with
    | some (id, prerequisite) => .error (.unknownPrerequisite id prerequisite)
    | none =>
      match cycle? table with
      | some chain => .error (.circular chain)
      | none => .ok ()

end Milestone

/-! ## The world -/

namespace World

/-- The name of the directory that holds the tree, in a message. -/
def topName : String := "/"

/-- Reads the paths of directories with a role. -/
def decodeRoles (fields : List (String × Json)) : Except LoadError (List (String × String)) :=
  match Json.field? "well_known" fields with
  | none => .ok []
  | some (.object roles) => .ok (roles.map fun (role, path) => (role, path.spelling))
  | some _ => .error .notAnObject

/-- Reads the tree. -/
def decodeSeeds (fields : List (String × Json)) : Except LoadError (List Seed) := do
  let seeds ← match Json.field? "tree" fields with
    | none => .ok []
    | some value => Seed.decodeElements value
  Seed.checkNames topName seeds
  return seeds

/-- Reads and checks the milestones. -/
def decodeMilestones (fields : List (String × Json)) : Except LoadError (List Milestone) := do
  let milestones ← (← Json.listField "milestones" fields).mapM Milestone.decode
  Milestone.validate milestones
  return milestones

/-- **Reads a world.** -/
def decode : Json → Except LoadError World
  | .object fields => do
    let id ← Json.requiredField "id" fields
    let seeds ← decodeSeeds fields
    let milestones ← decodeMilestones fields
    return {
      id, seeds, milestones
      title := Json.textField "title" id fields
      intro := ← Json.textsField "intro" fields
      wellKnown := ← decodeRoles fields
      allowed := ← Json.lowerField "allowed_commands" fields
      blocked := ← Json.lowerField "blocked_commands" fields }
  | _ => .error .notIndexable

/-- Reads a world from the text of a document. -/
def ofDocument (text : List Char) : Except LoadError World :=
  match Json.read text with
  | .error fault => .error (.document fault text)
  | .ok value => decode value

/-- **Reads a world from the bytes of a file.** -/
def ofBytes (bytes : List UInt8) : Except LoadError World :=
  match Text.Utf8.fileText bytes with
  | .error fault => .error (.bytes fault)
  | .ok text => ofDocument text

end World

end StoryShell
