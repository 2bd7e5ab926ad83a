/-
The version of the program.

The manifest beside the sources decides, if it is there, is the manifest of this program and gives a
version, be it empty; otherwise the version that is installed; otherwise a text that says that none
is known. A manifest is a TOML document with a table for the project; without that table it is the
manifest of no program.
-/
import StoryShell.Toml.Document

set_option autoImplicit false

namespace StoryShell.Version

/-- The name of this program in a manifest. -/
def programName : String := "vfshell"

/-- The version when none is known. -/
def unknown : String := "0+unknown"

/-- The version of these sources. -/
def current : String := "0.1.0"

/-- Why a manifest gives no answer: it is no TOML document, or its project is no table. -/
inductive ManifestFault where
  | unreadable
  | projectNotTable
deriving DecidableEq, Repr

/-- The fields of the project in a manifest. -/
def project (manifest : Toml.Fields) : Except ManifestFault Toml.Fields :=
  match Toml.field? "project" manifest with
  | none => .ok []
  | some (.table _ fields) => .ok fields
  | some _ => .error .projectNotTable

/-- Whether a project is this program. -/
def isThis (project : Toml.Fields) : Bool :=
  match Toml.field? "name" project with
  | some (.string name) => name = programName
  | _ => false

/-- The version that a manifest gives for this program. It is a text, but any value is taken. -/
def ofManifest (manifest : String) : Except ManifestFault (Option Toml) :=
  match Toml.read manifest.toList with
  | none => .error .unreadable
  | some fields => do
    let project ← project fields
    return if isThis project then Toml.field? "version" project else none

/-- **The version**, by the manifest if there is one and by what is installed if anything is. -/
def resolve (manifest installed : Option String) : Except ManifestFault Toml := do
  let given ← match manifest with
    | none => .ok none
    | some manifest => ofManifest manifest
  return given.getD (.string (installed.getD unknown))

end StoryShell.Version
