/-
Where worlds lie: paths of files in their plain form, what keeps a file from being read, and the
directories that lead to the bundled worlds.

A path is followed name by name. Two dots lead up, also from the top of the program's own
directories; whatever else lies outside of those is not known, and so leads nowhere.
-/
import StoryShell.Text.Blank
import StoryShell.Text.Quoted

set_option autoImplicit false

namespace StoryShell

/-! ## Plain paths -/

/-- **The plain form of a path**: without doubled slashes, single dots and a slash at the end. Two
slashes at the front, and no more, are kept; a path without anything is a dot. -/
def plainPath (path : String) : String :=
  let top := match path.toList with
    | '/' :: '/' :: '/' :: _ => "/"
    | '/' :: '/' :: _ => "//"
    | '/' :: _ => "/"
    | _ => ""
  let names := (Text.pieces (· = '/') path).filter (· ≠ ".")
  if top = "" && names.isEmpty then "." else top ++ String.intercalate "/" names

/-! ## Faults -/

/-- Why the file of a world cannot be read. -/
inductive FileFault where
  | missing
  | isDirectory
  | belowFile
  | nameTooLong
  | nullCharacter
deriving DecidableEq, Repr

/-- The message for a file that cannot be read. -/
def FileFault.message (path : String) : FileFault → String
  | .missing => "[Errno 2] No such file or directory: " ++ Text.quoted path
  | .isDirectory => "[Errno 21] Is a directory: " ++ Text.quoted path
  | .belowFile => "[Errno 20] Not a directory: " ++ Text.quoted path
  | .nameTooLong => "[Errno 36] File name too long: " ++ Text.quoted path
  | .nullCharacter => "embedded null byte"

/-- The longest name of a file, in bytes. -/
def longestName : Nat := 255

/-- The longest path of a file, in bytes. -/
def longestPath : Nat := 4095

/-! ## The bundled worlds -/

namespace Bundle

/-- The directories that lead to the bundled worlds, outermost first. -/
def directories : List String := ["src", "vfshell", "content", "worlds"]

/-- The directories, and after them the file of the bundled world. -/
def way : List String := directories ++ ["default.json"]

/-- A place on the way, by the number of names that lead there, or somewhere outside. -/
abbrev Place := Option Nat

/-- The place above. -/
def above : Place → Place
  | some (depth + 1) => some depth
  | _ => none

/-- Follows names from a place to a place. The end of the way is a file, and nothing lies below. -/
def follow : Place → List String → Except FileFault Place
  | place, [] => .ok place
  | place, name :: rest =>
    if place = some way.length then .error .belowFile
    else if name = ".." then follow (above place) rest
    else if longestName < name.utf8ByteSize then .error .nameTooLong
    else
      match place with
      | none => .error .missing
      | some depth =>
        if way[depth]? = some name then follow (some (depth + 1)) rest else .error .missing

/-- The path from the top to a file that is named among the bundled worlds. -/
def fullPath (path : String) : String :=
  if path.startsWith "/" then path
  else "/" ++ String.intercalate "/" (directories ++ [path])

/-- **Whether a plain path among the bundled worlds is that of the bundled world.** -/
def holds (path : String) : Except FileFault Bool :=
  if path.toList.contains '\x00' then .error .nullCharacter
  else if longestPath < (fullPath path).utf8ByteSize then .error .nameTooLong
  else do
    let start := if path.startsWith "/" then none else some directories.length
    let place ← follow start (Text.pieces (· = '/') path)
    return place = some way.length

end Bundle

end StoryShell
