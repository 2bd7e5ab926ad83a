/-
The file system: a forest with a current directory and directories that are known by a role.

Every operation either succeeds with a new file system or is refused with an error. All but one ask
first and change afterwards, and so a refusal comes without a file system; `copyInto` changes things
in two steps, and gives the file system that it leaves in any case.

* `add` attaches a node unless it is attached already, would come to lie below itself, or its name
  is taken, asked in this order.
* `changeDirectory` knows the root by `/` and `~`, the parent by `..`, and else children only.
* `copyInto` replaces a file of the same name, but never a directory, and leaves a file alone that
  would be copied onto itself.
-/
import StoryShell.Tree.Error
import StoryShell.Tree.Path

set_option autoImplicit false

namespace StoryShell

namespace Forest

/-- **Attaches a node to a directory.** -/
def add (forest : Forest) (directory id : NodeId) : Except TreeError Forest :=
  let name := forest.nameOf id
  let key := Text.lower name
  match forest.parentOf id with
  | some holder => .error (.alreadyAttached name (forest.nameOf holder))
  | none =>
    if (forest.lineage directory).contains id then .error (.insideItself name)
    else
      match (forest.childrenOf directory).get? key with
      | some holder => .error (.nameTaken name (forest.nameOf directory) holder)
      | none =>
        .ok ((forest.modify directory (·.withChildren (·.insert key id))).modify id
          ({ · with parent := some directory }))

/-- Detaches a child of a directory by its name and gives it back; without such a child nothing
happens. -/
def remove (forest : Forest) (directory : NodeId) (name : String) : Option NodeId × Forest :=
  let key := Text.lower name
  match (forest.childrenOf directory).get? key with
  | none => (none, forest)
  | some id =>
    (some id, (forest.modify directory (·.withChildren (·.erase key))).modify id
      ({ · with parent := none }))

/-- Replaces the text of a file. -/
def write (forest : Forest) (id : NodeId) (text : String) : Forest :=
  forest.modify id fun node =>
    match node.body with
    | .file _ => { node with body := .file text }
    | .directory _ => node

end Forest

/-- **A file system.** -/
structure FileSystem where
  forest : Forest
  cwd : NodeId
  roles : NameMap NodeId
deriving DecidableEq, Repr

namespace FileSystem

/-- The file system of an empty root. -/
def initial : FileSystem := ⟨Forest.initial, Forest.root, NameMap.empty⟩

/-- A file system with another forest. -/
def withForest (fs : FileSystem) (forest : Forest) : FileSystem := { fs with forest := forest }

/-- The nodes that a file system itself keeps: the root, the current directory and those with a
role. -/
def anchors (fs : FileSystem) : List NodeId :=
  Forest.root :: fs.cwd :: fs.roles.values

/-- Lets go of all nodes that neither the file system nor anyone else keeps. -/
def reclaim (fs : FileSystem) (held : List NodeId) : FileSystem :=
  fs.withForest (fs.forest.reclaim (fs.anchors ++ held))

/-! ## Building -/

/-- Attaches a node to a directory. -/
def insert (fs : FileSystem) (parent id : NodeId) : Except TreeError FileSystem :=
  (fs.forest.add parent id).map fs.withForest

/-- Creates a node and attaches it to a directory. -/
def createIn (fs : FileSystem) (parent : NodeId) (name : String) (body : Body) :
    Except TreeError (NodeId × FileSystem) :=
  let (id, forest) := fs.forest.create name body
  (forest.add parent id).map fun forest => (id, fs.withForest forest)

/-- Creates an empty directory in a directory. -/
def createDirectory (fs : FileSystem) (parent : NodeId) (name : String) :
    Except TreeError (NodeId × FileSystem) :=
  fs.createIn parent name (.directory NameMap.empty)

/-- Creates a file in a directory. -/
def createFile (fs : FileSystem) (parent : NodeId) (name text : String) :
    Except TreeError (NodeId × FileSystem) :=
  fs.createIn parent name (.file text)

/-! ## Roles -/

/-- Gives a role to a directory of the tree. -/
def register (fs : FileSystem) (role : String) (directory : NodeId) :
    Except TreeError FileSystem :=
  if fs.forest.isAttached directory then .ok { fs with roles := fs.roles.insert role directory }
  else .error (.notInTree (fs.forest.nameOf directory))

/-- **The directory with a role**, if it is in the tree at the time of asking. -/
def wellKnown (fs : FileSystem) (role : String) : Except TreeError NodeId :=
  match fs.roles.get? role with
  | none => .error (.roleUnavailable role)
  | some directory =>
    if fs.forest.isAttached directory then .ok directory else .error (.roleUnavailable role)

/-! ## Looking and moving -/

/-- The child of the current directory with a name. -/
def child? (fs : FileSystem) (name : String) : Option NodeId :=
  fs.forest.child? fs.cwd name

/-- The children of the current directory. -/
def list (fs : FileSystem) : List NodeId :=
  fs.forest.listing fs.cwd

/-- The path of the current directory. -/
def currentPath (fs : FileSystem) : String :=
  fs.forest.barePath fs.cwd

/-- The directory that a path leads to: the root, the parent or a child. -/
def destination (fs : FileSystem) (path : String) : Except TreeError NodeId :=
  let stripped := Text.dropTrailing (· = '/') path
  if stripped = "" || stripped = "~" then .ok Forest.root
  else if stripped = ".." then .ok ((fs.forest.parentOf fs.cwd).getD fs.cwd)
  else
    match fs.child? stripped with
    | none => .error (.noSuchPath path)
    | some id => if fs.forest.isDirectory id then .ok id else .error (.notADirectory path id)

/-- **Moves to the directory that a path leads to.** -/
def changeDirectory (fs : FileSystem) (path : String) : Except TreeError (NodeId × FileSystem) :=
  (fs.destination path).map fun id => (id, { fs with cwd := id })

/-- What is logged after a move, when only what the file system and `held` keep is left. -/
def moveRecord (fs : FileSystem) (held : List NodeId) : Log.Record :=
  ⟨.debug, .tree, "cd -> " ++ (fs.reclaim held).currentPath⟩

/-- The file of the current directory with a name. -/
def readFile (fs : FileSystem) (name : String) : Except TreeError NodeId :=
  match fs.child? name with
  | none => .error (.noSuchFile name)
  | some id => if fs.forest.isDirectory id then .error (.isADirectory name id) else .ok id

/-- The path of the first node with a name. -/
def find (fs : FileSystem) (name : String) : Option String :=
  (fs.forest.find name).map fs.forest.pathOf

/-! ## Copying -/

/-- **A copy that was made**: the copy and its source, which are the same node where a file would
have been copied onto itself. -/
structure Copied where
  copy : NodeId
  source : NodeId
deriving DecidableEq, Repr

/-- Takes a file out of the way of a copy; a directory stays. -/
def makeRoom (forest : Forest) (destination : NodeId) (name : String) : Except TreeError Forest :=
  match forest.child? destination name with
  | none => .ok forest
  | some holder =>
    if forest.isDirectory holder then
      .error (.cannotOverwriteDirectory (forest.nameOf holder) holder)
    else .ok (forest.remove destination (forest.nameOf holder)).2

/-- **Copies a file of the current directory into a directory.** A file in the way is taken out
before the copy is put in, and so the file system that is left comes with a refusal, too. -/
def copyInto (fs : FileSystem) (name : String) (destination : NodeId) :
    Except TreeError Copied × FileSystem :=
  let forest := fs.forest
  if !forest.isAttached destination then
    (.error (.destinationDetached (forest.nameOf destination)), fs)
  else
    match fs.child? name with
    | none => (.error (.nothingToCopy name), fs)
    | some source =>
      if forest.isDirectory source then (.error (.cannotCopyDirectory name source), fs)
      else if forest.child? destination (forest.nameOf source) = some source then
        (.ok ⟨source, source⟩, fs)
      else
        match makeRoom forest destination (forest.nameOf source) with
        | .error error => (.error error, fs)
        | .ok cleared =>
          let cleared := fs.withForest cleared
          match cleared.createFile destination (forest.nameOf source) (forest.textOf source) with
          | .error error => (.error error, cleared)
          | .ok (copy, fs) => (.ok ⟨copy, source⟩, fs)

end FileSystem

end StoryShell
