/-
The workbench: a file system together with handles on nodes, attached or not.

Every tree operation can be tried on it, on any node that can be referred to. A handle keeps its
node in existence, and so a detached tree lasts as long as a handle on its top. After each step
everything is let go that neither the file system nor a handle keeps; while a step is being
answered, the nodes that the answer speaks of are kept as well.
-/
import StoryShell.Tree.FileSystem
import StoryShell.Tree.View

set_option autoImplicit false

namespace StoryShell

/-- **A way to refer to a node**: by a handle, as the current directory, or by a path. -/
inductive Ref where
  | handle (name : String)
  | here
  | path (path : String)
deriving DecidableEq, Repr

/-- **A step on the workbench.** A parent that is left out is the root. -/
inductive Step where
  | makeDirectory (name : String) (parent : Option Ref)
  | makeFile (name text : String) (parent : Option Ref)
  | newDirectory (name : String)
  | newFile (name text : String)
  | insert (node : Ref) (parent : Option Ref)
  | add (directory node : Ref)
  | remove (directory : Ref) (name : String)
  | get (directory : Ref) (name : String)
  | child (name : String)
  | read (name : String)
  | absolute (path : String)
  | changeDirectory (path : String)
  | here
  | parent (node : Ref)
  | wellKnown (role : String)
  | register (role : String) (directory : Ref)
  | drop (handle : String)
  | list
  | sorted (directory : Ref)
  | keys (directory : Ref)
  | text (node : Ref)
  | write (node : Ref) (text : String)
  | copy (name : String) (destination : Ref)
  | find (name : String)
  | path (node : Ref)
  | attached (node : Ref)
  | same (first second : Ref)
  | describe (node : Ref)
  | outline (directory : Option Ref)
deriving DecidableEq, Repr

/-- **Why a step gave no answer**: it refers to nothing suitable, or the tree refused. -/
inductive StepError where
  | badReference
  | refused (error : TreeError)
deriving DecidableEq, Repr

/-- What a step answers, by the numbers of nodes. -/
inductive Answer where
  | nothing
  | node (id : Option NodeId)
  | copied (copied : FileSystem.Copied)
  | text (text : Option String)
  | truth (value : Bool)
  | names (names : List String)
  | outline (directory : NodeId)
deriving DecidableEq, Repr

/-- **An answer as it is shown.** -/
inductive AnswerView where
  | nothing
  | node (node : Option NodeView)
  | copied (copy source : NodeView) (same : Bool)
  | text (text : Option String)
  | truth (value : Bool)
  | names (names : List String)
  | outline (entries : List Outline)
deriving Repr

/-- **An error as it is shown**, with the node that stood in the way. -/
structure StepErrorView where
  error : StepError
  node : Option NodeView
deriving DecidableEq, Repr

namespace Answer

/-- The nodes that an answer speaks of. -/
def nodes : Answer → List NodeId
  | .node (some id) => [id]
  | .copied both => [both.copy, both.source]
  | .outline top => [top]
  | _ => []

/-- The node for which a step's handle is taken. -/
def result : Answer → Option NodeId
  | .node id => id
  | .copied both => some both.copy
  | _ => none

/-- An answer as it is shown. -/
def view (forest : Forest) : Answer → AnswerView
  | .nothing => .nothing
  | .node id => .node (id.map forest.view)
  | .copied ⟨copy, source⟩ => .copied (forest.view copy) (forest.view source) (copy == source)
  | .text value => .text value
  | .truth value => .truth value
  | .names list => .names list
  | .outline top => .outline (forest.outline top)

end Answer

namespace StepError

/-- The node that an error speaks of. -/
def nodes : StepError → List NodeId
  | .badReference => []
  | .refused error => error.node?.toList

/-- An error as it is shown. -/
def view (forest : Forest) (error : StepError) : StepErrorView :=
  ⟨error, error.nodes.head?.map forest.view⟩

end StepError

/-- **The workbench.** -/
structure Workbench where
  fs : FileSystem
  handles : NameMap NodeId

namespace Workbench

/-- An empty file system and no handles. -/
def initial : Workbench := ⟨FileSystem.initial, NameMap.empty⟩

/-- The node that is referred to. -/
def node (bench : Workbench) (ref : Ref) : Except StepError NodeId :=
  let found := match ref with
    | .handle name => bench.handles.get? name
    | .here => some bench.fs.cwd
    | .path path => bench.fs.forest.resolve path
  match found with
  | some id => .ok id
  | none => .error .badReference

/-- The directory that is referred to. -/
def directory (bench : Workbench) (ref : Ref) : Except StepError NodeId := do
  let id ← bench.node ref
  if bench.fs.forest.isDirectory id then return id else throw .badReference

/-- The file that is referred to. -/
def file (bench : Workbench) (ref : Ref) : Except StepError NodeId := do
  let id ← bench.node ref
  if bench.fs.forest.isDirectory id then throw .badReference else return id

/-- The directory that is referred to, or the root. -/
def parent (bench : Workbench) : Option Ref → Except StepError NodeId
  | none => .ok Forest.root
  | some ref => bench.directory ref

/-- The outcome of a tree operation as that of a step. -/
def asked {α : Type} : Except TreeError α → Except StepError α
  | .ok value => .ok value
  | .error error => .error (.refused error)

/-- A step that leaves the file system as it was if it is refused. -/
def whole (bench : Workbench) : Except StepError (Answer × FileSystem) →
    Except StepError Answer × FileSystem
  | .error error => (.error error, bench.fs)
  | .ok (answer, fs) => (.ok answer, fs)

/-- A step that only looks. -/
def looked (bench : Workbench) (answer : Except StepError Answer) :
    Except StepError Answer × FileSystem :=
  (answer, bench.fs)

/-- What a step answers, and the file system after it. Handles are not its business. -/
def perform (bench : Workbench) : Step → Except StepError Answer × FileSystem
  | .makeDirectory name parent => bench.whole do
    let (id, fs) ← asked (bench.fs.createDirectory (← bench.parent parent) name)
    return (.node id, fs)
  | .makeFile name text parent => bench.whole do
    let (id, fs) ← asked (bench.fs.createFile (← bench.parent parent) name text)
    return (.node id, fs)
  | .newDirectory name =>
    let (id, forest) := bench.fs.forest.create name (.directory NameMap.empty)
    (.ok (.node id), bench.fs.withForest forest)
  | .newFile name text =>
    let (id, forest) := bench.fs.forest.create name (.file text)
    (.ok (.node id), bench.fs.withForest forest)
  | .insert node parent => bench.whole do
    let id ← bench.node node
    return (.node id, ← asked (bench.fs.insert (← bench.parent parent) id))
  | .add directory node => bench.whole do
    let parent ← bench.directory directory
    let id ← bench.node node
    return (.node id, ← asked (bench.fs.insert parent id))
  | .remove directory name => bench.whole do
    let (id, forest) := bench.fs.forest.remove (← bench.directory directory) name
    return (.node id, bench.fs.withForest forest)
  | .get directory name => bench.looked do
    return .node (bench.fs.forest.child? (← bench.directory directory) name)
  | .child name => bench.looked (.ok (.node (bench.fs.child? name)))
  | .read name => bench.looked do return .node (← asked (bench.fs.readFile name))
  | .absolute path => bench.looked (.ok (.node (bench.fs.forest.resolve path)))
  | .changeDirectory path => bench.whole do
    let (id, fs) ← asked (bench.fs.changeDirectory path)
    return (.node id, fs)
  | .here => bench.looked (.ok (.node bench.fs.cwd))
  | .parent node => bench.looked do return .node (bench.fs.forest.parentOf (← bench.node node))
  | .wellKnown role => bench.looked do return .node (← asked (bench.fs.wellKnown role))
  | .register role directory => bench.whole do
    return (.nothing, ← asked (bench.fs.register role (← bench.directory directory)))
  | .drop _ => bench.looked (.ok .nothing)
  | .list => bench.looked (.ok (.names (bench.fs.list.map bench.fs.forest.displayName)))
  | .sorted directory => bench.looked do
    let ids := bench.fs.forest.listing (← bench.directory directory)
    return .names (ids.map bench.fs.forest.displayName)
  | .keys directory => bench.looked do
    return .names (bench.fs.forest.childrenOf (← bench.directory directory)).names
  | .text node => bench.looked do return .text (bench.fs.forest.textOf (← bench.file node))
  | .write node text => bench.whole do
    return (.nothing, bench.fs.withForest (bench.fs.forest.write (← bench.file node) text))
  | .copy name destination =>
    match bench.directory destination with
    | .error error => bench.looked (.error error)
    | .ok destination =>
      let (outcome, fs) := bench.fs.copyInto name destination
      (asked (outcome.map .copied), fs)
  | .find name => bench.looked (.ok (.text (bench.fs.find name)))
  | .path node => bench.looked do return .text (bench.fs.forest.pathOf (← bench.node node))
  | .attached node => bench.looked do
    return .truth (bench.fs.forest.isAttached (← bench.node node))
  | .same first second => bench.looked do
    let a ← bench.node first
    let b ← bench.node second
    return .truth (a == b)
  | .describe node => bench.looked do return .text (bench.fs.forest.describe (← bench.node node))
  | .outline directory => bench.looked do return .outline (← bench.parent directory)

/-- What a step logs. -/
def records (bench : Workbench) (step : Step) :
    Except StepError Answer × FileSystem → List Log.Record
  | (.error (.refused error), _) => error.records
  | (.error .badReference, _) => []
  | (.ok _, fs) =>
    match step with
    | .changeDirectory _ => [fs.moveRecord bench.handles.values]
    | _ => []

/-- The handles that a step leaves before its answer is stored. -/
def handlesAfter (bench : Workbench) : Step → NameMap NodeId
  | .drop handle => bench.handles.erase handle
  | _ => bench.handles

/-- Lets go of what nothing keeps. -/
def settle (fs : FileSystem) (handles : NameMap NodeId) : Workbench :=
  ⟨fs.reclaim handles.values, handles⟩

/-- What running a step shows. -/
structure Outcome where
  answer : Except StepErrorView AnswerView
  records : List Log.Record

/-- **Runs a step**, and takes a handle on the node that it gives back, if one is asked for. -/
def run (bench : Workbench) (step : Step) (handle : Option String) : Outcome × Workbench :=
  let handles := bench.handlesAfter step
  let performed := bench.perform step
  let records := bench.records step performed
  match performed with
  | (.error error, fs) =>
    let shown := fs.reclaim (handles.values ++ error.nodes)
    (⟨.error (error.view shown.forest), records⟩, settle fs handles)
  | (.ok answer, fs) =>
    let handles := match handle, answer.result with
      | some name, some id => handles.insert name id
      | _, _ => handles
    let shown := fs.reclaim (handles.values ++ answer.nodes)
    (⟨.ok (answer.view shown.forest), records⟩, settle fs handles)

end Workbench

end StoryShell
