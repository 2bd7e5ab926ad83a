/-
Walking to a directory.

A name leads `cd` down to the child that has it if it is a word, has no slash at its end, and is
neither of the two names with a meaning of their own (`Enterable`, `destination_of_child?`). So
from the root the names on the way to a directory lead to it, one line each (`wayTo`, `fs_wayTo`).
This is the same whether lines are submitted or carried out directly: all that is asked of the
sending of lines is that moves are made (`Moves`), and that whatever they need is there after each
of them.
-/
import StoryShell.Proofs.Session.History
import StoryShell.Proofs.Tree.Moves
import StoryShell.Proofs.World.Decode

set_option autoImplicit false

namespace StoryShell

/-- **A name by which a directory can be entered**: it has no blanks, and no meaning of its own. -/
structure Enterable (name : String) : Prop where
  not_blank : ∀ c ∈ name.toList, Text.isBlank c = false
  ne_up : name ≠ ".."
  ne_home : name ≠ "~"

instance (name : String) : Decidable (Enterable name) :=
  decidable_of_iff ((name.toList.all fun c => !Text.isBlank c) = true ∧ name ≠ ".." ∧ name ≠ "~")
    ⟨fun ⟨hall, hup, hhome⟩ => ⟨by simpa using hall, hup, hhome⟩,
      fun h => ⟨by simpa using h.not_blank, h.ne_up, h.ne_home⟩⟩

/-- A name that is not empty and can be entered by is a word. -/
theorem Enterable.isWord {name : String} (h : Enterable name) (hname : Seed.IsName name) :
    Text.IsWord name :=
  ⟨hname.ne_empty, h.not_blank⟩

namespace FileSystem

variable {fs : FileSystem}

/-- A name that can be entered by is a name for a child. -/
theorem IsChildName.of_enterable {name : String} (hname : Seed.IsName name)
    (henter : Enterable name) : IsChildName name :=
  ⟨hname, henter.ne_up, henter.ne_home⟩

/-- **A name leads to the child directory that has it**, unless it has a meaning of its own. -/
theorem destination_of_child? {name : String} {id : NodeId} (hname : Seed.IsName name)
    (henter : Enterable name) (hchild : fs.child? name = some id)
    (hdirectory : fs.forest.isDirectory id = true) : fs.destination name = .ok id := by
  have hchildName : IsChildName name := .of_enterable hname henter
  rw [destination_of_namesChild hchildName.namesChild, hchildName.slashless, hchild]
  exact if_pos hdirectory

end FileSystem

/-- What names lead to a directory through is a directory. -/
theorem Forest.isDirectory_of_foldlM {forest : Forest} {start id : NodeId} {names : List String}
    (h : names.foldlM forest.child? start = some id) (hid : forest.isDirectory id = true) :
    forest.isDirectory start = true := by
  cases names with
  | nil =>
    have hsame : start = id := by simpa using h
    rwa [hsame]
  | cons name rest =>
    rw [List.foldlM_cons] at h
    obtain ⟨next, hnext, -⟩ := Option.bind_eq_some_iff.1 h
    exact isDirectory_of_get? hnext

/-- The line of a command and an argument. -/
def Command.line (command : Command) (argument : String) : String :=
  command.name ++ " " ++ argument

/-- **The line of a command and an argument** is read back as such. -/
theorem Command.parse_line (command : Command) {argument : String} (h : Text.IsWord argument) :
    Line.parse (command.line argument) = ⟨command.name, [argument]⟩ := by
  refine Line.parse_pair ?_ h
  cases command <;> decide +kernel

/-- The name of a command is in lower case. -/
theorem Command.lower_name (command : Command) : Text.lower command.name = command.name := by
  cases command <;> decide +kernel

theorem Command.ofName?_name (command : Command) : ofName? command.name = some command := by
  cases command <;> rfl

namespace Session

variable {session : Session}

/-- **A line whose command can succeed** comes to that success when it is carried out past the gate,
and the success is published. -/
theorem direct_line (houtages : session.interpreter.outages = []) {command : Command}
    {argument : String} (hargument : Text.IsWord argument) {result : Result} {after : FileSystem}
    (h : session.interpreter.Succeeds session.fs command [argument] result after) :
    (session.direct (command.line argument)).1 = result
      ∧ (session.direct (command.line argument)).2.1
        = ({ session with fs := after }.publish result).1 := by
  have hline := command.parse_line hargument
  have hcommand : Command.ofName? (Line.parse (command.line argument)).command = some command := by
    rw [hline, Line.command, Command.lower_name, Command.ofName?_name]
  have harguments : (Line.parse (command.line argument)).arguments = [argument] := by rw [hline]
  rw [← harguments] at h
  obtain ⟨hresult, hfs⟩ :=
    Interpreter.execute_of_succeeds houtages session.scene.nodes hcommand h
  simp only [direct, execute, hresult, hfs]
  exact ⟨trivial, trivial⟩

/-! ## Walks -/

/-- **Moves are made** by sending lines: a line of `cd` and a path of some sort moves to where the
path leads and leaves the rest of the file system, and after it moves are still made. -/
structure Moves (send : Session → String → Session) (ready : Session → Prop)
    (sort : String → Prop) : Prop where
  fs : ∀ {session path target}, ready session → sort path →
    session.fs.destination path = .ok target →
      (send session (Command.cd.line path)).fs = { session.fs with cwd := target }
  ready : ∀ {session path}, ready session → ready (send session (Command.cd.line path))

/-- The lines that lead from the root along names. -/
def wayTo (names : List String) : List String :=
  Command.cd.line "/" :: names.map Command.cd.line

variable {send : Session → String → Session} {ready : Session → Prop} {sort : String → Prop}

/-- **A walk down** along the names of directories. -/
theorem Moves.down (h : Moves send ready sort) {names : List String} {id : NodeId}
    (hready : ready session)
    (hnames : ∀ name ∈ names, sort name ∧ Seed.IsName name ∧ Enterable name)
    (hleads : names.foldlM session.fs.forest.child? session.fs.cwd = some id)
    (hid : session.fs.forest.isDirectory id = true) :
    ((names.map Command.cd.line).foldl send session).fs = { session.fs with cwd := id }
      ∧ ready ((names.map Command.cd.line).foldl send session) := by
  induction names generalizing session with
  | nil =>
    have hcwd : session.fs.cwd = id := by simpa using hleads
    rw [← hcwd]
    exact ⟨rfl, hready⟩
  | cons name rest ih =>
    rw [List.foldlM_cons] at hleads
    obtain ⟨next, hnext, hrest⟩ := Option.bind_eq_some_iff.1 hleads
    obtain ⟨⟨hsort, hname, henter⟩, hothers⟩ := List.forall_mem_cons.1 hnames
    have hdirectory := Forest.isDirectory_of_foldlM hrest hid
    have hmoved := h.fs hready hsort
      (FileSystem.destination_of_child? hname henter hnext hdirectory)
    -- the forest is the same after the step
    have hleads' : rest.foldlM (send session (Command.cd.line name)).fs.forest.child?
        (send session (Command.cd.line name)).fs.cwd = some id := by
      rw [hmoved]
      exact hrest
    have hlater := ih (h.ready hready) hothers hleads' (by rw [hmoved]; exact hid)
    rw [hmoved] at hlater
    exact hlater

/-- **The way to a directory** leads there, wherever it is begun. -/
theorem Moves.fs_wayTo (h : Moves send ready sort) {names : List String} {id : NodeId}
    (hready : ready session) (hslash : sort "/")
    (hnames : ∀ name ∈ names, sort name ∧ Seed.IsName name ∧ Enterable name)
    (hleads : names.foldlM session.fs.forest.child? Forest.root = some id)
    (hid : session.fs.forest.isDirectory id = true) :
    ((wayTo names).foldl send session).fs = { session.fs with cwd := id }
      ∧ ready ((wayTo names).foldl send session) := by
  have hmoved := h.fs hready hslash FileSystem.destination_slash
  have hleads' : names.foldlM (send session (Command.cd.line "/")).fs.forest.child?
      (send session (Command.cd.line "/")).fs.cwd = some id := by
    rw [hmoved]
    exact hleads
  have hwalk := h.down (h.ready hready) hnames hleads' (by rw [hmoved]; exact hid)
  rw [hmoved] at hwalk
  exact hwalk

end Session

end StoryShell
