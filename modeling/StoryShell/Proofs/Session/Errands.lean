/-
Errands: how milestones can be achieved from anywhere.

An errand is a line for a milestone, to be submitted in a certain directory on something that lies
there. Whether it can be run is told by the world and by the file system of the start alone
(`Errand.Ready`): what it needs is in directories that no line changes, and the gate lets it pass,
together with the moves on the way, once certain milestones are achieved. So from any session that
the world comes to, in which those are achieved, an errand achieves its milestone (`Errand.run`),
and errands that are ready in turn can be run one after the other (`Errand.run_all`). Nothing that
was done before can be in the way: copies go into one directory, where they find at most files in
their way.
-/
import StoryShell.Proofs.Session.Paths
import StoryShell.Proofs.Session.Unlocking
import StoryShell.Proofs.Session.Walks
import StoryShell.Proofs.Tree.Counterpart

set_option autoImplicit false

namespace StoryShell

/-! ## The gate, once milestones are achieved -/

namespace World

/-- Whether a command is allowed once some milestones are achieved. -/
def Allows (world : World) (done : List String) (command : String) : Prop :=
  command ∈ (Gate.ofLists world.allowed world.blocked).allowed
    ∨ ∃ milestone ∈ world.milestones, milestone.id ∈ done
      ∧ command ∈ Gate.entriesOf milestone.unlocks

/-- Whether an entry is blocked although some milestones are achieved. -/
def Blocks (world : World) (done : List String) (entry : String) : Prop :=
  entry ∈ (Gate.ofLists world.allowed world.blocked).blocked
    ∧ ∀ milestone ∈ world.milestones, milestone.id ∈ done →
      entry ∉ Gate.entriesOf milestone.unblocks

instance (world : World) (done : List String) (command : String) :
    Decidable (world.Allows done command) :=
  inferInstanceAs (Decidable (_ ∨ _))

instance (world : World) (done : List String) (entry : String) :
    Decidable (world.Blocks done entry) :=
  inferInstanceAs (Decidable (_ ∧ _))

/-- **A command with an argument passes the gate** once some milestones are achieved. -/
structure Passes (world : World) (done : List String) (command : Command) (argument : String) :
    Prop where
  word : Text.IsWord argument
  allowed : world.Allows done command.name
  free : ¬ world.Blocks done command.name
  freePattern : ¬ world.Blocks done (Gate.pattern command.name argument)

instance (world : World) (done : List String) (command : Command) (argument : String) :
    Decidable (world.Passes done command argument) :=
  decidable_of_iff (Text.IsWord argument ∧ world.Allows done command.name
      ∧ ¬ world.Blocks done command.name ∧ ¬ world.Blocks done (Gate.pattern command.name argument))
    ⟨fun ⟨hword, hallowed, hfree, hpattern⟩ => ⟨hword, hallowed, hfree, hpattern⟩,
      fun h => ⟨h.word, h.allowed, h.free, h.freePattern⟩⟩

/-- **Whether a walk passes**: from the root along names, once some milestones are achieved. -/
def WalkPasses (world : World) (done names : List String) : Prop :=
  world.Passes done .cd "/" ∧ ∀ name ∈ names, Enterable name ∧ world.Passes done .cd name

instance (world : World) (done names : List String) : Decidable (world.WalkPasses done names) :=
  inferInstanceAs (Decidable (_ ∧ _))

end World

/-- **A line of a command and an argument passes** if the command is allowed, and neither it nor the
pattern is blocked. -/
theorem Gate.verdict_line {gate : Gate} {command : Command} {argument : String}
    (hword : Text.IsWord argument) (hallowed : command.name ∈ gate.allowed)
    (hfree : command.name ∉ gate.blocked)
    (hpattern : Gate.pattern command.name argument ∉ gate.blocked) :
    gate.verdict (command.line argument) = .passed := by
  have hline := command.parse_line hword
  have htrim : Text.trim (command.line argument) ≠ "" := by
    rw [ne_eq, Text.trim_eq_empty_iff, ← Line.command_eq_empty_iff, hline, Line.command,
      Command.lower_name]
    cases command <;> decide
  rw [verdict, if_neg htrim]
  simp [hline, Line.command, Command.lower_name, stopsArgument, hfree, hpattern, hallowed]

namespace Session

variable {world : World} {first session after : Session} {history : List Turn}
  {done : List String}

/-- **What passes once milestones are achieved** passes in a session in which they are. -/
theorem InStory.passed (h : session.InStory world)
    (hdone : ∀ id ∈ done, id ∈ session.progress.achieved) {command : Command}
    {argument : String} (hpasses : world.Passes done command argument) :
    session.gate.verdict (command.line argument) = .passed := by
  have hfree : ∀ {entry}, ¬ world.Blocks done entry → entry ∉ session.gate.blocked := by
    intro entry hentry hmem
    obtain ⟨hstart, hnone⟩ := (h.fits.blocked entry).1 hmem
    exact hentry ⟨hstart, fun milestone hmilestone hid =>
      hnone milestone hmilestone (hdone _ hid)⟩
  have hallowed : command.name ∈ session.gate.allowed := by
    refine (h.fits.allowed command.name).2 (hpasses.allowed.imp_right ?_)
    rintro ⟨milestone, hmilestone, hid, hunlocks⟩
    exact ⟨milestone, hmilestone, hdone _ hid, hunlocks⟩
  exact Gate.verdict_line hpasses.word hallowed (hfree hpasses.free) (hfree hpasses.freePattern)

/-- **A line that passes and whose command can succeed** comes to that success, and it is
published. -/
theorem submit_line (houtages : session.interpreter.outages = []) {command : Command}
    {argument : String} (hargument : Text.IsWord argument)
    (hpassed : session.gate.verdict (command.line argument) = .passed) {result : Result}
    {fs : FileSystem} (h : session.interpreter.Succeeds session.fs command [argument] result fs) :
    (session.submit (command.line argument)).2.1 = ({ session with fs }.publish result).1 := by
  have hdirect := (direct_line houtages hargument h).2
  rw [← hdirect]
  simp only [submit, hpassed]

/-! ## Sessions in which milestones are achieved -/

/-- **A session that another one comes to**, with some milestones achieved. -/
structure HasDone (first : Session) (done : List String) (session : Session) : Prop where
  runs : ∃ history, first.Runs history session
  achieved : ∀ id ∈ done, id ∈ session.progress.achieved

variable {events : List Event}

/-- What is achieved stays so after a line. -/
theorem HasDone.submit (hstart : ofWorld world false = .ok (first, events))
    (h : first.HasDone done session) (raw : String) :
    first.HasDone done (session.submit raw).2.1 := by
  obtain ⟨history, hruns⟩ := h.runs
  refine ⟨⟨_, hruns.line raw⟩, fun id hid => ?_⟩
  exact mem_achieved_submit (hruns.grown (grown_of_ofWorld hstart)) (h.achieved id hid) raw

/-- **Moves are made through the gate** along paths that pass. -/
theorem moves_submit (hvalid : Milestone.Valid world.milestones)
    (hstart : ofWorld world false = .ok (first, events)) :
    Moves (fun session raw => (session.submit raw).2.1) (first.HasDone done)
      (world.Passes done .cd) where
  fs := by
    intro session path target hready hpasses hleads
    obtain ⟨history, hruns⟩ := hready.runs
    have hpassed := (hruns.inStory hvalid hstart).passed hready.achieved hpasses
    rw [submit_line (hruns.no_outages hstart) hpasses.word hpassed (Interpreter.Succeeds.cd hleads)]
    exact (publish_fixed _ _).1
  ready := fun hready => hready.submit hstart _

/-- **A walk to a directory** that the gate lets pass. -/
theorem HasDone.walk (hnames : Seed.AllNames Seed.IsName world.seeds)
    (hvalid : Milestone.Valid world.milestones)
    (hstart : ofWorld world false = .ok (first, events)) (h : first.HasDone done session)
    {place : NodeId} (hplace : first.fs.forest.isDirectory place = true)
    (hway : world.WalkPasses done (first.fs.forest.segments place)) :
    ∃ lines, first.HasDone done (session.submitAll lines).2
      ∧ (session.submitAll lines).2.fs.cwd = place := by
  obtain ⟨history, hruns⟩ := h.runs
  have hfirst : first.Grown Seed.IsName := grown_ofWorld hnames hstart
  have hgrown := (hruns.grown hfirst).fs
  have hframed := (hruns.framed hstart).forest
  have htree := hframed.inTree hfirst.fs.sound.forest (isTree_of_ofWorld hstart) hplace
  -- the names on the way are those of the start
  have hsegments := segments_of_isDirectory hstart hruns hplace
  have hwords : ∀ name ∈ first.fs.forest.segments place,
      world.Passes done .cd name ∧ Seed.IsName name ∧ Enterable name := by
    intro name hname
    obtain ⟨henter, hpasses⟩ := hway.2 name hname
    rw [← hsegments] at hname
    exact ⟨hpasses, hgrown.isName_of_mem_segments htree name hname, henter⟩
  have hleads := Forest.foldlM_segments hgrown.sound.forest hgrown.top htree
  rw [hsegments] at hleads
  have hwalk := (moves_submit hvalid hstart).fs_wayTo h hway.1 hwords hleads
    ((hframed.isDirectory place).trans hplace)
  refine ⟨wayTo (first.fs.forest.segments place), ?_, ?_⟩
  · rw [session_submitAll]
    exact hwalk.2
  · rw [session_submitAll, hwalk.1]

end Session

/-! ## Errands -/

/-- **An errand**: a command with an argument that is run in a directory, on what lies there under
the argument, for a milestone. -/
structure Errand where
  place : NodeId
  command : Command
  argument : String
  target : NodeId
  milestone : Milestone

namespace Errand

/-- The result of an errand, but for its text. -/
def result (errand : Errand) : Result :=
  .success errand.command.name "" [] (some errand.target)

/-- What an errand asks of the nodes: `cd` wants a directory, `cat` and `cp` a file, and `cp` needs
a directory to copy to in which nothing but files can be in the way. -/
def Suits (fs : FileSystem) (errand : Errand) : Prop :=
  match errand.command with
  | .cd => Seed.IsName errand.argument ∧ Enterable errand.argument
    ∧ fs.forest.isDirectory errand.target = true
  | .cat => fs.forest.isDirectory errand.target = false
  | .cp => fs.forest.isDirectory errand.target = false
    ∧ ∃ bin ∈ fs.roles.get? "bin", ∀ child ∈ fs.forest.listing bin,
      fs.forest.isDirectory child = false
  | _ => False

/-- **An errand that is ready once some milestones are achieved**: it can be walked to and run, it
is due for its milestone, and its result is for no other one. -/
structure Ready (world : World) (fs : FileSystem) (done : List String) (errand : Errand) :
    Prop where
  place : fs.forest.isDirectory errand.place = true
  away : fs.roles.get? "bin" ≠ some errand.place
  lies : fs.forest.child? errand.place errand.argument = some errand.target
  suits : errand.Suits fs
  way : world.WalkPasses done (fs.forest.segments errand.place)
  passes : world.Passes done errand.command errand.argument
  known : errand.milestone ∈ world.milestones
  required : ∀ id ∈ errand.milestone.requires, id ∈ done
  triggers : errand.milestone.isTriggeredBy fs.forest errand.result = true
  alone : ∀ milestone ∈ world.milestones,
    milestone.isTriggeredBy fs.forest errand.result = true → milestone = errand.milestone

instance (fs : FileSystem) (errand : Errand) : Decidable (errand.Suits fs) :=
  match hcommand : errand.command with
  | .cd => decidable_of_iff (_ ∧ _ ∧ _) (by rw [Suits, hcommand])
  | .cat => decidable_of_iff (_ = _) (by rw [Suits, hcommand])
  | .cp => decidable_of_iff (_ ∧ _) (by rw [Suits, hcommand])
  | .echo | .find | .ls | .pwd => .isFalse (by simp [Suits, hcommand])

instance (world : World) (fs : FileSystem) (done : List String) (errand : Errand) :
    Decidable (errand.Ready world fs done) :=
  decidable_of_iff (fs.forest.isDirectory errand.place = true
      ∧ fs.roles.get? "bin" ≠ some errand.place
      ∧ fs.forest.child? errand.place errand.argument = some errand.target
      ∧ errand.Suits fs
      ∧ world.WalkPasses done (fs.forest.segments errand.place)
      ∧ world.Passes done errand.command errand.argument
      ∧ errand.milestone ∈ world.milestones
      ∧ (∀ id ∈ errand.milestone.requires, id ∈ done)
      ∧ errand.milestone.isTriggeredBy fs.forest errand.result = true
      ∧ ∀ milestone ∈ world.milestones,
        milestone.isTriggeredBy fs.forest errand.result = true → milestone = errand.milestone)
    ⟨fun ⟨hplace, haway, hlies, hsuits, hway, hpasses, hknown, hrequired, htriggers, halone⟩ =>
        ⟨hplace, haway, hlies, hsuits, hway, hpasses, hknown, hrequired, htriggers, halone⟩,
      fun h => ⟨h.place, h.away, h.lies, h.suits, h.way, h.passes, h.known, h.required, h.triggers,
        h.alone⟩⟩

/-- **Errands that are ready in turn**, each after those before it. -/
def InTurn (world : World) (fs : FileSystem) : List String → List Errand → Prop
  | _, [] => True
  | done, errand :: rest =>
    errand.Ready world fs done ∧ InTurn world fs (errand.milestone.id :: done) rest

instance decidableInTurn (world : World) (fs : FileSystem) :
    ∀ (done : List String) (errands : List Errand), Decidable (InTurn world fs done errands)
  | _, [] => .isTrue trivial
  | done, errand :: rest =>
    have := decidableInTurn world fs (errand.milestone.id :: done) rest
    inferInstanceAs (Decidable (_ ∧ _))

variable {world : World} {first session : Session} {history : List Turn} {done : List String}
  {events : List Event} {errand : Errand}

/-- **An errand succeeds** where it is run, whatever was copied before. -/
theorem succeeds (hstart : Session.ofWorld world false = .ok (first, events))
    (hruns : first.Runs history session) (h : errand.Ready world first.fs done)
    (hcwd : session.fs.cwd = errand.place) :
    ∃ result fs, session.interpreter.Succeeds session.fs errand.command [errand.argument] result fs
      ∧ result.target = some errand.target := by
  have hfirst := (Session.grown_of_ofWorld hstart).fs.sound
  have hsound := (hruns.grown (Session.grown_of_ofWorld hstart)).fs.sound
  have hframed := hruns.framed hstart
  have hchild : session.fs.child? errand.argument = some errand.target := by
    rw [FileSystem.child?, hcwd, hframed.forest.child? h.place h.away, h.lies]
  have hkind := hframed.forest.isDirectory errand.target
  have hsuits := h.suits
  rw [Suits] at hsuits
  split at hsuits
  · rename_i hcommand
    obtain ⟨hname, henter, hdirectory⟩ := hsuits
    rw [hcommand]
    exact ⟨_, _, .cd (FileSystem.destination_of_child? hname henter hchild
      (hkind.trans hdirectory)), rfl⟩
  · rename_i hcommand
    rw [hcommand]
    exact ⟨_, _, .cat (FileSystem.readFile_eq_ok_iff.2 ⟨hchild, hkind.trans hsuits⟩), rfl⟩
  · rename_i hcommand
    obtain ⟨hfile, bin, hbin, hfiles⟩ := hsuits
    have hknown : session.fs.wellKnown session.interpreter.copyRole = .ok bin := by
      rw [hframed.interpreter]
      exact (Session.wellKnown_bin hstart hruns).2 hbin
    obtain ⟨copied, after, hcopy, hfrom⟩ := FileSystem.copyInto_of_files hsound.forest
      (hsound.isDirectory_wellKnown hknown) (FileSystem.wellKnown_eq_ok_iff.1 hknown).2 hchild
      (hkind.trans hfile)
      (fun hholder => hframed.forest.file_of_child? hfirst.forest hsound.forest hfiles hholder)
    rw [hcommand]
    exact ⟨_, _, .cp hknown hcopy, congrArg some hfrom⟩
  · exact absurd hsuits id

/-- **What the result of an errand triggers** is told by the file system of the start, in every
session that the world comes to. -/
theorem isTriggeredBy_eq (hstart : Session.ofWorld world false = .ok (first, events))
    (hruns : first.Runs history session) (h : errand.Ready world first.fs done) {result : Result}
    (hcommand : result.command = errand.command.name) (hsuccess : result.isError = false)
    (htarget : result.target = some errand.target) (milestone : Milestone) :
    milestone.isTriggeredBy session.fs.forest result
      = milestone.isTriggeredBy first.fs.forest errand.result := by
  have hgrown := Session.grown_of_ofWorld hstart
  have hframed := (hruns.framed hstart).forest
  have hsound := (hruns.grown hgrown).fs.sound.forest
  -- the target has its name and lies where it lay
  obtain ⟨hthere, hstill, hname⟩ :=
    hframed.of_child? hgrown.fs.sound.forest hsound h.place h.away h.lies
  have hplace : (session.fs.forest.parentOf errand.target).map session.fs.forest.nameOf
      = (first.fs.forest.parentOf errand.target).map first.fs.forest.nameOf := by
    rw [hstill, hthere, Option.map_some, Option.map_some, hframed.nameOf _ h.place]
  have hsame : result.place session.fs.forest = errand.result.place first.fs.forest := by
    simp only [Result.place, Errand.result, Result.success, htarget, hcommand, hname, hplace]
    rfl
  rw [Milestone.isTriggeredBy, Milestone.isTriggeredBy, hsame, hcommand, hsuccess, htarget,
    Option.map_some, hname]
  rfl

/-- **An errand achieves its milestone** in the place where it is run. -/
theorem achieves (hvalid : Milestone.Valid world.milestones)
    (hstart : Session.ofWorld world false = .ok (first, events))
    (hsession : first.HasDone done session) (h : errand.Ready world first.fs done)
    (hcwd : session.fs.cwd = errand.place) :
    first.HasDone (errand.milestone.id :: done)
      (session.submit (errand.command.line errand.argument)).2.1 := by
  have hafter := hsession.submit hstart (errand.command.line errand.argument)
  refine ⟨hafter.runs, List.forall_mem_cons.2 ⟨?_, hafter.achieved⟩⟩
  obtain ⟨history, hruns⟩ := hsession.runs
  obtain ⟨turns, hturns⟩ := hafter.runs
  have hstory := hruns.inStory hvalid hstart
  obtain ⟨result, fs, hsucceeds, htarget⟩ := succeeds hstart hruns h hcwd
  have hsubmit := Session.submit_line (hruns.no_outages hstart) h.passes.word
    (hstory.passed hsession.achieved h.passes) hsucceeds
  have hobservers : ({ session with fs } : Session).observers = [.console, .scene, .tracker] :=
    (hruns.grown (Session.grown_of_ofWorld hstart)).observers
  -- the forest that the tracker sees is that of the session after the line
  have hfs : (session.submit (errand.command.line errand.argument)).2.1.fs = fs := by
    rw [hsubmit]
    exact (Session.publish_fixed _ _).1
  have htriggers : ∀ milestone : Milestone, milestone.isTriggeredBy fs.forest result
      = milestone.isTriggeredBy first.fs.forest errand.result := by
    rw [← hfs]
    exact isTriggeredBy_eq hstart hturns h hsucceeds.command hsucceeds.isError htarget
  have hmem : errand.milestone.id
      ∈ (session.tracker.handle session.progress fs.forest result).2.progress.achieved := by
    refine Tracker.mem_achieved_handle ?_ ?_ ((htriggers _).trans h.triggers) ?_
    · rw [hstory.tracker]
      exact h.known
    · exact fun required hrequired => hsession.achieved _ (h.required required hrequired)
    · intro milestone hmilestone htriggered
      rw [hstory.tracker] at hmilestone
      exact h.alone milestone hmilestone ((htriggers milestone).symm.trans htriggered)
  rw [hsubmit, Session.publish_of_observers result hobservers]
  exact hmem

/-- **An errand that is ready can be run from anywhere**: there are lines that achieve its
milestone. -/
theorem run (hnames : Seed.AllNames Seed.IsName world.seeds)
    (hvalid : Milestone.Valid world.milestones)
    (hstart : Session.ofWorld world false = .ok (first, events))
    (hsession : first.HasDone done session) (h : errand.Ready world first.fs done) :
    ∃ lines, first.HasDone (errand.milestone.id :: done) (session.submitAll lines).2 := by
  obtain ⟨walk, hwalked, hcwd⟩ := hsession.walk hnames hvalid hstart h.place h.way
  refine ⟨walk ++ [errand.command.line errand.argument], ?_⟩
  rw [Session.session_submitAll_append, Session.session_submitAll_cons,
    Session.session_submitAll_nil]
  exact achieves hvalid hstart hwalked h hcwd

/-- **Errands that are ready in turn can be run from anywhere**, one after the other. -/
theorem run_all (hnames : Seed.AllNames Seed.IsName world.seeds)
    (hvalid : Milestone.Valid world.milestones)
    (hstart : Session.ofWorld world false = .ok (first, events)) {errands : List Errand}
    (hsession : first.HasDone done session) (h : InTurn world first.fs done errands) :
    ∃ lines, first.HasDone ((errands.map (·.milestone.id)).reverse ++ done)
      (session.submitAll lines).2 := by
  induction errands generalizing done session with
  | nil => exact ⟨[], hsession⟩
  | cons errand rest ih =>
    obtain ⟨hready, hothers⟩ := h
    obtain ⟨lines, hdone⟩ := run hnames hvalid hstart hsession hready
    obtain ⟨more, hall⟩ := ih hdone hothers
    refine ⟨lines ++ more, ?_⟩
    rw [Session.session_submitAll_append, List.map_cons, List.reverse_cons, List.append_assoc]
    exact hall

end Errand

end StoryShell
