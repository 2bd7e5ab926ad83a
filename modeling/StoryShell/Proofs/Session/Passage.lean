/-
No spelling gets past the gate.

The gate and the tree look at the same argument in different ways: the gate takes the slashes at its
end off, unless there is nothing else, and the tree does so for `cd` only. What they find agrees all
the same when the line succeeds on a child of the current directory. For `cd` the path has to have
something besides slashes, for otherwise it leads to the root (`destination_of_child`). For `cat`
and `cp` the argument is the key of a node, up to case, and no name of a node has a slash; lower
case neither makes slashes nor takes them away.
-/
import StoryShell.Proofs.Gate.Verdict
import StoryShell.Proofs.Session.Lines
import StoryShell.Proofs.World.Decode

set_option autoImplicit false

namespace StoryShell

/-! ## The tree's side -/

namespace FileSystem

variable {ok : String → Prop} {fs : FileSystem}

/-- No directory is a child of itself. -/
theorem Grown.ne_cwd (hgrown : fs.Grown ok) {child : NodeId} (h : child ∈ fs.list) :
    child ≠ fs.cwd := by
  rintro rfl
  exact hgrown.sound.forest.acyclic _ (.single (hgrown.sound.forest.mem_listing_iff.1 h))

/-- **A path that leads to a child names it**, with more than slashes. -/
theorem destination_of_child (hgrown : fs.Grown ok) {path : String} {target : NodeId}
    (h : fs.destination path = .ok target) (hchild : target ∈ fs.list) :
    Text.slashless path ≠ "" ∧ fs.child? (Text.slashless path) = some target := by
  have hlies := hgrown.sound.forest.mem_listing_iff.1 hchild
  rcases destination_cases h with rfl | rfl | ⟨name, rfl, hne, -, -, hfound, -⟩
  · -- the root lies in no directory
    rw [hgrown.top] at hlies
    exact absurd hlies (by simp)
  · -- neither the parent of a directory nor the directory itself lies in it
    cases hparent : fs.forest.parentOf fs.cwd with
    | none =>
      rw [hparent] at hchild
      exact absurd rfl (hgrown.ne_cwd hchild)
    | some parent =>
      rw [hparent] at hlies
      exact absurd (.tail (.single hlies) hparent) (hgrown.sound.forest.acyclic parent)
  · exact ⟨hne, hfound⟩

end FileSystem

/-! ## Both sides -/

namespace Interpreter

variable {interpreter : Interpreter} {fs : FileSystem}

/-- **The pattern of a success on a child is that of the child's key.** -/
theorem Succeeds.lower_bareArgument (hgrown : fs.Grown Seed.IsName) {command : Command}
    {arguments : List String} {result : Result} {after : FileSystem}
    (h : interpreter.Succeeds fs command arguments result after) {target : NodeId}
    (htarget : result.target = some target) (hchild : target ∈ fs.list) :
    ∃ argument rest, arguments = argument :: rest
      ∧ Text.lower (Gate.bareArgument argument) = Text.lower (fs.forest.nameOf target) := by
  have hforest := hgrown.sound.forest
  have hname := hgrown.names (hforest.mem_listing_iff.1 hchild)
  -- the key of a node has no slash, so the gate finds it as the tree does
  have hfound : ∀ {argument : String}, fs.child? argument = some target →
      Text.lower (Gate.bareArgument argument) = Text.lower (fs.forest.nameOf target) := by
    intro argument hargument
    have hkey : Text.lower argument = Text.lower (fs.forest.nameOf target) :=
      (hforest.of_get? hargument).1
    have hbare : Text.slashless (Text.lower argument) = Text.lower argument := by
      rw [hkey]
      exact Text.slashless_of_not_mem (Text.slash_not_mem_lower hname.no_slash)
    rw [Gate.lower_bareArgument hbare, hkey]
  cases h with
  | echo | ls | pwd | find => exact absurd htarget (by simp [Result.success])
  | @cd path rest found hleads =>
    have hfoundTarget : found = target := Option.some.inj htarget
    rw [hfoundTarget] at hleads
    obtain ⟨hne, hpath⟩ := FileSystem.destination_of_child hgrown hleads hchild
    refine ⟨path, rest, rfl, ?_⟩
    -- both sides look up the path without its slashes
    rw [Gate.bareArgument_of_ne hne]
    exact (hforest.of_get? hpath).1
  | @cat name rest file hreads =>
    have hfile : file = target := Option.some.inj htarget
    rw [hfile] at hreads
    exact ⟨name, rest, rfl, hfound (FileSystem.readFile_eq_ok_iff.1 hreads).1⟩
  | @cp name destination copied _ hknown hcopy =>
    have hsource : copied.source = target := Option.some.inj htarget
    have hargument := (FileSystem.copyInto_ok hforest
      (hgrown.sound.isDirectory_wellKnown hknown) hcopy).1
    rw [hsource] at hargument
    exact ⟨name, [], rfl, hfound hargument⟩

/-- **Only `cd` moves**, and to where its first argument leads, which is its target. -/
theorem Succeeds.cwd (hsound : fs.Sound) {command : Command} {arguments : List String}
    {result : Result} {after : FileSystem}
    (h : interpreter.Succeeds fs command arguments result after) :
    after.cwd = fs.cwd
      ∨ command = .cd ∧ result.target = some after.cwd
        ∧ ∃ path rest, arguments = path :: rest ∧ fs.destination path = .ok after.cwd := by
  cases h with
  | echo | ls | cat | pwd | find => exact .inl rfl
  | cd hleads => exact .inr ⟨rfl, rfl, _, _, rfl, hleads⟩
  | @cp name destination copied _ hknown hcopy =>
    obtain ⟨-, ⟨-, rfl⟩ | hcopies⟩ :=
      FileSystem.copyInto_ok hsound.forest (hsound.isDirectory_wellKnown hknown) hcopy
    · exact .inl rfl
    · exact .inl hcopies.cwd

end Interpreter

namespace Session

variable {session after : Session}

/-- **A line that succeeds** has passed the gate, and is either blank for the interpreter or a
command that succeeds. -/
theorem succeeds_of_submit (hsound : session.fs.Sound) {raw : String} {result : Result}
    {happened : List Event} (h : session.submit raw = (some result, after, happened))
    (hsuccess : result.isError = false) :
    session.gate.verdict raw = .passed
      ∧ ((result = .blank ∧ after.fs = session.fs)
        ∨ ∃ command, Command.ofName? (Line.parse raw).command = some command
          ∧ session.interpreter.Succeeds session.fs command (Line.parse raw).arguments result
            after.fs) := by
  rcases submit_cases h with ⟨hverdict, -⟩ | ⟨hverdict, execution, hexecution, hresult, hafter⟩
  · -- what the gate refuses is an error
    rw [Gate.isError_of_refused hverdict] at hsuccess
    exact absurd hsuccess (by decide)
  · have hfs : after.fs = execution.fs := by
      rw [hafter, (publish_fixed _ _).1]
    have hcases := session.interpreter.execute_cases hsound session.scene.nodes raw
    rw [hexecution, hresult] at hcases
    refine ⟨hverdict, ?_⟩
    rw [hfs]
    rcases hcases with hblank | ⟨hfails, -⟩ | hsucceeds
    · exact .inl hblank
    · rw [hfails.isError] at hsuccess
      exact absurd hsuccess (by decide)
    · exact .inr hsucceeds

/-- **What a success on a child has passed**: its command is allowed, and neither the command nor
its pattern with the key of the child is blocked. -/
theorem passed_of_success (hgrown : session.Grown Seed.IsName) {raw : String} {result : Result}
    {happened : List Event} (h : session.submit raw = (some result, after, happened))
    (hsuccess : result.isError = false) {target : NodeId} (htarget : result.target = some target)
    (hchild : target ∈ session.fs.list) :
    result.command ∈ session.gate.allowed ∧ result.command ∉ session.gate.blocked
      ∧ result.command ++ " " ++ Text.lower (session.fs.forest.nameOf target)
        ∉ session.gate.blocked := by
  obtain ⟨hverdict, hcases⟩ := succeeds_of_submit hgrown.fs.sound h hsuccess
  obtain ⟨hallowed, hblocked, hpattern⟩ := Gate.of_passed hverdict
  rcases hcases with ⟨rfl, -⟩ | ⟨command, hcommand, hsucceeds⟩
  · exact absurd htarget (by simp [Result.blank])
  · obtain ⟨argument, rest, harguments, hkey⟩ :=
      hsucceeds.lower_bareArgument hgrown.fs htarget hchild
    rw [hsucceeds.command, Command.name_of_ofName? hcommand, ← hkey]
    exact ⟨hallowed, hblocked, hpattern argument rest harguments⟩

/-- **A line that moves** is a success of `cd`, on where its path leads. -/
theorem stays_or_success (hsound : session.fs.Sound)
    (hobservers : session.observers = [.console, .scene, .tracker]) (raw : String) :
    (session.submit raw).2.1.fs.cwd = session.fs.cwd
      ∨ ∃ result after happened path, session.submit raw = (some result, after, happened)
        ∧ result.isError = false ∧ result.command = "cd" ∧ result.target = some after.fs.cwd
        ∧ session.fs.destination path = .ok after.fs.cwd := by
  rcases hsubmit : session.submit raw with ⟨outcome, after, happened⟩
  cases outcome with
  | none => exact .inl (by rw [submit_of_blank hsubmit])
  | some result =>
    cases herror : result.isError with
    | true =>
      refine .inl ?_
      rw [submit_of_isError hsound hobservers hsubmit herror]
    | false =>
      rcases (succeeds_of_submit hsound hsubmit herror).2 with
        ⟨-, hfs⟩ | ⟨command, -, hsucceeds⟩
      · exact .inl (by rw [hfs])
      · -- of the commands that succeed, `cd` alone moves
        rcases hsucceeds.cwd hsound with hcwd | ⟨hcommand, htarget, path, rest, -, hleads⟩
        · exact .inl hcwd
        · refine .inr ⟨result, after, happened, path, rfl, herror, ?_, htarget, hleads⟩
          rw [hsucceeds.command, hcommand]
          rfl

/-- **Where a line leads**: it stays, or it moves to the root, one step up or down to a child. -/
theorem cwd_submit (hsound : session.fs.Sound)
    (hobservers : session.observers = [.console, .scene, .tracker]) (raw : String) :
    (session.submit raw).2.1.fs.cwd = session.fs.cwd
      ∨ (session.submit raw).2.1.fs.cwd = Forest.root
      ∨ session.fs.forest.parentOf session.fs.cwd = some (session.submit raw).2.1.fs.cwd
      ∨ (session.submit raw).2.1.fs.cwd ∈ session.fs.list := by
  rcases stays_or_success hsound hobservers raw with
    hstays | ⟨result, after, happened, path, hsubmit, -, -, -, hleads⟩
  · exact .inl hstays
  · rw [hsubmit]
    rcases FileSystem.destination_cases hleads with hroot | hup | ⟨name, -, -, -, -, hchild, -⟩
    · exact .inr (.inl hroot)
    · cases hparent : session.fs.forest.parentOf session.fs.cwd with
      | none =>
        rw [hparent] at hup
        exact .inl hup
      | some parent =>
        rw [hparent] at hup
        exact .inr (.inr (.inl (congrArg some hup.symm)))
    · exact .inr (.inr (.inr
        (hsound.forest.mem_listing_iff.2 (hsound.forest.of_get? hchild).2)))

/-- **A line that moves to a child** is a success of `cd` on it. -/
theorem success_of_move (hgrown : session.Grown Seed.IsName) {raw : String} {child : NodeId}
    (hchild : child ∈ session.fs.list) (hmove : (session.submit raw).2.1.fs.cwd = child) :
    ∃ result after happened, session.submit raw = (some result, after, happened)
      ∧ result.isError = false ∧ result.command = "cd" ∧ result.target = some child := by
  rcases stays_or_success hgrown.fs.sound hgrown.observers raw with
    hstays | ⟨result, after, happened, path, hsubmit, hsuccess, hcommand, htarget, -⟩
  · exact absurd (hmove.symm.trans hstays) (hgrown.fs.ne_cwd hchild)
  · rw [hsubmit] at hmove
    rw [hmove] at htarget
    exact ⟨result, after, happened, hsubmit, hsuccess, hcommand, htarget⟩

/-- **The gate holds against every spelling**, in every session that a world which was read comes
to. A success on a child of the current directory had an allowed command, and neither the command
nor its pattern with the key of the child was blocked. While `cd` with a key is blocked, no line
whatever moves to a child with this key. -/
theorem gate_holds {json : Json} {world : World} {everythingOpen : Bool} {first session : Session}
    {events : List Event} (hread : World.decode json = .ok world)
    (hstart : ofWorld world everythingOpen = .ok (first, events))
    (hreach : first.Reaches session) :
    (∀ raw result after happened target, session.submit raw = (some result, after, happened) →
        result.isError = false → result.target = some target → target ∈ session.fs.list →
        result.command ∈ session.gate.allowed ∧ result.command ∉ session.gate.blocked
          ∧ result.command ++ " " ++ Text.lower (session.fs.forest.nameOf target)
            ∉ session.gate.blocked)
      ∧ ∀ key, "cd " ++ key ∈ session.gate.blocked → ∀ raw, ∀ child ∈ session.fs.list,
        Text.lower (session.fs.forest.nameOf child) = key →
          (session.submit raw).2.1.fs.cwd ≠ child := by
  have hfirst : first.Grown Seed.IsName := grown_ofWorld (World.allNames_of_decode hread) hstart
  have hgrown := hreach.grown hfirst
  refine ⟨fun raw result after happened target hline hsuccess htarget hchild =>
    passed_of_success hgrown hline hsuccess htarget hchild, ?_⟩
  -- such a move would be a success of `cd`, whose pattern was not blocked
  rintro _ hblocked raw child hchild rfl hmove
  obtain ⟨result, after, happened, hline, hsuccess, hcommand, htarget⟩ :=
    success_of_move hgrown hchild hmove
  obtain ⟨-, -, hpattern⟩ := passed_of_success hgrown hline hsuccess htarget hchild
  rw [hcommand] at hpattern
  exact hpattern hblocked

/-- A directory that is entered under another spelling, beside one that is blocked. -/
theorem gate_holds_beside_vault :
    let json : Json := .object [("id", .string "w"), ("allowed_commands", .array [.string "cd"]),
      ("blocked_commands", .array [.string "cd vault"]),
      ("tree", .array [.object [("name", .string "Home"), ("type", .string "directory")],
        .object [("name", .string "Vault"), ("type", .string "directory")]])]
    ∃ (world : World) (first : Session) (events : List Event),
      World.decode json = .ok world ∧ ofWorld world false = .ok (first, events)
        ∧ (∃ result after happened, first.submit "CD  HOME//" = (some result, after, happened)
          ∧ result.isError = false ∧ result.target = some 1 ∧ 1 ∈ first.fs.list
          ∧ result.command ∈ first.gate.allowed ∧ result.command ∉ first.gate.blocked
          ∧ result.command ++ " " ++ Text.lower (first.fs.forest.nameOf 1) ∉ first.gate.blocked)
        ∧ "cd vault" ∈ first.gate.blocked ∧ 2 ∈ first.fs.list
        ∧ Text.lower (first.fs.forest.nameOf 2) = "vault"
        ∧ (first.submit "cd VAULT/").2.1.fs.cwd ≠ 2 := by
  intro json
  -- everything that has to be computed is computed here, the rest is the theorem
  have hrun : (World.decode json).toOption.bind (fun world =>
      (ofWorld world false).toOption.map fun start =>
        ((start.1.submit "CD  HOME//").1.map fun result => (result.isError, result.target),
          start.1.fs.list, decide ("cd vault" ∈ start.1.gate.blocked),
          Text.lower (start.1.fs.forest.nameOf 2)))
      = some (some (false, some 1), [1, 2], true, "vault") := by decide +kernel
  obtain ⟨world, hworld, hrun⟩ := Option.bind_eq_some_iff.1 hrun
  obtain ⟨start, hstart, hrun⟩ := Option.map_eq_some_iff.1 hrun
  have hdecode := ok_of_toOption hworld
  have hof := ok_of_toOption hstart
  obtain ⟨hline, hlist, hvault, hkey⟩ : (start.1.submit "CD  HOME//").1.map (fun result =>
      (result.isError, result.target)) = some (false, some 1) ∧ start.1.fs.list = [1, 2]
      ∧ "cd vault" ∈ start.1.gate.blocked
      ∧ Text.lower (start.1.fs.forest.nameOf 2) = "vault" := by
    simpa only [Prod.mk.injEq, decide_eq_true_eq] using hrun
  obtain ⟨hpassed, hheld⟩ := gate_holds hdecode hof (.start : start.1.Reaches start.1)
  rcases hsubmit : start.1.submit "CD  HOME//" with ⟨outcome, after, happened⟩
  rw [hsubmit] at hline
  obtain ⟨result, rfl, hresult⟩ := Option.map_eq_some_iff.1 hline
  obtain ⟨hsuccess, htarget⟩ := Prod.mk.inj hresult
  have hhome : 1 ∈ start.1.fs.list := by rw [hlist]; decide
  have hchild : 2 ∈ start.1.fs.list := by rw [hlist]; decide
  exact ⟨world, start.1, start.2, hdecode, hof,
    ⟨result, after, happened, hsubmit, hsuccess, htarget, hhome,
      hpassed _ _ _ _ _ hsubmit hsuccess htarget hhome⟩, hvault, hchild, hkey,
    hheld "vault" hvault "cd VAULT/" 2 hchild hkey⟩

end Session

end StoryShell
