/-
Lines on file systems that are the same but for the numbers of their nodes.

A command does on the one file system what it does on the other: both come to an end with results
that speak of nodes that stand for each other, or both meet with the same trouble, and what they
leave is alike again (`alike_carryOut`). So a line has the same output, kind and command on both
sides, and its nodes stand for each other (`alike_execute`). What a result speaks of belongs to the
tree, so its nodes have the same paths.
-/
import StoryShell.Proofs.Command.Execution
import StoryShell.Proofs.Tree.Counterpart

set_option autoImplicit false

namespace StoryShell

/-- Trouble in which every node goes by another number. -/
def Trouble.renumber (f : NodeId → NodeId) : Trouble → Trouble
  | .refused error => .refused (error.renumber f)
  | .outage => .outage

namespace Result

/-- **A result in which every node goes by another number.** -/
def renumber (f : NodeId → NodeId) (result : Result) : Result :=
  { result with nodes := result.nodes.map f, target := result.target.map f }

@[simp] theorem renumber_output (f : NodeId → NodeId) (result : Result) :
    (result.renumber f).output = result.output := rfl

@[simp] theorem renumber_isError (f : NodeId → NodeId) (result : Result) :
    (result.renumber f).isError = result.isError := rfl

@[simp] theorem renumber_command (f : NodeId → NodeId) (result : Result) :
    (result.renumber f).command = result.command := rfl

@[simp] theorem renumber_nodes (f : NodeId → NodeId) (result : Result) :
    (result.renumber f).nodes = result.nodes.map f := rfl

@[simp] theorem renumber_target (f : NodeId → NodeId) (result : Result) :
    (result.renumber f).target = result.target.map f := rfl

theorem renumber_id (result : Result) : result.renumber id = result := by
  simp [renumber]

/-- A result speaks of its target. -/
theorem mem_mentioned_of_target {result : Result} {target : NodeId}
    (h : result.target = some target) : target ∈ result.mentioned :=
  List.mem_append_right _ (Option.mem_toList.2 h)

end Result

namespace Interpreter

variable {f : NodeId → NodeId} {fs other : FileSystem} {interpreter : Interpreter}

/-! ## Commands -/

/-- **Attempts that are alike**: both come to an end, with results that stand for each other and
speak of nodes of the tree, or both meet with the same trouble. -/
inductive AlikeAttempts (f : NodeId → NodeId) : Attempt → Attempt → Prop where
  | ends {result : Result} {fs other : FileSystem} (alike : fs.Alike f other)
    (mentions : ∀ id ∈ result.mentioned, fs.forest.InTree id) :
    AlikeAttempts f (.ok result, fs) (.ok (result.renumber f), other)
  | fails {fs other : FileSystem} (alike : fs.Alike f other) (trouble : Trouble) :
    AlikeAttempts f (.error trouble, fs) (.error (trouble.renumber f), other)

/-- A call is out of order on both sides, or it has what stands for each other. -/
theorem call_translate {α : Type} (interpreter : Interpreter) (what : TreeCall) (onValue : α → α)
    (outcome : Except TreeError α) :
    interpreter.call what (translate (TreeError.renumber f) onValue outcome)
      = translate (Trouble.renumber f) onValue (interpreter.call what outcome) := by
  unfold call
  split
  · rfl
  · cases outcome with
    | ok value => rfl
    | error error => rfl

section

variable (h : fs.Alike f other)

include h

/-- A result that speaks of no node. -/
theorem alike_silent {result : Result} (hnodes : result.nodes = [])
    (htarget : result.target = none) :
    AlikeAttempts f (.ok result, fs) (.ok result, other) := by
  have hsame : result.renumber f = result := by
    rw [Result.renumber, hnodes, htarget, List.map_nil, Option.map_none, ← hnodes, ← htarget]
  have hends : AlikeAttempts f (.ok result, fs) (.ok (result.renumber f), other) :=
    .ends h fun id hid => by simp [Result.mentioned, hnodes, htarget] at hid
  rwa [hsame] at hends

theorem alike_ls : AlikeAttempts f (interpreter.ls fs) (interpreter.ls other) := by
  have hlist : interpreter.call .list (.ok other.list)
      = translate (Trouble.renumber f) (List.map f) (interpreter.call .list (.ok fs.list)) := by
    rw [← call_translate, translate, h.list]
  rw [ls, ls, hlist]
  cases hcall : interpreter.call .list (.ok fs.list) with
  | error trouble => exact .fails h trouble
  | ok nodes =>
    obtain ⟨-, hnodes⟩ := call_eq_ok_iff.1 hcall
    have htree : ∀ id ∈ nodes, fs.forest.InTree id := by
      rw [← Except.ok.inj hnodes]
      exact fun id hid => h.inTree_of_mem_list hid
    have hnames : (nodes.map f).map other.forest.displayName
        = nodes.map fs.forest.displayName := by
      rw [List.map_map]
      exact List.map_congr_left fun id hid => h.forest.displayName (htree id hid)
    simp only [translate, Except.map, hnames]
    refine .ends h fun id hid => htree id ?_
    simpa [Result.mentioned, Result.success] using hid

theorem alike_cd (arguments : List String) :
    AlikeAttempts f (interpreter.cd arguments fs) (interpreter.cd arguments other) := by
  cases arguments with
  | nil => exact alike_silent h rfl rfl
  | cons path rest =>
    rw [cd, cd, FileSystem.changeDirectory, FileSystem.changeDirectory, h.destination]
    by_cases hout : interpreter.outages.contains .changeDirectory = true
    · simp only [call, if_pos hout]
      exact .fails h .outage
    · simp only [call, if_neg hout]
      cases hdestination : fs.destination path with
      | error error => exact .fails h (.refused error)
      | ok target =>
        refine .ends (h.moved hdestination) fun id hid => ?_
        have htarget : id = target := by simpa [Result.mentioned, Result.success] using hid
        rw [htarget]
        exact h.inTree_destination hdestination

theorem alike_cat (arguments : List String) :
    AlikeAttempts f (interpreter.cat arguments fs) (interpreter.cat arguments other) := by
  cases arguments with
  | nil => exact alike_silent h rfl rfl
  | cons name rest =>
    rw [cat, cat, h.readFile]
    by_cases hout : interpreter.outages.contains .read = true
    · simp only [call, if_pos hout]
      exact .fails h .outage
    · simp only [call, if_neg hout]
      rw [FileSystem.readFile]
      cases hchild : fs.child? name with
      | none => exact .fails h (.refused (.noSuchFile name))
      | some id =>
        have htree := h.inTree_child hchild
        have hmentions : ∀ {result : Result}, result.mentioned = [id] →
            ∀ found ∈ result.mentioned, fs.forest.InTree found := by
          intro result hresult found hfound
          rw [hresult] at hfound
          rwa [List.mem_singleton.1 hfound]
        -- a directory of that name is spoken of, too
        by_cases hdirectory : fs.forest.isDirectory id = true
        · simp only [if_pos hdirectory, translate, TreeError.renumber]
          exact .ends h (hmentions rfl)
        · simp only [if_neg hdirectory, translate, h.forest.textOf htree]
          exact .ends h (hmentions rfl)

theorem alike_find (arguments : List String) :
    AlikeAttempts f (interpreter.find arguments fs) (interpreter.find arguments other) := by
  unfold find
  split
  · rename_i name
    rw [h.find]
    by_cases hout : interpreter.outages.contains .find = true
    · simp only [call, if_pos hout]
      exact .fails h .outage
    · simp only [call, if_neg hout]
      cases fs.find name with
      | none => exact alike_silent h rfl rfl
      | some path => exact alike_silent h rfl rfl
  · exact alike_silent h rfl rfl

theorem alike_cp (arguments : List String) :
    AlikeAttempts f (interpreter.cp arguments fs) (interpreter.cp arguments other) := by
  unfold cp
  split
  · rename_i name
    rw [h.wellKnown, call_translate]
    cases hcall : interpreter.call .wellKnown (fs.wellKnown interpreter.copyRole) with
    | error trouble => exact .fails h trouble
    | ok destination =>
      obtain ⟨-, hknown⟩ := call_eq_ok_iff.1 hcall
      have hattached := (FileSystem.wellKnown_eq_ok_iff.1 hknown).2
      obtain ⟨houtcome, halike, hsource⟩ := h.copyInto name
        (h.grown.sound.isDirectory_wellKnown hknown) (h.forest.sound.isAttached_iff.1 hattached)
      simp only [translate]
      rw [houtcome, call_translate]
      by_cases hout : interpreter.outages.contains .copy = true
      · simp only [call, if_pos hout, translate]
        exact .fails h .outage
      · simp only [call, if_neg hout]
        cases hcopy : (fs.copyInto name destination).1 with
        | error error => exact .fails halike (.refused error)
        | ok copied =>
          refine .ends halike fun id hid => ?_
          have hid' : id = copied.source := by simpa [Result.mentioned, Result.success] using hid
          rw [hid']
          exact hsource copied hcopy
  · exact alike_silent h rfl rfl

/-- **A command does the same on file systems that are alike.** -/
theorem alike_carryOut (command : Command) (arguments : List String) :
    AlikeAttempts f (interpreter.carryOut command arguments fs)
      (interpreter.carryOut command arguments other) := by
  cases command with
  | echo => exact alike_silent h rfl rfl
  | ls => exact alike_ls h
  | cd => exact alike_cd h arguments
  | cat => exact alike_cat h arguments
  | pwd =>
    rw [carryOut, carryOut, pwd, pwd, h.currentPath]
    exact alike_silent h rfl rfl
  | find => exact alike_find h arguments
  | cp => exact alike_cp h arguments

/-! ## Lines -/

omit h in
/-- Trouble becomes the same failure on both sides, and it speaks of no node. -/
theorem failureOf_renumber (command : Command) (trouble : Trouble) :
    failureOf command (trouble.renumber f) = (failureOf command trouble).renumber f
      ∧ (failureOf command trouble).mentioned = [] := by
  cases trouble with
  | outage => exact ⟨rfl, rfl⟩
  | refused error =>
    rw [Trouble.renumber, failureOf, failureOf, TreeError.renumber_kind?,
      TreeError.renumber_message]
    cases error.kind? with
    | none => exact ⟨rfl, rfl⟩
    | some kind => exact ⟨rfl, rfl⟩

/-- **A line does the same on file systems that are alike**, whatever is kept besides: its results
stand for each other, what it leaves is alike, and what the result speaks of belongs to the tree. -/
theorem alike_execute (interpreter : Interpreter) (held others : List NodeId) (raw : String) :
    (interpreter.execute other others raw).result
        = (interpreter.execute fs held raw).result.renumber f
      ∧ (interpreter.execute fs held raw).fs.Alike f (interpreter.execute other others raw).fs
      ∧ ∀ id ∈ (interpreter.execute fs held raw).result.mentioned,
        (interpreter.execute fs held raw).fs.forest.InTree id := by
  simp only [execute]
  by_cases hblank : (Line.parse raw).command = ""
  · rw [if_pos hblank, if_pos hblank]
    exact ⟨rfl, h, by simp [Result.mentioned, Result.blank]⟩
  · rw [if_neg hblank, if_neg hblank]
    cases Command.ofName? (Line.parse raw).command with
    | none => exact ⟨rfl, h, by simp [Result.mentioned, Result.failure]⟩
    | some command =>
      have hattempts : AlikeAttempts f
          (interpreter.carryOut command (Line.parse raw).arguments fs)
          (interpreter.carryOut command (Line.parse raw).arguments other) :=
        alike_carryOut h command (Line.parse raw).arguments
      dsimp only
      generalize interpreter.carryOut command (Line.parse raw).arguments fs = attempt at hattempts ⊢
      generalize interpreter.carryOut command (Line.parse raw).arguments other = second
        at hattempts ⊢
      cases hattempts with
      | ends halike hmentions => exact ⟨rfl, halike, hmentions⟩
      | fails halike trouble =>
        obtain ⟨hsame, hsilent⟩ := failureOf_renumber (f := f) command trouble
        refine ⟨hsame, halike, fun id hid => ?_⟩
        simp only [hsilent] at hid
        exact absurd hid (by simp)

end

end Interpreter

end StoryShell
