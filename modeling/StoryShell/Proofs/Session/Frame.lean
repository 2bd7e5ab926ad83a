/-
The tree after a whole session.

All that lines do to a tree is copying into one directory. So the rest of the tree is what it was at
the start (`Forest.Framed`), and what this directory has under a key is told by the history: the
latest copy of a file with this key that was made from elsewhere, or, if there was none, what the
directory had at the start (`Told`). A copy from the directory into itself does not count, since it
is of a file onto itself. Telling the directory's entry by the latest copy is all that a step has to
keep up: a copy covers the entry of its own key and leaves the others (`Told.copy`).
-/
import StoryShell.Proofs.Session.History
import StoryShell.Proofs.Tree.Frame

set_option autoImplicit false

namespace StoryShell

/-! ## Copies in a history -/

/-- Whether a file with a key was copied into a directory in a turn, from another directory. -/
def Turn.copies (turn : Turn) (bin : NodeId) (key : String) : Bool :=
  turn.succeeded .cp && turn.fs.cwd != bin
    && turn.result.target.any fun source => Text.lower (turn.fs.forest.nameOf source) == key

/-- In a turn in which nothing is copied, no key is. -/
theorem Turn.copies_of_not_cp {turn : Turn} (h : turn.succeeded .cp = false) (bin : NodeId)
    (key : String) : turn.copies bin key = false := by
  rw [Turn.copies, h, Bool.false_and, Bool.false_and]

/-- **What a history tells about an entry** of the directory that is copied into. Without a copy it
is what it was in the seed; otherwise it is the file that the latest copy made, with the name and
the text that its source had at the time. -/
structure Told (seed : Forest) (history : List Turn) (forest : Forest) (bin : NodeId)
    (key : String) : Prop where
  seeded : history.find? (·.copies bin key) = none →
    (forest.childrenOf bin).get? key = (seed.childrenOf bin).get? key
  copied : ∀ turn, history.find? (·.copies bin key) = some turn →
    ∃ source copy, turn.result.target = some source
      ∧ (forest.childrenOf bin).get? key = some copy
      ∧ forest.node? copy
        = some ⟨turn.fs.forest.nameOf source, some bin, .file (turn.fs.forest.textOf source)⟩

namespace Told

variable {seed forest other : Forest} {history : List Turn} {bin : NodeId} {key : String}

/-- A turn without a copy of this key tells nothing new. -/
theorem turn (h : Told seed history forest bin key) {turn : Turn}
    (hturn : turn.copies bin key = false) : Told seed (turn :: history) forest bin key := by
  have hfind : (turn :: history).find? (·.copies bin key) = history.find? (·.copies bin key) :=
    List.find?_cons_of_neg (by rw [hturn]; exact Bool.false_ne_true)
  refine ⟨fun hnone => ?_, fun latest hlatest => ?_⟩
  · rw [hfind] at hnone
    exact h.seeded hnone
  · rw [hfind] at hlatest
    exact h.copied latest hlatest

/-- An entry that stays, with its node, is told by the same history. -/
theorem of_same (h : Told seed history forest bin key)
    (hget : (other.childrenOf bin).get? key = (forest.childrenOf bin).get? key)
    (hnode : ∀ id, (forest.childrenOf bin).get? key = some id → other.node? id = forest.node? id) :
    Told seed history other bin key := by
  refine ⟨fun hnone => ?_, fun turn hturn => ?_⟩
  · rw [hget]
    exact h.seeded hnone
  · obtain ⟨source, copy, htarget, hcopy, hfile⟩ := h.copied turn hturn
    refine ⟨source, copy, htarget, ?_, ?_⟩
    · rw [hget, hcopy]
    · rw [hnode copy hcopy, hfile]

/-- **A copy** is the latest of its own key, and it leaves the other entries. -/
theorem copy {fs after : FileSystem} (h : Told seed history fs.forest bin key)
    (hsound : fs.forest.Sound) (hbin : fs.forest.isDirectory bin = true) {source copy : NodeId}
    (hcopies : fs.CopiesTo bin source copy after) {result : Result}
    (hcp : Turn.succeeded ⟨fs, result⟩ .cp = true) (htarget : result.target = some source) :
    Told seed (⟨fs, result⟩ :: history) after.forest bin key := by
  have hturn : Turn.copies ⟨fs, result⟩ bin key
      = (Text.lower (fs.forest.nameOf source) == key) := by
    have haway : (fs.cwd != bin) = true := by
      rw [bne_iff_ne]
      exact hcopies.away
    rw [Turn.copies, hcp, htarget, haway, Bool.true_and, Bool.true_and]
    rfl
  have hchildren := hcopies.childrenOf hbin
  by_cases hkey : Text.lower (fs.forest.nameOf source) = key
  · have hfind : (⟨fs, result⟩ :: history).find? (·.copies bin key) = some ⟨fs, result⟩ := by
      apply List.find?_cons_of_pos
      rw [hturn, hkey]
      exact beq_self_eq_true key
    refine ⟨fun hnone => ?_, fun latest hlatest => ?_⟩
    · rw [hfind] at hnone
      exact absurd hnone (by simp)
    · rw [hfind] at hlatest
      rw [← Option.some.inj hlatest]
      refine ⟨source, copy, htarget, ?_, hcopies.node?_copy⟩
      rw [hchildren, NameMap.get?_insert, if_pos hkey]
  · have hother : Told seed history after.forest bin key := by
      apply h.of_same
      · rw [hchildren, NameMap.get?_insert, if_neg hkey]
      · intro id hid
        exact hcopies.node?_of_get? hsound (Ne.symm hkey) hid
    apply hother.turn
    rw [hturn]
    exact beq_eq_false_iff_ne.2 hkey

/-- An entry is never lost. -/
theorem isSome (h : Told seed history forest bin key)
    (hseed : ((seed.childrenOf bin).get? key).isSome = true) :
    ((forest.childrenOf bin).get? key).isSome = true := by
  cases hfind : history.find? (·.copies bin key) with
  | none =>
    rw [h.seeded hfind]
    exact hseed
  | some turn =>
    obtain ⟨source, copy, -, hcopy, -⟩ := h.copied turn hfind
    rw [hcopy]
    rfl

end Told

namespace Session

variable {first session after : Session} {history : List Turn} {seed : FileSystem}

/-- **A session that is framed by the file system that it started on.** -/
structure Framed (seed : FileSystem) (history : List Turn) (session : Session) : Prop where
  interpreter : session.interpreter = .sound
  roles : session.fs.roles = seed.roles
  forest : seed.forest.Framed (seed.roles.get? "bin") session.fs.forest
  told : ∀ bin, seed.roles.get? "bin" = some bin →
    ∀ key, Told seed.forest history session.fs.forest bin key

/-- A turn without a copy keeps a session framed, if it changes no node and gives no role. -/
theorem Framed.turn (h : session.Framed seed history) {turn : Turn}
    (hinterpreter : after.interpreter = session.interpreter)
    (hroles : after.fs.roles = session.fs.roles) (hforest : after.fs.forest = session.fs.forest)
    (hturn : ∀ bin, seed.roles.get? "bin" = some bin → ∀ key, turn.copies bin key = false) :
    after.Framed seed (turn :: history) := by
  refine ⟨hinterpreter.trans h.interpreter, hroles.trans h.roles, ?_, fun bin hbin key => ?_⟩
  · rw [hforest]
    exact h.forest
  · rw [hforest]
    exact (h.told bin hbin key).turn (hturn bin hbin key)

/-- **A command that succeeds keeps a session framed.** -/
theorem Framed.success (h : session.Framed seed history) (hsound : session.fs.Sound)
    {command : Command} {arguments : List String} {result : Result} {fs : FileSystem}
    (hsucceeds : session.interpreter.Succeeds session.fs command arguments result fs)
    (hfs : after.fs = fs) (hinterpreter : after.interpreter = session.interpreter) :
    after.Framed seed (⟨session.fs, result⟩ :: history) := by
  have hturn := Turn.succeeded_iff_of_succeeds hsucceeds .cp
  have hnot : command ≠ .cp → Turn.succeeded ⟨session.fs, result⟩ .cp = false :=
    Turn.not_succeeded_of_ne hsucceeds
  cases hsucceeds with
  | echo | ls | cat | pwd | find | cd =>
    refine h.turn hinterpreter (by rw [hfs]) (by rw [hfs]) fun bin _ key => ?_
    exact Turn.copies_of_not_cp (hnot (by decide)) bin key
  | @cp name destination copied _ hknown hcopy =>
    have hdirectory := hsound.isDirectory_wellKnown hknown
    have hrole : seed.roles.get? "bin" = some destination := by
      have hget := (FileSystem.wellKnown_eq_ok_iff.1 hknown).1
      rw [h.interpreter, h.roles] at hget
      exact hget
    obtain ⟨-, ⟨hhere, rfl⟩ | hcopies⟩ := FileSystem.copyInto_ok hsound.forest hdirectory hcopy
    · -- a file that is copied onto itself is copied from the directory itself
      refine h.turn hinterpreter (by rw [hfs]) (by rw [hfs]) fun bin hbin key => ?_
      have hbinHere : session.fs.cwd = bin := by
        rw [hhere]
        exact Option.some.inj (hrole.symm.trans hbin)
      simp [Turn.copies, hbinHere]
    · refine ⟨hinterpreter.trans h.interpreter, ?_, ?_, fun bin hbin key => ?_⟩
      · rw [hfs, hcopies.roles, h.roles]
      · have hforest := h.forest
        rw [hrole] at hforest ⊢
        rw [hfs]
        exact hforest.copy hcopies
      · have hsame : destination = bin := Option.some.inj (hrole.symm.trans hbin)
        subst hsame
        rw [hfs]
        exact (h.told destination hbin key).copy hsound.forest hdirectory hcopies
          (hturn.2 rfl) rfl

/-- **A line keeps a session framed.** -/
theorem Framed.answer (h : session.Framed seed history) (hsound : session.fs.Sound)
    {result : Result} (hanswers : session.Answers result after) :
    after.Framed seed (⟨session.fs, result⟩ :: history) := by
  rcases hanswers.carried with ⟨hidle, hfs⟩ | ⟨command, arguments, hsucceeds⟩
  · exact h.turn hanswers.interpreter (by rw [hfs]) (by rw [hfs]) fun bin _ key =>
      Turn.copies_of_not_cp (Turn.succeeded_of_isIdle hidle .cp) bin key
  · exact h.success hsound hsucceeds rfl hanswers.interpreter

/-- **Letting nodes go keeps a session framed**: what lies in the directory that is copied into
belongs to the tree. -/
theorem Framed.reclaim {ok : String → Prop} (h : session.Framed seed history) (hseed : seed.Sound)
    (htree : seed.forest.IsTree) (hgrown : session.Grown ok) (held : List NodeId) :
    (session.reclaim held).Framed seed history := by
  have hsound := hgrown.fs.sound.forest
  have htop := hgrown.fs.top
  -- the root is among what is wanted
  have hforest : ∃ wanted, Forest.root ∈ wanted
      ∧ (session.reclaim held).fs.forest = session.fs.forest.reclaim wanted :=
    ⟨_, List.mem_append_left _ List.mem_cons_self, rfl⟩
  obtain ⟨wanted, hroot, hforest⟩ := hforest
  refine ⟨h.interpreter, h.roles, ?_, fun bin hbin key => ?_⟩
  · rw [hforest]
    exact h.forest.reclaim hseed.forest htree hsound htop hroot
  · rw [hforest]
    have hbinTree := h.forest.inTree hseed.forest htree (hseed.roles hbin)
    have hsame := fun {id} (hid : session.fs.forest.InTree id) =>
      Forest.node?_reclaim_of_inTree hsound htop hroot hid
    apply (h.told bin hbin key).of_same
    · rw [Forest.childrenOf, hsame hbinTree, ← Forest.childrenOf]
    · intro id hid
      exact hsame (.of_parentOf (hsound.of_get? hid).2 hbinTree)

/-- Every node of a session of a world belongs to its tree at the start. -/
theorem isTree_of_ofWorld {world : World} {everythingOpen : Bool} {events : List Event}
    (hstart : ofWorld world everythingOpen = .ok (first, events)) : first.fs.forest.IsTree :=
  World.isTree_build (build_of_ofWorld hstart)

/-- **Every session that a world comes to is framed** by the file system of its start. -/
theorem Runs.framed {world : World} {everythingOpen : Bool} {events : List Event}
    (hruns : first.Runs history session)
    (hstart : ofWorld world everythingOpen = .ok (first, events)) :
    session.Framed first.fs history := by
  have hfirst := grown_of_ofWorld hstart
  have htree := isTree_of_ofWorld hstart
  obtain ⟨fs, -, heq, -⟩ := ofWorld_eq_ok hstart
  have hbegin : first.Framed first.fs [] := by
    refine ⟨by rw [heq]; rfl, rfl, .refl _ _, fun bin _ key => ⟨fun _ => rfl, fun turn hturn => ?_⟩⟩
    exact absurd hturn (by simp)
  exact (hruns.rec_grown (P := fun history session => session.Framed first.fs history) hfirst hbegin
    (fun hgrown h hanswers => h.answer hgrown.fs.sound hanswers)
    (fun _ h _ => ⟨h.interpreter, h.roles, h.forest, h.told⟩)
    (fun _ h _ => ⟨h.interpreter, h.roles, h.forest, h.told⟩)
    (fun held hgrown h => h.reclaim hfirst.fs.sound htree hgrown held)).1

/-- In a session that a world comes to, no call of the tree is out of order. -/
theorem Runs.no_outages {world : World} {everythingOpen : Bool} {events : List Event}
    (hruns : first.Runs history session)
    (hstart : ofWorld world everythingOpen = .ok (first, events)) :
    session.interpreter.outages = [] := by
  rw [(hruns.framed hstart).interpreter]
  rfl

/-- **The directory with the copy role stays known**: it is in the tree if it has the role. -/
theorem wellKnown_bin {world : World} {everythingOpen : Bool} {events : List Event}
    (hstart : ofWorld world everythingOpen = .ok (first, events))
    (hruns : first.Runs history session) {bin : NodeId} :
    session.fs.wellKnown "bin" = .ok bin ↔ first.fs.roles.get? "bin" = some bin := by
  have hfirst := grown_of_ofWorld hstart
  have hframed := hruns.framed hstart
  have hsound := (hruns.grown hfirst).fs.sound
  rw [FileSystem.wellKnown_eq_ok_iff, hframed.roles]
  refine ⟨And.left, fun hrole => ⟨hrole, ?_⟩⟩
  exact hsound.forest.isAttached_iff.2 (hframed.forest.inTree hfirst.fs.sound.forest
    (isTree_of_ofWorld hstart) (hfirst.fs.sound.roles hrole))

/-- **The tree of a session is framed.** In every session that a world comes to, the directories are
those of the start, with the same names and in the same places, and all but the one that is copied
into have the same children; no file of the start has another name or text. In the one directory no
key is lost. What it has under a key is what it had at the start if no file of this key was copied
into it from elsewhere, and otherwise a file with the name and the text of the source of the latest
such copy. If no directory has the role, the whole tree is that of the start. -/
theorem tree_is_framed {world : World} {everythingOpen : Bool} {first session : Session}
    {events : List Event} {history : List Turn}
    (hstart : ofWorld world everythingOpen = .ok (first, events))
    (hruns : first.Runs history session) :
    (∀ id, session.fs.forest.isDirectory id = first.fs.forest.isDirectory id)
      ∧ (∀ id, first.fs.forest.isDirectory id = true →
        session.fs.forest.nameOf id = first.fs.forest.nameOf id
          ∧ session.fs.forest.parentOf id = first.fs.forest.parentOf id
          ∧ (first.fs.roles.get? "bin" ≠ some id →
            session.fs.forest.childrenOf id = first.fs.forest.childrenOf id))
      ∧ (∀ id, first.fs.forest.node? id ≠ none → session.fs.forest.node? id ≠ none →
        session.fs.forest.nameOf id = first.fs.forest.nameOf id
          ∧ session.fs.forest.textOf id = first.fs.forest.textOf id)
      ∧ (∀ bin, first.fs.roles.get? "bin" = some bin → ∀ key,
        (((first.fs.forest.childrenOf bin).get? key).isSome = true →
            ((session.fs.forest.childrenOf bin).get? key).isSome = true)
          ∧ (history.find? (·.copies bin key) = none →
            (session.fs.forest.childrenOf bin).get? key
              = (first.fs.forest.childrenOf bin).get? key)
          ∧ ∀ turn, history.find? (·.copies bin key) = some turn →
            ∃ source copy, turn.result.target = some source
              ∧ (session.fs.forest.childrenOf bin).get? key = some copy
              ∧ session.fs.forest.node? copy = some ⟨turn.fs.forest.nameOf source, some bin,
                .file (turn.fs.forest.textOf source)⟩)
      ∧ (first.fs.roles.get? "bin" = none →
        ∀ id, session.fs.forest.node? id = first.fs.forest.node? id) := by
  have hframed := hruns.framed hstart
  refine ⟨hframed.forest.isDirectory, fun id hid => ⟨hframed.forest.nameOf id hid,
    hframed.forest.parentOf id hid, hframed.forest.childrenOf id hid⟩, hframed.forest.file,
    fun bin hbin key => ?_, hframed.forest.whole⟩
  have htold := hframed.told bin hbin key
  exact ⟨htold.isSome, htold.seeded, htold.copied⟩

/-- A file that is copied over another one, and then itself under another spelling of its name. -/
theorem tree_is_framed_after_copies :
    let world : World := ⟨"w", "w", [], [.directory "home" "" [.file "Note" "one"],
      .directory "away" "" [.file "NOTE" "two"],
      .directory "bin" "" [.file "note" "old", .file "map" "here"]], [("bin", "/bin")],
      ["cd", "cp"], [], []⟩
    ∃ (first session : Session) (events : List Event) (history : List Turn),
      ofWorld world false = .ok (first, events) ∧ first.Runs history session
        ∧ first.fs.roles.get? "bin" = some 5
        ∧ (∀ id, session.fs.forest.isDirectory id = first.fs.forest.isDirectory id)
        ∧ history.find? (·.copies 5 "map") = none
        ∧ (session.fs.forest.childrenOf 5).get? "map" = (first.fs.forest.childrenOf 5).get? "map"
        ∧ ∃ turn copy, history.find? (·.copies 5 "note") = some turn
          ∧ turn.fs.forest.node? 4 = some ⟨"NOTE", some 3, .file "two"⟩
          ∧ (session.fs.forest.childrenOf 5).get? "note" = some copy
          ∧ session.fs.forest.node? copy = some ⟨"NOTE", some 5, .file "two"⟩ := by
  intro world
  have hrun : (ofWorld world false).toOption.map (fun start =>
      let run := start.1.submitAll
        ["cd home", "cp note", "cd ..", "cd away", "cp note", "cd ..", "cd bin", "cp note",
          "cp map"]
      (start.1.fs.roles.get? "bin", (run.1.find? (·.copies 5 "map")).isNone,
        (run.1.find? (·.copies 5 "note")).map fun turn =>
          (turn.result.target, turn.fs.forest.node? 4)))
        = some (some 5, true, some (some 4, some ⟨"NOTE", some 3, .file "two"⟩)) := by
    decide +kernel
  obtain ⟨start, hstart, hrun⟩ := Option.map_eq_some_iff.1 hrun
  have hof := ok_of_toOption hstart
  have hruns := start.1.runs_submitAll
    ["cd home", "cp note", "cd ..", "cd away", "cp note", "cd ..", "cd bin", "cp note", "cp map"]
  dsimp only at hrun
  generalize start.1.submitAll _ = run at hrun hruns
  simp only [Prod.mk.injEq, Option.isNone_iff_eq_none, Option.map_eq_some_iff] at hrun
  obtain ⟨hbin, hmap, turn, hturn, htarget, hnode⟩ := hrun
  obtain ⟨hdirectory, -, -, hentry, -⟩ := tree_is_framed hof hruns
  obtain ⟨source, copy, hsource, hcopy, hfile⟩ := (hentry 5 hbin "note").2.2 turn hturn
  rw [htarget, Option.some.injEq] at hsource
  rw [← hsource, Forest.nameOf, Forest.textOf, hnode] at hfile
  exact ⟨start.1, run.2, start.2, run.1, hof, hruns, hbin, hdirectory, hmap,
    (hentry 5 hbin "map").2.1 hmap, turn, copy, hturn, hnode, hcopy, hfile⟩

end Session

end StoryShell
