/-
Observers cannot disturb the game.

Take a session with any gate, table and story so far, in which one tracker observes, on a tree whose
root is at the top and that the current directory belongs to (`Session.IsRig`). Lines are submitted
to it, and between them views come and go, listeners are added that may fail, and nodes are let go.
Whatever of that happens, every line has the same result, and after every line the game stands as it
does without it (`Session.observers_cannot_disturb`): the current directory, the tree, the gate, the
milestones achieved and the narrative that waits.

Elsewhere it is not so, and both conditions on the tree are needed. A directory outside of it exists
only as long as someone keeps it, and what lies in it forgets it when it is gone. The scene keeps
the directory that it shows, so where a move up leads can depend on whether the scene has followed
the last moves (`Session.observers_disturb_outside_tree`): in a directory that was taken out of
the tree, and at a root that was put into another directory.
-/
import StoryShell.Proofs.Session.Alike
import StoryShell.Proofs.Session.Paths
import StoryShell.Proofs.Tree.Changes

set_option autoImplicit false

namespace StoryShell.Session

/-- **A rig**: a session on a tree with its root at the top and the current directory in it, with
one tracker among the observers. -/
structure IsRig (session : Session) : Prop where
  grown : session.fs.Grown fun _ => True
  inTree_cwd : session.fs.forest.InTree session.fs.cwd
  tracked : session.observers.count .tracker = 1

/-- **Sessions in which the game stands the same.** -/
structure SameGame (first second : Session) : Prop where
  cwd : second.fs.cwd = first.fs.cwd
  inTree : ∀ id, second.fs.forest.InTree id ↔ first.fs.forest.InTree id
  node? : ∀ id, first.fs.forest.InTree id → second.fs.forest.node? id = first.fs.forest.node? id
  allowed : second.gate.allowed = first.gate.allowed
  blocked : second.gate.blocked = first.gate.blocked
  achieved : second.progress.achieved = first.progress.achieved
  queue : second.progress.queue = first.progress.queue

variable {first second : Session}

/-- A rig plays the same game as it does itself. -/
theorem IsRig.alike (h : first.IsRig) : first.Alike id first where
  fs := .refl h.grown h.inTree_cwd
  interpreter := rfl
  progress := rfl
  milestones := rfl
  opensGate := rfl
  tracked := h.tracked
  otherTracked := h.tracked

/-- Where every node has its own number, sessions that play the same game stand the same. -/
theorem Alike.sameGame (h : first.Alike id second) : first.SameGame second where
  cwd := h.fs.cwd
  inTree := fun _ => h.fs.forest.inTree_iff
  node? := fun found hfound => by
    have hsame : Node.renumber id = id := funext Node.renumber_id
    have hnode := h.fs.forest.node? hfound
    rwa [hsame, Option.map_id, id_eq, id_eq] at hnode
  allowed := by rw [gate, gate, h.progress]
  blocked := by rw [gate, gate, h.progress]
  achieved := by rw [h.progress]
  queue := by rw [h.progress]

/-- **Replies that are the same**: the line had the same result, and the game stands the same. -/
structure SameReply (reply other : Option Result × Session × List Event) : Prop where
  result : other.1 = reply.1
  game : reply.2.1.SameGame other.2.1

/-- A line has the same result in sessions that play the same game, and the game goes on the same.
-/
theorem Alike.sameReply (h : first.Alike id second) (raw : String) :
    SameReply (first.submit raw) (second.submit raw) := by
  have hreplies := h.submit raw
  have houtcome := hreplies.renumbered
  have hsame : Result.renumber id = id := funext Result.renumber_id
  rw [hsame, Option.map_id, id_eq] at houtcome
  exact ⟨houtcome, hreplies.game.sameGame⟩

/-- **Observers cannot disturb the game.** Two courses of the same lines from the same rig, with any
meddling in between, have the same result for every line, and after every line the game stands the
same in both. -/
theorem observers_cannot_disturb (hrig : first.IsRig) {rounds others : List Round}
    (hlines : rounds.map Round.line = others.map Round.line) :
    List.Forall₂ SameReply (course rounds first) (course others first) :=
  forall₂_course (Alike id) (fun _ => True)
    (fun _ h => h.meddle _) (fun _ h => h.meddle_other _)
    (fun raw h => ⟨h.sameReply raw, (h.submit raw).game⟩) hlines
    (fun _ _ _ _ => trivial) (fun _ _ _ _ => trivial) hrig.alike

/-- A run in which the scene is not there for a move and the console for a copy, while one listener
fails on the milestone that the copy reaches. -/
theorem observers_cannot_disturb_a_copy :
    let world : World := ⟨"w", "w", [], [.directory "box" "" [.file "note" "hello"],
      .directory "bin" "" []], [("bin", "/bin")], ["cd", "cp"], ["ls"],
      [⟨"m", "cp", some "note", none, [], ["find"], ["ls"], ["Well done."]⟩]⟩
    let rounds : List Round := [⟨[], "cd box"⟩, ⟨[], "cp note"⟩, ⟨[], "ls"⟩]
    let others : List Round :=
      [⟨[.unsubscribe .scene, .listen ⟨fun _ => some "sorry, no"⟩], "cd box"⟩,
        ⟨[.subscribe .scene, .unsubscribe .console, .collect []], "cp note"⟩,
        ⟨[.subscribe .console], "ls"⟩]
    ∃ start, ofWorld world false = .ok start ∧ start.1.IsRig
      ∧ rounds.map Round.line = others.map Round.line
      ∧ (course others start.1).map (fun reply => (reply.2.1.progress.achieved.names,
          reply.2.1.gate.blocked.names, reply.2.1.progress.queue))
        = [([], ["ls"], some []), (["m"], [], some [⟨"m", ["Well done."]⟩]),
          (["m"], [], some [⟨"m", ["Well done."]⟩])]
      ∧ List.Forall₂ SameReply (course rounds start.1) (course others start.1) := by
  intro world rounds others
  have hrun : (ofWorld world false).toOption.map (fun start =>
      (course others start.1).map fun reply => (reply.2.1.progress.achieved.names,
        reply.2.1.gate.blocked.names, reply.2.1.progress.queue))
      = some [([], ["ls"], some []), (["m"], [], some [⟨"m", ["Well done."]⟩]),
        (["m"], [], some [⟨"m", ["Well done."]⟩])] := by decide +kernel
  obtain ⟨start, hstart, hrun⟩ := Option.map_eq_some_iff.1 hrun
  have hof := ok_of_toOption hstart
  have hgrown := grown_of_ofWorld hof
  have hrig : start.1.IsRig := by
    refine ⟨hgrown.fs, inTree_cwd hof .start, ?_⟩
    rw [hgrown.observers]
    rfl
  exact ⟨start, hof, hrig, rfl, hrun, observers_cannot_disturb hrig rfl⟩

/-- Where the replies are the same, so are the current directories. -/
theorem map_cwd_of_sameReply {replies others : List (Option Result × Session × List Event)}
    (h : List.Forall₂ SameReply replies others) :
    others.map (·.2.1.fs.cwd) = replies.map (·.2.1.fs.cwd) := by
  induction h with
  | nil => rfl
  | cons hreply _ ih => rw [List.map_cons, List.map_cons, ih, hreply.game.cwd]

/-- **Observers can disturb a game outside of the tree.** In a directory that was taken out of the
tree, a move down and a move up lead to the directory below it, since nobody keeps it any more; but
if the scene does not follow the move down, then it keeps the directory, and the move up leads back.
And if the root was put into another directory, then a move up, one to the root and one up again
lead to the root, or to the directory above it if the scene keeps that. -/
theorem observers_disturb_outside_tree :
    let world : World := ⟨"w", "w", [], [], [], ["cd"], [], []⟩
    let inside := start world (FileSystem.initial.run [.createDirectory Forest.root "a",
      .createDirectory 1 "b", .changeDirectory "a", .remove Forest.root "a"])
    let below := start world (FileSystem.initial.run [.newDirectory "above", .attach 1 Forest.root])
    (inside.fs.forest.parentOf Forest.root = none ∧ inside.observers.count .tracker = 1
      ∧ let rounds : List Round := [⟨[], "cd b"⟩, ⟨[.collect []], "cd .."⟩]
        let others : List Round := [⟨[.unsubscribe .scene], "cd b"⟩, ⟨[.collect []], "cd .."⟩]
        rounds.map Round.line = others.map Round.line
          ∧ (course rounds inside).map (·.2.1.fs.cwd) = [2, 2]
          ∧ (course others inside).map (·.2.1.fs.cwd) = [2, 1]
          ∧ ¬ List.Forall₂ SameReply (course rounds inside) (course others inside))
      ∧ below.fs.forest.InTree below.fs.cwd ∧ below.observers.count .tracker = 1
      ∧ let rounds : List Round := [⟨[], "cd .."⟩, ⟨[], "cd ~"⟩, ⟨[.collect []], "cd .."⟩]
        let others : List Round :=
          [⟨[], "cd .."⟩, ⟨[.unsubscribe .scene], "cd ~"⟩, ⟨[.collect []], "cd .."⟩]
        rounds.map Round.line = others.map Round.line
          ∧ (course rounds below).map (·.2.1.fs.cwd) = [1, Forest.root, Forest.root]
          ∧ (course others below).map (·.2.1.fs.cwd) = [1, Forest.root, 1]
          ∧ ¬ List.Forall₂ SameReply (course rounds below) (course others below) := by
  intro world inside below
  -- replies that are the same leave no room for another current directory
  have hdiffer : ∀ {replies others : List (Option Result × Session × List Event)}
      {cwds also : List NodeId}, replies.map (·.2.1.fs.cwd) = cwds →
      others.map (·.2.1.fs.cwd) = also → also ≠ cwds → ¬ List.Forall₂ SameReply replies others := by
    rintro replies others _ _ rfl rfl hne hsame
    exact hne (map_cwd_of_sameReply hsame)
  refine ⟨⟨rfl, rfl, ?_⟩, Relation.ReflTransGen.refl, rfl, ?_⟩
  · intro rounds others
    have hplain : (course rounds inside).map (·.2.1.fs.cwd) = [2, 2] := by decide +kernel
    have hmeddled : (course others inside).map (·.2.1.fs.cwd) = [2, 1] := by decide +kernel
    exact ⟨rfl, hplain, hmeddled, hdiffer hplain hmeddled (by decide)⟩
  · intro rounds others
    have hplain : (course rounds below).map (·.2.1.fs.cwd) = [1, Forest.root, Forest.root] := by
      decide +kernel
    have hmeddled : (course others below).map (·.2.1.fs.cwd) = [1, Forest.root, 1] := by
      decide +kernel
    exact ⟨rfl, hplain, hmeddled, hdiffer hplain hmeddled (by decide)⟩

end StoryShell.Session
