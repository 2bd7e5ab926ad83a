/-
The order in which a world is declared makes no difference.

What is seen of a session never depends on the numbers of nodes: they go by their names and paths
(`Result.view`, `Session.view`). So twins look the same, and a line that is submitted to both has
replies that look the same. Documents of a world that differ in order only therefore come to the
same: either both can be read and built or neither, and the sessions that they start look the same
after every line (`Session.order_makes_no_difference`). Children are kept by their names, so even
those that a copy adds later stand where they would stand in any other order.
-/
import StoryShell.Proofs.Session.Twins

set_option autoImplicit false

namespace StoryShell

/-! ## What is seen -/

/-- **What is seen of a result**: the nodes that it speaks of go by their paths. -/
structure ResultView where
  output : String
  isError : Bool
  command : String
  errorKind : Option ErrorKind
  nodes : List String
  target : Option String
deriving DecidableEq, Repr

/-- **What is seen of a session**: the current path, the gate and how far the story has come, the
transcript, and the scene with its stage and the names and marks of its objects. -/
structure SessionView where
  path : String
  allowed : NameSet
  blocked : NameSet
  achieved : NameSet
  queue : Option (List NarrativeEntry)
  transcript : List ConsoleLine
  stage : Option String
  objects : List (String × Bool × Bool)
deriving DecidableEq, Repr

/-- **What is seen of a line**: its result, what was printed, and the session after it. -/
structure ReplyView where
  result : Option ResultView
  printed : List String
  session : SessionView
deriving DecidableEq, Repr

/-- What is seen of a result in a forest. -/
def Result.view (forest : Forest) (result : Result) : ResultView where
  output := result.output
  isError := result.isError
  command := result.command
  errorKind := result.errorKind
  nodes := result.nodes.map forest.pathOf
  target := result.target.map forest.pathOf

/-- **Results that stand for each other look the same.** -/
theorem Result.view_renumber {forest other : Forest} {f : NodeId → NodeId}
    (h : forest.Alike f other) {result : Result}
    (hmentions : ∀ id ∈ result.mentioned, forest.InTree id) :
    (result.renumber f).view other = result.view forest := by
  have hnodes : (result.nodes.map f).map other.pathOf = result.nodes.map forest.pathOf := by
    rw [List.map_map]
    exact List.map_congr_left fun id hid => h.pathOf (hmentions id (List.mem_append_left _ hid))
  have htarget : (result.target.map f).map other.pathOf = result.target.map forest.pathOf := by
    rw [Option.map_map]
    exact Option.map_congr fun id hid => h.pathOf (hmentions id (mem_mentioned_of_target hid))
  rw [view, view, renumber_output, renumber_isError, renumber_command, renumber_nodes,
    renumber_target, hnodes, htarget]
  rfl

namespace Session

/-- What is seen of a session. -/
def view (session : Session) : SessionView where
  path := session.fs.currentPath
  allowed := session.gate.allowed
  blocked := session.gate.blocked
  achieved := session.progress.achieved
  queue := session.progress.queue
  transcript := session.console.transcript
  stage := session.scene.directory.map session.fs.forest.pathOf
  objects := session.scene.objects.map fun object =>
    (session.fs.forest.nameOf object.node, object.visible, object.revealed)

/-- What is seen of the reply to a line. -/
def replyView (reply : Option Result × Session × List Event) : ReplyView where
  result := reply.1.map (Result.view reply.2.1.fs.forest)
  printed := reply.2.2.filterMap Event.text?
  session := reply.2.1.view

variable {first second : Session} {f : NodeId → NodeId}

/-- **Twins look the same.** -/
theorem Twins.view (h : first.Twins f second) : second.view = first.view := by
  obtain ⟨history, hstaged⟩ := h.staged
  have hforest := h.game.fs.forest
  have hstage : second.scene.directory.map second.fs.forest.pathOf
      = first.scene.directory.map first.fs.forest.pathOf := by
    rw [h.scene, Scene.renumber, hstaged.directory]
    simp only [Option.map_some, hforest.pathOf h.game.fs.inTree_cwd]
  have hobjects : (second.scene.objects.map fun object =>
        (second.fs.forest.nameOf object.node, object.visible, object.revealed))
      = first.scene.objects.map fun object =>
        (first.fs.forest.nameOf object.node, object.visible, object.revealed) := by
    rw [h.scene, Scene.renumber, List.map_map]
    refine List.map_congr_left fun object hobject => ?_
    simp only [Function.comp, hforest.nameOf (h.inTree_object hobject)]
  rw [Session.view, Session.view, h.game.fs.currentPath, gate, gate, h.game.progress, h.console,
    hstage, hobjects]

/-- **Replies that look the same.** -/
def SameView (reply other : Option Result × Session × List Event) : Prop :=
  replyView other = replyView reply

/-- **The replies of twins look the same.** -/
theorem Twins.sameView (h : first.Twins f second) (raw : String) :
    SameView (first.submit raw) (second.submit raw) := by
  obtain ⟨htwins, hprinted⟩ := h.submit raw
  obtain ⟨hrenumbered, hgame, hmentions⟩ := h.game.submit raw
  generalize first.submit raw = reply at *
  generalize second.submit raw = otherReply at *
  rw [SameView, replyView, replyView, htwins.view, hprinted, hrenumbered, Option.map_map]
  congr 1
  exact Option.map_congr fun result hresult =>
    Result.view_renumber hgame.fs.forest (hmentions result hresult)

/-! ## Any order -/

/-- **Sessions of twins look the same all along**, whatever nodes are let go between the lines. -/
theorem Twins.course (h : first.Twins f second) {rounds others : List Round}
    (hlines : rounds.map Round.line = others.map Round.line)
    (hrounds : ∀ round ∈ rounds, ∀ meddling ∈ round.meddlings, meddling.isCollection = true)
    (hothers : ∀ round ∈ others, ∀ meddling ∈ round.meddlings, meddling.isCollection = true) :
    List.Forall₂ SameView (course rounds first) (course others second) := by
  refine forall₂_course (Twins f) (fun meddling => meddling.isCollection = true) ?_ ?_
    (fun raw h => ⟨h.sameView raw, (h.submit raw).1⟩) hlines hrounds hothers h
  · intro first second meddling hcollects h
    cases meddling with
    | collect held => exact h.collect _
    | unsubscribe _ | subscribe _ | listen _ =>
      exact absurd hcollects (by simp [Meddling.isCollection])
  · intro first second meddling hcollects h
    cases meddling with
    | collect held => exact h.collect_other _
    | unsubscribe _ | subscribe _ | listen _ =>
      exact absurd hcollects (by simp [Meddling.isCollection])

variable {json other : Json}

/-- Of documents that differ in order only the one can be read and built if the other can, and then
their file systems are alike. -/
theorem built_of_redeclared (h : World.Redeclared json other) {world : World} {fs : FileSystem}
    (hworld : World.decode json = .ok world) (hbuild : world.build = .ok fs) :
    ∃ twin f built, World.decode other = .ok twin ∧ twin.build = .ok built
      ∧ world.Reordered twin ∧ fs.Alike f built := by
  obtain ⟨twin, htwin, hreordered⟩ := World.decode_of_redeclared h hworld
  obtain ⟨hdistinct, hproper⟩ := World.proper_of_decode hworld
  obtain ⟨hdistinctTwin, hproperTwin⟩ := World.proper_of_decode htwin
  obtain ⟨f, built, hbuilt, halike⟩ :=
    World.build_of_reordered hdistinct hproper hdistinctTwin hproperTwin hreordered hbuild
  exact ⟨twin, f, built, htwin, hbuilt, hreordered, halike⟩

/-- **The order in which a world is declared makes no difference.** Of two documents that differ in
the order of siblings, roles and commands only, both can be read and built or neither. Their
sessions look the same at the start, and after every line the replies do: the result with its nodes
by their paths, what was printed, the current path, the gate, the milestones achieved and the
narrative that waits, the transcript and the scene. -/
theorem order_makes_no_difference (h : World.Redeclared json other) :
    ((∃ world fs, World.decode json = .ok world ∧ world.build = .ok fs)
        ↔ ∃ world fs, World.decode other = .ok world ∧ world.build = .ok fs)
      ∧ ∀ {world twin : World} {everythingOpen : Bool} {first second : Session}
        {events otherEvents : List Event}, World.decode json = .ok world →
        ofWorld world everythingOpen = .ok (first, events) → World.decode other = .ok twin →
        ofWorld twin everythingOpen = .ok (second, otherEvents) →
        second.view = first.view
          ∧ ∀ {rounds others : List Round}, rounds.map Round.line = others.map Round.line →
            (∀ round ∈ rounds, ∀ meddling ∈ round.meddlings, meddling.isCollection = true) →
            (∀ round ∈ others, ∀ meddling ∈ round.meddlings, meddling.isCollection = true) →
            List.Forall₂ SameView (course rounds first) (course others second) := by
  refine ⟨⟨?_, ?_⟩, ?_⟩
  · rintro ⟨world, fs, hworld, hbuild⟩
    obtain ⟨twin, -, built, htwin, hbuilt, -⟩ := built_of_redeclared h hworld hbuild
    exact ⟨twin, built, htwin, hbuilt⟩
  · rintro ⟨twin, built, htwin, hbuilt⟩
    obtain ⟨world, -, fs, hworld, hbuild, -⟩ := built_of_redeclared h.symm htwin hbuilt
    exact ⟨world, fs, hworld, hbuild⟩
  · intro world twin everythingOpen first second events otherEvents hworld hfirst htwin hsecond
    obtain ⟨fs, hbuild, rfl⟩ := start_of_ofWorld hfirst
    obtain ⟨built, hbuilt, rfl⟩ := start_of_ofWorld hsecond
    obtain ⟨same, f, sameBuilt, hsame, hsameBuilt, hreordered, halike⟩ :=
      built_of_redeclared h hworld hbuild
    obtain rfl := Except.ok.inj (hsame.symm.trans htwin)
    obtain rfl := Except.ok.inj (hsameBuilt.symm.trans hbuilt)
    have htwins := twins_of_reordered hreordered halike everythingOpen
    exact ⟨htwins.view, fun hlines hrounds hothers => htwins.course hlines hrounds hothers⟩

/-- A file that is read and copied, in trees that are planted in different orders. -/
theorem order_makes_no_difference_to_a_copy :
    let note : Json := .object [("name", .string "note"), ("content", .string "hello")]
    let list : Json := .object [("name", .string "list")]
    let bin : Json := .object [("name", .string "bin"), ("type", .string "directory")]
    let home (items : List Json) : Json := .object [("name", .string "home"),
      ("type", .string "directory"), ("children", .array items)]
    let json : Json := .object [("id", .string "w"),
      ("well_known", .object [("bin", .string "/bin"), ("desk", .string "/home")]),
      ("allowed_commands", .array [.string "cd", .string "cp", .string "ls", .string "cat"]),
      ("tree", .array [home [note, list], bin])]
    let other : Json := .object [("id", .string "w"),
      ("well_known", .object [("desk", .string "/home"), ("bin", .string "/bin")]),
      ("allowed_commands", .array [.string "cp", .string "cd", .string "ls", .string "cat"]),
      ("tree", .array [bin, home [list, note]])]
    let rounds : List Round := ["cd home", "ls", "cat note", "cp note"].map (⟨[], ·⟩)
    let others : List Round := ["cd home", "ls", "cat note", "cp note"].map (⟨[.collect []], ·⟩)
    ∃ world twin first second, World.Redeclared json other
      ∧ World.decode json = .ok world ∧ ofWorld world false = .ok first
      ∧ World.decode other = .ok twin ∧ ofWorld twin false = .ok second
      ∧ (course rounds first.1).map (fun reply => reply.1.bind Result.target)
        = [some 1, none, some 2, some 2]
      ∧ (course others second.1).map (fun reply => reply.1.bind Result.target)
        = [some 2, none, some 4, some 4]
      ∧ second.1.view = first.1.view
      ∧ List.Forall₂ SameView (course rounds first.1) (course others second.1) := by
  intro note list bin home json other rounds others
  have hhome : Seed.Redeclared (home [note, list]) (home [list, note]) :=
    @Seed.Redeclared.children [("name", .string "home"), ("type", .string "directory")] [] _ _ _
      (List.forall₂_same.2 fun item _ => .same item) (.swap list note [])
  have hredeclared : World.Redeclared json other :=
    .object (.cons (.same _) (.cons (.roles (by decide) (.swap _ _ _))
      (.cons (.commands (.inl rfl) rfl rfl (.swap _ _ _))
        (.cons (.tree (.cons hhome (.cons (.same bin) .nil)) (.swap _ _ _)) .nil))))
  have hrun : (World.decode json).toOption.bind (fun world =>
      (ofWorld world false).toOption.map fun start =>
        (course rounds start.1).map fun reply => reply.1.bind Result.target)
      = some [some 1, none, some 2, some 2] := by decide +kernel
  have hrunOther : (World.decode other).toOption.bind (fun world =>
      (ofWorld world false).toOption.map fun start =>
        (course others start.1).map fun reply => reply.1.bind Result.target)
      = some [some 2, none, some 4, some 4] := by decide +kernel
  obtain ⟨world, hworld, hrun⟩ := Option.bind_eq_some_iff.1 hrun
  obtain ⟨first, hfirst, hrun⟩ := Option.map_eq_some_iff.1 hrun
  obtain ⟨twin, htwin, hrunOther⟩ := Option.bind_eq_some_iff.1 hrunOther
  obtain ⟨second, hsecond, hrunOther⟩ := Option.map_eq_some_iff.1 hrunOther
  have hdecode := ok_of_toOption hworld
  have hstart := ok_of_toOption hfirst
  have hdecodeTwin := ok_of_toOption htwin
  have hstartTwin := ok_of_toOption hsecond
  obtain ⟨hview, hcourse⟩ :=
    (order_makes_no_difference hredeclared).2 hdecode hstart hdecodeTwin hstartTwin
  exact ⟨world, twin, first, second, hredeclared, hdecode, hstart, hdecodeTwin, hstartTwin, hrun,
    hrunOther, hview, hcourse rfl (by decide) (by decide)⟩

end Session

end StoryShell
