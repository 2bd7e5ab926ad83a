/-
Paths in the sessions of a world.

A world that was read has no name that is empty or has a slash, and no line brings one in, since a
copy has the name of its source. So in every session that such a world comes to, paths and nodes are
inverse (`paths_and_nodes_inverse`). The current directory is among the directories of the start,
which all stay in the tree, and so its path leads to it.
-/
import StoryShell.Proofs.Session.Frame
import StoryShell.Proofs.Tree.Paths

set_option autoImplicit false

namespace StoryShell.Session

open Forest (segmentsOf)

variable {first session : Session} {history : List Turn}

/-- The current directory belongs to the tree. -/
theorem inTree_cwd {world : World} {everythingOpen : Bool} {events : List Event}
    (hstart : ofWorld world everythingOpen = .ok (first, events))
    (hruns : first.Runs history session) : session.fs.forest.InTree session.fs.cwd := by
  have hfirst := grown_of_ofWorld hstart
  have hframed := hruns.framed hstart
  have hcwd := (hruns.grown hfirst).fs.sound.cwd
  rw [hframed.forest.isDirectory] at hcwd
  exact hframed.forest.inTree hfirst.fs.sound.forest (isTree_of_ofWorld hstart) hcwd

/-- **The names on the way to a directory** stay what they were at the start. -/
theorem segments_of_isDirectory {world : World} {everythingOpen : Bool} {events : List Event}
    (hstart : ofWorld world everythingOpen = .ok (first, events))
    (hruns : first.Runs history session) {id : NodeId}
    (hid : first.fs.forest.isDirectory id = true) :
    session.fs.forest.segments id = first.fs.forest.segments id := by
  have hfirst := (grown_of_ofWorld hstart).fs
  have hgrown := (hruns.grown (grown_of_ofWorld hstart)).fs
  have hframed := (hruns.framed hstart).forest
  have htree := isTree_of_ofWorld hstart id (Forest.node?_of_isDirectory hid)
  -- the way up from a directory leads through directories, which lie where they lay
  induction htree using Relation.ReflTransGen.head_induction_on with
  | refl => rw [Forest.segments_root hgrown.top, Forest.segments_root hfirst.top]
  | @head child parent hlies _ ih =>
    rw [Forest.segments_of_parentOf hfirst.sound.forest hfirst.top hlies,
      Forest.segments_of_parentOf hgrown.sound.forest hgrown.top
        ((hframed.parentOf child hid).trans hlies),
      ih (hfirst.sound.forest.isDirectory_of_parentOf hlies), hframed.nameOf child hid]

/-- **Paths and nodes are inverse**, in every session that a world comes to that was read. The path
of a node that can be reached from the root leads to the node. What a written path leads to can be
reached from the root, and the path has the segments of its own path, but for case; so different
nodes have different paths. The path of the current directory leads to it. And the path that a
search gives leads to a node with the key that was looked for. -/
theorem paths_and_nodes_inverse {json : Json} {world : World} {everythingOpen : Bool}
    {events : List Event} (hread : World.decode json = .ok world)
    (hstart : ofWorld world everythingOpen = .ok (first, events))
    (hruns : first.Runs history session) :
    (∀ id, session.fs.forest.Reachable id →
        session.fs.forest.resolve (session.fs.forest.pathOf id) = some id)
      ∧ (∀ path id, session.fs.forest.resolve path = some id →
        session.fs.forest.Reachable id
          ∧ (segmentsOf path).map Text.lower
            = (segmentsOf (session.fs.forest.pathOf id)).map Text.lower)
      ∧ (∀ id other, session.fs.forest.Reachable id → session.fs.forest.Reachable other →
        session.fs.forest.pathOf id = session.fs.forest.pathOf other → id = other)
      ∧ session.fs.forest.resolve session.fs.currentPath = some session.fs.cwd
      ∧ ∀ name path, session.fs.find name = some path →
        ∃ id, session.fs.forest.resolve path = some id
          ∧ (session.fs.forest.node? id).map Node.key = some (Text.lower name) := by
  have hgrown : session.fs.Grown Seed.IsName :=
    (hruns.grown (grown_ofWorld (World.allNames_of_decode hread) hstart)).fs
  have hreachable : ∀ {id}, session.fs.forest.Reachable id ↔ session.fs.forest.InTree id :=
    Forest.reachable_iff hgrown.sound.forest
  have hresolve : ∀ id, session.fs.forest.Reachable id →
      session.fs.forest.resolve (session.fs.forest.pathOf id) = some id :=
    fun id hid => hgrown.resolve_pathOf (hreachable.1 hid)
  refine ⟨hresolve, fun path id hpath => ?_, fun id other hid hother hsame => ?_, ?_,
    fun name path hfind => hgrown.resolve_of_find hfind⟩
  · obtain ⟨htree, hsegments⟩ := hgrown.segments_of_resolve hpath
    exact ⟨hreachable.2 htree, hsegments⟩
  · -- both are what their one path leads to
    have hboth := hresolve id hid
    rw [hsame, hresolve other hother] at hboth
    exact (Option.some.inj hboth).symm
  · exact hgrown.resolve_barePath (inTree_cwd hstart hruns)

/-- A directory two levels down that is the current one, and a copy of a file from there. -/
theorem paths_and_nodes_inverse_below_home :
    let json : Json := .object [("id", .string "w"),
      ("allowed_commands", .array [.string "cd", .string "cp"]),
      ("well_known", .object [("bin", .string "/Bin")]),
      ("tree", .array [.object [("name", .string "Home"), ("type", .string "directory"),
          ("children", .array [.object [("name", .string "Deep"), ("type", .string "directory"),
            ("children", .array [.object [("name", .string "Note"), ("type", .string "file")]])]])],
        .object [("name", .string "Bin"), ("type", .string "directory")]])]
    ∃ (world : World) (first session : Session) (events : List Event) (history : List Turn),
      World.decode json = .ok world ∧ ofWorld world false = .ok (first, events)
        ∧ first.Runs history session
        ∧ session.fs.forest.resolve "//home/DEEP//" = some 2
        ∧ (segmentsOf "//home/DEEP//").map Text.lower
          = (segmentsOf (session.fs.forest.pathOf 2)).map Text.lower
        ∧ session.fs.cwd = 2 ∧ session.fs.forest.resolve session.fs.currentPath = some 2
        ∧ session.fs.forest.resolve "/bin/note" = some 5
        ∧ session.fs.forest.resolve (session.fs.forest.pathOf 5) = some 5
        ∧ session.fs.find "NOTE" = some "/Bin/Note"
        ∧ ∃ id, session.fs.forest.resolve "/Bin/Note" = some id
          ∧ (session.fs.forest.node? id).map Node.key = some (Text.lower "NOTE") := by
  intro json
  have hrun : (World.decode json).toOption.bind (fun world =>
      (ofWorld world false).toOption.map fun start =>
        let session := (start.1.submitAll ["cd home", "cd DEEP/", "cp note"]).2
        (session.fs.forest.resolve "//home/DEEP//", session.fs.cwd,
          session.fs.forest.resolve "/bin/note", session.fs.find "NOTE"))
      = some (some 2, 2, some 5, some "/Bin/Note") := by decide +kernel
  obtain ⟨world, hworld, hrun⟩ := Option.bind_eq_some_iff.1 hrun
  obtain ⟨start, hstart, hrun⟩ := Option.map_eq_some_iff.1 hrun
  have hdecode := ok_of_toOption hworld
  have hof := ok_of_toOption hstart
  have hruns := start.1.runs_submitAll ["cd home", "cd DEEP/", "cp note"]
  dsimp only at hrun
  generalize start.1.submitAll _ = run at hrun hruns
  simp only [Prod.mk.injEq] at hrun
  obtain ⟨hdeep, hcwd, hcopy, hfind⟩ := hrun
  obtain ⟨hthere, hback, -, hhere, hfound⟩ := paths_and_nodes_inverse hdecode hof hruns
  rw [hcwd] at hhere
  exact ⟨world, start.1, run.2, start.2, run.1, hdecode, hof, hruns, hdeep, (hback _ _ hdeep).2,
    hcwd, hhere, hcopy, hthere 5 (hback _ _ hcopy).1, hfind, hfound _ _ hfind⟩

end StoryShell.Session
