/-
Which directories can be entered.

Past the gate, a directory can be made the current one just if every name on the way to it can be
typed as the path of `cd`: it has no blanks, at which lines are cut, and it is neither `..` nor `~`,
which have a meaning of their own (`enterable_iff`). That this is enough is a walk down from the
root. That it is necessary is kept by every line: what a word leads down to has the key of the word,
so a name with a blank would need a blank in the word, and the two names with a meaning of their own
have no other spelling (`Enterable.of_spelling`).
-/
import StoryShell.Proofs.Session.Passage
import StoryShell.Proofs.Session.Paths
import StoryShell.Proofs.Session.Walks
import StoryShell.Proofs.Text.SameName
import StoryShell.Proofs.World.Faithful

set_option autoImplicit false

namespace StoryShell

/-! ## Names -/

/-- **A name can be entered by if another spelling of it can.** -/
theorem Enterable.of_spelling {name spelling : String} (h : Enterable spelling)
    (hsame : Text.lower spelling = Text.lower name) : Enterable name where
  not_blank := by
    intro c hc
    by_contra hblank
    rw [Bool.not_eq_false] at hblank
    -- the blank would show in the lower case, and come from the spelling
    have hlower := Text.mem_lower_of_isBlank hblank hc
    rw [← hsame, Text.toList_lower] at hlower
    have hmem := Text.mem_of_mem_lowerFrom (Text.isSeparator_of_isBlank hblank) hlower
    rw [h.not_blank c hmem] at hblank
    exact absurd hblank (by decide)
  ne_up := by
    have hmark : spelling = ".." ↔ name = ".." :=
      Text.eq_mark_iff (by simp [Text.marks]) (by decide +kernel) hsame
    exact fun hname => h.ne_up (hmark.2 hname)
  ne_home := by
    have hmark : spelling = "~" ↔ name = "~" :=
      Text.eq_mark_iff (by simp [Text.marks]) (by decide +kernel) hsame
    exact fun hname => h.ne_home (hmark.2 hname)

/-! ## Where moves lead -/

/-- The names on the way to a directory, all of which can be entered by. -/
def Forest.EnterableTo (forest : Forest) (directory : NodeId) : Prop :=
  ∀ name ∈ forest.segments directory, Enterable name

namespace FileSystem

/-- **A word leads from a directory to one that can be entered like it.** -/
theorem Grown.enterableTo_destination {ok : String → Prop} {fs : FileSystem} (hgrown : fs.Grown ok)
    (hcwd : fs.forest.EnterableTo fs.cwd) {path : String} (hpath : Text.IsWord path)
    {target : NodeId} (h : fs.destination path = .ok target) : fs.forest.EnterableTo target := by
  have hforest := hgrown.sound.forest
  rcases destination_cases h with rfl | rfl | ⟨name, rfl, -, hhome, hup, hchild, -⟩
  · rw [Forest.EnterableTo, Forest.segments_root hgrown.top]
    exact fun name hname => absurd hname List.not_mem_nil
  · cases hparent : fs.forest.parentOf fs.cwd with
    | none => exact hcwd
    | some parent =>
      -- one step up there is one name less
      rw [Forest.EnterableTo, Forest.segments_of_parentOf hforest hgrown.top hparent] at hcwd
      exact fun name hname => hcwd name (List.mem_append_left _ hname)
  · obtain ⟨hkey, hlies⟩ := hforest.of_get? hchild
    rw [Forest.EnterableTo, Forest.segments_of_parentOf hforest hgrown.top hlies]
    intro name hname
    rcases List.mem_append.1 hname with hname | hname
    · exact hcwd name hname
    · rw [List.mem_singleton.1 hname]
      exact Enterable.of_spelling ⟨Text.not_blank_slashless hpath, hup, hhome⟩ hkey

end FileSystem

namespace Session

variable {first session : Session} {history : List Turn}

/-! ## Lines past the gate -/

/-- Carries out lines one after the other, past the gate. -/
def directAll (session : Session) (raws : List String) : Session :=
  raws.foldl (fun session raw => (session.direct raw).2.1) session

/-- Lines that are carried out past the gate are a run. -/
theorem runs_directAll (first : Session) (raws : List String) :
    ∃ history, first.Runs history (first.directAll raws) :=
  List.foldlRecOn raws _ (motive := fun session => ∃ history, first.Runs history session)
    ⟨[], .start⟩ fun _ ⟨_, hruns⟩ raw _ => ⟨_, hruns.direct raw⟩

/-- Moves are made past the gate, along words. -/
theorem moves_direct : Moves (fun session raw => (session.direct raw).2.1)
    (fun session => session.interpreter = .sound) Text.IsWord where
  fs := by
    intro session path target hsound hpath hleads
    have houtages : session.interpreter.outages = [] := by
      rw [hsound]
      rfl
    have hmoved := direct_line houtages hpath (Interpreter.Succeeds.cd hleads)
    rw [hmoved.2]
    exact (publish_fixed _ _).1
  ready := by
    intro session path hsound
    simp only [direct, execute]
    exact (publish_fixed _ _).2.1.trans hsound

/-- **A line leads from a directory to one that can be entered like it.** -/
theorem enterableTo_direct {ok : String → Prop} (hgrown : session.fs.Grown ok)
    (hcwd : session.fs.forest.EnterableTo session.fs.cwd) (raw : String) :
    session.fs.forest.EnterableTo (session.direct raw).2.1.fs.cwd := by
  have hfs : (session.direct raw).2.1.fs
      = (session.interpreter.execute session.fs session.scene.nodes raw).fs := by
    simp only [direct, execute]
    generalize session.interpreter.execute session.fs session.scene.nodes raw = execution
    exact (publish_fixed _ _).1
  rw [hfs]
  rcases session.interpreter.execute_cases hgrown.sound session.scene.nodes raw with
    ⟨-, hsame⟩ | ⟨-, hsame⟩ | ⟨command, -, hsucceeds⟩
  · rwa [hsame]
  · rwa [hsame]
  · rcases hsucceeds.cwd hgrown.sound with hstays | ⟨-, -, path, rest, harguments, hleads⟩
    · rwa [hstays]
    · have hpath : Text.IsWord path :=
        Line.isWord_of_mem_arguments (by rw [harguments]; exact List.mem_cons_self)
      exact hgrown.enterableTo_destination hcwd hpath hleads

variable {world : World} {everythingOpen : Bool} {events : List Event}

/-- **Lines past the gate lead only where every name can be entered by.** -/
theorem enterableTo_directAll (hstart : ofWorld world everythingOpen = .ok (first, events))
    (raws : List String) : first.fs.forest.EnterableTo (first.directAll raws).fs.cwd := by
  have hfirst := (grown_of_ofWorld hstart).fs
  induction raws using List.reverseRecOn with
  | nil =>
    -- a session starts in the root
    have hroot := (World.fixed_build (build_of_ofWorld hstart)).1
    rw [directAll, List.foldl_nil, hroot, Forest.EnterableTo, Forest.segments_root hfirst.top]
    exact fun name hname => absurd hname List.not_mem_nil
  | append_singleton raws raw ih =>
    obtain ⟨history, hruns⟩ := first.runs_directAll raws
    have hline : first.directAll (raws ++ [raw]) = ((first.directAll raws).direct raw).2.1 := by
      rw [directAll, List.foldl_append]
      rfl
    rw [hline]
    generalize first.directAll raws = session at hruns ih ⊢
    have hgrown := (hruns.grown (grown_of_ofWorld hstart)).fs
    have hframed := hruns.framed hstart
    -- the names on the way to a directory are those of the start, before the line and after it
    have hsame : ∀ {id}, session.fs.forest.isDirectory id = true →
        (session.fs.forest.EnterableTo id ↔ first.fs.forest.EnterableTo id) := by
      intro id hid
      rw [hframed.forest.isDirectory] at hid
      rw [Forest.EnterableTo, segments_of_isDirectory hstart hruns hid, Forest.EnterableTo]
    have hafter : session.fs.forest.isDirectory (session.direct raw).2.1.fs.cwd = true := by
      have hcwd := ((hruns.direct raw).grown (grown_of_ofWorld hstart)).fs.sound.cwd
      rwa [((hruns.direct raw).framed hstart).forest.isDirectory,
        ← hframed.forest.isDirectory] at hcwd
    exact (hsame hafter).1 (enterableTo_direct hgrown ((hsame hgrown.sound.cwd).2 ih) raw)

/-- **Which directories can be entered** by lines past the gate, in a world that was read: those on
the way to which no name has a blank or is one of the two names with a meaning of their own. -/
theorem enterable_iff {json : Json} (hread : World.decode json = .ok world)
    (hstart : ofWorld world everythingOpen = .ok (first, events)) {directory : NodeId}
    (hdirectory : first.fs.forest.isDirectory directory = true) :
    (∃ raws, (first.directAll raws).fs.cwd = directory)
      ↔ ∀ name ∈ first.fs.forest.segments directory, Enterable name := by
  constructor
  · rintro ⟨raws, rfl⟩
    exact enterableTo_directAll hstart raws
  · intro hnames
    have hgrown := (grown_ofWorld (World.allNames_of_decode hread) hstart).fs
    have htree := isTree_of_ofWorld hstart directory (Forest.node?_of_isDirectory hdirectory)
    have hwords : ∀ name ∈ first.fs.forest.segments directory,
        Text.IsWord name ∧ Seed.IsName name ∧ Enterable name := by
      intro name hname
      have hisName := hgrown.isName_of_mem_segments htree name hname
      exact ⟨(hnames name hname).isWord hisName, hisName, hnames name hname⟩
    have hinterpreter : first.interpreter = .sound := (Runs.framed .start hstart).interpreter
    have hwalk := moves_direct.fs_wayTo hinterpreter (by decide +kernel) hwords
      (Forest.foldlM_segments hgrown.sound.forest hgrown.top htree) hdirectory
    refine ⟨wayTo (first.fs.forest.segments directory), ?_⟩
    rw [directAll, hwalk.1]

/-- A directory that can be entered, one that lies below a name with a blank, and one of a name with
a meaning of its own. -/
theorem enterable_iff_below_home :
    let json : Json := .object [("id", .string "w"), ("tree", .array [
      .object [("name", .string "Home"), ("type", .string "directory"), ("children", .array [
        .object [("name", .string "Docs"), ("type", .string "directory")],
        .object [("name", .string "My Docs"), ("type", .string "directory"), ("children", .array [
          .object [("name", .string "Deep"), ("type", .string "directory")]])]])],
      .object [("name", .string ".."), ("type", .string "directory")]])]
    ∃ (world : World) (first : Session) (events : List Event),
      World.decode json = .ok world ∧ ofWorld world false = .ok (first, events)
        ∧ first.fs.forest.segments 2 = ["Home", "Docs"]
        ∧ (∃ raws, (first.directAll raws).fs.cwd = 2)
        ∧ first.fs.forest.segments 4 = ["Home", "My Docs", "Deep"]
        ∧ (¬ ∃ raws, (first.directAll raws).fs.cwd = 4)
        ∧ first.fs.forest.segments 5 = [".."]
        ∧ ¬ ∃ raws, (first.directAll raws).fs.cwd = 5 := by
  intro json
  have hrun : (World.decode json).toOption.bind (fun world =>
      (ofWorld world false).toOption.map fun start =>
        ([2, 4, 5].map start.1.fs.forest.isDirectory, [2, 4, 5].map start.1.fs.forest.segments))
      = some ([true, true, true],
        [["Home", "Docs"], ["Home", "My Docs", "Deep"], [".."]]) := by decide +kernel
  obtain ⟨world, hworld, hrun⟩ := Option.bind_eq_some_iff.1 hrun
  obtain ⟨start, hstart, hrun⟩ := Option.map_eq_some_iff.1 hrun
  have hdecode := ok_of_toOption hworld
  have hof := ok_of_toOption hstart
  simp only [List.map_cons, List.map_nil, Prod.mk.injEq, List.cons.injEq, and_true] at hrun
  obtain ⟨⟨hdocs, hdeep, hup⟩, hdocsNames, hdeepNames, hupNames⟩ := hrun
  refine ⟨world, start.1, start.2, hdecode, hof, hdocsNames, ?_, hdeepNames, ?_, hupNames, ?_⟩
  · rw [enterable_iff hdecode hof hdocs, hdocsNames]
    decide +kernel
  · rw [enterable_iff hdecode hof hdeep, hdeepNames]
    decide +kernel
  · rw [enterable_iff hdecode hof hup, hupNames]
    decide +kernel

end Session

end StoryShell
