/-
The file systems of worlds that differ in order only.

Where the tree of a world is planted in another order the nodes have other numbers, but the same
names lead to the same things: a name leads to the one child that has it, wherever it stands among
its siblings (`Seed.follows_of_reordered`). So what is planted is alike, and since the roles go by
paths each is that of directories that stand for each other (`World.build_of_reordered`).
-/
import StoryShell.Proofs.Tree.Counterpart
import StoryShell.Proofs.Tree.Ways
import StoryShell.Proofs.World.Order

set_option autoImplicit false

namespace StoryShell

/-! ## Seeds -/

namespace Seed

/-- How the node of a seed looks by itself. -/
def look : Seed → String × Bool × String
  | .file name text => (name, false, text)
  | .directory name _ _ => (name, true, "")

theorem Reordered.look {seed other : Seed} (h : seed.Reordered other) : other.look = seed.look := by
  cases h with
  | same => rfl
  | children => rfl

/-- **The same names lead on** from seeds that differ in the order of siblings only, and to such. -/
theorem follows_of_reordered {seed other found : Seed} {names : List String} {address : List Nat}
    (h : seed.Reordered other) (hfollows : seed.Follows names address)
    (hfound : seed.below? address = some found) :
    ∃ way twin, other.Follows names way ∧ other.below? way = some twin ∧ found.Reordered twin := by
  induction names generalizing seed other address with
  | nil =>
    cases address with
    | nil =>
      obtain rfl := Option.some.inj hfound
      exact ⟨[], other, trivial, rfl, h⟩
    | cons index rest => exact False.elim hfollows
  | cons name names ih =>
    cases address with
    | nil => exact False.elim hfollows
    | cons index rest =>
      obtain ⟨child, hchild, hkey, hrest⟩ := hfollows
      obtain ⟨same, hsame, hbelow⟩ := below?_cons_eq_some_iff.1 hfound
      obtain rfl := Option.some.inj (hchild.symm.trans hsame)
      obtain ⟨twin, htwin, hreordered⟩ := h.exists_child (List.mem_of_getElem? hchild)
      obtain ⟨position, hposition⟩ := List.getElem?_of_mem htwin
      obtain ⟨way, last, hway, hlast, hlastReordered⟩ := ih hreordered hrest hbelow
      refine ⟨position :: way, last, ⟨twin, hposition, ?_, hway⟩,
        below?_cons_eq_some_iff.2 ⟨twin, hposition, hlast⟩, hlastReordered⟩
      rw [key, hreordered.name, ← key, hkey]

end Seed

/-! ## Forests -/

namespace Forest

variable {forest other : Forest} {top topOther : Seed} {place placeOther : List Nat → NodeId}

/-- A node looks like the seed that it has become. -/
theorem Mirrors.look_place (h : forest.Mirrors top place) {address : List Nat} {seed : Seed}
    (hseed : top.below? address = some seed) : forest.look (place address) = seed.look := by
  obtain ⟨node, hnode, hshows⟩ := h.node hseed
  rw [look, nameOf, isDirectory, textOf, hnode]
  obtain ⟨name, parent, body⟩ := node
  cases seed with
  | file =>
    obtain ⟨rfl, rfl⟩ := hshows
    rfl
  | directory =>
    obtain ⟨rfl, hdirectory⟩ := hshows
    cases body with
    | file text => exact absurd hdirectory (by simp [Node.isDirectory])
    | directory children => rfl

/-- What names lead to in a forest that mirrors a tree. -/
theorem Mirrors.follow_eq_some_iff (h : forest.Mirrors top place) (hsound : forest.Sound)
    {names : List String} {id : NodeId} :
    forest.follow names = some id ↔ ∃ address, top.Follows names address ∧ place address = id := by
  have htop : top.below? [] = some top := rfl
  rw [follow, ← h.root]
  exact h.foldlM_place_eq_some_iff hsound htop

/-- **Forests that mirror trees in different orders have the same ways.** -/
theorem Mirrors.sameWays (h : forest.Mirrors top place) (hsound : forest.Sound)
    (hother : other.Mirrors topOther placeOther) (hotherSound : other.Sound)
    (hreordered : top.Reordered topOther) : forest.SameWays other where
  there := fun {names id} hfollow => by
    obtain ⟨address, hfollows, rfl⟩ := (h.follow_eq_some_iff hsound).1 hfollow
    obtain ⟨seed, hseed⟩ := Seed.below?_of_follows hfollows
    obtain ⟨way, twin, hway, htwin, hsame⟩ := Seed.follows_of_reordered hreordered hfollows hseed
    refine ⟨placeOther way, (hother.follow_eq_some_iff hotherSound).2 ⟨way, hway, rfl⟩, ?_⟩
    rw [hother.look_place htwin, h.look_place hseed, hsame.look]
  back := fun {names twin} hfollow => by
    obtain ⟨address, hfollows, -⟩ := (hother.follow_eq_some_iff hotherSound).1 hfollow
    obtain ⟨seed, hseed⟩ := Seed.below?_of_follows hfollows
    obtain ⟨way, -, hway, -⟩ := Seed.follows_of_reordered hreordered.symm hfollows hseed
    exact ⟨place way, (h.follow_eq_some_iff hsound).2 ⟨way, hway, rfl⟩⟩

/-- A forest that lists as many nodes as it has numbers has a node under each of them. -/
theorem Lists.node?_of_lt {nodes : List Node} (h : forest.Lists nodes) {id : NodeId}
    (hid : id < forest.slots.size) : forest.node? id ≠ none := by
  intro hnone
  have hlisted := h.node id
  rw [hnone, Option.map_none, eq_comm, List.getElem?_eq_none_iff, ← h.size] at hlisted
  exact absurd hid (Nat.not_lt.2 hlisted)

end Forest

/-! ## Worlds -/

namespace World

variable {world twin : World}

/-- The trees of worlds that differ in order only. -/
theorem Reordered.top (h : world.Reordered twin) : world.top.Reordered twin.top := by
  obtain ⟨between, each, order⟩ := h.seeds
  exact .children each order

/-- **What is planted is one whole tree** that mirrors the tree of the world, with as many nodes. -/
theorem planted_whole (hdistinct : Seed.Distinct world.seeds)
    (hproper : ∀ seed ∈ world.seeds, seed.All Seed.IsProper) :
    ∃ planted, Seed.plantAll Forest.root world.seeds FileSystem.initial = .ok planted
      ∧ planted.cwd = Forest.root ∧ planted.roles = NameMap.empty
      ∧ planted.forest.Mirrors world.top world.top.number ∧ planted.forest.Whole
      ∧ planted.forest.slots.size = world.top.count := by
  obtain ⟨planted, hplant, hplanted⟩ := planted_of_proper hdistinct hproper
  have hlists : planted.forest.Lists (world.top.nodes none Forest.root) := hplanted.lists
  have hmirrors := Forest.mirrors_of_lists hplanted.sound.forest hlists
  refine ⟨planted, hplant, hplanted.fixed.1, hplanted.fixed.2, hmirrors,
    ⟨hplanted.sound.forest, hmirrors.above, Forest.node?_of_isDirectory hplanted.sound.root,
      fun id hid => isTree_plantAll hplant id (hlists.node?_of_lt hid)⟩, ?_⟩
  rw [hlists.size, Seed.length_nodes]

/-- What paths lead to in forests that are alike. -/
theorem leads_of_alike {forest other : Forest} {f : NodeId → NodeId} (h : forest.Alike f other)
    {path : String} {directory : NodeId} (hleads : Leads forest path directory) :
    Leads other path (f directory) := by
  have htree : forest.InTree directory :=
    (Forest.segments_of_foldlM h.sound h.top hleads.1).1
  exact ⟨by rw [h.resolve, hleads.1]; rfl, by rw [h.isDirectory htree, hleads.2]⟩

/-- **Trees that differ in order only are planted alike.** -/
theorem planted_of_reordered (hdistinct : Seed.Distinct world.seeds)
    (hproper : ∀ seed ∈ world.seeds, seed.All Seed.IsProper)
    (hdistinctTwin : Seed.Distinct twin.seeds)
    (hproperTwin : ∀ seed ∈ twin.seeds, seed.All Seed.IsProper) (h : world.Reordered twin) :
    ∃ f planted plantedTwin, Seed.plantAll Forest.root world.seeds FileSystem.initial = .ok planted
      ∧ Seed.plantAll Forest.root twin.seeds FileSystem.initial = .ok plantedTwin
      ∧ planted.forest.Whole ∧ plantedTwin.forest.Whole ∧ planted.Alike f plantedTwin := by
  obtain ⟨planted, hplant, hcwd, hroles, hmirrors, hwhole, hsize⟩ := planted_whole hdistinct hproper
  obtain ⟨plantedTwin, hplantTwin, hcwdTwin, hrolesTwin, hmirrorsTwin, hwholeTwin, hsizeTwin⟩ :=
    planted_whole hdistinctTwin hproperTwin
  have halike := (hmirrors.sameWays hwhole.sound hmirrorsTwin hwholeTwin.sound h.top).alike hwhole
    hwholeTwin (by rw [hsize, hsizeTwin, h.top.count])
  have hnames : ∀ seeds, Seed.AllNames (fun _ => True) seeds :=
    Seed.allNames_of_forall fun _ => trivial
  refine ⟨_, planted, plantedTwin, hplant, hplantTwin, hwhole, hwholeTwin,
    grown_plantAll (hnames _) hplant, grown_plantAll (hnames _) hplantTwin, halike, ?_, ?_, ?_⟩
  · rw [hcwd]
    exact Relation.ReflTransGen.refl
  · rw [hcwd, hcwdTwin, halike.root]
  · rw [hroles, hrolesTwin]
    rfl

/-- **Roles that go by the same paths** are given alike, in any order. -/
theorem assignRoles_alike {fs other after : FileSystem} {f : NodeId → NodeId} (h : fs.Alike f other)
    (hwhole : fs.forest.Whole) (hother : other.forest.Whole) {id : String}
    {entries others : List (String × String)} (hmem : ∀ entry, entry ∈ others ↔ entry ∈ entries)
    (hpaths : ∀ role, pathIn? others role = pathIn? entries role)
    (hassign : entries.foldlM (assignRole id) fs = .ok after) :
    ∃ built, others.foldlM (assignRole id) other = .ok built ∧ after.Alike f built := by
  rcases assignRoles_cases id fs (fun _ => hwhole.isAttached) entries with
    ⟨same, hsame, hforest, hcwd, hall, hroles⟩ | ⟨_, _, _, herror⟩
  swap
  · rw [hassign] at herror
    exact absurd herror (by simp)
  obtain rfl := Except.ok.inj (hassign.symm.trans hsame)
  rcases assignRoles_cases id other (fun _ => hother.isAttached) others with
    ⟨built, hbuilt, hforestOther, hcwdOther, -, hrolesOther⟩ | ⟨entry, hentry, hnone, -⟩
  swap
  · -- every path leads somewhere on the one side, and so it does on the other
    obtain ⟨directory, hleads⟩ := hall entry ((hmem entry).1 hentry)
    exact absurd (leads_of_alike h.forest hleads) (hnone _)
  refine ⟨built, hbuilt, grown_assignRoles h.grown hassign, grown_assignRoles h.otherGrown hbuilt,
    ?_, ?_, ?_, NameMap.ext_get? fun role => ?_⟩
  · rw [hforest, hforestOther]
    exact h.forest
  · rw [hforest, hcwd]
    exact h.inTree_cwd
  · rw [hcwd, hcwdOther, h.cwd]
  · have hrole := hroles role
    have hroleOther := hrolesOther role
    rw [hpaths] at hroleOther
    rw [NameMap.get?_map]
    cases hpath : pathIn? entries role with
    | none =>
      rw [hpath] at hrole hroleOther
      rw [hrole, hroleOther, h.roles, NameMap.get?_map]
    | some path =>
      rw [hpath] at hrole hroleOther
      obtain ⟨directory, hleads, hget⟩ := hrole
      obtain ⟨directoryOther, hleadsOther, hgetOther⟩ := hroleOther
      have hstands := (leads_of_alike h.forest hleads).1
      rw [hleadsOther.1] at hstands
      rw [hget, hgetOther, Option.some.inj hstands]
      rfl

/-- **Worlds that differ in order only are built alike.** -/
theorem build_of_reordered (hdistinct : Seed.Distinct world.seeds)
    (hproper : ∀ seed ∈ world.seeds, seed.All Seed.IsProper)
    (hdistinctTwin : Seed.Distinct twin.seeds)
    (hproperTwin : ∀ seed ∈ twin.seeds, seed.All Seed.IsProper) (h : world.Reordered twin)
    {fs : FileSystem} (hbuild : world.build = .ok fs) :
    ∃ f built, twin.build = .ok built ∧ fs.Alike f built := by
  obtain ⟨f, planted, plantedTwin, hplant, hplantTwin, hwhole, hwholeTwin, halike⟩ :=
    planted_of_reordered hdistinct hproper hdistinctTwin hproperTwin h
  rw [build, hplant] at hbuild
  rw [build, hplantTwin, h.id]
  exact ⟨f, assignRoles_alike halike hwhole hwholeTwin h.wellKnown h.pathOf? hbuild⟩

end World

end StoryShell
