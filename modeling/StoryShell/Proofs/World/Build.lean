/-
The file system of a world has grown from its root.

Planting goes through the tree of the world as the tree is made (`Seed.keeps_plant`,
`Seed.keeps_plantAll`), and each node that it creates lies in a directory that was there before. So
planting keeps whatever creating a node in a directory keeps. The names of the nodes are those of
the world, so whatever is asked of names has to hold of those. Every node that is planted belongs to
the tree of the root, and the roles that are given afterwards change no node (`World.isTree_build`).
-/
import StoryShell.Proofs.Outcome
import StoryShell.Proofs.Tree.InTree
import StoryShell.World.Build

set_option autoImplicit false

namespace StoryShell

variable {ok : String → Prop}

/-! ## Planting -/

namespace Seed

mutual

/-- Whether the names of a seed and of all below it are allowed. -/
def Names (ok : String → Prop) : Seed → Prop
  | .file name _ => ok name
  | .directory name _ children => ok name ∧ AllNames ok children

/-- Whether the names of some seeds and of all below them are allowed. -/
def AllNames (ok : String → Prop) : List Seed → Prop
  | [] => True
  | seed :: rest => Names ok seed ∧ AllNames ok rest

end

/-- A property of file systems that is kept when a node with an allowed name is created in a
directory. -/
def KeptByCreating (ok : String → Prop) (P : FileSystem → Prop) : Prop :=
  ∀ {fs after : FileSystem} {parent id : NodeId} {name : String} {body : Body}, P fs →
    fs.forest.isDirectory parent = true → body.children = NameMap.empty → ok name →
    fs.createIn parent name body = .ok (id, after) → P after

/-- What planting keeps: such a property, and every directory is still one. -/
structure Keeps (P : FileSystem → Prop) (fs after : FileSystem) : Prop where
  holds : P after
  directories : ∀ {id}, fs.forest.isDirectory id = true → after.forest.isDirectory id = true

variable {P : FileSystem → Prop}

mutual

/-- **Planting a seed.** -/
theorem keeps_plant (hkept : KeptByCreating ok P) {parent : NodeId} : (seed : Seed) →
    {fs after : FileSystem} → P fs → fs.forest.isDirectory parent = true → seed.Names ok →
    seed.plant parent fs = .ok after → Keeps P fs after
  | .file name text, fs, after, hfs, hparent, hname, h => by
    rw [plant] at h
    obtain ⟨created, hcreated, rfl⟩ := map_eq_ok.1 h
    exact ⟨hkept hfs hparent rfl hname hcreated, FileSystem.isDirectory_of_createIn rfl hcreated⟩
  | .directory name text children, fs, after, hfs, hparent, ⟨hname, hchildren⟩, h => by
    rw [plant] at h
    cases hcreated : fs.createDirectory parent name with
    | error error => simp [hcreated] at h
    | ok created =>
      simp only [hcreated] at h
      -- the children are planted in the directory that was just created
      have hkeeps := keeps_plantAll hkept children (hkept hfs hparent rfl hname hcreated)
        (FileSystem.isDirectory_of_createDirectory hcreated) hchildren h
      exact ⟨hkeeps.holds, fun hid =>
        hkeeps.directories (FileSystem.isDirectory_of_createIn rfl hcreated hid)⟩

/-- **Planting seeds one after the other.** -/
theorem keeps_plantAll (hkept : KeptByCreating ok P) {parent : NodeId} : (seeds : List Seed) →
    {fs after : FileSystem} → P fs → fs.forest.isDirectory parent = true → AllNames ok seeds →
    plantAll parent seeds fs = .ok after → Keeps P fs after
  | [], fs, after, hfs, _, _, h => by
    have hafter : fs = after := by simpa [plantAll] using h
    rw [← hafter]
    exact ⟨hfs, id⟩
  | seed :: rest, fs, after, hfs, hparent, ⟨hseed, hrest⟩, h => by
    rw [plantAll] at h
    cases hplanted : plant parent seed fs with
    | error error => simp [hplanted] at h
    | ok planted =>
      simp only [hplanted] at h
      have hfirst := keeps_plant hkept seed hfs hparent hseed hplanted
      have hlater := keeps_plantAll hkept rest hfirst.holds (hfirst.directories hparent) hrest h
      exact ⟨hlater.holds, fun hid => hlater.directories (hfirst.directories hid)⟩

end

mutual

/-- A seed has allowed names if all names are. -/
theorem names_of_forall (h : ∀ name, ok name) : (seed : Seed) → seed.Names ok
  | .file name _ => h name
  | .directory name _ children => ⟨h name, allNames_of_forall h children⟩

/-- Seeds have allowed names if all names are. -/
theorem allNames_of_forall (h : ∀ name, ok name) : (seeds : List Seed) → AllNames ok seeds
  | [] => trivial
  | seed :: rest => ⟨names_of_forall h seed, allNames_of_forall h rest⟩

end

end Seed

/-! ## Building -/

namespace World

/-- Giving a role to the directory at a path. -/
theorem grown_assignRole {world : String} {fs after : FileSystem} {entry : String × String}
    (hgrown : fs.Grown ok) (h : assignRole world fs entry = .ok after) : after.Grown ok := by
  rw [assignRole] at h
  -- a role is only ever registered for a directory
  split at h
  · exact absurd h (by simp)
  · rename_i directory _
    by_cases hdirectory : fs.forest.isDirectory directory = true
    · rw [if_pos hdirectory] at h
      cases hregister : fs.register entry.1 directory with
      | error error => simp [hregister, Except.mapError] at h
      | ok registered =>
        have hafter : registered = after := by simpa [hregister, Except.mapError] using h
        rw [← hafter]
        exact hgrown.register hdirectory hregister
    · rw [if_neg hdirectory] at h
      exact absurd h (by simp)

/-- Giving roles one after the other. -/
theorem grown_assignRoles {world : String} {entries : List (String × String)}
    {fs after : FileSystem} (hgrown : fs.Grown ok)
    (h : entries.foldlM (assignRole world) fs = .ok after) : after.Grown ok :=
  foldlM_keeps (FileSystem.Grown ok) (fun hstate hstep => grown_assignRole hstate hstep) hgrown h

/-- A role changes no node. -/
theorem forest_assignRole {world : String} {fs after : FileSystem} {entry : String × String}
    (h : assignRole world fs entry = .ok after) : after.forest = fs.forest := by
  rw [assignRole] at h
  split at h
  · exact absurd h (by simp)
  · rename_i directory _
    by_cases hdirectory : fs.forest.isDirectory directory = true
    · rw [if_pos hdirectory] at h
      cases hregister : fs.register entry.1 directory with
      | error error => simp [hregister, Except.mapError] at h
      | ok registered =>
        have hafter : registered = after := by simpa [hregister, Except.mapError] using h
        rw [← hafter, (FileSystem.register_eq_ok_iff.1 hregister).2]
    · rw [if_neg hdirectory] at h
      exact absurd h (by simp)

/-- Roles change no node. -/
theorem forest_assignRoles {world : String} {entries : List (String × String)}
    {fs after : FileSystem} (h : entries.foldlM (assignRole world) fs = .ok after) :
    after.forest = fs.forest :=
  foldlM_keeps (fun state => state.forest = fs.forest)
    (fun hstate hstep => (forest_assignRole hstep).trans hstate) rfl h

/-- What is planted below the root has grown from it. -/
theorem grown_plantAll {seeds : List Seed} {planted : FileSystem} (hnames : Seed.AllNames ok seeds)
    (h : Seed.plantAll Forest.root seeds FileSystem.initial = .ok planted) : planted.Grown ok := by
  have hkept : Seed.KeptByCreating ok (FileSystem.Grown ok) :=
    fun hgrown hparent hbare hname hcreated => hgrown.createIn hparent hbare hname hcreated
  exact (Seed.keeps_plantAll hkept seeds FileSystem.grown_initial rfl hnames h).holds

/-- **The file system of a world has grown from its root.** -/
theorem grown_build {world : World} {fs : FileSystem} (hnames : Seed.AllNames ok world.seeds)
    (h : world.build = .ok fs) : fs.Grown ok := by
  rw [build] at h
  cases hplanted : Seed.plantAll Forest.root world.seeds FileSystem.initial with
  | error error => simp [hplanted] at h
  | ok planted =>
    simp only [hplanted] at h
    exact grown_assignRoles (grown_plantAll hnames hplanted) h

/-- Every node that is planted below the root belongs to the tree. -/
theorem isTree_plantAll {seeds : List Seed} {planted : FileSystem}
    (h : Seed.plantAll Forest.root seeds FileSystem.initial = .ok planted) :
    planted.forest.IsTree := by
  have hkept : Seed.KeptByCreating (fun _ => True) fun fs => fs.forest.IsTree :=
    fun htree hparent hbare _ hcreated => FileSystem.isTree_createIn htree hparent hbare hcreated
  exact (Seed.keeps_plantAll hkept seeds FileSystem.isTree_initial rfl
    (Seed.allNames_of_forall (fun _ => trivial) seeds) h).holds

/-- Planting moves nothing and gives no role. -/
theorem fixed_plantAll {seeds : List Seed} {planted : FileSystem}
    (h : Seed.plantAll Forest.root seeds FileSystem.initial = .ok planted) :
    planted.cwd = Forest.root ∧ planted.roles = NameMap.empty := by
  have hkept : Seed.KeptByCreating (fun _ => True)
      fun fs => fs.cwd = Forest.root ∧ fs.roles = NameMap.empty := by
    rintro fs after parent id name body ⟨hcwd, hroles⟩ - hbare - hcreated
    obtain ⟨hsameCwd, hsameRoles⟩ := FileSystem.fixed_createIn hbare hcreated
    exact ⟨hsameCwd.trans hcwd, hsameRoles.trans hroles⟩
  exact (Seed.keeps_plantAll hkept seeds ⟨rfl, rfl⟩ rfl
    (Seed.allNames_of_forall (fun _ => trivial) seeds) h).holds

/-- **Every node of the file system of a world belongs to its tree.** -/
theorem isTree_build {world : World} {fs : FileSystem} (h : world.build = .ok fs) :
    fs.forest.IsTree := by
  rw [build] at h
  cases hplanted : Seed.plantAll Forest.root world.seeds FileSystem.initial with
  | error error => simp [hplanted] at h
  | ok planted =>
    simp only [hplanted] at h
    rw [forest_assignRoles h]
    exact isTree_plantAll hplanted

end World

end StoryShell
