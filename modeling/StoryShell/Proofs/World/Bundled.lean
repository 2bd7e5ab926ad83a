/-
The bundled world, as it is built.

What is loaded is this one world under whatever id (`eq_bundled_of_load`), and its table of
milestones is valid. Its file system comes of its tree by planting and so is one file system, about
which facts are computed once: where its directories lie and what they hold.
-/
import StoryShell.Proofs.Story.Prerequisites
import StoryShell.Proofs.World.Build
import StoryShell.Proofs.World.Decode
import StoryShell.World.Bundled

set_option autoImplicit false

namespace StoryShell.World

/-- **The world that is loaded** is the bundled one. -/
theorem eq_bundled_of_load {id : String} {world : World} (h : load id = .ok world) :
    world = bundled := by
  unfold load at h
  split at h
  · exact (Except.ok.inj h).symm
  · exact absurd h (by simp)
  · exact absurd h (by simp)

/-- The milestones of the bundled world are valid. -/
theorem valid_bundled : Milestone.Valid bundled.milestones :=
  Milestone.valid_of_validate (ok_of_toOption (by decide +kernel))

/-- The names in the bundled world are not empty and have no slash. -/
theorem allNames_bundled : Seed.AllNames Seed.IsName bundled.seeds := by
  simp only [bundled, bundledSeeds, Seed.AllNames, Seed.Names, and_true]
  decide +kernel

/-! ## The file system -/

namespace Bundled

/-- The number of `/home`. -/
def home : NodeId := 9

/-- The number of `/home/rock`. -/
def rock : NodeId := 17

/-- **Where the sealed directory lies**: it can be reached from `/home` only, since nothing that a
move could go up from lies in it. -/
theorem rock_in_home {fs : FileSystem} (h : bundled.build = .ok fs) :
    fs.forest.isDirectory rock = true ∧ fs.forest.nameOf rock = "rock"
      ∧ fs.forest.segments rock = ["home", "rock"]
      ∧ ∀ id, fs.forest.isDirectory id = true → fs.forest.parentOf id ≠ some rock := by
  have hbuilt : ∀ fs ∈ bundled.build.toOption, fs.forest.isDirectory rock = true
      ∧ fs.forest.nameOf rock = "rock" ∧ fs.forest.segments rock = ["home", "rock"]
      ∧ ∀ id < fs.forest.slots.size, fs.forest.isDirectory id = true →
        fs.forest.parentOf id ≠ some rock := by decide +kernel
  obtain ⟨hdirectory, hname, hsegments, hnone⟩ := hbuilt fs (mem_toOption h)
  exact ⟨hdirectory, hname, hsegments, fun id hid =>
    hnone id (Forest.lt_size_of_node? (Forest.node?_of_isDirectory hid)) hid⟩

end Bundled

end StoryShell.World
