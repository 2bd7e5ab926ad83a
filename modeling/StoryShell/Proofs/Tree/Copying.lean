/-
How a copy ends.

A copy asks, in this order, whether the destination belongs to the tree, whether there is something
to copy and it is a file, whether this file is where it would be copied to, and whether a directory
is in the way. Each answer that stops it leaves everything as it was; otherwise the copy is made
(`CopyEnds`, `copyEnds_copyInto`). Nothing can stop a copy between its two halves: once the file in
the way is taken out, the name is free, because a file stands under the key of its name.
-/
import StoryShell.Proofs.Tree.Changes
import StoryShell.Proofs.Tree.Counterpart

set_option autoImplicit false

namespace StoryShell.FileSystem

variable {fs after : FileSystem} {name : String} {destination source copy : NodeId}

/-! ## What a copy comes to -/

/-- **What a copy that was made leaves.** -/
structure PutsCopy (fs : FileSystem) (destination source copy : NodeId) (after : FileSystem) :
    Prop where
  /-- The copy was not there before. -/
  fresh : fs.forest.node? copy = none
  /-- It is a file like its source, and lies in the destination. -/
  node?_copy : after.forest.node? copy
    = some ⟨fs.forest.nameOf source, some destination, .file (fs.forest.textOf source)⟩
  /-- Of the entries of the destination, that under the key of the name is the copy, and the others
  are what they were. -/
  entries : after.forest.childrenOf destination
    = (fs.forest.childrenOf destination).insert (Text.lower (fs.forest.nameOf source)) copy
  /-- No other child of the destination has this key. -/
  only : ∀ id ∈ after.forest.listing destination,
    Text.lower (after.forest.nameOf id) = Text.lower (fs.forest.nameOf source) → id = copy
  /-- The file that was there lies nowhere any more, and is else what it was. -/
  replaced : ∀ holder, fs.forest.child? destination (fs.forest.nameOf source) = some holder →
    after.forest.node? holder = (fs.forest.node? holder).map ({ · with parent := none })
  /-- The destination keeps its name and its place. -/
  place : after.forest.nameOf destination = fs.forest.nameOf destination
    ∧ after.forest.parentOf destination = fs.forest.parentOf destination
  /-- The source is what it was. -/
  node?_source : after.forest.node? source = fs.forest.node? source
  /-- So is every node that none of this is about. -/
  others : ∀ id, id ≠ copy → id ≠ destination →
    fs.forest.child? destination (fs.forest.nameOf source) ≠ some id →
    after.forest.node? id = fs.forest.node? id
  cwd : after.cwd = fs.cwd
  roles : after.roles = fs.roles

/-- **How a copy ends**, by what it finds in the tree, in the current directory under the name, and
in the destination under the name of the source. -/
inductive CopyEnds (fs : FileSystem) (name : String) (destination : NodeId) :
    Except TreeError Copied × FileSystem → Prop
  | outside (hout : ¬ fs.forest.Reachable destination) :
      CopyEnds fs name destination
        (.error (.destinationDetached (fs.forest.nameOf destination)), fs)
  | missing (hin : fs.forest.Reachable destination) (hchild : fs.child? name = none) :
      CopyEnds fs name destination (.error (.nothingToCopy name), fs)
  | directory {source : NodeId} (hin : fs.forest.Reachable destination)
      (hchild : fs.child? name = some source) (hkind : fs.forest.isDirectory source = true) :
      CopyEnds fs name destination (.error (.cannotCopyDirectory name source), fs)
  | inPlace {source : NodeId} (hin : fs.forest.Reachable destination)
      (hchild : fs.child? name = some source) (hkind : fs.forest.isDirectory source = false)
      (hhere : fs.forest.child? destination (fs.forest.nameOf source) = some source) :
      CopyEnds fs name destination (.ok ⟨source, source⟩, fs)
  | blocked {source holder : NodeId} (hin : fs.forest.Reachable destination)
      (hchild : fs.child? name = some source) (hkind : fs.forest.isDirectory source = false)
      (hholder : fs.forest.child? destination (fs.forest.nameOf source) = some holder)
      (hblocks : fs.forest.isDirectory holder = true) :
      CopyEnds fs name destination
        (.error (.cannotOverwriteDirectory (fs.forest.nameOf holder) holder), fs)
  | made {source copy : NodeId} {after : FileSystem} (hin : fs.forest.Reachable destination)
      (hchild : fs.child? name = some source) (hkind : fs.forest.isDirectory source = false)
      (hroom : ∀ holder, fs.forest.child? destination (fs.forest.nameOf source) = some holder →
        holder ≠ source ∧ fs.forest.isDirectory holder = false)
      (hputs : fs.PutsCopy destination source copy after) :
      CopyEnds fs name destination (.ok ⟨copy, source⟩, after)

/-- **A copy that is made is put into the destination.** -/
theorem CopiesTo.putsCopy (h : fs.CopiesTo destination source copy after)
    (hsound : fs.forest.Sound) (hdestination : fs.forest.isDirectory destination = true) :
    fs.PutsCopy destination source copy after where
  fresh := by rw [h.new, Forest.node?_size]
  node?_copy := h.node?_copy
  entries := h.childrenOf hdestination
  only := by
    intro id hid hname
    obtain ⟨key, hget⟩ := NameMap.mem_values_iff.1 hid
    rw [h.childrenOf hdestination, NameMap.get?_insert] at hget
    by_cases hkey : Text.lower (fs.forest.nameOf source) = key
    · rw [if_pos hkey, Option.some.injEq] at hget
      exact hget.symm
    · -- any other entry stands under another key, that of its own name
      rw [if_neg hkey] at hget
      obtain ⟨hown, hlies⟩ := hsound.of_get? hget
      rw [h.nameOf (h.ne_copy (Forest.node?_of_parentOf hlies)), ← hown] at hname
      exact absurd hname.symm hkey
  replaced := by
    intro holder hholder
    have hexists := Forest.node?_of_parentOf (hsound.of_get? hholder).2
    have hne : holder ≠ destination := by
      rintro rfl
      rw [h.room holder hholder] at hdestination
      exact absurd hdestination (by decide)
    rw [h.node?, if_neg (h.ne_copy hexists), if_neg hne, if_pos hholder]
  place := ⟨h.nameOf (h.ne_copy (Forest.node?_of_isDirectory hdestination)),
    h.parentOf hdestination⟩
  node?_source := by
    have hne : source ≠ destination := by
      rintro rfl
      rw [h.source_file] at hdestination
      exact absurd hdestination (by decide)
    -- the source lies in the current directory, which is not the destination
    have hstays : fs.forest.child? destination (fs.forest.nameOf source) ≠ some source := by
      intro hhere
      have hlies := (hsound.of_get? hhere).2
      rw [h.source_lies, Option.some.injEq] at hlies
      exact h.away hlies
    rw [h.node?, if_neg (h.ne_copy (Forest.node?_of_parentOf h.source_lies)), if_neg hne,
      if_neg hstays]
  others := by
    intro id hcopy hne hstays
    rw [h.node?, if_neg hcopy, if_neg hne, if_neg hstays]
  cwd := h.cwd
  roles := h.roles

/-- **Where there is room, the copy is made.** -/
theorem copyEnds_of_room (hsound : fs.forest.Sound)
    (hdestination : fs.forest.isDirectory destination = true)
    (hattached : fs.forest.isAttached destination = true) (hchild : fs.child? name = some source)
    (hkind : fs.forest.isDirectory source = false)
    (hroom : ∀ holder, fs.forest.child? destination (fs.forest.nameOf source) = some holder →
      holder ≠ source ∧ fs.forest.isDirectory holder = false) :
    fs.CopyEnds name destination (fs.copyInto name destination) := by
  have hin := hsound.isAttached_iff_reachable.1 hattached
  have hok : (fs.copyInto name destination).1 = .ok ⟨fs.forest.slots.size, source⟩ := by
    rw [outcome_copyInto hsound name hdestination hattached]
    cases hholder : fs.forest.child? destination (fs.forest.nameOf source) with
    | none => simp [copyOutcome, hchild, hkind, hholder]
    | some holder => simp [copyOutcome, hchild, hkind, hholder, hroom holder hholder]
  have hcopy : fs.copyInto name destination
      = (.ok ⟨fs.forest.slots.size, source⟩, (fs.copyInto name destination).2) :=
    Prod.ext hok rfl
  obtain ⟨-, ⟨hhere, -⟩ | hcopies⟩ := copyInto_ok hsound hdestination hcopy
  · -- in the current directory the source itself has its name
    have hlies : fs.forest.parentOf source = some destination :=
      hhere ▸ (hsound.of_get? hchild).2
    exact absurd rfl (hroom source (hsound.child?_of_parentOf hlies)).1
  · rw [hcopy]
    exact .made hin hchild hkind hroom (hcopies.putsCopy hsound hdestination)

/-- **Every copy ends in one of these ways.** -/
theorem copyEnds_copyInto (hsound : fs.forest.Sound) (name : String)
    (hdestination : fs.forest.isDirectory destination = true) :
    fs.CopyEnds name destination (fs.copyInto name destination) := by
  -- in the order in which a copy asks
  by_cases hattached : fs.forest.isAttached destination = true
  swap
  · have hcopy : fs.copyInto name destination
        = (.error (.destinationDetached (fs.forest.nameOf destination)), fs) := by
      simp [copyInto, hattached]
    rw [hcopy]
    exact .outside fun hin => hattached (hsound.isAttached_iff_reachable.2 hin)
  have hin := hsound.isAttached_iff_reachable.1 hattached
  cases hchild : fs.child? name with
  | none =>
    have hcopy : fs.copyInto name destination = (.error (.nothingToCopy name), fs) := by
      simp [copyInto, hattached, hchild]
    rw [hcopy]
    exact .missing hin hchild
  | some source =>
    by_cases hkind : fs.forest.isDirectory source = true
    · have hcopy : fs.copyInto name destination
          = (.error (.cannotCopyDirectory name source), fs) := by
        simp [copyInto, hattached, hchild, hkind]
      rw [hcopy]
      exact .directory hin hchild hkind
    rw [Bool.not_eq_true] at hkind
    by_cases hhere : fs.forest.child? destination (fs.forest.nameOf source) = some source
    · have hcopy : fs.copyInto name destination = (.ok ⟨source, source⟩, fs) := by
        simp [copyInto, hattached, hchild, hkind, hhere]
      rw [hcopy]
      exact .inPlace hin hchild hkind hhere
    have hother : ∀ holder,
        fs.forest.child? destination (fs.forest.nameOf source) = some holder → holder ≠ source := by
      rintro holder hholder rfl
      exact hhere hholder
    by_cases hblocked : ∃ holder,
        fs.forest.child? destination (fs.forest.nameOf source) = some holder
          ∧ fs.forest.isDirectory holder = true
    · obtain ⟨holder, hholder, hblocks⟩ := hblocked
      have hcopy : fs.copyInto name destination
          = (.error (.cannotOverwriteDirectory (fs.forest.nameOf holder) holder), fs) := by
        simp [copyInto, hattached, hchild, hkind, hholder, hother holder hholder, makeRoom, hblocks]
      rw [hcopy]
      exact .blocked hin hchild hkind hholder hblocks
    · refine copyEnds_of_room hsound hdestination hattached hchild hkind fun holder hholder => ?_
      exact ⟨hother holder hholder,
        Bool.eq_false_iff.2 fun hblocks => hblocked ⟨holder, hholder, hblocks⟩⟩

/-- **What an error of a copy means**: nothing has changed, and its kind tells that the destination
is outside the tree, or else what was found instead of a file or of room for one. -/
theorem CopyEnds.of_error {error : TreeError}
    (h : fs.CopyEnds name destination (.error error, after)) :
    after = fs ∧ (error.kind? = some .internal ↔ ¬ fs.forest.Reachable destination)
      ∧ error.kind? ∈ [some .internal, some .cannotCopyDirectory, some .noSuchFile,
        some .cannotOverwriteDirectory] := by
  cases h with
  | outside hout => simp [TreeError.kind?, hout]
  | missing hin _ => simp [TreeError.kind?, hin]
  | directory hin _ _ => simp [TreeError.kind?, hin]
  | blocked hin _ _ _ _ => simp [TreeError.kind?, hin]

/-- **What a success of a copy means**: the copy is the source itself and nothing has changed, or
the copy was put into the destination. -/
theorem CopyEnds.of_ok {copied : Copied}
    (h : fs.CopyEnds name destination (.ok copied, after)) :
    copied.copy = copied.source ∧ after = fs
      ∨ fs.PutsCopy destination copied.source copied.copy after := by
  cases h with
  | inPlace _ _ _ _ => exact .inl ⟨rfl, rfl⟩
  | made _ _ _ _ hputs => exact .inr hputs

/-! ## In every tree -/

/-- **A copy is exact and atomic**, whatever was done to the tree before, and wherever the current
directory is. It ends in one of the ways of `CopyEnds`: an error of a kind changes nothing, and a
success changes what the copy is about and nothing else. Once room is made for a copy, nothing keeps
it from being created. -/
theorem copy_is_exact (changes : List TreeChange) (h : initial.CanRun changes) (name : String)
    (destination : NodeId)
    (hdestination : (initial.run changes).forest.isDirectory destination = true) :
    let fs := initial.run changes
    fs.CopyEnds name destination (fs.copyInto name destination)
      ∧ (∀ error after, fs.copyInto name destination = (.error error, after) →
        after = fs ∧ (error.kind? = some .internal ↔ ¬ fs.forest.Reachable destination)
          ∧ error.kind? ∈ [some .internal, some .cannotCopyDirectory, some .noSuchFile,
            some .cannotOverwriteDirectory])
      ∧ ∀ source cleared,
        makeRoom fs.forest destination (fs.forest.nameOf source) = .ok cleared →
        ∃ copy after, (fs.withForest cleared).createFile destination (fs.forest.nameOf source)
          (fs.forest.textOf source) = .ok (copy, after) := by
  intro fs
  have hsound : fs.forest.Sound := (sound_initial.run h).forest
  have hends := copyEnds_copyInto hsound name hdestination
  refine ⟨hends, fun error after hcopy => ?_, fun source cleared hroom => ?_⟩
  · rw [hcopy] at hends
    exact hends.of_error
  · exact ⟨_, createFile_of_makeRoom hsound hdestination (fs.forest.textOf source) hroom⟩

/-- A copy from a directory that was taken out of the tree, over a file of the same name but for
case. -/
theorem copy_is_exact_from_outside :
    let changes : List TreeChange :=
      [.createDirectory Forest.root "Bin", .createFile 1 "note" "old",
        .createDirectory Forest.root "Box", .createFile 3 "NOTE" "new", .changeDirectory "box",
        .remove Forest.root "BOX"]
    let fs := initial.run changes
    initial.CanRun changes ∧ fs.cwd = 3 ∧ fs.forest.isAttached 3 = false
      ∧ ∃ after, fs.copyInto "Note" 1 = (.ok ⟨5, 4⟩, after) ∧ fs.PutsCopy 1 4 5 after
        ∧ after.forest.parentOf 2 = none
        ∧ after.forest.node? 5 = some ⟨"NOTE", some 1, .file "new"⟩ := by
  intro changes fs
  have hfacts : initial.CanRun changes ∧ fs.cwd = 3 ∧ fs.forest.isAttached 3 = false
      ∧ fs.forest.isDirectory 1 = true ∧ (fs.copyInto "Note" 1).1 = .ok ⟨5, 4⟩
      ∧ fs.forest.nameOf 4 = "NOTE" ∧ fs.forest.textOf 4 = "new"
      ∧ fs.forest.child? 1 "NOTE" = some 2 := by decide +kernel
  obtain ⟨hcan, hcwd, hout, hbin, hok, hname, htext, hold⟩ := hfacts
  have hends : fs.CopyEnds "Note" 1 (fs.copyInto "Note" 1) :=
    (copy_is_exact changes hcan "Note" 1 hbin).1
  generalize hcopy : fs.copyInto "Note" 1 = ending at hok hends
  obtain ⟨outcome, after⟩ := ending
  obtain rfl : outcome = .ok ⟨5, 4⟩ := hok
  rcases hends.of_ok with ⟨hsame, -⟩ | hputs
  · exact absurd hsame (by decide)
  · refine ⟨hcan, hcwd, hout, after, rfl, hputs, ?_, ?_⟩
    · have hreplaced := hputs.replaced 2 (by rw [hname, hold])
      rw [Forest.parentOf, hreplaced]
      cases fs.forest.node? 2 with
      | none => rfl
      | some node => rfl
    · rw [hputs.node?_copy, hname, htext]

end StoryShell.FileSystem
