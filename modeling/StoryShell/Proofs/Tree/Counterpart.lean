/-
File systems that are the same but for the numbers of their nodes.

File systems are alike if their forests are, their current directories stand for each other and so
do the directories with a role (`FileSystem.Alike`). What an operation gives on the one is then what
it gives on the other, with the nodes that stand for each other (`translate`); and what it leaves is
alike again. For a copy, what it gives is told first by a few questions about the file system that
it finds (`outcome_copyInto`), each of which has the same answer on both sides; and of the nodes
that belong to the tree after it, all but the copy belonged to it before and were not taken out
(`CopiesTo.of_inTree`).
-/
import StoryShell.Proofs.Tree.Alike
import StoryShell.Proofs.Tree.Cursor

set_option autoImplicit false

namespace StoryShell

/-- An error in which every node goes by another number. -/
def TreeError.renumber (f : NodeId → NodeId) : TreeError → TreeError
  | .nameTaken name directory holder => .nameTaken name directory (f holder)
  | .notADirectory path node => .notADirectory path (f node)
  | .isADirectory name node => .isADirectory name (f node)
  | .cannotCopyDirectory name node => .cannotCopyDirectory name (f node)
  | .cannotOverwriteDirectory name node => .cannotOverwriteDirectory name (f node)
  | error => error

@[simp] theorem TreeError.renumber_kind? (f : NodeId → NodeId) (error : TreeError) :
    (error.renumber f).kind? = error.kind? := by
  cases error <;> rfl

@[simp] theorem TreeError.renumber_message (f : NodeId → NodeId) (error : TreeError) :
    (error.renumber f).message = error.message := by
  cases error <;> rfl

/-- The outcome of a computation with its value and its error put in other words. -/
def translate {ε α : Type} (onError : ε → ε) (onValue : α → α) : Except ε α → Except ε α
  | .ok value => .ok (onValue value)
  | .error error => .error (onError error)

namespace FileSystem

/-- **File systems that are alike**: grown from their roots, with current directories in the tree
that stand for each other, and the same roles for directories that do. -/
structure Alike (f : NodeId → NodeId) (fs other : FileSystem) : Prop where
  grown : fs.Grown fun _ => True
  otherGrown : other.Grown fun _ => True
  forest : fs.forest.Alike f other.forest
  inTree_cwd : fs.forest.InTree fs.cwd
  cwd : other.cwd = f fs.cwd
  roles : other.roles = fs.roles.map f

variable {fs other after : FileSystem} {f : NodeId → NodeId}

/-- A file system is like itself, with every number as it is. -/
theorem Alike.refl (hgrown : fs.Grown fun _ => True) (hcwd : fs.forest.InTree fs.cwd) :
    fs.Alike id fs where
  grown := hgrown
  otherGrown := hgrown
  forest := .refl hgrown.sound.forest hgrown.top
  inTree_cwd := hcwd
  cwd := rfl
  roles := fs.roles.map_id.symm

/-! ## Looking and moving -/

namespace Alike

variable (h : fs.Alike f other)

include h

/-- **Nodes that are let go** on the one side make no difference. -/
theorem reclaim (held : List NodeId) : (fs.reclaim held).Alike f other where
  grown := h.grown.reclaim held
  otherGrown := h.otherGrown
  forest := h.forest.reclaim List.mem_cons_self
  inTree_cwd := (Forest.inTree_reclaim_iff h.forest.sound List.mem_cons_self).2 h.inTree_cwd
  cwd := h.cwd
  roles := h.roles

/-- Nor do nodes that are let go on the other side. -/
theorem reclaim_other (held : List NodeId) : fs.Alike f (other.reclaim held) where
  grown := h.grown
  otherGrown := h.otherGrown.reclaim held
  forest := h.forest.reclaim_other List.mem_cons_self
  inTree_cwd := h.inTree_cwd
  cwd := h.cwd
  roles := h.roles

/-- A child of the current directory belongs to the tree. -/
theorem inTree_child {name : String} {id : NodeId} (hid : fs.child? name = some id) :
    fs.forest.InTree id :=
  Forest.Alike.inTree_child h.forest.sound h.inTree_cwd hid

theorem child? (name : String) : other.child? name = (fs.child? name).map f := by
  rw [FileSystem.child?, h.cwd, h.forest.child? h.inTree_cwd, FileSystem.child?]

/-- **Listings** have the nodes that stand for each other, in the same order. -/
theorem list : other.list = fs.list.map f := by
  rw [FileSystem.list, h.cwd, h.forest.listing h.inTree_cwd, FileSystem.list]

/-- What is listed belongs to the tree. -/
theorem inTree_of_mem_list {id : NodeId} (hid : id ∈ fs.list) : fs.forest.InTree id :=
  .of_parentOf (h.forest.sound.mem_listing_iff.1 hid) h.inTree_cwd

theorem currentPath : other.currentPath = fs.currentPath := by
  rw [FileSystem.currentPath, h.cwd, h.forest.barePath h.inTree_cwd, FileSystem.currentPath]

/-- **A search** finds the same path. -/
theorem find (name : String) : other.find name = fs.find name := by
  rw [FileSystem.find, h.forest.find, Option.map_map, FileSystem.find]
  refine Option.map_congr fun id hid => h.forest.pathOf ?_
  exact (Grown.of_searchLevels h.forest.sound (Forest.Alike.inTree_first fs.forest) hid).1

/-- **A path leads to directories that stand for each other**, or it is refused alike. -/
theorem destination (path : String) :
    other.destination path = translate (TreeError.renumber f) f (fs.destination path) := by
  simp only [FileSystem.destination]
  -- the root, one step up or a child
  split
  · rw [translate, h.forest.root]
  · split
    · rw [h.cwd, h.forest.parentOf h.inTree_cwd, translate]
      cases fs.forest.parentOf fs.cwd with
      | none => rfl
      | some parent => rfl
    · rw [h.child?]
      cases hchild : fs.child? (Text.dropTrailing (· = '/') path) with
      | none => rfl
      | some id =>
        simp only [Option.map_some]
        rw [h.forest.isDirectory (h.inTree_child hchild)]
        cases fs.forest.isDirectory id with
        | false => rfl
        | true => rfl

/-- What a path leads to belongs to the tree. -/
theorem inTree_destination {path : String} {target : NodeId}
    (htarget : fs.destination path = .ok target) : fs.forest.InTree target :=
  FileSystem.inTree_destination h.grown.sound h.inTree_cwd (fun _ => h.grown.top) htarget

/-- **A move** leaves file systems alike. -/
theorem moved {path : String} {target : NodeId} (htarget : fs.destination path = .ok target) :
    Alike f { fs with cwd := target } { other with cwd := f target } where
  grown := h.grown.changeDirectory htarget
  otherGrown := by
    have htargetOther : other.destination path = .ok (f target) := by
      rw [h.destination, htarget]
      rfl
    exact h.otherGrown.changeDirectory htargetOther
  forest := h.forest
  inTree_cwd := h.inTree_destination htarget
  cwd := rfl
  roles := h.roles

/-- **Reading** comes to files that stand for each other, or it is refused alike. -/
theorem readFile (name : String) :
    other.readFile name = translate (TreeError.renumber f) f (fs.readFile name) := by
  rw [FileSystem.readFile, FileSystem.readFile, h.child?]
  cases hchild : fs.child? name with
  | none => rfl
  | some id =>
    simp only [Option.map_some]
    rw [h.forest.isDirectory (h.inTree_child hchild)]
    cases fs.forest.isDirectory id with
    | false => rfl
    | true => rfl

/-- **The directories with a role** stand for each other. -/
theorem wellKnown (role : String) :
    other.wellKnown role = translate (TreeError.renumber f) f (fs.wellKnown role) := by
  rw [FileSystem.wellKnown, FileSystem.wellKnown, h.roles, NameMap.get?_map]
  cases fs.roles.get? role with
  | none => rfl
  | some directory =>
    simp only [Option.map_some]
    rw [h.forest.isAttached]
    cases fs.forest.isAttached directory with
    | false => rfl
    | true => rfl

end Alike

/-! ## What a copy gives -/

/-- What a copy into a directory of the tree gives, by what is found there. -/
def copyOutcome (fs : FileSystem) (name : String) (destination : NodeId) :
    Except TreeError Copied :=
  match fs.child? name with
  | none => .error (.nothingToCopy name)
  | some source =>
    if fs.forest.isDirectory source then .error (.cannotCopyDirectory name source)
    else
      match fs.forest.child? destination (fs.forest.nameOf source) with
      | none => .ok ⟨fs.forest.slots.size, source⟩
      | some holder =>
        if holder = source then .ok ⟨source, source⟩
        else if fs.forest.isDirectory holder then
          .error (.cannotOverwriteDirectory (fs.forest.nameOf holder) holder)
        else .ok ⟨fs.forest.slots.size, source⟩

/-- Once room is made, the copy is created under the next number. -/
theorem createFile_of_makeRoom (hsound : fs.forest.Sound) {destination : NodeId}
    (hdestination : fs.forest.isDirectory destination = true) {name : String} (text : String)
    {cleared : Forest} (hroom : makeRoom fs.forest destination name = .ok cleared) :
    ∃ after, (fs.withForest cleared).createFile destination name text
      = .ok (fs.forest.slots.size, after) := by
  have hcreates : ∃ after, (fs.withForest cleared).createFile destination name text
      = .ok (cleared.slots.size, after) :=
    createIn_of_free (sound_makeRoom hsound hroom)
      ((isDirectory_makeRoom hroom destination).trans hdestination) rfl
      (child?_makeRoom hsound hroom)
  rwa [size_makeRoom hroom] at hcreates

/-- **What a copy gives** is told by what it finds. -/
theorem outcome_copyInto (hsound : fs.forest.Sound) (name : String) {destination : NodeId}
    (hdestination : fs.forest.isDirectory destination = true)
    (hattached : fs.forest.isAttached destination = true) :
    (fs.copyInto name destination).1 = fs.copyOutcome name destination := by
  simp only [copyInto, copyOutcome, hattached, Bool.not_true, Bool.false_eq_true, if_false]
  cases fs.child? name with
  | none => rfl
  | some source =>
    by_cases hdirectory : fs.forest.isDirectory source = true
    · simp [hdirectory]
    · simp only [hdirectory]
      cases hholder : fs.forest.child? destination (fs.forest.nameOf source) with
      | none =>
        have hroom : makeRoom fs.forest destination (fs.forest.nameOf source) = .ok fs.forest := by
          rw [makeRoom, hholder]
        obtain ⟨after, hcreated⟩ := createFile_of_makeRoom hsound hdestination
          (fs.forest.textOf source) hroom
        simp [hroom, hcreated]
      | some holder =>
        by_cases hsame : holder = source
        · simp [hsame]
        · by_cases hfile : fs.forest.isDirectory holder = true
          · simp [hsame, makeRoom, hholder, hfile]
          · have hroom : makeRoom fs.forest destination (fs.forest.nameOf source)
                = .ok (fs.forest.remove destination (fs.forest.nameOf holder)).2 := by
              simp [makeRoom, hholder, hfile]
            obtain ⟨after, hcreated⟩ := createFile_of_makeRoom hsound hdestination
              (fs.forest.textOf source) hroom
            simp [hsame, hroom, hcreated, hfile]

/-- **A file is copied into a directory of the tree** if nothing but files can be in the way there.
-/
theorem copyInto_of_files (hsound : fs.forest.Sound) {name : String} {destination source : NodeId}
    (hdestination : fs.forest.isDirectory destination = true)
    (hattached : fs.forest.isAttached destination = true) (hsource : fs.child? name = some source)
    (hfile : fs.forest.isDirectory source = false)
    (hfiles : ∀ {asked holder}, fs.forest.child? destination asked = some holder →
      fs.forest.isDirectory holder = false) :
    ∃ copied after, fs.copyInto name destination = (.ok copied, after)
      ∧ copied.source = source := by
  have houtcome := outcome_copyInto hsound name hdestination hattached
  have hcopied : ∃ copied, fs.copyOutcome name destination = .ok copied
      ∧ copied.source = source := by
    simp only [copyOutcome, hsource, hfile]
    cases hholder : fs.forest.child? destination (fs.forest.nameOf source) with
    | none => exact ⟨_, rfl, rfl⟩
    | some holder =>
      by_cases hsame : holder = source
      · exact ⟨⟨source, source⟩, by simp [hsame], rfl⟩
      · exact ⟨_, by simp [hsame, hfiles hholder]; rfl, rfl⟩
  obtain ⟨copied, hcopied, hfrom⟩ := hcopied
  exact ⟨copied, (fs.copyInto name destination).2,
    Prod.ext (houtcome.trans hcopied) rfl, hfrom⟩

/-- A copy and its source by other numbers. -/
def Copied.renumber (f : NodeId → NodeId) (copied : Copied) : Copied :=
  ⟨f copied.copy, f copied.source⟩

/-- **What a copy gives is alike on both sides.** -/
theorem Alike.copyOutcome (h : fs.Alike f other) (name : String) {destination : NodeId}
    (hdestination : fs.forest.InTree destination) :
    other.copyOutcome name (f destination)
      = translate (TreeError.renumber f) (Copied.renumber f) (fs.copyOutcome name destination) := by
  have hnew : f fs.forest.slots.size = fs.forest.slots.size := h.forest.fixed _ (Nat.le_refl _)
  rw [FileSystem.copyOutcome, FileSystem.copyOutcome, h.child?]
  cases hsource : fs.child? name with
  | none => rfl
  | some source =>
    have htree := h.inTree_child hsource
    simp only [Option.map_some]
    rw [h.forest.isDirectory htree, h.forest.nameOf htree, h.forest.child? hdestination,
      h.forest.size]
    by_cases hdirectory : fs.forest.isDirectory source = true
    · rw [if_pos hdirectory, if_pos hdirectory]
      rfl
    · rw [if_neg hdirectory, if_neg hdirectory]
      cases hholder : fs.forest.child? destination (fs.forest.nameOf source) with
      | none => simp [translate, Copied.renumber, hnew]
      | some holder =>
        have hholderTree := Forest.Alike.inTree_child h.forest.sound hdestination hholder
        simp only [Option.map_some]
        rw [h.forest.isDirectory hholderTree, h.forest.nameOf hholderTree]
        by_cases hsame : holder = source
        · rw [if_pos hsame, if_pos (congrArg f hsame)]
          rfl
        · rw [if_neg hsame, if_neg fun heq => hsame (h.forest.injective heq)]
          by_cases hfile : fs.forest.isDirectory holder = true
          · rw [if_pos hfile, if_pos hfile]
            rfl
          · rw [if_neg hfile, if_neg hfile, translate, Copied.renumber, hnew]

/-! ## What a copy leaves -/

namespace CopiesTo

variable {destination source copy id : NodeId}

/-- **The directory above a node** is the one that it was, but none is above the file that was in
the way. -/
theorem parentOf_of_ne (h : fs.CopiesTo destination source copy after) (hid : id ≠ copy) :
    after.forest.parentOf id
      = if fs.forest.child? destination (fs.forest.nameOf source) = some id then none
        else fs.forest.parentOf id := by
  rw [Forest.parentOf, h.node?, if_neg hid, Forest.parentOf]
  by_cases hdestination : id = destination
  · -- the file in the way is no directory
    have hstays : fs.forest.child? destination (fs.forest.nameOf source) ≠ some id := by
      intro hroom
      have hfile := h.room id hroom
      rw [hdestination] at hroom hfile
      rw [Forest.isDirectory_of_get? hroom] at hfile
      exact absurd hfile (by decide)
    rw [if_pos hdestination, if_neg hstays, Option.bind_map]
    exact Option.bind_congr fun node _ => node.withChildren_parent _
  · rw [if_neg hdestination]
    split
    · rw [Option.bind_map]
      cases fs.forest.node? id with
      | none => rfl
      | some node => rfl
    · rfl

/-- **What belongs to the tree after a copy**, but for the copy, belonged to it before and was not
in the way. -/
theorem of_inTree (h : fs.CopiesTo destination source copy after) (hsound : fs.Sound)
    (hafter : after.forest.Sound) (htree : after.forest.InTree id) (hid : id ≠ copy) :
    fs.forest.InTree id
      ∧ fs.forest.child? destination (fs.forest.nameOf source) ≠ some id := by
  induction htree using Relation.ReflTransGen.head_induction_on with
  | refl =>
    refine ⟨Relation.ReflTransGen.refl, fun hroom => ?_⟩
    -- the root is a directory
    have hfile := h.room _ hroom
    rw [hsound.root] at hfile
    exact absurd hfile (by decide)
  | @head below above hlies _ ih =>
    -- a file has nothing below it
    have habove : above ≠ copy := by
      rintro rfl
      have hdirectory := hafter.isDirectory_of_parentOf hlies
      rw [Forest.isDirectory, h.node?_copy] at hdirectory
      exact Bool.false_ne_true hdirectory
    rw [Forest.LiesIn, h.parentOf_of_ne hid] at hlies
    split at hlies
    · exact absurd hlies (by simp)
    · rename_i hstays
      exact ⟨.of_parentOf hlies (ih habove).1, hstays⟩

/-- A directory of the tree stays in it. -/
theorem inTree_of_isDirectory (h : fs.CopiesTo destination source copy after)
    (hsound : fs.forest.Sound) (hdirectory : fs.forest.isDirectory id = true)
    (htree : fs.forest.InTree id) : after.forest.InTree id :=
  htree.of_kept_links hsound
    (fun hchild hlies _ => (h.parentOf hchild).trans hlies) hdirectory

/-- **The source stays where it is.** -/
theorem inTree_source (h : fs.CopiesTo destination source copy after) (hsound : fs.Sound)
    (hcwd : fs.forest.InTree fs.cwd) : after.forest.InTree source := by
  have hold := h.ne_copy (Forest.node?_of_parentOf h.source_lies)
  have hstays : fs.forest.child? destination (fs.forest.nameOf source) ≠ some source := by
    intro hroom
    have hlies := (hsound.forest.of_get? hroom).2
    rw [h.source_lies] at hlies
    exact h.away (Option.some.inj hlies)
  refine .of_parentOf ?_ (h.inTree_of_isDirectory hsound.forest hsound.cwd hcwd)
  rw [h.parentOf_of_ne hold, if_neg hstays, h.source_lies]

end CopiesTo

/-- **A node of the tree after copies on both sides** stands for one. -/
theorem Alike.node?_copied (h : fs.Alike f other) {otherAfter : FileSystem}
    {destination source copy id : NodeId} (hdestination : fs.forest.InTree destination)
    (hcopies : fs.CopiesTo destination source copy after)
    (hothers : other.CopiesTo (f destination) (f source) copy otherAfter)
    (hafter : after.forest.Sound) (hid : after.forest.InTree id) :
    otherAfter.forest.node? (f id) = (after.forest.node? id).map (Node.renumber f) := by
  have hsource : fs.forest.InTree source := .of_parentOf hcopies.source_lies h.inTree_cwd
  have hfixed : f copy = copy := h.forest.fixed _ (Nat.le_of_eq hcopies.new.symm)
  rw [hothers.node?, hcopies.node?, h.forest.nameOf hsource, h.forest.textOf hsource]
  by_cases hcopy : id = copy
  · rw [hcopy, hfixed, if_pos rfl, if_pos rfl]
    rfl
  · obtain ⟨htree, hstays⟩ := hcopies.of_inTree h.grown.sound hafter hid hcopy
    have hfcopy : f id ≠ copy := by
      intro heq
      exact hcopy (h.forest.injective (heq.trans hfixed.symm))
    rw [if_neg hcopy, if_neg hfcopy]
    by_cases hhere : id = destination
    · rw [if_pos hhere, if_pos (congrArg f hhere), h.forest.node? htree, Option.map_map,
        Option.map_map]
      refine Option.map_congr fun node _ => ?_
      refine (node.renumber_withChildren f fun children => ?_).symm
      rw [NameMap.map_insert, hfixed]
    · have hfstays : other.forest.child? (f destination) (fs.forest.nameOf source)
          ≠ some (f id) := by
        rw [h.forest.child? hdestination]
        intro hroom
        obtain ⟨holder, hholder, heq⟩ := Option.map_eq_some_iff.1 hroom
        rw [h.forest.injective heq] at hholder
        exact hstays hholder
      rw [if_neg hhere, if_neg fun heq => hhere (h.forest.injective heq), if_neg hstays,
        if_neg hfstays]
      exact h.forest.node? htree

/-- **Copies that are made on both sides leave file systems alike.** -/
theorem Alike.copied (h : fs.Alike f other) {otherAfter : FileSystem}
    {destination source copy otherCopy : NodeId} (hdestination : fs.forest.InTree destination)
    (hcopies : fs.CopiesTo destination source copy after)
    (hothers : other.CopiesTo (f destination) (f source) otherCopy otherAfter)
    (hgrown : after.Grown fun _ => True) (hotherGrown : otherAfter.Grown fun _ => True) :
    after.Alike f otherAfter where
  grown := hgrown
  otherGrown := hotherGrown
  forest := by
    have hsame : otherCopy = copy := by
      rw [hothers.new, hcopies.new, h.forest.size]
    rw [hsame] at hothers
    refine ⟨h.forest.injective, h.forest.root, ?_, fun id hid => ?_, hgrown.sound.forest,
      hotherGrown.sound.forest, hgrown.top, hotherGrown.top,
      h.node?_copied hdestination hcopies hothers hgrown.sound.forest⟩
    · rw [hothers.size, hcopies.size, h.forest.size]
    · rw [hcopies.size] at hid
      exact h.forest.fixed id (Nat.le_of_succ_le hid)
  inTree_cwd := by
    rw [hcopies.cwd]
    exact hcopies.inTree_of_isDirectory h.forest.sound h.grown.sound.cwd h.inTree_cwd
  cwd := by rw [hothers.cwd, hcopies.cwd, h.cwd]
  roles := by rw [hothers.roles, hcopies.roles, h.roles]

/-- **What a copy gives** is alike on both sides. -/
theorem Alike.outcome_copyInto (h : fs.Alike f other) (name : String) {destination : NodeId}
    (hdirectory : fs.forest.isDirectory destination = true)
    (hdestination : fs.forest.InTree destination) :
    (other.copyInto name (f destination)).1
      = translate (TreeError.renumber f) (Copied.renumber f) (fs.copyInto name destination).1 := by
  have hotherDirectory : other.forest.isDirectory (f destination) = true :=
    (h.forest.isDirectory hdestination).trans hdirectory
  have hattached := h.forest.sound.isAttached_iff.2 hdestination
  rw [FileSystem.outcome_copyInto h.forest.sound name hdirectory hattached,
    FileSystem.outcome_copyInto h.forest.otherSound name hotherDirectory
      (h.forest.isAttached.trans hattached), h.copyOutcome name hdestination]

/-- **A copy** gives and leaves what is alike, and its source stays in the tree. -/
theorem Alike.copyInto (h : fs.Alike f other) (name : String) {destination : NodeId}
    (hdirectory : fs.forest.isDirectory destination = true)
    (hdestination : fs.forest.InTree destination) :
    (other.copyInto name (f destination)).1
        = translate (TreeError.renumber f) (Copied.renumber f) (fs.copyInto name destination).1
      ∧ (fs.copyInto name destination).2.Alike f (other.copyInto name (f destination)).2
      ∧ ∀ copied, (fs.copyInto name destination).1 = .ok copied →
        (fs.copyInto name destination).2.forest.InTree copied.source := by
  have hotherDirectory : other.forest.isDirectory (f destination) = true :=
    (h.forest.isDirectory hdestination).trans hdirectory
  have houtcome := h.outcome_copyInto name hdirectory hdestination
  refine ⟨houtcome, ?_⟩
  have hgrown := h.grown.copyInto name hdirectory
  have hotherGrown := h.otherGrown.copyInto name hotherDirectory
  rcases hcopy : fs.copyInto name destination with ⟨outcome, after⟩
  rcases hother : other.copyInto name (f destination) with ⟨otherOutcome, otherAfter⟩
  rw [hcopy, hother] at houtcome
  rw [hcopy] at hgrown
  rw [hother] at hotherGrown
  simp only at houtcome hgrown hotherGrown ⊢
  cases outcome with
  | error error =>
    rw [houtcome] at hother
    rw [copyInto_error h.forest.sound hdirectory hcopy,
      copyInto_error h.forest.otherSound hotherDirectory hother]
    exact ⟨h, fun copied hcopied => absurd hcopied (by simp)⟩
  | ok copied =>
    rw [houtcome] at hother
    obtain ⟨hsource, hcopies⟩ := copyInto_ok h.forest.sound hdirectory hcopy
    obtain ⟨-, hothers⟩ := copyInto_ok h.forest.otherSound hotherDirectory hother
    have hwhere : other.cwd = f destination ↔ fs.cwd = destination := by
      rw [h.cwd]
      exact h.forest.injective.eq_iff
    rcases hcopies with ⟨hhere, rfl⟩ | hcopies
    · -- the destination is the current directory on both sides
      rcases hothers with ⟨-, rfl⟩ | hothers
      · refine ⟨h, fun found hfound => ?_⟩
        rw [← Except.ok.inj hfound]
        exact h.inTree_child hsource
      · exact absurd (hwhere.2 hhere) hothers.away
    · rcases hothers with ⟨hhere, -⟩ | hothers
      · exact absurd (hwhere.1 hhere) hcopies.away
      · refine ⟨h.copied hdestination hcopies hothers hgrown hotherGrown, fun found hfound => ?_⟩
        rw [← Except.ok.inj hfound]
        exact hcopies.inTree_source h.grown.sound h.inTree_cwd

end FileSystem

end StoryShell
