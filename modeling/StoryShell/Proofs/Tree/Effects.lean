/-
What creating and copying do to every node.

A node that is created in a directory is new, and the directory has it under the key of its name;
every other node is exactly what it was (`node?_createIn`).

A copy is made in two steps: the file in the way is taken out, and the copy is created. Taken
together they concern three nodes (`CopiesTo`). The copy is a new file that lies in the destination,
under the name and with the text of its source; the destination has it under the key of that name;
and the file that was there before, if any, has lost its parent. There is one case in which a copy
succeeds and changes nothing: the destination is the current directory itself, and a file would be
copied onto itself (`copyInto_ok`).
-/
import StoryShell.Proofs.Tree.Growth

set_option autoImplicit false

namespace StoryShell

/-- A value that is put in covers what was taken out under its name. -/
theorem NameMap.insert_erase {α : Type} (map : NameMap α) (name : String) (value : α) :
    (map.erase name).insert name value = map.insert name value := by
  apply NameMap.ext_get?
  intro key
  rw [get?_insert, get?_insert, get?_erase]
  split
  · rfl
  · rfl

/-- Of two changes of the children of a node, the second one is made on what the first one left. -/
theorem Node.withChildren_withChildren (node : Node) (f g : NameMap NodeId → NameMap NodeId) :
    (node.withChildren f).withChildren g = node.withChildren (g ∘ f) := by
  obtain ⟨name, parent, body⟩ := node
  cases body with
  | file text => rfl
  | directory children => rfl

namespace Forest

variable {forest : Forest}

/-- Links take up no room. -/
theorem size_relink (directory : NodeId) (f : NameMap NodeId → NameMap NodeId) (changed : NodeId)
    (parent : Option NodeId) :
    (forest.relink directory f changed parent).slots.size = forest.slots.size := by
  simp [relink, modify]

/-- **What links do to a node**: one gets another parent, and another one other children. -/
theorem node?_relink {directory changed : NodeId} (hne : changed ≠ directory)
    (f : NameMap NodeId → NameMap NodeId) (parent : Option NodeId) (id : NodeId) :
    (forest.relink directory f changed parent).node? id
      = if id = changed then (forest.node? id).map ({ · with parent := parent })
        else if id = directory then (forest.node? id).map (·.withChildren f)
        else forest.node? id := by
  rw [relink, node?_modify, node?_modify]
  by_cases hchanged : id = changed
  · rw [if_pos hchanged.symm, if_pos hchanged, if_neg]
    intro hdirectory
    exact hne (hchanged.symm.trans hdirectory.symm)
  · rw [if_neg (Ne.symm hchanged), if_neg hchanged]
    by_cases hdirectory : id = directory
    · rw [if_pos hdirectory.symm, if_pos hdirectory]
    · rw [if_neg (Ne.symm hdirectory), if_neg hdirectory]

end Forest

namespace FileSystem

variable {fs after : FileSystem}

/-! ## Creating -/

/-- **What creating a node in a directory does to every node.** -/
theorem node?_createIn {parent id : NodeId} {name : String} {body : Body}
    (hparent : fs.forest.isDirectory parent = true) (hbare : body.children = NameMap.empty)
    (h : fs.createIn parent name body = .ok (id, after)) (other : NodeId) :
    after.forest.node? other
      = if other = id then some ⟨name, some parent, body⟩
        else if other = parent then
          (fs.forest.node? other).map (·.withChildren (·.insert (Text.lower name) id))
        else fs.forest.node? other := by
  obtain ⟨hid, -, -, rfl⟩ := (createIn_eq_ok_iff hbare).1 h
  have hne : id ≠ parent := by
    have hlt : parent < fs.forest.slots.size :=
      Forest.lt_size_of_node? (Forest.node?_of_isDirectory hparent)
    rw [hid]
    exact Nat.ne_of_gt hlt
  rw [withForest, Forest.node?_relink hne, withNew, withForest, Forest.node?_create, ← hid]
  by_cases hother : other = id
  · rw [if_pos hother, if_pos hother, if_pos hother]
    rfl
  · rw [if_neg hother, if_neg hother, if_neg hother]

/-- Creating a node in a directory takes one more slot. -/
theorem size_createIn {parent id : NodeId} {name : String} {body : Body}
    (hbare : body.children = NameMap.empty)
    (h : fs.createIn parent name body = .ok (id, after)) :
    id = fs.forest.slots.size ∧ after.forest.slots.size = fs.forest.slots.size + 1 := by
  obtain ⟨hid, -, -, rfl⟩ := (createIn_eq_ok_iff hbare).1 h
  refine ⟨hid, ?_⟩
  rw [withForest, Forest.size_relink, withNew, withForest, Forest.create, Array.size_push]

/-- **What creating a node in a directory does to look-ups**: a name is found as before, unless it
is looked for where the node was created, or in the node itself. -/
theorem child?_createIn {parent id : NodeId} {name : String} {body : Body}
    (hparent : fs.forest.isDirectory parent = true) (hbare : body.children = NameMap.empty)
    (h : fs.createIn parent name body = .ok (id, after)) {other : NodeId} {asked : String}
    (hother : other ≠ id) (hasked : other = parent → Text.lower asked ≠ Text.lower name) :
    after.forest.child? other asked = fs.forest.child? other asked := by
  rw [Forest.child?, Forest.child?, Forest.childrenOf, Forest.childrenOf,
    node?_createIn hparent hbare h, if_neg hother]
  split
  · rename_i hhere
    cases fs.forest.node? other with
    | none => rfl
    | some node =>
      simp only [Option.map_some, Option.getD_some, Node.withChildren_children]
      split
      · rw [NameMap.get?_insert, if_neg (Ne.symm (hasked hhere))]
      · rfl
  · rfl

/-- A node that was just created holds nothing. -/
theorem child?_new {parent id : NodeId} {name : String} {body : Body}
    (hparent : fs.forest.isDirectory parent = true) (hbare : body.children = NameMap.empty)
    (h : fs.createIn parent name body = .ok (id, after)) (asked : String) :
    after.forest.child? id asked = none := by
  have hchildren : Node.children ⟨name, some parent, body⟩ = NameMap.empty := by
    rw [← hbare]
    cases body <;> rfl
  rw [Forest.child?, Forest.childrenOf, node?_createIn hparent hbare h, if_pos rfl, Option.map_some,
    Option.getD_some, hchildren, NameMap.get?_empty]

/-- Creating a node moves nothing and gives no role. -/
theorem fixed_createIn {parent id : NodeId} {name : String} {body : Body}
    (hbare : body.children = NameMap.empty) (h : fs.createIn parent name body = .ok (id, after)) :
    after.cwd = fs.cwd ∧ after.roles = fs.roles := by
  obtain ⟨-, -, -, rfl⟩ := (createIn_eq_ok_iff hbare).1 h
  exact ⟨rfl, rfl⟩

/-! ## Copying -/

/-- **What a copy leaves that was made.** The source lies in the current directory, which is not the
destination, and of the nodes three are concerned: the copy, the destination, and the file that was
in the way. -/
structure CopiesTo (fs : FileSystem) (destination source copy : NodeId) (after : FileSystem) :
    Prop where
  source_lies : fs.forest.parentOf source = some fs.cwd
  source_file : fs.forest.isDirectory source = false
  away : fs.cwd ≠ destination
  room : ∀ id, fs.forest.child? destination (fs.forest.nameOf source) = some id →
    fs.forest.isDirectory id = false
  new : copy = fs.forest.slots.size
  cwd : after.cwd = fs.cwd
  roles : after.roles = fs.roles
  size : after.forest.slots.size = fs.forest.slots.size + 1
  node? : ∀ id, after.forest.node? id
    = if id = copy then
        some ⟨fs.forest.nameOf source, some destination, .file (fs.forest.textOf source)⟩
      else if id = destination then
        (fs.forest.node? id).map
          (·.withChildren (·.insert (Text.lower (fs.forest.nameOf source)) copy))
      else if fs.forest.child? destination (fs.forest.nameOf source) = some id then
        (fs.forest.node? id).map ({ · with parent := none })
      else fs.forest.node? id

/-- Room is made without moving a node to another number. -/
theorem size_makeRoom {forest cleared : Forest} {destination : NodeId} {name : String}
    (h : makeRoom forest destination name = .ok cleared) :
    cleared.slots.size = forest.slots.size := by
  rcases makeRoom_eq_ok h with ⟨-, rfl⟩ | ⟨holder, -, -, rfl⟩
  · rfl
  · rcases forest.remove_cases destination (forest.nameOf holder) with
      ⟨-, hremove⟩ | ⟨id, -, hremove⟩
    · rw [hremove]
    · rw [hremove, Forest.size_relink]

/-- **What making room and then putting an entry in the free place does to every node.** -/
theorem node?_makeRoom {forest cleared : Forest} (hsound : forest.Sound) {destination : NodeId}
    {name : String} (h : makeRoom forest destination name = .ok cleared) (copy id : NodeId) :
    (if id = destination then
        (cleared.node? id).map (·.withChildren (·.insert (Text.lower name) copy))
      else cleared.node? id)
      = if id = destination then
          (forest.node? id).map (·.withChildren (·.insert (Text.lower name) copy))
        else if forest.child? destination name = some id then
          (forest.node? id).map ({ · with parent := none })
        else forest.node? id := by
  rcases makeRoom_eq_ok h with ⟨hfree, rfl⟩ | ⟨holder, hholder, hfile, rfl⟩
  · rw [hfree]
    simp
  · -- the file in the way stands under the key of its name, and it is not the destination
    have hkey : Text.lower name = Text.lower (forest.nameOf holder) := (hsound.of_get? hholder).1
    have hne : holder ≠ destination := by
      rintro rfl
      rw [Forest.isDirectory_of_get? hholder] at hfile
      exact absurd hfile (by decide)
    rcases forest.remove_cases destination (forest.nameOf holder) with
      ⟨hnone, -⟩ | ⟨removed, hremoved, hremove⟩
    · rw [Forest.child?, ← hkey, ← Forest.child?, hholder] at hnone
      exact absurd hnone (by simp)
    · have hsame : removed = holder := by
        rw [Forest.child?, ← hkey, ← Forest.child?, hholder] at hremoved
        exact (Option.some.inj hremoved).symm
      rw [hremove, hsame, Forest.node?_relink hne, ← hkey, hholder]
      by_cases hdestination : id = destination
      · subst hdestination
        rw [if_pos rfl, if_pos rfl, if_neg hne.symm, if_pos rfl, Option.map_map]
        apply Option.map_congr
        intro node _
        rw [Function.comp, Node.withChildren_withChildren]
        congr 1
        funext children
        exact children.insert_erase _ _
      · rw [if_neg hdestination, if_neg hdestination, if_neg hdestination]
        by_cases hid : id = holder
        · rw [if_pos hid, if_pos (congrArg some hid.symm)]
        · rw [if_neg hid, if_neg fun heq => hid (Option.some.inj heq).symm]

/-- **What a copy that succeeds comes to.** Either the destination is the current directory and
nothing has changed, or the copy is made. -/
theorem copyInto_ok (hsound : fs.forest.Sound) {name : String} {destination : NodeId}
    (hdestination : fs.forest.isDirectory destination = true) {copied : Copied}
    (h : fs.copyInto name destination = (.ok copied, after)) :
    fs.child? name = some copied.source
      ∧ ((fs.cwd = destination ∧ after = fs)
        ∨ fs.CopiesTo destination copied.source copied.copy after) := by
  rcases copyInto_cases hsound name hdestination with
    ⟨error, hcopy⟩ | ⟨source, hsource, hfile, ⟨hsame, hcopy⟩
      | ⟨hother, cleared, made, copy, hroom, hcreated, hcopy⟩⟩
  · rw [hcopy] at h
    exact absurd (congrArg Prod.fst h) (by simp)
  · rw [hcopy] at h
    rw [← Except.ok.inj (congrArg Prod.fst h)]
    -- a file is a child of its own parent only
    have hlies : fs.forest.parentOf source = some fs.cwd := (hsound.of_get? hsource).2
    have hheld : fs.forest.parentOf source = some destination := (hsound.of_get? hsame).2
    exact ⟨hsource, .inl ⟨Option.some.inj (hlies.symm.trans hheld), (congrArg Prod.snd h).symm⟩⟩
  · rw [hcopy] at h
    rw [← Except.ok.inj (congrArg Prod.fst h), ← show made = after from congrArg Prod.snd h]
    have hlies : fs.forest.parentOf source = some fs.cwd := (hsound.of_get? hsource).2
    have hroomDirectory : (fs.withForest cleared).forest.isDirectory destination = true :=
      (isDirectory_makeRoom hroom destination).trans hdestination
    obtain ⟨hnew, hsize⟩ := size_createIn rfl hcreated
    have hclearedSize : (fs.withForest cleared).forest.slots.size = fs.forest.slots.size :=
      size_makeRoom hroom
    obtain ⟨hcwd, hroles⟩ := fixed_createIn rfl hcreated
    refine ⟨hsource, .inr ⟨hlies, hfile, ?_, ?_, ?_, hcwd, hroles, ?_, ?_⟩⟩
    · intro hhere
      rw [← hhere] at hother
      exact hother (hsound.child?_of_parentOf hlies)
    · intro id hid
      -- a directory in the way would have stopped the copy
      rcases makeRoom_eq_ok hroom with ⟨hfree, -⟩ | ⟨holder, hholder, hholderFile, -⟩
      · rw [hfree] at hid
        exact absurd hid (by simp)
      · rw [hholder] at hid
        rwa [← Option.some.inj hid]
    · rw [hnew, hclearedSize]
    · rw [hsize, hclearedSize]
    · intro id
      rw [node?_createIn hroomDirectory rfl hcreated]
      by_cases hid : id = copy
      · rw [if_pos hid, if_pos hid]
      · rw [if_neg hid, if_neg hid]
        exact node?_makeRoom hsound hroom copy id

namespace CopiesTo

variable {destination source copy : NodeId}

/-- The copy is the one node that was not there before. -/
theorem ne_copy (h : fs.CopiesTo destination source copy after) {id : NodeId}
    (hid : fs.forest.node? id ≠ none) : id ≠ copy := by
  rw [h.new]
  exact Nat.ne_of_lt (Forest.lt_size_of_node? hid)

/-- **The copy.** -/
theorem node?_copy (h : fs.CopiesTo destination source copy after) :
    after.forest.node? copy
      = some ⟨fs.forest.nameOf source, some destination, .file (fs.forest.textOf source)⟩ := by
  rw [h.node?, if_pos rfl]

/-- **A copy changes nothing but links** of the nodes that were there before. -/
theorem map_node? {α : Type} (h : fs.CopiesTo destination source copy after) (part : Node → α)
    (hchildren : ∀ node f, part (Node.withChildren node f) = part node)
    (hparent : ∀ node parent, part { node with parent := parent } = part node) {id : NodeId}
    (hid : id ≠ copy) : (after.forest.node? id).map part = (fs.forest.node? id).map part := by
  rw [h.node?, if_neg hid]
  split
  · rw [Option.map_map]
    exact Option.map_congr fun node _ => hchildren node _
  · split
    · rw [Option.map_map]
      exact Option.map_congr fun node _ => hparent node _
    · rfl

/-- What is there after a copy was there before it, but for the copy. -/
theorem node?_ne_none (h : fs.CopiesTo destination source copy after) {id : NodeId}
    (hid : id ≠ copy) (hafter : after.forest.node? id ≠ none) : fs.forest.node? id ≠ none := by
  intro hnone
  have hsame := h.map_node? Node.name (fun node f => node.withChildren_name f) (fun _ _ => rfl) hid
  rw [hnone, Option.map_none, Option.map_eq_none_iff] at hsame
  exact hafter hsame

/-- A copy renames nothing. -/
theorem nameOf (h : fs.CopiesTo destination source copy after) {id : NodeId} (hid : id ≠ copy) :
    after.forest.nameOf id = fs.forest.nameOf id := by
  rw [Forest.nameOf, h.map_node? _ (fun node f => node.withChildren_name f) (fun _ _ => rfl) hid,
    Forest.nameOf]

/-- A copy writes into no file that was there before. -/
theorem textOf (h : fs.CopiesTo destination source copy after) {id : NodeId} (hid : id ≠ copy) :
    after.forest.textOf id = fs.forest.textOf id := by
  rw [Forest.textOf, h.map_node? _ (fun node f => node.withChildren_text f) (fun _ _ => rfl) hid,
    Forest.textOf]

/-- **A copy makes no directory and takes none away.** -/
theorem isDirectory (h : fs.CopiesTo destination source copy after) (id : NodeId) :
    after.forest.isDirectory id = fs.forest.isDirectory id := by
  by_cases hid : id = copy
  · rw [hid, Forest.isDirectory, Forest.isDirectory, h.node?_copy, h.new, Forest.node?_size]
    rfl
  · rw [Forest.isDirectory,
      h.map_node? _ (fun node f => node.withChildren_isDirectory f) (fun _ _ => rfl) hid,
      Forest.isDirectory]

/-- **A directory other than the destination is what it was.** -/
theorem node?_of_isDirectory (h : fs.CopiesTo destination source copy after) {id : NodeId}
    (hdirectory : fs.forest.isDirectory id = true) (hne : id ≠ destination) :
    after.forest.node? id = fs.forest.node? id := by
  have hstays : fs.forest.child? destination (fs.forest.nameOf source) ≠ some id := by
    intro hroom
    rw [h.room id hroom] at hdirectory
    exact absurd hdirectory (by decide)
  rw [h.node?, if_neg (h.ne_copy (Forest.node?_of_isDirectory hdirectory)), if_neg hne,
    if_neg hstays]

/-- A directory stays where it is. -/
theorem parentOf (h : fs.CopiesTo destination source copy after) {id : NodeId}
    (hdirectory : fs.forest.isDirectory id = true) :
    after.forest.parentOf id = fs.forest.parentOf id := by
  rw [Forest.parentOf, Forest.parentOf]
  by_cases hid : id = destination
  · rw [h.node?, if_neg (h.ne_copy (Forest.node?_of_isDirectory hdirectory)), if_pos hid,
      Option.bind_map]
    apply Option.bind_congr
    intro node _
    exact node.withChildren_parent _
  · rw [h.node?_of_isDirectory hdirectory hid]

/-- **The destination has the copy under the key of its source**, and else what it had. -/
theorem childrenOf (h : fs.CopiesTo destination source copy after)
    (hdestination : fs.forest.isDirectory destination = true) :
    after.forest.childrenOf destination
      = (fs.forest.childrenOf destination).insert (Text.lower (fs.forest.nameOf source)) copy := by
  rw [Forest.childrenOf, h.node?,
    if_neg (h.ne_copy (Forest.node?_of_isDirectory hdestination)), if_pos rfl, Forest.childrenOf]
  cases hnode : fs.forest.node? destination with
  | none => simp [Forest.isDirectory, hnode] at hdestination
  | some node =>
    have hnodeDirectory : node.isDirectory = true := by
      simpa [Forest.isDirectory, hnode] using hdestination
    rw [Option.map_some, Option.map_some, Option.getD_some, Option.map_some, Option.getD_some,
      Node.withChildren_children, if_pos hnodeDirectory]

/-- What the destination has under another key is what it was. -/
theorem node?_of_get? (h : fs.CopiesTo destination source copy after) (hsound : fs.forest.Sound)
    {key : String} (hkey : key ≠ Text.lower (fs.forest.nameOf source)) {id : NodeId}
    (hid : (fs.forest.childrenOf destination).get? key = some id) :
    after.forest.node? id = fs.forest.node? id := by
  have hlies := (hsound.of_get? hid).2
  have hne : id ≠ destination := by
    intro heq
    rw [heq] at hlies
    exact hsound.acyclic destination (.single hlies)
  have hstays : fs.forest.child? destination (fs.forest.nameOf source) ≠ some id := by
    intro hroom
    -- no node has two keys
    rw [(hsound.of_get? hid).1, (hsound.of_get? hroom).1] at hkey
    exact hkey rfl
  rw [h.node?, if_neg (h.ne_copy (Forest.node?_of_parentOf hlies)), if_neg hne, if_neg hstays]

/-- A copy into another directory leaves the current one as it was. -/
theorem list (h : fs.CopiesTo destination source copy after)
    (hcwd : fs.forest.isDirectory fs.cwd = true) : after.list = fs.list := by
  rw [FileSystem.list, FileSystem.list, h.cwd, Forest.listing, Forest.listing, Forest.childrenOf,
    Forest.childrenOf, h.node?_of_isDirectory hcwd h.away]

end CopiesTo

end FileSystem

end StoryShell
