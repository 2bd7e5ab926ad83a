/-
The file system of a world that was read mirrors the tree of the world.

The names in a directory of the tree are different, so planting is never refused, and what is
planted mirrors the tree. Every directory that is planted belongs to the tree, so no role is refused
either; the one thing that can go wrong is a path that does not lead to a directory
(`assignRoles_cases`). Since names lead through the forest as they lead through the tree, that is a
path that does not lead to a directory of the tree, and every other one gives its role to the
directory that it names (`World.build_faithful`).
-/
import StoryShell.Proofs.World.Mirror

set_option autoImplicit false

namespace StoryShell

namespace World

/-! ## What a world says -/

/-- **The tree of a world**, with the directory that holds it. -/
def top (world : World) : Seed := .directory topName "" world.seeds

/-- **The directory that a path names**, by its address. -/
def DirectoryAt (world : World) (path : String) (address : List Nat) : Prop :=
  world.top.Follows (Forest.segmentsOf path) address
    ∧ ∃ name text children, world.top.below? address = some (.directory name text children)

/-- The path that a list of entries gives to a role: of several the last one counts. -/
def pathIn? (entries : List (String × String)) (role : String) : Option String :=
  entries.reverse.lookup role

/-- **The path of a role.** -/
def pathOf? (world : World) (role : String) : Option String :=
  pathIn? world.wellKnown role

theorem pathIn?_cons (entry : String × String) (rest : List (String × String)) (role : String) :
    pathIn? (entry :: rest) role
      = (pathIn? rest role).or (if role = entry.1 then some entry.2 else none) := by
  rw [pathIn?, pathIn?, List.reverse_cons, List.lookup_append, List.lookup_cons]
  congr 1
  by_cases hrole : role = entry.1
  · simp [hrole]
  · simp [hrole, beq_eq_false_iff_ne.2 hrole]

/-! ## Roles -/

/-- A path that leads to a directory of a forest. -/
def Leads (forest : Forest) (path : String) (directory : NodeId) : Prop :=
  forest.resolve path = some directory ∧ forest.isDirectory directory = true

/-- **What comes of a role**: its path leads to a directory, which gets the role, or it does not. -/
theorem assignRole_cases (world : String) (fs : FileSystem)
    (htree : ∀ id, fs.forest.isDirectory id = true → fs.forest.isAttached id = true)
    (entry : String × String) :
    (∃ directory, Leads fs.forest entry.2 directory
        ∧ assignRole world fs entry
          = .ok { fs with roles := fs.roles.insert entry.1 directory })
      ∨ (∀ directory, ¬ Leads fs.forest entry.2 directory)
        ∧ assignRole world fs entry = .error (.notADirectory entry.1 entry.2 world) := by
  rw [assignRole]
  cases hresolve : fs.forest.resolve entry.2 with
  | none =>
    refine .inr ⟨fun directory hleads => ?_, rfl⟩
    rw [hleads.1] at hresolve
    exact absurd hresolve (by simp)
  | some directory =>
    by_cases hdirectory : fs.forest.isDirectory directory = true
    · have hregister : fs.register entry.1 directory
          = .ok { fs with roles := fs.roles.insert entry.1 directory } :=
        FileSystem.register_eq_ok_iff.2 ⟨htree directory hdirectory, rfl⟩
      refine .inl ⟨directory, ⟨hresolve, hdirectory⟩, ?_⟩
      simp only [if_pos hdirectory, hregister, Except.mapError]
    · refine .inr ⟨fun other hleads => ?_, if_neg hdirectory⟩
      have hsame : other = directory := Option.some.inj (hleads.1.symm.trans hresolve)
      rw [hsame] at hleads
      exact hdirectory hleads.2

/-- **What comes of roles**: all paths lead to directories, which get the roles, or one of them does
not, and the first of those is reported. -/
theorem assignRoles_cases (world : String) (fs : FileSystem)
    (htree : ∀ id, fs.forest.isDirectory id = true → fs.forest.isAttached id = true)
    (entries : List (String × String)) :
    (∃ after, entries.foldlM (assignRole world) fs = .ok after
        ∧ after.forest = fs.forest ∧ after.cwd = fs.cwd
        ∧ (∀ entry ∈ entries, ∃ directory, Leads fs.forest entry.2 directory)
        ∧ ∀ role, match pathIn? entries role with
          | none => after.roles.get? role = fs.roles.get? role
          | some path => ∃ directory, Leads fs.forest path directory
            ∧ after.roles.get? role = some directory)
      ∨ ∃ entry ∈ entries, (∀ directory, ¬ Leads fs.forest entry.2 directory)
        ∧ entries.foldlM (assignRole world) fs
          = .error (.notADirectory entry.1 entry.2 world) := by
  induction entries generalizing fs with
  | nil => exact .inl ⟨fs, rfl, rfl, rfl, by simp, fun role => rfl⟩
  | cons entry rest ih =>
    rw [List.foldlM_cons]
    rcases assignRole_cases world fs htree entry with
      ⟨directory, hleads, hassign⟩ | ⟨hnone, hassign⟩
    · rw [hassign]
      -- a role changes no node, so the other paths lead where they led
      rcases ih { fs with roles := fs.roles.insert entry.1 directory } htree with
        ⟨after, hrest, hforest, hcwd, hall, hroles⟩ | ⟨bad, hbad, hnone, hrest⟩
      · refine .inl ⟨after, hrest, hforest, hcwd,
          List.forall_mem_cons.2 ⟨⟨directory, hleads⟩, hall⟩, fun role => ?_⟩
        have hrole := hroles role
        rw [pathIn?_cons]
        cases hpath : pathIn? rest role with
        | some path => rwa [hpath] at hrole
        | none =>
          rw [hpath, NameMap.get?_insert] at hrole
          by_cases hsame : role = entry.1
          · rw [if_pos hsame.symm] at hrole
            simpa [hsame] using ⟨directory, hleads, hsame ▸ hrole⟩
          · rw [if_neg (Ne.symm hsame)] at hrole
            simpa [hsame] using hrole
      · exact .inr ⟨bad, List.mem_cons_of_mem _ hbad, hnone, hrest⟩
    · rw [hassign]
      exact .inr ⟨entry, List.mem_cons_self, hnone, rfl⟩

/-- Entries have a path for every role that they name. -/
theorem pathIn?_eq_none_iff {entries : List (String × String)} {role : String} :
    pathIn? entries role = none ↔ role ∉ entries.map Prod.fst := by
  simp only [pathIn?, List.lookup_eq_none_iff, List.mem_reverse, List.mem_map, not_exists, not_and,
    bne_iff_ne]
  exact ⟨fun h entry hentry heq => h entry hentry heq.symm,
    fun h entry hentry heq => h entry hentry heq.symm⟩

/-- **How a built file system begins**: in the root, with the roles that the world names. -/
theorem fixed_build {world : World} {fs : FileSystem} (h : world.build = .ok fs) :
    fs.cwd = Forest.root
      ∧ ∀ role, fs.roles.get? role = none ↔ role ∉ world.wellKnown.map Prod.fst := by
  rw [build] at h
  cases hplanted : Seed.plantAll Forest.root world.seeds FileSystem.initial with
  | error error => simp [hplanted] at h
  | ok planted =>
    simp only [hplanted] at h
    obtain ⟨hroot, hempty⟩ := fixed_plantAll hplanted
    have hgrown : planted.Grown fun _ => True :=
      grown_plantAll (Seed.allNames_of_forall (fun _ => trivial) world.seeds) hplanted
    have hsound := hgrown.sound
    have htree : ∀ id, planted.forest.isDirectory id = true → planted.forest.isAttached id = true :=
      fun id hid => hsound.forest.isAttached_iff.2
        (isTree_plantAll hplanted id (Forest.node?_of_isDirectory hid))
    rcases assignRoles_cases world.id planted htree world.wellKnown with
      ⟨after, hassign, -, hcwd, -, hroles⟩ | ⟨entry, -, -, hassign⟩
    · obtain rfl := Except.ok.inj (hassign.symm.trans h)
      refine ⟨hcwd.trans hroot, fun role => ?_⟩
      have hrole := hroles role
      rw [← pathIn?_eq_none_iff]
      cases hpath : pathIn? world.wellKnown role with
      | none =>
        rw [hpath, hempty, NameMap.get?_empty] at hrole
        simp [hrole]
      | some path =>
        rw [hpath] at hrole
        obtain ⟨directory, -, hget⟩ := hrole
        simp [hget]
    · rw [hassign] at h
      exact absurd h (by simp)

/-! ## Building -/

/-- **The tree of a world that was read can be planted.** -/
theorem planted_of_proper {world : World} (hdistinct : Seed.Distinct world.seeds)
    (hproper : ∀ seed ∈ world.seeds, seed.All Seed.IsProper) :
    ∃ planted, Seed.plantAll Forest.root world.seeds FileSystem.initial = .ok planted
      ∧ Seed.Planted Forest.root (world.seeds.map Seed.key)
        (Seed.nodesAll Forest.root (Forest.root + 1) world.seeds)
        [⟨"/", none, .directory NameMap.empty⟩] FileSystem.initial planted :=
  Seed.planted_plantAll world.seeds hdistinct
    (fun seed hseed address found hfound => (hproper seed hseed address found hfound).distinct)
    FileSystem.sound_initial Forest.lists_initial FileSystem.sound_initial.root fun seed _ => by
      rw [Forest.child?, FileSystem.initial, Forest.childrenOf_initial, NameMap.get?_empty]

/-- **What is planted mirrors the tree**, and every directory of it belongs to the tree. -/
theorem planted_mirrors {world : World} (hdistinct : Seed.Distinct world.seeds)
    (hproper : ∀ seed ∈ world.seeds, seed.All Seed.IsProper) :
    ∃ planted, Seed.plantAll Forest.root world.seeds FileSystem.initial = .ok planted
      ∧ planted.Sound ∧ planted.cwd = Forest.root
      ∧ (∀ id, planted.forest.isDirectory id = true → planted.forest.isAttached id = true)
      ∧ planted.forest.Mirrors world.top world.top.number := by
  obtain ⟨planted, hplant, hplanted⟩ := planted_of_proper hdistinct hproper
  refine ⟨planted, hplant, hplanted.sound, hplanted.fixed.1, fun id hid => ?_,
    Forest.mirrors_of_lists hplanted.sound.forest hplanted.lists⟩
  exact hplanted.sound.forest.isAttached_iff.2
    (isTree_plantAll hplant id (Forest.node?_of_isDirectory hid))

variable {forest : Forest} {world : World} {place : List Nat → NodeId}

/-- Paths lead to directories of a forest that mirrors the tree as they name directories of it. -/
theorem leads_iff (hmirrors : forest.Mirrors world.top place) (hsound : forest.Sound)
    {path : String} {id : NodeId} :
    Leads forest path id ↔ ∃ address, world.DirectoryAt path address ∧ place address = id := by
  rw [Leads, hmirrors.resolve_eq_some_iff hsound]
  constructor
  · rintro ⟨⟨address, hfollows, rfl⟩, hdirectory⟩
    obtain ⟨seed, hseed⟩ := Seed.below?_of_follows hfollows
    obtain ⟨name, text, children, rfl⟩ := (hmirrors.isDirectory_place_iff hseed).1 hdirectory
    exact ⟨address, ⟨hfollows, name, text, children, hseed⟩, rfl⟩
  · rintro ⟨address, ⟨hfollows, name, text, children, hseed⟩, rfl⟩
    exact ⟨⟨address, hfollows, rfl⟩,
      (hmirrors.isDirectory_place_iff hseed).2 ⟨name, text, children, rfl⟩⟩

/-- A path names one directory at most. -/
theorem directoryAt_unique (hmirrors : forest.Mirrors world.top place) (hsound : forest.Sound)
    {path : String} {address other : List Nat} (h : world.DirectoryAt path address)
    (hother : world.DirectoryAt path other) : other = address := by
  have hleads := (leads_iff hmirrors hsound).2 ⟨address, h, rfl⟩
  have hothers := (leads_iff hmirrors hsound).2 ⟨other, hother, rfl⟩
  obtain ⟨-, name, text, children, hseed⟩ := h
  obtain ⟨-, othername, othertext, others, hfound⟩ := hother
  exact hmirrors.injective hfound hseed (Option.some.inj (hothers.1.symm.trans hleads.1))

/-- **What comes of building a world that was read**: a file system that mirrors its tree and has
its roles, or the report of a path that names no directory. -/
theorem build_cases {json : Json} {world : World} (h : decode json = .ok world) :
    (∃ fs, world.build = .ok fs ∧ fs.cwd = Forest.root
        ∧ fs.forest.Mirrors world.top world.top.number
        ∧ (∀ entry ∈ world.wellKnown, ∃ address, world.DirectoryAt entry.2 address)
        ∧ ∀ role path, world.pathOf? role = some path →
          ∃ address, (∀ other, world.DirectoryAt path other ↔ other = address)
            ∧ fs.wellKnown role = .ok (world.top.number address))
      ∨ ∃ entry ∈ world.wellKnown, (∀ address, ¬ world.DirectoryAt entry.2 address)
        ∧ world.build = .error (.notADirectory entry.1 entry.2 world.id) := by
  obtain ⟨hdistinct, hproper⟩ := proper_of_decode h
  obtain ⟨planted, hplant, hsound, hcwd, htree, hmirrors⟩ := planted_mirrors hdistinct hproper
  have hleads : ∀ {path directory}, Leads planted.forest path directory
      ↔ ∃ address, world.DirectoryAt path address ∧ world.top.number address = directory :=
    leads_iff hmirrors hsound.forest
  have hbuild : world.build = world.wellKnown.foldlM (assignRole world.id) planted := by
    rw [build, hplant]
  rw [hbuild]
  rcases assignRoles_cases world.id planted htree world.wellKnown with
    ⟨fs, hassign, hforest, hstays, hall, hroles⟩ | ⟨entry, hentry, hnone, hassign⟩
  · refine .inl ⟨fs, hassign, hstays.trans hcwd, by rw [hforest]; exact hmirrors,
      fun entry hentry => ?_, fun role path hpath => ?_⟩
    · obtain ⟨directory, hto⟩ := hall entry hentry
      obtain ⟨address, hat, -⟩ := hleads.1 hto
      exact ⟨address, hat⟩
    · have hrole := hroles role
      rw [show pathIn? world.wellKnown role = some path from hpath] at hrole
      obtain ⟨directory, hto, hget⟩ := hrole
      obtain ⟨address, hat, rfl⟩ := hleads.1 hto
      refine ⟨address, fun other => ⟨directoryAt_unique hmirrors hsound.forest hat, ?_⟩,
        FileSystem.wellKnown_eq_ok_iff.2 ⟨hget, ?_⟩⟩
      · rintro rfl
        exact hat
      · rw [hforest]
        exact htree _ hto.2
  · exact .inr ⟨entry, hentry, fun address hat => hnone _ (hleads.2 ⟨address, hat, rfl⟩), hassign⟩

/-- **The file system of a world that was read.** It is built unless a path of a role names no
directory of the tree, which is then reported. When it is built, it mirrors the tree of the world,
its current directory is the root, and every role is that of the one directory that its path
names. -/
theorem build_faithful {json : Json} {world : World} (h : decode json = .ok world) :
    (∀ error, world.build = .error error →
        ∃ role path, (role, path) ∈ world.wellKnown ∧ (∀ address, ¬ world.DirectoryAt path address)
          ∧ error = .notADirectory role path world.id)
      ∧ ((∃ entry ∈ world.wellKnown, ∀ address, ¬ world.DirectoryAt entry.2 address) →
        ∃ error, world.build = .error error)
      ∧ ∀ fs, world.build = .ok fs → fs.cwd = Forest.root
        ∧ ∃ place, fs.forest.Mirrors world.top place
          ∧ ∀ role path, world.pathOf? role = some path →
            ∃ address, (∀ other, world.DirectoryAt path other ↔ other = address)
              ∧ fs.wellKnown role = .ok (place address) := by
  rcases build_cases h with ⟨built, hbuild, hcwd, hmirrors, hall, hroles⟩
    | ⟨entry, hentry, hnone, hbuild⟩
  · rw [hbuild]
    refine ⟨fun error herror => absurd herror (by simp), fun ⟨entry, hentry, hnone⟩ => ?_,
      fun fs hfs => ?_⟩
    · obtain ⟨address, hat⟩ := hall entry hentry
      exact absurd hat (hnone address)
    · obtain rfl := Except.ok.inj hfs
      exact ⟨hcwd, world.top.number, hmirrors, hroles⟩
  · rw [hbuild]
    refine ⟨fun error herror => ?_, fun _ => ⟨_, rfl⟩, fun fs hfs => absurd hfs (by simp)⟩
    exact ⟨entry.1, entry.2, hentry, hnone, (Except.error.inj herror).symm⟩

/-- A role whose path goes through two directories, in another spelling. -/
theorem build_faithful_of_docs :
    let json : Json := .object [("id", .string "w"),
      ("well_known", .object [("desk", .string "HOME//docs")]),
      ("tree", .array [.object [("name", .string "notes")],
        .object [("name", .string "Home"), ("type", .string "directory"), ("children", .array [
          .object [("name", .string "a"), ("content", .string "text")],
          .object [("name", .string "Docs"), ("type", .string "directory")]])]])]
    ∃ (world : World) (fs : FileSystem), decode json = .ok world ∧ world.build = .ok fs
      ∧ fs.cwd = Forest.root
      ∧ ∃ place, fs.forest.Mirrors world.top place
        ∧ ∃ address, (∀ other, world.DirectoryAt "HOME//docs" other ↔ other = address)
          ∧ fs.wellKnown "desk" = .ok (place address) := by
  intro json
  have hrun : (decode json).toOption.bind (fun world =>
      world.build.toOption.map fun _ => world.pathOf? "desk") = some (some "HOME//docs") := by
    decide +kernel
  obtain ⟨world, hworld, hrun⟩ := Option.bind_eq_some_iff.1 hrun
  obtain ⟨fs, hfs, hpath⟩ := Option.map_eq_some_iff.1 hrun
  have hdecode := ok_of_toOption hworld
  have hbuild := ok_of_toOption hfs
  obtain ⟨hcwd, place, hmirrors, hroles⟩ := (build_faithful hdecode).2.2 fs hbuild
  exact ⟨world, fs, hdecode, hbuild, hcwd, place, hmirrors, hroles "desk" "HOME//docs" hpath⟩

end World

end StoryShell
