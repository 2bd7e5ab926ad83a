/-
What can be relied on in a world that was read.

A node and a world are read from the fields of an object, and from what was read there it can be
told what the fields are (`Seed.ofFields_eq_ok_iff`, `World.decode_object_eq_ok_iff`). Reading a
node refuses a name that is empty or has a slash, and children of one name up to case, and it does
so for each node of the tree (`all_decode`, `all_decodeAll`). So a world that was read has sound
names throughout (`World.allNames_of_decode`), which are different in each directory
(`World.proper_of_decode`). And reading milestones refuses a table that is not valid
(`World.valid_of_decode`).
-/
import Mathlib.Data.List.Forall2
import StoryShell.Proofs.Story.Prerequisites
import StoryShell.Proofs.World.Address
import StoryShell.Proofs.World.Build

set_option autoImplicit false

namespace StoryShell

namespace Seed

/-! ## Names -/

/-- **A name that a node can have**: it is not empty and has no slash. -/
structure IsName (name : String) : Prop where
  ne_empty : name ≠ ""
  no_slash : '/' ∉ name.toList

instance (name : String) : Decidable (IsName name) :=
  decidable_of_iff (name ≠ "" ∧ '/' ∉ name.toList)
    ⟨fun ⟨hne, hslash⟩ => ⟨hne, hslash⟩, fun h => ⟨h.ne_empty, h.no_slash⟩⟩

/-- The key of a seed: names are the same if they differ in case only. -/
def key (seed : Seed) : String := Text.lower seed.name

/-- Whether the names of the seeds of a directory are different. -/
def Distinct (seeds : List Seed) : Prop := (seeds.map key).Nodup

/-- **No name is found a second time** just if none is given twice, nor is one that was seen before.
-/
theorem duplicate?_eq_none_iff {keys : List String} {seeds : List Seed} :
    duplicate? keys seeds = none ↔ Distinct seeds ∧ ∀ seed ∈ seeds, seed.key ∉ keys := by
  induction seeds generalizing keys with
  | nil => simp [duplicate?, Distinct]
  | cons seed rest ih =>
    rw [duplicate?, Distinct, List.map_cons, List.nodup_cons, List.forall_mem_cons]
    by_cases hseen : Text.lower seed.name ∈ keys
    · simp [key, hseen]
    · rw [if_neg hseen, ih]
      simp only [Distinct, key, List.mem_cons, List.mem_map, not_or, not_exists, not_and]
      constructor
      · rintro ⟨hrest, hnew⟩
        exact ⟨⟨fun other hother => (hnew other hother).1, hrest⟩, hseen,
          fun other hother => (hnew other hother).2⟩
      · rintro ⟨⟨hfirst, hrest⟩, -, hnew⟩
        exact ⟨hrest, fun other hother => ⟨hfirst other hother, hnew other hother⟩⟩

/-- **Seeds pass the check of their names** just if these are different. -/
theorem checkNames_eq_ok_iff {directory : String} {seeds : List Seed} :
    checkNames directory seeds = .ok () ↔ Distinct seeds := by
  have hnone : duplicate? [] seeds = none ↔ Distinct seeds ∧ ∀ seed ∈ seeds, seed.key ∉ [] :=
    duplicate?_eq_none_iff
  rw [checkNames]
  cases hduplicate : duplicate? [] seeds with
  | none => simpa [hduplicate] using hnone
  | some seed => simpa [hduplicate] using hnone

/-! ## The tree -/

/-- **A proper seed**: its name is sound, and those of its children are different. -/
structure IsProper (seed : Seed) : Prop where
  name : IsName seed.name
  distinct : Distinct seed.children

/-- The name among the fields of a node. -/
def nameIn (fields : List (String × Json)) : String := Text.trim (Json.textField "name" "" fields)

/-- The kind among the fields of a node. -/
def kindIn (fields : List (String × Json)) : String := Json.textField "type" "file" fields

/-- The seed that the fields of a node make of its children. -/
def seedIn (fields : List (String × Json)) (children : List Seed) : Seed :=
  if kindIn fields = "file" then .file (nameIn fields) (Json.textField "content" "" fields)
  else .directory (nameIn fields) (Json.textField "content" "" fields) children

/-- **What is read from the fields of an object**: a seed of a sound name and of a kind that there
is, with the children that were read before it, of different names, or without any if it is a file.
-/
theorem ofFields_eq_ok_iff {fields : List (String × Json)} {children : Except LoadError (List Seed)}
    {seed : Seed} :
    ofFields fields children = .ok seed
      ↔ IsName (nameIn fields) ∧ kindIn fields ∈ kinds
        ∧ (kindIn fields = "file" → ((Json.field? "children" fields).getD .null).isNothing = true)
        ∧ ∃ seeds, children = .ok seeds ∧ Distinct seeds ∧ seedIn fields seeds = seed := by
  unfold ofFields
  extract_lets name kind text finish checkChildren checkKind
  have hname : (name = "" || name.toList.contains '/') = true ↔ ¬ IsName (nameIn fields) := by
    have hparts : IsName (nameIn fields) ↔ name ≠ "" ∧ '/' ∉ name.toList :=
      ⟨fun h => ⟨h.ne_empty, h.no_slash⟩, fun h => ⟨h.1, h.2⟩⟩
    rw [hparts, Bool.or_eq_true, decide_eq_true_eq, List.contains_iff_mem, not_and_or, not_not,
      not_not]
  by_cases hinvalid : (name = "" || name.toList.contains '/') = true
  · rw [if_pos hinvalid]
    exact ⟨fun h => (by cases h), fun h => absurd h.1 (hname.1 hinvalid)⟩
  rw [if_neg hinvalid, and_iff_right (not_not.1 (mt hname.2 hinvalid))]
  by_cases hkind : kind ∉ kinds
  · simp only [checkKind, if_pos hkind]
    exact ⟨fun h => (by cases h), fun h => absurd h.1 hkind⟩
  simp only [checkKind, if_neg hkind]
  rw [and_iff_right (show kindIn fields ∈ kinds from not_not.1 hkind)]
  by_cases hfile : (kind = "file" && !((Json.field? "children" fields).getD .null).isNothing) = true
  · simp only [checkChildren, if_pos hfile]
    rw [Bool.and_eq_true, decide_eq_true_eq, Bool.not_eq_true'] at hfile
    refine ⟨fun h => (by cases h), fun h => ?_⟩
    rw [h.1 hfile.1] at hfile
    exact absurd hfile.2 (by decide)
  simp only [checkChildren, if_neg hfile, finish]
  have hnothing : kindIn fields = "file"
      → ((Json.field? "children" fields).getD .null).isNothing = true := by
    intro hkindIn
    by_contra hsome
    rw [Bool.and_eq_true, decide_eq_true_eq, Bool.not_eq_true', ← Bool.not_eq_true] at hfile
    exact hfile ⟨hkindIn, hsome⟩
  rw [and_iff_right hnothing, bind_eq_ok]
  refine exists_congr fun seeds => and_congr_right fun _ => ?_
  rw [bind_eq_ok]
  constructor
  · rintro ⟨⟨⟩, hcheck, hreturn⟩
    exact ⟨checkNames_eq_ok_iff.1 hcheck, Except.ok.inj hreturn⟩
  · rintro ⟨hdistinct, hseed⟩
    exact ⟨(), checkNames_eq_ok_iff.2 hdistinct, congrArg Except.ok hseed⟩

/-- **A seed that is read is proper** where its children have different names, and has no others. -/
theorem isProper_seedIn {fields : List (String × Json)} {seeds : List Seed}
    (hname : IsName (nameIn fields)) (hdistinct : Distinct seeds) :
    (seedIn fields seeds).IsProper ∧ (seedIn fields seeds).children ⊆ seeds := by
  rw [seedIn]
  split
  · exact ⟨⟨hname, List.nodup_nil⟩, List.nil_subset _⟩
  · exact ⟨⟨hname, hdistinct⟩, List.Subset.refl _⟩

/-- The children of a node are read from its field for them. -/
theorem decodeChildren_eq (fields : List (String × Json)) :
    decodeChildren fields
      = match Json.field? "children" fields with
        | none => .ok []
        | some value => decodeElements value := by
  induction fields with
  | nil => rfl
  | cons field rest ih =>
    obtain ⟨name, value⟩ := field
    rw [decodeChildren, Json.field?]
    split
    · rfl
    · exact ih

/-- **Nodes are read one by one.** -/
theorem decodeAll_eq_ok_iff {items : List Json} {seeds : List Seed} :
    decodeAll items = .ok seeds
      ↔ List.Forall₂ (fun item seed => decode item = .ok seed) items seeds := by
  induction items generalizing seeds with
  | nil =>
    rw [decodeAll, List.forall₂_nil_left_iff]
    exact ⟨fun h => (Except.ok.inj h).symm, fun h => congrArg Except.ok h.symm⟩
  | cons item rest ih =>
    rw [decodeAll, List.forall₂_cons_left_iff]
    cases hitem : decode item with
    | error error => simp
    | ok seed =>
      simp only [map_eq_ok, Except.ok.injEq]
      constructor
      · rintro ⟨later, hrest, rfl⟩
        exact ⟨seed, later, rfl, ih.1 hrest, rfl⟩
      · rintro ⟨found, later, rfl, hlater, rfl⟩
        exact ⟨later, ih.2 hlater, rfl⟩

mutual

/-- **A node that was read** is proper, as are all below it. -/
theorem all_decode : (json : Json) → ∀ seed, decode json = .ok seed → seed.All IsProper
  | .object fields => by
    intro seed h
    rw [decode] at h
    obtain ⟨hname, -, -, seeds, hseeds, hdistinct, rfl⟩ := ofFields_eq_ok_iff.1 h
    obtain ⟨hproper, hsubset⟩ := isProper_seedIn hname hdistinct
    exact all_iff.2 ⟨hproper, fun child hchild =>
      all_decodeChildren fields seeds hseeds child (hsubset hchild)⟩
  | .null | .bool _ | .integer _ | .real _ | .string _ | .array _ => by simp [decode]

/-- The children that were read among the fields of a node are proper. -/
theorem all_decodeChildren : (fields : List (String × Json)) →
    ∀ seeds, decodeChildren fields = .ok seeds → ∀ seed ∈ seeds, seed.All IsProper
  | [] => by
    intro seeds h
    have hseeds : [] = seeds := by simpa [decodeChildren] using h
    simp [← hseeds]
  | (name, value) :: rest => by
    intro seeds h
    rw [decodeChildren] at h
    split at h
    · exact all_decodeElements value seeds h
    · exact all_decodeChildren rest seeds h

/-- The nodes that were read from the items of a value are proper. -/
theorem all_decodeElements : (json : Json) →
    ∀ seeds, decodeElements json = .ok seeds → ∀ seed ∈ seeds, seed.All IsProper
  | .array items => by
    intro seeds h
    rw [decodeElements] at h
    exact all_decodeAll items seeds h
  | .string _ | .object _ => by
    intro seeds h
    rw [decodeElements] at h
    split at h
    · have hseeds : [] = seeds := by simpa using h
      simp [← hseeds]
    · exact absurd h (by simp)
  | .null | .bool _ | .integer _ | .real _ => by simp [decodeElements]

/-- The nodes in a list that was read are proper. -/
theorem all_decodeAll : (items : List Json) →
    ∀ seeds, decodeAll items = .ok seeds → ∀ seed ∈ seeds, seed.All IsProper
  | [] => by
    intro seeds h
    have hseeds : [] = seeds := by simpa [decodeAll] using h
    simp [← hseeds]
  | item :: rest => by
    intro seeds h
    rw [decodeAll] at h
    cases hitem : decode item with
    | error error => simp [hitem] at h
    | ok seed =>
      rw [hitem] at h
      obtain ⟨later, hrest, rfl⟩ := map_eq_ok.1 h
      rw [List.forall_mem_cons]
      exact ⟨all_decode item seed hitem, all_decodeAll rest later hrest⟩

end

mutual

/-- Proper seeds have sound names. -/
theorem names_of_all : (seed : Seed) → seed.All IsProper → seed.Names IsName
  | .file _ _, h => (all_iff.1 h).1.name
  | .directory _ _ children, h =>
    ⟨(all_iff.1 h).1.name, allNames_of_all children (all_iff.1 h).2⟩

theorem allNames_of_all : (seeds : List Seed) → (∀ seed ∈ seeds, seed.All IsProper) →
    AllNames IsName seeds
  | [], _ => trivial
  | seed :: rest, h =>
    ⟨names_of_all seed (h seed List.mem_cons_self),
      allNames_of_all rest fun other hother => h other (List.mem_cons_of_mem _ hother)⟩

end

end Seed

/-! ## The world -/

namespace World

/-- **What a world is read from**: the fields of an object, each part from its own. -/
theorem decode_object_eq_ok_iff {fields : List (String × Json)} {world : World} :
    decode (.object fields) = .ok world
      ↔ Json.requiredField "id" fields = .ok world.id
        ∧ decodeSeeds fields = .ok world.seeds
        ∧ decodeMilestones fields = .ok world.milestones
        ∧ world.title = Json.textField "title" world.id fields
        ∧ Json.textsField "intro" fields = .ok world.intro
        ∧ decodeRoles fields = .ok world.wellKnown
        ∧ Json.lowerField "allowed_commands" fields = .ok world.allowed
        ∧ Json.lowerField "blocked_commands" fields = .ok world.blocked := by
  simp only [decode, bind_eq_ok]
  constructor
  · rintro ⟨id, hid, seeds, hseeds, milestones, hmilestones, intro, hintro, roles, hroles, allowed,
      hallowed, blocked, hblocked, hworld⟩
    rw [← Except.ok.inj hworld]
    exact ⟨hid, hseeds, hmilestones, rfl, hintro, hroles, hallowed, hblocked⟩
  · rintro ⟨hid, hseeds, hmilestones, htitle, hintro, hroles, hallowed, hblocked⟩
    refine ⟨_, hid, _, hseeds, _, hmilestones, _, hintro, _, hroles, _, hallowed, _, hblocked, ?_⟩
    rw [← htitle]
    rfl

/-- A world is read from an object. -/
theorem object_of_decode {json : Json} {world : World} (h : decode json = .ok world) :
    ∃ fields, json = .object fields := by
  cases json with
  | object fields => exact ⟨fields, rfl⟩
  | null | bool _ | integer _ | real _ | string _ | array _ => simp [decode] at h

/-! ### The tree -/

/-- **The tree is read** from the field for it, and its seeds have to have different names. -/
theorem decodeSeeds_eq_ok_iff {fields : List (String × Json)} {seeds : List Seed} :
    decodeSeeds fields = .ok seeds
      ↔ (match Json.field? "tree" fields with
          | none => .ok []
          | some value => Seed.decodeElements value : Except LoadError (List Seed)) = .ok seeds
        ∧ Seed.Distinct seeds := by
  have hread : ∀ {read : Except LoadError (List Seed)},
      (read >>= fun found => Seed.checkNames topName found >>= fun _ => pure found) = .ok seeds
        ↔ read = .ok seeds ∧ Seed.Distinct seeds := by
    intro read
    rw [bind_eq_ok]
    constructor
    · rintro ⟨found, hfound, hrest⟩
      obtain ⟨⟨⟩, hcheck, hreturn⟩ := bind_eq_ok.1 hrest
      rw [← Except.ok.inj hreturn]
      exact ⟨hfound, Seed.checkNames_eq_ok_iff.1 hcheck⟩
    · rintro ⟨hseeds, hdistinct⟩
      exact ⟨seeds, hseeds, bind_eq_ok.2 ⟨(), Seed.checkNames_eq_ok_iff.2 hdistinct, rfl⟩⟩
  rw [decodeSeeds]
  cases Json.field? "tree" fields with
  | none => exact hread
  | some value => exact hread

/-- **The tree that was read**: its seeds have different names, and they are proper, as are all
below them. -/
theorem proper_of_decodeSeeds {fields : List (String × Json)} {seeds : List Seed}
    (h : decodeSeeds fields = .ok seeds) :
    Seed.Distinct seeds ∧ ∀ seed ∈ seeds, seed.All Seed.IsProper := by
  obtain ⟨hseeds, hdistinct⟩ := decodeSeeds_eq_ok_iff.1 h
  refine ⟨hdistinct, ?_⟩
  split at hseeds
  · -- a world without a tree has no seeds
    obtain rfl := Except.ok.inj hseeds
    simp
  · exact Seed.all_decodeElements _ seeds hseeds

/-- **The tree of a world that was read.** -/
theorem proper_of_decode {json : Json} {world : World} (h : decode json = .ok world) :
    Seed.Distinct world.seeds ∧ ∀ seed ∈ world.seeds, seed.All Seed.IsProper := by
  obtain ⟨fields, rfl⟩ := object_of_decode h
  exact proper_of_decodeSeeds (decode_object_eq_ok_iff.1 h).2.1

/-- **A world that was read has sound names.** -/
theorem allNames_of_decode {json : Json} {world : World} (h : decode json = .ok world) :
    Seed.AllNames Seed.IsName world.seeds :=
  Seed.allNames_of_all world.seeds (proper_of_decode h).2

/-! ### Milestones -/

/-- The milestones that are read have passed the check. -/
theorem validate_of_decodeMilestones {fields : List (String × Json)} {milestones : List Milestone}
    (h : decodeMilestones fields = .ok milestones) : Milestone.validate milestones = .ok () := by
  simp only [decodeMilestones, bind_eq_ok] at h
  obtain ⟨items, -, found, -, _, hvalid, hfound⟩ := h
  rw [← Except.ok.inj hfound]
  exact hvalid

/-- **A world that was read has a valid table of milestones.** -/
theorem valid_of_decode {json : Json} {world : World} (h : decode json = .ok world) :
    Milestone.Valid world.milestones := by
  obtain ⟨fields, rfl⟩ := object_of_decode h
  obtain ⟨-, -, hmilestones, -⟩ := decode_object_eq_ok_iff.1 h
  exact Milestone.valid_of_validate (validate_of_decodeMilestones hmilestones)

end World

end StoryShell
