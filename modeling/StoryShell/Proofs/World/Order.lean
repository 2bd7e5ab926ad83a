/-
Worlds that are declared in another order.

In a document the siblings of a tree stand in some order, and so do the roles and the commands of
the lists. Documents that differ in these orders only (`World.Redeclared`) are read alike: one is a
world just if the other is, and the worlds say the same of everything but the order of siblings
(`World.Reordered`).

A node is read together with its children, so the argument follows the documents: nodes that differ
in order only are read as seeds that do (`Seed.decode_of_redeclared`). All that is checked of
siblings is whether their names are different, and that is the same in any order.
-/
import Mathlib.Data.List.Perm.Basic
import StoryShell.Proofs.World.Faithful

set_option autoImplicit false

namespace StoryShell

/-- **Lists whose items stand for each other in another order** do so both ways. -/
theorem standing_symm {α β : Type} {R : α → β → Prop} {items : List α} {middle others : List β}
    (each : List.Forall₂ R items middle) (order : middle.Perm others) :
    ∃ back, List.Forall₂ (flip R) others back ∧ back.Perm items :=
  List.perm_comp_forall₂ order.symm (List.Forall₂.flip (R := flip R) each)

/-- What holds of one of the lists has its like on the other. -/
theorem exists_standing {α β : Type} {R : α → β → Prop} {items : List α} {middle others : List β}
    (each : List.Forall₂ R items middle) (order : middle.Perm others) {item : α}
    (h : item ∈ items) :
    ∃ other ∈ others, R item other := by
  obtain ⟨index, hlt, rfl⟩ := List.getElem_of_mem h
  have hindex : index < middle.length := each.length_eq ▸ hlt
  exact ⟨middle[index], order.subset (List.getElem_mem hindex), each.get hlt hindex⟩

namespace Seed

/-! ## Seeds -/

/-- **Seeds that differ in the order of siblings only.** -/
inductive Reordered : Seed → Seed → Prop where
  | same (seed : Seed) : Reordered seed seed
  | children {name text : String} {children middle others : List Seed}
    (each : List.Forall₂ Reordered children middle) (order : middle.Perm others) :
    Reordered (.directory name text children) (.directory name text others)

/-- What holds of seeds that are the same, and of directories whose children it holds of in another
order, holds of all seeds that differ in the order of siblings only. -/
theorem Reordered.rec_children {motive : Seed → Seed → Prop} (same : ∀ seed, motive seed seed)
    (children : ∀ {name text : String} {children middle others : List Seed},
      List.Forall₂ motive children middle → middle.Perm others →
        motive (.directory name text children) (.directory name text others))
    {seed other : Seed} (h : Reordered seed other) : motive seed other :=
  @Reordered.rec (fun seed other _ => motive seed other)
    (fun seeds others _ => List.Forall₂ motive seeds others) same
    (fun _ order held => children held order) .nil (fun _ _ held rest => .cons held rest) _ _ h

namespace Reordered

variable {seed other : Seed}

theorem symm (h : seed.Reordered other) : other.Reordered seed := by
  refine h.rec_children (motive := fun seed other => other.Reordered seed) .same
    fun each order => ?_
  obtain ⟨back, hback, hperm⟩ := standing_symm each order
  exact .children hback hperm

theorem name (h : seed.Reordered other) : other.name = seed.name := by
  cases h with
  | same => rfl
  | children => rfl

/-- Every child stands for one of the other seed. -/
theorem exists_child (h : seed.Reordered other) {child : Seed} (hchild : child ∈ seed.children) :
    ∃ twin ∈ other.children, child.Reordered twin := by
  cases h with
  | same => exact ⟨child, hchild, .same child⟩
  | children each order => exact exists_standing each order hchild

/-- There are as many seeds, whatever their order. -/
theorem count (h : seed.Reordered other) : other.count = seed.count := by
  refine h.rec_children (motive := fun seed other => other.count = seed.count) (fun _ => rfl) ?_
  intro name text children middle others each order
  have hsum : ∀ seeds : List Seed, countAll seeds = (seeds.map Seed.count).sum := by
    intro seeds
    induction seeds with
    | nil => rfl
    | cons seed rest ih => rw [countAll, ih, List.map_cons, List.sum_cons]
  have hcounts : children.map Seed.count = middle.map Seed.count := by
    rw [← List.forall₂_eq_eq_eq, List.forall₂_map_left_iff, List.forall₂_map_right_iff]
    exact each.imp fun _ _ => Eq.symm
  rw [Seed.count, Seed.count, hsum, hsum, hcounts, (order.map Seed.count).sum_nat]

end Reordered

/-- **Siblings in another order** have different names just if they had. -/
theorem Distinct.reordered {seeds middle others : List Seed} (h : Distinct seeds)
    (each : List.Forall₂ Reordered seeds middle) (order : middle.Perm others) :
    Distinct others := by
  have hkeys : seeds.map key = middle.map key := by
    rw [← List.forall₂_eq_eq_eq, List.forall₂_map_left_iff, List.forall₂_map_right_iff]
    refine each.imp fun seed other hseed => ?_
    rw [key, key, hseed.name]
  rw [Distinct, hkeys] at h
  exact (order.map key).nodup_iff.1 h

/-! ## Nodes of a document -/

/-- **Nodes of a document that differ in the order of siblings only.** -/
inductive Redeclared : Json → Json → Prop where
  | same (json : Json) : Redeclared json json
  | children {before after : List (String × Json)} {items middle others : List Json}
    (each : List.Forall₂ Redeclared items middle) (order : middle.Perm others) :
    Redeclared (.object (before ++ ("children", .array items) :: after))
      (.object (before ++ ("children", .array others) :: after))

/-- What holds of nodes that are the same, and of those whose children it holds of in another order,
holds of all nodes that differ in the order of siblings only. -/
theorem Redeclared.rec_children {motive : Json → Json → Prop} (same : ∀ json, motive json json)
    (children : ∀ {before after : List (String × Json)} {items middle others : List Json},
      List.Forall₂ motive items middle → middle.Perm others →
        motive (.object (before ++ ("children", .array items) :: after))
          (.object (before ++ ("children", .array others) :: after)))
    {json other : Json} (h : Redeclared json other) : motive json other :=
  @Redeclared.rec (fun json other _ => motive json other)
    (fun items others _ => List.Forall₂ motive items others) same
    (fun _ order held => children held order) .nil (fun _ _ held rest => .cons held rest) _ _ h

theorem Redeclared.symm {json other : Json} (h : Redeclared json other) :
    Redeclared other json := by
  refine h.rec_children (motive := fun json other => Redeclared other json) .same
    fun each order => ?_
  obtain ⟨back, hback, hperm⟩ := standing_symm each order
  exact .children hback hperm

/-! ### Reading -/

/-- What is read from nodes stands for what is read from nodes that are read alike. -/
theorem exists_between {items middle : List Json} {seeds : List Seed}
    (each : List.Forall₂ (fun item other => ∀ seed, decode item = .ok seed →
      ∃ twin, decode other = .ok twin ∧ seed.Reordered twin) items middle)
    (h : List.Forall₂ (fun item seed => decode item = .ok seed) items seeds) :
    ∃ between, List.Forall₂ (fun item seed => decode item = .ok seed) middle between
      ∧ List.Forall₂ Reordered seeds between := by
  induction each generalizing seeds with
  | nil =>
    rw [List.forall₂_nil_left_iff.1 h]
    exact ⟨[], .nil, .nil⟩
  | cons hitem _ ih =>
    obtain ⟨seed, later, hseed, hlater, rfl⟩ := List.forall₂_cons_left_iff.1 h
    obtain ⟨twin, htwin, hreordered⟩ := hitem seed hseed
    obtain ⟨between, hmiddle, hbetween⟩ := ih hlater
    exact ⟨twin :: between, .cons htwin hmiddle, .cons hreordered hbetween⟩

/-- **Siblings that are read alike one by one** are so in another order. -/
theorem decodeAll_of_standing {items middle others : List Json} {seeds : List Seed}
    (each : List.Forall₂ (fun item other => ∀ seed, decode item = .ok seed →
      ∃ twin, decode other = .ok twin ∧ seed.Reordered twin) items middle)
    (order : middle.Perm others) (h : decodeAll items = .ok seeds) :
    ∃ between twins, decodeAll others = .ok twins
      ∧ List.Forall₂ Reordered seeds between ∧ between.Perm twins := by
  obtain ⟨between, hmiddle, hbetween⟩ := exists_between each (decodeAll_eq_ok_iff.1 h)
  obtain ⟨twins, htwins, hperm⟩ := List.perm_comp_forall₂ order.symm hmiddle
  exact ⟨between, twins, decodeAll_eq_ok_iff.2 htwins, hbetween, hperm.symm⟩

/-- A field is found in a part of the fields, or in the rest. -/
theorem field?_append (name : String) (fields rest : List (String × Json)) :
    Json.field? name (fields ++ rest) = (Json.field? name fields).or (Json.field? name rest) := by
  induction fields with
  | nil => rfl
  | cons field fields ih =>
    obtain ⟨key, value⟩ := field
    rw [List.cons_append, Json.field?, Json.field?]
    split
    · rfl
    · exact ih

/-- Fields with another value under a name are the same under the other names. -/
theorem field?_of_ne {before after : List (String × Json)} {key name : String} (value other : Json)
    (h : key ≠ name) : Json.field? name (before ++ (key, value) :: after)
      = Json.field? name (before ++ (key, other) :: after) := by
  rw [field?_append, field?_append, Json.field?, Json.field?, if_neg h, if_neg h]

/-- Fields that are the same but for the children are read alike. -/
theorem ofFields_eq_ok_congr {fields others : List (String × Json)}
    (hfields : ∀ name, "children" ≠ name → Json.field? name fields = Json.field? name others)
    (hnothing : ((Json.field? "children" fields).getD .null).isNothing
      = ((Json.field? "children" others).getD .null).isNothing)
    {children : Except LoadError (List Seed)} {seed : Seed} :
    ofFields fields children = .ok seed ↔ ofFields others children = .ok seed := by
  have hname : nameIn fields = nameIn others := by
    rw [nameIn, nameIn, Json.textField, Json.textField, hfields "name" (by decide)]
  have hkind : kindIn fields = kindIn others := by
    rw [kindIn, kindIn, Json.textField, Json.textField, hfields "type" (by decide)]
  have hseed : seedIn fields = seedIn others := by
    funext seeds
    rw [seedIn, seedIn, hname, hkind, Json.textField, Json.textField, hfields "content" (by decide)]
  rw [ofFields_eq_ok_iff, ofFields_eq_ok_iff, hname, hkind, hseed, hnothing]

/-- **A node with siblings in another order among its children** is read alike. -/
theorem ofFields_of_standing (fields : List (String × Json))
    {children others : Except LoadError (List Seed)}
    (hchildren : ∀ seeds, children = .ok seeds → ∃ between twins, others = .ok twins
      ∧ List.Forall₂ Reordered seeds between ∧ between.Perm twins) {seed : Seed}
    (h : ofFields fields children = .ok seed) :
    ∃ twin, ofFields fields others = .ok twin ∧ seed.Reordered twin := by
  obtain ⟨hname, hkind, hfile, seeds, hseeds, hdistinct, rfl⟩ := ofFields_eq_ok_iff.1 h
  obtain ⟨between, twins, htwins, hbetween, hperm⟩ := hchildren seeds hseeds
  refine ⟨seedIn fields twins, ofFields_eq_ok_iff.2
    ⟨hname, hkind, hfile, twins, htwins, hdistinct.reordered hbetween hperm, rfl⟩, ?_⟩
  rw [seedIn, seedIn]
  split
  · exact .same _
  · exact .children hbetween hperm

/-- **Nodes that differ in the order of siblings only** are read as seeds that do. -/
theorem decode_of_redeclared {json other : Json} (h : Redeclared json other) {seed : Seed}
    (hseed : decode json = .ok seed) : ∃ twin, decode other = .ok twin ∧ seed.Reordered twin := by
  refine h.rec_children (motive := fun json other => ∀ seed, decode json = .ok seed →
    ∃ twin, decode other = .ok twin ∧ seed.Reordered twin) (fun json seed hseed =>
      ⟨seed, hseed, .same seed⟩) ?_ seed hseed
  intro before after items middle others each order seed hseed
  have hnothing : ((Json.field? "children" (before ++ ("children", .array items) :: after)).getD
        .null).isNothing
      = ((Json.field? "children" (before ++ ("children", .array others) :: after)).getD
        .null).isNothing := by
    rw [field?_append, field?_append]
    cases Json.field? "children" before with
    | some value => rfl
    | none =>
      -- there are as many siblings in any order
      have hlength : items.length = others.length := each.length_eq.trans order.length_eq
      simp only [Json.field?, if_pos, Option.none_or, Option.getD_some, Json.isNothing]
      rw [Bool.eq_iff_iff, List.isEmpty_iff_length_eq_zero, List.isEmpty_iff_length_eq_zero,
        hlength]
  rw [decode, ofFields_eq_ok_congr (fun name hname => field?_of_ne _ _ hname) hnothing] at hseed
  rw [decode]
  refine ofFields_of_standing _ (fun seeds hseeds => ?_) hseed
  rw [decodeChildren_eq, field?_append] at hseeds ⊢
  -- an earlier field for children would be the one that counts
  cases hbefore : Json.field? "children" before with
  | some value =>
    rw [hbefore] at hseeds
    exact ⟨seeds, seeds, hseeds, List.forall₂_same.2 fun seed _ => .same seed, .refl seeds⟩
  | none =>
    rw [hbefore] at hseeds
    exact decodeAll_of_standing each order hseeds

end Seed

namespace World

/-! ## Worlds -/

/-- **Fields of a world that differ in order only**: siblings of the tree, roles or commands. A role
is given once. -/
inductive FieldRedeclared : String × Json → String × Json → Prop where
  | same (field : String × Json) : FieldRedeclared field field
  | tree {items middle others : List Json} (each : List.Forall₂ Seed.Redeclared items middle)
    (order : middle.Perm others) : FieldRedeclared ("tree", .array items) ("tree", .array others)
  | roles {roles others : List (String × Json)} (distinct : (roles.map Prod.fst).Nodup)
    (order : roles.Perm others) :
    FieldRedeclared ("well_known", .object roles) ("well_known", .object others)
  | commands {name : String} {value other : Json} {items others : List Json}
    (list : name = "allowed_commands" ∨ name = "blocked_commands")
    (found : value.elements = .ok items) (foundOther : other.elements = .ok others)
    (order : items.Perm others) : FieldRedeclared (name, value) (name, other)

/-- **Documents of a world that differ in order only.** -/
inductive Redeclared : Json → Json → Prop where
  | object {fields others : List (String × Json)}
    (each : List.Forall₂ FieldRedeclared fields others) :
    Redeclared (.object fields) (.object others)

theorem FieldRedeclared.symm {field other : String × Json} (h : FieldRedeclared field other) :
    FieldRedeclared other field := by
  cases h with
  | same => exact .same field
  | tree each order =>
    obtain ⟨back, hback, hperm⟩ := standing_symm each order
    exact .tree (hback.imp fun _ _ hnode => Seed.Redeclared.symm hnode) hperm
  | roles distinct order => exact .roles ((order.map Prod.fst).nodup_iff.1 distinct) order.symm
  | commands list found foundOther order => exact .commands list foundOther found order.symm

theorem Redeclared.symm {json other : Json} (h : Redeclared json other) :
    Redeclared other json := by
  cases h with
  | object each =>
    exact .object (List.Forall₂.flip (each.imp fun _ _ hfield => hfield.symm))

/-- **Worlds that differ in order only**: they say the same of everything, but for the order of
siblings. -/
structure Reordered (world other : World) : Prop where
  id : other.id = world.id
  title : other.title = world.title
  intro : other.intro = world.intro
  milestones : other.milestones = world.milestones
  seeds : ∃ between, List.Forall₂ Seed.Reordered world.seeds between ∧ between.Perm other.seeds
  wellKnown : ∀ entry, entry ∈ other.wellKnown ↔ entry ∈ world.wellKnown
  pathOf? : ∀ role, other.pathOf? role = world.pathOf? role
  allowed : other.allowed.Perm world.allowed
  blocked : other.blocked.Perm world.blocked

variable {fields others : List (String × Json)}

/-- A field is missing on both sides, or its values differ in order only. -/
theorem field?_of_redeclared (each : List.Forall₂ FieldRedeclared fields others) (name : String) :
    (Json.field? name fields = none ∧ Json.field? name others = none)
      ∨ ∃ value other, Json.field? name fields = some value ∧ Json.field? name others = some other
        ∧ FieldRedeclared (name, value) (name, other) := by
  induction each with
  | nil => exact .inl ⟨rfl, rfl⟩
  | @cons field other fields others hfield _ ih =>
    obtain ⟨key, value⟩ := field
    obtain ⟨keyOther, valueOther⟩ := other
    have hkey : keyOther = key := by cases hfield <;> rfl
    subst hkey
    rw [Json.field?, Json.field?]
    by_cases hname : keyOther = name
    · rw [if_pos hname, if_pos hname]
      exact .inr ⟨value, valueOther, rfl, rfl, hname ▸ hfield⟩
    · rw [if_neg hname, if_neg hname]
      exact ih

/-- The names of the fields in which the order makes no difference. -/
def orderless : List String := ["tree", "well_known", "allowed_commands", "blocked_commands"]

/-- The other fields are the same. -/
theorem field?_of_not_orderless (each : List.Forall₂ FieldRedeclared fields others) {name : String}
    (h : name ∉ orderless) : Json.field? name others = Json.field? name fields := by
  rcases field?_of_redeclared each name with
    ⟨hnone, hnoneOther⟩ | ⟨value, other, hvalue, hother, hfield⟩
  · rw [hnone, hnoneOther]
  · rw [hvalue, hother]
    cases hfield with
    | same => rfl
    | tree | roles => exact absurd (by decide) h
    | commands list => rcases list with rfl | rfl <;> exact absurd (by decide) h

/-! ### Reading -/

/-- A list of commands is read from the items of a field. -/
theorem lowerField_eq_ok_iff {name : String} {fields : List (String × Json)}
    {commands : List String} :
    Json.lowerField name fields = .ok commands
      ↔ ∃ items, Json.listField name fields = .ok items
        ∧ (items.map Json.spelling).map Text.lower = commands := by
  rw [Json.lowerField, Json.textsField]
  cases Json.listField name fields with
  | error error => simp [Except.map]
  | ok items => simp [Except.map]

/-- **Commands in another order** are read as the same ones in another order. -/
theorem lowerField_of_redeclared (each : List.Forall₂ FieldRedeclared fields others) {name : String}
    (hname : name = "allowed_commands" ∨ name = "blocked_commands") {commands : List String}
    (h : Json.lowerField name fields = .ok commands) :
    ∃ reordered, Json.lowerField name others = .ok reordered ∧ reordered.Perm commands := by
  obtain ⟨items, hitems, rfl⟩ := lowerField_eq_ok_iff.1 h
  obtain ⟨reordered, hreordered, hperm⟩ : ∃ reordered, Json.listField name others = .ok reordered
      ∧ reordered.Perm items := by
    rw [Json.listField] at hitems ⊢
    rcases field?_of_redeclared each name with
      ⟨hnone, hnoneOther⟩ | ⟨value, other, hvalue, hother, hfield⟩
    · rw [hnone] at hitems
      rw [hnoneOther]
      exact ⟨items, hitems, .refl items⟩
    · rw [hvalue] at hitems
      rw [hother]
      cases hfield with
      | same => exact ⟨items, hitems, .refl items⟩
      | tree | roles => rcases hname with hname | hname <;> exact absurd hname (by decide)
      | commands _ found foundOther order =>
        obtain rfl := Except.ok.inj (found.symm.trans hitems)
        exact ⟨_, foundOther, order.symm⟩
  exact ⟨_, lowerField_eq_ok_iff.2 ⟨reordered, hreordered, rfl⟩, (hperm.map _).map _⟩

/-- Of entries with different roles the order makes no difference. -/
theorem pathIn?_of_perm {entries reordered : List (String × String)}
    (order : entries.Perm reordered) (distinct : (entries.map Prod.fst).Nodup) (role : String) :
    pathIn? reordered role = pathIn? entries role := by
  induction order with
  | nil => rfl
  | cons entry _ ih =>
    rw [List.map_cons, List.nodup_cons] at distinct
    rw [pathIn?_cons, pathIn?_cons, ih distinct.2]
  | swap first second rest =>
    have hne : second.1 ≠ first.1 := by
      rw [List.map_cons, List.map_cons, List.nodup_cons] at distinct
      exact fun heq => distinct.1 (heq ▸ List.mem_cons_self)
    simp only [pathIn?_cons, Option.or_assoc]
    congr 1
    -- the role is not that of both
    by_cases hfirst : role = first.1
    · rw [if_pos hfirst, if_neg fun hsecond => hne (hsecond.symm.trans hfirst), Option.or_none,
        Option.none_or]
    · rw [if_neg hfirst, Option.or_none, Option.none_or]
  | trans first _ ih later =>
    rw [later ((first.map Prod.fst).nodup_iff.1 distinct), ih distinct]

/-- **Roles in another order** are read as the same ones, each with its path. -/
theorem decodeRoles_of_redeclared (each : List.Forall₂ FieldRedeclared fields others)
    {roles : List (String × String)} (h : decodeRoles fields = .ok roles) :
    ∃ reordered, decodeRoles others = .ok reordered
      ∧ (∀ entry, entry ∈ reordered ↔ entry ∈ roles)
      ∧ ∀ role, pathIn? reordered role = pathIn? roles role := by
  rw [decodeRoles] at h ⊢
  rcases field?_of_redeclared each "well_known" with
    ⟨hnone, hnoneOther⟩ | ⟨value, other, hvalue, hother, hfield⟩
  · rw [hnone] at h
    rw [hnoneOther]
    exact ⟨roles, h, fun _ => Iff.rfl, fun _ => rfl⟩
  · rw [hvalue] at h
    rw [hother]
    generalize hname : "well_known" = name at hfield
    cases hfield with
    | same => exact ⟨roles, h, fun _ => Iff.rfl, fun _ => rfl⟩
    | tree => exact absurd hname (by decide)
    | commands list => rcases list with rfl | rfl <;> exact absurd hname (by decide)
    | @roles entries reordered distinct order =>
      obtain rfl := Except.ok.inj h
      have hperm := order.map fun entry : String × Json => (entry.1, entry.2.spelling)
      refine ⟨_, rfl, fun entry => hperm.mem_iff.symm, fun role => pathIn?_of_perm hperm ?_ role⟩
      rwa [List.map_map]

/-- **A tree in another order** is read as one. -/
theorem decodeSeeds_of_redeclared (each : List.Forall₂ FieldRedeclared fields others)
    {seeds : List Seed} (h : decodeSeeds fields = .ok seeds) :
    ∃ between twins, decodeSeeds others = .ok twins
      ∧ List.Forall₂ Seed.Reordered seeds between ∧ between.Perm twins := by
  obtain ⟨hseeds, hdistinct⟩ := decodeSeeds_eq_ok_iff.1 h
  have hsame : List.Forall₂ Seed.Reordered seeds seeds :=
    List.forall₂_same.2 fun seed _ => .same seed
  rcases field?_of_redeclared each "tree" with
    ⟨hnone, hnoneOther⟩ | ⟨value, other, hvalue, hother, hfield⟩
  · rw [hnone] at hseeds
    exact ⟨seeds, seeds, decodeSeeds_eq_ok_iff.2 ⟨by rw [hnoneOther]; exact hseeds, hdistinct⟩,
      hsame, .refl seeds⟩
  · rw [hvalue] at hseeds
    obtain ⟨between, twins, htwins, hbetween, hperm⟩ : ∃ between twins,
        Seed.decodeElements other = .ok twins
          ∧ List.Forall₂ Seed.Reordered seeds between ∧ between.Perm twins := by
      generalize hname : "tree" = name at hfield
      cases hfield with
      | same => exact ⟨seeds, seeds, hseeds, hsame, .refl seeds⟩
      | roles => exact absurd hname (by decide)
      | commands list => rcases list with rfl | rfl <;> exact absurd hname (by decide)
      | tree each order =>
        exact Seed.decodeAll_of_standing
          (each.imp fun _ _ hnode _ hseed => Seed.decode_of_redeclared hnode hseed) order hseeds
    exact ⟨between, twins, decodeSeeds_eq_ok_iff.2
      ⟨by rw [hother]; exact htwins, hdistinct.reordered hbetween hperm⟩, hbetween, hperm⟩

/-- **Documents that differ in order only** are read as worlds that do. -/
theorem decode_of_redeclared {json other : Json} (h : Redeclared json other) {world : World}
    (hworld : decode json = .ok world) :
    ∃ twin, decode other = .ok twin ∧ world.Reordered twin := by
  cases h with
  | @object fields others each =>
    obtain ⟨hid, hseeds, hmilestones, htitle, hintro, hroles, hallowed, hblocked⟩ :=
      decode_object_eq_ok_iff.1 hworld
    have hsame : ∀ {name : String}, name ∉ orderless →
        Json.field? name others = Json.field? name fields := fun h => field?_of_not_orderless each h
    obtain ⟨between, seeds, hseeds, hbetween, hperm⟩ := decodeSeeds_of_redeclared each hseeds
    obtain ⟨roles, hroles, hmem, hpaths⟩ := decodeRoles_of_redeclared each hroles
    obtain ⟨allowed, hallowed, hsameAllowed⟩ := lowerField_of_redeclared each (.inl rfl) hallowed
    obtain ⟨blocked, hblocked, hsameBlocked⟩ := lowerField_of_redeclared each (.inr rfl) hblocked
    refine ⟨{ world with seeds, wellKnown := roles, allowed, blocked },
      decode_object_eq_ok_iff.2 ⟨?_, hseeds, ?_, ?_, ?_, hroles, hallowed, hblocked⟩,
      ⟨rfl, rfl, rfl, rfl, ⟨between, hbetween, hperm⟩, hmem, hpaths, hsameAllowed, hsameBlocked⟩⟩
    · rwa [Json.requiredField, hsame (by decide), ← Json.requiredField]
    · rwa [decodeMilestones, Json.listField, hsame (by decide), ← Json.listField,
        ← decodeMilestones]
    · rwa [Json.textField, hsame (by decide), ← Json.textField]
    · rwa [Json.textsField, Json.listField, hsame (by decide), ← Json.listField, ← Json.textsField]

end World

end StoryShell
