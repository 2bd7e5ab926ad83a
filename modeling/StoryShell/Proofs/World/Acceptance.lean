/-
Which trees are accepted, and what becomes of them.

The nodes of a tree may be given any way that makes them **plain**: each is an object with a text
for its name, a text for its kind and its content if it has these, and a list for its children if it
has one. A node is read together with the nodes below it, so both halves go by induction on the
tree: plain nodes that are well formed throughout are read (`Seed.exists_decode`), and what is read
was well formed throughout and is carried over node by node, in the order of the document
(`Seed.of_decode`). For a world with such a tree, the rest of which is in order, this decides
whether it is read at all (`World.tree_accepted_iff`).
-/
import StoryShell.Proofs.World.Decode
import StoryShell.Proofs.World.Shape

set_option autoImplicit false

namespace StoryShell

/-! ## Fields -/

namespace Json

/-- A value that is a text. -/
def IsText : Json → Prop
  | .string _ => True
  | _ => False

instance : DecidablePred IsText
  | .string _ => .isTrue trivial
  | .null | .bool _ | .integer _ | .real _ | .array _ | .object _ => .isFalse id

/-- A value that is an array. -/
def IsArray : Json → Prop
  | .array _ => True
  | _ => False

instance : DecidablePred IsArray
  | .array _ => .isTrue trivial
  | .null | .bool _ | .integer _ | .real _ | .string _ | .object _ => .isFalse id

instance {P : Json → Prop} [DecidablePred P] (name : String) (fields : List (String × Json)) :
    Decidable (FieldIs name P fields) :=
  match h : field? name fields with
  | none => .isTrue fun value hvalue => by rw [h] at hvalue; cases hvalue
  | some value => decidable_of_iff (P value)
      ⟨fun hP other hother => by rw [h] at hother; cases hother; exact hP, fun hall => hall value h⟩

/-- The text in a field of an object, if there is one. -/
def text? (name : String) : Json → Option String
  | .object fields =>
    match field? name fields with
    | some (.string text) => some text
    | _ => none
  | _ => none

/-- The items of an array in a field of an object; otherwise there are none. -/
def items (name : String) : Json → List Json
  | .object fields =>
    match field? name fields with
    | some (.array items) => items
    | _ => []
  | _ => []

variable {name key : String} {fields : List (String × Json)}

/-- Where a text is read that is missing or a text, that text is read. -/
theorem textField_of_fieldIs (h : FieldIs name IsText fields) (default : String) :
    textField name default fields = ((Json.object fields).text? name).getD default := by
  rw [textField, text?]
  cases hfield : field? name fields with
  | none => rfl
  | some value =>
    cases value with
    | string text => rfl
    | null | bool _ | integer _ | real _ | array _ | object _ => exact (h _ hfield).elim

/-- To set a field leaves the others. -/
theorem field?_setField_of_ne (value : Json) (h : key ≠ name) :
    field? name (setField key value fields) = field? name fields := by
  induction fields with
  | nil => simp [setField, field?, h]
  | cons field rest ih =>
    rw [setField]
    split
    · rename_i hkey
      rw [field?, field?, if_neg (hkey ▸ h), if_neg (hkey ▸ h)]
    · rw [field?, field?, ih]

end Json

open Json (FieldIs IsText IsArray)

namespace Seed

/-! ## Nodes of a document -/

/-- **What holds of a node and of all nodes below it.** -/
inductive Throughout (P : Json → Prop) : Json → Prop
  | node {json : Json} (here : P json) (below : ∀ item ∈ json.items "children", Throughout P item) :
    Throughout P json

/-- **A plain node**: an object with a text for its name, and with texts for its kind and its
content and an array for its children, where it has these. -/
def IsPlain : Json → Prop
  | .object fields =>
    (∃ name, (Json.object fields).text? "name" = some name)
      ∧ FieldIs "type" IsText fields ∧ FieldIs "content" IsText fields
      ∧ FieldIs "children" IsArray fields
  | _ => False

instance : DecidablePred IsPlain
  | .object fields => decidable_of_iff (((Json.object fields).text? "name").isSome = true
      ∧ FieldIs "type" IsText fields ∧ FieldIs "content" IsText fields
      ∧ FieldIs "children" IsArray fields) (and_congr_left' Option.isSome_iff_exists)
  | .null | .bool _ | .integer _ | .real _ | .string _ | .array _ => .isFalse id

/-- The name that a node is given, without the blanks at its ends. -/
def givenName (json : Json) : String := Text.trim ((json.text? "name").getD "")

/-- The names that are given to nodes beside each other are different, also in lower case. -/
def GivenDistinct (items : List Json) : Prop :=
  (items.map fun item => Text.lower (givenName item)).Nodup

/-- **A well-formed node**: its name is not empty and has no slash, its kind is one of the two if it
is given, it has no children unless it is a directory, and these have different names. -/
structure IsWellFormed (json : Json) : Prop where
  name : IsName (givenName json)
  kind : ∀ kind, json.text? "type" = some kind → kind = "file" ∨ kind = "directory"
  file : json.text? "type" ≠ some "directory" → json.items "children" = []
  distinct : GivenDistinct (json.items "children")

/-- **A seed carries a node**: it has the name, the kind and the content of the node, of which the
last two may be missing, and its children carry those of the node, in order. -/
inductive Carries : Json → Seed → Prop
  | node {json : Json} {seed : Seed} (name : seed.name = givenName json)
    (kind : seed.kind = (json.text? "type").getD "file")
    (text : seed.text = (json.text? "content").getD "")
    (children : List.Forall₂ Carries (json.items "children") seed.children) : Carries json seed

theorem Carries.key {json : Json} {seed : Seed} (h : Carries json seed) :
    seed.key = Text.lower (givenName json) := by
  cases h with
  | node name => rw [Seed.key, name]

/-- Seeds that carry nodes have different names just if the nodes have. -/
theorem distinct_iff_of_carries {items : List Json} {seeds : List Seed}
    (h : List.Forall₂ Carries items seeds) : Distinct seeds ↔ GivenDistinct items := by
  have hkeys : seeds.map key = items.map fun item => Text.lower (givenName item) := by
    rw [eq_comm, ← List.forall₂_eq_eq_eq, List.forall₂_map_left_iff, List.forall₂_map_right_iff]
    exact h.imp fun _ _ hcarries => hcarries.key.symm
  rw [Distinct, hkeys, GivenDistinct]

section Fields

variable {fields : List (String × Json)}

/-- The fields of a plain node, as they are read. -/
theorem IsPlain.nameIn_eq (h : IsPlain (.object fields)) :
    nameIn fields = givenName (.object fields) := by
  obtain ⟨⟨name, hname⟩, -⟩ := h
  rw [nameIn, givenName, hname, Option.getD_some, Json.textField]
  cases hfield : Json.field? "name" fields with
  | none => simp [Json.text?, hfield] at hname
  | some value =>
    cases value with
    | string text =>
      have htext : text = name := by simpa [Json.text?, hfield] using hname
      rw [htext]
      rfl
    | null | bool _ | integer _ | real _ | array _ | object _ => simp [Json.text?, hfield] at hname

theorem IsPlain.kindIn_eq (h : IsPlain (.object fields)) :
    kindIn fields = ((Json.object fields).text? "type").getD "file" :=
  Json.textField_of_fieldIs h.2.1 "file"

theorem IsPlain.content_eq (h : IsPlain (.object fields)) :
    Json.textField "content" "" fields = ((Json.object fields).text? "content").getD "" :=
  Json.textField_of_fieldIs h.2.2.1 ""

/-- The children of a plain node are read one by one, and there are none just if nothing is given.
-/
theorem IsPlain.children (h : IsPlain (.object fields)) :
    decodeChildren fields = decodeAll ((Json.object fields).items "children")
      ∧ (((Json.field? "children" fields).getD .null).isNothing = true
        ↔ (Json.object fields).items "children" = []) := by
  rw [decodeChildren_eq, Json.items]
  cases hfield : Json.field? "children" fields with
  | none => exact ⟨rfl, iff_of_true rfl rfl⟩
  | some value =>
    cases value with
    | array items => exact ⟨rfl, List.isEmpty_iff⟩
    | null | bool _ | integer _ | real _ | string _ | object _ => exact (h.2.2.2 _ hfield).elim

/-- The kind of a plain node is one of the two just if it is one of them where it is given. -/
theorem IsPlain.kindIn_mem_iff (h : IsPlain (.object fields)) :
    kindIn fields ∈ kinds
      ↔ ∀ kind, (Json.object fields).text? "type" = some kind →
        kind = "file" ∨ kind = "directory" := by
  rw [h.kindIn_eq, kinds]
  cases (Json.object fields).text? "type" with
  | none => simp
  | some kind => simp [or_comm]

/-- A plain node of one of the two kinds is a file just if it is not given as a directory. -/
theorem IsPlain.kindIn_eq_file_iff (h : IsPlain (.object fields)) (hkind : kindIn fields ∈ kinds) :
    kindIn fields = "file" ↔ (Json.object fields).text? "type" ≠ some "directory" := by
  rw [h.kindIn_eq] at hkind ⊢
  cases htype : (Json.object fields).text? "type" with
  | none => simp
  | some kind =>
    rw [htype, Option.getD_some, kinds] at hkind
    rcases List.mem_pair.1 hkind with rfl | rfl
    · simp
    · simp

/-- **A plain node is read** just if it is well formed as far as it goes by itself, and its children
are read and have different names. -/
theorem IsPlain.decode_eq_ok_iff (h : IsPlain (.object fields)) {seed : Seed} :
    decode (.object fields) = .ok seed
      ↔ IsName (givenName (.object fields))
        ∧ (∀ kind, (Json.object fields).text? "type" = some kind →
          kind = "file" ∨ kind = "directory")
        ∧ ((Json.object fields).text? "type" ≠ some "directory" →
          (Json.object fields).items "children" = [])
        ∧ ∃ seeds, List.Forall₂ (fun item seed => decode item = .ok seed)
            ((Json.object fields).items "children") seeds
          ∧ Distinct seeds ∧ seedIn fields seeds = seed := by
  obtain ⟨hchildren, hnothing⟩ := h.children
  rw [decode, hchildren, ofFields_eq_ok_iff, h.nameIn_eq]
  refine and_congr_right fun _ => ?_
  rw [← h.kindIn_mem_iff]
  refine and_congr_right fun hkind => ?_
  rw [h.kindIn_eq_file_iff hkind, hnothing]
  simp only [decodeAll_eq_ok_iff]

/-- **What is read from a plain node carries it**, if what is read from its children does. -/
theorem IsPlain.carries (h : IsPlain (.object fields)) {seeds : List Seed}
    (hkind : kindIn fields ∈ kinds)
    (hfile : kindIn fields = "file" → (Json.object fields).items "children" = [])
    (hchildren : List.Forall₂ Carries ((Json.object fields).items "children") seeds) :
    Carries (.object fields) (seedIn fields seeds) := by
  have hname := h.nameIn_eq
  have htype := h.kindIn_eq
  have hcontent := h.content_eq
  rw [seedIn]
  split
  · rename_i hkindIn
    refine .node hname (hkindIn.symm.trans htype) hcontent ?_
    rw [hfile hkindIn]
    exact .nil
  · rename_i hkindIn
    have hdirectory : kindIn fields = "directory" :=
      (List.mem_pair.1 hkind).resolve_right hkindIn
    exact .node hname (hdirectory.symm.trans htype) hcontent hchildren

end Fields

/-! ## Reading -/

/-- A plain node is an object. -/
theorem IsPlain.exists_fields {json : Json} (h : IsPlain json) :
    ∃ fields, json = .object fields := by
  cases json with
  | object fields => exact ⟨fields, rfl⟩
  | null | bool _ | integer _ | real _ | string _ | array _ => exact h.elim

/-- Nodes that are read one by one were well formed throughout and are carried over, if this holds
of each of them. -/
theorem carries_of_forall₂ {items : List Json} {seeds : List Seed}
    (hitems : ∀ item ∈ items, ∀ {seed}, decode item = .ok seed →
      Throughout IsWellFormed item ∧ Carries item seed)
    (h : List.Forall₂ (fun item seed => decode item = .ok seed) items seeds) :
    (∀ item ∈ items, Throughout IsWellFormed item) ∧ List.Forall₂ Carries items seeds := by
  induction h with
  | nil => exact ⟨fun item hitem => absurd hitem List.not_mem_nil, .nil⟩
  | cons hitem _ ih =>
    obtain ⟨hfirst, hrest⟩ := List.forall_mem_cons.1 hitems
    obtain ⟨hsound, hcarries⟩ := hfirst hitem
    obtain ⟨hall, hlater⟩ := ih hrest
    exact ⟨List.forall_mem_cons.2 ⟨hsound, hall⟩, .cons hcarries hlater⟩

/-- **What is read from a node that is plain throughout** was well formed throughout, and carries
the node. -/
theorem of_decode {json : Json} (hplain : Throughout IsPlain json) :
    ∀ {seed}, decode json = .ok seed → Throughout IsWellFormed json ∧ Carries json seed := by
  induction hplain with
  | @node json here below ih =>
    intro seed hseed
    obtain ⟨fields, rfl⟩ := here.exists_fields
    obtain ⟨hname, hkind, hfile, seeds, hseeds, hdistinct, rfl⟩ := here.decode_eq_ok_iff.1 hseed
    obtain ⟨hbelow, hchildren⟩ := carries_of_forall₂ ih hseeds
    refine ⟨.node ⟨hname, hkind, hfile, (distinct_iff_of_carries hchildren).1 hdistinct⟩ hbelow, ?_⟩
    have hkindIn := here.kindIn_mem_iff.2 hkind
    exact here.carries hkindIn
      (fun hkindFile => hfile ((here.kindIn_eq_file_iff hkindIn).1 hkindFile)) hchildren

/-- Nodes each of which is read are read one by one. -/
theorem exists_forall₂_decode {items : List Json}
    (h : ∀ item ∈ items, ∃ seed, decode item = .ok seed) :
    ∃ seeds, List.Forall₂ (fun item seed => decode item = .ok seed) items seeds := by
  induction items with
  | nil => exact ⟨[], .nil⟩
  | cons item rest ih =>
    obtain ⟨⟨seed, hseed⟩, hrest⟩ := List.forall_mem_cons.1 h
    obtain ⟨seeds, hseeds⟩ := ih hrest
    exact ⟨seed :: seeds, .cons hseed hseeds⟩

/-- **A node that is plain and well formed throughout is read.** -/
theorem exists_decode {json : Json} (hplain : Throughout IsPlain json) :
    Throughout IsWellFormed json → ∃ seed, decode json = .ok seed := by
  induction hplain with
  | @node json here below ih =>
    rintro ⟨hsound, hbelow⟩
    obtain ⟨fields, rfl⟩ := here.exists_fields
    obtain ⟨seeds, hseeds⟩ :=
      exists_forall₂_decode fun item hitem => ih item hitem (hbelow item hitem)
    obtain ⟨-, hcarries⟩ :=
      carries_of_forall₂ (fun item hitem => of_decode (below item hitem)) hseeds
    exact ⟨_, here.decode_eq_ok_iff.2 ⟨hsound.name, hsound.kind, hsound.file, seeds, hseeds,
      (distinct_iff_of_carries hcarries).2 hsound.distinct, rfl⟩⟩

/-- **A list of nodes that are plain throughout is read** just if they are well formed throughout.
-/
theorem exists_decodeAll_iff {items : List Json}
    (hplain : ∀ item ∈ items, Throughout IsPlain item) :
    (∃ seeds, decodeAll items = .ok seeds) ↔ ∀ item ∈ items, Throughout IsWellFormed item := by
  simp only [decodeAll_eq_ok_iff]
  constructor
  · rintro ⟨seeds, hseeds⟩
    exact (carries_of_forall₂ (fun item hitem => of_decode (hplain item hitem)) hseeds).1
  · exact fun hsound => exists_forall₂_decode fun item hitem =>
      exists_decode (hplain item hitem) (hsound item hitem)

end Seed

/-! ## Worlds -/

namespace World

variable {fields : List (String × Json)} {base world : World}

/-- **A world whose rest is in order** is read just if its tree is. -/
theorem decode_eq_ok_iff_of_rest
    (hrest : decode (.object (Json.setField "tree" (.array []) fields)) = .ok base) :
    decode (.object fields) = .ok world
      ↔ decodeSeeds fields = .ok world.seeds ∧ world = { base with seeds := world.seeds } := by
  have hfield : ∀ name, "tree" ≠ name →
      Json.field? name (Json.setField "tree" (.array []) fields) = Json.field? name fields :=
    fun name hname => Json.field?_setField_of_ne _ hname
  rw [decode_object_eq_ok_iff] at hrest ⊢
  simp only [Json.requiredField, decodeMilestones, Json.textField, Json.textsField,
    Json.lowerField, Json.listField, decodeRoles, hfield "id" (by decide),
    hfield "milestones" (by decide), hfield "title" (by decide), hfield "intro" (by decide),
    hfield "well_known" (by decide), hfield "allowed_commands" (by decide),
    hfield "blocked_commands" (by decide)] at hrest ⊢
  obtain ⟨hid, -, hmilestones, htitle, hintro, hroles, hallowed, hblocked⟩ := hrest
  rw [hid, hmilestones, hintro, hroles, hallowed, hblocked]
  simp only [Except.ok.injEq]
  constructor
  · intro h
    obtain ⟨id, title, intro, seeds, roles, allowed, blocked, milestones⟩ := world
    dsimp only at h
    obtain ⟨rfl, hseeds, rfl, htitleSame, rfl, rfl, rfl, rfl⟩ := h
    rw [← htitle] at htitleSame
    exact ⟨hseeds, by rw [htitleSame]⟩
  · rintro ⟨hseeds, hworld⟩
    rw [hworld]
    exact ⟨rfl, hseeds, rfl, htitle, rfl, rfl, rfl, rfl⟩

/-- **A tree is accepted exactly if it is well formed**, in a document of which the rest is in order
and the nodes of the tree are plain throughout. It is well formed if its nodes have different names,
and each of them and each node below them is well formed. What is read then carries the nodes of the
tree in order, and is otherwise what is read from the document without a tree. -/
theorem tree_accepted_iff {items : List Json}
    (htree : Json.field? "tree" fields = some (.array items))
    (hplain : ∀ item ∈ items, Seed.Throughout Seed.IsPlain item)
    (hrest : decode (.object (Json.setField "tree" (.array []) fields)) = .ok base) :
    ((∃ world, decode (.object fields) = .ok world)
        ↔ Seed.GivenDistinct items ∧ ∀ item ∈ items, Seed.Throughout Seed.IsWellFormed item)
      ∧ ∀ world, decode (.object fields) = .ok world →
        List.Forall₂ Seed.Carries items world.seeds
          ∧ world = { base with seeds := world.seeds } := by
  have hseeds : ∀ {seeds}, decodeSeeds fields = .ok seeds
      ↔ Seed.decodeAll items = .ok seeds ∧ Seed.Distinct seeds := by
    intro seeds
    rw [decodeSeeds_eq_ok_iff, htree]
    rfl
  have hcarries : ∀ {seeds}, Seed.decodeAll items = .ok seeds →
      List.Forall₂ Seed.Carries items seeds := by
    intro seeds hread
    exact (Seed.carries_of_forall₂ (fun item hitem => Seed.of_decode (hplain item hitem))
      (Seed.decodeAll_eq_ok_iff.1 hread)).2
  refine ⟨⟨?_, ?_⟩, ?_⟩
  · rintro ⟨world, hworld⟩
    obtain ⟨hread, hdistinct⟩ := hseeds.1 ((decode_eq_ok_iff_of_rest hrest).1 hworld).1
    exact ⟨(Seed.distinct_iff_of_carries (hcarries hread)).1 hdistinct,
      (Seed.exists_decodeAll_iff hplain).1 ⟨_, hread⟩⟩
  · rintro ⟨hdistinct, hsound⟩
    obtain ⟨seeds, hread⟩ := (Seed.exists_decodeAll_iff hplain).2 hsound
    refine ⟨{ base with seeds }, (decode_eq_ok_iff_of_rest hrest).2 ⟨hseeds.2 ⟨hread, ?_⟩, rfl⟩⟩
    exact (Seed.distinct_iff_of_carries (hcarries hread)).2 hdistinct
  · intro world hworld
    obtain ⟨hread, hsame⟩ := (decode_eq_ok_iff_of_rest hrest).1 hworld
    exact ⟨hcarries (hseeds.1 hread).1, hsame⟩

/-- A name with blanks around it and one that is the Kelvin sign, below a directory; with another
name that is the same letter in lower case the tree is refused. -/
theorem tree_accepted_below_home :
    let note : Json := .object [("colour", .null), ("name", .string "\u00a0Note\u3000"),
      ("content", .string "hello")]
    let kelvin : Json := .object [("name", .string "\u212a"), ("type", .string "directory")]
    let letter : Json := .object [("name", .string " k"), ("children", .array [])]
    let home (below : List Json) : Json := .object [("name", .string " Home "),
      ("type", .string "directory"), ("children", .array below)]
    let document (below : List Json) : List (String × Json) :=
      [("id", .string "w"), ("tree", .array [home below])]
    (∃ world, decode (.object (document [note, kelvin])) = .ok world
        ∧ List.Forall₂ Seed.Carries [home [note, kelvin]] world.seeds)
      ∧ (¬ ∃ world, decode (.object (document [note, kelvin, letter])) = .ok world)
      ∧ ¬ (Seed.GivenDistinct [home [note, kelvin, letter]]
        ∧ ∀ item ∈ [home [note, kelvin, letter]], Seed.Throughout Seed.IsWellFormed item) := by
  intro note kelvin letter home document
  have hleaf : ∀ item ∈ [note, kelvin, letter], Seed.Throughout Seed.IsPlain item := by
    simp only [List.forall_mem_cons, List.not_mem_nil, false_imp_iff, implies_true, and_true]
    refine ⟨.node (by decide +kernel) ?_, .node (by decide +kernel) ?_,
      .node (by decide +kernel) ?_⟩
    all_goals exact fun item hitem => absurd hitem List.not_mem_nil
  have hplain : ∀ below ⊆ [note, kelvin, letter], Seed.IsPlain (home below) →
      ∀ item ∈ [home below], Seed.Throughout Seed.IsPlain item := by
    intro below hbelow hhome item hitem
    rw [List.mem_singleton.1 hitem]
    exact .node hhome fun item hitem => hleaf item (hbelow hitem)
  have hrest : (decode (.object [("id", .string "w"), ("tree", .array [])])).toOption.isSome
      = true := by decide +kernel
  obtain ⟨base, hbase⟩ := Option.isSome_iff_exists.1 hrest
  have hbase := ok_of_toOption hbase
  have htree : ∀ below, Json.field? "tree" (document below) = some (.array [home below]) :=
    fun _ => rfl
  have haccepted := tree_accepted_iff (htree [note, kelvin])
    (hplain [note, kelvin] (by simp) (by decide +kernel)) hbase
  have hrefused := tree_accepted_iff (htree [note, kelvin, letter])
    (hplain [note, kelvin, letter] (List.Subset.refl _) (by decide +kernel)) hbase
  have hread : (decode (.object (document [note, kelvin]))).toOption.isSome = true := by
    decide +kernel
  have hnot : (decode (.object (document [note, kelvin, letter]))).isOk = false := by
    decide +kernel
  obtain ⟨world, hworld⟩ := Option.isSome_iff_exists.1 hread
  have hnone : ¬ ∃ world, decode (.object (document [note, kelvin, letter])) = .ok world := by
    rintro ⟨other, hother⟩
    rw [hother] at hnot
    exact absurd hnot (by simp [Except.isOk, Except.toBool])
  exact ⟨⟨world, ok_of_toOption hworld, (haccepted.2 world (ok_of_toOption hworld)).1⟩, hnone,
    mt hrefused.1.2 hnone⟩

end World

end StoryShell
