/-
The shape that a document of a world must have.

Faults of shape are the ones that are not reported in words: a value without items stands where a
list is read, or a value without fields where an object is. What has to have which shape is said
apart from the reading (`World.Shaped`), and every part of the reading **tells** about the shape of
what it reads: it succeeds on shaped values only, and on these it only fails with a fault that is
reported (`Tells`). Parts that tell, one after the other, tell about both shapes (`Tells.bind`).
-/
import StoryShell.Proofs.Outcome
import StoryShell.World.Decode

set_option autoImplicit false

namespace StoryShell

/-! ## Shapes -/

namespace Json

/-- A value that has items where a list is read. -/
def HasItems : Json → Prop
  | .array _ | .string _ | .object _ => True
  | _ => False

/-- A value that has fields. -/
def IsObject : Json → Prop
  | .object _ => True
  | _ => False

/-- A field that is missing, or has a value of a shape. -/
def FieldIs (name : String) (P : Json → Prop) (fields : List (String × Json)) : Prop :=
  ∀ value, field? name fields = some value → P value

/-- **A list of values of a shape.** An empty text and an empty object are empty lists, too. -/
inductive ListOf (P : Json → Prop) : Json → Prop
  | array {items : List Json} (h : ∀ item ∈ items, P item) : ListOf P (.array items)
  | text : ListOf P (.string "")
  | object : ListOf P (.object [])

end Json

open Json (FieldIs ListOf HasItems IsObject)

/-- **A node of the tree**: an object whose children, if it has any, are nodes. -/
inductive Seed.Shaped : Json → Prop
  | object {fields : List (String × Json)}
    (h : ∀ value, Json.field? "children" fields = some value → ListOf Seed.Shaped value) :
    Seed.Shaped (.object fields)

/-- **A milestone**: an object with lists where lists are read. -/
def Milestone.Shaped : Json → Prop
  | .object fields =>
    ∀ name ∈ ["requires", "unlocks", "unblocks", "narrative"], FieldIs name HasItems fields
  | _ => False

/-- **A world**: an object with a tree of nodes, a list of milestones, an object for the roles, and
lists where lists are read. -/
def World.Shaped : Json → Prop
  | .object fields =>
    FieldIs "tree" (ListOf Seed.Shaped) fields
      ∧ FieldIs "milestones" (ListOf Milestone.Shaped) fields
      ∧ FieldIs "intro" HasItems fields
      ∧ FieldIs "well_known" IsObject fields
      ∧ FieldIs "allowed_commands" HasItems fields
      ∧ FieldIs "blocked_commands" HasItems fields
  | _ => False

/-! ## What readers tell -/

/-- **A reader that tells about a shape.** It succeeds on what is shaped only, and there it fails
only with a fault that is reported. It is never refused by a file system. -/
structure Tells {α : Type} (read : Except LoadError α) (shaped : Prop) : Prop where
  ok : ∀ {value}, read = .ok value → shaped
  error : ∀ {error}, read = .error error →
    (∀ refusal, error ≠ .refused refusal) ∧ (error.isReported = true ∨ ¬ shaped)

namespace Tells

variable {α β : Type} {read : Except LoadError α} {shaped other : Prop}

/-- What succeeds on what is shaped tells so. -/
theorem of_ok {value : α} (h : shaped) : Tells (.ok value : Except LoadError α) shaped where
  ok := fun _ => h
  error := fun herror => absurd herror (by simp)

/-- A fault that is reported says nothing about the shape. -/
theorem of_reported {error : LoadError} (hrefusal : ∀ refusal, error ≠ .refused refusal)
    (h : error.isReported = true) : Tells (.error error : Except LoadError α) shaped where
  ok := fun hok => absurd hok (by simp)
  error := fun herror => by
    obtain rfl := Except.error.inj herror
    exact ⟨hrefusal, .inl h⟩

/-- Any other fault says that the shape is wrong. -/
theorem of_not_shaped {error : LoadError} (hrefusal : ∀ refusal, error ≠ .refused refusal)
    (h : ¬ shaped) : Tells (.error error : Except LoadError α) shaped where
  ok := fun hok => absurd hok (by simp)
  error := fun herror => by
    obtain rfl := Except.error.inj herror
    exact ⟨hrefusal, .inr h⟩

/-- What is told about a shape is told about another way to put it. -/
theorem congr (h : Tells read shaped) (hiff : shaped ↔ other) : Tells read other where
  ok := fun hok => hiff.1 (h.ok hok)
  error := fun herror => by
    rw [← hiff]
    exact h.error herror

/-- What is made of the value that was read does not matter. -/
theorem map (h : Tells read shaped) (f : α → β) : Tells (read.map f) shaped := by
  cases read with
  | ok value => exact of_ok (h.ok rfl)
  | error error =>
    obtain ⟨hrefusal, hreported | hshape⟩ := h.error rfl
    · exact of_reported hrefusal hreported
    · exact of_not_shaped hrefusal hshape

/-- **Readers one after the other** tell about both shapes. -/
theorem bind {rest : α → Except LoadError β} (h : Tells read shaped)
    (hrest : ∀ value, read = .ok value → Tells (rest value) other) :
    Tells (read >>= rest) (shaped ∧ other) := by
  cases read with
  | ok value =>
    have hshaped : shaped := h.ok rfl
    exact (hrest value rfl).congr ⟨fun hother => ⟨hshaped, hother⟩, And.right⟩
  | error error =>
    obtain ⟨hrefusal, hreported | hshape⟩ := h.error rfl
    · exact of_reported hrefusal hreported
    · exact of_not_shaped hrefusal fun hboth => hshape hboth.1

/-- A reader of each item of a list tells about all of them. -/
theorem mapM {P : Json → Prop} {decode : Json → Except LoadError α}
    (h : ∀ item, Tells (decode item) (P item)) (items : List Json) :
    Tells (items.mapM decode) (∀ item ∈ items, P item) := by
  induction items with
  | nil => exact of_ok (by simp)
  | cons item rest ih =>
    rw [List.mapM_cons]
    exact ((h item).bind fun _ _ => ih.bind fun _ _ => of_ok trivial).congr
      (by rw [List.forall_mem_cons, and_true])

end Tells

/-! ## Values -/

namespace Json

variable (name : String) (fields : List (String × Json))

theorem tells_elements (value : Json) : Tells value.elements value.HasItems := by
  cases value with
  | array _ | string _ | object _ => exact .of_ok trivial
  | null | bool _ | integer _ | real _ => exact .of_not_shaped (by simp) id

/-- A list that is read tells whether there is one. -/
theorem tells_listField : Tells (listField name fields) (FieldIs name HasItems fields) := by
  rw [listField, FieldIs]
  cases hfield : field? name fields with
  | none => exact .of_ok (by simp)
  | some value => exact (tells_elements value).congr (by simp)

theorem tells_textsField : Tells (textsField name fields) (FieldIs name HasItems fields) :=
  (tells_listField name fields).map _

theorem tells_lowerField : Tells (lowerField name fields) (FieldIs name HasItems fields) :=
  (tells_textsField name fields).map _

/-- A field that is missing is reported. -/
theorem tells_requiredField : Tells (requiredField name fields) True := by
  rw [requiredField]
  split
  · exact .of_ok trivial
  · exact .of_reported (by simp) rfl

/-- The items of a value make it a list of values of a shape, if no text has the shape. -/
theorem listOf_iff {P : Json → Prop} (htext : ∀ text, ¬ P (.string text)) {value : Json}
    {items : List Json} (h : value.elements = .ok items) :
    ListOf P value ↔ ∀ item ∈ items, P item := by
  cases value with
  | array found =>
    obtain rfl := Except.ok.inj h
    exact ⟨fun hlist => by cases hlist; assumption, .array⟩
  | string text =>
    obtain rfl := Except.ok.inj h
    constructor
    · rintro ⟨⟩
      simp
    · intro hall
      cases hchars : text.toList with
      | nil =>
        rw [String.toList_eq_nil_iff.1 hchars]
        exact .text
      | cons c rest =>
        rw [hchars] at hall
        exact absurd (hall _ List.mem_cons_self) (htext _)
  | object fields =>
    obtain rfl := Except.ok.inj h
    cases fields with
    | nil => exact ⟨fun _ => by simp, fun _ => .object⟩
    | cons field rest =>
      constructor
      · rintro ⟨⟩
      · intro hall
        exact absurd (hall _ List.mem_cons_self) (htext _)
  | null | bool _ | integer _ | real _ => exact absurd h (by simp [elements])

end Json

/-! ## The tree -/

namespace Seed

theorem tells_checkNames (directory : String) (seeds : List Seed) :
    Tells (checkNames directory seeds) True := by
  rw [checkNames]
  split
  · exact .of_reported (by simp) rfl
  · exact .of_ok trivial

/-- The fields of an object tell what its children tell. -/
theorem tells_ofFields {fields : List (String × Json)} {children : Except LoadError (List Seed)}
    {shaped : Prop} (h : Tells children shaped) : Tells (ofFields fields children) shaped := by
  unfold ofFields
  extract_lets name kind text finish checkChildren checkKind
  -- all checks of the node itself are reported
  have hfinish : Tells (finish ()) shaped :=
    (h.bind fun seeds _ => (tells_checkNames name seeds).bind fun _ _ =>
      .of_ok trivial).congr (by simp)
  have hchildren : Tells (checkChildren ()) shaped := by
    simp only [checkChildren]
    split
    · exact .of_reported (by simp) rfl
    · exact hfinish
  have hkind : Tells (checkKind ()) shaped := by
    simp only [checkKind]
    split
    · exact .of_reported (by simp) rfl
    · exact hchildren
  split
  · exact .of_reported (by simp) rfl
  · exact hkind

theorem shaped_object_iff {fields : List (String × Json)} :
    Shaped (.object fields) ↔ FieldIs "children" (ListOf Shaped) fields :=
  ⟨fun h => by cases h; assumption, .object⟩

mutual

/-- **Reading a node tells whether it is one.** -/
theorem tells_decode : (json : Json) → Tells (decode json) (Shaped json)
  | .object fields => by
    rw [decode]
    exact (tells_ofFields (tells_decodeChildren fields)).congr shaped_object_iff.symm
  | .null | .bool _ | .integer _ | .real _ | .string _ | .array _ => by
    rw [decode]
    · exact .of_not_shaped (by simp) (by rintro ⟨⟩)
    all_goals simp

theorem tells_decodeChildren : (fields : List (String × Json)) →
    Tells (decodeChildren fields) (FieldIs "children" (ListOf Shaped) fields)
  | [] => .of_ok (by simp [FieldIs, Json.field?])
  | (name, value) :: rest => by
    rw [decodeChildren, FieldIs]
    simp only [Json.field?]
    split
    · exact (tells_decodeElements value).congr (by simp)
    · exact tells_decodeChildren rest

theorem tells_decodeElements : (json : Json) → Tells (decodeElements json) (ListOf Shaped json)
  | .array items => by
    rw [decodeElements]
    exact (tells_decodeAll items).congr ⟨.array, fun h => by cases h; assumption⟩
  | .string value => by
    rw [decodeElements]
    split
    · rename_i hempty
      exact .of_ok (hempty ▸ .text)
    · rename_i hmore
      exact .of_not_shaped (by simp) (by rintro ⟨⟩; exact hmore rfl)
  | .object fields => by
    rw [decodeElements]
    cases fields with
    | nil => exact .of_ok .object
    | cons field rest => exact .of_not_shaped (by simp) (by rintro ⟨⟩)
  | .null | .bool _ | .integer _ | .real _ => by
    rw [decodeElements]
    · exact .of_not_shaped (by simp) (by rintro ⟨⟩)
    all_goals simp

theorem tells_decodeAll : (items : List Json) →
    Tells (decodeAll items) (∀ item ∈ items, Shaped item)
  | [] => .of_ok (by simp)
  | item :: rest => by
    have hboth := (tells_decode item).bind fun seed _ =>
      (tells_decodeAll rest).map (seed :: ·)
    rw [← List.forall_mem_cons] at hboth
    rw [decodeAll]
    cases hitem : decode item with
    | error error => rwa [hitem] at hboth
    | ok seed => rwa [hitem] at hboth

end

end Seed

/-! ## Milestones -/

namespace Milestone

/-- **Reading a milestone tells whether it is one.** -/
theorem tells_decode (json : Json) : Tells (decode json) (Shaped json) := by
  cases json with
  | object fields =>
    rw [decode]
    refine Tells.congr ((Json.tells_requiredField "id" fields).bind fun _ _ =>
      (Json.tells_requiredField "command" fields).bind fun _ _ =>
      (Json.tells_textsField "requires" fields).bind fun _ _ =>
      (Json.tells_lowerField "unlocks" fields).bind fun _ _ =>
      (Json.tells_lowerField "unblocks" fields).bind fun _ _ =>
      (Json.tells_textsField "narrative" fields).bind fun _ _ =>
        .of_ok trivial) ?_
    simp [Shaped]
  | null | bool _ | integer _ | real _ | string _ | array _ =>
    exact .of_not_shaped (by simp) fun h => h

theorem tells_validate (table : List Milestone) : Tells (validate table) True := by
  rw [validate]
  split
  · exact .of_reported (by simp) rfl
  · split
    · exact .of_reported (by simp) rfl
    · split
      · exact .of_reported (by simp) rfl
      · exact .of_ok trivial

end Milestone

/-! ## The world -/

namespace World

variable (fields : List (String × Json))

theorem tells_decodeRoles : Tells (decodeRoles fields) (FieldIs "well_known" IsObject fields) := by
  rw [decodeRoles, FieldIs]
  split
  · rename_i hnone
    exact .of_ok (by simp [hnone])
  · rename_i roles hroles
    exact .of_ok (by simp [hroles, IsObject])
  · rename_i value hother hvalue
    refine .of_not_shaped (by simp) fun hshaped => ?_
    have hobject := hshaped value hvalue
    cases value with
    | object roles => exact hother roles rfl
    | null | bool _ | integer _ | real _ | string _ | array _ => exact hobject

theorem tells_decodeSeeds :
    Tells (decodeSeeds fields) (FieldIs "tree" (ListOf Seed.Shaped) fields) := by
  rw [decodeSeeds, FieldIs]
  have hcheck : ∀ {read : Except LoadError (List Seed)} {shaped : Prop}, Tells read shaped →
      Tells (read >>= fun seeds => Seed.checkNames topName seeds >>= fun _ => pure seeds) shaped :=
    fun h => (h.bind fun seeds _ => (Seed.tells_checkNames topName seeds).bind fun _ _ =>
      .of_ok trivial).congr (by simp)
  split
  · rename_i hnone
    exact hcheck (.of_ok (by simp [hnone]))
  · rename_i value hvalue
    exact hcheck ((Seed.tells_decodeElements value).congr (by simp [hvalue]))

theorem tells_decodeMilestones :
    Tells (decodeMilestones fields) (FieldIs "milestones" (ListOf Milestone.Shaped) fields) := by
  have hitems : ∀ items, Json.listField "milestones" fields = .ok items →
      Tells (items.mapM Milestone.decode)
        (FieldIs "milestones" (ListOf Milestone.Shaped) fields) := by
    intro items hlist
    refine (Tells.mapM Milestone.tells_decode items).congr ?_
    rw [Json.listField] at hlist
    rw [FieldIs]
    cases hfield : Json.field? "milestones" fields with
    | none =>
      rw [hfield] at hlist
      obtain rfl := Except.ok.inj hlist
      simp
    | some value =>
      rw [hfield] at hlist
      have htext : ∀ text, ¬ Milestone.Shaped (.string text) := fun _ h => h
      simp [Json.listOf_iff htext hlist]
  refine (((Json.tells_listField "milestones" fields).bind fun items hlist =>
    (hitems items hlist).bind fun table _ => (Milestone.tells_validate table).bind fun _ _ =>
      .of_ok trivial)).congr ?_
  -- a list of milestones is a list
  refine ⟨fun h => h.2.1, fun h => ⟨fun value hvalue => ?_, h, trivial, trivial⟩⟩
  cases h value hvalue <;> trivial

/-- **Reading a world tells whether the document is one.** -/
theorem tells_decode (json : Json) : Tells (decode json) (Shaped json) := by
  cases json with
  | object fields =>
    rw [decode]
    refine Tells.congr ((Json.tells_requiredField "id" fields).bind fun _ _ =>
      (tells_decodeSeeds fields).bind fun _ _ =>
      (tells_decodeMilestones fields).bind fun _ _ =>
      (Json.tells_textsField "intro" fields).bind fun _ _ =>
      (tells_decodeRoles fields).bind fun _ _ =>
      (Json.tells_lowerField "allowed_commands" fields).bind fun _ _ =>
      (Json.tells_lowerField "blocked_commands" fields).bind fun _ _ => .of_ok trivial) ?_
    simp [Shaped]
  | null | bool _ | integer _ | real _ | string _ | array _ =>
    exact .of_not_shaped (by simp) fun h => h

end World

end StoryShell
