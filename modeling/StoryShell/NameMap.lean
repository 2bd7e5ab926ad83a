/-
Maps from names to values, and sets of names, in the order of code points.

A map is its list of entries with names strictly ascending, and the order is part of the type. So
a map is determined by its look-ups (`NameMap.ext_get?`), no insertion order can be seen in it, and
listing its entries is listing them in order.

* `get?_insert`, `get?_erase`: what a change does to every look-up.
* `ext_get?`: maps with the same look-ups are equal.
-/

set_option autoImplicit false

namespace StoryShell

/-- **A map from names.** -/
structure NameMap (α : Type) where
  entries : List (String × α)
  ordered : entries.Pairwise fun a b => a.1 < b.1
deriving DecidableEq, Repr

namespace NameMap

variable {α : Type}

/-! ## Entries as a list -/

/-- The value under a name, in ascending entries. -/
def lookup (name : String) : List (String × α) → Option α
  | [] => none
  | (key, value) :: rest => if key = name then some value else lookup name rest

/-- Ascending entries with a value put under a name, in place of any other there. -/
def insertEntry (name : String) (value : α) : List (String × α) → List (String × α)
  | [] => [(name, value)]
  | (key, old) :: rest =>
    if name < key then (name, value) :: (key, old) :: rest
    else if key = name then (name, value) :: rest
    else (key, old) :: insertEntry name value rest

/-- A name in entries with one more is the new one or was there before. -/
theorem mem_insertEntry {name : String} {value : α} {entries : List (String × α)}
    {entry : String × α} (h : entry ∈ insertEntry name value entries) :
    entry = (name, value) ∨ entry ∈ entries := by
  induction entries with
  | nil => simpa [insertEntry] using h
  | cons head rest ih =>
    obtain ⟨key, old⟩ := head
    simp only [insertEntry] at h
    split at h
    · simpa using h
    · split at h
      · rcases List.mem_cons.1 h with h | h
        · exact .inl h
        · exact .inr (List.mem_cons_of_mem _ h)
      · rcases List.mem_cons.1 h with h | h
        · exact .inr (h ▸ List.mem_cons_self)
        · exact (ih h).imp_right (List.mem_cons_of_mem _)

/-- Names that are neither below nor equal are above. -/
theorem lt_of_not_lt_of_ne {a b : String} (h : ¬ a < b) (hne : ¬ b = a) : b < a := by
  rcases Decidable.em (b < a) with h' | h'
  · exact h'
  · exact absurd (String.le_antisymm (String.not_lt.1 h) (String.not_lt.1 h')) hne

theorem ordered_insertEntry (name : String) (value : α) {entries : List (String × α)}
    (h : entries.Pairwise fun a b => a.1 < b.1) :
    (insertEntry name value entries).Pairwise fun a b => a.1 < b.1 := by
  induction entries with
  | nil => simp [insertEntry]
  | cons head rest ih =>
    obtain ⟨key, old⟩ := head
    obtain ⟨hhead, hrest⟩ := List.pairwise_cons.1 h
    simp only [insertEntry]
    split
    · rename_i hlt
      refine List.pairwise_cons.2 ⟨fun entry hentry => ?_, h⟩
      rcases List.mem_cons.1 hentry with rfl | hentry
      · exact hlt
      · exact String.lt_trans hlt (hhead entry hentry)
    · rename_i hlt
      split
      · rename_i heq
        exact List.pairwise_cons.2 ⟨fun entry hentry => heq ▸ hhead entry hentry, hrest⟩
      · rename_i hne
        refine List.pairwise_cons.2 ⟨fun entry hentry => ?_, ih hrest⟩
        rcases mem_insertEntry hentry with rfl | hentry
        · exact lt_of_not_lt_of_ne hlt hne
        · exact hhead entry hentry

/-! ## Maps -/

/-- The map without entries. -/
def empty : NameMap α := ⟨[], .nil⟩

instance : Inhabited (NameMap α) := ⟨empty⟩

/-- The value under a name. -/
def get? (map : NameMap α) (name : String) : Option α := lookup name map.entries

/-- Whether a name has a value. -/
def contains (map : NameMap α) (name : String) : Bool := (map.get? name).isSome

/-- Puts a value under a name, in place of any other there. -/
def insert (map : NameMap α) (name : String) (value : α) : NameMap α :=
  ⟨insertEntry name value map.entries, ordered_insertEntry name value map.ordered⟩

/-- Takes a name and its value out. -/
def erase (map : NameMap α) (name : String) : NameMap α :=
  ⟨map.entries.filter fun entry => entry.1 ≠ name, map.ordered.filter _⟩

/-- The names, ascending. -/
def names (map : NameMap α) : List String := map.entries.map (·.1)

/-- The values, in the order of their names. -/
def values (map : NameMap α) : List α := map.entries.map (·.2)

/-! ## Look-ups -/

theorem lookup_insertEntry (name key : String) (value : α) (entries : List (String × α)) :
    lookup key (insertEntry name value entries)
      = if name = key then some value else lookup key entries := by
  induction entries with
  | nil => simp [insertEntry, lookup]
  | cons head rest ih =>
    obtain ⟨first, old⟩ := head
    simp only [insertEntry]
    split
    · simp [lookup]
    · split <;> grind [lookup]

theorem lookup_filter (name key : String) (entries : List (String × α)) :
    lookup key (entries.filter fun entry => entry.1 ≠ name)
      = if name = key then none else lookup key entries := by
  induction entries with
  | nil => simp [lookup]
  | cons head rest ih => grind [lookup]

@[simp] theorem get?_empty (name : String) : (empty : NameMap α).get? name = none := rfl

theorem get?_insert (map : NameMap α) (name key : String) (value : α) :
    (map.insert name value).get? key = if name = key then some value else map.get? key :=
  lookup_insertEntry name key value map.entries

theorem get?_erase (map : NameMap α) (name key : String) :
    (map.erase name).get? key = if name = key then none else map.get? key :=
  lookup_filter name key map.entries

/-- No look-up finds a name that lies below all entries. -/
theorem lookup_of_lt {name : String} {entries : List (String × α)}
    (h : ∀ entry ∈ entries, name < entry.1) : lookup name entries = none := by
  induction entries with
  | nil => rfl
  | cons head rest ih =>
    have hne : head.1 ≠ name := fun heq =>
      String.lt_irrefl name (heq ▸ h head List.mem_cons_self)
    simp [lookup, hne, ih fun entry hentry => h entry (List.mem_cons_of_mem _ hentry)]

/-- Ascending entries with the same look-ups are the same. -/
theorem eq_of_lookup {first second : List (String × α)}
    (hfirst : first.Pairwise fun a b => a.1 < b.1) (hsecond : second.Pairwise fun a b => a.1 < b.1)
    (h : ∀ name, lookup name first = lookup name second) : first = second := by
  induction first generalizing second with
  | nil =>
    cases second with
    | nil => rfl
    | cons head rest => simpa [lookup] using h head.1
  | cons head rest ih =>
    obtain ⟨key, value⟩ := head
    obtain ⟨hhead, hrest⟩ := List.pairwise_cons.1 hfirst
    cases second with
    | nil => simpa [lookup] using h key
    | cons head' rest' =>
      obtain ⟨key', value'⟩ := head'
      obtain ⟨hhead', hrest'⟩ := List.pairwise_cons.1 hsecond
      have hkey : key = key' := by
        rcases Decidable.em (key = key') with heq | hne
        · exact heq
        exfalso
        rcases Decidable.em (key < key') with hlt | hlt
        · have hnone : lookup key ((key', value') :: rest') = none :=
            lookup_of_lt fun entry hentry => by
              rcases List.mem_cons.1 hentry with rfl | hentry
              · exact hlt
              · exact String.lt_trans hlt (hhead' entry hentry)
          have hsome := h key
          rw [hnone] at hsome
          simp [lookup] at hsome
        · have hgt : key' < key := lt_of_not_lt_of_ne hlt fun heq => hne heq.symm
          have hnone : lookup key' ((key, value) :: rest) = none :=
            lookup_of_lt fun entry hentry => by
              rcases List.mem_cons.1 hentry with rfl | hentry
              · exact hgt
              · exact String.lt_trans hgt (hhead entry hentry)
          have hsome := h key'
          rw [hnone] at hsome
          simp [lookup] at hsome
      subst hkey
      have hvalue : value = value' := by simpa [lookup] using h key
      subst hvalue
      have hrest_eq : rest = rest' := by
        refine ih hrest hrest' fun name => ?_
        rcases Decidable.em (key = name) with heq | hne
        · subst heq
          rw [lookup_of_lt hhead, lookup_of_lt hhead']
        · simpa [lookup, hne] using h name
      rw [hrest_eq]

/-- **Maps with the same look-ups are equal.** -/
theorem ext_get? {first second : NameMap α} (h : ∀ name, first.get? name = second.get? name) :
    first = second := by
  obtain ⟨entries, ordered⟩ := first
  obtain ⟨entries', ordered'⟩ := second
  have heq : entries = entries' := eq_of_lookup ordered ordered' h
  subst heq
  rfl

/-! ## Values -/

theorem mem_of_lookup {name : String} {value : α} {entries : List (String × α)}
    (h : lookup name entries = some value) : (name, value) ∈ entries := by
  induction entries with
  | nil => simp [lookup] at h
  | cons head rest ih =>
    obtain ⟨key, old⟩ := head
    rw [lookup] at h
    split at h
    · rename_i heq
      have hvalue : old = value := Option.some.inj h
      rw [heq, hvalue]
      exact List.mem_cons_self
    · exact List.mem_cons_of_mem _ (ih h)

/-- Ascending entries give back each of their values. -/
theorem lookup_of_mem {name : String} {value : α} {entries : List (String × α)}
    (hordered : entries.Pairwise fun a b => a.1 < b.1) (h : (name, value) ∈ entries) :
    lookup name entries = some value := by
  induction entries with
  | nil => cases h
  | cons head rest ih =>
    obtain ⟨hhead, hrest⟩ := List.pairwise_cons.1 hordered
    rcases List.mem_cons.1 h with rfl | h
    · simp [lookup]
    · have hne : head.1 ≠ name := fun heq =>
        String.lt_irrefl name (heq ▸ hhead (name, value) h)
      simp [lookup, hne, ih hrest h]

/-- The values of a map are what its look-ups find. -/
theorem mem_values_iff {map : NameMap α} {value : α} :
    value ∈ map.values ↔ ∃ name, map.get? name = some value := by
  constructor
  · intro h
    obtain ⟨⟨name, found⟩, hmem, rfl⟩ := List.mem_map.1 h
    exact ⟨name, lookup_of_mem map.ordered hmem⟩
  · rintro ⟨name, h⟩
    exact List.mem_map.2 ⟨(name, value), mem_of_lookup h, rfl⟩

end NameMap

/-! ## Sets of names -/

/-- **A set of names.** -/
abbrev NameSet := NameMap Unit

namespace NameSet

/-- Puts a name in. -/
def add (set : NameSet) (name : String) : NameSet := set.insert name ()

/-- The set of the names of a list. -/
def ofList (names : List String) : NameSet := names.foldl add NameMap.empty

instance : Membership String NameSet := ⟨fun set name => set.contains name = true⟩

instance (name : String) (set : NameSet) : Decidable (name ∈ set) :=
  inferInstanceAs (Decidable (set.contains name = true))

theorem mem_iff {set : NameSet} {name : String} : name ∈ set ↔ (set.get? name).isSome = true :=
  Iff.rfl

@[simp] theorem mem_add {set : NameSet} {name other : String} :
    name ∈ set.add other ↔ name = other ∨ name ∈ set := by
  rw [mem_iff, add, NameMap.get?_insert, mem_iff]
  rcases Decidable.em (other = name) with h | h
  · simp [h]
  · simp [h, Ne.symm h]

@[simp] theorem mem_erase {set : NameSet} {name other : String} :
    name ∈ set.erase other ↔ name ≠ other ∧ name ∈ set := by
  rw [mem_iff, NameMap.get?_erase, mem_iff]
  rcases Decidable.em (other = name) with h | h
  · simp [h]
  · simp [h, Ne.symm h]

/-- **The set of a list** has the names of the list. -/
@[simp] theorem mem_ofList {names : List String} {name : String} :
    name ∈ ofList names ↔ name ∈ names := by
  have hadd : ∀ set : NameSet, name ∈ names.foldl add set ↔ name ∈ set ∨ name ∈ names := by
    induction names with
    | nil => simp
    | cons first rest ih =>
      intro set
      rw [List.foldl_cons, ih, mem_add, List.mem_cons, or_comm (a := name = first), or_assoc]
  rw [ofList, hadd]
  simp [mem_iff]

/-- The names of a set are listed. -/
theorem mem_names {set : NameSet} {name : String} : name ∈ set.names ↔ name ∈ set := by
  rw [mem_iff, Option.isSome_iff_exists, NameMap.names, List.mem_map]
  constructor
  · rintro ⟨⟨other, value⟩, hmem, rfl⟩
    exact ⟨value, NameMap.lookup_of_mem set.ordered hmem⟩
  · rintro ⟨value, h⟩
    exact ⟨(name, value), NameMap.mem_of_lookup h, rfl⟩

/-- Sets with the same names are equal. -/
theorem ext_mem {first second : NameSet} (h : ∀ name, name ∈ first ↔ name ∈ second) :
    first = second := by
  refine NameMap.ext_get? fun name => ?_
  have hname := h name
  rw [mem_iff, mem_iff] at hname
  -- there is only one value that a name can have in a set
  cases hfirst : first.get? name with
  | none =>
    cases hsecond : second.get? name with
    | none => rfl
    | some value => simp [hfirst, hsecond] at hname
  | some value =>
    cases hsecond : second.get? name with
    | none => simp [hfirst, hsecond] at hname
    | some other => rfl

/-- Adding a name that is there changes nothing. -/
theorem add_of_mem {set : NameSet} {name : String} (h : name ∈ set) : set.add name = set := by
  refine NameMap.ext_get? fun other => ?_
  rw [add, NameMap.get?_insert]
  split
  · rename_i heq
    obtain ⟨value, hvalue⟩ := Option.isSome_iff_exists.1 (heq ▸ h)
    rw [hvalue]
  · rfl

/-- Taking away a name that is not there changes nothing. -/
theorem erase_of_not_mem {set : NameSet} {name : String} (h : name ∉ set) :
    set.erase name = set := by
  refine NameMap.ext_get? fun other => ?_
  rw [NameMap.get?_erase]
  split
  · rename_i heq
    rw [mem_iff, heq, Option.isSome_iff_ne_none, Decidable.not_not] at h
    rw [h]
  · rfl

end NameSet

end StoryShell
