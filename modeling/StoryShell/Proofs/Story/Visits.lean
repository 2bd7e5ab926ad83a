/-
What has to be achieved for a milestone, in any table.

The walk down the requirements of an id visits no id twice, so it comes to an end also where
requirements go round in circles. As steps without a bound on how deep they go (`Visits`,
`VisitsAll`) it meets an id, then goes through what the id requires, and then leaves it; an id that
is not in the table ends it. The walk that is run, which is bounded in depth, comes to what the
steps come to (`visits_of_visit`), because it never meets more ids than there are in the table.

Of several milestones with one id the last counts (`Decides`), so what a table needs for an id is
read off these alone (`Needs`), and what is reachable along needs is what the walk goes through
(`Reaches`). If it ends at an unknown id, that one is reachable (`Visits.of_error`). If it does not,
what it meets is closed under needs, and nothing is left open: it has left exactly the reachable
ids, each once and the first of them last (`isOrder_of_order`). An id is left after all that it
needs, provided that none of these is still open above it; and where no reachable id needs itself
none can be (`Visits.inOrder`).
-/
import StoryShell.Proofs.Story.Prerequisites

set_option autoImplicit false

namespace StoryShell

namespace Milestone

variable {table : List Milestone}

/-! ## What a table needs -/

/-- **A milestone decides an id** if it is the last of the table that has it. -/
def Decides (table : List Milestone) (id : String) (milestone : Milestone) : Prop :=
  ∃ before after, table = before ++ milestone :: after ∧ milestone.id = id
    ∧ ∀ other ∈ after, other.id ≠ id

/-- What is found under an id is the milestone that decides it. -/
theorem withId?_eq_some_iff {id : String} {milestone : Milestone} :
    withId? table id = some milestone ↔ Decides table id milestone := by
  rw [withId?, List.find?_eq_some_iff_append]
  constructor
  · rintro ⟨hid, after, before, htable, hnone⟩
    refine ⟨before.reverse, after.reverse, ?_, by simpa using hid, ?_⟩
    · rw [← List.reverse_reverse table, htable]
      simp
    · intro other hother
      simpa using hnone other (List.mem_reverse.1 hother)
  · rintro ⟨before, after, rfl, hid, hnone⟩
    refine ⟨by simpa using hid, after.reverse, before.reverse, by simp, ?_⟩
    intro other hother
    simpa using hnone other (List.mem_reverse.1 hother)

/-- An id is decided just if it is in the table. -/
theorem exists_decides_iff {id : String} :
    (∃ milestone, Decides table id milestone) ↔ id ∈ table.map Milestone.id := by
  constructor
  · rintro ⟨milestone, before, after, rfl, rfl, -⟩
    simp
  · intro hid
    obtain ⟨milestone, hmem, rfl⟩ := List.mem_map.1 hid
    obtain ⟨found, hfound⟩ := withId?_isSome hmem
    exact ⟨found, withId?_eq_some_iff.1 hfound⟩

/-- An id is decided by one milestone only. -/
theorem Decides.unique {id : String} {milestone other : Milestone}
    (h : Decides table id milestone) (h' : Decides table id other) : milestone = other :=
  Option.some.inj ((withId?_eq_some_iff.2 h).symm.trans (withId?_eq_some_iff.2 h'))

theorem Decides.known {id : String} {milestone : Milestone} (h : Decides table id milestone) :
    id ∈ table.map Milestone.id :=
  exists_decides_iff.1 ⟨milestone, h⟩

/-- The requirements of an id are those of the milestone that decides it. -/
theorem requirements_of_decides {id : String} {milestone : Milestone}
    (h : Decides table id milestone) : requirements table id = milestone.requires := by
  rw [requirements, withId?_eq_some_iff.2 h, Option.map_some, Option.getD_some]

/-- **An id needs another one** if the milestone that decides it requires that. -/
def Needs (table : List Milestone) (id required : String) : Prop :=
  ∃ milestone, Decides table id milestone ∧ required ∈ milestone.requires

/-- What an id needs are its requirements. -/
theorem needs_iff {id required : String} :
    Needs table id required ↔ required ∈ requirements table id := by
  constructor
  · rintro ⟨milestone, hdecides, hrequired⟩
    rwa [requirements_of_decides hdecides]
  · intro hrequired
    obtain ⟨milestone, hdecides⟩ := exists_decides_iff.2 (mem_of_requirements hrequired)
    exact ⟨milestone, hdecides, requirements_of_decides hdecides ▸ hrequired⟩

/-- **An id reaches** itself, what it needs, what that needs, and so on. -/
def Reaches (table : List Milestone) : String → String → Prop :=
  Relation.ReflTransGen (Needs table)

/-- **An id goes round in a circle** if it needs itself, directly or through others. -/
def Circles (table : List Milestone) (id : String) : Prop :=
  Relation.TransGen (Needs table) id id

/-- Nothing that is grounded goes round in a circle. -/
theorem Grounded.not_circles {id : String} (h : Grounded table id) : ¬ Circles table id :=
  fun hcircle => h.not_leadsTo (Relation.TransGen.mono (fun _ _ => needs_iff.1) _ _ hcircle)

/-! ## Order -/

/-- **Ids in order**: whatever an id requires comes before it. -/
def InOrder (table : List Milestone) (ids : List String) : Prop :=
  ∀ before id after, ids = before ++ id :: after → requirements table id ⊆ before

theorem inOrder_nil : InOrder table [] := by
  intro before id after h
  exact absurd h (by simp)

/-- An id may come last if all that it requires is there. -/
theorem InOrder.concat {ids : List String} (h : InOrder table ids) {id : String}
    (hid : requirements table id ⊆ ids) : InOrder table (ids ++ [id]) := by
  intro before other after hsplit
  -- what comes after the other id is nothing, or it ends in this one
  rcases List.eq_nil_or_concat after with rfl | ⟨rest, last, rfl⟩
  · obtain ⟨rfl, hlast⟩ := List.append_inj' hsplit rfl
    rw [← List.singleton_inj.1 hlast]
    exact hid
  · rw [List.concat_eq_append, ← List.cons_append, ← List.append_assoc] at hsplit
    obtain ⟨hids, -⟩ := List.append_inj' hsplit rfl
    exact h before other rest hids

/-! ## Walks -/

namespace Walk

/-- The walk before its first step. -/
def start : Walk := ⟨[], []⟩

/-- An id is open if the walk has met it and not left it. -/
def Open (walk : Walk) (id : String) : Prop := id ∈ walk.met ∧ id ∉ walk.left

/-- **What a walk keeps to**: it meets ids of the table, each once, and leaves only what it has met,
each once. -/
structure Orderly (table : List Milestone) (walk : Walk) : Prop where
  met_nodup : walk.met.Nodup
  met_known : walk.met ⊆ table.map Milestone.id
  left_nodup : walk.left.Nodup
  left_met : walk.left ⊆ walk.met

theorem orderly_start (table : List Milestone) : start.Orderly table :=
  ⟨List.nodup_nil, List.nil_subset _, List.nodup_nil, List.Subset.refl _⟩

theorem not_open_start (id : String) : ¬ start.Open id :=
  fun hopen => List.not_mem_nil hopen.1

/-- What a visit adds to a walk: it meets more, leaves more, and what was open stays so. -/
structure Extends (walk after : Walk) : Prop where
  met : walk.met ⊆ after.met
  left : walk.left ⊆ after.left
  same_open : ∀ id, after.Open id ↔ walk.Open id

theorem Extends.refl (walk : Walk) : walk.Extends walk :=
  ⟨List.Subset.refl _, List.Subset.refl _, fun _ => Iff.rfl⟩

theorem Extends.trans {first second third : Walk} (h : first.Extends second)
    (h' : second.Extends third) : first.Extends third :=
  ⟨List.Subset.trans h.met h'.met, List.Subset.trans h.left h'.left,
    fun id => (h'.same_open id).trans (h.same_open id)⟩

/-- A walk that has just met an id. -/
def opened (walk : Walk) (id : String) : Walk := { walk with met := id :: walk.met }

theorem open_opened_iff {walk : Walk} (hwalk : walk.left ⊆ walk.met) {id : String}
    (hid : id ∉ walk.met) (other : String) :
    (walk.opened id).Open other ↔ other = id ∨ walk.Open other := by
  constructor
  · rintro ⟨hmet, hleft⟩
    rcases List.mem_cons.1 hmet with rfl | hmet
    · exact .inl rfl
    · exact .inr ⟨hmet, hleft⟩
  · rintro (rfl | ⟨hmet, hleft⟩)
    · exact ⟨List.mem_cons_self, fun hleft => hid (hwalk hleft)⟩
    · exact ⟨List.mem_cons_of_mem _ hmet, hleft⟩

/-- A walk that meets one more id of the table stays orderly. -/
theorem Orderly.opened {walk : Walk} (hwalk : walk.Orderly table) {id : String}
    (hknown : id ∈ table.map Milestone.id) (hid : id ∉ walk.met) :
    (walk.opened id).Orderly table where
  met_nodup := List.nodup_cons.2 ⟨hid, hwalk.met_nodup⟩
  met_known := List.cons_subset.2 ⟨hknown, hwalk.met_known⟩
  left_nodup := hwalk.left_nodup
  left_met := fun _ hother => List.mem_cons_of_mem _ (hwalk.left_met hother)

/-- A walk that has just left an id. -/
def closed (walk : Walk) (id : String) : Walk := { walk with left := walk.left ++ [id] }

/-- **A walk may leave an id** that is open. -/
theorem Orderly.closed {walk : Walk} (hwalk : walk.Orderly table) {id : String}
    (hopen : walk.Open id) : (walk.closed id).Orderly table where
  met_nodup := hwalk.met_nodup
  met_known := hwalk.met_known
  left_nodup := by
    rw [Walk.closed, List.nodup_append_comm]
    exact List.nodup_cons.2 ⟨hopen.2, hwalk.left_nodup⟩
  left_met := by
    intro other hother
    rcases List.mem_append.1 hother with hother | hother
    · exact hwalk.left_met hother
    · rw [List.mem_singleton.1 hother]
      exact hopen.1

/-- What is open after an id was met, much was done below it, and it was left: what was open
before. -/
theorem Extends.of_opened_closed {walk found : Walk} (hwalk : walk.left ⊆ walk.met) {id : String}
    (hid : id ∉ walk.met) (h : (walk.opened id).Extends found) :
    walk.Extends (found.closed id) where
  met := fun _ hother => h.met (List.mem_cons_of_mem _ hother)
  left := fun _ hother => List.mem_append_left _ (h.left hother)
  same_open := by
    intro other
    have hfound : found.Open other ↔ other = id ∨ walk.Open other :=
      (h.same_open other).trans (open_opened_iff hwalk hid other)
    constructor
    · rintro ⟨hmet, hleft⟩
      have hother : found.Open other := ⟨hmet, fun hmem => hleft (List.mem_append_left _ hmem)⟩
      rcases hfound.1 hother with rfl | hopen
      · exact absurd (List.mem_append_right _ (List.mem_singleton_self other)) hleft
      · exact hopen
    · intro hopen
      obtain ⟨hmet, hleft⟩ := hfound.2 (.inr hopen)
      refine ⟨hmet, fun hmem => ?_⟩
      rcases List.mem_append.1 hmem with hmem | hmem
      · exact hleft hmem
      · rw [List.mem_singleton.1 hmem] at hopen
        exact hid hopen.1

end Walk

/-! ## Visits as steps -/

mutual

/-- **What a visit to an id comes to**, by its steps: the walk as it then is, or the unknown id at
which it ends. -/
inductive Visits (table : List Milestone) : Walk → String → Except String Walk → Prop where
  | again {walk : Walk} {id : String} (met : id ∈ walk.met) : Visits table walk id (.ok walk)
  | unknown {walk : Walk} {id : String} (new : id ∉ walk.met)
    (unknown : id ∉ table.map Milestone.id) : Visits table walk id (.error id)
  | fails {walk : Walk} {id missing : String} {milestone : Milestone} (new : id ∉ walk.met)
    (decides : Decides table id milestone)
    (below : VisitsAll table (walk.opened id) milestone.requires (.error missing)) :
    Visits table walk id (.error missing)
  | leaves {walk found : Walk} {id : String} {milestone : Milestone} (new : id ∉ walk.met)
    (decides : Decides table id milestone)
    (below : VisitsAll table (walk.opened id) milestone.requires (.ok found)) :
    Visits table walk id (.ok (found.closed id))

/-- What visits to several ids come to, one after the other until one ends at an unknown id. -/
inductive VisitsAll (table : List Milestone) :
    Walk → List String → Except String Walk → Prop where
  | done (walk : Walk) : VisitsAll table walk [] (.ok walk)
  | stops {walk : Walk} {id missing : String} {rest : List String}
    (first : Visits table walk id (.error missing)) :
    VisitsAll table walk (id :: rest) (.error missing)
  | goesOn {walk middle : Walk} {id : String} {rest : List String} {outcome : Except String Walk}
    (first : Visits table walk id (.ok middle)) (later : VisitsAll table middle rest outcome) :
    VisitsAll table walk (id :: rest) outcome

end

mutual

/-- **The steps leave no choice** in a visit. -/
theorem Visits.unique {walk : Walk} {id : String} {outcome other : Except String Walk} :
    Visits table walk id outcome → Visits table walk id other → outcome = other
  | .again _, .again _ => rfl
  | .again h, .unknown h' _ | .again h, .fails h' _ _ | .again h, .leaves h' _ _ => absurd h h'
  | .unknown h _, .again h' | .fails h _ _, .again h' | .leaves h _ _, .again h' => absurd h' h
  | .unknown _ _, .unknown _ _ => rfl
  | .unknown _ h, .fails _ h' _ | .unknown _ h, .leaves _ h' _ => absurd h'.known h
  | .fails _ h _, .unknown _ h' | .leaves _ h _, .unknown _ h' => absurd h.known h'
  | .fails _ h below, .fails _ h' below' => by
    cases h.unique h'
    rw [Except.error.inj (below.unique below')]
  | .fails _ h below, .leaves _ h' below' => by
    cases h.unique h'
    exact absurd (below.unique below') (by simp)
  | .leaves _ h below, .fails _ h' below' => by
    cases h.unique h'
    exact absurd (below.unique below') (by simp)
  | .leaves _ h below, .leaves _ h' below' => by
    cases h.unique h'
    rw [Except.ok.inj (below.unique below')]

/-- The steps leave no choice in several visits. -/
theorem VisitsAll.unique {walk : Walk} {ids : List String} {outcome other : Except String Walk} :
    VisitsAll table walk ids outcome → VisitsAll table walk ids other → outcome = other
  | .done _, .done _ => rfl
  | .stops h, .stops h' => by rw [Except.error.inj (h.unique h')]
  | .stops h, .goesOn h' _ => absurd (h.unique h') (by simp)
  | .goesOn h _, .stops h' => absurd (h.unique h') (by simp)
  | .goesOn h more, .goesOn h' more' => by
    cases h.unique h'
    exact more.unique more'

end

/-! ## What a visit finds -/

mutual

/-- **A visit that ends at an unknown id** has come to it along needs. -/
theorem Visits.of_error {walk : Walk} {id missing : String} {outcome : Except String Walk} :
    Visits table walk id outcome → outcome = .error missing →
      Reaches table id missing ∧ missing ∉ table.map Milestone.id
  | .again _, h | .leaves _ _ _, h => absurd h (by simp)
  | .unknown _ hunknown, h => by
    rw [← Except.error.inj h]
    exact ⟨.refl, hunknown⟩
  | .fails _ hdecides hbelow, h => by
    obtain ⟨required, hrequired, hreaches, hmissing⟩ := hbelow.of_error h
    exact ⟨.head ⟨_, hdecides, hrequired⟩ hreaches, hmissing⟩

/-- Visits that end at an unknown id have come to it along the needs of one of the ids. -/
theorem VisitsAll.of_error {walk : Walk} {ids : List String} {missing : String}
    {outcome : Except String Walk} :
    VisitsAll table walk ids outcome → outcome = .error missing →
      ∃ id ∈ ids, Reaches table id missing ∧ missing ∉ table.map Milestone.id
  | .done _, h => absurd h (by simp)
  | .stops hfirst, h => ⟨_, List.mem_cons_self, hfirst.of_error h⟩
  | .goesOn _ hlater, h =>
    let ⟨id, hid, hmissing⟩ := hlater.of_error h
    ⟨id, List.mem_cons_of_mem _ hid, hmissing⟩

end

mutual

/-- **What a visit leaves of a walk**: it stays orderly, and only adds to what was met and left. -/
theorem Visits.orderly {walk after : Walk} {id : String} {outcome : Except String Walk} :
    Visits table walk id outcome → outcome = .ok after → walk.Orderly table →
      after.Orderly table ∧ walk.Extends after
  | .unknown _ _, h, _ | .fails _ _ _, h, _ => absurd h (by simp)
  | .again _, h, hwalk => by
    rw [← Except.ok.inj h]
    exact ⟨hwalk, .refl walk⟩
  | .leaves hnew hdecides hbelow, h, hwalk => by
    obtain ⟨hfound, hextends⟩ := hbelow.orderly rfl (hwalk.opened hdecides.known hnew)
    rw [← Except.ok.inj h]
    refine ⟨hfound.closed ?_, .of_opened_closed hwalk.left_met hnew hextends⟩
    rw [hextends.same_open, Walk.open_opened_iff hwalk.left_met hnew]
    exact .inl rfl

/-- What several visits leave of a walk. -/
theorem VisitsAll.orderly {walk after : Walk} {ids : List String} {outcome : Except String Walk} :
    VisitsAll table walk ids outcome → outcome = .ok after → walk.Orderly table →
      after.Orderly table ∧ walk.Extends after
  | .stops _, h, _ => absurd h (by simp)
  | .done _, h, hwalk => by
    rw [← Except.ok.inj h]
    exact ⟨hwalk, .refl walk⟩
  | .goesOn hfirst hlater, h, hwalk => by
    obtain ⟨hmiddle, hextends⟩ := hfirst.orderly rfl hwalk
    obtain ⟨hafter, hfurther⟩ := hlater.orderly h hmiddle
    exact ⟨hafter, hextends.trans hfurther⟩

end

mutual

/-- **What a visit meets**: the id itself, and besides only what was met before, or what the id
reaches, with all that this needs. -/
theorem Visits.met {walk after : Walk} {id : String} {outcome : Except String Walk} :
    Visits table walk id outcome → outcome = .ok after → walk.Orderly table →
      id ∈ after.met ∧ ∀ other ∈ after.met, other ∈ walk.met
        ∨ Reaches table id other ∧ requirements table other ⊆ after.met
  | .unknown _ _, h, _ | .fails _ _ _, h, _ => absurd h (by simp)
  | .again hmet, h, _ => by
    rw [← Except.ok.inj h]
    exact ⟨hmet, fun other hother => .inl hother⟩
  | .leaves hnew hdecides hbelow, h, hwalk => by
    have hopened := hwalk.opened hdecides.known hnew
    obtain ⟨-, hextends⟩ := hbelow.orderly rfl hopened
    obtain ⟨hrequires, hmet⟩ := hbelow.met rfl hopened
    rw [← Except.ok.inj h]
    refine ⟨hextends.met List.mem_cons_self, fun other hother => ?_⟩
    rcases hmet other hother with hbefore | ⟨⟨required, hrequired, hreaches⟩, hclosed⟩
    · rcases List.mem_cons.1 hbefore with rfl | hold
      · refine .inr ⟨.refl, ?_⟩
        rwa [requirements_of_decides hdecides]
      · exact .inl hold
    · exact .inr ⟨.head ⟨_, hdecides, hrequired⟩ hreaches, hclosed⟩

/-- What several visits meet. -/
theorem VisitsAll.met {walk after : Walk} {ids : List String} {outcome : Except String Walk} :
    VisitsAll table walk ids outcome → outcome = .ok after → walk.Orderly table →
      ids ⊆ after.met ∧ ∀ other ∈ after.met, other ∈ walk.met
        ∨ (∃ id ∈ ids, Reaches table id other) ∧ requirements table other ⊆ after.met
  | .stops _, h, _ => absurd h (by simp)
  | .done _, h, _ => by
    rw [← Except.ok.inj h]
    exact ⟨List.nil_subset _, fun other hother => .inl hother⟩
  | .goesOn hfirst hlater, h, hwalk => by
    obtain ⟨hid, hfound⟩ := hfirst.met rfl hwalk
    obtain ⟨hmiddle, -⟩ := hfirst.orderly rfl hwalk
    obtain ⟨-, hfurther⟩ := hlater.orderly h hmiddle
    obtain ⟨hrest, hmore⟩ := hlater.met h hmiddle
    refine ⟨List.cons_subset.2 ⟨hfurther.met hid, hrest⟩, fun other hother => ?_⟩
    rcases hmore other hother with hmet | ⟨⟨id, hmem, hreaches⟩, hclosed⟩
    · rcases hfound other hmet with hold | ⟨hreaches, hclosed⟩
      · exact .inl hold
      · exact .inr ⟨⟨_, List.mem_cons_self, hreaches⟩, List.Subset.trans hclosed hfurther.met⟩
    · exact .inr ⟨⟨id, List.mem_cons_of_mem _ hmem, hreaches⟩, hclosed⟩

end

mutual

/-- **In which order a visit leaves ids**, where no id that is reached goes round in a circle and
all that is open needs the id: what an id requires is left before it, and the id itself is left. -/
theorem Visits.inOrder {walk after : Walk} {id : String} {outcome : Except String Walk} :
    Visits table walk id outcome → outcome = .ok after → walk.Orderly table →
      InOrder table walk.left →
      (∀ other, walk.Open other → Relation.TransGen (Needs table) other id) →
      (∀ other, Reaches table id other → ¬ Circles table other) →
      InOrder table after.left ∧ id ∈ after.left
  | .unknown _ _, h, _, _, _, _ | .fails _ _ _, h, _, _, _, _ => absurd h (by simp)
  | .again hmet, h, _, horder, hopen, hacyclic => by
    rw [← Except.ok.inj h]
    refine ⟨horder, ?_⟩
    -- if the id were open, it would need itself
    by_contra hleft
    exact hacyclic _ .refl (hopen _ ⟨hmet, hleft⟩)
  | .leaves hnew hdecides hbelow, h, hwalk, horder, hopen, hacyclic => by
    have habove : ∀ required ∈ requirements table id, ∀ other, (walk.opened id).Open other →
        Relation.TransGen (Needs table) other required := by
      intro required hrequired other hother
      rw [Walk.open_opened_iff hwalk.left_met hnew] at hother
      rcases hother with rfl | hother
      · exact .single (needs_iff.2 hrequired)
      · exact (hopen other hother).tail (needs_iff.2 hrequired)
    have hfurther : ∀ required ∈ requirements table id, ∀ other, Reaches table required other →
        ¬ Circles table other :=
      fun required hrequired other hreaches =>
        hacyclic other (.head (needs_iff.2 hrequired) hreaches)
    rw [requirements_of_decides hdecides] at habove hfurther
    obtain ⟨hfound, hrequires⟩ :=
      hbelow.inOrder rfl (hwalk.opened hdecides.known hnew) horder habove hfurther
    rw [← Except.ok.inj h]
    refine ⟨hfound.concat ?_, List.mem_append_right _ (List.mem_singleton_self id)⟩
    rwa [requirements_of_decides hdecides]

/-- In which order several visits leave ids. -/
theorem VisitsAll.inOrder {walk after : Walk} {ids : List String} {outcome : Except String Walk} :
    VisitsAll table walk ids outcome → outcome = .ok after → walk.Orderly table →
      InOrder table walk.left →
      (∀ id ∈ ids, ∀ other, walk.Open other → Relation.TransGen (Needs table) other id) →
      (∀ id ∈ ids, ∀ other, Reaches table id other → ¬ Circles table other) →
      InOrder table after.left ∧ ids ⊆ after.left
  | .stops _, h, _, _, _, _ => absurd h (by simp)
  | .done _, h, _, horder, _, _ => by
    rw [← Except.ok.inj h]
    exact ⟨horder, List.nil_subset _⟩
  | .goesOn hfirst hlater, h, hwalk, horder, hopen, hacyclic => by
    obtain ⟨hopenFirst, hopenRest⟩ := List.forall_mem_cons.1 hopen
    obtain ⟨hacyclicFirst, hacyclicRest⟩ := List.forall_mem_cons.1 hacyclic
    obtain ⟨hmiddle, hextends⟩ := hfirst.orderly rfl hwalk
    obtain ⟨-, hfurther⟩ := hlater.orderly h hmiddle
    obtain ⟨hmiddleOrder, hid⟩ := hfirst.inOrder rfl hwalk horder hopenFirst hacyclicFirst
    -- nothing else is open for the rest than was for the first
    obtain ⟨hafterOrder, hrest⟩ := hlater.inOrder h hmiddle hmiddleOrder
      (fun id hid other hother => hopenRest id hid other ((hextends.same_open other).1 hother))
      hacyclicRest
    exact ⟨hafterOrder, List.cons_subset.2 ⟨hfurther.left hid, hrest⟩⟩

end

/-! ## The visits that are run -/

/-- What a fold of visits comes to, by steps, if each visit does that has room. -/
theorem visitsAll_of_foldlM {depth : Nat}
    (h : ∀ walk : Walk, walk.Orderly table → table.length < depth + walk.met.length →
      ∀ id, Visits table walk id (visit table depth walk id))
    (ids : List String) {walk : Walk} (hwalk : walk.Orderly table)
    (hdepth : table.length < depth + walk.met.length) :
    VisitsAll table walk ids (ids.foldlM (visit table depth) walk) := by
  induction ids generalizing walk with
  | nil => exact .done walk
  | cons id rest ih =>
    have hfirst := h walk hwalk hdepth id
    rw [List.foldlM_cons]
    cases hvisit : visit table depth walk id with
    | error missing =>
      rw [hvisit] at hfirst
      exact .stops hfirst
    | ok middle =>
      rw [hvisit] at hfirst
      obtain ⟨hmiddle, hextends⟩ := hfirst.orderly rfl hwalk
      have hlonger := (hwalk.met_nodup.subperm hextends.met).length_le
      exact .goesOn hfirst (ih hmiddle (by omega))

/-- **The visit that is run comes to what its steps come to**, if it may go deep enough. -/
theorem visits_of_visit {depth : Nat} {walk : Walk} (hwalk : walk.Orderly table)
    (hdepth : table.length < depth + walk.met.length) (id : String) :
    Visits table walk id (visit table depth walk id) := by
  induction depth generalizing walk id with
  | zero =>
    -- the walk would have met more ids than there are
    have hlength := length_le_table hwalk.met_nodup hwalk.met_known
    omega
  | succ depth ih =>
    rw [visit]
    by_cases hmet : id ∈ walk.met
    · rw [if_pos hmet]
      exact .again hmet
    · rw [if_neg hmet]
      cases hfound : withId? table id with
      | none =>
        refine .unknown hmet fun hknown => ?_
        obtain ⟨milestone, hdecides⟩ := exists_decides_iff.2 hknown
        rw [withId?_eq_some_iff.2 hdecides] at hfound
        exact absurd hfound (by simp)
      | some milestone =>
        have hdecides := withId?_eq_some_iff.1 hfound
        have hmore : table.length < depth + (walk.opened id).met.length := by
          rw [Walk.opened, List.length_cons]
          omega
        have hbelow := visitsAll_of_foldlM (fun walk hwalk hdepth id => ih hwalk hdepth id)
          milestone.requires (hwalk.opened hdecides.known hmet) hmore
        rw [Walk.opened] at hbelow
        dsimp only
        cases hfold : milestone.requires.foldlM (visit table depth)
            { walk with met := id :: walk.met } with
        | error missing =>
          rw [hfold] at hbelow
          exact .fails hmet hdecides hbelow
        | ok found =>
          rw [hfold] at hbelow
          exact .leaves hmet hdecides hbelow

/-- **The walk of a whole table** comes to what its steps come to. -/
theorem visits_start (table : List Milestone) (id : String) :
    Visits table .start id (visit table (walkDepth table) .start id) :=
  visits_of_visit (Walk.orderly_start table) (Nat.lt_succ_self table.length) id

/-! ## What has to be achieved -/

/-- **What has to be achieved for an id**: all that it reaches, which is all in the table, each once
and the id last; and each after what it requires, if none of these goes round in a circle. -/
structure IsOrder (table : List Milestone) (id : String) (ids : List String) : Prop where
  nodup : ids.Nodup
  mem_iff : ∀ other, other ∈ ids ↔ Reaches table id other
  known : ids ⊆ table.map Milestone.id
  last : ids.getLast? = some id
  inOrder : (∀ other ∈ ids, ¬ Circles table other) → InOrder table ids

/-- What is reached is met by a walk that is closed under needs. -/
theorem mem_of_reaches {ids : List String} {id other : String} (hid : id ∈ ids)
    (hclosed : ∀ other ∈ ids, requirements table other ⊆ ids) (h : Reaches table id other) :
    other ∈ ids := by
  induction h with
  | refl => exact hid
  | tail _ hneeds ih => exact hclosed _ ih (needs_iff.1 hneeds)

/-- **A walk that does not end at an unknown id** has left what has to be achieved. -/
theorem Visits.isOrder {id : String} {after : Walk} (h : Visits table .start id (.ok after)) :
    IsOrder table id after.left := by
  have hstart := Walk.orderly_start table
  obtain ⟨horderly, hextends⟩ := h.orderly rfl hstart
  obtain ⟨hid, hmet⟩ := h.met rfl hstart
  have hnew : ∀ other ∈ after.met,
      Reaches table id other ∧ requirements table other ⊆ after.met :=
    fun other hother => (hmet other hother).resolve_left List.not_mem_nil
  -- nothing was open at the start, so nothing is
  have hleft : ∀ other, other ∈ after.left ↔ other ∈ after.met := by
    refine fun other => ⟨fun hother => horderly.left_met hother, fun hother => ?_⟩
    by_contra hopen
    exact Walk.not_open_start other ((hextends.same_open other).1 ⟨hother, hopen⟩)
  have hreaches : ∀ other, other ∈ after.left ↔ Reaches table id other := by
    intro other
    rw [hleft]
    exact ⟨fun hother => (hnew other hother).1,
      mem_of_reaches hid fun other hother => (hnew other hother).2⟩
  refine ⟨horderly.left_nodup, hreaches,
    fun other hother => horderly.met_known ((hleft other).1 hother), ?_, fun hacyclic => ?_⟩
  · cases h with
    | again hmet' => exact absurd hmet' List.not_mem_nil
    | leaves _ _ _ => exact List.getLast?_concat
  · refine (h.inOrder rfl hstart inOrder_nil ?_ ?_).1
    · exact fun other hopen => absurd hopen (Walk.not_open_start other)
    · exact fun other hother => hacyclic other ((hreaches other).2 hother)

theorem isOrder_of_order {id : String} {ids : List String} (h : order table id = .ok ids) :
    IsOrder table id ids := by
  obtain ⟨after, hvisit, rfl⟩ := map_eq_ok.1 h
  have hvisits := visits_start table id
  rw [Walk.start, hvisit] at hvisits
  exact hvisits.isOrder

/-- **Where the walk ends**, if it ends early: at an id that is reached, but not in the table. -/
theorem reaches_of_order {id missing : String} (h : order table id = .error missing) :
    Reaches table id missing ∧ missing ∉ table.map Milestone.id := by
  have hvisits := visits_start table id
  rw [Walk.start, map_eq_error.1 h] at hvisits
  exact hvisits.of_error rfl

/-- **What has to be achieved is known** just if all that is reached is in the table. -/
theorem exists_order_iff {id : String} :
    (∃ ids, order table id = .ok ids)
      ↔ ∀ other, Reaches table id other → other ∈ table.map Milestone.id := by
  constructor
  · rintro ⟨ids, hids⟩ other hother
    have horder := isOrder_of_order hids
    exact horder.known ((horder.mem_iff other).2 hother)
  · intro hknown
    cases horder : order table id with
    | ok ids => exact ⟨ids, rfl⟩
    | error missing =>
      obtain ⟨hreaches, hmissing⟩ := reaches_of_order horder
      exact absurd (hknown missing hreaches) hmissing

/-- **What has to be achieved for a milestone of a valid table**: ids of the table, each once and
after all that it requires. -/
theorem inOrder_of_order (hvalid : Valid table) {id : String} {ids : List String}
    (h : order table id = .ok ids) :
    InOrder table ids ∧ ids.Nodup ∧ ids ⊆ table.map Milestone.id := by
  have horder := isOrder_of_order h
  have hacyclic : ∀ other ∈ ids, ¬ Circles table other :=
    fun other hother => (hvalid.grounded other (horder.known hother)).not_circles
  exact ⟨horder.inOrder hacyclic, horder.nodup, horder.known⟩

example :
    order [⟨"c", "ls", none, none, ["b", "a"], [], [], []⟩, ⟨"a", "ls", none, none, [], [], [], []⟩,
      ⟨"b", "ls", none, none, ["a"], [], [], []⟩] "c" = .ok ["a", "b", "c"] := by
  rfl

end Milestone

end StoryShell
