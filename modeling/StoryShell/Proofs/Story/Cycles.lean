/-
What the check of a table accepts: exactly the tables without duplicates, unknown requirements and
cycles.

The search for a cycle goes down the requirements with three things in hand: the ids that it has
entered and not left, those that it knows to be safe, and the path that it came along. As a search
of its own it is described by its steps, without any bound on how deep it goes (`Explores`,
`ExploresAll`). The three stay in step, since an id is put on the path when it is entered and taken
off when it is left; so the path alone stands for two of them, and the search that is run, which has
the path and the safe ids only and is bounded in depth, comes to what the steps come to
(`explores_of_explore`). It follows that the steps always come to an end.

If the search fails then the path, up to the id where it failed, is a chain of requirements that
comes back to itself, and its end from that id on is a cycle (`isCycle_of_explore`). If it does not
fail, every id of the table is grounded, and nothing that is grounded requires itself.
-/
import Mathlib.Data.List.Chain
import StoryShell.Proofs.Story.Prerequisites

set_option autoImplicit false

namespace StoryShell

namespace Milestone

variable {table : List Milestone}

/-! ## Requirements and cycles -/

/-- **An id requires another one** if a milestone with the id lists it. -/
def Requires (table : List Milestone) (id required : String) : Prop :=
  ∃ milestone ∈ table, milestone.id = id ∧ required ∈ milestone.requires

/-- What is looked up as a requirement is one. -/
theorem requires_of_mem_requirements {id required : String}
    (h : required ∈ requirements table id) : Requires table id required := by
  rw [requirements] at h
  cases hfound : withId? table id with
  | none => simp [hfound] at h
  | some milestone =>
    rw [hfound, Option.map_some, Option.getD_some] at h
    obtain ⟨hmem, hid⟩ := of_withId? hfound
    exact ⟨milestone, hmem, hid, h⟩

/-- Where no id is given twice, requirements are looked up. -/
theorem requires_iff (hnodup : (table.map Milestone.id).Nodup) {id required : String} :
    Requires table id required ↔ required ∈ requirements table id := by
  refine ⟨?_, requires_of_mem_requirements⟩
  rintro ⟨milestone, hmem, rfl, hrequired⟩
  rwa [requirements, withId?_of_mem hnodup hmem, Option.map_some, Option.getD_some]

/-- **A cycle of requirements**: a chain in which each id requires the next, and which comes back to
its first id and meets no other one twice. -/
structure IsCycle (table : List Milestone) (chain : List String) : Prop where
  links : chain.IsChain (Requires table)
  closed : ∃ id rest, chain = id :: rest ++ [id] ∧ (id :: rest).Nodup

/-- A chain leads from its first element to its last. -/
theorem transGen_of_isChain {r : String → String → Prop} {first last : String}
    {between : List String} (h : (first :: between ++ [last]).IsChain r) :
    Relation.TransGen r first last := by
  induction between generalizing first with
  | nil => exact .single (List.isChain_pair.1 h)
  | cons next rest ih =>
    obtain ⟨hstep, hrest⟩ := List.isChain_cons_cons.1 h
    exact .head hstep (ih hrest)

/-- The first id of a cycle requires itself, directly or through others. -/
theorem IsCycle.exists_transGen {chain : List String} (h : IsCycle table chain) :
    ∃ id, Relation.TransGen (Requires table) id id := by
  obtain ⟨id, rest, rfl, -⟩ := h.closed
  exact ⟨id, transGen_of_isChain h.links⟩

/-! ## The search as steps -/

/-- **What the search has in hand**: the ids that it has entered and not left, those that it knows
to be safe, and the path that it came along. -/
structure Trail where
  entered : List String
  safe : List String
  path : List String

namespace Trail

/-- The search before its first step. -/
def start : Trail := ⟨[], [], []⟩

/-- Enters an id: it comes to the end of the path. -/
def enter (trail : Trail) (id : String) : Trail :=
  { trail with entered := id :: trail.entered, path := trail.path ++ [id] }

/-- Leaves an id, which is safe now: the end of the path is taken off. -/
def leave (trail : Trail) (id : String) : Trail :=
  ⟨trail.entered.erase id, id :: trail.safe, trail.path.dropLast⟩

/-- The path from an id on, and the id once more. -/
def loop (trail : Trail) (id : String) : List String :=
  trail.path.dropWhile (· ≠ id) ++ [id]

/-- The search that came along a path, with the path and the entered ids in step. -/
def along (path safe : List String) : Trail := ⟨path.reverse, safe, path⟩

theorem enter_along (path safe : List String) (id : String) :
    (along path safe).enter id = along (path ++ [id]) safe := by
  simp [enter, along]

/-- **Leaving an id undoes entering it**, but that the id is safe. -/
theorem leave_along (path safe : List String) (id : String) :
    (along (path ++ [id]) safe).leave id = along path (id :: safe) := by
  simp [leave, along]

end Trail

mutual

/-- **How the search goes on from an id**, by its steps: it gives what it then has in hand, or the
chain with which it fails. -/
inductive Explores (table : List Milestone) :
    Trail → String → Except (List String) Trail → Prop where
  | settled {trail : Trail} {id : String} (safe : id ∈ trail.safe) :
    Explores table trail id (.ok trail)
  | closes {trail : Trail} {id : String} (unsettled : id ∉ trail.safe)
    (open' : id ∈ trail.entered) : Explores table trail id (.error (trail.loop id))
  | fails {trail : Trail} {id : String} {chain : List String} (unsettled : id ∉ trail.safe)
    (new : id ∉ trail.entered)
    (below : ExploresAll table (trail.enter id) (requirements table id) (.error chain)) :
    Explores table trail id (.error chain)
  | leaves {trail after : Trail} {id : String} (unsettled : id ∉ trail.safe)
    (new : id ∉ trail.entered)
    (below : ExploresAll table (trail.enter id) (requirements table id) (.ok after)) :
    Explores table trail id (.ok (after.leave id))

/-- How the search goes on from several ids, one after the other until it fails. -/
inductive ExploresAll (table : List Milestone) :
    Trail → List String → Except (List String) Trail → Prop where
  | done (trail : Trail) : ExploresAll table trail [] (.ok trail)
  | stops {trail : Trail} {id : String} {rest chain : List String}
    (first : Explores table trail id (.error chain)) :
    ExploresAll table trail (id :: rest) (.error chain)
  | goesOn {trail middle : Trail} {id : String} {rest : List String}
    {outcome : Except (List String) Trail} (first : Explores table trail id (.ok middle))
    (later : ExploresAll table middle rest outcome) :
    ExploresAll table trail (id :: rest) outcome

end

mutual

/-- **The steps leave no choice** from an id. -/
theorem Explores.unique {trail : Trail} {id : String} {outcome other : Except (List String) Trail} :
    Explores table trail id outcome → Explores table trail id other → outcome = other
  | .settled _, .settled _ => rfl
  | .settled h, .closes h' _ | .settled h, .fails h' _ _ | .settled h, .leaves h' _ _ => absurd h h'
  | .closes h _, .settled h' | .fails h _ _, .settled h' | .leaves h _ _, .settled h' => absurd h' h
  | .closes _ _, .closes _ _ => rfl
  | .closes _ h, .fails _ h' _ | .closes _ h, .leaves _ h' _ => absurd h h'
  | .fails _ h _, .closes _ h' | .leaves _ h _, .closes _ h' => absurd h' h
  | .fails _ _ h, .fails _ _ h' => h.unique h'
  | .fails _ _ h, .leaves _ _ h' => absurd (h.unique h') (by simp)
  | .leaves _ _ h, .fails _ _ h' => absurd (h.unique h') (by simp)
  | .leaves _ _ h, .leaves _ _ h' => by rw [Except.ok.inj (h.unique h')]

/-- The steps leave no choice from several ids. -/
theorem ExploresAll.unique {trail : Trail} {ids : List String}
    {outcome other : Except (List String) Trail} :
    ExploresAll table trail ids outcome → ExploresAll table trail ids other → outcome = other
  | .done _, .done _ => rfl
  | .stops h, .stops h' => h.unique h'
  | .stops h, .goesOn h' _ => absurd (h.unique h') (by simp)
  | .goesOn h _, .stops h' => absurd (h.unique h') (by simp)
  | .goesOn h more, .goesOn h' more' => by
    cases h.unique h'
    exact more.unique more'

end

/-! ## The search that is run -/

/-- A path without repetitions has none when it goes on to a new id. -/
theorem nodup_append_singleton {path : List String} {id : String} (hnodup : path.Nodup)
    (hnew : id ∉ path) : (path ++ [id]).Nodup := by
  rw [← List.concat_eq_append]
  exact hnodup.concat hnew

/-- What a fold of explorations comes to, by steps. -/
theorem exploresAll_of_foldlM {path : List String}
    {explore : List String → String → Except (List String) (List String)} {ids : List String}
    (h : ∀ id ∈ ids, ∀ safe,
      Explores table (.along path safe) id ((explore safe id).map (Trail.along path)))
    (safe : List String) :
    ExploresAll table (.along path safe) ids
      ((ids.foldlM explore safe).map (Trail.along path)) := by
  induction ids generalizing safe with
  | nil => exact .done _
  | cons id rest ih =>
    obtain ⟨hid, hrest⟩ := List.forall_mem_cons.1 h
    have hfirst := hid safe
    rw [List.foldlM_cons]
    cases hexplore : explore safe id with
    | error chain =>
      rw [hexplore] at hfirst
      exact .stops hfirst
    | ok middle =>
      rw [hexplore] at hfirst
      exact .goesOn hfirst (ih hrest middle)

/-- **The search that is run comes to what its steps come to**, if it may go deep enough. -/
theorem explores_of_explore {depth : Nat} {path : List String} (hnodup : path.Nodup)
    (hknown : path ⊆ table.map Milestone.id) (hdepth : table.length < depth + path.length)
    (safe : List String) (id : String) :
    Explores table (.along path safe) id
      ((explore table depth path safe id).map (Trail.along path)) := by
  induction depth generalizing path safe id with
  | zero =>
    -- the path would be longer than there are ids
    have hlength := length_le_table hnodup hknown
    omega
  | succ depth ih =>
    rw [explore]
    by_cases hsafe : id ∈ safe
    · rw [if_pos hsafe]
      exact .settled hsafe
    · rw [if_neg hsafe]
      by_cases hpath : id ∈ path
      · rw [if_pos hpath]
        exact .closes hsafe (List.mem_reverse.2 hpath)
      · rw [if_neg hpath]
        have hnew : id ∉ (Trail.along path safe).entered := mt List.mem_reverse.1 hpath
        have hlonger := nodup_append_singleton hnodup hpath
        have hmore : table.length < depth + (path ++ [id]).length := by
          rw [List.length_append, List.length_singleton]
          omega
        have hsteps : ∀ item ∈ requirements table id, ∀ safe,
            Explores table (.along (path ++ [id]) safe) item
              ((explore table depth (path ++ [id]) safe item).map
                (Trail.along (path ++ [id]))) := by
          intro item hitem safe
          refine ih hlonger (fun other hother => ?_) hmore safe item
          rcases List.mem_append.1 hother with hother | hother
          · exact hknown hother
          · rw [List.mem_singleton.1 hother]
            exact mem_of_requirements hitem
        have hbelow := exploresAll_of_foldlM hsteps safe
        rw [← Trail.enter_along] at hbelow
        cases hfold : (requirements table id).foldlM (explore table depth (path ++ [id])) safe with
        | error chain =>
          rw [hfold] at hbelow
          exact .fails hsafe hnew hbelow
        | ok found =>
          rw [hfold] at hbelow
          have hleaves := Explores.leaves hsafe hnew hbelow
          rwa [Trail.leave_along] at hleaves

/-- **The search through a whole table** comes to what its steps come to. -/
theorem exploresAll_table (table : List Milestone) :
    ExploresAll table .start (table.map Milestone.id)
      (((table.map Milestone.id).foldlM (explore table (walkDepth table) []) []).map
        (Trail.along [])) := by
  have hdepth : table.length < walkDepth table + ([] : List String).length :=
    Nat.lt_succ_self table.length
  exact exploresAll_of_foldlM
    (fun id _ safe => explores_of_explore List.nodup_nil (List.nil_subset _) hdepth safe id) []

/-! ## What a failure says -/

/-- A path without repetitions, from one of its ids on. -/
theorem dropWhile_eq {before after : List String} {id : String}
    (h : (before ++ id :: after).Nodup) :
    (before ++ id :: after).dropWhile (· ≠ id) = id :: after := by
  have hbefore : ∀ other ∈ before, decide (other ≠ id) = true := by
    intro other hother
    rw [decide_eq_true_eq]
    rintro rfl
    exact List.disjoint_of_nodup_append h hother List.mem_cons_self
  rw [List.dropWhile_append_of_pos hbefore, List.dropWhile_cons_of_neg (by simp)]

/-- **A search that fails along a chain of requirements** fails with a cycle. -/
theorem isCycle_of_explore {depth : Nat} {path safe chain : List String} {id : String}
    (hnodup : path.Nodup) (hlinks : (path ++ [id]).IsChain (Requires table))
    (h : explore table depth path safe id = .error chain) : IsCycle table chain := by
  induction depth generalizing path safe id with
  | zero => exact absurd h (by simp [explore])
  | succ depth ih =>
    rw [explore] at h
    split at h
    · exact absurd h (by simp)
    · split at h
      · rename_i hpath
        -- the path runs through the id, and from there on it is the cycle
        obtain ⟨before, after, rfl⟩ := List.append_of_mem hpath
        rw [dropWhile_eq hnodup] at h
        rw [← Except.error.inj h]
        refine ⟨?_, id, after, rfl, hnodup.of_append_right⟩
        rw [List.append_assoc] at hlinks
        exact hlinks.right_of_append
      · rename_i hpath
        cases hfold : (requirements table id).foldlM (explore table depth (path ++ [id])) safe with
        | ok found => simp [hfold] at h
        | error found =>
          have hchain : found = chain := by simpa [hfold] using h
          obtain ⟨item, hitem, state, hfails⟩ := foldlM_error hfold
          have hlonger := nodup_append_singleton hnodup hpath
          have hfurther : (path ++ [id] ++ [item]).IsChain (Requires table) := by
            rw [List.append_assoc, List.singleton_append, List.isChain_append_cons_cons]
            exact ⟨hlinks, requires_of_mem_requirements hitem, .singleton item⟩
          rw [hchain] at hfails
          exact ih hlonger hfurther hfails

/-- **What is given as a cycle is one.** -/
theorem isCycle_of_cycle? {chain : List String} (h : cycle? table = some chain) :
    IsCycle table chain := by
  rw [cycle?] at h
  cases hfold : (table.map Milestone.id).foldlM (explore table (walkDepth table) []) [] with
  | ok safe => simp [hfold] at h
  | error found =>
    have hchain : found = chain := by simpa [hfold] using h
    obtain ⟨id, -, safe, hfails⟩ := foldlM_error hfold
    rw [← hchain]
    exact isCycle_of_explore List.nodup_nil (.singleton id) hfails

-- The first id that is safe leads nowhere, and the next leads into the cycle without being on it.
example :
    cycle? [⟨"a", "ls", none, none, [], [], [], []⟩,
      ⟨"b", "ls", none, none, ["a", "c"], [], [], []⟩,
      ⟨"c", "ls", none, none, ["a", "a", "d"], [], [], []⟩,
      ⟨"d", "ls", none, none, ["c"], [], [], []⟩] = some ["c", "d", "c"] := by
  rfl

/-- Where no id is given twice, **a cycle is found exactly if there is one**. -/
theorem cycle?_eq_none_iff (hnodup : (table.map Milestone.id).Nodup) :
    cycle? table = none ↔ ∀ id, ¬ Relation.TransGen (Requires table) id id := by
  have hleads : Relation.TransGen (Requires table) = LeadsTo table := by
    have hsame : Requires table = fun id required => required ∈ requirements table id := by
      funext id required
      exact propext (requires_iff hnodup)
    rw [LeadsTo, hsame]
  refine ⟨fun h id hcircle => ?_, fun h => ?_⟩
  · rw [hleads] at hcircle
    -- what requires something is in the table
    obtain ⟨required, hrequired, -⟩ := Relation.TransGen.head'_iff.1 hcircle
    exact (grounded_of_cycle?_eq_none h (mem_of_requirements hrequired)).not_leadsTo hcircle
  · cases hcycle : cycle? table with
    | none => rfl
    | some chain =>
      obtain ⟨id, hcircle⟩ := (isCycle_of_cycle? hcycle).exists_transGen
      exact absurd hcircle (h id)

/-! ## The check of a table -/

/-- An id is found a second time exactly if one is given twice or was seen before. -/
theorem duplicateId?_eq_none_iff {seen : List String} {table : List Milestone} :
    duplicateId? seen table = none ↔
      (table.map Milestone.id).Nodup ∧ ∀ id ∈ seen, id ∉ table.map Milestone.id := by
  refine ⟨nodup_of_duplicateId?_eq_none, ?_⟩
  rintro ⟨hnodup, hseen⟩
  induction table generalizing seen with
  | nil => rfl
  | cons milestone rest ih =>
    rw [List.map_cons, List.nodup_cons] at hnodup
    have hnew : milestone.id ∉ seen := fun hmem => hseen _ hmem List.mem_cons_self
    rw [duplicateId?, if_neg hnew]
    refine ih hnodup.2 fun id hid hmem => ?_
    rcases List.mem_cons.1 hid with rfl | hid
    · exact hnodup.1 hmem
    · exact hseen id hid (List.mem_cons_of_mem _ hmem)

/-- No requirement is unknown exactly if all are in the table. -/
theorem unknownPrerequisite?_eq_none_iff :
    unknownPrerequisite? table = none ↔
      ∀ milestone ∈ table, ∀ required ∈ milestone.requires, required ∈ table.map Milestone.id := by
  simp only [unknownPrerequisite?, List.findSome?_eq_none_iff, Option.map_eq_none_iff,
    List.find?_eq_none, Bool.not_eq_true', Bool.not_eq_false, List.any_eq_true, decide_eq_true_eq,
    List.mem_map]

/-- A table without duplicates and unknown requirements is checked for cycles only. -/
theorem validate_of_known (hnodup : (table.map Milestone.id).Nodup)
    (hknown : ∀ milestone ∈ table, ∀ required ∈ milestone.requires,
      required ∈ table.map Milestone.id) :
    validate table = (cycle? table).elim (.ok ()) fun chain => .error (.circular chain) := by
  rw [validate, duplicateId?_eq_none_iff.2 ⟨hnodup, by simp⟩,
    unknownPrerequisite?_eq_none_iff.2 hknown]
  cases cycle? table with
  | none => rfl
  | some chain => rfl

/-- **A table passes the check** exactly if no id is given twice, all requirements are known, and
none leads back to itself. -/
theorem validate_eq_ok_iff :
    validate table = .ok () ↔
      (table.map Milestone.id).Nodup
        ∧ (∀ milestone ∈ table, ∀ required ∈ milestone.requires,
            required ∈ table.map Milestone.id)
        ∧ ∀ id, ¬ Relation.TransGen (Requires table) id id := by
  constructor
  · intro h
    have hvalid := valid_of_validate h
    refine ⟨hvalid.nodup, hvalid.known, (cycle?_eq_none_iff hvalid.nodup).1 ?_⟩
    rw [validate_of_known hvalid.nodup hvalid.known] at h
    cases hcycle : cycle? table with
    | none => rfl
    | some chain => simp [hcycle] at h
  · rintro ⟨hnodup, hknown, hacyclic⟩
    rw [validate_of_known hnodup hknown, (cycle?_eq_none_iff hnodup).2 hacyclic, Option.elim_none]

/-- What the search of a table comes to, as the outcome of its check. -/
theorem validate_eq_search (hnodup : (table.map Milestone.id).Nodup)
    (hknown : ∀ milestone ∈ table, ∀ required ∈ milestone.requires,
      required ∈ table.map Milestone.id) :
    validate table = (((table.map Milestone.id).foldlM (explore table (walkDepth table) []) []).map
      fun _ => ()).mapError .circular := by
  rw [validate_of_known hnodup hknown, cycle?]
  cases (table.map Milestone.id).foldlM (explore table (walkDepth table) []) [] with
  | ok safe => rfl
  | error chain => rfl

/-- **The check of a table is exact.** A table passes exactly if no id is given twice, all
requirements are in the table and none leads back to itself. The search for a cycle, by its steps
and with no bound on its depth, comes to an end, to one end only, and that is what the check gives;
and if there is a cycle, the check fails with one and says it in its message. -/
theorem validate_exact (table : List Milestone) :
    (validate table = .ok () ↔
      (table.map Milestone.id).Nodup
        ∧ (∀ milestone ∈ table, ∀ required ∈ milestone.requires,
            required ∈ table.map Milestone.id)
        ∧ ∀ id, ¬ Relation.TransGen (Requires table) id id)
      ∧ ((table.map Milestone.id).Nodup →
        (∀ milestone ∈ table, ∀ required ∈ milestone.requires,
          required ∈ table.map Milestone.id) →
        (∃ outcome, ExploresAll table .start (table.map Milestone.id) outcome
          ∧ (∀ other, ExploresAll table .start (table.map Milestone.id) other → other = outcome)
          ∧ validate table = (outcome.map fun _ => ()).mapError .circular)
        ∧ ((∃ id, Relation.TransGen (Requires table) id id) →
          ∃ chain, validate table = .error (.circular chain) ∧ IsCycle table chain
            ∧ (LoadError.circular chain).message
              = "Circular milestone dependency detected: "
                ++ String.intercalate " -> " chain)) := by
  refine ⟨validate_eq_ok_iff, fun hnodup hknown => ⟨?_, ?_⟩⟩
  · have hsearch := exploresAll_table table
    refine ⟨_, hsearch, fun other hother => hother.unique hsearch, ?_⟩
    rw [validate_eq_search hnodup hknown]
    cases (table.map Milestone.id).foldlM (explore table (walkDepth table) []) [] with
    | ok safe => rfl
    | error chain => rfl
  · rintro ⟨id, hcircle⟩
    cases hcycle : cycle? table with
    | none => exact absurd hcircle ((cycle?_eq_none_iff hnodup).1 hcycle id)
    | some chain =>
      refine ⟨chain, ?_, isCycle_of_cycle? hcycle, rfl⟩
      rw [validate_of_known hnodup hknown, hcycle, Option.elim_some]

end Milestone

end StoryShell
