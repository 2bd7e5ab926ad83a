/-
Tables without cycles, and what makes a table valid.

The search for a cycle goes through the requirements of an id before it is done with the id itself,
so what it is done with is always safe to build on. It adds an id to the safe ones only after
everything that it requires, and so, if it finds no cycle, every id of the table is **grounded**:
going down its requirements comes to an end (`grounded_of_cycle?_eq_none`). A table that passes the
check is valid (`valid_of_validate`), so nothing in it requires itself.

A walk that is cut off at its depth would miss something. It never is, because the ids above an id
are all different and all in the table, and the depth is one more than there are of those.
-/
import Mathlib.Data.List.Nodup
import Mathlib.Data.List.Perm.Subperm
import Mathlib.Logic.Relation
import StoryShell.Proofs.Outcome
import StoryShell.World.Decode

set_option autoImplicit false

namespace StoryShell

namespace Milestone

variable {table : List Milestone}

/-! ## Looking up -/

/-- What is found under an id is in the table and has this id. -/
theorem of_withId? {id : String} {milestone : Milestone} (h : withId? table id = some milestone) :
    milestone ∈ table ∧ milestone.id = id := by
  rw [withId?] at h
  exact ⟨List.mem_reverse.1 (List.mem_of_find?_eq_some h), by simpa using List.find?_some h⟩

/-- An id of the table is found. -/
theorem withId?_isSome {milestone : Milestone} (h : milestone ∈ table) :
    ∃ found, withId? table milestone.id = some found := by
  rw [← Option.isSome_iff_exists, withId?, List.find?_isSome]
  exact ⟨milestone, List.mem_reverse.2 h, by simp⟩

/-- **Where no id is given twice, a milestone is found under its own.** -/
theorem withId?_of_mem (hnodup : (table.map Milestone.id).Nodup) {milestone : Milestone}
    (h : milestone ∈ table) : withId? table milestone.id = some milestone := by
  obtain ⟨found, hfound⟩ := withId?_isSome h
  obtain ⟨hmem, hid⟩ := of_withId? hfound
  rw [hfound, List.inj_on_of_nodup_map hnodup hmem h hid]

/-- What requires something is in the table. -/
theorem mem_of_requirements {id required : String} (h : required ∈ requirements table id) :
    id ∈ table.map Milestone.id := by
  rw [requirements] at h
  cases hfound : withId? table id with
  | none => simp [hfound] at h
  | some milestone =>
    obtain ⟨hmem, hid⟩ := of_withId? hfound
    exact List.mem_map.2 ⟨milestone, hmem, hid⟩

/-- Different ids of a table are at most as many as the table is long. -/
theorem length_le_table {ids : List String} (hnodup : ids.Nodup)
    (hknown : ids ⊆ table.map Milestone.id) : ids.length ≤ table.length := by
  have hlength := (hnodup.subperm hknown).length_le
  rwa [List.length_map] at hlength

/-! ## No cycles -/

/-- **An id is grounded** if going down its requirements comes to an end. -/
def Grounded (table : List Milestone) (id : String) : Prop :=
  Acc (fun required id => required ∈ requirements table id) id

/-- An id leads to another one that it requires, directly or through others. -/
def LeadsTo (table : List Milestone) : String → String → Prop :=
  Relation.TransGen fun id required => required ∈ requirements table id

/-- Nothing that is grounded requires itself. -/
theorem Grounded.not_leadsTo {id : String} (h : Grounded table id) : ¬ LeadsTo table id id := by
  induction h with
  | intro id _ ih =>
    intro hcircle
    -- a circle through the id is one through the first of its requirements on the way
    obtain ⟨required, hrequired, hback⟩ := Relation.TransGen.head'_iff.1 hcircle
    exact ih required hrequired (Relation.TransGen.tail' hback hrequired)

/-- **What the search for a cycle comes to** when it finds none: the ids known to be safe are
grounded, and the one explored is among them. -/
theorem explore_ok {depth : Nat} {path safe after : List String} {id : String}
    (hnodup : path.Nodup) (hknown : path ⊆ table.map Milestone.id)
    (hdepth : table.length < depth + path.length) (hsafe : ∀ other ∈ safe, Grounded table other)
    (h : explore table depth path safe id = .ok after) :
    (∀ other ∈ after, Grounded table other) ∧ id ∈ after ∧ safe ⊆ after := by
  induction depth generalizing path safe after id with
  | zero =>
    -- the path would be longer than there are ids
    have hlength := length_le_table hnodup hknown
    omega
  | succ depth ih =>
    rw [explore] at h
    split at h
    · rename_i hid
      rw [← Except.ok.inj h]
      exact ⟨hsafe, hid, List.Subset.refl safe⟩
    · split at h
      · exact absurd h (by simp)
      · rename_i hpath
        cases hfold : (requirements table id).foldlM (explore table depth (path ++ [id])) safe with
        | error chain => simp [hfold] at h
        | ok found =>
          have hafter : id :: found = after := by simpa [hfold] using h
          have hlonger : (path ++ [id]).Nodup := by
            rw [List.nodup_append_comm]
            exact List.nodup_cons.2 ⟨hpath, hnodup⟩
          obtain ⟨hground, hall, hkept⟩ := foldlM_ok
            (fun safe => ∀ other ∈ safe, Grounded table other)
            (fun item safe => item ∈ safe)
            (fun {item state after} hitem hstate hstep => by
              have hroom : path ++ [id] ⊆ table.map Milestone.id := by
                intro other hother
                rcases List.mem_append.1 hother with hother | hother
                · exact hknown hother
                · rw [List.mem_singleton.1 hother]
                  exact mem_of_requirements hitem
              have hmore : table.length < depth + (path ++ [id]).length := by
                rw [List.length_append, List.length_singleton]
                omega
              obtain ⟨hground, hmem, hsub⟩ := ih hlonger hroom hmore hstate hstep
              exact ⟨hground, hmem, fun other hother => hsub hother⟩)
            hsafe hfold
          rw [← hafter]
          refine ⟨?_, List.mem_cons_self, fun other hother =>
            List.mem_cons_of_mem _ (hkept other hother)⟩
          intro other hother
          rcases List.mem_cons.1 hother with rfl | hother
          · exact Acc.intro _ fun required hrequired => hground _ (hall required hrequired)
          · exact hground other hother

/-- **A table without a cycle is grounded.** -/
theorem grounded_of_cycle?_eq_none (h : cycle? table = none) {id : String}
    (hid : id ∈ table.map Milestone.id) : Grounded table id := by
  rw [cycle?] at h
  cases hfold : (table.map Milestone.id).foldlM (explore table (walkDepth table) []) [] with
  | error chain => simp [hfold] at h
  | ok safe =>
    obtain ⟨hground, hall, -⟩ := foldlM_ok
      (fun safe => ∀ other ∈ safe, Grounded table other)
      (fun item safe => item ∈ safe)
      (fun {item state after} _ hstate hstep => by
        have hdepth : table.length < walkDepth table + ([] : List String).length := by
          rw [walkDepth]
          exact Nat.lt_succ_self _
        obtain ⟨hground, hmem, hsub⟩ :=
          explore_ok List.nodup_nil (List.nil_subset _) hdepth hstate hstep
        exact ⟨hground, hmem, fun other hother => hsub hother⟩)
      (by simp) hfold
    exact hground id (hall id hid)

/-! ## Valid tables -/

/-- **A valid table**: no id is given twice, what is required is in the table, and no id requires
itself, directly or through others. -/
structure Valid (table : List Milestone) : Prop where
  nodup : (table.map Milestone.id).Nodup
  known : ∀ milestone ∈ table, ∀ required ∈ milestone.requires, required ∈ table.map Milestone.id
  grounded : ∀ id ∈ table.map Milestone.id, Grounded table id

/-- Where no id is found a second time, none is given twice, nor is one that was seen before. -/
theorem nodup_of_duplicateId?_eq_none {seen : List String} {table : List Milestone}
    (h : duplicateId? seen table = none) :
    (table.map Milestone.id).Nodup ∧ ∀ id ∈ seen, id ∉ table.map Milestone.id := by
  induction table generalizing seen with
  | nil => simp
  | cons milestone rest ih =>
    rw [duplicateId?] at h
    by_cases hseen : milestone.id ∈ seen
    · rw [if_pos hseen] at h
      exact absurd h (by simp)
    · rw [if_neg hseen] at h
      obtain ⟨hnodup, hdisjoint⟩ := ih h
      rw [List.map_cons, List.nodup_cons]
      refine ⟨⟨hdisjoint _ List.mem_cons_self, hnodup⟩, fun id hid hmem => ?_⟩
      rcases List.mem_cons.1 hmem with rfl | hmem
      · exact hseen hid
      · exact hdisjoint id (List.mem_cons_of_mem _ hid) hmem

/-- **A table that passes the check is valid.** -/
theorem valid_of_validate (h : validate table = .ok ()) : Valid table := by
  rw [validate] at h
  -- each of the three checks has found nothing
  split at h
  · exact absurd h (by simp)
  · rename_i hduplicate
    split at h
    · exact absurd h (by simp)
    · rename_i hunknown
      split at h
      · exact absurd h (by simp)
      · rename_i hcycle
        refine ⟨(nodup_of_duplicateId?_eq_none hduplicate).1, ?_,
          fun id hid => grounded_of_cycle?_eq_none hcycle hid⟩
        intro milestone hmem required hrequired
        have hnone := List.findSome?_eq_none_iff.1 hunknown milestone hmem
        rw [Option.map_eq_none_iff, List.find?_eq_none] at hnone
        have hany := hnone required hrequired
        simp only [Bool.not_eq_true', Bool.not_eq_false, List.any_eq_true,
          decide_eq_true_eq] at hany
        exact List.mem_map.2 hany

/-- In a valid table a milestone's requirements are those of its id. -/
theorem Valid.requirements_eq (hvalid : Valid table) {milestone : Milestone}
    (h : milestone ∈ table) : requirements table milestone.id = milestone.requires := by
  rw [requirements, withId?_of_mem hvalid.nodup h, Option.map_some, Option.getD_some]

/-- What is required in a valid table is in it. -/
theorem Valid.known_of_requirements (hvalid : Valid table) {id required : String}
    (h : required ∈ requirements table id) : required ∈ table.map Milestone.id := by
  obtain ⟨milestone, hmem, rfl⟩ := List.mem_map.1 (mem_of_requirements h)
  rw [hvalid.requirements_eq hmem] at h
  exact hvalid.known milestone hmem required h

end Milestone

end StoryShell
