/-
What milestones do to the gate.

Reaching a milestone allows what it unlocks and lifts the blocks that it says, each text brought to
its normal form and blank ones left out (`Gate.entriesOf`). Milestones only add to what is allowed
and only take from what is blocked, and no milestone takes back what another one did. So it does not
matter in which order they were reached: the gate is told by the gate at the start and the
milestones that are achieved (`Progress.Fits`), and every advance keeps this up (`Fits.advances`).
-/
import StoryShell.Proofs.Gate.Edits
import StoryShell.Proofs.Story.Advances

set_option autoImplicit false

namespace StoryShell

/-- **The gate that a milestone opens**: first for what it unlocks, then for what it unblocks. -/
def Gate.opened (gate : Gate) (milestone : Milestone) : Gate :=
  (gate.editAll .allow milestone.unlocks).editAll .unblock milestone.unblocks

namespace Progress

/-- The gate after an edit is the edited gate. -/
theorem gate_edit (progress : Progress) (edit : GateEdit) (text : String) :
    (progress.edit edit text).1.gate = (progress.gate.edit edit text).2 := by
  simp only [Progress.edit]

/-- **The gate after edits** is the edited gate. -/
theorem gate_editAll (edit : GateEdit) (texts : List String) (progress : Progress) :
    (editAll edit texts progress).1.gate = progress.gate.editAll edit texts := by
  induction texts generalizing progress with
  | nil => rfl
  | cons text rest ih =>
    simp only [editAll]
    rw [ih, gate_edit, Gate.editAll_cons]

theorem gate_openGate (progress : Progress) (milestone : Milestone) :
    (progress.openGate milestone).1.gate = progress.gate.opened milestone := by
  simp only [openGate, gate_editAll, Gate.opened]

/-- **What a milestone does to the gate.** -/
theorem mem_openGate (progress : Progress) (milestone : Milestone) (entry : String) :
    (entry ∈ (progress.openGate milestone).1.gate.allowed
        ↔ entry ∈ progress.gate.allowed ∨ entry ∈ Gate.entriesOf milestone.unlocks)
      ∧ (entry ∈ (progress.openGate milestone).1.gate.blocked
        ↔ entry ∈ progress.gate.blocked ∧ entry ∉ Gate.entriesOf milestone.unblocks) := by
  -- what is allowed stays when blocks are lifted, and what is blocked when commands are allowed
  have hallowed : ((progress.gate.editAll .allow milestone.unlocks).editAll .unblock
      milestone.unblocks).entries .allow
      = (progress.gate.editAll .allow milestone.unlocks).entries .allow :=
    Gate.entries_editAll_of_ne _ _ (by decide)
  have hblocked : (progress.gate.editAll .allow milestone.unlocks).entries .unblock
      = progress.gate.entries .unblock :=
    Gate.entries_editAll_of_ne _ _ (by decide)
  have hallow := Gate.mem_entries_editAll progress.gate .allow milestone.unlocks entry
  have hunblock := Gate.mem_entries_editAll (progress.gate.editAll .allow milestone.unlocks)
    .unblock milestone.unblocks entry
  rw [← hallowed] at hallow
  rw [hblocked] at hunblock
  rw [gate_openGate, Gate.opened]
  exact ⟨hallow, hunblock⟩

/-! ## The gate of a story -/

/-- **A story whose gate fits**: it is the gate of the start, opened by the milestones that are
achieved. -/
structure Fits (table : List Milestone) (start : Gate) (progress : Progress) : Prop where
  allowed : ∀ entry, entry ∈ progress.gate.allowed
    ↔ entry ∈ start.allowed ∨ ∃ milestone ∈ table,
      milestone.id ∈ progress.achieved ∧ entry ∈ Gate.entriesOf milestone.unlocks
  blocked : ∀ entry, entry ∈ progress.gate.blocked
    ↔ entry ∈ start.blocked ∧ ∀ milestone ∈ table,
      milestone.id ∈ progress.achieved → entry ∉ Gate.entriesOf milestone.unblocks

variable {table : List Milestone} {start : Gate} {progress after : Progress}

/-- What leaves the gate and what is achieved leaves the gate fitting. -/
theorem Fits.of_same (h : Fits table start progress)
    (hachieved : after.achieved = progress.achieved) (hgate : after.gate = progress.gate) :
    Fits table start after := by
  constructor
  · rw [hachieved, hgate]
    exact h.allowed
  · rw [hachieved, hgate]
    exact h.blocked

/-- A story that has not begun fits the gate that it has. -/
theorem fits_of_new (hnew : progress.achieved = NameMap.empty) :
    Fits table progress.gate progress := by
  constructor
  · intro entry
    simp [hnew, NameSet.mem_iff]
  · intro entry
    simp [hnew, NameSet.mem_iff]

/-- **The gate is determined by what is achieved.** -/
theorem Fits.gate_eq {other : Progress} (h : Fits table start progress)
    (hother : Fits table start other) (hsame : other.achieved = progress.achieved) :
    other.gate = progress.gate := by
  have hallowed : other.gate.allowed = progress.gate.allowed := by
    apply NameSet.ext_mem
    intro entry
    rw [h.allowed, hother.allowed, hsame]
  have hblocked : other.gate.blocked = progress.gate.blocked := by
    apply NameSet.ext_mem
    intro entry
    rw [h.blocked, hother.blocked, hsame]
  exact congrArg₂ Gate.mk hallowed hblocked

/-- **The gate only opens** as more is achieved. -/
theorem Fits.opens (h : Fits table start progress) (hafter : Fits table start after)
    (hmore : ∀ id ∈ progress.achieved, id ∈ after.achieved) :
    (∀ entry ∈ progress.gate.allowed, entry ∈ after.gate.allowed)
      ∧ ∀ entry ∈ after.gate.blocked, entry ∈ progress.gate.blocked := by
  constructor
  · intro entry hentry
    rw [hafter.allowed]
    rcases (h.allowed entry).1 hentry with hstart | ⟨milestone, hmem, hachieved, hunlocks⟩
    · exact .inl hstart
    · exact .inr ⟨milestone, hmem, hmore _ hachieved, hunlocks⟩
  · intro entry hentry
    obtain ⟨hstart, hnone⟩ := (hafter.blocked entry).1 hentry
    rw [h.blocked]
    exact ⟨hstart, fun milestone hmem hachieved => hnone milestone hmem (hmore _ hachieved)⟩

/-! ### What one milestone alone does -/

/-- **A command that one milestone alone unlocks** is allowed just if this is achieved. -/
theorem Fits.allowed_iff_of_only (h : Fits table start progress) {entry id : String}
    (hlocked : entry ∉ start.allowed) (hknown : ∃ milestone ∈ table, milestone.id = id)
    (honly : ∀ milestone ∈ table, entry ∈ Gate.entriesOf milestone.unlocks ↔ milestone.id = id) :
    entry ∈ progress.gate.allowed ↔ id ∈ progress.achieved := by
  rw [h.allowed]
  constructor
  · rintro (hstart | ⟨milestone, hmem, hachieved, hunlocks⟩)
    · exact absurd hstart hlocked
    · rwa [← (honly milestone hmem).1 hunlocks]
  · intro hachieved
    obtain ⟨milestone, hmem, rfl⟩ := hknown
    exact .inr ⟨milestone, hmem, hachieved, (honly milestone hmem).2 rfl⟩

/-- **A pattern that one milestone alone unblocks** is blocked just if this is not achieved. -/
theorem Fits.blocked_iff_of_only (h : Fits table start progress) {entry id : String}
    (hblocked : entry ∈ start.blocked) (hknown : ∃ milestone ∈ table, milestone.id = id)
    (honly : ∀ milestone ∈ table, entry ∈ Gate.entriesOf milestone.unblocks ↔ milestone.id = id) :
    entry ∈ progress.gate.blocked ↔ id ∉ progress.achieved := by
  rw [h.blocked]
  constructor
  · rintro ⟨-, hnone⟩ hachieved
    obtain ⟨milestone, hmem, rfl⟩ := hknown
    exact hnone milestone hmem hachieved ((honly milestone hmem).2 rfl)
  · intro hnot
    refine ⟨hblocked, fun milestone hmem hachieved hunblocks => hnot ?_⟩
    rwa [← (honly milestone hmem).1 hunblocks]

end Progress

/-! ## Milestones that are reached -/

namespace Tracker

variable {tracker : Tracker} {start : Gate} {progress after : Progress} {milestone : Milestone}

/-- The gate after a milestone is reached is the gate that the milestone opens. -/
theorem gate_reach (hopens : tracker.opensGate = true) (milestone : Milestone)
    (withNarrative : Bool) (progress : Progress) :
    (tracker.reach milestone withNarrative progress).progress.gate
      = (Progress.openGate { progress with achieved := progress.achieved.add milestone.id }
        milestone).1.gate := by
  simp only [reach, hopens, if_true]
  split
  · rfl
  · rfl

/-- **Reaching a milestone of a table without repetitions keeps the gate fitting.** -/
theorem fits_reach (hnodup : (tracker.milestones.map Milestone.id).Nodup)
    (hopens : tracker.opensGate = true) (hmem : milestone ∈ tracker.milestones)
    (h : progress.Fits tracker.milestones start) (withNarrative : Bool) :
    (tracker.reach milestone withNarrative progress).progress.Fits tracker.milestones start := by
  -- of the milestones of the table this one alone is newly achieved
  have hachieved : ∀ other ∈ tracker.milestones,
      other.id ∈ (tracker.reach milestone withNarrative progress).progress.achieved
        ↔ other = milestone ∨ other.id ∈ progress.achieved := by
    intro other hother
    rw [achieved_reach, NameSet.mem_add]
    refine or_congr_left ⟨fun hid => ?_, fun heq => congrArg Milestone.id heq⟩
    exact List.inj_on_of_nodup_map hnodup hother hmem hid
  have hgate := gate_reach hopens milestone withNarrative progress
  constructor
  · intro entry
    rw [hgate, (Progress.mem_openGate _ milestone entry).1, h.allowed, or_assoc]
    apply or_congr_right
    constructor
    · rintro (⟨other, hother, hold, hunlocks⟩ | hunlocks)
      · exact ⟨other, hother, (hachieved other hother).2 (.inr hold), hunlocks⟩
      · exact ⟨milestone, hmem, (hachieved milestone hmem).2 (.inl rfl), hunlocks⟩
    · rintro ⟨other, hother, hnow, hunlocks⟩
      rcases (hachieved other hother).1 hnow with rfl | hold
      · exact .inr hunlocks
      · exact .inl ⟨other, hother, hold, hunlocks⟩
  · intro entry
    rw [hgate, (Progress.mem_openGate _ milestone entry).2, h.blocked, and_assoc]
    apply and_congr_right
    intro _
    constructor
    · rintro ⟨hnone, hnot⟩ other hother hnow
      rcases (hachieved other hother).1 hnow with rfl | hold
      · exact hnot
      · exact hnone other hother hold
    · intro hnone
      refine ⟨fun other hother hold => ?_, ?_⟩
      · exact hnone other hother ((hachieved other hother).2 (.inr hold))
      · exact hnone milestone hmem ((hachieved milestone hmem).2 (.inl rfl))

/-- **An advance keeps the gate fitting.** -/
theorem Advances.fits {ids : List String} (hadvances : tracker.Advances progress ids after)
    (hnodup : (tracker.milestones.map Milestone.id).Nodup) (hopens : tracker.opensGate = true)
    (h : progress.Fits tracker.milestones start) : after.Fits tracker.milestones start := by
  induction hadvances with
  | rest => exact h
  | reach withNarrative known due later ih =>
    exact ih (fits_reach hnodup hopens known h withNarrative)

end Tracker

end StoryShell
