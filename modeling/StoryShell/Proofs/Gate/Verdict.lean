/-
What the gate says to a line, and what an edit does to its sets.

A line of a command and one argument is stopped by the name of the command, or by the pattern of the
command with the argument (`stops_pair_iff`). An edit leaves the sets that it would leave if it were
made without looking (`edit_snd`): adding what is there and taking away what is not there change
nothing.
-/
import StoryShell.Gate
import StoryShell.Proofs.Text.Words

set_option autoImplicit false

namespace StoryShell

/-- A line that has words is the first of them and the others. -/
theorem Line.parse_of_words {raw token : String} {arguments : List String}
    (hwords : Text.words raw = token :: arguments) : parse raw = ⟨token, arguments⟩ := by
  rw [parse, hwords]

/-- **A command and an argument** are read back from the line that they make. -/
theorem Line.parse_pair {command argument : String} (hcommand : Text.IsWord command)
    (hargument : Text.IsWord argument) :
    parse (command ++ " " ++ argument) = ⟨command, [argument]⟩ :=
  parse_of_words (Text.words_pair hcommand hargument)

namespace Gate

/-! ## Edits -/

/-- **What an edit leaves**: the sets with the entry added or taken away, unless the text is
blank. -/
theorem edit_snd (gate : Gate) (edit : GateEdit) (text : String) :
    (gate.edit edit text).2
      = if normalForm text = "" then gate
        else gate.withEntries edit
          (if edit.adds then (gate.entries edit).add (normalForm text)
            else (gate.entries edit).erase (normalForm text)) := by
  have hsame : gate.withEntries edit (gate.entries edit) = gate := by
    cases edit <;> rfl
  simp only [Gate.edit, Bool.or_eq_true, decide_eq_true_eq]
  by_cases hblank : normalForm text = ""
  · simp [hblank]
  · simp only [hblank, false_or, if_false]
    -- adding what is there and taking away what is not there change nothing
    by_cases hmem : normalForm text ∈ gate.entries edit
    · cases hadds : edit.adds with
      | true => simp [hmem, NameSet.add_of_mem hmem, hsame]
      | false => simp [hmem]
    · cases hadds : edit.adds with
      | true => simp [hmem]
      | false => simp [hmem, NameSet.erase_of_not_mem hmem, hsame]

/-- The normal form of a command and an argument: both in lower case. -/
theorem normalForm_pair {command argument : String} (hcommand : Text.IsWord command)
    (hargument : Text.IsWord argument) :
    normalForm (command ++ " " ++ argument) = Text.lower command ++ " " ++ Text.lower argument := by
  rw [normalForm, Text.lower_append_space,
    Text.words_pair (Text.isWord_lower hcommand) (Text.isWord_lower hargument), Text.joinWords,
    String.intercalate_cons_cons, String.intercalate_singleton]

/-- The normal form of a command and an argument is not empty. -/
theorem append_space_ne_empty (first second : String) : first ++ " " ++ second ≠ "" := by
  intro h
  have hlist : (first ++ " " ++ second).toList = [] := String.toList_eq_nil_iff.2 h
  simp [String.toList_append] at hlist

/-! ## Verdicts -/

/-- Whether the gate stops a line as blocked. -/
def Stops (gate : Gate) (raw : String) : Prop :=
  ∃ result, gate.verdict raw = .refused result ∧ result.errorKind = some .blocked

/-- **When a line of a command and one argument is stopped.** -/
theorem stops_pair_iff (gate : Gate) {command argument : String} (hcommand : Text.IsWord command)
    (hargument : Text.IsWord argument) :
    gate.Stops (command ++ " " ++ argument)
      ↔ Text.lower command ∈ gate.blocked
        ∨ pattern (Text.lower command) argument ∈ gate.blocked := by
  have htrim : Text.trim (command ++ " " ++ argument) ≠ "" := by
    rw [String.append_assoc]
    exact Text.trim_ne_empty hcommand _
  have hline := Line.parse_pair hcommand hargument
  -- the verdict asks for the name first, then for the pattern, and for permission last
  simp only [Stops, verdict, htrim, hline, Line.command, stopsArgument, if_false]
  by_cases hname : Text.lower command ∈ gate.blocked
  · simp [hname, Result.failure]
  · by_cases hpattern : pattern (Text.lower command) argument ∈ gate.blocked
    · simp [hname, hpattern, Result.failure]
    · by_cases hallowed : Text.lower command ∈ gate.allowed
      · simp [hname, hpattern, hallowed]
      · simp [hname, hpattern, hallowed, Result.failure]

/-- **What the gate refuses a line with** is a failure in the name of the command, of one of the
gate's two kinds. -/
theorem eq_failure_of_refused {gate : Gate} {raw : String} {result : Result}
    (h : gate.verdict raw = .refused result) :
    ∃ kind message, (kind = .blocked ∨ kind = .notAllowed)
      ∧ result = .failure kind message (Line.parse raw).command none := by
  simp only [verdict] at h
  split at h
  · exact absurd h (by simp)
  · split at h
    · exact ⟨_, _, .inl rfl, (Verdict.refused.inj h).symm⟩
    · split at h
      · exact ⟨_, _, .inl rfl, (Verdict.refused.inj h).symm⟩
      · split at h
        · exact ⟨_, _, .inr rfl, (Verdict.refused.inj h).symm⟩
        · exact absurd h (by simp)

/-- What the gate refuses a line with is an error. -/
theorem isError_of_refused {gate : Gate} {raw : String} {result : Result}
    (h : gate.verdict raw = .refused result) : result.isError = true := by
  obtain ⟨kind, message, -, rfl⟩ := eq_failure_of_refused h
  rfl

/-- **The gate finds a line blank** just if it has no words. -/
theorem verdict_eq_blank_iff {gate : Gate} {raw : String} :
    gate.verdict raw = .blank ↔ Text.words raw = [] := by
  rw [← Text.trim_eq_empty_iff]
  constructor
  · intro h
    by_contra hmore
    simp only [verdict, if_neg hmore] at h
    split at h
    · exact absurd h (by simp)
    · split at h
      · exact absurd h (by simp)
      · split at h
        · exact absurd h (by simp)
        · exact absurd h (by simp)
  · intro h
    rw [verdict, if_pos h]

/-- **What passes the gate**: the command is allowed, and neither it nor its pattern is blocked. -/
theorem of_passed {gate : Gate} {raw : String} (h : gate.verdict raw = .passed) :
    (Line.parse raw).command ∈ gate.allowed ∧ (Line.parse raw).command ∉ gate.blocked
      ∧ ∀ argument rest, (Line.parse raw).arguments = argument :: rest →
        pattern (Line.parse raw).command argument ∉ gate.blocked := by
  simp only [verdict] at h
  split at h
  · exact absurd h (by simp)
  · split at h
    · exact absurd h (by simp)
    · rename_i hcommand
      split at h
      · exact absurd h (by simp)
      · rename_i hpattern
        split at h
        · exact absurd h (by simp)
        · rename_i hallowed
          refine ⟨Decidable.not_not.1 hallowed, hcommand, fun argument rest hline => ?_⟩
          rw [stopsArgument, hline] at hpattern
          simpa using hpattern

/-- **A command that is not allowed does not pass**: the line is blank, or it is refused with one of
the gate's kinds of errors. -/
theorem verdict_of_not_allowed {gate : Gate} {raw : String}
    (h : (Line.parse raw).command ∉ gate.allowed) :
    gate.verdict raw = .blank
      ∨ ∃ result, gate.verdict raw = .refused result ∧ result.isError = true
        ∧ (result.errorKind = some .blocked ∨ result.errorKind = some .notAllowed) := by
  simp only [verdict, if_pos h]
  split
  · exact .inl rfl
  · split
    · exact .inr ⟨_, rfl, rfl, .inl rfl⟩
    · split
      · exact .inr ⟨_, rfl, rfl, .inl rfl⟩
      · exact .inr ⟨_, rfl, rfl, .inr rfl⟩

/-! ## Arguments -/

/-- An argument that has more than slashes loses those at its end. -/
theorem bareArgument_of_ne {argument : String} (h : Text.slashless argument ≠ "") :
    bareArgument argument = Text.slashless argument :=
  if_neg h

/-- **An argument whose lower case has no slash at its end** stands in the pattern as it is. -/
theorem lower_bareArgument {argument : String}
    (h : Text.slashless (Text.lower argument) = Text.lower argument) :
    Text.lower (bareArgument argument) = Text.lower argument := by
  by_cases hbare : Text.slashless argument = ""
  · rw [show bareArgument argument = argument from if_pos hbare]
  · rw [bareArgument_of_ne hbare, Text.lower_slashless, h]

end Gate

end StoryShell
