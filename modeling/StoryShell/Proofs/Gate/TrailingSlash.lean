/-
Slashes at the end of a blocked argument.

To `cd`, an argument and the same argument with slashes at its end are one place, and the gate takes
them for one as far as the line goes: the slashes at the end of what was typed do not count. But an
edit keeps the slashes of its text. So a pattern that was blocked with a slash at its end stops
nothing, unless it has nothing but slashes, and then it stops exactly what has as many
(`rejects_block_iff`).
-/
import StoryShell.Proofs.Gate.Verdict
import StoryShell.Session

set_option autoImplicit false

namespace StoryShell

/-! ## Entries and arguments -/

namespace Gate

/-- Patterns of one command are the same just if their arguments are. -/
theorem append_space_inj {command first second : String} :
    command ++ " " ++ first = command ++ " " ++ second ↔ first = second := by
  simp [← String.toList_inj, String.toList_append]

/-- A command is no pattern of itself. -/
theorem command_ne_pattern (command argument : String) : command ≠ command ++ " " ++ argument := by
  intro h
  have hlength := congrArg List.length (congrArg String.toList h)
  simp [String.toList_append] at hlength

/-- **When the entry of one argument stops another one** that differs by case and by slashes at its
end: the entry has no slash at its end, or both have nothing but slashes and are the same. -/
theorem lower_bareArgument_eq_iff {entered typed : String}
    (hentered : Text.IsWord entered)
    (hsame : Text.slashless (Text.lower entered) = Text.slashless (Text.lower typed)) :
    Text.lower (bareArgument typed) = Text.lower entered
      ↔ Text.slashless entered = entered
        ∨ Text.slashless entered = "" ∧ typed = entered := by
  have hbare : Text.lower (Text.slashless entered) = Text.lower (Text.slashless typed) := by
    rw [Text.lower_slashless, Text.lower_slashless, hsame]
  have hslashes : Text.slashless entered = "" ↔ Text.slashless typed = "" := by
    rw [← Text.lower_eq_empty_iff, hbare, Text.lower_eq_empty_iff]
  by_cases htypedSlashes : Text.slashless typed = ""
  · -- both have nothing but slashes, which the gate leaves
    have henteredSlashes := hslashes.2 htypedSlashes
    have hnot : Text.slashless entered ≠ entered := by
      rw [henteredSlashes]
      exact hentered.ne_empty.symm
    rw [show bareArgument typed = typed from if_pos htypedSlashes,
      Text.lower_of_slashless_eq_empty htypedSlashes,
      Text.lower_of_slashless_eq_empty henteredSlashes]
    constructor
    · intro heq
      exact .inr ⟨henteredSlashes, heq⟩
    · rintro (hself | ⟨-, heq⟩)
      · exact absurd hself hnot
      · exact heq
  · -- the gate takes the slashes off what was typed, and so looks for an entry without any
    rw [bareArgument_of_ne htypedSlashes, ← hbare, Text.lower_slashless,
      Text.slashless_lower_eq_self_iff]
    have henteredMore : Text.slashless entered ≠ "" := mt hslashes.1 htypedSlashes
    simp [henteredMore]

end Gate

/-! ## Sessions -/

namespace Session

/-- **Whether the gate rejects a line as blocked**: the rejection is published, and nothing is
carried out. -/
def Rejects (session : Session) (raw : String) : Prop :=
  ∃ result, session.gate.verdict raw = .refused result ∧ result.errorKind = some .blocked
    ∧ session.submit raw = (some result, session.publish result)

/-- A line is rejected if the gate stops it. -/
theorem rejects_iff {session : Session} {raw : String} :
    session.Rejects raw ↔ session.gate.Stops raw := by
  constructor
  · rintro ⟨result, hverdict, hkind, -⟩
    exact ⟨result, hverdict, hkind⟩
  · rintro ⟨result, hverdict, hkind⟩
    refine ⟨result, hverdict, hkind, ?_⟩
    rw [submit, hverdict]

/-- The gate after an edit is the edited gate. -/
theorem gate_editGate (session : Session) (edit : GateEdit) (text : String) :
    (session.editGate edit text).2.1.gate = (session.gate.edit edit text).2 := by
  simp only [editGate, Progress.edit, gate]

/-- **What blocking a command with an argument does** to the same command with an argument that
differs by case and by slashes at its end. The line is rejected if it was so before, or if the
argument that was blocked has no slash at its end, or if both have nothing but slashes and are the
same; and else it is not. -/
theorem rejects_block_iff (session : Session) {command entered typed : String}
    (hcommand : Text.IsWord command) (hentered : Text.IsWord entered) (htyped : Text.IsWord typed)
    (hsame : Text.slashless (Text.lower entered) = Text.slashless (Text.lower typed)) :
    (session.editGate .block (command ++ " " ++ entered)).2.1.Rejects (command ++ " " ++ typed)
      ↔ session.Rejects (command ++ " " ++ typed)
        ∨ Text.slashless entered = entered
        ∨ Text.slashless entered = "" ∧ typed = entered := by
  rw [rejects_iff, rejects_iff, gate_editGate, Gate.stops_pair_iff _ hcommand htyped,
    Gate.stops_pair_iff _ hcommand htyped, Gate.edit_snd, Gate.normalForm_pair hcommand hentered,
    if_neg (Gate.append_space_ne_empty _ _)]
  -- the edit adds its entry to what was blocked before
  have hblocked : ∀ entry, entry ∈ (session.gate.withEntries .block
      ((session.gate.entries .block).add
        (Text.lower command ++ " " ++ Text.lower entered))).blocked
      ↔ entry = Text.lower command ++ " " ++ Text.lower entered ∨ entry ∈ session.gate.blocked :=
    fun entry => NameSet.mem_add
  -- the entry is no command, so it can only stop the line as its pattern
  have hcommandEntry : Text.lower command ≠ Text.lower command ++ " " ++ Text.lower entered :=
    Gate.command_ne_pattern _ _
  have hpattern : Gate.pattern (Text.lower command) typed
      = Text.lower command ++ " " ++ Text.lower entered
      ↔ Text.slashless entered = entered ∨ Text.slashless entered = "" ∧ typed = entered := by
    rw [Gate.pattern, Gate.append_space_inj]
    exact Gate.lower_bareArgument_eq_iff hentered hsame
  rw [← hpattern]
  simp only [GateEdit.adds, if_true]
  rw [hblocked, hblocked]
  constructor
  · rintro ((hname | hname) | (hentry | hentry))
    · exact absurd hname hcommandEntry
    · exact .inl (.inl hname)
    · exact .inr hentry
    · exact .inl (.inr hentry)
  · rintro ((hname | hentry) | hentry)
    · exact .inl (.inr hname)
    · exact .inr (.inr hentry)
    · exact .inr (.inl hentry)

/-- A blocked argument without a slash at its end stops all its spellings. -/
theorem rejects_block_of_home :
    let session := start ⟨"w", "w", [], [], [], ["cd"], [], []⟩ FileSystem.initial
    Text.IsWord "cd" ∧ Text.IsWord "Home" ∧ Text.IsWord "HOME//"
      ∧ Text.slashless (Text.lower "Home") = Text.slashless (Text.lower "HOME//")
      ∧ (session.editGate .block ("cd" ++ " " ++ "Home")).2.1.Rejects
        ("cd" ++ " " ++ "HOME//") := by
  intro session
  have hcommand : Text.IsWord "cd" := by decide +kernel
  have hentered : Text.IsWord "Home" := by decide +kernel
  have htyped : Text.IsWord "HOME//" := by decide +kernel
  have hsame : Text.slashless (Text.lower "Home") = Text.slashless (Text.lower "HOME//") := by
    decide +kernel
  have hself : Text.slashless "Home" = "Home" := by decide +kernel
  exact ⟨hcommand, hentered, htyped, hsame,
    (rejects_block_iff session hcommand hentered htyped hsame).2 (.inr (.inl hself))⟩

/-- **A blocked argument with a slash at its end** does not stop the same argument without it. -/
theorem not_forall_rejects_block :
    ¬ ∀ (session : Session) (command entered typed : String), Text.IsWord command →
      Text.IsWord entered → Text.IsWord typed →
      Text.slashless (Text.lower entered) = Text.slashless (Text.lower typed) →
      (session.editGate .block (command ++ " " ++ entered)).2.1.Rejects
        (command ++ " " ++ typed) := by
  intro hall
  obtain ⟨result, hrefused, -, -⟩ := hall
    (start ⟨"w", "w", [], [], [], ["cd"], [], []⟩ FileSystem.initial) "cd" "home/" "home"
    (by decide +kernel) (by decide +kernel) (by decide +kernel) (by decide +kernel)
  have hpassed : ((Gate.ofLists ["cd"] []).edit .block "cd home/").2.verdict "cd home"
      = .passed := by decide +kernel
  rw [gate_editGate] at hrefused
  exact absurd (hrefused.symm.trans hpassed) (by simp)

end Session

end StoryShell
