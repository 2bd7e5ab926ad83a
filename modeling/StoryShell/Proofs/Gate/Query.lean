/-
What the gate answers about a command before there is a line.

The question is put to the entries with the text in lower case and nothing else done to it. A line
is judged by its words, and an edit brings its text to its normal form; so the answer about a word
is the verdict on it (`verdict_of_one_word`).

A text with blanks around its word asks for an entry that is not its own normal form. No edit makes
such an entry, and none takes one away (`mem_entries_edited`). Hence its answer is the one that the
gate gave at the start, whatever was allowed or blocked since, while the verdict goes with the edits
(`query_of_one_word`).
-/
import StoryShell.Proofs.Gate.LastEdit
import StoryShell.Proofs.Gate.Seeding

set_option autoImplicit false

namespace StoryShell

namespace Gate

variable {gate : Gate} {text token entry : String}

/-! ## Entries that no edit reaches -/

/-- No edit is about an entry that is not its own normal form. -/
theorem lastAbout_of_normalForm_ne (kind : GateEdit) (edits : List (GateEdit × String))
    (hentry : normalForm entry ≠ entry) : lastAbout kind entry edits = none := by
  have hnone : ∀ edit, ¬ IsAbout kind entry edit := by
    rintro edit ⟨-, -, hform⟩
    rw [← hform, normalForm_normalForm] at hentry
    exact hentry rfl
  simp [lastAbout, hnone]

/-- **Edits leave an entry that is not its own normal form** where it is, or away. -/
theorem mem_entries_edited (gate : Gate) (edits : List (GateEdit × String)) (other : GateEdit)
    (hentry : normalForm entry ≠ entry) :
    entry ∈ (gate.edited edits).entries other ↔ entry ∈ gate.entries other := by
  rw [mem_entries_edited_iff, lastAbout_of_normalForm_ne other edits hentry]

/-! ## Texts of one word -/

/-- A text that has a word is not empty. -/
theorem ne_empty_of_words (hwords : Text.words text = [token]) : text ≠ "" := by
  rintro rfl
  exact List.cons_ne_nil token [] hwords.symm

theorem isWord_of_words (hwords : Text.words text = [token]) : Text.IsWord token :=
  Text.isWord_of_mem_words (hwords ▸ List.mem_singleton_self token)

/-- A text that is not the one word it has shows a blank in its lower case, which no normal form of
one word does. -/
theorem normalForm_lower_ne (hwords : Text.words text = [token]) (hpadded : text ≠ token) :
    normalForm (Text.lower text) ≠ Text.lower text := by
  have hblank : ∃ c ∈ text.toList, Text.isBlank c = true := by
    by_contra hnone
    have hfree : ∀ c ∈ text.toList, Text.isBlank c = false := by simpa using hnone
    have hself : Text.words text = [text] :=
      Text.words_of_isWord ⟨ne_empty_of_words hwords, hfree⟩
    exact hpadded (List.cons.inj (hself.symm.trans hwords)).1
  obtain ⟨c, hc, hblank⟩ := hblank
  intro hsame
  -- the blank would be one of the word
  have hmem := Text.mem_lower_of_isBlank hblank hc
  rw [← hsame, normalForm_lower, normalForm_of_words hwords] at hmem
  rw [(Text.isWord_lower (isWord_of_words hwords)).not_blank c hmem] at hblank
  exact absurd hblank (by decide)

/-! ## The question and the verdict -/

theorem isAllowed_iff :
    gate.isAllowed text = true
      ↔ Text.lower text ∈ gate.allowed ∧ Text.lower text ∉ gate.blocked := by
  simp [isAllowed]

/-- **A line of one word passes** just if the answer about the word is that it would. -/
theorem verdict_of_one_word (hwords : Text.words text = [token]) :
    gate.verdict text = .passed ↔ gate.isAllowed token = true := by
  have htrim : Text.trim text ≠ "" := by
    rw [ne_eq, Text.trim_eq_empty_iff, hwords]
    exact List.cons_ne_nil _ _
  have hline : Line.parse text = ⟨token, []⟩ := Line.parse_of_words hwords
  -- without an argument there is no pattern to ask for
  simp only [isAllowed_iff, verdict, if_neg htrim, hline, Line.command, stopsArgument]
  by_cases hblocked : Text.lower token ∈ gate.blocked
  · simp [hblocked]
  · by_cases hallowed : Text.lower token ∈ gate.allowed <;> simp [hblocked, hallowed]

/-- **The answer about a word with blanks around it** never changes. -/
theorem isAllowed_edited (gate : Gate) (edits : List (GateEdit × String))
    (hwords : Text.words text = [token]) (hpadded : text ≠ token) :
    (gate.edited edits).isAllowed text = gate.isAllowed text := by
  have hentry := normalForm_lower_ne hwords hpadded
  rw [Bool.eq_iff_iff, isAllowed_iff, isAllowed_iff]
  exact and_congr (gate.mem_entries_edited edits .allow hentry)
    (not_congr (gate.mem_entries_edited edits .block hentry))

/-- The answer that a gate gives at the start goes by the lists. -/
theorem isAllowed_ofLists {allowed blocked : List String} (hne : text ≠ "") :
    (ofLists allowed blocked).isAllowed text = true
      ↔ Text.lower text ∈ allowed.map Text.lower ∧ Text.lower text ∉ blocked.map Text.lower := by
  have hentry : ∀ edit, Text.lower text ∈ (ofLists allowed blocked).entries edit
      ↔ Text.lower text ∈ (listFor edit allowed blocked).map Text.lower := by
    intro edit
    rw [mem_entries_ofLists, List.mem_map]
    constructor
    · rintro ⟨other, hother, -, hlower⟩
      exact ⟨other, hother, hlower⟩
    · rintro ⟨other, hother, hlower⟩
      refine ⟨other, hother, ?_, hlower⟩
      rintro rfl
      exact hne (Text.lower_eq_empty_iff.1 hlower.symm)
  rw [isAllowed_iff]
  exact and_congr (hentry .allow) (not_congr (hentry .block))

/-- A word that is not blocked passes once it is allowed, with blanks around it or without. -/
theorem verdict_edit_allow (hwords : Text.words text = [token])
    (hfree : Text.lower token ∉ gate.blocked) :
    (gate.edit .allow text).2.verdict text = .passed := by
  have hne : Text.lower token ≠ "" := (Text.isWord_lower (isWord_of_words hwords)).ne_empty
  have hallowed : Text.lower token ∈ (gate.edit .allow text).2.entries .allow := by
    simp only [mem_entries_edit, GateEdit.adds, if_true, mem_entriesOf]
    exact .inr ⟨hne, text, List.mem_singleton_self _, normalForm_of_words hwords⟩
  have hblocked : (gate.edit .allow text).2.entries .block = gate.entries .block :=
    entries_edit_of_ne _ _ (by decide)
  rw [verdict_of_one_word hwords, isAllowed_iff]
  refine ⟨hallowed, fun hmem => hfree ?_⟩
  rwa [show (gate.edit .allow text).2.blocked = gate.blocked from hblocked] at hmem

/-- **What the answer about a text of one word is worth**, for any lists at the start and any edits
since. A line of the text passes just if the answer about the word itself is that it would. The
answer about the text is the same as long as the text is the word. With blanks around the word it
goes by the lists that the gate started with, in which such a text has to stand letter for letter
but for the case; so it is right just if that happens to be the answer about the word. Once the text
is allowed and its word is not blocked, the line passes, and the answer is right just if the text is
the word or the lists allowed it from the start. -/
theorem query_of_one_word (allowed blocked : List String) (edits : List (GateEdit × String))
    (hwords : Text.words text = [token]) :
    let gate := (ofLists allowed blocked).edited edits
    let seeded := Text.lower text ∈ allowed.map Text.lower
      ∧ Text.lower text ∉ blocked.map Text.lower
    (gate.verdict text = .passed ↔ gate.isAllowed token = true)
      ∧ (text = token → (gate.isAllowed text = true ↔ gate.verdict text = .passed))
      ∧ (text ≠ token → (gate.isAllowed text = true ↔ seeded))
      ∧ ((gate.isAllowed text = true ↔ gate.verdict text = .passed)
        ↔ text = token ∨ (seeded ↔ gate.isAllowed token = true))
      ∧ (Text.lower token ∉ gate.blocked →
        (gate.edit .allow text).2.verdict text = .passed
          ∧ ((gate.edit .allow text).2.isAllowed text = true ↔ text = token ∨ seeded)) := by
  intro gate seeded
  have hpasses : ∀ gate : Gate, gate.verdict text = .passed ↔ gate.isAllowed token = true :=
    fun _ => verdict_of_one_word hwords
  -- one more edit is no different from those before
  have hallow : gate.edited [(.allow, text)] = (gate.edit .allow text).2 := rfl
  have hseeded : text ≠ token → (gate.isAllowed text = true ↔ seeded) := by
    intro hpadded
    rw [isAllowed_edited _ edits hwords hpadded, isAllowed_ofLists (ne_empty_of_words hwords)]
  have hstays : text ≠ token → (gate.edit .allow text).2.isAllowed text = gate.isAllowed text :=
    fun hpadded => hallow ▸ isAllowed_edited gate [(.allow, text)] hwords hpadded
  have hedited : Text.lower token ∉ gate.blocked →
      (gate.edit .allow text).2.verdict text = .passed := verdict_edit_allow hwords
  clear_value gate seeded
  refine ⟨hpasses gate, ?_, hseeded, ?_, fun hfree => ⟨hedited hfree, ?_⟩⟩
  · rintro rfl
    exact (hpasses gate).symm
  · by_cases hsame : text = token
    · subst hsame
      exact iff_of_true (hpasses gate).symm (.inl rfl)
    · rw [hseeded hsame, hpasses gate, or_iff_right hsame]
  · by_cases hsame : text = token
    · subst hsame
      exact iff_of_true ((hpasses _).1 (hedited hfree)) (.inl rfl)
    · rw [hstays hsame, hseeded hsame, or_iff_right hsame]

/-- A gate that starts with a command and a block that has a space before it, and has two edits made
since: the answer about the command with a space before it stays what it was. -/
theorem query_of_padded_word :
    let gate := (ofLists ["LS", " cat"] ["\tpwd"]).edited [(.allow, " pwd "), (.block, "ls")]
    (gate.verdict " PWD " = .passed ↔ gate.isAllowed "PWD" = true)
      ∧ gate.verdict " PWD " = .passed ∧ gate.isAllowed " PWD " = false
      ∧ gate.verdict " cat" ≠ .passed ∧ gate.isAllowed " cat" = true := by
  intro gate
  have hpwd := query_of_one_word ["LS", " cat"] ["\tpwd"] [(.allow, " pwd "), (.block, "ls")]
    (show Text.words " PWD " = ["PWD"] by decide +kernel)
  have hcat := query_of_one_word ["LS", " cat"] ["\tpwd"] [(.allow, " pwd "), (.block, "ls")]
    (show Text.words " cat" = ["cat"] by decide +kernel)
  have hanswer : gate.isAllowed " cat" = true := by
    rw [hcat.2.2.1 (by decide)]
    decide +kernel
  have hsilent : gate.isAllowed " PWD " = false := by
    rw [Bool.eq_false_iff, ne_eq, hpwd.2.2.1 (by decide)]
    decide +kernel
  refine ⟨hpwd.1, ?_, hsilent, ?_, hanswer⟩
  · rw [hpwd.1]
    decide +kernel
  · rw [ne_eq, hcat.1]
    decide +kernel

/-- **The answer is not always right**: once `ls` with a space before it has been allowed, the line
of that very text passes, though the answer about it is that it would not. -/
theorem not_forall_query_right :
    ¬ ∀ (allowed blocked : List String) (edits : List (GateEdit × String)) (text token : String),
      Text.words text = [token] →
      (((ofLists allowed blocked).edited edits).isAllowed text = true
        ↔ ((ofLists allowed blocked).edited edits).verdict text = .passed) := by
  intro h
  have hwrong := h [] [] [(.allow, " ls")] " ls" "ls" (by decide +kernel)
  exact absurd hwrong (by decide +kernel)

end Gate

end StoryShell
