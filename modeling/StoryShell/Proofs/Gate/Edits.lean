/-
What edits do to the gate.

An edit brings its text to its normal form, which is its own normal form (`normalForm_normalForm`);
a blank text stands for no entry at all (`Gate.entriesOf`). The edit adds to the entries that it
concerns or takes from them, and it leaves the others (`mem_entries_edit`, `entries_edit_of_ne`); so
what several edits of one kind do is told by the entries that their texts stand for
(`mem_entries_editAll`).
-/
import StoryShell.Proofs.Gate.Verdict
import StoryShell.Proofs.Text.LowerCase

set_option autoImplicit false

namespace StoryShell

namespace Gate

/-! ## Normal forms -/

/-- The words of a normal form are those of the text in lower case. -/
theorem words_normalForm (text : String) :
    Text.words (normalForm text) = Text.words (Text.lower text) :=
  Text.words_joinWords fun _ => Text.isWord_of_mem_words

/-- Lower case does not change the normal form of a text. -/
theorem normalForm_lower (text : String) : normalForm (Text.lower text) = normalForm text := by
  rw [normalForm, Text.lower_lower, normalForm]

/-- Normal forms are in lower case. -/
theorem lower_normalForm (text : String) : Text.lower (normalForm text) = normalForm text := by
  rw [normalForm, Text.lower_joinWords, ← Text.words_lower, Text.lower_lower]

/-- **A normal form is its own normal form.** -/
theorem normalForm_normalForm (text : String) :
    normalForm (normalForm text) = normalForm text := by
  rw [normalForm, lower_normalForm, words_normalForm, normalForm]

/-- The normal form of a text of one word is the word in lower case. -/
theorem normalForm_of_words {text word : String} (h : Text.words text = [word]) :
    normalForm text = Text.lower word := by
  rw [normalForm, Text.words_lower, h, List.map_singleton, Text.joinWords,
    String.intercalate_singleton]

/-- The normal form of a word is the word in lower case. -/
theorem normalForm_of_isWord {word : String} (h : Text.IsWord word) :
    normalForm word = Text.lower word :=
  normalForm_of_words (Text.words_of_isWord h)

/-! ## One edit -/

/-- **The entries that texts stand for**: their normal forms, but for blank ones. -/
def entriesOf (texts : List String) : List String := (texts.map normalForm).filter (· ≠ "")

theorem mem_entriesOf {texts : List String} {entry : String} :
    entry ∈ entriesOf texts ↔ entry ≠ "" ∧ ∃ text ∈ texts, normalForm text = entry := by
  rw [entriesOf, List.mem_filter, List.mem_map, decide_eq_true_eq, and_comm]

/-- Entries after an edit are found where the edit put them. -/
theorem entries_withEntries (gate : Gate) (edit : GateEdit) (set : NameSet) :
    (gate.withEntries edit set).entries edit = set := by
  cases edit <;> rfl

/-- An edit of what is allowed leaves what is blocked, and the other way round. -/
theorem entries_edit_of_ne (gate : Gate) {edit other : GateEdit} (text : String)
    (h : edit.isBlock ≠ other.isBlock) :
    (gate.edit edit text).2.entries other = gate.entries other := by
  rw [edit_snd]
  split
  · rfl
  · cases edit <;> cases other <;> first | rfl | exact absurd rfl h

/-- **What an edit does to the entries that it concerns.** -/
theorem mem_entries_edit (gate : Gate) (edit : GateEdit) (text entry : String) :
    entry ∈ (gate.edit edit text).2.entries edit
      ↔ if edit.adds then entry ∈ gate.entries edit ∨ entry ∈ entriesOf [text]
        else entry ∈ gate.entries edit ∧ entry ∉ entriesOf [text] := by
  have hentry : entry ∈ entriesOf [text] ↔ entry ≠ "" ∧ entry = normalForm text := by
    simp [mem_entriesOf, eq_comm]
  rw [edit_snd, hentry]
  by_cases hblank : normalForm text = ""
  · -- a blank text stands for no entry
    have hnone : ¬ (entry ≠ "" ∧ entry = normalForm text) := by
      rintro ⟨hne, heq⟩
      exact hne (heq.trans hblank)
    rw [if_pos hblank]
    cases edit.adds <;> simp [hnone]
  · have hsome : entry ≠ "" ∧ entry = normalForm text ↔ entry = normalForm text := by
      refine ⟨And.right, fun heq => ⟨?_, heq⟩⟩
      rw [heq]
      exact hblank
    rw [if_neg hblank, entries_withEntries, hsome]
    cases edit.adds with
    | true =>
      rw [if_pos rfl, if_pos rfl, NameSet.mem_add]
      exact or_comm
    | false =>
      rw [if_neg Bool.false_ne_true, if_neg Bool.false_ne_true, NameSet.mem_erase]
      exact and_comm

/-! ## Several edits -/

/-- **Makes the same edit** for each of a list of texts. -/
def editAll (gate : Gate) (edit : GateEdit) (texts : List String) : Gate :=
  texts.foldl (fun gate text => (gate.edit edit text).2) gate

theorem editAll_cons (gate : Gate) (edit : GateEdit) (text : String) (rest : List String) :
    gate.editAll edit (text :: rest) = (gate.edit edit text).2.editAll edit rest := by
  simp only [editAll, List.foldl_cons]

/-- Edits of what is allowed leave what is blocked, and the other way round. -/
theorem entries_editAll_of_ne (gate : Gate) {edit other : GateEdit} (texts : List String)
    (h : edit.isBlock ≠ other.isBlock) :
    (gate.editAll edit texts).entries other = gate.entries other := by
  induction texts generalizing gate with
  | nil => rfl
  | cons text rest ih => rw [editAll_cons, ih, entries_edit_of_ne _ _ h]

/-- **What edits do to the entries that they concern.** -/
theorem mem_entries_editAll (gate : Gate) (edit : GateEdit) (texts : List String)
    (entry : String) :
    entry ∈ (gate.editAll edit texts).entries edit
      ↔ if edit.adds then entry ∈ gate.entries edit ∨ entry ∈ entriesOf texts
        else entry ∈ gate.entries edit ∧ entry ∉ entriesOf texts := by
  induction texts generalizing gate with
  | nil => cases edit.adds <;> simp [editAll, entriesOf]
  | cons text rest ih =>
    have hentries : entry ∈ entriesOf (text :: rest)
        ↔ entry ∈ entriesOf [text] ∨ entry ∈ entriesOf rest := by
      simp only [mem_entriesOf, List.mem_cons, List.not_mem_nil, or_false, exists_eq_or_imp,
        exists_eq_left, and_or_left]
    rw [editAll_cons, ih, mem_entries_edit, hentries]
    cases edit.adds with
    | true =>
      rw [if_pos rfl, if_pos rfl, if_pos rfl]
      exact or_assoc
    | false =>
      rw [if_neg Bool.false_ne_true, if_neg Bool.false_ne_true, if_neg Bool.false_ne_true, not_or]
      exact and_assoc

end Gate

end StoryShell
