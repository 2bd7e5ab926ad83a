/-
The gate at the start, and the gate that edits make.

A gate that starts with lists of texts has them in lower case; a gate that is edited has them in
their normal form. The two are the same just if every text is **tidy**, that is, if lower case alone
brings it to its normal form (`ofLists_eq_ofEdits_iff`).

An entry of a text that is not tidy is a dead one. Only normal forms are looked up, so no line is
judged by it (`verdict_eq_of_normalForms`), and no edit finds it, so it cannot be taken away again
(`removes_iff`).
-/
import StoryShell.Proofs.Gate.Edits

set_option autoImplicit false

namespace StoryShell

namespace Gate

/-! ## Tidy texts -/

/-- **A tidy text**: one that lower case alone brings to its normal form. -/
def IsTidy (text : String) : Prop := Text.lower text = normalForm text

instance (text : String) : Decidable (IsTidy text) :=
  inferInstanceAs (Decidable (_ = _))

/-- A text whose lower case is a normal form is tidy. -/
theorem isTidy_of_lower_eq {text other : String} (h : Text.lower text = normalForm other) :
    IsTidy text := by
  rw [IsTidy, ← normalForm_lower text, h, normalForm_normalForm]

/-- A text in lower case is tidy just if it is its own normal form. -/
theorem isTidy_lower_iff {text : String} :
    IsTidy (Text.lower text) ↔ normalForm (Text.lower text) = Text.lower text := by
  rw [IsTidy, Text.lower_lower, eq_comm]

/-! ## The two ways to a gate -/

variable {allowed blocked : List String} {edit : GateEdit} {entry : String}

/-- **The gate that edits make** of the empty one. -/
def ofEdits (allowed blocked : List String) : Gate :=
  ((ofLists [] []).editAll .allow allowed).editAll .block blocked

/-- The list of those texts that an edit concerns. -/
def listFor (edit : GateEdit) (allowed blocked : List String) : List String :=
  if edit.isBlock then blocked else allowed

/-- **The entries at the start** are the texts in lower case, but for the empty one. -/
theorem mem_entries_ofLists : entry ∈ (ofLists allowed blocked).entries edit
    ↔ ∃ text ∈ listFor edit allowed blocked, text ≠ "" ∧ Text.lower text = entry := by
  cases edit <;> simp [entries, ofLists, listFor, GateEdit.isBlock, and_assoc]

/-- **The entries that edits make** are the normal forms of the texts, but for the empty one. -/
theorem mem_entries_ofEdits : entry ∈ (ofEdits allowed blocked).entries edit
    ↔ entry ∈ entriesOf (listFor edit allowed blocked) := by
  have hempty : ∀ edit, entry ∉ (ofLists [] []).entries edit := by
    intro edit
    rw [mem_entries_ofLists]
    cases edit <;> simp [listFor]
  have hallowed : entry ∈ (ofEdits allowed blocked).entries .allow ↔ entry ∈ entriesOf allowed := by
    rw [ofEdits, entries_editAll_of_ne _ _ (by decide), mem_entries_editAll]
    simp [GateEdit.adds, hempty]
  have hblocked : entry ∈ (ofEdits allowed blocked).entries .block ↔ entry ∈ entriesOf blocked := by
    rw [ofEdits, mem_entries_editAll, entries_editAll_of_ne _ _ (by decide)]
    simp [GateEdit.adds, hempty]
  cases edit with
  | allow | disallow => exact hallowed
  | block | unblock => exact hblocked

/-- Gates with the same entries are the same. -/
theorem ext_entries {first second : Gate}
    (h : ∀ edit entry, entry ∈ first.entries edit ↔ entry ∈ second.entries edit) :
    first = second :=
  congrArg₂ Gate.mk (NameSet.ext_mem (h .allow)) (NameSet.ext_mem (h .block))

/-- **Both ways lead to the same gate** just if every text is tidy. -/
theorem ofLists_eq_ofEdits_iff :
    ofLists allowed blocked = ofEdits allowed blocked
      ↔ ∀ text ∈ allowed ++ blocked, IsTidy text := by
  constructor
  · intro heq
    have htidy : ∀ edit, ∀ text ∈ listFor edit allowed blocked, IsTidy text := by
      intro edit text htext
      by_cases hempty : text = ""
      · rw [hempty]
        decide
      · -- the text is an entry at the start, and so it is a normal form
        have hentry : Text.lower text ∈ (ofLists allowed blocked).entries edit :=
          mem_entries_ofLists.2 ⟨text, htext, hempty, rfl⟩
        rw [heq, mem_entries_ofEdits, mem_entriesOf] at hentry
        obtain ⟨-, other, -, hother⟩ := hentry
        exact isTidy_of_lower_eq hother.symm
    intro text htext
    rcases List.mem_append.1 htext with hallowed | hblocked
    · exact htidy .allow text hallowed
    · exact htidy .block text hblocked
  · intro htidy
    have htidy : ∀ edit, ∀ text ∈ listFor edit allowed blocked, IsTidy text := by
      intro edit text htext
      refine htidy text (List.mem_append.2 ?_)
      cases edit with
      | allow | disallow => exact .inl htext
      | block | unblock => exact .inr htext
    refine ext_entries fun edit entry => ?_
    rw [mem_entries_ofLists, mem_entries_ofEdits, mem_entriesOf]
    constructor
    · rintro ⟨text, htext, hne, rfl⟩
      exact ⟨mt Text.lower_eq_empty_iff.1 hne, text, htext, (htidy edit text htext).symm⟩
    · rintro ⟨hne, text, htext, rfl⟩
      rw [← htidy edit text htext] at hne ⊢
      exact ⟨text, htext, mt Text.lower_eq_empty_iff.2 hne, rfl⟩

/-! ## Verdicts -/

/-- An argument without the slashes at its end is a word, as the argument is. -/
theorem isWord_bareArgument {argument : String} (h : Text.IsWord argument) :
    Text.IsWord (bareArgument argument) := by
  by_cases hbare : Text.slashless argument = ""
  · rw [show bareArgument argument = argument from if_pos hbare]
    exact h
  · rw [bareArgument_of_ne hbare]
    exact ⟨hbare, Text.not_blank_slashless h⟩

/-- **Only normal forms are looked up**: gates that have the same normal forms judge all lines
alike. -/
theorem verdict_eq_of_normalForms {first second : Gate}
    (h : ∀ edit text, normalForm text ∈ first.entries edit ↔ normalForm text ∈ second.entries edit)
    (raw : String) : first.verdict raw = second.verdict raw := by
  have hallowed : ∀ text, normalForm text ∈ first.allowed ↔ normalForm text ∈ second.allowed :=
    h .allow
  have hblocked : ∀ text, normalForm text ∈ first.blocked ↔ normalForm text ∈ second.blocked :=
    h .block
  by_cases hblank : Text.trim raw = ""
  · rw [verdict, verdict, if_pos hblank, if_pos hblank]
  · obtain ⟨token, arguments, hwords⟩ :=
      List.exists_cons_of_ne_nil (mt Text.trim_eq_empty_iff.2 hblank)
    have hword : ∀ word ∈ token :: arguments, Text.IsWord word := by
      intro word hmem
      exact Text.isWord_of_mem_words (hwords ▸ hmem)
    have hline : Line.parse raw = ⟨token, arguments⟩ := Line.parse_of_words hwords
    have htoken : Text.IsWord token := hword token List.mem_cons_self
    have hcommand : Text.lower token = normalForm token := (normalForm_of_isWord htoken).symm
    have hstops : first.stopsArgument ⟨token, arguments⟩
        = second.stopsArgument ⟨token, arguments⟩ := by
      cases arguments with
      | nil => rfl
      | cons argument rest =>
        have hargument := hword argument (List.mem_cons_of_mem _ List.mem_cons_self)
        have hpattern : pattern (Text.lower token) argument
            = normalForm (token ++ " " ++ bareArgument argument) :=
          (normalForm_pair htoken (isWord_bareArgument hargument)).symm
        simp only [stopsArgument, Line.command, hpattern, hblocked]
    simp only [verdict, hline, hstops, Line.command, hcommand, hallowed, hblocked]

/-! ## Removal -/

/-- **An edit removes an entry**: it says that it changed the gate, and the entry is gone. -/
def Removes (gate : Gate) (edit : GateEdit) (entry : String) : Prop :=
  (gate.edit edit entry).1 = true ∧ entry ∉ (gate.edit edit entry).2.entries edit

/-- **An entry can be removed** just if it is its own normal form. -/
theorem removes_iff {gate : Gate} (hremoving : edit.adds = false)
    (hentry : entry ∈ gate.entries edit) (hne : entry ≠ "") :
    gate.Removes edit entry ↔ normalForm entry = entry := by
  rw [Removes, mem_entries_edit, if_neg (by rw [hremoving]; decide), mem_entriesOf]
  constructor
  · rintro ⟨-, hgone⟩
    have hsame : entry ≠ "" ∧ ∃ text ∈ [entry], normalForm text = entry :=
      Decidable.not_not.1 fun hnot => hgone ⟨hentry, hnot⟩
    simpa using hsame.2
  · intro hnormal
    refine ⟨?_, fun hstays => hstays.2 ⟨hne, entry, List.mem_singleton_self _, hnormal⟩⟩
    simp [Gate.edit, hnormal, hremoving, hentry, hne]

/-! ## What parts the two ways -/

/-- **The verdicts of the gate at the start** are those of its tidy texts. -/
theorem verdict_ofLists (allowed blocked : List String) (raw : String) :
    (ofLists allowed blocked).verdict raw
      = (ofEdits (allowed.filter IsTidy) (blocked.filter IsTidy)).verdict raw := by
  refine verdict_eq_of_normalForms (fun edit text => ?_) raw
  have hfilter : listFor edit (allowed.filter IsTidy) (blocked.filter IsTidy)
      = (listFor edit allowed blocked).filter IsTidy := by
    cases edit <;> rfl
  rw [mem_entries_ofLists, mem_entries_ofEdits, mem_entriesOf, hfilter]
  simp only [List.mem_filter, decide_eq_true_eq]
  constructor
  · rintro ⟨other, hother, hne, hlower⟩
    have htidy : IsTidy other := isTidy_of_lower_eq hlower
    rw [← hlower]
    exact ⟨mt Text.lower_eq_empty_iff.1 hne, other, ⟨hother, htidy⟩, htidy.symm⟩
  · rintro ⟨hne, other, ⟨hother, htidy⟩, hnormal⟩
    rw [← hnormal, ← htidy] at hne ⊢
    exact ⟨other, hother, mt Text.lower_eq_empty_iff.2 hne, rfl⟩

/-- Of the entries at the start the tidy ones can be removed. -/
theorem removes_ofLists_iff (hremoving : edit.adds = false)
    (hentry : entry ∈ (ofLists allowed blocked).entries edit) :
    (ofLists allowed blocked).Removes edit entry ↔ IsTidy entry := by
  obtain ⟨text, -, hne, rfl⟩ := mem_entries_ofLists.1 hentry
  rw [removes_iff hremoving hentry (mt Text.lower_eq_empty_iff.1 hne), isTidy_lower_iff]

/-- The entries that edits have made can be removed. -/
theorem removes_ofEdits (hremoving : edit.adds = false)
    (hentry : entry ∈ (ofEdits allowed blocked).entries edit) :
    (ofEdits allowed blocked).Removes edit entry := by
  obtain ⟨hne, text, -, rfl⟩ := mem_entriesOf.1 (mem_entries_ofEdits.1 hentry)
  exact (removes_iff hremoving hentry hne).2 (normalForm_normalForm text)

/-- **What comes of the two ways to a gate.** They lead to the same gate just if every text is tidy.
Whatever the texts are, the gate at the start judges every line as if it had been made by edits of
its tidy texts alone. Of its entries the tidy ones can be removed and no others, whereas every entry
that edits have made can be removed. -/
theorem seeded_and_edited (allowed blocked : List String) :
    (ofLists allowed blocked = ofEdits allowed blocked
        ↔ ∀ text ∈ allowed ++ blocked, IsTidy text)
      ∧ (∀ raw, (ofLists allowed blocked).verdict raw
        = (ofEdits (allowed.filter IsTidy) (blocked.filter IsTidy)).verdict raw)
      ∧ ∀ edit, edit.adds = false →
        (∀ entry ∈ (ofLists allowed blocked).entries edit,
          (ofLists allowed blocked).Removes edit entry ↔ IsTidy entry)
        ∧ ∀ entry ∈ (ofEdits allowed blocked).entries edit,
          (ofEdits allowed blocked).Removes edit entry := by
  refine ⟨ofLists_eq_ofEdits_iff, verdict_ofLists allowed blocked, fun edit hremoving => ⟨?_, ?_⟩⟩
  · exact fun entry hentry => removes_ofLists_iff hremoving hentry
  · exact fun entry hentry => removes_ofEdits hremoving hentry

/-- **A block with a space before it** is no block at the start, though it is one when it is made
later; and it cannot be lifted. -/
theorem padded_block_is_dead :
    ofLists ["ls"] [" ls"] ≠ ofEdits ["ls"] [" ls"]
      ∧ (ofLists ["ls"] [" ls"]).verdict "ls" ≠ (ofEdits ["ls"] [" ls"]).verdict "ls"
      ∧ " ls" ∈ (ofLists ["ls"] [" ls"]).entries .unblock
      ∧ ¬ (ofLists ["ls"] [" ls"]).Removes .unblock " ls" := by
  have hpassed : (ofLists ["ls"] [" ls"]).verdict "ls" = .passed := by decide +kernel
  have hstopped : (ofEdits ["ls"] [" ls"]).verdict "ls" ≠ .passed := by decide +kernel
  have hentry : " ls" ∈ (ofLists ["ls"] [" ls"]).entries .unblock := by decide +kernel
  have hverdict : (ofLists ["ls"] [" ls"]).verdict "ls"
      ≠ (ofEdits ["ls"] [" ls"]).verdict "ls" := by
    rw [hpassed]
    exact hstopped.symm
  refine ⟨fun heq => hverdict (by rw [heq]), hverdict, hentry, ?_⟩
  rw [removes_iff rfl hentry (by decide)]
  decide +kernel

end Gate

end StoryShell
