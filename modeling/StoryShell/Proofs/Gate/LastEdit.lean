/-
Which edit has the last word about an entry.

An edit is about one entry, the normal form of its text, among what is allowed or among what is
blocked (`Gate.IsAbout`). It puts this entry in or takes it out, and it leaves every other one as it
was (`mem_entries_edit_iff`); whether it changed anything is what it answers (`edit_answers_iff`).

So after any number of edits an entry is there if the last edit about it was one that adds, and if
none was about it, it is there just if it was there from the start (`last_edit_wins`).
-/
import Mathlib.Data.List.Induction
import StoryShell.Proofs.Gate.Edits

set_option autoImplicit false

namespace StoryShell

namespace Gate

variable {gate : Gate} {kind : GateEdit} {entry : String}

/-! ## One edit -/

/-- Edits concern what is allowed or what is blocked. -/
theorem entries_eq_of_isBlock (gate : Gate) {edit other : GateEdit}
    (h : edit.isBlock = other.isBlock) : gate.entries edit = gate.entries other := by
  rw [entries, entries, h]

/-- **An edit is about an entry** if its text stands for the entry, and it concerns the same entries
as an edit of that kind. No edit is about the empty text. -/
def IsAbout (kind : GateEdit) (entry : String) (edit : GateEdit × String) : Prop :=
  edit.1.isBlock = kind.isBlock ∧ entry ≠ "" ∧ normalForm edit.2 = entry

instance (kind : GateEdit) (entry : String) (edit : GateEdit × String) :
    Decidable (IsAbout kind entry edit) :=
  inferInstanceAs (Decidable (_ ∧ _))

/-- **What an edit does**: it settles the entry that it is about, and leaves all the others. -/
theorem mem_entries_edit_iff (edit : GateEdit × String) :
    entry ∈ (gate.edit edit.1 edit.2).2.entries kind
      ↔ if IsAbout kind entry edit then edit.1.adds = true else entry ∈ gate.entries kind := by
  by_cases hblock : edit.1.isBlock = kind.isBlock
  · have habout : IsAbout kind entry edit ↔ entry ∈ entriesOf [edit.2] := by
      simp [IsAbout, hblock, mem_entriesOf]
    simp only [habout, ← entries_eq_of_isBlock _ hblock, mem_entries_edit]
    by_cases hmem : entry ∈ entriesOf [edit.2] <;> cases edit.1.adds <;> simp [hmem]
  · rw [entries_edit_of_ne _ _ hblock, if_neg fun habout : IsAbout _ _ _ => hblock habout.1]

/-- **An edit answers whether it changed** the entries that it concerns. -/
theorem edit_answers_iff (gate : Gate) (edit : GateEdit) (text : String) :
    (gate.edit edit text).1 = true
      ↔ (gate.edit edit text).2.entries edit ≠ gate.entries edit := by
  by_cases hsame : normalForm text = "" ∨ edit.adds = decide (normalForm text ∈ gate.entries edit)
  · have hedit : gate.edit edit text = (false, gate) := by simp [Gate.edit, hsame]
    simp [hedit]
  · obtain ⟨hne, hadds⟩ := not_or.1 hsame
    have hchanged : (gate.edit edit text).1 = true := by simp [Gate.edit, hne, hadds]
    have habout : IsAbout edit (normalForm text) (edit, text) := ⟨rfl, hne, rfl⟩
    -- the entry itself tells the entries after the edit from those before
    have hsettled : normalForm text ∈ (gate.edit edit text).2.entries edit ↔ edit.adds = true :=
      (mem_entries_edit_iff (edit, text)).trans (iff_of_eq (if_pos habout))
    refine iff_of_true hchanged fun heq => hadds ?_
    rw [heq] at hsettled
    rw [Bool.eq_iff_iff, decide_eq_true_eq]
    exact hsettled.symm

/-! ## Edits one after the other -/

/-- **The gate after edits**, made one after the other. -/
def edited (gate : Gate) (edits : List (GateEdit × String)) : Gate :=
  edits.foldl (fun gate edit => (gate.edit edit.1 edit.2).2) gate

theorem edited_cons (gate : Gate) (edit : GateEdit × String) (rest : List (GateEdit × String)) :
    gate.edited (edit :: rest) = (gate.edit edit.1 edit.2).2.edited rest := by
  simp only [edited, List.foldl_cons]

theorem edited_concat (gate : Gate) (edits : List (GateEdit × String))
    (edit : GateEdit × String) :
    gate.edited (edits ++ [edit]) = ((gate.edited edits).edit edit.1 edit.2).2 := by
  simp only [edited, List.foldl_append, List.foldl_cons, List.foldl_nil]

/-- **The last edit about an entry**, if there is one. -/
def lastAbout (kind : GateEdit) (entry : String) (edits : List (GateEdit × String)) :
    Option GateEdit :=
  (edits.reverse.find? fun edit => IsAbout kind entry edit).map Prod.fst

theorem lastAbout_concat (edits : List (GateEdit × String)) (edit : GateEdit × String) :
    lastAbout kind entry (edits ++ [edit])
      = if IsAbout kind entry edit then some edit.1 else lastAbout kind entry edits := by
  rw [lastAbout, List.reverse_concat, List.find?_cons]
  by_cases habout : IsAbout kind entry edit <;> simp [habout, lastAbout]

/-- **Which entries are there** after any number of edits. -/
theorem mem_entries_edited_iff (gate : Gate) (edits : List (GateEdit × String)) :
    entry ∈ (gate.edited edits).entries kind
      ↔ match lastAbout kind entry edits with
        | some edit => edit.adds = true
        | none => entry ∈ gate.entries kind := by
  induction edits using List.reverseRecOn with
  | nil => rfl
  | append_singleton edits edit ih =>
    rw [edited_concat, mem_entries_edit_iff, lastAbout_concat]
    by_cases habout : IsAbout kind entry edit
    · simp only [if_pos habout]
    · simp only [if_neg habout, ih]

/-! ## Texts with the same normal form -/

/-- **Edits that are the same** but for how their texts are written. -/
def SameEdit (edit other : GateEdit × String) : Prop :=
  edit.1 = other.1 ∧ normalForm edit.2 = normalForm other.2

/-- Edits that are the same do the same, and give the same answer. -/
theorem edit_eq_of_sameEdit {edit other : GateEdit × String} (h : SameEdit edit other)
    (gate : Gate) : gate.edit edit.1 edit.2 = gate.edit other.1 other.2 := by
  rw [Gate.edit, h.1, h.2, Gate.edit]

theorem edited_eq_of_sameEdits {edits others : List (GateEdit × String)}
    (h : List.Forall₂ SameEdit edits others) (gate : Gate) :
    gate.edited edits = gate.edited others := by
  induction h generalizing gate with
  | nil => rfl
  | cons hsame _ ih => rw [edited_cons, edited_cons, edit_eq_of_sameEdit hsame, ih]

/-! ## The last word -/

/-- **The last edit wins.** Let any edits be made at any gate. Then an entry is there just if the
last edit about it was one that adds, or if none was about it and it was there from the start.

One more edit answers whether it changed what it concerns, and leaves what it does not concern. And
how the texts were written does not matter: with other texts of the same normal forms the gate comes
to be the same, the next edit does and answers the same, and the same is logged about it. -/
theorem last_edit_wins (gate : Gate) (edits : List (GateEdit × String)) :
    (∀ kind entry, entry ∈ (gate.edited edits).entries kind
        ↔ match lastAbout kind entry edits with
          | some edit => edit.adds = true
          | none => entry ∈ gate.entries kind)
      ∧ (∀ edit text,
        let before := gate.edited edits
        let after := gate.edited (edits ++ [(edit, text)])
        ((before.edit edit text).1 = true ↔ after.entries edit ≠ before.entries edit)
          ∧ ∀ other : GateEdit, edit.isBlock ≠ other.isBlock →
            after.entries other = before.entries other)
      ∧ ∀ others, List.Forall₂ SameEdit edits others →
        gate.edited others = gate.edited edits
          ∧ ∀ edit other, SameEdit edit other →
            (gate.edited others).edit other.1 other.2 = (gate.edited edits).edit edit.1 edit.2
              ∧ editRecord other.1 other.2 = editRecord edit.1 edit.2 := by
  refine ⟨fun kind entry => mem_entries_edited_iff gate edits, fun edit text => ?_,
    fun others hothers => ?_⟩
  · simp only [edited_concat]
    exact ⟨edit_answers_iff _ edit text, fun other hother => entries_edit_of_ne _ text hother⟩
  · have hgate := edited_eq_of_sameEdits hothers gate
    refine ⟨hgate.symm, fun edit other hsame => ⟨?_, ?_⟩⟩
    · rw [hgate, edit_eq_of_sameEdit hsame]
    · rw [editRecord, editRecord, hsame.1, hsame.2]

/-- A command is allowed and taken away again under two spellings, and a command with an argument is
blocked. Written otherwise, the edits make the same gate. -/
theorem last_edit_wins_of_spellings :
    let gate := ofLists ["pwd"] []
    let edits : List (GateEdit × String) :=
      [(.allow, " LS"), (.block, "Cd\tHome"), (.disallow, "ls ")]
    let others : List (GateEdit × String) :=
      [(.allow, "ls"), (.block, "cd home"), (.disallow, "Ls")]
    "ls" ∉ (gate.edited edits).entries .allow ∧ "pwd" ∈ (gate.edited edits).entries .allow
      ∧ "cd home" ∈ (gate.edited edits).entries .block
      ∧ (gate.edited (edits ++ [(.unblock, "cd HOME")])).entries .allow
        = (gate.edited edits).entries .allow
      ∧ gate.edited others = gate.edited edits := by
  intro gate edits others
  obtain ⟨hmem, hnext, hsame⟩ := last_edit_wins gate edits
  have hforms : normalForm " LS" = "ls" ∧ normalForm "Cd\tHome" = "cd home"
      ∧ normalForm "ls " = "ls" ∧ normalForm "ls" = "ls" ∧ normalForm "cd home" = "cd home"
      ∧ normalForm "Ls" = "ls" := by decide +kernel
  have hsames : List.Forall₂ SameEdit edits others := by simp [edits, others, SameEdit, hforms]
  have hgone : "ls" ∉ (gate.edited edits).entries .allow := by
    have hlast : lastAbout .allow "ls" edits = some .disallow := by
      simp [lastAbout, IsAbout, edits, hforms, GateEdit.isBlock]
    rw [hmem, hlast]
    decide
  have hkept : "pwd" ∈ (gate.edited edits).entries .allow := by
    have hlast : lastAbout .allow "pwd" edits = none := by
      simp [lastAbout, IsAbout, edits, hforms, GateEdit.isBlock]
    rw [hmem, hlast]
    decide +kernel
  have hblocked : "cd home" ∈ (gate.edited edits).entries .block := by
    have hlast : lastAbout .block "cd home" edits = some .block := by
      simp [lastAbout, IsAbout, edits, hforms, GateEdit.isBlock]
    rw [hmem, hlast]
    decide
  exact ⟨hgone, hkept, hblocked, (hnext .unblock "cd HOME").2 .allow (by decide),
    (hsame others hsames).1⟩

end Gate

end StoryShell
