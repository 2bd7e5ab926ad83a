/-
Texts that differ in case only.

Two texts are the same name if their lower cases are the same. What the gate and the tree look at in
such texts is then the same as well: what is left without the slashes at the end is the same name
(`lower_slashless`), nothing is left of both or of neither, and the two names with a meaning of
their own, `~` and `..`, have no other spelling (`eq_mark_iff`). So lines whose words are the same
names have the same command and arguments that are the same names (`SameWords`).
-/
import Mathlib.Data.List.Forall2
import StoryShell.Command.Line
import StoryShell.Proofs.Text.Words

set_option autoImplicit false

namespace StoryShell

namespace Text

/-! ## Marks -/

/-- The characters of the names with a meaning of their own. -/
def marks : List Char := ['.', '~']

/-- The tables have nothing to do with the marks. -/
theorem tables_leave_marks : ∀ c ∈ marks,
    0 < c.toNat ∧ (∀ run ∈ caseRuns, run.Avoids (c.toNat, c.toNat))
      ∧ c ∉ ['i', '\u0307'] ∧ c ≠ 'ς' := by
  -- the marks are gone through as a list, not as characters
  have hall : marks.all (fun c => decide (0 < c.toNat
      ∧ (∀ run ∈ caseRuns, run.Avoids (c.toNat, c.toNat)) ∧ c ∉ ['i', '\u0307'] ∧ c ≠ 'ς')) := by
    decide +kernel
  simpa only [List.all_eq_true, decide_eq_true_eq] using hall

/-- A character whose lower case is of marks is its own lower case. -/
theorem lowerChar_eq_of_marks {d : Char} (h : ∀ c ∈ lowerChar d, c ∈ marks) :
    lowerChar d = [d] := by
  have hsame : ∀ c ∈ lowerChar d, d = c := fun c hc => by
    obtain ⟨hpos, hruns, hdotted, -⟩ := tables_leave_marks c (h c hc)
    exact eq_of_mem_lowerChar_of_avoids hpos hruns (Nat.le_refl _) (Nat.le_refl _) hdotted hc
  rw [lowerChar] at h hsame ⊢
  split at h
  · exact absurd (h 'i' List.mem_cons_self) (by decide)
  · rename_i hdotted
    rw [if_neg hdotted] at hsame ⊢
    rw [← hsame _ List.mem_cons_self]

/-- **Lower case brings forth marks** from themselves only. -/
theorem eq_of_lowerFrom_eq (afterCased : Bool) {text mark : List Char}
    (hmark : ∀ c ∈ mark, c ∈ marks) (h : lowerFrom afterCased text = mark) : text = mark := by
  induction text generalizing afterCased mark with
  | nil => simpa [lowerFrom] using h
  | cons d rest ih =>
    rw [lowerFrom] at h
    split at h
    · -- a final sigma is no mark
      have hsigma := hmark 'ς' (by rw [← h]; simp)
      exact absurd rfl (tables_leave_marks 'ς' hsigma).2.2.2
    · have hd := lowerChar_eq_of_marks fun c hc =>
        hmark c (by rw [← h]; exact List.mem_append_left _ hc)
      have hrest := ih _ (fun c hc => hmark c (by rw [← h]; exact List.mem_append_right _ hc)) rfl
      rw [hd, ← hrest] at h
      exact h

variable {first second : String}

/-- **The names with a meaning of their own** have no other spelling. -/
theorem eq_mark_iff {mark : String} (hmark : ∀ c ∈ mark.toList, c ∈ marks)
    (hself : lower mark = mark) (h : lower first = lower second) :
    first = mark ↔ second = mark := by
  have hspelled : ∀ {text : String}, lower text = mark → text = mark := by
    intro text htext
    refine String.toList_injective (eq_of_lowerFrom_eq false hmark ?_)
    rw [← toList_lower, htext]
  constructor
  · rintro rfl
    exact hspelled (by rw [← h, hself])
  · rintro rfl
    exact hspelled (by rw [h, hself])

/-! ## Slashes at the end -/

/-- Without the slashes at their end, the same names are the same names. -/
theorem lower_slashless_congr (h : lower first = lower second) :
    lower (slashless first) = lower (slashless second) := by
  rw [lower_slashless, lower_slashless, h]

/-- A name has nothing but slashes if its other spellings have nothing else. -/
theorem slashless_eq_empty_congr (h : lower first = lower second) :
    slashless first = "" ↔ slashless second = "" := by
  rw [← lower_eq_empty_iff, lower_slashless_congr h, lower_eq_empty_iff]

/-! ## Lines -/

/-- **Lines of the same words**, but for case. -/
def SameWords (first second : String) : Prop :=
  (words first).map lower = (words second).map lower

instance (first second : String) : Decidable (SameWords first second) :=
  inferInstanceAs (Decidable (_ = _))

/-- Lines of the same words are both blank, or they have the same first words and the same words
behind them, but for case. -/
theorem SameWords.cases (h : SameWords first second) :
    (words first = [] ∧ words second = [])
      ∨ ∃ token other rest others, words first = token :: rest ∧ words second = other :: others
        ∧ lower token = lower other ∧ rest.map lower = others.map lower := by
  rw [SameWords] at h
  cases hfirst : words first with
  | nil =>
    rw [hfirst, List.map_nil] at h
    exact .inl ⟨rfl, List.map_eq_nil_iff.1 h.symm⟩
  | cons token rest =>
    rw [hfirst, List.map_cons] at h
    obtain ⟨other, others, hsecond, htoken, hrest⟩ := List.map_eq_cons_iff.1 h.symm
    exact .inr ⟨token, other, rest, others, rfl, hsecond, htoken.symm, hrest.symm⟩

/-- Lines of the same words are both blank or neither. -/
theorem SameWords.words_eq_nil_iff (h : SameWords first second) :
    words first = [] ↔ words second = [] := by
  rw [← List.map_eq_nil_iff (f := lower), h, List.map_eq_nil_iff]

end Text

namespace Line

variable {first second : String}

/-- Lines of the same words have the same command. -/
theorem command_congr (h : Text.SameWords first second) :
    (parse first).command = (parse second).command := by
  rw [command, command, parse, parse]
  rcases h.cases with ⟨hfirst, hsecond⟩ | ⟨token, other, rest, others, hfirst, hsecond, htoken, -⟩
  · rw [hfirst, hsecond]
  · rw [hfirst, hsecond]
    exact htoken

/-- **The arguments of lines of the same words** are the same names, one by one. -/
theorem arguments_congr (h : Text.SameWords first second) :
    List.Forall₂ (fun argument other => Text.lower argument = Text.lower other)
      (parse first).arguments (parse second).arguments := by
  have hmap : (parse first).arguments.map Text.lower = (parse second).arguments.map Text.lower := by
    rw [parse, parse]
    rcases h.cases with ⟨hfirst, hsecond⟩ | ⟨token, other, rest, others, hfirst, hsecond, -, hrest⟩
    · rw [hfirst, hsecond]
    · rw [hfirst, hsecond]
      exact hrest
  rw [← List.forall₂_eq_eq_eq, List.forall₂_map_left_iff, List.forall₂_map_right_iff] at hmap
  exact hmap

end Line

end StoryShell
