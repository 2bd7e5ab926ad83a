/-
Lower case is final, and goes by the words.

A text in lower case is its own lower case (`lower_lower`). What has to be checked about the table
is that no letter of a run moves to a letter of a run, nor to the dotted capital (`tables_settle`).
The rule of the sigma does no harm, since a character that stands for itself is no capital sigma.

Blanks are separators, so the words of a text in lower case are its words in lower case
(`words_lower`). Together the two say that a text made of lower-case words stays as it is.
-/
import StoryShell.Proofs.Text.Words

set_option autoImplicit false

namespace StoryShell.Text

/-! ## The tables -/

/-- Whether the table leaves alone every `step`-th code point from `low` to `high`, because they lie
before a run, behind it or between its letters. -/
def leaves (low high step : Nat) : List CaseRun → Bool
  | [] => true
  | run :: rest =>
    Nat.blt high run.first
      || ((Nat.blt run.last low
          || (Nat.beq run.step 2 && Nat.beq ((low + run.first) % 2) 1
            && (Nat.beq step 2 || Nat.beq low high)))
        && leaves low high step rest)

theorem lowerCode_of_leaves {low high step n : Nat} {runs : List CaseRun}
    (h : leaves low high step runs = true) (hlow : low ≤ n) (hhigh : n ≤ high)
    (hstep : (n - low) % step = 0) : lowerCode runs n = n := by
  induction runs with
  | nil => rfl
  | cons run rest ih =>
    simp only [leaves, Bool.or_eq_true, Bool.and_eq_true, Nat.blt_eq, Nat.beq_eq] at h
    rw [lowerCode]
    rcases h with hbefore | ⟨hmisses, hrest⟩
    · rw [if_pos (by omega)]
    · -- `n` is no letter of the run, so the table is looked through further
      have hnot : ¬ (decide (n ≤ run.last) && (n - run.first) % run.step == 0) = true
          ∨ n < run.first := by
        simp only [Bool.and_eq_true, decide_eq_true_eq, beq_iff_eq]
        rcases hmisses with hbehind | ⟨⟨htwo, hodd⟩, rfl | hsingle⟩
        · omega
        · rw [htwo]
          omega
        · rw [htwo]
          omega
      by_cases hfirst : n < run.first
      · rw [if_pos hfirst]
      · rw [if_neg hfirst, if_neg (hnot.resolve_right hfirst), ih hrest]

/-- **No letter of the table moves to a letter of the table**, nor to the dotted capital. -/
theorem tables_settle : caseRuns.all (fun run =>
    decide (0 ≤ run.first + run.shift) && decide (run.Avoids (0x130, 0x130))
      && leaves (run.first + run.shift).toNat (run.last + run.shift).toNat run.step caseRuns)
    = true := by
  decide +kernel

/-- **What the table moves a code point to stays.** -/
theorem lowerCode_lowerCode (n : Nat) :
    lowerCode caseRuns (lowerCode caseRuns n) = lowerCode caseRuns n := by
  rcases lowerCode_cases caseRuns n with hsame | ⟨run, hrun, ⟨hfirst, hlast, hstep⟩, hmoved⟩
  · rw [hsame, hsame]
  · have hsettle := List.all_eq_true.1 tables_settle run hrun
    simp only [Bool.and_eq_true, decide_eq_true_eq] at hsettle
    obtain ⟨⟨hpos, -⟩, hleaves⟩ := hsettle
    rw [hmoved]
    refine lowerCode_of_leaves hleaves (by omega) (by omega) ?_
    have hshift : (n + run.shift).toNat - (run.first + run.shift).toNat = n - run.first := by omega
    rw [hshift, hstep]

/-! ## Lower case twice -/

/-- Lower case brings forth no dotted capital. -/
theorem dotted_not_mem_lowerChar (c : Char) : 'İ' ∉ lowerChar c := by
  intro h
  have hruns : ∀ run ∈ caseRuns, run.Avoids ('İ'.toNat, 'İ'.toNat) := by
    intro run hrun
    have hsettle := List.all_eq_true.1 tables_settle run hrun
    simp only [Bool.and_eq_true, decide_eq_true_eq] at hsettle
    exact hsettle.1.2
  have hc : c = 'İ' :=
    eq_of_mem_lowerChar_of_avoids (by decide) hruns (Nat.le_refl _) (Nat.le_refl _) (by decide) h
  rw [hc] at h
  exact absurd h (by decide)

/-- **A character in lower case stands for itself.** -/
theorem lowerChar_of_mem {c d : Char} (h : d ∈ lowerChar c) : lowerChar d = [d] := by
  have hne : d ≠ 'İ' := by
    rintro rfl
    exact dotted_not_mem_lowerChar c h
  rw [lowerChar] at h
  split at h
  · rcases List.mem_cons.1 h with rfl | h
    · decide
    · rw [List.mem_singleton.1 h]
      decide
  · have hd : d = Char.ofNat (lowerCode caseRuns c.toNat) := by simpa using h
    rcases Nat.eq_zero_or_pos d.toNat with hzero | hpos
    · -- a number without a character gives the character of number zero
      have hnull : d = Char.ofNat 0 := by rw [← hzero, Char.ofNat_toNat]
      rw [hnull]
      decide
    · have hcode : d.toNat = lowerCode caseRuns c.toNat := by
        rw [hd] at hpos ⊢
        exact toNat_ofNat_of_pos hpos
      rw [lowerChar, if_neg hne, hcode, lowerCode_lowerCode, ← hd]

/-- A text whose characters stand for themselves is its own lower case. -/
theorem lowerFrom_of_settled {afterCased : Bool} {text : List Char}
    (h : ∀ c ∈ text, lowerChar c = [c]) : lowerFrom afterCased text = text := by
  induction text generalizing afterCased with
  | nil => rfl
  | cons c rest ih =>
    have hc : lowerChar c = [c] := h c List.mem_cons_self
    have hsigma : c ≠ 'Σ' := by
      rintro rfl
      exact absurd hc (by decide)
    rw [lowerFrom, ih fun d hd => h d (List.mem_cons_of_mem _ hd)]
    simp [hsigma, hc]

/-- The characters of a text in lower case stand for themselves. -/
theorem settled_of_mem_lowerFrom {afterCased : Bool} {text : List Char} {c : Char}
    (h : c ∈ lowerFrom afterCased text) : lowerChar c = [c] := by
  induction text generalizing afterCased with
  | nil => simp [lowerFrom] at h
  | cons d rest ih =>
    rcases List.mem_append.1 h with h | h
    · split at h
      · rw [List.mem_singleton.1 h]
        decide
      · exact lowerChar_of_mem h
    · exact ih h

/-- **A text in lower case is its own lower case.** -/
theorem lower_lower (text : String) : lower (lower text) = lower text := by
  apply String.toList_injective
  rw [toList_lower, toList_lower]
  exact lowerFrom_of_settled fun c hc => settled_of_mem_lowerFrom hc

/-! ## Lower case of words -/

/-- **Lower case goes by the pieces between blanks.** -/
theorem splitAt_lowerFrom (text : List Char) :
    splitAt isBlank (lowerFrom false text) = (splitAt isBlank text).map (lowerFrom false) := by
  induction hlength : text.length using Nat.strong_induction_on generalizing text with
  | _ length ih =>
    by_cases hfree : ∀ c ∈ text, isBlank c = false
    · have hlower : ∀ c ∈ lowerFrom false text, isBlank c = false := by
        intro c hc
        by_contra hblank
        rw [Bool.not_eq_false] at hblank
        have hmem := mem_of_mem_lowerFrom (isSeparator_of_isBlank hblank) hc
        rw [hfree c hmem] at hblank
        exact absurd hblank (by decide)
      rw [splitAt_of_free hfree, splitAt_of_free hlower, List.map_singleton]
    · -- at a blank both sides are shorter
      push Not at hfree
      obtain ⟨c, hc, hblank⟩ := hfree
      rw [ne_eq, Bool.not_eq_false] at hblank
      obtain ⟨first, second, rfl⟩ := List.append_of_mem hc
      rw [List.length_append, List.length_cons] at hlength
      rw [lowerFrom_append_separator (isSeparator_of_isBlank hblank),
        splitAt_append_separator hblank, splitAt_append_separator hblank, List.map_append,
        ih first.length (by omega) first rfl, ih second.length (by omega) second rfl]

/-- **The words of a text in lower case** are its words in lower case. -/
theorem words_lower (text : String) : words (lower text) = (words text).map lower := by
  rw [words, words, pieces, pieces, toList_lower, splitAt_lowerFrom, List.filter_map, List.map_map,
    List.map_map]
  have hempty : ((fun piece : List Char => !piece.isEmpty) ∘ lowerFrom false)
      = fun piece => !piece.isEmpty := by
    funext piece
    have hnil : lowerFrom false piece = [] ↔ piece = [] := lowerFrom_eq_nil_iff
    rw [← List.isEmpty_iff, ← List.isEmpty_iff, ← Bool.eq_iff_iff] at hnil
    rw [Function.comp_apply, hnil]
  rw [hempty]
  refine List.map_congr_left fun piece _ => ?_
  rw [Function.comp_apply, Function.comp_apply, lower, String.toList_ofList]

/-- Lower case of words that are put together. -/
theorem lower_joinWords (parts : List String) :
    lower (joinWords parts) = joinWords (parts.map lower) := by
  rw [joinWords, joinWords]
  induction parts with
  | nil => simp [lower, lowerFrom]
  | cons part rest ih =>
    cases rest with
    | nil => rw [List.map_singleton, String.intercalate_singleton, String.intercalate_singleton]
    | cons second rest =>
      rw [List.map_cons, List.map_cons, String.intercalate_cons_cons, String.intercalate_cons_cons,
        lower_append_space, ih, List.map_cons]

end StoryShell.Text
