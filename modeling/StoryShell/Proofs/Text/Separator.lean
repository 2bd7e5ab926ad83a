/-
Separators and lower case.

Lower case looks at the characters around a sigma, so the lower case of a text is not the lower case
of its characters one by one, and not even that of its parts put together. It is so where the parts
are divided by a character that lower case leaves alone and that ends a word for the rule of the
sigma: a **separator**. The blanks are separators, and so is the slash.

What has to be checked about the tables of letter case is checked once, in
`tables_leave_separators`: no run of capital letters starts at a separator or leads to one, and no
separator is among the cased letters or the characters that are looked through.
-/
import StoryShell.Text.Blank
import StoryShell.Text.LetterCase

set_option autoImplicit false

namespace StoryShell.Text

/-! ## The tables -/

/-- The code points of the separators. -/
def separatorRanges : List (Nat × Nat) := (0x2f, 0x2f) :: blankRanges

/-- Two ranges without a common number. -/
def Apart (a b : Nat × Nat) : Prop := a.2 < b.1 ∨ b.2 < a.1

instance (a b : Nat × Nat) : Decidable (Apart a b) :=
  inferInstanceAs (Decidable (_ ∨ _))

/-- A run of capital letters that lies apart from a range, as do the lower cases of its letters. -/
def CaseRun.Avoids (run : CaseRun) (range : Nat × Nat) : Prop :=
  Apart range (run.first, run.last)
    ∧ ((range.2 : Int) < run.first + run.shift ∨ (run.last + run.shift : Int) < range.1)

instance (run : CaseRun) (range : Nat × Nat) : Decidable (run.Avoids range) :=
  inferInstanceAs (Decidable (_ ∧ _))

/-- **The tables have nothing to do with separators.** -/
theorem tables_leave_separators : ∀ range ∈ separatorRanges,
    0 < range.1 ∧ (∀ run ∈ caseRuns, run.Avoids range)
      ∧ (∀ cased ∈ casedRanges, Apart range cased)
      ∧ ∀ ignorable ∈ caseIgnorableRanges, Apart range ignorable := by
  decide +kernel

/-- A number in a list of ranges lies in one of them. -/
theorem exists_of_inRanges {ranges : List (Nat × Nat)} {n : Nat} (h : inRanges ranges n = true) :
    ∃ range ∈ ranges, range.1 ≤ n ∧ n ≤ range.2 := by
  induction ranges with
  | nil => simp [inRanges] at h
  | cons range rest ih =>
    simp only [inRanges, Bool.and_eq_true, Bool.or_eq_true, decide_eq_true_eq] at h
    obtain ⟨hlow, hhigh | hrest⟩ := h
    · exact ⟨range, List.mem_cons_self, hlow, hhigh⟩
    · obtain ⟨found, hmem, hbounds⟩ := ih hrest
      exact ⟨found, List.mem_cons_of_mem _ hmem, hbounds⟩

/-- A number is in no list of ranges that all lie apart from one that it is in. -/
theorem inRanges_eq_false {ranges : List (Nat × Nat)} {range : Nat × Nat} {n : Nat}
    (hlow : range.1 ≤ n) (hhigh : n ≤ range.2) (h : ∀ other ∈ ranges, Apart range other) :
    inRanges ranges n = false := by
  rw [Bool.eq_false_iff]
  intro hin
  obtain ⟨other, hmem, hother⟩ := exists_of_inRanges hin
  have hapart : range.2 < other.1 ∨ other.2 < range.1 := h other hmem
  omega

/-- A code point of one of the letters of a run. -/
def CaseRun.Has (run : CaseRun) (n : Nat) : Prop :=
  run.first ≤ n ∧ n ≤ run.last ∧ (n - run.first) % run.step = 0

/-- The table leaves a code point alone, or moves it by the shift of a run that has it. -/
theorem lowerCode_cases (runs : List CaseRun) (n : Nat) :
    lowerCode runs n = n
      ∨ ∃ run ∈ runs, run.Has n ∧ lowerCode runs n = (n + run.shift).toNat := by
  induction runs with
  | nil => exact .inl rfl
  | cons run rest ih =>
    simp only [lowerCode]
    split
    · exact .inl rfl
    · split
      · rename_i hfirst hrun
        simp only [Bool.and_eq_true, decide_eq_true_eq, beq_iff_eq] at hrun
        exact .inr ⟨run, List.mem_cons_self, ⟨Nat.not_lt.1 hfirst, hrun⟩, rfl⟩
      · rcases ih with hsame | ⟨found, hmem, hmoved⟩
        · exact .inl hsame
        · exact .inr ⟨found, List.mem_cons_of_mem _ hmem, hmoved⟩

/-! ## Separators -/

/-- **A separator**: a character that is the lower case of itself and of nothing else, and at which
the rule of the final sigma stops looking. -/
structure IsSeparator (c : Char) : Prop where
  lowerChar_eq : lowerChar c = [c]
  eq_of_mem_lowerChar : ∀ d, c ∈ lowerChar d → d = c
  not_cased : isCased c = false
  not_ignorable : isCaseIgnorable c = false

/-- The character of a number has that number, unless it stands for a number without a character
and so has the number zero. -/
theorem toNat_ofNat_of_pos {n : Nat} (h : 0 < (Char.ofNat n).toNat) : (Char.ofNat n).toNat = n := by
  by_cases hvalid : n.isValidChar
  · rw [Char.ofNat, dif_pos hvalid]
    rfl
  · rw [Char.ofNat, dif_neg hvalid] at h
    exact absurd h (by decide)

/-- **What no run of capital letters touches** is brought forth by lower case from itself only,
unless it is one of the two characters that the dotted capital becomes. -/
theorem eq_of_mem_lowerChar_of_avoids {range : Nat × Nat} {c d : Char} (hpos : 0 < range.1)
    (hruns : ∀ run ∈ caseRuns, run.Avoids range) (hlow : range.1 ≤ c.toNat)
    (hhigh : c.toNat ≤ range.2) (hdotted : c ∉ ['i', '\u0307']) (h : c ∈ lowerChar d) : d = c := by
  rw [lowerChar] at h
  split at h
  · exact absurd h hdotted
  · have hc : c = Char.ofNat (lowerCode caseRuns d.toNat) := by simpa using h
    have hcode : c.toNat = lowerCode caseRuns d.toNat := by
      rw [hc]
      exact toNat_ofNat_of_pos (by rw [← hc]; omega)
    rcases lowerCode_cases caseRuns d.toNat with hsame | ⟨run, hrun, ⟨hfirst, hlast, -⟩, hmoved⟩
    · rw [hc, hsame, Char.ofNat_toNat]
    · have hclear := (hruns run hrun).2
      omega

/-- **What is in one of the ranges is a separator.** -/
theorem isSeparator_of_mem {range : Nat × Nat} {c : Char} (hmem : range ∈ separatorRanges)
    (hlow : range.1 ≤ c.toNat) (hhigh : c.toNat ≤ range.2) : IsSeparator c := by
  obtain ⟨hpos, hruns, hcased, hignorable⟩ := tables_leave_separators range hmem
  have hnot_cased : isCased c = false := inRanges_eq_false hlow hhigh hcased
  refine ⟨?_, ?_, hnot_cased, inRanges_eq_false hlow hhigh hignorable⟩
  · have hdotted : c ≠ 'İ' := by
      rintro rfl
      exact absurd hnot_cased (by decide)
    have hcode : lowerCode caseRuns c.toNat = c.toNat := by
      rcases lowerCode_cases caseRuns c.toNat with hsame | ⟨run, hrun, ⟨hfirst, hlast, -⟩, -⟩
      · exact hsame
      · have hapart : range.2 < run.first ∨ run.last < range.1 := (hruns run hrun).1
        omega
    rw [lowerChar, if_neg hdotted, hcode, Char.ofNat_toNat]
  · intro d hd
    refine eq_of_mem_lowerChar_of_avoids hpos hruns hlow hhigh ?_ hd
    -- the two characters that the dotted capital becomes are no separators
    have hnone : (['i', '\u0307'].all fun e => separatorRanges.all fun other =>
        decide (¬ (other.1 ≤ e.toNat ∧ e.toNat ≤ other.2))) = true := by decide
    simp only [List.all_eq_true, decide_eq_true_eq] at hnone
    exact fun hc => absurd ⟨hlow, hhigh⟩ (hnone c hc range hmem)

/-- Blanks are separators. -/
theorem isSeparator_of_isBlank {c : Char} (h : isBlank c = true) : IsSeparator c := by
  obtain ⟨range, hmem, hlow, hhigh⟩ := exists_of_inRanges h
  exact isSeparator_of_mem (List.mem_cons_of_mem _ hmem) hlow hhigh

/-- The slash is a separator. -/
theorem isSeparator_slash : IsSeparator '/' :=
  isSeparator_of_mem List.mem_cons_self (by decide) (by decide)

/-! ## Lower case of parts -/

/-- What stands behind a separator does not count for a sigma before it. -/
theorem startsCased_append_separator {c : Char} (hc : IsSeparator c) (first second : List Char) :
    startsCased (first ++ c :: second) = startsCased first := by
  induction first with
  | nil => simp [startsCased, hc.not_ignorable, hc.not_cased]
  | cons d rest ih =>
    by_cases hd : isCaseIgnorable d = true
    · simpa [startsCased, hd] using ih
    · simp [startsCased, hd]

/-- **Lower case goes by the parts between separators.** -/
theorem lowerFrom_append_separator {c : Char} (hc : IsSeparator c) (afterCased : Bool)
    (first second : List Char) :
    lowerFrom afterCased (first ++ c :: second)
      = lowerFrom afterCased first ++ c :: lowerFrom false second := by
  -- what the rule of the sigma sees on both sides does not reach over the separator
  induction first generalizing afterCased with
  | nil =>
    have hsigma : c ≠ 'Σ' := by
      rintro rfl
      exact absurd hc.not_cased (by decide)
    simp [lowerFrom, hsigma, hc.lowerChar_eq, hc.not_ignorable, hc.not_cased]
  | cons d rest ih =>
    simp only [List.cons_append, lowerFrom, startsCased_append_separator hc, ih,
      List.append_assoc]

/-- A character becomes at least one. -/
theorem lowerChar_ne_nil (c : Char) : lowerChar c ≠ [] := by
  rw [lowerChar]
  split <;> simp

/-- A text that has characters has some in lower case. -/
theorem lowerFrom_eq_nil_iff {afterCased : Bool} {text : List Char} :
    lowerFrom afterCased text = [] ↔ text = [] := by
  cases text with
  | nil => simp [lowerFrom]
  | cons c rest =>
    simp only [lowerFrom, List.append_eq_nil_iff, reduceCtorEq, iff_false, not_and]
    intro h
    split at h
    · simp at h
    · exact absurd h (lowerChar_ne_nil c)

/-- A separator that lower case brings forth from a character is that character. -/
theorem eq_of_mem_lower {c d : Char} (hc : IsSeparator c) (final : Bool)
    (h : c ∈ (if final then ['ς'] else lowerChar d)) : d = c := by
  cases final with
  | false => exact hc.eq_of_mem_lowerChar d h
  | true =>
    have hsigma : c = 'ς' := by simpa using h
    exact absurd (hsigma ▸ hc.not_cased) (by decide)

/-- **Lower case makes no separators.** -/
theorem mem_of_mem_lowerFrom {c : Char} (hc : IsSeparator c) {afterCased : Bool} {text : List Char}
    (h : c ∈ lowerFrom afterCased text) : c ∈ text := by
  induction text generalizing afterCased with
  | nil => simp [lowerFrom] at h
  | cons d rest ih =>
    rcases List.mem_append.1 h with h | h
    · exact List.mem_cons.2 (.inl (eq_of_mem_lower hc _ h).symm)
    · exact List.mem_cons_of_mem _ (ih h)

/-- The lower case of a text ends in a separator only if the text does. -/
theorem getLast?_of_getLast?_lowerFrom {c : Char} (hc : IsSeparator c) {afterCased : Bool}
    {text : List Char} (h : (lowerFrom afterCased text).getLast? = some c) :
    text.getLast? = some c := by
  induction text generalizing afterCased with
  | nil => simp [lowerFrom] at h
  | cons d rest ih =>
    rw [lowerFrom, List.getLast?_append] at h
    cases rest with
    | nil =>
      have hmem : c ∈ (if (d = 'Σ' && afterCased && !startsCased []) = true then ['ς']
          else lowerChar d) := by
        simpa [lowerFrom] using List.mem_of_getLast? (by simpa [lowerFrom] using h)
      simp [eq_of_mem_lower hc _ hmem]
    | cons e rest =>
      -- the last character comes from what follows, which is not empty in lower case either
      have hlast : (lowerFrom (if isCaseIgnorable d then afterCased else isCased d)
          (e :: rest)).getLast? = some c := by
        cases hcase : (lowerFrom (if isCaseIgnorable d then afterCased else isCased d)
            (e :: rest)).getLast? with
        | none =>
          rw [List.getLast?_eq_none_iff, lowerFrom_eq_nil_iff] at hcase
          simp at hcase
        | some last => simpa [hcase] using h
      rw [List.getLast?_cons_cons]
      exact ih hlast

end StoryShell.Text
