/-
Cutting text at separators, and lower case of what is cut.

Everything about the pieces of a text follows from two equations: at a separator the pieces of the
two sides are put together (`splitAt_append_separator`), and a text without separators is a single
piece (`splitAt_of_free`). With them a command and its argument are read back from the line that
they were put together to, and in lower case they are read back in lower case.

The slashes at the end of a text are the same before and after lower case
(`lower_slashless`).
-/
import Mathlib.Data.List.DropRight
import StoryShell.Proofs.Text.Separator

set_option autoImplicit false

namespace StoryShell.Text

/-! ## Pieces -/

variable {p : Char → Bool}

theorem splitAt_ne_nil (text : List Char) : splitAt p text ≠ [] := by
  cases text with
  | nil => simp [splitAt]
  | cons c rest =>
    rw [splitAt]
    split <;> simp

/-- **At a separator the pieces of the two sides are put together.** -/
theorem splitAt_append_separator {c : Char} (hc : p c = true) (first second : List Char) :
    splitAt p (first ++ c :: second) = splitAt p first ++ splitAt p second := by
  induction first with
  | nil => simp [splitAt, hc]
  | cons d rest ih =>
    simp only [List.cons_append, splitAt, ih]
    cases hd : p d with
    | true => simp
    | false =>
      obtain ⟨piece, pieces, hpieces⟩ := List.exists_cons_of_ne_nil (splitAt_ne_nil (p := p) rest)
      simp [hpieces]

/-- **A text without separators is a single piece.** -/
theorem splitAt_of_free {text : List Char} (h : ∀ c ∈ text, p c = false) :
    splitAt p text = [text] := by
  induction text with
  | nil => rfl
  | cons c rest ih =>
    have hrest : splitAt p rest = [rest] := ih fun d hd => h d (List.mem_cons_of_mem _ hd)
    simp [splitAt, h c List.mem_cons_self, hrest]

/-- There is no separator in a piece. -/
theorem free_of_mem_splitAt {text piece : List Char} (h : piece ∈ splitAt p text) :
    ∀ c ∈ piece, p c = false := by
  induction text generalizing piece with
  | nil =>
    have hnil : piece = [] := by simpa [splitAt] using h
    simp [hnil]
  | cons d rest ih =>
    obtain ⟨first, others, hsplit⟩ := List.exists_cons_of_ne_nil (splitAt_ne_nil (p := p) rest)
    rw [hsplit] at ih
    rw [splitAt, hsplit] at h
    -- a separator starts an empty piece, and anything else goes to the first one
    cases hd : p d with
    | true =>
      rw [hd] at h
      rcases List.mem_cons.1 h with rfl | h
      · simp
      · exact ih h
    | false =>
      rw [hd] at h
      rcases List.mem_cons.1 h with rfl | h
      · intro c hc
        rcases List.mem_cons.1 hc with rfl | hc
        · exact hd
        · exact ih List.mem_cons_self c hc
      · exact ih (List.mem_cons_of_mem _ h)

/-- The pieces of texts with a separator between them are those of the one and those of the
other. -/
theorem pieces_append_separator {separator : String} {c : Char}
    (hseparator : separator.toList = [c]) (hc : p c = true) (first second : String) :
    pieces p (first ++ separator ++ second) = pieces p first ++ pieces p second := by
  have htext : (first ++ separator ++ second).toList = first.toList ++ c :: second.toList := by
    simp [String.toList_append, hseparator]
  rw [pieces, htext, splitAt_append_separator hc]
  simp [pieces]

/-- **Pieces with a separator between them are read back.** -/
theorem pieces_intercalate {separator : String} {c : Char} (hseparator : separator.toList = [c])
    (hc : p c = true) {parts : List String} (h : ∀ part ∈ parts, pieces p part = [part]) :
    pieces p (String.intercalate separator parts) = parts := by
  induction parts with
  | nil => simp [pieces, splitAt]
  | cons part rest ih =>
    have hpart := h part List.mem_cons_self
    cases rest with
    | nil => rw [String.intercalate_singleton, hpart]
    | cons second rest =>
      rw [String.intercalate_cons_cons, pieces_append_separator hseparator hc, hpart,
        ih fun other hother => h other (List.mem_cons_of_mem _ hother), List.singleton_append]

/-- A text that has characters, but no separator, is its own piece. -/
theorem pieces_of_free {text : String} (hne : text ≠ "") (h : ∀ c ∈ text.toList, p c = false) :
    pieces p text = [text] := by
  have hlist : text.toList ≠ [] := by rw [ne_eq, String.toList_eq_nil_iff]; exact hne
  simp [pieces, splitAt_of_free h, hlist, String.ofList_toList]

/-- **There are no pieces** just if there is nothing but separators. -/
theorem pieces_eq_nil_iff {text : String} :
    pieces p text = [] ↔ ∀ c ∈ text.toList, p c = true := by
  rw [pieces, List.map_eq_nil_iff]
  induction text.toList with
  | nil => simp [splitAt]
  | cons c rest ih =>
    obtain ⟨piece, others, hsplit⟩ := List.exists_cons_of_ne_nil (splitAt_ne_nil (p := p) rest)
    rw [hsplit] at ih
    rw [splitAt, hsplit, List.forall_mem_cons, ← ih]
    cases hc : p c <;> simp

/-! ## Words -/

/-- **A word**: a text that has characters, and no blank among them. -/
structure IsWord (text : String) : Prop where
  ne_empty : text ≠ ""
  not_blank : ∀ c ∈ text.toList, isBlank c = false

instance (text : String) : Decidable (IsWord text) :=
  decidable_of_iff (text ≠ "" ∧ (text.toList.all fun c => !isBlank c) = true)
    ⟨fun ⟨hne, hall⟩ => ⟨hne, by simpa using hall⟩, fun h => ⟨h.ne_empty, by
      simpa using h.not_blank⟩⟩

/-- The words of a text are words. -/
theorem isWord_of_mem_words {text word : String} (h : word ∈ words text) : IsWord word := by
  obtain ⟨piece, hpiece, rfl⟩ := List.mem_map.1 h
  obtain ⟨hmem, hne⟩ := List.mem_filter.1 hpiece
  refine ⟨?_, ?_⟩
  · rw [ne_eq, String.ofList_eq_empty_iff]
    simpa using hne
  · rw [String.toList_ofList]
    exact free_of_mem_splitAt hmem

/-- A word by itself is its only word. -/
theorem words_of_isWord {word : String} (h : IsWord word) : words word = [word] :=
  pieces_of_free h.ne_empty h.not_blank

/-- The words of texts with a space between them are those of the one and those of the other. -/
theorem words_append_space (first second : String) :
    words (first ++ " " ++ second) = words first ++ words second := by
  have hspace : " ".toList = [' '] := by simp
  exact pieces_append_separator hspace (by decide) first second

/-- **Words that are put together are read back.** -/
theorem words_joinWords {parts : List String} (h : ∀ part ∈ parts, IsWord part) :
    words (joinWords parts) = parts :=
  pieces_intercalate (c := ' ') (by simp) (by decide) fun part hpart =>
    words_of_isWord (h part hpart)

/-- Two words with a space between them are read back. -/
theorem words_pair {first second : String} (hfirst : IsWord first) (hsecond : IsWord second) :
    words (first ++ " " ++ second) = [first, second] := by
  rw [words_append_space, words_of_isWord hfirst, words_of_isWord hsecond, List.singleton_append]

theorem toList_dropTrailing (text : String) :
    (dropTrailing p text).toList = text.toList.rdropWhile p :=
  String.toList_ofList

/-- A text that begins with a word does not vanish when it is trimmed. -/
theorem trim_ne_empty {word : String} (h : IsWord word) (rest : String) :
    trim (word ++ rest) ≠ "" := by
  have hne : word.toList ≠ [] := by rw [ne_eq, String.toList_eq_nil_iff]; exact h.ne_empty
  obtain ⟨c, others, hword⟩ := List.exists_cons_of_ne_nil hne
  have hc : isBlank c = false := h.not_blank c (by rw [hword]; exact List.mem_cons_self)
  rw [trim, ne_eq, ← String.toList_eq_nil_iff, toList_dropTrailing, List.rdropWhile_eq_nil_iff]
  intro hall
  have hblank := hall c (by simp [String.toList_append, hword, hc])
  rw [hc] at hblank
  exact absurd hblank (by decide)

/-- **Trimming leaves nothing of a text** just if the text has no words. -/
theorem trim_eq_empty_iff {text : String} : trim text = "" ↔ words text = [] := by
  rw [words, pieces_eq_nil_iff, trim, ← String.toList_eq_nil_iff, toList_dropTrailing,
    String.toList_ofList, List.rdropWhile_eq_nil_iff]
  constructor
  · intro h c hc
    -- what is dropped from the start is blank, and so is what is dropped from the end
    rw [← List.takeWhile_append_dropWhile (p := isBlank) (l := text.toList)] at hc
    rcases List.mem_append.1 hc with hstart | hend
    · exact List.mem_takeWhile_imp hstart
    · exact h c hend
  · intro h c hc
    exact h c (List.dropWhile_sublist _ |>.subset hc)

/-! ## Lower case -/

theorem toList_lower (text : String) : (lower text).toList = lowerFrom false text.toList :=
  String.toList_ofList

/-- Lower case goes by the parts on both sides of a space. -/
theorem lower_append_space (first second : String) :
    lower (first ++ " " ++ second) = lower first ++ " " ++ lower second := by
  have htext : (first ++ " " ++ second).toList = first.toList ++ ' ' :: second.toList := by
    simp [String.toList_append]
  apply String.toList_injective
  rw [toList_lower, htext, lowerFrom_append_separator (isSeparator_of_isBlank (by decide))]
  simp [String.toList_append, toList_lower]

/-- Only the empty text is empty in lower case. -/
theorem lower_eq_empty_iff {text : String} : lower text = "" ↔ text = "" := by
  rw [lower, String.ofList_eq_empty_iff, lowerFrom_eq_nil_iff, String.toList_eq_nil_iff]

/-- Lower case makes words of words. -/
theorem isWord_lower {word : String} (h : IsWord word) : IsWord (lower word) := by
  refine ⟨mt lower_eq_empty_iff.1 h.ne_empty, fun c hc => ?_⟩
  by_contra hblank
  rw [Bool.not_eq_false] at hblank
  rw [toList_lower] at hc
  have hmem : c ∈ word.toList := mem_of_mem_lowerFrom (isSeparator_of_isBlank hblank) hc
  rw [h.not_blank c hmem] at hblank
  exact absurd hblank (by decide)

/-- Blanks are kept in lower case. -/
theorem mem_lower_of_isBlank {c : Char} (hc : isBlank c = true) {text : String}
    (h : c ∈ text.toList) : c ∈ (lower text).toList := by
  obtain ⟨first, second, htext⟩ := List.append_of_mem h
  rw [toList_lower, htext, lowerFrom_append_separator (isSeparator_of_isBlank hc)]
  exact List.mem_append_right _ List.mem_cons_self

/-! ## Slashes at the end -/

/-- A text without the slashes at its end. -/
def slashless (text : String) : String := dropTrailing (· = '/') text

/-- **Lower case keeps the slashes at the end.** -/
theorem lower_slashless (text : String) : lower (slashless text) = slashless (lower text) := by
  apply String.toList_injective
  rw [slashless, slashless, toList_lower, toList_dropTrailing, toList_dropTrailing, toList_lower]
  -- from the end: a slash goes on both sides, and anything else stays on both
  induction text.toList using List.reverseRecOn with
  | nil => rfl
  | append_singleton text c ih =>
    by_cases hc : c = '/'
    · subst hc
      rw [List.rdropWhile_concat_pos _ _ _ (by simp), ih,
        lowerFrom_append_separator isSeparator_slash, lowerFrom,
        List.rdropWhile_concat_pos _ _ _ (by simp)]
    · rw [List.rdropWhile_concat_neg _ _ _ (by simpa using hc), eq_comm,
        List.rdropWhile_eq_self_iff]
      intro hne hlast
      have hslash : (lowerFrom false (text ++ [c])).getLast? = some '/' := by
        rw [List.getLast?_eq_some_getLast hne]
        simpa using hlast
      have hend := getLast?_of_getLast?_lowerFrom isSeparator_slash hslash
      rw [List.getLast?_concat] at hend
      exact hc (Option.some.inj hend)

/-- What is left of a word without the slashes at its end has no blanks. -/
theorem not_blank_slashless {word : String} (h : IsWord word) :
    ∀ c ∈ (slashless word).toList, isBlank c = false := by
  intro c hc
  rw [slashless, toList_dropTrailing] at hc
  exact h.not_blank c ((List.rdropWhile_prefix _ _).subset hc)

/-- A text keeps its end just if that is no slash. -/
theorem slashless_eq_self_iff {text : String} :
    slashless text = text ↔ text.toList.getLast? ≠ some '/' := by
  rw [← String.toList_inj, slashless, toList_dropTrailing, List.rdropWhile_eq_self_iff]
  constructor
  · intro h hlast
    have hne : text.toList ≠ [] := by
      intro hnil
      simp [hnil] at hlast
    rw [List.getLast?_eq_some_getLast hne] at hlast
    exact h hne (by simpa using hlast)
  · intro h hne hslash
    rw [List.getLast?_eq_some_getLast hne] at h
    exact h (by simpa using hslash)

/-- A text without slashes has none at its end. -/
theorem slashless_of_not_mem {text : String} (h : '/' ∉ text.toList) : slashless text = text :=
  slashless_eq_self_iff.2 fun hlast => h (List.mem_of_getLast? hlast)

/-- **Lower case ends in a slash just if the text does.** -/
theorem slashless_lower_eq_self_iff {text : String} :
    slashless (lower text) = lower text ↔ slashless text = text := by
  rw [slashless_eq_self_iff, slashless_eq_self_iff, toList_lower]
  refine not_congr ⟨getLast?_of_getLast?_lowerFrom isSeparator_slash, fun hlast => ?_⟩
  obtain ⟨start, hstart⟩ := List.getLast?_eq_some_iff.1 hlast
  rw [hstart, lowerFrom_append_separator isSeparator_slash, lowerFrom, List.getLast?_concat]

/-- A text of slashes is its own lower case. -/
theorem lower_of_slashless_eq_empty {text : String} (h : slashless text = "") :
    lower text = text := by
  rw [slashless, ← String.toList_eq_nil_iff, toList_dropTrailing, List.rdropWhile_eq_nil_iff] at h
  apply String.toList_injective
  rw [toList_lower]
  generalize text.toList = chars at h
  induction chars with
  | nil => rfl
  | cons c rest ih =>
    have hc : c = '/' := by simpa using h c List.mem_cons_self
    have hrest := lowerFrom_append_separator isSeparator_slash false [] rest
    rw [hc]
    rw [ih fun d hd => h d (List.mem_cons_of_mem _ hd)] at hrest
    exact hrest

/-- Lower case makes no slashes. -/
theorem slash_not_mem_lower {text : String} (h : '/' ∉ text.toList) :
    '/' ∉ (lower text).toList := by
  rw [toList_lower]
  exact fun hmem => h (mem_of_mem_lowerFrom isSeparator_slash hmem)

end StoryShell.Text
