/-
What is typed, written out again and read back.

A text is cut into words in two ways. The gate puts the whole text in lower case and cuts it then; a
line is cut first, and only its command is put in lower case. The words come out alike, since lower
case neither makes a blank nor takes one away (`Text.words_lower`).

So nothing is lost when the words are written out with single spaces between them: the normal form
of a text is its own normal form, a line is read back as the command and the arguments that it was
(`Line.parse_joinWords`), and an echo of what an echo has shown shows it again.
-/
import StoryShell.Proofs.Command.Execution
import StoryShell.Proofs.Gate.Edits

set_option autoImplicit false

namespace StoryShell

namespace Line

variable {raw token : String} {arguments : List String}

/-- **Words that are put together** make a line of the first of them and the others. -/
theorem parse_joinWords (h : ∀ word ∈ token :: arguments, Text.IsWord word) :
    parse (Text.joinWords (token :: arguments)) = ⟨token, arguments⟩ :=
  parse_of_words (Text.words_joinWords h)

/-- **A line is read back** from its command and its arguments. The blank line is the same as the
empty one. -/
theorem read_back (raw : String) :
    let line := parse raw
    let again := parse (Text.joinWords (line.command :: line.arguments))
    again.command = line.command ∧ again.arguments = line.arguments := by
  intro line again
  by_cases hblank : line.command = ""
  · have hline : line = ⟨"", []⟩ := by
      simp only [line, parse, command_eq_empty_iff.1 hblank]
    have hagain : again = ⟨"", []⟩ := by
      simp only [again, hline]
      decide +kernel
    rw [hagain, hline]
    exact ⟨rfl, rfl⟩
  · obtain ⟨token, arguments, hwords⟩ :=
      List.exists_cons_of_ne_nil (mt command_eq_empty_iff.2 hblank)
    have hline : line = ⟨token, arguments⟩ := parse_of_words hwords
    have htoken : Text.IsWord (Text.lower token) :=
      Text.isWord_lower (Text.isWord_of_mem_words (hwords ▸ List.mem_cons_self))
    have hagain : again = ⟨Text.lower token, arguments⟩ := by
      simp only [again, hline, command]
      refine parse_joinWords (List.forall_mem_cons.2 ⟨htoken, fun word hword => ?_⟩)
      exact Text.isWord_of_mem_words (hwords ▸ List.mem_cons_of_mem _ hword)
    rw [hagain, hline]
    exact ⟨Text.lower_lower token, rfl⟩

end Line

namespace Interpreter

variable {raw : String} {arguments : List String}

/-- **An echo shows its arguments**, whatever calls of the tree are out of order. -/
theorem result_execute_echo (interpreter : Interpreter) (fs : FileSystem) (held : List NodeId)
    (h : (Line.parse raw).command = "echo") :
    (interpreter.execute fs held raw).result
      = .success "echo" (Text.joinWords (Line.parse raw).arguments) [] none := by
  have hname : Command.ofName? "echo" = some .echo := by decide
  simp [execute, h, hname, carryOut, echo]

/-- `echo` and words with single spaces between them shows just these. -/
theorem result_execute_echo_joinWords (interpreter : Interpreter) (fs : FileSystem)
    (held : List NodeId) (h : ∀ argument ∈ arguments, Text.IsWord argument) :
    (interpreter.execute fs held ("echo " ++ Text.joinWords arguments)).result
      = .success "echo" (Text.joinWords arguments) [] none := by
  have hspace : "echo " = "echo" ++ " " := by decide
  have hparse : Line.parse ("echo " ++ Text.joinWords arguments) = ⟨"echo", arguments⟩ := by
    refine Line.parse_of_words ?_
    rw [hspace, Text.words_append_space, Text.words_of_isWord (by decide),
      Text.words_joinWords h, List.singleton_append]
  have hcommand : (Line.parse ("echo " ++ Text.joinWords arguments)).command = "echo" := by
    rw [hparse]
    exact (by decide : Text.lower "echo" = "echo")
  rw [result_execute_echo interpreter fs held hcommand, hparse]

end Interpreter

/-- **The two ways to cut a text agree.** Take any text. The words of its normal form are its words
in lower case, and its normal form is its own normal form. Read as a line, it is read back from its
command and its arguments with single spaces between them. And if its command is an echo, it shows
its arguments so; then `echo` and what was shown has the very same result. -/
theorem normal_forms_agree (text : String) :
    let line := Line.parse text
    let again := Line.parse (Text.joinWords (line.command :: line.arguments))
    Text.words (Gate.normalForm text) = (Text.words text).map Text.lower
      ∧ Gate.normalForm (Gate.normalForm text) = Gate.normalForm text
      ∧ (again.command = line.command ∧ again.arguments = line.arguments)
      ∧ (line.command = "echo" →
        ∀ (interpreter : Interpreter) (fs other : FileSystem) (held more : List NodeId),
          let shown := (interpreter.execute fs held text).result
          shown = .success "echo" (Text.joinWords line.arguments) [] none
            ∧ (interpreter.execute other more ("echo " ++ shown.output)).result = shown) := by
  intro line again
  refine ⟨?_, Gate.normalForm_normalForm text, Line.read_back text,
    fun hecho interpreter fs other held more => ?_⟩
  · rw [Gate.words_normalForm, Text.words_lower]
  · intro shown
    have hshown : shown = .success "echo" (Text.joinWords line.arguments) [] none :=
      interpreter.result_execute_echo fs held hecho
    refine ⟨hshown, ?_⟩
    rw [hshown]
    exact interpreter.result_execute_echo_joinWords other more
      fun _ => Line.isWord_of_mem_arguments

/-- An echo in capitals, with a tab and with words that end in a sigma and begin with a dotted I. -/
theorem normal_forms_agree_of_echo :
    let text := "  ECHO\tΟΔΟΣ  İs "
    (Line.parse text).command = "echo" ∧ (Line.parse text).arguments = ["ΟΔΟΣ", "İs"]
      ∧ Text.words (Gate.normalForm text) = ["echo", "οδος", "i̇s"]
      ∧ (Interpreter.sound.execute .initial [] ("echo " ++ "ΟΔΟΣ İs")).result
        = .success "echo" "ΟΔΟΣ İs" [] none := by
  intro text
  have hparse : Line.parse text = ⟨"ECHO", ["ΟΔΟΣ", "İs"]⟩ := by decide +kernel
  have hecho : (Line.parse text).command = "echo" := by
    rw [hparse]
    decide +kernel
  obtain ⟨hwords, -, -, hechoes⟩ := normal_forms_agree text
  obtain ⟨hshown, hagain⟩ := hechoes hecho .sound .initial .initial [] []
  refine ⟨hecho, by rw [hparse], ?_, ?_⟩
  · rw [hwords]
    decide +kernel
  · rw [hshown, hparse] at hagain
    exact hagain

end StoryShell
