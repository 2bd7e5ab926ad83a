/-
What publishing a result can change, and that an error changes nothing but the console.

No observer touches the file system, the interpreter, the tracker or the list of observers
(`publish_fixed`), and what is kept by printing, by logging and by following the result is kept by
publishing it (`publish_preserves`). With the observers that a session starts with, publishing is
one equation (`publish_of_observers`). The scene and the tracker ignore errors, so after an error
the session differs at most by its console (`publish_of_isError`), which shows at most one more
text.
-/
import StoryShell.Session

set_option autoImplicit false

namespace StoryShell

/-! ## Delivery -/

/-- What every call and every note keeps, a delivery keeps. -/
theorem Bus.deliver_keeps {κ σ : Type} {P : σ → Prop} {call : κ → σ → Bus.Ending × σ}
    {note : κ → σ → σ} (hcall : ∀ subscriber state, P state → P (call subscriber state).2)
    (hnote : ∀ subscriber state, P state → P (note subscriber state)) (subscribers : List κ)
    {state : σ} (h : P state) : P (Bus.deliver call note subscribers state).2 := by
  induction subscribers generalizing state with
  | nil => exact h
  | cons subscriber rest ih =>
    have hcalled := hcall subscriber state h
    rw [Bus.deliver]
    -- the call returned, failed or was interrupted
    split
    · rename_i after heq
      rw [heq] at hcalled
      exact ih hcalled
    · rename_i after heq
      rw [heq] at hcalled
      exact ih (hnote subscriber after hcalled)
    · rename_i after heq
      rw [heq] at hcalled
      exact hcalled

/-- **Two deliveries to the same subscribers stay related** if their calls end alike and keep the
relation, and their notes keep it. -/
theorem Bus.deliver_related {κ σ τ : Type} {R : σ → τ → Prop} {call : κ → σ → Bus.Ending × σ}
    {other : κ → τ → Bus.Ending × τ} {note : κ → σ → σ} {otherNote : κ → τ → τ}
    (hcall : ∀ subscriber state beside, R state beside →
      (call subscriber state).1 = (other subscriber beside).1
        ∧ R (call subscriber state).2 (other subscriber beside).2)
    (hnote : ∀ subscriber state beside, R state beside →
      R (note subscriber state) (otherNote subscriber beside)) (subscribers : List κ) {state : σ}
    {beside : τ} (h : R state beside) :
    R (Bus.deliver call note subscribers state).2
      (Bus.deliver other otherNote subscribers beside).2 := by
  induction subscribers generalizing state beside with
  | nil => exact h
  | cons subscriber rest ih =>
    obtain ⟨hending, hcalled⟩ := hcall subscriber state beside h
    rw [Bus.deliver, Bus.deliver]
    rcases hleft : call subscriber state with ⟨ending, after⟩
    rcases hright : other subscriber beside with ⟨sameEnding, afterBeside⟩
    rw [hleft, hright] at hending hcalled
    simp only at hending hcalled
    rw [← hending]
    cases ending with
    | returned => exact ih hcalled
    | failed => exact ih (hnote subscriber _ _ hcalled)
    | interrupted => exact hcalled

/-- **A delivery reaches everyone** if no call is interrupted. -/
theorem Bus.deliver_completes {κ σ : Type} {call : κ → σ → Bus.Ending × σ} {note : κ → σ → σ}
    (hcall : ∀ subscriber state, (call subscriber state).1 ≠ .interrupted) (subscribers : List κ)
    (state : σ) : (Bus.deliver call note subscribers state).1 = true := by
  induction subscribers generalizing state with
  | nil => rfl
  | cons subscriber rest ih =>
    have hcalled := hcall subscriber state
    rw [Bus.deliver]
    split
    · exact ih _
    · exact ih _
    · rename_i after heq
      rw [heq] at hcalled
      exact absurd rfl hcalled

/-! ## Consoles -/

/-- A console shows at most one more text. -/
theorem Console.observe_cases (console : Console) (result : Result) :
    (console.observe result).1 = console
      ∨ ∃ line, (console.observe result).1
        = { console with transcript := console.transcript ++ [line] } := by
  simp only [Console.observe]
  split
  · exact .inl rfl
  · exact .inr ⟨_, rfl⟩

/-- All that a console does outwardly is to print a text, if it does anything. -/
theorem Console.events_observe (console : Console) (result : Result) :
    (console.observe result).2 = [] ∨ ∃ text, (console.observe result).2 = [.printed text] := by
  simp only [Console.observe]
  split
  · exact .inl rfl
  · cases console.prints with
    | false => exact .inl rfl
    | true => exact .inr ⟨_, rfl⟩

namespace Session

/-! ## Any result -/

/-- **What no observer touches**, publishing leaves as it is. -/
theorem publish_fixed (session : Session) (result : Result) :
    (session.publish result).1.fs = session.fs
      ∧ (session.publish result).1.interpreter = session.interpreter
      ∧ (session.publish result).1.tracker = session.tracker
      ∧ (session.publish result).1.observers = session.observers := by
  refine Bus.deliver_keeps (P := fun state : Session × List Event => state.1.fs = session.fs
      ∧ state.1.interpreter = session.interpreter ∧ state.1.tracker = session.tracker
      ∧ state.1.observers = session.observers) ?_ ?_ session.observers ⟨rfl, rfl, rfl, rfl⟩
  · -- an observer changes the console, the scene or how far the story has come
    rintro (_ | _ | _ | _) ⟨state, events⟩ h <;> exact h
  · rintro observer ⟨state, events⟩ h
    exact h

/-- **What publishing preserves**, whoever observes: what holds of the progress and the events when
it begins, and is kept when a text is printed, when a record is logged and when the tracker follows
the result. -/
theorem publish_preserves (session : Session) (result : Result) {P : Progress → List Event → Prop}
    (hprinted : ∀ progress events text, P progress events → P progress (events ++ [.printed text]))
    (hlogged : ∀ progress events record,
      P progress events → P progress (events ++ [.logged record]))
    (hfollowed : ∀ progress events, P progress events →
      P (session.tracker.handle progress session.fs.forest result).2.progress
        (events ++ (session.tracker.handle progress session.fs.forest result).2.events))
    (h : P session.progress [.published result]) :
    P (session.publish result).1.progress (session.publish result).2 := by
  refine (Bus.deliver_keeps (P := fun state : Session × List Event =>
    (state.1.fs = session.fs ∧ state.1.tracker = session.tracker) ∧ P state.1.progress state.2)
    ?_ ?_ session.observers ⟨⟨rfl, rfl⟩, h⟩).2
  · rintro (_ | _ | _ | ⟨name, fails⟩) ⟨state, events⟩ ⟨⟨hfs, htracker⟩, hstate⟩
    · refine ⟨⟨hfs, htracker⟩, ?_⟩
      show P state.progress (events ++ (state.console.observe result).2)
      rcases state.console.events_observe result with hsilent | ⟨text, hprints⟩
      · rwa [hsilent, List.append_nil]
      · rw [hprints]
        exact hprinted _ _ text hstate
    · exact ⟨⟨hfs, htracker⟩, hstate⟩
    · refine ⟨⟨hfs, htracker⟩, ?_⟩
      rw [observe, hfs, htracker]
      exact hfollowed _ _ hstate
    · exact ⟨⟨hfs, htracker⟩, hstate⟩
  · rintro observer ⟨state, events⟩ ⟨hfixed, hstate⟩
    exact ⟨hfixed, hlogged _ _ _ hstate⟩

/-! ## Publishing to the observers of a start -/

/-- **What publishing comes to**, when the observers are those that a session starts with: the
console shows the result, the scene and the tracker follow it, and if a listener of the tracker
fails then that is noted. -/
theorem publish_of_observers {session : Session} (result : Result)
    (hobservers : session.observers = [.console, .scene, .tracker]) :
    let advance := (session.tracker.handle session.progress session.fs.forest result).2
    session.publish result
      = ({ session with
            console := (session.console.observe result).1
            scene := session.scene.observe session.fs.forest result
            progress := advance.progress },
        .published result :: (session.console.observe result).2 ++ advance.events
          ++ if advance.failure.isSome then
              [.logged (Bus.failureRecord Observer.tracker.label result.command)] else []) := by
  intro advance
  rw [publish, hobservers]
  simp only [Bus.deliver, observe]
  -- the tracker comes last, so nobody is left to whom its failure could matter
  cases (session.tracker.handle session.progress session.fs.forest result).2.failure.isSome with
  | false => simp [advance, hobservers, Session.advance]
  | true => simp [advance, hobservers, Session.advance, note]

/-! ## Errors -/

/-- No milestone is reached by an error. -/
theorem handle_of_isError (tracker : Tracker) (progress : Progress) (forest : Forest)
    {result : Result} (h : result.isError = true) :
    tracker.handle progress forest result = (none, ⟨progress, [], none⟩) := by
  rw [Tracker.handle, Tracker.next?, if_pos h]

/-- **An error that is published reaches the console only.** -/
theorem publish_of_isError {session : Session} {result : Result} (h : result.isError = true)
    (hobservers : session.observers = [.console, .scene, .tracker]) :
    (session.publish result).1
      = { session with console := (session.console.observe result).1 } := by
  rw [publish_of_observers result hobservers, handle_of_isError _ _ _ h, Scene.observe, if_pos h]

end Session

end StoryShell
