/-
Computations that succeed or fail, one after the other.

* `map_eq_ok`, `map_eq_error`: a computation followed by a function succeeds and fails as it does.
* `bind_eq_ok`: two computations succeed together if both do; `run_bind_of_ok` and
  `run_bind_of_error`: the same for computations that change a state.
* `cases_of_mapError_eq`: computations that are the same up to what their errors are.
* `foldlM_ok`, `foldlM_keeps`: what a fold comes to, from what each of its steps does;
  `foldlM_error`: where it fails.
-/

set_option autoImplicit false

namespace StoryShell

/-- A computation followed by a function succeeds if the computation does. -/
theorem map_eq_ok {ε α β : Type} {computed : Except ε α} {f : α → β} {value : β} :
    computed.map f = .ok value ↔ ∃ found, computed = .ok found ∧ f found = value := by
  cases computed <;> simp [Except.map]

/-- A computation followed by a function fails as the computation does. -/
theorem map_eq_error {ε α β : Type} {computed : Except ε α} {f : α → β} {error : ε} :
    computed.map f = .error error ↔ computed = .error error := by
  cases computed <;> simp [Except.map]

/-- Of two computations one after the other, both succeed or neither. -/
theorem bind_eq_ok {ε α β : Type} {first : Except ε α} {rest : α → Except ε β} {value : β} :
    (first >>= rest) = .ok value ↔ ∃ found, first = .ok found ∧ rest found = .ok value := by
  cases first <;> simp [bind, Except.bind]

/-- What has an outcome has succeeded with it. -/
theorem ok_of_toOption {ε α : Type} {computed : Except ε α} {value : α}
    (h : computed.toOption = some value) : computed = .ok value := by
  cases computed with
  | error error => exact absurd h (by simp [Except.toOption])
  | ok found => rw [Option.some.inj h]

/-- What has not succeeded has failed with an error. -/
theorem exists_error_of_isOk {ε α : Type} {computed : Except ε α} (h : computed.isOk = false) :
    ∃ error, computed = .error error := by
  cases computed with
  | error error => exact ⟨error, rfl⟩
  | ok value => exact absurd h (by simp [Except.isOk, Except.toBool])

/-- What has succeeded has an outcome. -/
theorem mem_toOption {ε α : Type} {computed : Except ε α} {value : α} (h : computed = .ok value) :
    value ∈ computed.toOption := by
  rw [h]
  rfl

/-- Computations that are the same up to what `f` makes of errors both give the same, or both fail
with errors that are the same to `f`. -/
theorem cases_of_mapError_eq {ε δ α : Type} {f : ε → δ} {first second : Except ε α}
    (h : first.mapError f = second.mapError f) :
    (∃ value, first = .ok value ∧ second = .ok value)
      ∨ ∃ error other, first = .error error ∧ second = .error other ∧ f error = f other := by
  cases first with
  | ok value =>
    cases second with
    | ok other => exact .inl ⟨value, rfl, congrArg Except.ok (Except.ok.inj h).symm⟩
    | error other => cases h
  | error error =>
    cases second with
    | ok other => cases h
    | error other => exact .inr ⟨error, other, rfl, rfl, Except.error.inj h⟩

/-- **What a fold comes to**: what every step keeps, and what every step settles for its item, if no
later step undoes it. -/
theorem foldlM_ok {ε α σ : Type} {f : σ → α → Except ε σ} (Inv : σ → Prop) (Done : α → σ → Prop)
    {items : List α}
    (hstep : ∀ {item state after}, item ∈ items → Inv state → f state item = .ok after →
      Inv after ∧ Done item after ∧ ∀ other, Done other state → Done other after)
    {state after : σ} (hstate : Inv state) (h : items.foldlM f state = .ok after) :
    Inv after ∧ (∀ item ∈ items, Done item after)
      ∧ ∀ other, Done other state → Done other after := by
  induction items generalizing state with
  | nil =>
    have hsame : state = after := by simpa [pure, Except.pure] using h
    rw [← hsame]
    exact ⟨hstate, by simp, fun _ hother => hother⟩
  | cons item rest ih =>
    rw [List.foldlM_cons, bind_eq_ok] at h
    obtain ⟨middle, hitem, hrest⟩ := h
    obtain ⟨hmiddle, hdone, hkept⟩ := hstep List.mem_cons_self hstate hitem
    obtain ⟨hafter, hall, hlater⟩ :=
      ih (fun hmem => hstep (List.mem_cons_of_mem _ hmem)) hmiddle hrest
    refine ⟨hafter, fun other hother => ?_, fun other hother => hlater other (hkept other hother)⟩
    rcases List.mem_cons.1 hother with rfl | hother
    · exact hlater _ hdone
    · exact hall other hother

/-- **What every step of a fold keeps**, the fold keeps. -/
theorem foldlM_keeps {ε α σ : Type} {f : σ → α → Except ε σ} (Inv : σ → Prop) {items : List α}
    (hstep : ∀ {item state after}, Inv state → f state item = .ok after → Inv after)
    {state after : σ} (hstate : Inv state) (h : items.foldlM f state = .ok after) : Inv after :=
  (foldlM_ok Inv (fun _ _ => True)
    (fun _ hstate hitem => ⟨hstep hstate hitem, trivial, fun _ _ => trivial⟩) hstate h).1

/-- **A fold that fails** fails at one of its items. -/
theorem foldlM_error {ε α σ : Type} {f : σ → α → Except ε σ} {items : List α} {state : σ}
    {error : ε} (h : items.foldlM f state = .error error) :
    ∃ item ∈ items, ∃ middle, f middle item = .error error := by
  induction items generalizing state with
  | nil => simp [pure, Except.pure] at h
  | cons item rest ih =>
    rw [List.foldlM_cons] at h
    cases hitem : f state item with
    | error found =>
      rw [hitem] at h
      exact ⟨item, List.mem_cons_self, state, hitem.trans h⟩
    | ok middle =>
      rw [hitem] at h
      obtain ⟨other, hother, found⟩ := ih h
      exact ⟨other, List.mem_cons_of_mem _ hother, found⟩

/-! ## With a state -/

section State

variable {ε σ α β : Type} {first : ExceptT ε (StateM σ) β} {rest : β → ExceptT ε (StateM σ) α}
  {state middle : σ}

/-- After a value is given, the rest is computed from it, in the state that was left. -/
theorem run_bind_of_ok {found : β} (h : first.run.run state = (.ok found, middle)) :
    (first >>= rest).run.run state = (rest found).run.run middle := by
  rw [ExceptT.run_bind, StateT.run_bind, h]
  rfl

/-- After something is thrown, the rest is left out. -/
theorem run_bind_of_error {thrown : ε} (h : first.run.run state = (.error thrown, middle)) :
    (first >>= rest).run.run state = (.error thrown, middle) := by
  rw [ExceptT.run_bind, StateT.run_bind, h]
  rfl

end State

end StoryShell
