/-
Loading a document: a world is read from it, and a session is started there.

Loading tells about the shape of the document as reading does (`tells_load`), since building the
file system of a world that was read only ever fails with a path that is reported. So a document of
the right shape gives a session or a fault that is reported, and any other gives no session; but
what it fails with may be a fault of shape, and those are not reported.
-/
import StoryShell.Proofs.World.Faithful
import StoryShell.Proofs.World.Shape
import StoryShell.Session

set_option autoImplicit false

namespace StoryShell.Session

/-- **Loads a document**: reads a world from it, and starts a session there. -/
def load (json : Json) (everythingOpen : Bool) : Except LoadError (Session × List Event) :=
  World.decode json >>= fun world => ofWorld world everythingOpen

/-- Starting a session in a world that was read fails with a fault that is reported. -/
theorem tells_ofWorld {json : Json} {world : World} (h : World.decode json = .ok world)
    (everythingOpen : Bool) : Tells (ofWorld world everythingOpen) True := by
  rw [ofWorld]
  rcases World.build_cases h with ⟨fs, hbuild, -⟩ | ⟨entry, -, -, hbuild⟩
  · rw [hbuild]
    exact .of_ok trivial
  · rw [hbuild]
    exact .of_reported (by simp) rfl

/-- **Loading tells whether a document has the shape of a world.** -/
theorem tells_load (json : Json) (everythingOpen : Bool) :
    Tells (load json everythingOpen) (World.Shaped json) :=
  ((World.tells_decode json).bind fun _ hworld => tells_ofWorld hworld everythingOpen).congr
    (by rw [and_true])

/-- **What comes of loading a document.** One of the right shape gives a session, or a fault that is
reported. One of a wrong shape gives no session. Every fault is reported or one of the three faults
of shape, and none is the refusal of a file system. -/
theorem load_outcomes (json : Json) (everythingOpen : Bool) :
    (World.Shaped json → (∃ session, load json everythingOpen = .ok session)
        ∨ ∃ error, load json everythingOpen = .error error ∧ error.isReported = true)
      ∧ (¬ World.Shaped json → ∃ error, load json everythingOpen = .error error)
      ∧ ∀ error, load json everythingOpen = .error error →
        (∀ refusal, error ≠ .refused refusal)
          ∧ (error.isReported = true ∨ error = .notIndexable ∨ error = .notAnObject
            ∨ error = .notAList) := by
  have htells := tells_load json everythingOpen
  refine ⟨fun hshaped => ?_, fun hshaped => ?_, fun error herror => ?_⟩
  · cases hload : load json everythingOpen with
    | ok session => exact .inl ⟨session, rfl⟩
    | error error =>
      obtain ⟨-, hreported | hnot⟩ := htells.error hload
      · exact .inr ⟨error, rfl, hreported⟩
      · exact absurd hshaped hnot
  · cases hload : load json everythingOpen with
    | ok session => exact absurd (htells.ok hload) hshaped
    | error error => exact ⟨error, rfl⟩
  · obtain ⟨hrefusal, -⟩ := htells.error herror
    refine ⟨hrefusal, ?_⟩
    cases error with
    | notIndexable => exact .inr (.inl rfl)
    | notAnObject => exact .inr (.inr (.inl rfl))
    | notAList => exact .inr (.inr (.inr rfl))
    | refused refusal => exact absurd rfl (hrefusal refusal)
    | _ => exact .inl rfl

/-- **A world whose tree is null** is not loaded, and that is not reported. -/
theorem not_forall_load_reported :
    ¬ ∀ json everythingOpen error, load json everythingOpen = .error error →
      error.isReported = true := by
  intro hall
  have hload : load (.object [("id", .string "w"), ("tree", .null)]) false = .error .notAList := rfl
  exact absurd (hall _ _ _ hload) (by decide)

end StoryShell.Session
