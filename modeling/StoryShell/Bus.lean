/-
The bus: hands each published result to everyone who was subscribed when the publishing began.

Subscribers are called one after the other in the order of their subscriptions, once for each. One
that fails is noted and does not keep the others from being called; only an interruption does, and
it goes on to whoever published.
-/
import StoryShell.Log

set_option autoImplicit false

namespace StoryShell.Bus

/-- How a call of a subscriber ends. -/
inductive Ending where
  | returned
  | failed
  | interrupted
deriving DecidableEq, Repr

/-- **Delivers to a list of subscribers** that is fixed beforehand. `call` calls one in a state and
gives the state it leaves, `note` notes its failure. The first component says whether all were
called. -/
def deliver {κ σ : Type} (call : κ → σ → Ending × σ) (note : κ → σ → σ) : List κ → σ → Bool × σ
  | [], state => (true, state)
  | subscriber :: rest, state =>
    match call subscriber state with
    | (.returned, state) => deliver call note rest state
    | (.failed, state) => deliver call note rest (note subscriber state)
    | (.interrupted, state) => (false, state)

/-- What is logged about a subscriber that failed on the result of a command. -/
def failureRecord (subscriber command : String) : Log.Record :=
  ⟨.error, .bus, "Subscriber " ++ subscriber ++ " failed handling '" ++ command ++ "' result."⟩

end StoryShell.Bus
