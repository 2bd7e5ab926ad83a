/-
A bus among subscribers that act on it while they are called.

A subscriber, when called, does what its script says, one action after the other: it subscribes and
unsubscribes itself or others, publishes further results, fails or interrupts. If what it publishes
is interrupted, then so is the subscriber, unless it only attempts to publish. The script may depend
on all the calls made so far, so any subscriber whose doings end can be written as one. A script may
publish only as often as the allowance says, which is what ends the nesting.
-/
import StoryShell.Bus

set_option autoImplicit false

namespace StoryShell.Bus

/-- What a subscriber does when it is called. To attempt a publishing is to go on with the next
action even if it is interrupted. -/
inductive Action where
  | subscribe (name : String)
  | unsubscribe (name : String)
  | publish (output : String)
  | attempt (output : String)
  | fail
  | interrupt
deriving DecidableEq, Repr

/-- A published result: its output and its command. -/
structure Notice where
  output : String
  command : String
deriving DecidableEq, Repr

/-- A call that was made: of whom, with what output. -/
structure Call where
  subscriber : String
  output : String
deriving DecidableEq, Repr

/-- **The state of the bus**: the subscriptions in their order, the calls made so far, what was
logged, and how often scripts may still publish. -/
structure Hall where
  subscribers : List String
  calls : List Call
  records : List Log.Record
  allowance : Nat
deriving DecidableEq, Repr

/-- What each subscriber does, by the calls made so far. -/
abbrev Script := List Call → String → List Action

namespace Hall

/-- The command of a result that a script publishes. -/
def nestedCommand : String := "nested"

/-- Adds a subscription at the end. -/
def subscribe (hall : Hall) (name : String) : Hall :=
  { hall with subscribers := hall.subscribers ++ [name] }

/-- Takes away the first subscription of a name, if there is one. -/
def unsubscribe (hall : Hall) (name : String) : Hall :=
  { hall with subscribers := hall.subscribers.erase name }

/-- Records a call. -/
def record (hall : Hall) (call : Call) : Hall :=
  { hall with calls := hall.calls ++ [call] }

/-- Logs a failure of a subscriber. -/
def note (command : String) (name : String) (hall : Hall) : Hall :=
  { hall with records := hall.records ++ [failureRecord ("<" ++ name ++ ">") command] }

/-- The bus when a script begins to publish. -/
def spend (hall : Hall) : Hall := { hall with allowance := hall.allowance - 1 }

section

variable (hall : Hall) (name command : String) (call : Call)

@[simp] theorem subscribers_subscribe :
    (hall.subscribe name).subscribers = hall.subscribers ++ [name] := rfl

@[simp] theorem calls_subscribe : (hall.subscribe name).calls = hall.calls := rfl

@[simp] theorem allowance_subscribe : (hall.subscribe name).allowance = hall.allowance := rfl

@[simp] theorem subscribers_unsubscribe :
    (hall.unsubscribe name).subscribers = hall.subscribers.erase name := rfl

@[simp] theorem calls_unsubscribe : (hall.unsubscribe name).calls = hall.calls := rfl

@[simp] theorem allowance_unsubscribe : (hall.unsubscribe name).allowance = hall.allowance := rfl

@[simp] theorem subscribers_record : (hall.record call).subscribers = hall.subscribers := rfl

@[simp] theorem calls_record : (hall.record call).calls = hall.calls ++ [call] := rfl

@[simp] theorem allowance_record : (hall.record call).allowance = hall.allowance := rfl

@[simp] theorem subscribers_note : (hall.note command name).subscribers = hall.subscribers := rfl

@[simp] theorem calls_note : (hall.note command name).calls = hall.calls := rfl

@[simp] theorem allowance_note : (hall.note command name).allowance = hall.allowance := rfl

@[simp] theorem subscribers_spend : hall.spend.subscribers = hall.subscribers := rfl

@[simp] theorem calls_spend : hall.spend.calls = hall.calls := rfl

@[simp] theorem allowance_spend : hall.spend.allowance = hall.allowance - 1 := rfl

end

/-- Does what a script says, with `publish` to publish a nested result, until it is done, fails or
interrupts. -/
def act (publish : Notice → Hall → Bool × Hall) : List Action → Hall → Ending × Hall
  | [], hall => (.returned, hall)
  | .subscribe name :: rest, hall => act publish rest (hall.subscribe name)
  | .unsubscribe name :: rest, hall => act publish rest (hall.unsubscribe name)
  | .publish output :: rest, hall =>
    if hall.allowance = 0 then act publish rest hall
    else
      match publish ⟨output, nestedCommand⟩ hall.spend with
      | (true, hall) => act publish rest hall
      | (false, hall) => (.interrupted, hall)
  | .attempt output :: rest, hall =>
    if hall.allowance = 0 then act publish rest hall
    else act publish rest (publish ⟨output, nestedCommand⟩ hall.spend).2
  | .fail :: _, hall => (.failed, hall)
  | .interrupt :: _, hall => (.interrupted, hall)

/-- Publishes a result, with results nested in it to a depth. -/
def publishTo (script : Script) : Nat → Notice → Hall → Bool × Hall
  | depth, notice, hall =>
    let nested : Notice → Hall → Bool × Hall := match depth with
      | 0 => fun _ hall => (true, hall)
      | depth + 1 => publishTo script depth
    let call (name : String) (hall : Hall) : Ending × Hall :=
      let hall := hall.record ⟨name, notice.output⟩
      act nested (script hall.calls name) hall
    deliver call (note notice.command) hall.subscribers hall

/-- **Publishes a result.** Nesting is never deeper than the allowance. The first component says
whether publishing came to its end. -/
def publish (script : Script) (notice : Notice) (hall : Hall) : Bool × Hall :=
  publishTo script hall.allowance notice hall

end Hall

end StoryShell.Bus
