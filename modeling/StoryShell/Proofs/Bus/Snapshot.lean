/-
Every publishing reaches exactly those who were subscribed when it began.

What happens on a bus while a result is published is a tree: one visit to a subscriber after the
other, and during each visit subscriptions that come and go and further publishings, with their own
visits (`Visits`, `Deeds`). The tree says by itself what it leaves the bus with (`leave`), so it
also says which subscriptions there were when any publishing in it began (`publishings`), and which
calls are made (`calls`).

Publishing always comes to such a tree (`publish_accounts`). Its visits do what the script says,
each in the state that the visits before it left, and they end as the script says. No publishing in
it looks at subscriptions after its beginning: those visited are the ones subscribed then, each as
often as it was and in that order, up to one that interrupts if there is one (`Reaches`).
-/
import StoryShell.Bus.Script

set_option autoImplicit false

namespace StoryShell.Bus

/-! ## Subscriptions -/

namespace Hall

variable {hall : Hall} {name : String}

/-- **A subscription is one more** of its name, and makes no difference to the others. -/
theorem count_subscribe (hall : Hall) (name other : String) :
    (hall.subscribe name).subscribers.count other
      = hall.subscribers.count other + if name = other then 1 else 0 := by
  rw [subscribers_subscribe, List.count_append, List.count_singleton]
  simp only [beq_iff_eq]

/-- **To unsubscribe is to take away the first subscription of a name** and to leave the others in
their order. -/
theorem subscribers_unsubscribe_of_split {before after : List String}
    (hsplit : hall.subscribers = before ++ name :: after) (hfirst : name ∉ before) :
    (hall.unsubscribe name).subscribers = before ++ after := by
  rw [subscribers_unsubscribe, hsplit, List.erase_append_right _ hfirst, List.erase_cons_head]

/-- Who is not subscribed is unsubscribed in vain. -/
theorem unsubscribe_of_not_mem (h : name ∉ hall.subscribers) : hall.unsubscribe name = hall := by
  rw [unsubscribe, List.erase_of_not_mem h]

end Hall

/-! ## What happens during a publishing -/

mutual

/-- **What happens while a result is delivered**: visits to subscribers, each with what the one
visited does and how that ends. -/
inductive Visits where
  | none
  | visit (name : String) (deeds : Deeds) (ending : Ending) (later : Visits)

/-- **What happens during a visit**: subscriptions come and go, and further results are published.
-/
inductive Deeds where
  | none
  | subscribed (name : String) (later : Deeds)
  | unsubscribed (name : String) (later : Deeds)
  | published (notice : Notice) (visits : Visits) (later : Deeds)

end

namespace Hall

/-- The bus when a subscriber has just been called with a result. -/
def called (notice : Notice) (name : String) (hall : Hall) : Hall :=
  hall.record ⟨name, notice.output⟩

/-- The bus when a call has come to its end. -/
def ended (notice : Notice) (name : String) : Ending → Hall → Hall
  | .failed, hall => hall.note notice.command name
  | .returned, hall => hall
  | .interrupted, hall => hall

@[simp] theorem allowance_called (notice : Notice) (name : String) (hall : Hall) :
    (hall.called notice name).allowance = hall.allowance := rfl

@[simp] theorem calls_called (notice : Notice) (name : String) (hall : Hall) :
    (hall.called notice name).calls = hall.calls ++ [⟨name, notice.output⟩] := rfl

@[simp] theorem allowance_ended (notice : Notice) (name : String) (ending : Ending) (hall : Hall) :
    (hall.ended notice name ending).allowance = hall.allowance := by
  cases ending <;> rfl

@[simp] theorem calls_ended (notice : Notice) (name : String) (ending : Ending) (hall : Hall) :
    (hall.ended notice name ending).calls = hall.calls := by
  cases ending <;> rfl

end Hall

namespace Visits

/-- Who was visited, in order, and how each visit ended. -/
def made : Visits → List (String × Ending)
  | .none => []
  | .visit name _ ending later => (name, ending) :: later.made

/-- Whether no visit was interrupted. -/
def isComplete (visits : Visits) : Bool := visits.made.all (·.2 ≠ .interrupted)

end Visits

mutual

/-- **What visits leave the bus with.** -/
def Visits.leave (notice : Notice) : Visits → Hall → Hall
  | .none, hall => hall
  | .visit name deeds ending later, hall =>
    later.leave notice ((deeds.leave (hall.called notice name)).ended notice name ending)

/-- What the deeds of a visit leave the bus with. -/
def Deeds.leave : Deeds → Hall → Hall
  | .none, hall => hall
  | .subscribed name later, hall => later.leave (hall.subscribe name)
  | .unsubscribed name later, hall => later.leave (hall.unsubscribe name)
  | .published notice visits later, hall => later.leave (visits.leave notice hall.spend)

end

mutual

/-- Visits never add to the allowance. -/
theorem Visits.allowance_leave_le (notice : Notice) :
    ∀ (visits : Visits) (hall : Hall), (visits.leave notice hall).allowance ≤ hall.allowance
  | .none, _ => Nat.le_refl _
  | .visit name deeds ending later, hall => by
    rw [Visits.leave]
    have hlater := later.allowance_leave_le notice
      ((deeds.leave (hall.called notice name)).ended notice name ending)
    have hdeeds := deeds.allowance_leave_le (hall.called notice name)
    simp only [Hall.allowance_ended, Hall.allowance_called] at hlater hdeeds
    exact Nat.le_trans hlater hdeeds

/-- Nor do the deeds of a visit. -/
theorem Deeds.allowance_leave_le :
    ∀ (deeds : Deeds) (hall : Hall), (deeds.leave hall).allowance ≤ hall.allowance
  | .none, _ => Nat.le_refl _
  | .subscribed name later, hall => later.allowance_leave_le (hall.subscribe name)
  | .unsubscribed name later, hall => later.allowance_leave_le (hall.unsubscribe name)
  | .published notice visits later, hall => by
    rw [Deeds.leave]
    have hlater := later.allowance_leave_le (visits.leave notice hall.spend)
    have hvisits := visits.allowance_leave_le notice hall.spend
    rw [Hall.allowance_spend] at hvisits
    omega

end

mutual

/-- **The calls that visits come to**, with those made during them. -/
def Visits.calls (notice : Notice) : Visits → List Call
  | .none => []
  | .visit name deeds _ later => ⟨name, notice.output⟩ :: (deeds.calls ++ later.calls notice)

/-- The calls that are made during a visit. -/
def Deeds.calls : Deeds → List Call
  | .none => []
  | .subscribed _ later => later.calls
  | .unsubscribed _ later => later.calls
  | .published notice visits later => visits.calls notice ++ later.calls

end

mutual

/-- **Visits leave the bus with their calls**, after those that were made before. -/
theorem Visits.calls_leave (notice : Notice) :
    ∀ (visits : Visits) (hall : Hall),
      (visits.leave notice hall).calls = hall.calls ++ visits.calls notice
  | .none, hall => (List.append_nil hall.calls).symm
  | .visit name deeds ending later, hall => by
    rw [Visits.leave, later.calls_leave, Hall.calls_ended, deeds.calls_leave, Hall.calls_called,
      Visits.calls]
    simp

/-- The deeds of a visit leave the bus with their calls. -/
theorem Deeds.calls_leave :
    ∀ (deeds : Deeds) (hall : Hall), (deeds.leave hall).calls = hall.calls ++ deeds.calls
  | .none, hall => (List.append_nil hall.calls).symm
  | .subscribed name later, hall => later.calls_leave (hall.subscribe name)
  | .unsubscribed name later, hall => later.calls_leave (hall.unsubscribe name)
  | .published notice visits later, hall => by
    rw [Deeds.leave, later.calls_leave, visits.calls_leave, Hall.calls_spend, Deeds.calls,
      List.append_assoc]

end

/-- **A publishing**: the result, who was subscribed when it began, and the visits that it came
to. -/
structure Publishing where
  notice : Notice
  subscribers : List String
  visits : Visits

mutual

/-- The publishings during visits that begin in a given state of the bus. -/
def Visits.nested (notice : Notice) : Visits → Hall → List Publishing
  | .none, _ => []
  | .visit name deeds ending later, hall =>
    deeds.nested (hall.called notice name)
      ++ later.nested notice ((deeds.leave (hall.called notice name)).ended notice name ending)

/-- The publishings during a visit, with those nested in them. -/
def Deeds.nested : Deeds → Hall → List Publishing
  | .none, _ => []
  | .subscribed name later, hall => later.nested (hall.subscribe name)
  | .unsubscribed name later, hall => later.nested (hall.unsubscribe name)
  | .published notice visits later, hall =>
    ⟨notice, hall.subscribers, visits⟩ :: visits.nested notice hall.spend
      ++ later.nested (visits.leave notice hall.spend)

end

/-- **All publishings in a tree of visits**: the one that they belong to, and those nested in it. -/
def Visits.publishings (notice : Notice) (visits : Visits) (hall : Hall) : List Publishing :=
  ⟨notice, hall.subscribers, visits⟩ :: visits.nested notice hall

/-! ## Doing what the script says -/

mutual

/-- **Visits go by the script** if in each the one visited does what the script says, by the calls
made up to then, and the visit ends as the script says. -/
inductive Visits.AsScripted (script : Script) : Notice → Visits → Hall → Prop where
  | none (notice : Notice) (hall : Hall) : Visits.AsScripted script notice .none hall
  | visit {notice : Notice} {name : String} {deeds : Deeds} {ending : Ending} {later : Visits}
    {hall : Hall}
    (during : Deeds.AsScripted script (script (hall.called notice name).calls name) deeds ending
      (hall.called notice name))
    (after : Visits.AsScripted script notice later
      ((deeds.leave (hall.called notice name)).ended notice name ending)) :
    Visits.AsScripted script notice (.visit name deeds ending later) hall

/-- Deeds and their end go by a list of actions. A result is published if the allowance is not
spent; if a visit to a subscriber is interrupted then, so is the visit that published, unless that
was an attempt. -/
inductive Deeds.AsScripted (script : Script) : List Action → Deeds → Ending → Hall → Prop where
  | returns (hall : Hall) : Deeds.AsScripted script [] .none .returned hall
  | fails (rest : List Action) (hall : Hall) :
    Deeds.AsScripted script (.fail :: rest) .none .failed hall
  | interrupts (rest : List Action) (hall : Hall) :
    Deeds.AsScripted script (.interrupt :: rest) .none .interrupted hall
  | subscribes {name : String} {rest : List Action} {deeds : Deeds} {ending : Ending} {hall : Hall}
    (after : Deeds.AsScripted script rest deeds ending (hall.subscribe name)) :
    Deeds.AsScripted script (.subscribe name :: rest) (.subscribed name deeds) ending hall
  | unsubscribes {name : String} {rest : List Action} {deeds : Deeds} {ending : Ending}
    {hall : Hall} (after : Deeds.AsScripted script rest deeds ending (hall.unsubscribe name)) :
    Deeds.AsScripted script (.unsubscribe name :: rest) (.unsubscribed name deeds) ending hall
  | withholds {output : String} {rest : List Action} {deeds : Deeds} {ending : Ending} {hall : Hall}
    {action : Action} (publishes : action = .publish output ∨ action = .attempt output)
    (spent : hall.allowance = 0) (after : Deeds.AsScripted script rest deeds ending hall) :
    Deeds.AsScripted script (action :: rest) deeds ending hall
  | publishes {output : String} {rest : List Action} {visits : Visits} {deeds : Deeds}
    {ending : Ending} {hall : Hall} (allowed : hall.allowance ≠ 0)
    (during : Visits.AsScripted script ⟨output, Hall.nestedCommand⟩ visits hall.spend)
    (complete : visits.isComplete = true)
    (after : Deeds.AsScripted script rest deeds ending
      (visits.leave ⟨output, Hall.nestedCommand⟩ hall.spend)) :
    Deeds.AsScripted script (.publish output :: rest)
      (.published ⟨output, Hall.nestedCommand⟩ visits deeds) ending hall
  | breaksOff {output : String} {visits : Visits} {hall : Hall} (rest : List Action)
    (allowed : hall.allowance ≠ 0)
    (during : Visits.AsScripted script ⟨output, Hall.nestedCommand⟩ visits hall.spend)
    (incomplete : visits.isComplete = false) :
    Deeds.AsScripted script (.publish output :: rest)
      (.published ⟨output, Hall.nestedCommand⟩ visits .none) .interrupted hall
  | attempts {output : String} {rest : List Action} {visits : Visits} {deeds : Deeds}
    {ending : Ending} {hall : Hall} (allowed : hall.allowance ≠ 0)
    (during : Visits.AsScripted script ⟨output, Hall.nestedCommand⟩ visits hall.spend)
    (after : Deeds.AsScripted script rest deeds ending
      (visits.leave ⟨output, Hall.nestedCommand⟩ hall.spend)) :
    Deeds.AsScripted script (.attempt output :: rest)
      (.published ⟨output, Hall.nestedCommand⟩ visits deeds) ending hall

end

/-! ## Reaching those subscribed -/

/-- **Visits reach a list of subscribers** if all of it is visited in order and no visit is
interrupted, or all of it up to one whose visit is interrupted. -/
inductive Reaches : List (String × Ending) → List String → Prop where
  | everyone {made : List (String × Ending)} (whole : ∀ visit ∈ made, visit.2 ≠ .interrupted) :
    Reaches made (made.map Prod.fst)
  | upTo {made : List (String × Ending)} (whole : ∀ visit ∈ made, visit.2 ≠ .interrupted)
    (name : String) (unvisited : List String) :
    Reaches (made ++ [(name, .interrupted)]) (made.map Prod.fst ++ name :: unvisited)

/-- One more visit before the others, that is not interrupted. -/
theorem Reaches.cons {made : List (String × Ending)} {subscribers : List String}
    (h : Reaches made subscribers) (name : String) {ending : Ending}
    (hending : ending ≠ .interrupted) :
    Reaches ((name, ending) :: made) (name :: subscribers) := by
  cases h with
  | everyone whole =>
    exact Reaches.everyone (List.forall_mem_cons.2 ⟨hending, whole⟩)
  | upTo whole last unvisited =>
    exact Reaches.upTo (List.forall_mem_cons.2 ⟨hending, whole⟩) last unvisited

/-- A publishing reaches those who were subscribed when it began. -/
def Publishing.IsSnapshot (publishing : Publishing) : Prop :=
  Reaches publishing.visits.made publishing.subscribers

/-- **A tree of visits accounts for the outcome of a publishing**: the calls made since it began,
whether it came to its end and what the bus is then; the visits go by the script; and the publishing
itself and all nested in it reach those who were subscribed when they began. -/
structure Visits.Accounts (script : Script) (notice : Notice) (hall : Hall)
    (outcome : Bool × Hall) (visits : Visits) : Prop where
  calls : outcome.2.calls = hall.calls ++ visits.calls notice
  outcome : outcome = (visits.isComplete, visits.leave notice hall)
  scripted : visits.AsScripted script notice hall
  snapshots : ∀ publishing ∈ visits.publishings notice hall, publishing.IsSnapshot

/-- What delivering to those who are subscribed comes to is what publishing does. -/
theorem Visits.Accounts.of_deliver {script : Script} {notice : Notice} {hall : Hall}
    {outcome : Bool × Hall} {visits : Visits}
    (houtcome : outcome = (visits.isComplete, visits.leave notice hall))
    (hscripted : visits.AsScripted script notice hall)
    (hreaches : Reaches visits.made hall.subscribers)
    (hnested : ∀ publishing ∈ visits.nested notice hall, publishing.IsSnapshot) :
    visits.Accounts script notice hall outcome where
  calls := by rw [houtcome, visits.calls_leave]
  outcome := houtcome
  scripted := hscripted
  snapshots := List.forall_mem_cons.2 ⟨hreaches, hnested⟩

/-! ## Publishing -/

/-- A way to publish nested results, all of which is accounted for as long as the allowance is below
a bound. -/
def Serves (script : Script) (publish : Notice → Hall → Bool × Hall) (bound : Nat) : Prop :=
  ∀ (notice : Notice) (hall : Hall), hall.allowance < bound →
    ∃ visits : Visits, visits.Accounts script notice hall (publish notice hall)

/-- What publishing a nested result comes to, when the allowance is not spent. Less is allowed after
it. -/
theorem Serves.spend {script : Script} {publish : Notice → Hall → Bool × Hall} {bound : Nat}
    (hserves : Serves script publish bound) (notice : Notice) {hall : Hall}
    (hbound : hall.allowance ≤ bound) (hallowed : hall.allowance ≠ 0) :
    ∃ visits : Visits, visits.Accounts script notice hall.spend (publish notice hall.spend)
      ∧ (visits.leave notice hall.spend).allowance ≤ bound := by
  have hless : hall.spend.allowance < bound := by
    rw [Hall.allowance_spend]
    omega
  obtain ⟨visits, haccounts⟩ := hserves notice hall.spend hless
  exact ⟨visits, haccounts,
    Nat.le_trans (visits.allowance_leave_le notice hall.spend) (Nat.le_of_lt hless)⟩

/-- **What a visit comes to.** -/
theorem act_accounts {script : Script} {publish : Notice → Hall → Bool × Hall} {bound : Nat}
    (hserves : Serves script publish bound) (actions : List Action) {hall : Hall}
    (hbound : hall.allowance ≤ bound) :
    ∃ (deeds : Deeds) (ending : Ending),
      Hall.act publish actions hall = (ending, deeds.leave hall)
        ∧ deeds.AsScripted script actions ending hall
        ∧ ∀ publishing ∈ deeds.nested hall, publishing.IsSnapshot := by
  induction actions generalizing hall with
  | nil => exact ⟨.none, .returned, rfl, .returns hall, by simp [Deeds.nested]⟩
  | cons action rest ih =>
    cases action with
    | subscribe name =>
      have hsubscribed : (hall.subscribe name).allowance ≤ bound := by
        rwa [Hall.allowance_subscribe]
      obtain ⟨deeds, ending, hact, hscripted, hnested⟩ := ih hsubscribed
      exact ⟨.subscribed name deeds, ending, hact, .subscribes hscripted, hnested⟩
    | unsubscribe name =>
      have hunsubscribed : (hall.unsubscribe name).allowance ≤ bound := by
        rwa [Hall.allowance_unsubscribe]
      obtain ⟨deeds, ending, hact, hscripted, hnested⟩ := ih hunsubscribed
      exact ⟨.unsubscribed name deeds, ending, hact, .unsubscribes hscripted, hnested⟩
    | fail => exact ⟨.none, .failed, rfl, .fails rest hall, by simp [Deeds.nested]⟩
    | interrupt => exact ⟨.none, .interrupted, rfl, .interrupts rest hall, by simp [Deeds.nested]⟩
    | publish output =>
      rw [Hall.act]
      by_cases hspent : hall.allowance = 0
      · rw [if_pos hspent]
        obtain ⟨deeds, ending, hact, hscripted, hnested⟩ := ih hbound
        exact ⟨deeds, ending, hact, .withholds (.inl rfl) hspent hscripted, hnested⟩
      · rw [if_neg hspent]
        obtain ⟨visits, ⟨-, houtcome, hvisits, hsnapshots⟩, hleft⟩ :=
          hserves.spend ⟨output, Hall.nestedCommand⟩ hbound hspent
        rw [houtcome]
        cases hcomplete : visits.isComplete with
        | false =>
          refine ⟨.published ⟨output, Hall.nestedCommand⟩ visits .none, .interrupted, rfl,
            .breaksOff rest hspent hvisits hcomplete, ?_⟩
          rw [Deeds.nested, Deeds.nested, List.append_nil]
          exact hsnapshots
        | true =>
          obtain ⟨deeds, ending, hact, hscripted, hnested⟩ := ih hleft
          exact ⟨.published ⟨output, Hall.nestedCommand⟩ visits deeds, ending, hact,
            .publishes hspent hvisits hcomplete hscripted,
            List.forall_mem_append.2 ⟨hsnapshots, hnested⟩⟩
    | attempt output =>
      rw [Hall.act]
      by_cases hspent : hall.allowance = 0
      · rw [if_pos hspent]
        obtain ⟨deeds, ending, hact, hscripted, hnested⟩ := ih hbound
        exact ⟨deeds, ending, hact, .withholds (.inr rfl) hspent hscripted, hnested⟩
      · rw [if_neg hspent]
        obtain ⟨visits, ⟨-, houtcome, hvisits, hsnapshots⟩, hleft⟩ :=
          hserves.spend ⟨output, Hall.nestedCommand⟩ hbound hspent
        -- whether the visits were interrupted makes no difference here
        rw [houtcome]
        obtain ⟨deeds, ending, hact, hscripted, hnested⟩ := ih hleft
        exact ⟨.published ⟨output, Hall.nestedCommand⟩ visits deeds, ending, hact,
          .attempts hspent hvisits hscripted, List.forall_mem_append.2 ⟨hsnapshots, hnested⟩⟩

/-- A call of a subscriber, with what it does by the script. -/
def callWith (script : Script) (publish : Notice → Hall → Bool × Hall) (notice : Notice)
    (name : String) (hall : Hall) : Ending × Hall :=
  Hall.act publish (script (hall.called notice name).calls name) (hall.called notice name)

/-- **What delivering to a list of subscribers comes to**: the list is reached, whatever the visits
do to the subscriptions. -/
theorem deliver_accounts {script : Script} {publish : Notice → Hall → Bool × Hall} {bound : Nat}
    (hserves : Serves script publish bound) (notice : Notice) (subscribers : List String)
    {hall : Hall} (hbound : hall.allowance ≤ bound) :
    ∃ visits : Visits,
      deliver (callWith script publish notice) (Hall.note notice.command) subscribers hall
          = (visits.isComplete, visits.leave notice hall)
        ∧ visits.AsScripted script notice hall
        ∧ Reaches visits.made subscribers
        ∧ ∀ publishing ∈ visits.nested notice hall, publishing.IsSnapshot := by
  induction subscribers generalizing hall with
  | nil =>
    exact ⟨.none, rfl, .none notice hall, .everyone (List.forall_mem_nil _),
      by simp [Visits.nested]⟩
  | cons name rest ih =>
    have hcalled : (hall.called notice name).allowance ≤ bound := by
      rwa [Hall.allowance_called]
    obtain ⟨deeds, ending, hact, hscripted, hnested⟩ :=
      act_accounts hserves (script (hall.called notice name).calls name) hcalled
    rw [deliver, callWith, hact]
    by_cases hending : ending = .interrupted
    · subst hending
      refine ⟨.visit name deeds .interrupted .none, rfl, .visit hscripted (.none notice _),
        .upTo (List.forall_mem_nil _) name rest, ?_⟩
      rw [Visits.nested, Visits.nested, List.append_nil]
      exact hnested
    · have hleft : ((deeds.leave (hall.called notice name)).ended notice name ending).allowance
          ≤ bound := by
        rw [Hall.allowance_ended]
        exact Nat.le_trans (deeds.allowance_leave_le _) hbound
      obtain ⟨visits, hdeliver, hvisits, hreaches, hmore⟩ := ih hleft
      have hcomplete : (Visits.visit name deeds ending visits).isComplete = visits.isComplete := by
        simp [Visits.isComplete, Visits.made, hending]
      refine ⟨.visit name deeds ending visits, ?_, .visit hscripted hvisits,
        hreaches.cons name hending, ?_⟩
      · rw [hcomplete, Visits.leave, ← hdeliver]
        cases ending with
        | returned => rfl
        | failed => rfl
        | interrupted => exact absurd rfl hending
      · intro publishing hpublishing
        rw [Visits.nested] at hpublishing
        rcases List.mem_append.1 hpublishing with hmem | hmem
        · exact hnested publishing hmem
        · exact hmore publishing hmem

/-- **Publishing to a depth that the allowance does not exceed** is accounted for. -/
theorem publishTo_accounts (script : Script) {depth : Nat} (notice : Notice) {hall : Hall}
    (hdepth : hall.allowance ≤ depth) :
    ∃ visits : Visits,
      visits.Accounts script notice hall (Hall.publishTo script depth notice hall) := by
  induction depth generalizing notice hall with
  | zero =>
    -- nothing nested is published, since nothing is allowed
    have hserves : Serves script (fun _ hall => (true, hall)) 0 :=
      fun _ _ hless => absurd hless (Nat.not_lt_zero _)
    obtain ⟨visits, hdeliver, hscripted, hreaches, hnested⟩ :=
      deliver_accounts hserves notice hall.subscribers hdepth
    exact ⟨visits, .of_deliver hdeliver hscripted hreaches hnested⟩
  | succ depth ih =>
    have hserves : Serves script (Hall.publishTo script depth) (depth + 1) :=
      fun notice hall hless => ih notice (Nat.le_of_lt_succ hless)
    obtain ⟨visits, hdeliver, hscripted, hreaches, hnested⟩ :=
      deliver_accounts hserves notice hall.subscribers hdepth
    exact ⟨visits, .of_deliver hdeliver hscripted hreaches hnested⟩

/-- **Publishing reaches those who are subscribed when it begins**, whatever they do when they are
visited. It comes to its end unless a visit is interrupted; a failure never ends it. Subscriptions
that come and go during the visits count for the publishings that begin after that, and for them the
same holds. -/
theorem publish_accounts (script : Script) (notice : Notice) (hall : Hall) :
    ∃ visits : Visits, visits.Accounts script notice hall (hall.publish script notice) :=
  publishTo_accounts script notice (Nat.le_refl hall.allowance)

/-! ## Subscribers that publish nothing -/

/-- Whether an action neither publishes nor interrupts. -/
def Action.isPlain : Action → Bool
  | .subscribe _ | .unsubscribe _ | .fail => true
  | .publish _ | .attempt _ | .interrupt => false

/-- **A plain script**: subscribers come and go and fail, and do nothing else. -/
def Script.IsPlain (script : Script) : Prop :=
  ∀ calls name, ∀ action ∈ script calls name, action.isPlain = true

variable {script : Script}

/-- Plain actions make no calls and are not interrupted. -/
theorem Deeds.AsScripted.of_plain {actions : List Action} {deeds : Deeds} {ending : Ending}
    {hall : Hall} (h : Deeds.AsScripted script actions deeds ending hall)
    (hplain : ∀ action ∈ actions, action.isPlain = true) :
    deeds.calls = [] ∧ ending ≠ .interrupted := by
  induction actions generalizing deeds hall with
  | nil =>
    cases h with
    | returns => exact ⟨rfl, Ending.noConfusion⟩
  | cons action rest ih =>
    obtain ⟨hfirst, hrest⟩ := List.forall_mem_cons.1 hplain
    cases h with
    | fails => exact ⟨rfl, Ending.noConfusion⟩
    | subscribes after | unsubscribes after =>
      obtain ⟨hnone, hending⟩ := ih after hrest
      exact ⟨hnone, hending⟩
    | withholds publishes spent after => exact ih after hrest
    | interrupts | publishes | breaksOff | attempts => exact absurd hfirst Bool.false_ne_true

/-- Visits by a plain script are not interrupted, and their calls are those of the ones visited. -/
theorem Visits.AsScripted.of_plain (hplain : script.IsPlain) {notice : Notice} :
    ∀ {visits : Visits} {hall : Hall}, visits.AsScripted script notice hall →
      visits.isComplete = true
        ∧ visits.calls notice = visits.made.map fun visit => ⟨visit.1, notice.output⟩
  | .none, _, _ => ⟨rfl, rfl⟩
  | .visit name deeds ending later, hall, .visit during after => by
    obtain ⟨hnone, hending⟩ := during.of_plain (hplain _ name)
    obtain ⟨hcomplete, hcalls⟩ := Visits.AsScripted.of_plain hplain after
    rw [isComplete, List.all_eq_true] at hcomplete ⊢
    rw [calls, hnone, hcalls, made]
    exact ⟨List.forall_mem_cons.2 ⟨by simpa using hending, hcomplete⟩, rfl⟩

/-- **By a plain script everyone is called**, once for each subscription and in the order of the
subscriptions, whoever comes and goes meanwhile. -/
theorem calls_publish_of_plain (hplain : script.IsPlain) (notice : Notice) (hall : Hall) :
    (hall.publish script notice).1 = true
      ∧ (hall.publish script notice).2.calls
        = hall.calls ++ hall.subscribers.map fun name => ⟨name, notice.output⟩ := by
  obtain ⟨visits, hcalls, houtcome, hscripted, hsnapshots⟩ :=
    publishTo_accounts script notice (Nat.le_refl hall.allowance)
  obtain ⟨hcomplete, hmade⟩ := hscripted.of_plain hplain
  have hreaches : Reaches visits.made hall.subscribers := hsnapshots _ List.mem_cons_self
  refine ⟨(congrArg Prod.fst houtcome).trans hcomplete, ?_⟩
  rw [Hall.publish, hcalls, hmade]
  generalize hvisited : visits.made = made at hreaches ⊢
  generalize hall.subscribers = subscribers at hreaches ⊢
  cases hreaches with
  | everyone whole =>
    rw [List.map_map]
    rfl
  | upTo whole name unvisited =>
    -- then a visit would have been interrupted
    rw [Visits.isComplete, hvisited] at hcomplete
    simp at hcomplete

-- One that unsubscribes itself, subscribes another and fails does not disturb the one after it.
example :
    (Hall.publish (fun _ name =>
        if name = "once" then [.unsubscribe "once", .subscribe "late", .fail] else [])
      ⟨"a", "echo"⟩ ⟨["once", "always"], [], [], 0⟩).2.calls
      = [⟨"once", "a"⟩, ⟨"always", "a"⟩] := by
  rfl

end StoryShell.Bus
