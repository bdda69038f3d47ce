import ShardFleet.Proofs.Session.Calls
import ShardFleet.StartOrder.Rollout

/-!
# One component's turn

Starting and stopping are the two transitions of a component. A transition that does not apply to
the state that a component is in does nothing. Where it applies, the handle is called once, and the
answer decides whether the state changes: this is the component's turn, and its events are known.
-/

namespace ShardFleet

variable {ω : Type}

namespace Transition

/-- Whether a component in the given state is called at all. -/
def AppliesTo : Transition → LifecycleState → Prop
  | .start, state => state ≠ .started
  | .stop, state => state = .started

instance : (transition : Transition) → (state : LifecycleState) →
    Decidable (transition.AppliesTo state)
  | .start, state => inferInstanceAs (Decidable (state ≠ .started))
  | .stop, state => inferInstanceAs (Decidable (state = .started))

def target : Transition → LifecycleState
  | .start => .started
  | .stop => .stopped

theorem not_appliesTo_target (transition : Transition) :
    ¬transition.AppliesTo transition.target := by
  cases transition with
  | start => exact fun applies => applies rfl
  | stop => exact fun applies => nomatch applies

/-- The call of a component's handle, with its answer. -/
def asked (transition : Transition) (component : Component) (answer : Except Failure Unit) :
    Event :=
  match transition with
  | .start => .called (.start component) answer
  | .stop => .called (.stop component) answer

def begins (transition : Transition) (component : Component) : Event :=
  .logged ⟨.debug, match transition with
    | .start => "Starting unit"
    | .stop => "Stopping unit", [("unit", component.nameValue)]⟩

def succeeds (transition : Transition) (component : Component) : Event :=
  .logged ⟨.info, match transition with
    | .start => "Unit started"
    | .stop => "Unit stopped", [("unit", component.nameValue)]⟩

def fails (transition : Transition) (component : Component) (failure : Failure) : Event :=
  .logged ⟨.error, "Failed to " ++ transition.verb ++ " unit",
    [("unit", component.nameValue), ("error", .text failure.message)]⟩

def run [Outside ω] : Transition → Component → Action ω Bool
  | .start => Component.start
  | .stop => Component.stop

theorem asked_inj {transition : Transition} {component other : Component}
    {answer another : Except Failure Unit} :
    transition.asked component answer = transition.asked other another ↔
      component = other ∧ answer = another := by
  constructor
  · intro same
    cases transition with
    | start => cases same; exact ⟨rfl, rfl⟩
    | stop => cases same; exact ⟨rfl, rfl⟩
  · rintro ⟨rfl, rfl⟩
    rfl

theorem isCall_asked (transition : Transition) (component : Component)
    (answer : Except Failure Unit) : (transition.asked component answer).isCall = true := by
  cases transition <;> rfl

theorem change_asked_ok (transition : Transition) (component : Component) (states : States) :
    (transition.asked component (.ok ())).change states =
      Function.update states component transition.target := by
  cases transition <;> rfl

theorem change_asked_error (transition : Transition) (component : Component) (failure : Failure)
    (states : States) : (transition.asked component (.error failure)).change states = states := by
  cases transition <;> rfl

theorem isOrderly_asked {transition : Transition} {component : Component}
    {answer : Except Failure Unit} {states : States}
    (applies : transition.AppliesTo (states component)) :
    (transition.asked component answer).IsOrderly states := by
  cases transition <;> exact applies

end Transition

/-- A turn: the component whose handle was called, and what the handle answered. -/
structure Turn where
  component : Component
  answer : Except Failure Unit

namespace Turn

def call (transition : Transition) (turn : Turn) : Event :=
  transition.asked turn.component turn.answer

/-- All events of a turn that is taken in a rollout. -/
def events (transition : Transition) (turn : Turn) : List Event :=
  [transition.begins turn.component, turn.call transition,
    match turn.answer with
    | .ok _ => transition.succeeds turn.component
    | .error failure => transition.fails turn.component failure]

/-- The turn of a component whose handle did not fail. -/
def done (component : Component) : Turn := ⟨component, .ok ()⟩

theorem filter_isCall_events (transition : Transition) (turn : Turn) :
    (turn.events transition).filter Event.isCall = [turn.call transition] := by
  rcases turn with ⟨component, answer | answer⟩ <;> cases transition <;> rfl

end Turn

namespace StateTable

theorem get_set (table : StateTable) (component : Component) (state : LifecycleState) :
    (table.set component state).get = Function.update table.get component state := by
  funext asked
  by_cases same : asked = component
  · subst same
    rw [get_set_self, Function.update_self]
  · rw [get_set_of_ne table state same, Function.update_of_ne same]

end StateTable

namespace Session

/-- The session once a handle has been called and its component's state brought up to date. -/
def turned [Outside ω] (session : Session ω) (transition : Transition) (component : Component)
    (answer : Except Failure Unit) (outside : ω) : Session ω :=
  { session with
    outside
    states := match answer with
      | .ok _ => session.states.set component transition.target
      | .error _ => session.states
    journal := transition.asked component answer :: session.journal }

theorem evolves_turned [Outside ω] {session : Session ω} {transition : Transition}
    {component : Component} (applies : transition.AppliesTo (session.stateOf component))
    (answer : Except Failure Unit) (outside : ω) :
    session.Evolves [transition.asked component answer]
      (session.turned transition component answer outside) where
  history := by simp [history, turned]
  states := by
    cases answer with
    | ok value =>
        rw [statesAfter_cons, Transition.change_asked_ok]
        exact StateTable.get_set _ _ _
    | error failure =>
        rw [statesAfter_cons, Transition.change_asked_error]
        rfl
  orderly := ⟨Transition.isOrderly_asked applies, trivial⟩
  serials := Nat.le_refl _

end Session

namespace Transition

variable [Outside ω]

theorem run_of_not_appliesTo {transition : Transition} {component : Component}
    {session : Session ω} (idle : ¬transition.AppliesTo (session.stateOf component)) :
    transition.run component session = .ok false session := by
  cases transition with
  | start =>
      have started : session.stateOf component = .started := Classical.not_not.mp idle
      simp [run, Component.start, Component.startBy, Action.stateOf, bind, EStateM.bind, started,
        pure, EStateM.pure]
  | stop =>
      have other : session.stateOf component ≠ .started := idle
      simp [run, Component.stop, Action.stateOf, bind, EStateM.bind, other, pure, EStateM.pure]

def ask (transition : Transition) (component : Component) (outside : ω) :
    Except Failure Unit × ω :=
  match transition with
  | .start => Outside.respond (.start component) outside
  | .stop => Outside.respond (.stop component) outside

theorem run_eq_of_appliesTo {transition : Transition} {component : Component} {session : Session ω}
    (applies : transition.AppliesTo (session.stateOf component)) :
    transition.run component session =
      match transition.ask component session.outside with
      | (.ok _, outside) =>
          .ok true ((((session.record (transition.begins component)).turned transition component
            (.ok ()) outside)).record (transition.succeeds component))
      | (.error failure, outside) =>
          .error failure ((session.record (transition.begins component)).turned transition
            component (.error failure) outside) := by
  cases transition with
  | start =>
      have other : session.stateOf component ≠ .started := applies
      simp only [run, Component.start, Component.startBy, Action.stateOf, bind, EStateM.bind,
        other, if_false, Action.log, Action.perform, ask, Session.record]
      rcases Outside.respond (.start component) session.outside with ⟨answer | answer, outside⟩
      · rfl
      · rfl
  | stop =>
      have started : session.stateOf component = .started := applies
      simp only [run, Component.stop, Action.stateOf, bind, EStateM.bind, started, if_true,
        Action.log, Action.perform, ask, Session.record]
      rcases Outside.respond (.stop component) session.outside with ⟨answer | answer, outside⟩
      · rfl
      · rfl

theorem run_of_appliesTo {transition : Transition} {component : Component} {session : Session ω}
    (applies : transition.AppliesTo (session.stateOf component)) :
    (∃ after, transition.run component session = .ok true after ∧
      session.Evolves [transition.begins component, transition.asked component (.ok ()),
        transition.succeeds component] after) ∨
    (∃ failure after, transition.run component session = .error failure after ∧
      session.Evolves [transition.begins component, transition.asked component (.error failure)]
        after) := by
  have run := run_eq_of_appliesTo applies
  have began := Session.Evolves.record session (transition.begins component) rfl
  have applies' : transition.AppliesTo
      ((session.record (transition.begins component)).stateOf component) := applies
  rcases asked : transition.ask component session.outside with ⟨failure | answer, outside⟩
  · rw [asked] at run
    exact Or.inr ⟨failure, _, run,
      began.trans (Session.evolves_turned applies' (.error failure) outside)⟩
  · rw [asked] at run
    exact Or.inl ⟨_, run,
      (began.trans (Session.evolves_turned applies' (.ok ()) outside)).trans (.record _ _ rfl)⟩

end Transition

end ShardFleet
