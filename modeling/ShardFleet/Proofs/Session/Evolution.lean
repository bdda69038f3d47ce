import Mathlib.Data.List.Basic
import Mathlib.Logic.Function.Basic
import ShardFleet.Session.Basic

/-!
# What a computation leaves behind

A session is known by its journal: the events determine the lifecycle states of all components at
every moment, since a state changes only with a handle that came up or went down. `statesAfter`
reads the states off the events, `Along` states a property of every event at its own moment, and
`Session.Evolves` says that a session became another one by certain events.
-/

namespace ShardFleet

/-- The lifecycle states of all components at one moment. -/
abbrev States := Component → LifecycleState

def neverStarted : States := fun _ => .notStarted

namespace Event

/-- The states once an event has happened. -/
def change (states : States) : Event → States
  | .called (.start component) (.ok _) => Function.update states component .started
  | .called (.stop component) (.ok _) => Function.update states component .stopped
  | _ => states

/-- A handle is started only if its component is not started, and stopped only if it is. -/
def IsOrderly (states : States) : Event → Prop
  | .called (.start component) _ => states component ≠ .started
  | .called (.stop component) _ => states component = .started
  | _ => True

def isCall : Event → Bool
  | .called _ _ => true
  | _ => false

theorem change_of_not_isCall {event : Event} (quiet : event.isCall = false) (states : States) :
    event.change states = states := by
  cases event with
  | called call answer => simp [isCall] at quiet
  | logged entry => rfl
  | pooled workers => rfl

end Event

/-- The states after events, from the states before them. -/
def statesAfter (states : States) (events : List Event) : States :=
  events.foldl Event.change states

@[simp]
theorem statesAfter_nil (states : States) : statesAfter states [] = states := rfl

@[simp]
theorem statesAfter_cons (states : States) (event : Event) (rest : List Event) :
    statesAfter states (event :: rest) = statesAfter (event.change states) rest := rfl

@[simp]
theorem statesAfter_append (states : States) (first second : List Event) :
    statesAfter states (first ++ second) = statesAfter (statesAfter states first) second := by
  simp [statesAfter]

/-- Whether each event, at its own moment, has a property together with the states it meets. -/
def Along (holds : States → Event → Prop) : States → List Event → Prop
  | _, [] => True
  | states, event :: rest => holds states event ∧ Along holds (event.change states) rest

section Along

variable {holds : States → Event → Prop}

theorem along_append {states : States} {first second : List Event} :
    Along holds states (first ++ second) ↔
      Along holds states first ∧ Along holds (statesAfter states first) second := by
  induction first generalizing states with
  | nil => simp [Along]
  | cons event rest ih => simp [Along, ih, and_assoc]

/-- The states that an event meets are those after the events before it. -/
theorem along_iff_forall_split {states : States} {events : List Event} :
    Along holds states events ↔
      ∀ earlier event later, events = earlier ++ event :: later →
        holds (statesAfter states earlier) event := by
  constructor
  · rintro along earlier event later rfl
    exact (along_append.mp along).2.1
  · intro all
    induction events generalizing states with
    | nil => trivial
    | cons event rest ih =>
        refine ⟨all [] event rest rfl, ih ?_⟩
        intro earlier inner later split
        exact all (event :: earlier) inner later (by rw [split, List.cons_append])

theorem Along.mono {weaker : States → Event → Prop} {states : States} {events : List Event}
    (along : Along holds states events)
    (implies : ∀ states, ∀ event ∈ events, holds states event → weaker states event) :
    Along weaker states events := by
  induction events generalizing states with
  | nil => trivial
  | cons event rest ih =>
      refine ⟨implies states event List.mem_cons_self along.1, ih along.2 ?_⟩
      intro later inner member
      exact implies later inner (List.mem_cons_of_mem _ member)

theorem Along.and {other : States → Event → Prop} {states : States} {events : List Event}
    (first : Along holds states events) (second : Along other states events) :
    Along (fun states event => holds states event ∧ other states event) states events := by
  induction events generalizing states with
  | nil => trivial
  | cons event rest ih => exact ⟨⟨first.1, second.1⟩, ih first.2 second.2⟩

/-- What every event preserves is true at every moment. -/
theorem along_of_preserved (kept : States → Prop) {states : States} {events : List Event}
    (start : kept states)
    (preserved : ∀ states, ∀ event ∈ events, kept states → kept (event.change states)) :
    Along (fun states _ => kept states) states events ∧ kept (statesAfter states events) := by
  induction events generalizing states with
  | nil => exact ⟨trivial, start⟩
  | cons event rest ih =>
      have next := preserved states event List.mem_cons_self start
      rcases ih next (fun later inner member =>
        preserved later inner (List.mem_cons_of_mem _ member)) with ⟨along, final⟩
      exact ⟨⟨start, along⟩, final⟩

/-- What every event preserves, given what is known of it at its moment, is true in the end. -/
theorem Along.preserves {kept : States → Prop} {states : States} {events : List Event}
    (along : Along holds states events) (start : kept states)
    (preserved : ∀ states event, holds states event → kept states → kept (event.change states)) :
    kept (statesAfter states events) := by
  induction events generalizing states with
  | nil => exact start
  | cons event rest ih => exact ih along.2 (preserved states event along.1 start)

theorem along_of_forall {states : States} {events : List Event}
    (all : ∀ states, ∀ event ∈ events, holds states event) : Along holds states events := by
  induction events generalizing states with
  | nil => trivial
  | cons event rest ih =>
      exact ⟨all states event List.mem_cons_self,
        ih fun later inner member => all later inner (List.mem_cons_of_mem _ member)⟩

end Along

theorem statesAfter_filter_isCall (states : States) (events : List Event) :
    statesAfter states (events.filter Event.isCall) = statesAfter states events := by
  induction events generalizing states with
  | nil => rfl
  | cons event rest ih =>
      cases quiet : event.isCall with
      | true => simp [quiet, ih]
      | false => simp [quiet, ih, Event.change_of_not_isCall quiet]

/-- A property that only calls can fail needs to be seen at the calls alone. -/
theorem along_filter_isCall {holds : States → Event → Prop}
    (quietly : ∀ states event, event.isCall = false → holds states event)
    {states : States} {events : List Event} :
    Along holds states (events.filter Event.isCall) ↔ Along holds states events := by
  induction events generalizing states with
  | nil => rfl
  | cons event rest ih =>
      cases quiet : event.isCall with
      | true => simp [quiet, Along, ih]
      | false =>
          simp [quiet, Along, ih, Event.change_of_not_isCall quiet, quietly states event quiet]

/-- The state that a computation ends in, whether or not it fails. -/
def finalState {σ α : Type} (body : EStateM Failure σ α) (state : σ) : σ :=
  match body state with
  | .ok _ after => after
  | .error _ after => after

section finalState

variable {σ α β : Type} {body : EStateM Failure σ α} {state after : σ}

theorem finalState_of_ok {value : α} (run : body state = .ok value after) :
    finalState body state = after := by
  simp [finalState, run]

theorem finalState_of_error {failure : Failure} (run : body state = .error failure after) :
    finalState body state = after := by
  simp [finalState, run]

theorem bind_of_ok {value : α} (run : body state = .ok value after)
    (next : α → EStateM Failure σ β) : (body >>= next) state = next value after := by
  change EStateM.bind body next state = _
  simp [EStateM.bind, run]

theorem bind_of_error {failure : Failure} (run : body state = .error failure after)
    (next : α → EStateM Failure σ β) : (body >>= next) state = .error failure after := by
  change EStateM.bind body next state = _
  simp [EStateM.bind, run]

theorem bind_eq_ok {next : α → EStateM Failure σ β} {value : β} :
    (body >>= next) state = .ok value after ↔
      ∃ middle between, body state = .ok middle between ∧
        next middle between = .ok value after := by
  cases run : body state with
  | ok middle between => simp [bind_of_ok run]
  | error failure between => simp [bind_of_error run]

theorem bind_eq_error {next : α → EStateM Failure σ β} {failure : Failure} :
    (body >>= next) state = .error failure after ↔
      body state = .error failure after ∨
        ∃ middle between, body state = .ok middle between ∧
          next middle between = .error failure after := by
  cases run : body state with
  | ok middle between => simp [bind_of_ok run]
  | error other between => simp [bind_of_error run]

theorem conclude_eq_ok {outcome : Except Failure α} {value : α} :
    (conclude outcome : EStateM Failure σ α) state = .ok value after ↔
      outcome = .ok value ∧ after = state := by
  cases outcome with
  | ok given => simp [conclude, eq_comm]
  | error failure => simp [conclude]

theorem conclude_eq_error {outcome : Except Failure α} {failure : Failure} :
    (conclude outcome : EStateM Failure σ α) state = .error failure after ↔
      outcome = .error failure ∧ after = state := by
  cases outcome with
  | ok given => simp [conclude]
  | error other => simp [conclude, eq_comm]

theorem finalState_bind_of_ok {value : α} (run : body state = .ok value after)
    (next : α → EStateM Failure σ β) :
    finalState (body >>= next) state = finalState (next value) after := by
  simp [finalState, bind_of_ok run]

theorem finalState_bind_of_error {failure : Failure} (run : body state = .error failure after)
    (next : α → EStateM Failure σ β) : finalState (body >>= next) state = after := by
  simp [finalState, bind_of_error run]

theorem attempt_of_ok {value : α} (run : body state = .ok value after) :
    attempt body state = .ok (.ok value) after := by
  simp [attempt, run]

theorem attempt_of_error {failure : Failure} (run : body state = .error failure after) :
    attempt body state = .ok (.error failure) after := by
  simp [attempt, run]

@[simp]
theorem finalState_attempt : finalState (attempt body) state = finalState body state := by
  cases run : body state with
  | ok value after => rw [finalState_of_ok run, finalState_of_ok (attempt_of_ok run)]
  | error failure after => rw [finalState_of_error run, finalState_of_ok (attempt_of_error run)]

@[simp]
theorem finalState_conclude (outcome : Except Failure α) :
    finalState (conclude outcome) state = state := by
  cases outcome <;> rfl

end finalState

/-- Whether a computation has returned with something that passes a check. -/
def returnsWith {σ α : Type} (check : α → σ → Bool) : EStateM.Result Failure σ α → Bool
  | .ok value after => check value after
  | .error _ _ => false

theorem exists_of_returnsWith {σ α : Type} {check : α → σ → Bool}
    {result : EStateM.Result Failure σ α} (passes : returnsWith check result = true) :
    ∃ value after, result = .ok value after ∧ check value after = true := by
  cases result with
  | ok value after => exact ⟨value, after, rfl, passes⟩
  | error failure after => cases passes

namespace Session

variable {ω : Type} {before middle after : Session ω} {first second events : List Event}

/-- A session in which nothing has happened yet. -/
def fresh (world : ω) : Session ω := { outside := world }

@[simp]
theorem history_record (session : Session ω) (event : Event) :
    (session.record event).history = session.history ++ [event] := by
  simp [history, record]

/-- One session became another one by certain events, oldest first. -/
structure Evolves (before : Session ω) (events : List Event) (after : Session ω) : Prop where
  history : after.history = before.history ++ events
  states : after.stateOf = statesAfter before.stateOf events
  orderly : Along Event.IsOrderly before.stateOf events
  serials : before.nextSerial ≤ after.nextSerial

namespace Evolves

theorem refl (session : Session ω) : session.Evolves [] session :=
  ⟨by simp, rfl, trivial, Nat.le_refl _⟩

theorem unique (one : before.Evolves first after) (other : before.Evolves second after) :
    first = second :=
  List.append_cancel_left (one.history.symm.trans other.history)

theorem trans (front : before.Evolves first middle) (back : middle.Evolves second after) :
    before.Evolves (first ++ second) after where
  history := by rw [back.history, front.history, List.append_assoc]
  states := by rw [back.states, front.states, statesAfter_append]
  orderly := along_append.mpr ⟨front.orderly, front.states ▸ back.orderly⟩
  serials := Nat.le_trans front.serials back.serials

theorem record (session : Session ω) (event : Event) (quiet : event.isCall = false) :
    session.Evolves [event] (session.record event) where
  history := history_record session event
  states := by
    rw [statesAfter_cons, Event.change_of_not_isCall quiet]
    rfl
  orderly := by
    cases event with
    | called call answer => simp [Event.isCall] at quiet
    | logged entry => exact ⟨trivial, trivial⟩
    | pooled workers => exact ⟨trivial, trivial⟩
  serials := Nat.le_refl _

theorem logged (session : Session ω) (entry : LogEntry) :
    session.Evolves [.logged entry] (session.record (.logged entry)) :=
  .record session _ rfl

theorem stateOf (evolves : before.Evolves events after) (component : Component) :
    after.stateOf component = statesAfter before.stateOf events component := by
  rw [evolves.states]

/-- Giving out a number is no event. -/
theorem numbered (session : Session ω) :
    session.Evolves [] { session with nextSerial := session.nextSerial + 1 } :=
  ⟨by simp [Session.history], rfl, trivial, Nat.le_succ _⟩

/-- The calls alone tell the states. -/
theorem states_of_calls (evolves : before.Evolves events after) :
    after.stateOf = statesAfter before.stateOf (events.filter Event.isCall) := by
  rw [evolves.states, statesAfter_filter_isCall]

end Evolves

/-- Something has happened on the way from one session to another. -/
def Happened (episode : Session ω → List Event → Session ω → Prop)
    (start now : Session ω) : Prop :=
  ∃ earlier past events since later, start.Evolves earlier past ∧ episode past events since ∧
    since.Evolves later now

namespace Happened

variable {episode : Session ω → List Event → Session ω → Prop} {first start now last : Session ω}
  {events : List Event}

theorem single (happens : episode start events now) : Happened episode start now :=
  ⟨[], start, events, now, [], .refl start, happens, .refl now⟩

theorem later (happened : Happened episode start now) (evolves : now.Evolves events last) :
    Happened episode start last := by
  rcases happened with ⟨earlier, past, between, since, later, before, happens, after⟩
  exact ⟨earlier, past, between, since, _, before, happens, after.trans evolves⟩

theorem earlier (happened : Happened episode start now) (evolves : first.Evolves events start) :
    Happened episode first now := by
  rcases happened with ⟨earlier, past, between, since, later, before, happens, after⟩
  exact ⟨_, past, between, since, later, evolves.trans before, happens, after⟩

/-- What has happened for one thing and then for others has happened for all of them. -/
theorem forall_cons {α : Type} {episode : α → Session ω → List Event → Session ω → Prop}
    {thing : α} {others : List α} {later : List Event} (before : start.Evolves events now)
    (happens : episode thing start events now) (after : now.Evolves later last)
    (rest : ∀ other ∈ others, Happened (episode other) now last) :
    ∀ other ∈ thing :: others, Happened (episode other) start last := by
  intro other otherMem
  rcases List.mem_cons.mp otherMem with rfl | among
  · exact (single happens).later after
  · exact (rest other among).earlier before

end Happened

end Session

end ShardFleet
