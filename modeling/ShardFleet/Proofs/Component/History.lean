import Mathlib.Data.List.Chain
import Mathlib.Data.List.Induction
import ShardFleet.Proofs.StartOrder.StartUp
import ShardFleet.Simulation.World

/-!
# The history of a component

Whatever has been asked of a component and whatever its handle has refused, its state tells the last
transition that the handle has made: a component that is not started yet has never come up, one that
is started came up last, and one that is stopped went down last. Hence the handle comes up and goes
down by turns, beginning with a start. A transition that applies to the state calls the handle once;
one that does not apply does nothing at all.
-/

namespace ShardFleet

variable {ω : Type}

namespace Event

/-- The transition that the component's handle has made, if that is what happened. -/
def made? (component : Component) : Event → Option Transition
  | .called (.start other) (.ok _) => if other = component then some .start else none
  | .called (.stop other) (.ok _) => if other = component then some .stop else none
  | _ => none

variable {event : Event} {states : States} {component : Component} {transition : Transition}

/-- A transition is made by a call of the handle that is not refused. -/
theorem made?_eq_some_iff :
    event.made? component = some transition ↔ event = transition.asked component (.ok ()) := by
  constructor
  · intro made
    unfold made? at made
    split at made
    · rcases Option.ite_none_right_eq_some.mp made with ⟨rfl, same⟩
      cases same
      rfl
    · rcases Option.ite_none_right_eq_some.mp made with ⟨rfl, same⟩
      cases same
      rfl
    · cases made
  · rintro rfl
    cases transition <;> exact if_pos rfl

theorem change_of_made (made : event.made? component = some transition) :
    event.change states component = transition.target := by
  rw [made?_eq_some_iff.mp made, transition.change_asked_ok, Function.update_self]

theorem change_of_not_made (unmade : event.made? component = none) :
    event.change states component = states component := by
  cases event with
  | called call answer =>
      cases call <;> cases answer <;> try rfl
      all_goals
        rw [made?] at unmade
        split at unmade
        · cases unmade
        · rename_i other
          rw [change, Function.update_of_ne (Ne.symm other)]
  | _ => rfl

/-- A handle makes no transition that does not apply. -/
theorem appliesTo_of_made (made : event.made? component = some transition)
    (orderly : event.IsOrderly states) : transition.AppliesTo (states component) := by
  rw [made?_eq_some_iff.mp made] at orderly
  cases transition <;> exact orderly

end Event

namespace Transition

/-- The state of a component by the last transition that its handle has made. -/
def stateAfter : Option Transition → LifecycleState
  | none => .notStarted
  | some transition => transition.target

variable {made : List Transition} {last : Option Transition} {transition : Transition}

theorem stateAfter_eq_target_iff :
    stateAfter last = transition.target ↔ last = some transition := by
  cases last with
  | none => cases transition <;> simp [stateAfter, target]
  | some other => cases other <;> cases transition <;> simp [stateAfter, target]

theorem stateAfter_eq_notStarted_iff : stateAfter last = .notStarted ↔ last = none := by
  cases last with
  | none => simp [stateAfter]
  | some other => cases other <;> simp [stateAfter, target]

/-- Handles come up first, and after that go down and come up by turns. -/
structure Alternate (made : List Transition) : Prop where
  startsFirst : ∀ first ∈ made.head?, first = .start
  takeTurns : made.IsChain (· ≠ ·)

theorem Alternate.append (alternate : Alternate made)
    (applies : transition.AppliesTo (stateAfter made.getLast?)) :
    Alternate (made ++ [transition]) where
  startsFirst := by
    cases made with
    | nil =>
        rintro first ⟨⟩
        cases transition with
        | start => rfl
        | stop => cases applies
    | cons head rest => exact alternate.startsFirst
  takeTurns := by
    refine List.isChain_append.mpr ⟨alternate.takeTurns, List.isChain_singleton _, ?_⟩
    rintro last lastMem next ⟨⟩ rfl
    rw [Option.mem_def.mp lastMem] at applies
    exact not_appliesTo_target _ applies

theorem Alternate.start_not_mem_iff (alternate : Alternate made) :
    .start ∉ made ↔ made.getLast? = none := by
  cases made with
  | nil => simp
  | cons first rest =>
      rw [alternate.startsFirst first rfl]
      simp

end Transition

namespace Component

/-- The transitions that the component's handle has made, in order. -/
def transitionsOf (component : Component) (events : List Event) : List Transition :=
  events.filterMap (Event.made? component)

variable {component : Component} {states : States} {events : List Event}

/-- Of what has happened, the state of a component tells the last transition that it has made. -/
theorem statesAfter_eq_stateAfter (new : states component = .notStarted) :
    statesAfter states events component =
      Transition.stateAfter (component.transitionsOf events).getLast? := by
  induction events using List.reverseRecOn with
  | nil => exact new
  | append_singleton earlier event ih =>
      rw [statesAfter_append, transitionsOf, List.filterMap_append]
      cases made : event.made? component with
      | none =>
          rw [List.filterMap_cons_none made, List.filterMap_nil, List.append_nil]
          exact (Event.change_of_not_made made).trans ih
      | some transition =>
          rw [List.filterMap_cons_some made, List.filterMap_nil, List.getLast?_concat]
          exact Event.change_of_made made

theorem alternate_transitionsOf (new : states component = .notStarted)
    (orderly : Along Event.IsOrderly states events) :
    Transition.Alternate (component.transitionsOf events) := by
  induction events using List.reverseRecOn with
  | nil => exact ⟨nofun, .nil⟩
  | append_singleton earlier event ih =>
      rcases along_append.mp orderly with ⟨before, now, _⟩
      rw [transitionsOf, List.filterMap_append]
      cases made : event.made? component with
      | none =>
          rw [List.filterMap_cons_none made, List.filterMap_nil, List.append_nil]
          exact ih before
      | some transition =>
          rw [List.filterMap_cons_some made, List.filterMap_nil]
          have applies := Event.appliesTo_of_made made now
          rw [statesAfter_eq_stateAfter new] at applies
          exact (ih before).append applies

variable [Outside ω] {session : Session ω} {transition : Transition}

/-- The session after components have been asked for transitions one after another, whatever has
come of each. -/
def askAll (requests : List (Transition × Component)) (session : Session ω) : Session ω :=
  requests.foldl (fun session request => finalState (request.1.run request.2) session) session

theorem askAll_evolves (requests : List (Transition × Component)) (session : Session ω) :
    ∃ events, session.Evolves events (askAll requests session) := by
  induction requests generalizing session with
  | nil => exact ⟨[], .refl session⟩
  | cons request rest ih =>
      rcases exists_eq_conclude (request.1.run request.2) session with ⟨outcome, after, ran⟩
      rcases Transition.calls_of_run ran with ⟨events, evolves, _⟩
      rw [← finalState_of_conclude ran] at evolves
      rcases ih (finalState (request.1.run request.2) session) with ⟨later, follows⟩
      exact ⟨events ++ later, evolves.trans follows⟩

/-- The handle is called once. If it makes the transition, so does the component; if it fails, its
failure is raised and no state changes. -/
def AsksOnce (component : Component) (transition : Transition) (session : Session ω) : Prop :=
  ∃ answer events after,
    transition.run component session = conclude (answer.map fun _ => true) after ∧
    session.Evolves events after ∧
    events.filter Event.isCall = [transition.asked component answer] ∧
    after.stateOf = match answer with
      | .ok _ => Function.update session.stateOf component transition.target
      | .error _ => session.stateOf

/-- A component in a session in which its handle has made certain transitions, and what comes of the
next transition that it is asked for. -/
structure LivesBy (component : Component) (made : List Transition) (session : Session ω) :
    Prop where
  startsFirst : ∀ first ∈ made.head?, first = .start
  takeTurns : made.IsChain (· ≠ ·)
  notStarted_iff : session.stateOf component = .notStarted ↔ .start ∉ made
  started_iff : session.stateOf component = .started ↔ made.getLast? = some .start
  stopped_iff : session.stateOf component = .stopped ↔ made.getLast? = some .stop
  /-- The handle is not called, and nothing else happens either. -/
  start_idle_iff : component.start session = .ok false session ↔
    session.stateOf component = .started
  stop_idle_iff : component.stop session = .ok false session ↔
    session.stateOf component ≠ .started
  asked : ∀ transition : Transition, transition.AppliesTo (session.stateOf component) →
    component.AsksOnce transition session

theorem run_idle_iff (transition : Transition) :
    transition.run component session = .ok false session ↔
      ¬transition.AppliesTo (session.stateOf component) := by
  constructor
  · intro ran applies
    rcases Transition.run_of_appliesTo applies with ⟨_, other, _⟩ | ⟨_, _, other, _⟩
    · cases other.symm.trans ran
    · cases other.symm.trans ran
  · exact Transition.run_of_not_appliesTo

theorem asksOnce (applies : transition.AppliesTo (session.stateOf component)) :
    component.AsksOnce transition session := by
  rcases Transition.run_of_appliesTo applies with
    ⟨after, ran, evolves⟩ | ⟨failure, after, ran, evolves⟩
  · have calls : [transition.begins component, transition.asked component (.ok ()),
        transition.succeeds component].filter Event.isCall =
          [transition.asked component (.ok ())] := by
      cases transition <;> rfl
    refine ⟨.ok (), _, after, ran, evolves, calls, ?_⟩
    rw [evolves.states_of_calls, calls]
    exact transition.change_asked_ok component _
  · have calls : [transition.begins component,
        transition.asked component (.error failure)].filter Event.isCall =
          [transition.asked component (.error failure)] := by
      cases transition <;> rfl
    refine ⟨.error failure, _, after, ran, evolves, calls, ?_⟩
    rw [evolves.states_of_calls, calls]
    exact transition.change_asked_error component failure _

/-- Whatever is asked of a new component and of others in between, and whatever their handles
refuse: the handle's transitions alternate, the state tells the last of them, and the next
transition calls the handle once or, if it does not apply, does nothing. -/
theorem askAll_livesBy (new : session.stateOf component = .notStarted)
    (requests : List (Transition × Component)) :
    ∃ events, session.Evolves events (askAll requests session) ∧
      component.LivesBy (component.transitionsOf events) (askAll requests session) := by
  rcases askAll_evolves requests session with ⟨events, evolves⟩
  have state := evolves.stateOf component
  rw [statesAfter_eq_stateAfter new] at state
  have alternate := alternate_transitionsOf new evolves.orderly
  have tells (transition : Transition) :
      (askAll requests session).stateOf component = transition.target ↔
        (component.transitionsOf events).getLast? = some transition := by
    rw [state, Transition.stateAfter_eq_target_iff]
  exact ⟨events, evolves, {
    startsFirst := alternate.startsFirst
    takeTurns := alternate.takeTurns
    notStarted_iff := by
      rw [state, Transition.stateAfter_eq_notStarted_iff, alternate.start_not_mem_iff]
    started_iff := tells .start
    stopped_iff := tells .stop
    start_idle_iff := (run_idle_iff .start).trans Classical.not_not
    stop_idle_iff := run_idle_iff .stop
    asked := fun transition => asksOnce }⟩

/-- A simulated session with one handle, which refuses to be stopped. -/
def stubbornSession : Session Simulation.World :=
  .fresh {
    handles := #[{ label := .text "unit", name := .text "unit" }]
    stopFailures := [(.text "unit", some (.reported .general "stop refused"))] }

def stubbornComponent : Component := { serial := 0, name := .text "unit", handle := ⟨0⟩ }

/-- A component that has come up, has refused to go down and is asked to come up again. -/
theorem askAll_livesBy_stubborn :
    stubbornSession.stateOf stubbornComponent = .notStarted ∧
    ∃ events, stubbornSession.Evolves events (askAll
        [(.start, stubbornComponent), (.stop, stubbornComponent), (.start, stubbornComponent)]
        stubbornSession) ∧
      stubbornComponent.LivesBy (stubbornComponent.transitionsOf events) (askAll
        [(.start, stubbornComponent), (.stop, stubbornComponent), (.start, stubbornComponent)]
        stubbornSession) :=
  ⟨rfl, askAll_livesBy rfl _⟩

end Component

end ShardFleet
