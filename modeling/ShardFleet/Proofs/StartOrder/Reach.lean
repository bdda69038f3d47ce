import ShardFleet.Proofs.StartOrder.Levels
import ShardFleet.Proofs.StartOrder.Rollout

/-!
# What a rollout can reach

Whatever the requirements and the number of workers, starting in order calls nothing but listed
components, to start them, and so does stopping.
-/

namespace ShardFleet

variable {ω : Type}

namespace Transition

def callOf : Transition → Component → Call
  | .start => .start
  | .stop => .stop

/-- The calls that put listed components through a transition. -/
def Reaches (transition : Transition) (components : List Component) (call : Call) : Prop :=
  ∃ component ∈ components, call = transition.callOf component

end Transition

open ShardFleet.Action

variable [Outside ω] {transition : Transition} {allowed : Call → Prop}

theorem Transition.outside_run (transition : Transition) (component : Component)
    (session : Session ω) :
    (finalState (transition.run component) session).outside = session.outside ∨
      (finalState (transition.run component) session).outside =
        (Outside.respond (transition.callOf component) session.outside).2 := by
  by_cases applies : transition.AppliesTo (session.stateOf component)
  · right
    have asked : (transition.ask component session.outside).2 =
        (Outside.respond (transition.callOf component) session.outside).2 := by
      cases transition <;> rfl
    rw [finalState, Transition.run_eq_of_appliesTo applies, ← asked]
    rcases transition.ask component session.outside with ⟨failure | answer, outside⟩ <;> rfl
  · left
    rw [finalState_of_ok (Transition.run_of_not_appliesTo applies)]

theorem Transition.run_callsOnly (transition : Transition) (component : Component)
    (permitted : allowed (transition.callOf component)) :
    CallsOnly allowed (transition.run component : Action ω Bool) := by
  have keeps : ∀ (session : Session ω) (fact : ω → Prop), Outside.Lasts allowed fact →
      fact session.outside → fact (finalState (transition.run component) session).outside := by
    intro session fact lasts start
    rcases transition.outside_run component session with same | answered
    · rw [same]
      exact start
    · rw [answered]
      exact lasts.call _ _ permitted start
  have asks : ∀ events answer, (∀ event ∈ events, event.isCall = true →
      event = transition.asked component answer) → CalledOnly allowed events := by
    intro events answer all call outcome member
    have same := all _ member rfl
    cases transition <;> cases same <;> exact permitted
  intro session
  by_cases applies : transition.AppliesTo (session.stateOf component)
  · rcases Transition.run_of_appliesTo applies with
      ⟨after, run, evolves⟩ | ⟨failure, after, run, evolves⟩
    · rw [← finalState_of_ok run] at evolves
      refine ⟨_, evolves, asks _ (.ok ()) ?_, keeps session⟩
      simp [Transition.begins, Transition.succeeds, Event.isCall]
    · rw [← finalState_of_error run] at evolves
      refine ⟨_, evolves, asks _ (.error failure) ?_, keeps session⟩
      simp [Transition.begins, Event.isCall]
  · rw [finalState_of_ok (Transition.run_of_not_appliesTo applies)]
    exact ⟨[], .refl session⟩

namespace Transition

variable {component : Component} {session after : Session ω}

theorem not_appliesTo_of_run (transition : Transition) {called : Bool}
    (ran : transition.run component session = .ok called after) :
    ¬transition.AppliesTo (after.stateOf component) := by
  by_cases applies : transition.AppliesTo (session.stateOf component)
  · rcases run_of_appliesTo applies with ⟨final, run, evolves⟩ | ⟨failure, final, run, evolves⟩
    · rw [run] at ran
      cases ran
      have turned : session.Evolves ((Turn.done component).events transition) after := evolves
      rw [turned.stateOf, (Recounts.turn _).statesAfter_eq]
      exact not_appliesTo_of_done (List.mem_singleton_self _)
    · rw [run] at ran
      cases ran
  · rw [run_of_not_appliesTo applies] at ran
    cases ran
    exact applies

theorem evolves_of_run_error (transition : Transition) {failure : Failure}
    (ran : transition.run component session = .error failure after) :
    session.EvolvesWithin (· = transition.callOf component)
      [transition.begins component, transition.asked component (.error failure)] after := by
  by_cases applies : transition.AppliesTo (session.stateOf component)
  · rcases run_of_appliesTo applies with ⟨final, run, evolves⟩ | ⟨other, final, run, evolves⟩
    · rw [run] at ran
      cases ran
    · rw [run] at ran
      cases ran
      have calls : CallsOnly (· = transition.callOf component)
          (transition.run component : Action ω Bool) := transition.run_callsOnly component rfl
      rcases calls session with ⟨events, within⟩
      rw [finalState_of_error run] at within
      rw [within.evolves.unique evolves] at within
      exact within
  · rw [run_of_not_appliesTo applies] at ran
    cases ran

end Transition

namespace StartOrder

theorem runOne_callsOnly {component : Component}
    (permitted : allowed (transition.callOf component)) :
    CallsOnly allowed (runOne transition transition.run component : Action ω Unit) := by
  apply (transition.run_callsOnly component permitted).attempt.bind
  intro outcome
  cases outcome with
  | ok called => exact .pure ()
  | error failure =>
      apply (CallsOnly.log _ _ _).bind
      intro _
      exact .throw failure

theorem runInTurn_callsOnly {level : List Component}
    (permitted : ∀ component ∈ level, allowed (transition.callOf component)) :
    CallsOnly allowed (runInTurn transition transition.run level : Action ω Unit) := by
  induction level with
  | nil => exact .pure ()
  | cons component rest ih =>
      apply (runOne_callsOnly (permitted component List.mem_cons_self)).bind
      intro _
      exact ih fun other otherMem => permitted other (List.mem_cons_of_mem _ otherMem)

theorem runEach_callsOnly {level : List Component}
    (permitted : ∀ component ∈ level, allowed (transition.callOf component)) :
    CallsOnly allowed (runEach transition transition.run level :
      Action ω (Except Failure Unit)) := by
  induction level with
  | nil => exact .pure _
  | cons component rest ih =>
      apply (runOne_callsOnly (permitted component List.mem_cons_self)).attempt.bind
      intro outcome
      apply (ih fun other otherMem => permitted other (List.mem_cons_of_mem _ otherMem)).bind
      intro others
      cases outcome with
      | ok value => exact .pure others
      | error failure => exact .pure _

theorem openPool_callsOnly (order : StartOrder) (size : Nat) :
    CallsOnly allowed (order.openPool size : Action ω Unit) := by
  unfold openPool
  dsimp only
  split
  · intro session
    exact ⟨_, .record session _ rfl⟩
  · exact .throw _
  · exact .throw _

theorem runLevel_callsOnly (order : StartOrder) {level : List Component}
    (permitted : ∀ component ∈ level, allowed (transition.callOf component)) :
    CallsOnly allowed (order.runLevel transition transition.run level : Action ω Unit) := by
  unfold runLevel
  split
  · exact .pure ()
  · split
    · exact runInTurn_callsOnly permitted
    · apply (order.openPool_callsOnly level.length).bind
      intro _
      apply (runEach_callsOnly permitted).bind
      intro outcome
      exact .conclude outcome

theorem runLevels_callsOnly (order : StartOrder) (wanted : Session ω → Component → Bool)
    {arranged : List (List Component)}
    (permitted : ∀ component ∈ arranged.flatten, allowed (transition.callOf component)) :
    CallsOnly allowed (order.runLevels transition transition.run wanted arranged) := by
  induction arranged with
  | nil => exact .pure ()
  | cons level rest ih =>
      apply (CallsOnly.of_unchanged fun _ => rfl).bind
      intro session
      refine (order.runLevel_callsOnly ?_).bind fun _ => ih ?_
      · intro component componentMem
        exact permitted component
          (List.mem_append_left _ (List.mem_filter.mp componentMem).1)
      · intro component componentMem
        exact permitted component (List.mem_append_right _ componentMem)

theorem mem_levelsOf {order : StartOrder} {components : List Component}
    {arranged : List (List Component)} (levelled : order.levelsOf components = .ok arranged)
    {component : Component} : component ∈ arranged.flatten ↔ component ∈ components := by
  unfold levelsOf at levelled
  cases peeled : levels order.requires components with
  | error circle => simp [peeled] at levelled
  | ok levels =>
      simp only [peeled, Except.ok.injEq] at levelled
      subst levelled
      exact (perm_of_peel peeled).mem_iff.trans mem_firstOccurrences

theorem startAll_callsOnly (order : StartOrder) (components : List Component) :
    CallsOnly (Transition.start.Reaches components)
      (order.startAll components : Action ω Unit) := by
  unfold startAll startAllBy
  cases levelled : order.levelsOf components with
  | error failure => exact .of_unchanged fun _ => rfl
  | ok arranged =>
      change CallsOnly _ (announce "Starting units" arranged >>= fun _ =>
        order.runLevels .start Transition.start.run _ arranged)
      refine CallsOnly.bind (.log _ _ _) fun _ => order.runLevels_callsOnly _ ?_
      intro component componentMem
      exact ⟨component, (mem_levelsOf levelled).mp componentMem, rfl⟩

theorem stopAll_callsOnly (order : StartOrder) (components : List Component) :
    CallsOnly (Transition.stop.Reaches components)
      (order.stopAll components : Action ω Unit) := by
  unfold stopAll
  cases levelled : order.levelsOf components with
  | error failure => exact .of_unchanged fun _ => rfl
  | ok arranged =>
      change CallsOnly _ (announce "Stopping units" arranged >>= fun _ =>
        order.runLevels .stop Transition.stop.run _ arranged.reverse)
      refine CallsOnly.bind (.log _ _ _) fun _ => order.runLevels_callsOnly _ ?_
      intro component componentMem
      rw [arranged.reverse_perm.flatten.mem_iff] at componentMem
      exact ⟨component, (mem_levelsOf levelled).mp componentMem, rfl⟩

end StartOrder

end ShardFleet
