import ShardFleet.Proofs.StartOrder.Stacking

/-!
# What a rollout comes to

`RolledOut` relates a rollout over levels to its events and to the session after it. Its
consequences are stated for both transitions at once: a component is called at most once, only where
the transition applies, and only while what it needs is settled; what is settled stays so; a rollout
that ends well settles everything, and one that fails stops with the level that failed.
-/

namespace ShardFleet

variable {ω : Type}

/-- The levels in the order in which they were taken, with the turns, the outcome, the events and
the session that came of them. -/
structure RolledOut (order : StartOrder) (transition : Transition) (session : Session ω)
    (taken : List (List Component)) (turns : List Turn) (result : Except Failure Unit)
    (events : List Event) (after : Session ω) : Prop where
  nodup : taken.flatten.Nodup
  evolves : session.Evolves events after
  /-- But for what is logged and pooled, the events are the turns. -/
  calls : events.filter Event.isCall = turns.map (Turn.call transition)
  /-- Those components take part that the transition applies to at the beginning. -/
  run : RolloutRun order.pools
    (fun component => decide (transition.AppliesTo (session.stateOf component))) taken turns result

namespace RolledOut

variable {order : StartOrder} {transition : Transition} {session after : Session ω}
  {taken : List (List Component)} {turns : List Turn} {result : Except Failure Unit}
  {events part earlier later : List Event} {component : Component}
  {answer : Except Failure Unit}

theorem mem_calls (rolled : RolledOut order transition session taken turns result events after)
    {event : Event} (call : event.isCall = true) :
    event ∈ events ↔ ∃ turn ∈ turns, turn.call transition = event := by
  rw [← List.mem_map, ← rolled.calls, List.mem_filter]
  simp [call]

theorem mem_turns (rolled : RolledOut order transition session taken turns result events after) :
    transition.asked component answer ∈ events ↔ ⟨component, answer⟩ ∈ turns := by
  rw [rolled.mem_calls (transition.isCall_asked component answer)]
  constructor
  · rintro ⟨turn, turnMem, same⟩
    rcases Transition.asked_inj.mp same with ⟨rfl, rfl⟩
    exact turnMem
  · intro turnMem
    exact ⟨_, turnMem, rfl⟩

theorem called (rolled : RolledOut order transition session taken turns result events after)
    (member : transition.asked component answer ∈ events) :
    component ∈ taken.flatten ∧ transition.AppliesTo (session.stateOf component) := by
  rcases rolled.run.mem_of_turn (rolled.mem_turns.mp member) with ⟨listed, applies⟩
  exact ⟨listed, of_decide_eq_true applies⟩

theorem only_asked (rolled : RolledOut order transition session taken turns result events after)
    {event : Event} (member : event ∈ events) (call : event.isCall = true) :
    ∃ component answer, event = transition.asked component answer := by
  rcases (rolled.mem_calls call).mp member with ⟨turn, _, same⟩
  exact ⟨turn.component, turn.answer, same.symm⟩

theorem called_once (rolled : RolledOut order transition session taken turns result events after)
    (split : events = earlier ++ transition.asked component answer :: later)
    (another : Except Failure Unit) :
    transition.asked component another ∉ earlier := by
  intro member
  have distinct := rolled.run.nodup_components rolled.nodup
  have calls := rolled.calls
  rw [split, List.filter_append, List.filter_cons_of_pos (transition.isCall_asked _ _)] at calls
  rcases List.map_eq_append_iff.mp calls.symm with ⟨front, behind, rfl, frontEq, behindEq⟩
  rcases List.map_eq_cons_iff.mp behindEq with ⟨turn, rest, rfl, turnEq, _⟩
  have early : transition.asked component another ∈ front.map (Turn.call transition) := by
    rw [frontEq]
    exact List.mem_filter.mpr ⟨member, transition.isCall_asked _ _⟩
  rcases List.mem_map.mp early with ⟨first, firstMem, firstEq⟩
  rw [List.map_append, List.map_cons] at distinct
  apply (List.nodup_append.mp distinct).2.2 first.component (List.mem_map_of_mem firstMem)
    turn.component List.mem_cons_self
  rw [(Transition.asked_inj.mp firstEq).1, (Transition.asked_inj.mp turnEq).1]

/-- What a transition does not apply to stays so at every moment of the rollout. -/
theorem settled_of_settled
    (rolled : RolledOut order transition session taken turns result events after)
    (within : part ⊆ events) (settled : ¬transition.AppliesTo (session.stateOf component)) :
    ¬transition.AppliesTo (statesAfter session.stateOf part component) := by
  refine (along_of_preserved (fun states => ¬transition.AppliesTo (states component))
    settled ?_).2
  intro states event member before
  cases call : event.isCall with
  | false =>
      rw [Event.change_of_not_isCall call]
      exact before
  | true =>
      rcases (rolled.mem_calls call).mp (within member) with ⟨turn, _, rfl⟩
      exact not_appliesTo_change turn before

/-- A component whose handle has not been called, or not without a failure, is as it was. -/
theorem unchanged (rolled : RolledOut order transition session taken turns result events after)
    (within : part ⊆ events) (uncalled : transition.asked component (.ok ()) ∉ part) :
    statesAfter session.stateOf part component = session.stateOf component := by
  refine (along_of_preserved (fun states => states component = session.stateOf component)
    rfl ?_).2
  intro states event member before
  cases call : event.isCall with
  | false =>
      rw [Event.change_of_not_isCall call]
      exact before
  | true =>
      rcases (rolled.mem_calls call).mp (within member) with ⟨⟨other, failure | value⟩, _, rfl⟩
      · rw [Turn.call, Transition.change_asked_error]
        exact before
      · have different : component ≠ other := by
          rintro rfl
          exact uncalled member
        exact (congrFun (Transition.change_asked_ok transition other states) component).trans
          ((Function.update_of_ne different _ _).trans before)

/-- At a call, whatever the called component needs is settled. -/
theorem needs_settled
    (rolled : RolledOut order transition session taken turns result events after)
    {needs : Component → Component → Prop} (stacked : Stacked needs [] taken) :
    Along (NeedsSettled transition needs) session.stateOf events := by
  refine (along_filter_isCall needsSettled_of_not_isCall).mp ?_
  rw [rolled.calls]
  exact rolled.run.along_needsSettled rolled.nodup (fun _ _ => rfl) (by simp) stacked

theorem settled_of_ok (rolled : RolledOut order transition session taken turns result events after)
    (ended : result = .ok ()) (listed : component ∈ taken.flatten) :
    ¬transition.AppliesTo (after.stateOf component) := by
  rw [rolled.evolves.states]
  by_cases applies : transition.AppliesTo (session.stateOf component)
  · have turnMem := rolled.run.done_mem_of_ok ended listed (decide_eq_true applies)
    rw [← statesAfter_filter_isCall, rolled.calls]
    exact not_appliesTo_of_done turnMem
  · exact rolled.settled_of_settled (List.Subset.refl events) applies

theorem unchanged_of_failed
    (rolled : RolledOut order transition session taken turns result events after)
    {failure : Failure} (failed : transition.asked component (.error failure) ∈ events) :
    after.stateOf component = session.stateOf component := by
  rw [rolled.evolves.states, ← statesAfter_filter_isCall, rolled.calls]
  exact statesAfterTurns_of_failed (rolled.run.nodup_components rolled.nodup)
    (rolled.mem_turns.mp failed)

/-- Where a rollout fails: the levels before that of the failing component are settled, in its level
it is the first one to fail, and nothing is called on the levels behind. -/
theorem of_error (rolled : RolledOut order transition session taken turns result events after)
    {failure : Failure} (ended : result = .error failure) :
    ∃ before front failing back behind,
      taken = before ++ (front ++ failing :: back) :: behind ∧
      transition.asked failing (.error failure) ∈ events ∧
      (∀ component other, transition.asked component (.error other) ∈ events →
        component ∈ failing :: back) ∧
      (∀ component ∈ before.flatten, ¬transition.AppliesTo (after.stateOf component)) ∧
      ∀ component answer, transition.asked component answer ∈ events →
        component ∉ behind.flatten := by
  rcases rolled.run.of_error ended rolled.nodup with
    ⟨before, front, failing, back, behind, split, fails⟩
  refine ⟨before, front, failing, back, behind, split, rolled.mem_turns.mpr fails.failed,
    ?_, ?_, ?_⟩
  · intro component other failed
    have turnMem := rolled.mem_turns.mp failed
    rcases List.mem_append.mp (fails.within component other turnMem) with ahead | here
    · exact absurd turnMem (fails.first component ahead other)
    · exact here
  · intro component listed
    rw [rolled.evolves.states]
    by_cases applies : transition.AppliesTo (session.stateOf component)
    · rw [← statesAfter_filter_isCall, rolled.calls]
      exact not_appliesTo_of_done (fails.done component listed (decide_eq_true applies))
    · exact rolled.settled_of_settled (List.Subset.refl events) applies
  · intro component answer member
    exact fails.untouched component answer (rolled.mem_turns.mp member)

end RolledOut

namespace StartOrder

variable [Outside ω] {order : StartOrder} {components : List Component}

/-- A rollout is announced and then goes through the levels. -/
theorem rolledOut_runLevels (admits : AdmitsPool order.workers) {transition : Transition}
    {judged : Session ω → Component → Bool}
    (judges : ∀ session component,
      judged session component = decide (transition.AppliesTo (session.stateOf component)))
    {taken : List (List Component)} (nodup : taken.flatten.Nodup) (title : String)
    (arranged : List (List Component)) (session : Session ω) :
    ∃ turns result events after,
      (announce title arranged >>= fun _ =>
          order.runLevels transition transition.run judged taken) session =
        conclude result after ∧
        RolledOut order transition session taken turns result events after := by
  let entry : LogEntry := ⟨.info, title,
    [("units", .int arranged.flatten.length), ("levels", .int arranged.length)]⟩
  rcases runLevels_eq admits judges nodup (session.record (.logged entry))
    (fun _ _ => rfl) with ⟨turns, result, events, after, run, evolves, recounts, rollout⟩
  exact ⟨turns, result, _, after, run, nodup, (Session.Evolves.record session _ rfl).trans evolves,
    recounts.filter_isCall, rollout⟩

theorem startAll_eq (admits : AdmitsPool order.workers)
    (acyclic : Acyclic order.requires components) (session : Session ω) :
    ∃ arranged turns result events after,
      order.levelsOf components = .ok arranged ∧
      Arranges order.requires (firstOccurrences components) arranged ∧
      order.startAll components session = conclude result after ∧
      RolledOut order .start session arranged turns result events after := by
  rcases acyclic.levels_eq_ok with ⟨arranged, levelled, arranges⟩
  have levelsEq : order.levelsOf components = .ok arranged := by rw [levelsOf, levelled]
  have judges : ∀ (session : Session ω) component, (!session.isStarted component) =
      decide (Transition.start.AppliesTo (session.stateOf component)) := by
    intro session component
    exact (decide_not (p := session.stateOf component = .started)).symm
  rcases rolledOut_runLevels admits judges arranges.nodup "Starting units" arranged session with
    ⟨turns, result, events, after, run, rolled⟩
  refine ⟨arranged, turns, result, events, after, levelsEq, arranges, ?_, rolled⟩
  rw [startAll, startAllBy, levelsEq]
  exact run

theorem stopAll_eq (admits : AdmitsPool order.workers)
    (acyclic : Acyclic order.requires components) (session : Session ω) :
    ∃ arranged turns result events after,
      order.levelsOf components = .ok arranged ∧
      Arranges order.requires (firstOccurrences components) arranged ∧
      order.stopAll components session = conclude result after ∧
      RolledOut order .stop session arranged.reverse turns result events after := by
  rcases acyclic.levels_eq_ok with ⟨arranged, levelled, arranges⟩
  have levelsEq : order.levelsOf components = .ok arranged := by rw [levelsOf, levelled]
  have nodup : arranged.reverse.flatten.Nodup :=
    (arranged.reverse_perm.flatten.nodup_iff).mpr arranges.nodup
  rcases rolledOut_runLevels admits (fun _ _ => rfl) nodup "Stopping units" arranged session with
    ⟨turns, result, events, after, run, rolled⟩
  refine ⟨arranged, turns, result, events, after, levelsEq, arranges, ?_, rolled⟩
  rw [stopAll, levelsEq]
  exact run

end StartOrder

end ShardFleet
