import Mathlib.Data.List.Pairwise
import ShardFleet.Proofs.StartOrder.Levels
import ShardFleet.Proofs.StartOrder.Rollout

/-!
# What holds at each turn of a rollout

A component is settled when its transition has nothing left to do: started, for a start, and not
started, for a stop. Turns only ever settle components. So if every level needs nothing but earlier
levels, then at each call whatever the called component needs is settled, and this is so although
levels may fail, pools go on after a failure, and components may be settled to begin with.
-/

namespace ShardFleet

variable {transition : Transition} {pools : List Component → Bool} {wanted : Component → Bool}
  {arranged : List (List Component)} {turns : List Turn} {result : Except Failure Unit}
  {states : States} {needs : Component → Component → Prop}

/-- Each level needs nothing but what is done when its turn comes. -/
def Stacked (needs : Component → Component → Prop) :
    List Component → List (List Component) → Prop
  | _, [] => True
  | done, level :: rest =>
      (∀ component ∈ level, ∀ other, needs component other → other ∈ done) ∧
        Stacked needs (done ++ level) rest

/-- Levels are stacked if no level needs itself or a later one, and nothing outside is needed. -/
theorem stacked_of_pairwise {done : List Component}
    (inside : ∀ component ∈ arranged.flatten, ∀ other, needs component other →
      other ∈ done ∨ other ∈ arranged.flatten)
    (upward : arranged.Pairwise fun first second =>
      ∀ component ∈ first, ∀ other ∈ second, ¬needs component other)
    (apart : ∀ level ∈ arranged, ∀ component ∈ level, ∀ other ∈ level, ¬needs component other) :
    Stacked needs done arranged := by
  induction arranged generalizing done with
  | nil => trivial
  | cons level rest ih =>
      rcases List.pairwise_cons.mp upward with ⟨levelUpward, restUpward⟩
      constructor
      · intro component componentMem other needed
        rcases inside component (List.mem_append_left _ componentMem) other needed with
          before | within
        · exact before
        · rcases List.mem_append.mp within with same | later
          · exact absurd needed (apart level List.mem_cons_self component componentMem other same)
          · rcases List.mem_flatten.mp later with ⟨higher, higherMem, otherMem⟩
            exact absurd needed
              (levelUpward higher higherMem component componentMem other otherMem)
      · apply ih _ restUpward fun higher higherMem =>
          apart higher (List.mem_cons_of_mem _ higherMem)
        intro component componentMem other needed
        rcases inside component (List.mem_append_right _ componentMem) other needed with
          before | within
        · exact Or.inl (List.mem_append_left _ before)
        · rcases List.mem_append.mp within with lower | later
          · exact Or.inl (List.mem_append_right _ lower)
          · exact Or.inr later

/-- At a call, whatever the called component needs is settled. -/
def NeedsSettled (transition : Transition) (needs : Component → Component → Prop)
    (states : States) (event : Event) : Prop :=
  ∀ component answer, event = transition.asked component answer →
    ∀ other, needs component other → ¬transition.AppliesTo (states other)

theorem needsSettled_of_not_isCall (states : States) (event : Event)
    (quiet : event.isCall = false) : NeedsSettled transition needs states event := by
  rintro component answer rfl
  rw [Transition.isCall_asked] at quiet
  cases quiet

/-- Where all that called components need is settled to begin with, it is settled at each call. -/
theorem along_needsSettled_of_asked {done : List Component} {events : List Event}
    (settled : ∀ other ∈ done, ¬transition.AppliesTo (states other))
    (asked : ∀ event ∈ events, event.isCall = true → ∃ component answer,
      event = transition.asked component answer ∧ ∀ other, needs component other → other ∈ done) :
    Along (NeedsSettled transition needs) states events := by
  have kept : ∀ states, ∀ event ∈ events,
      (∀ other ∈ done, ¬transition.AppliesTo (states other)) →
        ∀ other ∈ done, ¬transition.AppliesTo (event.change states other) := by
    intro states event eventMem before other otherMem
    cases isCall : event.isCall with
    | false =>
        rw [Event.change_of_not_isCall isCall]
        exact before other otherMem
    | true =>
        rcases asked event eventMem isCall with ⟨component, answer, rfl, _⟩
        exact not_appliesTo_change ⟨component, answer⟩ (before other otherMem)
  have always := (along_of_preserved
    (fun states => ∀ other ∈ done, ¬transition.AppliesTo (states other)) settled kept).1
  refine always.mono ?_
  rintro states event eventMem before component answer rfl other need
  rcases asked _ eventMem (transition.isCall_asked component answer) with ⟨_, _, same, needed⟩
  rcases Transition.asked_inj.mp same with ⟨rfl, _⟩
  exact before other (needed other need)

theorem along_needsSettled_of_done {done : List Component}
    (settled : ∀ other ∈ done, ¬transition.AppliesTo (states other))
    (needed : ∀ turn ∈ turns, ∀ other, needs turn.component other → other ∈ done) :
    Along (NeedsSettled transition needs) states (turns.map (Turn.call transition)) := by
  apply along_needsSettled_of_asked settled
  intro event eventMem _
  rcases List.mem_map.mp eventMem with ⟨turn, turnMem, rfl⟩
  exact ⟨turn.component, turn.answer, rfl, needed turn turnMem⟩

theorem statesAfterTurns_of_failed (nodup : (turns.map (·.component)).Nodup)
    {component : Component} {failure : Failure}
    (turnMem : ⟨component, .error failure⟩ ∈ turns) :
    statesAfterTurns transition states turns component = states component := by
  rcases List.append_of_mem turnMem with ⟨front, back, rfl⟩
  rw [List.map_append, List.map_cons, List.nodup_append, List.nodup_cons] at nodup
  rcases nodup with ⟨_, ⟨absentBack, _⟩, apart⟩
  have absentFront : component ∉ front.map (·.component) := by
    intro member
    exact apart component member component List.mem_cons_self rfl
  rw [statesAfterTurns, List.map_append, statesAfter_append, List.map_cons, statesAfter_cons,
    Turn.call, Transition.change_asked_error]
  exact (statesAfterTurns_of_not_mem absentBack).trans (statesAfterTurns_of_not_mem absentFront)

/-- Where a rollout fails: the levels before are through, in its own level the failing component is
the first to fail, and the levels behind have not been touched. -/
structure FailsAt (wanted : Component → Bool) (before : List (List Component))
    (front : List Component) (failing : Component) (back : List Component)
    (behind : List (List Component)) (turns : List Turn) (failure : Failure) : Prop where
  failed : ⟨failing, .error failure⟩ ∈ turns
  first : ∀ component ∈ front, ∀ other, ⟨component, .error other⟩ ∉ turns
  within : ∀ component other, ⟨component, .error other⟩ ∈ turns →
    component ∈ front ++ failing :: back
  done : ∀ component ∈ before.flatten, wanted component = true → Turn.done component ∈ turns
  untouched : ∀ component answer, ⟨component, answer⟩ ∈ turns → component ∉ behind.flatten

namespace FailsAt

variable {before behind : List (List Component)} {level front back : List Component}
  {failing : Component} {failure : Failure}

/-- A level that is through does not change where a rollout fails. -/
theorem onward (fails : FailsAt wanted before front failing back behind turns failure)
    (apart : ∀ component ∈ level, component ∉ behind.flatten) :
    FailsAt wanted (level :: before) front failing back behind
      ((level.filter wanted).map Turn.done ++ turns) failure := by
  have unfailed : ∀ component other,
      (⟨component, .error other⟩ : Turn) ∉ (level.filter wanted).map Turn.done := by
    intro component other turnMem
    rcases List.mem_map.mp turnMem with ⟨_, _, same⟩
    cases congrArg Turn.answer same
  constructor
  case failed => exact List.mem_append_right _ fails.failed
  case first =>
    intro component componentMem other turnMem
    rcases List.mem_append.mp turnMem with here | later
    · exact unfailed component other here
    · exact fails.first component componentMem other later
  case within =>
    intro component other turnMem
    rcases List.mem_append.mp turnMem with here | later
    · exact absurd here (unfailed component other)
    · exact fails.within component other later
  case done =>
    intro component componentMem isWanted
    apply List.mem_append.mpr
    rcases List.mem_append.mp componentMem with here | later
    · exact Or.inl (List.mem_map_of_mem (List.mem_filter.mpr ⟨here, isWanted⟩))
    · exact Or.inr (fails.done component later isWanted)
  case untouched =>
    intro component answer turnMem
    rcases List.mem_append.mp turnMem with here | later
    · rcases List.mem_map.mp here with ⟨_, filtered, same⟩
      cases same
      exact apart component (List.mem_filter.mp filtered).1
    · exact fails.untouched component answer later

end FailsAt

namespace LevelRun

variable {pooled : Bool} {level : List Component}

theorem turns_of_ok (run : LevelRun pooled level turns (.ok ())) :
    turns = level.map Turn.done := by
  cases run
  rfl

/-- Where a level fails, the failure raised is that of the first component to fail. -/
theorem of_error {failure : Failure} (run : LevelRun pooled level turns (.error failure))
    (nodup : level.Nodup) :
    ∃ front failing back, level = front ++ failing :: back ∧
      ⟨failing, .error failure⟩ ∈ turns ∧
        ∀ component ∈ front, ∀ other, ⟨component, .error other⟩ ∉ turns := by
  cases run with
  | failed front after =>
      rename_i back failing others
      refine ⟨front, failing, back, rfl, by simp, ?_⟩
      intro component componentMem other turnMem
      rcases List.mem_append.mp turnMem with done | later
      · rcases List.mem_map.mp done with ⟨_, _, same⟩
        cases congrArg Turn.answer same
      · have behind : component ∈ failing :: back := by
          rcases List.mem_cons.mp later with same | rest
          · cases same
            exact List.mem_cons_self
          · have listed := List.mem_map_of_mem (f := Turn.component) rest
            rw [after] at listed
            split at listed
            · exact List.mem_cons_of_mem _ listed
            · cases listed
        exact (List.nodup_append.mp nodup).2.2 component componentMem component behind rfl

/-- A level that fails is where its rollout fails. -/
theorem failsAt {pooled : Bool} {level : List Component} {rest : List (List Component)}
    {failure : Failure} (run : LevelRun pooled (level.filter wanted) turns (.error failure))
    (nodup : level.Nodup) (apart : ∀ component ∈ level, component ∉ rest.flatten) :
    ∃ front failing back, level = front ++ failing :: back ∧
      FailsAt wanted [] front failing back rest turns failure := by
  have inside : ∀ component answer, (⟨component, answer⟩ : Turn) ∈ turns →
      component ∈ level ∧ wanted component = true := by
    intro component answer turnMem
    apply List.mem_filter.mp
    exact run.prefix_level.subset (List.mem_map_of_mem (f := Turn.component) turnMem)
  rcases run.of_error (nodup.filter wanted) with
    ⟨front, failing, back, split, failingMem, frontUnfailed⟩
  rcases List.filter_eq_append_iff.mp split with ⟨ahead, after, rfl, aheadEq, afterEq⟩
  rcases List.filter_eq_cons_iff.mp afterEq with ⟨skipped, behind, rfl, unwanted, _, _⟩
  refine ⟨ahead ++ skipped, failing, behind, by simp, ?_⟩
  constructor
  case failed => exact failingMem
  case first =>
    intro component componentMem other turnMem
    have isWanted := (inside component _ turnMem).2
    rcases List.mem_append.mp componentMem with aheadMem | skippedMem
    · apply frontUnfailed component _ other turnMem
      rw [← aheadEq]
      exact List.mem_filter.mpr ⟨aheadMem, isWanted⟩
    · exact unwanted component skippedMem isWanted
  case within =>
    intro component other turnMem
    have listed := (inside component _ turnMem).1
    simpa using listed
  case done => simp
  case untouched =>
    intro component answer turnMem
    exact apart component (inside component answer turnMem).1

end LevelRun

namespace RolloutRun

theorem prefix_wanted (run : RolloutRun pools wanted arranged turns result) :
    turns.map (·.component) <+: arranged.flatten.filter wanted := by
  induction run with
  | finished => exact List.prefix_rfl
  | onward run others ih =>
      rw [run.turns_of_ok, List.map_append, LevelRun.map_done, List.flatten_cons,
        List.filter_append]
      exact (List.prefix_append_right_inj _).mpr ih
  | halted run =>
      rw [List.flatten_cons, List.filter_append]
      exact run.prefix_level.trans (List.prefix_append _ _)

theorem mem_of_turn (run : RolloutRun pools wanted arranged turns result) {turn : Turn}
    (turnMem : turn ∈ turns) :
    turn.component ∈ arranged.flatten ∧ wanted turn.component = true :=
  List.mem_filter.mp (run.prefix_wanted.subset (List.mem_map_of_mem turnMem))

theorem nodup_components (run : RolloutRun pools wanted arranged turns result)
    (nodup : arranged.flatten.Nodup) : (turns.map (·.component)).Nodup :=
  (nodup.filter wanted).sublist run.prefix_wanted.sublist

theorem done_mem_of_ok (run : RolloutRun pools wanted arranged turns result)
    (ended : result = .ok ()) {component : Component} (listed : component ∈ arranged.flatten)
    (isWanted : wanted component = true) : Turn.done component ∈ turns := by
  induction run with
  | finished => cases listed
  | onward run others ih =>
      rcases List.mem_append.mp listed with here | later
      · rw [run.turns_of_ok]
        exact List.mem_append_left _
          (List.mem_map_of_mem (List.mem_filter.mpr ⟨here, isWanted⟩))
      · exact List.mem_append_right _ (ih ended later)
  | halted run => cases ended

theorem of_error {failure : Failure} (run : RolloutRun pools wanted arranged turns result)
    (ended : result = .error failure) (nodup : arranged.flatten.Nodup) :
    ∃ before front failing back behind,
      arranged = before ++ (front ++ failing :: back) :: behind ∧
      FailsAt wanted before front failing back behind turns failure := by
  induction run with
  | finished => cases ended
  | onward run others ih =>
      rename_i level rest turns later result
      rw [List.flatten_cons, List.nodup_append] at nodup
      rcases nodup with ⟨_, restNodup, apart⟩
      rcases ih ended restNodup with ⟨before, front, failing, back, behind, split, fails⟩
      refine ⟨level :: before, front, failing, back, behind, by rw [split, List.cons_append], ?_⟩
      rw [run.turns_of_ok]
      apply fails.onward
      intro component componentMem behindMem
      have restMem : component ∈ rest.flatten := by
        rw [split, List.flatten_append, List.flatten_cons]
        exact List.mem_append_right _ (List.mem_append_right _ behindMem)
      exact apart component componentMem component restMem rfl
  | halted run =>
      rename_i level rest turns failed
      cases ended
      rw [List.flatten_cons, List.nodup_append] at nodup
      rcases nodup with ⟨levelNodup, _, apart⟩
      rcases run.failsAt levelNodup fun component here behind =>
        apart component here component behind rfl with ⟨front, failing, back, rfl, fails⟩
      exact ⟨[], front, failing, back, rest, rfl, fails⟩

/-- At every call of a rollout over stacked levels, what the component needs is settled. -/
theorem along_needsSettled (run : RolloutRun pools wanted arranged turns result)
    (nodup : arranged.flatten.Nodup)
    (wants : ∀ component ∈ arranged.flatten,
      wanted component = decide (transition.AppliesTo (states component)))
    {done : List Component} (settled : ∀ other ∈ done, ¬transition.AppliesTo (states other))
    (stacked : Stacked needs done arranged) :
    Along (NeedsSettled transition needs) states (turns.map (Turn.call transition)) := by
  induction run generalizing done states with
  | finished => trivial
  | onward run others ih =>
      rename_i level rest turns later result
      rw [List.flatten_cons, List.nodup_append] at nodup
      rcases nodup with ⟨_, restNodup, apart⟩
      rcases stacked with ⟨levelNeeds, restStacked⟩
      have here := run.turns_of_ok
      rw [List.map_append, along_append]
      constructor
      · apply along_needsSettled_of_done settled
        intro turn turnMem other needed
        rw [here] at turnMem
        rcases List.mem_map.mp turnMem with ⟨component, filtered, rfl⟩
        exact levelNeeds component (List.mem_filter.mp filtered).1 other needed
      · refine ih restNodup ?_ ?_ restStacked
        · intro component componentMem
          have absent : component ∉ turns.map (·.component) := by
            rw [here, LevelRun.map_done]
            intro filtered
            exact apart component (List.mem_filter.mp filtered).1 component componentMem rfl
          rw [wants component (List.mem_append_right _ componentMem)]
          exact congrArg (fun state => decide (transition.AppliesTo state))
            (statesAfterTurns_of_not_mem absent).symm
        · intro other otherMem
          rcases List.mem_append.mp otherMem with before | levelMem
          · exact not_appliesTo_statesAfterTurns (settled other before)
          · cases isWanted : wanted other with
            | true =>
                apply not_appliesTo_of_done
                rw [here]
                exact List.mem_map_of_mem (List.mem_filter.mpr ⟨levelMem, isWanted⟩)
            | false =>
                apply not_appliesTo_statesAfterTurns
                rw [wants other (List.mem_append_left _ levelMem)] at isWanted
                exact of_decide_eq_false isWanted
  | halted run =>
      rename_i level rest turns failure
      apply along_needsSettled_of_done settled
      intro turn turnMem other needed
      have filtered := run.prefix_level.subset (List.mem_map_of_mem (f := Turn.component) turnMem)
      exact stacked.1 turn.component (List.mem_filter.mp filtered).1 other needed

end RolloutRun

end ShardFleet
