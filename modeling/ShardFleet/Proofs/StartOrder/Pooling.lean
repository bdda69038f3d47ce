import ShardFleet.Proofs.StartOrder.Answers
import ShardFleet.Proofs.StartOrder.StartUp
import ShardFleet.Simulation.World

/-!
# Pools and turns

The same rollout can be run with one worker or with several. Where handles answer on their own, the
two agree: they come to the same, and as long as nothing fails they make the same calls. When a
component fails, a run with one worker stops with it, and a pool has run the rest of its level by
then. Nothing that has failed goes unseen in either of them.
-/

namespace ShardFleet

variable {ω : Type}

/-! ## Where the first component fails -/

/-- A component in its level, with what is before and behind it. -/
@[ext]
structure Spot where
  before : List (List Component)
  front : List Component
  component : Component
  back : List Component
  behind : List (List Component)

namespace Spot

def level (spot : Spot) : List Component := spot.front ++ spot.component :: spot.back

def levels (spot : Spot) : List (List Component) := spot.before ++ spot.level :: spot.behind

/-- The components of the levels before, and of its own level up to it. -/
def ahead (spot : Spot) : List Component := spot.before.flatten ++ spot.front

end Spot

/-- The component does not fail, or it is not wanted. -/
def Passes (outcome : Component → Except Failure Unit) (wanted : Component → Bool)
    (component : Component) : Prop :=
  wanted component = true → outcome component = .ok ()

/-- A component that is wanted and fails stands here, and none before it does. -/
structure FailsFirst (outcome : Component → Except Failure Unit) (wanted : Component → Bool)
    (taken : List (List Component)) (spot : Spot) (failure : Failure) : Prop where
  levels : taken = spot.levels
  isWanted : wanted spot.component = true
  fails : outcome spot.component = .error failure
  first : ∀ component ∈ spot.ahead, Passes outcome wanted component

/-- A list can be cut in one way only at the first item that does not pass. -/
theorem eq_of_append_cons {α : Type} {passes : α → Prop} {front others back rest : List α}
    {item other : α} (same : front ++ item :: back = others ++ other :: rest)
    (frontPass : ∀ item ∈ front, passes item) (stops : ¬passes item)
    (othersPass : ∀ item ∈ others, passes item) (otherStops : ¬passes other) :
    front = others ∧ item = other ∧ back = rest := by
  classical
  have cut (back : List α) {front : List α} {item : α} (pass : ∀ item ∈ front, passes item)
      (stops : ¬passes item) :
      (front ++ item :: back).takeWhile (fun item => decide (passes item)) = front := by
    rw [List.takeWhile_append_of_pos fun item member => decide_eq_true (pass item member),
      List.takeWhile_cons_of_neg (by simpa using stops), List.append_nil]
  have fronts : front = others := by
    rw [← cut back frontPass stops, same, cut rest othersPass otherStops]
  rw [fronts] at same
  rcases List.cons.inj (List.append_cancel_left same) with ⟨items, backs⟩
  exact ⟨fronts, items, backs⟩

namespace FailsFirst

variable {outcome : Component → Except Failure Unit} {wanted : Component → Bool}
  {taken : List (List Component)} {spot other : Spot} {failure another : Failure}

theorem not_passes (fails : FailsFirst outcome wanted taken spot failure) :
    ¬Passes outcome wanted spot.component := by
  intro passes
  cases fails.fails.symm.trans (passes fails.isWanted)

theorem level_not_passes (fails : FailsFirst outcome wanted taken spot failure) :
    ¬∀ component ∈ spot.level, Passes outcome wanted component := by
  intro passes
  exact fails.not_passes (passes spot.component (by simp [Spot.level]))

theorem before_passes (fails : FailsFirst outcome wanted taken spot failure) :
    ∀ level ∈ spot.before, ∀ component ∈ level, Passes outcome wanted component :=
  fun _ levelMem component componentMem =>
    fails.first component (List.mem_append_left _ (List.mem_flatten_of_mem levelMem componentMem))

theorem not_all_pass (fails : FailsFirst outcome wanted taken spot failure) :
    ¬∀ component ∈ taken.flatten, Passes outcome wanted component := by
  intro passes
  apply fails.not_passes
  apply passes
  simp [fails.levels, Spot.levels, Spot.level]

theorem unique (one : FailsFirst outcome wanted taken spot failure)
    (two : FailsFirst outcome wanted taken other another) : spot = other ∧ failure = another := by
  have same : spot.levels = other.levels := one.levels.symm.trans two.levels
  rcases eq_of_append_cons same one.before_passes one.level_not_passes two.before_passes
    two.level_not_passes with ⟨before, level, behind⟩
  have frontPasses {spot : Spot} {failure : Failure}
      (fails : FailsFirst outcome wanted taken spot failure) :
      ∀ component ∈ spot.front, Passes outcome wanted component :=
    fun component member => fails.first component (List.mem_append_right _ member)
  rcases eq_of_append_cons level (frontPasses one) one.not_passes (frontPasses two)
    two.not_passes with ⟨front, component, back⟩
  have failures : (.error failure : Except Failure Unit) = .error another := by
    rw [← one.fails, ← two.fails, component]
  exact ⟨Spot.ext before front component back behind, Except.error.inj failures⟩

end FailsFirst

/-! ## Turns that are foretold -/

section turns

variable {outcome : Component → Except Failure Unit} {transition : Transition}
  {pools : List Component → Bool} {wanted : Component → Bool} {pooled : Bool}
  {level : List Component} {taken : List (List Component)} {turns : List Turn}
  {result : Except Failure Unit} {failure : Failure}

/-- The calls to those of the components that are wanted, with the answers foretold. -/
def foretoldCalls (transition : Transition) (outcome : Component → Except Failure Unit)
    (wanted : Component → Bool) (components : List Component) : List Event :=
  (components.filter wanted).map fun component => transition.asked component (outcome component)

theorem foretoldCalls_append (first second : List Component) :
    foretoldCalls transition outcome wanted (first ++ second) =
      foretoldCalls transition outcome wanted first ++
        foretoldCalls transition outcome wanted second := by
  simp [foretoldCalls]

theorem map_call_eq (answers : ∀ turn ∈ turns, turn.answer = outcome turn.component)
    {components : List Component}
    (listed : turns.map (·.component) = components.filter wanted) :
    turns.map (Turn.call transition) = foretoldCalls transition outcome wanted components := by
  rw [foretoldCalls, ← listed, List.map_map]
  apply List.map_congr_left
  intro turn turnMem
  exact congrArg (transition.asked turn.component) (answers turn turnMem)

theorem LevelRun.passes_of_ok (run : LevelRun pooled level turns (.ok ()))
    (answers : ∀ turn ∈ turns, turn.answer = outcome turn.component) :
    ∀ component ∈ level, outcome component = .ok () := by
  intro component member
  rw [run.turns_of_ok] at answers
  exact (answers _ (List.mem_map_of_mem member)).symm

theorem LevelRun.fails_of_error (run : LevelRun pooled level turns (.error failure))
    (answers : ∀ turn ∈ turns, turn.answer = outcome turn.component) :
    ∃ front failing back, level = front ++ failing :: back ∧
      outcome failing = .error failure ∧ (∀ component ∈ front, outcome component = .ok ()) ∧
        turns.map (·.component) = front ++ failing :: if pooled then back else [] := by
  cases run with
  | @failed front back failing failure others after =>
      have failed := answers _ (List.mem_append_right _ List.mem_cons_self)
      refine ⟨front, failing, back, rfl, failed.symm, ?_, ?_⟩
      · intro component member
        have turnMem : Turn.done component ∈ front.map Turn.done := List.mem_map_of_mem member
        exact (answers _ (List.mem_append_left _ turnMem)).symm
      · rw [List.map_append, LevelRun.map_done, List.map_cons, after]

namespace RolloutRun

theorem passes_of_ok (run : RolloutRun pools wanted taken turns result)
    (answers : ∀ turn ∈ turns, turn.answer = outcome turn.component) (returned : result = .ok ()) :
    (∀ component ∈ taken.flatten, Passes outcome wanted component) ∧
      turns.map (·.component) = taken.flatten.filter wanted := by
  induction run with
  | finished => exact ⟨by simp, rfl⟩
  | @onward level rest turns later result run others ih =>
      rcases ih (fun turn member => answers turn (List.mem_append_right _ member)) returned with
        ⟨passes, listed⟩
      have here := run.passes_of_ok fun turn member => answers turn (List.mem_append_left _ member)
      constructor
      · intro component member isWanted
        rcases List.mem_append.mp member with first | behind
        · exact here component (List.mem_filter.mpr ⟨first, isWanted⟩)
        · exact passes component behind isWanted
      · rw [List.map_append, run.turns_of_ok, LevelRun.map_done, listed, List.flatten_cons,
          List.filter_append]
  | halted run => cases returned

theorem failsFirst_of_error (run : RolloutRun pools wanted taken turns result)
    (answers : ∀ turn ∈ turns, turn.answer = outcome turn.component)
    (failed : result = .error failure) :
    ∃ spot, FailsFirst outcome wanted taken spot failure ∧
      turns.map (·.component) = (spot.ahead ++ spot.component ::
        if pools (spot.level.filter wanted) then spot.back else []).filter wanted := by
  induction run with
  | finished => cases failed
  | @onward level rest turns later result run others ih =>
      rcases ih (fun turn member => answers turn (List.mem_append_right _ member)) failed with
        ⟨spot, fails, listed⟩
      have here := run.passes_of_ok fun turn member => answers turn (List.mem_append_left _ member)
      refine ⟨{ spot with before := level :: spot.before },
        ⟨?_, fails.isWanted, fails.fails, ?_⟩, ?_⟩
      · rw [fails.levels]
        rfl
      · intro component member isWanted
        rcases List.mem_append.mp member with before | front
        · rcases List.mem_append.mp before with first | behind
          · exact here component (List.mem_filter.mpr ⟨first, isWanted⟩)
          · exact fails.first component (List.mem_append_left _ behind) isWanted
        · exact fails.first component (List.mem_append_right _ front) isWanted
      · rw [List.map_append, run.turns_of_ok, LevelRun.map_done, listed, ← List.filter_append]
        simp [Spot.ahead, Spot.level]
  | @halted level rest turns other run =>
      cases failed
      rcases run.fails_of_error answers with ⟨front, failing, back, split, fails, passes, listed⟩
      rcases List.filter_eq_append_iff.mp split with ⟨ahead, after, rfl, aheadEq, afterEq⟩
      rcases List.filter_eq_cons_iff.mp afterEq with
        ⟨skipped, behind, rfl, unwanted, isWanted, behindEq⟩
      refine ⟨⟨[], ahead ++ skipped, failing, behind, rest⟩, ⟨?_, isWanted, fails, ?_⟩, ?_⟩
      · simp [Spot.levels, Spot.level]
      · intro component member wants
        have inFront : component ∈ ahead ++ skipped := member
        rcases List.mem_append.mp inFront with aheadMem | skippedMem
        · apply passes
          rw [← aheadEq]
          exact List.mem_filter.mpr ⟨aheadMem, wants⟩
        · exact absurd wants (unwanted component skippedMem)
      · have unskipped : skipped.filter wanted = [] := List.filter_eq_nil_iff.mpr unwanted
        have level : (⟨[], ahead ++ skipped, failing, behind, rest⟩ : Spot).level =
            ahead ++ (skipped ++ failing :: behind) := List.append_assoc _ _ _
        rw [listed, level, ← aheadEq, ← behindEq]
        split <;> simp [Spot.ahead, unskipped, isWanted]

end RolloutRun

end turns

/-! ## What is logged -/

def Event.isErrorEntry : Event → Bool
  | .logged entry => decide (entry.level = .error)
  | _ => false

/-- The entry that shows that a call has failed. -/
def Transition.entryFor? (transition : Transition) : Event → Option Event
  | .called (.start component) (.error failure) => some (transition.fails component failure)
  | .called (.stop component) (.error failure) => some (transition.fails component failure)
  | _ => none

/-- The errors that are logged are those of the calls that have failed, one for each, in order. -/
def ShowsFailures (transition : Transition) (events : List Event) : Prop :=
  events.filter Event.isErrorEntry = events.filterMap transition.entryFor?

section shows

variable {transition : Transition} {first second events : List Event} {turns : List Turn}

theorem ShowsFailures.append (front : ShowsFailures transition first)
    (back : ShowsFailures transition second) : ShowsFailures transition (first ++ second) := by
  rw [ShowsFailures, List.filter_append, List.filterMap_append, front, back]

theorem Turn.showsFailures (turn : Turn) : ShowsFailures transition (turn.events transition) := by
  rcases turn with ⟨component, answer | answer⟩ <;> cases transition <;> rfl

theorem showsFailures_flatMap (turns : List Turn) :
    ShowsFailures transition (turns.flatMap (Turn.events transition)) := by
  induction turns with
  | nil => rfl
  | cons turn rest ih => exact turn.showsFailures.append ih

theorem Recounts.showsFailures (recounts : Recounts transition events turns) :
    ShowsFailures transition events := by
  have shown : ShowsFailures transition (events.filter fun event => !event.isPooling) := by
    rw [recounts]
    exact showsFailures_flatMap turns
  rw [ShowsFailures, List.filter_filter, List.filterMap_filter] at shown
  have entries : events.filter Event.isErrorEntry =
      events.filter fun event => event.isErrorEntry && !event.isPooling := by
    apply List.filter_congr
    intro event _
    cases event <;> simp [Event.isErrorEntry, Event.isPooling]
  have failed : events.filterMap transition.entryFor? =
      events.filterMap fun event =>
        if !event.isPooling then transition.entryFor? event else none := by
    apply List.filterMap_congr
    intro event _
    cases event <;> simp [Transition.entryFor?, Event.isPooling]
  rw [ShowsFailures, entries, failed]
  exact shown

end shows

/-! ## One rollout -/

namespace Transition

/-- The levels in the order in which a transition takes them. -/
def takes : Transition → List (List Component) → List (List Component)
  | .start, arranged => arranged
  | .stop, arranged => arranged.reverse

theorem nodup_takes (transition : Transition) {arranged : List (List Component)}
    (nodup : arranged.flatten.Nodup) : (transition.takes arranged).flatten.Nodup := by
  cases transition with
  | start => exact nodup
  | stop => exact (arranged.reverse_perm.flatten.nodup_iff).mpr nodup

def title : Transition → String
  | .start => "Starting units"
  | .stop => "Stopping units"

/-- Whether a component has a turn in a rollout that begins with the session. -/
def isWanted (transition : Transition) (session : Session ω) (component : Component) : Bool :=
  decide (transition.AppliesTo (session.stateOf component))

end Transition

namespace Simulation.World

/-- What a handle answers in a simulated world. -/
def answerOf (world : World) : Transition → Component → Except Failure Unit
  | .start, component => outcome (world.startFailure component.handle)
  | .stop, component => outcome (world.stopFailure component.handle)

/-- Handles of a simulated world answer on their own. -/
theorem answersAlone (world : World) (transition : Transition) :
    transition.AnswersAlone (world.answerOf transition) world := by
  have unmoved (called : List Component) : transition.worldAfter world called = world := by
    induction called with
    | nil => rfl
    | cons first rest ih => cases transition <;> exact ih
  intro called component _
  rw [unmoved]
  cases transition <;> rfl

end Simulation.World

namespace StartOrder

variable [Outside ω] {order : StartOrder} {transition : Transition} {components : List Component}
  {arranged : List (List Component)}

/-- Puts all components through a transition. -/
def rollOut (order : StartOrder) : Transition → List Component → Action ω Unit
  | .start, components => order.startAll components
  | .stop, components => order.stopAll components

theorem rollOut_eq (levelled : order.levelsOf components = .ok arranged) :
    (order.rollOut transition components : Action ω Unit) =
      announce transition.title arranged >>= fun _ =>
        order.runLevels transition transition.run transition.isWanted
          (transition.takes arranged) := by
  cases transition with
  | start =>
      have judged : (fun (session : Session ω) component => !session.isStarted component) =
          Transition.start.isWanted :=
        funext fun session => funext fun component => not_isStarted_eq session component
      rw [rollOut, startAll, startAllBy, levelled, judged]
      rfl
  | stop =>
      rw [rollOut, stopAll, levelled]
      rfl

variable {outcome : Component → Except Failure Unit} {session : Session ω}

theorem rollOut_keeps {fact : Session ω → Prop}
    (turns : ∀ component, Keeps fact (transition.run component : Action ω Bool))
    (records : ∀ session event, event.isCall = false → fact session → fact (session.record event))
    (levelled : order.levelsOf components = .ok arranged) :
    Keeps fact (order.rollOut transition components : Action ω Unit) := by
  rw [rollOut_eq levelled]
  apply (log_keeps records _ _ _).bind fun _ _ => id
  exact fun _ => order.runLevels_keeps turns records _ _

/-- What comes of a rollout over levels whose handles answer on their own. -/
structure ComesForetold (order : StartOrder) (transition : Transition)
    (outcome : Component → Except Failure Unit) (session : Session ω)
    (taken : List (List Component)) (result : Except Failure Unit) (events : List Event) :
    Prop where
  shows : ShowsFailures transition events
  of_ok : result = .ok () →
    (∀ component ∈ taken.flatten, Passes outcome (transition.isWanted session) component) ∧
    events.filter Event.isCall =
      foretoldCalls transition outcome (transition.isWanted session) taken.flatten
  of_error : ∀ failure, result = .error failure →
    ∃ spot, FailsFirst outcome (transition.isWanted session) taken spot failure ∧
      events.filter Event.isCall = foretoldCalls transition outcome (transition.isWanted session)
        (spot.ahead ++ spot.component ::
          if order.pools (spot.level.filter (transition.isWanted session)) then spot.back else [])

theorem rollOut_foretold (admits : AdmitsPool order.workers)
    (levelled : order.levelsOf components = .ok arranged)
    (nodup : (transition.takes arranged).flatten.Nodup)
    (alone : transition.AnswersAlone outcome session.outside) :
    ∃ result events after, order.rollOut transition components session = conclude result after ∧
      session.Evolves events after ∧
      order.ComesForetold transition outcome session (transition.takes arranged) result events := by
  let entry : LogEntry := ⟨.info, transition.title,
    [("units", .int arranged.flatten.length), ("levels", .int arranged.length)]⟩
  rcases runLevels_eq admits (fun _ _ => rfl) nodup (session.record (.logged entry))
    (fun _ _ => rfl) with
    ⟨turns, result, events, after, ran, evolves, recounts, run⟩
  have evolved := (Session.Evolves.logged session entry).trans evolves
  have rolled : order.rollOut transition components session = conclude result after := by
    rw [rollOut_eq levelled]
    exact ran
  have calls : (.logged entry :: events).filter Event.isCall = turns.map (Turn.call transition) :=
    recounts.filter_isCall
  have keeps : Keeps (fun after => ∃ turns, ComeBy transition session after turns)
      (order.rollOut transition components) :=
    rollOut_keeps ComeBy.run_keeps
      (fun _ _ quiet => Exists.imp fun _ come => come.record quiet) levelled
  rcases finalState_of_conclude rolled ▸ keeps.finalState ⟨[], .refl session⟩ with ⟨past, come⟩
  have answers := alone.answer_eq (come.replied_of_calls evolved calls)
    (run.nodup_components nodup)
  refine ⟨result, _, after, rolled, evolved, ?_, ?_, ?_⟩
  · have quiet : ShowsFailures transition [.logged entry] := rfl
    exact quiet.append recounts.showsFailures
  · intro returned
    rcases run.passes_of_ok answers returned with ⟨passes, listed⟩
    exact ⟨passes, calls.trans (map_call_eq answers listed)⟩
  · intro failure failed
    rcases run.failsFirst_of_error answers failed with ⟨spot, fails, listed⟩
    exact ⟨spot, fails, calls.trans (map_call_eq answers listed)⟩

/-! ## One worker or a pool -/

/-- The same requirements, with one worker. -/
def inTurn (order : StartOrder) : StartOrder := { order with workers := .int 1 }

theorem inTurn_pools (level : List Component) : order.inTurn.pools level = false := by
  simp [pools, inTurn, Value.isOne]

/-- A number of workers with which levels of several components are given to a pool. -/
structure Pools (workers : Value) : Prop where
  admits : AdmitsPool workers
  several : workers.isOne = false

theorem pools_null : Pools .null := ⟨Or.inl rfl, rfl⟩

/-- Zero stands for as many workers as there are components on a level. -/
theorem pools_int_iff {number : Int} : Pools (.int number) ↔ number = 0 ∨ 2 ≤ number := by
  have admits : AdmitsPool (.int number) ↔ 0 ≤ number := by simp [AdmitsPool, Value.isBelow?]
  have several : (Value.int number).isOne = false ↔ number ≠ 1 := by simp [Value.isOne]
  constructor
  · rintro ⟨least, other⟩
    rw [admits] at least
    rw [several] at other
    omega
  · intro allowed
    exact ⟨admits.mpr (by omega), several.mpr (by omega)⟩

/-- Of two rollouts that come to the same, the one has been run in turn and the other in pools. -/
structure PoolAgrees (transition : Transition) (outcome : Component → Except Failure Unit)
    (session : Session ω) (taken : List (List Component)) (result : Except Failure Unit)
    (single pooled : List Event) (after afterPool : Session ω) : Prop where
  /-- If they return, nothing fails, and both have made the same calls and left the same states. -/
  returns : result = .ok () →
    (∀ component ∈ taken.flatten, Passes outcome (transition.isWanted session) component) ∧
    pooled.filter Event.isCall = single.filter Event.isCall ∧ afterPool.stateOf = after.stateOf
  /-- If they fail, then with the first component that fails. The run in turn ends with it, and the
  pool has called the components behind it on its level, too. -/
  raises : ∀ failure, result = .error failure →
    ∃ spot, FailsFirst outcome (transition.isWanted session) taken spot failure ∧
      single.filter Event.isCall = foretoldCalls transition outcome (transition.isWanted session)
        (spot.ahead ++ [spot.component]) ∧
      pooled.filter Event.isCall = single.filter Event.isCall ++
        foretoldCalls transition outcome (transition.isWanted session) spot.back
  shows : ShowsFailures transition single ∧ ShowsFailures transition pooled

/-- On a level that is not given to a pool there is no component behind the one that is wanted. -/
theorem filter_behind {spot : Spot} {wanted : Component → Bool}
    (several : order.workers.isOne = false) (isWanted : wanted spot.component = true) :
    (if order.pools (spot.level.filter wanted) then spot.back else []).filter wanted =
      spot.back.filter wanted := by
  cases pooled : order.pools (spot.level.filter wanted) with
  | true => rw [if_pos rfl]
  | false =>
      have few : (spot.level.filter wanted).length ≤ 1 := by
        simpa [pools, several] using pooled
      have behind : spot.back.filter wanted = [] := by
        rw [Spot.level, List.filter_append, List.filter_cons_of_pos isWanted, List.length_append,
          List.length_cons] at few
        exact List.eq_nil_of_length_eq_zero (by omega)
      simp [behind]

omit [Outside ω] in
theorem ComesForetold.agrees {taken : List (List Component)} {result other : Except Failure Unit}
    {events others : List Event} {after final : Session ω}
    (single : order.inTurn.ComesForetold transition outcome session taken result events)
    (pooled : order.ComesForetold transition outcome session taken other others)
    (several : order.workers.isOne = false) (evolves : session.Evolves events after)
    (evolved : session.Evolves others final) :
    result = other ∧
      PoolAgrees transition outcome session taken result events others after final := by
  cases result with
  | ok value =>
      rcases single.of_ok rfl with ⟨passes, calls⟩
      cases other with
      | ok value =>
          have same := (pooled.of_ok rfl).2.trans calls.symm
          refine ⟨rfl, fun _ => ⟨passes, same, ?_⟩, nofun, single.shows, pooled.shows⟩
          rw [evolved.states_of_calls, evolves.states_of_calls, same]
      | error failure =>
          rcases pooled.of_error failure rfl with ⟨spot, fails, _⟩
          exact absurd passes fails.not_all_pass
  | error failure =>
      rcases single.of_error failure rfl with ⟨spot, fails, calls⟩
      cases other with
      | ok value => exact absurd (pooled.of_ok rfl).1 fails.not_all_pass
      | error another =>
          rcases pooled.of_error another rfl with ⟨other, failsToo, callsToo⟩
          rcases fails.unique failsToo with ⟨rfl, rfl⟩
          -- Both stop at the same component, so it is only behind it that the calls can differ.
          rw [inTurn_pools, if_neg Bool.false_ne_true] at calls
          refine ⟨rfl, nofun, ?_, single.shows, pooled.shows⟩
          rintro given ⟨⟩
          refine ⟨spot, fails, calls, ?_⟩
          rw [callsToo, List.append_cons, foretoldCalls_append, calls]
          congr 1
          rw [foretoldCalls, filter_behind several fails.isWanted]
          rfl

/-- With a pool, a rollout comes to the same as with one worker. -/
theorem rollOut_agrees (pools : Pools order.workers)
    (acyclic : Acyclic order.requires components)
    (alone : transition.AnswersAlone outcome session.outside) :
    ∃ arranged result events others after afterPool,
      order.levelsOf components = .ok arranged ∧
      order.inTurn.rollOut transition components session = conclude result after ∧
      session.Evolves events after ∧
      order.rollOut transition components session = conclude result afterPool ∧
      session.Evolves others afterPool ∧
      PoolAgrees transition outcome session (transition.takes arranged) result events others after
        afterPool := by
  rcases acyclic.levels_eq_ok with ⟨arranged, levelled, arranges⟩
  have levelsEq : order.levelsOf components = .ok arranged := by rw [levelsOf, levelled]
  have nodup := transition.nodup_takes arranges.nodup
  have one : AdmitsPool order.inTurn.workers := Or.inr rfl
  rcases rollOut_foretold one levelsEq nodup alone with
    ⟨result, events, after, ran, evolves, single⟩
  rcases rollOut_foretold pools.admits levelsEq nodup alone with
    ⟨other, others, afterPool, ranPooled, evolvesPooled, pooled⟩
  rcases single.agrees pooled pools.several evolves evolvesPooled with ⟨rfl, agrees⟩
  exact ⟨arranged, result, events, others, after, afterPool, levelsEq, ran, evolves, ranPooled,
    evolvesPooled, agrees⟩

/-- Two of three components on one level fail. -/
theorem rollOut_agrees_of_two_failures :
    let first : Component := ⟨0, .text "first", ⟨0⟩⟩
    let second : Component := ⟨1, .text "second", ⟨1⟩⟩
    let third : Component := ⟨2, .text "third", ⟨2⟩⟩
    let order : StartOrder := ⟨[], .null⟩
    let world : Simulation.World :=
      { startFailures := [(.text "first", some .emptyPool), (.text "second", some .wrongKind)]
        handles := #[⟨.text "first", .text "first", [], [], default, default⟩,
          ⟨.text "second", .text "second", [], [], default, default⟩] }
    let session : Session Simulation.World := { outside := world }
    ∃ arranged result events others after afterPool,
      order.levelsOf [first, second, third] = .ok arranged ∧
      order.inTurn.rollOut .start [first, second, third] session = conclude result after ∧
      session.Evolves events after ∧
      order.rollOut .start [first, second, third] session = conclude result afterPool ∧
      session.Evolves others afterPool ∧
      PoolAgrees .start (world.answerOf .start) session arranged result events others after
        afterPool ∧ result ≠ .ok () := by
  intro first second third order world session
  have acyclic : Acyclic order.requires [first, second, third] :=
    acyclic_of_rank Component.serial (by decide)
  have alone : Transition.start.AnswersAlone (world.answerOf .start) session.outside :=
    world.answersAlone .start
  rcases rollOut_agrees pools_null acyclic alone with
    ⟨arranged, result, events, others, after, afterPool, levelled, ran, evolves, ranPooled,
      evolvesPooled, agrees⟩
  refine ⟨arranged, result, events, others, after, afterPool, levelled, ran, evolves, ranPooled,
    evolvesPooled, agrees, ?_⟩
  rintro returned
  have listed : first ∈ arranged.flatten := (mem_levelsOf levelled).mpr (by simp)
  cases (agrees.returns returned).1 first listed rfl

end StartOrder

end ShardFleet
