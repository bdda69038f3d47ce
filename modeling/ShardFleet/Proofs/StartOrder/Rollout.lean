import ShardFleet.Proofs.Component.Turn

/-!
# The turns of a rollout

A rollout goes through the levels and gives a turn to each component that is to be run. `LevelRun`
and `RolloutRun` say which turns there are and how it all ends; `runLevels_eq` shows that a rollout
of the start order is one of these and that its events are those turns. What holds at each turn can
then be read off the lists alone.
-/

namespace ShardFleet

variable {ω : Type}

namespace Event

def isPooling : Event → Bool
  | .pooled _ => true
  | _ => false

end Event

abbrev statesAfterTurns (transition : Transition) (states : States) (turns : List Turn) : States :=
  statesAfter states (turns.map (Turn.call transition))

/-- But for the opening of pools, the events are those of the turns, in order. -/
def Recounts (transition : Transition) (events : List Event) (turns : List Turn) : Prop :=
  events.filter (fun event => !event.isPooling) = turns.flatMap (Turn.events transition)

namespace Recounts

variable {transition : Transition} {events first second : List Event}
  {turns earlier later : List Turn}

theorem nil : Recounts transition [] [] := rfl

theorem append (front : Recounts transition first earlier)
    (back : Recounts transition second later) :
    Recounts transition (first ++ second) (earlier ++ later) := by
  rw [Recounts, List.filter_append, List.flatMap_append, front, back]

theorem turn (turn : Turn) : Recounts transition (turn.events transition) [turn] := by
  rcases turn with ⟨component, answer | answer⟩ <;> cases transition <;> rfl

theorem flatMap (turns : List Turn) :
    Recounts transition (turns.flatMap (Turn.events transition)) turns := by
  induction turns with
  | nil => exact .nil
  | cons turn rest ih => exact (Recounts.turn turn).append ih

theorem pooled (workers : Value) (back : Recounts transition events turns) :
    Recounts transition (.pooled workers :: events) turns := back

theorem filter_isCall (recounts : Recounts transition events turns) :
    events.filter Event.isCall = turns.map (Turn.call transition) := by
  have absorbed : events.filter Event.isCall =
      (events.filter fun event => !event.isPooling).filter Event.isCall := by
    rw [List.filter_filter]
    apply List.filter_congr
    intro event _
    cases event <;> rfl
  rw [absorbed, recounts, List.filter_flatMap, List.map_eq_flatMap]
  simp only [Turn.filter_isCall_events]

theorem statesAfter_eq (recounts : Recounts transition events turns) (states : States) :
    statesAfter states events = statesAfterTurns transition states turns := by
  rw [statesAfterTurns, ← recounts.filter_isCall, statesAfter_filter_isCall]

end Recounts

section statesAfterTurns

variable {transition : Transition} {turns : List Turn} {states : States} {component : Component}

theorem statesAfterTurns_of_not_mem (absent : component ∉ turns.map (·.component)) :
    statesAfterTurns transition states turns component = states component := by
  induction turns generalizing states with
  | nil => rfl
  | cons turn rest ih =>
      rw [List.map_cons, List.mem_cons, not_or] at absent
      rw [statesAfterTurns, List.map_cons, statesAfter_cons]
      refine (ih absent.2).trans ?_
      rcases turn with ⟨other, answer | answer⟩
      · rw [Turn.call, Transition.change_asked_error]
      · exact (congrFun (Transition.change_asked_ok transition other states) component).trans
          (Function.update_of_ne absent.1 _ _)

theorem Session.Evolves.stateOf_of_turn {before after : Session ω} {turn : Turn}
    (evolves : before.Evolves (turn.events transition) after) {other : Component}
    (different : other ≠ turn.component) : after.stateOf other = before.stateOf other := by
  rw [evolves.stateOf, (Recounts.turn turn).statesAfter_eq]
  apply statesAfterTurns_of_not_mem
  simpa using different

theorem Session.Evolves.appliesTo_of_turn {before after : Session ω} {transition : Transition}
    {component : Component} {rest : List Component} {answer : Except Failure Unit}
    (evolves : before.Evolves (Turn.events transition ⟨component, answer⟩) after)
    (absent : component ∉ rest)
    (apply : ∀ other ∈ component :: rest, transition.AppliesTo (before.stateOf other)) :
    ∀ other ∈ rest, transition.AppliesTo (after.stateOf other) := by
  intro other otherMem
  have different : other ≠ component := by
    rintro rfl
    exact absent otherMem
  rw [evolves.stateOf_of_turn different]
  exact apply other (List.mem_cons_of_mem _ otherMem)

/-- What a transition does not apply to stays so, whatever turns are taken. -/
theorem not_appliesTo_change {transition : Transition} {states : States} {component : Component}
    (turn : Turn) (settled : ¬transition.AppliesTo (states component)) :
    ¬transition.AppliesTo ((turn.call transition).change states component) := by
  rcases turn with ⟨other, answer | answer⟩
  · rw [Turn.call, Transition.change_asked_error]
    exact settled
  · have changed : (Turn.call transition ⟨other, .ok answer⟩).change states =
        Function.update states other transition.target :=
      Transition.change_asked_ok transition other states
    rw [changed]
    by_cases same : component = other
    · rw [same, Function.update_self]
      exact transition.not_appliesTo_target
    · rw [Function.update_of_ne same]
      exact settled

theorem not_appliesTo_statesAfterTurns (settled : ¬transition.AppliesTo (states component)) :
    ¬transition.AppliesTo (statesAfterTurns transition states turns component) := by
  induction turns generalizing states with
  | nil => exact settled
  | cons turn rest ih => exact ih (not_appliesTo_change turn settled)

theorem not_appliesTo_of_done (turnMem : Turn.done component ∈ turns) :
    ¬transition.AppliesTo (statesAfterTurns transition states turns component) := by
  rcases List.append_of_mem turnMem with ⟨front, back, rfl⟩
  rw [statesAfterTurns, List.map_append, statesAfter_append, List.map_cons, statesAfter_cons]
  apply not_appliesTo_statesAfterTurns
  have changed : (Turn.call transition (Turn.done component)).change
      (statesAfter states (front.map (Turn.call transition))) =
        Function.update _ component transition.target :=
    Transition.change_asked_ok transition component _
  rw [changed, Function.update_self]
  exact transition.not_appliesTo_target

end statesAfterTurns

/-- How the run of one level goes: every component has its turn and none fails, or the failure of
the first component to fail is raised. The components after it have their turns in a pool only. -/
inductive LevelRun (pooled : Bool) : List Component → List Turn → Except Failure Unit → Prop where
  | completed (level : List Component) : LevelRun pooled level (level.map Turn.done) (.ok ())
  | failed (front : List Component) {back : List Component} {failing : Component}
      {failure : Failure}
      {others : List Turn} (after : others.map (·.component) = if pooled then back else []) :
      LevelRun pooled (front ++ failing :: back)
        (front.map Turn.done ++ ⟨failing, .error failure⟩ :: others) (.error failure)

namespace LevelRun

variable {pooled : Bool} {level : List Component} {turns : List Turn}
  {result : Except Failure Unit}

theorem cons (component : Component) (run : LevelRun pooled level turns result) :
    LevelRun pooled (component :: level) (Turn.done component :: turns) result := by
  cases run with
  | completed => exact .completed (component :: level)
  | failed front after => exact .failed (component :: front) after

theorem map_done (components : List Component) :
    (components.map Turn.done).map (·.component) = components := by
  rw [List.map_map]
  exact List.map_id components

theorem map_component (run : LevelRun true level turns result) :
    turns.map (·.component) = level := by
  cases run with
  | completed => exact map_done level
  | failed front after => rw [List.map_append, map_done, List.map_cons, after, if_pos rfl]

theorem prefix_level (run : LevelRun pooled level turns result) :
    turns.map (·.component) <+: level := by
  cases run with
  | completed =>
      have same := map_done level
      exact ⟨[], by rw [same, List.append_nil]⟩
  | failed front after =>
      rw [List.map_append, map_done, List.map_cons, after]
      apply (List.prefix_append_right_inj _).mpr
      apply (List.prefix_cons_inj _).mpr
      split
      · exact List.prefix_rfl
      · exact List.nil_prefix

end LevelRun

/-- How a rollout goes: level by level those components that are wanted have their turns, until all
levels are through or one has failed. -/
inductive RolloutRun (pools : List Component → Bool) (wanted : Component → Bool) :
    List (List Component) → List Turn → Except Failure Unit → Prop where
  | finished : RolloutRun pools wanted [] [] (.ok ())
  | onward {level : List Component} {rest : List (List Component)} {turns later : List Turn}
      {result : Except Failure Unit}
      (run : LevelRun (pools (level.filter wanted)) (level.filter wanted) turns (.ok ()))
      (others : RolloutRun pools wanted rest later result) :
      RolloutRun pools wanted (level :: rest) (turns ++ later) result
  | halted {level : List Component} {rest : List (List Component)} {turns : List Turn}
      {failure : Failure}
      (run : LevelRun (pools (level.filter wanted)) (level.filter wanted) turns (.error failure)) :
      RolloutRun pools wanted (level :: rest) turns (.error failure)

namespace Binary64

theorem signed_eq_zero_iff {negative : Bool} {magnitude : Nat} :
    signed negative magnitude = 0 ↔ magnitude = 0 := by
  cases negative <;> simp [signed]

theorem isZero_of_toInt? {number : Binary64} (zero : number.toInt? = some 0) :
    number.isZero = true := by
  unfold toInt? at zero
  unfold isZero
  cases decoded : number.decode with
  | notNumber => simp [decoded] at zero
  | infinite negative => simp [decoded] at zero
  | finite negative significand exponent =>
      rw [decoded] at zero
      dsimp only at zero ⊢
      split at zero
      · have product := signed_eq_zero_iff.mp (Option.some.inj zero)
        have significandZero := (Nat.mul_eq_zero.mp product).resolve_right
          (Nat.pos_iff_ne_zero.mp (Nat.two_pow_pos _))
        simpa using significandZero
      · split at zero
        · have quotient := signed_eq_zero_iff.mp (Option.some.inj zero)
          rename_i whole
          have parts := Nat.div_add_mod significand (Nat.pow 2 (-exponent).toNat)
          rw [quotient, whole] at parts
          simpa using parts.symm
        · cases zero

end Binary64

namespace StartOrder

/-- No number of workers, or one that is not below zero. -/
def AdmitsPool (workers : Value) : Prop :=
  workers = .null ∨ workers.isBelow? 0 = some false

def poolWorkers (order : StartOrder) (size : Nat) : Value :=
  if order.workers.isVacant then .int size else order.workers

theorem isPositive?_poolWorkers {order : StartOrder} (admits : AdmitsPool order.workers)
    {size : Nat} (someSize : 0 < size) : (order.poolWorkers size).isPositive? = some true := by
  have sizePositive : (Value.int size).isPositive? = some true := by
    simp [Value.isPositive?, someSize]
  unfold poolWorkers
  split
  · exact sizePositive
  · rename_i substantial
    unfold AdmitsPool at admits
    cases kind : order.workers with
    | bool flag =>
        cases flag with
        | true => rfl
        | false => simp [kind, Value.isVacant] at substantial
    | int number =>
        simp only [kind, Value.isVacant, beq_iff_eq, Value.isBelow?, reduceCtorEq, false_or,
          Option.some.injEq, decide_eq_false_iff_not] at substantial admits
        simp only [Value.isPositive?, Option.some.injEq, decide_eq_true_eq]
        omega
    | float number =>
        simp only [kind, Value.isVacant, Value.isBelow?, reduceCtorEq, false_or,
          Option.some.injEq] at substantial admits
        have apart : number.toInt? ≠ some 0 :=
          fun zero => substantial (Binary64.isZero_of_toInt? zero)
        simp [Value.isPositive?, Binary64.leInt, admits, apart]
    | null => simp [kind, Value.isVacant] at substantial
    | text chars => simp [kind, Value.isBelow?] at admits
    | datum datum => simp [kind, Value.isBelow?] at admits
    | list items => simp [kind, Value.isBelow?] at admits
    | pair first second => simp [kind, Value.isBelow?] at admits
    | mapping entries => simp [kind, Value.isBelow?] at admits
    | set members => simp [kind, Value.isBelow?] at admits
    | kept sort number => simp [kind, Value.isBelow?] at admits

theorem openPool_eq {order : StartOrder} (admits : AdmitsPool order.workers) {size : Nat}
    (someSize : 0 < size) (session : Session ω) :
    order.openPool size session =
      .ok () (session.record (.pooled (order.poolWorkers size))) := by
  have positive := isPositive?_poolWorkers admits someSize
  unfold poolWorkers at positive ⊢
  simp only [openPool, positive]
  rfl

def pools (order : StartOrder) (level : List Component) : Bool :=
  !(level.length ≤ 1 || order.workers.isOne)

variable [Outside ω]

theorem runOne_eq {transition : Transition} {component : Component} {session : Session ω}
    (applies : transition.AppliesTo (session.stateOf component)) :
    ∃ answer after,
      runOne transition transition.run component session = conclude answer after ∧
        session.Evolves (Turn.events transition ⟨component, answer⟩) after := by
  rcases Transition.run_of_appliesTo applies with
    ⟨after, run, evolves⟩ | ⟨failure, after, run, evolves⟩
  · exact ⟨.ok (), after, bind_of_ok (attempt_of_ok run) _, evolves⟩
  · exact ⟨.error failure, after.record (transition.fails component failure),
      bind_of_ok (attempt_of_error run) _, evolves.trans (.record after _ rfl)⟩

theorem runInTurn_eq {transition : Transition} {level : List Component} (nodup : level.Nodup)
    {session : Session ω}
    (apply : ∀ component ∈ level, transition.AppliesTo (session.stateOf component)) :
    ∃ turns result after,
      runInTurn transition transition.run level session = conclude result after ∧
        session.Evolves (turns.flatMap (Turn.events transition)) after ∧
          LevelRun false level turns result := by
  induction level generalizing session with
  | nil => exact ⟨[], .ok (), session, rfl, .refl session, .completed []⟩
  | cons component rest ih =>
      rcases List.nodup_cons.mp nodup with ⟨absent, restNodup⟩
      rcases runOne_eq (apply component List.mem_cons_self) with ⟨answer, middle, run, evolves⟩
      cases answer with
      | error failure =>
          refine ⟨[⟨component, .error failure⟩], .error failure, middle,
            bind_of_error run _, ?_, .failed [] rfl⟩
          simpa using evolves
      | ok value =>
          have restApply := evolves.appliesTo_of_turn absent apply
          rcases ih restNodup restApply with ⟨turns, result, after, run', evolves', levelRun⟩
          refine ⟨Turn.done component :: turns, result, after, ?_, ?_, levelRun.cons component⟩
          · exact (bind_of_ok run _).trans run'
          · exact evolves.trans evolves'

/-- In a pool, every component; the first failure among them is the outcome. -/
theorem runEach_eq {transition : Transition} {level : List Component} (nodup : level.Nodup)
    (session : Session ω)
    (apply : ∀ component ∈ level, transition.AppliesTo (session.stateOf component)) :
    ∃ turns result after,
      runEach transition transition.run level session = .ok result after ∧
        session.Evolves (turns.flatMap (Turn.events transition)) after ∧
          LevelRun true level turns result := by
  induction level generalizing session with
  | nil => exact ⟨[], .ok (), session, rfl, .refl session, .completed []⟩
  | cons component rest ih =>
      rcases List.nodup_cons.mp nodup with ⟨absent, restNodup⟩
      rcases runOne_eq (apply component List.mem_cons_self) with ⟨answer, middle, run, evolves⟩
      have restApply := evolves.appliesTo_of_turn absent apply
      rcases ih restNodup middle restApply with ⟨turns, result, after, run', evolves', levelRun⟩
      cases answer with
      | error failure =>
          refine ⟨⟨component, .error failure⟩ :: turns, .error failure, after, ?_,
            evolves.trans evolves', .failed [] levelRun.map_component⟩
          exact (bind_of_ok (attempt_of_error run) _).trans (bind_of_ok run' _)
      | ok value =>
          refine ⟨Turn.done component :: turns, result, after, ?_,
            evolves.trans evolves', levelRun.cons component⟩
          exact (bind_of_ok (attempt_of_ok run) _).trans (bind_of_ok run' _)

theorem runLevel_eq {order : StartOrder} (admits : AdmitsPool order.workers)
    {transition : Transition} {level : List Component} (nodup : level.Nodup) {session : Session ω}
    (apply : ∀ component ∈ level, transition.AppliesTo (session.stateOf component)) :
    ∃ turns result events after,
      order.runLevel transition transition.run level session = conclude result after ∧
        session.Evolves events after ∧ Recounts transition events turns ∧
          LevelRun (order.pools level) level turns result := by
  unfold runLevel
  split
  · rename_i empty
    rw [List.isEmpty_iff.mp empty]
    exact ⟨[], .ok (), [], session, rfl, .refl session, .nil, .completed []⟩
  · rename_i nonempty
    have someSize : 0 < level.length := by
      apply List.length_pos_iff.mpr
      simpa using nonempty
    split
    · rename_i alone
      have unpooled : order.pools level = false := by
        simp only [Bool.or_eq_true, decide_eq_true_eq] at alone
        rcases alone with single | one <;> simp [pools, *]
      rcases runInTurn_eq nodup apply with ⟨turns, result, after, run, evolves, levelRun⟩
      exact ⟨turns, result, _, after, run, evolves, .flatMap turns, unpooled ▸ levelRun⟩
    · rename_i several
      have pooled : order.pools level = true := by
        simp only [Bool.or_eq_true, decide_eq_true_eq, not_or, Bool.not_eq_true] at several
        have many : ¬level.length ≤ 1 := by
          have apart := several.1
          omega
        simp [pools, many, several.2]
      have opened := openPool_eq admits someSize session
      rcases runEach_eq nodup
        (session.record (.pooled (order.poolWorkers level.length))) apply with
        ⟨turns, result, after, run, evolves, levelRun⟩
      refine ⟨turns, result, _, after, ?_, (Session.Evolves.record session _ rfl).trans evolves,
        (Recounts.flatMap turns).pooled _, pooled ▸ levelRun⟩
      exact (bind_of_ok opened _).trans (bind_of_ok run _)

/-- The levels in order. Which components are wanted can be judged at the beginning, since a level
does not touch the components of a later one. -/
theorem runLevels_eq {order : StartOrder} (admits : AdmitsPool order.workers)
    {transition : Transition} {judged : Session ω → Component → Bool}
    (judges : ∀ session component,
      judged session component = decide (transition.AppliesTo (session.stateOf component)))
    {arranged : List (List Component)} (nodup : arranged.flatten.Nodup)
    {wanted : Component → Bool} (session : Session ω)
    (wants : ∀ component ∈ arranged.flatten,
      wanted component = decide (transition.AppliesTo (session.stateOf component))) :
    ∃ turns result events after,
      order.runLevels transition transition.run judged arranged session =
          conclude result after ∧
        session.Evolves events after ∧ Recounts transition events turns ∧
          RolloutRun order.pools wanted arranged turns result := by
  induction arranged generalizing session with
  | nil => exact ⟨[], .ok (), [], session, rfl, .refl session, .nil, .finished⟩
  | cons level rest ih =>
      rw [List.flatten_cons, List.nodup_append] at nodup
      rcases nodup with ⟨levelNodup, restNodup, apart⟩
      have same : level.filter (judged session) = level.filter wanted := by
        apply List.filter_congr
        intro component componentMem
        rw [judges, wants component (List.mem_append_left _ componentMem)]
      have apply : ∀ component ∈ level.filter wanted,
          transition.AppliesTo (session.stateOf component) := by
        intro component componentMem
        rcases List.mem_filter.mp componentMem with ⟨levelMem, isWanted⟩
        rw [wants component (List.mem_append_left _ levelMem)] at isWanted
        exact of_decide_eq_true isWanted
      rcases runLevel_eq admits (levelNodup.filter wanted) apply with
        ⟨turns, result, events, middle, run, evolves, recounts, levelRun⟩
      rw [← same] at run
      cases result with
      | error failure =>
          exact ⟨turns, .error failure, events, middle, bind_of_error run _, evolves, recounts,
            .halted levelRun⟩
      | ok value =>
          have restWants : ∀ component ∈ rest.flatten, wanted component =
              decide (transition.AppliesTo (middle.stateOf component)) := by
            intro component componentMem
            have absent : component ∉ turns.map (·.component) := by
              intro turnMem
              have filtered := levelRun.prefix_level.subset turnMem
              exact apart component (List.mem_filter.mp filtered).1 component componentMem rfl
            rw [evolves.stateOf, recounts.statesAfter_eq, statesAfterTurns_of_not_mem absent]
            exact wants component (List.mem_append_right _ componentMem)
          rcases ih restNodup middle restWants with
            ⟨later, result, events', after, run', evolves', recounts', rollout⟩
          refine ⟨turns ++ later, result, events ++ events', after, ?_, evolves.trans evolves',
            recounts.append recounts', .onward levelRun rollout⟩
          exact (bind_of_ok run _).trans run'

end StartOrder

end ShardFleet
