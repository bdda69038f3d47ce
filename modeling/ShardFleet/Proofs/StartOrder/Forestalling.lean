import ShardFleet.Proofs.StartOrder.Outcome

/-!
# Whom a failure keeps from its turn

A rollout ends with the level in which a component has failed, and a level that is not pooled ends
with that component. So a component that is wanted has its turn unless one fails that stands on an
earlier level, or before it on the same level if that level is not pooled.
-/

namespace ShardFleet

variable {ω : Type} {pools : List Component → Bool} {wanted : Component → Bool}
  {taken : List (List Component)} {turns : List Turn} {result : Except Failure Unit}
  {failing component : Component} {failure : Failure}

/-- If the one component fails, the other one does not have a turn. -/
inductive Forestalls (pools : List Component → Bool) (wanted : Component → Bool)
    (failing component : Component) : List (List Component) → Prop where
  /-- The two stand on a level that is run one by one. -/
  | level {level front back : List Component} {rest : List (List Component)}
      (split : level.filter wanted = front ++ failing :: back) (behind : component ∈ back)
      (unpooled : pools (level.filter wanted) = false) :
      Forestalls pools wanted failing component (level :: rest)
  | levels {level : List Component} {rest : List (List Component)}
      (here : failing ∈ level) (behind : component ∈ rest.flatten) :
      Forestalls pools wanted failing component (level :: rest)
  | onward {level : List Component} {rest : List (List Component)}
      (others : Forestalls pools wanted failing component rest) :
      Forestalls pools wanted failing component (level :: rest)

namespace Forestalls

theorem failing_mem (forestalls : Forestalls pools wanted failing component taken) :
    failing ∈ taken.flatten := by
  induction forestalls with
  | level split behind unpooled =>
      refine List.mem_append_left _ (List.mem_of_mem_filter (p := wanted) ?_)
      simp [split]
  | levels here behind => exact List.mem_append_left _ here
  | onward others ih => exact List.mem_append_right _ ih

theorem component_mem (forestalls : Forestalls pools wanted failing component taken) :
    component ∈ taken.flatten := by
  induction forestalls with
  | level split behind unpooled =>
      refine List.mem_append_left _ (List.mem_of_mem_filter (p := wanted) ?_)
      simp [split, behind]
  | levels here behind => exact List.mem_append_right _ behind
  | onward others ih => exact List.mem_append_right _ ih

end Forestalls

theorem Turn.error_not_mem_map_done (components : List Component) :
    (⟨failing, .error failure⟩ : Turn) ∉ components.map Turn.done := by
  intro turnMem
  rcases List.mem_map.mp turnMem with ⟨_, _, same⟩
  cases congrArg Turn.answer same

namespace LevelRun

variable {pooled : Bool} {level front back : List Component}

/-- In a level, only the components behind one that fails can miss their turns, and none does in a
pool. -/
theorem turn_or_behind (run : LevelRun pooled level turns result) (listed : component ∈ level) :
    (∃ answer, ⟨component, answer⟩ ∈ turns) ∨
      pooled = false ∧ ∃ front failing back failure, level = front ++ failing :: back ∧
        component ∈ back ∧ ⟨failing, .error failure⟩ ∈ turns := by
  cases run with
  | completed => exact Or.inl ⟨.ok (), List.mem_map_of_mem listed⟩
  | failed front after =>
      rename_i back failing failure others
      rcases List.mem_append.mp listed with ahead | here
      · exact Or.inl ⟨.ok (), List.mem_append_left _ (List.mem_map_of_mem ahead)⟩
      · rcases List.mem_cons.mp here with rfl | behind
        · exact Or.inl ⟨.error failure, by simp⟩
        · cases pooled with
          | false => exact Or.inr ⟨rfl, front, failing, back, failure, rfl, behind, by simp⟩
          | true =>
              rw [if_pos rfl] at after
              rw [← after] at behind
              rcases List.mem_map.mp behind with ⟨⟨_, answer⟩, turnMem, rfl⟩
              exact Or.inl ⟨answer, by simp [turnMem]⟩

theorem exists_failed (run : LevelRun pooled level turns (.error failure)) :
    ∃ failing ∈ level, ⟨failing, .error failure⟩ ∈ turns := by
  cases run with
  | failed front after =>
      exact ⟨_, List.mem_append_right _ List.mem_cons_self,
        List.mem_append_right _ List.mem_cons_self⟩

/-- One by one, no component behind the one that failed has a turn. -/
theorem not_mem_of_behind (run : LevelRun false level turns result) (nodup : level.Nodup)
    (split : level = front ++ failing :: back) (behind : component ∈ back)
    (failed : ⟨failing, .error failure⟩ ∈ turns) (answer : Except Failure Unit) :
    ⟨component, answer⟩ ∉ turns := by
  intro turnMem
  cases run with
  | completed => exact Turn.error_not_mem_map_done level failed
  | failed ahead after =>
      rename_i rest other _ _
      have ended := List.map_eq_nil_iff.mp after
      subst ended
      have same : failing = other := by
        rcases List.mem_append.mp failed with done | here
        · exact absurd done (Turn.error_not_mem_map_done ahead)
        · exact congrArg Turn.component (List.mem_singleton.mp here)
      subst same
      rw [List.nodup_append, List.nodup_cons] at nodup
      rcases nodup with ⟨_, ⟨absent, _⟩, apart⟩
      have absentAhead : failing ∉ ahead :=
        fun member => apart failing member failing List.mem_cons_self rfl
      rcases (List.append_cons_inj_of_notMem absentAhead absent).mp split with ⟨rfl, _, rfl⟩
      rcases List.mem_append.mp turnMem with done | here
      · rcases List.mem_map.mp done with ⟨_, aheadMem, same⟩
        cases same
        exact apart component aheadMem component (List.mem_cons_of_mem _ behind) rfl
      · cases List.mem_singleton.mp here
        exact absent behind

end LevelRun

namespace RolloutRun

/-- A component that is wanted has its turn unless one that has failed forestalls it. -/
theorem turn_or_forestalled (run : RolloutRun pools wanted taken turns result)
    (listed : component ∈ taken.flatten) (isWanted : wanted component = true) :
    (∃ answer, ⟨component, answer⟩ ∈ turns) ∨
      ∃ failing failure, ⟨failing, .error failure⟩ ∈ turns ∧
        Forestalls pools wanted failing component taken := by
  induction run with
  | finished => cases listed
  | onward run others ih =>
      rcases List.mem_append.mp listed with here | later
      · refine Or.inl ⟨.ok (), List.mem_append_left _ ?_⟩
        rw [run.turns_of_ok]
        exact List.mem_map_of_mem (List.mem_filter.mpr ⟨here, isWanted⟩)
      · rcases ih later with ⟨answer, turnMem⟩ | ⟨failing, failure, failed, forestalls⟩
        · exact Or.inl ⟨answer, List.mem_append_right _ turnMem⟩
        · exact Or.inr ⟨failing, failure, List.mem_append_right _ failed, forestalls.onward⟩
  | halted run =>
      rcases List.mem_append.mp listed with here | later
      · rcases run.turn_or_behind (List.mem_filter.mpr ⟨here, isWanted⟩) with
          turn | ⟨unpooled, front, failing, back, failure, split, behind, failed⟩
        · exact Or.inl turn
        · exact Or.inr ⟨failing, failure, failed, .level split behind unpooled⟩
      · rcases run.exists_failed with ⟨failing, failingMem, failed⟩
        exact Or.inr ⟨failing, _, failed, .levels (List.mem_of_mem_filter failingMem) later⟩

theorem not_mem_of_forestalls (run : RolloutRun pools wanted taken turns result)
    (nodup : taken.flatten.Nodup) (failed : ⟨failing, .error failure⟩ ∈ turns)
    (forestalls : Forestalls pools wanted failing component taken)
    (answer : Except Failure Unit) : ⟨component, answer⟩ ∉ turns := by
  induction run with
  | finished => cases failed
  | onward run others ih =>
      rename_i level rest turns later result
      rw [List.flatten_cons, List.nodup_append] at nodup
      rcases nodup with ⟨_, restNodup, apart⟩
      have done := run.turns_of_ok
      rw [done] at failed
      have failedLater : ⟨failing, .error failure⟩ ∈ later :=
        (List.mem_append.mp failed).resolve_left (Turn.error_not_mem_map_done _)
      have absent : failing ∉ level := fun here =>
        apart failing here failing (others.mem_of_turn failedLater).1 rfl
      intro turnMem
      cases forestalls with
      | level split behind unpooled =>
          refine absent (List.mem_of_mem_filter (p := wanted) ?_)
          simp [split]
      | levels here behind => exact absent here
      | onward forestalls =>
          rcases List.mem_append.mp turnMem with here | later
          · rw [done] at here
            rcases List.mem_map.mp here with ⟨_, filtered, same⟩
            cases same
            exact apart component (List.mem_of_mem_filter filtered) component
              forestalls.component_mem rfl
          · exact ih restNodup failedLater forestalls later
  | halted run =>
      rename_i level rest turns other
      rw [List.flatten_cons, List.nodup_append] at nodup
      rcases nodup with ⟨levelNodup, _, apart⟩
      have within : ∀ turn ∈ turns, turn.component ∈ level := fun turn turnMem =>
        List.mem_of_mem_filter (run.prefix_level.subset (List.mem_map_of_mem turnMem))
      intro turnMem
      cases forestalls with
      | level split behind unpooled =>
          rw [unpooled] at run
          exact run.not_mem_of_behind (levelNodup.filter wanted) split behind failed answer turnMem
      | levels here behind => exact apart component (within _ turnMem) component behind rfl
      | onward forestalls =>
          exact apart failing (within _ failed) failing forestalls.failing_mem rfl

end RolloutRun

namespace RolledOut

variable {order : StartOrder} {transition : Transition} {session after : Session ω}
  {events : List Event}

/-- A component is called, where the transition applies to it, unless one that has failed forestalls
it. -/
theorem asked_iff_not_forestalled
    (rolled : RolledOut order transition session taken turns result events after)
    (listed : component ∈ taken.flatten)
    (applies : transition.AppliesTo (session.stateOf component)) :
    (∃ answer, transition.asked component answer ∈ events) ↔
      ¬∃ failing failure, transition.asked failing (.error failure) ∈ events ∧
        Forestalls order.pools
          (fun other => decide (transition.AppliesTo (session.stateOf other))) failing component
          taken := by
  simp only [rolled.mem_turns]
  constructor
  · rintro ⟨answer, turnMem⟩ ⟨failing, failure, failed, forestalls⟩
    exact rolled.run.not_mem_of_forestalls rolled.nodup failed forestalls answer turnMem
  · intro free
    rcases rolled.run.turn_or_forestalled listed (decide_eq_true applies) with turn | forestalled
    · exact turn
    · exact absurd forestalled free

end RolledOut

end ShardFleet
