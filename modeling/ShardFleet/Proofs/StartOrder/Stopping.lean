import ShardFleet.Proofs.StartOrder.Outcome
import ShardFleet.Simulation.World

/-!
# Stopping in order

Stopping is starting the other way round: `stopAll` brings a component down only when nothing listed
that requires it is up any more. So if whatever was required was up before, it is so after every
single call, also after one that failed.
-/

namespace ShardFleet

variable {ω : Type}

/-- All that a started component requires, among the components listed, is started. -/
def IsClosed (order : StartOrder) (components : List Component) (states : States) : Prop :=
  ∀ component ∈ components, states component = .started →
    ∀ other ∈ components, other ∈ order.requires component → states other = .started

/-- The events and the outcome of stopping components in order, from the states before. -/
structure StopsInOrder (order : StartOrder) (components : List Component) (states : States)
    (arranged : List (List Component)) (events : List Event) (result : Except Failure Unit) :
    Prop where
  onlyStops : ∀ call answer, .called call answer ∈ events →
    ∃ component ∈ components, call = .stop component
  /-- A handle is called once, while its component is started, and not before all those listed that
  require the component are down. -/
  eachCall : ∀ earlier component answer later,
    events = earlier ++ .called (.stop component) answer :: later →
      (∀ another, .called (.stop component) another ∉ earlier) ∧
      states component = .started ∧ statesAfter states earlier component = .started ∧
      ∀ other ∈ components, component ∈ order.requires other →
        statesAfter states earlier other ≠ .started
  /-- What is not started stays as it is, whether it was ever started or not. -/
  keepsOthers : ∀ component, states component ≠ .started →
    ∀ earlier, earlier <+: events → statesAfter states earlier component = states component
  stopsAll : result = .ok () →
    ∀ component ∈ components, statesAfter states events component ≠ .started
  /-- The failure raised is that of the first component to fail in its level. Higher levels are
  stopped, lower ones are not called. -/
  failsFirst : ∀ failure, result = .error failure → ∃ lower front failing back higher,
    arranged = lower ++ (front ++ failing :: back) :: higher ∧
    .called (.stop failing) (.error failure) ∈ events ∧
    (∀ component other, .called (.stop component) (.error other) ∈ events →
      component ∈ failing :: back) ∧
    (∀ component ∈ higher.flatten, statesAfter states events component ≠ .started) ∧
    ∀ component ∈ lower.flatten, ∀ answer, .called (.stop component) answer ∉ events
  failedStay : ∀ component failure, .called (.stop component) (.error failure) ∈ events →
    statesAfter states events component = .started
  keepsClosed : IsClosed order components states →
    ∀ earlier, earlier <+: events → IsClosed order components (statesAfter states earlier)

namespace StartOrder

variable {order : StartOrder} {components : List Component}

/-- Taken from the last one on, levels come after those that require them. -/
theorem Arranges.stacked_reverse {arranged : List (List Component)}
    (arranges : Arranges order.requires (firstOccurrences components) arranged) :
    Stacked (fun component other => other ∈ components ∧ component ∈ order.requires other) []
      arranged.reverse := by
  apply stacked_of_pairwise
  · intro component _ other needed
    rw [arranged.reverse_perm.flatten.mem_iff]
    exact Or.inr (arranges.mem_flatten.mpr needed.1)
  · refine List.pairwise_reverse.mpr (arranges.upward.imp ?_)
    intro lower higher apart component componentMem other otherMem needed
    exact apart other otherMem component componentMem needed.2
  · intro level levelMem component componentMem other otherMem needed
    exact arranges.apart level (List.mem_reverse.mp levelMem) other otherMem component
      componentMem needed.2

/-- A component comes down without leaving behind anything that requires it. -/
theorem IsClosed.change {states : States} {event : Event}
    (closed : IsClosed order components states)
    (stops : event.isCall = true → ∃ component answer, event = .called (.stop component) answer)
    (down : NeedsSettled .stop
      (fun component other => other ∈ components ∧ component ∈ order.requires other) states event) :
    IsClosed order components (event.change states) := by
  cases call : event.isCall with
  | false =>
      rw [Event.change_of_not_isCall call]
      exact closed
  | true =>
      rcases stops call with ⟨component, failure | value, rfl⟩
      · exact closed
      · intro dependent listed started other otherListed required
        by_cases stopped : dependent = component
        · subst stopped
          simp [Event.change] at started
        · have before : states dependent = .started := by
            rwa [Event.change, Function.update_of_ne stopped] at started
          have different : other ≠ component := by
            rintro rfl
            exact down other (.ok value) rfl dependent ⟨listed, required⟩ before
          rw [Event.change, Function.update_of_ne different]
          exact closed dependent listed before other otherListed required

end StartOrder

namespace RolledOut

variable {order : StartOrder} {components : List Component} {session after : Session ω}
  {arranged : List (List Component)} {turns : List Turn} {result : Except Failure Unit}
  {events : List Event}

theorem stopsInOrder
    (rolled : RolledOut order .stop session arranged.reverse turns result events after)
    (arranges : StartOrder.Arranges order.requires (StartOrder.firstOccurrences components)
      arranged) :
    StopsInOrder order components session.stateOf arranged events result := by
  have listed : ∀ component, component ∈ arranged.reverse.flatten ↔ component ∈ components := by
    intro component
    rw [arranged.reverse_perm.flatten.mem_iff]
    exact arranges.mem_flatten
  have settled := rolled.needs_settled arranges.stacked_reverse
  constructor
  case onlyStops =>
    intro call answer member
    rcases rolled.only_asked member rfl with ⟨component, outcome, same⟩
    cases same
    exact ⟨component, (listed component).mp (rolled.called member).1, rfl⟩
  case eachCall =>
    intro earlier component answer later split
    have member : Transition.stop.asked component answer ∈ events := by
      rw [split]
      exact List.mem_append_right _ List.mem_cons_self
    have orderly := along_iff_forall_split.mp rolled.evolves.orderly _ _ _ split
    have needed := along_iff_forall_split.mp settled _ _ _ split
    refine ⟨rolled.called_once split, (rolled.called member).2, orderly, ?_⟩
    intro other otherListed requires
    exact needed component answer rfl other ⟨otherListed, requires⟩
  case keepsOthers =>
    intro component idle earlier isPrefix
    apply rolled.unchanged isPrefix.subset
    intro member
    exact idle (rolled.called (isPrefix.subset member)).2
  case stopsAll =>
    intro ended component componentListed
    rw [← rolled.evolves.states]
    exact rolled.settled_of_ok ended ((listed component).mpr componentListed)
  case failsFirst =>
    intro failure ended
    rcases rolled.of_error ended with
      ⟨before, front, failing, back, behind, split, failed, first, down, untouched⟩
    refine ⟨behind.reverse, front, failing, back, before.reverse, ?_, failed, first, ?_, ?_⟩
    · rw [← arranged.reverse_reverse, split]
      simp
    · intro component higher
      rw [before.reverse_perm.flatten.mem_iff] at higher
      rw [← rolled.evolves.states]
      exact down component higher
    · intro component lower answer member
      rw [behind.reverse_perm.flatten.mem_iff] at lower
      exact untouched component answer member lower
  case failedStay =>
    intro component failure failed
    rw [← rolled.evolves.states, rolled.unchanged_of_failed failed]
    exact (rolled.called failed).2
  case keepsClosed =>
    intro closed earlier isPrefix
    rcases isPrefix with ⟨later, rfl⟩
    have all : Along (fun _ event => event ∈ earlier) session.stateOf earlier :=
      along_of_forall fun _ _ member => member
    refine ((along_append.mp settled).1.and all).preserves closed ?_
    rintro states event ⟨down, member⟩ before
    refine StartOrder.IsClosed.change before ?_ down
    intro call
    exact rolled.only_asked (List.mem_append_left _ member) call

end RolledOut

namespace StartOrder

variable [Outside ω]

/-- Stopping components whose requirements form no circle goes in order, whatever their states are
to begin with and whichever handles fail. -/
theorem stopAll_stopsInOrder (order : StartOrder) (components : List Component)
    (session : Session ω) (acyclic : Acyclic order.requires components)
    (admits : AdmitsPool order.workers) :
    ∃ arranged result events after,
      order.levelsOf components = .ok arranged ∧
      Arranges order.requires (firstOccurrences components) arranged ∧
      order.stopAll components session = conclude result after ∧
      session.Evolves events after ∧
      StopsInOrder order components session.stateOf arranged events result := by
  rcases stopAll_eq admits acyclic session with
    ⟨arranged, turns, result, events, after, levelled, arranges, run, rolled⟩
  exact ⟨arranged, result, events, after, levelled, arranges, run, rolled.evolves,
    rolled.stopsInOrder arranges⟩

/-- Two components that are both started, of which the second one requires the first. -/
theorem stopAll_stopsInOrder_of_chain :
    let first : Component := ⟨0, .text "first", ⟨0⟩⟩
    let second : Component := ⟨1, .text "second", ⟨1⟩⟩
    let order : StartOrder := ⟨[(second, [first])], .null⟩
    let session : Session Simulation.World :=
      { outside := {}, states := ⟨[(first, .started), (second, .started)]⟩ }
    ∃ arranged result events after,
      order.levelsOf [first, second] = .ok arranged ∧
      Arranges order.requires (firstOccurrences [first, second]) arranged ∧
      order.stopAll [first, second] session = conclude result after ∧
      session.Evolves events after ∧
      StopsInOrder order [first, second] session.stateOf arranged events result := by
  intro first second order session
  refine stopAll_stopsInOrder order [first, second] session ?_ (Or.inl rfl)
  exact acyclic_of_rank Component.serial (by decide)

end StartOrder

end ShardFleet
