import ShardFleet.Proofs.StartOrder.Outcome
import ShardFleet.Simulation.World

/-!
# Starting in order

Whatever fails, `startAll` brings a component up only after everything that it requires, and leaves
alone what is up already and what is not listed. `StartsInOrder` says this of the events alone, so
that it holds at every moment of the run and not only at its end.
-/

namespace ShardFleet

variable {ω : Type}

/-- The events and the outcome of starting components in order, from the states before. -/
structure StartsInOrder (order : StartOrder) (components : List Component) (states : States)
    (arranged : List (List Component)) (events : List Event) (result : Except Failure Unit) :
    Prop where
  onlyStarts : ∀ call answer, .called call answer ∈ events →
    ∃ component ∈ components, call = .start component
  /-- A handle is called once, while its component is not started, and not before all that the
  component requires among those listed is started. -/
  eachCall : ∀ earlier component answer later,
    events = earlier ++ .called (.start component) answer :: later →
      (∀ another, .called (.start component) another ∉ earlier) ∧
      states component ≠ .started ∧ statesAfter states earlier component ≠ .started ∧
      ∀ other ∈ components, other ∈ order.requires component →
        statesAfter states earlier other = .started
  keepsStarted : ∀ component, states component = .started →
    ∀ earlier, earlier <+: events → statesAfter states earlier component = .started
  leavesOthers : ∀ component, component ∉ components →
    ∀ earlier, earlier <+: events → statesAfter states earlier component = states component
  startsAll : result = .ok () →
    ∀ component ∈ components, statesAfter states events component = .started
  /-- The failure raised is that of the first component to fail, by level and then in the order
  given. Earlier levels are started, later ones are not called. -/
  failsFirst : ∀ failure, result = .error failure → ∃ before front failing back behind,
    arranged = before ++ (front ++ failing :: back) :: behind ∧
    .called (.start failing) (.error failure) ∈ events ∧
    (∀ component other, .called (.start component) (.error other) ∈ events →
      component ∈ failing :: back) ∧
    (∀ component ∈ before.flatten, statesAfter states events component = .started) ∧
    ∀ component ∈ behind.flatten, ∀ answer, .called (.start component) answer ∉ events

namespace StartOrder

variable {order : StartOrder} {components : List Component}

theorem Arranges.stacked {arranged : List (List Component)}
    (arranges : Arranges order.requires (firstOccurrences components) arranged) :
    Stacked (fun component other => other ∈ components ∧ other ∈ order.requires component) []
      arranged := by
  apply stacked_of_pairwise
  · intro component _ other needed
    exact Or.inr (arranges.mem_flatten.mpr needed.1)
  · refine arranges.upward.imp ?_
    intro lower higher apart component componentMem other otherMem needed
    exact apart component componentMem other otherMem needed.2
  · intro level levelMem component componentMem other otherMem needed
    exact arranges.apart level levelMem component componentMem other otherMem needed.2

end StartOrder

namespace RolledOut

variable {order : StartOrder} {components : List Component} {session after : Session ω}
  {arranged : List (List Component)} {turns : List Turn} {result : Except Failure Unit}
  {events : List Event}

theorem startsInOrder (rolled : RolledOut order .start session arranged turns result events after)
    (arranges : StartOrder.Arranges order.requires (StartOrder.firstOccurrences components)
      arranged) :
    StartsInOrder order components session.stateOf arranged events result where
  onlyStarts := by
    intro call answer member
    rcases rolled.only_asked member rfl with ⟨component, outcome, same⟩
    cases same
    exact ⟨component, arranges.mem_flatten.mp (rolled.called member).1, rfl⟩
  eachCall := by
    intro earlier component answer later split
    have member : Transition.start.asked component answer ∈ events := by
      rw [split]
      exact List.mem_append_right _ List.mem_cons_self
    have orderly := along_iff_forall_split.mp rolled.evolves.orderly _ _ _ split
    have needed := along_iff_forall_split.mp (rolled.needs_settled arranges.stacked) _ _ _ split
    refine ⟨rolled.called_once split, (rolled.called member).2, orderly, ?_⟩
    intro other listed required
    exact Classical.not_not.mp (needed component answer rfl other ⟨listed, required⟩)
  keepsStarted := by
    intro component started earlier isPrefix
    have settled := rolled.settled_of_settled isPrefix.subset fun applies => applies started
    exact Classical.not_not.mp settled
  leavesOthers := by
    intro component unlisted earlier isPrefix
    apply rolled.unchanged isPrefix.subset
    intro member
    exact unlisted (arranges.mem_flatten.mp (rolled.called (isPrefix.subset member)).1)
  startsAll := by
    intro ended component listed
    rw [← rolled.evolves.states]
    exact Classical.not_not.mp (rolled.settled_of_ok ended (arranges.mem_flatten.mpr listed))
  failsFirst := by
    intro failure ended
    rcases rolled.of_error ended with
      ⟨before, front, failing, back, behind, split, failed, first, settled, untouched⟩
    refine ⟨before, front, failing, back, behind, split, failed, first, ?_, ?_⟩
    · intro component listed
      rw [← rolled.evolves.states]
      exact Classical.not_not.mp (settled component listed)
    · intro component listed answer member
      exact untouched component answer member listed

end RolledOut

namespace StartOrder

variable [Outside ω]

/-- Starting components whose requirements form no circle goes in order, whatever their states are
to begin with and whichever handles fail. -/
theorem startAll_startsInOrder (order : StartOrder) (components : List Component)
    (session : Session ω) (acyclic : Acyclic order.requires components)
    (admits : AdmitsPool order.workers) :
    ∃ arranged result events after,
      order.levelsOf components = .ok arranged ∧
      Arranges order.requires (firstOccurrences components) arranged ∧
      order.startAll components session = conclude result after ∧
      session.Evolves events after ∧
      StartsInOrder order components session.stateOf arranged events result := by
  rcases startAll_eq admits acyclic session with
    ⟨arranged, turns, result, events, after, levelled, arranges, run, rolled⟩
  exact ⟨arranged, result, events, after, levelled, arranges, run, rolled.evolves,
    rolled.startsInOrder arranges⟩

/-- Two components, of which the second one requires the first and is given first, and twice. -/
theorem startAll_startsInOrder_of_chain :
    let first : Component := ⟨0, .text "first", ⟨0⟩⟩
    let second : Component := ⟨1, .text "second", ⟨1⟩⟩
    let order : StartOrder := ⟨[(second, [first])], .int 0⟩
    let session : Session Simulation.World := { outside := {} }
    ∃ arranged result events after,
      order.levelsOf [second, first, second] = .ok arranged ∧
      Arranges order.requires (firstOccurrences [second, first, second]) arranged ∧
      order.startAll [second, first, second] session = conclude result after ∧
      session.Evolves events after ∧
      StartsInOrder order [second, first, second] session.stateOf arranged events result := by
  intro first second order session
  refine startAll_startsInOrder order [second, first, second] session ?_ (Or.inr rfl)
  exact acyclic_of_rank Component.serial (by decide)

end StartOrder

end ShardFleet
