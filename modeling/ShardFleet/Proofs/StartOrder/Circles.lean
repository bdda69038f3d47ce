import Mathlib.Data.Finset.Card
import Mathlib.Data.Finset.Dedup
import Mathlib.Data.Set.List
import ShardFleet.Proofs.StartOrder.Rounds
import ShardFleet.Simulation.World
import ShardFleet.StartOrder.Rollout

/-!
# Circles are found out

Components cannot be put on levels exactly if some of those given wait for themselves, and what is
then reported are those that wait for such a circle, be they on it or behind it. Any chain of
requirements can be drawn out from them without end, and only from them: that is why just these
remain when no component is ready.
-/

namespace ShardFleet

namespace Text

theorem precedes_trans (first second third : String) (former : precedes first second = true)
    (latter : precedes second third = true) : precedes first third = true := by
  simp only [precedes, Bool.not_eq_true', List.lex_eq_false_iff_ge] at *
  exact List.le_trans former latter

theorem precedes_total (left right : String) :
    (precedes left right || precedes right left) = true := by
  simp only [precedes, Bool.or_eq_true, Bool.not_eq_true', List.lex_eq_false_iff_ge]
  exact List.le_total _ _

end Text

namespace Failure

theorem ofCycle_map_text (texts : List String) :
    ofCycle (texts.map .text) = .cycle (texts.mergeSort Text.precedes) := by
  have read : (texts.map Key.text).mapM Key.name? = some texts := by
    induction texts with
    | nil => rfl
    | cons text rest ih => simp [Key.name?, ih]
  simp [ofCycle, read]

end Failure

namespace StartOrder

section

variable {α : Type} {requires : α → List α} {items : List α} {item : α}

/-- An item waits for a circle among the items, as one of it or behind it. -/
def ReachesCircle (requires : α → List α) (items : List α) (item : α) : Prop :=
  ∃ other, Relation.ReflTransGen (RequiresWithin requires items) item other ∧
    Relation.TransGen (RequiresWithin requires items) other other

namespace ReachesCircle

theorem of_circle (circle : Relation.TransGen (RequiresWithin requires items) item item) :
    ReachesCircle requires items item :=
  ⟨item, .refl, circle⟩

theorem of_requires {other : α} (required : RequiresWithin requires items item other)
    (reaches : ReachesCircle requires items other) : ReachesCircle requires items item := by
  rcases reaches with ⟨last, path, circle⟩
  exact ⟨last, .head required path, circle⟩

theorem next (reaches : ReachesCircle requires items item) :
    ∃ other, RequiresWithin requires items item other ∧ ReachesCircle requires items other := by
  rcases reaches with ⟨last, path, circle⟩
  cases path.cases_head with
  | inl same =>
      subst same
      rcases Relation.TransGen.head'_iff.mp circle with ⟨other, required, back⟩
      exact ⟨other, required, item, back, circle⟩
  | inr onward =>
      rcases onward with ⟨other, required, rest⟩
      exact ⟨other, required, last, rest, circle⟩

theorem chain (reaches : ReachesCircle requires items item) (length : ℕ) :
    Chain requires items item length := by
  induction length generalizing item with
  | zero =>
      rcases reaches.next with ⟨other, required, -⟩
      exact .single required.1
  | succ length ih =>
      rcases reaches.next with ⟨other, required, onward⟩
      exact .cons required (ih onward)

end ReachesCircle

variable [DecidableEq α] {pending stuck : List α} {rounds before : ℕ}

/-- Where no pending item is ready, each of them waits for a circle: those that do not would be
without one, and one of these would be ready. -/
theorem reachesCircle_of_none_ready (within : ∀ item ∈ pending, item ∈ items)
    (unready : readyItems requires pending = []) (pends : item ∈ pending) :
    ReachesCircle requires items item := by
  classical
  by_contra free
  let others := pending.filter fun other => ¬ReachesCircle requires items other
  have mem_others : ∀ other, other ∈ others ↔
      other ∈ pending ∧ ¬ReachesCircle requires items other := by
    simp [others]
  have widen : RequiresWithin requires others ≤ RequiresWithin requires items := by
    intro former latter required
    exact ⟨within _ ((mem_others former).mp required.1).1,
      within _ ((mem_others latter).mp required.2.1).1, required.2.2⟩
  have acyclic : Acyclic requires others := by
    intro other circle
    have listed : other ∈ others := by
      rcases Relation.TransGen.head'_iff.mp circle with ⟨_, required, -⟩
      exact required.1
    exact ((mem_others other).mp listed).2 (.of_circle (Relation.TransGen.mono widen _ _ circle))
  have inhabited : others ≠ [] := List.ne_nil_of_mem ((mem_others item).mpr ⟨pends, free⟩)
  rcases acyclic.exists_ready (fun _ member => member) inhabited with ⟨other, otherMem, ready⟩
  rcases (mem_others other).mp otherMem with ⟨otherPends, otherFree⟩
  rcases readyItems_eq_nil.mp unready other otherPends with ⟨next, needs⟩
  apply isReady_iff.mp ready next needs.2.2
  refine (mem_others next).mpr ⟨needs.2.1, fun reaches => otherFree ?_⟩
  exact reaches.of_requires ⟨within _ needs.1, within _ needs.2.1, needs.2.2⟩

namespace Peels

theorem exhausts {arranged : List (List α)}
    (peels : Peels requires pending rounds (.ok arranged))
    (remains : Remains requires items pending before) (item : α) :
    ¬Chain requires items item (before + rounds) := by
  induction peels using ok_induction generalizing before with
  | done =>
      intro chain
      simpa using (remains item).mpr chain
  | round pending rounds later progress rest ih =>
      have unchained := ih remains.next
      rwa [Nat.add_assoc, Nat.add_comm 1] at unchained

/-- What is given up are the items that a circle holds up. -/
theorem held_up (peels : Peels requires pending rounds (.error stuck))
    (remains : Remains requires items pending before) :
    stuck ≠ [] ∧ stuck.Sublist pending ∧
      ∀ item, item ∈ stuck ↔ ReachesCircle requires items item := by
  generalize same : Except.error stuck = result at peels
  induction peels generalizing before with
  | done => cases same
  | stuck pends unready =>
      cases same
      refine ⟨pends, .refl _, fun item => ⟨?_, ?_⟩⟩
      · exact reachesCircle_of_none_ready (fun _ => remains.listed) unready
      · intro reaches
        exact (remains item).mpr (reaches.chain before)
  | @round pending rounds result _ _ ih =>
      cases result with
      | ok => cases same
      | error =>
          cases same
          rcases ih remains.next rfl with ⟨occupied, sublist, members⟩
          exact ⟨occupied, sublist.trans List.filter_sublist, members⟩

end Peels

theorem levels_eq_error (failed : levels requires items = .error stuck) :
    stuck ≠ [] ∧ stuck.Nodup ∧ ∀ item, item ∈ stuck ↔ ReachesCircle requires items item := by
  rcases exists_peels requires (firstOccurrences items) with ⟨rounds, peels⟩
  rw [← levels, failed] at peels
  rcases peels.held_up (.initially requires items) with ⟨occupied, sublist, members⟩
  exact ⟨occupied, sublist.nodup (nodup_firstOccurrences items), members⟩

theorem levels_fails_iff : (∃ stuck, levels requires items = .error stuck) ↔
    ∃ item, Relation.TransGen (RequiresWithin requires items) item item := by
  constructor
  · rintro ⟨stuck, failed⟩
    rcases levels_eq_error failed with ⟨occupied, -, members⟩
    rcases List.exists_mem_of_ne_nil stuck occupied with ⟨item, itemMem⟩
    rcases (members item).mp itemMem with ⟨other, -, circle⟩
    exact ⟨other, circle⟩
  · rintro ⟨item, circle⟩
    cases arranged : levels requires items with
    | error stuck => exact ⟨stuck, rfl⟩
    | ok levels =>
        rcases exists_peels requires (firstOccurrences items) with ⟨rounds, peels⟩
        rw [← StartOrder.levels, arranged] at peels
        have endless := (ReachesCircle.of_circle circle).chain (0 + rounds)
        exact absurd endless (peels.exhausts (.initially requires items) item)

end

variable {order : StartOrder} {components : List Component}

/-- Circles among components are found out, they are named, and nothing is done about them. -/
structure FindsCircles (ω : Type) [Outside ω] (order : StartOrder) (components : List Component) :
    Prop where
  fails_iff : (∃ names, order.levelsOf components = .error (.cycle names)) ↔
    ∃ component, Relation.TransGen (RequiresWithin order.requires components) component component
  /-- What is held up is named once for each of its components, in code point order. -/
  names : ∀ failure, order.levelsOf components = .error failure →
    ∃ (names : List String) (stuck : List Component), failure = .cycle names ∧ stuck.Nodup ∧
      (∀ component, component ∈ stuck ↔ ReachesCircle order.requires components component) ∧
      (names.map Key.text).Perm (stuck.map (·.name)) ∧
      names.Pairwise fun former latter => Text.precedes former latter = true
  harmless : ∀ failure, order.levelsOf components = .error failure → ∀ session : Session ω,
    order.startAll components session = .error failure session ∧
      order.stopAll components session = .error failure session
  /-- There are no more rounds than different components. -/
  ends : ∃ rounds ≤ components.toFinset.card,
    Peels order.requires (firstOccurrences components) rounds (levels order.requires components)

theorem levelsOf_of_failed {stuck : List Component}
    (failed : levels order.requires components = .error stuck)
    (named : ∀ component ∈ components, ∃ text, component.name = .text text) :
    ∃ texts : List String, texts.map Key.text = stuck.map (·.name) ∧
      order.levelsOf components = .error (.cycle (texts.mergeSort Text.precedes)) := by
  rcases levels_eq_error failed with ⟨-, -, members⟩
  have read : ∀ component ∈ stuck, ∃ text, component.name = .text text := by
    intro component componentMem
    rcases ((members component).mp componentMem).next with ⟨other, required, -⟩
    exact named component required.1
  have written : stuck.map (·.name) ∈ Set.range (List.map Key.text) := by
    rw [Set.range_list_map]
    simp only [List.mem_map, forall_exists_index, and_imp, Set.mem_ofPred_eq]
    rintro _ component componentMem rfl
    rcases read component componentMem with ⟨text, named⟩
    exact ⟨text, named.symm⟩
  rcases written with ⟨texts, same⟩
  refine ⟨texts, same, ?_⟩
  rw [levelsOf, failed]
  simp only [← same, Failure.ofCycle_map_text]

theorem levelsOf_findsCircles (ω : Type) [Outside ω] (order : StartOrder)
    {components : List Component}
    (named : ∀ component ∈ components, ∃ text, component.name = .text text) :
    FindsCircles ω order components where
  fails_iff := by
    rw [← levels_fails_iff]
    constructor
    · rintro ⟨names, failed⟩
      cases levelled : levels order.requires components with
      | ok arranged => simp [levelsOf, levelled] at failed
      | error stuck => exact ⟨stuck, rfl⟩
    · rintro ⟨stuck, failed⟩
      rcases levelsOf_of_failed failed named with ⟨texts, -, same⟩
      exact ⟨_, same⟩
  names := by
    intro failure failed
    cases levelled : levels order.requires components with
    | ok arranged => simp [levelsOf, levelled] at failed
    | error stuck =>
        rcases levelsOf_of_failed levelled named with ⟨texts, same, given⟩
        rcases levels_eq_error levelled with ⟨-, nodup, members⟩
        rw [given, Except.error.injEq] at failed
        refine ⟨_, stuck, failed.symm, nodup, members, ?_, ?_⟩
        · rw [← same]
          exact (List.mergeSort_perm texts Text.precedes).map _
        · exact List.pairwise_mergeSort Text.precedes_trans Text.precedes_total texts
  harmless := by
    intro failure failed session
    constructor
    · simp only [startAll, startAllBy, failed]
      rfl
    · simp only [stopAll, failed]
      rfl
  ends := by
    rcases exists_peels order.requires (firstOccurrences components) with ⟨rounds, peels⟩
    refine ⟨rounds, ?_, peels⟩
    have same : (firstOccurrences components).toFinset = components.toFinset := by
      ext component
      simp
    rw [← same, List.toFinset_card_of_nodup (nodup_firstOccurrences components)]
    exact peels.rounds_le

/-- Two components in a circle hold up a third one; the circle through a component that is not
given holds up nothing. -/
theorem levelsOf_findsCircles_behind_pair :
    let left : Component := ⟨0, .text "left", ⟨0⟩⟩
    let right : Component := ⟨1, .text "right", ⟨1⟩⟩
    let behind : Component := ⟨2, .text "behind", ⟨2⟩⟩
    let apart : Component := ⟨3, .text "apart", ⟨3⟩⟩
    let absent : Component := ⟨4, .text "absent", ⟨4⟩⟩
    let order : StartOrder :=
      ⟨[(left, [right]), (right, [left]), (behind, [left]), (apart, [absent]), (absent, [apart])],
        .null⟩
    let components := [right, apart, behind, left, right]
    order.levelsOf components = .error (.cycle ["behind", "left", "right"]) ∧
      FindsCircles Simulation.World order components := by
  intro left right behind apart absent order components
  have levelled : levels order.requires components = .error [right, behind, left] := by
    decide +kernel
  constructor
  · have sorted : ["right", "behind", "left"].mergeSort Text.precedes =
        ["behind", "left", "right"] := by
      have first : Text.precedes "right" "behind" = false := by decide +kernel
      have second : Text.precedes "behind" "left" = true := by decide +kernel
      have third : Text.precedes "right" "left" = false := by decide +kernel
      simp [List.mergeSort, List.MergeSort.Internal.splitInTwo, first, second, third]
    have failure := Failure.ofCycle_map_text ["right", "behind", "left"]
    rw [sorted] at failure
    rw [levelsOf, levelled]
    exact congrArg Except.error failure
  · apply levelsOf_findsCircles Simulation.World order
    simp [components, left, right, behind, apart]

end StartOrder

end ShardFleet
