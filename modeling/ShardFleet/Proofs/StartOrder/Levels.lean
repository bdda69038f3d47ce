import Mathlib.Data.List.Perm.Basic
import Mathlib.Logic.Relation
import Mathlib.Order.WellFounded
import Mathlib.Data.Fintype.EquivFin
import ShardFleet.StartOrder.Levels

/-!
# Levels put requirements first

Items whose requirements form no circle are arranged in levels: each item stands on one level, and
whatever it requires among the items stands on an earlier one. A level keeps the order in which the
items were given.
-/

namespace ShardFleet.StartOrder

variable {α : Type} [DecidableEq α] {requires : α → List α}

/-- One item requires another one, both among the items given. -/
def RequiresWithin (requires : α → List α) (items : List α) (item other : α) : Prop :=
  item ∈ items ∧ other ∈ items ∧ other ∈ requires item

/-- No item waits for itself, be it through others. -/
def Acyclic (requires : α → List α) (items : List α) : Prop :=
  ∀ item, ¬Relation.TransGen (RequiresWithin requires items) item item

/-- The items in levels, with no requirement on the same level or a later one. -/
structure Arranges (requires : α → List α) (items : List α) (arranged : List (List α)) :
    Prop where
  perm : arranged.flatten.Perm items
  sublist : ∀ level ∈ arranged, level.Sublist items
  upward : arranged.Pairwise fun lower higher =>
    ∀ item ∈ lower, ∀ other ∈ higher, other ∉ requires item
  apart : ∀ level ∈ arranged, ∀ item ∈ level, ∀ other ∈ level, other ∉ requires item

omit [DecidableEq α] in
theorem acyclic_of_rank {items : List α} (rank : α → ℕ)
    (lower : ∀ item ∈ items, ∀ other ∈ items, other ∈ requires item → rank other < rank item) :
    Acyclic requires items := by
  have descends : ∀ item other, Relation.TransGen (RequiresWithin requires items) item other →
      rank other < rank item := by
    intro item other path
    induction path with
    | single step => exact lower item step.1 _ step.2.1 step.2.2
    | tail _ step ih => exact Nat.lt_trans (lower _ step.1 _ step.2.1 step.2.2) ih
  intro item circle
  exact Nat.lt_irrefl _ (descends item item circle)

/-- Among finitely many items without a circle, one requires none of the others. -/
theorem Acyclic.exists_ready {items pending : List α}
    (acyclic : Acyclic requires items) (within : ∀ item ∈ pending, item ∈ items)
    (inhabited : pending ≠ []) : ∃ item ∈ pending, isReady requires pending item = true := by
  let earlier (left right : {item // item ∈ pending}) : Prop :=
    Relation.TransGen (RequiresWithin requires items) right.1 left.1
  have : IsTrans {item // item ∈ pending} earlier :=
    ⟨fun _ _ _ first second => second.trans first⟩
  have : Std.Irrefl earlier := ⟨fun item circle => acyclic item.1 circle⟩
  have wellFounded : WellFounded earlier := Finite.wellFounded_of_trans_of_irrefl _
  rcases List.exists_mem_of_ne_nil pending inhabited with ⟨first, firstMem⟩
  rcases wellFounded.has_min Set.univ ⟨⟨first, firstMem⟩, trivial⟩ with
    ⟨⟨item, itemMem⟩, _, minimal⟩
  refine ⟨item, itemMem, ?_⟩
  rw [isReady, List.all_eq_true]
  intro requirement required
  rw [decide_eq_true_eq]
  intro requirementMem
  exact minimal ⟨requirement, requirementMem⟩ trivial
    (.single ⟨within item itemMem, within requirement requirementMem, required⟩)

theorem not_mem_requires_of_isReady {pending : List α} {item other : α}
    (ready : isReady requires pending item = true) (otherMem : other ∈ pending) :
    other ∉ requires item := by
  intro required
  rw [isReady, List.all_eq_true] at ready
  exact of_decide_eq_true (ready other required) otherMem

theorem length_waiting_lt {pending : List α}
    (ready : ∃ item ∈ pending, isReady requires pending item = true) :
    (pending.filter fun item => !isReady requires pending item).length < pending.length := by
  rcases ready with ⟨item, itemMem, itemReady⟩
  apply List.length_filter_lt_length_iff_exists.mpr
  exact ⟨item, itemMem, by simp [itemReady]⟩

theorem peel_nil : peel requires [] = .ok [] := by
  rw [peel]

theorem peel_of_ready {pending : List α}
    (ready : ∃ item ∈ pending, isReady requires pending item = true) :
    peel requires pending =
      (peel requires (pending.filter fun item => !isReady requires pending item)).map
        (pending.filter (isReady requires pending) :: ·) := by
  cases pending with
  | nil => simp at ready
  | cons first rest =>
      rw [peel]
      simp only [length_waiting_lt ready, dite_true]
      cases peel requires
        ((first :: rest).filter fun item => !isReady requires (first :: rest) item) <;> rfl

/-- Whatever the requirements, items that can be arranged are all arranged. -/
theorem perm_of_peel {pending : List α} {arranged : List (List α)}
    (peeled : peel requires pending = .ok arranged) : arranged.flatten.Perm pending := by
  fun_induction peel requires pending generalizing arranged with
  | case1 =>
      cases peeled
      exact .refl _
  | case2 first rest ready waiting shorter levels others =>
      rename_i ih
      cases peeled
      rw [List.flatten_cons]
      exact ((ih others).append_left _).trans (List.filter_append_perm _ (first :: rest))
  | case3 => cases peeled
  | case4 => cases peeled

theorem Arranges.cons {pending : List α} {arranged : List (List α)}
    (rest : Arranges requires (pending.filter fun item => !isReady requires pending item)
      arranged) :
    Arranges requires pending (pending.filter (isReady requires pending) :: arranged) where
  perm := by
    rw [List.flatten_cons]
    exact (rest.perm.append_left _).trans (List.filter_append_perm _ pending)
  sublist := by
    intro level levelMem
    rcases List.mem_cons.mp levelMem with rfl | later
    · exact List.filter_sublist
    · exact (rest.sublist level later).trans List.filter_sublist
  upward := by
    refine List.pairwise_cons.mpr ⟨?_, rest.upward⟩
    intro higher higherMem item itemMem other otherMem
    have otherPending : other ∈ pending :=
      (List.mem_filter.mp ((rest.sublist higher higherMem).subset otherMem)).1
    exact not_mem_requires_of_isReady (List.mem_filter.mp itemMem).2 otherPending
  apart := by
    intro level levelMem item itemMem other otherMem
    rcases List.mem_cons.mp levelMem with rfl | later
    · exact not_mem_requires_of_isReady (List.mem_filter.mp itemMem).2
        (List.mem_filter.mp otherMem).1
    · exact rest.apart level later item itemMem other otherMem

/-- Without a circle every round finds a level, down to the last one. -/
theorem Acyclic.peel_eq_ok {items : List α} (acyclic : Acyclic requires items)
    (pending : List α) (within : ∀ item ∈ pending, item ∈ items) :
    ∃ arranged, peel requires pending = .ok arranged ∧ Arranges requires pending arranged := by
  by_cases empty : pending = []
  · subst empty
    exact ⟨[], peel_nil, ⟨.refl _, by simp, .nil, by simp⟩⟩
  · have ready := acyclic.exists_ready within empty
    have shorter := length_waiting_lt ready
    have restWithin : ∀ item ∈ pending.filter fun item => !isReady requires pending item,
        item ∈ items := by
      intro item itemMem
      exact within item (List.mem_filter.mp itemMem).1
    rcases acyclic.peel_eq_ok _ restWithin with ⟨arranged, peeled, arranges⟩
    refine ⟨_, ?_, arranges.cons⟩
    rw [peel_of_ready ready, peeled]
    rfl
termination_by pending.length

theorem Acyclic.levels_eq_ok {items : List α} (acyclic : Acyclic requires items) :
    ∃ arranged, levels requires items = .ok arranged ∧
      Arranges requires (firstOccurrences items) arranged :=
  acyclic.peel_eq_ok _ fun _ itemMem => mem_firstOccurrences.mp itemMem

namespace Arranges

variable {items : List α} {arranged : List (List α)}

theorem nodup (arranges : Arranges requires (firstOccurrences items) arranged) :
    arranged.flatten.Nodup :=
  arranges.perm.nodup_iff.mpr (nodup_firstOccurrences items)

theorem mem_flatten (arranges : Arranges requires (firstOccurrences items) arranged) {item : α} :
    item ∈ arranged.flatten ↔ item ∈ items :=
  arranges.perm.mem_iff.trans mem_firstOccurrences

end Arranges

end ShardFleet.StartOrder
