import ShardFleet.Failure

/-!
# Start levels

`levels` arranges items in levels so that whatever an item requires stands in an earlier level.
Requirements that are not among the items are ignored. Each round takes the items that require
nothing still pending, in the order in which they were given; if there is no such item, the items
that are still pending wait for each other in a circle or for such a circle.
-/

namespace ShardFleet.StartOrder

variable {α : Type} [DecidableEq α]

/-- Each item once, where it stands first. -/
def firstOccurrences : List α → List α
  | [] => []
  | item :: rest => item :: (firstOccurrences rest).filter fun other => decide (other ≠ item)

@[simp] theorem mem_firstOccurrences {items : List α} {item : α} :
    item ∈ firstOccurrences items ↔ item ∈ items := by
  induction items with
  | nil => exact Iff.rfl
  | cons first rest ih =>
      by_cases same : item = first
      · simp [firstOccurrences, same]
      · simp [firstOccurrences, same, ih]

theorem nodup_firstOccurrences (items : List α) : (firstOccurrences items).Nodup := by
  induction items with
  | nil => exact List.nodup_nil
  | cons first rest ih =>
      refine List.nodup_cons.mpr ⟨?_, ih.filter _⟩
      intro member
      exact of_decide_eq_true (List.mem_filter.mp member).2 rfl

/-- Whether an item requires nothing that is still pending. -/
def isReady (requires : α → List α) (pending : List α) (item : α) : Bool :=
  (requires item).all fun requirement => decide (requirement ∉ pending)

/-- Takes the ready items off until none is left, or none is ready. -/
def peel (requires : α → List α) (pending : List α) : Except (List α) (List (List α)) :=
  match pending with
  | [] => .ok []
  | first :: rest =>
      let ready := (first :: rest).filter (isReady requires (first :: rest))
      let waiting := (first :: rest).filter fun item => !isReady requires (first :: rest) item
      if _ : waiting.length < (first :: rest).length then
        match peel requires waiting with
        | .ok levels => .ok (ready :: levels)
        | .error circle => .error circle
      else .error (first :: rest)
termination_by pending.length
decreasing_by assumption

/-- The start levels of the items, or those items that cannot be ordered. -/
def levels (requires : α → List α) (items : List α) : Except (List α) (List (List α)) :=
  peel requires (firstOccurrences items)

end ShardFleet.StartOrder
