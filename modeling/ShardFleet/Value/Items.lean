import ShardFleet.Failure

/-!
# Items of values

What a value gives when it is gone through item by item.
-/

namespace ShardFleet

namespace Value

/-- The items of a value: those of a list, the keys of a mapping, the code points of a text. -/
def items : Value → Except Failure (List Value)
  | .list items => .ok items
  | .mapping entries => .ok (entries.toList.map fun entry => entry.1.toValue)
  | .text chars => .ok ((Text.parts chars).map .text)
  | _ => .error .wrongKind

/-- The items of a value that has a first and a last one: a list or a text. -/
def sequence : Value → Except Failure (List Value)
  | .mapping _ => .error .wrongKind
  | value => value.items

end Value

/-- Keys in order: texts by their code points, whole numbers by their size. Other keys have no
order; one alone needs none. -/
def Key.inOrder (keys : List Key) : Except Failure (List Key) :=
  match keys.mapM Key.name?, keys.mapM fun key => key.toValue.toCount?.map (key, ·) with
  | some texts, _ => .ok ((texts.mergeSort Text.precedes).map .text)
  | none, some counted =>
      .ok ((counted.mergeSort fun left right => decide (left.2 ≤ right.2)).map (·.1))
  | none, none => if keys.length = 1 then .ok keys else .error .wrongKind

/-- The failure of components that wait for each other, whose names a value gives; another
failure if it gives no names. -/
def Failure.ofCycleIn (names : Value) : Failure :=
  match names.items with
  | .ok found =>
      match found.mapM Value.toKey? with
      | some keys => .ofCycle keys
      | none => .wrongKind
  | .error failure => failure

end ShardFleet
