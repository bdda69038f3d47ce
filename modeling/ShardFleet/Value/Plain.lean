import ShardFleet.Failure
import ShardFleet.Text.Integer

/-!
# Plain data

Plain data is null, truth values, numbers, texts, and lists and mappings of these: it can be handed
on. Octets, points in time and sets are not plain, and what is part of itself would go on without
end. A value can stand in a message unless an integer in it is too long to be written.
-/

namespace ShardFleet

def Key.checkPlain : Key → Except Failure Unit
  | .datum _ => .error .wrongKind
  | _ => .ok ()

mutual

/-- Finds the first part of a value that is not plain. -/
def Value.checkPlain : Value → Except Failure Unit
  | .datum _ => .error .wrongKind
  | .set _ => .error .wrongKind
  | .kept _ _ => .error (.endless .collection)
  | .list items => Value.checkAllPlain items
  | .pair first second => do
      first.checkPlain
      second.checkPlain
  | .mapping entries => entries.checkPlain
  | _ => .ok ()

def Value.checkAllPlain : List Value → Except Failure Unit
  | [] => .ok ()
  | item :: rest => do
      item.checkPlain
      Value.checkAllPlain rest

def Mapping.checkPlain : Mapping → Except Failure Unit
  | .empty => .ok ()
  | .entry key value older => do
      older.checkPlain
      key.checkPlain
      value.checkPlain

end

/-- The value, if it is plain. -/
def Value.plain (value : Value) : Except Failure Value := do
  value.checkPlain
  return value

/-- The integers from here on are too long to be written. -/
def longIntegerStart : Nat := Nat.pow 10 Text.integerDigitLimit

def Key.isWritable : Key → Bool
  | .int number => number.natAbs < longIntegerStart
  | _ => true

mutual

/-- Whether no integer in a value is too long. -/
def Value.isWritable : Value → Bool
  | .int number => number.natAbs < longIntegerStart
  | .list items => Value.allWritable items
  | .pair first second => first.isWritable && second.isWritable
  | .mapping entries => entries.isWritable
  | .set members => members.all (·.isWritable)
  | _ => true

def Value.allWritable : List Value → Bool
  | [] => true
  | item :: rest => item.isWritable && Value.allWritable rest

def Mapping.isWritable : Mapping → Bool
  | .empty => true
  | .entry key value older => key.isWritable && value.isWritable && older.isWritable

end

def Value.checkWritable (value : Value) : Except Failure Unit :=
  if value.isWritable then .ok () else .error .integerTooLong

theorem Key.isWritable_toValue (key : Key) : key.toValue.isWritable = key.isWritable := by
  cases key <;> rfl

theorem Key.checkWritable_toValue_eq_error {key : Key} {failure : Failure} :
    key.toValue.checkWritable = .error failure ↔
      key.isWritable = false ∧ failure = .integerTooLong := by
  rw [Value.checkWritable, key.isWritable_toValue]
  cases key.isWritable <;> simp [eq_comm]

end ShardFleet
