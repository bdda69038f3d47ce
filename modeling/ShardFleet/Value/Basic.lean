import ShardFleet.Numeric.Binary64
import ShardFleet.Value.Datum

/-!
# Dynamic values

Settings, admin commands and their responses carry values whose kind is known only when they
are used. A mapping is an association list with the newest entry first; `Mapping.insert`
replaces an entry in place and adds a new key in front, so a mapping keeps one entry per key
and `toList` gives the keys in the order in which they came. Two keys are the same if they
agree as numbers or otherwise: `true`, the integer 1 and the double 1 are one key, and a point
in time is the same one in every time zone. An undefined number agrees with no number, so as a
key it is told apart by a mark.

A list or mapping that stands at several places, or inside itself, is kept elsewhere under a number;
at its places stands only the number.
-/

namespace ShardFleet

/-- What a mapping can be keyed by. -/
inductive Key where
  | null
  | bool (value : Bool)
  | int (value : Int)
  | float (value : Binary64)
  /-- An undefined number; without a mark it is the one that stands for all that have none. -/
  | undefined (value : Binary64) (mark : Option Nat)
  | text (value : String)
  | datum (value : Datum)
deriving DecidableEq, Repr

/-- The two kinds of collection that can be kept under a number. -/
inductive CollectionKind where
  | list
  | mapping
deriving DecidableEq, Repr

namespace Key

/-- The representative of all keys that are the same as this one. -/
def identity : Key → Key
  | .bool value => .int value.toNat
  | .float value =>
      match value.toInt? with
      | some whole => .int whole
      | none => .float value
  | .datum value => .datum value.identity
  | key => key

/-- An undefined number with a mark; any other key as it is. -/
def marked (mark : Nat) : Key → Key
  | .undefined value _ => .undefined value (some mark)
  | key => key

@[simp] theorem identity_text (text : String) : (Key.text text).identity = .text text := rfl

end Key

mutual

inductive Value where
  | null
  | bool (value : Bool)
  | int (value : Int)
  | float (value : Binary64)
  | text (value : String)
  | datum (value : Datum)
  | list (items : List Value)
  /-- An entry of an ordered list of entries. -/
  | pair (first second : Value)
  | mapping (entries : Mapping)
  | set (members : List Key)
  /-- The collection with the number given. -/
  | kept (kind : CollectionKind) (number : Nat)

inductive Mapping where
  | empty
  | entry (key : Key) (value : Value) (older : Mapping)

end

instance : Inhabited Key := ⟨.null⟩
instance : Inhabited Value := ⟨.null⟩
instance : Inhabited Mapping := ⟨.empty⟩

namespace Mapping

/-- The value at a key. -/
def find? (key : Key) : Mapping → Option Value
  | .empty => none
  | .entry other value older =>
      if other.identity = key.identity then some value else older.find? key

/-- Sets the value at a key: in its place if the key is there already, else as the newest entry. -/
def insert (entries : Mapping) (key : Key) (value : Value) : Mapping :=
  if (entries.find? key).isSome then replace entries else .entry key value entries
where
  replace : Mapping → Mapping
    | .empty => .empty
    | .entry other old older =>
        if other.identity = key.identity then .entry other value older
        else .entry other old (replace older)

def newestFirst : Mapping → List (Key × Value)
  | .empty => []
  | .entry key value older => (key, value) :: older.newestFirst

/-- The entries in the order in which their keys came. -/
def toList (entries : Mapping) : List (Key × Value) := entries.newestFirst.reverse

def ofList (entries : List (Key × Value)) : Mapping :=
  entries.foldl (fun mapping (key, value) => mapping.insert key value) .empty

/-- A mapping with texts for keys. -/
def ofFields (fields : List (String × Value)) : Mapping :=
  ofList (fields.map fun (name, value) => (.text name, value))

def field? (entries : Mapping) (name : String) : Option Value := entries.find? (.text name)

/-- The entries but for the one at a key. -/
def without (key : Key) : Mapping → Mapping
  | .empty => .empty
  | .entry other value older =>
      if other.identity = key.identity then older.without key
      else .entry other value (older.without key)

/-- Whether every key is one of the names given. -/
def knowsOnly (names : List String) (fields : Mapping) : Bool :=
  fields.toList.all fun field => names.any fun name => field.1 == .text name

def isEmpty : Mapping → Bool
  | .empty => true
  | .entry .. => false

@[simp] theorem find?_empty (key : Key) : Mapping.empty.find? key = none := rfl

theorem find?_replace_self (entries : Mapping) (key : Key) (value : Value)
    (present : (entries.find? key).isSome) :
    (insert.replace key value entries).find? key = some value := by
  induction entries using Mapping.rec (motive_1 := fun _ => True) (motive_3 := fun _ => True) with
  | empty => simp at present
  | entry other old older _ ih =>
      by_cases same : other.identity = key.identity
      · simp [insert.replace, find?, same]
      · simp only [find?, same, if_false] at present
        simp [insert.replace, find?, same, ih present]
  | _ => trivial

theorem find?_replace_of_ne (entries : Mapping) {key asked : Key} (value : Value)
    (different : asked.identity ≠ key.identity) :
    (insert.replace key value entries).find? asked = entries.find? asked := by
  induction entries using Mapping.rec (motive_1 := fun _ => True) (motive_3 := fun _ => True) with
  | empty => rfl
  | entry other old older _ ih =>
      by_cases same : other.identity = key.identity
      · have apart : key.identity ≠ asked.identity := fun equal => different equal.symm
        simp [insert.replace, find?, same, apart]
      · simp [insert.replace, find?, same, ih]
  | _ => trivial

@[simp] theorem find?_insert_self (entries : Mapping) (key : Key) (value : Value) :
    (entries.insert key value).find? key = some value := by
  by_cases present : (entries.find? key).isSome
  · simp [insert, present, find?_replace_self]
  · simp [insert, present, find?]

theorem find?_insert_of_ne (entries : Mapping) {key asked : Key} (value : Value)
    (different : asked.identity ≠ key.identity) :
    (entries.insert key value).find? asked = entries.find? asked := by
  by_cases present : (entries.find? key).isSome
  · simp [insert, present, find?_replace_of_ne _ _ different]
  · have apart : key.identity ≠ asked.identity := fun equal => different equal.symm
    simp [insert, present, find?, apart]

end Mapping

namespace Value

/-- Null, false, zero, and whatever is empty. -/
def isVacant : Value → Bool
  | .null => true
  | .bool value => !value
  | .int value => value == 0
  | .float value => value.isZero
  | .text value => value.isEmpty
  | .datum value => value.isVacant
  | .list items => items.isEmpty
  | .pair _ _ => false
  | .mapping entries => entries.isEmpty
  | .set members => members.isEmpty
  | .kept _ _ => false

/-- Whether the value is the number one, of whatever kind. -/
def isOne : Value → Bool
  | .bool value => value
  | .int value => value == 1
  | .float value => value.toInt? == some 1
  | _ => false

def isNull : Value → Bool
  | .null => true
  | _ => false

def isText (expected : String) : Value → Bool
  | .text value => value == expected
  | _ => false

/-- A count is an integer or a truth value. -/
def toCount? : Value → Option Int
  | .int value => some value
  | .bool value => some value.toNat
  | _ => none

/-- Whether a number is below an integer; `none` if the value is no number. -/
def isBelow? (value : Value) (bound : Int) : Option Bool :=
  match value with
  | .bool flag => some (decide ((flag.toNat : Int) < bound))
  | .int number => some (decide (number < bound))
  | .float number => some (number.ltInt bound)
  | _ => none

/-- Whether a number is not zero or less; `none` if the value is no number. An undefined double is
not zero or less. -/
def isPositive? : Value → Option Bool
  | .bool flag => some flag
  | .int number => some (decide (0 < number))
  | .float number => some (!number.leInt 0)
  | _ => none

end Value

/-- The text that a key is, if it is one. -/
def Key.name? : Key → Option String
  | .text name => some name
  | _ => none

/-- The value that a key is. -/
def Key.toValue : Key → Value
  | .null => .null
  | .bool value => .bool value
  | .int value => .int value
  | .float value => .float value
  | .undefined value _ => .float value
  | .text value => .text value
  | .datum value => .datum value

/-- The key that a value can serve as; what has items or entries cannot. -/
def Value.toKey? : Value → Option Key
  | .null => some .null
  | .bool value => some (.bool value)
  | .int value => some (.int value)
  | .float value => some (if value.isUndefined then .undefined value none else .float value)
  | .text value => some (.text value)
  | .datum value => some (.datum value)
  | .list _ => none
  | .pair _ _ => none
  | .mapping _ => none
  | .set _ => none
  | .kept _ _ => none

/-- Whether two keys are equal as values; an undefined number does not equal even itself. -/
def Key.equals (first second : Key) : Bool :=
  first.identity == second.identity &&
    (match first with
      | .undefined _ _ => false
      | _ => true)

mutual

/-- Whether two values are equal: as numbers, or otherwise item by item and entry by entry, where
the order of entries does not matter. -/
def Value.equals : Value → Value → Bool
  | .list items, .list others => Value.allEqual items others
  | .pair first second, .pair other another => first.equals other && second.equals another
  | .mapping entries, .mapping others =>
      entries.newestFirst.length == others.newestFirst.length && entries.within others
  | .set members, .set others =>
      members.length == others.length && members.all fun key => others.any key.equals
  | value, other =>
      match value.toKey?, other.toKey? with
      | some key, some another => key.equals another
      | _, _ => false

def Value.allEqual : List Value → List Value → Bool
  | [], [] => true
  | item :: rest, other :: others => item.equals other && Value.allEqual rest others
  | _, _ => false

/-- Whether every entry is also one of another mapping. -/
def Mapping.within : Mapping → Mapping → Bool
  | .empty, _ => true
  | .entry key value older, others =>
      (match others.find? key with
        | some other => value.equals other
        | none => false) && older.within others

end

end ShardFleet
