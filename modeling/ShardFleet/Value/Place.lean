import ShardFleet.Failure
import ShardFleet.Value.Shelf

/-!
# Places inside values

A place is named by the keys and positions that lead to it from the whole. Reading goes step by
step; only the entries of a mapping and the items of a list can be set. A step may lead into a
collection on a shelf: what is set there is set wherever the collection stands, so a `Site` is a
place in a collection with its number, or in the whole itself.
-/

namespace ShardFleet

abbrev Place := List Key

structure Site where
  /-- The number of the collection, if the place is in one. -/
  collection : Option Nat := none
  place : Place := []

/-- The site one step further. -/
def Site.below (site : Site) (key : Key) : Site := { site with place := site.place ++ [key] }

namespace Value

/-- An item's position; negative ones count from the end. -/
def position? (size : Nat) (index : Int) : Option Nat :=
  let place := if index < 0 then index + size else index
  if 0 ≤ place ∧ place < size then some place.toNat else none

/-- The position among a number of items that a step leads to. -/
def positionOf (step : Value) (size : Nat) : Except Failure Nat :=
  match step.toCount? with
  | none => .error .wrongKind
  | some index =>
      match position? size index with
      | some place => .ok place
      | none => .error .noSuchPosition

/-- The key that a step is; an undefined number takes the mark given. -/
def keyOf (step : Value) (mark : Nat) : Except Failure Key :=
  match step.toKey? with
  | some key => .ok (key.marked mark)
  | none => .error .wrongKind

/-- The key or position that a step leads to, and what stands there. -/
def enter (mark : Nat) (value step : Value) : Except Failure (Key × Value) :=
  let among (items : List Value) : Except Failure (Key × Value) :=
    (step.positionOf items.length).map fun (place : Nat) => (.int place, items.getD place .null)
  match value with
  | .mapping entries => do
      let key ← step.keyOf mark
      match entries.find? key with
      | some inner => return (key, inner)
      | none => throw .noSuchKey
  | .list items => among items
  | .pair first second => among [first, second]
  | .text chars => among ((Text.parts chars).map .text)
  | .datum (.octets values) => among (values.map fun octet => .int octet.toNat)
  | _ => .error .wrongKind

/-- The key or position that a step leads to, where something can be set. -/
def target (mark : Nat) (value step : Value) : Except Failure Key :=
  match value with
  | .mapping _ => step.keyOf mark
  | .list items => (step.positionOf items.length).map fun place => .int place
  | _ => .error .wrongKind

/-- The site that steps lead to from a value at the site given, where something can be set. -/
def siteFrom (shelf : Shelf) (mark : Nat) : List Value → Site → Value → Except Failure Site
  | [], _, _ => .error .noSuchPosition
  | step :: rest, site, value => do
      let site : Site :=
        match value with
        | .kept _ number => { collection := some number }
        | _ => site
      match rest with
      | [] => return site.below (← (shelf.resolve value).target mark step)
      | _ :: _ =>
          let (key, inner) ← (shelf.resolve value).enter mark step
          siteFrom shelf mark rest (site.below key) inner

/-- What stands at a key or position. -/
def at? (value : Value) (key : Key) : Option Value :=
  match value, key with
  | .mapping entries, key => entries.find? key
  | .list items, .int index => items[index.toNat]?
  | .pair first second, .int index => some (if index = 0 then first else second)
  | _, _ => none

/-- The value with another one at a key or position. -/
def put (value : Value) (key : Key) (replacement : Value) : Value :=
  match value, key with
  | .mapping entries, key => .mapping (entries.insert key replacement)
  | .list items, .int index => .list (items.set index.toNat replacement)
  | .pair first second, .int index =>
      if index = 0 then .pair replacement second else .pair first replacement
  | value, _ => value

/-- The value with another one at a place inside it, which has to be there but for its last key. -/
def replaceAt (replacement : Value) : Place → Value → Value
  | [], _ => replacement
  | [last], value => value.put last replacement
  | key :: next :: rest, value =>
      match value.at? key with
      | some inner => value.put key (replaceAt replacement (next :: rest) inner)
      | none => value

/-- Whether a place is inside a list of the value. -/
def entersList : Place → Value → Bool
  | _ :: _, .list _ => true
  | key :: rest, .mapping entries =>
      match entries.find? key with
      | some inner => entersList rest inner
      | none => false
  | _, _ => false

end Value

end ShardFleet
