import ShardFleet.Value.Basic

/-!
# Collections by number

A shelf holds collections by number, for the values that refer to them. `Shelf.unfold` puts what a
value refers to in its place; a collection that is inside itself is still only referred to there, so
what comes out is finite.
-/

namespace ShardFleet

mutual

/-- The value with something in place of every collection that it refers to. -/
def Value.replaceKept (replacement : CollectionKind → Nat → Value) : Value → Value
  | .kept kind number => replacement kind number
  | .list items => .list (Value.replaceKeptInAll replacement items)
  | .pair first second => .pair (first.replaceKept replacement) (second.replaceKept replacement)
  | .mapping entries => .mapping (entries.replaceKept replacement)
  | value => value

def Value.replaceKeptInAll (replacement : CollectionKind → Nat → Value) : List Value → List Value
  | [] => []
  | item :: rest => item.replaceKept replacement :: Value.replaceKeptInAll replacement rest

def Mapping.replaceKept (replacement : CollectionKind → Nat → Value) : Mapping → Mapping
  | .empty => .empty
  | .entry key value older =>
      .entry key (value.replaceKept replacement) (older.replaceKept replacement)

end

abbrev Shelf := Array Value

namespace Shelf

def collection (shelf : Shelf) (number : Nat) : Value := shelf.getD number .null

/-- What a value refers to; a value that refers to nothing is itself. -/
def resolve (shelf : Shelf) : Value → Value
  | .kept _ number => shelf.collection number
  | value => value

/-- The value unfolded, inside the collections with the numbers given. Each step goes into one more
of the collections, so a depth of as many as there are is enough. -/
def unfoldWithin (shelf : Shelf) : Nat → List Nat → Value → Value
  | 0, _, value => value
  | depth + 1, around, value =>
      value.replaceKept fun kind number =>
        if around.contains number then .kept kind number
        else shelf.unfoldWithin depth (number :: around) (shelf.collection number)

/-- The value with the collections that it refers to in their places. -/
def unfold (shelf : Shelf) (value : Value) : Value := shelf.unfoldWithin (shelf.size + 1) [] value

end Shelf

end ShardFleet
