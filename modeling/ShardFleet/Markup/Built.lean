import ShardFleet.Failure

/-!
# What a text in markup stands for

A loader makes of a text the value that it stands for. The collections in that value go by number,
so one collection can stand at several places, and inside itself. Settings are taken from what a
loader gives, whichever loader it is.
-/

namespace ShardFleet.Markup

abbrev NodeNumber := Nat

/-- A part of a value: a value by itself, or the collection of a number. An undefined number has a
mark that tells it apart as a key, unless it is the common one. -/
inductive Piece where
  | leaf (value : Value)
  | undefined (value : Binary64) (mark : Option NodeNumber)
  | collection (number : NodeNumber)

/-- What a collection holds. -/
inductive Content where
  | items (pieces : List Piece)
  | entries (pairs : List (Piece × Piece))
  | fields (fields : List (Key × Piece))
  | members (keys : List Key)

/-- A value by its root, and what the collections in it hold. -/
structure Built where
  root : Piece
  contents : Array (Option Content)

/-- Loads a text, unless it is refused. An empty text stands for null. -/
abbrev Loader := List Char → Except Failure Built

end ShardFleet.Markup
