import ShardFleet.Markup.Built
import ShardFleet.Value.Shelf

/-!
# Settings documents

`Document.read` says what a document holds, as a loader loads it: settings, nothing, or something
that is no settings. One collection can stand at several places of a document, and inside itself.
Where these are sections of sections they are settings of their own, so they cannot be inside
themselves. Lists, and whatever is in them, stay one and the same: they go on a shelf, each under
its number, counted from the first number that is free.
-/

namespace ShardFleet.Markup

namespace Content

/-- The kind of collection that can be kept by number. -/
def kind? : Content → Option CollectionKind
  | .items _ => some .list
  | .entries _ => some .list
  | .fields _ => some .mapping
  | .members _ => none

end Content

namespace Built

variable (built : Built) (first : Nat)

def content? (number : NodeNumber) : Option Content := built.contents.getD number none

/-- The key with its mark counted from the first free number. -/
def keyFrom : Key → Key
  | .undefined value (some mark) => .undefined value (some (first + mark))
  | key => key

/-- The value that a piece is where collections are only referred to. -/
def referred : Piece → Value
  | .leaf value => value
  | .undefined value _ => .float value
  | .collection number =>
      match built.content? number with
      | some (.members keys) => .set (keys.map (keyFrom first))
      | some content =>
          match content.kind? with
          | some kind => .kept kind (first + number)
          | none => .null
      | none => .null

/-- A collection as it stands on a shelf. -/
def shelved : Content → Value
  | .items pieces => .list (pieces.map (built.referred first))
  | .entries pairs =>
      .list (pairs.map fun pair => .pair (built.referred first pair.1) (built.referred first pair.2))
  | .fields fields =>
      .mapping (.ofList (fields.map fun field =>
        (keyFrom first field.1, built.referred first field.2)))
  | .members keys => .set (keys.map (keyFrom first))

/-- All collections by the numbers of their nodes. -/
def shelf : Shelf :=
  built.contents.map fun content =>
    match content with
    | some content => built.shelved first content
    | none => .null

/-- The value that a piece is as a part of settings. Sections that are part of themselves go deeper
than there are collections; they are no value. -/
def settings? : Nat → Piece → Option Value
  | depth + 1, .collection number =>
      match built.content? number with
      | some (.fields fields) =>
          (fields.mapM fun (field : Key × Piece) =>
            (settings? depth field.2).map (keyFrom first field.1, ·)).map
              fun entries => .mapping (.ofList entries)
      | _ => some (built.referred first (.collection number))
  | 0, .collection _ => none
  | _, piece => some (built.referred first piece)

end Built

/-- What a document holds. -/
inductive Document where
  /-- A value that is vacant, or no value at all. -/
  | vacant
  | settings (entries : Mapping) (shelf : Shelf)
  /-- A value that is neither vacant nor a mapping. -/
  | unsuitable

namespace Document

def ofBuilt (first : Nat) (built : Built) : Except Failure Document :=
  match built.root with
  | .leaf value => .ok (if value.isVacant then .vacant else .unsuitable)
  | .undefined _ _ => .ok .unsuitable
  | .collection number =>
      match built.content? number with
      | some (.fields (_ :: _)) =>
          match built.settings? first (built.contents.size + 1) built.root with
          | some (.mapping entries) => .ok (.settings entries (built.shelf first))
          | _ => .error (.endless .collection)
      | some (.items (_ :: _)) => .ok .unsuitable
      | some (.entries (_ :: _)) => .ok .unsuitable
      | some (.members (_ :: _)) => .ok .unsuitable
      | _ => .ok .vacant

/-- Each way to end a line as a single line feed. -/
def unifyLineEnds : List Char → List Char
  | '\r' :: '\n' :: rest => '\n' :: unifyLineEnds rest
  | '\r' :: rest => '\n' :: unifyLineEnds rest
  | char :: rest => char :: unifyLineEnds rest
  | [] => []

/-- Reads a document by its characters, with a loader; the numbers of its collections are counted
from the first one given. -/
def read (loader : Loader) (first : Nat) (chars : List Char) : Except Failure Document := do
  ofBuilt first (← loader (unifyLineEnds chars))

end Document

end ShardFleet.Markup
