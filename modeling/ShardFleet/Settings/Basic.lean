import ShardFleet.Failure
import ShardFleet.Value.Shelf

/-!
# Settings

Settings are nested mappings; a dotted key such as `membership.timeout_ms` names a path through
them. `get` reads what stands at the end of a path, `set?` writes there and makes the sections that
are missing on the way, and `merge` lays one mapping over another: where both hold a section the
sections are merged, and elsewhere the overriding value wins. The lists of a document, and whatever
is in them, are on the shelf of the settings: a list that stands at several places is one list.
-/

namespace ShardFleet

namespace Settings

/-- The parts of a dotted key, split at every dot; there is always at least one. -/
def splitDots : List Char → List (List Char)
  | [] => [[]]
  | char :: rest =>
      match splitDots rest with
      | [] => [[char]]
      | part :: parts => if char = '.' then [] :: part :: parts else (char :: part) :: parts

theorem splitDots_ne_nil (chars : List Char) : splitDots chars ≠ [] := by
  cases chars with
  | nil => exact List.cons_ne_nil _ _
  | cons char rest =>
      rw [splitDots]
      split
      · exact List.cons_ne_nil _ _
      · split
        · exact List.cons_ne_nil _ _
        · exact List.cons_ne_nil _ _

def pathOf (key : String) : List String := (splitDots key.toList).map String.ofList

theorem pathOf_ne_nil (key : String) : pathOf key ≠ [] := by
  intro empty
  exact splitDots_ne_nil key.toList (List.map_eq_nil_iff.mp empty)

end Settings

mutual

/-- A value laid over the one at its place, if any. -/
def Value.over (below : Option Value) : Value → Value
  | .mapping entries =>
      match below with
      | some (.mapping base) => .mapping (base.merge entries)
      | _ => .mapping (Mapping.empty.merge entries)
  | value => value

/-- A mapping laid over a base. Keys of the base keep their places and new keys follow in order. -/
def Mapping.merge (base : Mapping) : Mapping → Mapping
  | .empty => base
  | .entry key value older => (base.merge older).insert key (Value.over (base.find? key) value)

end

namespace Mapping

/-- What stands at the end of a path, if every part before it is a section. -/
def lookup? (entries : Mapping) : List String → Option Value
  | [] => some (.mapping entries)
  | [part] => entries.field? part
  | part :: rest =>
      match entries.field? part with
      | some (.mapping inner) => inner.lookup? rest
      | _ => none

/-- Sets the value at the end of a path, and makes the sections that are missing before it. A part
before the end that holds something else is a mismatch: its entries cannot be set if it is the last
such part, and it has no sections if it is an earlier one. -/
def assign (entries : Mapping) (value : Value) : List String → Except Failure Mapping
  | [] => .ok entries
  | [part] => .ok (entries.insert (.text part) value)
  | part :: next :: rest =>
      match entries.field? part with
      | none =>
          match Mapping.empty.assign value (next :: rest) with
          | .ok inner => .ok (entries.insert (.text part) (.mapping inner))
          | .error failure => .error failure
      | some (.mapping inner) =>
          match inner.assign value (next :: rest) with
          | .ok changed => .ok (entries.insert (.text part) (.mapping changed))
          | .error failure => .error failure
      | some _ => .error (if rest.isEmpty then .wrongKind else .noFields)

end Mapping

structure Settings where
  content : Mapping := .empty
  shelf : Shelf := #[]

namespace Settings

/-- The value at a dotted key, or the default if there is none. -/
def get (settings : Settings) (key : String) (default : Value) : Value :=
  settings.shelf.unfold ((settings.content.lookup? (pathOf key)).getD default)

/-- Sets the value at a dotted key. If this fails, nothing is changed. -/
def set? (settings : Settings) (key : String) (value : Value) : Except Failure Settings :=
  (settings.content.assign value (pathOf key)).map ({ settings with content := · })

/-- Lays entries over the settings, with the collections that they refer to; their numbers follow
those that the settings have. -/
def lay (settings : Settings) (entries : Mapping) (shelf : Shelf) : Settings :=
  { content := settings.content.merge entries, shelf := settings.shelf ++ shelf }

/-- Lays a mapping over the settings; nothing else can be laid over them. -/
def merge? (settings : Settings) (overrides : Value) : Except Failure Settings :=
  match overrides with
  | .mapping entries => .ok (settings.lay entries #[])
  | _ => .error .noFields

/-- A copy of the settings, section by section. -/
def snapshot (settings : Settings) : Mapping := Mapping.empty.merge settings.content

/-- A copy of the settings as a value, with the lists in their places. -/
def toValue (settings : Settings) : Value := settings.shelf.unfold (.mapping settings.snapshot)

end Settings

end ShardFleet
