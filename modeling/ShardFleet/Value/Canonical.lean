import ShardFleet.Text.Decimal
import ShardFleet.Text.Surrogate
import ShardFleet.Value.Basic

/-!
# Canonical texts of values

A value has a text of plain characters alone, which does not depend on the order of entries:
texts stand in double quotes, with everything outside the printable plain characters escaped
in sixteen-bit units, and doubles are given by their word. A mapping whose keys are all
texts has its entries in the order of the keys; the entries of any other are put in the
order of their canonical texts.
-/

namespace ShardFleet

namespace Text

/-- A sixteen-bit unit as an escape. -/
def escapedUnit (unit : Nat) : List Char :=
  let digits := Nat.toDigits 16 unit
  '\\' :: 'u' :: (List.replicate (4 - digits.length) '0' ++ digits)

def canonicalCode (code : Nat) : List Char :=
  if code = '"'.toNat ∨ code = '\\'.toNat then ['\\', Char.ofNat code]
  else if code = '\n'.toNat then ['\\', 'n']
  else if code = '\r'.toNat then ['\\', 'r']
  else if code = '\t'.toNat then ['\\', 't']
  else if code = 8 then ['\\', 'b']
  else if code = 12 then ['\\', 'f']
  else if 32 ≤ code ∧ code < 127 then [Char.ofNat code]
  else if code < 0x10000 then escapedUnit code
  else
    escapedUnit (0xd800 + (code - 0x10000) / 1024) ++
      escapedUnit (0xdc00 + (code - 0x10000) % 1024)

def canonical (text : String) : String :=
  String.ofList ('"' :: (codePoints text.toList).flatMap canonicalCode ++ ['"'])

/-- Parts in square brackets. -/
def bracketed (parts : List String) : String := "[" ++ String.intercalate ", " parts ++ "]"

/-- Parts in braces. -/
def braced (parts : List String) : String := "\x7b" ++ String.intercalate ", " parts ++ "\x7d"

end Text

namespace Binary64

def canonical (number : Binary64) : String :=
  Text.braced ["\"$f64\": " ++ Text.canonical number.toHex]

end Binary64

def Key.canonical : Key → String
  | .null => "null"
  | .bool true => "true"
  | .bool false => "false"
  | .int number => Text.decimal number
  | .float number => number.canonical
  | .undefined number _ => number.canonical
  | .text value => Text.canonical value
  | .datum value => Text.canonical value.toText

/-- Entries, each with the canonical text of its value, as the canonical text of a mapping. -/
def Key.canonicalEntries (entries : List (Key × String)) : String :=
  match entries.mapM fun entry => entry.1.name?.map (·, entry.2) with
  | some named =>
      Text.braced ((named.mergeSort fun left right => Text.precedes left.1 right.1).map fun entry =>
        Text.canonical entry.1 ++ ": " ++ entry.2)
  | none =>
      Text.braced ["\"$map\": " ++ Text.bracketed
        ((entries.map fun entry => Text.bracketed [entry.1.canonical, entry.2]).mergeSort (· ≤ ·))]

mutual

def Value.canonical : Value → String
  | .null => "null"
  | .bool true => "true"
  | .bool false => "false"
  | .int number => Text.decimal number
  | .float number => number.canonical
  | .text value => Text.canonical value
  | .datum value => Text.canonical value.toText
  | .list items => Text.bracketed (Value.canonicalAll items)
  | .pair first second => Text.bracketed [first.canonical, second.canonical]
  | .mapping entries => Key.canonicalEntries entries.canonicalNewestFirst
  | .set members => Text.bracketed (members.map Key.canonical)
  | .kept _ _ => "null"

def Value.canonicalAll : List Value → List String
  | [] => []
  | item :: rest => item.canonical :: Value.canonicalAll rest

def Mapping.canonicalNewestFirst : Mapping → List (Key × String)
  | .empty => []
  | .entry key value older => (key, value.canonical) :: older.canonicalNewestFirst

end

namespace Mapping

/-- The entries with their keys as names, if all keys are texts. -/
def named? (entries : Mapping) : Option (List (String × Value)) :=
  entries.toList.mapM fun (key, value) => key.name?.map (·, value)

/-- The entries in the order of their canonical texts. -/
def inCanonicalOrder (entries : Mapping) : List (Key × Value) :=
  let written := entries.toList.map fun entry =>
    (Text.bracketed [entry.1.canonical, entry.2.canonical], entry)
  (written.mergeSort fun left right => left.1 ≤ right.1).map (·.2)

end Mapping

end ShardFleet
