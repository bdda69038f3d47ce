import ShardFleet.Numeric.Shortest
import ShardFleet.Text.Decimal
import ShardFleet.Text.Quoted
import ShardFleet.Value.Slots

/-!
# Values in messages

A value inside a message is written as it is if it is a text or a datum; inside a list or a mapping
texts are quoted and data described. A collection inside itself is written by three dots.
-/

namespace ShardFleet

def Key.display : Key → String
  | .null => "None"
  | .bool true => "True"
  | .bool false => "False"
  | .int value => Text.decimal value
  | .float value => value.toText
  | .undefined value _ => value.toText
  | .text value => Text.quoted value
  | .datum value => value.describe

mutual

/-- A value with its texts quoted and its data described. -/
def Value.display : Value → String
  | .null => "None"
  | .bool true => "True"
  | .bool false => "False"
  | .int value => Text.decimal value
  | .float value => value.toText
  | .text value => Text.quoted value
  | .datum value => value.describe
  | .pair first second => "(" ++ first.display ++ ", " ++ second.display ++ ")"
  | .set members =>
      if members.isEmpty then "set()"
      else "\x7b" ++ String.intercalate ", " ((Key.inSlotOrder members).map Key.display) ++ "\x7d"
  | .kept .list _ => "[...]"
  | .kept .mapping _ => "\x7b...\x7d"
  | .list items => "[" ++ String.intercalate ", " (Value.displayAll items) ++ "]"
  | .mapping entries =>
      "\x7b" ++ String.intercalate ", " (entries.displayNewestFirst).reverse ++ "\x7d"

def Value.displayAll : List Value → List String
  | [] => []
  | item :: rest => item.display :: Value.displayAll rest

def Mapping.displayNewestFirst : Mapping → List String
  | .empty => []
  | .entry key value older => (key.display ++ ": " ++ value.display) :: older.displayNewestFirst

end

/-- A value as it stands in running text. -/
def Value.toText : Value → String
  | .text value => value
  | .datum value => value.toText
  | value => value.display

/-- A key as it stands in running text. -/
def Key.toText (key : Key) : String := key.toValue.toText

end ShardFleet
