import ShardFleet.Failure

/-!
# Log entries for the eye

An entry is written for the eye as one text: the field without a name, if there is one, its time,
level, event and logger, and then its other fields by name. Texts among these are quoted only
where they would be mistaken, so an entry can break into several lines, of which some have
colours and some have not.
-/

namespace ShardFleet.Logging.Console

/-- The characters that a text among the fields is quoted for. -/
def quotable : List Char := [' ', '\t', '=', '\r', '\n', '"', '\'']

def fieldText : Value → String
  | .text chars => if chars.toList.any quotable.contains then Text.quoted chars else chars
  | value => value.display

/-- A text between the codes that turn colours on and off again. -/
def tinted (coloured : Bool) (text : String) : String :=
  if coloured then "\x1b[1m" ++ text ++ "\x1b[0m" else text

/-- A field by its name and value. -/
def namedField (coloured : Bool) (name : String) (value : Value) : String :=
  tinted coloured name ++ "=" ++ tinted coloured (fieldText value)

/-- The fields that come first without their names, and whether each is in brackets. -/
def columns : List (String × Bool) :=
  [("timestamp", false), ("level", true), ("event", false), ("logger", true), ("logger_name", true)]

def columnText (coloured : Bool) (entry : Mapping) (column : String × Bool) : Option String :=
  (entry.field? column.1).map fun value =>
    let shown := tinted coloured value.toText
    if column.2 then "[" ++ shown ++ "]" else shown

/-- The fields that are written below an entry. -/
def attachments : List String := ["stack", "exception"]

/-- The other fields, in the order of their names. -/
def otherFields (entry : Mapping) : List (String × Value) :=
  let named := entry.toList.filterMap fun field =>
    match field.1 with
    | .text name => some (name, field.2)
    | _ => none
  let others := named.filter fun field =>
    !("" :: columns.map (·.1) ++ attachments).contains field.1
  others.mergeSort fun left right => Text.precedes left.1 right.1

/-- What is written below an entry for one of its fields, if that is there; only a text can be. -/
def attachment? (entry : Mapping) (name : String) : Except Failure (Option String) :=
  match entry.field? name with
  | none | some .null => .ok none
  | some (.text chars) => .ok (some chars)
  | some _ => .error .wrongKind

/-- The line between two attachments. -/
def separator : String := String.ofList (List.replicate 79 '=')

/-- What is written below an entry. -/
def below (entry : Mapping) : Except Failure String := do
  match ← attachment? entry "stack", ← attachment? entry "exception" with
  | none, none => return ""
  | some stack, none => return "\n" ++ stack
  | none, some failure => return "\n" ++ failure
  | some stack, some failure =>
      return "\n" ++ stack ++ "\n\n" ++ separator ++ "\n\n" ++ failure

/-- An entry as a text. -/
def textOf (coloured : Bool) (entry : Mapping) : Except Failure String := do
  let nameless := (entry.field? "").map (namedField coloured "")
  let first := columns.filterMap (columnText coloured entry)
  let others := (otherFields entry).map fun field => namedField coloured field.1 field.2
  return String.intercalate " " (nameless.toList ++ first ++ others) ++ (← below entry)

/-- The characters that end a line. -/
def endsLine (char : Char) : Bool :=
  [0x0a, 0x0b, 0x0c, 0x0d, 0x1c, 0x1d, 0x1e, 0x85, 0x2028, 0x2029].contains char.toNat

/-- The lines of a text. What follows the last line end is a line only if it is not empty. -/
def linesOf : List Char → List (List Char)
  | [] => []
  | '\r' :: '\n' :: rest => [] :: linesOf rest
  | char :: rest =>
      if endsLine char then [] :: linesOf rest
      else
        match linesOf rest with
        | [] => [[char]]
        | line :: lines => (char :: line) :: lines

/-- Whether a code for colours starts somewhere in a line. -/
def hasColour : List Char → Bool
  | '\x1b' :: '[' :: _ => true
  | _ :: rest => hasColour rest
  | [] => false

/-- What is written for the failure under way where there is none. -/
def noFailure : String := "NoneType: None"

/-- A text with the failure under way below it. -/
def withNoFailure (text : String) : String :=
  (if text.endsWith "\n" then text else text ++ "\n") ++ noFailure

/-- For each line of a text, which a line end follows, whether there are colours in it. -/
def colouredLines (text : String) : List Bool := (linesOf (text ++ "\n").toList).map hasColour

end ShardFleet.Logging.Console
