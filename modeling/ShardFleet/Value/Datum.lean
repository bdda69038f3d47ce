import ShardFleet.Text.Decimal

/-!
# Octets and points in time

Settings can hold octets and points in time. They are kept, compared and written: a point in time
stands in running text by its digits, and inside other values by the way it is made up.
-/

namespace ShardFleet

/-- A time of day, with its distance from the common time in seconds if it is known. -/
structure TimeOfDay where
  hour : Nat
  minute : Nat
  second : Nat
  microsecond : Nat
  offset : Option Int
deriving DecidableEq, Repr

/-- A day, or a time on it. -/
structure Moment where
  year : Nat
  month : Nat
  day : Nat
  time : Option TimeOfDay
deriving DecidableEq, Repr

inductive Datum where
  | octets (values : List UInt8)
  | moment (value : Moment)
deriving DecidableEq, Repr

namespace Text

/-- A number with at least as many digits as given. -/
def padded (width number : Nat) : String :=
  let digits := decimalDigits number
  String.ofList (List.replicate (width - digits.length) '0' ++ digits)

/-- One octet as it stands between the quotes given. -/
def quotedOctet (quote : Char) (value : UInt8) : List Char :=
  let code := value.toNat
  if code = 9 then ['\\', 't']
  else if code = 10 then ['\\', 'n']
  else if code = 13 then ['\\', 'r']
  else if code = quote.toNat ∨ code = 92 then ['\\', Char.ofNat code]
  else if 32 ≤ code ∧ code < 127 then [Char.ofNat code]
  else '\\' :: 'x' :: [Nat.digitChar (code / 16), Nat.digitChar (code % 16)]

/-- Octets stand between single quotes, or between double quotes where there is a single quote among
them and no double one. -/
def quotedOctets (values : List UInt8) : String :=
  let quote := if values.contains 39 && !values.contains 34 then '"' else '\''
  "b" ++ String.ofList (quote :: values.flatMap (quotedOctet quote) ++ [quote])

/-- What something is made up from, with the name of what it makes. -/
def application (name : String) (parts : List String) : String :=
  name ++ "(" ++ String.intercalate ", " parts ++ ")"

/-- A distance in seconds as whole days, rounded down, and the seconds left over. -/
def timeSpan (seconds : Int) : String :=
  let days := seconds / 86400
  let left := seconds % 86400
  let parts :=
    (if days = 0 then [] else ["days=" ++ decimal days]) ++
      (if left = 0 then [] else ["seconds=" ++ decimal left])
  application "datetime.timedelta" (if parts.isEmpty then ["0"] else parts)

end Text

namespace TimeOfDay

/-- The distance from the common time as a sign, hours and minutes. -/
def offsetText (time : TimeOfDay) : String :=
  match time.offset with
  | none => ""
  | some seconds =>
      let minutes := seconds.natAbs / 60
      (if seconds < 0 then "-" else "+") ++ Text.padded 2 (minutes / 60) ++ ":" ++
        Text.padded 2 (minutes % 60)

def toText (time : TimeOfDay) : String :=
  Text.padded 2 time.hour ++ ":" ++ Text.padded 2 time.minute ++ ":" ++ Text.padded 2 time.second ++
    (if time.microsecond = 0 then "" else "." ++ Text.padded 6 time.microsecond) ++ time.offsetText

/-- The numbers that make up the time; seconds and microseconds are left out at the end if they are
zero. -/
def numbers (time : TimeOfDay) : List Nat :=
  [time.hour, time.minute] ++
    (if time.microsecond ≠ 0 then [time.second, time.microsecond]
    else if time.second ≠ 0 then [time.second]
    else [])

/-- The time zone that makes up the time, if the distance from the common time is known. -/
def zoneParts (time : TimeOfDay) : List String :=
  match time.offset with
  | none => []
  | some 0 => ["tzinfo=datetime.timezone.utc"]
  | some seconds => ["tzinfo=" ++ Text.application "datetime.timezone" [Text.timeSpan seconds]]

end TimeOfDay

/-! ## Days -/

def isLeapYear (year : Nat) : Bool := year % 4 == 0 && (year % 100 != 0 || year % 400 == 0)

def daysInMonth (year month : Nat) : Nat :=
  if month = 2 then if isLeapYear year then 29 else 28
  else if month ∈ [4, 6, 9, 11] then 30
  else 31

namespace Moment

def toText (moment : Moment) : String :=
  Text.padded 4 moment.year ++ "-" ++ Text.padded 2 moment.month ++ "-" ++
    Text.padded 2 moment.day ++
    (match moment.time with
      | none => ""
      | some time => " " ++ time.toText)

/-- A point in time by what it is made up from. -/
def describe (moment : Moment) : String :=
  let day := [moment.year, moment.month, moment.day].map fun (number : Nat) => Text.decimal number
  match moment.time with
  | none => Text.application "datetime.date" day
  | some time =>
      Text.application "datetime.datetime"
        (day ++ time.numbers.map (fun (number : Nat) => Text.decimal number) ++ time.zoneParts)

/-- The day before; the one before the first day of all is in the year zero. -/
def dayBefore (moment : Moment) : Moment :=
  if 1 < moment.day then { moment with day := moment.day - 1 }
  else if 1 < moment.month then
    { moment with month := moment.month - 1, day := daysInMonth moment.year (moment.month - 1) }
  else { moment with year := moment.year - 1, month := 12, day := 31 }

def dayAfter (moment : Moment) : Moment :=
  if moment.day < daysInMonth moment.year moment.month then { moment with day := moment.day + 1 }
  else if moment.month < 12 then { moment with month := moment.month + 1, day := 1 }
  else { moment with year := moment.year + 1, month := 1, day := 1 }

/-- The same point in the common time, if its distance from that is known; it is less than a day. -/
def inCommonTime (moment : Moment) : Moment :=
  match moment.time with
  | some time =>
      match time.offset with
      | some offset =>
          let seconds : Int := ((time.hour * 60 + time.minute) * 60 + time.second : Nat) - offset
          let day :=
            if seconds < 0 then moment.dayBefore
            else if 86400 ≤ seconds then moment.dayAfter
            else moment
          let ofDay := (seconds % 86400).toNat
          { day with
            time := some { time with
              hour := ofDay / 3600
              minute := ofDay / 60 % 60
              second := ofDay % 60
              offset := some 0 } }
      | none => moment
  | none => moment

end Moment

namespace Datum

/-- A datum in running text. -/
def toText : Datum → String
  | .octets values => Text.quotedOctets values
  | .moment value => value.toText

/-- A datum inside another value. -/
def describe : Datum → String
  | .octets values => Text.quotedOctets values
  | .moment value => value.describe

/-- The representative of all data that are equal to this one: points in time are equal if they are
the same one in the common time. -/
def identity : Datum → Datum
  | .octets values => .octets values
  | .moment value => .moment value.inCommonTime

/-- Whether there is nothing in it. -/
def isVacant : Datum → Bool
  | .octets values => values.isEmpty
  | .moment _ => false

end Datum

end ShardFleet
