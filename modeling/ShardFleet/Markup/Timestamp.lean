import ShardFleet.Failure
import ShardFleet.Text.Real

/-!
# Points in time

A day is written as year, month and day; a time may follow, behind blanks or the letter t, with a
fraction of the second and the distance from the common time. What is written need not be a point in
time: `Written.moment` says which part is out of range.
-/

namespace ShardFleet.Markup.Timestamp

/-- The distance from the common time as it is written: a sign, hours and minutes. -/
structure WrittenOffset where
  negative : Bool
  hours : Nat
  minutes : Nat

structure WrittenTime where
  hour : Nat
  minute : Nat
  second : Nat
  fraction : List Char
  offset : Option WrittenOffset

/-- What is written, with the number of digits of the month and the day. -/
structure Written where
  year : Nat
  month : Nat
  day : Nat
  monthDigits : Nat
  dayDigits : Nat
  time : Option WrittenTime

/-- The digits that stand in front, at most as many as given, and what follows. -/
def digitsUpTo (most : Nat) (chars : List Char) : List Char × List Char :=
  let digits := (chars.take most).takeWhile Char.isDigit
  (digits, chars.drop digits.length)

/-- A number with exactly as many digits as given, and what follows. -/
def exactly? (count : Nat) (chars : List Char) : Option (Nat × List Char) :=
  let (digits, rest) := digitsUpTo count chars
  if digits.length = count then some (Text.naturalOf digits, rest) else none

/-- A number of one or two digits, with their number, and what follows. -/
def short? (chars : List Char) : Option (Nat × Nat × List Char) :=
  let (digits, rest) := digitsUpTo 2 chars
  if digits.isEmpty then none else some (Text.naturalOf digits, digits.length, rest)

/-- What follows a sign that has to stand in front. -/
def after? (sign : Char) (chars : List Char) : Option (List Char) :=
  if chars.head? = some sign then some (chars.drop 1) else none

def isBlank (char : Char) : Bool := char == ' ' || char == '\t'

/-- The distance from the common time, at the end of a time; it may be left out. -/
def offset? (chars : List Char) : Option (Option WrittenOffset) :=
  if chars.isEmpty then some none
  else
    match chars.dropWhile isBlank with
    | ['Z'] => some (some ⟨false, 0, 0⟩)
    | sign :: rest => do
        if sign ≠ '+' ∧ sign ≠ '-' then none
        let (hours, _, rest) ← short? rest
        if rest.isEmpty then return some ⟨sign == '-', hours, 0⟩
        else
          let (minutes, rest) ← exactly? 2 (← after? ':' rest)
          if rest.isEmpty then return some ⟨sign == '-', hours, minutes⟩ else none
    | [] => none

def time? (chars : List Char) : Option WrittenTime := do
  let (hour, _, rest) ← short? chars
  let (minute, rest) ← exactly? 2 (← after? ':' rest)
  let (second, rest) ← exactly? 2 (← after? ':' rest)
  let (fraction, rest) :=
    match rest with
    | '.' :: digits => (digits.takeWhile Char.isDigit, digits.dropWhile Char.isDigit)
    | rest => ([], rest)
  return { hour, minute, second, fraction, offset := ← offset? rest }

/-- The time behind a day; what separates it has to be there. -/
def separatedTime? (chars : List Char) : Option WrittenTime :=
  match chars with
  | 'T' :: rest => time? rest
  | 't' :: rest => time? rest
  | first :: rest => if isBlank first then time? (rest.dropWhile isBlank) else none
  | [] => none

def read? (chars : List Char) : Option Written := do
  let (year, rest) ← exactly? 4 chars
  let (month, monthDigits, rest) ← short? (← after? '-' rest)
  let (day, dayDigits, rest) ← short? (← after? '-' rest)
  let date := { year, month, day, monthDigits, dayDigits, time := none }
  if rest.isEmpty then return date
  else return { date with time := some (← separatedTime? rest) }

/-- Whether a plain scalar is a point in time by its form; a lone day has to have two digits in the
month and in the day. -/
def isTimestamp (chars : List Char) : Bool :=
  match read? chars with
  | some written => written.time.isSome || (written.monthDigits == 2 && written.dayDigits == 2)
  | none => false

namespace Written

def checkDay (written : Written) : Except MomentFault Unit :=
  if written.year = 0 then .error .year
  else if written.month = 0 ∨ 12 < written.month then .error .month
  else if written.day = 0 ∨ daysInMonth written.year written.month < written.day then .error .day
  else .ok ()

end Written

namespace WrittenOffset

/-- The distance in seconds, which has to be less than a day. -/
def seconds (offset : WrittenOffset) : Except MomentFault Int :=
  let distance : Int := ((offset.hours * 60 + offset.minutes) * 60 : Nat)
  let signed := if offset.negative then -distance else distance
  if distance < 86400 then .ok signed else .error (.offset signed)

end WrittenOffset

namespace WrittenTime

/-- The microseconds of a fraction, of which six digits count. -/
def microseconds (time : WrittenTime) : Nat :=
  let digits := time.fraction.take 6
  Text.naturalOf (digits ++ List.replicate (6 - digits.length) '0')

def check (time : WrittenTime) : Except MomentFault Unit :=
  if 23 < time.hour then .error .hour
  else if 59 < time.minute then .error .minute
  else if 59 < time.second then .error .second
  else .ok ()

end WrittenTime

/-- The point in time that is written. The distance from the common time is judged first, then the
day, then the time. -/
def Written.moment (written : Written) : Except MomentFault Moment :=
  match written.time with
  | none => do
      written.checkDay
      return { year := written.year, month := written.month, day := written.day, time := none }
  | some time => do
      let offset ← time.offset.mapM WrittenOffset.seconds
      written.checkDay
      time.check
      let timeOfDay : TimeOfDay :=
        { hour := time.hour
          minute := time.minute
          second := time.second
          microsecond := time.microseconds
          offset }
      return { year := written.year, month := written.month, day := written.day, time := timeOfDay }

end ShardFleet.Markup.Timestamp
