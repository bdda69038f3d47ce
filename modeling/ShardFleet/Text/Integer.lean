import ShardFleet.Text.Digit

/-!
# Integers written as text

An integer may have blanks around it, one sign, the mark of its base, and digits with single
underscores between them. Decimal digits of any script count. In a text of plain characters
alone the blanks are the six plain ones; in any other text every blank of the character set
counts, and the four separators below the space still do not. Where the base is no power of two,
the number of digits is limited, and a number beyond the limit is refused for that before
anything behind it is looked at.
-/

namespace ShardFleet.Text

def isPlainBlank (char : Char) : Bool :=
  char == ' ' || (9 ≤ char.toNat && char.toNat ≤ 13)

def isWideBlank (char : Char) : Bool :=
  let code := char.toNat
  code == 0x85 || code == 0xa0 || code == 0x1680 || (0x2000 ≤ code && code ≤ 0x200a) ||
    code == 0x2028 || code == 0x2029 || code == 0x202f || code == 0x205f || code == 0x3000

/-- The greatest number of digits that an integer is read from. -/
def integerDigitLimit : Nat := 4300

/-- Each character in plain form: wide blanks as spaces, digits of any script as plain ones. -/
def plainForm (char : Char) : Char :=
  if char.toNat < 127 then char
  else if isWideBlank char then ' '
  else
    match digitValue? char with
    | some value => Nat.digitChar value
    | none => '?'

def trimBlanks (chars : List Char) : List Char :=
  ((chars.dropWhile isPlainBlank).reverse.dropWhile isPlainBlank).reverse

/-- The value of a digit, up to base thirty-six. -/
def baseDigit? (char : Char) : Option Nat :=
  if '0' ≤ char ∧ char ≤ '9' then some (char.toNat - '0'.toNat)
  else if 'a' ≤ char ∧ char ≤ 'z' then some (char.toNat - 'a'.toNat + 10)
  else if 'A' ≤ char ∧ char ≤ 'Z' then some (char.toNat - 'A'.toNat + 10)
  else none

/-- Why a text is no integer. -/
inductive IntegerFault where
  | malformed
  | tooManyDigits (count : Nat)
deriving DecidableEq, Repr

/-- The bases of which the number of digits is not limited. -/
def isBinaryBase (base : Nat) : Bool := base == 2 || base == 8 || base == 16

/-- The letters of the mark that a number in the base may begin with, behind a zero. -/
def baseMarks (base : Nat) : List Char :=
  if base = 2 then ['b', 'B']
  else if base = 8 then ['o', 'O']
  else if base = 16 then ['x', 'X'] else []

/-- A number without the mark of its base; behind the mark one underscore may stand. -/
def withoutBaseMark (base : Nat) (chars : List Char) : List Char :=
  match chars with
  | '0' :: mark :: rest =>
      if (baseMarks base).contains mark then
        if rest.head? = some '_' then rest.drop 1 else rest
      else chars
  | _ => chars

/-- Whether underscores stand singly and behind a character other than an underscore. -/
def underscoresSingle : Bool → List Char → Bool
  | after, [] => after
  | after, '_' :: rest => after && underscoresSingle false rest
  | _, _ :: rest => underscoresSingle true rest

/-- A number without sign, and blanks behind it. -/
def readNatural (base : Nat) (chars : List Char) : Except IntegerFault Nat :=
  let body := withoutBaseMark base chars
  let inNumber (char : Char) : Bool :=
    char == '_' || (match baseDigit? char with | some value => decide (value < base) | none => false)
  let run := body.takeWhile inNumber
  let digits := (run.filter (· != '_')).filterMap baseDigit?
  if !underscoresSingle false run then .error .malformed
  else if !isBinaryBase base && decide (integerDigitLimit < digits.length) then
    .error (.tooManyDigits digits.length)
  else if (body.dropWhile inNumber).all isPlainBlank then
    .ok (digits.foldl (fun number digit => number * base + digit) 0)
  else .error .malformed

/-- The integer that a text denotes in a base. -/
def readInteger (base : Nat) (text : List Char) : Except IntegerFault Int :=
  match (text.map plainForm).dropWhile isPlainBlank with
  | '-' :: rest => (readNatural base rest).map fun number => -(number : Int)
  | '+' :: rest => (readNatural base rest).map fun number => (number : Int)
  | chars => (readNatural base chars).map fun number => (number : Int)

/-- The decimal integer that a text denotes, if it denotes one. -/
def integer? (text : String) : Option Int :=
  match readInteger 10 text.toList with
  | .ok number => some number
  | .error _ => none

end ShardFleet.Text
