import ShardFleet.Numeric.Binary64
import ShardFleet.Text.Integer

/-!
# Doubles written as text

A double is written as a decimal with an optional fraction and exponent, or by the words for
infinity and for an undefined number; it may have a sign, and blanks around it. It is the
double nearest to the decimal.
-/

namespace ShardFleet.Text

def naturalOf (digits : List Char) : Nat :=
  digits.foldl (fun number digit => number * 10 + (digit.toNat - '0'.toNat)) 0

def isMinus (chars : List Char) : Bool := chars.head? == some '-'

def withoutSign : List Char → List Char
  | '+' :: rest => rest
  | '-' :: rest => rest
  | chars => chars

/-- What an exponent says, with its mark; there may be none. -/
def exponent? : List Char → Option Int
  | [] => some 0
  | mark :: rest =>
      let digits := withoutSign rest
      if (mark == 'e' || mark == 'E') && !digits.isEmpty && digits.all Char.isDigit then
        some (Binary64.signed (isMinus rest) (naturalOf digits))
      else none

/-- A decimal without sign as its digits and a power of ten. -/
def decimalParts? (chars : List Char) : Option (Nat × Int) :=
  let whole := chars.takeWhile Char.isDigit
  let afterWhole := chars.dropWhile Char.isDigit
  let hasPoint := afterWhole.head? == some '.'
  let fraction := if hasPoint then (afterWhole.drop 1).takeWhile Char.isDigit else []
  let afterFraction := if hasPoint then (afterWhole.drop 1).dropWhile Char.isDigit else afterWhole
  if whole.isEmpty && fraction.isEmpty then none
  else
    (exponent? afterFraction).map fun exponent =>
      (naturalOf (whole ++ fraction), exponent - fraction.length)

/-- The double nearest to `digits * 10 ^ exponent`. Far beyond the range of doubles the power is not
worked out. -/
def nearestDouble (negative : Bool) (digits : Nat) (exponent : Int) : Binary64 :=
  let order := (digits.log2 : Int) * 30103 / 100000 + exponent
  if digits = 0 ∨ order < -400 then Binary64.ofMagnitude negative 0
  else if 400 < order then Binary64.infinity negative
  else Binary64.ofDecimal negative digits exponent

/-- The double that a text denotes, if it denotes one. -/
def readDouble? (text : List Char) : Option Binary64 :=
  let chars := trimBlanks (text.map plainForm)
  let negative := isMinus chars
  let body := withoutSign chars
  let word := body.map Char.toLower
  if word = "inf".toList ∨ word = "infinity".toList then some (Binary64.infinity negative)
  else if word = "nan".toList then some (Binary64.quiet negative)
  else (decimalParts? body).map fun (digits, exponent) => nearestDouble negative digits exponent

end ShardFleet.Text
