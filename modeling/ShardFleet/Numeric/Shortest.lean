import ShardFleet.Numeric.Binary64

/-!
# The shortest decimal of a double

`Shortest.ofFinite?` finds, for a finite non-zero double, the decimal with the fewest digits among
those that round to it, and of those the one nearest to it. Decimals of `n` digits form a grid; the
double's two neighbours on that grid are tried for `n = 1, 2, ...`, in exact arithmetic. Seventeen
digits are always enough. `Notation.write` then puts digits and exponent on paper.
-/

namespace ShardFleet

namespace Shortest

/-- A decimal: `digits * 10 ^ exponent`. -/
structure Decimal where
  digits : Nat
  exponent : Int
deriving DecidableEq, Repr

/-- The decimals that round to one double, as numerators over one denominator. The ends belong to
it iff the significand is even. -/
structure Range where
  low : Nat
  value : Nat
  high : Nat
  denominator : Nat
  closed : Bool
deriving Repr

/-- The range of `significand * 2 ^ exponent`. Below a power of two the next double down is only
half as far as the next one up. -/
def Range.of (significand : Nat) (exponent : Int) : Range :=
  let scale := if 2 ≤ exponent then Nat.pow 2 (exponent - 2).toNat else 1
  let denominator := if 2 ≤ exponent then 1 else Nat.pow 2 (2 - exponent).toNat
  let below := if significand = Binary64.fractionSize ∧ -1074 < exponent then 1 else 2
  { low := (4 * significand - below) * scale
    value := 4 * significand * scale
    high := (4 * significand + 2) * scale
    denominator
    closed := significand % 2 = 0 }

/-- The largest `e` with `10 ^ e` at most `numerator / denominator`, both positive. -/
def decimalOrder (numerator denominator : Nat) : Int :=
  let reached (order : Int) : Bool :=
    if 0 ≤ order then denominator * Nat.pow 10 order.toNat ≤ numerator
    else denominator ≤ numerator * Nat.pow 10 (-order).toNat
  let estimate := Int.fdiv (Binary64.binaryOrder numerator denominator * 30103) 100000
  if reached (estimate + 1) then estimate + 1
  else if reached estimate then estimate
  else estimate - 1

namespace Range

/-- A decimal and the range's denominator brought to one scale: the numerators compare. -/
def scaled (range : Range) (decimal : Decimal) : Nat × Nat :=
  if 0 ≤ decimal.exponent then
    (decimal.digits * Nat.pow 10 decimal.exponent.toNat * range.denominator, 1)
  else (decimal.digits * range.denominator, Nat.pow 10 (-decimal.exponent).toNat)

def contains (range : Range) (decimal : Decimal) : Bool :=
  let (point, scale) := range.scaled decimal
  if range.closed then range.low * scale ≤ point && point ≤ range.high * scale
  else range.low * scale < point && point < range.high * scale

def distance (range : Range) (decimal : Decimal) : Nat :=
  let (point, scale) := range.scaled decimal
  (point - range.value * scale) + (range.value * scale - point)

/-- The value's neighbours on the grid of decimals with the given exponent. -/
def neighbours (range : Range) (exponent : Int) : Decimal × Decimal :=
  let below :=
    if 0 ≤ exponent then range.value / (range.denominator * Nat.pow 10 exponent.toNat)
    else range.value * Nat.pow 10 (-exponent).toNat / range.denominator
  (⟨below, exponent⟩, ⟨below + 1, exponent⟩)

/-- The nearer neighbour in the range, if there is one; of two equally near the even one. -/
def hit? (range : Range) (exponent : Int) : Option Decimal :=
  let (below, above) := range.neighbours exponent
  match range.contains below, range.contains above with
  | false, false => none
  | true, false => some below
  | false, true => some above
  | true, true =>
      if range.distance below < range.distance above then some below
      else if range.distance above < range.distance below then some above
      else if below.digits % 2 = 0 then some below
      else some above

/-- Tries the grids from the exponent given downward. -/
def search (range : Range) : Nat → Int → Option Decimal
  | 0, _ => none
  | tries + 1, exponent =>
      match range.hit? exponent with
      | some decimal => some decimal
      | none => range.search tries (exponent - 1)

end Range

def ofFinite? (significand : Nat) (exponent : Int) : Option Decimal :=
  let range := Range.of significand exponent
  range.search 17 (decimalOrder range.value range.denominator)

end Shortest

/-- How the number is written: which positions of the point are written out, and how many digits an
exponent has at least. -/
structure DecimalStyle where
  leastPoint : Int
  greatestPoint : Int
  exponentDigits : Nat

namespace DecimalStyle

def padded (width : Nat) (number : Nat) : List Char :=
  let digits := Nat.toDigits 10 number
  List.replicate (width - digits.length) '0' ++ digits

/-- `0.d1d2... * 10 ^ point` on paper. A number written out keeps a digit after the point. -/
def write (style : DecimalStyle) (digits : List Char) (point : Int) : List Char :=
  if style.leastPoint ≤ point ∧ point ≤ style.greatestPoint then
    if point ≤ 0 then '0' :: '.' :: (List.replicate (-point).toNat '0' ++ digits)
    else
      let whole := digits.take point.toNat
      let rest := digits.drop point.toNat
      whole ++ List.replicate (point.toNat - digits.length) '0' ++
        '.' :: (if rest.isEmpty then ['0'] else rest)
  else
    let fraction := digits.drop 1
    digits.take 1 ++ (if fraction.isEmpty then [] else '.' :: fraction) ++
      'e' :: (if point - 1 < 0 then '-' else '+') ::
        padded style.exponentDigits (point - 1).natAbs

end DecimalStyle

namespace Binary64

/-- Numbers from a ten-thousandth to below ten to the sixteenth are written out. -/
def style : DecimalStyle := ⟨-3, 16, 2⟩

def trimZeros (digits : List Char) : List Char :=
  (digits.reverse.dropWhile (· == '0')).reverse

/-- The shortest text that reads back as the value. -/
def toText (value : Binary64) : String :=
  match value.decode with
  | .notNumber => "nan"
  | .infinite negative => if negative then "-inf" else "inf"
  | .finite negative significand exponent =>
      let body :=
        if significand = 0 then ['0', '.', '0']
        else
          match Shortest.ofFinite? significand exponent with
          | none => []
          | some decimal =>
              let digits := Nat.toDigits 10 decimal.digits
              style.write (trimZeros digits) (digits.length + decimal.exponent)
      String.ofList (if negative then '-' :: body else body)

end Binary64

end ShardFleet
