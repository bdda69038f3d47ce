/-!
# Doubles by their bits

A double is kept as its 64-bit word: sign, eleven exponent bits, 52 fraction bits. The number that
a word denotes is read off by `decode`, and `ofRatio` goes the other way: it gives the word nearest
to an exact quotient, with ties to the even significand. Both use whole numbers only, so nothing
here depends on what the processor does with a `Float`.
-/

namespace ShardFleet

/-- A double, given by its word. Two words are different values even where
they denote one number. -/
structure Binary64 where
  bits : UInt64
deriving DecidableEq, Repr, Inhabited

namespace Binary64

/-- What a word denotes. A finite value is `significand * 2 ^ exponent` with its sign. -/
inductive Reading where
  | notNumber
  | infinite (negative : Bool)
  | finite (negative : Bool) (significand : Nat) (exponent : Int)
deriving DecidableEq, Repr

def fractionSize : Nat := Nat.pow 2 52

/-- The number of a word; the exponent of subnormal values is that of the smallest normal one. -/
def decode (value : Binary64) : Reading :=
  let word := value.bits.toNat
  let negative := decide (Nat.pow 2 63 ≤ word)
  let field := word / fractionSize % 2048
  let fraction := word % fractionSize
  if field = 2047 then
    if fraction = 0 then .infinite negative else .notNumber
  else if field = 0 then .finite negative fraction (-1074)
  else .finite negative (fractionSize + fraction) (field - 1075)

/-- The word of a sign and the 63 bits below it. -/
def ofMagnitude (negative : Bool) (magnitude : Nat) : Binary64 :=
  ⟨UInt64.ofNat (if negative then Nat.pow 2 63 + magnitude else magnitude)⟩

def infinityMagnitude : Nat := 2047 * fractionSize

def infinity (negative : Bool) : Binary64 := ofMagnitude negative infinityMagnitude

/-- The undefined number of the sign given that stops nothing when it is used. -/
def quiet (negative : Bool) : Binary64 := ofMagnitude negative (infinityMagnitude + Nat.pow 2 51)

/-- The word that an invalid operation gives. -/
def invalid : Binary64 := quiet true

/-- `numerator / denominator` as `significand * 2 ^ exponent`, rounded to the nearest significand,
a half to the even one. -/
def roundAt (numerator denominator : Nat) (exponent : Int) : Nat :=
  let scaledNumerator := if 0 ≤ exponent then numerator else numerator * Nat.pow 2 (-exponent).toNat
  let scaledDenominator := if 0 ≤ exponent then denominator * Nat.pow 2 exponent.toNat else denominator
  let quotient := scaledNumerator / scaledDenominator
  let remainder := scaledNumerator % scaledDenominator
  if scaledDenominator < 2 * remainder then quotient + 1
  else if 2 * remainder = scaledDenominator then quotient + quotient % 2
  else quotient

/-- The largest `e` with `2 ^ e` at most `numerator / denominator`, both positive. -/
def binaryOrder (numerator denominator : Nat) : Int :=
  let estimate : Int := (numerator.log2 : Int) - denominator.log2
  let reached :=
    if 0 ≤ estimate then denominator * Nat.pow 2 estimate.toNat ≤ numerator
    else denominator ≤ numerator * Nat.pow 2 (-estimate).toNat
  if reached then estimate else estimate - 1

/-- The word nearest to `numerator / denominator`. A significand that rounds up to the next power
of two carries into the exponent field, and a quotient past the largest finite word is infinite. -/
def ofRatio (negative : Bool) (numerator denominator : Nat) : Binary64 :=
  if numerator = 0 then ofMagnitude negative 0
  else
    let exponent := max (binaryOrder numerator denominator - 52) (-1074)
    let significand := roundAt numerator denominator exponent
    let magnitude :=
      if significand < fractionSize then significand
      else (exponent + 1075).toNat * fractionSize + (significand - fractionSize)
    ofMagnitude negative (min magnitude infinityMagnitude)

def ofInt (value : Int) : Binary64 :=
  ofRatio (decide (value < 0)) value.natAbs 1

/-- `digits * 10 ^ exponent`. -/
def ofDecimal (negative : Bool) (digits : Nat) (exponent : Int) : Binary64 :=
  if 0 ≤ exponent then ofRatio negative (digits * Nat.pow 10 exponent.toNat) 1
  else ofRatio negative digits (Nat.pow 10 (-exponent).toNat)

def isFinite (value : Binary64) : Bool :=
  match value.decode with
  | .finite .. => true
  | _ => false

/-- Whether the word denotes no number. -/
def isUndefined (value : Binary64) : Bool :=
  match value.decode with
  | .notNumber => true
  | _ => false

def isZero (value : Binary64) : Bool :=
  match value.decode with
  | .finite _ significand _ => significand == 0
  | _ => false

def signed (negative : Bool) (magnitude : Nat) : Int :=
  if negative then -(magnitude : Int) else magnitude

/-- The whole part of a finite value, toward zero. -/
def truncate? (value : Binary64) : Option Int :=
  match value.decode with
  | .finite negative significand exponent =>
      some (signed negative
        (if 0 ≤ exponent then significand * Nat.pow 2 exponent.toNat
          else significand / Nat.pow 2 (-exponent).toNat))
  | _ => none

/-- The integer that a value is, if it is one. -/
def toInt? (value : Binary64) : Option Int :=
  match value.decode with
  | .finite negative significand exponent =>
      if 0 ≤ exponent then some (signed negative (significand * Nat.pow 2 exponent.toNat))
      else if significand % Nat.pow 2 (-exponent).toNat = 0 then
        some (signed negative (significand / Nat.pow 2 (-exponent).toNat))
      else none
  | _ => none

/-- Whether the value is below an integer; an undefined value is not. -/
def ltInt (value : Binary64) (bound : Int) : Bool :=
  match value.decode with
  | .notNumber => false
  | .infinite negative => negative
  | .finite negative significand exponent =>
      if 0 ≤ exponent then decide (signed negative (significand * Nat.pow 2 exponent.toNat) < bound)
      else decide (signed negative significand < bound * Nat.pow 2 (-exponent).toNat)

/-- Whether the value is at most an integer; an undefined value is not. -/
def leInt (value : Binary64) (bound : Int) : Bool :=
  value.ltInt bound || value.toInt? == some bound

def toFloat (value : Binary64) : Float := Float.ofBits value.bits

def ofFloat (value : Float) : Binary64 := ⟨value.toBits⟩

/-- Sixteen hexadecimal digits, the sign first. -/
def toHex (value : Binary64) : String :=
  let digits := Nat.toDigits 16 value.bits.toNat
  String.ofList (List.replicate (16 - digits.length) '0' ++ digits)

def hexDigit? (char : Char) : Option Nat :=
  if '0' ≤ char ∧ char ≤ '9' then some (char.toNat - '0'.toNat)
  else if 'a' ≤ char ∧ char ≤ 'f' then some (char.toNat - 'a'.toNat + 10)
  else if 'A' ≤ char ∧ char ≤ 'F' then some (char.toNat - 'A'.toNat + 10)
  else none

def ofHex? (text : String) : Option Binary64 := do
  let digits ← text.toList.mapM hexDigit?
  return ⟨UInt64.ofNat (digits.foldl (fun word digit => word * 16 + digit) 0)⟩

end Binary64

end ShardFleet
