/-!
# Integers in decimal

An integer is written with the fewest decimal digits, after a minus sign if it is negative.
-/

namespace ShardFleet.Text

def decimalDigits (value : Nat) : List Char := Nat.toDigits 10 value

def decimalChars (value : Int) : List Char :=
  if value < 0 then '-' :: decimalDigits value.natAbs else decimalDigits value.natAbs

def decimal (value : Int) : String := String.ofList (decimalChars value)

end ShardFleet.Text
