import ShardFleet.Numeric.Binary64
import ShardFleet.Text.Surrogate

/-!
# Escaped code units

A quoted text can give a code unit by a backslash, the letter u and four hexadecimal digits. Two
units that are a pair give one code point. `withHalves` puts the stand-in of a half where a unit is
a half of no pair, and the mark in front of the characters that need it, so that the text can be
read by a reader that knows characters only.
-/

namespace ShardFleet.Text

/-- The code that the first four characters give, or zero if they do not give one. -/
def unitCode (chars : List Char) : Nat :=
  ((chars.take 4).mapM Binary64.hexDigit?).elim 0 fun digits =>
    digits.foldl (fun code digit => code * 16 + digit) 0

/-- The code of the escaped unit that stands at the start, or zero if there is none. -/
def unitAhead : List Char → Nat
  | '\\' :: 'u' :: rest => unitCode rest
  | _ => 0

/-- The code point of a pair of halves. -/
def joinedHalves (first second : Nat) : Nat :=
  0x10000 + (first - 0xd800) * 1024 + (second - 0xdc00)

/-- A written text with every half that stands alone, and every character that needs it,
as it stands in a text. -/
def withHalves : List Char → List Char
  | '\\' :: 'u' :: rest =>
      let first := unitCode rest
      let second := unitAhead (rest.drop 4)
      if !isSurrogate first then '\\' :: 'u' :: withHalves rest
      else if first < 0xdc00 && 0xdc00 ≤ second && second < 0xe000 then
        charsOf (joinedHalves first second) ++ withHalves (rest.drop 10)
      else charsOf first ++ withHalves (rest.drop 4)
  | '\\' :: char :: rest => '\\' :: char :: withHalves rest
  | char :: rest => charsOf char.toNat ++ withHalves rest
  | [] => []
termination_by chars => chars.length
decreasing_by all_goals simp only [List.length_cons, List.length_drop]; omega

end ShardFleet.Text
