import ShardFleet.Markup.Tag
import ShardFleet.Numeric.Arithmetic
import ShardFleet.Text.Lowercase

/-!
# Numbers that scalars denote

A scalar with the tag of a number need not have the form of one: what counts is that it can be read,
part by part. Underscores are left out first. A number in base sixty has its parts between colons.
-/

namespace ShardFleet.Markup.Numeral

/-- An integer in a base, as a part of a scalar. -/
def part (base : Nat) (chars : List Char) : Except Failure Int :=
  match Text.readInteger base chars with
  | .ok number => .ok number
  | .error .malformed => .error (.badNumeral base (String.ofList chars))
  | .error (.tooManyDigits count) => .error (.tooManyDigits count)

/-- The number that parts in base sixty make up. -/
def ofSixtieths (parts : List Int) : Int := parts.foldl (fun number digit => number * 60 + digit) 0

/-- An integer without the sign in front, which there has to be something of. -/
def unsignedInt (body : List Char) : Except Failure Int :=
  match body with
  | [] => .error .noSuchPosition
  | ['0'] => .ok 0
  | '0' :: 'b' :: rest => part 2 rest
  | '0' :: 'x' :: rest => part 16 rest
  | '0' :: _ => part 8 body
  | _ =>
      if body.contains ':' then ((Form.splitColons body).mapM (part 10)).map ofSixtieths
      else part 10 body

def withoutUnderscores (text : String) : List Char := text.toList.filter (· != '_')

def toInt (text : String) : Except Failure Int :=
  let chars := withoutUnderscores text
  (unsignedInt (Text.withoutSign chars)).map fun number =>
    if Text.isMinus chars then -number else number

/-- A double as a part of a scalar. -/
def doublePart (chars : List Char) : Except Failure Binary64 :=
  match Text.readDouble? chars with
  | some number => .ok number
  | none => .error (.badDecimal (String.ofList chars))

/-- The sum of the parts, the last one first, each times its power of sixty. -/
def addSixtieths : Binary64 → Int → List Binary64 → Except Failure Binary64
  | total, _, [] => .ok total
  | total, power, digit :: rest =>
      let weight := Binary64.ofInt power
      if weight.isFinite then addSixtieths (total + digit * weight) (power * 60) rest
      else .error .outOfRange

/-- Whether a scalar is the undefined number in its common form, which stands for one and the same
number wherever it is written. -/
def isCommonUndefined (text : String) : Bool :=
  Text.withoutSign (Text.lowered (withoutUnderscores text)) == ".nan".toList

def toFloat (text : String) : Except Failure Binary64 := do
  let chars := Text.lowered (withoutUnderscores text)
  let body := Text.withoutSign chars
  let sign := Binary64.ofInt (if Text.isMinus chars then -1 else 1)
  if chars.isEmpty then throw .noSuchPosition
  else if body = ".inf".toList then return sign * Binary64.infinity false
  else if body = ".nan".toList then return Binary64.invalid
  else if body.contains ':' then
    let parts ← (Form.splitColons body).mapM doublePart
    return sign * (← addSixtieths Binary64.zero 1 parts.reverse)
  else return sign * (← doublePart body)

end ShardFleet.Markup.Numeral
