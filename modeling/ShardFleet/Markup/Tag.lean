import ShardFleet.Markup.Timestamp
import ShardFleet.Text.Real

/-!
# Tags

The tag of a node says what it stands for. A plain scalar has its tag by its form: truth values and
null are fixed words, integers may be decimal, binary, octal, hexadecimal or in base sixty, a number
with a point is a double, and days and times have forms of their own. Anything else is a text. A
line feed at the end of a scalar does not count towards its form.
-/

namespace ShardFleet.Markup

inductive Tag where
  | null
  | bool
  | int
  | float
  | octets
  | moment
  | text
  | sequence
  | mapping
  | set
  /-- A list of entries in their order. -/
  | entries
  /-- The key under which a mapping takes in other mappings. -/
  | merge
  /-- The key of a mapping's default value. -/
  | default
  | unknown
deriving DecidableEq, Repr

namespace Form

def allFrom (isOne : Char → Bool) (chars : List Char) : Bool :=
  !chars.isEmpty && chars.all fun char => isOne char || char == '_'

/-- A digit and then digits and underscores. -/
def isDigits : List Char → Bool
  | [] => false
  | first :: rest => first.isDigit && rest.all fun char => char.isDigit || char == '_'

/-- Digits that do not begin with zero. -/
def isWholeStart (chars : List Char) : Bool := isDigits chars && chars.head? != some '0'

/-- The parts between colons. -/
def splitColons : List Char → List (List Char)
  | [] => [[]]
  | char :: rest =>
      match splitColons rest with
      | [] => [[char]]
      | part :: parts => if char = ':' then [] :: part :: parts else (char :: part) :: parts

/-- A number below sixty, with one or two digits. -/
def isSixtieth : List Char → Bool
  | [digit] => digit.isDigit
  | [tens, digit] => '0' ≤ tens && tens ≤ '5' && digit.isDigit
  | _ => false

def isInt (chars : List Char) : Bool :=
  let body := Text.withoutSign chars
  match body with
  | '0' :: 'b' :: rest => allFrom (fun char => char == '0' || char == '1') rest
  | '0' :: 'x' :: rest => allFrom (fun char => (Binary64.hexDigit? char).isSome) rest
  | ['0'] => true
  | '0' :: rest => allFrom (fun char => '0' ≤ char && char ≤ '7') rest
  | _ =>
      isWholeStart body ||
        (match splitColons body with
          | first :: second :: more =>
              isWholeStart first && (second :: more).all isSixtieth
          | _ => false)

/-- An exponent has to have a sign. -/
def isExponent : List Char → Bool
  | [] => true
  | mark :: sign :: digits =>
      (mark == 'e' || mark == 'E') && (sign == '+' || sign == '-') && !digits.isEmpty &&
        digits.all Char.isDigit
  | _ => false

/-- The digits behind a point, and an exponent. -/
def isFraction (chars : List Char) : Bool :=
  isExponent (chars.dropWhile fun char => char.isDigit || char == '_')

def isSixtiethFraction (chars : List Char) : Bool :=
  match splitColons chars with
  | first :: second :: more =>
      let parts := second :: more
      let last := parts.getLast?.getD []
      isDigits first && parts.dropLast.all isSixtieth &&
        isSixtieth (last.takeWhile (· != '.')) &&
        (match last.dropWhile (· != '.') with
          | '.' :: rest => rest.all fun char => char.isDigit || char == '_'
          | _ => false)
  | _ => false

def isInfinity (chars : List Char) : Bool :=
  Text.withoutSign chars ∈ [".inf".toList, ".Inf".toList, ".INF".toList]

def isUndefined (chars : List Char) : Bool :=
  chars ∈ [".nan".toList, ".NaN".toList, ".NAN".toList]

def isFloat (chars : List Char) : Bool :=
  let body := Text.withoutSign chars
  let whole := body.takeWhile (· != '.')
  let fromPoint := body.dropWhile (· != '.')
  (isDigits whole && fromPoint.head? == some '.' && isFraction (fromPoint.drop 1)) ||
    (match chars with
      | '.' :: digit :: rest => digit.isDigit && isFraction rest
      | _ => false) ||
    isSixtiethFraction body || isInfinity chars || isUndefined chars

def nullWords : List (List Char) :=
  [[], "~".toList, "null".toList, "Null".toList, "NULL".toList]

/-- The words for a truth value in lower case. -/
def truthOf? (lower : List Char) : Option Bool :=
  if lower ∈ ["yes".toList, "true".toList, "on".toList] then some true
  else if lower ∈ ["no".toList, "false".toList, "off".toList] then some false
  else none

/-- A truth value is written in lower case, in capitals, or with one capital in front. -/
def isTruth (chars : List Char) : Bool :=
  let lower := chars.map Char.toLower
  let upper := chars.map Char.toUpper
  (truthOf? lower).isSome &&
    (chars == lower || chars == upper || chars == upper.take 1 ++ lower.drop 1)

/-- Signs that stand for nothing by themselves. -/
def loneSigns : List (List Char) := [['!'], ['&'], ['*']]

/-- A text without the line feed at its end, if there is something before it. -/
def withoutLastBreak (chars : List Char) : List Char :=
  if 1 < chars.length && chars.getLast? == some '\n' then chars.dropLast else chars

end Form

namespace Tag

def ofForm (text : List Char) : Tag :=
  let chars := Form.withoutLastBreak text
  if chars.head? = some '\n' then .text
  else if chars ∈ Form.nullWords then .null
  else if Form.isTruth chars then .bool
  else if Form.isFloat chars then .float
  else if Form.isInt chars then .int
  else if Timestamp.isTimestamp chars then .moment
  else if chars = ['<', '<'] then .merge
  else if chars = ['='] then .default
  else if chars ∈ Form.loneSigns then .unknown
  else .text

def standardSpace : String := "tag:yaml.org,2002:"

def standardNames : List (String × Tag) :=
  [("null", .null), ("bool", .bool), ("int", .int), ("float", .float), ("binary", .octets),
    ("timestamp", .moment), ("str", .text), ("seq", .sequence), ("map", .mapping), ("set", .set),
    ("omap", .entries), ("pairs", .entries), ("merge", .merge), ("value", .default)]

def ofName (name : String) : Tag :=
  match standardNames.find? fun (short, _) => name == standardSpace ++ short with
  | some (_, tag) => tag
  | none => .unknown

end Tag

end ShardFleet.Markup
