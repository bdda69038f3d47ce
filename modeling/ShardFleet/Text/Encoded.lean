import ShardFleet.Text.Surrogate

/-!
# Encoded texts

A text is stored as octets, in UTF-8. A half of a pair has no octets, so a text with one in it
cannot be stored. Names are stored likewise, but some halves in a name stand for one octet each that
need not be part of a character; read back, such octets are a character where they make one up.
`stored?` and `storedName?` say what is read back of a text and of a name.
-/

namespace ShardFleet.Text

/-- Whether a code point is a half that stands for an octet in a name. -/
def standsForOctet (code : Nat) : Bool := 0xdc80 ≤ code && code < 0xdd00

/-- Halves in a row that have no octets: the first of them, its position, and where they end. -/
structure HalfRun where
  first : Nat
  start : Nat
  stop : Nat
deriving DecidableEq, Repr

/-- The first halves among code points that have no octets. Positions are counted from the one
given; in a name some halves have octets. -/
def loneHalves? (inName : Bool) : Nat → List Nat → Option HalfRun
  | _, [] => none
  | position, code :: rest =>
      if isSurrogate code && !(inName && standsForOctet code) then
        some ⟨code, position, position + 1 + (rest.takeWhile isSurrogate).length⟩
      else loneHalves? inName (position + 1) rest

/-- The characters that a text is read back as; those halves that keep it from being
stored, if there are any. -/
def stored? (text : String) : Except HalfRun (List Char) :=
  match loneHalves? false 0 (codePoints text.toList) with
  | some halves => .error halves
  | none => .ok ((codePoints text.toList).map Char.ofNat)

/-- The octets of a code point in a name. -/
def octetsOf (code : Nat) : List UInt8 :=
  if standsForOctet code then [UInt8.ofNat (code - 0xdc00)]
  else String.utf8EncodeChar (Char.ofNat code)

/-- The octets that a name is stored as. -/
def nameOctets (name : String) : List UInt8 := (codePoints name.toList).flatMap octetsOf

/-- The character that octets begin with, if they begin with one. -/
def leadingChar? (octets : List UInt8) : Option Char :=
  (ByteArray.mk (octets.take 4).toArray).utf8DecodeChar? 0

/-- The code points that octets are read back as. An octet that is part of no
character gives a half. -/
def codesOfOctets : List UInt8 → List Nat
  | [] => []
  | octet :: rest =>
      match leadingChar? (octet :: rest) with
      | some char => char.toNat :: codesOfOctets (rest.drop (char.utf8Size - 1))
      | none => (0xdc00 + octet.toNat) :: codesOfOctets rest
termination_by octets => octets.length
decreasing_by all_goals simp only [List.length_cons, List.length_drop]; omega

/-- The name that a name is read back as; those halves that keep it from being stored, if there are
any. -/
def storedName? (name : String) : Except HalfRun String :=
  match loneHalves? true 0 (codePoints name.toList) with
  | some halves => .error halves
  | none => .ok (String.ofList ((codesOfOctets (nameOctets name)).flatMap charsOf))

end ShardFleet.Text
