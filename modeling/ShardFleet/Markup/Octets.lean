/-!
# Octets in base sixty-four

Four characters stand for three octets. Characters outside the alphabet are passed over; padding in
its place ends the text. `decode?` fails if the text ends within a group.
-/

namespace ShardFleet.Markup.Octets

/-- The six bits that a character stands for. -/
def sextet? (char : Char) : Option Nat :=
  if 'A' ≤ char ∧ char ≤ 'Z' then some (char.toNat - 'A'.toNat)
  else if 'a' ≤ char ∧ char ≤ 'z' then some (char.toNat - 'a'.toNat + 26)
  else if '0' ≤ char ∧ char ≤ '9' then some (char.toNat - '0'.toNat + 52)
  else if char = '+' then some 62
  else if char = '/' then some 63
  else none

/-- A group that is being read: how many of its characters were there, the bits that are left of
them, and the padding seen since. -/
structure Group where
  place : Nat := 0
  left : Nat := 0
  padding : Nat := 0

/-- The octet that a character completes, if it does, and the group with it. -/
def Group.add (group : Group) (bits : Nat) : Option UInt8 × Group :=
  match group.place with
  | 0 => (none, { place := 1, left := bits })
  | 1 => (some (UInt8.ofNat (group.left * 4 + bits / 16)), { place := 2, left := bits % 16 })
  | 2 => (some (UInt8.ofNat (group.left * 16 + bits / 4)), { place := 3, left := bits % 4 })
  | _ => (some (UInt8.ofNat (group.left * 64 + bits)), {})

def decodeFrom : Group → List Char → Option (List UInt8)
  | group, [] => if group.place = 0 then some [] else none
  | group, char :: rest =>
      if char = '=' then
        if group.place < 2 then decodeFrom group rest
        else if 4 ≤ group.place + group.padding + 1 then some []
        else decodeFrom { group with padding := group.padding + 1 } rest
      else
        match sextet? char with
        | none => decodeFrom group rest
        | some bits =>
            let (octet, group) := group.add bits
            (decodeFrom group rest).map (octet.toList ++ ·)

/-- The octets that a text of plain characters stands for. -/
def decode? (text : List Char) : Option (List UInt8) :=
  if text.all fun char => char.toNat < 128 then decodeFrom {} text else none

end ShardFleet.Markup.Octets
