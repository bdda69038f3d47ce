import ShardFleet.Value.Basic

/-!
# The order of numbers in a set

A set keeps its members in slots and shows them slot by slot. Where a number goes is decided by its
code, its remainder by a prime with its sign: equal numbers of every kind have one code. A number
whose slot is taken goes to one of the nine behind it, and else on to a slot further off that its
code leads to. The number of slots is more than twice the number of members, so a free one is found.
-/

namespace ShardFleet

namespace Slots

/-- The prime that codes are remainders by. -/
def prime : Nat := Nat.pow 2 61 - 1

/-- The remainder of `significand * 2 ^ exponent`. The sixty-first power of two leaves one. -/
def remainder (significand : Nat) (exponent : Int) : Nat :=
  significand * Nat.pow 2 (exponent.emod 61).toNat % prime

/-- The code of an infinite number. -/
def infinityCode : Nat := 314159

/-- A code with its sign, as a word of 64 bits. Minus one is no code. -/
def signedCode (negative : Bool) (code : Nat) : Nat :=
  if !negative then code
  else if code = 0 then 0
  else Nat.pow 2 64 - (if code = 1 then 2 else code)

/-- The code of a key that is a number. -/
def codeOf? (key : Key) : Option Nat :=
  match key.identity with
  | .int value => some (signedCode (decide (value < 0)) (remainder value.natAbs 0))
  | .float value =>
      match value.decode with
      | .finite negative significand exponent =>
          some (signedCode negative (remainder significand exponent))
      | .infinite negative => some (signedCode negative infinityCode)
      | .notNumber => none
  | _ => none

/-- How many slots there are for a number of members: eight for up to four, and for more of them the
least power of two above twice their number. -/
def count (members : Nat) : Nat :=
  if members ≤ 4 then 8 else Nat.pow 2 (Nat.log2 (2 * members) + 1)

/-- How many slots behind a taken one are tried, if there are as many. -/
def reach : Nat := 9

/-- The first free slot from a place on; `rest` is what the code still adds to the way. -/
def free (slots : Array (Option Key)) : Nat → Nat → Nat → Nat
  | 0, place, _ => place
  | fuel + 1, place, rest =>
      let near := if place + reach < slots.size then reach else 0
      match (List.range (near + 1)).find? fun step => (slots.getD (place + step) none).isNone with
      | some step => place + step
      | none =>
          let rest := rest / 32
          free slots fuel ((place * 5 + 1 + rest) % slots.size) rest

/-- The slots with one more member. -/
def add (slots : Array (Option Key)) (member : Key × Nat) : Array (Option Key) :=
  let (key, code) := member
  slots.setIfInBounds (free slots (2 * slots.size + 16) (code % slots.size) code) (some key)

end Slots

/-- The members of a set in the order in which they are shown, if they are numbers; a set with other
members is shown as it was given. -/
def Key.inSlotOrder (members : List Key) : List Key :=
  match members.mapM fun key => (Slots.codeOf? key).map (key, ·) with
  | none => members
  | some coded =>
      (coded.foldl Slots.add (Array.replicate (Slots.count members.length) none)).toList.filterMap id

end ShardFleet
