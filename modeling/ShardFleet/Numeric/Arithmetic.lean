import ShardFleet.Numeric.Binary64

/-!
# Arithmetic on doubles

The operations of the processor, with its rule for undefined numbers: the first operand that is
undefined is the result, made quiet, with its sign and fraction kept; an operation on numbers that
has no result gives `invalid`.
-/

namespace ShardFleet.Binary64

/-- An undefined number that stops nothing when it is used, with the same sign and fraction. -/
def quieted (value : Binary64) : Binary64 := ⟨value.bits ||| 0x0008000000000000⟩

/-- The result of an operation on two doubles. -/
def combine (operation : Float → Float → Float) (first second : Binary64) : Binary64 :=
  if first.isUndefined then first.quieted
  else if second.isUndefined then second.quieted
  else
    let result := operation first.toFloat second.toFloat
    if result.isNaN then invalid else ofFloat result

instance : Add Binary64 := ⟨combine (· + ·)⟩

instance : Sub Binary64 := ⟨combine (· - ·)⟩

instance : Mul Binary64 := ⟨combine (· * ·)⟩

instance : Div Binary64 := ⟨combine (· / ·)⟩

/-- Whether a double is below another one; an undefined one is not, and nothing is below it. -/
def isBelow (first second : Binary64) : Bool := first.toFloat < second.toFloat

def zero : Binary64 := ofInt 0

/-- An undefined first operand is the result of every operation. -/
theorem combine_of_isUndefined (operation : Float → Float → Float) {first : Binary64}
    (undefined : first.isUndefined = true) (second : Binary64) :
    combine operation first second = first.quieted := by
  simp [combine, undefined]

end ShardFleet.Binary64
