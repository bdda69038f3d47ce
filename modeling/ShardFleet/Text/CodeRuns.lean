/-!
# Runs of code points

A set of code points is given by its boundaries in increasing order: where a run of members begins,
where it has ended, where the next one begins, and so on.
-/

namespace ShardFleet.Text

/-- Whether a code point is a member; `inside` says whether it would be
one with no boundary left. -/
def insideRuns (code : Nat) : List Nat → Bool → Bool
  | [], inside => inside
  | boundary :: rest, inside => if code < boundary then inside else insideRuns code rest !inside

@[simp] theorem insideRuns_nil (code : Nat) (inside : Bool) :
    insideRuns code [] inside = inside := rfl

theorem insideRuns_of_lt {code boundary : Nat} (below : code < boundary) (rest : List Nat)
    (inside : Bool) : insideRuns code (boundary :: rest) inside = inside := by
  simp [insideRuns, below]

/-- A single run holds what lies from its beginning up to its end. -/
theorem insideRuns_pair (code first last : Nat) :
    insideRuns code [first, last] false = (decide (first ≤ code) && decide (code < last)) := by
  by_cases begun : code < first
  · simp [insideRuns, begun, Nat.not_le.mpr begun]
  · by_cases ended : code < last
    · simp [insideRuns, begun, ended, Nat.not_lt.mp begun]
    · simp [insideRuns, begun, ended]

end ShardFleet.Text
