import ShardFleet.Numeric.Arithmetic
import ShardFleet.Session.Basic

/-!
# Polling until a condition holds

`awaitCondition` evaluates a condition at once and then after every sleep, until it holds or a
reading of the clock has reached the deadline. A sleep lasts for the interval, or for the time that
remains if that is less. The condition, the sleep and the clock are computations over any state, and
time is measured in any type of `Seconds`: doubles when it runs, exact rationals where its bounds
are studied. At most `limit` evaluations are made; a wait that is still undecided then is abandoned.
-/

namespace ShardFleet

/-- Durations and clock readings, in seconds. -/
class Seconds (τ : Type) extends Add τ, Sub τ where
  /-- A number of milliseconds, as a duration. -/
  ofMilliseconds : Value → Except Failure τ
  /-- The whole milliseconds of a duration, toward zero. -/
  toMilliseconds : τ → Except Failure Int
  isBelow : τ → τ → Bool
  /-- Whether nothing is left of a duration. -/
  isSpent : τ → Bool

/-- How long to wait and how often to look, both in milliseconds and as configured. -/
structure PollPolicy where
  interval : Value := .int 1000
  timeout : Value := .int 30000

/-- What a wait needs of its surroundings. -/
structure Surroundings (σ τ : Type) where
  readClock : EStateM Failure σ τ
  sleep : τ → EStateM Failure σ Unit
  log : LogLevel → String → List (String × Value) → EStateM Failure σ Unit

namespace Polling

variable {σ τ : Type} [Seconds τ]

/-- The shorter of two durations; the first one if neither is below the other. -/
def shorter (first second : τ) : τ :=
  if Seconds.isBelow second first then second else first

/-- The whole milliseconds since a reading. -/
def elapsedSince (surroundings : Surroundings σ τ) (start : τ) : EStateM Failure σ Int := do
  let now ← surroundings.readClock
  conclude (Seconds.toMilliseconds (now - start))

def report (description : Value) (attempts : Nat) (elapsed : Int) : List (String × Value) :=
  [("description", description), ("attempts", .int attempts), ("elapsed_ms", .int elapsed)]

/-- Evaluations from the given number on; `limit` more are allowed. -/
def poll (surroundings : Surroundings σ τ) (condition : EStateM Failure σ Bool)
    (description : Value) (start deadline interval : τ) : Nat → Nat → EStateM Failure σ Nat
  | 0, _ => throw .abandoned
  | limit + 1, attempts => do
      if ← condition then
        let elapsed ← elapsedSince surroundings start
        surroundings.log .debug "Converged" (report description attempts elapsed)
        return attempts
      else
        let now ← surroundings.readClock
        let remaining := deadline - now
        if Seconds.isSpent remaining then
          let elapsed ← elapsedSince surroundings start
          surroundings.log .error "Convergence timed out" (report description attempts elapsed)
          throw (.membershipTimeout description elapsed none)
        else
          surroundings.sleep (shorter interval remaining)
          poll surroundings condition description start deadline interval limit (attempts + 1)

/-- Waits until the condition holds; gives the number of evaluations that it took. -/
def awaitCondition (surroundings : Surroundings σ τ) (limit : Nat)
    (condition : EStateM Failure σ Bool) (description : Value) (policy : PollPolicy) :
    EStateM Failure σ Nat := do
  let start ← surroundings.readClock
  let timeout ← conclude (Seconds.ofMilliseconds policy.timeout)
  let interval ← conclude (Seconds.ofMilliseconds policy.interval)
  poll surroundings condition description start (start + timeout) interval limit 1

end Polling

/-! ## Doubles as seconds -/

namespace Binary64

/-- A number as a double. -/
def ofValue? : Value → Except Failure Binary64
  | .bool flag => .ok (ofInt flag.toNat)
  | .int number =>
      let nearest := ofInt number
      if nearest.isFinite then .ok nearest else .error .outOfRange
  | .float number => .ok number
  | _ => .error .wrongKind

/-- The whole part of a double, as an outcome. -/
def toWhole (value : Binary64) : Except Failure Int :=
  match value.decode with
  | .notNumber => .error .undefinedElapsed
  | .infinite _ => .error .outOfRange
  | .finite .. =>
      match value.truncate? with
      | some whole => .ok whole
      | none => .error .outOfRange

end Binary64

instance : Seconds Binary64 where
  ofMilliseconds value := (Binary64.ofValue? value).map (· / .ofInt 1000)
  toMilliseconds duration := (duration * .ofInt 1000).toWhole
  isBelow := Binary64.isBelow
  isSpent duration := duration.leInt 0

/-! ## Rationals as seconds -/

namespace Polling

/-- The exact number that a value is. -/
def rationalOf : Value → Except Failure Rat
  | .bool flag => .ok (flag.toNat : Rat)
  | .int number => .ok (number : Rat)
  | .float number =>
      match number.decode with
      | .finite negative significand exponent =>
          .ok (mkRat (Binary64.signed negative (significand * Nat.pow 2 exponent.toNat))
            (Nat.pow 2 (-exponent).toNat))
      | .infinite _ => .error .outOfRange
      | .notNumber => .error .undefinedElapsed
  | _ => .error .wrongKind

/-- The whole part of a rational, toward zero. -/
def wholePart (number : Rat) : Int := number.num.tdiv number.den

end Polling

instance : Seconds Rat where
  ofMilliseconds value := (Polling.rationalOf value).map (· / 1000)
  toMilliseconds duration := .ok (Polling.wholePart (duration * 1000))
  isBelow first second := decide (first < second)
  isSpent duration := decide (duration ≤ 0)

/-- A session's clock, sleep and log. -/
def Surroundings.ofSession {ω : Type} [Outside ω] : Surroundings (Session ω) Binary64 where
  readClock := Action.readClock
  sleep seconds := Action.perform (.sleep seconds)
  log := Action.log

end ShardFleet
