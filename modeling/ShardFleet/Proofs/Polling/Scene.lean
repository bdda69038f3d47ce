import Mathlib.Algebra.Order.Ring.Rat
import ShardFleet.Polling
import ShardFleet.Proofs.Session.Traces

/-!
# Waits, one round after another

A `Scene` is what a wait meets with: a condition, a clock and a sleep over states of any kind, of
which nothing is assumed. What happens is recorded as it happens. A wait is a number of rounds, in
which the condition does not hold and a sleep follows, and then a last evaluation, which ends it in
one of four ways. `Wait.Course` says this without a limit to the number of evaluations; with a limit
that is large enough, polling takes just this course, and with any other it is cut off.
-/

namespace ShardFleet

namespace Polling

/-- An evaluation of the condition, a reading of the clock or a sleep, with what came of it. -/
inductive Moment where
  | evaluated (answer : Except Failure Bool)
  | read (reading : Rat)
  | slept (length : Rat) (answer : Except Failure Unit)

namespace Moment

def evaluation? : Moment → Option (Except Failure Bool)
  | .evaluated answer => some answer
  | _ => none

def sleep? : Moment → Option Rat
  | .slept length _ => some length
  | _ => none

/-- What the condition or a sleep has failed with. -/
def failure? : Moment → Option Failure
  | .evaluated (.error failure) => some failure
  | .slept _ (.error failure) => some failure
  | _ => none

end Moment

/-- What the evaluations among the moments have answered. -/
def evaluations (moments : List Moment) : List (Except Failure Bool) :=
  moments.filterMap Moment.evaluation?

/-- How long the sleeps among the moments were to be. -/
def sleeps (moments : List Moment) : List Rat := moments.filterMap Moment.sleep?

@[simp]
theorem evaluations_append (first second : List Moment) :
    evaluations (first ++ second) = evaluations first ++ evaluations second :=
  List.filterMap_append

@[simp]
theorem sleeps_append (first second : List Moment) :
    sleeps (first ++ second) = sleeps first ++ sleeps second :=
  List.filterMap_append

/-- A state, with the moments so far, oldest first. -/
structure Record (σ : Type) where
  state : σ
  moments : List Moment := []

variable {σ : Type}

structure Scene (σ : Type) where
  condition : σ → Except Failure Bool × σ
  clock : σ → Rat × σ
  sleep : Rat → σ → Except Failure Unit × σ
  log : LogLevel → String → List (String × Value) → σ → σ

namespace Scene

variable (scene : Scene σ)

def evaluate : EStateM Failure (Record σ) Bool := fun record =>
  match scene.condition record.state with
  | (answer, state) => conclude answer ⟨state, record.moments ++ [.evaluated answer]⟩

def surroundings : Surroundings (Record σ) Rat where
  readClock record :=
    match scene.clock record.state with
    | (reading, state) => .ok reading ⟨state, record.moments ++ [.read reading]⟩
  sleep length record :=
    match scene.sleep length record.state with
    | (answer, state) => conclude answer ⟨state, record.moments ++ [.slept length answer]⟩
  log level event context record :=
    .ok () { record with state := scene.log level event context record.state }

end Scene

/-- A wait under way: what it is for, the first reading of the clock, the reading at which it is
over, and how long it sleeps. -/
structure Wait where
  description : Value
  start : Rat
  deadline : Rat
  interval : Rat

namespace Wait

variable (wait : Wait) (scene : Scene σ)

def poll (limit attempts : Nat) : EStateM Failure (Record σ) Nat :=
  Polling.poll scene.surroundings scene.evaluate wait.description wait.start wait.deadline
    wait.interval limit attempts

/-- How long to sleep after a reading. -/
def pause (reading : Rat) : Rat := min wait.interval (wait.deadline - reading)

/-- The failure of a wait of which the last reading is given. -/
def timeout (last : Rat) : Failure :=
  .membershipTimeout wait.description (wholePart ((last - wait.start) * 1000)) none

/-- A round that does not end the wait: the condition does not hold, the deadline has not come, and
a sleep follows. -/
inductive Round (state : σ) (reading : Rat) (awake : σ) : Prop where
  | intro {seen looked : σ} (evaluation : scene.condition state = (.ok false, seen))
      (look : scene.clock seen = (reading, looked)) (early : reading < wait.deadline)
      (sleep : scene.sleep (wait.pause reading) looked = (.ok (), awake))

def round (reading : Rat) : List Moment :=
  [.evaluated (.ok false), .read reading, .slept (wait.pause reading) (.ok ())]

/-- The last evaluation, and how the wait ends with it. -/
inductive Ending (attempts : Nat) (state : σ) : List Moment → Except Failure Nat → Prop where
  | held {seen looked : σ} {reading : Rat} (evaluation : scene.condition state = (.ok true, seen))
      (look : scene.clock seen = (reading, looked)) :
      Ending attempts state [.evaluated (.ok true), .read reading] (.ok attempts)
  | failed {seen : σ} {failure : Failure}
      (evaluation : scene.condition state = (.error failure, seen)) :
      Ending attempts state [.evaluated (.error failure)] (.error failure)
  | expired {seen looked final : σ} {reading last : Rat}
      (evaluation : scene.condition state = (.ok false, seen))
      (look : scene.clock seen = (reading, looked)) (late : wait.deadline ≤ reading)
      (again : scene.clock looked = (last, final)) :
      Ending attempts state [.evaluated (.ok false), .read reading, .read last]
        (.error (wait.timeout last))
  | unslept {seen looked final : σ} {reading : Rat} {failure : Failure}
      (evaluation : scene.condition state = (.ok false, seen))
      (look : scene.clock seen = (reading, looked)) (early : reading < wait.deadline)
      (sleep : scene.sleep (wait.pause reading) looked = (.error failure, final)) :
      Ending attempts state
        [.evaluated (.ok false), .read reading, .slept (wait.pause reading) (.error failure)]
        (.error failure)

/-- A wait that ends: rounds, and the last evaluation. -/
inductive Course : Nat → σ → List Moment → Except Failure Nat → Prop where
  | ends {attempts : Nat} {state : σ} {moments : List Moment} {result : Except Failure Nat}
      (ending : wait.Ending scene attempts state moments result) :
      Course attempts state moments result
  | onward {attempts : Nat} {state awake : σ} {reading : Rat} {moments : List Moment}
      {result : Except Failure Nat} (round : wait.Round scene state reading awake)
      (more : Course (attempts + 1) awake moments result) :
      Course attempts state (wait.round reading ++ moments) result

/-- So many rounds, none of which ends the wait. -/
inductive Undecided : Nat → σ → List Moment → Prop where
  | none {state : σ} : Undecided 0 state []
  | onward {rounds : Nat} {state awake : σ} {reading : Rat} {moments : List Moment}
      (round : wait.Round scene state reading awake) (more : Undecided rounds awake moments) :
      Undecided (rounds + 1) state (wait.round reading ++ moments)

variable {wait scene}

/-! ## One evaluation -/

theorem ends_or_onward (attempts : Nat) (state : σ) :
    (∃ moments result, wait.Ending scene attempts state moments result) ∨
      ∃ reading awake, wait.Round scene state reading awake := by
  rcases evaluation : scene.condition state with ⟨failure | holds, seen⟩
  · exact Or.inl ⟨_, _, .failed evaluation⟩
  · rcases look : scene.clock seen with ⟨reading, looked⟩
    cases holds with
    | true => exact Or.inl ⟨_, _, .held evaluation look⟩
    | false =>
        rcases lt_or_ge reading wait.deadline with early | late
        · rcases sleep : scene.sleep (wait.pause reading) looked with ⟨failure | _, awake⟩
          · exact Or.inl ⟨_, _, .unslept evaluation look early sleep⟩
          · exact Or.inr ⟨reading, awake, .intro evaluation look early sleep⟩
        · exact Or.inl ⟨_, _, .expired evaluation look late rfl⟩

theorem shorter_eq_pause (reading : Rat) :
    shorter wait.interval (wait.deadline - reading) = wait.pause reading := by
  unfold shorter pause
  simp only [Seconds.isBelow, decide_eq_true_eq]
  rcases lt_or_ge (wait.deadline - reading) wait.interval with below | least
  · exact (if_pos below).trans (min_eq_right below.le).symm
  · exact (if_neg (not_lt.mpr least)).trans (min_eq_left least).symm

theorem isSpent_eq (reading : Rat) :
    Seconds.isSpent (wait.deadline - reading) = decide (wait.deadline ≤ reading) := by
  change decide (wait.deadline - reading ≤ 0) = _
  simp only [sub_nonpos]

section steps

variable {state seen looked : σ} {reading : Rat} {moments : List Moment} (past : List Moment)

theorem evaluate_eq {answer : Except Failure Bool}
    (evaluation : scene.condition state = (answer, seen)) :
    scene.evaluate ⟨state, past⟩ = conclude answer ⟨seen, past ++ [.evaluated answer]⟩ := by
  simp only [Scene.evaluate, evaluation]

theorem readClock_eq (look : scene.clock state = (reading, looked)) :
    scene.surroundings.readClock ⟨state, past⟩ = .ok reading ⟨looked, past ++ [.read reading]⟩ := by
  simp only [Scene.surroundings, look]

theorem elapsedSince_eq (start : Rat) (look : scene.clock state = (reading, looked)) :
    elapsedSince scene.surroundings start ⟨state, past⟩ =
      .ok (wholePart ((reading - start) * 1000)) ⟨looked, past ++ [.read reading]⟩ :=
  bind_of_ok (readClock_eq _ look) _

theorem sleep_eq {length : Rat} {answer : Except Failure Unit} {awake : σ}
    (sleep : scene.sleep length state = (answer, awake)) :
    scene.surroundings.sleep length ⟨state, past⟩ =
      conclude answer ⟨awake, past ++ [.slept length answer]⟩ := by
  simp only [Scene.surroundings, sleep]

/-- What follows once the condition has not held and the clock has been read. -/
theorem poll_of_unheld (limit attempts : Nat)
    (evaluation : scene.condition state = (.ok false, seen))
    (look : scene.clock seen = (reading, looked)) :
    wait.poll scene (limit + 1) attempts ⟨state, past⟩ =
      (if wait.deadline ≤ reading then
        elapsedSince scene.surroundings wait.start >>= fun elapsed =>
          scene.surroundings.log .error "Convergence timed out"
              (report wait.description attempts elapsed) >>= fun _ =>
            MonadExcept.throw (.membershipTimeout wait.description elapsed none)
      else
        scene.surroundings.sleep (wait.pause reading) >>= fun _ =>
          wait.poll scene limit (attempts + 1))
      ⟨looked, past ++ [.evaluated (.ok false), .read reading]⟩ := by
  refine (bind_of_ok (evaluate_eq _ evaluation) _).trans ?_
  refine (bind_of_ok (readClock_eq _ look) _).trans ?_
  rw [isSpent_eq, shorter_eq_pause, List.append_assoc]
  simp only [decide_eq_true_eq]
  rfl

theorem poll_of_round {awake : σ} (round : wait.Round scene state reading awake)
    (limit attempts : Nat) :
    wait.poll scene (limit + 1) attempts ⟨state, past⟩ =
      wait.poll scene limit (attempts + 1) ⟨awake, past ++ wait.round reading⟩ := by
  rcases round with ⟨evaluation, look, early, sleep⟩
  rw [poll_of_unheld past limit attempts evaluation look, if_neg (not_le.mpr early)]
  refine (bind_of_ok (sleep_eq _ sleep) _).trans ?_
  rw [List.append_assoc]
  rfl

theorem poll_of_ending {attempts : Nat} {result : Except Failure Nat}
    (ending : wait.Ending scene attempts state moments result) (limit : Nat) :
    ∃ after, wait.poll scene (limit + 1) attempts ⟨state, past⟩ =
      conclude result ⟨after, past ++ moments⟩ := by
  cases ending with
  | failed evaluation => exact ⟨_, bind_of_error (evaluate_eq _ evaluation) _⟩
  | @held seen looked reading evaluation look =>
      let elapsed := wholePart ((reading - wait.start) * 1000)
      refine ⟨scene.log .debug "Converged" (report wait.description attempts elapsed) looked, ?_⟩
      refine (bind_of_ok (evaluate_eq _ evaluation) _).trans ?_
      refine (bind_of_ok (elapsedSince_eq _ wait.start look) _).trans ?_
      rw [List.append_assoc]
      rfl
  | @expired seen looked final reading last evaluation look late again =>
      let elapsed := wholePart ((last - wait.start) * 1000)
      refine ⟨scene.log .error "Convergence timed out" (report wait.description attempts elapsed)
        final, ?_⟩
      rw [poll_of_unheld past limit attempts evaluation look, if_pos late]
      refine (bind_of_ok (elapsedSince_eq _ wait.start again) _).trans ?_
      rw [List.append_assoc]
      rfl
  | @unslept seen looked final reading failure evaluation look early sleep =>
      refine ⟨final, ?_⟩
      rw [poll_of_unheld past limit attempts evaluation look, if_neg (not_le.mpr early)]
      refine (bind_of_error (sleep_eq _ sleep) _).trans ?_
      rw [List.append_assoc]
      rfl

end steps

/-! ## All evaluations -/

section courses

variable {attempts limit rounds : Nat} {state : σ} {moments : List Moment}
  {result : Except Failure Nat}

@[simp]
theorem evaluations_round (reading : Rat) : evaluations (wait.round reading) = [.ok false] := rfl

@[simp]
theorem sleeps_round (reading : Rat) : sleeps (wait.round reading) = [wait.pause reading] := rfl

theorem Ending.evaluations_length (ending : wait.Ending scene attempts state moments result) :
    (evaluations moments).length = 1 := by
  cases ending <;> rfl

theorem Undecided.evaluations_length (undecided : wait.Undecided scene rounds state moments) :
    (evaluations moments).length = rounds := by
  induction undecided with
  | none => rfl
  | onward round more ih => simp [ih]

/-- A wait ends within the limit, or the limit is used up. -/
theorem course_or_undecided (limit attempts : Nat) (state : σ) :
    (∃ moments result, wait.Course scene attempts state moments result ∧
        (evaluations moments).length ≤ limit) ∨
      ∃ moments, wait.Undecided scene limit state moments := by
  induction limit generalizing attempts state with
  | zero => exact Or.inr ⟨[], .none⟩
  | succ limit ih =>
      rcases ends_or_onward attempts state with ⟨moments, result, ending⟩ | ⟨reading, awake, round⟩
      · refine Or.inl ⟨moments, result, .ends ending, ?_⟩
        rw [ending.evaluations_length]
        exact Nat.le_add_left 1 limit
      · rcases ih (attempts + 1) awake with ⟨moments, result, more, few⟩ | ⟨moments, more⟩
        · refine Or.inl ⟨_, result, .onward round more, ?_⟩
          rw [evaluations_append, evaluations_round, List.length_append, List.length_singleton]
          omega
        · exact Or.inr ⟨_, .onward round more⟩

/-- A limit that a wait does not reach makes no difference to it. -/
theorem poll_of_course (course : wait.Course scene attempts state moments result)
    (enough : (evaluations moments).length ≤ limit) (past : List Moment) :
    ∃ after, wait.poll scene limit attempts ⟨state, past⟩ =
      conclude result ⟨after, past ++ moments⟩ := by
  induction course generalizing limit past with
  | ends ending =>
      rw [ending.evaluations_length] at enough
      rcases Nat.exists_eq_add_of_le' enough with ⟨limit, rfl⟩
      exact poll_of_ending past ending limit
  | @onward attempts state awake reading moments result round more ih =>
      rw [evaluations_append, evaluations_round, List.length_append, List.length_singleton]
        at enough
      rcases Nat.exists_eq_add_of_le' (Nat.le_of_add_right_le enough) with ⟨limit, rfl⟩
      rw [poll_of_round past round limit attempts, ← List.append_assoc]
      exact ih (by omega) _

theorem poll_of_undecided (undecided : wait.Undecided scene rounds state moments) (attempts : Nat)
    (past : List Moment) :
    ∃ after, wait.poll scene rounds attempts ⟨state, past⟩ =
      .error .abandoned ⟨after, past ++ moments⟩ := by
  induction undecided generalizing attempts past with
  | none =>
      rw [List.append_nil]
      exact ⟨_, rfl⟩
  | @onward rounds state awake reading moments round more ih =>
      rw [poll_of_round past round rounds attempts, ← List.append_assoc]
      exact ih (attempts + 1) _

end courses

/-- The wait that a policy makes, once the clock has been read. -/
def begun (description : Value) (start timeout interval : Rat) : Wait :=
  ⟨description, start, start + timeout / 1000, interval / 1000⟩

end Wait

/-- The times of the policy, in milliseconds. -/
structure Sets (policy : PollPolicy) (timeout interval : Rat) : Prop where
  timeout : rationalOf policy.timeout = .ok timeout
  interval : rationalOf policy.interval = .ok interval

namespace Scene

def await (scene : Scene σ) (limit : Nat) (description : Value) (policy : PollPolicy) :
    EStateM Failure (Record σ) Nat :=
  awaitCondition scene.surroundings limit scene.evaluate description policy

/-- A wait that ends: with the evaluations allowed, or with more, it comes to the same. -/
def ComesTo (scene : Scene σ) (limit : Nat) (description : Value) (policy : PollPolicy) (state : σ)
    (moments : List Moment) (result : Except Failure Nat) : Prop :=
  ∀ more, limit ≤ more → ∃ after,
    scene.await more description policy ⟨state, []⟩ = conclude result ⟨after, moments⟩

variable {scene : Scene σ} {description : Value} {policy : PollPolicy}
  {start timeout interval : Rat} {limit : Nat} {state looked : σ} {moments : List Moment}
  {result : Except Failure Nat}

theorem await_eq (sets : Sets policy timeout interval)
    (look : scene.clock state = (start, looked)) (limit : Nat) :
    scene.await limit description policy ⟨state, []⟩ =
      (Wait.begun description start timeout interval).poll scene limit 1
        ⟨looked, [.read start]⟩ := by
  have timed : (Seconds.ofMilliseconds policy.timeout : Except Failure Rat) =
      .ok (timeout / 1000) := congrArg (Except.map (· / 1000)) sets.timeout
  have spaced : (Seconds.ofMilliseconds policy.interval : Except Failure Rat) =
      .ok (interval / 1000) := congrArg (Except.map (· / 1000)) sets.interval
  refine (bind_of_ok (Wait.readClock_eq [] look) _).trans ?_
  rw [timed, spaced]
  rfl

theorem comesTo_of_course (sets : Sets policy timeout interval)
    (look : scene.clock state = (start, looked))
    (course : (Wait.begun description start timeout interval).Course scene 1 looked moments result)
    (enough : (evaluations moments).length ≤ limit) :
    scene.ComesTo limit description policy state (.read start :: moments) result := by
  intro more larger
  rw [await_eq sets look]
  exact Wait.poll_of_course course (enough.trans larger) [.read start]

theorem course_of_await {count : Nat} {after : Record σ} (sets : Sets policy timeout interval)
    (look : scene.clock state = (start, looked))
    (run : scene.await limit description policy ⟨state, []⟩ = .ok count after) :
    ∃ moments, (Wait.begun description start timeout interval).Course scene 1 looked moments
        (.ok count) ∧ (evaluations moments).length ≤ limit := by
  rw [await_eq sets look] at run
  rcases Wait.course_or_undecided limit 1 looked with
    ⟨moments, result, course, few⟩ | ⟨moments, cut⟩
  · rcases Wait.poll_of_course course few [.read start] with ⟨final, same⟩
    have ended : conclude (.ok count) after = conclude result (_ : Record σ) := run.symm.trans same
    rcases conclude_inj.mp ended with ⟨rfl, _⟩
    exact ⟨moments, course, few⟩
  · rcases Wait.poll_of_undecided cut 1 [.read start] with ⟨final, same⟩
    cases run.symm.trans same

/-- A wait that ends has a course. If it were cut off it would make one more evaluation when one
more is allowed, and so not come to the same. -/
theorem ComesTo.course (comes : scene.ComesTo limit description policy state moments result)
    (sets : Sets policy timeout interval) :
    ∃ start looked rest, scene.clock state = (start, looked) ∧ moments = .read start :: rest ∧
      (Wait.begun description start timeout interval).Course scene 1 looked rest result := by
  rcases look : scene.clock state with ⟨start, looked⟩
  have same : ∀ more, limit ≤ more →
      (∃ rest, moments = .read start :: rest ∧
        (Wait.begun description start timeout interval).Course scene 1 looked rest result) ∨
      ∃ rest, moments = .read start :: rest ∧ (evaluations rest).length = more := by
    intro more larger
    rcases comes more larger with ⟨after, ran⟩
    rw [await_eq sets look] at ran
    rcases Wait.course_or_undecided more 1 looked with ⟨rest, ended, course, few⟩ | ⟨rest, cut⟩
    · rcases Wait.poll_of_course course few [.read start] with ⟨final, run⟩
      rcases conclude_inj.mp (ran.symm.trans run) with ⟨rfl, same⟩
      exact Or.inl ⟨rest, congrArg Record.moments same, course⟩
    · rcases Wait.poll_of_undecided cut 1 [.read start] with ⟨final, run⟩
      have ended : _ = conclude (.error .abandoned) (_ : Record σ) := run
      rcases conclude_inj.mp (ran.symm.trans ended) with ⟨_, same⟩
      exact Or.inr ⟨rest, congrArg Record.moments same, cut.evaluations_length⟩
  rcases same limit (le_refl _) with ⟨rest, split, course⟩ | ⟨rest, split, few⟩
  · exact ⟨start, looked, rest, rfl, split, course⟩
  · rcases same (limit + 1) (Nat.le_succ _) with ⟨rest, split, course⟩ | ⟨others, other, more⟩
    · exact ⟨start, looked, rest, rfl, split, course⟩
    · rw [split] at other
      cases other
      omega

end Scene

end Polling

end ShardFleet
