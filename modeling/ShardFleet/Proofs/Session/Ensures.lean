import ShardFleet.Proofs.Session.Calls

/-!
# What a computation makes of a fact

`Ensures pre body done failed` says what holds after a computation that began with `pre`, once for
the case that it returns and once for the case that it fails. There is one rule for each way of
composing computations. The rule for a wait is the one that matters: while its condition does not
hold, what held before the wait goes on to hold. When the condition holds the wait is over, and it
fails only if the time that has passed is no number of milliseconds.
-/

namespace ShardFleet

variable {σ α β : Type}

structure Ensures (pre : σ → Prop) (body : EStateM Failure σ α) (done : α → σ → Prop)
    (failed : Failure → σ → Prop) : Prop where
  ok : ∀ {state value after}, pre state → body state = .ok value after → done value after
  error : ∀ {state failure after}, pre state → body state = .error failure after →
    failed failure after

namespace Ensures

variable {pre middle : σ → Prop} {body : EStateM Failure σ α} {done : α → σ → Prop}
  {failed : Failure → σ → Prop}

theorem anything : Ensures pre body (fun _ _ => True) fun _ _ => True :=
  ⟨fun _ _ => trivial, fun _ _ => trivial⟩

theorem mono {stronger : σ → Prop} {weaker : α → σ → Prop} {milder : Failure → σ → Prop}
    (ensures : Ensures pre body done failed) (before : ∀ state, stronger state → pre state)
    (returned : ∀ value after, done value after → weaker value after)
    (broken : ∀ failure after, failed failure after → milder failure after) :
    Ensures stronger body weaker milder where
  ok start run := returned _ _ (ensures.ok (before _ start) run)
  error start run := broken _ _ (ensures.error (before _ start) run)

theorem mono_failed {milder : Failure → σ → Prop} (ensures : Ensures pre body done failed)
    (broken : ∀ failure after, failed failure after → milder failure after) :
    Ensures pre body done milder :=
  ensures.mono (fun _ => id) (fun _ _ => id) broken

theorem bind {between : α → σ → Prop} {next : α → EStateM Failure σ β} {done : β → σ → Prop}
    (first : Ensures pre body between failed)
    (rest : ∀ value, Ensures (between value) (next value) done failed) :
    Ensures pre (body >>= next) done failed where
  ok := by
    intro state value after start run
    rcases bind_eq_ok.mp run with ⟨given, halfway, front, back⟩
    exact (rest given).ok (first.ok start front) back
  error := by
    intro state failure after start run
    cases front : body state with
    | ok given halfway =>
        rw [bind_of_ok front] at run
        exact (rest given).error (first.ok start front) run
    | error other halfway =>
        rw [bind_of_error front] at run
        cases run
        exact first.error start front

/-- The first computation of a sequence cannot fail. -/
theorem bind_of_returns {between : α → σ → Prop} {next : α → EStateM Failure σ β}
    {done : β → σ → Prop} (first : Ensures pre body between fun _ _ => False)
    (rest : ∀ value, Ensures (between value) (next value) done failed) :
    Ensures pre (body >>= next) done failed :=
  (first.mono_failed fun _ _ => False.elim).bind rest

theorem pure {done : α → σ → Prop} {value : α} (holds : ∀ state, pre state → done value state) :
    Ensures pre (Pure.pure value) done failed where
  ok start run := by
    cases run
    exact holds _ start
  error _ run := by cases run

theorem throw {failure : Failure} (breaks : ∀ state, pre state → failed failure state) :
    Ensures pre (MonadExcept.throw failure : EStateM Failure σ α) done failed where
  ok _ run := by cases run
  error start run := by
    cases run
    exact breaks _ start

theorem conclude {outcome : Except Failure α}
    (returns : ∀ value state, outcome = .ok value → pre state → done value state)
    (fails : ∀ failure state, outcome = .error failure → pre state → failed failure state) :
    Ensures pre (ShardFleet.conclude outcome) done failed where
  ok start run := by
    rcases conclude_eq_ok.mp run with ⟨same, rfl⟩
    exact returns _ _ same start
  error start run := by
    cases outcome with
    | ok value => cases run
    | error other =>
        cases run
        exact fails _ _ rfl start

/-- What is known of an outcome that has not been looked at. -/
def ofOutcome (done : α → σ → Prop) (failed : Failure → σ → Prop) : Except Failure α → σ → Prop
  | .ok value => done value
  | .error failure => failed failure

theorem attempt (ensures : Ensures pre body done failed) :
    Ensures pre (ShardFleet.attempt body) (ofOutcome done failed) fun _ _ => False where
  ok := by
    intro state outcome after start run
    cases inner : body state with
    | ok value halfway =>
        rw [attempt_of_ok inner] at run
        cases run
        exact ensures.ok start inner
    | error failure halfway =>
        rw [attempt_of_error inner] at run
        cases run
        exact ensures.error start inner
  error start run := attempt_ne_error _ _ _ _ run

theorem between {inside : σ → Prop} {closed : α → σ → Prop} {broken : Failure → σ → Prop}
    {opening closing : EStateM Failure σ Unit}
    (opens : Ensures pre opening (fun _ => inside) failed) (runs : Ensures inside body done broken)
    (closes : ∀ value, Ensures (done value) closing (fun _ => closed value) failed)
    (closesAnyway : ∀ failure,
      Ensures (broken failure) closing (fun _ => failed failure) failed) :
    Ensures pre (ShardFleet.between opening closing body) closed failed := by
  apply opens.bind
  intro _
  apply runs.attempt.bind_of_returns
  rintro (failure | value)
  · apply (closesAnyway failure).bind
    intro _
    exact .throw fun _ => id
  · apply (closes value).bind
    intro _
    exact .pure fun _ => id

end Ensures

/-- The computation leaves the fact as it is, whatever comes of it. -/
def Keeps (fact : σ → Prop) (body : EStateM Failure σ α) : Prop :=
  Ensures fact body (fun _ => fact) fun _ => fact

theorem Keeps.bind {fact : σ → Prop} {body : EStateM Failure σ α} {next : α → EStateM Failure σ β}
    {done : β → σ → Prop} {failed : Failure → σ → Prop} (keeps : Keeps fact body)
    (breaks : ∀ failure state, fact state → failed failure state)
    (rest : ∀ value, Ensures fact (next value) done failed) :
    Ensures fact (body >>= next) done failed :=
  (keeps.mono_failed breaks).bind rest

theorem Keeps.finalState {fact : σ → Prop} {body : EStateM Failure σ α} {state : σ}
    (keeps : Keeps fact body) (holds : fact state) : fact (ShardFleet.finalState body state) := by
  cases run : body state with
  | ok value after =>
      rw [finalState_of_ok run]
      exact keeps.ok holds run
  | error failure after =>
      rw [finalState_of_error run]
      exact keeps.error holds run

namespace Call

def IsSleep : Call → Prop
  | .sleep _ => True
  | _ => False

end Call

namespace Session

variable {ω : Type} [Outside ω]

/-- The fact is not touched by any course of events with allowed calls only. -/
def Survives (allowed : Call → Prop) (fact : Session ω → Prop) : Prop :=
  ∀ ⦃before after : Session ω⦄ ⦃events : List Event⦄,
    before.EvolvesWithin allowed events after → fact before → fact after

theorem Survives.mono {allowed stricter : Call → Prop} {fact : Session ω → Prop}
    (survives : Survives allowed fact) (implies : ∀ call, stricter call → allowed call) :
    Survives stricter fact :=
  fun _ _ _ within => survives (within.mono implies)

/-- What lasts in the world outside survives in the session. -/
theorem survives_of_lasts {allowed : Call → Prop} {fact : ω → Prop}
    (lasts : Outside.Lasts allowed fact) : Survives allowed fun session => fact session.outside :=
  fun _ _ _ within => within.keeps fact lasts

/-- The session has come from an earlier one by events of a kind. -/
def Since (before : Session ω) (kind : List Event → Prop) (session : Session ω) : Prop :=
  ∃ events, before.Evolves events session ∧ kind events

theorem survives_since {allowed : Call → Prop} {before : Session ω} {kind : List Event → Prop}
    (grows : ∀ first second, kind first → CalledOnly allowed second → kind (first ++ second)) :
    Survives allowed (Since before kind) := by
  rintro session after events within ⟨earlier, evolves, holds⟩
  exact ⟨_, evolves.trans within.evolves, grows _ _ holds within.calls⟩

end Session

namespace Action

variable {ω : Type} [Outside ω] {allowed : Call → Prop} {action : Action ω α}
  {fact : Session ω → Prop}

theorem CallsOnly.keeps (calls : CallsOnly allowed action)
    (survives : Session.Survives allowed fact) : Keeps fact action where
  ok := by
    intro session value after start run
    rcases calls session with ⟨events, within⟩
    rw [finalState_of_ok run] at within
    exact survives within start
  error := by
    intro session failure after start run
    rcases calls session with ⟨events, within⟩
    rw [finalState_of_error run] at within
    exact survives within start

end Action

/-- Why a wait fails whose condition holds: the time that has passed is no number of
milliseconds. -/
def Failure.IsUntimed (failure : Failure) : Prop :=
  failure = .undefinedElapsed ∨ failure = .outOfRange

theorem isUntimed_of_toMilliseconds {duration : Binary64} {failure : Failure}
    (untimed : Seconds.toMilliseconds duration = .error failure) : failure.IsUntimed := by
  change Binary64.toWhole _ = _ at untimed
  unfold Binary64.toWhole at untimed
  split at untimed
  · exact Or.inl (Except.error.inj untimed).symm
  · exact Or.inr (Except.error.inj untimed).symm
  · split at untimed
    · cases untimed
    · exact Or.inr (Except.error.inj untimed).symm

namespace Ensures

variable {ω : Type} [Outside ω]

theorem perform {pre : Session ω → Prop} {call : Call} {done : call.Answer → Session ω → Prop}
    {failed : Failure → Session ω → Prop}
    (returns : ∀ session value, pre session →
      (Outside.respond call session.outside).1 = .ok value → done value (session.answered call))
    (fails : ∀ session failure, pre session →
      (Outside.respond call session.outside).1 = .error failure →
        failed failure (session.answered call)) :
    Ensures pre (Action.perform call) done failed where
  ok := by
    intro session value after start run
    rcases Action.perform_eq_ok.mp run with ⟨answer, rfl⟩
    exact returns session value start answer
  error := by
    intro session failure after start run
    rw [Action.perform_eq] at run
    cases answer : (Outside.respond call session.outside).1 with
    | ok value =>
        rw [answer] at run
        cases run
    | error other =>
        rw [answer] at run
        cases run
        exact fails session failure start answer

variable {fact waiting held : Session ω → Prop} {condition : Action ω Bool}

theorem readClock (survives : Session.Survives Call.IsSleep fact) :
    Ensures fact (Action.readClock : Action ω Binary64) (fun _ => fact) fun _ _ => False where
  ok := (Action.CallsOnly.readClock.keeps survives).ok
  error _ run := by cases run

theorem log (survives : Session.Survives Call.IsSleep fact) (level : LogLevel) (event : String)
    (context : List (String × Value)) :
    Ensures fact (Action.log level event context : Action ω Unit) (fun _ => fact)
      fun _ _ => False where
  ok := ((Action.CallsOnly.log level event context).keeps survives).ok
  error _ run := by cases run

theorem elapsedSince (survives : Session.Survives Call.IsSleep fact) (start : Binary64) :
    Ensures fact
      (Polling.elapsedSince (Surroundings.ofSession : Surroundings (Session ω) Binary64) start)
      (fun _ => fact) fun failure after => fact after ∧ failure.IsUntimed := by
  apply (readClock survives).bind_of_returns
  intro now
  apply conclude
  · exact fun _ _ _ => id
  · exact fun _ _ untimed holds => ⟨holds, isUntimed_of_toMilliseconds untimed⟩

/-- Afterwards the one fact holds or the other, as the condition says. -/
def Decides (waiting held : Session ω → Prop) (condition : Action ω Bool) : Prop :=
  Ensures waiting condition (fun holds => if holds then held else waiting) fun _ => waiting

theorem poll (decides : Decides waiting held condition)
    (waits : Session.Survives Call.IsSleep waiting) (stays : Session.Survives Call.IsSleep held)
    (description : Value) (start deadline interval : Binary64) (limit attempts : Nat) :
    Ensures waiting (Polling.poll Surroundings.ofSession condition description start deadline
        interval limit attempts) (fun _ => held)
      fun failure after => waiting after ∨ held after ∧ failure.IsUntimed := by
  induction limit generalizing attempts with
  | zero => exact throw fun _ => Or.inl
  | succ limit ih =>
      apply (decides.mono_failed fun _ _ => Or.inl).bind
      intro holds
      cases holds with
      | true =>
          -- Only the time can fail now, and it fails too late: the condition has held.
          apply ((elapsedSince stays start).mono_failed fun _ _ => Or.inr).bind
          intro elapsed
          apply (log stays _ _ _).bind_of_returns
          intro _
          exact pure fun _ => id
      | false =>
          apply (readClock waits).bind_of_returns
          intro now
          dsimp only
          split
          · apply ((elapsedSince waits start).mono_failed fun _ _ both => Or.inl both.1).bind
            intro elapsed
            apply (log waits _ _ _).bind_of_returns
            intro _
            exact throw fun _ => Or.inl
          · have sleeps (seconds : Binary64) : Action.CallsOnly Call.IsSleep
                (Action.perform (.sleep seconds) : Action ω Unit) := .perform rfl trivial
            apply ((sleeps _).keeps waits).bind fun _ _ => Or.inl
            intro _
            exact ih (attempts + 1)

/-- A wait that is over leaves what its condition says, and one that fails leaves things as they
were, unless it could not tell how long it took. -/
theorem awaitCondition (decides : Decides waiting held condition)
    (waits : Session.Survives Call.IsSleep waiting) (stays : Session.Survives Call.IsSleep held)
    (limit : Nat) (description : Value) (policy : PollPolicy) :
    Ensures waiting (Polling.awaitCondition Surroundings.ofSession limit condition description
        policy) (fun _ => held)
      fun failure after => waiting after ∨ held after ∧ failure.IsUntimed := by
  apply (readClock waits).bind_of_returns
  intro start
  apply (conclude (fun _ _ _ => id) fun _ _ _ => Or.inl).bind
  intro timeout
  apply (conclude (fun _ _ _ => id) fun _ _ _ => Or.inl).bind
  intro interval
  exact poll decides waits stays _ _ _ _ _ _

end Ensures

end ShardFleet
