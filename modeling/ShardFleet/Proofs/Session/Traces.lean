import ShardFleet.Proofs.Session.Calls

/-!
# What a computation calls, in order

`Traces kind action` says that the calls of a computation, in order and with their answers, and its
outcome are of a kind, whatever the world outside answers; `TracesFrom` says it from one session on,
so that the kind can depend on what the world shows in it. What is logged and when the clock is read
is left out. There is one rule for each way of composing computations, so the kinds of calls that a
composed computation makes are those of its parts, strung together.
-/

namespace ShardFleet

variable {ω α β : Type}

section conclude

variable {σ : Type} {state after : σ} {outcome other : Except Failure α}

theorem exists_eq_conclude (body : EStateM Failure σ α) (state : σ) :
    ∃ outcome after, body state = conclude outcome after := by
  cases run : body state with
  | ok value after => exact ⟨.ok value, after, rfl⟩
  | error failure after => exact ⟨.error failure, after, rfl⟩

theorem conclude_inj :
    (conclude outcome : EStateM Failure σ α) state = conclude other after ↔
      outcome = other ∧ state = after := by
  cases outcome <;> cases other <;> simp [conclude]

theorem finalState_of_conclude {body : EStateM Failure σ α}
    (run : body state = conclude outcome after) : finalState body state = after := by
  rw [finalState, run]
  exact finalState_conclude outcome

end conclude

theorem filter_isCall_logged (events : List Event) (entry : LogEntry) :
    (events ++ [Event.logged entry]).filter Event.isCall = events.filter Event.isCall := by
  rw [List.filter_append]
  exact List.append_nil _

namespace Action

/-- From the session given on, the calls of a computation and its outcome are of a kind. -/
def TracesFrom (session : Session ω) (kind : List Event → Except Failure α → Prop)
    (action : Action ω α) : Prop :=
  ∃ events result after, action session = conclude result after ∧ session.Evolves events after ∧
    kind (events.filter Event.isCall) result

def Traces (kind : List Event → Except Failure α → Prop) (action : Action ω α) : Prop :=
  ∀ session : Session ω, TracesFrom session kind action

namespace TracesFrom

variable {kind : List Event → Except Failure α → Prop} {action : Action ω α}
  {next : α → Action ω β} {whole : List Event → Except Failure β → Prop} {session : Session ω}

theorem of_conclude (traces : TracesFrom session kind action) {after : Session ω}
    {result : Except Failure α} (run : action session = ShardFleet.conclude result after) :
    ∃ events, session.Evolves events after ∧ kind (events.filter Event.isCall) result := by
  rcases traces with ⟨events, given, final, ran, evolves, holds⟩
  rcases conclude_inj.mp (run.symm.trans ran) with ⟨rfl, rfl⟩
  exact ⟨events, evolves, holds⟩

theorem mono {weaker : List Event → Except Failure α → Prop}
    (traces : TracesFrom session kind action)
    (implies : ∀ calls result, kind calls result → weaker calls result) :
    TracesFrom session weaker action := by
  rcases traces with ⟨events, result, after, run, evolves, holds⟩
  exact ⟨events, result, after, run, evolves, implies _ _ holds⟩

theorem bind (first : TracesFrom session kind action)
    (fails : ∀ calls failure, kind calls (.error failure) → whole calls (.error failure))
    (rest : ∀ calls value, kind calls (.ok value) →
      Traces (fun later result => whole (calls ++ later) result) (next value)) :
    TracesFrom session whole (action >>= next) := by
  rcases first with ⟨events, result, middle, run, evolves, holds⟩
  cases result with
  | error failure =>
      exact ⟨events, .error failure, middle, bind_of_error run _, evolves, fails _ _ holds⟩
  | ok value =>
      rcases rest _ _ holds middle with ⟨later, result, after, runs, follows, both⟩
      refine ⟨events ++ later, result, after, (bind_of_ok run _).trans runs,
        evolves.trans follows, ?_⟩
      rwa [List.filter_append]

/-- A step that only looks at the session leaves what follows to begin in it. -/
theorem read_bind {outcome : Except Failure α}
    (reads : action session = ShardFleet.conclude outcome session)
    (fails : ∀ failure, outcome = .error failure → whole [] (.error failure))
    (rest : ∀ value, outcome = .ok value → TracesFrom session whole (next value)) :
    TracesFrom session whole (action >>= next) := by
  cases outcome with
  | error failure =>
      exact ⟨[], .error failure, session, bind_of_error reads _, .refl session, fails failure rfl⟩
  | ok value =>
      rcases rest value rfl with ⟨events, result, after, run, evolves, holds⟩
      exact ⟨events, result, after, (bind_of_ok reads _).trans run, evolves, holds⟩

theorem log_bind {level : LogLevel} {event : String} {context : List (String × Value)}
    {next : Unit → Action ω β}
    (rest : TracesFrom (session.record (.logged ⟨level, event, context⟩)) whole (next ())) :
    TracesFrom session whole (Action.log level event context >>= next) := by
  rcases rest with ⟨events, result, after, run, evolves, holds⟩
  exact ⟨_, result, after, run, (Session.Evolves.logged session _).trans evolves, holds⟩

end TracesFrom

namespace Traces

variable {kind : List Event → Except Failure α → Prop} {action : Action ω α}

theorem of_conclude (traces : Traces kind action) {session after : Session ω}
    {result : Except Failure α} (run : action session = ShardFleet.conclude result after) :
    ∃ events, session.Evolves events after ∧ kind (events.filter Event.isCall) result :=
  (traces session).of_conclude run

theorem of_ok (traces : Traces kind action) {session after : Session ω} {value : α}
    (run : action session = .ok value after) :
    ∃ events, session.Evolves events after ∧ kind (events.filter Event.isCall) (.ok value) :=
  traces.of_conclude (show _ = ShardFleet.conclude (.ok value) after from run)

theorem of_error (traces : Traces kind action) {session after : Session ω} {failure : Failure}
    (run : action session = .error failure after) :
    ∃ events, session.Evolves events after ∧
      kind (events.filter Event.isCall) (.error failure) :=
  traces.of_conclude (show _ = ShardFleet.conclude (.error failure) after from run)

theorem mono {weaker : List Event → Except Failure α → Prop} (traces : Traces kind action)
    (implies : ∀ calls result, kind calls result → weaker calls result) : Traces weaker action :=
  fun session => (traces session).mono implies

theorem conclude (outcome : Except Failure α) (holds : kind [] outcome) :
    Traces kind (ShardFleet.conclude outcome : Action ω α) :=
  fun session => ⟨[], outcome, session, rfl, .refl session, holds⟩

theorem of_callsOnly [Outside ω] {allowed : Call → Prop} (calls : CallsOnly allowed action) :
    Traces (fun called _ => CalledOnly allowed called) action := by
  intro session
  rcases calls session with ⟨events, within⟩
  rcases exists_eq_conclude action session with ⟨result, after, run⟩
  rw [finalState_of_conclude run] at within
  exact ⟨events, result, after, run, within.evolves, within.calls.filter _⟩

/-- What follows on a known outcome follows only on the value in it. -/
theorem conclude_bind {outcome : Except Failure α} {next : α → Action ω β}
    {whole : List Event → Except Failure β → Prop}
    (fails : ∀ failure, outcome = .error failure → whole [] (.error failure))
    (rest : ∀ value, outcome = .ok value → Traces whole (next value)) :
    Traces whole (ShardFleet.conclude outcome >>= next) :=
  fun session => .read_bind rfl fails fun value given => rest value given session

/-- A known outcome is given without a call. -/
theorem ofOutcome (outcome : Except Failure α) :
    Traces (fun calls result => calls = [] ∧ result = outcome)
      (ShardFleet.conclude outcome : Action ω α) :=
  conclude outcome ⟨rfl, rfl⟩

theorem pure (value : α) (holds : kind [] (.ok value)) :
    Traces kind (Pure.pure value : Action ω α) :=
  conclude (.ok value) holds

theorem throw (failure : Failure) (holds : kind [] (.error failure)) :
    Traces kind (MonadExcept.throw failure : Action ω α) :=
  conclude (.error failure) holds

theorem perform [Outside ω] {call : Call} (still : call.isTransition = false) :
    Traces (fun calls answer => calls = [.called call answer])
      (Action.perform call : Action ω call.Answer) :=
  fun session => ⟨_, _, _, perform_eq call session, session.evolves_answered still, rfl⟩

theorem log {kind : List Event → Except Failure Unit → Prop} {level : LogLevel} {event : String}
    {context : List (String × Value)} (holds : kind [] (.ok ())) :
    Traces kind (Action.log level event context : Action ω Unit) :=
  fun session => ⟨_, .ok (), _, rfl, .logged session _, holds⟩

theorem bind {next : α → Action ω β} {whole : List Event → Except Failure β → Prop}
    (first : Traces kind action)
    (fails : ∀ calls failure, kind calls (.error failure) → whole calls (.error failure))
    (rest : ∀ calls value, kind calls (.ok value) →
      Traces (fun later result => whole (calls ++ later) result) (next value)) :
    Traces whole (action >>= next) :=
  fun session => (first session).bind fails rest

/-- The first computation of a sequence cannot fail. -/
theorem bind_of_returns {first : List Event → α → Prop} {next : α → Action ω β}
    {whole : List Event → Except Failure β → Prop}
    (returns : Traces (fun calls result => ∃ value, result = .ok value ∧ first calls value) action)
    (rest : ∀ calls value, first calls value →
      Traces (fun later result => whole (calls ++ later) result) (next value)) :
    Traces whole (action >>= next) := by
  apply returns.bind
  · rintro calls failure ⟨value, same, _⟩
    cases same
  · rintro calls value ⟨given, same, holds⟩
    cases same
    exact rest calls value holds

theorem attempt (traces : Traces kind action) :
    Traces (fun calls outcome => ∃ result, outcome = .ok result ∧ kind calls result)
      (ShardFleet.attempt action) := by
  intro session
  rcases traces session with ⟨events, result, after, run, evolves, holds⟩
  refine ⟨events, .ok result, after, ?_, evolves, result, rfl, holds⟩
  cases result with
  | ok value => exact attempt_of_ok run
  | error failure => exact attempt_of_error run

/-- A step that calls nothing and does not fail. -/
theorem quiet_bind {next : α → Action ω β} {whole : List Event → Except Failure β → Prop}
    (first : ∀ session : Session ω, ∃ events value after, action session = .ok value after ∧
      session.Evolves events after ∧ events.filter Event.isCall = [])
    (rest : ∀ value, Traces whole (next value)) : Traces whole (action >>= next) := by
  have silent : Traces (fun calls result => ∃ value, result = .ok value ∧ calls = []) action := by
    intro session
    rcases first session with ⟨events, value, after, run, evolves, quiet⟩
    exact ⟨events, .ok value, after, run, evolves, value, rfl, quiet⟩
  apply silent.bind_of_returns
  rintro calls value rfl
  exact rest value

theorem log_bind {level : LogLevel} {event : String} {context : List (String × Value)}
    {next : Unit → Action ω β} {whole : List Event → Except Failure β → Prop}
    (rest : Traces whole (next ())) : Traces whole (Action.log level event context >>= next) :=
  quiet_bind (fun session => ⟨_, (), _, rfl, .logged session _, rfl⟩) fun _ => rest

theorem view_bind {look : ω → α} {next : α → Action ω β}
    {whole : List Event → Except Failure β → Prop} (rest : ∀ value, Traces whole (next value)) :
    Traces whole (Action.view look >>= next) :=
  quiet_bind (fun session => ⟨[], _, session, rfl, .refl session, rfl⟩) rest

theorem freshSerial_bind {next : Nat → Action ω β} {whole : List Event → Except Failure β → Prop}
    (rest : ∀ serial, Traces whole (next serial)) : Traces whole (Action.freshSerial >>= next) :=
  quiet_bind (fun session => ⟨[], _, _, rfl, .numbered session, rfl⟩) rest

theorem readClock_bind [Outside ω] {next : Binary64 → Action ω β}
    {whole : List Event → Except Failure β → Prop} (rest : ∀ value, Traces whole (next value)) :
    Traces whole (Action.readClock >>= next) :=
  quiet_bind
    (fun _ => ⟨[], _, _, rfl, ⟨by simp [Session.history], rfl, trivial, Nat.le_refl _⟩, rfl⟩) rest

end Traces

end Action

end ShardFleet
