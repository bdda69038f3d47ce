import ShardFleet.Admin.Channel
import ShardFleet.Polling
import ShardFleet.Proofs.Session.Evolution

/-!
# What a computation asks of the world outside

`Action.CallsOnly allowed` says that a computation, whatever comes of it, evolves its session by
events whose calls are all allowed. It is built up along the computation: the steps of a sequence,
an attempt, a channel that is open for a while, a wait that polls. `Action.CallsAtMost` bounds how
often one kind of call is made, along the same lines. A computation that starts and stops no handle
leaves every lifecycle state as it is, and what allowed calls leave true of the world outside is
true of it after the computation.
-/

namespace ShardFleet

variable {ω α β : Type}

namespace Call

/-- Whether a call brings a handle up or down. -/
def isTransition : Call → Bool
  | .start _ => true
  | .stop _ => true
  | _ => false

end Call

namespace Event

def isCallTo (counted : Call → Bool) : Event → Bool
  | .called call _ => counted call
  | _ => false

end Event

theorem any_isCallTo_iff {counted : Call → Bool} {events : List Event} :
    events.any (Event.isCallTo counted) = true ↔
      ∃ call answer, .called call answer ∈ events ∧ counted call = true := by
  rw [List.any_eq_true]
  constructor
  · rintro ⟨event, member, counts⟩
    cases event with
    | called call answer => exact ⟨call, answer, member, counts⟩
    | logged entry => cases counts
    | pooled workers => cases counts
  · rintro ⟨call, answer, member, counts⟩
    exact ⟨_, member, counts⟩

/-- All calls among the events are allowed. -/
def CalledOnly (allowed : Call → Prop) (events : List Event) : Prop :=
  ∀ call answer, .called call answer ∈ events → allowed call

namespace CalledOnly

variable {allowed weaker : Call → Prop} {first second : List Event}

theorem nil : CalledOnly allowed [] := by
  intro call answer member
  cases member

theorem quiet {event : Event} (quiet : event.isCall = false) : CalledOnly allowed [event] := by
  intro call answer member
  cases List.mem_singleton.mp member
  cases quiet

theorem single {call : Call} {answer : Except Failure call.Answer} (permitted : allowed call) :
    CalledOnly allowed [.called call answer] := by
  intro other another member
  cases List.mem_singleton.mp member
  exact permitted

theorem cons {event : Event} (front : CalledOnly allowed [event])
    (back : CalledOnly allowed second) : CalledOnly allowed (event :: second) := by
  intro call answer member
  rcases List.mem_cons.mp member with here | later
  · exact front call answer (List.mem_singleton.mpr here)
  · exact back call answer later

theorem append (front : CalledOnly allowed first) (back : CalledOnly allowed second) :
    CalledOnly allowed (first ++ second) := by
  intro call answer member
  rcases List.mem_append.mp member with earlier | later
  · exact front call answer earlier
  · exact back call answer later

theorem mono (calls : CalledOnly allowed first) (implies : ∀ call, allowed call → weaker call) :
    CalledOnly weaker first :=
  fun call answer member => implies call (calls call answer member)

theorem filter (calls : CalledOnly allowed first) (kept : Event → Bool) :
    CalledOnly allowed (first.filter kept) :=
  fun call answer member => calls call answer (List.mem_filter.mp member).1

theorem avoids {call : Call} (calls : CalledOnly allowed first) (forbidden : ¬allowed call) :
    CalledOnly (· ≠ call) first :=
  calls.mono fun _ permitted same => forbidden (same ▸ permitted)

theorem countP_eq_zero {counted : Call → Bool} (calls : CalledOnly allowed first)
    (others : ∀ call, allowed call → counted call = false) :
    first.countP (Event.isCallTo counted) = 0 := by
  rw [List.countP_eq_zero]
  intro event member
  cases event with
  | called call answer => simp [Event.isCallTo, others call (calls call answer member)]
  | logged entry => simp [Event.isCallTo]
  | pooled workers => simp [Event.isCallTo]

end CalledOnly

/-- A fact about the world outside that no allowed call and no reading of the clock ends. -/
structure Outside.Lasts [Outside ω] (allowed : Call → Prop) (fact : ω → Prop) : Prop where
  call : ∀ call outside, allowed call → fact outside → fact (Outside.respond call outside).2
  clock : ∀ outside, fact outside → fact (Outside.readClock outside).2

theorem Outside.Lasts.mono [Outside ω] {allowed stricter : Call → Prop} {fact : ω → Prop}
    (lasts : Outside.Lasts allowed fact) (implies : ∀ call, stricter call → allowed call) :
    Outside.Lasts stricter fact :=
  ⟨fun call outside permitted => lasts.call call outside (implies call permitted), lasts.clock⟩

/-- One session became another one by events that call nothing but what is allowed. -/
structure Session.EvolvesWithin [Outside ω] (before : Session ω) (allowed : Call → Prop)
    (events : List Event) (after : Session ω) : Prop where
  evolves : before.Evolves events after
  calls : CalledOnly allowed events
  keeps : ∀ fact : ω → Prop, Outside.Lasts allowed fact → fact before.outside → fact after.outside

namespace Session.EvolvesWithin

variable [Outside ω] {allowed weaker : Call → Prop} {before middle after : Session ω}
  {first second : List Event}

theorem refl (session : Session ω) : session.EvolvesWithin allowed [] session :=
  ⟨.refl session, .nil, fun _ _ => id⟩

theorem trans (front : before.EvolvesWithin allowed first middle)
    (back : middle.EvolvesWithin allowed second after) :
    before.EvolvesWithin allowed (first ++ second) after where
  evolves := front.evolves.trans back.evolves
  calls := front.calls.append back.calls
  keeps fact lasts start := back.keeps fact lasts (front.keeps fact lasts start)

theorem record (session : Session ω) (event : Event) (quiet : event.isCall = false) :
    session.EvolvesWithin allowed [event] (session.record event) :=
  ⟨.record session event quiet, .quiet quiet, fun _ _ => id⟩

theorem mono (within : before.EvolvesWithin allowed first after)
    (implies : ∀ call, allowed call → weaker call) : before.EvolvesWithin weaker first after where
  evolves := within.evolves
  calls := within.calls.mono implies
  keeps fact lasts := within.keeps fact (lasts.mono implies)

end Session.EvolvesWithin

namespace Session

def answered [Outside ω] (session : Session ω) (call : Call) : Session ω :=
  { session with
    outside := (Outside.respond call session.outside).2
    journal := .called call (Outside.respond call session.outside).1 :: session.journal }

theorem evolves_answered [Outside ω] (session : Session ω) {call : Call}
    (still : call.isTransition = false) :
    session.Evolves [.called call (Outside.respond call session.outside).1]
      (session.answered call) where
  history := by simp [history, answered]
  states := by
    rw [statesAfter_cons]
    cases call <;> first | rfl | simp [Call.isTransition] at still
  orderly := by
    cases call <;> first | exact ⟨trivial, trivial⟩ | simp [Call.isTransition] at still
  serials := Nat.le_refl _

theorem evolvesWithin_answered [Outside ω] (session : Session ω) {call : Call}
    {allowed : Call → Prop} (still : call.isTransition = false) (permitted : allowed call) :
    session.EvolvesWithin allowed [.called call (Outside.respond call session.outside).1]
      (session.answered call) where
  evolves := session.evolves_answered still
  calls := .single permitted
  keeps _ lasts := lasts.call call _ permitted

theorem statesAfter_of_no_transition {states : States} {events : List Event}
    (still : ∀ call answer, Event.called call answer ∈ events → call.isTransition = false) :
    statesAfter states events = states := by
  have kept : ∀ now, ∀ event ∈ events, now = states → event.change now = states := by
    rintro now event member rfl
    cases event with
    | called call answer =>
        have quiet := still call answer member
        cases call <;> first | rfl | simp [Call.isTransition] at quiet
    | logged entry => rfl
    | pooled workers => rfl
  exact (along_of_preserved (· = states) rfl kept).2

end Session

namespace Action

theorem perform_eq [Outside ω] (call : Call) (session : Session ω) :
    perform call session =
      conclude (Outside.respond call session.outside).1 (session.answered call) := by
  unfold perform Session.answered
  rcases Outside.respond call session.outside with ⟨answer | answer, outside⟩ <;> rfl

theorem perform_eq_ok [Outside ω] {call : Call} {session after : Session ω}
    {value : call.Answer} :
    perform call session = .ok value after ↔
      (Outside.respond call session.outside).1 = .ok value ∧ after = session.answered call := by
  rw [perform_eq, conclude_eq_ok]

theorem finalState_perform [Outside ω] (call : Call) (session : Session ω) :
    finalState (perform call) session = session.answered call := by
  rw [finalState, perform_eq]
  exact finalState_conclude _

/-- Whatever comes of the computation, all that it calls is allowed. -/
def CallsOnly [Outside ω] (allowed : Call → Prop) (action : Action ω α) : Prop :=
  ∀ session : Session ω, ∃ events, session.EvolvesWithin allowed events (finalState action session)

namespace CallsOnly

variable [Outside ω] {allowed weaker : Call → Prop} {action : Action ω α}

theorem of_unchanged (unchanged : ∀ session, finalState action session = session) :
    CallsOnly allowed action := by
  intro session
  refine ⟨[], ?_⟩
  rw [unchanged session]
  exact .refl session

theorem mono (calls : CallsOnly allowed action) (implies : ∀ call, allowed call → weaker call) :
    CallsOnly weaker action := by
  intro session
  rcases calls session with ⟨events, within⟩
  exact ⟨events, within.mono implies⟩

theorem pure (value : α) : CallsOnly allowed (Pure.pure value : Action ω α) :=
  of_unchanged fun _ => rfl

theorem throw (failure : Failure) :
    CallsOnly allowed (MonadExcept.throw failure : Action ω α) :=
  of_unchanged fun _ => rfl

theorem conclude (outcome : Except Failure α) :
    CallsOnly allowed (ShardFleet.conclude outcome : Action ω α) :=
  of_unchanged fun _ => finalState_conclude outcome

theorem view (look : ω → α) : CallsOnly allowed (Action.view look) :=
  of_unchanged fun _ => rfl

theorem attempt (calls : CallsOnly allowed action) :
    CallsOnly allowed (ShardFleet.attempt action) := by
  intro session
  rw [finalState_attempt]
  exact calls session

theorem bind {next : α → Action ω β} (first : CallsOnly allowed action)
    (rest : ∀ value, CallsOnly allowed (next value)) : CallsOnly allowed (action >>= next) := by
  intro session
  rcases first session with ⟨front, frontWithin⟩
  cases run : action session with
  | error failure middle =>
      rw [finalState_bind_of_error run]
      rw [finalState_of_error run] at frontWithin
      exact ⟨front, frontWithin⟩
  | ok value middle =>
      rw [finalState_bind_of_ok run]
      rw [finalState_of_ok run] at frontWithin
      rcases rest value middle with ⟨back, backWithin⟩
      exact ⟨front ++ back, frontWithin.trans backWithin⟩

/-- What follows on a known outcome follows only on the value in it. -/
theorem conclude_bind {outcome : Except Failure α} {next : α → Action ω β}
    (rest : ∀ value, outcome = .ok value → CallsOnly allowed (next value)) :
    CallsOnly allowed (ShardFleet.conclude outcome >>= next) := by
  cases outcome with
  | error failure => exact throw failure
  | ok value => exact rest value rfl

theorem log (level : LogLevel) (event : String) (context : List (String × Value)) :
    CallsOnly allowed (Action.log level event context : Action ω Unit) := by
  intro session
  exact ⟨_, .record session (.logged ⟨level, event, context⟩) rfl⟩

theorem freshSerial : CallsOnly allowed (Action.freshSerial : Action ω Nat) := by
  intro session
  exact ⟨[], ⟨by simp [Session.history, finalState, Action.freshSerial], rfl, trivial,
    Nat.le_succ _⟩, .nil, fun _ _ => id⟩

theorem readClock : CallsOnly allowed (Action.readClock : Action ω Binary64) := by
  intro session
  exact ⟨[], ⟨by simp [Session.history, finalState, Action.readClock], rfl, trivial,
    Nat.le_refl _⟩, .nil, fun _ lasts => lasts.clock _⟩

theorem perform {call : Call} (still : call.isTransition = false) (permitted : allowed call) :
    CallsOnly allowed (Action.perform call : Action ω call.Answer) := by
  intro session
  rw [finalState_perform]
  exact ⟨_, session.evolvesWithin_answered still permitted⟩

theorem between {opening closing : Action ω Unit} (opens : CallsOnly allowed opening)
    (closes : CallsOnly allowed closing) (body : CallsOnly allowed action) :
    CallsOnly allowed (ShardFleet.between opening closing action) := by
  apply opens.bind
  intro _
  apply body.attempt.bind
  intro outcome
  apply closes.bind
  intro _
  exact .conclude outcome

/-- A wait calls what its condition calls, and sleeps. -/
theorem poll {condition : Action ω Bool} (checks : CallsOnly allowed condition)
    (sleeps : ∀ seconds, allowed (.sleep seconds)) (description : Value)
    (start deadline interval : Binary64) (limit attempts : Nat) :
    CallsOnly allowed (Polling.poll Surroundings.ofSession condition description start deadline
      interval limit attempts) := by
  have elapsed : CallsOnly allowed
      (Polling.elapsedSince (Surroundings.ofSession (ω := ω)) start) := by
    apply readClock.bind
    intro now
    exact .conclude _
  induction limit generalizing attempts with
  | zero => exact .throw _
  | succ limit ih =>
      apply checks.bind
      intro holds
      cases holds with
      | true =>
          apply elapsed.bind
          intro _
          apply (CallsOnly.log _ _ _).bind
          intro _
          exact .pure attempts
      | false =>
          apply readClock.bind
          intro now
          dsimp only
          split
          · apply elapsed.bind
            intro _
            apply (CallsOnly.log _ _ _).bind
            intro _
            exact .throw _
          · apply (CallsOnly.perform rfl (sleeps _)).bind
            intro _
            exact ih (attempts + 1)

theorem awaitCondition {condition : Action ω Bool} (checks : CallsOnly allowed condition)
    (sleeps : ∀ seconds, allowed (.sleep seconds)) (limit : Nat) (description : Value)
    (policy : PollPolicy) :
    CallsOnly allowed (Polling.awaitCondition Surroundings.ofSession limit condition description
      policy) := by
  apply readClock.bind
  intro start
  apply (CallsOnly.conclude _).bind
  intro timeout
  apply (CallsOnly.conclude _).bind
  intro interval
  exact .poll checks sleeps _ _ _ _ _ _

theorem perform_bind (call : Call) (still : call.isTransition = false)
    {next : call.Answer → Action ω α} (rest : ∀ value, CallsOnly allowed (next value))
    (session : Session ω) :
    ∃ answer events,
      session.Evolves (.called call answer :: events)
        (finalState (Action.perform call >>= next) session) ∧
      CalledOnly allowed events := by
  have answered := session.evolves_answered still
  have run := perform_eq call session
  cases outcome : (Outside.respond call session.outside).1 with
  | error failure =>
      rw [outcome] at run
      rw [finalState_bind_of_error run]
      exact ⟨_, [], answered, .nil⟩
  | ok value =>
      rw [outcome] at run
      rw [finalState_bind_of_ok run]
      rcases rest value (session.answered call) with ⟨events, evolves, allowed, _⟩
      exact ⟨_, events, answered.trans evolves, allowed⟩

end CallsOnly

/-- Whatever comes of the computation, it makes no more calls of a kind than given. -/
def CallsAtMost (limit : ℕ) (counted : Call → Bool) (action : Action ω α) : Prop :=
  ∀ session : Session ω, ∃ events, session.Evolves events (finalState action session) ∧
    events.countP (Event.isCallTo counted) ≤ limit

section CallsAtMost

variable {allowed : Call → Prop} {counted : Call → Bool} {first second : ℕ}
  {action : Action ω α}

theorem CallsOnly.callsAtMost [Outside ω] (calls : CallsOnly allowed action)
    (others : ∀ call, allowed call → counted call = false) : CallsAtMost 0 counted action := by
  intro session
  rcases calls session with ⟨events, evolves, all, _⟩
  exact ⟨events, evolves, Nat.le_of_eq (all.countP_eq_zero others)⟩

namespace CallsAtMost

theorem attempt (calls : CallsAtMost first counted action) :
    CallsAtMost first counted (ShardFleet.attempt action) := by
  intro session
  rw [finalState_attempt]
  exact calls session

theorem bind {next : α → Action ω β} (front : CallsAtMost first counted action)
    (back : ∀ value, CallsAtMost second counted (next value)) :
    CallsAtMost (first + second) counted (action >>= next) := by
  intro session
  rcases front session with ⟨frontEvents, frontEvolves, frontCount⟩
  cases run : action session with
  | error failure middle =>
      rw [finalState_bind_of_error run]
      rw [finalState_of_error run] at frontEvolves
      exact ⟨frontEvents, frontEvolves, Nat.le_add_right_of_le frontCount⟩
  | ok value middle =>
      rw [finalState_bind_of_ok run]
      rw [finalState_of_ok run] at frontEvolves
      rcases back value middle with ⟨backEvents, backEvolves, backCount⟩
      refine ⟨frontEvents ++ backEvents, frontEvolves.trans backEvolves, ?_⟩
      rw [List.countP_append]
      exact Nat.add_le_add frontCount backCount

theorem quiet_bind {next : α → Action ω β} (front : CallsAtMost 0 counted action)
    (back : ∀ value, CallsAtMost first counted (next value)) :
    CallsAtMost first counted (action >>= next) := by
  have both := front.bind back
  rwa [Nat.zero_add] at both

theorem bind_quiet {next : α → Action ω β} (front : CallsAtMost first counted action)
    (back : ∀ value, CallsAtMost 0 counted (next value)) :
    CallsAtMost first counted (action >>= next) :=
  front.bind back

theorem perform [Outside ω] {call : Call} (still : call.isTransition = false) :
    CallsAtMost 1 counted (Action.perform call : Action ω call.Answer) := by
  intro session
  have answered := session.evolves_answered still
  rw [← finalState_perform] at answered
  refine ⟨_, answered, ?_⟩
  exact List.countP_le_length

end CallsAtMost

end CallsAtMost

end Action

end ShardFleet
