import ShardFleet.Proofs.Cluster.Membership
import ShardFleet.Proofs.Session.Ensures

/-!
# What a registration and a removal make of a fact

A registration and a removal are a wait on a channel. They end in one of four ways: the condition has
not held, so what held before still does; the condition has held, and so they return; it has held, but
the wait fails over the time; or the channel fails to close. What these facts are is left open here.
-/

namespace ShardFleet

open ShardFleet.Action

variable {ω : Type} [Outside ω] {α : Type}

namespace Call

/-- A call on a channel that is no command, or a wait. -/
def IsIdle (call : Call) : Prop := call.OnChannel fun _ => False

theorem IsSleep.isIdle {call : Call} (sleeps : call.IsSleep) : call.IsIdle := by
  cases call <;> first | exact sleeps.elim | trivial

end Call

namespace Admin

/-- What a wait for a shard to become active makes of a response to listShards. -/
def readActive (name : Value) (response : Value) : Except Failure Bool :=
  match shardRecords response with
  | .ok records => anyActive name records
  | .error failure => .error failure

/-- What a wait for a removal makes of a response to removeShard. -/
def readRemoved (response : Value) : Except Failure Bool :=
  match response.fieldOf "state" with
  | .ok state => .ok ((state.getD .null).isText completedState)
  | .error failure => .error failure

theorem isShardActive_eq (channel : Channel) (name : Value) :
    (isShardActive channel name : Action ω Bool) =
      channel.command AdminCommand.listing >>= fun response =>
        conclude (readActive name response) := by
  unfold isShardActive listShards
  rw [bind_assoc]
  apply bind_congr
  intro response
  rw [readActive]
  cases shardRecords response <;> rfl

theorem isShardRemoved_eq (channel : Channel) (name : Value) :
    (isShardRemoved channel name : Action ω Bool) =
      channel.command (AdminCommand.removing name) >>= fun response =>
        conclude (readRemoved response) := by
  unfold isShardRemoved removeShard
  rw [bind_assoc]
  apply bind_congr
  intro response
  rw [readRemoved]
  cases response.fieldOf "state" <;> rfl

end Admin

namespace Ensures

variable {channel : Channel} {pre : Session ω → Prop}

theorem command {command : AdminCommand} {done : Value → Session ω → Prop}
    {failed : Session ω → Prop}
    (returns : ∀ session response, pre session →
      (Outside.respond (.command command) session.outside).1 = .ok response →
        done response (session.answered (.command command)))
    (fails : ∀ session failure, pre session →
      (Outside.respond (.command command) session.outside).1 = .error failure →
        failed (session.answered (.command command)))
    (survives : Session.Survives Call.IsIdle failed) :
    Ensures pre (channel.command command) done fun _ => failed := by
  have performs : Ensures pre (Action.perform (.command command)) done fun _ => failed :=
    perform returns fails
  cases channel with
  | supplied => exact performs
  | client selectionTimeout =>
      apply performs.attempt.bind_of_returns
      rintro (failure | response)
      · have logs := survives.mono fun call => Call.IsSleep.isIdle
        change Ensures failed _ done fun _ => failed
        dsimp only
        split
        · apply (log logs _ _ _).bind_of_returns
          intro _
          exact throw fun _ => id
        · exact throw fun _ => id
      · exact pure fun _ => id

/-- A condition that reads one response decides between two facts, if the response brings the one
that it is read as. -/
theorem decides_of_reading {waiting held : Session ω → Prop} {command : AdminCommand}
    {reading : Value → Except Failure Bool} (survives : Session.Survives Call.IsIdle waiting)
    (brings : ∀ session response, waiting session →
      (Outside.respond (.command command) session.outside).1 = .ok response →
        (reading response = .ok true → held (session.answered (.command command))) ∧
        (reading response ≠ .ok true → waiting (session.answered (.command command))))
    (fails : ∀ session failure, waiting session →
      (Outside.respond (.command command) session.outside).1 = .error failure →
        waiting (session.answered (.command command))) :
    Decides waiting held (channel.command command >>= fun response =>
      ShardFleet.conclude (reading response)) := by
  have answers : Ensures waiting (channel.command command) (fun response session =>
      (reading response = .ok true → held session) ∧
      (reading response ≠ .ok true → waiting session)) fun _ => waiting :=
    Ensures.command brings fails survives
  apply answers.bind
  intro response
  apply conclude
  · rintro (_ | _) session read both
    · exact both.2 (by simp [read])
    · exact both.1 read
  · intro failure session read both
    exact both.2 (by simp [read])

end Ensures

/-- What is known while a wait on a channel goes on, when it is over, and when the channel has failed
to close. -/
structure Awaits (waiting held lapsed : Session ω → Prop) : Prop where
  waits : Session.Survives Call.IsIdle waiting
  stays : Session.Survives Call.IsIdle held
  lapses : ∀ session call failure, waiting session ∨ held session →
    call = .closeChannel ∨ call = .disconnect →
    (Outside.respond call session.outside).1 = .error failure → lapsed (session.answered call)

namespace Awaits

variable {waiting held lapsed : Session ω → Prop} {channel : Channel} {action : Action ω α}

/-- What is known after a failure: the wait was not over, or the channel has failed to close, or the
wait was over but could not tell how long it took. -/
def Fails (waiting held lapsed : Session ω → Prop) (failure : Failure) (after : Session ω) : Prop :=
  waiting after ∨ lapsed after ∨ held after ∧ failure.IsUntimed

theorem close (awaits : Awaits waiting held lapsed) {fact : Session ω → Prop}
    (survives : Session.Survives Call.IsIdle fact)
    (implies : ∀ session, fact session → waiting session ∨ held session) :
    Ensures fact (channel.close : Action ω Unit) (fun _ => fact) fun _ => lapsed := by
  have performs (call : Call) (still : call.isTransition = false) (idle : call.IsIdle)
      (closing : call = .closeChannel ∨ call = .disconnect) :
      Ensures fact (Action.perform call) (fun _ => fact) fun _ => lapsed := by
    apply Ensures.perform
    · intro session _ start _
      exact survives (session.evolvesWithin_answered still idle) start
    · intro session failure start answer
      exact awaits.lapses session call failure (implies _ start) closing answer
  cases channel with
  | supplied => exact performs .closeChannel rfl trivial (Or.inl rfl)
  | client selectionTimeout => exact performs .disconnect rfl trivial (Or.inr rfl)

theorem during (awaits : Awaits waiting held lapsed) (address : String)
    (runs : Ensures waiting action (fun _ => held)
      fun failure after => waiting after ∨ held after ∧ failure.IsUntimed) :
    Ensures waiting (channel.during address action) (fun _ => held)
      (Fails waiting held lapsed) := by
  have opens : Keeps waiting (channel.openAt address : Action ω Unit) :=
    (CallsOnly.openAt channel address).keeps awaits.waits
  refine Ensures.between (opens.mono_failed fun _ _ => Or.inl) runs ?_ ?_
  · intro value
    apply (awaits.close awaits.stays fun _ => Or.inr).mono_failed
    exact fun _ _ lapsed => Or.inr (Or.inl lapsed)
  · intro failure
    -- The channel is closed over a failure as well, which must not lose what the failure left.
    refine (awaits.close ?_ ?_).mono (fun _ => id) ?_ ?_
    · rintro before after events within (waiting | ⟨held, untimed⟩)
      · exact Or.inl (awaits.waits within waiting)
      · exact Or.inr ⟨awaits.stays within held, untimed⟩
    · exact fun _ => Or.imp_right And.left
    · exact fun _ _ => Or.imp_right Or.inr
    · exact fun _ _ lapsed => Or.inr (Or.inl lapsed)

theorem awaitMembership (awaits : Awaits waiting held lapsed) (cluster : Cluster)
    (description : String) {condition : Action ω Bool}
    (decides : Ensures.Decides waiting held condition) :
    Ensures waiting (cluster.awaitMembership description condition) (fun _ => held)
      fun failure after => waiting after ∨ held after ∧ failure.IsUntimed := by
  apply (Ensures.awaitCondition decides (awaits.waits.mono fun call => Call.IsSleep.isIdle)
    (awaits.stays.mono fun call => Call.IsSleep.isIdle) _ _ _).bind
  intro _
  exact .pure fun _ => id

theorem register (awaits : Awaits waiting held lapsed) (cluster : Cluster) (shard : ReplicaGroup)
    (adds : ∀ address, Keeps waiting (Admin.addShard cluster.channel (.text address)))
    (decides : Ensures.Decides waiting held
      (Admin.isShardActive cluster.channel shard.nameValue)) :
    Ensures waiting (cluster.register shard) (fun _ => held) (Fails waiting held lapsed) := by
  have keeps {β : Type} {body : Action ω β} (calls : CallsOnly Call.IsIdle body) :
      Keeps waiting body := calls.keeps awaits.waits
  apply (keeps (shard.replicaSetAddress_callsOnly false)).bind fun _ _ => Or.inl
  intro address
  apply (keeps (.log _ _ _)).bind fun _ _ => Or.inl
  intro _
  apply (keeps (Router.connectionString_callsOnly _)).bind fun _ _ => Or.inl
  intro routers
  refine (awaits.during routers ?_).bind ?_
  · apply (adds _).bind fun _ _ => Or.inl
    intro _
    exact awaits.awaitMembership cluster _ decides
  · intro _
    have logs := awaits.stays.mono fun call => Call.IsSleep.isIdle
    exact (Ensures.log logs _ _ _).mono_failed fun _ _ => False.elim

theorem drain (awaits : Awaits waiting held lapsed) (cluster : Cluster) (shard : ReplicaGroup)
    (decides : Ensures.Decides waiting held
      (Admin.isShardRemoved cluster.channel shard.nameValue)) :
    Ensures waiting (cluster.drain shard) (fun _ => held) (Fails waiting held lapsed) := by
  have connects : Keeps waiting (cluster.connectionString : Action ω String) :=
    (Router.connectionString_callsOnly _).keeps awaits.waits
  have names : Keeps waiting (conclude shard.nameValue.checkWritable : Action ω Unit) :=
    (CallsOnly.conclude _).keeps awaits.waits
  apply connects.bind fun _ _ => Or.inl
  intro routers
  apply awaits.during routers
  apply names.bind fun _ _ => Or.inl
  intro _
  exact awaits.awaitMembership cluster _ decides

end Awaits

end ShardFleet
