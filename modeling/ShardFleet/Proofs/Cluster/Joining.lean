import ShardFleet.Proofs.Cluster.Waiting
import ShardFleet.Proofs.Session.ChannelUse

/-!
# How shards join the admin namespace

A registration adds the shard and then asks for the shards that are listed, again and again, until
one response gives it as active. It fails with the first thing that fails, unless the channel fails
to close as well, and shards are registered one after another up to the first failure. All this is
said of the calls alone, in order and with their answers.
-/

namespace ShardFleet

open ShardFleet.Action

variable {ω : Type} [Outside ω]

/-- The calls of a wait for what a response is read as: one command for each look, and a sleep
between two of them. At most so many looks are taken. -/
inductive Polls (sent : AdminCommand) (reading : Value → Except Failure Bool)
    (description : Value) : Nat → List Event → Except Failure Unit → Prop where
  | held {limit : Nat} {response : Value} (reads : reading response = .ok true) :
      Polls sent reading description (limit + 1) [.called (.command sent) (.ok response)] (.ok ())
  | refused {limit : Nat} (failure : Failure) :
      Polls sent reading description (limit + 1) [.called (.command sent) (.error failure)]
        (.error failure)
  | unreadable {limit : Nat} {response : Value} {failure : Failure}
      (reads : reading response = .error failure) :
      Polls sent reading description (limit + 1) [.called (.command sent) (.ok response)]
        (.error failure)
  /-- The time that has passed is no number of milliseconds. -/
  | untimed {limit : Nat} {response : Value} {holds : Bool} {failure : Failure}
      (reads : reading response = .ok holds) (untimed : failure.IsUntimed) :
      Polls sent reading description (limit + 1) [.called (.command sent) (.ok response)]
        (.error failure)
  | lapsed {limit : Nat} {response : Value} {elapsed : Int} (reads : reading response = .ok false) :
      Polls sent reading description (limit + 1) [.called (.command sent) (.ok response)]
        (.error (.membershipTimeout description elapsed none))
  | unslept {limit : Nat} {response : Value} {seconds : Binary64} {failure : Failure}
      (reads : reading response = .ok false) :
      Polls sent reading description (limit + 1)
        [.called (.command sent) (.ok response), .called (.sleep seconds) (.error failure)]
        (.error failure)
  | again {limit : Nat} {response : Value} {seconds : Binary64} {later : List Event}
      {result : Except Failure Unit} (reads : reading response = .ok false)
      (more : Polls sent reading description limit later result) :
      Polls sent reading description (limit + 1)
        ([.called (.command sent) (.ok response), .called (.sleep seconds) (.ok ())] ++ later)
        result
  | abandoned : Polls sent reading description 0 [] (.error .abandoned)

/-- The times of the policy cannot be read. -/
def PollPolicy.Unset (policy : PollPolicy) (result : Except Failure Unit) : Prop :=
  ∃ failure, result = .error failure ∧
    (Seconds.ofMilliseconds policy.timeout = (.error failure : Except Failure Binary64) ∨
      Seconds.ofMilliseconds policy.interval = (.error failure : Except Failure Binary64))

/-- The calls of a registration once the channel is open. -/
inductive Joins (cluster : Cluster) (shard : ReplicaGroup) :
    List Event → Except Failure Unit → Prop where
  | unadded (members : List Address) (failure : Failure) :
      Joins cluster shard
        [.called (.command (AdminCommand.adding shard.name.toText members)) (.error failure)]
        (.error failure)
  | unset {members : List Address} {response : Value} {result : Except Failure Unit}
      (unset : cluster.shape.membership.Unset result) :
      Joins cluster shard
        [.called (.command (AdminCommand.adding shard.name.toText members)) (.ok response)] result
  | added {members : List Address} {response : Value} {polls : List Event}
      {result : Except Failure Unit}
      (waits : Polls AdminCommand.listing (Admin.readActive shard.nameValue)
        (.text ("shard " ++ shard.name.toText ++ " to become active")) cluster.patience polls
        result) :
      Joins cluster shard
        ([.called (.command (AdminCommand.adding shard.name.toText members)) (.ok response)] ++
          polls) result

/-- The calls of a registration that begins in the world given: without an address to be told, or
one to be told it at, nothing is called. -/
inductive Registers (cluster : Cluster) (shard : ReplicaGroup) (outside : ω) :
    List Event → Except Failure Unit → Prop where
  | unwritten {failure : Failure} (unwritten : shard.shownAddress false outside = .error failure) :
      Registers cluster shard outside [] (.error failure)
  | written {address : String} {calls : List Event} {result : Except Failure Unit}
      (written : shard.shownAddress false outside = .ok address)
      (visits : cluster.channel.Visits (Router.shownAddress cluster.topology.routers outside)
        (Joins cluster shard) calls result) :
      Registers cluster shard outside calls result

/-- One look: a command, and what its response is read as. -/
inductive Looks (sent : AdminCommand) (reading : Value → Except Failure Bool) :
    List Event → Except Failure Bool → Prop where
  | refused (failure : Failure) :
      Looks sent reading [.called (.command sent) (.error failure)] (.error failure)
  | answered {response : Value} {result : Except Failure Bool} (reads : reading response = result) :
      Looks sent reading [.called (.command sent) (.ok response)] result

namespace Action.Traces

variable {sent : AdminCommand} {reading : Value → Except Failure Bool} {condition : Action ω Bool}

theorem look (channel : Channel) (sent : AdminCommand) (reading : Value → Except Failure Bool) :
    Traces (Looks sent reading) (channel.command sent >>= fun response =>
      ShardFleet.conclude (reading response) : Action ω Bool) := by
  apply (command channel sent).bind
  · rintro calls failure rfl
    exact .refused failure
  · rintro calls response rfl
    exact conclude _ (.answered rfl)

theorem elapsedSince (start : Binary64) :
    Traces (fun calls result => calls = [] ∧ ∀ failure, result = .error failure → failure.IsUntimed)
      (Polling.elapsedSince (Surroundings.ofSession (ω := ω)) start) := by
  apply readClock_bind
  intro now
  exact conclude _ ⟨rfl, fun failure => isUntimed_of_toMilliseconds⟩

/-- A wait looks, and sleeps before it looks again. -/
theorem poll (looks : Traces (Looks sent reading) condition) (description : Value)
    (start deadline interval : Binary64) (limit attempts : Nat) :
    Traces (fun calls result =>
        Polls sent reading description limit calls (result.map fun _ => ()))
      (Polling.poll Surroundings.ofSession condition description start deadline interval limit
        attempts) := by
  induction limit generalizing attempts with
  | zero => exact throw _ .abandoned
  | succ limit ih =>
      apply looks.bind
      · intro calls failure look
        cases look with
        | refused => exact .refused failure
        | answered reads => exact .unreadable reads
      · intro calls holds look
        cases look with
        | answered reads =>
            cases holds with
            | true =>
                apply (elapsedSince start).bind
                · rintro quiet failure ⟨rfl, untimed⟩
                  exact .untimed reads (untimed failure rfl)
                · rintro quiet elapsed ⟨rfl, _⟩
                  exact log_bind (pure _ (.held reads))
            | false =>
                apply readClock_bind
                intro now
                dsimp only
                split
                · apply (elapsedSince start).bind
                  · rintro quiet failure ⟨rfl, untimed⟩
                    exact .untimed reads (untimed failure rfl)
                  · rintro quiet elapsed ⟨rfl, _⟩
                    exact log_bind (throw _ (.lapsed reads))
                · apply (perform rfl).bind
                  · rintro slept failure rfl
                    exact .unslept reads
                  · rintro slept value rfl
                    refine (ih (attempts + 1)).mono fun later result more => ?_
                    exact .again reads more

theorem awaitCondition (looks : Traces (Looks sent reading) condition) (limit : Nat)
    (description : Value) (policy : PollPolicy) :
    Traces (fun calls result => calls = [] ∧ policy.Unset (result.map fun _ => ()) ∨
        Polls sent reading description limit calls (result.map fun _ => ()))
      (Polling.awaitCondition Surroundings.ofSession limit condition description policy) := by
  apply readClock_bind
  intro start
  apply (ofOutcome (Seconds.ofMilliseconds policy.timeout)).bind
  · rintro quiet failure ⟨rfl, unset⟩
    exact Or.inl ⟨rfl, failure, rfl, Or.inl unset.symm⟩
  · rintro quiet timeout ⟨rfl, _⟩
    apply (ofOutcome (Seconds.ofMilliseconds policy.interval)).bind
    · rintro quiet failure ⟨rfl, unset⟩
      exact Or.inl ⟨rfl, failure, rfl, Or.inr unset.symm⟩
    · rintro quiet interval ⟨rfl, _⟩
      exact (poll looks _ _ _ _ _ _).mono fun calls result => Or.inr

theorem awaitMembership (looks : Traces (Looks sent reading) condition) (cluster : Cluster)
    (description : String) :
    Traces (fun calls result => calls = [] ∧ cluster.shape.membership.Unset result ∨
        Polls sent reading (.text description) cluster.patience calls result)
      (cluster.awaitMembership description condition) := by
  apply (awaitCondition looks _ _ _).bind
  · exact fun calls failure => id
  · intro calls attempts waits
    apply pure
    rwa [List.append_nil]

end Action.Traces

namespace Cluster

variable (cluster : Cluster)

theorem registerBy_tracesFrom (shard : ReplicaGroup) (members : List Address)
    (session : Session ω) :
    TracesFrom session
      (cluster.channel.Visits (Router.shownAddress cluster.topology.routers session.outside)
        (Joins cluster shard))
      (cluster.registerBy shard (Address.ofReplicaSet shard.name.toText members)) := by
  have joins : Traces (Joins cluster shard)
      (Admin.addShard cluster.channel (.text (Address.ofReplicaSet shard.name.toText members)) >>=
        fun _ => cluster.awaitMembership ("shard " ++ shard.name.toText ++ " to become active")
          (Admin.isShardActive cluster.channel shard.nameValue) : Action ω Unit) := by
    apply (Traces.command cluster.channel (AdminCommand.adding shard.name.toText members)).bind
    · rintro calls failure rfl
      exact .unadded members failure
    · rintro calls response rfl
      rw [Admin.isShardActive_eq]
      refine (Traces.awaitMembership (.look _ _ _) cluster _).mono ?_
      rintro polls result (⟨rfl, unset⟩ | waits)
      · exact .unset unset
      · exact .added waits
  apply TracesFrom.log_bind
  apply TracesFrom.read_bind (Router.connectionString_eq cluster.topology.routers _)
  · exact fun failure lacks => .unaddressed lacks
  · intro routers shows
    apply (joins.during _).bind
    · intro calls failure during
      exact .addressed shows during
    · intro calls value during
      apply Traces.log
      rw [List.append_nil]
      exact .addressed shows during

theorem register_tracesFrom (shard : ReplicaGroup) (session : Session ω) :
    TracesFrom session (Registers cluster shard session.outside) (cluster.register shard) := by
  apply TracesFrom.read_bind (shard.replicaSetAddress_eq false session)
  · exact fun failure unwritten => .unwritten unwritten
  · intro address written
    rw [(Address.writeReplicaSet_eq_ok_iff.mp written).2]
    exact (cluster.registerBy_tracesFrom shard _ session).mono fun calls result =>
      .written written

end Cluster

end ShardFleet
