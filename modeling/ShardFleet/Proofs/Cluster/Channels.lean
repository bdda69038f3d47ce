import ShardFleet.Proofs.Cluster.Openings
import ShardFleet.Simulation.World

/-!
# Requests and their channels

A registration, a removal and a sharding command each hold a channel for the length of one body,
which only issues commands and waits between them; everything else is called while none is open. So
the calls of a request, wherever it opens its channels, never find another number of them open than
they need, and leave none open; and so do those of a whole run, whichever calls fail.
-/

namespace ShardFleet

variable {ω : Type}

open ShardFleet.Action

/-! ## What is called on a channel -/

section body

variable {cluster : Cluster} {shard : ReplicaGroup} {calls : List Event}
  {result : Except Failure Unit}

theorem Call.Repeats.needsChannel {sent : AdminCommand} {call : Call}
    (repeats : call.Repeats sent) : call.NeedsChannel := by
  rcases repeats with rfl | sleeps
  · trivial
  · cases call <;> first | exact sleeps.elim | trivial

theorem Polls.needsChannel {sent : AdminCommand} {reading : Value → Except Failure Bool}
    {description : Value} {limit : ℕ}
    (polls : Polls sent reading description limit calls result) :
    CalledOnly Call.NeedsChannel calls :=
  polls.repeats.mono fun _ => Call.Repeats.needsChannel

theorem Joins.needsChannel (joins : Joins cluster shard calls result) :
    CalledOnly Call.NeedsChannel calls := by
  cases joins with
  | unadded members failure => exact .single trivial
  | unset unset => exact .single trivial
  | added waits => exact .append (.single trivial) waits.needsChannel

theorem Empties.needsChannel (empties : Empties cluster shard calls result) :
    CalledOnly Call.NeedsChannel calls := by
  cases empties with
  | unnamed unwritten => exact .nil
  | unset unset => exact .nil
  | waits polls => exact polls.needsChannel

theorem Sends.needsChannel {sent : Except Failure AdminCommand} {answer : Except Failure Value}
    (sends : Sends sent calls answer) : CalledOnly Call.NeedsChannel calls := by
  cases sends with
  | unformed failure => exact .nil
  | sent command answer => exact .single trivial

end body

/-! ## Between the channels of a request -/

section shown

variable [Outside ω] {cluster : Cluster}

theorem Registers.restoreChannels {shard : ReplicaGroup} {outside : ω} {calls : List Event}
    {result : Except Failure Unit} (registers : Registers cluster shard outside calls result) :
    RestoreChannels 0 calls := by
  cases registers with
  | unwritten unwritten => exact .nil 0
  | written written visits => exact visits.restoreChannels fun _ _ => Joins.needsChannel

theorem Cluster.EntersAll.restoreChannels {shards : List ReplicaGroup} {before after : Session ω}
    {events : List Event} {result : Except Failure Unit}
    (enters : cluster.EntersAll shards before events after result) :
    RestoreChannels 0 (events.filter Event.isCall) := by
  induction enters with
  | done session => exact .nil 0
  | failed enters => exact enters.registers.restoreChannels
  | next enters others ih =>
      rw [List.filter_append]
      exact enters.registers.restoreChannels.append ih

theorem Request.Opens.restoreChannels {before : Running ω} {request : Request} {calls : List Event}
    (opens : request.Opens before calls) : RestoreChannels 0 calls := by
  cases opens with
  | settled settled => exact .nil 0
  | unstarted idle starts apart => exact .of_apart apart
  | started idle starts apart enters =>
      exact (RestoreChannels.of_apart apart).append enters.restoreChannels
  | stopped apart => exact .of_apart apart
  | unbuilt builds apart => exact .of_apart apart
  | down builds starts apart => exact .of_apart apart
  | added builds starts apart enters =>
      exact (RestoreChannels.of_apart apart).append enters.registers.restoreChannels
  | shardless empty => exact .nil 0
  | drained last visits apart =>
      exact (visits.restoreChannels fun _ _ => Empties.needsChannel).append (.of_apart apart)
  | sharded sharding visits => exact visits.restoreChannels fun _ _ => Sends.needsChannel

end shown

namespace Request

variable [Outside ω] {running : Running ω}

/-- What the events of a request are as to its channels. -/
structure HoldsChannels (before : Running ω) (request : Request) (events : List Event)
    (after : Running ω) : Prop where
  evolves : before.session.Evolves events after.session
  keeps : KeepsChannels events
  opens : Opens before request (events.filter Event.isCall)
  /-- A sharding command that can be put together, as it always can of texts, is sent once if the
  channel is opened, and not otherwise. -/
  sends : ∀ command, request.sharding? = some (.ok command) →
    events.countP Event.isOpening ≤ 1 ∧
      events.countP Event.isSending = events.countP Event.isOpening
  unchanged : request.sharding? ≠ none →
    after.cluster = before.cluster ∧ after.session.stateOf = before.session.stateOf

theorem Opens.sends {request : Request} {command : AdminCommand} {events : List Event}
    (opens : Opens running request (events.filter Event.isCall))
    (sharding : request.sharding? = some (.ok command)) :
    events.countP Event.isOpening ≤ 1 ∧
      events.countP Event.isSending = events.countP Event.isOpening := by
  rw [← countP_filter_isCall events fun _ => Event.isCall_of_isOpening,
    ← countP_filter_isCall events fun _ => Event.isCall_of_isSending]
  generalize events.filter Event.isCall = calls at opens
  cases opens with
  | sharded formed visits =>
      cases formed.symm.trans sharding
      cases visits with
      | unaddressed lacks => exact ⟨Nat.zero_le _, rfl⟩
      | addressed shows during =>
          apply during.sends
          rintro inside answer ⟨⟩
          exact ⟨rfl, rfl⟩
  | _ => cases sharding

theorem commanded_unchanged {command : Action ω Value} {operation : Operation ω Unit}
    {after : Running ω} (calls : CallsOnly (Call.OnChannel AdminCommand.Shards) command)
    (course : Operation.CommandCourse running command (operation running))
    (ran : finalState operation running = after) :
    after.cluster = running.cluster ∧ after.session.stateOf = running.session.stateOf := by
  rcases commanded_yields calls course ran with ⟨events, session, rfl, within⟩
  exact ⟨rfl, within.stateOf_eq⟩

theorem run_unchanged {request : Request} (sharding : request.sharding? ≠ none) :
    (run running request).cluster = running.cluster ∧
      (run running request).session.stateOf = running.session.stateOf := by
  cases request with
  | enableSharding database =>
      exact commanded_unchanged (Admin.enableSharding_callsOnly _ _ fun _ => id)
        (Operation.enableSharding_course running database) rfl
  | shardCollection database collection keyField =>
      exact commanded_unchanged (Admin.shardCollection_callsOnly _ _ _ _ fun _ => id)
        (Operation.shardCollection_course running database collection keyField) rfl
  | _ => exact absurd rfl sharding

theorem run_holdsChannels (running : Running ω) (request : Request) :
    ∃ events, HoldsChannels running request events (run running request) := by
  rcases run_opens running request with ⟨events, evolves, opens⟩
  have restore := RestoreChannels.of_filter (Or.inl rfl) opens.restoreChannels
  exact ⟨events, evolves, restore.keepsChannels, opens, fun _ => opens.sends, run_unchanged⟩

/-- Whatever a cluster is asked for and whatever fails, at any time at most one channel is open.
Each request closes the channels that it opens, and nothing but commands and waits happens
meanwhile. -/
theorem runAll_holdsChannels (running : Running ω) (requests : List Request) :
    (∀ request, ∃ events, HoldsChannels (runAll requests running) request events
      (run (runAll requests running) request)) ∧
    ∃ events, running.session.Evolves events (runAll requests running).session ∧
      KeepsChannels events := by
  refine ⟨run_holdsChannels (runAll requests running), ?_⟩
  suffices restored : ∃ events, running.session.Evolves events (runAll requests running).session ∧
      RestoreChannels 0 events by
    rcases restored with ⟨events, evolves, restore⟩
    exact ⟨events, evolves, restore.keepsChannels⟩
  induction requests using List.reverseRecOn with
  | nil => exact ⟨[], .refl _, .nil 0⟩
  | append_singleton earlier request ih =>
      rcases ih with ⟨before, evolves, restore⟩
      rcases run_opens (runAll earlier running) request with ⟨events, follows, opens⟩
      rw [runAll_append]
      exact ⟨before ++ events, evolves.trans follows,
        restore.append (.of_filter (Or.inl rfl) opens.restoreChannels)⟩

/-- Users are to be spread over the shards. -/
def usersSharding : Request := .shardCollection (.text "app") (.text "users") (.text "id")

/-- A simulated cluster of two shards. Its start opens a channel for each of them, and a sharding
command opens one more, through which one command is sent. -/
theorem runAll_holdsChannels_simulated :
    ∃ (cluster : Cluster) (session : Session Simulation.World) (starting sharding : List Event),
      Cluster.build { shardCount := .int 2 } .supplied Simulation.patience (Session.fresh {}) =
        .ok cluster session ∧
      HoldsChannels ⟨cluster, session⟩ .start starting (run ⟨cluster, session⟩ .start) ∧
      starting.countP Event.isOpening = 2 ∧
      HoldsChannels (run ⟨cluster, session⟩ .start) usersSharding sharding
        (run (run ⟨cluster, session⟩ .start) usersSharding) ∧
      sharding.countP Event.isOpening = 1 ∧ sharding.countP Event.isSending = 1 := by
  have opens : returnsWith (fun cluster session =>
      let up := run ⟨cluster, session⟩ .start
      let after := run up usersSharding
      decide (session.history.countP Event.isOpening = 0 ∧
        up.session.history.countP Event.isOpening = 2 ∧
        after.session.history.countP Event.isOpening = 3))
      (Cluster.build { shardCount := .int 2 } .supplied Simulation.patience
        (Session.fresh ({} : Simulation.World))) = true := by
    decide +kernel
  rcases exists_of_returnsWith opens with ⟨cluster, session, built, counts⟩
  rcases of_decide_eq_true counts with ⟨before, up, after⟩
  rcases (runAll_holdsChannels ⟨cluster, session⟩ []).1 .start with ⟨starting, starts⟩
  rcases (runAll_holdsChannels ⟨cluster, session⟩ [.start]).1 usersSharding with
    ⟨sharding, shards⟩
  have startHistory : (run ⟨cluster, session⟩ .start).session.history =
      session.history ++ starting := starts.evolves.history
  have shardHistory : (run (run ⟨cluster, session⟩ .start) usersSharding).session.history =
      (run ⟨cluster, session⟩ .start).session.history ++ sharding := shards.evolves.history
  rw [startHistory, List.countP_append, before, Nat.zero_add] at up
  rw [shardHistory, List.countP_append, startHistory, List.countP_append, before, up] at after
  have once : sharding.countP Event.isOpening = 1 := by omega
  exact ⟨cluster, session, starting, sharding, built, starts, up, shards, once,
    (shards.sends _ (congrArg some (Admin.shardingOf_text _ _ _))).2.trans once⟩

end Request

end ShardFleet
