import ShardFleet.Proofs.Cluster.Removing
import ShardFleet.Proofs.Cluster.Run

/-!
# Where requests open their channels

A start registers the shards one after another once all components are up, an addition registers its
shard once that is up, a removal drains the last shard, and a sharding command goes to the first
router alone. Each of them opens its channel at the address that the routers have at that moment,
unless something has failed before or they have none. What a sharding command sends through its
channel is that command and nothing else.
-/

namespace ShardFleet

open ShardFleet.Action

variable {ω : Type}

namespace Call

theorem Constructs.isApart {names : String → Prop} {call : Call}
    (constructs : call.Constructs names) : call.IsApart := by
  cases call <;> trivial

end Call

theorem Transition.Reaches.isApart {transition : Transition} {components : List Component}
    {call : Call} (reaches : transition.Reaches components call) : call.IsApart := by
  rcases reaches with ⟨component, _, rfl⟩
  cases transition <;> trivial

/-- One command is sent, unless it cannot be put together. -/
inductive Sends : Except Failure AdminCommand → List Event → Except Failure Value → Prop where
  | unformed (failure : Failure) : Sends (.error failure) [] (.error failure)
  | sent (command : AdminCommand) (answer : Except Failure Value) :
      Sends (.ok command) [.called (.command command) answer] answer

namespace Request

/-- The command that a sharding request is to send. -/
def sharding? : Request → Option (Except Failure AdminCommand)
  | .enableSharding database => some (.ok ⟨.text "enableSharding", database, []⟩)
  | .shardCollection database collection keyField =>
      some (Admin.shardingOf database collection keyField)
  | _ => none

variable [Outside ω]

/-- The calls of a request, as to where it opens channels and what it does on them. -/
inductive Opens (before : Running ω) : Request → List Event → Prop where
  | settled (settled : before.cluster.state ≠ .notStarted) : Opens before .start []
  /-- A component did not start. -/
  | unstarted {entry : LogEntry} {failure : Failure} {session : Session ω} {calls : List Event}
      (idle : before.cluster.state = .notStarted)
      (starts : before.cluster.order.startAll before.cluster.topology.components
        (before.session.record (.logged entry)) = .error failure session)
      (apart : CalledOnly Call.IsApart calls) : Opens before .start calls
  | started {entry : LogEntry} {up after : Session ω} {calls joins : List Event}
      {result : Except Failure Unit}
      (idle : before.cluster.state = .notStarted)
      (starts : before.cluster.order.startAll before.cluster.topology.components
        (before.session.record (.logged entry)) = .ok () up)
      (apart : CalledOnly Call.IsApart calls)
      (enters : before.cluster.EntersAll before.cluster.topology.shards up joins after result) :
      Opens before .start (calls ++ joins.filter Event.isCall)
  | stopped {calls : List Event} (apart : CalledOnly Call.IsApart calls) :
      Opens before .stop calls
  | unbuilt {failure : Failure} {session : Session ω} {calls : List Event}
      (builds : before.cluster.shape.blueprint.buildShard (before.cluster.shardsCreated + 1)
        before.session = .error failure session)
      (apart : CalledOnly Call.IsApart calls) : Opens before .addShard calls
  /-- The new shard did not start. -/
  | down {shard : ReplicaGroup} {failure : Failure} {built session : Session ω}
      {calls : List Event}
      (builds : before.cluster.shape.blueprint.buildShard (before.cluster.shardsCreated + 1)
        before.session = .ok shard built)
      (starts : shard.toComponent.start built = .error failure session)
      (apart : CalledOnly Call.IsApart calls) : Opens before .addShard calls
  | added {shard : ReplicaGroup} {built up after : Session ω} {called : Bool}
      {result : Except Failure Unit} {calls joins : List Event}
      (builds : before.cluster.shape.blueprint.buildShard (before.cluster.shardsCreated + 1)
        before.session = .ok shard built)
      (starts : shard.toComponent.start built = .ok called up)
      (apart : CalledOnly Call.IsApart calls)
      (enters : before.cluster.Enters shard up joins after result) :
      Opens before .addShard (calls ++ joins.filter Event.isCall)
  | shardless (empty : before.cluster.topology.shards = []) : Opens before .removeShard []
  | drained {shard : ReplicaGroup} {calls stops : List Event} {result : Except Failure Unit}
      (last : before.cluster.topology.shards.getLast? = some shard)
      (visits : before.cluster.channel.Visits
        (Router.shownAddress before.cluster.topology.routers before.session.outside)
        (Empties before.cluster shard) calls result)
      (apart : CalledOnly Call.IsApart stops) : Opens before .removeShard (calls ++ stops)
  | sharded {request : Request} {command : Except Failure AdminCommand} {calls : List Event}
      {answer : Except Failure Value} (sharding : request.sharding? = some command)
      (visits : before.cluster.channel.Visits
        (Router.shownAddress (before.cluster.topology.routers.take 1) before.session.outside)
        (Sends command) calls answer) :
      Opens before request calls

end Request

/-! ## Sharding commands -/

section sharding

variable [Outside ω] {running : Running ω}

theorem Admin.enableSharding_sends (channel : Channel) (database : Value) :
    Traces (Sends (.ok ⟨.text "enableSharding", database, []⟩))
      (Admin.enableSharding channel database : Action ω Value) := by
  refine (Traces.command channel _).mono ?_
  rintro calls answer rfl
  exact .sent _ answer

theorem Admin.shardCollection_sends (channel : Channel) (database collection keyField : Value) :
    Traces (Sends (Admin.shardingOf database collection keyField))
      (Admin.shardCollection channel database collection keyField : Action ω Value) := by
  apply Traces.conclude_bind
  · intro failure unformed
    rw [unformed]
    exact .unformed failure
  · intro command formed
    rw [formed]
    refine (Traces.command channel command).mono ?_
    rintro calls answer rfl
    exact .sent command answer

theorem Cluster.onFirstRouter_tracesFrom (cluster : Cluster) {command : Action ω Value}
    {kind : List Event → Except Failure Value → Prop} (sends : Traces kind command)
    (session : Session ω) :
    TracesFrom session
      (fun calls _ => ∃ answer, cluster.channel.Visits
        (Router.shownAddress (cluster.topology.routers.take 1) session.outside) kind calls answer)
      (cluster.onFirstRouter command) := by
  apply TracesFrom.read_bind (Router.connectionString_eq _ session)
  · exact fun failure lacks => ⟨_, .unaddressed lacks⟩
  · intro address shows
    apply (sends.during session).bind
    · exact fun calls failure during => ⟨_, .addressed shows during⟩
    · intro calls answer during
      apply Traces.pure
      rw [List.append_nil]
      exact ⟨_, .addressed shows during⟩

theorem Request.commanded_opens {command : Action ω Value} {operation : Operation ω Unit}
    {request : Request} {sent : Except Failure AdminCommand}
    (sharding : request.sharding? = some sent)
    (sends : Traces (Sends sent) command)
    (course : Operation.CommandCourse running command (operation running)) :
    ∃ events, running.session.Evolves events (finalState operation running).session ∧
      Opens running request (events.filter Event.isCall) := by
  have visits := running.cluster.onFirstRouter_tracesFrom sends running.session
  rw [finalState]
  generalize operation running = result at course
  cases course with
  | failed runs =>
      rcases visits.of_conclude (show _ = conclude (.error _) _ from runs) with
        ⟨events, evolves, answer, opens⟩
      exact ⟨events, evolves, .sharded sharding opens⟩
  | done runs =>
      rcases visits.of_conclude (show _ = conclude (.ok ()) _ from runs) with
        ⟨events, evolves, answer, opens⟩
      refine ⟨_, evolves.trans (.logged _ _), ?_⟩
      rw [filter_isCall_logged]
      exact .sharded sharding opens

end sharding

/-! ## Every request -/

namespace Request

variable [Outside ω] {running : Running ω}

theorem start_opens : ∃ events, running.session.Evolves events (run running .start).session ∧
    Opens running .start (events.filter Event.isCall) := by
  have apart : Traces (fun calls _ => CalledOnly Call.IsApart calls)
      (running.cluster.order.startAll running.cluster.topology.components : Action ω Unit) :=
    .of_callsOnly ((StartOrder.startAll_callsOnly _ _).mono fun _ => Transition.Reaches.isApart)
  have course := Operation.start_course running
  rw [run, finalState]
  generalize Operation.start running = result at course
  cases course with
  | already up => exact ⟨[], .refl _, .settled (by simp [up])⟩
  | refused down => exact ⟨[], .refl _, .settled (by simp [down])⟩
  | unstarted idle starts =>
      rcases apart.of_error starts with ⟨events, evolves, calls⟩
      exact ⟨_, (Session.Evolves.logged _ _).trans evolves, .unstarted idle starts calls⟩
  | unregistered idle starts failed =>
      rcases apart.of_ok starts with ⟨events, evolves, calls⟩
      rcases Cluster.entersAll_of_registerAll (show _ = conclude (.error _) _ from failed) with
        ⟨joins, enters⟩
      refine ⟨_, ((Session.Evolves.logged _ _).trans evolves).trans enters.evolves, ?_⟩
      rw [List.filter_append]
      exact .started idle starts calls enters
  | started idle starts registered =>
      rcases apart.of_ok starts with ⟨events, evolves, calls⟩
      rcases Cluster.entersAll_of_registerAll (show _ = conclude (.ok ()) _ from registered) with
        ⟨joins, enters⟩
      refine ⟨_, (((Session.Evolves.logged _ _).trans evolves).trans enters.evolves).trans
        (.logged _ _), ?_⟩
      rw [filter_isCall_logged, List.filter_append]
      exact .started idle starts calls enters

theorem stop_opens : ∃ events, running.session.Evolves events (run running .stop).session ∧
    Opens running .stop (events.filter Event.isCall) := by
  have stops : CallsOnly Call.IsApart
      (running.cluster.order.stopAll running.cluster.ownedComponents : Action ω Unit) :=
    (StartOrder.stopAll_callsOnly _ _).mono fun _ => Transition.Reaches.isApart
  have course := Operation.stop_course running
  rw [run, finalState]
  generalize Operation.stop running = result at course
  have released (entry : LogEntry) : ∃ events, running.session.EvolvesWithin Call.IsApart events
      ((finalState (running.cluster.order.stopAll running.cluster.ownedComponents)
        (running.session.record (.logged entry))).answered .closeNetwork) := by
    rcases stops (running.session.record (.logged entry)) with ⟨events, within⟩
    exact ⟨_, ((Session.EvolvesWithin.record _ _ rfl).trans within).trans
      (Session.evolvesWithin_answered _ rfl trivial)⟩
  cases course with
  | already down => exact ⟨[], .refl _, .stopped .nil⟩
  | unclosed active stopped closes =>
      subst stopped
      rcases released _ with ⟨events, within⟩
      exact ⟨events, within.evolves, .stopped (within.calls.filter _)⟩
  | unstopped active stopped closes =>
      rcases released _ with ⟨events, within⟩
      rw [finalState_of_error stopped] at within
      exact ⟨events, within.evolves, .stopped (within.calls.filter _)⟩
  | stopped active stopped closes =>
      rcases released _ with ⟨events, within⟩
      rw [finalState_of_ok stopped] at within
      refine ⟨_, within.evolves.trans (.logged _ _), ?_⟩
      rw [filter_isCall_logged]
      exact .stopped (within.calls.filter _)

theorem addShard_opens : ∃ events, running.session.Evolves events (run running .addShard).session ∧
    Opens running .addShard (events.filter Event.isCall) := by
  have constructs : CallsOnly (Call.Constructs fun _ => True)
      (running.cluster.shape.blueprint.buildShard (running.cluster.shardsCreated + 1) :
        Action ω ReplicaGroup) := Blueprint.buildShard_callsOnly _ trivial
  have builds : Traces (fun calls _ => CalledOnly Call.IsApart calls)
      (running.cluster.shape.blueprint.buildShard (running.cluster.shardsCreated + 1) :
        Action ω ReplicaGroup) :=
    .of_callsOnly (constructs.mono fun _ => Call.Constructs.isApart)
  have starts (shard : ReplicaGroup) : Traces (fun calls _ => CalledOnly Call.IsApart calls)
      (shard.toComponent.start : Action ω Bool) :=
    .of_callsOnly (Transition.start.run_callsOnly shard.toComponent trivial)
  have course := Operation.addShard_course running
  rw [run, finalState]
  generalize Operation.addShard running = result at course
  cases course with
  | unbuilt building =>
      rcases builds.of_error building with ⟨events, evolves, calls⟩
      exact ⟨events, evolves, .unbuilt building calls⟩
  | unstarted building starting =>
      rcases builds.of_ok building with ⟨events, evolves, calls⟩
      rcases (starts _).of_error starting with ⟨later, follows, others⟩
      refine ⟨_, evolves.trans follows, ?_⟩
      rw [List.filter_append]
      exact .down building starting (calls.append others)
  | @stranded shard built up left called failure entry building starting registering =>
      rcases builds.of_ok building with ⟨events, evolves, calls⟩
      rcases (starts _).of_ok starting with ⟨later, follows, others⟩
      rcases running.cluster.register_enters shard up with ⟨joins, result, after, run, enters⟩
      rcases conclude_inj.mp
        ((show _ = conclude (.error failure) _ from registering).symm.trans run) with ⟨rfl, rfl⟩
      refine ⟨_, ((evolves.trans follows).trans enters.evolves).trans (.logged _ _), ?_⟩
      rw [filter_isCall_logged, List.filter_append, List.filter_append]
      exact .added building starting (calls.append others) enters
  | @joined shard built up session called building starting registering =>
      rcases builds.of_ok building with ⟨events, evolves, calls⟩
      rcases (starts _).of_ok starting with ⟨later, follows, others⟩
      rcases running.cluster.register_enters shard up with ⟨joins, result, after, run, enters⟩
      rcases conclude_inj.mp ((show _ = conclude (.ok ()) _ from registering).symm.trans run) with
        ⟨rfl, rfl⟩
      refine ⟨_, (evolves.trans follows).trans enters.evolves, ?_⟩
      rw [List.filter_append, List.filter_append]
      exact .added building starting (calls.append others) enters

theorem removeShard_opens :
    ∃ events, running.session.Evolves events (run running .removeShard).session ∧
      Opens running .removeShard (events.filter Event.isCall) := by
  have drains (shard : ReplicaGroup) (entry : LogEntry) :=
    running.cluster.drain_tracesFrom shard (running.session.record (.logged entry))
  have stops (shard : ReplicaGroup) : Traces (fun calls _ => CalledOnly Call.IsApart calls)
      (shard.toComponent.stop : Action ω Bool) :=
    .of_callsOnly (Transition.stop.run_callsOnly shard.toComponent trivial)
  have course := Operation.removeShard_course running
  rw [run, finalState]
  generalize Operation.removeShard running = result at course
  cases course with
  | shardless empty => exact ⟨[], .refl _, .shardless empty⟩
  | @undrained shard entry failure session last draining =>
      rcases (drains shard entry).of_conclude (show _ = conclude (.error failure) _ from draining)
        with ⟨events, evolves, visits⟩
      refine ⟨_, (Session.Evolves.logged _ entry).trans evolves, ?_⟩
      rw [← List.append_nil (List.filter _ _)]
      exact .drained last visits .nil
  | @unstopped shard entry drained session failure last draining stopping =>
      rcases (drains shard entry).of_conclude (show _ = conclude (.ok ()) _ from draining)
        with ⟨events, evolves, visits⟩
      rcases (stops shard).of_error stopping with ⟨later, follows, calls⟩
      refine ⟨_, ((Session.Evolves.logged _ entry).trans evolves).trans follows, ?_⟩
      rw [List.filter_append]
      exact .drained last visits calls
  | @removed shard entry final drained down called last draining stopping =>
      rcases (drains shard entry).of_conclude (show _ = conclude (.ok ()) _ from draining)
        with ⟨events, evolves, visits⟩
      rcases (stops shard).of_ok stopping with ⟨later, follows, calls⟩
      refine ⟨_, (((Session.Evolves.logged _ entry).trans evolves).trans follows).trans
        (.logged _ final), ?_⟩
      rw [filter_isCall_logged, List.filter_append]
      exact .drained last visits calls

theorem run_opens (running : Running ω) (request : Request) :
    ∃ events, running.session.Evolves events (run running request).session ∧
      Opens running request (events.filter Event.isCall) := by
  cases request with
  | start => exact start_opens
  | stop => exact stop_opens
  | addShard => exact addShard_opens
  | removeShard => exact removeShard_opens
  | enableSharding database =>
      exact commanded_opens rfl (Admin.enableSharding_sends _ database)
        (Operation.enableSharding_course running database)
  | shardCollection database collection keyField =>
      exact commanded_opens rfl (Admin.shardCollection_sends _ database collection keyField)
        (Operation.shardCollection_course running database collection keyField)

end Request

end ShardFleet
