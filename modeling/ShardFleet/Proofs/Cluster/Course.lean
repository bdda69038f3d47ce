import ShardFleet.Cluster.Operation
import ShardFleet.Proofs.Session.Calls

/-!
# How operations go

An operation on a cluster is a few actions in its session, one after another, with a change of the
cluster in between. Its course tells which of them were run and which one failed, and with that what
the operation returned and in which cluster and session it ended. Every operation has one of the
courses listed for it, so nothing else about the operations has to be unfolded.
-/

namespace ShardFleet

variable {ω : Type} {α : Type}

section onCluster

variable {action : Action ω α} {cluster : Cluster} {session after : Session ω}

theorem onCluster_of_ok {value : α} (run : action session = .ok value after) :
    action.onCluster ⟨cluster, session⟩ = .ok value ⟨cluster, after⟩ := by
  simp [Action.onCluster, run]

theorem onCluster_of_error {failure : Failure} (run : action session = .error failure after) :
    action.onCluster ⟨cluster, session⟩ = .error failure ⟨cluster, after⟩ := by
  simp [Action.onCluster, run]

end onCluster

namespace Cluster

/-- The cluster with one more shard asked for. -/
def counted (cluster : Cluster) : Cluster :=
  { cluster with shardsCreated := cluster.shardsCreated + 1 }

/-- The cluster with one more shard, which is registered. -/
def registered (cluster : Cluster) (shard : ReplicaGroup) : Cluster :=
  { cluster with
    shardsCreated := cluster.shardsCreated + 1
    topology := { cluster.topology with shards := cluster.topology.shards ++ [shard] } }

/-- The cluster with one more shard, which is not registered. -/
def stranded (cluster : Cluster) (shard : ReplicaGroup) : Cluster :=
  { cluster with
    shardsCreated := cluster.shardsCreated + 1
    unregistered := cluster.unregistered ++ [shard] }

/-- The cluster without its last shard. -/
def shortened (cluster : Cluster) : Cluster :=
  { cluster with
    topology := { cluster.topology with shards := cluster.topology.shards.dropLast } }

/-- The cluster once it is stopped for good. -/
def released (cluster : Cluster) : Cluster := { cluster with state := .stopped }

end Cluster

namespace Operation

section bind

variable {running : Running ω}

theorem cluster_bind {next : Cluster → Operation ω α} :
    (cluster >>= next) running = next running.cluster running := rfl

theorem modifyCluster_bind {change : Cluster → Cluster} {next : Unit → Operation ω α} :
    (modifyCluster change >>= next) running =
      next () { running with cluster := change running.cluster } := rfl

theorem log_bind {level : LogLevel} {event : String} {context : List (String × Value)}
    {next : Unit → Operation ω α} :
    ((Action.log level event context).onCluster >>= next) running =
      next () { running with session := running.session.record (.logged ⟨level, event, context⟩) } :=
  rfl

end bind

variable [Outside ω]

inductive StartCourse (running : Running ω) : EStateM.Result Failure (Running ω) Unit → Prop where
  | already (up : running.cluster.state = .started) : StartCourse running (.ok () running)
  | refused (down : running.cluster.state = .stopped) :
      StartCourse running (.error (.misconfigured .released) running)
  /-- A component did not start. -/
  | unstarted {entry : LogEntry} {failure : Failure} {session : Session ω}
      (idle : running.cluster.state = .notStarted)
      (starts : running.cluster.order.startAll running.cluster.topology.components
        (running.session.record (.logged entry)) = .error failure session) :
      StartCourse running (.error failure { running with session })
  /-- All components are started, and a shard was not registered. -/
  | unregistered {entry : LogEntry} {failure : Failure} {up session : Session ω}
      (idle : running.cluster.state = .notStarted)
      (starts : running.cluster.order.startAll running.cluster.topology.components
        (running.session.record (.logged entry)) = .ok () up)
      (registers : running.cluster.registerAll running.cluster.topology.shards up =
        .error failure session) :
      StartCourse running (.error failure { running with session })
  | started {entry last : LogEntry} {up joined : Session ω}
      (idle : running.cluster.state = .notStarted)
      (starts : running.cluster.order.startAll running.cluster.topology.components
        (running.session.record (.logged entry)) = .ok () up)
      (registers : running.cluster.registerAll running.cluster.topology.shards up = .ok () joined) :
      StartCourse running
        (.ok () ⟨{ running.cluster with state := .started }, joined.record (.logged last)⟩)

theorem start_course (running : Running ω) : StartCourse running (start running) := by
  rw [start, cluster_bind]
  cases state : running.cluster.state with
  | started => exact .already state
  | stopped => exact .refused state
  | notStarted =>
      dsimp only
      rw [log_bind]
      cases starts : running.cluster.order.startAll running.cluster.topology.components
          (running.session.record (.logged ⟨.info, "Starting sharded cluster",
            [("shards", .int running.cluster.topology.shards.length)]⟩)) with
      | error failure session =>
          rw [bind_of_error (onCluster_of_error starts)]
          exact .unstarted state starts
      | ok value up =>
          rw [bind_of_ok (onCluster_of_ok starts)]
          cases registers : running.cluster.registerAll running.cluster.topology.shards up with
          | error failure session =>
              rw [bind_of_error (onCluster_of_error registers)]
              exact .unregistered state starts registers
          | ok value joined =>
              rw [bind_of_ok (onCluster_of_ok registers)]
              exact .started state starts registers

inductive StopCourse (running : Running ω) : EStateM.Result Failure (Running ω) Unit → Prop where
  | already (down : running.cluster.state = .stopped) : StopCourse running (.ok () running)
  /-- Whatever came of the components, the network did not close. -/
  | unclosed {entry : LogEntry} {failure : Failure} {down : Session ω}
      (active : running.cluster.state ≠ .stopped)
      (stops : finalState (running.cluster.order.stopAll running.cluster.ownedComponents)
        (running.session.record (.logged entry)) = down)
      (closes : (Outside.respond .closeNetwork down.outside).1 = .error failure) :
      StopCourse running (.error failure ⟨running.cluster.released, down.answered .closeNetwork⟩)
  /-- A component did not stop; the network was closed all the same. -/
  | unstopped {entry : LogEntry} {failure : Failure} {down : Session ω}
      (active : running.cluster.state ≠ .stopped)
      (stops : running.cluster.order.stopAll running.cluster.ownedComponents
        (running.session.record (.logged entry)) = .error failure down)
      (closes : (Outside.respond .closeNetwork down.outside).1 = .ok ()) :
      StopCourse running (.error failure ⟨running.cluster.released, down.answered .closeNetwork⟩)
  | stopped {entry last : LogEntry} {down : Session ω}
      (active : running.cluster.state ≠ .stopped)
      (stops : running.cluster.order.stopAll running.cluster.ownedComponents
        (running.session.record (.logged entry)) = .ok () down)
      (closes : (Outside.respond .closeNetwork down.outside).1 = .ok ()) :
      StopCourse running (.ok ()
        ⟨running.cluster.released, (down.answered .closeNetwork).record (.logged last)⟩)

/-- What is left to do once the components have been told to stop, with whatever came of it. -/
theorem release_eq (cluster : Cluster) (down : Session ω) (outcome : Except Failure Unit) :
    (do
      modifyCluster ({ · with state := .stopped })
      (Action.perform .closeNetwork).onCluster
      conclude outcome
      (Action.log .info "Sharded cluster stopped" []).onCluster : Operation ω Unit)
        ⟨cluster, down⟩ =
      match (Outside.respond .closeNetwork down.outside).1, outcome with
      | .error failure, _ => .error failure ⟨cluster.released, down.answered .closeNetwork⟩
      | .ok _, .error failure => .error failure ⟨cluster.released, down.answered .closeNetwork⟩
      | .ok _, .ok _ => .ok () ⟨cluster.released,
          (down.answered .closeNetwork).record (.logged ⟨.info, "Sharded cluster stopped", []⟩)⟩ := by
  rw [modifyCluster_bind]
  have performed := Action.perform_eq .closeNetwork down
  cases closes : (Outside.respond .closeNetwork down.outside).1 with
  | error failure =>
      rw [closes] at performed
      exact bind_of_error (onCluster_of_error performed) _
  | ok value =>
      rw [closes] at performed
      refine (bind_of_ok (onCluster_of_ok performed) _).trans ?_
      cases outcome <;> rfl

theorem stop_course (running : Running ω) : StopCourse running (stop running) := by
  rw [stop, cluster_bind]
  cases state : running.cluster.state
  case stopped => exact .already state
  -- Whether the cluster has been started makes no difference.
  all_goals
    have active : running.cluster.state ≠ .stopped := by simp [state]
    dsimp only
    rw [log_bind]
    generalize (⟨.info, "Stopping sharded cluster",
      [("shards", .int running.cluster.topology.shards.length)]⟩ : LogEntry) = entry
    cases stops : running.cluster.order.stopAll running.cluster.ownedComponents
        (running.session.record (.logged entry)) with
    | error failure down =>
        rw [bind_of_ok (attempt_of_error (onCluster_of_error stops)), release_eq]
        cases closes : (Outside.respond .closeNetwork down.outside).1 with
        | error other => exact .unclosed active (finalState_of_error stops) closes
        | ok value => exact .unstopped active stops closes
    | ok value down =>
        rw [bind_of_ok (attempt_of_ok (onCluster_of_ok stops)), release_eq]
        cases closes : (Outside.respond .closeNetwork down.outside).1 with
        | error other => exact .unclosed active (finalState_of_ok stops) closes
        | ok value => exact .stopped active stops closes

inductive AddCourse (running : Running ω) :
    EStateM.Result Failure (Running ω) ReplicaGroup → Prop where
  | unbuilt {failure : Failure} {session : Session ω}
      (builds : running.cluster.shape.blueprint.buildShard (running.cluster.shardsCreated + 1)
        running.session = .error failure session) :
      AddCourse running (.error failure ⟨running.cluster.counted, session⟩)
  | unstarted {shard : ReplicaGroup} {built session : Session ω} {failure : Failure}
      (builds : running.cluster.shape.blueprint.buildShard (running.cluster.shardsCreated + 1)
        running.session = .ok shard built)
      (starts : shard.toComponent.start built = .error failure session) :
      AddCourse running (.error failure ⟨running.cluster.counted, session⟩)
  /-- The shard was started, but not registered. -/
  | stranded {shard : ReplicaGroup} {built up left : Session ω} {called : Bool}
      {failure : Failure} {entry : LogEntry}
      (builds : running.cluster.shape.blueprint.buildShard (running.cluster.shardsCreated + 1)
        running.session = .ok shard built)
      (starts : shard.toComponent.start built = .ok called up)
      (registers : running.cluster.register shard up = .error failure left) :
      AddCourse running (.error (failure.leaving shard)
        ⟨running.cluster.stranded shard, left.record (.logged entry)⟩)
  | joined {shard : ReplicaGroup} {built up session : Session ω} {called : Bool}
      (builds : running.cluster.shape.blueprint.buildShard (running.cluster.shardsCreated + 1)
        running.session = .ok shard built)
      (starts : shard.toComponent.start built = .ok called up)
      (registers : running.cluster.register shard up = .ok () session) :
      AddCourse running (.ok shard ⟨running.cluster.registered shard, session⟩)

theorem addShard_course (running : Running ω) : AddCourse running (addShard running) := by
  rw [addShard, cluster_bind]
  dsimp only
  rw [modifyCluster_bind]
  cases builds : running.cluster.shape.blueprint.buildShard (running.cluster.shardsCreated + 1)
      running.session with
  | error failure session =>
      rw [bind_of_error (onCluster_of_error builds)]
      exact .unbuilt builds
  | ok shard built =>
      rw [bind_of_ok (onCluster_of_ok builds)]
      cases starts : shard.toComponent.start built with
      | error failure session =>
          rw [bind_of_error (onCluster_of_error starts)]
          exact .unstarted builds starts
      | ok called up =>
          rw [bind_of_ok (onCluster_of_ok starts)]
          cases registers : running.cluster.register shard up with
          | error failure left =>
              rw [bind_of_ok (attempt_of_error (onCluster_of_error registers))]
              exact .stranded builds starts registers
          | ok value session =>
              rw [bind_of_ok (attempt_of_ok (onCluster_of_ok registers))]
              exact .joined builds starts registers

inductive RemoveCourse (running : Running ω) :
    EStateM.Result Failure (Running ω) ReplicaGroup → Prop where
  | shardless (empty : running.cluster.topology.shards = []) :
      RemoveCourse running (.error (.misconfigured .noShards) running)
  | undrained {shard : ReplicaGroup} {entry : LogEntry} {failure : Failure} {session : Session ω}
      (last : running.cluster.topology.shards.getLast? = some shard)
      (drains : running.cluster.drain shard (running.session.record (.logged entry)) =
        .error failure session) :
      RemoveCourse running (.error failure { running with session })
  /-- The shard was drained and dropped, but did not stop. -/
  | unstopped {shard : ReplicaGroup} {entry : LogEntry} {drained session : Session ω}
      {failure : Failure}
      (last : running.cluster.topology.shards.getLast? = some shard)
      (drains : running.cluster.drain shard (running.session.record (.logged entry)) =
        .ok () drained)
      (stops : shard.toComponent.stop drained = .error failure session) :
      RemoveCourse running (.error failure ⟨running.cluster.shortened, session⟩)
  | removed {shard : ReplicaGroup} {entry final : LogEntry} {drained down : Session ω}
      {called : Bool}
      (last : running.cluster.topology.shards.getLast? = some shard)
      (drains : running.cluster.drain shard (running.session.record (.logged entry)) =
        .ok () drained)
      (stops : shard.toComponent.stop drained = .ok called down) :
      RemoveCourse running
        (.ok shard ⟨running.cluster.shortened, down.record (.logged final)⟩)

theorem removeShard_course (running : Running ω) : RemoveCourse running (removeShard running) := by
  rw [removeShard, cluster_bind]
  cases last : running.cluster.topology.shards.getLast? with
  | none => exact .shardless (List.getLast?_eq_none_iff.mp last)
  | some shard =>
      dsimp only
      rw [log_bind]
      cases drains : running.cluster.drain shard
          (running.session.record (.logged ⟨.info, "Removing shard",
            [("shard", shard.nameValue)]⟩)) with
      | error failure session =>
          rw [bind_of_error (onCluster_of_error drains)]
          exact .undrained last drains
      | ok value drained =>
          rw [bind_of_ok (onCluster_of_ok drains), modifyCluster_bind]
          cases stops : shard.toComponent.stop drained with
          | error failure session =>
              rw [bind_of_error (onCluster_of_error stops)]
              exact .unstopped last drains stops
          | ok called down =>
              rw [bind_of_ok (onCluster_of_ok stops)]
              exact .removed last drains stops

/-- The course of an operation that gives one command to the first router. -/
inductive CommandCourse (running : Running ω) (command : Action ω Value) :
    EStateM.Result Failure (Running ω) Unit → Prop where
  | failed {failure : Failure} {session : Session ω}
      (runs : running.cluster.onFirstRouter command running.session = .error failure session) :
      CommandCourse running command (.error failure { running with session })
  | done {session : Session ω} {entry : LogEntry}
      (runs : running.cluster.onFirstRouter command running.session = .ok () session) :
      CommandCourse running command
        (.ok () { running with session := session.record (.logged entry) })

theorem onFirstRouter_course (running : Running ω) (command : Action ω Value) (level : LogLevel)
    (event : String) (context : List (String × Value)) :
    CommandCourse running command ((do
      (running.cluster.onFirstRouter command).onCluster
      (Action.log level event context).onCluster) running) := by
  cases runs : running.cluster.onFirstRouter command running.session with
  | error failure session =>
      rw [bind_of_error (onCluster_of_error runs)]
      exact .failed runs
  | ok value session =>
      rw [bind_of_ok (onCluster_of_ok runs)]
      exact .done runs

theorem enableSharding_course (running : Running ω) (database : Value) :
    CommandCourse running (Admin.enableSharding running.cluster.channel database)
      (enableSharding database running) :=
  onFirstRouter_course running _ _ _ _

theorem shardCollection_course (running : Running ω) (database collection keyField : Value) :
    CommandCourse running
      (Admin.shardCollection running.cluster.channel database collection keyField)
      (shardCollection database collection keyField running) :=
  onFirstRouter_course running _ _ _ _

end Operation

end ShardFleet
