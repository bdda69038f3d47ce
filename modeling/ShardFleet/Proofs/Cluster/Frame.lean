import ShardFleet.Proofs.Cluster.Run
import ShardFleet.Proofs.Session.Ensures

/-!
# What a request leaves alone

A request calls the world outside only for what it is there for, also where it fails half way. So
whatever these calls do not touch is after a request as it was before.
-/

namespace ShardFleet

open ShardFleet.Action

variable {ω : Type}

namespace Request

/-- What a request may call, where shards have the names that they are asked for by. -/
def MayCall (cluster : Cluster) : Request → Call → Prop
  | .start, call => Starts cluster call
  | .stop, call => Stops cluster call
  | .addShard, call =>
      call.Constructs (fun _ => True) ∨ (∃ component, call = .start component) ∨
        call.OnChannel (AdminCommand.Registers (Blueprint.shardName (cluster.shardsCreated + 1)))
  | .removeShard, call =>
      ∃ shard, cluster.topology.shards.getLast? = some shard ∧ TakesDown shard call
  | .enableSharding _, call => call.OnChannel AdminCommand.Shards
  | .shardCollection _ _ _, call => call.OnChannel AdminCommand.Shards

variable [Outside ω] {running : Running ω} {fact : Session ω → Prop} {allowed : Call → Prop}

theorem logged_of_survives (survives : Session.Survives allowed fact) {session : Session ω}
    {entry : LogEntry} (holds : fact session) : fact (session.record (.logged entry)) :=
  survives (.record session _ rfl) holds

theorem start_keeps (survives : Session.Survives (Starts running.cluster) fact)
    (holds : fact running.session) : fact (run running .start).session := by
  have brings : Keeps fact (running.cluster.order.startAll running.cluster.topology.components) :=
    ((StartOrder.startAll_callsOnly _ _).mono fun call => Or.inl).keeps survives
  have joins : Keeps fact (running.cluster.registerAll running.cluster.topology.shards) :=
    ((Cluster.registerAll_callsOnly _ _).mono fun call => Or.inr).keeps survives
  have course := Operation.start_course running
  rw [run, finalState]
  generalize Operation.start running = result at course
  cases course with
  | already up => exact holds
  | refused down => exact holds
  | unstarted idle starts => exact brings.error (logged_of_survives survives holds) starts
  | unregistered idle starts registers =>
      exact joins.error (brings.ok (logged_of_survives survives holds) starts) registers
  | started idle starts registers =>
      have up := brings.ok (logged_of_survives survives holds) starts
      exact logged_of_survives survives (joins.ok up registers)

theorem stop_keeps (survives : Session.Survives (Stops running.cluster) fact)
    (holds : fact running.session) : fact (run running .stop).session := by
  have takes : Keeps fact (running.cluster.order.stopAll running.cluster.ownedComponents) :=
    ((StartOrder.stopAll_callsOnly _ _).mono fun call => Or.inl).keeps survives
  have closes {session : Session ω} (before : fact session) : fact (session.answered .closeNetwork) :=
    survives (session.evolvesWithin_answered rfl (Or.inr rfl)) before
  have course := Operation.stop_course running
  rw [run, finalState]
  generalize Operation.stop running = result at course
  cases course with
  | already down => exact holds
  | unclosed active stops _ =>
      subst stops
      exact closes (takes.finalState (logged_of_survives survives holds))
  | unstopped active stops _ =>
      exact closes (takes.error (logged_of_survives survives holds) stops)
  | stopped active stops _ =>
      have down := takes.ok (logged_of_survives survives holds) stops
      exact logged_of_survives survives (closes down)

theorem addShard_keeps (names : KeepsNames ω)
    (survives : Session.Survives (MayCall running.cluster .addShard) fact)
    (holds : fact running.session) : fact (run running .addShard).session := by
  have builds : Keeps fact
      (running.cluster.shape.blueprint.buildShard (running.cluster.shardsCreated + 1)) :=
    ((Blueprint.buildShard_callsOnly _ trivial).mono fun call => Or.inl).keeps survives
  have brings (component : Component) : Keeps fact (component.start : Action ω Bool) := by
    have calls : CallsOnly (MayCall running.cluster .addShard) (component.start : Action ω Bool) :=
      Transition.start.run_callsOnly component (Or.inr (Or.inl ⟨component, rfl⟩))
    exact calls.keeps survives
  have joins {shard : ReplicaGroup} {built : Session ω}
      (building : running.cluster.shape.blueprint.buildShard (running.cluster.shardsCreated + 1)
        running.session = .ok shard built) :
      Keeps fact (running.cluster.register shard) := by
    have calls := running.cluster.register_callsOnly (ω := ω) shard
    rw [(Blueprint.buildShard_eq_ok building).2 names] at calls
    exact (calls.mono fun call onChannel => Or.inr (Or.inr onChannel)).keeps survives
  have course := Operation.addShard_course running
  rw [run, finalState]
  generalize Operation.addShard running = result at course
  cases course with
  | unbuilt building => exact builds.error holds building
  | unstarted building starts => exact (brings _).error (builds.ok holds building) starts
  | stranded building starts registers =>
      have up := (brings _).ok (builds.ok holds building) starts
      exact logged_of_survives survives ((joins building).error up registers)
  | joined building starts registers =>
      have up := (brings _).ok (builds.ok holds building) starts
      exact (joins building).ok up registers

theorem removeShard_keeps (survives : Session.Survives (MayCall running.cluster .removeShard) fact)
    (holds : fact running.session) : fact (run running .removeShard).session := by
  have drains {shard : ReplicaGroup} (last : running.cluster.topology.shards.getLast? = some shard) :
      Keeps fact (running.cluster.drain shard) :=
    ((running.cluster.drain_callsOnly shard).mono fun call onChannel =>
      ⟨shard, last, Or.inl onChannel⟩).keeps survives
  have takes {shard : ReplicaGroup} (last : running.cluster.topology.shards.getLast? = some shard) :
      Keeps fact (shard.toComponent.stop : Action ω Bool) := by
    have calls : CallsOnly (MayCall running.cluster .removeShard)
        (shard.toComponent.stop : Action ω Bool) :=
      Transition.stop.run_callsOnly _ ⟨shard, last, Or.inr rfl⟩
    exact calls.keeps survives
  have course := Operation.removeShard_course running
  rw [run, finalState]
  generalize Operation.removeShard running = result at course
  cases course with
  | shardless empty => exact holds
  | undrained last draining =>
      exact (drains last).error (logged_of_survives survives holds) draining
  | unstopped last draining stops =>
      have drained := (drains last).ok (logged_of_survives survives holds) draining
      exact (takes last).error drained stops
  | removed last draining stops =>
      have drained := (drains last).ok (logged_of_survives survives holds) draining
      exact logged_of_survives survives ((takes last).ok drained stops)

theorem commanded_keeps {command : Action ω Value} {operation : Operation ω Unit}
    (calls : CallsOnly (Call.OnChannel AdminCommand.Shards) command)
    (course : Operation.CommandCourse running command (operation running))
    (survives : Session.Survives (Call.OnChannel AdminCommand.Shards) fact)
    (holds : fact running.session) : fact (finalState operation running).session := by
  rcases commanded_yields calls course rfl with ⟨events, session, same, within⟩
  rw [same]
  exact survives within holds

/-- What the calls of a request do not touch is so after it if it was so before. -/
theorem run_keeps (names : KeepsNames ω) (request : Request)
    (survives : Session.Survives (MayCall running.cluster request) fact)
    (holds : fact running.session) : fact (run running request).session := by
  cases request with
  | start => exact start_keeps survives holds
  | stop => exact stop_keeps survives holds
  | addShard => exact addShard_keeps names survives holds
  | removeShard => exact removeShard_keeps survives holds
  | enableSharding database =>
      exact commanded_keeps (Admin.enableSharding_callsOnly _ database fun _ => id)
        (Operation.enableSharding_course running database) survives holds
  | shardCollection database collection keyField =>
      exact commanded_keeps (Admin.shardCollection_callsOnly _ database collection keyField fun _ => id)
        (Operation.shardCollection_course running database collection keyField) survives holds

end Request

end ShardFleet
