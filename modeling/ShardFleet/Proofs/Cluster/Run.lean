import ShardFleet.Proofs.Cluster.Building
import ShardFleet.Proofs.Cluster.Course
import ShardFleet.Proofs.Cluster.Membership
import ShardFleet.Proofs.StartOrder.Reach

/-!
# What a request can come to

A cluster is asked to start, to stop, to add or remove a shard, or to shard something, and each
request may fail anywhere on its way. `Request.Yields` lists all that can come of one request: the
events, with what they may call, and the cluster after it. `Request.yields` shows that there is
nothing else, so that what is true of a cluster after any sequence of requests is proved along
these cases.
-/

namespace ShardFleet

variable {ω : Type}

/-- What a cluster can be asked to do. -/
inductive Request where
  | start
  | stop
  | addShard
  | removeShard
  | enableSharding (database : Value)
  | shardCollection (database collection keyField : Value)

namespace Request

/-- The cluster in its session after a request, whether or not the request has failed. -/
def run [Outside ω] (running : Running ω) : Request → Running ω
  | .start => finalState Operation.start running
  | .stop => finalState Operation.stop running
  | .addShard => finalState Operation.addShard running
  | .removeShard => finalState Operation.removeShard running
  | .enableSharding database => finalState (Operation.enableSharding database) running
  | .shardCollection database collection keyField =>
      finalState (Operation.shardCollection database collection keyField) running

def runAll [Outside ω] (requests : List Request) (running : Running ω) : Running ω :=
  requests.foldl run running

def Starts (cluster : Cluster) (call : Call) : Prop :=
  Transition.start.Reaches cluster.topology.components call ∨
    call.OnChannel fun command =>
      ∃ shard ∈ cluster.topology.shards, AdminCommand.Registers shard.name.toText command

def Stops (cluster : Cluster) (call : Call) : Prop :=
  Transition.stop.Reaches cluster.ownedComponents call ∨ call = .closeNetwork

/-- What may be called to set up a shard once its replica set has been asked for. -/
def SetsUp (shard : ReplicaGroup) (call : Call) : Prop :=
  call.Constructs (fun _ => False) ∨ call = .start shard.toComponent ∨
    call.OnChannel (AdminCommand.Registers shard.name.toText)

/-- What may be called to remove a shard. -/
def TakesDown (shard : ReplicaGroup) (call : Call) : Prop :=
  call.OnChannel (· = AdminCommand.removing shard.nameValue) ∨ call = .stop shard.toComponent

/-- The events begin by asking for a replica set of the name given. -/
def BeginsWith (name : String) (events rest : List Event) : Prop :=
  ∃ order answer, order.name = name ∧ events = .called (.buildReplicaSet order) answer :: rest

/-- All that can come of a request. -/
inductive Yields [Outside ω] (before : Running ω) : Request → List Event → Running ω → Prop where
  | started {events : List Event} {state : LifecycleState} {session : Session ω}
      (calls : CalledOnly (Starts before.cluster) events)
      (stateEq : state = before.cluster.state ∨ state = .started) :
      Yields before .start events ⟨{ before.cluster with state }, session⟩
  | stopped {events : List Event} {state : LifecycleState} {session : Session ω}
      (calls : CalledOnly (Stops before.cluster) events)
      (stateEq : state = before.cluster.state ∨ state = .stopped) :
      Yields before .stop events ⟨{ before.cluster with state }, session⟩
  /-- The shard was not built, or it was not started. -/
  | unadded {events rest : List Event} {session : Session ω}
      (asks : BeginsWith (Blueprint.shardName (before.cluster.shardsCreated + 1)) events rest)
      (calls : CalledOnly (fun call => call.Constructs (fun _ => False) ∨
        ∃ component, call = .start component) rest)
      (unstarted : ∀ component, .called (.start component) (.ok ()) ∉ rest) :
      Yields before .addShard events
        ⟨before.cluster.counted, session⟩
  /-- The shard was started, and then registered or not. -/
  | added {events rest : List Event} {shard : ReplicaGroup} {cluster : Cluster}
      {session : Session ω}
      (asks : BeginsWith (Blueprint.shardName (before.cluster.shardsCreated + 1)) events rest)
      (calls : CalledOnly (SetsUp shard) rest)
      (once : rest.countP (Event.isCallTo Call.isAdding) ≤ 1)
      (named : KeepsNames ω →
        shard.name = .text (Blueprint.shardName (before.cluster.shardsCreated + 1)))
      (made : shard.MadeBetween before.session session)
      (joined : cluster = before.cluster.registered shard ∨
        cluster = before.cluster.stranded shard) :
      Yields before .addShard events ⟨cluster, session⟩
  | shardless (empty : before.cluster.topology.shards = []) : Yields before .removeShard [] before
  | undrained {events : List Event} {shard : ReplicaGroup} {session : Session ω}
      (last : before.cluster.topology.shards.getLast? = some shard)
      (calls : CalledOnly (Call.OnChannel (· = AdminCommand.removing shard.nameValue)) events) :
      Yields before .removeShard events { before with session }
  /-- The shard was drained, and then stopped or not. -/
  | removed {events : List Event} {shard : ReplicaGroup} {session : Session ω}
      (last : before.cluster.topology.shards.getLast? = some shard)
      (calls : CalledOnly (TakesDown shard) events)
      (down : session.stateOf shard.toComponent ≠ .started ∨
        ∃ failure, .called (.stop shard.toComponent) (.error failure) ∈ events) :
      Yields before .removeShard events
        ⟨before.cluster.shortened, session⟩
  | enabled {database : Value} {events : List Event} {session : Session ω}
      (calls : CalledOnly (Call.OnChannel AdminCommand.Shards) events) :
      Yields before (.enableSharding database) events { before with session }
  | sharded {database collection keyField : Value} {events : List Event} {session : Session ω}
      (calls : CalledOnly (Call.OnChannel AdminCommand.Shards) events) :
      Yields before (.shardCollection database collection keyField) events { before with session }

variable [Outside ω] {running after : Running ω}

theorem start_yields (ran : finalState Operation.start running = after) :
    ∃ events, running.session.Evolves events after.session ∧
      Yields running .start events after := by
  have starting := running.cluster.order.startAll_callsOnly (ω := ω)
    running.cluster.topology.components
  have registering := running.cluster.registerAll_callsOnly (ω := ω)
    running.cluster.topology.shards
  have announces (entry : LogEntry) : running.session.EvolvesWithin (Starts running.cluster)
      [.logged entry] (running.session.record (.logged entry)) := .record _ _ rfl
  have course := Operation.start_course running
  rw [finalState] at ran
  generalize Operation.start running = result at course ran
  cases course with
  | already up =>
      subst ran
      exact ⟨[], .refl _, .started .nil (Or.inl rfl)⟩
  | refused down =>
      subst ran
      exact ⟨[], .refl _, .started .nil (Or.inl rfl)⟩
  | unstarted idle starts =>
      subst ran
      rcases starting.evolves_of_error starts with ⟨events, within⟩
      have done := (announces _).trans (within.mono fun call => Or.inl)
      exact ⟨_, done.evolves, .started done.calls (Or.inl rfl)⟩
  | unregistered idle starts registers =>
      subst ran
      rcases starting.evolves starts with ⟨events, within⟩
      rcases registering.evolves_of_error registers with ⟨later, joins⟩
      have begun := (announces _).trans (within.mono fun call => Or.inl)
      have done := begun.trans (joins.mono fun call => Or.inr)
      exact ⟨_, done.evolves, .started done.calls (Or.inl rfl)⟩
  | started idle starts registers =>
      subst ran
      rcases starting.evolves starts with ⟨events, within⟩
      rcases registering.evolves registers with ⟨later, joins⟩
      have begun := (announces _).trans (within.mono fun call => Or.inl)
      have done := begun.trans (joins.mono fun call => Or.inr)
      exact ⟨_, done.evolves.trans (.record _ _ rfl),
        .started (done.calls.append (.quiet rfl)) (Or.inr rfl)⟩

/-- A cluster that is not stopped yet stops its components, closes the network whatever has come of
that, and calls nothing after. -/
theorem stop_closes (active : running.cluster.state ≠ .stopped)
    (ran : finalState Operation.stop running = after) :
    ∃ entry answer tail,
      (finalState (running.cluster.order.stopAll running.cluster.ownedComponents)
        (running.session.record (.logged entry))).Evolves
          (.called .closeNetwork answer :: tail) after.session ∧
      CalledOnly (fun _ => False) tail ∧
      after.cluster = { running.cluster with state := .stopped } := by
  have course := Operation.stop_course running
  rw [finalState] at ran
  generalize Operation.stop running = result at course ran
  have closes (down : Session ω) : down.Evolves
      [.called .closeNetwork (Outside.respond .closeNetwork down.outside).1]
      (down.answered .closeNetwork) := down.evolves_answered rfl
  cases course with
  | already down => exact absurd down active
  | unclosed _ stops _ =>
      subst ran stops
      exact ⟨_, _, [], closes _, .nil, rfl⟩
  | unstopped _ stops _ =>
      subst ran
      rw [← finalState_of_error stops]
      exact ⟨_, _, [], closes _, .nil, rfl⟩
  | stopped _ stops _ =>
      subst ran
      rw [← finalState_of_ok stops]
      exact ⟨_, _, _, (closes _).trans (.record _ _ rfl), .quiet rfl, rfl⟩

theorem stop_yields (ran : finalState Operation.stop running = after) :
    ∃ events, running.session.Evolves events after.session ∧
      Yields running .stop events after := by
  by_cases stopped : running.cluster.state = .stopped
  · rw [Operation.stop, finalState, Operation.cluster_bind, stopped] at ran
    subst ran
    exact ⟨[], .refl _, .stopped .nil (Or.inl rfl)⟩
  · rcases stop_closes stopped ran with ⟨entry, answer, tail, closes, quiet, cluster⟩
    rcases running.cluster.order.stopAll_callsOnly running.cluster.ownedComponents
      (running.session.record (.logged entry)) with ⟨stopping, stops⟩
    have announces : running.session.EvolvesWithin (Stops running.cluster) [.logged entry]
        (running.session.record (.logged entry)) := .record _ _ rfl
    have down := announces.trans (stops.mono fun call => Or.inl)
    rcases after with ⟨final, session⟩
    cases cluster
    refine ⟨_, down.evolves.trans closes, .stopped (down.calls.append ?_) (Or.inr rfl)⟩
    exact .cons (.single (Or.inr rfl)) (quiet.mono fun _ impossible => impossible.elim)

theorem removeShard_yields (ran : finalState Operation.removeShard running = after) :
    ∃ events, running.session.Evolves events after.session ∧
      Yields running .removeShard events after := by
  have draining (shard : ReplicaGroup) := running.cluster.drain_callsOnly (ω := ω) shard
  have announces (shard : ReplicaGroup) (entry : LogEntry) : running.session.EvolvesWithin
      (Call.OnChannel (· = AdminCommand.removing shard.nameValue))
      [.logged entry] (running.session.record (.logged entry)) := .record _ _ rfl
  have course := Operation.removeShard_course running
  rw [finalState] at ran
  generalize Operation.removeShard running = result at course ran
  cases course with
  | shardless empty =>
      subst ran
      exact ⟨[], .refl _, .shardless empty⟩
  | undrained last drains =>
      subst ran
      rcases (draining _).evolves_of_error drains with ⟨events, within⟩
      have done := (announces _ _).trans within
      exact ⟨_, done.evolves, .undrained last done.calls⟩
  | unstopped last drains stops =>
      subst ran
      rename_i shard _ _ _ failure
      rcases (draining _).evolves drains with ⟨events, within⟩
      have drained : running.session.EvolvesWithin (TakesDown shard) _ _ :=
        ((announces _ _).trans within).mono fun call => Or.inl
      have stopping := Transition.stop.evolves_of_run_error stops
      have done := drained.trans (stopping.mono fun call => Or.inr)
      refine ⟨_, done.evolves, .removed last done.calls (Or.inr ⟨failure, ?_⟩)⟩
      exact List.mem_append_right _ (List.mem_cons_of_mem _ List.mem_cons_self)
  | removed last drains stops =>
      subst ran
      rename_i shard _ _ _ _ _
      rcases (draining _).evolves drains with ⟨events, within⟩
      have drained : running.session.EvolvesWithin (TakesDown shard) _ _ :=
        ((announces _ _).trans within).mono fun call => Or.inl
      have calls : Action.CallsOnly (TakesDown shard)
          (Transition.stop.run shard.toComponent : Action ω Bool) :=
        Transition.stop.run_callsOnly _ (Or.inr rfl)
      rcases calls.evolves stops with ⟨stopping, stopped⟩
      have done := drained.trans stopped
      have settled := Transition.stop.not_appliesTo_of_run stops
      exact ⟨_, done.evolves.trans (.record _ _ rfl),
        .removed last (done.calls.append (.quiet rfl)) (Or.inl settled)⟩

theorem not_isAdding_of_constructs {names : String → Prop} {call : Call}
    (constructs : call.Constructs names) : call.isAdding = false := by
  cases call <;> first | rfl | exact constructs.elim

theorem count_adding_of_constructs {names : String → Prop} {events : List Event}
    (constructs : CalledOnly (Call.Constructs names) events) :
    events.countP (Event.isCallTo Call.isAdding) = 0 :=
  constructs.countP_eq_zero fun _ => not_isAdding_of_constructs

/-- Starting and registering a shard adds it to the admin namespace once at the most. -/
theorem setUp_evolves {shard : ReplicaGroup} {cluster : Cluster} {built up after : Session ω}
    {called : Bool} (starts : shard.toComponent.start built = .ok called up)
    (registers : finalState (cluster.register shard) up = after) :
    ∃ events, built.EvolvesWithin (SetsUp shard) events after ∧
      events.countP (Event.isCallTo Call.isAdding) ≤ 1 := by
  have calls : Action.CallsOnly (· = Call.start shard.toComponent)
      (Transition.start.run shard.toComponent : Action ω Bool) :=
    Transition.start.run_callsOnly _ rfl
  rcases calls.evolves starts with ⟨starting, starts⟩
  rcases cluster.register_callsOnly shard up with ⟨registering, within⟩
  rcases cluster.register_callsAtMost shard up with ⟨_, evolves, once⟩
  rw [evolves.unique within.evolves] at once
  rw [registers] at within
  refine ⟨_, (starts.mono ?_).trans (within.mono ?_), ?_⟩
  · exact fun call start => Or.inr (Or.inl start)
  · exact fun call onChannel => Or.inr (Or.inr onChannel)
  · rw [List.countP_append, starts.calls.countP_eq_zero ?_, Nat.zero_add]
    · exact once
    · rintro call rfl
      rfl

theorem addShard_yields
    (writable : running.cluster.shape.blueprint.namespacePrefix.checkWritable = .ok ())
    (ran : finalState Operation.addShard running = after) :
    ∃ events, running.session.Evolves events after.session ∧
      Yields running .addShard events after := by
  rcases Blueprint.buildShard_asks writable (running.cluster.shardsCreated + 1) running.session with
    ⟨order, answer, constructing, asked, building, constructs⟩
  have asks : ∀ rest, BeginsWith (Blueprint.shardName (running.cluster.shardsCreated + 1))
      (.called (.buildReplicaSet order) answer :: constructing ++ rest) (constructing ++ rest) :=
    fun rest => ⟨order, answer, asked, rfl⟩
  have course := Operation.addShard_course running
  rw [finalState] at ran
  generalize Operation.addShard running = result at course ran
  cases course with
  | unbuilt builds =>
      subst ran
      rw [finalState_of_error builds] at building
      refine ⟨_, building, .unadded ⟨order, answer, asked, rfl⟩ ?_ ?_⟩
      · exact constructs.mono fun call => Or.inl
      · intro component member
        exact constructs _ _ member
  | unstarted builds starts =>
      subst ran
      rename_i shard _ _ failure
      rw [finalState_of_ok builds] at building
      have starting := Transition.start.evolves_of_run_error starts
      refine ⟨_, building.trans starting.evolves, .unadded (asks _) ?_ ?_⟩
      · refine (constructs.mono fun call => Or.inl).append (starting.calls.mono ?_)
        exact fun call starts => Or.inr ⟨shard.toComponent, starts⟩
      · intro component member
        rcases List.mem_append.mp member with built | started
        · exact constructs _ _ built
        · rcases List.mem_cons.mp started with begins | failed
          · cases begins
          · have same : Transition.start.asked component (.ok ()) =
                Transition.start.asked shard.toComponent (.error failure) :=
              List.mem_singleton.mp failed
            cases (Transition.asked_inj.mp same).2
  | stranded builds starts registers =>
      subst ran
      rename_i shard _ _ _ _ _ _
      rcases Blueprint.buildShard_eq_ok builds with ⟨made, named⟩
      rw [finalState_of_ok builds] at building
      rcases setUp_evolves starts (finalState_of_error registers) with ⟨events, within, once⟩
      refine ⟨_, building.trans (within.evolves.trans (.record _ _ rfl)),
        .added (asks _) ?_ ?_ named (made.later within.evolves.serials) (Or.inr rfl)⟩
      · exact (constructs.mono fun call => Or.inl).append (within.calls.append (.quiet rfl))
      · rw [List.countP_append, List.countP_append, count_adding_of_constructs constructs]
        -- The last event is only logged.
        simpa [Event.isCallTo] using once
  | joined builds starts registers =>
      subst ran
      rename_i shard _ _ _ _
      rcases Blueprint.buildShard_eq_ok builds with ⟨made, named⟩
      rw [finalState_of_ok builds] at building
      rcases setUp_evolves starts (finalState_of_ok registers) with ⟨events, within, once⟩
      refine ⟨_, building.trans within.evolves,
        .added (asks _) ?_ ?_ named (made.later within.evolves.serials) (Or.inl rfl)⟩
      · exact (constructs.mono fun call => Or.inl).append within.calls
      · rwa [List.countP_append, count_adding_of_constructs constructs, Nat.zero_add]

theorem commanded_yields {command : Action ω Value} {operation : Operation ω Unit}
    (calls : Action.CallsOnly (Call.OnChannel AdminCommand.Shards) command)
    (course : Operation.CommandCourse running command (operation running))
    (ran : finalState operation running = after) :
    ∃ events session, after = { running with session } ∧
      running.session.EvolvesWithin (Call.OnChannel AdminCommand.Shards) events session := by
  have issues := running.cluster.onFirstRouter_callsOnly calls
  rw [finalState] at ran
  generalize operation running = result at course ran
  cases course with
  | failed runs =>
      rcases issues.evolves_of_error runs with ⟨events, within⟩
      exact ⟨_, _, ran.symm, within⟩
  | done runs =>
      rcases issues.evolves runs with ⟨events, within⟩
      exact ⟨_, _, ran.symm, within.trans (.record _ _ rfl)⟩

theorem enableSharding_yields {database : Value}
    (ran : finalState (Operation.enableSharding database) running = after) :
    ∃ events, running.session.Evolves events after.session ∧
      Yields running (.enableSharding database) events after := by
  rcases commanded_yields (Admin.enableSharding_callsOnly _ database fun _ => id)
    (Operation.enableSharding_course running database) ran with ⟨events, session, rfl, within⟩
  exact ⟨events, within.evolves, .enabled within.calls⟩

theorem shardCollection_yields {database collection keyField : Value}
    (ran : finalState (Operation.shardCollection database collection keyField) running = after) :
    ∃ events, running.session.Evolves events after.session ∧
      Yields running (.shardCollection database collection keyField) events after := by
  rcases commanded_yields (Admin.shardCollection_callsOnly _ database collection keyField fun _ => id)
    (Operation.shardCollection_course running database collection keyField) ran with
    ⟨events, session, rfl, within⟩
  exact ⟨events, within.evolves, .sharded within.calls⟩

/-- Nothing can come of a request but what is listed. -/
theorem yields
    (writable : running.cluster.shape.blueprint.namespacePrefix.checkWritable = .ok ())
    (request : Request) :
    ∃ events, running.session.Evolves events (run running request).session ∧
      Yields running request events (run running request) := by
  cases request with
  | start => exact start_yields rfl
  | stop => exact stop_yields rfl
  | addShard => exact addShard_yields writable rfl
  | removeShard => exact removeShard_yields rfl
  | enableSharding database => exact enableSharding_yields rfl
  | shardCollection database collection keyField => exact shardCollection_yields rfl

namespace Yields

variable {request : Request} {events : List Event}

theorem shape (yielded : Yields running request events after) :
    after.cluster.shape = running.cluster.shape := by
  cases yielded with
  | added asks calls once named made joined => rcases joined with rfl | rfl <;> rfl
  | _ => rfl

theorem order (yielded : Yields running request events after) :
    after.cluster.order = running.cluster.order := by
  cases yielded with
  | added asks calls once named made joined => rcases joined with rfl | rfl <;> rfl
  | _ => rfl

/-- Config servers and routers are there for good. -/
theorem fixed (yielded : Yields running request events after) :
    after.cluster.topology.configServers = running.cluster.topology.configServers ∧
      after.cluster.topology.routers = running.cluster.topology.routers := by
  cases yielded with
  | added asks calls once named made joined => rcases joined with rfl | rfl <;> exact ⟨rfl, rfl⟩
  | _ => exact ⟨rfl, rfl⟩

theorem created_le (yielded : Yields running request events after) :
    running.cluster.shardsCreated ≤ after.cluster.shardsCreated := by
  cases yielded with
  | unadded asks calls unstarted => exact Nat.le_succ _
  | added asks calls once named made joined => rcases joined with rfl | rfl <;> exact Nat.le_succ _
  | _ => exact Nat.le_refl _

/-- A start or stop takes the cluster to its own state at the most; nothing else changes the state. -/
theorem state (yielded : Yields running request events after) :
    after.cluster.state = running.cluster.state ∨
      request = .start ∧ after.cluster.state = .started ∨
      request = .stop ∧ after.cluster.state = .stopped := by
  cases yielded with
  | started calls stateEq => exact stateEq.imp_right fun up => Or.inl ⟨rfl, up⟩
  | stopped calls stateEq => exact stateEq.imp_right fun down => Or.inr ⟨rfl, down⟩
  | added asks calls once named made joined => rcases joined with rfl | rfl <;> exact Or.inl rfl
  | _ => exact Or.inl rfl

/-- Nothing but a stop closes the network. -/
theorem unclosing (yielded : Yields running request events after) (unstopped : request ≠ .stop) :
    CalledOnly (· ≠ .closeNetwork) events := by
  cases yielded with
  | started calls stateEq =>
      apply calls.avoids
      rintro (⟨component, _, same⟩ | onChannel)
      · cases same
      · exact onChannel
  | stopped => exact absurd rfl unstopped
  | unadded asks calls unstarted =>
      rcases asks with ⟨order, answer, _, rfl⟩
      refine .cons (.single nofun) (calls.avoids ?_)
      rintro (constructs | ⟨component, same⟩)
      · exact constructs
      · cases same
  | added asks calls once named made joined =>
      rcases asks with ⟨order, answer, _, rfl⟩
      refine .cons (.single nofun) (calls.avoids ?_)
      rintro (constructs | same | onChannel)
      · exact constructs
      · cases same
      · exact onChannel
  | shardless empty => exact .nil
  | undrained last calls => exact calls.avoids id
  | removed last calls down =>
      apply calls.avoids
      rintro (onChannel | same)
      · exact onChannel
      · cases same
  | enabled calls => exact calls.avoids id
  | sharded calls => exact calls.avoids id

end Yields

theorem runAll_append (earlier later : List Request) :
    runAll (earlier ++ later) running = runAll later (runAll earlier running) :=
  List.foldl_append

/-- What holds at first, and after every request that follows on some, holds after all of them. -/
theorem runAll_induction (start : Running ω) {motive : List Request → Running ω → Prop}
    (writable : start.cluster.shape.blueprint.namespacePrefix.checkWritable = .ok ())
    (initially : motive [] start)
    (step : ∀ earlier request events after, motive earlier (runAll earlier start) →
      (runAll earlier start).session.Evolves events after.session →
      Yields (runAll earlier start) request events after →
      run (runAll earlier start) request = after → motive (earlier ++ [request]) after)
    (requests : List Request) : motive requests (runAll requests start) := by
  suffices both : motive requests (runAll requests start) ∧
      (runAll requests start).cluster.shape = start.cluster.shape from both.1
  induction requests using List.reverseRecOn with
  | nil => exact ⟨initially, rfl⟩
  | append_singleton earlier request ih =>
      rcases ih with ⟨before, shape⟩
      rw [← shape] at writable
      rcases yields writable request with ⟨events, evolves, yielded⟩
      rw [runAll_append]
      exact ⟨step _ _ _ _ before evolves yielded rfl, yielded.shape.trans shape⟩

theorem runAll_shape (start : Running ω)
    (writable : start.cluster.shape.blueprint.namespacePrefix.checkWritable = .ok ())
    (requests : List Request) : (runAll requests start).cluster.shape = start.cluster.shape :=
  runAll_induction (motive := fun _ after => after.cluster.shape = start.cluster.shape) start
    writable rfl (fun _ _ _ _ before _ yielded _ => yielded.shape.trans before) requests

end Request

end ShardFleet
