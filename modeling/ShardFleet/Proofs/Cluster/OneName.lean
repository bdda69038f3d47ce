import ShardFleet.Proofs.Cluster.Introductions
import ShardFleet.Proofs.Cluster.Serials
import ShardFleet.Simulation.World

/-!
# A shard goes by one name

Every shard and the config servers have been made in the past of the session, and all that is said
of a shard from then on - when it is registered, looked for and removed - is said under the name
that it got then, whatever its handle has come to show since.
-/

namespace ShardFleet

open ShardFleet.Action

variable {ω : Type}

namespace Call

/-- A call that tells no process what it belongs to and says nothing of single shards. -/
def IsSilent : Call → Prop
  | .setCommand _ _ => False
  | .command sent => AdminCommand.Shards sent
  | _ => True

end Call

namespace Request

variable [Outside ω]

/-- What a request says of shards. -/
inductive Speaks (before : Running ω) : Request → List Event → Session ω → Prop where
  | silent {request : Request} {events : List Event} {after : Session ω}
      (calls : CalledOnly Call.IsSilent events) : Speaks before request events after
  /-- The shards of the topology are registered in order. -/
  | introduced {front events tail : List Event} {up joined after : Session ω}
      {result : Except Failure Unit}
      (starts : before.session.Evolves front up) (first : CalledOnly Call.IsSilent front)
      (enters : before.cluster.EntersAll before.cluster.topology.shards up events joined
        result)
      (ends : joined.Evolves tail after) (last : CalledOnly Call.IsSilent tail) :
      Speaks before .start (front ++ events ++ tail) after
  | unmade {events : List Event} {after : Session ω}
      (unmade : ReplicaGroup.Unmade before.session events after) :
      Speaks before .addShard events after
  /-- A shard is made, but it does not start. -/
  | made {shard : ReplicaGroup} {making later : List Event} {built after : Session ω}
      (made : shard.Made before.session making built) (evolves : built.Evolves later after)
      (rest : CalledOnly Call.IsSilent later) : Speaks before .addShard (making ++ later) after
  /-- The shard that is made is registered. -/
  | entered {shard : ReplicaGroup} {making front events tail : List Event}
      {built up joined after : Session ω} {result : Except Failure Unit}
      (made : shard.Made before.session making built)
      (starts : built.Evolves front up) (first : CalledOnly Call.IsSilent front)
      (enters : before.cluster.Enters shard up events joined result)
      (ends : joined.Evolves tail after) (last : CalledOnly Call.IsSilent tail) :
      Speaks before .addShard (making ++ (front ++ events ++ tail)) after
  /-- The youngest shard of the topology is removed. -/
  | drained {shard : ReplicaGroup} {events : List Event} {after : Session ω}
      (last : before.cluster.topology.shards.getLast? = some shard)
      (leaves : shard.Leaves events) : Speaks before .removeShard events after

/-- Config servers, shards and routers are known by what they were called when they were made, and
the next request goes on with that. -/
structure NamesAlike (start : Session ω) (running : Running ω) : Prop where
  groups : ∀ group ∈ running.cluster.topology.configServers :: running.cluster.listedShards,
    Session.Happened group.Made start running.session
  routers : ∀ router ∈ running.cluster.topology.routers,
    Session.Happened (router.Made running.cluster.topology.configServers) start running.session
  speaks : ∀ request, ∃ events,
    running.session.Evolves events (run running request).session ∧
      Speaks running request events (run running request).session

variable {running : Running ω}

theorem isSilent_of_reaches {transition : Transition} {components : List Component} {call : Call}
    (reaches : transition.Reaches components call) : call.IsSilent := by
  rcases reaches with ⟨component, _, rfl⟩
  cases transition <;> trivial

theorem leaves_of_calls {shard : ReplicaGroup} {events : List Event}
    (calls : CalledOnly (TakesDown shard) events) : shard.Leaves events := by
  constructor
  · intro sent answer member
    rcases calls _ _ member with removes | stops
    · exact removes ▸ ⟨rfl, rfl⟩
    · cases stops
  · apply toldSets_eq_nil calls
    rintro process arguments (onChannel | stops)
    · exact onChannel
    · cases stops

theorem startAll_isSilent (cluster : Cluster) :
    CallsOnly Call.IsSilent
      (cluster.order.startAll cluster.topology.components : Action ω Unit) :=
  (cluster.order.startAll_callsOnly cluster.topology.components).mono
    fun _ => isSilent_of_reaches

/-- Once all components are started, the shards are registered, whatever comes of that. -/
theorem start_introduces {entry : LogEntry} {up joined after : Session ω} {tail : List Event}
    {result : Except Failure Unit}
    (starts : running.cluster.order.startAll running.cluster.topology.components
      (running.session.record (.logged entry)) = .ok () up)
    (registers : running.cluster.registerAll running.cluster.topology.shards up =
      conclude result joined)
    (ends : joined.Evolves tail after) (last : CalledOnly Call.IsSilent tail) :
    ∃ events, running.session.Evolves events after ∧ Speaks running .start events after := by
  rcases (startAll_isSilent running.cluster).evolves starts with ⟨events, within⟩
  rcases Cluster.entersAll_of_registerAll registers with ⟨later, enters⟩
  have begun := (Session.Evolves.logged running.session entry).trans within.evolves
  exact ⟨_, (begun.trans enters.evolves).trans ends,
    .introduced begun ((CalledOnly.quiet rfl).append within.calls) enters ends last⟩

theorem start_speaks (running : Running ω) :
    ∃ events, running.session.Evolves events (run running .start).session ∧
      Speaks running .start events (run running .start).session := by
  have course := Operation.start_course running
  rw [run, finalState]
  generalize Operation.start running = result at course
  cases course with
  | already up => exact ⟨[], .refl _, .silent .nil⟩
  | refused down => exact ⟨[], .refl _, .silent .nil⟩
  | unstarted idle starts =>
      rcases (startAll_isSilent running.cluster).evolves_of_error starts with ⟨events, within⟩
      have begun := (Session.Evolves.logged running.session _).trans within.evolves
      exact ⟨_, begun, .silent ((CalledOnly.quiet rfl).append within.calls)⟩
  | unregistered idle starts registers =>
      exact start_introduces starts (show _ = conclude (.error _) _ from registers) (.refl _) .nil
  | started idle starts registers =>
      exact start_introduces starts (show _ = conclude (.ok ()) _ from registers) (.logged _ _)
        (.quiet rfl)

theorem isSilent_of_start {component : Component} {call : Call} (starts : call = .start component) :
    call.IsSilent :=
  starts ▸ trivial

theorem mem_listedShards_of_joined {before after : Cluster} {shard other : ReplicaGroup}
    (joined : after = before.registered shard ∨ after = before.stranded shard)
    (listed : other ∈ after.listedShards) : other ∈ before.listedShards ∨ other = shard := by
  rcases joined with rfl | rfl
  · simpa only [Cluster.listedShards, Cluster.registered, List.mem_append, List.mem_singleton,
      or_right_comm] using listed
  · simpa only [Cluster.listedShards, Cluster.stranded, List.mem_append, List.mem_singleton,
      or_assoc] using listed

/-- A shard that is made and started is registered, whatever comes of that. -/
theorem addShard_introduces {shard : ReplicaGroup} {built up joined after : Session ω} {called : Bool}
    {result : Except Failure Unit} {tail : List Event}
    (builds : running.cluster.shape.blueprint.buildShard (running.cluster.shardsCreated + 1)
      running.session = .ok shard built)
    (starts : shard.toComponent.start built = .ok called up)
    (registers : running.cluster.register shard up = conclude result joined)
    (ends : joined.Evolves tail after) (last : CalledOnly Call.IsSilent tail) :
    ∃ events, running.session.Evolves events after ∧ Speaks running .addShard events after ∧
      Session.Happened shard.Made running.session after := by
  have starting : CallsOnly (· = Call.start shard.toComponent)
      (Transition.start.run shard.toComponent : Action ω Bool) :=
    Transition.start.run_callsOnly _ rfl
  rcases ReplicaGroup.Made.of_buildShard builds with ⟨events, made⟩
  rcases starting.evolves starts with ⟨front, within⟩
  rcases running.cluster.register_enters shard up with ⟨middle, _, _, ran, enters⟩
  rcases conclude_inj.mp (registers.symm.trans ran) with ⟨rfl, rfl⟩
  have since := (within.evolves.trans enters.evolves).trans ends
  exact ⟨_, made.evolves.trans since, .entered made within.evolves
    (within.calls.mono fun _ => isSilent_of_start) enters ends last,
    (Session.Happened.single made).later since⟩

/-- The shard that is made and registered is the one that is listed then. -/
theorem addShard_speaks (running : Running ω) :
    ∃ events, running.session.Evolves events (run running .addShard).session ∧
      Speaks running .addShard events (run running .addShard).session ∧
      ∀ shard ∈ (run running .addShard).cluster.listedShards,
        shard ∈ running.cluster.listedShards ∨
          Session.Happened shard.Made running.session (run running .addShard).session := by
  have course := Operation.addShard_course running
  rw [run, finalState]
  generalize Operation.addShard running = result at course
  cases course with
  | unbuilt builds =>
      rcases ReplicaGroup.Unmade.of_buildShard builds with ⟨events, unmade⟩
      exact ⟨events, unmade.evolves, .unmade unmade, fun _ => Or.inl⟩
  | unstarted builds starts =>
      rcases ReplicaGroup.Made.of_buildShard builds with ⟨events, made⟩
      have within := Transition.start.evolves_of_run_error starts
      exact ⟨_, made.evolves.trans within.evolves,
        .made made within.evolves (within.calls.mono fun _ => isSilent_of_start), fun _ => Or.inl⟩
  | stranded builds starts registers =>
      rename_i failure entry
      have fails : _ = conclude (.error failure) _ := registers
      rcases addShard_introduces builds starts fails (.logged _ entry) (.quiet rfl) with
        ⟨events, evolves, speaks, happened⟩
      refine ⟨events, evolves, speaks, fun other listed => ?_⟩
      refine (mem_listedShards_of_joined (Or.inr rfl) listed).imp_right ?_
      rintro rfl
      exact happened
  | joined builds starts registers =>
      have succeeds : _ = conclude (.ok ()) _ := registers
      rcases addShard_introduces builds starts succeeds (.refl _) .nil with
        ⟨events, evolves, speaks, happened⟩
      refine ⟨events, evolves, speaks, fun other listed => ?_⟩
      refine (mem_listedShards_of_joined (Or.inl rfl) listed).imp_right ?_
      rintro rfl
      exact happened

theorem speaks (writable : running.cluster.shape.blueprint.namespacePrefix.checkWritable = .ok ())
    (request : Request) :
    ∃ events, running.session.Evolves events (run running request).session ∧
      Speaks running request events (run running request).session := by
  rcases yields writable request with ⟨events, evolves, yielded⟩
  have sharding (onChannel : CalledOnly (Call.OnChannel AdminCommand.Shards) events) :
      CalledOnly Call.IsSilent events := by
    refine onChannel.mono ?_
    intro call shards
    cases call <;> trivial
  cases request with
  | start => exact start_speaks running
  | addShard =>
      rcases addShard_speaks running with ⟨all, evolves, speaks, _⟩
      exact ⟨all, evolves, speaks⟩
  | stop =>
      refine ⟨events, evolves, .silent ?_⟩
      generalize run running .stop = after at yielded
      cases yielded with
      | stopped calls =>
          refine calls.mono ?_
          rintro call (reaches | rfl)
          · exact isSilent_of_reaches reaches
          · trivial
  | removeShard =>
      refine ⟨events, evolves, ?_⟩
      generalize run running .removeShard = after at yielded
      cases yielded with
      | shardless empty => exact .silent .nil
      | undrained last calls =>
          exact .drained last (leaves_of_calls (calls.mono fun _ => Or.inl))
      | removed last calls down => exact .drained last (leaves_of_calls calls)
  | enableSharding database =>
      refine ⟨events, evolves, .silent ?_⟩
      generalize run running (.enableSharding database) = after at yielded
      cases yielded with
      | enabled calls => exact sharding calls
  | shardCollection database collection keyField =>
      refine ⟨events, evolves, .silent ?_⟩
      generalize run running (.shardCollection database collection keyField) = after at yielded
      cases yielded with
      | sharded calls => exact sharding calls

/-! ## What has been made -/

/-- The groups and routers of the cluster have been made since the start. -/
structure MadeSince (start : Session ω) (running : Running ω) : Prop where
  groups : ∀ group ∈ running.cluster.topology.configServers :: running.cluster.listedShards,
    Session.Happened group.Made start running.session
  routers : ∀ router ∈ running.cluster.topology.routers,
    Session.Happened (router.Made running.cluster.topology.configServers) start running.session

theorem Yields.listed {request : Request} {events : List Event} {after : Running ω}
    (yielded : Yields running request events after) (other : request ≠ .addShard) :
    ∀ shard ∈ after.cluster.listedShards, shard ∈ running.cluster.listedShards := by
  cases yielded with
  | unadded => exact absurd rfl other
  | added => exact absurd rfl other
  | removed last calls down =>
      have fewer := (List.dropLast_sublist running.cluster.topology.shards).append_right
        running.cluster.unregistered
      exact fun shard listed => fewer.subset listed
  | _ => exact fun shard => id

namespace MadeSince

variable {start : Session ω}

theorem next {after : Running ω} {events : List Event} (made : MadeSince start running)
    (evolves : running.session.Evolves events after.session)
    (fixed : after.cluster.topology.configServers = running.cluster.topology.configServers ∧
      after.cluster.topology.routers = running.cluster.topology.routers)
    (listed : ∀ shard ∈ after.cluster.listedShards, shard ∈ running.cluster.listedShards ∨
      Session.Happened shard.Made start after.session) : MadeSince start after where
  groups := by
    intro group groupMem
    rcases List.mem_cons.mp groupMem with rfl | isShard
    · rw [fixed.1]
      exact (made.groups _ List.mem_cons_self).later evolves
    · rcases listed group isShard with before | now
      · exact (made.groups group (List.mem_cons_of_mem _ before)).later evolves
      · exact now
  routers := by
    rw [fixed.1, fixed.2]
    exact fun router routerMem => (made.routers router routerMem).later evolves

theorem step {earlier : List Event} (since : start.Evolves earlier running.session)
    (made : MadeSince start running) {request : Request} {events : List Event}
    (evolves : running.session.Evolves events (run running request).session)
    (yielded : Yields running request events (run running request)) :
    MadeSince start (run running request) := by
  by_cases adds : request = .addShard
  · subst adds
    rcases addShard_speaks running with ⟨_, _, _, listed⟩
    exact made.next evolves yielded.fixed fun shard shardMem =>
      (listed shard shardMem).imp_right fun happened => happened.earlier since
  · exact made.next evolves yielded.fixed fun shard shardMem =>
      Or.inl (yielded.listed adds shard shardMem)

end MadeSince

theorem happened_of_buildShards {blueprint : Blueprint} {indices : List ℕ}
    {shards : List ReplicaGroup} {session after : Session ω}
    (built : Cluster.buildShards blueprint indices session = .ok shards after) :
    ∀ shard ∈ shards, Session.Happened shard.Made session after := by
  induction indices generalizing session shards with
  | nil =>
      cases built
      simp
  | cons index rest ih =>
      unfold Cluster.buildShards at built
      rcases bind_eq_ok.mp built with ⟨shard, between, building, others⟩
      rcases bind_eq_ok.mp others with ⟨later, _, buildingRest, returning⟩
      cases returning
      rcases ReplicaGroup.Made.of_buildShard building with ⟨events, made⟩
      have builds : CallsOnly (Call.Constructs fun _ => True)
          (Cluster.buildShards blueprint rest : Action ω (List ReplicaGroup)) :=
        Cluster.buildShards_callsOnly fun _ _ => trivial
      rcases builds.evolves buildingRest with ⟨following, within⟩
      exact Session.Happened.forall_cons made.evolves made within.evolves (ih buildingRest)

theorem happened_of_buildRouters {blueprint : Blueprint} {servers : ReplicaGroup}
    {shards : List ReplicaGroup} {indices : List ℕ} {routers : List Router}
    {session after : Session ω}
    (built : Cluster.buildRouters blueprint servers shards indices session = .ok routers after) :
    ∀ router ∈ routers, Session.Happened (router.Made servers) session after := by
  induction indices generalizing session routers with
  | nil =>
      cases built
      simp
  | cons index rest ih =>
      unfold Cluster.buildRouters at built
      rcases bind_eq_ok.mp built with ⟨router, between, building, others⟩
      rcases bind_eq_ok.mp others with ⟨later, _, buildingRest, returning⟩
      cases returning
      rcases Router.Made.of_buildRouter building with ⟨events, made⟩
      have builds : CallsOnly (Call.Constructs fun _ => True)
          (Cluster.buildRouters blueprint servers shards rest : Action ω (List Router)) :=
        Cluster.buildRouters_callsOnly servers shards rest
      rcases builds.evolves buildingRest with ⟨following, within⟩
      exact Session.Happened.forall_cons made.evolves made within.evolves (ih buildingRest)

theorem MadeSince.of_build {before session : Session ω} {shape : ClusterShape}
    {source : ChannelSource} {patience : ℕ} {cluster : Cluster}
    (course : Cluster.BuildCourse shape source patience before cluster session) :
    MadeSince before ⟨cluster, session⟩ := by
  cases course with
  | built routed numbered buildsShards buildsServers routersNumbered buildsRouters =>
      rename_i indices routerIndices shards servers routers first second third entry
      have shardsBuild : CallsOnly (Call.Constructs fun _ => True)
          (Cluster.buildShards shape.blueprint indices : Action ω (List ReplicaGroup)) :=
        Cluster.buildShards_callsOnly fun _ _ => trivial
      have routersBuild : CallsOnly (Call.Constructs fun _ => True)
          (Cluster.buildRouters shape.blueprint servers shards routerIndices :
            Action ω (List Router)) :=
        Cluster.buildRouters_callsOnly servers shards routerIndices
      rcases shardsBuild.evolves buildsShards with ⟨shardEvents, shardsWithin⟩
      rcases ReplicaGroup.Made.of_buildConfigServers buildsServers with ⟨events, made⟩
      rcases routersBuild.evolves buildsRouters with ⟨routerEvents, routersWithin⟩
      have ends := routersWithin.evolves.trans (.logged third entry)
      constructor
      · intro group groupMem
        rw [Cluster.listedShards, List.append_nil] at groupMem
        rcases List.mem_cons.mp groupMem with rfl | isShard
        · exact ((Session.Happened.single made).earlier shardsWithin.evolves).later ends
        · exact (happened_of_buildShards buildsShards group isShard).later
            (made.evolves.trans ends)
      · intro router routerMem
        exact ((happened_of_buildRouters buildsRouters router routerMem).earlier
          (shardsWithin.evolves.trans made.evolves)).later (.logged third entry)

/-- Whatever the container runtime calls its replica sets, then or later, and whatever has been
asked of a cluster: all that is said of a group is said under the name that it was made with. -/
theorem runAll_namesAlike {before session : Session ω} {shape : ClusterShape}
    {source : ChannelSource} {patience : ℕ} {cluster : Cluster}
    (built : Cluster.build shape source patience before = .ok cluster session)
    (requests : List Request) : NamesAlike before (runAll requests ⟨cluster, session⟩) := by
  rcases Cluster.build_eq_ok built with ⟨building, isNew⟩
  have writable := isNew.blueprint_writable
  have made := runAll_induction
    (motive := fun _ after => MadeSince before after ∧
      ∃ events, before.Evolves events after.session)
    ⟨cluster, session⟩ writable ⟨.of_build (Cluster.build_course built), building, isNew.evolves⟩
    (fun earlier request events after ⟨made, past, since⟩ evolves yielded ran => by
      subst ran
      exact ⟨made.step since evolves yielded, _, since.trans evolves⟩) requests
  rw [← runAll_shape ⟨cluster, session⟩ writable requests] at writable
  exact ⟨made.1.groups, made.1.routers, speaks writable⟩

/-- A world that shows its first shard under another name than the one it was asked for by. -/
def renamingWorld : Simulation.World := { renames := [(.text "shard1", .text "alpha")] }

/-- A cluster in a simulated world whose shard is called otherwise. -/
theorem runAll_namesAlike_simulated :
    ∃ (cluster : Cluster) (session : Session Simulation.World),
      Cluster.build {} .supplied Simulation.patience (Session.fresh renamingWorld) =
        .ok cluster session ∧
      cluster.topology.shards.map (·.name) = [.text "alpha"] ∧
      NamesAlike (Session.fresh renamingWorld) (runAll [.start] ⟨cluster, session⟩) := by
  have renames : returnsWith (fun cluster _ =>
      decide (cluster.topology.shards.map (·.name) = [.text "alpha"]))
      (Cluster.build {} .supplied Simulation.patience (Session.fresh renamingWorld)) = true := by
    decide +kernel
  rcases exists_of_returnsWith renames with ⟨cluster, session, built, renamed⟩
  exact ⟨cluster, session, built, of_decide_eq_true renamed, runAll_namesAlike built _⟩

end Request

end ShardFleet
