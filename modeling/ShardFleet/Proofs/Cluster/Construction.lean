import ShardFleet.Proofs.Cluster.Commissions
import ShardFleet.Proofs.Simulation.World

/-!
# Constructing a cluster

There are few ways in which building a cluster can fail: something that is asked for is refused, a
replica set comes without members, or something that a name or a launch command is made of cannot be
written: what names begin with, or an address. Otherwise the cluster is what its shape says, and
what it orders later does not get in the way of what there is. A shape without a router is refused
before anything is asked for.
-/

namespace ShardFleet

open ShardFleet.Action

variable {ω α β : Type} [Outside ω] {before session after : Session ω} {events : List Event}

/-! ## What can fail -/

/-- A call that sets a launch command. -/
def Call.Launches (call : Call) : Prop := ∃ process arguments, call = .setCommand process arguments

/-- Why building comes to nothing on the way from one session to another: what is asked for last is
refused, or the replica set that was given last has no members, or what names begin with cannot be
written, or an address that a launch command needs cannot. -/
inductive Blueprint.Thwarts (blueprint : Blueprint) (before after : Session ω) :
    List Event → Failure → Prop where
  | refused {earlier : List Event} {call : Call} {failure : Failure} :
      Thwarts blueprint before after (earlier ++ [.called call (.error failure)]) failure
  | memberless {earlier : List Event} {order : ReplicaSetOrder} {handle : Handle}
      (memberless : Outside.members after.outside handle = []) :
      Thwarts blueprint before after (earlier ++ [.called (.buildReplicaSet order) (.ok handle)])
        (ReplicaGroup.emptyRefusal (Outside.handleName after.outside handle))
  | unwritable {events : List Event} {start : Value} {failure : Failure}
      (begins : start = blueprint.namespacePrefix ∨ start = blueprint.routerPrefix)
      (unwritten : start.checkWritable = .error failure) :
      Thwarts blueprint before after events failure
  /-- A member of the replica set that was given last has no address that can be written. -/
  | unaddressed {earlier told : List Event} {between : Session ω} {order : ReplicaSetOrder}
      {handle member : Handle} {world : ω} {failure : Failure}
      (evolves : before.Evolves earlier between)
      (given : Outside.respond (.buildReplicaSet order) between.outside = (.ok handle, world))
      (among : member ∈ Outside.members world handle) (launches : CalledOnly Call.Launches told)
      (unwritten : (Outside.namedAddress after.outside member).checkWritable = .error failure) :
      Thwarts blueprint before after
        (earlier ++ [.called (.buildReplicaSet order) (.ok handle)] ++ told) failure
  /-- The router that was given last has no address that can be written. -/
  | astray {earlier : List Event} {name : String} {router : Handle} {failure : Failure}
      (unwritten : (Outside.namedAddress after.outside router).checkWritable = .error failure) :
      Thwarts blueprint before after (earlier ++ [.called (.buildProcess name) (.ok router)])
        failure
  /-- The config servers have no address that the router that was given last could be told. -/
  | unreachable {earlier : List Event} {servers : ReplicaGroup} {name : String} {router : Handle}
      {failure : Failure}
      (built : Session.Happened (servers.BuiltFor blueprint.configOrder) before after)
      (unwritten : servers.shownAddress true after.outside = .error failure) :
      Thwarts blueprint before after (earlier ++ [.called (.buildProcess name) (.ok router)])
        failure

/-- Building fails on the way from one session to another, for one of these reasons. -/
def Blueprint.FailsBetween (blueprint : Blueprint) (before after : Session ω) (failure : Failure) :
    Prop :=
  ∃ events, before.Evolves events after ∧ blueprint.Thwarts before after events failure

namespace Blueprint.FailsBetween

variable {blueprint : Blueprint} {failure : Failure}

theorem earlier {between : Session ω} (evolves : before.Evolves events between)
    (fails : blueprint.FailsBetween between after failure) :
    blueprint.FailsBetween before after failure := by
  rcases fails with ⟨later, follows, thwarts⟩
  refine ⟨_, evolves.trans follows, ?_⟩
  cases thwarts with
  | refused =>
      rw [← List.append_assoc]
      exact .refused
  | memberless memberless =>
      rw [← List.append_assoc]
      exact .memberless memberless
  | unwritable begins unwritten => exact .unwritable begins unwritten
  | unaddressed past given among launches unwritten =>
      rw [← List.append_assoc, ← List.append_assoc]
      exact .unaddressed (evolves.trans past) given among launches unwritten
  | astray unwritten =>
      rw [← List.append_assoc]
      exact .astray unwritten
  | unreachable built unwritten =>
      rw [← List.append_assoc]
      exact .unreachable (built.earlier evolves) unwritten

theorem of_perform {call : Call} (still : call.isTransition = false)
    (failed : perform call session = .error failure after) :
    blueprint.FailsBetween session after failure := by
  rw [perform_eq] at failed
  rcases conclude_eq_error.mp failed with ⟨answer, rfl⟩
  refine ⟨_, session.evolves_answered still, ?_⟩
  rw [answer]
  exact show blueprint.Thwarts session _ ([] ++ [_]) failure from .refused

theorem of_checkWritable {start : Value}
    (begins : start = blueprint.namespacePrefix ∨ start = blueprint.routerPrefix)
    (failed : (conclude start.checkWritable : Action ω Unit) session = .error failure after) :
    blueprint.FailsBetween session after failure := by
  rcases conclude_eq_error.mp failed with ⟨unwritten, rfl⟩
  exact ⟨[], .refl _, .unwritable begins unwritten⟩

/-- Of two steps, the first fails, or the second does. -/
theorem of_bind {action : Action ω α} {next : α → Action ω β}
    (calls : CallsOnly (Call.Constructs fun _ => True) action)
    (first : action session = .error failure after → blueprint.FailsBetween session after failure)
    (second : ∀ value between, action session = .ok value between →
      next value between = .error failure after → blueprint.FailsBetween between after failure)
    (failed : (action >>= next) session = .error failure after) :
    blueprint.FailsBetween session after failure := by
  rcases bind_eq_error.mp failed with early | ⟨value, between, ran, late⟩
  · exact first early
  · rcases calls.evolves ran with ⟨events, within⟩
    exact (second value between ran late).earlier within.evolves

end Blueprint.FailsBetween

open ShardFleet.Blueprint

namespace ReplicaGroup

variable {blueprint : Blueprint} {failure : Failure}

/-- The members of a group that has just been given are told their launch commands, until one of
them has no address that can be written or something is refused. -/
theorem configure_fails {between : Session ω} {order : ReplicaSetOrder} {handle : Handle}
    {world : ω} {group : ReplicaGroup} {members : List Handle} {earlier told : List Event}
    (past : before.Evolves earlier between)
    (given : Outside.respond (.buildReplicaSet order) between.outside = (.ok handle, world))
    (among : ∀ member ∈ members, member ∈ Outside.members world handle)
    (since : before.Evolves (earlier ++ [.called (.buildReplicaSet order) (.ok handle)] ++ told)
      session) (launches : CalledOnly Call.Launches told)
    (failed : group.configure members session = .error failure after) :
    blueprint.FailsBetween before after failure := by
  induction members generalizing session told with
  | nil => cases failed
  | cons member rest ih =>
      unfold configure at failed
      rcases bind_eq_error.mp failed with unseen | ⟨address, _, viewing, writing⟩
      · cases unseen
      cases viewing
      rcases bind_eq_error.mp writing with unwritten | ⟨_, checked, written, setting⟩
      · rcases conclude_eq_error.mp unwritten with ⟨lacks, rfl⟩
        exact ⟨_, since,
          .unaddressed past given (among member List.mem_cons_self) launches lacks⟩
      rcases conclude_eq_ok.mp written with ⟨_, rfl⟩
      rcases bind_eq_error.mp setting with refused | ⟨_, _, performed, others⟩
      · exact .earlier since (.of_perform rfl refused)
      rcases perform_eq_ok.mp performed with ⟨_, rfl⟩
      have follows (arguments : List Value) :
          before.Evolves (earlier ++ [.called (.buildReplicaSet order) (.ok handle)] ++ (told ++
              [.called (.setCommand member arguments)
                (Outside.respond (.setCommand member arguments) checked.outside).1]))
            (checked.answered (.setCommand member arguments)) := by
        rw [← List.append_assoc]
        exact since.trans (checked.evolves_answered rfl)
      exact ih (fun other listed => among other (List.mem_cons_of_mem _ listed)) (follows _)
        (launches.append (.single ⟨member, _, rfl⟩)) others

theorem build_fails {order : ReplicaSetOrder}
    (failed : build order session = .error failure after) :
    blueprint.FailsBetween session after failure := by
  rcases bind_eq_error.mp failed with refused | ⟨handle, ordered, performed, rest⟩
  · exact .of_perform rfl refused
  rcases perform_eq_ok.mp performed with ⟨answer, rfl⟩
  have asked := session.evolves_answered (show (Call.buildReplicaSet order).isTransition = false
    from rfl)
  rw [answer] at asked
  have made := ofHandle_eq handle order.configServer (session.answered (.buildReplicaSet order))
  rcases bind_eq_error.mp rest with unmade | ⟨group, between, making, configuring⟩
  · have unmade := made.symm.trans unmade
    split at unmade
    · rename_i memberless
      cases unmade
      exact ⟨_, asked, show blueprint.Thwarts session _ ([] ++ [_]) _ from .memberless memberless⟩
    · cases unmade
  · have making := made.symm.trans making
    split at making
    · cases making
    · cases making
      rcases bind_eq_error.mp configuring with unset | ⟨_, _, _, returned⟩
      · exact configure_fails (.refl session) (Prod.ext answer rfl) (fun _ listed => listed)
          (asked.trans (.numbered _)) .nil unset
      · cases returned

end ReplicaGroup

namespace Blueprint

variable {blueprint : Blueprint} {failure : Failure}

theorem buildShard_fails {index : ℕ}
    (failed : blueprint.buildShard index session = .error failure after) :
    blueprint.FailsBetween session after failure := by
  refine .of_bind (.conclude _) (.of_checkWritable (Or.inl rfl)) ?_ failed
  intro _ between _ building
  refine .of_bind (ReplicaGroup.build_callsOnly trivial) ReplicaGroup.build_fails ?_ building
  intro _ _ _ logged
  cases logged

theorem buildConfigServers_fails
    (failed : blueprint.buildConfigServers session = .error failure after) :
    blueprint.FailsBetween session after failure := by
  refine .of_bind (.conclude _) (.of_checkWritable (Or.inl rfl)) ?_ failed
  intro _ between _ building
  refine .of_bind (ReplicaGroup.build_callsOnly trivial) ReplicaGroup.build_fails ?_ building
  intro _ _ _ logged
  cases logged

theorem buildRouter_fails {index : Value} {servers : ReplicaGroup} {shards : List ReplicaGroup}
    (built : Session.Happened (servers.BuiltFor blueprint.configOrder) before session)
    (since : before.Evolves events session)
    (failed : blueprint.buildRouter index servers shards session = .error failure after) :
    blueprint.FailsBetween before after failure := by
  rcases bind_eq_error.mp failed with unwritten | ⟨_, checked, written, building⟩
  · exact .earlier since (.of_checkWritable (Or.inr rfl) unwritten)
  rcases conclude_eq_ok.mp written with ⟨_, rfl⟩
  rcases bind_eq_error.mp building with refused | ⟨handle, _, performed, making⟩
  · exact .earlier since (.of_perform rfl refused)
  rcases perform_eq_ok.mp performed with ⟨answer, rfl⟩
  have asked := checked.evolves_answered
    (show (Call.buildProcess (blueprint.routerName index)).isTransition = false from rfl)
  rw [answer] at asked
  rcases bind_eq_error.mp making with unmade | ⟨router, _, made, addressing⟩
  · cases unmade
  cases made
  have given := asked.trans (.numbered _)
  rw [List.append_nil] at given
  have whole := since.trans given
  rcases bind_eq_error.mp addressing with unseen | ⟨address, _, viewing, writing⟩
  · cases unseen
  cases viewing
  rcases bind_eq_error.mp writing with unwritten | ⟨_, _, written, reaching⟩
  · rcases conclude_eq_error.mp unwritten with ⟨lacks, rfl⟩
    exact ⟨_, whole, .astray lacks⟩
  rcases conclude_eq_ok.mp written with ⟨_, rfl⟩
  rcases bind_eq_error.mp reaching with unwritten | ⟨_, _, written, setting⟩
  · rcases conclude_eq_error.mp unwritten with ⟨lacks, rfl⟩
    exact ⟨_, whole, .unreachable (built.later given) lacks⟩
  rcases conclude_eq_ok.mp written with ⟨_, rfl⟩
  rcases bind_eq_error.mp setting with refused | ⟨_, _, _, logged⟩
  · exact .earlier whole (.of_perform rfl refused)
  · cases logged

end Blueprint

namespace Cluster

variable {blueprint : Blueprint} {failure : Failure}

theorem buildShards_fails {indices : List ℕ}
    (failed : buildShards blueprint indices session = .error failure after) :
    blueprint.FailsBetween session after failure := by
  induction indices generalizing session with
  | nil => cases failed
  | cons index rest ih =>
      unfold buildShards at failed
      refine .of_bind (buildShard_callsOnly _ trivial) buildShard_fails ?_ failed
      intro shard between _ others
      refine .of_bind (buildShards_callsOnly fun _ _ => trivial) ih ?_ others
      intro _ _ _ returned
      cases returned

theorem buildRouters_fails {servers : ReplicaGroup} {shards : List ReplicaGroup} {indices : List ℕ}
    (built : Session.Happened (servers.BuiltFor blueprint.configOrder) before session)
    (since : before.Evolves events session)
    (failed : buildRouters blueprint servers shards indices session = .error failure after) :
    blueprint.FailsBetween before after failure := by
  induction indices generalizing session events with
  | nil => cases failed
  | cons index rest ih =>
      unfold buildRouters at failed
      rcases bind_eq_error.mp failed with unbuilt | ⟨router, between, ran, others⟩
      · exact buildRouter_fails built since unbuilt
      have calls : CallsOnly (Call.Constructs fun _ => True)
          (blueprint.buildRouter (.int index) servers shards : Action ω Router) :=
        buildRouter_callsOnly _ _ _ _
      rcases calls.evolves ran with ⟨later, within⟩
      rcases bind_eq_error.mp others with unbuilt | ⟨_, _, _, returned⟩
      · exact ih (built.later within.evolves) (since.trans within.evolves) unbuilt
      · cases returned

theorem build_callsOnly (shape : ClusterShape) (source : ChannelSource) (patience : ℕ) :
    CallsOnly (Call.Constructs fun _ => True) (build shape source patience : Action ω Cluster) := by
  apply (CallsOnly.conclude _).bind
  intro _
  apply (CallsOnly.conclude _).bind
  intro indices
  apply (buildShards_callsOnly fun _ _ => trivial).bind
  intro shards
  apply (buildConfigServers_callsOnly _ trivial).bind
  intro servers
  apply (CallsOnly.conclude _).bind
  intro routerIndices
  apply (buildRouters_callsOnly _ _ _).bind
  intro routers
  exact (CallsOnly.log _ _ _).bind fun _ => .pure _

theorem build_fails {shape : ClusterShape} {source : ChannelSource} {patience : ℕ}
    {indices routerIndices : List ℕ} (routed : checkRouterCount shape.routerCount = .ok ())
    (numbered : shardNumbers shape.shardCount = .ok indices)
    (routersNumbered : routerNumbers shape.routerCount = .ok routerIndices)
    (failed : build shape source patience session = .error failure after) :
    shape.blueprint.FailsBetween session after failure := by
  unfold build at failed
  rw [routed, numbered, routersNumbered] at failed
  have failed : (buildShards shape.blueprint indices >>= _) session = .error failure after := failed
  refine .of_bind (buildShards_callsOnly fun _ _ => trivial) buildShards_fails ?_ failed
  intro shards between _ building
  rcases bind_eq_error.mp building with unbuilt | ⟨servers, ordered, ran, routing⟩
  · exact buildConfigServers_fails unbuilt
  rcases buildConfigServers_course ran with ⟨made, entry, _, making, rfl⟩
  rcases ReplicaGroup.builtFor_of_build making with ⟨given, built⟩
  have routing : (buildRouters shape.blueprint servers shards routerIndices >>= _) _ =
    .error failure after := routing
  rcases bind_eq_error.mp routing with unbuilt | ⟨_, _, _, logged⟩
  · have evolves := built.evolves.trans (.logged made entry)
    exact buildRouters_fails ((Session.Happened.single built).later (.logged made entry)) evolves
      unbuilt
  · cases logged

/-! ## Construction as a whole -/

/-- The failure that a shape without a router is refused with: it tells the count that is
configured, unless that is too long to be written. -/
def refusal (count : Value) : Failure :=
  if count.isWritable then .misconfigured (.tooFewRouters count) else .integerTooLong

theorem checkRouterCount_of_lt {count : Value} {number : ℤ}
    (counted : count.toCount? = some number) (tooFew : number < 1) :
    checkRouterCount count = .error (refusal count) := by
  have below : count.isBelow? 1 = some true := by
    cases count <;> cases counted <;> exact congrArg some (decide_eq_true tooFew)
  unfold checkRouterCount refusal Value.checkWritable
  rw [below]
  cases count.isWritable <;> rfl

theorem checkRouterCount_of_le {count : Value} {number : ℤ}
    (counted : count.toCount? = some number) (enough : 1 ≤ number) :
    checkRouterCount count = .ok () := by
  have notBelow : count.isBelow? 1 = some false := by
    cases count <;> cases counted <;>
      exact congrArg some (decide_eq_false (Int.not_lt.mpr enough))
  rw [checkRouterCount, notBelow]

/-- A shape that gives no router is refused before anything is asked for. -/
theorem build_of_routerless {shape : ClusterShape} {source : ChannelSource} {patience : ℕ}
    {routerCount : ℤ} (routers : shape.routerCount.toCount? = some routerCount)
    (routerless : routerCount < 1) :
    build shape source patience before = .error (refusal shape.routerCount) before := by
  unfold build
  rw [checkRouterCount_of_lt routers routerless]
  rfl

/-- A new cluster is what was planned. All of it has been asked for in order, and the launch command
of every member and router has been set once, piece by piece. What is asked of the cluster from then
on makes it order shards under further numbers, so that no two replica sets ever share a namespace
or the name of a member. -/
structure Follows (cluster : Cluster) (blueprint : Blueprint) (shardCount routerCount : ℕ)
    (before : Session ω) (events : List Event) (after : Session ω) : Prop where
  commissions : commissionsIn events = blueprint.commissions shardCount routerCount
  launched : (launchesIn events).map Prod.fst =
    (cluster.topology.shards ++ [cluster.topology.configServers]).flatMap (·.members) ++
      cluster.topology.routers.map (·.handle)
  inTurn : cluster.BuiltInTurn blueprint shardCount routerCount before events after
  goesOn : ∀ requests, ∃ later,
    after.Evolves later (Request.runAll requests ⟨cluster, after⟩).session ∧
    ordersIn later = blueprint.laterOrders shardCount (requests.countP Request.isAddShard) ∧
    OrdersApart (ordersIn (events ++ later))

theorem follows_of_build {shape : ClusterShape} {source : ChannelSource} {patience : ℕ}
    {cluster : Cluster} {shardCount routerCount : ℤ}
    (shards : shape.shardCount.toCount? = some shardCount)
    (routers : shape.routerCount.toCount? = some routerCount)
    (built : build shape source patience before = .ok cluster after)
    (evolves : before.Evolves events after) :
    cluster.Follows shape.blueprint shardCount.toNat routerCount.toNat before events after := by
  rcases (build_course built).builtInTurn shards routers with ⟨created, _, inTurn⟩
  rw [inTurn.evolves.unique evolves] at inTurn
  rcases build_eq_ok built with ⟨_, isNew⟩
  refine ⟨inTurn.commissions, inTurn.launched, inTurn, fun requests => ?_⟩
  rcases Request.runAll_orders ⟨cluster, after⟩ isNew.blueprint_writable requests with
    ⟨later, goesOn, orders⟩
  rw [isNew.shape, created] at orders
  refine ⟨later, goesOn, orders, ?_⟩
  rw [ordersIn_append, orders, ordersIn_eq_filterMap, inTurn.commissions,
    filterMap_order?_commissions]
  exact shape.blueprint.ordersApart _ _

/-- A cluster is constructed as its shape says. Without a router it is refused before anything is
asked for. With one it is built and nothing is started, unless something is refused, has no members
or cannot be written. -/
theorem build_followsShape (shape : ClusterShape) {shardCount routerCount : ℤ}
    (shards : shape.shardCount.toCount? = some shardCount)
    (routers : shape.routerCount.toCount? = some routerCount) (source : ChannelSource)
    (patience : ℕ) (before : Session ω) :
    (routerCount < 1 →
      build shape source patience before = .error (refusal shape.routerCount) before) ∧
    (1 ≤ routerCount → ∃ events result after,
      build shape source patience before = conclude result after ∧ before.Evolves events after ∧
      CalledOnly (Call.Constructs fun _ => True) events ∧
      (∀ failure, result = .error failure →
        shape.blueprint.Thwarts before after events failure) ∧
      ∀ cluster, result = .ok cluster →
        cluster.Follows shape.blueprint shardCount.toNat routerCount.toNat before events
          after) := by
  refine ⟨build_of_routerless routers, fun enough => ?_⟩
  have routed := checkRouterCount_of_le routers enough
  rcases exists_eq_conclude (build shape source patience) before with ⟨result, after, ran⟩
  rcases build_callsOnly shape source patience before with ⟨events, within⟩
  rw [finalState_of_conclude ran] at within
  refine ⟨events, result, after, ran, within.evolves, within.calls, ?_, ?_⟩
  · rintro failure rfl
    rcases build_fails routed (shardNumbers_eq shards) (shardNumbers_eq routers) ran with
      ⟨_, evolves, thwarts⟩
    rwa [evolves.unique within.evolves] at thwarts
  · rintro cluster rfl
    exact follows_of_build shards routers ran within.evolves

/-- Two shards and two routers; each group is to have two members. -/
def pairedShape : ClusterShape :=
  { shardCount := .int 2, replicaCount := .int 2, routerCount := .int 2 }

/-- A simulated world that keeps to the names it is asked for. -/
def namedWorld : Simulation.PlainWorld := ⟨{}, rfl⟩

/-- A cluster that is constructed in a simulated world, where nothing fails. -/
theorem build_followsShape_simulated :
    ∃ cluster after events,
      build pairedShape .supplied Simulation.patience (Session.fresh namedWorld) =
        .ok cluster after ∧
      cluster.Follows pairedShape.blueprint 2 2 (Session.fresh namedWorld) events after := by
  have returns : returnsWith (fun _ _ => true)
      (build pairedShape .supplied Simulation.patience (Session.fresh namedWorld)) = true := by
    decide +kernel
  rcases exists_of_returnsWith returns with ⟨cluster, after, ran, _⟩
  have follows := build_followsShape pairedShape rfl rfl .supplied Simulation.patience
    (Session.fresh namedWorld)
  rcases follows.2 (by decide) with ⟨events, result, final, runs, _, _, _, built⟩
  rcases conclude_inj.mp ((show _ = conclude (.ok cluster) after from ran).symm.trans runs) with
    ⟨rfl, rfl⟩
  exact ⟨cluster, after, events, ran, built cluster rfl⟩

/-- Less than one router, in too many digits. -/
def longCount : ℤ := -(Nat.pow 16 4000 - 1 : ℕ)

/-- A shape without a router is refused for something else: the count is too long for the message
that would tell it. -/
theorem build_misreports_longCount :
    longCount < 1 ∧
    build { routerCount := .int longCount } .supplied Simulation.patience
      (Session.fresh ({} : Simulation.World)) = .error .integerTooLong (Session.fresh {}) ∧
    ∀ misconfiguration, Failure.integerTooLong ≠ .misconfigured misconfiguration := by
  have tooFew : longCount < 1 := by decide +kernel
  have unwritable : (Value.int longCount).isWritable = false := by decide +kernel
  refine ⟨tooFew, ?_, nofun⟩
  rw [build_of_routerless rfl tooFew, refusal, unwritable]
  rfl

end Cluster

end ShardFleet
