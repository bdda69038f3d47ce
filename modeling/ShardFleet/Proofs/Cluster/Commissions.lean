import ShardFleet.Proofs.Cluster.Introductions
import ShardFleet.Proofs.Cluster.Namespaces

/-!
# What a cluster is built from

The container runtime is commissioned with a cluster piece by piece: its shards, one after another
by their numbers, then the config servers, then the routers. Once a replica set has been given out,
the launch command of each of its members is set, with the role and the name of its group and the
member's own address; a router is told its own address and those of the config servers. So if a
cluster gets built, what was asked for is what was planned, and every launch command has been set
once.
-/

namespace ShardFleet

open ShardFleet.Action

variable {ω α β : Type}

/-! ## What is asked for -/

/-- What the container runtime is asked to build. -/
inductive Commission where
  | replicaSet (order : ReplicaSetOrder)
  | process (name : String)

def Commission.order? : Commission → Option ReplicaSetOrder
  | .replicaSet order => some order
  | .process _ => none

/-- What is asked for, if that is what happened. -/
def Event.commission? : Event → Option Commission
  | .called (.buildReplicaSet order) _ => some (.replicaSet order)
  | .called (.buildProcess name) _ => some (.process name)
  | _ => none

/-- What the container runtime is asked to build, in order. -/
def commissionsIn (events : List Event) : List Commission := events.filterMap Event.commission?

/-- The launch commands that are set, in order. -/
def launchesIn (events : List Event) : List (Handle × List Value) := events.filterMap Event.launch?

theorem commissionsIn_append (first second : List Event) :
    commissionsIn (first ++ second) = commissionsIn first ++ commissionsIn second :=
  List.filterMap_append

theorem launchesIn_append (first second : List Event) :
    launchesIn (first ++ second) = launchesIn first ++ launchesIn second :=
  List.filterMap_append

theorem ordersIn_eq_filterMap (events : List Event) :
    ordersIn events = (commissionsIn events).filterMap Commission.order? := by
  rw [ordersIn, commissionsIn, List.filterMap_filterMap]
  apply List.filterMap_congr
  intro event _
  cases event with
  | called call answer => cases call <;> rfl
  | _ => rfl

namespace Blueprint

/-- The names of as many routers, by their numbers. -/
def routerNames (blueprint : Blueprint) (count : ℕ) : List String :=
  (List.range count).map fun index => blueprint.routerName (.int (index + 1 : ℕ))

/-- All that is asked for to construct a cluster. -/
def commissions (blueprint : Blueprint) (shardCount routerCount : ℕ) : List Commission :=
  (blueprint.orders shardCount).map .replicaSet ++
    (blueprint.routerNames routerCount).map .process

theorem filterMap_order?_commissions (blueprint : Blueprint) (shardCount routerCount : ℕ) :
    (blueprint.commissions shardCount routerCount).filterMap Commission.order? =
      blueprint.orders shardCount := by
  rw [commissions, List.filterMap_append, List.filterMap_map, List.filterMap_map]
  have all : (blueprint.orders shardCount).filterMap (Commission.order? ∘ .replicaSet) =
      blueprint.orders shardCount := List.filterMap_some
  have unordered :
      (blueprint.routerNames routerCount).filterMap (Commission.order? ∘ .process) = [] :=
    List.filterMap_eq_nil_iff.mpr fun _ _ => rfl
  rw [all, unordered, List.append_nil]

end Blueprint

/-! ## One after another -/

/-- Things come of what was planned, one after another, and nothing else happens. -/
inductive Session.InTurn (episode : α → β → Session ω → List Event → Session ω → Prop) :
    List α → List β → Session ω → List Event → Session ω → Prop where
  | done (session : Session ω) : InTurn episode [] [] session [] session
  | next {thing : α} {things : List α} {plan : β} {plans : List β}
      {before between after : Session ω} {events later : List Event}
      (happens : episode thing plan before events between)
      (rest : InTurn episode things plans between later after) :
      InTurn episode (thing :: things) (plan :: plans) before (events ++ later) after

namespace Session.InTurn

variable {episode : α → β → Session ω → List Event → Session ω → Prop} {things others : List α}
  {plans further : List β} {before between after : Session ω} {events later : List Event}

theorem append (first : InTurn episode things plans before events between)
    (second : InTurn episode others further between later after) :
    InTurn episode (things ++ others) (plans ++ further) before (events ++ later) after := by
  induction first with
  | done session => exact second
  | next happens rest ih =>
      rw [List.append_assoc]
      exact .next happens (ih second)

theorem single {thing : α} {plan : β} (happens : episode thing plan before events after) :
    InTurn episode [thing] [plan] before events after := by
  rw [← List.append_nil events]
  exact .next happens (.done after)

theorem evolves (turns : InTurn episode things plans before events after)
    (each : ∀ thing plan before events after, episode thing plan before events after →
      before.Evolves events after) : before.Evolves events after := by
  induction turns with
  | done session => exact .refl session
  | next happens rest ih => exact (each _ _ _ _ _ happens).trans ih

section told

variable {γ : Type} {told : List Event → List γ} (nil : told [] = [])
  (append : ∀ first second, told (first ++ second) = told first ++ told second)
  (turns : InTurn episode things plans before events after)

include nil append turns

/-- What the events of each thing tell of it is what all events tell, in order. -/
theorem told_eq_flatMap_things {part : α → List γ}
    (each : ∀ thing plan before events after, episode thing plan before events after →
      told events = part thing) : told events = things.flatMap part := by
  induction turns with
  | done session => exact nil
  | next happens rest ih => rw [append, each _ _ _ _ _ happens, ih, List.flatMap_cons]

theorem told_eq_flatMap_plans {part : β → List γ}
    (each : ∀ thing plan before events after, episode thing plan before events after →
      told events = part plan) : told events = plans.flatMap part := by
  induction turns with
  | done session => exact nil
  | next happens rest ih => rw [append, each _ _ _ _ _ happens, ih, List.flatMap_cons]

end told

end Session.InTurn

variable [Outside ω] {before session after : Session ω} {events : List Event}

/-! ## A group -/

namespace ReplicaGroup

/-- The launch commands of members, set one after another in a world: each with the member's own
address, as the world shows it by then. -/
def launchesFrom (group : ReplicaGroup) : ω → List Handle → List (Handle × List Value)
  | _, [] => []
  | world, member :: rest =>
      let arguments := memberArguments (.text group.roleFlag) group.nameValue
        (Outside.namedAddress world member)
      (member, arguments) ::
        group.launchesFrom (Outside.respond (.setCommand member arguments) world).2 rest

theorem map_fst_launchesFrom (group : ReplicaGroup) (world : ω) (members : List Handle) :
    (group.launchesFrom world members).map Prod.fst = members := by
  induction members generalizing world with
  | nil => rfl
  | cons member rest ih => exact congrArg (member :: ·) (ih _)

/-- A group comes of an order: nothing else is asked for, and its members' launch commands are set,
each once and in order. -/
structure BuiltFor (group : ReplicaGroup) (order : ReplicaSetOrder) (before : Session ω)
    (events : List Event) (after : Session ω) : Prop where
  evolves : before.Evolves events after
  commissions : commissionsIn events = [.replicaSet order]
  launches : ∃ world,
    Outside.respond (.buildReplicaSet order) before.outside = (.ok group.handle, world) ∧
    group.name = Outside.handleName world group.handle ∧
    group.members = Outside.members world group.handle ∧
    launchesIn events = group.launchesFrom world group.members
  inhabited : group.members ≠ []
  role : group.holdsConfig = order.configServer
  named : KeepsNames ω → group.name = .text order.name

theorem configure_launches {group : ReplicaGroup} {members : List Handle}
    (configured : group.configure members session = .ok () after) :
    ∃ events, session.Evolves events after ∧ commissionsIn events = [] ∧
      launchesIn events = group.launchesFrom session.outside members := by
  induction members generalizing session with
  | nil =>
      cases configured
      exact ⟨[], .refl _, rfl, rfl⟩
  | cons member rest ih =>
      unfold configure at configured
      rcases bind_eq_ok.mp configured with ⟨address, _, viewing, setting⟩
      cases viewing
      rcases bind_eq_ok.mp setting with ⟨_, _, writing, setting⟩
      rw [(conclude_eq_ok.mp writing).2] at setting
      rcases bind_eq_ok.mp setting with ⟨_, between, performed, others⟩
      rcases perform_eq_ok.mp performed with ⟨_, rfl⟩
      rcases ih others with ⟨events, evolves, unasked, launches⟩
      refine ⟨_, (session.evolves_answered rfl).trans evolves, ?_, ?_⟩
      · exact unasked
      · rw [launchesIn_append, launches]
        rfl

/-- What comes of a handle: a group with the name and the members that it shows, unless it shows no
members. -/
theorem ofHandle_eq (handle : Handle) (holdsConfig : Bool) (session : Session ω) :
    ofHandle handle holdsConfig session =
      if Outside.members session.outside handle = [] then
        .error (emptyRefusal (Outside.handleName session.outside handle)) session
      else
        .ok { serial := session.nextSerial
              name := Outside.handleName session.outside handle
              handle
              members := Outside.members session.outside handle
              holdsConfig }
          { session with nextSerial := session.nextSerial + 1 } := by
  change (if (Outside.members session.outside handle).isEmpty then _ else _ : Action ω _)
    session = _
  by_cases memberless : Outside.members session.outside handle = []
  · rw [if_pos memberless, if_pos (List.isEmpty_iff.mpr memberless)]
    rfl
  · rw [if_neg memberless, if_neg fun empty => memberless (List.isEmpty_iff.mp empty)]
    rfl

theorem builtFor_of_build {order : ReplicaSetOrder} {group : ReplicaGroup}
    (built : build order session = .ok group after) :
    ∃ events, group.BuiltFor order session events after := by
  have named := (build_eq_ok built).2
  rcases bind_eq_ok.mp built with ⟨handle, ordered, performed, rest⟩
  rcases perform_eq_ok.mp performed with ⟨answer, rfl⟩
  rcases bind_eq_ok.mp rest with ⟨made, between, making, configuring⟩
  have making := (ofHandle_eq handle _ _).symm.trans making
  split at making
  · cases making
  · rename_i inhabited
    cases making
    rcases bind_eq_ok.mp configuring with ⟨_, configured, sets, returns⟩
    cases returns
    rcases configure_launches sets with ⟨events, evolves, unasked, launches⟩
    have asked := session.evolves_answered (show (Call.buildReplicaSet order).isTransition = false
      from rfl)
    exact ⟨_, {
      evolves := asked.trans ((Session.Evolves.numbered _).trans evolves)
      commissions := by
        rw [commissionsIn_append, List.nil_append, unasked]
        rfl
      launches := ⟨_, Prod.ext answer rfl, rfl, rfl, launches⟩
      inhabited
      role := rfl
      named }⟩

theorem BuiltFor.launched {group : ReplicaGroup} {order : ReplicaSetOrder}
    (built : group.BuiltFor order before events after) :
    (launchesIn events).map Prod.fst = group.members := by
  rcases built.launches with ⟨world, _, _, _, launches⟩
  rw [launches, map_fst_launchesFrom]

theorem BuiltFor.logged {group : ReplicaGroup} {order : ReplicaSetOrder}
    (built : group.BuiltFor order before events after) (entry : LogEntry) :
    group.BuiltFor order before (events ++ [.logged entry]) (after.record (.logged entry)) where
  evolves := built.evolves.trans (.logged after entry)
  commissions := by
    rw [commissionsIn_append, built.commissions]
    rfl
  launches := by
    rcases built.launches with ⟨world, given, name, members, launches⟩
    refine ⟨world, given, name, members, ?_⟩
    rw [launchesIn_append, launches]
    exact List.append_nil _
  inhabited := built.inhabited
  role := built.role
  named := built.named

end ReplicaGroup

/-! ## A router -/

/-- A router comes of a name: nothing else is asked for, and its launch command is set, with its own
address and that of the config servers. -/
structure Router.BuiltFor (servers : ReplicaGroup) (router : Router) (name : String)
    (before : Session ω) (events : List Event) (after : Session ω) : Prop where
  evolves : before.Evolves events after
  commissions : commissionsIn events = [.process name]
  launches : ∃ world,
    Outside.respond (.buildProcess name) before.outside = (.ok router.handle, world) ∧
    launchesIn events = [(router.handle,
      routerCommand (Outside.namedAddress world router.handle)
        (Address.ofReplicaSet servers.name.toText
          (servers.members.map (Outside.namedAddress world))))]

theorem Router.BuiltFor.launched {servers : ReplicaGroup} {router : Router} {name : String}
    (built : router.BuiltFor servers name before events after) :
    (launchesIn events).map Prod.fst = [router.handle] := by
  rcases built.launches with ⟨world, _, launches⟩
  rw [launches]
  rfl

theorem Router.builtFor_of_buildRouter {blueprint : Blueprint} {index : Value}
    {servers : ReplicaGroup} {shards : List ReplicaGroup} {router : Router}
    (built : blueprint.buildRouter index servers shards session = .ok router after) :
    ∃ events, router.BuiltFor servers (blueprint.routerName index) session events after := by
  rcases Blueprint.buildRouter_course built with
    ⟨ordered, arguments, entry, rfl, answer, rfl, _, rfl⟩
  have asked := session.evolves_answered
    (show (Call.buildProcess (blueprint.routerName index)).isTransition = false from rfl)
  have sets (numbered : Session ω) (arguments : List Value) := numbered.evolves_answered
    (show (Call.setCommand router.handle arguments).isTransition = false from rfl)
  exact ⟨_, {
    evolves := asked.trans ((Session.Evolves.numbered _).trans ((sets _ _).trans (.logged _ _)))
    commissions := rfl
    launches := ⟨_, Prod.ext answer rfl, rfl⟩ }⟩

/-! ## All of them -/

namespace Cluster

open Blueprint

theorem inTurn_of_buildShards {blueprint : Blueprint} {indices : List ℕ}
    {shards : List ReplicaGroup}
    (built : buildShards blueprint indices session = .ok shards after) :
    ∃ events, Session.InTurn ReplicaGroup.BuiltFor shards (indices.map blueprint.shardOrder)
      session events after := by
  induction indices generalizing session shards with
  | nil =>
      cases built
      exact ⟨[], .done _⟩
  | cons index rest ih =>
      unfold buildShards at built
      rcases bind_eq_ok.mp built with ⟨shard, between, building, others⟩
      rcases bind_eq_ok.mp others with ⟨later, _, buildingRest, returning⟩
      cases returning
      rcases buildShard_course building with ⟨made, entry, making, rfl⟩
      rcases ReplicaGroup.builtFor_of_build making with ⟨events, happens⟩
      rcases ih buildingRest with ⟨following, turns⟩
      exact ⟨_, .next (happens.logged entry) turns⟩

theorem inTurn_of_buildRouters {blueprint : Blueprint} {servers : ReplicaGroup}
    {shards : List ReplicaGroup} {indices : List ℕ} {routers : List Router}
    (built : buildRouters blueprint servers shards indices session = .ok routers after) :
    ∃ events, Session.InTurn (Router.BuiltFor servers) routers
      (indices.map fun (index : ℕ) => blueprint.routerName (.int index)) session events after := by
  induction indices generalizing session routers with
  | nil =>
      cases built
      exact ⟨[], .done _⟩
  | cons index rest ih =>
      unfold buildRouters at built
      rcases bind_eq_ok.mp built with ⟨router, between, building, others⟩
      rcases bind_eq_ok.mp others with ⟨later, _, buildingRest, returning⟩
      cases returning
      rcases Router.builtFor_of_buildRouter building with ⟨events, happens⟩
      rcases ih buildingRest with ⟨following, turns⟩
      exact ⟨_, .next happens turns⟩

/-- How a cluster comes to be what was planned: its groups are built one after another, and after
them its routers. -/
inductive BuiltInTurn (cluster : Cluster) (blueprint : Blueprint) (shardCount routerCount : ℕ)
    (before : Session ω) : List Event → Session ω → Prop where
  | built {grouping routing : List Event} {between final : Session ω} {entry : LogEntry}
      (groups : Session.InTurn ReplicaGroup.BuiltFor
        (cluster.topology.shards ++ [cluster.topology.configServers]) (blueprint.orders shardCount)
        before grouping between)
      (routers : Session.InTurn (Router.BuiltFor cluster.topology.configServers)
        cluster.topology.routers (blueprint.routerNames routerCount) between routing final) :
      BuiltInTurn cluster blueprint shardCount routerCount before
        (grouping ++ routing ++ [.logged entry]) (final.record (.logged entry))

namespace BuiltInTurn

variable {cluster : Cluster} {blueprint : Blueprint} {shardCount routerCount : ℕ}

theorem evolves (built : cluster.BuiltInTurn blueprint shardCount routerCount before events after) :
    before.Evolves events after := by
  cases built with
  | built groups routers =>
      have grouped := groups.evolves fun _ _ _ _ _ happens => happens.evolves
      have routed := routers.evolves fun _ _ _ _ _ happens => happens.evolves
      exact (grouped.trans routed).trans (.logged _ _)

/-- What is asked for is what was planned, in order. -/
theorem commissions
    (built : cluster.BuiltInTurn blueprint shardCount routerCount before events after) :
    commissionsIn events = blueprint.commissions shardCount routerCount := by
  cases built with
  | built groups routers =>
      rw [commissionsIn_append, commissionsIn_append,
        groups.told_eq_flatMap_plans rfl commissionsIn_append
          fun _ _ _ _ _ happens => happens.commissions,
        routers.told_eq_flatMap_plans rfl commissionsIn_append
          fun _ _ _ _ _ happens => happens.commissions,
        ← List.map_eq_flatMap, ← List.map_eq_flatMap, commissions]
      exact List.append_nil _

/-- The launch command of every member is set once, and so is that of every router. -/
theorem launched
    (built : cluster.BuiltInTurn blueprint shardCount routerCount before events after) :
    (launchesIn events).map Prod.fst =
      (cluster.topology.shards ++ [cluster.topology.configServers]).flatMap (·.members) ++
        cluster.topology.routers.map (·.handle) := by
  have append (first second : List Event) : (launchesIn (first ++ second)).map Prod.fst =
      (launchesIn first).map Prod.fst ++ (launchesIn second).map Prod.fst := by
    rw [launchesIn_append, List.map_append]
  cases built with
  | built groups routers =>
      rw [append, append,
        groups.told_eq_flatMap_things rfl append fun _ _ _ _ _ happens => happens.launched,
        routers.told_eq_flatMap_things rfl append fun _ _ _ _ _ happens => happens.launched,
        ← List.map_eq_flatMap]
      exact List.append_nil _

end BuiltInTurn

theorem shardNumbers_eq {count : Value} {number : ℤ} (counted : count.toCount? = some number) :
    shardNumbers count = .ok ((List.range number.toNat).map (· + 1)) := by
  rw [shardNumbers, counted]

theorem BuildCourse.builtInTurn {given : ClusterShape} {source : ChannelSource} {patience : ℕ}
    {cluster : Cluster} {shardCount routerCount : ℤ}
    (shardsCounted : given.shardCount.toCount? = some shardCount)
    (routersCounted : given.routerCount.toCount? = some routerCount)
    (course : BuildCourse given source patience session cluster after) :
    cluster.shardsCreated = shardCount.toNat ∧
      ∃ events, cluster.BuiltInTurn given.blueprint shardCount.toNat routerCount.toNat session
        events after := by
  cases course with
  | built routed numbered buildsShards buildsServers routersNumbered buildsRouters =>
      cases (shardNumbers_eq shardsCounted).symm.trans numbered
      cases (shardNumbers_eq routersCounted).symm.trans routersNumbered
      rcases inTurn_of_buildShards buildsShards with ⟨_, shardTurns⟩
      rcases buildConfigServers_course buildsServers with ⟨made, entry, _, making, rfl⟩
      rcases ReplicaGroup.builtFor_of_build making with ⟨_, happens⟩
      rcases inTurn_of_buildRouters buildsRouters with ⟨_, routerTurns⟩
      rw [List.map_map] at shardTurns routerTurns
      refine ⟨?_, _, .built (shardTurns.append (.single (happens.logged entry))) routerTurns⟩
      rw [(buildShards_eq_ok buildsShards).1, List.length_map, List.length_range]

end Cluster

end ShardFleet
