import ShardFleet.Cluster.Basic
import ShardFleet.Proofs.Component.ShownAddress

/-!
# What is built

Building orders replica sets and processes and sets their launch commands; nothing is started. A
group or router gets a serial number that no component had before, so routers, which are built last,
have greater ones than all that they require. Where the container runtime keeps to the names it is
asked for, the shards carry theirs.
-/

namespace ShardFleet

variable {ω : Type}

namespace Call

/-- A call that builds or configures, with the names that replica sets may be asked for by. -/
def Constructs (names : String → Prop) : Call → Prop
  | .buildReplicaSet order => names order.name
  | .buildProcess _ => True
  | .setCommand _ _ => True
  | _ => False

end Call

/-- The container runtime gives a replica set the name that it is asked for. -/
def KeepsNames (ω : Type) [Outside ω] : Prop :=
  ∀ (order : ReplicaSetOrder) (outside after : ω) (handle : Handle),
    Outside.respond (.buildReplicaSet order) outside = (.ok handle, after) →
      Outside.handleName after handle = .text order.name

/-- A component that got its serial number between two sessions. -/
def Component.MadeBetween (before after : Session ω) (component : Component) : Prop :=
  before.nextSerial ≤ component.serial ∧ component.serial < after.nextSerial

theorem Component.MadeBetween.later {before after final : Session ω} {component : Component}
    (made : component.MadeBetween before after) (le : after.nextSerial ≤ final.nextSerial) :
    component.MadeBetween before final :=
  ⟨made.1, Nat.lt_of_lt_of_le made.2 le⟩

/-- Components that got their serial numbers one after another between two sessions. -/
structure Component.MadeInTurn (before after : Session ω) (components : List Component) :
    Prop where
  made : ∀ component ∈ components, component.MadeBetween before after
  ascending : components.Pairwise (·.serial < ·.serial)

namespace Component.MadeInTurn

variable {before middle after : Session ω} {component : Component}
  {front back : List Component}

theorem nil : MadeInTurn before after [] := ⟨by simp, .nil⟩

theorem single (made : component.MadeBetween before after) : MadeInTurn before after [component] :=
  ⟨by simpa using made, List.pairwise_singleton _ _⟩

theorem append (first : MadeInTurn before middle front) (second : MadeInTurn middle after back)
    (start : before.nextSerial ≤ middle.nextSerial)
    (finish : middle.nextSerial ≤ after.nextSerial) : MadeInTurn before after (front ++ back) where
  made := by
    intro component componentMem
    rcases List.mem_append.mp componentMem with early | late
    · exact (first.made component early).later finish
    · exact ⟨Nat.le_trans start (second.made component late).1, (second.made component late).2⟩
  ascending := by
    refine List.pairwise_append.mpr ⟨first.ascending, second.ascending, ?_⟩
    intro component early other late
    exact Nat.lt_of_lt_of_le (first.made component early).2 (second.made other late).1

end Component.MadeInTurn

open ShardFleet.Action

variable [Outside ω] {names : String → Prop} {allowed : Call → Prop} {session after : Session ω}

theorem Action.CallsOnly.evolves {α : Type} {action : Action ω α}
    (calls : CallsOnly allowed action) {value : α} (run : action session = .ok value after) :
    ∃ events, session.EvolvesWithin allowed events after := by
  have within := calls session
  rwa [finalState_of_ok run] at within

theorem Action.CallsOnly.evolves_of_error {α : Type} {action : Action ω α}
    (calls : CallsOnly allowed action) {failure : Failure}
    (run : action session = .error failure after) :
    ∃ events, session.EvolvesWithin allowed events after := by
  have within := calls session
  rwa [finalState_of_error run] at within

theorem Action.CallsOnly.nextSerial_le {α : Type} {action : Action ω α}
    (calls : CallsOnly allowed action) {value : α} (run : action session = .ok value after) :
    session.nextSerial ≤ after.nextSerial := by
  rcases calls.evolves run with ⟨events, within⟩
  exact within.evolves.serials

namespace ReplicaGroup

theorem configure_callsOnly (group : ReplicaGroup) (members : List Handle) :
    CallsOnly (Call.Constructs names) (group.configure members : Action ω Unit) := by
  induction members with
  | nil => exact .pure ()
  | cons member rest ih =>
      apply (CallsOnly.view _).bind
      intro address
      apply (CallsOnly.conclude _).bind
      intro _
      refine CallsOnly.bind (.perform rfl ?_) fun _ => ih
      trivial

theorem ofHandle_callsOnly (handle : Handle) (holdsConfig : Bool) :
    CallsOnly allowed (ofHandle handle holdsConfig : Action ω ReplicaGroup) := by
  apply (CallsOnly.view _).bind
  intro members
  apply (CallsOnly.view _).bind
  intro name
  split
  · exact .throw _
  · exact (CallsOnly.bind .freshSerial fun _ => .pure _).bind fun _ => .pure _

theorem ofHandle_eq_ok {handle : Handle} {holdsConfig : Bool} {group : ReplicaGroup}
    (made : ofHandle handle holdsConfig session = .ok group after) :
    group.handle = handle ∧ group.name = Outside.handleName session.outside handle ∧
      group.members = Outside.members session.outside handle ∧
      group.serial = session.nextSerial ∧ after.nextSerial = session.nextSerial + 1 := by
  unfold ofHandle at made
  rcases bind_eq_ok.mp made with ⟨members, _, viewed, made⟩
  cases viewed
  rcases bind_eq_ok.mp made with ⟨name, _, viewed, made⟩
  cases viewed
  split at made
  · cases made
  · cases made
    exact ⟨rfl, rfl, rfl, rfl, rfl⟩

theorem afterOrder_callsOnly (handle : Handle) (holdsConfig : Bool) :
    CallsOnly (Call.Constructs names) (do
      let group ← ofHandle handle holdsConfig
      group.configure group.members
      return group : Action ω ReplicaGroup) := by
  apply (ofHandle_callsOnly handle holdsConfig).bind
  intro group
  exact (group.configure_callsOnly group.members).bind fun _ => .pure group

theorem build_callsOnly {order : ReplicaSetOrder} (named : names order.name) :
    CallsOnly (Call.Constructs names) (build order : Action ω ReplicaGroup) :=
  CallsOnly.bind (.perform rfl named) fun handle => afterOrder_callsOnly handle _

theorem build_eq_ok {order : ReplicaSetOrder} {group : ReplicaGroup}
    (built : build order session = .ok group after) :
    group.MadeBetween session after ∧ (KeepsNames ω → group.name = .text order.name) := by
  rcases bind_eq_ok.mp built with ⟨handle, ordered, performed, built⟩
  rcases perform_eq_ok.mp performed with ⟨answer, rfl⟩
  rcases bind_eq_ok.mp built with ⟨made, between, making, built⟩
  rcases ofHandle_eq_ok making with ⟨_, name, _, serial, next⟩
  rcases bind_eq_ok.mp built with ⟨_, configured, configuring, built⟩
  have configures : CallsOnly (Call.Constructs fun _ => False)
      (made.configure made.members : Action ω Unit) := made.configure_callsOnly made.members
  have later := configures.nextSerial_le configuring
  cases built
  refine ⟨⟨Nat.le_of_eq serial.symm, ?_⟩, ?_⟩
  · rw [serial]
    exact Nat.lt_of_lt_of_le (next ▸ Nat.lt_succ_self _) later
  · intro keeps
    rw [name]
    exact keeps order session.outside _ handle (Prod.ext answer rfl)

end ReplicaGroup

namespace Blueprint

theorem buildShard_callsOnly (blueprint : Blueprint) {index : ℕ} (named : names (shardName index)) :
    CallsOnly (Call.Constructs names) (blueprint.buildShard index : Action ω ReplicaGroup) := by
  apply (CallsOnly.conclude _).bind
  intro _
  apply (ReplicaGroup.build_callsOnly named).bind
  intro shard
  exact (CallsOnly.log _ _ _).bind fun _ => .pure shard

/-- The order for the shard with the number given. -/
def shardOrder (blueprint : Blueprint) (index : ℕ) : ReplicaSetOrder :=
  ⟨blueprint.shardNamespace index, shardName index, blueprint.memberCount, false⟩

/-- A shard's replica set is ordered first, and no other is after. -/
theorem buildShard_orders {blueprint : Blueprint}
    (writable : blueprint.namespacePrefix.checkWritable = .ok ()) (index : ℕ)
    (session : Session ω) :
    ∃ answer events,
      session.Evolves (.called (.buildReplicaSet (blueprint.shardOrder index)) answer :: events)
        (finalState (blueprint.buildShard index) session) ∧
      CalledOnly (Call.Constructs fun _ => False) events := by
  unfold buildShard ReplicaGroup.build
  rw [writable]
  change ∃ answer events, session.Evolves _ (finalState (_ >>= _) session) ∧ _
  rw [bind_assoc]
  have rest (handle : Handle) : CallsOnly (Call.Constructs fun _ => False) ((do
      let group ← ReplicaGroup.ofHandle handle (blueprint.shardOrder index).configServer
      group.configure group.members
      return group) >>= fun shard => do
        Action.log .info "Created shard"
          [("shard", shard.nameValue), ("members", .int shard.members.length)]
        return shard : Action ω ReplicaGroup) := by
    apply (ReplicaGroup.afterOrder_callsOnly handle _).bind
    intro shard
    exact (CallsOnly.log _ _ _).bind fun _ => .pure shard
  exact CallsOnly.perform_bind (.buildReplicaSet (blueprint.shardOrder index)) rfl rest session

/-- A shard's replica set is asked for first, by the shard's name, and none is asked for after. -/
theorem buildShard_asks {blueprint : Blueprint}
    (writable : blueprint.namespacePrefix.checkWritable = .ok ()) (index : ℕ)
    (session : Session ω) :
    ∃ order answer events, order.name = shardName index ∧
      session.Evolves (.called (.buildReplicaSet order) answer :: events)
        (finalState (blueprint.buildShard index) session) ∧
      CalledOnly (Call.Constructs fun _ => False) events := by
  rcases buildShard_orders writable index session with ⟨answer, events, evolves, calls⟩
  exact ⟨blueprint.shardOrder index, answer, events, rfl, evolves, calls⟩

theorem buildShard_course {blueprint : Blueprint} {index : ℕ} {shard : ReplicaGroup}
    (built : blueprint.buildShard index session = .ok shard after) :
    ∃ made entry,
      ReplicaGroup.build ⟨blueprint.shardNamespace index, shardName index,
        blueprint.memberCount, false⟩ session = .ok shard made ∧
      after = made.record (.logged entry) := by
  unfold buildShard at built
  rcases bind_eq_ok.mp built with ⟨_, between, concluding, rest⟩
  rcases conclude_eq_ok.mp concluding with ⟨_, rfl⟩
  rcases bind_eq_ok.mp rest with ⟨group, made, building, logging⟩
  cases logging
  exact ⟨made, _, building, rfl⟩

theorem buildShard_eq_ok {blueprint : Blueprint} {index : ℕ} {shard : ReplicaGroup}
    (built : blueprint.buildShard index session = .ok shard after) :
    shard.MadeBetween session after ∧
      (KeepsNames ω → shard.name = .text (shardName index)) := by
  rcases buildShard_course built with ⟨made, entry, building, rfl⟩
  exact ReplicaGroup.build_eq_ok building

theorem buildConfigServers_callsOnly (blueprint : Blueprint) (named : names configName) :
    CallsOnly (Call.Constructs names) (blueprint.buildConfigServers : Action ω ReplicaGroup) := by
  apply (CallsOnly.conclude _).bind
  intro _
  apply (ReplicaGroup.build_callsOnly named).bind
  intro servers
  exact (CallsOnly.log _ _ _).bind fun _ => .pure servers

theorem buildConfigServers_course {blueprint : Blueprint} {servers : ReplicaGroup}
    (built : blueprint.buildConfigServers session = .ok servers after) :
    ∃ made entry, blueprint.namespacePrefix.checkWritable = .ok () ∧
      ReplicaGroup.build ⟨blueprint.configNamespace, configName, blueprint.memberCount, true⟩
        session = .ok servers made ∧
      after = made.record (.logged entry) := by
  unfold buildConfigServers at built
  rcases bind_eq_ok.mp built with ⟨_, between, concluding, rest⟩
  rcases conclude_eq_ok.mp concluding with ⟨writable, rfl⟩
  rcases bind_eq_ok.mp rest with ⟨group, made, building, logging⟩
  cases logging
  exact ⟨made, _, writable, building, rfl⟩

theorem buildConfigServers_eq_ok {blueprint : Blueprint} {servers : ReplicaGroup}
    (built : blueprint.buildConfigServers session = .ok servers after) :
    servers.MadeBetween session after ∧ blueprint.namespacePrefix.checkWritable = .ok () := by
  rcases buildConfigServers_course built with ⟨made, entry, writable, building, rfl⟩
  exact ⟨(ReplicaGroup.build_eq_ok building).1, writable⟩

theorem buildRouter_callsOnly (blueprint : Blueprint) (index : Value) (servers : ReplicaGroup)
    (shards : List ReplicaGroup) :
    CallsOnly (Call.Constructs names)
      (blueprint.buildRouter index servers shards : Action ω Router) := by
  apply (CallsOnly.conclude _).bind
  intro _
  refine CallsOnly.bind (.perform rfl ?_) ?_
  · trivial
  intro handle
  refine CallsOnly.bind (CallsOnly.bind (.view _) fun _ => CallsOnly.bind
    (CallsOnly.bind .freshSerial fun _ => .pure _) fun _ => .pure _) ?_
  intro router
  apply CallsOnly.bind (.view _)
  intro address
  apply (CallsOnly.conclude _).bind
  intro _
  apply (servers.replicaSetAddress_callsOnly true).bind
  intro text
  refine CallsOnly.bind (.perform rfl ?_) ?_
  · trivial
  intro _
  exact (CallsOnly.log _ _ _).bind fun _ => .pure router

/-- A router is built: its process is ordered, gets a serial number, and is told to reach the config
servers at the addresses that they are named by at that moment. -/
theorem buildRouter_course {blueprint : Blueprint} {index : Value} {servers : ReplicaGroup}
    {shards : List ReplicaGroup} {router : Router}
    (built : blueprint.buildRouter index servers shards session = .ok router after) :
    ∃ (ordered : Session ω) (arguments : List Value) (entry : LogEntry),
      ordered = session.answered (.buildProcess (blueprint.routerName index)) ∧
      (Outside.respond (.buildProcess (blueprint.routerName index)) session.outside).1 =
        .ok router.handle ∧
      arguments = routerCommand (Outside.namedAddress ordered.outside router.handle)
        (Address.ofReplicaSet servers.name.toText
          (servers.members.map (Outside.namedAddress ordered.outside))) ∧
      router.serial = session.nextSerial ∧
      after = ({ ordered with nextSerial := session.nextSerial + 1 }.answered
        (.setCommand router.handle arguments)).record (.logged entry) := by
  unfold buildRouter Router.ofHandle Component.make at built
  rcases bind_eq_ok.mp built with ⟨_, between, concluding, rest⟩
  rcases conclude_eq_ok.mp concluding with ⟨_, rfl⟩
  rcases bind_eq_ok.mp rest with ⟨handle, ordered, performed, rest⟩
  rcases perform_eq_ok.mp performed with ⟨answer, rfl⟩
  rcases bind_eq_ok.mp rest with ⟨made, numbered, making, rest⟩
  cases making
  rcases bind_eq_ok.mp rest with ⟨address, _, viewing, rest⟩
  cases viewing
  rcases bind_eq_ok.mp rest with ⟨_, _, writing, rest⟩
  rcases conclude_eq_ok.mp writing with ⟨_, rfl⟩
  rcases bind_eq_ok.mp rest with ⟨text, _, reading, rest⟩
  rcases conclude_eq_ok.mp reading with ⟨written, rfl⟩
  rcases Address.writeReplicaSet_eq_ok_iff.mp written with ⟨_, rfl⟩
  rcases bind_eq_ok.mp rest with ⟨_, _, configuring, rest⟩
  rcases perform_eq_ok.mp configuring with ⟨_, rfl⟩
  cases rest
  exact ⟨_, _, _, rfl, answer, rfl, rfl, rfl⟩

theorem buildRouter_eq_ok {blueprint : Blueprint} {index : Value} {servers : ReplicaGroup}
    {shards : List ReplicaGroup} {router : Router}
    (built : blueprint.buildRouter index servers shards session = .ok router after) :
    router.MadeBetween session after := by
  rcases buildRouter_course built with ⟨ordered, arguments, entry, _, _, _, serial, rfl⟩
  exact ⟨Nat.le_of_eq serial.symm, serial ▸ Nat.lt_succ_self _⟩

end Blueprint

namespace Cluster

open Blueprint

variable {blueprint : Blueprint}

theorem buildShards_callsOnly {indices : List ℕ}
    (named : ∀ index ∈ indices, names (shardName index)) :
    CallsOnly (Call.Constructs names)
      (buildShards blueprint indices : Action ω (List ReplicaGroup)) := by
  induction indices with
  | nil => exact .pure []
  | cons index rest ih =>
      apply (blueprint.buildShard_callsOnly (named index List.mem_cons_self)).bind
      intro shard
      apply (ih fun other otherMem => named other (List.mem_cons_of_mem _ otherMem)).bind
      intro shards
      exact .pure _

theorem buildShards_eq_ok {indices : List ℕ} {shards : List ReplicaGroup}
    (built : buildShards blueprint indices session = .ok shards after) :
    shards.length = indices.length ∧
      Component.MadeInTurn session after (shards.map (·.toComponent)) ∧
      (KeepsNames ω →
        shards.map (·.name) = indices.map fun index => .text (shardName index)) := by
  induction indices generalizing session shards with
  | nil =>
      cases built
      exact ⟨rfl, .nil, fun _ => rfl⟩
  | cons index rest ih =>
      unfold buildShards at built
      rcases bind_eq_ok.mp built with ⟨shard, between, building, others⟩
      rcases bind_eq_ok.mp others with ⟨later, _, buildingRest, returning⟩
      cases returning
      rcases buildShard_eq_ok building with ⟨made, named⟩
      rcases ih buildingRest with ⟨length, madeLater, names⟩
      have builds : CallsOnly (Call.Constructs fun _ => True)
          (buildShards blueprint rest : Action ω (List ReplicaGroup)) :=
        buildShards_callsOnly fun _ _ => trivial
      refine ⟨congrArg (· + 1) length, ?_, ?_⟩
      · exact (Component.MadeInTurn.single made).append madeLater
          (Nat.le_of_lt (Nat.lt_of_le_of_lt made.1 made.2)) (builds.nextSerial_le buildingRest)
      · intro keeps
        rw [List.map_cons, List.map_cons, named keeps, names keeps]

theorem buildRouters_callsOnly (servers : ReplicaGroup) (shards : List ReplicaGroup)
    (indices : List ℕ) :
    CallsOnly (Call.Constructs names)
      (buildRouters blueprint servers shards indices : Action ω (List Router)) := by
  induction indices with
  | nil => exact .pure []
  | cons index rest ih =>
      apply (blueprint.buildRouter_callsOnly _ servers shards).bind
      intro router
      apply ih.bind
      intro routers
      exact .pure _

theorem buildRouters_eq_ok {servers : ReplicaGroup} {shards : List ReplicaGroup}
    {indices : List ℕ} {routers : List Router}
    (built : buildRouters blueprint servers shards indices session = .ok routers after) :
    routers.length = indices.length ∧
      Component.MadeInTurn session after (routers.map (·.toComponent)) := by
  induction indices generalizing session routers with
  | nil =>
      cases built
      exact ⟨rfl, .nil⟩
  | cons index rest ih =>
      unfold buildRouters at built
      rcases bind_eq_ok.mp built with ⟨router, between, building, others⟩
      rcases bind_eq_ok.mp others with ⟨later, _, buildingRest, returning⟩
      cases returning
      have made := buildRouter_eq_ok building
      rcases ih buildingRest with ⟨length, madeLater⟩
      have builds : CallsOnly (Call.Constructs fun _ => False)
          (buildRouters blueprint servers shards rest : Action ω (List Router)) :=
        buildRouters_callsOnly servers shards rest
      exact ⟨congrArg (· + 1) length, (Component.MadeInTurn.single made).append madeLater
        (Nat.le_of_lt (Nat.lt_of_le_of_lt made.1 made.2)) (builds.nextSerial_le buildingRest)⟩

omit [Outside ω] in
theorem shardNumbers_eq_ok {count : Value} {indices : List ℕ}
    (numbered : shardNumbers count = .ok indices) :
    indices = (List.range indices.length).map (· + 1) := by
  unfold shardNumbers at numbered
  split at numbered
  · cases numbered
    simp
  · cases numbered

omit [Outside ω] in
theorem one_le_of_checkRouterCount {count : Value} {number : Int}
    (passes : checkRouterCount count = .ok ()) (counted : count.toCount? = some number) :
    1 ≤ number := by
  unfold checkRouterCount at passes
  split at passes
  · rename_i enough
    cases count with
    | bool flag =>
        cases counted
        cases flag with
        | false => exact absurd enough (by decide)
        | true => decide
    | int given =>
        cases counted
        have notBelow : ¬number < 1 := of_decide_eq_false (Option.some.inj enough)
        omega
    | _ => cases counted
  · cases writing : count.checkWritable <;> rw [writing] at passes <;> cases passes
  · cases passes

omit [Outside ω] in
theorem routerNumbers_ne_nil {count : Value} {indices : List ℕ}
    (passes : checkRouterCount count = .ok ()) (numbered : routerNumbers count = .ok indices) :
    indices ≠ [] := by
  unfold routerNumbers shardNumbers at numbered
  split at numbered
  · rename_i number counted
    have enough := one_le_of_checkRouterCount passes counted
    cases numbered
    simp only [ne_eq, List.map_eq_nil_iff, List.range_eq_nil]
    omega
  · cases numbered

omit [Outside ω] in
/-- Routers require the shards and config servers that they were built with, and nothing else
requires anything. -/
theorem requires_startOrderOf (topology : Topology) (workers : Value) (component : Component) :
    (startOrderOf topology workers).requires component =
      if component ∈ topology.routers.map (·.toComponent) then
        requirementsOf topology.configServers topology.shards
      else [] := by
  unfold StartOrder.requires
  split
  · rename_i entry found
    rcases List.mem_map.mp (List.mem_of_find?_eq_some found) with ⟨router, routerMem, rfl⟩
    have same := List.find?_some found
    rw [if_pos (List.mem_map.mpr ⟨router, routerMem, of_decide_eq_true same⟩)]
  · rename_i missing
    rw [if_neg]
    intro member
    rcases List.mem_map.mp member with ⟨router, routerMem, rfl⟩
    have absent := List.find?_eq_none.mp missing _ (List.mem_map_of_mem routerMem)
    exact absent (decide_eq_true rfl)

/-- A cluster that has just been built, with the events of building it. -/
structure IsNew (given : ClusterShape) (before : Session ω) (events : List Event)
    (after : Session ω) (cluster : Cluster) : Prop where
  within : before.EvolvesWithin (Call.Constructs fun name =>
    name = configName ∨ ∃ index < cluster.shardsCreated, name = shardName (index + 1)) events after
  shape : cluster.shape = given
  state : cluster.state = .notStarted
  unregistered : cluster.unregistered = []
  workers : cluster.order.workers = given.workers
  writable : given.blueprint.namespacePrefix.checkWritable = .ok ()
  requires : ∀ component other, other ∈ cluster.order.requires component →
    other.serial < component.serial
  shards : KeepsNames ω → cluster.topology.shards.map (·.name) =
    (List.range cluster.shardsCreated).map fun index => .text (shardName (index + 1))

namespace IsNew

variable {given : ClusterShape} {before : Session ω} {events : List Event} {cluster : Cluster}

theorem evolves (isNew : cluster.IsNew given before events after) : before.Evolves events after :=
  isNew.within.evolves

theorem calls (isNew : cluster.IsNew given before events after) :
    CalledOnly (Call.Constructs fun name =>
      name = configName ∨ ∃ index < cluster.shardsCreated, name = shardName (index + 1)) events :=
  isNew.within.calls

theorem blueprint_writable (isNew : cluster.IsNew given before events after) :
    cluster.shape.blueprint.namespacePrefix.checkWritable = .ok () :=
  isNew.shape ▸ isNew.writable

end IsNew

/-- How a cluster gets built: shards, config servers, then routers. -/
inductive BuildCourse (given : ClusterShape) (source : ChannelSource) (patience : ℕ)
    (before : Session ω) : Cluster → Session ω → Prop where
  | built {indices routerIndices : List ℕ} {shards : List ReplicaGroup} {servers : ReplicaGroup}
      {routers : List Router} {first second third : Session ω} {entry : LogEntry}
      (routed : checkRouterCount given.routerCount = .ok ())
      (numbered : shardNumbers given.shardCount = .ok indices)
      (buildsShards : buildShards given.blueprint indices before = .ok shards first)
      (buildsServers : given.blueprint.buildConfigServers first = .ok servers second)
      (routersNumbered : routerNumbers given.routerCount = .ok routerIndices)
      (buildsRouters :
        buildRouters given.blueprint servers shards routerIndices second = .ok routers third) :
      BuildCourse given source patience before
        { shape := given
          source
          state := .notStarted
          topology := ⟨servers, shards, routers⟩
          unregistered := []
          shardsCreated := shards.length
          order := startOrderOf ⟨servers, shards, routers⟩ given.workers
          patience }
        (third.record (.logged entry))

theorem build_course {given : ClusterShape} {source : ChannelSource} {patience : ℕ}
    {cluster : Cluster} (built : build given source patience session = .ok cluster after) :
    BuildCourse given source patience session cluster after := by
  unfold build at built
  rcases bind_eq_ok.mp built with ⟨_, _, checking, rest⟩
  rcases conclude_eq_ok.mp checking with ⟨routed, same⟩
  rw [same] at rest
  rcases bind_eq_ok.mp rest with ⟨indices, _, numbering, rest⟩
  rcases conclude_eq_ok.mp numbering with ⟨numbered, same⟩
  rw [same] at rest
  rcases bind_eq_ok.mp rest with ⟨shards, first, buildsShards, rest⟩
  rcases bind_eq_ok.mp rest with ⟨servers, second, buildsServers, rest⟩
  rcases bind_eq_ok.mp rest with ⟨routerIndices, _, numbering, rest⟩
  rcases conclude_eq_ok.mp numbering with ⟨routersNumbered, same⟩
  rw [same] at rest
  rcases bind_eq_ok.mp rest with ⟨routers, third, buildsRouters, rest⟩
  rcases bind_eq_ok.mp rest with ⟨_, _, logging, rest⟩
  cases logging
  cases rest
  exact .built routed numbered buildsShards buildsServers routersNumbered buildsRouters

/-- The components get their serial numbers in the order in which they are listed. -/
theorem BuildCourse.madeInTurn {given : ClusterShape} {source : ChannelSource} {patience : ℕ}
    {cluster : Cluster} (course : BuildCourse given source patience session cluster after) :
    Component.MadeInTurn session after cluster.topology.components := by
  cases course with
  | built routed numbered buildsShards buildsServers routersNumbered buildsRouters =>
      rename_i indices routerIndices shards servers routers first second third entry
      have shardsBuild : CallsOnly (Call.Constructs fun _ => True)
          (buildShards given.blueprint indices : Action ω (List ReplicaGroup)) :=
        buildShards_callsOnly fun _ _ => trivial
      have serversBuild : CallsOnly (Call.Constructs fun _ => True)
          (given.blueprint.buildConfigServers : Action ω ReplicaGroup) :=
        buildConfigServers_callsOnly _ trivial
      have routersBuild : CallsOnly (Call.Constructs fun _ => True)
          (buildRouters given.blueprint servers shards routerIndices : Action ω (List Router)) :=
        buildRouters_callsOnly servers shards routerIndices
      have firstLe := shardsBuild.nextSerial_le buildsShards
      have secondLe := serversBuild.nextSerial_le buildsServers
      have thirdLe := routersBuild.nextSerial_le buildsRouters
      have serversMade := Component.MadeInTurn.single (buildConfigServers_eq_ok buildsServers).1
      have lower := (buildShards_eq_ok buildsShards).2.1.append serversMade firstLe secondLe
      have all := lower.append (buildRouters_eq_ok buildsRouters).2
        (Nat.le_trans firstLe secondLe) thirdLe
      rw [List.append_assoc] at all
      exact ⟨all.made, all.ascending⟩

theorem BuildCourse.routers_ne_nil {given : ClusterShape} {source : ChannelSource} {patience : ℕ}
    {cluster : Cluster} (course : BuildCourse given source patience session cluster after) :
    cluster.topology.routers ≠ [] := by
  cases course with
  | built routed numbered buildsShards buildsServers routersNumbered buildsRouters =>
      rintro rfl
      have length := (buildRouters_eq_ok buildsRouters).1
      exact routerNumbers_ne_nil routed routersNumbered (List.length_eq_zero_iff.mp length.symm)

theorem BuildCourse.order_eq {given : ClusterShape} {source : ChannelSource} {patience : ℕ}
    {cluster : Cluster} (course : BuildCourse given source patience session cluster after) :
    cluster.order = startOrderOf cluster.topology given.workers := by
  cases course
  rfl

theorem build_eq_ok {given : ClusterShape} {source : ChannelSource} {patience : ℕ}
    {cluster : Cluster} (built : build given source patience session = .ok cluster after) :
    ∃ events, cluster.IsNew given session events after := by
  have course := build_course built
  have components := course.madeInTurn
  cases course with
  | built routed numbered buildsShards buildsServers routersNumbered buildsRouters =>
      rename_i indices routerIndices shards servers routers first second third entry
      rcases buildShards_eq_ok buildsShards with ⟨length, _, named⟩
      have numbers := shardNumbers_eq_ok numbered
      rw [← length] at numbers
      let names : String → Prop := fun name =>
        name = configName ∨ ∃ index < shards.length, name = shardName (index + 1)
      have shardNames : ∀ index ∈ indices, names (shardName index) := by
        intro index indexMem
        rw [numbers] at indexMem
        rcases List.mem_map.mp indexMem with ⟨position, positionMem, rfl⟩
        exact Or.inr ⟨position, List.mem_range.mp positionMem, rfl⟩
      rcases (buildShards_callsOnly shardNames).evolves buildsShards with
        ⟨shardEvents, shardsBuilt⟩
      have buildsConfig : CallsOnly (Call.Constructs names)
          (given.blueprint.buildConfigServers : Action ω ReplicaGroup) :=
        buildConfigServers_callsOnly _ (Or.inl rfl)
      rcases buildsConfig.evolves buildsServers with ⟨serverEvents, serversBuilt⟩
      have buildsAll : CallsOnly (Call.Constructs names)
          (buildRouters given.blueprint servers shards routerIndices : Action ω (List Router)) :=
        buildRouters_callsOnly servers shards routerIndices
      rcases buildsAll.evolves buildsRouters with ⟨routerEvents, routersBuilt⟩
      have all := shardsBuilt.trans (serversBuilt.trans routersBuilt)
      refine ⟨_, all.trans (.record third _ rfl), rfl, rfl, rfl, rfl,
        (buildConfigServers_eq_ok buildsServers).2, ?_, ?_⟩
      · intro component other required
        rw [requires_startOrderOf] at required
        split at required
        · rename_i isRouter
          have ascending := components.ascending
          rw [Topology.components, List.append_cons] at ascending
          exact (List.pairwise_append.mp ascending).2.2 other required component isRouter
        · cases required
      · intro keeps
        rw [named keeps, numbers, List.map_map]
        simp

/-- Building starts nothing. -/
theorem IsNew.unstarted {given : ClusterShape} {world : ω} {events : List Event}
    {after : Session ω} {cluster : Cluster}
    (isNew : cluster.IsNew given (Session.fresh world) events after) (component : Component) :
    after.stateOf component ≠ .started := by
  have still : ∀ call answer, .called call answer ∈ events → call.isTransition = false := by
    intro call answer member
    have constructs := isNew.calls call answer member
    cases call <;> first | rfl | exact constructs.elim
  rw [isNew.evolves.states, Session.statesAfter_of_no_transition still]
  exact nofun

end Cluster

end ShardFleet
