import ShardFleet.Admin.Command
import ShardFleet.Cluster.Blueprint
import ShardFleet.Polling
import ShardFleet.StartOrder.Rollout

/-!
# Clusters

A cluster has its desired topology - shards, config servers and routers - and the shards that were
started but could not be registered. A shape says what it is built like; `Cluster.build` builds the
components and fixes the start order: every router requires the config servers and the shards there
were at that time. Operations on a cluster are computations over the cluster together with the
session that it lives in.
-/

namespace ShardFleet

variable {ω : Type} {α : Type}

/-- What a cluster is built like, and how patient it is; values are as configured. -/
structure ClusterShape where
  shardCount : Value := .int 1
  replicaCount : Value := .int 1
  routerCount : Value := .int 1
  namespacePrefix : Value := .text "test-mongo"
  routerPrefix : Value := .text "test-mongos"
  workers : Value := .null
  selectionTimeout : Value := .int 30000
  membership : PollPolicy := {}

def ClusterShape.blueprint (shape : ClusterShape) : Blueprint :=
  { memberCount := shape.replicaCount
    namespacePrefix := shape.namespacePrefix
    routerPrefix := shape.routerPrefix }

structure Topology where
  configServers : ReplicaGroup
  shards : List ReplicaGroup
  routers : List Router

/-- All components: shards, config servers, then routers. -/
def Topology.components (topology : Topology) : List Component :=
  topology.shards.map (·.toComponent) ++ topology.configServers.toComponent ::
    topology.routers.map (·.toComponent)

structure Cluster where
  shape : ClusterShape
  source : ChannelSource
  state : LifecycleState
  topology : Topology
  unregistered : List ReplicaGroup
  shardsCreated : Nat
  order : StartOrder
  /-- The greatest number of evaluations of one wait. -/
  patience : Nat

/-- A cluster and the session that it lives in. -/
structure Running (ω : Type) where
  cluster : Cluster
  session : Session ω

/-- A computation over a cluster in its session. -/
abbrev Operation (ω : Type) := EStateM Failure (Running ω)

/-- An action in the session of a cluster; the cluster itself stays as it is. -/
def Action.onCluster (action : Action ω α) : Operation ω α := fun running =>
  match action running.session with
  | .ok value session => .ok value { running with session }
  | .error failure session => .error failure { running with session }

instance : MonadLift (Action ω) (Operation ω) := ⟨Action.onCluster⟩

namespace Cluster

/-- The shard numbers, from one on, for a configured count. -/
def shardNumbers (count : Value) : Except Failure (List Nat) :=
  match count.toCount? with
  | some number => .ok ((List.range number.toNat).map (· + 1))
  | none => .error .wrongKind

/-- The router numbers, from one on, for a configured count. -/
def routerNumbers (count : Value) : Except Failure (List Nat) := shardNumbers count

/-- A cluster needs a router. -/
def checkRouterCount (count : Value) : Except Failure Unit :=
  match count.isBelow? 1 with
  | some false => .ok ()
  | some true => do
      count.checkWritable
      throw (.misconfigured (.tooFewRouters count))
  | none => .error .wrongKind

variable [Outside ω]

def buildShards (blueprint : Blueprint) : List Nat → Action ω (List ReplicaGroup)
  | [] => return []
  | index :: rest => do
      let shard ← blueprint.buildShard index
      return shard :: (← buildShards blueprint rest)

def buildRouters (blueprint : Blueprint) (configServers : ReplicaGroup)
    (shards : List ReplicaGroup) : List Nat → Action ω (List Router)
  | [] => return []
  | index :: rest => do
      let router ← blueprint.buildRouter (.int index) configServers shards
      return router :: (← buildRouters blueprint configServers shards rest)

/-- The order in which the components of a new topology start. -/
def startOrderOf (topology : Topology) (workers : Value) : StartOrder :=
  let requirements := Blueprint.requirementsOf topology.configServers topology.shards
  { requirements := topology.routers.map fun router => (router.toComponent, requirements)
    workers }

/-- Builds a cluster of the given shape. Nothing is built if the shape has no router. -/
def build (shape : ClusterShape) (source : ChannelSource) (patience : Nat) : Action ω Cluster := do
  conclude (checkRouterCount shape.routerCount)
  let shardIndices ← conclude (shardNumbers shape.shardCount)
  let shards ← buildShards shape.blueprint shardIndices
  let configServers ← shape.blueprint.buildConfigServers
  let routerIndices ← conclude (routerNumbers shape.routerCount)
  let routers ← buildRouters shape.blueprint configServers shards routerIndices
  let topology := { configServers, shards, routers }
  Action.log .info "ClusterController initialized"
    [("shards", shape.shardCount), ("replicas", shape.replicaCount),
      ("routers", shape.routerCount)]
  return {
    shape
    source
    state := .notStarted
    topology
    unregistered := []
    shardsCreated := shards.length
    order := startOrderOf topology shape.workers
    patience }

/-- The channel that admin commands go through. -/
def channel (cluster : Cluster) : Channel :=
  match cluster.source with
  | .supplied => .supplied
  | .client => .client cluster.shape.selectionTimeout

/-- The connection string over all routers. -/
def connectionString (cluster : Cluster) : Action ω String :=
  Router.connectionString cluster.topology.routers

/-- All components that a teardown stops. -/
def ownedComponents (cluster : Cluster) : List Component :=
  cluster.topology.components ++ cluster.unregistered.map (·.toComponent)

end Cluster

end ShardFleet
