import ShardFleet.Cluster.Basic

/-!
# Operations on a cluster

`start` starts every component in order and then registers the shards one by one; `stop` stops every
component, whatever fails, and releases the network, and only the first `stop` does anything.
`addShard` builds, starts and registers a shard: it joins the topology only when the admin namespace
has reported it active, and is kept among the unregistered shards otherwise. `removeShard` drains
the youngest shard and drops it from the topology only when its removal is reported complete.
-/

namespace ShardFleet

variable {ω : Type} {α : Type}

namespace Operation

def cluster : Operation ω Cluster := fun running => .ok running.cluster running

def modifyCluster (change : Cluster → Cluster) : Operation ω Unit := fun running =>
  .ok () { running with cluster := change running.cluster }

end Operation

namespace Cluster

variable [Outside ω]

/-- Waits for a membership change, by the cluster's policy. -/
def awaitMembership (cluster : Cluster) (description : String) (condition : Action ω Bool) :
    Action ω Unit := do
  let _ ← Polling.awaitCondition Surroundings.ofSession cluster.patience condition
    (.text description) cluster.shape.membership

/-- Adds a started shard to the admin namespace, by an address, and waits until it is active there.
-/
def registerBy (cluster : Cluster) (shard : ReplicaGroup) (address : String) : Action ω Unit := do
  Action.log .info "Adding shard" [("shard", shard.nameValue), ("address", .text address)]
  let routers ← cluster.connectionString
  cluster.channel.during routers do
    let _ ← Admin.addShard cluster.channel (.text address)
    cluster.awaitMembership ("shard " ++ shard.name.toText ++ " to become active")
      (Admin.isShardActive cluster.channel shard.nameValue)
  Action.log .info "Shard active" [("shard", shard.nameValue)]

/-- Registers a shard by its address as clients see it. -/
def register (cluster : Cluster) (shard : ReplicaGroup) : Action ω Unit := do
  cluster.registerBy shard (← shard.replicaSetAddress false)

def registerAll (cluster : Cluster) : List ReplicaGroup → Action ω Unit
  | [] => return ()
  | shard :: rest => do
      cluster.register shard
      cluster.registerAll rest

/-- Repeats the removal of a shard from the admin namespace until it is complete. -/
def drain (cluster : Cluster) (shard : ReplicaGroup) : Action ω Unit := do
  let routers ← cluster.connectionString
  cluster.channel.during routers do
    conclude shard.nameValue.checkWritable
    cluster.awaitMembership ("shard " ++ shard.name.toText ++ " removal to complete")
      (Admin.isShardRemoved cluster.channel shard.nameValue)

/-- Runs one command on the first router's channel. -/
def onFirstRouter (cluster : Cluster) (command : Action ω Value) : Action ω Unit := do
  let address ← Router.connectionString (cluster.topology.routers.take 1)
  let _ ← cluster.channel.during address command

end Cluster

namespace Operation

variable [Outside ω]

/-- Starts every component and registers every shard. A started cluster is left as it is. -/
def start : Operation ω Unit := do
  let before ← cluster
  match before.state with
  | .started => return ()
  | .stopped => throw (.misconfigured .released)
  | .notStarted =>
      (Action.log .info "Starting sharded cluster"
        [("shards", .int before.topology.shards.length)]).onCluster
      (before.order.startAll before.topology.components).onCluster
      (before.registerAll before.topology.shards).onCluster
      modifyCluster ({ · with state := .started })
      (Action.log .info "Sharded cluster started"
        [("shards", .list (before.topology.shards.map fun shard => shard.nameValue)),
          ("routers", .int before.topology.routers.length)]).onCluster

/-- Stops every component and releases the network, which is done also if a component fails to
stop. -/
def stop : Operation ω Unit := do
  let before ← cluster
  match before.state with
  | .stopped => return ()
  | _ =>
      (Action.log .info "Stopping sharded cluster"
        [("shards", .int before.topology.shards.length)]).onCluster
      let outcome ← attempt (before.order.stopAll before.ownedComponents).onCluster
      modifyCluster ({ · with state := .stopped })
      (Action.perform .closeNetwork).onCluster
      conclude outcome
      (Action.log .info "Sharded cluster stopped" []).onCluster

/-- Builds, starts and registers a shard. -/
def addShard : Operation ω ReplicaGroup := do
  let before ← cluster
  let index := before.shardsCreated + 1
  modifyCluster ({ · with shardsCreated := index })
  let shard ← (before.shape.blueprint.buildShard index).onCluster
  let _ ← shard.toComponent.start.onCluster
  match ← attempt (before.register shard).onCluster with
  | .ok _ =>
      modifyCluster fun cluster =>
        { cluster with
          topology := { cluster.topology with shards := cluster.topology.shards ++ [shard] } }
      return shard
  | .error failure =>
      modifyCluster fun cluster =>
        { cluster with unregistered := cluster.unregistered ++ [shard] }
      (Action.log .warning "Shard started but not registered"
        [("shard", shard.nameValue)]).onCluster
      throw (failure.leaving shard)

/-- Drains the youngest shard, drops it from the topology and stops it. -/
def removeShard : Operation ω ReplicaGroup := do
  let before ← cluster
  match before.topology.shards.getLast? with
  | none => throw (.misconfigured .noShards)
  | some shard =>
      (Action.log .info "Removing shard" [("shard", shard.nameValue)]).onCluster
      (before.drain shard).onCluster
      modifyCluster fun cluster =>
        { cluster with
          topology := { cluster.topology with shards := cluster.topology.shards.dropLast } }
      let _ ← shard.toComponent.stop.onCluster
      (Action.log .info "Shard removed" [("shard", shard.nameValue)]).onCluster
      return shard

def enableSharding (database : Value) : Operation ω Unit := do
  let before ← cluster
  (before.onFirstRouter (Admin.enableSharding before.channel database)).onCluster
  (Action.log .info "Enabled sharding" [("database", database)]).onCluster

/-- Shards a collection on a hashed key. -/
def shardCollection (database collection keyField : Value) : Operation ω Unit := do
  let before ← cluster
  (before.onFirstRouter
    (Admin.shardCollection before.channel database collection keyField)).onCluster
  (Action.log .info "Sharded collection"
    [("namespace", .text (Admin.collectionName database collection)), ("key", keyField)]).onCluster

/-- Runs a body in a started cluster and stops the cluster when the body is left. If the cluster
does not start, neither happens. -/
def within (body : Operation ω α) : Operation ω α :=
  between start stop body

/-- The cluster on paper, with the state of each component, if their names can be written. -/
def describe : Operation ω String := fun running =>
  let state (component : Component) := running.session.stateOf component
  let topology := running.cluster.topology
  let listed (items : List String) := "[" ++ String.intercalate ", " items ++ "]"
  if topology.components.all fun component => component.name.isWritable then
    .ok ("ClusterController(config_servers=" ++
        topology.configServers.describe (state topology.configServers.toComponent) ++
      ", shards=" ++
        listed (topology.shards.map fun shard => shard.describe (state shard.toComponent)) ++
      ", routers=" ++
        listed (topology.routers.map fun router => router.describe (state router.toComponent)) ++
      ", state=" ++ running.cluster.state.toText ++ ")") running
  else .error .integerTooLong running

end Operation

end ShardFleet
