import ShardFleet.Component.Transition

/-!
# Building the groups and routers of a cluster

A blueprint says how many members a replica group has and how names begin. From it shards, the
config servers and routers are built: their handles are ordered from the container runtime and their
launch commands are set; nothing is started.
-/

namespace ShardFleet

variable {ω : Type}

structure Blueprint where
  memberCount : Value := .int 1
  namespacePrefix : Value := .text "test-mongo"
  routerPrefix : Value := .text "test-mongos"

/-- The launch arguments of a replica set member whose address can be written. -/
def memberArguments (roleFlag replicaSet : Value) (address : Address) : List Value :=
  [roleFlag, .text "--replSet", replicaSet, .text "--port", .text address.port.toText,
    .text "--bind_ip", .text address.bindList]

/-- The launch command of a router whose address can be written. -/
def routerCommand (address : Address) (configServers : String) : List Value :=
  ["mongos", "--port", address.port.toText, "--bind_ip", address.bindList, "--configdb",
    configServers].map .text

namespace ReplicaGroup

variable [Outside ω]

def roleFlag (group : ReplicaGroup) : String :=
  if group.holdsConfig then "--configsvr" else "--shardsvr"

/-- Sets the launch commands of the members given, as members of the group. -/
def configure (group : ReplicaGroup) : List Handle → Action ω Unit
  | [] => return ()
  | member :: rest => do
      let address ← Action.view (Outside.namedAddress · member)
      conclude address.checkWritable
      Action.perform (.setCommand member
        (memberArguments (.text group.roleFlag) group.nameValue address))
      group.configure rest

/-- Orders a replica set and makes a group of it, with its members' launch commands set. -/
def build (order : ReplicaSetOrder) : Action ω ReplicaGroup := do
  let handle ← Action.perform (.buildReplicaSet order)
  let group ← ReplicaGroup.ofHandle handle order.configServer
  group.configure group.members
  return group

end ReplicaGroup

namespace Blueprint

def shardName (index : Nat) : String := "shard" ++ Text.decimal index

def shardNamespace (blueprint : Blueprint) (index : Nat) : String :=
  blueprint.namespacePrefix.toText ++ "-shard" ++ Text.decimal index ++ "-replica"

def configName : String := "configdb"

def configNamespace (blueprint : Blueprint) : String :=
  blueprint.namespacePrefix.toText ++ "-configdb"

def routerName (blueprint : Blueprint) (index : Value) : String :=
  blueprint.routerPrefix.toText ++ index.toText

variable [Outside ω]

/-- Builds the shard with the number given. -/
def buildShard (blueprint : Blueprint) (index : Nat) : Action ω ReplicaGroup := do
  conclude blueprint.namespacePrefix.checkWritable
  let shard ← ReplicaGroup.build
    ⟨blueprint.shardNamespace index, shardName index, blueprint.memberCount, false⟩
  Action.log .info "Created shard"
    [("shard", shard.nameValue), ("members", .int shard.members.length)]
  return shard

def buildConfigServers (blueprint : Blueprint) : Action ω ReplicaGroup := do
  conclude blueprint.namespacePrefix.checkWritable
  let servers ← ReplicaGroup.build
    ⟨blueprint.configNamespace, configName, blueprint.memberCount, true⟩
  Action.log .info "Created config servers"
    [("replica_set", servers.nameValue), ("members", .int servers.members.length)]
  return servers

/-- Builds the router with the number given, or whatever it is told apart by, in front of the config
servers and shards given. -/
def buildRouter (blueprint : Blueprint) (index : Value) (configServers : ReplicaGroup)
    (shards : List ReplicaGroup) : Action ω Router := do
  conclude blueprint.routerPrefix.checkWritable
  let handle ← Action.perform (.buildProcess (blueprint.routerName index))
  let router ← Router.ofHandle handle
  let address ← router.namedAddress
  conclude address.checkWritable
  let servers ← configServers.replicaSetAddress true
  Action.perform (.setCommand handle (routerCommand address servers))
  Action.log .info "Created router"
    [("router", router.nameValue), ("shards", .list (shards.map fun shard => shard.nameValue))]
  return router

/-- What a router requires: the shards it was built with and the config servers. -/
def requirementsOf (configServers : ReplicaGroup) (shards : List ReplicaGroup) :
    List Component :=
  shards.map (·.toComponent) ++ [configServers.toComponent]

end Blueprint

end ShardFleet
