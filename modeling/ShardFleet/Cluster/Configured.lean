import ShardFleet.Cluster.Basic
import ShardFleet.Settings.Basic

/-!
# Cluster shapes from settings

Each field of a shape has its key in the settings. A field takes its default only if nothing stands
at its key; a null there is passed on. A shape can also be given by its fields alone, each of which
it has to know, and be shown by them.
-/

namespace ShardFleet

namespace PollPolicy

def fieldNames : List String := ["poll_interval_ms", "timeout_ms"]

/-- The policy with the fields given and the others as they are. -/
def withFields (policy : PollPolicy) (fields : Mapping) : PollPolicy :=
  { interval := (fields.field? "poll_interval_ms").getD policy.interval
    timeout := (fields.field? "timeout_ms").getD policy.timeout }

/-- The policy that fields give; fields that it does not know are refused. -/
def ofFields (fields : Value) : Except Failure PollPolicy :=
  match fields with
  | .mapping entries =>
      if entries.knowsOnly fieldNames then .ok (({} : PollPolicy).withFields entries)
      else .error .wrongKind
  | _ => .error .wrongKind

def toFields (policy : PollPolicy) : Mapping :=
  .ofFields [("poll_interval_ms", policy.interval), ("timeout_ms", policy.timeout)]

end PollPolicy

namespace ClusterShape

def ofSettings (settings : Settings) : ClusterShape :=
  { shardCount := settings.get "cluster.shards" (.int 1)
    replicaCount := settings.get "cluster.replicas" (.int 1)
    routerCount := settings.get "cluster.routers" (.int 1)
    namespacePrefix := settings.get "cluster.namespace_prefix" (.text "test-mongo")
    routerPrefix := settings.get "cluster.router_prefix" (.text "test-mongos")
    workers := settings.get "cluster.max_workers" .null
    selectionTimeout := settings.get "admin.server_selection_timeout_ms" (.int 30000)
    membership :=
      { interval := settings.get "membership.poll_interval_ms" (.int 1000)
        timeout := settings.get "membership.timeout_ms" (.int 30000) } }

/-- The shape with the fields given and the others as they are. -/
def withFields (shape : ClusterShape) (fields : Mapping) : ClusterShape :=
  { shardCount := (fields.field? "shard_count").getD shape.shardCount
    replicaCount := (fields.field? "replica_count").getD shape.replicaCount
    routerCount := (fields.field? "router_count").getD shape.routerCount
    namespacePrefix := (fields.field? "namespace_prefix").getD shape.namespacePrefix
    routerPrefix := (fields.field? "router_prefix").getD shape.routerPrefix
    workers := (fields.field? "max_workers").getD shape.workers
    selectionTimeout :=
      (fields.field? "server_selection_timeout_ms").getD shape.selectionTimeout
    membership :=
      match fields.field? "membership" with
      | some (.mapping policy) => shape.membership.withFields policy
      | _ => shape.membership }

def fieldNames : List String :=
  ["shard_count", "replica_count", "router_count", "namespace_prefix", "router_prefix",
    "max_workers", "server_selection_timeout_ms", "membership"]

/-- The shape that fields give; fields that it does not know are refused. -/
def ofFields (fields : Mapping) : Except Failure ClusterShape := do
  match fields.field? "membership" with
  | some policy => let _ ← PollPolicy.ofFields policy
  | none => pure ()
  if fields.knowsOnly fieldNames then return ({} : ClusterShape).withFields fields
  else throw .wrongKind

def toFields (shape : ClusterShape) : Mapping :=
  .ofFields [
    ("shard_count", shape.shardCount),
    ("replica_count", shape.replicaCount),
    ("router_count", shape.routerCount),
    ("namespace_prefix", shape.namespacePrefix),
    ("router_prefix", shape.routerPrefix),
    ("max_workers", shape.workers),
    ("server_selection_timeout_ms", shape.selectionTimeout),
    ("membership", .mapping shape.membership.toFields)]

end ClusterShape

namespace Blueprint

def fieldNames : List String := ["replica_count", "namespace_prefix", "router_prefix"]

/-- The blueprint that fields give; fields that it does not know are refused. -/
def ofFields (fields : Mapping) : Except Failure Blueprint :=
  if fields.knowsOnly fieldNames then .ok (({} : ClusterShape).withFields fields).blueprint
  else .error .wrongKind

end Blueprint

end ShardFleet
