import ShardFleet.Session.Basic

/-!
# A simulated admin namespace

The namespace knows shards by name, each inactive or active. A shard that is added becomes active
only after a number of listings, also if it was removed in the meantime, and its removal is complete
only after a number of requests. Commands can be made to fail, and to give scripted responses, which
leave the shards as they are.
-/

namespace ShardFleet.Simulation

/-- The latest value for a name in a list of pairs, with a value for names that are not there. -/
def lookupOr {α : Type} (fallback : α) (name : Key) (pairs : List (Key × α)) : α :=
  ((pairs.find? fun pair => pair.1.identity == name.identity).map (·.2)).getD fallback

/-- Sets the value for a name: in its place, or last. -/
def setPair {κ α : Type} [DecidableEq κ] (name : κ) (value : α) : List (κ × α) → List (κ × α)
  | [] => [(name, value)]
  | (other, old) :: rest =>
      if other = name then (name, value) :: rest else (other, old) :: setPair name value rest

def dropPair {α : Type} (name : Key) (pairs : List (String × α)) : List (String × α) :=
  pairs.filter fun pair => Key.text pair.1 != name

/-- Counts a key once more; keys that are equal as values are counted together. -/
def countKey (key : Key) : List (Key × Int) → List (Key × Int)
  | [] => [(key, 1)]
  | (other, count) :: rest =>
      if other.equals key then (other, count + 1) :: rest else (other, count) :: countKey key rest

def countOf (key : Key) (counts : List (Key × Int)) : Int :=
  ((counts.find? fun pair => pair.1.equals key).map (·.2)).getD 0

structure AdminNamespace where
  activateAfter : Int := 1
  drainPolls : Int := 2
  neverActivate : Bool := false
  neverDrain : Bool := false
  failures : List (Key × Option Failure) := []
  scripts : List (Key × List Value) := []
  /-- The shards in the order in which they came, and whether each is active. -/
  shards : List (String × Bool) := []
  /-- How many listings each shard still waits for until it becomes active. -/
  pending : List (String × Int) := []
  /-- How often the removal of each shard was asked for. -/
  removals : List (Key × Int) := []

namespace AdminNamespace

def response (fields : List (String × Value)) : Value :=
  .mapping (.ofFields (("ok", .int 1) :: fields))

/-- The name of the shard at an address. -/
def shardAt (address : String) : String :=
  String.ofList (address.toList.takeWhile (· != '/'))

def addShard (admin : AdminNamespace) (address : String) : Value × AdminNamespace :=
  let name := shardAt address
  (response [("shardAdded", .text name)],
    { admin with
      shards := setPair name false admin.shards
      pending := setPair name admin.activateAfter admin.pending })

def record (shard : String × Bool) : Value :=
  .mapping (.ofFields [("_id", .text shard.1), ("state", .int (if shard.2 then 1 else 0))])

/-- The shards that become active with the next listing. -/
def due (admin : AdminNamespace) : List String :=
  if admin.neverActivate then []
  else (admin.pending.filter fun pair => decide (pair.2 ≤ 0)).map (·.1)

/-- The namespace after one listing. -/
def afterListing (admin : AdminNamespace) : AdminNamespace :=
  if admin.neverActivate then admin
  else
    { admin with
      shards := admin.due.foldl (fun shards name => setPair name true shards) admin.shards
      pending := (admin.pending.filter fun pair => decide (0 < pair.2)).map
        fun pair => (pair.1, pair.2 - 1) }

def listShards (admin : AdminNamespace) : Value × AdminNamespace :=
  let listed := admin.afterListing
  (response [("shards", .list (listed.shards.map record))], listed)

def removeShard (admin : AdminNamespace) (name : Key) : Value × AdminNamespace :=
  let earlier := countOf name admin.removals
  let counted := { admin with removals := countKey name admin.removals }
  if earlier = 0 then (response [("state", .text "started")], counted)
  else if admin.neverDrain ∨ earlier < admin.drainPolls then
    (response [("state", .text "ongoing")], counted)
  else
    (response [("state", .text "completed")],
      { counted with shards := dropPair name admin.shards })

/-- The answer to a command by what the namespace holds. -/
def answer (admin : AdminNamespace) (command : AdminCommand) :
    Except Failure Value × AdminNamespace :=
  match command.name, command.argument with
  | .text "addShard", .text address =>
      let (value, after) := admin.addShard address; (.ok value, after)
  | .text "addShard", _ => (.error .noFields, admin)
  | .text "listShards", _ => let (value, after) := admin.listShards; (.ok value, after)
  | .text "removeShard", argument =>
      match argument.toKey? with
      | some name => let (value, after) := admin.removeShard name; (.ok value, after)
      | none => (.error .wrongKind, admin)
  | _, _ => (.ok (response []), admin)

/-- The answer to a command: its failure, else its next scripted response, else by what the
namespace holds. Only a name that can be a key can be looked up. -/
def run (admin : AdminNamespace) (command : AdminCommand) : Except Failure Value × AdminNamespace :=
  match command.name.toKey? with
  | none => (.error .wrongKind, admin)
  | some name =>
      match lookupOr none name admin.failures with
      | some failure => (.error failure, admin)
      | none =>
          match lookupOr [] name admin.scripts with
          | scripted :: rest =>
              (.ok scripted, { admin with scripts := (name, rest) :: admin.scripts })
          | [] => admin.answer command

end AdminNamespace

end ShardFleet.Simulation
