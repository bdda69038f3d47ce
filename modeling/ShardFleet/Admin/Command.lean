import ShardFleet.Admin.Channel
import ShardFleet.Value.Items

/-!
# Sharding commands

The commands that a cluster issues, and the response fields that it relies on. A response may be any
value: fields of something that is no mapping, and a list of shards that is no list, are mismatches.
-/

namespace ShardFleet

namespace Value

/-- A field of a response, which has to be a mapping; `none` if it is absent. -/
def fieldOf (response : Value) (name : String) : Except Failure (Option Value) :=
  match response with
  | .mapping entries => .ok (entries.field? name)
  | _ => .error .noFields

end Value

namespace Admin

/-- The records in a response to listShards; there are none if the field is absent. -/
def shardRecords (response : Value) : Except Failure (List Value) :=
  match response.fieldOf "shards" with
  | .ok none => .ok []
  | .ok (some records) => records.items
  | .error failure => .error failure

/-- Whether a record is of the shard named and gives it as active; a name
that is missing is null. -/
def isActiveRecord (name : Value) (record : Value) : Except Failure Bool :=
  match record with
  | .mapping entries =>
      .ok (((entries.field? "_id").getD .null).equals name &&
        (entries.field? "state").any (·.isOne))
  | _ => .error .noFields

/-- Whether a record gives the shard as active; records after the first such one are not read. -/
def anyActive (name : Value) : List Value → Except Failure Bool
  | [] => .ok false
  | record :: rest =>
      match isActiveRecord name record with
      | .ok true => .ok true
      | .ok false => anyActive name rest
      | .error failure => .error failure

def completedState : String := "completed"

variable {ω : Type} [Outside ω]

def addShard (channel : Channel) (address : Value) : Action ω Value :=
  channel.command ⟨.text "addShard", address, []⟩

def listShards (channel : Channel) : Action ω (List Value) := do
  let response ← channel.command ⟨.text "listShards", .int 1, []⟩
  conclude (shardRecords response)

def isShardActive (channel : Channel) (name : Value) : Action ω Bool := do
  let records ← listShards channel
  conclude (anyActive name records)

/-- Asks for a shard's removal, which may be asked again; gives the state that is reported. -/
def removeShard (channel : Channel) (name : Value) : Action ω Value := do
  let response ← channel.command ⟨.text "removeShard", name, []⟩
  return (← conclude (response.fieldOf "state")).getD .null

def isShardRemoved (channel : Channel) (name : Value) : Action ω Bool := do
  return (← removeShard channel name).isText completedState

def enableSharding (channel : Channel) (database : Value) : Action ω Value :=
  channel.command ⟨.text "enableSharding", database, []⟩

def collectionName (database collection : Value) : String :=
  database.toText ++ "." ++ collection.toText

/-- The command that shards a collection on a hashed key. The names are put together before the key
is looked at. -/
def shardingOf (database collection keyField : Value) : Except Failure AdminCommand := do
  database.checkWritable
  collection.checkWritable
  match keyField.toKey? with
  | some key =>
      return ⟨.text "shardCollection", .text (collectionName database collection),
        [("key", .mapping (.ofList [(key, .text "hashed")]))]⟩
  | none => throw .wrongKind

/-- Of texts, the command can always be put together. -/
theorem shardingOf_text (database collection keyField : String) :
    shardingOf (.text database) (.text collection) (.text keyField) =
      .ok ⟨.text "shardCollection", .text (database ++ "." ++ collection),
        [("key", .mapping (.ofList [(.text keyField, .text "hashed")]))]⟩ := rfl

/-- Shards a collection on a hashed key. -/
def shardCollection (channel : Channel) (database collection keyField : Value) :
    Action ω Value := do
  channel.command (← conclude (shardingOf database collection keyField))

end Admin

end ShardFleet
