import ShardFleet.Simulation.World

/-!
# Worlds by their description

A simulated world can be described by fields: those of its clock, of its container
runtime, of its admin namespace and of what is made to fail. A field that is left out
keeps what the world has. Times are described in microseconds. A failure is described by
its message, or by its kind and message.
-/

namespace ShardFleet

namespace Mapping

/-- A field as a count, rounded up: as a bound for counts this is the number itself. -/
def countOr (fallback : Int) (name : String) (fields : Mapping) : Int :=
  match fields.field? name with
  | some (.float number) =>
      match number.toInt?, number.truncate? with
      | some whole, _ => whole
      | none, some whole => if number.ltInt 0 then whole else whole + 1
      | none, none => fallback
  | found => (found.bind Value.toCount?).getD fallback

/-- A field of microseconds in seconds. -/
def secondsOr (fallback : Binary64) (name : String) (fields : Mapping) : Binary64 :=
  let inSeconds (micros : Binary64) : Binary64 := micros / .ofInt 1000000
  match fields.field? name with
  | some (.float micros) => inSeconds micros
  | found => ((found.bind Value.toCount?).map (inSeconds ∘ .ofInt)).getD fallback

def boolOr (fallback : Bool) (name : String) (fields : Mapping) : Bool :=
  ((fields.field? name).map fun value => !value.isVacant).getD fallback

def textOr (fallback : String) (name : String) (fields : Mapping) : String :=
  match fields.field? name with
  | some (.text chars) => chars
  | _ => fallback

/-- The fields of a field that is itself a mapping. -/
def within? (name : String) (fields : Mapping) : Option (List (Key × Value)) :=
  match fields.field? name with
  | some (.mapping inner) => some inner.toList
  | _ => none

def keyPair? (entry : Key × Value) : Option (Key × Key) := entry.2.toKey?.map (entry.1, ·)

def listPair? : Key × Value → Option (Key × List Value)
  | (name, .list items) => some (name, items)
  | _ => none

end Mapping

namespace Simulation

def reportKind (name : String) : ReportKind :=
  match name with
  | "ValueError" => .invalidValue
  | "PyMongoError" => .database
  | "OperationFailure" => .databaseOperation
  | _ => .general

/-- The failure that is described; null describes none. A message that is no
text is written as one. -/
def failureOf? : Value → Option Failure
  | .text message => some (.reported .general message)
  | .mapping fields =>
      let message := (fields.field? "message").getD (.text "")
      some (.reported (reportKind (fields.textOr "" "kind")) message.toText)
  | _ => none

/-- The outcome of looking at a condition: a failure that is described, or whether the value is
something other than null, false, zero and empty. -/
def conditionOf : Value → Except Failure Bool
  | .mapping fields =>
      match failureOf? (.mapping fields) with
      | some failure => .error failure
      | none => .ok true
  | result => .ok !result.isVacant

/-- Failures by name, which a field of fields describes. -/
def failuresIn (name : String) (fields : Mapping) : Option (List (Key × Option Failure)) :=
  (fields.within? name).map fun pairs => pairs.map fun (name, value) => (name, failureOf? value)

/-- A field that describes a failure, if it is there. -/
def failureIn (name : String) (fields : Mapping) : Option (Option Failure) :=
  (fields.field? name).map failureOf?

namespace AdminNamespace

def withFields (admin : AdminNamespace) (fields : Mapping) : AdminNamespace :=
  { admin with
    activateAfter := fields.countOr admin.activateAfter "activate_after"
    drainPolls := fields.countOr admin.drainPolls "drain_polls"
    neverActivate := fields.boolOr admin.neverActivate "never_activate"
    neverDrain := fields.boolOr admin.neverDrain "never_drain"
    scripts :=
      match fields.within? "script" with
      | some scripts => scripts.filterMap Mapping.listPair?
      | none => admin.scripts
    failures := (failuresIn "fail" fields).getD admin.failures }

/-- The names of the sharding commands. -/
def commandNames : List Key :=
  ["addShard", "listShards", "removeShard", "enableSharding", "shardCollection"].map .text

/-- A namespace that gives every sharding command one answer: the value given, or the failure that
is described in it under the name `$fail` alone. -/
def answering (answer : Value) : AdminNamespace :=
  let scripted : AdminNamespace := { scripts := commandNames.map fun name => (name, [answer]) }
  match answer with
  | .mapping (.entry (.text "$fail") failure .empty) =>
      { failures := commandNames.map fun name => (name, failureOf? failure) }
  | _ => scripted

end AdminNamespace

namespace World

def withClock (world : World) (fields : Mapping) : World :=
  { world with
    now := fields.secondsOr .zero "start_us"
    cost := fields.secondsOr world.cost "cost_us"
    overshoot := fields.secondsOr world.overshoot "overshoot_us"
    tick := fields.secondsOr world.tick "tick_us" }

def withRuntime (world : World) (fields : Mapping) : World :=
  let inner (field : String) : List (Key × Value) := (fields.within? field).getD []
  { world with
    namedPort := (fields.field? "named_port").getD world.namedPort
    nextPort := (fields.field? "first_client_port").getD world.nextPort
    clientHost := (fields.field? "client_host").getD world.clientHost
    hosts := inner "hosts"
    renames := (inner "rename").filterMap Mapping.keyPair?
    networkFailure := (failureIn "network_close_fail" fields).getD world.networkFailure }

/-- The world with some of its admin namespace, and of the way to it, replaced. -/
def withAdmin (world : World) (fields : Mapping) : World :=
  { world with
    admin := world.admin.withFields fields
    openFailure := (failureIn "open_fail" fields).getD world.openFailure
    closeFailure := (failureIn "close_fail" fields).getD world.closeFailure }

/-- The world that is described by all its fields. -/
def ofFields (fields : Mapping) : World :=
  let part (name : String) : Mapping := .ofList ((fields.within? name).getD [])
  let failing := part "fail"
  let described := (({} : World).withClock (part "clock")).withRuntime (part "runtime")
  { described.withAdmin (part "admin") with
    startFailures := (failuresIn "start" failing).getD []
    stopFailures := (failuresIn "stop" failing).getD []
    buildFailures := (failuresIn "build" failing).getD [] }

end World

end Simulation

end ShardFleet
