import ShardFleet.Cluster.Operation
import ShardFleet.Simulation.AdminNamespace

/-!
# A simulated world

A world in which clusters can be tried out: a container runtime whose processes have addresses of
their own, a clock that moves when it is told to, and an admin namespace. Whatever the world is
asked to do can be made to fail. Times are in seconds.
-/

namespace ShardFleet

namespace Simulation

/-- A process or replica set. What it fails by is its label; the name that it shows may change. -/
structure HandleRecord where
  label : Key
  name : Key
  members : List Handle := []
  command : List Value := []
  named : Address := default
  client : Address := default

structure World where
  now : Binary64 := .zero
  cost : Binary64 := .zero
  overshoot : Binary64 := .zero
  tick : Binary64 := .zero
  sleeps : Nat := 0
  startFailures : List (Key × Option Failure) := []
  stopFailures : List (Key × Option Failure) := []
  buildFailures : List (Key × Option Failure) := []
  namedPort : Value := .int 27017
  nextPort : Value := .int 30001
  clientHost : Value := .text "localhost"
  hosts : List (Key × Value) := []
  renames : List (Key × Key) := []
  networkFailure : Option Failure := none
  openFailure : Option Failure := none
  closeFailure : Option Failure := none
  handles : Array HandleRecord := #[]
  admin : AdminNamespace := {}
  conditions : List (Except Failure Bool) := []
  laterCondition : Except Failure Bool := .ok false

/-- The sleep after this many fails. -/
def sleepLimit : Nat := 2000

/-- How many evaluations one wait can take in this world: its sleeps run out before. -/
def patience : Nat := sleepLimit + 2

/-- The number that follows a number; anything else is followed by itself. -/
def successor : Value → Value
  | .bool flag => .int (flag.toNat + 1)
  | .int number => .int (number + 1)
  | .float number => .float (number + .ofInt 1)
  | other => other

namespace World

/-- The clock moved forward by a time, if it is not zero. -/
def pass (world : World) (time : Binary64) : World :=
  if time.isZero then world else { world with now := world.now + time }

def handle (world : World) (handle : Handle) : HandleRecord :=
  world.handles.getD handle.index { label := .null, name := .null }

def changeHandle (world : World) (handle : Handle) (change : HandleRecord → HandleRecord) :
    World :=
  { world with handles := world.handles.modify handle.index change }

def addHandle (world : World) (record : HandleRecord) : Handle × World :=
  (⟨world.handles.size⟩, { world with handles := world.handles.push record })

/-- A new process, which takes the next port. -/
def addProcess (world : World) (name : Key) : Handle × World :=
  addHandle { world with nextPort := successor world.nextPort }
    { label := name
      name
      named := ⟨lookupOr name.toValue name world.hosts, world.namedPort⟩
      client := ⟨world.clientHost, world.nextPort⟩ }

def addProcesses (world : World) : List Key → List Handle × World
  | [] => ([], world)
  | name :: rest =>
      let (handle, world) := world.addProcess name
      let (handles, world) := world.addProcesses rest
      (handle :: handles, world)

def addReplicaSet (world : World) (name : Key) (members : List Key) : Handle × World :=
  let (handles, world) := world.addProcesses members
  world.addHandle { label := name, name, members := handles }

/-- Makes a start, stop or build fail from now on, or succeed again. -/
def setFailure (world : World) (action : String) (name : Key) (failure : Option Failure) : World :=
  match action with
  | "start" => { world with startFailures := (name, failure) :: world.startFailures }
  | "stop" => { world with stopFailures := (name, failure) :: world.stopFailures }
  | _ => { world with buildFailures := (name, failure) :: world.buildFailures }

/-- Makes a command fail from now on, or succeed again. -/
def setCommandFailure (world : World) (name : Key) (failure : Option Failure) : World :=
  { world with admin := { world.admin with failures := (name, failure) :: world.admin.failures } }

/-- The outcome of a request that may have been made to fail. -/
def outcome (failure : Option Failure) : Except Failure Unit :=
  match failure with
  | some failure => .error failure
  | none => .ok ()

def buildReplicaSet (world : World) (order : ReplicaSetOrder) : Except Failure Handle × World :=
  let name : Key := .text order.name
  match lookupOr none name world.buildFailures, order.memberCount.toCount? with
  | some failure, _ => (.error failure, world)
  | none, none => (.error .wrongKind, world)
  | none, some count =>
      let members := (List.range count.toNat).map fun (index : Nat) =>
        Key.text (order.namespaceName ++ Text.decimal index)
      let (handle, world) := world.addReplicaSet (lookupOr name name world.renames) members
      (.ok handle, world)

def buildProcess (world : World) (name : Key) : Except Failure Handle × World :=
  match lookupOr none name world.buildFailures with
  | some failure => (.error failure, world)
  | none =>
      let (handle, world) := world.addProcess (lookupOr name name world.renames)
      (.ok handle, world)

def sleep (world : World) (duration : Binary64) : Except Failure Unit × World :=
  let world := { world with sleeps := world.sleeps + 1 }
  if sleepLimit < world.sleeps then (.error (.reported .general "sleep limit"), world)
  else if duration.ltInt 0 then
    (.error (.reported .invalidValue "sleep length must be non-negative"), world)
  else (.ok (), pass { world with now := world.now + duration } world.overshoot)

def runCommand (world : World) (command : AdminCommand) : Except Failure Value × World :=
  let world := world.pass world.cost
  let (answer, admin) := world.admin.run command
  (answer, { world with admin })

def checkCondition (world : World) : Except Failure Bool × World :=
  let world := world.pass world.cost
  match world.conditions with
  | answer :: rest => (answer, { world with conditions := rest })
  | [] => (world.laterCondition, world)

def startFailure (world : World) (handle : Handle) : Option Failure :=
  lookupOr none (world.handle handle).label world.startFailures

def stopFailure (world : World) (handle : Handle) : Option Failure :=
  lookupOr none (world.handle handle).label world.stopFailures

def respond (call : Call) (world : World) : Except Failure call.Answer × World :=
  match call with
  | .buildReplicaSet order => world.buildReplicaSet order
  | .buildProcess name => world.buildProcess (.text name)
  | .setCommand process arguments =>
      (.ok (), world.changeHandle process ({ · with command := arguments }))
  | .start component => (outcome (world.startFailure component.handle), world)
  | .stop component => (outcome (world.stopFailure component.handle), world)
  | .closeNetwork => (outcome world.networkFailure, world)
  | .openChannel _ => (outcome world.openFailure, world)
  | .closeChannel => (outcome world.closeFailure, world)
  | .connect _ _ => (.ok (), world)
  | .disconnect => (.ok (), world)
  | .command command => world.runCommand command
  | .sleep duration => world.sleep duration
  | .checkCondition => world.checkCondition

end World

instance : Outside World where
  respond := World.respond
  readClock world := (world.now, world.pass world.tick)
  handleName world handle := (world.handle handle).name
  members world handle := (world.handle handle).members
  namedAddress world handle := (world.handle handle).named
  clientAddress world handle := (world.handle handle).client

end Simulation

end ShardFleet
