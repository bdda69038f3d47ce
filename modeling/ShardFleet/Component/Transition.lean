import ShardFleet.Session.Basic

/-!
# Starting and stopping components

Starting a component that is started already, and stopping one that is not, does nothing. Otherwise
its handle is called once, and the state changes only if the handle does not fail. A stopped
component can be started again.
-/

namespace ShardFleet

variable {ω : Type}

namespace Component

variable [Outside ω]

/-- Starts a component, given what brings up its handle; says whether the handle was called. -/
def startBy (bringUp : Action ω Unit) (component : Component) : Action ω Bool := do
  let state ← Action.stateOf component
  if state = .started then
    return false
  else
    Action.log .debug "Starting unit" [("unit", component.nameValue)]
    bringUp
    Action.setState component .started
    Action.log .info "Unit started" [("unit", component.nameValue)]
    return true

def start (component : Component) : Action ω Bool :=
  component.startBy (Action.perform (.start component))

/-- Stops a component; says whether the handle was called. -/
def stop (component : Component) : Action ω Bool := do
  let state ← Action.stateOf component
  if state = .started then
    Action.log .debug "Stopping unit" [("unit", component.nameValue)]
    Action.perform (.stop component)
    Action.setState component .stopped
    Action.log .info "Unit stopped" [("unit", component.nameValue)]
    return true
  else
    return false

/-- Starts a component whose handle, once it is up, starts further components. Handles that start
each other in a circle stay circling for as many rounds as are given. -/
def startTogether (companions : Component → List Component) : Nat → Component → Action ω Bool
  | 0, component => component.start
  | rounds + 1, component =>
      component.startBy do
        Action.perform (.start component)
        for companion in companions component do
          let _ ← startTogether companions rounds companion

/-- A component around a handle, under a name of its own. -/
def make (name : Key) (handle : Handle) : Action ω Component := do
  let serial ← Action.freshSerial
  return { serial, name, handle }

end Component

namespace ReplicaGroup

variable [Outside ω]

/-- The failure that a replica set without members is refused with: it tells the name, unless that
is too long to be written. -/
def emptyRefusal (name : Key) : Failure :=
  if name.isWritable then .misconfigured (.emptyGroup name) else .integerTooLong

/-- A group around a handle, with the name and the members that the handle has now. -/
def ofHandle (handle : Handle) (holdsConfig : Bool) : Action ω ReplicaGroup := do
  let members ← Action.view (Outside.members · handle)
  let name ← Action.view (Outside.handleName · handle)
  if members.isEmpty then
    throw (emptyRefusal name)
  else
    let component ← Component.make name handle
    return { toComponent := component, members, holdsConfig }

def addresses (group : ReplicaGroup) (named : Bool) : Action ω (List Address) :=
  Action.view fun outside =>
    group.members.map fun member =>
      if named then Outside.namedAddress outside member else Outside.clientAddress outside member

/-- The group as a replica set: by the addresses that peers resolve if `named`, else by those that
clients dial. -/
def replicaSetAddress (group : ReplicaGroup) (named : Bool) : Action ω String := do
  conclude (Address.writeReplicaSet group.name (← group.addresses named))

end ReplicaGroup

namespace Router

variable [Outside ω]

def ofHandle (handle : Handle) : Action ω Router := do
  let name ← Action.view (Outside.handleName · handle)
  let component ← Component.make name handle
  return { toComponent := component }

def namedAddress (router : Router) : Action ω Address :=
  Action.view (Outside.namedAddress · router.handle)

def clientAddress (router : Router) : Action ω Address :=
  Action.view (Outside.clientAddress · router.handle)

/-- The connection string over the routers given, in order. -/
def connectionString (routers : List Router) : Action ω String := do
  let addresses ← Action.view fun outside =>
    routers.map fun router => Outside.clientAddress outside router.handle
  conclude (Address.writeConnectionString Address.defaultScheme addresses)

end Router

end ShardFleet
