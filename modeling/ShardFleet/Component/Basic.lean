import ShardFleet.Value.Display

/-!
# Components of a cluster

A component is something of the cluster that is started and stopped: a replica group or a router. It
has its identity (`serial`), the name that its handle carried when the component was made, and the
handle itself. A name is a text as a rule, but may be whatever can be a key. What changes over time,
its state, is not part of it: a session keeps the states.
-/

namespace ShardFleet

/-- What the container runtime gave out for a process or a replica set. -/
structure Handle where
  index : Nat
deriving DecidableEq, Repr, Inhabited

inductive LifecycleState where
  | notStarted
  | started
  | stopped
deriving DecidableEq, Repr, Inhabited

def LifecycleState.toText : LifecycleState → String
  | .notStarted => "not_started"
  | .started => "started"
  | .stopped => "stopped"

structure Component where
  serial : Nat
  name : Key
  handle : Handle
deriving DecidableEq, Repr, Inhabited

/-- A named group of member processes with one replica role. Its members are those the handle had
when the group was made. -/
structure ReplicaGroup extends Component where
  members : List Handle
  holdsConfig : Bool
deriving DecidableEq, Repr, Inhabited

/-- A stateless routing process. -/
structure Router extends Component where
deriving DecidableEq, Repr, Inhabited

namespace Component

/-- The name as it is logged. -/
def nameValue (component : Component) : Value := component.name.toValue

/-- A component on paper, under the name of its kind. -/
def describeAs (kind : String) (component : Component) (state : LifecycleState) : String :=
  kind ++ "(name=" ++ component.name.display ++ ", state=" ++ state.toText ++ ")"

def kindName : String := "ManagedUnit"

def describe (component : Component) (state : LifecycleState) : String :=
  component.describeAs kindName state

end Component

namespace ReplicaGroup

def kindName : String := "ReplicaGroup"

def describe (group : ReplicaGroup) (state : LifecycleState) : String :=
  group.toComponent.describeAs kindName state

end ReplicaGroup

namespace Router

def kindName : String := "Router"

def describe (router : Router) (state : LifecycleState) : String :=
  router.toComponent.describeAs kindName state

end Router

end ShardFleet
