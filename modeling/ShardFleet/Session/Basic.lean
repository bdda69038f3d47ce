import ShardFleet.Address

/-!
# Sessions

Everything that a cluster does to the world outside - the container runtime, the network, the admin
namespace, the clock - is a `Call` with an answer or a failure. `Outside ω` says how a world with
states in `ω` behaves; nothing is assumed of it. A `Session` pairs such a world with what is kept
here: the lifecycle state of every component, the next free serial number and a journal of what has
happened, newest event first.

An `Action` runs in a session. When it fails, the session keeps every change made so far: a failure
undoes nothing.
-/

namespace ShardFleet

inductive LogLevel where
  | debug
  | info
  | warning
  | error
  | critical
deriving DecidableEq, Repr, Inhabited

namespace LogLevel

def toText : LogLevel → String
  | .debug => "debug"
  | .info => "info"
  | .warning => "warning"
  | .error => "error"
  | .critical => "critical"

/-- The weight that decides whether an entry is written. -/
def severity : LogLevel → Nat
  | .debug => 10
  | .info => 20
  | .warning => 30
  | .error => 40
  | .critical => 50

end LogLevel

structure LogEntry where
  level : LogLevel
  event : String
  context : List (String × Value)

/-- An order for a replica set. The member count is passed on as it was configured. -/
structure ReplicaSetOrder where
  namespaceName : String
  name : String
  memberCount : Value
  configServer : Bool

/-- A command; its name is a text as a rule. -/
structure AdminCommand where
  name : Value
  argument : Value
  fields : List (String × Value)

/-- One request to the world outside. -/
inductive Call where
  | buildReplicaSet (order : ReplicaSetOrder)
  | buildProcess (name : String)
  | setCommand (process : Handle) (arguments : List Value)
  | start (component : Component)
  | stop (component : Component)
  | closeNetwork
  | openChannel (address : String)
  | closeChannel
  | connect (address : Value) (selectionTimeout : Value)
  | disconnect
  | command (command : AdminCommand)
  | sleep (seconds : Binary64)
  | checkCondition

/-- What is answered to a request that succeeds. -/
def Call.Answer : Call → Type
  | .buildReplicaSet _ => Handle
  | .buildProcess _ => Handle
  | .command _ => Value
  | .checkCondition => Bool
  | _ => Unit

/-- A world outside: how it answers, what its handles show at the moment, and its clock. -/
class Outside (ω : Type) where
  respond : (call : Call) → ω → Except Failure call.Answer × ω
  readClock : ω → Binary64 × ω
  handleName : ω → Handle → Key
  members : ω → Handle → List Handle
  namedAddress : ω → Handle → Address
  clientAddress : ω → Handle → Address

inductive Event where
  | called (call : Call) (answer : Except Failure call.Answer)
  | logged (entry : LogEntry)
  | pooled (workers : Value)

/-- The lifecycle states of components; one that was never changed has not been started. -/
structure StateTable where
  entries : List (Component × LifecycleState) := []

namespace StateTable

def find (component : Component) : List (Component × LifecycleState) → LifecycleState
  | [] => .notStarted
  | (other, state) :: rest => if other = component then state else find component rest

def get (table : StateTable) (component : Component) : LifecycleState :=
  find component table.entries

def set (table : StateTable) (component : Component) (state : LifecycleState) : StateTable :=
  ⟨(component, state) :: table.entries.filter fun entry => decide (entry.1 ≠ component)⟩

theorem find_filter_of_ne {component asked : Component} (different : asked ≠ component)
    (entries : List (Component × LifecycleState)) :
    find asked (entries.filter fun entry => decide (entry.1 ≠ component)) = find asked entries := by
  induction entries with
  | nil => rfl
  | cons entry rest ih =>
      rcases entry with ⟨other, state⟩
      by_cases same : other = component
      · have apart : component ≠ asked := fun equal => different equal.symm
        simp only [ne_eq, same, not_true_eq_false, decide_false, Bool.false_eq_true,
          not_false_eq_true, List.filter_cons_of_neg, find, apart, if_false]
        simpa using ih
      · simp only [ne_eq, same, not_false_eq_true, decide_true, List.filter_cons_of_pos, find]
        split
        · rfl
        · simpa using ih

@[simp] theorem get_set_self (table : StateTable) (component : Component)
    (state : LifecycleState) : (table.set component state).get component = state := by
  simp [get, set, find]

theorem get_set_of_ne (table : StateTable) {component asked : Component} (state : LifecycleState)
    (different : asked ≠ component) :
    (table.set component state).get asked = table.get asked := by
  have apart : component ≠ asked := fun equal => different equal.symm
  simp only [get, set, find, apart, if_false]
  exact find_filter_of_ne different table.entries

end StateTable

structure Session (ω : Type) where
  outside : ω
  states : StateTable := {}
  nextSerial : Nat := 0
  journal : List Event := []

/-- A computation in a session that may fail. -/
abbrev Action (ω : Type) := EStateM Failure (Session ω)

namespace Session

variable {ω : Type}

def record (session : Session ω) (event : Event) : Session ω :=
  { session with journal := event :: session.journal }

/-- The events since the journal was last emptied, oldest first. -/
def history (session : Session ω) : List Event := session.journal.reverse

def clearJournal (session : Session ω) : Session ω := { session with journal := [] }

def stateOf (session : Session ω) (component : Component) : LifecycleState :=
  session.states.get component

def isStarted (session : Session ω) (component : Component) : Bool :=
  session.stateOf component = .started

end Session

namespace Action

variable {ω : Type} {α : Type}

/-- Makes one request and enters it in the journal with its outcome. -/
def perform [Outside ω] (call : Call) : Action ω call.Answer := fun session =>
  match Outside.respond call session.outside with
  | (answer, outside) =>
      let session := { session with outside, journal := .called call answer :: session.journal }
      match answer with
      | .ok value => .ok value session
      | .error failure => .error failure session

def readClock [Outside ω] : Action ω Binary64 := fun session =>
  match Outside.readClock session.outside with
  | (seconds, outside) => .ok seconds { session with outside }

/-- What the world outside shows at the moment. -/
def view (look : ω → α) : Action ω α := fun session => .ok (look session.outside) session

def log (level : LogLevel) (event : String) (context : List (String × Value)) : Action ω Unit :=
  fun session => .ok () (session.record (.logged ⟨level, event, context⟩))

def recordPool (workers : Value) : Action ω Unit :=
  fun session => .ok () (session.record (.pooled workers))

def stateOf (component : Component) : Action ω LifecycleState :=
  fun session => .ok (session.stateOf component) session

def setState (component : Component) (state : LifecycleState) : Action ω Unit :=
  fun session => .ok () { session with states := session.states.set component state }

def freshSerial : Action ω Nat :=
  fun session => .ok session.nextSerial { session with nextSerial := session.nextSerial + 1 }

end Action

/-- Runs a computation for its outcome, so that a failure can be looked at. -/
def attempt {σ α : Type} (body : EStateM Failure σ α) : EStateM Failure σ (Except Failure α) :=
  fun state =>
    match body state with
    | .ok value state => .ok (.ok value) state
    | .error failure state => .ok (.error failure) state

/-- The value of an outcome, or its failure again. -/
def conclude {σ α : Type} : Except Failure α → EStateM Failure σ α
  | .ok value => fun state => .ok value state
  | .error failure => fun state => .error failure state

/-- Looking at an outcome and then concluding with it changes nothing. -/
theorem attempt_bind_conclude {σ α : Type} (body : EStateM Failure σ α) :
    (do conclude (← attempt body)) = body := by
  funext state
  change EStateM.bind (attempt body) conclude state = body state
  unfold EStateM.bind attempt
  cases body state <;> rfl

/-- An attempt does not fail. -/
theorem attempt_ne_error {σ α : Type} (body : EStateM Failure σ α) (state after : σ)
    (failure : Failure) : attempt body state ≠ .error failure after := by
  intro failed
  unfold attempt at failed
  split at failed
  · cases failed
  · cases failed

end ShardFleet
