import ShardFleet.StartOrder.Levels
import ShardFleet.Component.Transition

/-!
# Starting and stopping in order

A start order holds which components require which. `startAll` starts components level by level, so
that what a component requires is started before it, and `stopAll` stops them in the reverse order
of levels. Within a level the components are run one after another if the order has one worker or
the level one component, and the first failure ends the run; otherwise they are given to a pool,
which runs all of them, and then the first failure, in the order of the level, is raised. A failure
undoes nothing.
-/

namespace ShardFleet

variable {ω : Type}

/-- Which components require which, and how many are run at a time. -/
structure StartOrder where
  requirements : List (Component × List Component)
  workers : Value

/-- The two things done to a level. -/
inductive Transition where
  | start
  | stop
deriving DecidableEq, Repr

def Transition.verb : Transition → String
  | .start => "start"
  | .stop => "stop"

namespace StartOrder

/-- What a component requires; one without an entry requires nothing. -/
def requires (order : StartOrder) (component : Component) : List Component :=
  match order.requirements.find? fun entry => decide (entry.1 = component) with
  | some entry => entry.2
  | none => []

/-- The start levels of components; those that cannot be ordered are a cycle. -/
def levelsOf (order : StartOrder) (components : List Component) :
    Except Failure (List (List Component)) :=
  match levels order.requires components with
  | .ok arranged => .ok arranged
  | .error circle => .error (.ofCycle (circle.map (·.name)))

/-- Runs one component; a failure is logged and raised again. -/
def runOne (transition : Transition) (run : Component → Action ω Bool) (component : Component) :
    Action ω Unit := do
  match ← attempt (run component) with
  | .ok _ => return ()
  | .error failure =>
      Action.log .error ("Failed to " ++ transition.verb ++ " unit")
        [("unit", component.nameValue), ("error", .text failure.message)]
      throw failure

/-- Runs components one after another, up to the first failure. -/
def runInTurn (transition : Transition) (run : Component → Action ω Bool) :
    List Component → Action ω Unit
  | [] => return ()
  | component :: rest => do
      runOne transition run component
      runInTurn transition run rest

/-- Runs all components, and gives the first failure among their outcomes. -/
def runEach (transition : Transition) (run : Component → Action ω Bool) :
    List Component → Action ω (Except Failure Unit)
  | [] => return .ok ()
  | component :: rest => do
      let outcome ← attempt (runOne transition run component)
      let others ← runEach transition run rest
      match outcome with
      | .ok _ => return others
      | .error failure => return .error failure

/-- Opens a pool of as many workers as the order has, or as there are components. -/
def openPool (order : StartOrder) (size : Nat) : Action ω Unit := do
  let workers := if order.workers.isVacant then .int size else order.workers
  match workers.isPositive? with
  | some true => Action.recordPool workers
  | some false => throw .emptyPool
  | none => throw .wrongKind

def runLevel (order : StartOrder) (transition : Transition) (run : Component → Action ω Bool)
    (level : List Component) : Action ω Unit := do
  if level.isEmpty then
    return ()
  else if level.length = 1 || order.workers.isOne then
    runInTurn transition run level
  else
    order.openPool level.length
    conclude (← runEach transition run level)

/-- Runs the components of each level that are to be run, judged as the level's turn comes. -/
def runLevels (order : StartOrder) (transition : Transition) (run : Component → Action ω Bool)
    (wanted : Session ω → Component → Bool) : List (List Component) → Action ω Unit
  | [] => return ()
  | level :: rest => do
      let session ← get
      order.runLevel transition run (level.filter (wanted session))
      runLevels order transition run wanted rest

def announce (event : String) (arranged : List (List Component)) : Action ω Unit :=
  Action.log .info event
    [("units", .int arranged.flatten.length), ("levels", .int arranged.length)]

/-- Starts components by the way of starting given. -/
def startAllBy (start : Component → Action ω Bool) (order : StartOrder)
    (components : List Component) : Action ω Unit := do
  let arranged ← conclude (order.levelsOf components)
  announce "Starting units" arranged
  order.runLevels .start start (fun session component => !session.isStarted component) arranged

variable [Outside ω]

def startAll (order : StartOrder) (components : List Component) : Action ω Unit :=
  order.startAllBy Component.start components

def stopAll (order : StartOrder) (components : List Component) : Action ω Unit := do
  let arranged ← conclude (order.levelsOf components)
  announce "Stopping units" arranged
  order.runLevels .stop Component.stop Session.isStarted arranged.reverse

end StartOrder

end ShardFleet
