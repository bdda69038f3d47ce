import ShardFleet.Markup.Content
import ShardFleet.Settings.Layer

/-!
# Settings of a process

A process loads its settings once, when they are first asked for, and holds on to them until they
are dropped. Whoever changes the settings held changes them for all. A `Workspace` keeps all
settings that were loaded, by number, with the number of those that the process holds.
-/

namespace ShardFleet

/-- A change by its name and arguments, in which files are loaded as markup. -/
def Settings.change (settings : Settings) (files : Files) (name : String)
    (arguments : List Value) : Except Failure Settings :=
  settings.changeWith Markup.loader files name arguments

structure Workspace where
  files : Files := {}
  environment : List (String × Option String) := []
  loaded : Array Settings := #[]
  held : Option Nat := none

namespace Workspace

def variableTexts (workspace : Workspace) : Settings.Environment := fun name =>
  (workspace.environment.lookup name).join

def write (workspace : Workspace) (name text : String) : Except Failure Unit × Workspace :=
  let (outcome, files) := workspace.files.write name text
  (outcome, { workspace with files })

/-- A name or a text of a variable of the environment as it is stored. -/
def storedRaw (raw : String) : Except Failure String :=
  match Text.storedName? raw with
  | .ok stored => .ok stored
  | .error halves => .error (.unencodable halves)

/-- What the variable of a name is set to by a value: unset by null, else to a text. Nothing can
hold a null character, and there are names that nothing can be set by. -/
def assignment (name : String) (value : Value) : Except Failure (String × Option String) := do
  let storedName ← storedRaw name
  match value with
  | .null => return (storedName, none)
  | .text raw =>
      let stored ← storedRaw raw
      if Files.hasNull storedName || Files.hasNull stored then throw .embeddedNull
      if storedName.toList.contains '=' then throw .illegalVariableName
      if storedName.isEmpty then throw .emptyVariableName
      return (storedName, some stored)
  | _ => throw .wrongKind

/-- Sets variables of the environment, or unsets them, up to the first one that cannot be set. -/
def setVariables (workspace : Workspace) :
    List (String × Value) → Except Failure Unit × Workspace
  | [] => (.ok (), workspace)
  | (name, value) :: rest =>
      match assignment name value with
      | .ok pair =>
          setVariables { workspace with environment := pair :: workspace.environment } rest
      | .error failure => (.error failure, workspace)

def settings (workspace : Workspace) (number : Nat) : Settings :=
  workspace.loaded.getD number {}

/-- Loads settings anew; gives their number. -/
def load (workspace : Workspace) (defaults : Settings.Defaults) (file : Value) :
    Except Failure (Nat × Workspace) := do
  let settings ← Settings.load Markup.loader workspace.files workspace.variableTexts defaults file
  return (workspace.loaded.size, { workspace with loaded := workspace.loaded.push settings })

/-- The settings of the process, loaded if there are none yet. -/
def hold (workspace : Workspace) (file : Value) : Except Failure (Nat × Workspace) := do
  match workspace.held with
  | some number => return (number, workspace)
  | none =>
      let (number, workspace) ← workspace.load .packaged file
      return (number, { workspace with held := some number })

def drop (workspace : Workspace) : Workspace := { workspace with held := none }

def update (workspace : Workspace) (number : Nat) (settings : Settings) : Workspace :=
  { workspace with loaded := workspace.loaded.setIfInBounds number settings }

end Workspace

end ShardFleet
