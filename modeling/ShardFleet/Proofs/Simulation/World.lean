import ShardFleet.Proofs.Cluster.Building
import ShardFleet.Simulation.World

/-!
# Worlds that rename nothing

A simulated world may be told to show a process or replica set under another name. Nothing that the
world is asked to do changes what it has been told, so a world that renames nothing goes on renaming
nothing, and it gives every replica set the name that it was asked for. Only a command can change
the admin namespace.
-/

namespace ShardFleet

def Call.isCommand : Call → Bool
  | .command _ => true
  | _ => false

namespace Simulation

namespace World

variable (world : World)

/-- What the world has been told about names and channels, and its admin namespace. -/
def standing : List (Key × Key) × Option Failure × AdminNamespace :=
  (world.renames, world.closeFailure, world.admin)

@[simp]
theorem pass_standing (time : Binary64) : (world.pass time).standing = world.standing := by
  unfold pass
  split <;> rfl

@[simp]
theorem addHandle_standing (record : HandleRecord) :
    (world.addHandle record).2.standing = world.standing := rfl

@[simp]
theorem addProcess_standing (name : Key) :
    (world.addProcess name).2.standing = world.standing := rfl

@[simp]
theorem addProcesses_standing (names : List Key) :
    (world.addProcesses names).2.standing = world.standing := by
  induction names generalizing world with
  | nil => rfl
  | cons name rest ih => rw [addProcesses, ih, addProcess_standing]

@[simp]
theorem addReplicaSet_standing (name : Key) (members : List Key) :
    (world.addReplicaSet name members).2.standing = world.standing := by
  rw [addReplicaSet, addHandle_standing, addProcesses_standing]

/-- Whatever a world is asked to do but commands, its standing stays. -/
theorem respond_standing {call : Call} (other : call.isCommand = false) :
    (world.respond call).2.standing = world.standing := by
  cases call with
  | buildReplicaSet order =>
      simp only [respond, buildReplicaSet]
      split
      · rfl
      · rfl
      · exact addReplicaSet_standing world _ _
  | buildProcess name =>
      simp only [respond, buildProcess]
      split
      · rfl
      · exact addProcess_standing world _
  | sleep duration =>
      simp only [respond, sleep]
      split
      · rfl
      · split
        · rfl
        · exact pass_standing _ _
  | command command => cases other
  | checkCondition =>
      simp only [respond, checkCondition]
      split
      · exact pass_standing world _
      · exact pass_standing world _
  | _ => rfl

theorem pass_renames (time : Binary64) : (world.pass time).renames = world.renames :=
  congrArg Prod.fst (world.pass_standing time)

theorem pass_closeFailure (time : Binary64) :
    (world.pass time).closeFailure = world.closeFailure :=
  congrArg (·.2.1) (world.pass_standing time)

theorem pass_admin (time : Binary64) : (world.pass time).admin = world.admin :=
  congrArg (·.2.2) (world.pass_standing time)

theorem respond_renames (call : Call) : (world.respond call).2.renames = world.renames := by
  cases kind : call.isCommand with
  | false => exact congrArg Prod.fst (world.respond_standing kind)
  | true =>
      cases call with
      | command command => exact pass_renames world _
      | _ => cases kind

theorem respond_closeFailure (call : Call) :
    (world.respond call).2.closeFailure = world.closeFailure := by
  cases kind : call.isCommand with
  | false => exact congrArg (·.2.1) (world.respond_standing kind)
  | true =>
      cases call with
      | command command => exact pass_closeFailure world _
      | _ => cases kind

theorem respond_admin {call : Call} (other : call.isCommand = false) :
    (world.respond call).2.admin = world.admin :=
  congrArg (·.2.2) (world.respond_standing other)

/-- A command gets the answer of the admin namespace, and changes nothing else. -/
theorem respond_command (command : AdminCommand) :
    (world.respond (.command command)).1 = (world.admin.run command).1 ∧
      (world.respond (.command command)).2.admin = (world.admin.run command).2 := by
  change (world.runCommand command).1 = _ ∧ (world.runCommand command).2.admin = _
  rw [runCommand, pass_admin]
  exact ⟨rfl, rfl⟩

theorem handle_addHandle (record : HandleRecord) :
    (world.addHandle record).2.handle (world.addHandle record).1 = record := by
  simp [addHandle, handle]

theorem name_of_buildReplicaSet {world : World} (plain : world.renames = [])
    {order : ReplicaSetOrder} {handle : Handle}
    (answered : (world.buildReplicaSet order).1 = .ok handle) :
    ((world.buildReplicaSet order).2.handle handle).name = .text order.name := by
  unfold buildReplicaSet at answered ⊢
  dsimp only at answered ⊢
  split at answered
  · cases answered
  · cases answered
  · dsimp only
    rw [← Except.ok.inj answered, addReplicaSet, handle_addHandle, plain]
    rfl

end World

/-- A world that shows everything under the name that it was given. -/
structure PlainWorld where
  world : World
  plain : world.renames = []

namespace PlainWorld

instance : Outside PlainWorld where
  respond call state :=
    ((state.world.respond call).1,
      ⟨(state.world.respond call).2, (state.world.respond_renames call).trans state.plain⟩)
  readClock state :=
    (state.world.now,
      ⟨state.world.pass state.world.tick, (state.world.pass_renames _).trans state.plain⟩)
  handleName state := Outside.handleName state.world
  members state := Outside.members state.world
  namedAddress state := Outside.namedAddress state.world
  clientAddress state := Outside.clientAddress state.world

theorem keepsNames : KeepsNames PlainWorld := by
  intro order state after handle responded
  rcases Prod.mk.inj responded with ⟨answered, rfl⟩
  exact World.name_of_buildReplicaSet state.plain answered

end PlainWorld

end Simulation

end ShardFleet
