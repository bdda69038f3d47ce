import ShardFleet.Proofs.Simulation.Namespace
import ShardFleet.Proofs.Simulation.World

/-!
# Worlds that host an admin namespace

What a shard is in the admin namespace changes only by commands. A world outside hosts a namespace if
its commands are answered by the namespace or fail without any effect, and if its channels close. So
in such a world an active shard stays active, and a shard that is gone stays away, as long as no
command is about it. Simulated worlds with nothing scripted and no channel that fails to close are
of this kind, whatever else they make fail.
-/

namespace ShardFleet

open ShardFleet.Action

namespace Simulation

variable {ω : Type}

/-- Commands are answered by the namespace or fail without any effect on it, nothing else touches it,
and channels close. -/
structure Hosts [Outside ω] (admin : ω → AdminNamespace) : Prop where
  answers : ∀ (command : AdminCommand) (outside : ω) (response : Value),
    (Outside.respond (.command command) outside).1 = .ok response →
      (admin outside).answer command =
        (.ok response, admin (Outside.respond (.command command) outside).2)
  refuses : ∀ (command : AdminCommand) (outside : ω) (failure : Failure),
    (Outside.respond (.command command) outside).1 = .error failure →
      admin (Outside.respond (.command command) outside).2 = admin outside
  others : ∀ (call : Call) (outside : ω), call.isCommand = false →
    admin (Outside.respond call outside).2 = admin outside
  clock : ∀ outside, admin (Outside.readClock outside).2 = admin outside
  closes : ∀ (call : Call) (outside : ω) (failure : Failure),
    call = .closeChannel ∨ call = .disconnect → (Outside.respond call outside).1 ≠ .error failure

namespace Hosts

variable [Outside ω] {admin : ω → AdminNamespace} {issued : AdminCommand → Prop}
  {fact : AdminNamespace → Prop}

theorem effect (hosts : Hosts admin) (command : AdminCommand) (outside : ω) :
    (admin outside).Effect command (admin (Outside.respond (.command command) outside).2) := by
  cases answer : (Outside.respond (.command command) outside).1 with
  | ok response =>
      have effect := (admin outside).answer_effect command
      rwa [hosts.answers command outside response answer] at effect
  | error failure =>
      rw [hosts.refuses command outside failure answer]
      exact .unchanged

/-- What no command that may be issued ends goes on to hold of the namespace. -/
theorem survives (hosts : Hosts admin)
    (holds : ∀ before command after, issued command → fact before →
      before.Effect command after → fact after) :
    Session.Survives (Call.Issues issued) fun session => fact (admin session.outside) := by
  have lasts : Outside.Lasts (Call.Issues issued) fun outside => fact (admin outside) := by
    constructor
    · intro call outside permitted before
      cases kind : call.isCommand with
      | false =>
          rw [hosts.others call outside kind]
          exact before
      | true =>
          cases call with
          | command command =>
              exact holds _ command _ permitted before (hosts.effect command outside)
          | _ => cases kind
    · intro outside before
      rw [hosts.clock]
      exact before
  exact Session.survives_of_lasts lasts

theorem settled_survives (hosts : Hosts admin) :
    Session.Survives (fun _ => True) fun session => (admin session.outside).Settled := by
  have survives : Session.Survives (Call.Issues fun _ => True)
      fun session : Session ω => (admin session.outside).Settled :=
    hosts.survives fun before command after _ settled effect => settled.effect effect
  exact survives.mono fun call _ => by cases call <;> trivial

theorem keeps_settled (hosts : Hosts admin) {α : Type} {action : Action ω α}
    {allowed : Call → Prop} (calls : CallsOnly allowed action) :
    Keeps (fun session => (admin session.outside).Settled) action :=
  calls.keeps (hosts.settled_survives.mono fun _ _ => trivial)

theorem holds_survives (hosts : Hosts admin) (name : String) :
    Session.Survives (Call.Issues (AdminNamespace.Spares name))
      fun session => (admin session.outside).Holds name :=
  hosts.survives fun _ _ _ spares holds effect => holds.effect effect spares

theorem lacks_survives (hosts : Hosts admin) (name : String) :
    Session.Survives (Call.Issues (AdminNamespace.Omits name))
      fun session => (admin session.outside).Lacks name :=
  hosts.survives fun _ _ _ omits lacks effect => lacks.effect effect omits

/-- While no command is issued, whatever is so in the namespace stays so, and no channel fails to
close. -/
theorem awaits (hosts : Hosts admin) (waiting held : AdminNamespace → Prop) :
    Awaits (fun session => waiting (admin session.outside))
      (fun session => held (admin session.outside)) fun _ => False := by
  have idle (fact : AdminNamespace → Prop) :
      Session.Survives Call.IsIdle fun session => fact (admin session.outside) := by
    have survives : Session.Survives (Call.Issues fun _ => False)
        fun session : Session ω => fact (admin session.outside) :=
      hosts.survives fun _ _ _ impossible => impossible.elim
    exact survives.mono fun call => Call.OnChannel.issues
  exact {
    waits := idle waiting
    stays := idle held
    lapses := fun session call failure _ closing => hosts.closes call session.outside failure closing }

variable {shard : ReplicaGroup} {name : String} {session after : Session ω} {failure : Failure}

/-- A shard that is registered is active. -/
theorem holds_of_register (hosts : Hosts admin) (cluster : Cluster)
    (named : shard.name = .text name) (settled : (admin session.outside).Settled)
    (registers : cluster.register shard session = .ok () after) :
    (admin after.outside).Holds name := by
  have awaits := hosts.awaits AdminNamespace.Settled (AdminNamespace.Holds name)
  have adds (address : String) :
      Keeps (fun session => (admin session.outside).Settled)
        (Admin.addShard cluster.channel (.text address) : Action ω Value) :=
    hosts.keeps_settled (@CallsOnly.command ω _ (fun _ => True) cluster.channel _ trivial)
  have decides : Ensures.Decides (fun session => (admin session.outside).Settled)
      (fun session => (admin session.outside).Holds name)
      (Admin.isShardActive cluster.channel shard.nameValue) := by
    rw [Admin.isShardActive_eq, Component.nameValue, named]
    apply Ensures.decides_of_reading awaits.waits
    · intro session response settled answer
      have later := settled.effect (hosts.effect AdminCommand.listing session.outside)
      have answered := hosts.answers _ _ _ answer
      exact ⟨fun read => ⟨later, AdminNamespace.active_of_listing answered read⟩, fun _ => later⟩
    · intro session failure settled answer
      exact settled.effect (hosts.effect AdminCommand.listing session.outside)
  exact (awaits.register cluster shard adds decides).ok settled registers

theorem drains (hosts : Hosts admin) (cluster : Cluster) (named : shard.name = .text name) :
    Ensures (fun session => (admin session.outside).Holds name) (cluster.drain shard)
      (fun _ session => (admin session.outside).Lacks name)
      (Awaits.Fails (fun session => (admin session.outside).Holds name)
        (fun session => (admin session.outside).Lacks name) fun _ => False) := by
  have awaits := hosts.awaits (AdminNamespace.Holds name) (AdminNamespace.Lacks name)
  apply awaits.drain cluster shard
  rw [Admin.isShardRemoved_eq, Component.nameValue, named]
  apply Ensures.decides_of_reading awaits.waits
  · intro session response holds answer
    have later := holds.settled.effect
      (hosts.effect (AdminCommand.removing (.text name)) session.outside)
    have answered := hosts.answers _ _ _ answer
    have removing := AdminNamespace.answer_removing holds.settled holds.active answered
    exact ⟨fun read => ⟨later, removing.1 read⟩, fun read => ⟨later, removing.2 read⟩⟩
  · intro session failure holds answer
    change (admin (Outside.respond _ session.outside).2).Holds name
    rw [hosts.refuses _ _ _ answer]
    exact holds

/-- A shard that is drained is gone. -/
theorem lacks_of_drain (hosts : Hosts admin) (cluster : Cluster) (named : shard.name = .text name)
    (holds : (admin session.outside).Holds name)
    (drained : cluster.drain shard session = .ok () after) : (admin after.outside).Lacks name :=
  (hosts.drains cluster named).ok holds drained

/-- A shard that is not drained is still active, unless nobody can tell how long it took. -/
theorem holds_of_drain_error (hosts : Hosts admin) (cluster : Cluster)
    (named : shard.name = .text name) (holds : (admin session.outside).Holds name)
    (failed : cluster.drain shard session = .error failure after) :
    (admin after.outside).Holds name ∨ (admin after.outside).Lacks name ∧ failure.IsUntimed :=
  ((hosts.drains cluster named).error holds failed).imp_right fun others =>
    others.resolve_left False.elim

end Hosts

namespace AdminNamespace

/-- Where nothing is scripted, a command is answered by what the namespace holds or fails without
any effect. -/
theorem run_of_unscripted {admin : AdminNamespace} (unscripted : admin.scripts = [])
    (command : AdminCommand) :
    admin.run command = admin.answer command ∨
      ∃ failure, admin.run command = (.error failure, admin) := by
  unfold run
  rw [unscripted]
  split
  · exact Or.inr ⟨_, rfl⟩
  · split
    · exact Or.inr ⟨_, rfl⟩
    · exact Or.inl rfl

theorem answer_eq_of_error {admin : AdminNamespace} {command : AdminCommand} {failure : Failure}
    (refused : (admin.answer command).1 = .error failure) : (admin.answer command).2 = admin := by
  unfold answer at refused ⊢
  split at refused
  · cases refused
  · rfl
  · cases refused
  · split at refused
    · cases refused
    · rfl
  · rfl

theorem run_scripts {admin : AdminNamespace} (unscripted : admin.scripts = [])
    (command : AdminCommand) : (admin.run command).2.scripts = [] := by
  rcases run_of_unscripted unscripted command with answered | ⟨failure, refused⟩
  · rw [answered, (admin.answer_effect command).scripts, unscripted]
  · rw [refused, unscripted]

end AdminNamespace

/-- A world that shows everything under its name, answers commands by what its namespace holds, and
closes its channels. -/
structure FaithfulWorld where
  world : World
  plain : world.renames = []
  unscripted : world.admin.scripts = []
  closing : world.closeFailure = none

namespace FaithfulWorld

def admin (state : FaithfulWorld) : AdminNamespace := state.world.admin

def respond (call : Call) (state : FaithfulWorld) : Except Failure call.Answer × FaithfulWorld :=
  ((state.world.respond call).1, {
    world := (state.world.respond call).2
    plain := (state.world.respond_renames call).trans state.plain
    unscripted := by
      cases kind : call.isCommand with
      | false =>
          rw [state.world.respond_admin kind]
          exact state.unscripted
      | true =>
          cases call with
          | command command =>
              rw [(state.world.respond_command command).2]
              exact AdminNamespace.run_scripts state.unscripted command
          | _ => cases kind
    closing := (state.world.respond_closeFailure call).trans state.closing })

def pass (state : FaithfulWorld) : FaithfulWorld where
  world := state.world.pass state.world.tick
  plain := (state.world.pass_renames _).trans state.plain
  unscripted := by
    rw [World.pass_admin]
    exact state.unscripted
  closing := (state.world.pass_closeFailure _).trans state.closing

instance : Outside FaithfulWorld where
  respond := respond
  readClock state := (state.world.now, state.pass)
  handleName state := Outside.handleName state.world
  members state := Outside.members state.world
  namedAddress state := Outside.namedAddress state.world
  clientAddress state := Outside.clientAddress state.world

theorem keepsNames : KeepsNames FaithfulWorld := by
  intro order state after handle responded
  rcases Prod.mk.inj responded with ⟨answered, rfl⟩
  exact World.name_of_buildReplicaSet state.plain answered

theorem hosts : Hosts admin where
  answers := by
    intro command state response answered
    have run := state.world.respond_command command
    have answer : (state.world.admin.run command).1 = .ok response := run.1.symm.trans answered
    rcases AdminNamespace.run_of_unscripted state.unscripted command with same | ⟨failure, refused⟩
    · rw [same] at answer
      exact Prod.ext answer ((congrArg Prod.snd same).symm.trans run.2.symm)
    · rw [refused] at answer
      cases answer
  refuses := by
    intro command state failure answered
    have run := state.world.respond_command command
    have answer : (state.world.admin.run command).1 = .error failure := run.1.symm.trans answered
    refine run.2.trans ?_
    rcases AdminNamespace.run_of_unscripted state.unscripted command with same | ⟨other, refused⟩
    · rw [same] at answer ⊢
      exact AdminNamespace.answer_eq_of_error answer
    · rw [refused]
      rfl
  others call state kind := state.world.respond_admin kind
  clock state := state.world.pass_admin _
  closes := by
    intro call state failure closing failed
    rcases closing with rfl | rfl
    · change World.outcome state.world.closeFailure = .error failure at failed
      rw [state.closing] at failed
      cases failed
    · cases failed

end FaithfulWorld

end Simulation

end ShardFleet
