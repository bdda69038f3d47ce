import ShardFleet.Proofs.Cluster.Bookkeeping
import ShardFleet.Proofs.Cluster.Frame
import ShardFleet.Proofs.Simulation.Namespace

/-!
# Which shards a request is about

An addition issues commands about the next shard, a removal about the last one, and the sharding
commands are about no shard. What the admin namespace knows of any other shard is not touched.
-/

namespace ShardFleet

open Simulation Blueprint

namespace AdminCommand

variable {command : AdminCommand} {name : String} {number other : ℕ}

theorem Registers.spares (registers : command.Registers (shardName other))
    (different : other ≠ number) : AdminNamespace.Spares (shardName number) command where
  omits := by
    intro named address argument same
    rcases (registers.adds named).2 with ⟨members, given⟩
    rw [given, Value.text.injEq] at argument
    rw [← argument, shardAt_shardName] at same
    exact different (shardName_injective same)
  keeps := by
    rcases registers with rfl | ⟨members, rfl⟩
    · simp [listing]
    · simp [adding]

theorem removing_omits (target : Value) : AdminNamespace.Omits name (removing target) := by
  simp [AdminNamespace.Omits, removing]

theorem removing_spares (different : other ≠ number) :
    AdminNamespace.Spares (shardName number) (removing (.text (shardName other))) where
  omits := removing_omits _
  keeps := by
    intro _ removed
    have same : shardName other = shardName number := by simpa [removing, Value.toKey?] using removed
    exact different (shardName_injective same)

theorem Shards.spares (shards : command.Shards) : AdminNamespace.Spares name command := by
  rcases shards with enable | shard
  · constructor <;> simp [AdminNamespace.Omits, enable]
  · constructor <;> simp [AdminNamespace.Omits, shard]

end AdminCommand

theorem Call.Issues.mono {issued others : AdminCommand → Prop} {call : Call}
    (issues : call.Issues issued) (implies : ∀ command, issued command → others command) :
    call.Issues others := by
  cases call <;> first | exact implies _ issues | trivial

namespace Request

namespace MayCall

variable {cluster : Cluster} {call : Call} {number : ℕ} {shard : ReplicaGroup} {name : String}

theorem spares_of_addShard (created : number ≤ cluster.shardsCreated)
    (may : MayCall cluster .addShard call) :
    call.Issues (AdminNamespace.Spares (shardName number)) := by
  rcases may with constructs | ⟨component, rfl⟩ | onChannel
  · cases call <;> trivial
  · trivial
  · have spares := onChannel.mono fun command registers =>
      AdminCommand.Registers.spares registers (by omega : cluster.shardsCreated + 1 ≠ number)
    exact spares.issues

theorem spares_of_removeShard {youngest : ℕ}
    (last : cluster.topology.shards.getLast? = some shard)
    (named : shard.name = .text (shardName youngest)) (older : number < youngest)
    (may : MayCall cluster .removeShard call) :
    call.Issues (AdminNamespace.Spares (shardName number)) := by
  rcases may with ⟨other, same, onChannel | rfl⟩
  · rw [last] at same
    cases same
    apply Call.OnChannel.issues
    apply onChannel.mono
    rintro command rfl
    rw [Component.nameValue, named]
    exact AdminCommand.removing_spares (Nat.ne_of_gt older)
  · trivial

theorem omits_of_removeShard (may : MayCall cluster .removeShard call) :
    call.Issues (AdminNamespace.Omits name) := by
  rcases may with ⟨other, _, onChannel | rfl⟩
  · apply Call.OnChannel.issues
    apply onChannel.mono
    rintro command rfl
    exact AdminCommand.removing_omits _
  · trivial

theorem spares_of_shards (onChannel : call.OnChannel AdminCommand.Shards) :
    call.Issues (AdminNamespace.Spares name) :=
  (onChannel.mono fun _ shards => shards.spares).issues

end MayCall

end Request

end ShardFleet
