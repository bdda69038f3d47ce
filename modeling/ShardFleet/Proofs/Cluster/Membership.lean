import ShardFleet.Cluster.Operation
import ShardFleet.Proofs.Component.ShownAddress

/-!
# What membership asks of the admin namespace

Registering and draining shards, and the sharding commands, go through a channel that is opened and
closed around them: nothing is built, started or stopped meanwhile. Which commands are issued is
said for each of them. A registration issues `addShard` at most once, and for its own shard.
-/

namespace ShardFleet

variable {ω : Type}

namespace Call

/-- A call on a channel, or a wait between such calls, with the commands that may be issued. -/
def OnChannel (issued : AdminCommand → Prop) : Call → Prop
  | .openChannel _ => True
  | .closeChannel => True
  | .connect _ _ => True
  | .disconnect => True
  | .sleep _ => True
  | .command sent => issued sent
  | _ => False

theorem OnChannel.mono {issued others : AdminCommand → Prop} {call : Call}
    (onChannel : call.OnChannel issued) (implies : ∀ command, issued command → others command) :
    call.OnChannel others := by
  cases call <;> first | exact onChannel | exact implies _ onChannel

/-- A call that is no command, or one of those that may be issued. -/
def Issues (issued : AdminCommand → Prop) : Call → Prop
  | .command sent => issued sent
  | _ => True

theorem OnChannel.issues {issued : AdminCommand → Prop} {call : Call}
    (onChannel : call.OnChannel issued) : call.Issues issued := by
  cases call <;> first | exact onChannel | trivial

/-- Whether a call is a command that adds a shard. -/
def isAdding : Call → Bool
  | .command sent => sent.name.isText "addShard"
  | _ => false

end Call

/-- What is called on channels leaves every component as it is. -/
theorem Session.EvolvesWithin.stateOf_eq [Outside ω] {issued : AdminCommand → Prop}
    {before after : Session ω} {events : List Event}
    (within : before.EvolvesWithin (Call.OnChannel issued) events after) :
    after.stateOf = before.stateOf := by
  rw [within.evolves.states]
  apply Session.statesAfter_of_no_transition
  intro call answer member
  have onChannel := within.calls call answer member
  cases call <;> first | rfl | exact onChannel.elim

namespace AdminCommand

def listing : AdminCommand := ⟨.text "listShards", .int 1, []⟩

def adding (name : String) (members : List Address) : AdminCommand :=
  ⟨.text "addShard", .text (Address.ofReplicaSet name members), []⟩

def removing (name : Value) : AdminCommand := ⟨.text "removeShard", name, []⟩

/-- What may be issued to register a shard with the name given. -/
def Registers (name : String) (command : AdminCommand) : Prop :=
  command = listing ∨ ∃ members, command = adding name members

def Shards (command : AdminCommand) : Prop :=
  command.name = .text "enableSharding" ∨ command.name = .text "shardCollection"

end AdminCommand

variable [Outside ω] {α : Type} {issued : AdminCommand → Prop} {allowed : Call → Prop}

namespace Action.CallsOnly

theorem openAt (channel : Channel) (address : String) :
    CallsOnly (Call.OnChannel issued) (channel.openAt address : Action ω Unit) := by
  cases channel with
  | supplied => exact .perform rfl trivial
  | client selectionTimeout => exact .perform rfl trivial

theorem close (channel : Channel) :
    CallsOnly (Call.OnChannel issued) (channel.close : Action ω Unit) := by
  cases channel with
  | supplied => exact .perform rfl trivial
  | client selectionTimeout => exact .perform rfl trivial

theorem commandThroughClient {command : AdminCommand} (permitted : allowed (.command command)) :
    CallsOnly allowed (Channel.commandThroughClient command : Action ω Value) := by
  apply (CallsOnly.perform rfl permitted).attempt.bind
  intro outcome
  cases outcome with
  | ok response => exact .pure response
  | error failure =>
      dsimp only
      split
      · apply (CallsOnly.log _ _ _).bind
        intro _
        exact .throw failure
      · exact .throw failure

theorem command (channel : Channel) {command : AdminCommand}
    (permitted : allowed (.command command)) :
    CallsOnly allowed (channel.command command : Action ω Value) := by
  cases channel with
  | supplied => exact .perform rfl permitted
  | client selectionTimeout => exact .commandThroughClient permitted

theorem during (channel : Channel) (address : String) {operation : Action ω α}
    (body : CallsOnly (Call.OnChannel issued) operation) :
    CallsOnly (Call.OnChannel issued) (channel.during address operation) :=
  .between (.openAt channel address) (.close channel) body

end Action.CallsOnly

theorem Action.CallsAtMost.command (counted : Call → Bool) (channel : Channel)
    (command : AdminCommand) :
    CallsAtMost 1 counted (channel.command command : Action ω Value) := by
  cases channel with
  | supplied => exact .perform rfl
  | client selectionTimeout =>
      refine CallsAtMost.bind_quiet (CallsAtMost.perform rfl).attempt ?_
      have nothing : ∀ call, False → counted call = false := fun _ impossible => impossible.elim
      rintro (failure | response)
      · dsimp only
        split
        · exact ((CallsOnly.log _ _ _).bind fun _ => .throw failure).callsAtMost nothing
        · exact (CallsOnly.throw failure).callsAtMost nothing
      · exact (CallsOnly.pure response).callsAtMost nothing

open ShardFleet.Action

namespace Admin

theorem isShardActive_callsOnly (channel : Channel) (name : Value)
    (lists : allowed (.command AdminCommand.listing)) :
    CallsOnly allowed (isShardActive channel name : Action ω Bool) := by
  refine CallsOnly.bind (CallsOnly.bind (.command channel lists) ?_) ?_
  · intro response
    exact .conclude _
  · intro records
    exact .conclude _

theorem isShardRemoved_callsOnly (channel : Channel) (name : Value)
    (removes : allowed (.command (AdminCommand.removing name))) :
    CallsOnly allowed (isShardRemoved channel name : Action ω Bool) := by
  refine CallsOnly.bind (CallsOnly.bind (.command channel removes) ?_) ?_
  · intro response
    apply (CallsOnly.conclude _).bind
    intro state
    exact .pure _
  · intro state
    exact .pure _

theorem enableSharding_callsOnly (channel : Channel) (database : Value)
    (shards : ∀ command, AdminCommand.Shards command → allowed (.command command)) :
    CallsOnly allowed (enableSharding channel database : Action ω Value) :=
  .command channel (shards _ (Or.inl rfl))

theorem shards_of_shardingOf {database collection keyField : Value} {sent : AdminCommand}
    (given : shardingOf database collection keyField = .ok sent) : sent.Shards := by
  unfold shardingOf Value.checkWritable at given
  split at given
  · split at given
    · split at given
      · cases given
        exact Or.inr rfl
      · cases given
    · cases given
  · cases given

theorem shardCollection_callsOnly (channel : Channel) (database collection keyField : Value)
    (shards : ∀ command, AdminCommand.Shards command → allowed (.command command)) :
    CallsOnly allowed (shardCollection channel database collection keyField : Action ω Value) := by
  apply CallsOnly.conclude_bind
  intro sent given
  exact .command channel (shards _ (shards_of_shardingOf given))

end Admin

namespace Cluster

theorem awaitMembership_callsOnly (cluster : Cluster) (description : String)
    {condition : Action ω Bool} (checks : CallsOnly allowed condition)
    (sleeps : ∀ seconds, allowed (.sleep seconds)) :
    CallsOnly allowed (cluster.awaitMembership description condition) := by
  apply (CallsOnly.awaitCondition checks sleeps _ _ _).bind
  intro _
  exact .pure _

theorem registerBy_callsOnly (cluster : Cluster) (shard : ReplicaGroup) (members : List Address) :
    CallsOnly
      (Call.OnChannel fun command => command = AdminCommand.listing ∨
        command = AdminCommand.adding shard.name.toText members)
      (cluster.registerBy shard (Address.ofReplicaSet shard.name.toText members) :
        Action ω Unit) := by
  apply (CallsOnly.log _ _ _).bind
  intro _
  apply (Router.connectionString_callsOnly _).bind
  intro routers
  refine CallsOnly.bind (.during _ _ ?_) fun _ => .log _ _ _
  refine CallsOnly.bind (.command _ (Or.inr rfl)) ?_
  intro _
  exact cluster.awaitMembership_callsOnly _ (Admin.isShardActive_callsOnly _ _ (Or.inl rfl))
    fun _ => trivial

/-- A registration adds the shard with its members at the addresses that clients reach them by when
it begins. -/
theorem register_callsOnly_at (cluster : Cluster) (shard : ReplicaGroup) (session : Session ω) :
    ∃ events, session.EvolvesWithin
      (Call.OnChannel fun command => command = AdminCommand.listing ∨
        command = AdminCommand.adding shard.name.toText
          (shard.members.map (Outside.clientAddress session.outside)))
      events (finalState (cluster.register shard) session) := by
  have reads := shard.replicaSetAddress_eq false session
  rcases written : shard.shownAddress false session.outside with failure | address
  · rw [written] at reads
    rw [register, finalState_bind_of_error reads]
    exact ⟨[], .refl session⟩
  · rw [written] at reads
    rw [register, finalState_bind_of_ok reads, (Address.writeReplicaSet_eq_ok_iff.mp written).2]
    exact cluster.registerBy_callsOnly shard _ session

theorem register_callsOnly (cluster : Cluster) (shard : ReplicaGroup) :
    CallsOnly (Call.OnChannel (AdminCommand.Registers shard.name.toText))
      (cluster.register shard : Action ω Unit) := by
  intro session
  rcases cluster.register_callsOnly_at shard session with ⟨events, within⟩
  exact ⟨events, within.mono fun call onChannel =>
    onChannel.mono fun command => Or.imp_right fun adds => ⟨_, adds⟩⟩

theorem register_callsAtMost (cluster : Cluster) (shard : ReplicaGroup) :
    CallsAtMost 1 Call.isAdding (cluster.register shard : Action ω Unit) := by
  have adds : ∀ call, Call.OnChannel (· = AdminCommand.listing) call → call.isAdding = false := by
    intro call onChannel
    cases call <;> first | rfl | exact onChannel.elim | skip
    cases onChannel
    rfl
  have quietly {β : Type} {action : Action ω β}
      (calls : CallsOnly (Call.OnChannel (· = AdminCommand.listing)) action) :
      CallsAtMost 0 Call.isAdding action :=
    calls.callsAtMost adds
  apply CallsAtMost.quiet_bind (quietly (shard.replicaSetAddress_callsOnly false))
  intro address
  apply CallsAtMost.quiet_bind (quietly (.log _ _ _))
  intro _
  apply CallsAtMost.quiet_bind (quietly (Router.connectionString_callsOnly _))
  intro routers
  refine CallsAtMost.bind_quiet ?_ fun _ => quietly (.log _ _ _)
  apply CallsAtMost.quiet_bind (quietly (.openAt _ _))
  intro _
  refine CallsAtMost.bind_quiet (CallsAtMost.attempt ?_) ?_
  · refine CallsAtMost.bind_quiet (.command _ _ _) fun _ => quietly ?_
    exact cluster.awaitMembership_callsOnly _ (Admin.isShardActive_callsOnly _ _ rfl)
      fun _ => trivial
  · intro outcome
    apply CallsAtMost.quiet_bind (quietly (.close _))
    intro _
    exact quietly (.conclude outcome)

theorem registerAll_callsOnly (cluster : Cluster) (shards : List ReplicaGroup) :
    CallsOnly (Call.OnChannel fun command =>
        ∃ shard ∈ shards, AdminCommand.Registers shard.name.toText command)
      (cluster.registerAll shards : Action ω Unit) := by
  induction shards with
  | nil => exact .pure ()
  | cons shard rest ih =>
      refine CallsOnly.bind ((cluster.register_callsOnly shard).mono ?_) ?_
      · intro call onChannel
        exact onChannel.mono fun command registers => ⟨shard, List.mem_cons_self, registers⟩
      · intro _
        refine ih.mono ?_
        intro call onChannel
        refine onChannel.mono ?_
        rintro command ⟨other, otherMem, registers⟩
        exact ⟨other, List.mem_cons_of_mem _ otherMem, registers⟩

theorem drain_callsOnly (cluster : Cluster) (shard : ReplicaGroup) :
    CallsOnly (Call.OnChannel (· = AdminCommand.removing shard.nameValue))
      (cluster.drain shard : Action ω Unit) := by
  apply (Router.connectionString_callsOnly _).bind
  intro routers
  apply CallsOnly.during
  apply (CallsOnly.conclude _).bind
  intro _
  exact cluster.awaitMembership_callsOnly _ (Admin.isShardRemoved_callsOnly _ _ rfl)
    fun _ => trivial

theorem onFirstRouter_callsOnly (cluster : Cluster) {command : Action ω Value}
    (calls : CallsOnly (Call.OnChannel issued) command) :
    CallsOnly (Call.OnChannel issued) (cluster.onFirstRouter command) := by
  apply (Router.connectionString_callsOnly _).bind
  intro address
  apply (CallsOnly.during _ _ calls).bind
  intro _
  exact .pure _

end Cluster

end ShardFleet
