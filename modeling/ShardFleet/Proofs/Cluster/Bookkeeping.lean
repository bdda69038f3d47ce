import ShardFleet.Proofs.Cluster.Naming
import ShardFleet.Proofs.Cluster.Run
import ShardFleet.Proofs.Simulation.World

/-!
# Shard numbers are never used twice

The container runtime is asked for each shard by a number of its own: the count of shards asked for
goes up before anything else happens, and it never goes down. So whatever fails, the shards in the
topology and those that could not be registered carry different numbers, in the order in which they
came, and no command has yet been about the next shard.
-/

namespace ShardFleet

open Blueprint

variable {ω : Type}

/-- The shards in the topology and those that are not registered are named by these numbers. -/
structure Cluster.IsNumbered (cluster : Cluster) (listed kept : List ℕ) : Prop where
  shards : cluster.topology.shards.map (·.name) = listed.map fun number => .text (shardName number)
  unregistered : cluster.unregistered.map (·.name) = kept.map fun number => .text (shardName number)
  listedUp : listed.Pairwise (· < ·)
  keptUp : kept.Pairwise (· < ·)
  apart : ∀ number ∈ listed, number ∉ kept
  created : ∀ number ∈ listed ++ kept, 0 < number ∧ number ≤ cluster.shardsCreated

namespace Cluster.IsNumbered

variable {cluster : Cluster} {listed kept : List ℕ}

theorem nodup_of_names {groups : List ReplicaGroup} {numbers : List ℕ}
    (names : groups.map (·.name) = numbers.map fun number => Key.text (shardName number))
    (up : numbers.Pairwise (· < ·)) : groups.Nodup := by
  apply List.Nodup.of_map (·.name)
  rw [names]
  have distinct : numbers.Nodup := up.imp Nat.ne_of_lt
  exact distinct.map fun first second same => shardName_injective (Key.text.inj same)

theorem exists_number {groups : List ReplicaGroup} {numbers : List ℕ}
    (names : groups.map (·.name) = numbers.map fun number => Key.text (shardName number))
    {shard : ReplicaGroup} (shardMem : shard ∈ groups) :
    ∃ number ∈ numbers, shard.name = .text (shardName number) := by
  have nameMem := List.mem_map_of_mem (f := fun group => group.name) shardMem
  rw [names] at nameMem
  rcases List.mem_map.mp nameMem with ⟨number, numberMem, same⟩
  exact ⟨number, numberMem, same.symm⟩

theorem exists_youngest (numbered : cluster.IsNumbered listed kept) {shard : ReplicaGroup}
    (last : cluster.topology.shards.getLast? = some shard) :
    ∃ youngest ∈ listed, shard.name = .text (shardName youngest) ∧
      ∀ number ∈ listed, number ≤ youngest := by
  have names := numbered.shards
  rw [← List.dropLast_append_getLast? shard last, List.map_append, List.map_singleton,
    eq_comm, List.map_eq_append_iff] at names
  rcases names with ⟨older, newest, rfl, _, name⟩
  rcases List.map_eq_singleton_iff.mp name with ⟨youngest, rfl, same⟩
  refine ⟨youngest, List.mem_append_right _ (List.mem_singleton_self _), same.symm, ?_⟩
  intro number numberMem
  rcases List.mem_append.mp numberMem with before | newest
  · have up := (List.pairwise_append.mp numbered.listedUp).2.2
    exact Nat.le_of_lt (up number before youngest (List.mem_singleton_self _))
  · exact Nat.le_of_eq (List.mem_singleton.mp newest)

/-- The last shard has the greatest number of all in the topology. -/
theorem lt_youngest (numbered : cluster.IsNumbered listed kept) {shard : ReplicaGroup}
    (last : cluster.topology.shards.getLast? = some shard) :
    ∃ youngest ≤ cluster.shardsCreated, shard.name = .text (shardName youngest) ∧
      ∀ other ∈ cluster.topology.shards.dropLast,
        ∃ number < youngest, other.name = .text (shardName number) := by
  have names := numbered.shards
  rw [← List.dropLast_append_getLast? shard last, List.map_append, List.map_singleton,
    eq_comm, List.map_eq_append_iff] at names
  rcases names with ⟨older, newest, rfl, olderNames, name⟩
  rcases List.map_eq_singleton_iff.mp name with ⟨youngest, rfl, same⟩
  have youngestMem := List.mem_singleton_self youngest
  have bounds := numbered.created youngest (List.mem_append_left _ (List.mem_append_right _ youngestMem))
  refine ⟨youngest, bounds.2, same.symm, ?_⟩
  intro other otherMem
  rcases exists_number olderNames.symm otherMem with ⟨number, numberMem, named⟩
  have up := (List.pairwise_append.mp numbered.listedUp).2.2
  exact ⟨number, up number numberMem youngest youngestMem, named⟩

theorem disjoint (numbered : cluster.IsNumbered listed kept) :
    ∀ shard ∈ cluster.topology.shards, shard ∉ cluster.unregistered := by
  intro shard shardMem stranded
  rcases exists_number numbered.shards shardMem with ⟨number, numberMem, name⟩
  rcases exists_number numbered.unregistered stranded with ⟨other, otherMem, same⟩
  rw [name, Key.text.injEq] at same
  rw [shardName_injective same] at numberMem
  exact numbered.apart other numberMem otherMem

theorem lt_next (numbered : cluster.IsNumbered listed kept) :
    ∀ number ∈ listed ++ kept, number < cluster.shardsCreated + 1 :=
  fun number numberMem => Nat.lt_succ_of_le (numbered.created number numberMem).2

theorem pairwise_append_next {numbers : List ℕ} {next : ℕ} (up : numbers.Pairwise (· < ·))
    (below : ∀ number ∈ numbers, number < next) : (numbers ++ [next]).Pairwise (· < ·) := by
  rw [List.pairwise_append]
  refine ⟨up, List.pairwise_singleton _ _, ?_⟩
  intro number numberMem other otherMem
  rw [List.mem_singleton.mp otherMem]
  exact below number numberMem

theorem of_same {other : Cluster} (numbered : cluster.IsNumbered listed kept)
    (shards : other.topology.shards = cluster.topology.shards)
    (unregistered : other.unregistered = cluster.unregistered)
    (le : cluster.shardsCreated ≤ other.shardsCreated) : other.IsNumbered listed kept where
  shards := shards ▸ numbered.shards
  unregistered := unregistered ▸ numbered.unregistered
  listedUp := numbered.listedUp
  keptUp := numbered.keptUp
  apart := numbered.apart
  created number numberMem :=
    ⟨(numbered.created number numberMem).1, Nat.le_trans (numbered.created number numberMem).2 le⟩

theorem register (numbered : cluster.IsNumbered listed kept) {shard : ReplicaGroup}
    (named : shard.name = .text (shardName (cluster.shardsCreated + 1))) :
    (cluster.registered shard).IsNumbered (listed ++ [cluster.shardsCreated + 1]) kept where
  shards := by
    simp only [Cluster.registered, List.map_append, numbered.shards, List.map_cons, named,
      List.map_nil]
  unregistered := numbered.unregistered
  listedUp := pairwise_append_next numbered.listedUp fun number numberMem =>
    numbered.lt_next number (List.mem_append_left _ numberMem)
  keptUp := numbered.keptUp
  apart := by
    intro number numberMem stranded
    have below := numbered.lt_next number (List.mem_append_right _ stranded)
    rcases List.mem_append.mp numberMem with before | next
    · exact numbered.apart number before stranded
    · have same := List.mem_singleton.mp next
      omega
  created := by
    intro number numberMem
    simp only [Cluster.registered]
    rcases List.mem_append.mp numberMem with listedMem | stranded
    · rcases List.mem_append.mp listedMem with before | next
      · have bounds := numbered.created number (List.mem_append_left _ before)
        omega
      · have same := List.mem_singleton.mp next
        omega
    · have bounds := numbered.created number (List.mem_append_right _ stranded)
      omega

theorem strand (numbered : cluster.IsNumbered listed kept) {shard : ReplicaGroup}
    (named : shard.name = .text (shardName (cluster.shardsCreated + 1))) :
    (cluster.stranded shard).IsNumbered listed (kept ++ [cluster.shardsCreated + 1]) where
  shards := numbered.shards
  unregistered := by
    simp only [Cluster.stranded, List.map_append, numbered.unregistered, List.map_cons, named,
      List.map_nil]
  listedUp := numbered.listedUp
  keptUp := pairwise_append_next numbered.keptUp fun number numberMem =>
    numbered.lt_next number (List.mem_append_right _ numberMem)
  apart := by
    intro number numberMem stranded
    have below := numbered.lt_next number (List.mem_append_left _ numberMem)
    rcases List.mem_append.mp stranded with before | next
    · exact numbered.apart number numberMem before
    · have same := List.mem_singleton.mp next
      omega
  created := by
    intro number numberMem
    simp only [Cluster.stranded]
    rcases List.mem_append.mp numberMem with before | stranded
    · have bounds := numbered.created number (List.mem_append_left _ before)
      omega
    · rcases List.mem_append.mp stranded with before | next
      · have bounds := numbered.created number (List.mem_append_right _ before)
        omega
      · have same := List.mem_singleton.mp next
        omega

theorem shorten (numbered : cluster.IsNumbered listed kept) :
    cluster.shortened.IsNumbered listed.dropLast kept where
  shards := by
    simp only [Cluster.shortened, List.map_dropLast, numbered.shards]
  unregistered := numbered.unregistered
  listedUp := numbered.listedUp.sublist (List.dropLast_sublist listed)
  keptUp := numbered.keptUp
  apart := by
    intro number numberMem
    exact numbered.apart number (List.dropLast_subset listed numberMem)
  created := by
    intro number numberMem
    apply numbered.created number
    rcases List.mem_append.mp numberMem with before | stranded
    · exact List.mem_append_left _ (List.dropLast_subset listed before)
    · exact List.mem_append_right _ stranded

end Cluster.IsNumbered

namespace Call

/-- A call that asks for, adds or removes no shard but those with numbers up to the limit. -/
def NumberedUpTo (limit : ℕ) : Call → Prop
  | .buildReplicaSet order =>
      order.name = configName ∨ ∃ number ≤ limit, order.name = shardName number
  | .command sent => sent.NumberedUpTo limit
  | _ => True

variable {limit greater : ℕ} {call : Call}

theorem NumberedUpTo.mono (upTo : call.NumberedUpTo limit) (le : limit ≤ greater) :
    call.NumberedUpTo greater := by
  cases call with
  | buildReplicaSet order =>
      refine upTo.imp_right ?_
      rintro ⟨number, numberLe, name⟩
      exact ⟨number, Nat.le_trans numberLe le, name⟩
  | command sent =>
      intro concerns
      rcases upTo concerns with ⟨number, numberLe, about⟩
      exact ⟨number, Nat.le_trans numberLe le, about⟩
  | _ => trivial

theorem Constructs.numberedUpTo (constructs : call.Constructs fun _ => False) :
    call.NumberedUpTo limit := by
  cases call <;> trivial

theorem OnChannel.numberedUpTo {issued : AdminCommand → Prop} (onChannel : call.OnChannel issued)
    (numbered : ∀ command, issued command → command.NumberedUpTo limit) :
    call.NumberedUpTo limit := by
  cases call <;> first | trivial | exact onChannel.elim | exact numbered _ onChannel

end Call

namespace AdminCommand

variable {command : AdminCommand} {limit number : ℕ}

theorem Registers.adds {name : String} (registers : command.Registers name)
    (named : command.name = .text "addShard") : command.Adds name := by
  rcases registers with rfl | ⟨members, rfl⟩
  · simp [listing] at named
  · exact adds_adding name members

theorem Registers.not_removes {name other : String} (registers : command.Registers name) :
    ¬command.Removes other := by
  rcases registers with rfl | ⟨members, rfl⟩
  · simp [Removes, listing]
  · exact (adds_adding name members).not_removes

theorem Registers.numberedUpTo (registers : command.Registers (shardName number))
    (le : number ≤ limit) : command.NumberedUpTo limit := by
  rcases registers with rfl | ⟨members, rfl⟩
  · rintro (add | remove)
    · simp [listing] at add
    · simp [listing] at remove
  · exact fun _ => ⟨number, le, Or.inl (adds_adding _ members)⟩

theorem Shards.numberedUpTo (shards : command.Shards) : command.NumberedUpTo limit := by
  rintro (add | remove)
  · rcases shards with enable | shard
    · simp [enable] at add
    · simp [shard] at add
  · rcases shards with enable | shard
    · simp [enable] at remove
    · simp [shard] at remove

end AdminCommand

theorem Cluster.IsNumbered.removing_numberedUpTo {cluster : Cluster} {listed kept : List ℕ}
    (numbered : cluster.IsNumbered listed kept) {shard : ReplicaGroup}
    (last : cluster.topology.shards.getLast? = some shard) :
    ∀ command, command = AdminCommand.removing shard.nameValue →
      command.NumberedUpTo cluster.shardsCreated := by
  rcases numbered.exists_youngest last with ⟨youngest, listed, name, _⟩
  rintro command rfl _
  refine ⟨youngest, (numbered.created youngest (List.mem_append_left _ listed)).2, Or.inr ⟨rfl, ?_⟩⟩
  rw [AdminCommand.removing, Component.nameValue, name]
  rfl

namespace Request

variable {running after : Running ω} {events : List Event}

/-- A cluster whose shards are numbered, and that has asked for no number beyond its count. -/
structure Bookkept (running : Running ω) : Prop where
  writable : running.cluster.shape.blueprint.namespacePrefix.checkWritable = .ok ()
  numbered : ∃ listed kept, running.cluster.IsNumbered listed kept
  calls : CalledOnly (Call.NumberedUpTo running.cluster.shardsCreated) running.session.history

/-- A request keeps the books if it counts up, keeps the numbers in order and calls for no number
beyond its count. -/
theorem Bookkept.step (bookkept : Bookkept running)
    (evolves : running.session.Evolves events after.session)
    (shape : after.cluster.shape = running.cluster.shape)
    (counted : running.cluster.shardsCreated ≤ after.cluster.shardsCreated)
    (calls : CalledOnly (Call.NumberedUpTo after.cluster.shardsCreated) events)
    (numbered : ∃ listed kept, after.cluster.IsNumbered listed kept) : Bookkept after where
  writable := shape ▸ bookkept.writable
  numbered := numbered
  calls := by
    rw [evolves.history]
    exact (bookkept.calls.mono fun call upTo => upTo.mono counted).append calls

theorem Bookkept.unasked (bookkept : Bookkept running) {order : ReplicaSetOrder}
    {answer : Except Failure Handle}
    (asked : .called (.buildReplicaSet order) answer ∈ running.session.history) :
    order.name ≠ shardName (running.cluster.shardsCreated + 1) := by
  intro next
  rcases bookkept.calls _ _ asked with servers | ⟨number, le, name⟩
  · exact shardName_ne_configName _ (next.symm.trans servers)
  · have same := shardName_injective (next.symm.trans name)
    omega

theorem Bookkept.uncommanded (bookkept : Bookkept running) {command : AdminCommand}
    {answer : Except Failure Value}
    (issued : .called (.command command) answer ∈ running.session.history) :
    ¬command.Adds (shardName (running.cluster.shardsCreated + 1)) ∧
      ¬command.Removes (shardName (running.cluster.shardsCreated + 1)) := by
  have upTo := bookkept.calls _ _ issued
  constructor
  · intro adds
    have le := upTo.number_le (Or.inl adds)
    omega
  · intro removes
    have le := upTo.number_le (Or.inr removes)
    omega

variable [Outside ω]

theorem bookkept_of_build {world : ω} (keeps : KeepsNames ω) {shape : ClusterShape}
    {source : ChannelSource} {patience : ℕ} {cluster : Cluster} {session : Session ω}
    (built : Cluster.build shape source patience (Session.fresh world) = .ok cluster session) :
    Bookkept ⟨cluster, session⟩ := by
  rcases Cluster.build_eq_ok built with ⟨events, isNew⟩
  refine ⟨isNew.shape ▸ isNew.writable,
    ⟨(List.range cluster.shardsCreated).map (· + 1), [], ?_⟩, ?_⟩
  · refine ⟨?_, ?_, ?_, .nil, by simp, ?_⟩
    · rw [isNew.shards keeps, List.map_map]
      rfl
    · rw [isNew.unregistered]
      rfl
    · apply List.pairwise_lt_range.map
      intro first second lt
      omega
    · intro number numberMem
      rw [List.append_nil] at numberMem
      rcases List.mem_map.mp numberMem with ⟨index, indexMem, rfl⟩
      have below := List.mem_range.mp indexMem
      exact ⟨by omega, below⟩
  · have history : session.history = events := isNew.evolves.history
    rw [history]
    refine isNew.calls.mono ?_
    intro call constructs
    cases call with
    | buildReplicaSet order =>
        refine constructs.imp_right ?_
        rintro ⟨index, below, name⟩
        exact ⟨index + 1, below, name⟩
    | buildProcess name => trivial
    | setCommand process arguments => trivial
    | _ => exact constructs.elim

theorem Bookkept.run (keeps : KeepsNames ω) (bookkept : Bookkept running) (request : Request) :
    Bookkept (Request.run running request) := by
  rcases yields bookkept.writable request with ⟨events, evolves, yielded⟩
  rcases bookkept.numbered with ⟨listed, kept, numbered⟩
  generalize Request.run running request = after at evolves yielded
  cases yielded with
  | started calls stateEq =>
      refine bookkept.step evolves rfl (Nat.le_refl _) (calls.mono ?_)
        ⟨listed, kept, numbered.of_same rfl rfl (Nat.le_refl _)⟩
      rintro call (⟨component, _, rfl⟩ | onChannel)
      · trivial
      · refine onChannel.numberedUpTo ?_
        rintro command ⟨shard, shardMem, registers⟩
        rcases Cluster.IsNumbered.exists_number numbered.shards shardMem with
          ⟨number, numberMem, name⟩
        rw [name] at registers
        exact registers.numberedUpTo
          (numbered.created number (List.mem_append_left _ numberMem)).2
  | stopped calls stateEq =>
      refine bookkept.step evolves rfl (Nat.le_refl _) (calls.mono ?_)
        ⟨listed, kept, numbered.of_same rfl rfl (Nat.le_refl _)⟩
      rintro call (⟨component, _, rfl⟩ | rfl)
      · trivial
      · trivial
  | unadded asks calls unstarted =>
      rcases asks with ⟨order, answer, name, rfl⟩
      refine bookkept.step evolves rfl (Nat.le_succ _)
        (.cons (.single (Or.inr ⟨_, Nat.le_refl _, name⟩)) (calls.mono ?_))
        ⟨listed, kept, numbered.of_same rfl rfl (Nat.le_succ _)⟩
      rintro call (constructs | ⟨component, rfl⟩)
      · exact constructs.numberedUpTo
      · trivial
  | added asks calls once named made joined =>
      rename_i rest shard cluster session
      rcases asks with ⟨order, answer, name, rfl⟩
      have numberedCalls : CalledOnly (Call.NumberedUpTo (running.cluster.shardsCreated + 1))
          (.called (.buildReplicaSet order) answer :: rest) := by
        refine .cons (.single (Or.inr ⟨_, Nat.le_refl _, name⟩)) (calls.mono ?_)
        rintro call (constructs | rfl | onChannel)
        · exact constructs.numberedUpTo
        · trivial
        · refine onChannel.numberedUpTo fun command registers => ?_
          rw [named keeps] at registers
          exact registers.numberedUpTo (Nat.le_refl _)
      rcases joined with rfl | rfl
      · exact bookkept.step evolves rfl (Nat.le_succ _) numberedCalls
          ⟨_, _, numbered.register (named keeps)⟩
      · exact bookkept.step evolves rfl (Nat.le_succ _) numberedCalls
          ⟨_, _, numbered.strand (named keeps)⟩
  | shardless empty => exact bookkept
  | undrained last calls =>
      refine bookkept.step evolves rfl (Nat.le_refl _) (calls.mono ?_) ⟨listed, kept, numbered⟩
      exact fun call onChannel => onChannel.numberedUpTo (numbered.removing_numberedUpTo last)
  | removed last calls down =>
      refine bookkept.step evolves rfl (Nat.le_refl _) (calls.mono ?_)
        ⟨listed.dropLast, kept, numbered.shorten⟩
      rintro call (onChannel | rfl)
      · exact onChannel.numberedUpTo (numbered.removing_numberedUpTo last)
      · trivial
  | enabled calls =>
      refine bookkept.step evolves rfl (Nat.le_refl _) (calls.mono ?_)
        ⟨listed, kept, numbered.of_same rfl rfl (Nat.le_refl _)⟩
      exact fun call onChannel => onChannel.numberedUpTo fun command shards => shards.numberedUpTo
  | sharded calls =>
      refine bookkept.step evolves rfl (Nat.le_refl _) (calls.mono ?_)
        ⟨listed, kept, numbered.of_same rfl rfl (Nat.le_refl _)⟩
      exact fun call onChannel => onChannel.numberedUpTo fun command shards => shards.numberedUpTo

theorem Bookkept.runAll (keeps : KeepsNames ω) (bookkept : Bookkept running)
    (requests : List Request) : Bookkept (Request.runAll requests running) := by
  induction requests generalizing running with
  | nil => exact bookkept
  | cons request rest ih => exact ih (bookkept.run keeps request)

/-- What may be called for a shard of the name given once its replica set has been asked for. -/
def Completes (name : String) (call : Call) : Prop :=
  call.Constructs (fun _ => False) ∨ (∃ component, call = .start component) ∨
    call.OnChannel (AdminCommand.Registers name)

namespace Completes

variable {name other : String} {command : AdminCommand}

theorem not_asks {order : ReplicaSetOrder} : ¬Completes name (.buildReplicaSet order) := by
  rintro (constructs | ⟨component, same⟩ | onChannel)
  · exact constructs
  · cases same
  · exact onChannel

theorem registers (completes : Completes name (.command command)) : command.Registers name := by
  rcases completes with constructs | ⟨component, same⟩ | onChannel
  · exact constructs.elim
  · cases same
  · exact onChannel

end Completes

/-- The next shard is asked for first. Then no other is, and one command adds it at the most. -/
theorem Yields.addShard (keeps : KeepsNames ω) (yielded : Yields running .addShard events after) :
    after.cluster.shardsCreated = running.cluster.shardsCreated + 1 ∧
    ∃ rest, BeginsWith (shardName (running.cluster.shardsCreated + 1)) events rest ∧
      CalledOnly (Completes (shardName (running.cluster.shardsCreated + 1))) rest ∧
      rest.countP (Event.isCallTo Call.isAdding) ≤ 1 := by
  cases yielded with
  | unadded asks calls unstarted =>
      refine ⟨rfl, _, asks, calls.mono fun call => Or.imp_right Or.inl, ?_⟩
      rw [calls.countP_eq_zero ?_]
      · exact Nat.zero_le 1
      · rintro call (constructs | ⟨component, rfl⟩)
        · exact not_isAdding_of_constructs constructs
        · rfl
  | added asks calls once named made joined =>
      rename_i shard _ _
      refine ⟨by rcases joined with rfl | rfl <;> rfl, _, asks, calls.mono ?_, once⟩
      rintro call (constructs | rfl | onChannel)
      · exact Or.inl constructs
      · exact Or.inr (Or.inl ⟨_, rfl⟩)
      · rw [named keeps] at onChannel
        exact Or.inr (Or.inr onChannel)

/-- Adding a shard to the cluster uses the next number, and it is the first use of it. -/
structure AddsNext (running : Running ω) : Prop where
  counts : (Request.run running .addShard).cluster.shardsCreated = running.cluster.shardsCreated + 1
  asks : ∃ events rest, running.session.Evolves events (Request.run running .addShard).session ∧
    BeginsWith (shardName (running.cluster.shardsCreated + 1)) events rest ∧
    CalledOnly (fun call => ∀ order, call ≠ .buildReplicaSet order) rest
  unasked : ∀ order answer, .called (.buildReplicaSet order) answer ∈ running.session.history →
    order.name ≠ shardName (running.cluster.shardsCreated + 1)
  /-- A command that adds a shard adds this one, which no command before it has been about. -/
  issues : ∀ earlier command answer later,
    (Request.run running .addShard).session.history =
      running.session.history ++ earlier ++ .called (.command command) answer :: later →
    command.name = .text "addShard" →
    command.Adds (shardName (running.cluster.shardsCreated + 1)) ∧
    ∀ other reply, .called (.command other) reply ∈ running.session.history ++ earlier →
      ¬other.Adds (shardName (running.cluster.shardsCreated + 1)) ∧
      ¬other.Removes (shardName (running.cluster.shardsCreated + 1))

/-- Removing a shard from the cluster is about the one with the greatest number, if there is one,
and drops no other. -/
structure RemovesYoungest (running : Running ω) (listed : List ℕ) : Prop where
  empty : listed = [] → Request.run running .removeShard = running
  youngest : ∀ youngest ∈ listed, (∀ number ∈ listed, number ≤ youngest) →
    ∃ shard events,
      running.cluster.topology.shards.getLast? = some shard ∧
      shard.name = .text (shardName youngest) ∧
      running.session.Evolves events (Request.run running .removeShard).session ∧
      CalledOnly (TakesDown shard) events ∧
      ((Request.run running .removeShard).cluster.topology.shards =
          running.cluster.topology.shards ∨
        (Request.run running .removeShard).cluster.topology.shards =
          running.cluster.topology.shards.dropLast)

/-- The books of a cluster are right, and the next addition or removal goes by them. -/
structure KeepsBooks (running : Running ω) : Prop where
  shards : running.cluster.topology.shards.Nodup
  unregistered : running.cluster.unregistered.Nodup
  apart : ∀ shard ∈ running.cluster.topology.shards, shard ∉ running.cluster.unregistered
  numbered : ∃ listed kept,
    running.cluster.IsNumbered listed kept ∧ RemovesYoungest running listed
  adds : AddsNext running

theorem isAdding_of_named {command : AdminCommand} (named : command.name = .text "addShard")
    (answer : Except Failure Value) :
    Event.isCallTo Call.isAdding (.called (.command command) answer) = true := by
  simp [Event.isCallTo, Call.isAdding, named, Value.isText]

theorem not_counted_of_once {counted : Event → Bool} {earlier later : List Event} {event : Event}
    (once : (earlier ++ event :: later).countP counted ≤ 1) (here : counted event = true)
    {other : Event} (before : other ∈ earlier) : ¬counted other = true := by
  intro too
  have one := List.countP_pos_iff.mpr ⟨other, before, too⟩
  rw [List.countP_append, List.countP_cons_of_pos here] at once
  omega

theorem Bookkept.addsNext (keeps : KeepsNames ω) (bookkept : Bookkept running) :
    AddsNext running := by
  rcases yields bookkept.writable .addShard with ⟨events, evolves, yielded⟩
  rcases yielded.addShard keeps with ⟨counts, rest, begins, calls, once⟩
  refine ⟨counts, ⟨events, rest, evolves, begins, ?_⟩, fun _ _ => bookkept.unasked, ?_⟩
  · intro call answer member order same
    exact Completes.not_asks (same ▸ calls call answer member)
  · rcases begins with ⟨order, asked, _, rfl⟩
    intro earlier command answer later history named
    rw [evolves.history, List.append_assoc, List.append_cancel_left_eq] at history
    -- The order for the shard comes before any command.
    cases earlier with
    | nil => cases List.head_eq_of_cons_eq history
    | cons first earlier =>
        rw [List.cons_append, List.cons.injEq] at history
        rcases history with ⟨rfl, rfl⟩
        have registers := (calls (.command command) answer (by simp)).registers
        refine ⟨registers.adds named, ?_⟩
        intro other reply issued
        rcases List.mem_append.mp issued with before | now
        · exact bookkept.uncommanded before
        · rcases List.mem_cons.mp now with ask | between
          · cases ask
          · have alike := (calls (.command other) reply (List.mem_append_left _ between)).registers
            exact ⟨fun adds => not_counted_of_once once (isAdding_of_named named answer) between
              (isAdding_of_named adds.1 reply), alike.not_removes⟩

theorem Bookkept.removesYoungest (bookkept : Bookkept running) {listed kept : List ℕ}
    (numbered : running.cluster.IsNumbered listed kept) : RemovesYoungest running listed := by
  rcases yields bookkept.writable .removeShard with ⟨events, evolves, yielded⟩
  generalize ran : Request.run running .removeShard = after at evolves yielded
  have named {shard : ReplicaGroup} {youngest : ℕ} (youngestMem : youngest ∈ listed)
      (greatest : ∀ number ∈ listed, number ≤ youngest)
      (last : running.cluster.topology.shards.getLast? = some shard) :
      shard.name = .text (shardName youngest) := by
    rcases numbered.exists_youngest last with ⟨other, otherMem, name, above⟩
    rw [Nat.le_antisymm (above youngest youngestMem) (greatest other otherMem)]
    exact name
  cases yielded with
  | shardless empty =>
      have unlisted : listed = [] := by
        have names := numbered.shards
        rw [empty, List.map_nil, eq_comm, List.map_eq_nil_iff] at names
        exact names
      refine ⟨fun _ => ran, fun youngest youngestMem => ?_⟩
      rw [unlisted] at youngestMem
      cases youngestMem
  | undrained last calls =>
      refine ⟨?_, fun youngest youngestMem greatest => ?_⟩
      · rintro rfl
        rcases numbered.exists_youngest last with ⟨_, impossible, _⟩
        cases impossible
      · rw [ran]
        exact ⟨_, _, last, named youngestMem greatest last, evolves,
          calls.mono fun call => Or.inl, Or.inl rfl⟩
  | removed last calls down =>
      refine ⟨?_, fun youngest youngestMem greatest => ?_⟩
      · rintro rfl
        rcases numbered.exists_youngest last with ⟨_, impossible, _⟩
        cases impossible
      · rw [ran]
        exact ⟨_, _, last, named youngestMem greatest last, evolves, calls, Or.inr rfl⟩

/-- The books are right whatever the cluster has been asked for and whatever has failed: no shard
is listed twice, each list goes up in the numbers of its shards, and the next number is new. -/
theorem runAll_keepsBooks (keeps : KeepsNames ω) {world : ω} {shape : ClusterShape}
    {source : ChannelSource} {patience : ℕ} {cluster : Cluster} {session : Session ω}
    (built : Cluster.build shape source patience (Session.fresh world) = .ok cluster session)
    (requests : List Request) :
    KeepsBooks (Request.runAll requests ⟨cluster, session⟩) := by
  have bookkept := (bookkept_of_build keeps built).runAll keeps requests
  rcases bookkept.numbered with ⟨listed, kept, numbered⟩
  exact {
    shards := Cluster.IsNumbered.nodup_of_names numbered.shards numbered.listedUp
    unregistered := Cluster.IsNumbered.nodup_of_names numbered.unregistered numbered.keptUp
    apart := numbered.disjoint
    numbered := ⟨listed, kept, numbered, bookkept.removesYoungest numbered⟩
    adds := bookkept.addsNext keeps }

/-- In a simulated world, a cluster that was started and has had a shard added and removed. -/
theorem runAll_keepsBooks_simulated :
    ∃ (cluster : Cluster) (session : Session Simulation.PlainWorld),
      Cluster.build {} .supplied Simulation.patience (Session.fresh ⟨{}, rfl⟩) =
        .ok cluster session ∧
      KeepsBooks (Request.runAll [.start, .addShard, .removeShard] ⟨cluster, session⟩) := by
  have succeeds : (match Cluster.build {} .supplied Simulation.patience
      (Session.fresh (⟨{}, rfl⟩ : Simulation.PlainWorld)) with
    | .ok _ _ => true
    | .error _ _ => false) = true := by
    decide +kernel
  cases built : Cluster.build {} .supplied Simulation.patience
      (Session.fresh (⟨{}, rfl⟩ : Simulation.PlainWorld)) with
  | error failure session =>
      rw [built] at succeeds
      cases succeeds
  | ok cluster session =>
      exact ⟨cluster, session, rfl, runAll_keepsBooks Simulation.PlainWorld.keepsNames built
        [.start, .addShard, .removeShard]⟩

end Request

end ShardFleet
