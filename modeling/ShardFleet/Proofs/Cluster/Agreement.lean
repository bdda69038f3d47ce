import Mathlib.Algebra.Group.Nat.Defs
import ShardFleet.Proofs.Cluster.Lifecycle
import ShardFleet.Proofs.Cluster.Sparing
import ShardFleet.Proofs.Simulation.Hosting

/-!
# A started cluster agrees with its admin namespace

What is in the topology of a started cluster is active in the namespace, and what such a cluster has
removed is not listed there any more. No command is about a shard but those of its own registration
and removal, so this is a matter of the request that a shard is registered or removed by. A removal
can fail after the namespace has dropped the shard, if the time that it took is no number of
milliseconds: then the shard is still in the topology.
-/

namespace ShardFleet

open ShardFleet.Action Simulation Blueprint

variable {ω : Type}

namespace Request

variable [Outside ω] {admin : ω → AdminNamespace} {start running : Running ω}
  {requests more : List Request} {request : Request} {shard : ReplicaGroup}

/-- A removal from the started cluster has returned the shard. -/
def Removed (start : Running ω) (requests : List Request) (shard : ReplicaGroup) : Prop :=
  ∃ earlier after, earlier ++ [.removeShard] <+: requests ∧
    (runAll earlier start).cluster.state = .started ∧
    Operation.removeShard (runAll earlier start) = .ok shard after

/-- The shard has left the namespace with a removal that failed, since nobody could tell how long it
took. -/
def Overlooked (admin : ω → AdminNamespace) (start : Running ω) (requests : List Request)
    (shard : ReplicaGroup) : Prop :=
  ∃ earlier failure after, earlier ++ [.removeShard] <+: requests ∧
    (runAll earlier start).cluster.topology.shards.getLast? = some shard ∧
    Operation.removeShard (runAll earlier start) = .error failure after ∧ failure.IsUntimed ∧
    (admin after.session.outside).Gone shard.name.toText

/-- What the topology lists is active in the namespace but for shards that were overlooked, and what
was removed is not listed in the namespace. -/
structure Agrees (admin : ω → AdminNamespace) (start : Running ω) (requests : List Request)
    (after : Running ω) : Prop where
  listed : ∀ shard ∈ after.cluster.topology.shards,
    (admin after.session.outside).Active shard.name.toText ∨ Overlooked admin start requests shard
  removed : ∀ shard, Removed start requests shard →
    shard.name.toText ∉ (admin after.session.outside).shards.map (·.1)

theorem not_removed_nil (start : Running ω) (shard : ReplicaGroup) : ¬Removed start [] shard := by
  rintro ⟨earlier, after, isPrefix, _⟩
  simp at isPrefix

theorem removed_append : Removed start (requests ++ [request]) shard ↔
    Removed start requests shard ∨ request = .removeShard ∧
      (runAll requests start).cluster.state = .started ∧
      ∃ after, Operation.removeShard (runAll requests start) = .ok shard after := by
  constructor
  · rintro ⟨earlier, after, isPrefix, up, returned⟩
    rcases List.prefix_concat_iff.mp isPrefix with all | before
    · rcases List.append_inj' all rfl with ⟨rfl, same⟩
      cases same
      exact Or.inr ⟨rfl, up, after, returned⟩
    · exact Or.inl ⟨earlier, after, before, up, returned⟩
  · rintro (⟨earlier, after, isPrefix, up, returned⟩ | ⟨rfl, up, after, returned⟩)
    · exact ⟨earlier, after, isPrefix.trans (List.prefix_append _ _), up, returned⟩
    · exact ⟨requests, after, List.prefix_rfl, up, returned⟩

theorem Overlooked.append (overlooked : Overlooked admin start requests shard) :
    Overlooked admin start (requests ++ more) shard := by
  rcases overlooked with ⟨earlier, failure, after, isPrefix, others⟩
  exact ⟨earlier, failure, after, isPrefix.trans (List.prefix_append _ _), others⟩

/-- What is known of a shard in the topology of a started cluster. -/
def Stands (admin : ω → AdminNamespace) (start : Running ω) (requests : List Request)
    (after : Running ω) (shard : ReplicaGroup) : Prop :=
  (admin after.session.outside).Holds shard.name.toText ∨
    (admin after.session.outside).Lacks shard.name.toText ∧ Overlooked admin start requests shard

/-- What is known of a shard that a started cluster has removed. -/
structure Left (admin : ω → AdminNamespace) (after : Running ω) (shard : ReplicaGroup) : Prop where
  numbered : ∃ number ≤ after.cluster.shardsCreated, shard.name = .text (shardName number)
  lacks : (admin after.session.outside).Lacks shard.name.toText

/-- What holds of a cluster that has not been started. -/
structure Idle (admin : ω → AdminNamespace) (start : Running ω) (requests : List Request)
    (after : Running ω) : Prop where
  state : after.cluster.state = .notStarted
  settled : (admin after.session.outside).Settled
  unremoved : ∀ shard, ¬Removed start requests shard

/-- What holds of a cluster while it is started. -/
structure Up (admin : ω → AdminNamespace) (start : Running ω) (requests : List Request)
    (after : Running ω) : Prop where
  state : after.cluster.state = .started
  settled : (admin after.session.outside).Settled
  stands : ∀ shard ∈ after.cluster.topology.shards, Stands admin start requests after shard
  left : ∀ shard, Removed start requests shard → Left admin after shard

/-- The cluster is in step with the namespace in whichever state it is. -/
inductive InStep (admin : ω → AdminNamespace) (start : Running ω) (requests : List Request)
    (after : Running ω) : Prop where
  | idle (idle : Idle admin start requests after)
  | up (up : Up admin start requests after)
  | down (down : after.cluster.state = .stopped)

/-- All shards are registered one after another, and none of them is lost on the way. -/
theorem holds_of_registerAll (hosts : Hosts admin) (cluster : Cluster) {shards : List ReplicaGroup}
    {numbers : List ℕ} {session after : Session ω}
    (named : shards.map (·.name) = numbers.map fun number => .text (shardName number))
    (apart : numbers.Nodup) (settled : (admin session.outside).Settled)
    (registers : cluster.registerAll shards session = .ok () after) :
    ∀ shard ∈ shards, (admin after.outside).Holds shard.name.toText := by
  induction shards generalizing numbers session with
  | nil => simp
  | cons shard rest ih =>
      rw [List.map_cons, eq_comm, List.map_eq_cons_iff] at named
      rcases named with ⟨number, others, rfl, name, othersNamed⟩
      rw [List.nodup_cons] at apart
      unfold Cluster.registerAll at registers
      rcases bind_eq_ok.mp registers with ⟨_, middle, first, second⟩
      have holds := hosts.holds_of_register cluster name.symm settled first
      -- The others have other numbers, so registering them spares this one.
      have spares : ∀ call : Call, call.OnChannel (fun command =>
          ∃ other ∈ rest, AdminCommand.Registers other.name.toText command) →
            call.Issues (AdminNamespace.Spares (shardName number)) := by
        intro call onChannel
        apply Call.OnChannel.issues
        apply onChannel.mono
        rintro command ⟨other, otherMem, registers⟩
        rcases Cluster.IsNumbered.exists_number othersNamed.symm otherMem with
          ⟨another, anotherMem, otherName⟩
        rw [otherName] at registers
        apply AdminCommand.Registers.spares registers
        rintro rfl
        exact apart.1 anotherMem
      have keeps : Keeps (fun session => (admin session.outside).Holds (shardName number))
          (cluster.registerAll rest : Action ω Unit) :=
        ((cluster.registerAll_callsOnly rest).mono spares).keeps (hosts.holds_survives _)
      intro other otherMem
      rcases List.mem_cons.mp otherMem with rfl | later
      · rw [← name]
        exact keeps.ok holds second
      · exact ih othersNamed.symm apart.2 holds.settled second other later

theorem removed_of_ne (removed : Removed start (requests ++ [request]) shard)
    (other : request ≠ .removeShard) : Removed start requests shard := by
  rcases removed_append.mp removed with before | ⟨same, _⟩
  · exact before
  · exact absurd same other

theorem enableSharding_cluster {database : Value} (running : Running ω) :
    (run running (.enableSharding database)).cluster = running.cluster := by
  rcases commanded_yields (Admin.enableSharding_callsOnly _ database fun _ => id)
    (Operation.enableSharding_course running database) rfl with ⟨events, session, same, _⟩
  rw [run, same]

theorem shardCollection_cluster {database collection keyField : Value} (running : Running ω) :
    (run running (.shardCollection database collection keyField)).cluster = running.cluster := by
  rcases commanded_yields (Admin.shardCollection_callsOnly _ database collection keyField fun _ => id)
    (Operation.shardCollection_course running database collection keyField) rfl with
    ⟨events, session, same, _⟩
  rw [run, same]

section step

variable (hosts : Hosts admin) (names : KeepsNames ω)

include hosts names

theorem settled_run (settled : (admin running.session.outside).Settled) (request : Request) :
    (admin (run running request).session.outside).Settled :=
  run_keeps names request (hosts.settled_survives.mono fun _ _ => trivial) settled

theorem lacks_run {name : String} (lacks : (admin running.session.outside).Lacks name)
    (omits : ∀ call, MayCall running.cluster request call →
      call.Issues (AdminNamespace.Omits name)) :
    (admin (run running request).session.outside).Lacks name :=
  run_keeps names request ((hosts.lacks_survives name).mono omits) lacks

theorem Stands.run (stands : Stands admin start requests (runAll requests start) shard)
    (spares : ∀ call, MayCall (runAll requests start).cluster request call →
      call.Issues (AdminNamespace.Spares shard.name.toText)) :
    Stands admin start (requests ++ [request]) (run (runAll requests start) request) shard := by
  rcases stands with holds | ⟨lacks, overlooked⟩
  · exact Or.inl (run_keeps names request ((hosts.holds_survives _).mono spares) holds)
  · have omits := fun call may => (spares call may).mono fun _ both => both.omits
    exact Or.inr ⟨lacks_run hosts names lacks omits, overlooked.append⟩

theorem Left.run (left : Left admin running shard) (bookkept : Bookkept running)
    (omits : ∀ call, MayCall running.cluster request call →
      call.Issues (AdminNamespace.Omits shard.name.toText)) :
    Left admin (run running request) shard where
  numbered := by
    rcases left.numbered with ⟨number, created, name⟩
    rcases yields bookkept.writable request with ⟨events, _, yielded⟩
    exact ⟨number, Nat.le_trans created yielded.created_le, name⟩
  lacks := lacks_run hosts names left.lacks omits

/-- A start that succeeds registers every shard; one that fails leaves the cluster unstarted. -/
theorem Idle.starts (idle : Idle admin start requests (runAll requests start))
    (bookkept : Bookkept (runAll requests start)) :
    InStep admin start (requests ++ [.start]) (run (runAll requests start) .start) := by
  have unremoved : ∀ shard, ¬Removed start (requests ++ [.start]) shard :=
    fun shard removed => idle.unremoved shard (removed_of_ne removed nofun)
  have settled := settled_run hosts names idle.settled .start
  have course := Operation.start_course (runAll requests start)
  rw [Request.run, finalState] at settled ⊢
  generalize Operation.start (runAll requests start) = result at course settled
  cases course with
  | already up =>
      rw [idle.state] at up
      cases up
  | refused down =>
      rw [idle.state] at down
      cases down
  | unstarted _ starts => exact .idle ⟨idle.state, settled, unremoved⟩
  | unregistered _ starts registers => exact .idle ⟨idle.state, settled, unremoved⟩
  | started _ starts registers =>
      rcases bookkept.numbered with ⟨listed, kept, numbered⟩
      have brings := hosts.keeps_settled
        ((runAll requests start).cluster.order.startAll_callsOnly
          (runAll requests start).cluster.topology.components)
      have settledUp := brings.ok (logged_of_survives hosts.settled_survives idle.settled) starts
      have holds := holds_of_registerAll hosts _ numbered.shards
        (numbered.listedUp.imp Nat.ne_of_lt) settledUp registers
      exact .up ⟨rfl, settled, fun shard shardMem => Or.inl (holds shard shardMem),
        fun shard removed => absurd removed (unremoved shard)⟩

theorem Idle.run (idle : Idle admin start requests (runAll requests start))
    (same : (Request.run (runAll requests start) request).cluster.state = .notStarted) :
    Idle admin start (requests ++ [request]) (Request.run (runAll requests start) request) where
  state := same
  settled := settled_run hosts names idle.settled request
  unremoved := by
    intro shard removed
    rcases removed_append.mp removed with before | ⟨_, up, _⟩
    · exact idle.unremoved shard before
    · rw [idle.state] at up
      cases up

/-- Nothing is lost by a request that is about no shard that there has been, and that adds no shard but
active ones. -/
theorem Up.run (up : Up admin start requests (runAll requests start))
    (bookkept : Bookkept (runAll requests start)) (other : request ≠ .removeShard)
    (same : (Request.run (runAll requests start) request).cluster.state = .started)
    (spares : ∀ number ≤ (runAll requests start).cluster.shardsCreated, ∀ call,
      MayCall (runAll requests start).cluster request call →
        call.Issues (AdminNamespace.Spares (shardName number)))
    (joins : ∀ shard ∈ (Request.run (runAll requests start) request).cluster.topology.shards,
      shard ∈ (runAll requests start).cluster.topology.shards ∨
      (admin (Request.run (runAll requests start) request).session.outside).Holds
        shard.name.toText) :
    Up admin start (requests ++ [request]) (Request.run (runAll requests start) request) where
  state := same
  settled := settled_run hosts names up.settled request
  stands := by
    intro shard shardMem
    rcases joins shard shardMem with before | holds
    · rcases bookkept.numbered with ⟨listed, kept, numbered⟩
      rcases Cluster.IsNumbered.exists_number numbered.shards before with ⟨number, numberMem, name⟩
      have created := (numbered.created number (List.mem_append_left _ numberMem)).2
      apply (up.stands shard before).run hosts names
      rw [name]
      exact spares number created
    · exact Or.inl holds
  left := by
    intro shard removed
    have left := up.left shard (removed_of_ne removed other)
    rcases left.numbered with ⟨number, created, name⟩
    apply left.run hosts names bookkept
    intro call may
    rw [name]
    exact (spares number created call may).mono fun _ both => both.omits

/-- An addition brings a shard into the topology only when it is active. -/
theorem addShard_joins (settled : (admin running.session.outside).Settled) :
    ∀ shard ∈ (Request.run running .addShard).cluster.topology.shards,
      shard ∈ running.cluster.topology.shards ∨
      (admin (Request.run running .addShard).session.outside).Holds shard.name.toText := by
  have course := Operation.addShard_course running
  rw [Request.run, finalState]
  generalize Operation.addShard running = result at course
  cases course with
  | joined builds starts registers =>
      rename_i shard built up session called
      have building : CallsOnly (Call.Constructs fun _ => True)
          (running.cluster.shape.blueprint.buildShard (running.cluster.shardsCreated + 1) :
            Action ω ReplicaGroup) := Blueprint.buildShard_callsOnly _ trivial
      have starting : CallsOnly (fun _ => True) (shard.toComponent.start : Action ω Bool) :=
        Transition.start.run_callsOnly _ trivial
      have settledBuilt := (hosts.keeps_settled building).ok settled builds
      have settledUp := (hosts.keeps_settled starting).ok settledBuilt starts
      have name := (Blueprint.buildShard_eq_ok builds).2 names
      have holds := hosts.holds_of_register _ name settledUp registers
      intro other otherMem
      rcases List.mem_append.mp otherMem with before | new
      · exact Or.inl before
      · rw [List.mem_singleton.mp new, name]
        exact Or.inr holds
  | _ => exact fun shard => Or.inl

theorem Up.addShard (up : Up admin start requests (runAll requests start))
    (bookkept : Bookkept (runAll requests start)) :
    Up admin start (requests ++ [.addShard]) (Request.run (runAll requests start) .addShard) := by
  rcases yields bookkept.writable .addShard with ⟨events, _, yielded⟩
  rcases yielded.state with same | ⟨other, _⟩ | ⟨other, _⟩
  · refine up.run hosts names bookkept ?_ (same.trans up.state) ?_ ?_
    · exact nofun
    · exact fun number created call may => may.spares_of_addShard created
    · exact addShard_joins hosts names up.settled
  · cases other
  · cases other

/-- A sharding command is about no shard and leaves the cluster as it is. -/
theorem Up.commanded (up : Up admin start requests (runAll requests start))
    (bookkept : Bookkept (runAll requests start)) (other : request ≠ .removeShard)
    (same : (Request.run (runAll requests start) request).cluster = (runAll requests start).cluster)
    (calls : ∀ call, MayCall (runAll requests start).cluster request call →
      call.OnChannel AdminCommand.Shards) :
    Up admin start (requests ++ [request]) (Request.run (runAll requests start) request) := by
  apply up.run hosts names bookkept other
  · rw [same]
    exact up.state
  · exact fun number _ call may => MayCall.spares_of_shards (calls call may)
  · rw [same]
    exact fun shard => Or.inl

theorem Up.left_of_removeShard (up : Up admin start requests (runAll requests start))
    (bookkept : Bookkept (runAll requests start))
    (returned : ∀ shard after, Operation.removeShard (runAll requests start) = .ok shard after →
      Left admin after shard) :
    ∀ shard, Removed start (requests ++ [.removeShard]) shard →
      Left admin (Request.run (runAll requests start) .removeShard) shard := by
  intro shard removed
  rcases removed_append.mp removed with before | ⟨_, _, after, now⟩
  · exact (up.left shard before).run hosts names bookkept fun call may => may.omits_of_removeShard
  · rw [Request.run, finalState_of_ok now]
    exact returned shard after now

theorem Up.stands_of_older (up : Up admin start requests (runAll requests start))
    (bookkept : Bookkept (runAll requests start))
    (last : (runAll requests start).cluster.topology.shards.getLast? = some shard) :
    ∀ older ∈ (runAll requests start).cluster.topology.shards.dropLast,
      Stands admin start (requests ++ [.removeShard])
        (Request.run (runAll requests start) .removeShard) older := by
  intro older olderMem
  -- The removal is about the last shard, and all others have smaller numbers.
  rcases bookkept.numbered with ⟨listed, kept, numbered⟩
  rcases numbered.lt_youngest last with ⟨youngest, _, lastName, below⟩
  rcases below older olderMem with ⟨number, lt, name⟩
  apply (up.stands older (List.dropLast_subset _ olderMem)).run hosts names
  rw [name]
  exact fun call may => may.spares_of_removeShard last lastName lt

omit names in
/-- A removal that fails leaves the last shard in the topology, active unless it was overlooked, or
takes it out. -/
theorem removeShard_failed {failure : Failure} {after : Running ω}
    (failed : Operation.removeShard running = .error failure after) :
    (after.cluster = running.cluster ∧
      ∀ shard name, running.cluster.topology.shards.getLast? = some shard →
        shard.name = .text name → (admin running.session.outside).Holds name →
        (admin after.session.outside).Holds name ∨
          (admin after.session.outside).Lacks name ∧ failure.IsUntimed) ∨
      ∃ shard, running.cluster.topology.shards.getLast? = some shard ∧
        after.cluster = running.cluster.shortened := by
  have course := Operation.removeShard_course running
  rw [failed] at course
  cases course with
  | shardless empty =>
      refine Or.inl ⟨rfl, ?_⟩
      intro shard name last
      rw [empty] at last
      cases last
  | undrained last drains =>
      rename_i shard entry session
      refine Or.inl ⟨rfl, ?_⟩
      intro other name same named holds
      rw [last] at same
      cases same
      have announced : (admin (running.session.record (.logged entry)).outside).Holds name := holds
      exact hosts.holds_of_drain_error _ named announced drains
  | unstopped last drains stops => exact Or.inr ⟨_, last, rfl⟩

omit names in
/-- A removal that returns takes the last shard out of the topology, and if it was active, it is gone. -/
theorem removeShard_returned {after : Running ω}
    (returned : Operation.removeShard running = .ok shard after) :
    running.cluster.topology.shards.getLast? = some shard ∧
      after.cluster = running.cluster.shortened ∧
      ∀ name, shard.name = .text name → (admin running.session.outside).Holds name →
        (admin after.session.outside).Lacks name := by
  have course := Operation.removeShard_course running
  rw [returned] at course
  cases course with
  | removed last drains stops =>
      rename_i entry final drained session called
      refine ⟨last, rfl, ?_⟩
      intro name named holds
      have announced : (admin (running.session.record (.logged entry)).outside).Holds name := holds
      have stopping : CallsOnly (Call.Issues (AdminNamespace.Omits name))
          (shard.toComponent.stop : Action ω Bool) := Transition.stop.run_callsOnly _ trivial
      have gone := hosts.lacks_of_drain _ named announced drains
      have down := (stopping.keeps (hosts.lacks_survives name)).ok gone stops
      exact logged_of_survives (hosts.lacks_survives name) down

theorem Up.stands_of_failed (up : Up admin start requests (runAll requests start))
    {failure : Failure} {after : Running ω}
    (failed : Operation.removeShard (runAll requests start) = .error failure after)
    {number : ℕ} (named : shard.name = .text (shardName number))
    (last : (runAll requests start).cluster.topology.shards.getLast? = some shard)
    (active : (admin (runAll requests start).session.outside).Holds (shardName number) →
      (admin after.session.outside).Holds (shardName number) ∨
        (admin after.session.outside).Lacks (shardName number) ∧ failure.IsUntimed) :
    Stands admin start (requests ++ [.removeShard]) after shard := by
  have stands := up.stands shard (List.mem_of_getLast? last)
  have text : shard.name.toText = shardName number := by
    rw [named]
    rfl
  unfold Stands
  rw [Stands, text] at stands
  rw [text]
  rcases stands with holds | ⟨lacks, overlooked⟩
  · -- If the shard has left all the same, this removal has overlooked it.
    refine (active holds).imp_right ?_
    rintro ⟨lacks, untimed⟩
    exact ⟨lacks, requests, failure, after, List.prefix_rfl, last, failed, untimed, text ▸ lacks.gone⟩
  · right
    have ran : Request.run (runAll requests start) .removeShard = after := finalState_of_error failed
    rw [← ran]
    exact ⟨lacks_run hosts names lacks fun call may => may.omits_of_removeShard, overlooked.append⟩

theorem Up.of_returned (up : Up admin start requests (runAll requests start))
    (bookkept : Bookkept (runAll requests start)) {after : Running ω}
    (returned : Operation.removeShard (runAll requests start) = .ok shard after) :
    Up admin start (requests ++ [.removeShard]) after := by
  rcases removeShard_returned hosts returned with ⟨last, cluster, gone⟩
  have ran : Request.run (runAll requests start) .removeShard = after := finalState_of_ok returned
  have settled := settled_run hosts names up.settled .removeShard
  have older := up.stands_of_older hosts names bookkept last
  have left := up.left_of_removeShard hosts names bookkept
  rw [ran] at settled older left
  refine ⟨?_, settled, ?_, left ?_⟩
  · rw [cluster]
    exact up.state
  · rw [cluster]
    exact older
  · intro other final again
    rw [returned] at again
    cases again
    rcases bookkept.numbered with ⟨listed, kept, numbered⟩
    rcases numbered.lt_youngest last with ⟨youngest, created, name, _⟩
    refine ⟨⟨youngest, cluster ▸ created, name⟩, ?_⟩
    have stands := up.stands shard (List.mem_of_getLast? last)
    rw [Stands, name] at stands
    rw [name]
    rcases stands with holds | ⟨lacks, _⟩
    · exact gone _ name holds
    · -- An overlooked shard has been gone before.
      rw [← ran]
      exact lacks_run hosts names lacks fun call may => may.omits_of_removeShard

theorem Up.of_failed (up : Up admin start requests (runAll requests start))
    (bookkept : Bookkept (runAll requests start)) {failure : Failure} {after : Running ω}
    (failed : Operation.removeShard (runAll requests start) = .error failure after) :
    Up admin start (requests ++ [.removeShard]) after := by
  have ran : Request.run (runAll requests start) .removeShard = after := finalState_of_error failed
  have settled := settled_run hosts names up.settled .removeShard
  have older {shard : ReplicaGroup}
      (last : (runAll requests start).cluster.topology.shards.getLast? = some shard) :=
    up.stands_of_older hosts names bookkept last
  have left := up.left_of_removeShard hosts names bookkept
  rw [ran] at settled older left
  have unreturned : ∀ shard final,
      Operation.removeShard (runAll requests start) = .ok shard final → Left admin final shard := by
    intro shard final returned
    rw [failed] at returned
    cases returned
  rcases removeShard_failed hosts failed with ⟨cluster, active⟩ | ⟨shard, last, cluster⟩
  · refine ⟨?_, settled, ?_, left unreturned⟩
    · rw [cluster]
      exact up.state
    · intro shard shardMem
      rw [cluster] at shardMem
      cases last : (runAll requests start).cluster.topology.shards.getLast? with
      | none =>
          rw [List.getLast?_eq_none_iff.mp last] at shardMem
          cases shardMem
      | some newest =>
          rcases bookkept.numbered with ⟨listed, kept, numbered⟩
          rcases numbered.lt_youngest last with ⟨youngest, created, name, _⟩
          rw [← List.dropLast_append_getLast? newest last] at shardMem
          rcases List.mem_append.mp shardMem with before | isNewest
          · exact older last shard before
          · rw [List.mem_singleton.mp isNewest]
            exact up.stands_of_failed hosts names failed name last (active newest _ last name)
  · refine ⟨?_, settled, ?_, left unreturned⟩
    · rw [cluster]
      exact up.state
    · rw [cluster]
      exact older last

theorem Up.removeShard (up : Up admin start requests (runAll requests start))
    (bookkept : Bookkept (runAll requests start)) :
    Up admin start (requests ++ [.removeShard])
      (Request.run (runAll requests start) .removeShard) := by
  cases ran : Operation.removeShard (runAll requests start) with
  | ok shard after =>
      rw [Request.run, finalState_of_ok ran]
      exact up.of_returned hosts names bookkept ran
  | error failure after =>
      rw [Request.run, finalState_of_error ran]
      exact up.of_failed hosts names bookkept ran

omit hosts names in
theorem Up.restart (up : Up admin start requests (runAll requests start)) :
    Up admin start (requests ++ [.start]) (Request.run (runAll requests start) .start) := by
  rw [Request.run, finalState_of_ok (start_of_started up.state)]
  refine ⟨up.state, up.settled, ?_, ?_⟩
  · intro shard shardMem
    refine (up.stands shard shardMem).imp_right ?_
    rintro ⟨lacks, overlooked⟩
    exact ⟨lacks, overlooked.append⟩
  · intro shard removed
    have apart : Request.start ≠ .removeShard := by simp
    exact up.left shard (removed_of_ne removed apart)

theorem Up.next (up : Up admin start requests (runAll requests start))
    (bookkept : Bookkept (runAll requests start)) (request : Request) :
    InStep admin start (requests ++ [request]) (Request.run (runAll requests start) request) := by
  cases request with
  | start => exact .up up.restart
  | stop => exact .down (stop_closesNetwork (by simp [up.state])).1
  | addShard => exact .up (up.addShard hosts names bookkept)
  | removeShard => exact .up (up.removeShard hosts names bookkept)
  | enableSharding database =>
      exact .up (up.commanded hosts names bookkept nofun (enableSharding_cluster _) fun _ => id)
  | shardCollection database collection keyField =>
      exact .up (up.commanded hosts names bookkept nofun (shardCollection_cluster _) fun _ => id)

/-- Each request keeps the cluster in step with the namespace. -/
theorem InStep.next (inStep : InStep admin start requests (runAll requests start))
    (bookkept : Bookkept (runAll requests start)) (request : Request) :
    InStep admin start (requests ++ [request]) (Request.run (runAll requests start) request) := by
  rcases yields bookkept.writable request with ⟨events, _, yielded⟩
  cases inStep with
  | idle idle =>
      rcases yielded.state with same | ⟨rfl, _⟩ | ⟨rfl, down⟩
      · exact .idle (idle.run hosts names (same.trans idle.state))
      · exact idle.starts hosts names bookkept
      · exact .down down
  | up up => exact up.next hosts names bookkept request
  | down down =>
      rcases run_moves yielded rfl with same | moves
      · exact .down (same.trans down)
      · rw [down] at moves
        cases moves

end step

/-- Whatever a new cluster is asked for and whatever fails but the closing of a channel, while it is
started it agrees with the namespace, except for shards that it has overlooked. The namespace may
have shards of its own to begin with, but none that is active and waits to become so. -/
theorem runAll_agrees (hosts : Hosts admin) (names : KeepsNames ω) {world : ω}
    (settled : (admin world).Settled) {shape : ClusterShape} {source : ChannelSource}
    {patience : ℕ} {cluster : Cluster} {session : Session ω}
    (built : Cluster.build shape source patience (Session.fresh world) = .ok cluster session)
    (requests : List Request)
    (up : (runAll requests ⟨cluster, session⟩).cluster.state = .started) :
    Agrees admin ⟨cluster, session⟩ requests (runAll requests ⟨cluster, session⟩) := by
  have bookkept := bookkept_of_build names built
  have inStep : Bookkept (runAll requests ⟨cluster, session⟩) ∧
      InStep admin ⟨cluster, session⟩ requests (runAll requests ⟨cluster, session⟩) := by
    refine runAll_induction (motive := fun requests after =>
      Bookkept after ∧ InStep admin ⟨cluster, session⟩ requests after) ⟨cluster, session⟩
        bookkept.writable ⟨bookkept, ?_⟩ ?_ requests
    · rcases Cluster.build_eq_ok built with ⟨building, isNew⟩
      have settledNow := hosts.settled_survives (isNew.within.mono fun _ _ => trivial) settled
      exact .idle ⟨isNew.state, settledNow, not_removed_nil _⟩
    · rintro earlier request events after ⟨bookkept, inStep⟩ _ _ ran
      rw [← ran]
      exact ⟨bookkept.run names request, inStep.next hosts names bookkept request⟩
  cases inStep.2 with
  | idle idle =>
      rw [idle.state] at up
      cases up
  | down down =>
      rw [down] at up
      cases up
  | up known =>
      constructor
      · intro shard shardMem
        exact (known.stands shard shardMem).imp (·.active) (·.2)
      · intro shard removed
        exact (known.left shard removed).lacks.gone.unlisted

/-- A cluster of three shards that waits, between two looks and altogether, for the longest time that
there is a number for. -/
def patientShape : ClusterShape :=
  let longest : Value := .int (2 ^ 1024 - 2 ^ 971 : ℕ)
  { shardCount := .int 3, membership := { interval := longest, timeout := longest } }

/-- A simulated world in which a removal is complete at the second request. -/
def quickWorld : FaithfulWorld := ⟨{ admin := { drainPolls := 1 } }, rfl, rfl, rfl⟩

/-- The patient cluster, started and asked to remove a shard. -/
theorem runAll_agrees_simulated :
    ∃ (cluster : Cluster) (session : Session FaithfulWorld),
      Cluster.build patientShape .supplied patience (Session.fresh quickWorld) =
        .ok cluster session ∧
      (runAll [.start, .removeShard] ⟨cluster, session⟩).cluster.state = .started ∧
      Agrees FaithfulWorld.admin ⟨cluster, session⟩ [.start, .removeShard]
        (runAll [.start, .removeShard] ⟨cluster, session⟩) := by
  have starts : returnsWith (fun cluster session =>
        decide ((runAll [.start, .removeShard] ⟨cluster, session⟩).cluster.state = .started))
      (Cluster.build patientShape .supplied patience (Session.fresh quickWorld)) = true := by
    decide +kernel
  rcases exists_of_returnsWith starts with ⟨cluster, session, built, started⟩
  have up := of_decide_eq_true started
  have settled : (FaithfulWorld.admin quickWorld).Settled :=
    AdminNamespace.settled_of_empty rfl rfl
  exact ⟨cluster, session, built, up, runAll_agrees FaithfulWorld.hosts FaithfulWorld.keepsNames
    settled built [.start, .removeShard] up⟩

/-- The shard is removed from the namespace, and the cluster still has it in its topology. -/
theorem removeShard_overlooks_simulated :
    ∃ (cluster : Cluster) (session : Session FaithfulWorld) (shard : ReplicaGroup),
      Cluster.build patientShape .supplied patience (Session.fresh quickWorld) =
        .ok cluster session ∧
      (runAll [.start, .removeShard] ⟨cluster, session⟩).cluster.state = .started ∧
      shard ∈ (runAll [.start, .removeShard] ⟨cluster, session⟩).cluster.topology.shards ∧
      ¬(runAll [.start, .removeShard] ⟨cluster, session⟩).session.outside.admin.Active
        shard.name.toText := by
  have overlooks : returnsWith (fun cluster session =>
        let after := runAll [.start, .removeShard] ⟨cluster, session⟩
        decide (after.cluster.state = .started) &&
          after.cluster.topology.shards.any fun shard =>
            decide (¬after.session.outside.admin.Active shard.name.toText))
      (Cluster.build patientShape .supplied patience (Session.fresh quickWorld)) = true := by
    decide +kernel
  rcases exists_of_returnsWith overlooks with ⟨cluster, session, built, after⟩
  rw [Bool.and_eq_true] at after
  rcases List.any_eq_true.mp after.2 with ⟨shard, listed, inactive⟩
  exact ⟨cluster, session, shard, built, of_decide_eq_true after.1, listed,
    of_decide_eq_true inactive⟩

end Request

end ShardFleet
