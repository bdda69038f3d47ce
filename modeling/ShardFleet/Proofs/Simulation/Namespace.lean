import Mathlib.Data.List.Nodup
import ShardFleet.Proofs.Cluster.Waiting
import ShardFleet.Simulation.AdminNamespace

/-!
# What commands make of the simulated admin namespace

A shard that is active waits for nothing any more, so a shard that is removed while it is active does
not come back by itself. Every command has one of four effects on the namespace, and only an addition
or removal of a shard changes what is known of that shard, but for its becoming active. What the
responses report of a shard is true of it.
-/

namespace ShardFleet.Simulation

theorem mem_keys {κ α : Type} {name : κ} {pairs : List (κ × α)} :
    name ∈ pairs.map (·.1) ↔ ∃ value, (name, value) ∈ pairs := by
  simp [List.mem_map]

section setPair

variable {κ α : Type} [DecidableEq κ] {name other : κ} {value old : α} {pairs : List (κ × α)}

theorem mem_keys_setPair :
    other ∈ (setPair name value pairs).map (·.1) ↔ other = name ∨ other ∈ pairs.map (·.1) := by
  induction pairs with
  | nil => simp [setPair]
  | cons pair rest ih =>
      rcases pair with ⟨key, held⟩
      by_cases same : key = name
      · simp [setPair, same]
      · simp only [setPair, same, if_false, List.map_cons, List.mem_cons, ih]
        tauto

theorem nodup_setPair (once : (pairs.map (·.1)).Nodup) :
    ((setPair name value pairs).map (·.1)).Nodup := by
  induction pairs with
  | nil => simp [setPair]
  | cons pair rest ih =>
      rcases pair with ⟨key, held⟩
      rw [List.map_cons, List.nodup_cons] at once
      by_cases same : key = name
      · subst same
        simpa [setPair] using once
      · simp only [setPair, same, if_false, List.map_cons, List.nodup_cons]
        rw [mem_keys_setPair, not_or]
        exact ⟨⟨same, once.1⟩, ih once.2⟩

theorem mem_setPair (once : (pairs.map (·.1)).Nodup) :
    (other, old) ∈ setPair name value pairs ↔
      if other = name then old = value else (other, old) ∈ pairs := by
  induction pairs with
  | nil => by_cases here : other = name <;> simp [setPair, here]
  | cons pair rest ih =>
      rcases pair with ⟨key, held⟩
      rw [List.map_cons, List.nodup_cons] at once
      by_cases same : key = name
      · subst same
        by_cases here : other = key
        · subst here
          have later : (other, old) ∉ rest := fun member =>
            once.1 (List.mem_map.mpr ⟨_, member, rfl⟩)
          simp [setPair, later]
        · simp [setPair, here]
      · by_cases here : other = name
        · subst here
          simp [setPair, same, ih once.2, Ne.symm same]
        · simp [setPair, same, ih once.2, here]

end setPair

namespace AdminNamespace

/-- The shard is listed with state one. -/
def Active (name : String) (admin : AdminNamespace) : Prop := (name, true) ∈ admin.shards

instance (name : String) (admin : AdminNamespace) : Decidable (admin.Active name) :=
  inferInstanceAs (Decidable ((name, true) ∈ admin.shards))

/-- The shard is not listed and does not wait to become active. -/
structure Gone (name : String) (admin : AdminNamespace) : Prop where
  unlisted : name ∉ admin.shards.map (·.1)
  unawaited : name ∉ admin.pending.map (·.1)

/-- Shards are listed once, and those that are active do not wait to become so. -/
structure Settled (admin : AdminNamespace) : Prop where
  once : (admin.shards.map (·.1)).Nodup
  awaitedOnce : (admin.pending.map (·.1)).Nodup
  idle : ∀ name, admin.Active name → name ∉ admin.pending.map (·.1)

theorem settled_of_empty {admin : AdminNamespace} (shards : admin.shards = [])
    (pending : admin.pending = []) : admin.Settled := by
  refine ⟨?_, ?_, ?_⟩
  · simp [shards]
  · simp [pending]
  · simp [pending]

/-- All that can come of a command. -/
inductive Effect (admin : AdminNamespace) (command : AdminCommand) : AdminNamespace → Prop where
  | unchanged : Effect admin command admin
  | added {address : String} (named : command.name = .text "addShard")
      (argument : command.argument = .text address) :
      Effect admin command (admin.addShard address).2
  | listed : Effect admin command admin.afterListing
  | removed {key : Key} (named : command.name = .text "removeShard")
      (argument : command.argument.toKey? = some key) :
      Effect admin command (admin.removeShard key).2

variable {admin after : AdminNamespace} {command : AdminCommand} {name : String}

theorem answer_effect (admin : AdminNamespace) (command : AdminCommand) :
    Effect admin command (admin.answer command).2 := by
  unfold answer
  split
  · exact .added ‹_› ‹_›
  · exact .unchanged
  · exact .listed
  · rename_i named
    cases asked : command.argument.toKey? with
    | none => exact .unchanged
    | some key => exact .removed named asked
  · exact .unchanged

theorem Effect.scripts (effect : admin.Effect command after) : after.scripts = admin.scripts := by
  cases effect with
  | unchanged => rfl
  | added named argument => rfl
  | listed =>
      unfold afterListing
      split <;> rfl
  | removed named argument =>
      unfold removeShard
      dsimp only
      split
      · rfl
      · split <;> rfl

theorem fieldOf_response {field : String} (value : Value) :
    (response [(field, value)]).fieldOf field = .ok (some value) := by
  simp [response, Value.fieldOf, Mapping.field?, Mapping.ofFields, Mapping.ofList]

theorem removeShard_reads (admin : AdminNamespace) (key : Key) :
    (admin.removeShard key).2.pending = admin.pending ∧
      (Admin.readRemoved (admin.removeShard key).1 = .ok false ∧
          (admin.removeShard key).2.shards = admin.shards ∨
        Admin.readRemoved (admin.removeShard key).1 = .ok true ∧
          (admin.removeShard key).2.shards = dropPair key admin.shards) := by
  have reads (state : String) : Admin.readRemoved (response [("state", .text state)]) =
      .ok (state == Admin.completedState) := by
    rw [Admin.readRemoved, fieldOf_response]
    rfl
  unfold removeShard
  dsimp only
  split
  · exact ⟨rfl, Or.inl ⟨reads _, rfl⟩⟩
  · split
    · exact ⟨rfl, Or.inl ⟨reads _, rfl⟩⟩
    · exact ⟨rfl, Or.inr ⟨reads _, rfl⟩⟩

theorem shards_removeShard_sublist (admin : AdminNamespace) (key : Key) :
    (admin.removeShard key).2.shards.Sublist admin.shards := by
  rcases (admin.removeShard_reads key).2 with ⟨_, same⟩ | ⟨_, dropped⟩
  · exact same ▸ .refl _
  · exact dropped ▸ List.filter_sublist

section listing

theorem nodup_activated (due : List String) {shards : List (String × Bool)}
    (once : (shards.map (·.1)).Nodup) :
    ((due.foldl (fun shards name => setPair name true shards) shards).map (·.1)).Nodup := by
  induction due generalizing shards with
  | nil => exact once
  | cons next rest ih => exact ih (nodup_setPair once)

theorem mem_activated {due : List String} {shards : List (String × Bool)}
    (once : (shards.map (·.1)).Nodup) {state : Bool} :
    (name, state) ∈ due.foldl (fun shards name => setPair name true shards) shards ↔
      if name ∈ due then state = true else (name, state) ∈ shards := by
  induction due generalizing shards with
  | nil => simp
  | cons next rest ih =>
      rw [List.foldl_cons, ih (nodup_setPair once), mem_setPair once]
      by_cases later : name ∈ rest
      · simp [later]
      · by_cases here : name = next <;> simp [later, here]

theorem mem_due : name ∈ admin.due ↔
    admin.neverActivate = false ∧ ∃ left, (name, left) ∈ admin.pending ∧ left ≤ 0 := by
  unfold due
  split <;> simp_all [mem_keys]

theorem nodup_afterListing (once : (admin.shards.map (·.1)).Nodup) :
    (admin.afterListing.shards.map (·.1)).Nodup := by
  unfold afterListing
  split
  · exact once
  · exact nodup_activated _ once

theorem mem_shards_afterListing (once : (admin.shards.map (·.1)).Nodup) {state : Bool} :
    (name, state) ∈ admin.afterListing.shards ↔
      if name ∈ admin.due then state = true else (name, state) ∈ admin.shards := by
  unfold afterListing
  split
  · rename_i never
    rw [if_neg]
    rw [mem_due, never]
    simp
  · exact mem_activated once

theorem mem_pending_afterListing (waits : name ∈ admin.afterListing.pending.map (·.1)) :
    admin.neverActivate = true ∧ name ∈ admin.pending.map (·.1) ∨
      ∃ left, (name, left) ∈ admin.pending ∧ 0 < left := by
  unfold afterListing at waits
  split at waits
  · exact Or.inl ⟨‹_›, waits⟩
  · right
    rcases mem_keys.mp waits with ⟨value, member⟩
    rcases List.mem_map.mp member with ⟨⟨other, left⟩, waiting, same⟩
    rw [List.mem_filter, decide_eq_true_eq] at waiting
    cases same
    exact ⟨left, waiting⟩

theorem mem_pending_of_afterListing (waits : name ∈ admin.afterListing.pending.map (·.1)) :
    name ∈ admin.pending.map (·.1) := by
  rcases mem_pending_afterListing waits with ⟨_, before⟩ | ⟨left, before, _⟩
  · exact before
  · exact mem_keys.mpr ⟨left, before⟩

end listing

namespace Settled

theorem addShard (settled : admin.Settled) (address : String) :
    (admin.addShard address).2.Settled where
  once := nodup_setPair settled.once
  awaitedOnce := nodup_setPair settled.awaitedOnce
  idle := by
    intro name active
    have member := (mem_setPair settled.once).mp active
    split at member
    · cases member
    · rename_i different
      have unawaited := settled.idle name member
      rintro awaited
      rcases mem_keys_setPair.mp awaited with same | before
      · exact different same
      · exact unawaited before

theorem afterListing (settled : admin.Settled) : admin.afterListing.Settled where
  once := nodup_afterListing settled.once
  awaitedOnce := by
    unfold AdminNamespace.afterListing
    split
    · exact settled.awaitedOnce
    · rw [List.map_map]
      exact settled.awaitedOnce.sublist (List.filter_sublist.map _)
  idle := by
    intro name active waits
    have member := (mem_shards_afterListing settled.once).mp active
    split at member
    · -- A shard that is due has no other entry that it waits by.
      rename_i isDue
      rcases mem_due.mp isDue with ⟨ever, left, entry, spent⟩
      rcases mem_pending_afterListing waits with ⟨never, _⟩ | ⟨more, other, waiting⟩
      · rw [ever] at never
        cases never
      · have same := List.inj_on_of_nodup_map settled.awaitedOnce entry other rfl
        cases same
        omega
    · exact settled.idle name member (mem_pending_of_afterListing waits)

theorem removeShard (settled : admin.Settled) (key : Key) :
    (admin.removeShard key).2.Settled := by
  have kept := admin.shards_removeShard_sublist key
  have waiting := (admin.removeShard_reads key).1
  refine ⟨settled.once.sublist (kept.map _), ?_, ?_⟩
  · rw [waiting]
    exact settled.awaitedOnce
  · intro name active
    rw [waiting]
    exact settled.idle name (kept.subset active)

theorem effect (settled : admin.Settled) (effect : admin.Effect command after) :
    after.Settled := by
  cases effect with
  | unchanged => exact settled
  | added named argument => exact settled.addShard _
  | listed => exact settled.afterListing
  | removed named argument => exact settled.removeShard _

end Settled

/-- The command does not add the shard named. -/
def Omits (name : String) (command : AdminCommand) : Prop :=
  command.name = .text "addShard" →
    ∀ address, command.argument = .text address → shardAt address ≠ name

/-- The command neither adds nor removes the shard named. -/
structure Spares (name : String) (command : AdminCommand) : Prop where
  omits : Omits name command
  keeps : command.name = .text "removeShard" → command.argument.toKey? ≠ some (.text name)

theorem Active.effect (active : admin.Active name) (settled : admin.Settled)
    (effect : admin.Effect command after) (spares : Spares name command) : after.Active name := by
  cases effect with
  | unchanged => exact active
  | added named argument =>
      apply (mem_setPair settled.once).mpr
      rw [if_neg (Ne.symm (spares.omits named _ argument))]
      exact active
  | listed =>
      apply (mem_shards_afterListing settled.once).mpr
      split
      · rfl
      · exact active
  | removed named argument =>
      rename_i key
      have different : Key.text name ≠ key := by
        rintro rfl
        exact spares.keeps named argument
      rcases (admin.removeShard_reads key).2 with ⟨_, same⟩ | ⟨_, dropped⟩
      · rwa [Active, same]
      · rw [Active, dropped, dropPair, List.mem_filter]
        exact ⟨active, by simpa using different⟩

theorem Gone.effect (gone : admin.Gone name) (settled : admin.Settled)
    (effect : admin.Effect command after) (omits : Omits name command) : after.Gone name := by
  cases effect with
  | unchanged => exact gone
  | added named argument =>
      have different := Ne.symm (omits named _ argument)
      constructor
      · intro listed
        exact (mem_keys_setPair.mp listed).elim different gone.unlisted
      · intro awaited
        exact (mem_keys_setPair.mp awaited).elim different gone.unawaited
  | listed =>
      constructor
      · intro listed
        rcases mem_keys.mp listed with ⟨state, member⟩
        rw [mem_shards_afterListing settled.once, if_neg] at member
        · exact gone.unlisted (mem_keys.mpr ⟨state, member⟩)
        · intro isDue
          rcases mem_due.mp isDue with ⟨_, left, entry, _⟩
          exact gone.unawaited (mem_keys.mpr ⟨left, entry⟩)
      · exact fun awaited => gone.unawaited (mem_pending_of_afterListing awaited)
  | removed named argument =>
      rename_i key
      have kept := (admin.shards_removeShard_sublist key).map Prod.fst
      refine ⟨fun listed => gone.unlisted (kept.subset listed), ?_⟩
      rw [(admin.removeShard_reads key).1]
      exact gone.unawaited

/-- The shard is active in a settled namespace. -/
structure Holds (name : String) (admin : AdminNamespace) : Prop where
  settled : admin.Settled
  active : admin.Active name

/-- The shard is gone from a settled namespace. -/
structure Lacks (name : String) (admin : AdminNamespace) : Prop where
  settled : admin.Settled
  gone : admin.Gone name

theorem Holds.effect (holds : admin.Holds name) (effect : admin.Effect command after)
    (spares : Spares name command) : after.Holds name :=
  ⟨holds.settled.effect effect, holds.active.effect holds.settled effect spares⟩

theorem Lacks.effect (lacks : admin.Lacks name) (effect : admin.Effect command after)
    (omits : Omits name command) : after.Lacks name :=
  ⟨lacks.settled.effect effect, lacks.gone.effect lacks.settled effect omits⟩

section responses

theorem isActiveRecord_record (shard : String × Bool) :
    Admin.isActiveRecord (.text name) (record shard) = .ok (shard.1 == name && shard.2) := by
  rcases shard with ⟨other, state⟩
  have apart : (Key.text "_id").identity ≠ (Key.text "state").identity := by decide
  have named : (Mapping.ofFields [("_id", .text other),
      ("state", .int (if state then 1 else 0))]).field? "_id" = some (.text other) := by
    simp [Mapping.field?, Mapping.ofFields, Mapping.ofList, Mapping.find?_insert_of_ne _ _ apart]
  have stated : (Mapping.ofFields [("_id", .text other),
      ("state", .int (if state then 1 else 0))]).field? "state" =
        some (.int (if state then 1 else 0)) := by
    simp [Mapping.field?, Mapping.ofFields, Mapping.ofList]
  have same : (Value.text other).equals (.text name) = (other == name) := by
    simp [Value.equals, Value.toKey?, Key.equals]
  simp only [record, Admin.isActiveRecord, named, stated, Option.getD_some, same, Option.any_some]
  cases state <;> rfl

theorem anyActive_records (shards : List (String × Bool)) :
    Admin.anyActive (.text name) (shards.map record) =
      .ok (shards.any fun shard => shard.1 == name && shard.2) := by
  induction shards with
  | nil => rfl
  | cons shard rest ih =>
      rw [List.map_cons, Admin.anyActive, isActiveRecord_record]
      cases here : (shard.1 == name && shard.2) <;> simp [here, ih]

/-- A shard that a listing reports active is so. -/
theorem active_of_listing {response : Value}
    (answered : admin.answer AdminCommand.listing = (.ok response, after))
    (read : Admin.readActive (.text name) response = .ok true) : after.Active name := by
  have listed : admin.answer AdminCommand.listing = (.ok admin.listShards.1, admin.afterListing) :=
    rfl
  rw [listed, Prod.mk.injEq, Except.ok.injEq] at answered
  rcases answered with ⟨rfl, rfl⟩
  rw [Admin.readActive, listShards, Admin.shardRecords, fieldOf_response] at read
  simp only [Value.items, anyActive_records, Except.ok.injEq, List.any_eq_true, Bool.and_eq_true,
    beq_iff_eq] at read
  rcases read with ⟨⟨other, state⟩, member, rfl, rfl⟩
  exact member

/-- An active shard stays so until its removal is reported complete, and then it is gone. -/
theorem answer_removing (settled : admin.Settled) (active : admin.Active name) {response : Value}
    (answered : admin.answer (AdminCommand.removing (.text name)) = (.ok response, after)) :
    (Admin.readRemoved response = .ok true → after.Gone name) ∧
      (Admin.readRemoved response ≠ .ok true → after.Active name) := by
  have removed : admin.answer (AdminCommand.removing (.text name)) =
      (.ok (admin.removeShard (.text name)).1, (admin.removeShard (.text name)).2) := rfl
  rw [removed, Prod.mk.injEq, Except.ok.injEq] at answered
  rcases answered with ⟨rfl, rfl⟩
  rcases admin.removeShard_reads (.text name) with ⟨waiting, ⟨ongoing, same⟩ | ⟨done, dropped⟩⟩
  · constructor
    · intro read
      rw [ongoing] at read
      cases read
    · intro _
      rwa [Active, same]
  · constructor
    · intro _
      refine ⟨?_, waiting ▸ settled.idle name active⟩
      rw [dropped, mem_keys]
      rintro ⟨state, member⟩
      simpa using (List.mem_filter.mp member).2
    · exact fun otherwise => absurd done otherwise

end responses

end AdminNamespace

end ShardFleet.Simulation
