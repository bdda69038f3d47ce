import ShardFleet.Proofs.Cluster.Run

/-!
# Every component has a serial number of its own

The components that a cluster owns are all different, whatever the container runtime calls them: a
component gets its serial number when it is built, and all numbers that have been given are below
the next one. In particular the listed shards are different.
-/

namespace ShardFleet

variable {ω : Type}

/-- The shards that are listed anywhere. -/
def Cluster.listedShards (cluster : Cluster) : List ReplicaGroup :=
  cluster.topology.shards ++ cluster.unregistered

namespace Cluster

variable {before after : Cluster} {shard : ReplicaGroup}

theorem ownedComponents_of_joined
    (joined : after = before.registered shard ∨ after = before.stranded shard) :
    after.ownedComponents.Perm (shard.toComponent :: before.ownedComponents) := by
  rcases joined with rfl | rfl
  · simp only [ownedComponents, Topology.components, registered, List.map_append, List.map_cons,
      List.map_nil, List.append_assoc]
    exact List.perm_middle
  · simp only [ownedComponents, stranded, List.map_append, List.map_cons, List.map_nil]
    rw [← List.append_assoc]
    exact List.perm_append_singleton _ _

theorem ownedComponents_shortened (cluster : Cluster) :
    cluster.shortened.ownedComponents.Sublist cluster.ownedComponents :=
  ((((List.dropLast_sublist _).map _).append_right _).append_right _)

theorem map_listedShards_sublist (cluster : Cluster) :
    (cluster.listedShards.map (·.toComponent)).Sublist cluster.ownedComponents := by
  rw [listedShards, List.map_append]
  exact (List.sublist_append_left _ _).append_right _

end Cluster

namespace Request

/-- All owned components have different serial numbers, which are below the next one. -/
structure Apart (running : Running ω) : Prop where
  apart : (running.cluster.ownedComponents.map (·.serial)).Nodup
  below : ∀ component ∈ running.cluster.ownedComponents,
    component.serial < running.session.nextSerial

namespace Apart

variable {running after : Running ω} {shard : ReplicaGroup}

theorem nodup (apart : Apart running) : running.cluster.ownedComponents.Nodup :=
  List.Nodup.of_map _ apart.apart

theorem of_sublist (apart : Apart running)
    (owned : after.cluster.ownedComponents.Sublist running.cluster.ownedComponents)
    (later : running.session.nextSerial ≤ after.session.nextSerial) : Apart after where
  apart := apart.apart.sublist (owned.map _)
  below other otherMem := Nat.lt_of_lt_of_le (apart.below other (owned.subset otherMem)) later

/-- A shard that is built now joins the components. -/
theorem join (apart : Apart running)
    (owned : after.cluster.ownedComponents.Perm
      (shard.toComponent :: running.cluster.ownedComponents))
    (made : shard.MadeBetween running.session after.session) : Apart after where
  apart := by
    rw [(owned.map _).nodup_iff, List.map_cons, List.nodup_cons]
    refine ⟨?_, apart.apart⟩
    intro member
    rcases List.mem_map.mp member with ⟨other, otherMem, same⟩
    have below := apart.below other otherMem
    have new := made.1
    omega
  below := by
    intro other otherMem
    rcases List.mem_cons.mp (owned.subset otherMem) with rfl | before
    · exact made.2
    · have start := Nat.lt_of_le_of_lt made.1 made.2
      exact Nat.lt_trans (apart.below other before) start

end Apart

/-- All listed shards have different serial numbers, which are below the next one. -/
structure Distinct (running : Running ω) : Prop where
  apart : (running.cluster.listedShards.map (·.serial)).Nodup
  below : ∀ shard ∈ running.cluster.listedShards, shard.serial < running.session.nextSerial

theorem Apart.distinct {running : Running ω} (apart : Apart running) : Distinct running where
  apart := by
    have serials := (running.cluster.map_listedShards_sublist.map (·.serial)).nodup apart.apart
    rwa [List.map_map] at serials
  below shard shardMem :=
    apart.below _ (running.cluster.map_listedShards_sublist.subset (List.mem_map_of_mem shardMem))

namespace Distinct

variable {running : Running ω} {shard : ReplicaGroup}

theorem not_mem_of_new (distinct : Distinct running)
    (new : running.session.nextSerial ≤ shard.serial) : shard ∉ running.cluster.listedShards :=
  fun member => Nat.not_lt.mpr new (distinct.below shard member)

/-- Once the last shard is dropped, it is not in the topology any more. -/
theorem not_mem_dropLast (distinct : Distinct running)
    (last : running.cluster.topology.shards.getLast? = some shard) :
    shard ∉ running.cluster.topology.shards.dropLast := by
  have apart := distinct.apart
  rw [Cluster.listedShards, ← List.dropLast_append_getLast? shard last] at apart
  intro member
  have again := List.mem_map_of_mem (f := fun group => group.serial) member
  simp only [List.map_append, List.nodup_append, List.map_cons, List.map_nil,
    List.mem_singleton] at apart
  exact apart.1.2.2 _ again _ rfl rfl

end Distinct

variable [Outside ω] {running after : Running ω} {request : Request} {events : List Event}

theorem Apart.step (apart : Apart running)
    (evolves : running.session.Evolves events after.session)
    (yielded : Yields running request events after) : Apart after := by
  cases yielded with
  | added asks calls once named made joined =>
      exact apart.join (Cluster.ownedComponents_of_joined joined) made
  | removed last calls down =>
      exact apart.of_sublist running.cluster.ownedComponents_shortened evolves.serials
  | _ => exact apart.of_sublist (List.Sublist.refl _) evolves.serials

theorem runAll_apart {session : Session ω} {shape : ClusterShape} {source : ChannelSource}
    {patience : ℕ} {cluster : Cluster} {built : Session ω}
    (building : Cluster.build shape source patience session = .ok cluster built)
    (requests : List Request) : Apart (runAll requests ⟨cluster, built⟩) := by
  rcases Cluster.build_eq_ok building with ⟨events, isNew⟩
  have components := (Cluster.build_course building).madeInTurn
  have owned : cluster.ownedComponents = cluster.topology.components := by
    rw [Cluster.ownedComponents, isNew.unregistered]
    exact List.append_nil _
  refine runAll_induction (motive := fun _ after => Apart after) ⟨cluster, built⟩
    isNew.blueprint_writable ⟨?_, ?_⟩ ?_ requests
  · rw [owned]
    exact List.pairwise_map.mpr (components.ascending.imp Nat.ne_of_lt)
  · rw [owned]
    exact fun component listed => (components.made component listed).2
  · intro earlier request events after apart evolves yielded _
    exact apart.step evolves yielded

theorem runAll_distinct {world : ω} {shape : ClusterShape} {source : ChannelSource}
    {patience : ℕ} {cluster : Cluster} {session : Session ω}
    (built : Cluster.build shape source patience (Session.fresh world) = .ok cluster session)
    (requests : List Request) : Distinct (runAll requests ⟨cluster, session⟩) :=
  (runAll_apart built requests).distinct

end Request

end ShardFleet
