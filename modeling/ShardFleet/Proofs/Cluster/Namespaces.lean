import ShardFleet.Proofs.Cluster.Naming
import ShardFleet.Proofs.Cluster.Run

/-!
# Namespaces of replica sets

A replica set is ordered with a namespace, which its members are named by: each has the namespace
and its own number. The namespace of a shard has the shard's number in it, between texts that are
not digits, so numbers of shards and of members do not run together; and the config servers have a
namespace that is no shard's. A cluster orders a replica set for each shard that it is asked to add,
under the next number. Hence no two replica sets of a cluster share a namespace, and no two members
a name, whatever all namespaces begin with and whatever has failed.
-/

namespace ShardFleet

variable {ω : Type}

/-- The replica set that is ordered, if that is what happened. -/
def Event.order? : Event → Option ReplicaSetOrder
  | .called (.buildReplicaSet order) _ => some order
  | _ => none

/-- The replica sets that are ordered, in order. -/
def ordersIn (events : List Event) : List ReplicaSetOrder := events.filterMap Event.order?

theorem ordersIn_append (first second : List Event) :
    ordersIn (first ++ second) = ordersIn first ++ ordersIn second :=
  List.filterMap_append

theorem ordersIn_eq_nil {allowed : Call → Prop} {events : List Event}
    (calls : CalledOnly allowed events) (others : ∀ order, ¬allowed (.buildReplicaSet order)) :
    ordersIn events = [] := by
  apply List.filterMap_eq_nil_iff.mpr
  intro event member
  cases event with
  | called call answer =>
      have permitted := calls call answer member
      cases call <;> first | rfl | exact absurd permitted (others _)
  | _ => rfl

namespace Text

variable {first second : ℕ}

/-- A number is read up to the first character that is no digit. -/
theorem toDigits_append_inj {head : Char} {rest others : List Char} (noDigit : head.isDigit = false)
    (same : Nat.toDigits 10 first ++ head :: rest = Nat.toDigits 10 second ++ head :: others) :
    first = second ∧ rest = others := by
  have read (number : ℕ) (behind : List Char) :
      (Nat.toDigits 10 number ++ head :: behind).takeWhile Char.isDigit =
        Nat.toDigits 10 number := by
    rw [List.takeWhile_append_of_pos fun char member =>
      Nat.isDigit_of_mem_toDigits (by decide) (by decide) member]
    simp [noDigit]
  have digits := congrArg (List.takeWhile Char.isDigit) same
  rw [read, read] at digits
  rw [digits, List.append_cancel_left_eq, List.cons.injEq] at same
  exact ⟨toDigits_injective digits, same.2⟩

end Text

namespace Blueprint

/-- The order for the config servers. -/
def configOrder (blueprint : Blueprint) : ReplicaSetOrder :=
  ⟨blueprint.configNamespace, configName, blueprint.memberCount, true⟩

/-- The orders for a new cluster: its shards by their numbers, then the config servers. -/
def orders (blueprint : Blueprint) (shardCount : ℕ) : List ReplicaSetOrder :=
  (List.range shardCount).map (fun index => blueprint.shardOrder (index + 1)) ++
    [blueprint.configOrder]

/-- The orders for shards that are added to a cluster with some shards. -/
def laterOrders (blueprint : Blueprint) (shardCount added : ℕ) : List ReplicaSetOrder :=
  (List.range added).map fun index => blueprint.shardOrder (shardCount + index + 1)

theorem laterOrders_append (blueprint : Blueprint) (shardCount earlier later : ℕ) :
    blueprint.laterOrders shardCount earlier ++ blueprint.laterOrders (shardCount + earlier) later =
      blueprint.laterOrders shardCount (earlier + later) := by
  simp [laterOrders, List.range_add, Nat.add_assoc]

variable {blueprint : Blueprint} {first second one other : ℕ}

theorem shardNamespace_append_inj (same : blueprint.shardNamespace first ++ Text.decimal one =
    blueprint.shardNamespace second ++ Text.decimal other) : first = second ∧ one = other := by
  have chars := congrArg String.toList same
  simp only [shardNamespace, String.toList_append, List.append_assoc, Text.toList_decimal,
    List.append_cancel_left_eq] at chars
  rcases Text.toDigits_append_inj (by decide) chars with ⟨sameShard, rest⟩
  refine ⟨sameShard, Text.toDigits_injective ?_⟩
  simpa using rest

theorem configNamespace_append_inj (same : blueprint.configNamespace ++ Text.decimal one =
    blueprint.configNamespace ++ Text.decimal other) : one = other := by
  have chars := congrArg String.toList same
  rw [String.toList_append, String.toList_append, List.append_cancel_left_eq, Text.toList_decimal,
    Text.toList_decimal] at chars
  exact Text.toDigits_injective chars

theorem shardNamespace_append_ne :
    blueprint.shardNamespace first ++ Text.decimal one ≠
      blueprint.configNamespace ++ Text.decimal other := by
  intro same
  have chars := congrArg String.toList same
  simp only [shardNamespace, configNamespace, String.toList_append, List.append_assoc,
    List.append_cancel_left_eq] at chars
  simp at chars

/-- A namespace that belongs to a cluster of the blueprint: one of a shard, or that of the config
servers. -/
def Owns (blueprint : Blueprint) (namespaceName : String) : Prop :=
  (∃ index, namespaceName = blueprint.shardNamespace index) ∨
    namespaceName = blueprint.configNamespace

theorem Owns.append_inj {front back : String} (owns : blueprint.Owns front)
    (owned : blueprint.Owns back)
    (same : front ++ Text.decimal one = back ++ Text.decimal other) :
    front = back ∧ one = other := by
  rcases owns with ⟨index, rfl⟩ | rfl <;> rcases owned with ⟨number, rfl⟩ | rfl
  · rcases shardNamespace_append_inj same with ⟨rfl, numbers⟩
    exact ⟨rfl, numbers⟩
  · exact absurd same shardNamespace_append_ne
  · exact absurd same.symm shardNamespace_append_ne
  · exact ⟨rfl, configNamespace_append_inj same⟩

theorem shardNamespace_injective : Function.Injective blueprint.shardNamespace :=
  fun _ _ same => (shardNamespace_append_inj (congrArg (· ++ Text.decimal (0 : ℕ)) same)).1

theorem shardNamespace_ne_configNamespace :
    blueprint.shardNamespace first ≠ blueprint.configNamespace :=
  fun same => shardNamespace_append_ne (congrArg (· ++ Text.decimal (0 : ℕ)) same)

/-- Shards have consecutive numbers, whether they were there at first or have been added. -/
theorem orders_append_laterOrders_perm (blueprint : Blueprint) (shardCount added : ℕ) :
    (blueprint.orders shardCount ++ blueprint.laterOrders shardCount added).Perm
      (blueprint.configOrder ::
        (List.range (shardCount + added)).map fun index => blueprint.shardOrder (index + 1)) := by
  rw [orders, List.append_assoc, List.singleton_append, List.range_add, List.map_append,
    List.map_map]
  exact List.perm_middle

end Blueprint

/-- Replica sets that are ordered share neither a namespace nor the name of a member. -/
structure OrdersApart (orders : List ReplicaSetOrder) : Prop where
  namespaces : (orders.map (·.namespaceName)).Nodup
  members : ∀ first ∈ orders, ∀ second ∈ orders, ∀ one other : ℕ,
    first.namespaceName ++ Text.decimal one = second.namespaceName ++ Text.decimal other →
    first = second ∧ one = other

theorem OrdersApart.of_owns {blueprint : Blueprint} {orders : List ReplicaSetOrder}
    (namespaces : (orders.map (·.namespaceName)).Nodup)
    (owns : ∀ order ∈ orders, blueprint.Owns order.namespaceName) : OrdersApart orders where
  namespaces := namespaces
  members := by
    intro first firstMem second secondMem one other same
    rcases (owns first firstMem).append_inj (owns second secondMem) same with ⟨shared, numbers⟩
    exact ⟨List.inj_on_of_nodup_map namespaces firstMem secondMem shared, numbers⟩

namespace Blueprint

/-- However many shards are added, no two replica sets get in each other's way. -/
theorem ordersApart (blueprint : Blueprint) (shardCount added : ℕ) :
    OrdersApart (blueprint.orders shardCount ++ blueprint.laterOrders shardCount added) := by
  have perm := blueprint.orders_append_laterOrders_perm shardCount added
  apply OrdersApart.of_owns
  · rw [(perm.map _).nodup_iff, List.map_cons, List.map_map, List.nodup_cons]
    constructor
    · intro member
      rcases List.mem_map.mp member with ⟨index, _, same⟩
      exact shardNamespace_ne_configNamespace same
    · apply List.nodup_range.map
      intro first second same
      exact Nat.succ.inj (shardNamespace_injective same)
  · intro order member
    rcases List.mem_cons.mp (perm.mem_iff.mp member) with rfl | isShard
    · exact Or.inr rfl
    · rcases List.mem_map.mp isShard with ⟨index, _, rfl⟩
      exact Or.inl ⟨index + 1, rfl⟩

end Blueprint

namespace Request

variable [Outside ω] {running after : Running ω} {request : Request} {events : List Event}

def isAddShard : Request → Bool
  | .addShard => true
  | _ => false

/-- Adding a shard begins with the order for the shard that comes next. -/
theorem addShard_orders
    (writable : running.cluster.shape.blueprint.namespacePrefix.checkWritable = .ok ()) :
    ∃ answer events, running.session.Evolves
      (.called (.buildReplicaSet
        (running.cluster.shape.blueprint.shardOrder (running.cluster.shardsCreated + 1))) answer ::
          events) (run running .addShard).session := by
  rcases Blueprint.buildShard_orders writable (running.cluster.shardsCreated + 1) running.session
    with ⟨answer, constructing, building, _⟩
  have course := Operation.addShard_course running
  rw [run, finalState]
  generalize Operation.addShard running = result at course
  cases course with
  | unbuilt builds =>
      rw [finalState_of_error builds] at building
      exact ⟨answer, _, building⟩
  | unstarted builds starts =>
      rw [finalState_of_ok builds] at building
      have starting := (Transition.start.evolves_of_run_error starts).evolves
      exact ⟨answer, _, building.trans starting⟩
  | stranded builds starts registers =>
      rw [finalState_of_ok builds] at building
      rcases setUp_evolves starts (finalState_of_error registers) with ⟨_, within, _⟩
      exact ⟨answer, _, building.trans (within.evolves.trans (.logged _ _))⟩
  | joined builds starts registers =>
      rw [finalState_of_ok builds] at building
      rcases setUp_evolves starts (finalState_of_ok registers) with ⟨_, within, _⟩
      exact ⟨answer, _, building.trans within.evolves⟩

theorem ordersIn_of_beginsWith {name : String} {rest : List Event} {allowed : Call → Prop}
    {order : ReplicaSetOrder} {answer : Except Failure Handle} {others : List Event}
    (asks : BeginsWith name events rest) (calls : CalledOnly allowed rest)
    (noOrder : ∀ order, ¬allowed (.buildReplicaSet order))
    (begins : events = .called (.buildReplicaSet order) answer :: others) :
    ordersIn events = [order] := by
  rcases asks with ⟨asked, given, _, rfl⟩
  cases begins
  exact congrArg (order :: ·) (ordersIn_eq_nil calls noOrder)

/-- A request to add a shard orders the one that comes next, and no other request orders any. -/
theorem Yields.orders
    (writable : running.cluster.shape.blueprint.namespacePrefix.checkWritable = .ok ())
    (yielded : Yields running request events after)
    (evolves : running.session.Evolves events after.session) (ran : run running request = after) :
    ordersIn events = running.cluster.shape.blueprint.laterOrders running.cluster.shardsCreated
        (if request.isAddShard then 1 else 0) ∧
      after.cluster.shardsCreated =
        running.cluster.shardsCreated + if request.isAddShard then 1 else 0 := by
  have next (adds : request = .addShard) : ∃ answer others, events = .called (.buildReplicaSet
      (running.cluster.shape.blueprint.shardOrder (running.cluster.shardsCreated + 1))) answer ::
        others := by
    subst adds ran
    rcases addShard_orders writable with ⟨answer, others, orders⟩
    exact ⟨answer, others, evolves.unique orders⟩
  cases yielded with
  | started calls =>
      refine ⟨ordersIn_eq_nil calls ?_, rfl⟩
      rintro order (⟨_, _, same⟩ | onChannel)
      · cases same
      · exact onChannel
  | stopped calls =>
      refine ⟨ordersIn_eq_nil calls ?_, rfl⟩
      rintro order (⟨_, _, same⟩ | same) <;> cases same
  | unadded asks calls =>
      rcases next rfl with ⟨answer, others, begins⟩
      refine ⟨ordersIn_of_beginsWith asks calls ?_ begins, rfl⟩
      rintro order (constructs | ⟨_, same⟩)
      · exact constructs
      · cases same
  | added asks calls once named made joined =>
      rcases next rfl with ⟨answer, others, begins⟩
      refine ⟨ordersIn_of_beginsWith asks calls ?_ begins, by rcases joined with rfl | rfl <;> rfl⟩
      rintro order (constructs | same | onChannel)
      · exact constructs
      · cases same
      · exact onChannel
  | shardless => exact ⟨rfl, rfl⟩
  | undrained _ calls => exact ⟨ordersIn_eq_nil calls fun _ => id, rfl⟩
  | removed _ calls =>
      refine ⟨ordersIn_eq_nil calls ?_, rfl⟩
      rintro order (onChannel | same)
      · exact onChannel
      · cases same
  | enabled calls => exact ⟨ordersIn_eq_nil calls fun _ => id, rfl⟩
  | sharded calls => exact ⟨ordersIn_eq_nil calls fun _ => id, rfl⟩

/-- Whatever is asked of a cluster and whatever fails: it orders a replica set for each shard that
it is asked to add, and nothing else. -/
theorem runAll_orders (start : Running ω)
    (writable : start.cluster.shape.blueprint.namespacePrefix.checkWritable = .ok ())
    (requests : List Request) :
    ∃ events, start.session.Evolves events (runAll requests start).session ∧
      ordersIn events = start.cluster.shape.blueprint.laterOrders start.cluster.shardsCreated
        (requests.countP isAddShard) := by
  have counted := runAll_induction
    (motive := fun earlier now => ∃ events, start.session.Evolves events now.session ∧
      ordersIn events = start.cluster.shape.blueprint.laterOrders start.cluster.shardsCreated
        (earlier.countP isAddShard) ∧
      now.cluster.shardsCreated =
        start.cluster.shardsCreated + earlier.countP isAddShard)
    start writable ⟨[], .refl _, rfl, rfl⟩
    (fun earlier request events after ⟨past, since, ordered, created⟩ evolves yielded ran => by
      have shape := runAll_shape start writable earlier
      rw [← shape] at writable
      rcases yielded.orders writable evolves ran with ⟨orders, count⟩
      rw [shape, created] at orders
      refine ⟨_, since.trans evolves, ?_, ?_⟩
      · rw [ordersIn_append, ordered, orders, Blueprint.laterOrders_append, List.countP_append,
          List.countP_singleton]
      · rw [count, created, Nat.add_assoc, List.countP_append, List.countP_singleton])
    requests
  rcases counted with ⟨events, evolves, orders, _⟩
  exact ⟨events, evolves, orders⟩

end Request

end ShardFleet
