import ShardFleet.Component.Transition
import ShardFleet.Proofs.Session.Calls

/-!
# Addresses that a world shows

The address of a replica group, and the connection string over routers, are put together from the
addresses that the world outside shows at the moment. They can be written unless a number in them is
too long, and then it is that which fails; only for the want of a router there is another failure.
To look for them calls nothing.
-/

namespace ShardFleet

namespace Address

variable {name : Key} {scheme text : String} {addresses : List Address} {failure : Failure}

theorem checkWritable_eq_error_iff {address : Address} :
    address.checkWritable = .error failure ↔
      address.isWritable = false ∧ failure = .integerTooLong := by
  rw [checkWritable]
  split
  · next writable => simp only [writable, Bool.true_eq_false, false_and, reduceCtorEq]
  · next unwritable =>
      rw [Except.error.injEq, eq_comm, and_iff_right (Bool.not_eq_true _ ▸ unwritable)]

theorem writeReplicaSet_eq_ok_iff :
    writeReplicaSet name addresses = .ok text ↔
      (name.isWritable ∧ ∀ address ∈ addresses, address.isWritable) ∧
        text = ofReplicaSet name.toText addresses := by
  rw [writeReplicaSet, ← List.all_eq_true, ← Bool.and_eq_true]
  split
  · next writable => rw [Except.ok.injEq, eq_comm, and_iff_right writable]
  · next unwritable => simp only [unwritable, false_and, reduceCtorEq]

theorem writeReplicaSet_eq_error_iff :
    writeReplicaSet name addresses = .error failure ↔
      ¬(name.isWritable ∧ ∀ address ∈ addresses, address.isWritable) ∧
        failure = .integerTooLong := by
  rw [writeReplicaSet, ← List.all_eq_true, ← Bool.and_eq_true]
  split
  · next writable => simp only [writable, not_true_eq_false, false_and, reduceCtorEq]
  · next unwritable => rw [Except.error.injEq, eq_comm, and_iff_right unwritable]

/-- Whether there is a router is looked at first. -/
theorem writeConnectionString_cons (scheme : String) (first : Address) (others : List Address) :
    writeConnectionString scheme (first :: others) =
      if (first :: others).all isWritable then .ok (scheme ++ "://" ++ joined (first :: others))
      else .error .integerTooLong := rfl

theorem writeConnectionString_eq_ok_iff :
    writeConnectionString scheme addresses = .ok text ↔
      (addresses ≠ [] ∧ ∀ address ∈ addresses, address.isWritable) ∧
        text = scheme ++ "://" ++ joined addresses := by
  cases addresses with
  | nil => simp only [writeConnectionString, connectionString?, List.isEmpty_nil, if_true,
      reduceCtorEq, ne_eq, not_true_eq_false, false_and]
  | cons first others =>
      rw [writeConnectionString_cons, and_iff_right (List.cons_ne_nil first others),
        ← List.all_eq_true]
      split
      · next writable => rw [Except.ok.injEq, eq_comm, and_iff_right writable]
      · next unwritable => simp only [unwritable, false_and, reduceCtorEq]

theorem writeConnectionString_eq_error_iff :
    writeConnectionString scheme addresses = .error failure ↔
      addresses = [] ∧ failure = .misconfigured .noRouters ∨
        addresses ≠ [] ∧ ¬(∀ address ∈ addresses, address.isWritable) ∧
          failure = .integerTooLong := by
  cases addresses with
  | nil => simp only [writeConnectionString, connectionString?, List.isEmpty_nil, if_true,
      Except.error.injEq, ne_eq, not_true_eq_false, false_and, or_false, true_and, eq_comm]
  | cons first others =>
      rw [writeConnectionString_cons, and_iff_right (List.cons_ne_nil first others),
        or_iff_right fun routerless => List.cons_ne_nil first others routerless.1,
        ← List.all_eq_true]
      split
      · next writable => simp only [writable, not_true_eq_false, false_and, reduceCtorEq]
      · next unwritable => rw [Except.error.injEq, eq_comm, and_iff_right unwritable]

end Address

open ShardFleet.Action

variable {ω : Type} [Outside ω] {allowed : Call → Prop}

namespace ReplicaGroup

/-- The address of a group as a replica set, as a world outside shows it, if it can be written. -/
def shownAddress (group : ReplicaGroup) (named : Bool) (outside : ω) : Except Failure String :=
  Address.writeReplicaSet group.name (group.members.map fun member =>
    if named then Outside.namedAddress outside member else Outside.clientAddress outside member)

theorem replicaSetAddress_eq (group : ReplicaGroup) (named : Bool) (session : Session ω) :
    group.replicaSetAddress named session =
      conclude (group.shownAddress named session.outside) session := rfl

theorem replicaSetAddress_callsOnly (group : ReplicaGroup) (named : Bool) :
    CallsOnly allowed (group.replicaSetAddress named : Action ω String) := by
  apply (CallsOnly.view _).bind
  intro addresses
  exact .conclude _

end ReplicaGroup

namespace Router

/-- The address over routers, as a world outside shows it, if there is one. -/
def shownAddress (routers : List Router) (outside : ω) : Except Failure String :=
  Address.writeConnectionString Address.defaultScheme
    (routers.map fun router => Outside.clientAddress outside router.handle)

theorem connectionString_eq (routers : List Router) (session : Session ω) :
    connectionString routers session =
      conclude (shownAddress routers session.outside) session := rfl

theorem connectionString_callsOnly (routers : List Router) :
    CallsOnly allowed (connectionString routers : Action ω String) := by
  apply (CallsOnly.view _).bind
  intro addresses
  exact .conclude _

end Router

end ShardFleet
