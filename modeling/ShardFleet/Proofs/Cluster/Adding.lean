import ShardFleet.Proofs.Cluster.Channels
import ShardFleet.Proofs.Cluster.Joining
import ShardFleet.Proofs.Cluster.Ownership
import ShardFleet.Proofs.Cluster.Serials
import ShardFleet.Proofs.StartOrder.StartUp

/-!
# The three ways out of adding a shard

A shard that is added is built, started and registered, and what fails on the way decides where it
ends up. Before it is started, no channel has been opened and the cluster lists nothing new; once it
is started, it is listed in any case, among the shards of the topology if it has been registered
and among the unregistered ones if not. No other component is touched.
-/

namespace ShardFleet

open ShardFleet.Action

variable {ω α β : Type}

namespace Failure

/-- Why no group is made of a replica set: it has no members, or there is a number in its name or in
an address of a member that is too long to be written. -/
inductive RefusesGroup : Failure → Prop where
  | memberless (name : Key) : RefusesGroup (.misconfigured (.emptyGroup name))
  | unwritten : RefusesGroup .integerTooLong

theorem RefusesGroup.of_emptyRefusal (name : Key) :
    RefusesGroup (ReplicaGroup.emptyRefusal name) := by
  unfold ReplicaGroup.emptyRefusal
  split
  · exact .memberless name
  · exact .unwritten

/-- How the failure of a registration is raised: one that tells of a timeout is given the shard. -/
inductive Carries (shard : ReplicaGroup) : Failure → Failure → Prop where
  | timeout (description : Value) (elapsed : Int) (held : Option ReplicaGroup) :
      Carries shard (.membershipTimeout description elapsed held)
        (.membershipTimeout description elapsed (some shard))
  | other {failure : Failure}
      (untimed : ∀ description elapsed held,
        failure ≠ .membershipTimeout description elapsed held) :
      Carries shard failure failure

theorem carries_leaving (shard : ReplicaGroup) (failure : Failure) :
    failure.Carries shard (failure.leaving shard) := by
  unfold leaving
  split
  · exact .timeout _ _ _
  · rename_i untimed
    exact .other untimed

end Failure

namespace Action

/-- A computation ends at the first call that fails, or with one of the other failures. -/
abbrev RaisesFirst (others : Failure → Prop) (action : Action ω α) : Prop :=
  Traces (fun calls result => Raises others calls (result.map fun _ => ())) action

namespace RaisesFirst

variable {others : Failure → Prop} {action : Action ω α} {next : α → Action ω β}

theorem bind (first : RaisesFirst others action) (rest : ∀ value, RaisesFirst others (next value)) :
    RaisesFirst others (action >>= next) := by
  apply Traces.bind first
  · intro calls failure raises
    exact raises
  · intro calls value raises
    refine (rest value).mono fun later result follows => ?_
    exact Raises.append raises follows

theorem pure (value : α) : RaisesFirst others (Pure.pure value : Action ω α) :=
  Traces.pure value Raises.nil_ok

theorem perform [Outside ω] {call : Call} (still : call.isTransition = false) :
    RaisesFirst others (Action.perform call : Action ω call.Answer) := by
  apply (Traces.perform still).mono
  rintro calls answer rfl
  cases answer <;> simp [Raises, Event.failure?, Except.map]

end RaisesFirst

end Action

variable [Outside ω]

namespace ReplicaGroup

theorem configure_raises (group : ReplicaGroup) (members : List Handle) :
    RaisesFirst Failure.RefusesGroup (group.configure members : Action ω Unit) := by
  induction members with
  | nil => exact .pure ()
  | cons member rest ih =>
      apply Traces.view_bind
      intro address
      apply Traces.conclude_bind
      · intro failure unwritten
        rw [(Address.checkWritable_eq_error_iff.mp unwritten).2]
        exact Raises.nil_error .unwritten
      · intro _ _
        exact (RaisesFirst.perform rfl).bind fun _ => ih

theorem ofHandle_raises (handle : Handle) (holdsConfig : Bool) :
    RaisesFirst Failure.RefusesGroup (ofHandle handle holdsConfig : Action ω ReplicaGroup) := by
  apply Traces.view_bind
  intro members
  apply Traces.view_bind
  intro name
  split
  · exact Traces.throw _ (Raises.nil_error (.of_emptyRefusal name))
  · apply RaisesFirst.bind _ fun component => RaisesFirst.pure _
    apply Traces.freshSerial_bind
    intro serial
    exact RaisesFirst.pure _

theorem build_raises (order : ReplicaSetOrder) :
    RaisesFirst Failure.RefusesGroup (build order : Action ω ReplicaGroup) := by
  apply (RaisesFirst.perform rfl).bind
  intro handle
  apply (ofHandle_raises handle _).bind
  intro group
  exact (group.configure_raises group.members).bind fun _ => .pure group

end ReplicaGroup

/-- The calls of building a shard of the name given. -/
structure Builds (name : String) (calls : List Event) (result : Except Failure ReplicaGroup) :
    Prop where
  constructs : CalledOnly (Call.Constructs (· = name)) calls
  raises : Raises Failure.RefusesGroup calls (result.map fun _ => ())

theorem Blueprint.buildShard_traces {blueprint : Blueprint}
    (writable : blueprint.namespacePrefix.checkWritable = .ok ()) (index : ℕ) :
    Traces (Builds (shardName index)) (blueprint.buildShard index : Action ω ReplicaGroup) := by
  have raises : RaisesFirst Failure.RefusesGroup
      (blueprint.buildShard index : Action ω ReplicaGroup) := by
    rw [buildShard, writable]
    apply (ReplicaGroup.build_raises _).bind
    intro shard
    exact Traces.log_bind (RaisesFirst.pure shard)
  intro session
  rcases raises session with ⟨events, result, after, run, evolves, raised⟩
  have builds : CallsOnly (Call.Constructs (· = shardName index))
      (blueprint.buildShard index : Action ω ReplicaGroup) := blueprint.buildShard_callsOnly rfl
  rcases builds session with ⟨same, within⟩
  rw [finalState_of_conclude run] at within
  rw [within.evolves.unique evolves] at within
  refine ⟨events, result, after, run, evolves, ?_, raised⟩
  intro call answer member
  exact within.calls call answer (List.mem_filter.mp member).1

omit [Outside ω] in
theorem Builds.statesAfter_eq {name : String} {calls : List Event}
    {result : Except Failure ReplicaGroup} (builds : Builds name calls result) (states : States) :
    statesAfter states calls = states := by
  apply Session.statesAfter_of_no_transition
  intro call answer member
  have constructs := builds.constructs call answer member
  cases call <;> first | rfl | exact constructs.elim

/-- The calls of building a shard and starting it. -/
inductive BringsUp (name : String) : List Event → Except Failure ReplicaGroup → Prop where
  | unbuilt {calls : List Event} {failure : Failure} (builds : Builds name calls (.error failure)) :
      BringsUp name calls (.error failure)
  | unstarted {building : List Event} {shard : ReplicaGroup}
      (builds : Builds name building (.ok shard)) (failure : Failure) :
      BringsUp name (building ++ [.called (.start shard.toComponent) (.error failure)])
        (.error failure)
  | started {building : List Event} {shard : ReplicaGroup}
      (builds : Builds name building (.ok shard)) :
      BringsUp name (building ++ [.called (.start shard.toComponent) (.ok ())]) (.ok shard)

namespace BringsUp

variable {name : String} {calls : List Event} {shard : ReplicaGroup} {failure : Failure}

/-- Nothing here has to do with a channel. -/
theorem isApart {result : Except Failure ReplicaGroup} (brings : BringsUp name calls result) :
    CalledOnly Call.IsApart calls := by
  have building {calls : List Event} {result : Except Failure ReplicaGroup}
      (builds : Builds name calls result) : CalledOnly Call.IsApart calls :=
    builds.constructs.mono fun _ => Call.Constructs.isApart
  cases brings with
  | unbuilt builds => exact building builds
  | unstarted builds => exact (building builds).append (.single trivial)
  | started builds => exact (building builds).append (.single trivial)

theorem statesAfter_of_error (brings : BringsUp name calls (.error failure)) (states : States) :
    statesAfter states calls = states := by
  cases brings with
  | unbuilt builds => exact builds.statesAfter_eq states
  | unstarted builds => simp [builds.statesAfter_eq, Event.change]

theorem statesAfter_of_ok (brings : BringsUp name calls (.ok shard)) (states : States) :
    statesAfter states calls = Function.update states shard.toComponent .started := by
  cases brings with
  | started builds => simp [builds.statesAfter_eq, Event.change]

end BringsUp

namespace Operation

/-- What adding a shard comes to: its calls, what it gives, and the cluster in its session after
it. -/
inductive AddEnds (before : Running ω) :
    List Event → Except Failure ReplicaGroup → Running ω → Prop where
  /-- Not built or not started: no channel was opened, and nothing more is listed. -/
  | unstarted {calls : List Event} {failure : Failure} {session : Session ω}
      (brings : BringsUp (Blueprint.shardName (before.cluster.shardsCreated + 1)) calls
        (.error failure))
      (apart : CalledOnly Call.IsApart calls)
      (states : session.stateOf = before.session.stateOf) :
      AddEnds before calls (.error failure) ⟨before.cluster.counted, session⟩
  /-- Started, but not registered. -/
  | stranded {calls registering : List Event} {shard : ReplicaGroup} {failure raised : Failure}
      {up session : Session ω}
      (brings : BringsUp (Blueprint.shardName (before.cluster.shardsCreated + 1)) calls (.ok shard))
      (reached : ∃ events, before.session.Evolves events up ∧ events.filter Event.isCall = calls)
      (new : before.session.nextSerial ≤ shard.serial)
      (registers : Registers before.cluster shard up.outside registering (.error failure))
      (carries : failure.Carries shard raised)
      (states : session.stateOf =
        Function.update before.session.stateOf shard.toComponent .started) :
      AddEnds before (calls ++ registering) (.error raised)
        ⟨before.cluster.stranded shard, session⟩
  | joined {calls registering : List Event} {shard : ReplicaGroup} {up session : Session ω}
      (brings : BringsUp (Blueprint.shardName (before.cluster.shardsCreated + 1)) calls (.ok shard))
      (reached : ∃ events, before.session.Evolves events up ∧ events.filter Event.isCall = calls)
      (new : before.session.nextSerial ≤ shard.serial)
      (registers : Registers before.cluster shard up.outside registering (.ok ()))
      (states : session.stateOf =
        Function.update before.session.stateOf shard.toComponent .started) :
      AddEnds before (calls ++ registering) (.ok shard) ⟨before.cluster.registered shard, session⟩

/-- A shard is added in one of these ways, and apart from it and the count of shards nothing is
different after that. -/
structure AddsOne (before : Running ω) (calls : List Event) (result : Except Failure ReplicaGroup)
    (after : Running ω) : Prop where
  ends : AddEnds before calls result after
  created : after.cluster.shardsCreated = before.cluster.shardsCreated + 1
  state : after.cluster.state = before.cluster.state
  order : after.cluster.order = before.cluster.order
  others : ∀ component, component.serial < before.session.nextSerial →
    after.session.stateOf component = before.session.stateOf component

variable {before after : Running ω} {calls : List Event} {result : Except Failure ReplicaGroup}

theorem AddEnds.addsOne (ends : AddEnds before calls result after) :
    AddsOne before calls result after := by
  have apart {states : States} {shard : ReplicaGroup} {component : Component}
      (new : before.session.nextSerial ≤ shard.serial)
      (old : component.serial < before.session.nextSerial) :
      Function.update states shard.toComponent .started component = states component := by
    apply Function.update_of_ne
    rintro rfl
    omega
  refine ⟨ends, ?_, ?_, ?_, ?_⟩
  · cases ends <;> rfl
  · cases ends <;> rfl
  · cases ends <;> rfl
  · intro component old
    cases ends with
    | unstarted brings apart states => exact congrFun states component
    | stranded brings reached new registers carries states =>
        exact (congrFun states component).trans (apart new old)
    | joined brings reached new registers states =>
        exact (congrFun states component).trans (apart new old)

/-- Nothing is started that has not been made yet. -/
def NoneAhead (session : Session ω) : Prop :=
  ∀ component, session.stateOf component = .started → component.serial < session.nextSerial

theorem bringsUp_of_start {index : ℕ} {shard : ReplicaGroup} {built up : Session ω}
    {outcome : Except Failure Bool}
    (writable : before.cluster.shape.blueprint.namespacePrefix.checkWritable = .ok ())
    (noneAhead : NoneAhead before.session)
    (builds : before.cluster.shape.blueprint.buildShard index before.session = .ok shard built)
    (starts : shard.toComponent.start built = conclude outcome up) :
    before.session.nextSerial ≤ shard.serial ∧ ∃ events, before.session.Evolves events up ∧
      BringsUp (Blueprint.shardName index) (events.filter Event.isCall)
        (outcome.map fun _ => shard) := by
  have made := (Blueprint.buildShard_eq_ok builds).1
  rcases (Blueprint.buildShard_traces writable index).of_ok builds with
    ⟨building, evolves, constructs⟩
  have idle : Transition.start.AppliesTo (built.stateOf shard.toComponent) := by
    rw [evolves.states_of_calls, constructs.statesAfter_eq]
    intro started
    have := noneAhead _ started
    have := made.1
    omega
  rcases Transition.calls_of_run
    (show Transition.start.run shard.toComponent built = _ from starts) with
    ⟨events, starting, called⟩
  rcases called with ⟨up, -⟩ | ⟨-, calls⟩
  · exact absurd idle up
  · refine ⟨made.1, _, evolves.trans starting, ?_⟩
    rw [List.filter_append, calls]
    cases outcome with
    | error failure => exact .unstarted constructs failure
    | ok answer => exact .started constructs

/-- A registration calls nothing that would change the state of a component. -/
theorem registers_of_register {shard : ReplicaGroup} {up left : Session ω}
    {outcome : Except Failure Unit}
    (registers : before.cluster.register shard up = conclude outcome left) :
    ∃ events, up.Evolves events left ∧
      Registers before.cluster shard up.outside (events.filter Event.isCall) outcome ∧
      left.stateOf = up.stateOf := by
  rcases (before.cluster.register_tracesFrom shard up).of_conclude registers with
    ⟨events, evolves, traced⟩
  rcases before.cluster.register_callsOnly shard up with ⟨others, within⟩
  rw [finalState_of_conclude registers] at within
  exact ⟨events, evolves, traced, within.stateOf_eq⟩

theorem addShard_addsOne
    (writable : before.cluster.shape.blueprint.namespacePrefix.checkWritable = .ok ())
    (noneAhead : NoneAhead before.session) :
    ∃ result events after, addShard before = conclude result after ∧
      before.session.Evolves events after.session ∧
      AddsOne before (events.filter Event.isCall) result after := by
  have course := addShard_course before
  generalize addShard before = outcome at course ⊢
  cases course with
  | unbuilt builds =>
      rcases (Blueprint.buildShard_traces writable _).of_error builds with
        ⟨events, evolves, constructs⟩
      have brings := BringsUp.unbuilt constructs
      refine ⟨.error _, events, _, rfl, evolves, AddEnds.addsOne ?_⟩
      refine .unstarted brings brings.isApart ?_
      rw [evolves.states_of_calls, brings.statesAfter_of_error]
  | unstarted builds starts =>
      rcases bringsUp_of_start writable noneAhead builds
        (show _ = conclude (.error _) _ from starts) with
        ⟨-, events, evolves, brings⟩
      refine ⟨.error _, events, _, rfl, evolves, AddEnds.addsOne ?_⟩
      refine .unstarted brings brings.isApart ?_
      rw [evolves.states_of_calls, brings.statesAfter_of_error]
  | @stranded shard built up left called failure entry builds starts registers =>
      rcases bringsUp_of_start writable noneAhead builds
        (show _ = conclude (.ok called) _ from starts) with
        ⟨new, events, evolves, brings⟩
      rcases registers_of_register
        (show _ = conclude (.error failure) _ from registers) with
        ⟨later, registering, traced, still⟩
      have whole := (evolves.trans registering).trans (.logged left entry)
      refine ⟨.error _, _, _, rfl, whole, AddEnds.addsOne ?_⟩
      rw [filter_isCall_logged, List.filter_append]
      refine .stranded brings ⟨events, evolves, rfl⟩ new traced (failure.carries_leaving shard) ?_
      change left.stateOf = _
      rw [still, evolves.states_of_calls, brings.statesAfter_of_ok]
  | @joined shard built up session called builds starts registers =>
      rcases bringsUp_of_start writable noneAhead builds
        (show _ = conclude (.ok called) _ from starts) with
        ⟨new, events, evolves, brings⟩
      rcases registers_of_register
        (show _ = conclude (.ok ()) _ from registers) with
        ⟨later, registering, traced, still⟩
      refine ⟨.ok shard, _, _, rfl, evolves.trans registering, AddEnds.addsOne ?_⟩
      rw [List.filter_append]
      refine .joined brings ⟨events, evolves, rfl⟩ new traced ?_
      rw [still, evolves.states_of_calls, brings.statesAfter_of_ok]

end Operation

namespace Request

open ShardFleet.Operation

variable {shape : ClusterShape} {source : ChannelSource} {patience : ℕ} {cluster : Cluster}

theorem runAll_noneAhead {world : ω} {session : Session ω}
    (built : Cluster.build shape source patience (Session.fresh world) = .ok cluster session)
    (requests : List Request) : NoneAhead (runAll requests ⟨cluster, session⟩).session := by
  rcases Cluster.build_eq_ok built with ⟨building, isNew⟩
  apply runAll_induction (motive := fun _ after => NoneAhead after.session) ⟨cluster, session⟩
    isNew.blueprint_writable
  · intro component started
    exact absurd started (isNew.unstarted component)
  · intro earlier request events after noneAhead evolves yielded ran component started
    rw [evolves.states] at started
    -- What is started now belongs to the cluster, and whatever belongs to it has been made.
    rcases started_of_statesAfter started with before | came
    · exact Nat.lt_of_lt_of_le (noneAhead component before) evolves.serials
    · subst ran
      have apart := runAll_apart built (earlier ++ [request])
      rw [runAll_append] at apart
      exact apart.below component (yielded.owns came)

/-- Whatever a new cluster has been asked for, and whatever fails on the way, a shard is added in
one of three ways. -/
theorem addShard_in_three_ways {world : ω} {session : Session ω}
    (built : Cluster.build shape source patience (Session.fresh world) = .ok cluster session)
    (requests : List Request) :
    ∃ result events after,
      Operation.addShard (runAll requests ⟨cluster, session⟩) = conclude result after ∧
      (runAll requests ⟨cluster, session⟩).session.Evolves events after.session ∧
      AddsOne (runAll requests ⟨cluster, session⟩) (events.filter Event.isCall) result after := by
  rcases Cluster.build_eq_ok built with ⟨building, isNew⟩
  apply addShard_addsOne
  · rw [runAll_shape _ isNew.blueprint_writable]
    exact isNew.blueprint_writable
  · exact runAll_noneAhead built requests

/-- In a namespace where nothing becomes active, the next shard is added in the second way. -/
theorem addShard_in_three_ways_simulated :
    ∃ (cluster : Cluster) (session : Session Simulation.World)
      (result : Except Failure ReplicaGroup) (events : List Event)
      (after : Running Simulation.World),
      Cluster.build { membership := { timeout := .int 0 } } .supplied Simulation.patience
        (Session.fresh { admin := { neverActivate := true } }) = .ok cluster session ∧
      Operation.addShard (runAll [.start] ⟨cluster, session⟩) = conclude result after ∧
      AddsOne (runAll [.start] ⟨cluster, session⟩) (events.filter Event.isCall) result after ∧
      after.cluster.unregistered.map (·.name) = [.text "shard2"] := by
  have strands : returnsWith (fun cluster session =>
      decide ((finalState Operation.addShard
        (runAll [.start] ⟨cluster, session⟩)).cluster.unregistered.map (·.name) =
          [.text "shard2"]))
      (Cluster.build { membership := { timeout := .int 0 } } .supplied Simulation.patience
        (Session.fresh ({ admin := { neverActivate := true } } : Simulation.World))) = true := by
    decide +kernel
  rcases exists_of_returnsWith strands with ⟨cluster, session, built, stranded⟩
  rcases addShard_in_three_ways built [.start] with ⟨result, events, after, ran, evolves, adds⟩
  rw [finalState_of_conclude ran] at stranded
  exact ⟨cluster, session, result, events, after, built, ran, adds, of_decide_eq_true stranded⟩

end Request

end ShardFleet
