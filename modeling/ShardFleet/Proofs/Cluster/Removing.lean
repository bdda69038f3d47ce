import ShardFleet.Proofs.Cluster.Course
import ShardFleet.Proofs.Cluster.Introductions
import ShardFleet.Proofs.StartOrder.StartUp

/-!
# A shard is drained before it is stopped

A removal asks for the last shard to be removed, again and again on one channel, until a response
says that this is completed. Only when the channel has been closed after that is the shard dropped,
and only then is it stopped. Whatever fails before leaves the cluster and all components as they
were.
-/

namespace ShardFleet

open ShardFleet.Action

variable {ω : Type}

namespace Admin

/-- The response says that the removal is completed. -/
def TellsCompleted (response : Value) : Prop :=
  ∃ entries, response = .mapping entries ∧
    entries.field? "state" = some (.text completedState)

theorem tellsCompleted_of_read {response : Value} (reads : readRemoved response = .ok true) :
    TellsCompleted response := by
  cases response with
  | mapping entries =>
      refine ⟨entries, rfl, ?_⟩
      simp only [readRemoved, Value.fieldOf, Except.ok.injEq] at reads
      cases given : entries.field? "state" with
      | none => simp [given, Value.isText] at reads
      | some state =>
          rw [given] at reads
          cases state with
          | text text => exact congrArg some (congrArg Value.text (eq_of_beq reads))
          | _ => cases reads
  | _ => cases reads

end Admin

/-- A call that repeats one command, or a wait between two of them. -/
def Call.Repeats (sent : AdminCommand) (call : Call) : Prop := call = .command sent ∨ call.IsSleep

theorem Call.Repeats.onChannel {sent : AdminCommand} {call : Call} (repeats : call.Repeats sent) :
    call.OnChannel (· = sent) := by
  rcases repeats with rfl | sleeps
  · exact rfl
  · cases call <;> first | exact sleeps.elim | trivial

theorem Polls.repeats {sent : AdminCommand} {reading : Value → Except Failure Bool}
    {description : Value} {limit : ℕ} {calls : List Event} {result : Except Failure Unit}
    (polls : Polls sent reading description limit calls result) :
    CalledOnly (Call.Repeats sent) calls := by
  have looks (answer : Except Failure Value) :
      CalledOnly (Call.Repeats sent) [.called (.command sent) answer] := .single (Or.inl rfl)
  induction polls with
  | abandoned => exact .nil
  | unslept => exact .cons (looks _) (.single (Or.inr trivial))
  | again reads more ih => exact .append (.cons (looks _) (.single (Or.inr trivial))) ih
  | _ => exact looks _

/-- The calls of draining a shard, once the channel is open. -/
inductive Empties (cluster : Cluster) (shard : ReplicaGroup) :
    List Event → Except Failure Unit → Prop where
  /-- What is waited for is worded with the name of the shard. -/
  | unnamed (unwritten : shard.name.isWritable = false) :
      Empties cluster shard [] (.error .integerTooLong)
  | unset {result : Except Failure Unit} (unset : cluster.shape.membership.Unset result) :
      Empties cluster shard [] result
  | waits {calls : List Event} {result : Except Failure Unit}
      (polls : Polls (AdminCommand.removing shard.nameValue) Admin.readRemoved
        (.text ("shard " ++ shard.name.toText ++ " removal to complete")) cluster.patience calls
        result) :
      Empties cluster shard calls result

/-- The calls of draining a shard, on a channel to the routers that the world given shows. -/
abbrev Drains [Outside ω] (cluster : Cluster) (shard : ReplicaGroup) (outside : ω) :
    List Event → Except Failure Unit → Prop :=
  cluster.channel.Visits (Router.shownAddress cluster.topology.routers outside)
    (Empties cluster shard)

section drain

variable [Outside ω] (cluster : Cluster) (shard : ReplicaGroup)

theorem Cluster.drain_tracesFrom (session : Session ω) :
    TracesFrom session (Drains cluster shard session.outside) (cluster.drain shard) := by
  have empties : Traces (Empties cluster shard) (do
      conclude shard.nameValue.checkWritable
      cluster.awaitMembership ("shard " ++ shard.name.toText ++ " removal to complete")
        (Admin.isShardRemoved cluster.channel shard.nameValue) : Action ω Unit) := by
    apply Traces.conclude_bind
    · intro failure unwritten
      rcases Key.checkWritable_toValue_eq_error.mp unwritten with ⟨long, rfl⟩
      exact .unnamed long
    · intro _ _
      rw [Admin.isShardRemoved_eq]
      refine (Traces.awaitMembership (.look _ _ _) cluster _).mono ?_
      rintro calls result (⟨rfl, unset⟩ | polls)
      · exact .unset unset
      · exact .waits polls
  apply TracesFrom.read_bind (Router.connectionString_eq cluster.topology.routers session)
  · exact fun failure lacks => .unaddressed lacks
  · intro address shows
    exact (empties.during session).mono fun calls result => .addressed shows

end drain

/-! ## One channel -/

/-- Every command among the calls is the one given, and since the first call, which opened a
channel, there has been nothing but such commands and waits between them. -/
def OnOneChannel (channel : Channel) (sent : AdminCommand) (calls : List Event) : Prop :=
  ∀ earlier other answer later, calls = earlier ++ .called (.command other) answer :: later →
    other = sent ∧ ∃ address waited, earlier = channel.opened address (.ok ()) :: waited ∧
      CalledOnly (Call.Repeats sent) waited

namespace OnOneChannel

variable {channel : Channel} {sent : AdminCommand} {calls tail inside : List Event}

theorem of_silent (silent : CalledOnly (Call.Issues fun _ => False) calls) :
    OnOneChannel channel sent calls := by
  rintro earlier other answer later rfl
  exact (silent (.command other) answer (List.mem_append_right _ List.mem_cons_self)).elim

theorem held (address : String) (repeats : CalledOnly (Call.Repeats sent) inside) :
    OnOneChannel channel sent ([channel.opened address (.ok ())] ++ inside) := by
  intro earlier other answer later split
  cases earlier with
  | nil => cases channel <;> cases split
  | cons first waited =>
      rcases List.cons.inj split with ⟨rfl, rfl⟩
      have issued := repeats _ _ (List.mem_append_right waited List.mem_cons_self)
      refine ⟨?_, address, waited, rfl, ?_⟩
      · rcases issued with same | sleeps
        · cases same
          rfl
        · exact sleeps.elim
      · intro call outcome member
        exact repeats call outcome (List.mem_append_left _ member)

theorem append_silent (held : OnOneChannel channel sent calls)
    (silent : CalledOnly (Call.Issues fun _ => False) tail) :
    OnOneChannel channel sent (calls ++ tail) := by
  intro earlier other answer later split
  have apart : ∀ early, tail ≠ early ++ .called (.command other) answer :: later := by
    rintro early rfl
    exact silent _ _ (List.mem_append_right _ List.mem_cons_self)
  rcases List.append_eq_append_iff.mp split with ⟨more, _, behind⟩ | ⟨more, same, ahead⟩
  · exact absurd behind (apart more)
  · cases more with
    | nil => exact absurd ahead.symm (apart [])
    | cons event rest =>
        rcases List.cons.inj ahead with ⟨rfl, -⟩
        exact held earlier other answer rest same

end OnOneChannel

namespace Channel

theorem opened_isIdle (channel : Channel) (address : String) (answer : Except Failure Unit) :
    CalledOnly Call.IsIdle [channel.opened address answer] := by
  cases channel <;> exact .single trivial

theorem closed_isIdle (channel : Channel) (answer : Except Failure Unit) :
    CalledOnly Call.IsIdle [channel.closed answer] := by
  cases channel <;> exact .single trivial

end Channel

/-- What is at the end of a list and nowhere before it. -/
theorem eq_of_append_singleton {α : Type} {front earlier later : List α} {final item : α}
    (split : front ++ [final] = earlier ++ item :: later) (absent : item ∉ front) :
    earlier = front ∧ item = final ∧ later = [] := by
  rcases List.eq_nil_or_concat later with rfl | ⟨rest, other, rfl⟩
  · rcases List.append_inj' split rfl with ⟨rfl, same⟩
    exact ⟨rfl, (List.cons.inj same).1.symm, rfl⟩
  · rw [List.concat_eq_append, ← List.cons_append, ← List.append_assoc] at split
    rcases List.append_inj' split rfl with ⟨rfl, -⟩
    exact absurd (List.mem_append_right _ List.mem_cons_self) absent

section drains

variable {cluster : Cluster} {shard : ReplicaGroup} {calls : List Event}
  {result : Except Failure Unit}

theorem Empties.repeats (empties : Empties cluster shard calls result) :
    CalledOnly (Call.Repeats (AdminCommand.removing shard.nameValue)) calls := by
  cases empties with
  | unnamed | unset => exact .nil
  | waits polls => exact polls.repeats

theorem Empties.completed (empties : Empties cluster shard calls (.ok ())) :
    ∃ response, .called (.command (AdminCommand.removing shard.nameValue)) (.ok response) ∈ calls ∧
      Admin.TellsCompleted response := by
  cases empties with
  | unset unset =>
      rcases unset with ⟨failure, same, -⟩
      cases same
  | waits polls =>
      rcases polls.held_of_ok rfl with ⟨response, member, reads⟩
      exact ⟨response, member, Admin.tellsCompleted_of_read reads⟩

namespace Drains

variable [Outside ω] {outside : ω}

theorem onOneChannel (drains : Drains cluster shard outside calls result) :
    OnOneChannel cluster.channel (AdminCommand.removing shard.nameValue) calls := by
  have closes (answer : Except Failure Unit) :
      CalledOnly (Call.Issues fun _ => False) [cluster.channel.closed answer] :=
    (cluster.channel.closed_isIdle answer).mono fun _ => Call.OnChannel.issues
  cases drains with
  | unaddressed lacks => exact .of_silent .nil
  | addressed shows during =>
      cases during with
      | unopened failure =>
          apply OnOneChannel.of_silent
          exact (cluster.channel.opened_isIdle _ _).mono fun _ => Call.OnChannel.issues
      | closed empties =>
          apply OnOneChannel.append_silent _ (closes _)
          exact .held _ empties.repeats
      | unclosed empties failure =>
          apply OnOneChannel.append_silent _ (closes _)
          exact .held _ empties.repeats

theorem onChannel (drains : Drains cluster shard outside calls result) :
    CalledOnly (Call.OnChannel (· = AdminCommand.removing shard.nameValue)) calls := by
  have idle {events : List Event} (idle : CalledOnly Call.IsIdle events) :
      CalledOnly (Call.OnChannel (· = AdminCommand.removing shard.nameValue)) events :=
    idle.mono fun _ onChannel => onChannel.mono fun _ => False.elim
  have inside {events : List Event} {outcome : Except Failure Unit}
      (empties : Empties cluster shard events outcome) :
      CalledOnly (Call.OnChannel (· = AdminCommand.removing shard.nameValue)) events :=
    empties.repeats.mono fun _ => Call.Repeats.onChannel
  have opens (address : String) (answer : Except Failure Unit) :=
    idle (cluster.channel.opened_isIdle address answer)
  have closes (answer : Except Failure Unit) := idle (cluster.channel.closed_isIdle answer)
  cases drains with
  | unaddressed lacks => exact .nil
  | addressed shows during =>
      cases during with
      | unopened failure => exact opens _ _
      | closed empties => exact ((opens _ _).append (inside empties)).append (closes _)
      | unclosed empties failure => exact ((opens _ _).append (inside empties)).append (closes _)

theorem unstopping (drains : Drains cluster shard outside calls result) (component : Component)
    (answer : Except Failure Unit) : .called (.stop component) answer ∉ calls :=
  fun member => drains.onChannel _ _ member

/-- A draining that returns has heard of its completion, and has closed its channel then. -/
theorem completed (drains : Drains cluster shard outside calls (.ok ())) :
    ∃ address inside response,
      calls = [cluster.channel.opened address (.ok ())] ++ inside ++
        [cluster.channel.closed (.ok ())] ∧
      CalledOnly (Call.Repeats (AdminCommand.removing shard.nameValue)) inside ∧
      .called (.command (AdminCommand.removing shard.nameValue)) (.ok response) ∈ inside ∧
      Admin.TellsCompleted response := by
  cases drains with
  | addressed shows during =>
      cases during with
      | closed empties =>
          rcases empties.completed with ⟨response, member, tells⟩
          exact ⟨_, _, response, rfl, empties.repeats, member, tells⟩

end Drains

end drains

namespace Operation

/-- The component is that of the last shard, and the calls are one channel, opened and closed, with
nothing in between but requests to remove the shard, one of which was answered with completion. -/
def IsDraining (before : Running ω) (component : Component) (calls : List Event) : Prop :=
  ∃ target address inside response,
    before.cluster.topology.shards.getLast? = some target ∧ component = target.toComponent ∧
    calls = [before.cluster.channel.opened address (.ok ())] ++ inside ++
      [before.cluster.channel.closed (.ok ())] ∧
    CalledOnly (Call.Repeats (AdminCommand.removing target.nameValue)) inside ∧
    .called (.command (AdminCommand.removing target.nameValue)) (.ok response) ∈ inside ∧
    Admin.TellsCompleted response

/-- The last shard is stopped only once it is known to be drained, and as long as it is not, nothing
is different. -/
structure RemovesDrained (before : Running ω) (calls : List Event)
    (result : Except Failure ReplicaGroup) (after : Running ω) : Prop where
  shardless : before.cluster.topology.shards = [] →
    calls = [] ∧ result = .error (.misconfigured .noShards) ∧ after = before
  commands : ∀ target, before.cluster.topology.shards.getLast? = some target →
    OnOneChannel before.cluster.channel (AdminCommand.removing target.nameValue) calls
  /-- A stop is the last call, and the draining comes before it. -/
  stops : ∀ earlier component answer later,
    calls = earlier ++ .called (.stop component) answer :: later →
    later = [] ∧ IsDraining before component earlier
  /-- What fails before the stop leaves everything as it was. -/
  unstopped : ∀ failure, result = .error failure →
    (∀ component answer, .called (.stop component) answer ∉ calls) →
    after.cluster = before.cluster ∧ after.session.stateOf = before.session.stateOf
  returned : ∀ shard, result = .ok shard →
    before.cluster.topology.shards.getLast? = some shard ∧
    after.session.stateOf shard.toComponent ≠ .started ∧
    after.cluster = before.cluster.shortened ∧
    ∀ other, other ≠ shard.toComponent →
      after.session.stateOf other = before.session.stateOf other

variable [Outside ω]

/-- What removing a shard comes to: its calls, what it gives, and the cluster in its session after
it. -/
inductive RemoveEnds (before : Running ω) :
    List Event → Except Failure ReplicaGroup → Running ω → Prop where
  | shardless (empty : before.cluster.topology.shards = []) :
      RemoveEnds before [] (.error (.misconfigured .noShards)) before
  | undrained {shard : ReplicaGroup} {calls : List Event} {failure : Failure} {session : Session ω}
      (last : before.cluster.topology.shards.getLast? = some shard)
      (drains : Drains before.cluster shard before.session.outside calls (.error failure))
      (states : session.stateOf = before.session.stateOf) :
      RemoveEnds before calls (.error failure) ⟨before.cluster, session⟩
  /-- Drained, dropped, and not to be stopped. -/
  | idle {shard : ReplicaGroup} {calls : List Event} {session : Session ω}
      (last : before.cluster.topology.shards.getLast? = some shard)
      (drains : Drains before.cluster shard before.session.outside calls (.ok ()))
      (idle : before.session.stateOf shard.toComponent ≠ .started)
      (states : session.stateOf = before.session.stateOf) :
      RemoveEnds before calls (.ok shard) ⟨before.cluster.shortened, session⟩
  | unstopped {shard : ReplicaGroup} {calls : List Event} {failure : Failure} {session : Session ω}
      (last : before.cluster.topology.shards.getLast? = some shard)
      (drains : Drains before.cluster shard before.session.outside calls (.ok ()))
      (states : session.stateOf = before.session.stateOf) :
      RemoveEnds before (calls ++ [.called (.stop shard.toComponent) (.error failure)])
        (.error failure) ⟨before.cluster.shortened, session⟩
  | stopped {shard : ReplicaGroup} {calls : List Event} {session : Session ω}
      (last : before.cluster.topology.shards.getLast? = some shard)
      (drains : Drains before.cluster shard before.session.outside calls (.ok ()))
      (states : session.stateOf =
        Function.update before.session.stateOf shard.toComponent .stopped) :
      RemoveEnds before (calls ++ [.called (.stop shard.toComponent) (.ok ())]) (.ok shard)
        ⟨before.cluster.shortened, session⟩

variable {before after : Running ω} {calls : List Event} {result : Except Failure ReplicaGroup}

/-- Where a stop comes last, it is the only one. -/
theorem stops_of_last {draining : List Event} {shard : ReplicaGroup}
    {outcome : Except Failure Unit}
    (last : before.cluster.topology.shards.getLast? = some shard)
    (drains : Drains before.cluster shard before.session.outside draining (.ok ()))
    {earlier later : List Event} {component : Component} {answer : Except Failure Unit}
    (split : draining ++ [.called (.stop shard.toComponent) outcome] =
      earlier ++ .called (.stop component) answer :: later) :
    later = [] ∧ IsDraining before component earlier := by
  rcases eq_of_append_singleton split (drains.unstopping _ _) with ⟨rfl, same, rfl⟩
  cases same
  rcases drains.completed with ⟨address, inside, response, shape, repeats, member, tells⟩
  exact ⟨rfl, shard, address, inside, response, last, rfl, shape, repeats, member, tells⟩

theorem RemoveEnds.removesDrained (ends : RemoveEnds before calls result after) :
    RemovesDrained before calls result after where
  shardless empty := by
    cases ends with
    | shardless => exact ⟨rfl, rfl, rfl⟩
    | undrained last | idle last | unstopped last | stopped last => simp [empty] at last
  commands target last := by
    have silent (shard : ReplicaGroup) (answer : Except Failure Unit) :
        CalledOnly (Call.Issues fun _ => False) [.called (.stop shard.toComponent) answer] :=
      .single trivial
    cases ends with
    | shardless empty => simp [empty] at last
    | undrained given drains | idle given drains =>
        cases given.symm.trans last
        exact drains.onOneChannel
    | unstopped given drains | stopped given drains =>
        cases given.symm.trans last
        exact drains.onOneChannel.append_silent (silent _ _)
  stops earlier component answer later split := by
    cases ends with
    | shardless => simp at split
    | undrained last drains | idle last drains =>
        subst split
        exact absurd (List.mem_append_right _ List.mem_cons_self) (drains.unstopping _ _)
    | unstopped last drains | stopped last drains => exact stops_of_last last drains split
  unstopped failure failed unstopping := by
    cases ends with
    | shardless => exact ⟨rfl, rfl⟩
    | undrained last drains states => exact ⟨rfl, states⟩
    | unstopped last drains states =>
        exact absurd (List.mem_append_right _ List.mem_cons_self) (unstopping _ _)
    | idle | stopped => cases failed
  returned shard given := by
    cases ends with
    | idle last drains idle states =>
        cases given
        exact ⟨last, states ▸ idle, rfl, fun other _ => congrFun states other⟩
    | stopped last drains states =>
        cases given
        refine ⟨last, ?_, rfl, fun other differs => ?_⟩
        · simp [states]
        · simp [states, differs]
    | shardless | undrained | unstopped => cases given

/-- Draining calls nothing that would change the state of a component. -/
theorem drains_of_drain {shard : ReplicaGroup} {entry : LogEntry} {drained : Session ω}
    {outcome : Except Failure Unit}
    (drains : before.cluster.drain shard (before.session.record (.logged entry)) =
      conclude outcome drained) :
    ∃ events, before.session.Evolves events drained ∧
      Drains before.cluster shard before.session.outside (events.filter Event.isCall) outcome ∧
      drained.stateOf = before.session.stateOf := by
  rcases (before.cluster.drain_tracesFrom shard _).of_conclude drains with
    ⟨events, evolves, traced⟩
  rcases before.cluster.drain_callsOnly shard (before.session.record (.logged entry)) with
    ⟨others, within⟩
  rw [finalState_of_conclude drains] at within
  exact ⟨_, (Session.Evolves.logged _ entry).trans evolves, traced, within.stateOf_eq⟩

/-- The end of a removal, once the shard is drained. -/
theorem removeEnds_of_stop {shard : ReplicaGroup} {drained after : Session ω}
    {outcome : Except Failure Bool} {draining : List Event}
    (last : before.cluster.topology.shards.getLast? = some shard)
    (drains : Drains before.cluster shard before.session.outside draining (.ok ()))
    (still : drained.stateOf = before.session.stateOf)
    (stops : shard.toComponent.stop drained = conclude outcome after) :
    ∃ events, drained.Evolves events after ∧ ∀ session : Session ω,
      session.stateOf = after.stateOf →
      RemoveEnds before (draining ++ events.filter Event.isCall) (outcome.map fun _ => shard)
        ⟨before.cluster.shortened, session⟩ := by
  rcases Transition.calls_of_run
    (show Transition.stop.run shard.toComponent drained = _ from stops) with
    ⟨events, evolves, stopping⟩
  refine ⟨events, evolves, fun session same => ?_⟩
  have states : session.stateOf =
      statesAfter before.session.stateOf (events.filter Event.isCall) := by
    rw [same, evolves.states_of_calls, still]
  rw [still] at stopping
  rcases stopping with ⟨idle, rfl, calls⟩ | ⟨_, calls⟩
  · rw [calls] at states ⊢
    rw [List.append_nil]
    exact .idle last drains idle states
  · rw [calls] at states ⊢
    cases outcome with
    | error failure => exact .unstopped last drains states
    | ok called => exact .stopped last drains states

theorem removeShard_ends (before : Running ω) :
    ∃ result events after, removeShard before = conclude result after ∧
      before.session.Evolves events after.session ∧
      RemoveEnds before (events.filter Event.isCall) result after := by
  have course := removeShard_course before
  generalize removeShard before = outcome at course ⊢
  cases course with
  | shardless empty => exact ⟨.error _, [], before, rfl, .refl _, .shardless empty⟩
  | @undrained shard entry failure session last drains =>
      rcases drains_of_drain
        (show _ = conclude (.error failure) _ from drains) with
        ⟨events, evolves, traced, still⟩
      exact ⟨.error _, events, _, rfl, evolves, .undrained last traced still⟩
  | @unstopped shard entry drained session failure last drains stops =>
      rcases drains_of_drain
        (show _ = conclude (.ok ()) _ from drains) with
        ⟨events, evolves, traced, still⟩
      rcases removeEnds_of_stop last traced still
        (show _ = conclude (.error failure) _ from stops) with
        ⟨later, stopping, ends⟩
      refine ⟨.error _, _, _, rfl, evolves.trans stopping, ?_⟩
      rw [List.filter_append]
      exact ends session rfl
  | @removed shard entry final drained down called last drains stops =>
      rcases drains_of_drain
        (show _ = conclude (.ok ()) _ from drains) with
        ⟨events, evolves, traced, still⟩
      rcases removeEnds_of_stop last traced still
        (show _ = conclude (.ok called) _ from stops) with
        ⟨later, stopping, ends⟩
      refine ⟨.ok _, _, _, rfl, (evolves.trans stopping).trans (.logged down final), ?_⟩
      rw [filter_isCall_logged, List.filter_append]
      exact ends (down.record (.logged final)) rfl

/-- Whatever state a cluster is in and whatever fails on the way, removing a shard stops nothing
but the last shard, and that only once it is drained. -/
theorem removeShard_removesDrained (before : Running ω) :
    ∃ result events after, removeShard before = conclude result after ∧
      before.session.Evolves events after.session ∧
      RemovesDrained before (events.filter Event.isCall) result after := by
  rcases removeShard_ends before with ⟨result, events, after, ran, evolves, ends⟩
  exact ⟨result, events, after, ran, evolves, ends.removesDrained⟩

end Operation

end ShardFleet
