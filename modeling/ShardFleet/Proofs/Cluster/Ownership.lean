import ShardFleet.Proofs.Cluster.Run
import ShardFleet.Proofs.Session.Tally
import ShardFleet.Simulation.World

/-!
# Which components belong to a cluster

A teardown stops the components of the topology and the shards that are not registered. A component
that a request has started is one of these, and those that were stay so while they are started - but
for one case. A removal drops its shard first and stops it then, so a shard whose handle fails to
stop goes on running and is in no list any more.
-/

namespace ShardFleet

variable {ω : Type}

namespace Cluster

variable {cluster before after : Cluster} {shard : ReplicaGroup} {component : Component}

theorem mem_ownedComponents : component ∈ cluster.ownedComponents ↔
    component ∈ cluster.topology.shards.map (·.toComponent) ∨
    component = cluster.topology.configServers.toComponent ∨
    component ∈ cluster.topology.routers.map (·.toComponent) ∨
    component ∈ cluster.unregistered.map (·.toComponent) := by
  simp only [ownedComponents, Topology.components, List.mem_append, List.mem_cons, or_assoc]

/-- It makes no difference to what the cluster owns in which list a new shard is. -/
theorem mem_ownedComponents_of_joined
    (joined : after = before.registered shard ∨ after = before.stranded shard) :
    component ∈ after.ownedComponents ↔
      component ∈ before.ownedComponents ∨ component = shard.toComponent := by
  rcases joined with rfl | rfl
  · simp only [mem_ownedComponents, registered, List.map_append, List.mem_append,
      List.map_cons, List.map_nil, List.mem_singleton]
    tauto
  · simp only [mem_ownedComponents, stranded, List.map_append, List.mem_append,
      List.map_cons, List.map_nil, List.mem_singleton]
    tauto

theorem mem_ownedComponents_shortened (last : cluster.topology.shards.getLast? = some shard)
    (owned : component ∈ cluster.ownedComponents) :
    component ∈ cluster.shortened.ownedComponents ∨ component = shard.toComponent := by
  rw [mem_ownedComponents, ← List.dropLast_append_getLast? shard last] at owned
  simp only [List.map_append, List.mem_append, List.map_cons, List.map_nil,
    List.mem_singleton] at owned
  simp only [mem_ownedComponents, shortened]
  tauto

end Cluster

namespace Request

/-- The last shard is dropped, but its handle fails to stop and it goes on running. -/
inductive Abandons (before : Running ω) : List Event → Running ω → Component → Prop where
  | intro {events : List Event} {shard : ReplicaGroup} {failure : Failure} {session : Session ω}
      (last : before.cluster.topology.shards.getLast? = some shard)
      (failed : .called (.stop shard.toComponent) (.error failure) ∈ events)
      (started : session.stateOf shard.toComponent = .started) :
      Abandons before events ⟨before.cluster.shortened, session⟩ shard.toComponent

variable [Outside ω] {running after : Running ω} {request : Request} {events : List Event}
  {component : Component}

/-- One of the requests was a removal that abandoned the component. -/
def Abandoned (start : Running ω) (requests : List Request) (component : Component) : Prop :=
  ∃ earlier later events, requests = earlier ++ .removeShard :: later ∧
    (runAll earlier start).session.Evolves events
      (run (runAll earlier start) .removeShard).session ∧
    Abandons (runAll earlier start) events (run (runAll earlier start) .removeShard) component

theorem Abandoned.append {start : Running ω} {requests more : List Request}
    (abandoned : Abandoned start requests component) :
    Abandoned start (requests ++ more) component := by
  rcases abandoned with ⟨earlier, later, events, rfl, evolves, abandons⟩
  refine ⟨earlier, later ++ more, events, ?_, evolves, abandons⟩
  rw [List.append_assoc, List.cons_append]

/-- Whatever a request has started belongs to the cluster after it. -/
theorem Yields.owns (yielded : Yields running request events after)
    (came : .called (.start component) (.ok ()) ∈ events) :
    component ∈ after.cluster.ownedComponents := by
  cases yielded with
  | started calls stateEq =>
      rcases calls _ _ came with ⟨other, listed, same⟩ | onChannel
      · cases same
        exact List.mem_append_left _ listed
      · exact onChannel.elim
  | stopped calls stateEq => rcases calls _ _ came with ⟨other, listed, same⟩ | same <;> cases same
  | unadded asks calls unstarted =>
      rcases asks with ⟨order, answer, _, rfl⟩
      rcases List.mem_cons.mp came with ask | later
      · cases ask
      · exact absurd later (unstarted component)
  | added asks calls once named made joined =>
      rcases asks with ⟨order, answer, _, rfl⟩
      apply (Cluster.mem_ownedComponents_of_joined joined).mpr
      right
      rcases List.mem_cons.mp came with ask | later
      · cases ask
      · rcases calls _ _ later with constructs | same | onChannel
        · exact constructs.elim
        · cases same
          rfl
        · exact onChannel.elim
  | shardless empty => cases came
  | undrained last calls => exact (calls _ _ came).elim
  | removed last calls down =>
      rcases calls _ _ came with onChannel | same
      · exact onChannel.elim
      · cases same
  | enabled calls => exact (calls _ _ came).elim
  | sharded calls => exact (calls _ _ came).elim

/-- What belongs to the cluster and stays started goes on belonging to it, if it is not abandoned. -/
theorem Yields.owned_or_abandoned (yielded : Yields running request events after)
    (owned : component ∈ running.cluster.ownedComponents)
    (started : after.session.stateOf component = .started) :
    component ∈ after.cluster.ownedComponents ∨
      request = .removeShard ∧ Abandons running events after component := by
  cases yielded with
  | removed last calls down =>
      rcases Cluster.mem_ownedComponents_shortened last owned with kept | rfl
      · exact Or.inl kept
      · rcases down with idle | ⟨failure, failed⟩
        · exact absurd started idle
        · exact Or.inr ⟨rfl, .intro last failed started⟩
  | added asks calls once named made joined =>
      exact Or.inl ((Cluster.mem_ownedComponents_of_joined joined).mpr (Or.inl owned))
  | _ => exact Or.inl owned

/-- A component that is started belongs to the cluster, or it is one that a removal has
abandoned. -/
def AccountsForStarted (start : Running ω) (requests : List Request) (after : Running ω) : Prop :=
  ∀ component, after.session.stateOf component = .started →
    component ∈ after.cluster.ownedComponents ∨ Abandoned start requests component

theorem AccountsForStarted.step {start : Running ω} {requests : List Request}
    (accounts : AccountsForStarted start requests (runAll requests start))
    (evolves : (runAll requests start).session.Evolves events after.session)
    (yielded : Yields (runAll requests start) request events after)
    (ran : run (runAll requests start) request = after) :
    AccountsForStarted start (requests ++ [request]) after := by
  intro component started
  have startedNow := started
  rw [evolves.states] at startedNow
  -- It was started before, and is still owned unless it is abandoned now, or it came with this request.
  rcases started_of_statesAfter startedNow with startedBefore | came
  · rcases accounts component startedBefore with owned | abandoned
    · rcases yielded.owned_or_abandoned owned started with kept | ⟨rfl, abandons⟩
      · exact Or.inl kept
      · subst ran
        exact Or.inr ⟨requests, [], events, rfl, evolves, abandons⟩
    · exact Or.inr abandoned.append
  · exact Or.inl (yielded.owns came)

/-- Whatever a new cluster is asked for and whatever fails, nothing that is started gets lost but by
a removal whose shard does not stop. -/
theorem runAll_accountsForStarted {world : ω} {shape : ClusterShape} {source : ChannelSource}
    {patience : ℕ} {cluster : Cluster} {session : Session ω}
    (built : Cluster.build shape source patience (Session.fresh world) = .ok cluster session)
    (requests : List Request) :
    AccountsForStarted ⟨cluster, session⟩ requests (runAll requests ⟨cluster, session⟩) := by
  rcases Cluster.build_eq_ok built with ⟨building, isNew⟩
  have writable := isNew.blueprint_writable
  refine runAll_induction ⟨cluster, session⟩ writable ?_ ?_ requests
  · intro component started
    exact absurd started (isNew.unstarted component)
  · intro earlier request events after accounts evolves yielded ran
    exact accounts.step evolves yielded ran

/-- A simulated world in which the handle of the first shard fails to stop. -/
def stuckWorld : Simulation.World :=
  { stopFailures := [(.text "shard1", some (.reported .general "stop refused"))] }

/-- The first shard, which does not stop when it is removed. -/
theorem runAll_accountsForStarted_simulated :
    ∃ (cluster : Cluster) (session : Session Simulation.World),
      Cluster.build {} .supplied Simulation.patience (Session.fresh stuckWorld) =
        .ok cluster session ∧
      AccountsForStarted ⟨cluster, session⟩ [.start, .removeShard]
        (runAll [.start, .removeShard] ⟨cluster, session⟩) := by
  have succeeds : returnsWith (fun _ _ => true) (Cluster.build {} .supplied Simulation.patience
      (Session.fresh stuckWorld)) = true := by
    decide +kernel
  rcases exists_of_returnsWith succeeds with ⟨cluster, session, built, _⟩
  exact ⟨cluster, session, built, runAll_accountsForStarted built [.start, .removeShard]⟩

/-- It goes on running without belonging to the cluster. -/
theorem removeShard_abandons_simulated :
    ∃ (cluster : Cluster) (session : Session Simulation.World) (component : Component),
      Cluster.build {} .supplied Simulation.patience (Session.fresh stuckWorld) =
        .ok cluster session ∧
      (runAll [.start, .removeShard] ⟨cluster, session⟩).session.stateOf component = .started ∧
      component ∉ (runAll [.start, .removeShard] ⟨cluster, session⟩).cluster.ownedComponents := by
  have abandons : returnsWith (fun cluster session =>
      cluster.ownedComponents.any fun component =>
        let after := runAll [.start, .removeShard] ⟨cluster, session⟩
        after.session.stateOf component = .started ∧ component ∉ after.cluster.ownedComponents)
      (Cluster.build {} .supplied Simulation.patience (Session.fresh stuckWorld)) = true := by
    decide +kernel
  rcases exists_of_returnsWith abandons with ⟨cluster, session, built, found⟩
  rcases List.any_eq_true.mp found with ⟨component, _, lost⟩
  exact ⟨cluster, session, component, built, of_decide_eq_true lost⟩

end Request

end ShardFleet
