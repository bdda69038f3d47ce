import ShardFleet.Proofs.Cluster.Lifecycle
import ShardFleet.Proofs.Cluster.Serials
import ShardFleet.Proofs.StartOrder.Tiers
import ShardFleet.Simulation.World

/-!
# The two tiers of a cluster

Routers require the shards that they were built with and the config servers, and nothing else
requires anything. This is fixed when the cluster is built: shards that are added later are not
required by any router, and shards that have been removed are still required, though they are not
among the components any more. All the same the components always have two levels, since there is
always a router and the config servers are never removed.
-/

namespace ShardFleet

open ShardFleet.StartOrder

variable {ω : Type}

namespace Topology

/-- The lower tier: shards, then config servers. -/
def stores (topology : Topology) : List Component :=
  Blueprint.requirementsOf topology.configServers topology.shards

/-- The upper tier. -/
def fronts (topology : Topology) : List Component := topology.routers.map (·.toComponent)

theorem components_eq (topology : Topology) :
    topology.components = topology.stores ++ topology.fronts :=
  List.append_cons _ _ _

theorem configServers_mem_stores (topology : Topology) :
    topology.configServers.toComponent ∈ topology.stores :=
  List.mem_append_right _ (List.mem_singleton_self _)

end Topology

/-- The shards that are not registered, as components. -/
def Cluster.strays (cluster : Cluster) : List Component :=
  cluster.unregistered.map (·.toComponent)

theorem Cluster.ownedComponents_eq (cluster : Cluster) :
    cluster.ownedComponents = cluster.topology.stores ++ cluster.topology.fronts ++ cluster.strays :=
  congrArg (· ++ cluster.strays) cluster.topology.components_eq

/-- The items in the middle, and those around them. -/
theorem filter_mem_middle {α : Type} [DecidableEq α] {front middle back : List α}
    (nodup : (front ++ middle ++ back).Nodup) :
    (front ++ middle ++ back).filter (fun item => decide (item ∈ middle)) = middle ∧
      (front ++ middle ++ back).filter (fun item => !decide (item ∈ middle)) = front ++ back := by
  rw [List.append_assoc, List.nodup_append, List.nodup_append] at nodup
  rcases nodup with ⟨_, ⟨_, _, behind⟩, ahead⟩
  have outside : ∀ item ∈ front ++ back, item ∉ middle := by
    intro item listed member
    rcases List.mem_append.mp listed with first | last
    · exact ahead item first item (List.mem_append_left _ member) rfl
    · exact behind item member item last rfl
  simp only [List.filter_append]
  constructor
  · rw [List.filter_eq_nil_iff.mpr, List.filter_eq_self.mpr, List.filter_eq_nil_iff.mpr,
      List.nil_append, List.append_nil]
    · simpa using fun item last => outside item (List.mem_append_right _ last)
    · simp
    · simpa using fun item first => outside item (List.mem_append_left _ first)
  · rw [List.filter_eq_self.mpr, List.filter_eq_nil_iff.mpr, List.filter_eq_self.mpr,
      List.append_nil]
    · simpa using fun item last => outside item (List.mem_append_right _ last)
    · simp
    · simpa using fun item first => outside item (List.mem_append_left _ first)

namespace Request

/-- What a cluster keeps from when it was built, whatever is done with it. -/
structure Wired (first : Topology) (running : Running ω) : Prop where
  /-- Every router requires all that was below it when it was built, and nothing else requires
  anything. -/
  requirements : running.cluster.order.requirements =
    first.fronts.map fun router => (router, first.stores)
  requires : ∀ component, running.cluster.order.requires component =
    if component ∈ first.fronts then first.stores else []
  servers : running.cluster.topology.configServers = first.configServers
  routers : running.cluster.topology.routers = first.routers
  inhabited : first.routers ≠ []
  disjoint : ∀ component ∈ first.stores, component ∉ first.fronts
  apart : Apart running

namespace Wired

variable {first : Topology} {running : Running ω}

theorem fronts_eq (wired : Wired first running) :
    running.cluster.topology.fronts = first.fronts := by
  rw [Topology.fronts, wired.routers, Topology.fronts]

theorem tiered (wired : Wired first running) {components : List Component}
    (nodup : components.Nodup) (fronts : ∀ router ∈ first.fronts, router ∈ components)
    (servers : first.configServers.toComponent ∈ components) :
    Tiered running.cluster.order.requires components fun component =>
      decide (component ∈ first.fronts) where
  nodup := nodup
  inhabited := by
    rcases List.exists_mem_of_ne_nil _ wired.inhabited with ⟨router, listed⟩
    have isFront : router.toComponent ∈ first.fronts := List.mem_map_of_mem listed
    exact ⟨router.toComponent, fronts _ isFront, decide_eq_true isFront⟩
  below := by
    intro component _ tier other _ required
    rw [wired.requires, if_neg (of_decide_eq_false tier)] at required
    cases required
  rests := by
    intro component _ tier
    rw [wired.requires, if_pos (of_decide_eq_true tier)]
    exact ⟨_, servers, first.configServers_mem_stores⟩
  apart := by
    intro component _ tier other _ otherTier required
    rw [wired.requires, if_pos (of_decide_eq_true tier)] at required
    exact wired.disjoint other required (of_decide_eq_true otherTier)

/-- Whatever stands around the routers makes up the first level. -/
theorem levelsOf_eq (wired : Wired first running) {others : List Component}
    (nodup : (running.cluster.topology.stores ++ running.cluster.topology.fronts ++
      others).Nodup) :
    running.cluster.order.levelsOf
        (running.cluster.topology.stores ++ running.cluster.topology.fronts ++ others) =
      .ok [running.cluster.topology.stores ++ others, running.cluster.topology.fronts] := by
  have filters := filter_mem_middle nodup
  have tiered := wired.tiered nodup
    (fun router listed => by
      rw [wired.fronts_eq]
      exact List.mem_append_left _ (List.mem_append_right _ listed))
    (by
      rw [← wired.servers]
      exact List.mem_append_left _
        (List.mem_append_left _ running.cluster.topology.configServers_mem_stores))
  rw [← wired.fronts_eq] at tiered
  rw [levelsOf, tiered.levels_eq, filters.1, filters.2]

theorem starting (wired : Wired first running) :
    running.cluster.order.levelsOf running.cluster.topology.components =
      .ok [running.cluster.topology.stores, running.cluster.topology.fronts] := by
  have nodup := wired.apart.nodup
  rw [Cluster.ownedComponents_eq] at nodup
  have alone := nodup.of_append_left
  rw [← List.append_nil (running.cluster.topology.stores ++ _)] at alone
  have levels := wired.levelsOf_eq alone
  rwa [List.append_nil, List.append_nil, ← Topology.components_eq] at levels

theorem stopping (wired : Wired first running) :
    running.cluster.order.levelsOf running.cluster.ownedComponents =
      .ok [running.cluster.topology.stores ++ running.cluster.strays,
        running.cluster.topology.fronts] := by
  have nodup := wired.apart.nodup
  rw [Cluster.ownedComponents_eq] at nodup ⊢
  exact wired.levelsOf_eq nodup

theorem not_mem_fronts (wired : Wired first running) {component : Component}
    (listed : component ∈ running.cluster.topology.stores ++ running.cluster.strays) :
    component ∉ running.cluster.topology.fronts := by
  have nodup := wired.apart.nodup
  rw [Cluster.ownedComponents_eq, List.append_assoc, List.nodup_append, List.nodup_append] at nodup
  rcases nodup with ⟨_, ⟨_, _, behind⟩, ahead⟩
  intro isFront
  rcases List.mem_append.mp listed with store | stray
  · exact ahead component store component (List.mem_append_left _ isFront) rfl
  · exact behind component isFront component stray rfl

end Wired

variable [Outside ω]

/-- The levels of a cluster, when it is started and when it is stopped, and what follows. -/
structure KeepsTiers (first : Topology) (running : Running ω) : Prop where
  wired : Wired first running
  starting : running.cluster.order.levelsOf running.cluster.topology.components =
    .ok [running.cluster.topology.stores, running.cluster.topology.fronts]
  stopping : running.cluster.order.levelsOf running.cluster.ownedComponents =
    .ok [running.cluster.topology.stores ++ running.cluster.strays,
      running.cluster.topology.fronts]
  /-- No router is started unless all shards and the config servers are. -/
  starts : ∃ events, running.session.Evolves events (run running .start).session ∧
    ∀ earlier router answer later, events = earlier ++ .called (.start router) answer :: later →
      router ∈ running.cluster.topology.fronts →
      ∀ component ∈ running.cluster.topology.stores,
        statesAfter running.session.stateOf earlier component = .started
  /-- No shard and no config server is stopped while a router is started. -/
  stops : ∃ events, running.session.Evolves events (run running .stop).session ∧
    ∀ earlier component answer later,
      events = earlier ++ .called (.stop component) answer :: later →
      component ∈ running.cluster.topology.stores ++ running.cluster.strays →
      ∀ router ∈ running.cluster.topology.fronts,
        statesAfter running.session.stateOf earlier router ≠ .started

namespace Wired

variable {first : Topology} {running : Running ω}

/-- Once a start has been through with the components, it starts nothing any more. -/
theorem start_follows (idle : running.cluster.state = .notStarted) :
    ∃ entry later,
      (finalState (running.cluster.order.startAll running.cluster.topology.components)
        (running.session.record (.logged entry))).Evolves later
          (run running .start).session ∧
      CalledOnly (Call.OnChannel fun _ => True) later := by
  have registering : Action.CallsOnly (Call.OnChannel fun _ => True)
      (running.cluster.registerAll running.cluster.topology.shards : Action ω Unit) :=
    (running.cluster.registerAll_callsOnly _).mono fun call onChannel =>
      onChannel.mono fun _ _ => trivial
  have course := Operation.start_course running
  rw [run, finalState]
  generalize Operation.start running = result at course
  cases course with
  | already up =>
      rw [idle] at up
      cases up
  | refused down =>
      rw [idle] at down
      cases down
  | unstarted _ starts =>
      rw [← finalState_of_error starts]
      exact ⟨_, [], .refl _, .nil⟩
  | unregistered _ starts registers =>
      rcases registering.evolves_of_error registers with ⟨later, within⟩
      rw [← finalState_of_ok starts] at within
      exact ⟨_, later, within.evolves, within.calls⟩
  | started _ starts registers =>
      rcases registering.evolves registers with ⟨later, within⟩
      rw [← finalState_of_ok starts] at within
      exact ⟨_, _, within.evolves.trans (.record _ _ rfl), within.calls.append (.quiet rfl)⟩

theorem starts (wired : Wired first running) :
    ∃ events, running.session.Evolves events (run running .start).session ∧
      Along (NeedsSettled .start fun component other =>
        component ∈ running.cluster.topology.fronts ∧ other ∈ running.cluster.topology.stores)
        running.session.stateOf events := by
  cases state : running.cluster.state with
  | started =>
      rw [run, finalState_of_ok (start_of_started state)]
      exact ⟨[], .refl _, trivial⟩
  | stopped =>
      rw [run, finalState_of_error (start_of_stopped state)]
      exact ⟨[], .refl _, trivial⟩
  | notStarted =>
      rcases start_follows state with ⟨entry, later, follows, registers⟩
      have stacked : Stacked (fun component other =>
          component ∈ running.cluster.topology.fronts ∧ other ∈ running.cluster.topology.stores)
          [] [running.cluster.topology.stores, running.cluster.topology.fronts] :=
        ⟨fun _ store _ needed =>
          absurd needed.1 (wired.not_mem_fronts (List.mem_append_left _ store)),
          fun _ _ _ needed => needed.2, trivial⟩
      rcases startAll_needsSettled wired.starting stacked (running.session.record (.logged entry))
        with ⟨events, evolves, along⟩
      have begun := (Session.Evolves.logged running.session entry).trans evolves
      refine ⟨_, begun.trans follows, along_append.mpr
        ⟨⟨needsSettled_of_not_isCall _ _ rfl, along⟩, along_of_forall ?_⟩⟩
      rintro states event eventMem component answer rfl
      exact (registers _ _ eventMem).elim

theorem stops (wired : Wired first running) :
    ∃ events, running.session.Evolves events (run running .stop).session ∧
      Along (NeedsSettled .stop fun component other =>
        component ∈ running.cluster.topology.stores ++ running.cluster.strays ∧
          other ∈ running.cluster.topology.fronts) running.session.stateOf events := by
  by_cases stopped : running.cluster.state = .stopped
  · rw [run, finalState_of_ok (stop_of_stopped stopped)]
    exact ⟨[], .refl _, trivial⟩
  · rcases stop_closes stopped rfl with ⟨entry, answer, tail, closes, quiet, _⟩
    have stacked : Stacked (fun component other =>
        component ∈ running.cluster.topology.stores ++ running.cluster.strays ∧
          other ∈ running.cluster.topology.fronts)
        [] [running.cluster.topology.fronts,
          running.cluster.topology.stores ++ running.cluster.strays] :=
      ⟨fun _ isFront _ needed => absurd isFront (wired.not_mem_fronts needed.1),
        fun _ _ _ needed => needed.2, trivial⟩
    rcases stopAll_needsSettled wired.stopping stacked (running.session.record (.logged entry))
      with ⟨events, evolves, along⟩
    have begun := (Session.Evolves.logged running.session entry).trans evolves
    refine ⟨_, begun.trans closes, along_append.mpr ⟨⟨needsSettled_of_not_isCall _ _ rfl, along⟩,
      along_of_forall ?_⟩⟩
    rintro states event eventMem component answer rfl
    rcases List.mem_cons.mp eventMem with same | late
    · cases same
    · exact (quiet _ _ late).elim

theorem keepsTiers (wired : Wired first running) : KeepsTiers first running where
  wired := wired
  starting := wired.starting
  stopping := wired.stopping
  starts := by
    rcases wired.starts with ⟨events, evolves, along⟩
    refine ⟨events, evolves, ?_⟩
    intro earlier router answer later split isFront component store
    have settled := along_iff_forall_split.mp along earlier _ later split router answer rfl
      component ⟨isFront, store⟩
    exact Classical.not_not.mp settled
  stops := by
    rcases wired.stops with ⟨events, evolves, along⟩
    refine ⟨events, evolves, ?_⟩
    intro earlier component answer later split listed router isFront
    exact along_iff_forall_split.mp along earlier _ later split component answer rfl router
      ⟨listed, isFront⟩

theorem of_build {before session : Session ω} {shape : ClusterShape} {source : ChannelSource}
    {patience : ℕ} {cluster : Cluster}
    (built : Cluster.build shape source patience before = .ok cluster session) :
    Wired cluster.topology ⟨cluster, session⟩ := by
  have course := Cluster.build_course built
  constructor
  case requirements =>
    rw [course.order_eq, Topology.fronts, List.map_map]
    rfl
  case requires =>
    intro component
    rw [course.order_eq]
    exact Cluster.requires_startOrderOf _ _ component
  case servers => rfl
  case routers => rfl
  case inhabited => exact course.routers_ne_nil
  case disjoint =>
    intro component store isFront
    have ascending := course.madeInTurn.ascending
    rw [Topology.components_eq] at ascending
    exact Nat.lt_irrefl _ ((List.pairwise_append.mp ascending).2.2 _ store _ isFront)
  case apart => exact runAll_apart built []

theorem step {after : Running ω} {request : Request} {events : List Event}
    (wired : Wired first running) (evolves : running.session.Evolves events after.session)
    (yielded : Yields running request events after) : Wired first after where
  requirements := by rw [yielded.order, wired.requirements]
  requires := by
    rw [yielded.order]
    exact wired.requires
  servers := yielded.fixed.1.trans wired.servers
  routers := yielded.fixed.2.trans wired.routers
  inhabited := wired.inhabited
  disjoint := wired.disjoint
  apart := wired.apart.step evolves yielded

end Wired

/-- Whatever has been asked of a cluster and whatever has failed, it has two levels, and routers are
started after all others and stopped before them. -/
theorem runAll_keepsTiers {before session : Session ω} {shape : ClusterShape}
    {source : ChannelSource} {patience : ℕ} {cluster : Cluster}
    (built : Cluster.build shape source patience before = .ok cluster session)
    (requests : List Request) :
    KeepsTiers cluster.topology (runAll requests ⟨cluster, session⟩) := by
  rcases Cluster.build_eq_ok built with ⟨events, isNew⟩
  have wired := runAll_induction (motive := fun _ after => Wired cluster.topology after)
    ⟨cluster, session⟩ isNew.blueprint_writable (.of_build built)
    (fun _ _ _ _ wired evolves yielded _ => wired.step evolves yielded) requests
  exact wired.keepsTiers

/-- A cluster in a simulated world whose only shard is replaced by another one. -/
theorem runAll_keepsTiers_simulated :
    ∃ (cluster : Cluster) (session : Session Simulation.World),
      Cluster.build {} .supplied Simulation.patience (Session.fresh {}) = .ok cluster session ∧
      (runAll [.start, .removeShard, .addShard] ⟨cluster, session⟩).cluster.topology.shards.map
        (·.name) = [.text "shard2"] ∧
      KeepsTiers cluster.topology
        (runAll [.start, .removeShard, .addShard] ⟨cluster, session⟩) := by
  have replaces : returnsWith (fun cluster session =>
      decide ((runAll [.start, .removeShard, .addShard]
        ⟨cluster, session⟩).cluster.topology.shards.map (·.name) = [.text "shard2"]))
      (Cluster.build {} .supplied Simulation.patience
        (Session.fresh ({} : Simulation.World))) = true := by
    decide +kernel
  rcases exists_of_returnsWith replaces with ⟨cluster, session, built, replaced⟩
  exact ⟨cluster, session, built, of_decide_eq_true replaced, runAll_keepsTiers built _⟩

end Request

end ShardFleet
