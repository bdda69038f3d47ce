import ShardFleet.Proofs.Cluster.Attempts
import ShardFleet.Proofs.Cluster.Released
import ShardFleet.Proofs.Session.ChannelUse

/-!
# A cluster in a block

A block starts its cluster, runs a body and stops the cluster, however the body has ended. What the
body does to the cluster comes down to requests, and between them it may do what it likes, as long
as it leaves the network alone. So once the cluster has started, its network is closed once when the
block is left. A cluster that does not start is left as it is: the body is not run, what has been
started stays up, and the network stays open.
-/

namespace ShardFleet

variable {ω : Type} {α : Type} [Outside ω]

namespace Request

variable {running before after : Running ω}

/-- How a body takes a cluster from one state to another: it makes requests, and between two of them
anything may happen in the session but that the network is closed. -/
inductive Drives : Running ω → Running ω → Prop where
  | done (running : Running ω) : Drives running running
  | asks {running after : Running ω} (request : Request)
      (rest : Drives (run running request) after) : Drives running after
  | acts {running after : Running ω} {session : Session ω} {events : List Event}
      (evolves : running.session.Evolves events session)
      (calls : CalledOnly (· ≠ .closeNetwork) events)
      (rest : Drives { running with session } after) : Drives running after

/-- How often the network has been told to close. -/
def closings (running : Running ω) : ℕ :=
  running.session.history.countP (Event.isCallTo closesNetwork)

theorem count_closings_of_avoids {events : List Event}
    (calls : CalledOnly (· ≠ .closeNetwork) events) :
    events.countP (Event.isCallTo closesNetwork) = 0 := by
  apply calls.countP_eq_zero
  intro call other
  cases call <;> first | rfl | exact absurd rfl other

/-- The network of the cluster has been closed once if the cluster is stopped, and never if not. -/
structure KeepsNetwork (running : Running ω) : Prop where
  writable : running.cluster.shape.blueprint.namespacePrefix.checkWritable = .ok ()
  closed : closings running = if running.cluster.state = .stopped then 1 else 0

namespace KeepsNetwork

theorem of_build {world : ω} {shape : ClusterShape} {source : ChannelSource} {patience : ℕ}
    {cluster : Cluster} {session : Session ω}
    (built : Cluster.build shape source patience (Session.fresh world) = .ok cluster session) :
    KeepsNetwork ⟨cluster, session⟩ := by
  rcases Cluster.build_eq_ok built with ⟨events, isNew⟩
  refine ⟨isNew.blueprint_writable, ?_⟩
  have history : session.history = events := isNew.evolves.history
  have unclosing : CalledOnly (· ≠ .closeNetwork) events := isNew.calls.avoids id
  rw [closings, history, count_closings_of_avoids unclosing, isNew.state, if_neg nofun]

/-- The first stop closes the network, and a further one does nothing. -/
theorem closings_stop (keeps : KeepsNetwork running) : closings (Request.run running .stop) = 1 := by
  by_cases down : running.cluster.state = .stopped
  · rw [Request.run, finalState_of_ok (stop_of_stopped down), keeps.closed, if_pos down]
  · rcases stop_closesNetwork down with ⟨_, front, answer, tail, closes⟩
    have before := keeps.closed
    rw [if_neg down, closings] at before
    have stopping : CalledOnly (· ≠ .closeNetwork) front := by
      refine closes.stops.avoids ?_
      rintro ⟨_, _, same⟩
      cases same
    have quiet : CalledOnly (· ≠ .closeNetwork) tail := closes.quiet.avoids id
    rw [closings, closes.evolves.history, List.countP_append, List.countP_append, before,
      count_closings_of_avoids stopping, List.countP_cons_of_pos rfl,
      count_closings_of_avoids quiet]

theorem run (keeps : KeepsNetwork running) (request : Request) :
    KeepsNetwork (Request.run running request) := by
  rcases yields keeps.writable request with ⟨events, evolves, yielded⟩
  refine ⟨yielded.shape ▸ keeps.writable, ?_⟩
  by_cases isStop : request = .stop
  · subst isStop
    rw [keeps.closings_stop, if_pos (state_after_stop running)]
  · have same : (Request.run running request).cluster.state = .stopped ↔
        running.cluster.state = .stopped := by
      rcases yielded.state with same | ⟨rfl, up⟩ | ⟨stops, _⟩
      · rw [same]
      · constructor
        · exact fun down => nomatch up.symm.trans down
        · intro down
          rwa [Request.run, finalState_of_error (start_of_stopped down)]
      · exact absurd stops isStop
    simp only [same]
    rw [closings, evolves.history, List.countP_append,
      count_closings_of_avoids (yielded.unclosing isStop)]
    exact keeps.closed

theorem drive (drives : Drives before after) (keeps : KeepsNetwork before) :
    KeepsNetwork after := by
  induction drives with
  | done => exact keeps
  | asks request _ ih => exact ih (keeps.run request)
  | acts evolves calls _ ih =>
      refine ih ⟨keeps.writable, ?_⟩
      rw [closings, evolves.history, List.countP_append, count_closings_of_avoids calls]
      exact keeps.closed

end KeepsNetwork

theorem finalState_between_of_ok {σ : Type} {opening closing : EStateM Failure σ Unit}
    {body : EStateM Failure σ α} {state opened : σ} (opens : opening state = .ok () opened) :
    finalState (between opening closing body) state =
      finalState closing (finalState body opened) := by
  have ends (outcome : Except Failure α) (middle : σ) :
      finalState (closing >>= fun _ => conclude outcome) middle = finalState closing middle := by
    cases closes : closing middle with
    | error failure after =>
        rw [finalState_bind_of_error closes, finalState_of_error closes]
    | ok value after =>
        rw [finalState_bind_of_ok closes, finalState_of_ok closes, finalState_conclude]
  rw [between, finalState_bind_of_ok opens]
  cases run : body opened with
  | error failure middle =>
      rw [finalState_bind_of_ok (attempt_of_error run), finalState_of_error run]
      exact ends _ middle
  | ok value middle =>
      rw [finalState_bind_of_ok (attempt_of_ok run), finalState_of_ok run]
      exact ends _ middle

/-- How a block is left. -/
structure LeavesBlock (body : Operation ω α) (before : Running ω) : Prop where
  /-- Once the cluster has started, it is stopped when the block is left, and its network has been
  closed once. -/
  entered : ∀ up, Operation.start before = .ok () up →
    (finalState (Operation.within body) before).cluster.state = .stopped ∧
      closings (finalState (Operation.within body) before) = 1
  /-- If the cluster does not start, the block is left with that failure. -/
  refused : ∀ failure left, Operation.start before = .error failure left →
    Operation.within body before = .error failure left ∧ left.cluster = before.cluster ∧
      closings left = 0

theorem KeepsNetwork.leavesBlock (keeps : KeepsNetwork before)
    (active : before.cluster.state ≠ .stopped) {body : Operation ω α}
    (drives : ∀ running, Drives running (finalState body running)) :
    LeavesBlock body before where
  entered := by
    intro up started
    have starts : Request.run before .start = up := finalState_of_ok started
    have keepsUp : KeepsNetwork up := starts ▸ keeps.run .start
    have left : finalState (Operation.within body) before =
        Request.run (finalState body up) .stop := finalState_between_of_ok started
    rw [left]
    exact ⟨state_after_stop _, (keepsUp.drive (drives up)).closings_stop⟩
  refused := by
    intro failure left failed
    have starts : Request.run before .start = left := finalState_of_error failed
    have keepsLeft : KeepsNetwork left := starts ▸ keeps.run .start
    have cluster := cluster_eq_of_start_error failed
    refine ⟨bind_of_error failed _, cluster, ?_⟩
    rw [keepsLeft.closed, cluster, if_neg active]

/-- Whatever has been done with a new cluster that is not started, and whatever fails: a block
closes the network once if the cluster starts, however its body ends, and not at all if it does not
start. -/
theorem within_releases_once_started {world : ω} {shape : ClusterShape} {source : ChannelSource}
    {patience : ℕ} {cluster : Cluster} {session : Session ω}
    (built : Cluster.build shape source patience (Session.fresh world) = .ok cluster session)
    (driven : Drives ⟨cluster, session⟩ before) (idle : before.cluster.state = .notStarted)
    {body : Operation ω α} (drives : ∀ running, Drives running (finalState body running)) :
    LeavesBlock body before :=
  ((KeepsNetwork.of_build built).drive driven).leavesBlock (idle ▸ nofun) drives

/-- A cluster in a simulated world that starts, and gets a further shard in the block. -/
theorem within_releases_once_started_simulated :
    ∃ (cluster : Cluster) (session : Session Simulation.World) (up : Running Simulation.World),
      Cluster.build {} .supplied Simulation.patience (Session.fresh {}) = .ok cluster session ∧
      cluster.state = .notStarted ∧ Operation.start ⟨cluster, session⟩ = .ok () up ∧
      LeavesBlock Operation.addShard ⟨cluster, session⟩ := by
  have starts : returnsWith (fun cluster session =>
      decide (cluster.state = .notStarted) &&
        returnsWith (fun _ _ => true) (Operation.start ⟨cluster, session⟩))
      (Cluster.build {} .supplied Simulation.patience
        (Session.fresh ({} : Simulation.World))) = true := by
    decide +kernel
  rcases exists_of_returnsWith starts with ⟨cluster, session, built, checked⟩
  rw [Bool.and_eq_true, decide_eq_true_eq] at checked
  rcases checked with ⟨idle, started⟩
  rcases exists_of_returnsWith started with ⟨value, up, returned, _⟩
  exact ⟨cluster, session, up, built, idle, returned,
    within_releases_once_started built (.done _) idle fun running =>
      .asks .addShard (.done _)⟩

/-- The handle of the only router fails to start. -/
def unstartableWorld : Simulation.World :=
  { startFailures := [(.text "test-mongos1", some (.reported .general "start refused"))] }

/-- A block is left with components of its cluster started and the network open. -/
theorem within_leaves_open_simulated :
    ∃ (cluster : Cluster) (session : Session Simulation.World) (component : Component)
        (left : Running Simulation.World),
      Cluster.build {} .supplied Simulation.patience (Session.fresh unstartableWorld) =
        .ok cluster session ∧
      cluster.state = .notStarted ∧
      finalState (Operation.within (pure ())) ⟨cluster, session⟩ = left ∧
      closings left = 0 ∧
      component ∈ left.cluster.ownedComponents ∧ left.session.stateOf component = .started := by
  have leaves : returnsWith (fun cluster session =>
      let left := finalState (Operation.within (pure ())) ⟨cluster, session⟩
      decide (cluster.state = .notStarted ∧ closings left = 0) &&
        left.cluster.ownedComponents.any left.session.isStarted)
      (Cluster.build {} .supplied Simulation.patience (Session.fresh unstartableWorld)) = true := by
    decide +kernel
  rcases exists_of_returnsWith leaves with ⟨cluster, session, built, checked⟩
  rw [Bool.and_eq_true, decide_eq_true_eq] at checked
  rcases checked with ⟨⟨idle, unclosed⟩, runs⟩
  rcases List.any_eq_true.mp runs with ⟨component, owned, started⟩
  exact ⟨cluster, session, component, _, built, idle, rfl, unclosed, owned,
    of_decide_eq_true started⟩

end Request

end ShardFleet
