import ShardFleet.Proofs.Cluster.Run
import ShardFleet.Simulation.World

/-!
# The lifecycle of a cluster

A cluster is started at most once and stopped for good. The first stop closes the network, whatever
has failed before and whatever fails in it, and that is the last thing it calls; before and after,
nothing closes the network. Since a stop takes the cluster to its last state in any case, this comes
down to what a request does in each of the three states.
-/

namespace ShardFleet

variable {ω : Type}

/-- The moves that the state of a cluster can make. -/
inductive LifecycleState.MovesTo : LifecycleState → LifecycleState → Prop where
  | start : MovesTo .notStarted .started
  | skip : MovesTo .notStarted .stopped
  | stop : MovesTo .started .stopped

theorem LifecycleState.movesTo_stopped {state : LifecycleState} (active : state ≠ .stopped) :
    state.MovesTo .stopped := by
  cases state with
  | notStarted => exact .skip
  | started => exact .stop
  | stopped => exact absurd rfl active

namespace Request

variable [Outside ω] {running after : Running ω}

/-- The network is closed once, after the last component has been told to stop, and nothing is called
after that. -/
structure ClosesNetwork (before after : Running ω) (front tail : List Event)
    (answer : Except Failure Unit) : Prop where
  evolves : before.session.Evolves (front ++ .called .closeNetwork answer :: tail) after.session
  stops : CalledOnly (Transition.stop.Reaches before.cluster.ownedComponents) front
  quiet : CalledOnly (fun _ => False) tail

/-- The stop between these requests closes the network, which is not closed before or after. -/
structure ClosesOnce (start : Running ω) (earlier later : List Request) : Prop where
  before : ∀ answer, .called .closeNetwork answer ∉ (runAll earlier start).session.history
  closing : ∃ front answer tail, ClosesNetwork (runAll earlier start)
    (run (runAll earlier start) .stop) front tail answer
  after : ∃ rest, (run (runAll earlier start) .stop).session.Evolves rest
      (runAll (earlier ++ .stop :: later) start).session ∧
    CalledOnly (· ≠ .closeNetwork) rest

/-- How the lifecycle goes on after some requests, and what has become of the network. -/
structure KeepsLifecycle (start : Running ω) (requests : List Request) : Prop where
  moves : ∀ request, (run (runAll requests start) request).cluster.state =
      (runAll requests start).cluster.state ∨
    (runAll requests start).cluster.state.MovesTo
      (run (runAll requests start) request).cluster.state
  restart : (runAll requests start).cluster.state = .started →
    Operation.start (runAll requests start) = .ok () (runAll requests start)
  refuse : (runAll requests start).cluster.state = .stopped →
    Operation.start (runAll requests start) =
      .error (.misconfigured .released) (runAll requests start)
  failedStart : ∀ failure after, Operation.start (runAll requests start) = .error failure after →
    after.cluster = (runAll requests start).cluster
  stopped_iff : (runAll requests start).cluster.state = .stopped ↔ .stop ∈ requests
  restop : .stop ∈ requests →
    Operation.stop (runAll requests start) = .ok () (runAll requests start)
  unclosed : .stop ∉ requests →
    ∀ answer, .called .closeNetwork answer ∉ (runAll requests start).session.history
  closes : ∀ earlier later, requests = earlier ++ .stop :: later → .stop ∉ earlier →
    ClosesOnce start earlier later

theorem start_moves (running : Running ω) :
    (run running .start).cluster.state = running.cluster.state ∨
      running.cluster.state.MovesTo (run running .start).cluster.state := by
  have course := Operation.start_course running
  rw [run, finalState]
  generalize Operation.start running = result at course
  cases course with
  | started idle starts registers =>
      right
      rw [idle]
      exact .start
  | _ => exact Or.inl rfl

theorem run_moves {request : Request} {events : List Event}
    (yielded : Yields running request events after) (ran : run running request = after) :
    after.cluster.state = running.cluster.state ∨
      running.cluster.state.MovesTo after.cluster.state := by
  rcases yielded.state with same | ⟨rfl, _⟩ | ⟨_, down⟩
  · exact Or.inl same
  · rw [← ran]
    exact start_moves running
  · rw [down]
    by_cases already : running.cluster.state = .stopped
    · exact Or.inl already.symm
    · exact Or.inr (LifecycleState.movesTo_stopped already)

theorem start_of_started (up : running.cluster.state = .started) :
    Operation.start running = .ok () running := by
  rw [Operation.start, Operation.cluster_bind, up]
  rfl

theorem start_of_stopped (down : running.cluster.state = .stopped) :
    Operation.start running = .error (.misconfigured .released) running := by
  rw [Operation.start, Operation.cluster_bind, down]
  rfl

theorem stop_of_stopped (down : running.cluster.state = .stopped) :
    Operation.stop running = .ok () running := by
  rw [Operation.stop, Operation.cluster_bind, down]
  rfl

theorem cluster_eq_of_start_error {failure : Failure}
    (failed : Operation.start running = .error failure after) :
    after.cluster = running.cluster := by
  have course := Operation.start_course running
  rw [failed] at course
  cases course <;> rfl

theorem stop_closesNetwork (active : running.cluster.state ≠ .stopped) :
    (run running .stop).cluster.state = .stopped ∧
      ∃ front answer tail, ClosesNetwork running (run running .stop) front tail answer := by
  rcases stop_closes active rfl with ⟨entry, answer, tail, closes, quiet, cluster⟩
  rcases running.cluster.order.stopAll_callsOnly running.cluster.ownedComponents
    (running.session.record (.logged entry)) with ⟨stopping, stops⟩
  have announces := Session.Evolves.logged running.session entry
  refine ⟨congrArg Cluster.state cluster, [.logged entry] ++ stopping, answer, tail, ?_, ?_, quiet⟩
  · exact (announces.trans stops.evolves).trans closes
  · exact .append (.quiet rfl) stops.calls

/-- Until it is told to stop, a cluster is not stopped and its network is open. -/
theorem runAll_unclosed
    (writable : running.cluster.shape.blueprint.namespacePrefix.checkWritable = .ok ())
    (active : running.cluster.state ≠ .stopped)
    (unclosed : ∀ answer, .called .closeNetwork answer ∉ running.session.history)
    (requests : List Request) (unstopped : .stop ∉ requests) :
    (runAll requests running).cluster.state ≠ .stopped ∧
      ∀ answer, .called .closeNetwork answer ∉ (runAll requests running).session.history := by
  refine runAll_induction (motive := fun requests after => .stop ∉ requests →
      after.cluster.state ≠ .stopped ∧ ∀ answer, .called .closeNetwork answer ∉ after.session.history)
    running writable (fun _ => ⟨active, unclosed⟩) ?_ requests unstopped
  intro earlier request events after before evolves yielded ran unstopped
  rw [List.mem_append, List.mem_singleton, not_or] at unstopped
  rcases before unstopped.1 with ⟨active, unclosed⟩
  constructor
  · rcases yielded.state with same | ⟨_, up⟩ | ⟨isStop, _⟩
    · exact same ▸ active
    · exact up ▸ nofun
    · exact absurd isStop.symm unstopped.2
  · intro answer member
    rw [evolves.history] at member
    rcases List.mem_append.mp member with before | now
    · exact unclosed answer before
    · exact yielded.unclosing (Ne.symm unstopped.2) _ _ now rfl

/-- A stopped cluster stays so and does not close its network again. -/
theorem runAll_of_stopped
    (writable : running.cluster.shape.blueprint.namespacePrefix.checkWritable = .ok ())
    (down : running.cluster.state = .stopped) (requests : List Request) :
    (runAll requests running).cluster.state = .stopped ∧
      ∃ rest, running.session.Evolves rest (runAll requests running).session ∧
        CalledOnly (· ≠ .closeNetwork) rest := by
  refine runAll_induction (motive := fun _ after => after.cluster.state = .stopped ∧
      ∃ rest, running.session.Evolves rest after.session ∧ CalledOnly (· ≠ .closeNetwork) rest)
    running writable ⟨down, [], .refl _, .nil⟩ ?_ requests
  rintro earlier request events after ⟨down, rest, before, calls⟩ evolves yielded ran
  have stays : after.cluster.state = .stopped := by
    rcases run_moves yielded ran with same | moves
    · exact same.trans down
    · rw [down] at moves
      cases moves
  -- A stop may close the network in general, but a further one returns at once.
  by_cases isStop : request = .stop
  · subst isStop
    rw [run, finalState_of_ok (stop_of_stopped down)] at ran
    subst ran
    exact ⟨stays, rest, before, calls⟩
  · exact ⟨stays, _, before.trans evolves, calls.append (yielded.unclosing isStop)⟩

/-- The first stop closes the network, and no request before or after it does. -/
theorem runAll_closes
    (writable : running.cluster.shape.blueprint.namespacePrefix.checkWritable = .ok ())
    (active : running.cluster.state ≠ .stopped)
    (unclosed : ∀ answer, .called .closeNetwork answer ∉ running.session.history)
    {earlier later : List Request} (first : .stop ∉ earlier) :
    (runAll (earlier ++ .stop :: later) running).cluster.state = .stopped ∧
      ClosesOnce running earlier later := by
  have before := runAll_unclosed writable active unclosed earlier first
  rcases stop_closesNetwork before.1 with ⟨down, closing⟩
  rw [← runAll_shape running writable (earlier ++ [.stop]), runAll_append] at writable
  rcases runAll_of_stopped writable down later with ⟨stays, rest⟩
  have split : runAll (earlier ++ .stop :: later) running =
      runAll later (run (runAll earlier running) .stop) := runAll_append _ _
  rw [split]
  exact ⟨stays, before.2, closing, split ▸ rest⟩

/-- The network of a cluster that is not stopped is open. -/
theorem unclosed_of_build {world : ω} {shape : ClusterShape} {source : ChannelSource}
    {patience : ℕ} {cluster : Cluster} {session : Session ω}
    (built : Cluster.build shape source patience (Session.fresh world) = .ok cluster session)
    {requests : List Request}
    (active : (runAll requests ⟨cluster, session⟩).cluster.state ≠ .stopped) :
    ∀ answer,
      .called .closeNetwork answer ∉ (runAll requests ⟨cluster, session⟩).session.history := by
  rcases Cluster.build_eq_ok built with ⟨building, isNew⟩
  have writable := isNew.blueprint_writable
  have unstopped : cluster.state ≠ .stopped := isNew.state ▸ nofun
  have unclosed : ∀ answer, .called .closeNetwork answer ∉ session.history := by
    intro answer member
    rw [isNew.evolves.history] at member
    exact isNew.calls _ _ member
  refine (runAll_unclosed writable unstopped unclosed requests fun asked => active ?_).2
  rcases List.eq_append_cons_of_mem asked with ⟨earlier, later, rfl, first⟩
  exact (runAll_closes writable unstopped unclosed first).1

/-- However often a new cluster is asked for what, and whatever fails, its state goes one way and its
network is closed once. -/
theorem runAll_keepsLifecycle {world : ω} {shape : ClusterShape} {source : ChannelSource}
    {patience : ℕ} {cluster : Cluster} {session : Session ω}
    (built : Cluster.build shape source patience (Session.fresh world) = .ok cluster session)
    (requests : List Request) : KeepsLifecycle ⟨cluster, session⟩ requests := by
  rcases Cluster.build_eq_ok built with ⟨building, isNew⟩
  have writable := isNew.blueprint_writable
  have active : cluster.state ≠ .stopped := isNew.state ▸ nofun
  have unclosed : ∀ answer, .called .closeNetwork answer ∉ session.history := by
    intro answer member
    rw [isNew.evolves.history] at member
    exact isNew.calls _ _ member
  have before : .stop ∉ requests →
      (runAll requests ⟨cluster, session⟩).cluster.state ≠ .stopped ∧
        ∀ answer, .called .closeNetwork answer ∉
          (runAll requests ⟨cluster, session⟩).session.history :=
    runAll_unclosed writable active unclosed requests
  have stopped_iff : (runAll requests ⟨cluster, session⟩).cluster.state = .stopped ↔
      .stop ∈ requests := by
    constructor
    · intro down
      by_contra unstopped
      exact (before unstopped).1 down
    · intro asked
      rcases List.eq_append_cons_of_mem asked with ⟨earlier, later, rfl, first⟩
      exact (runAll_closes writable active unclosed first).1
  exact {
    moves := by
      intro request
      rw [← runAll_shape ⟨cluster, session⟩ writable requests] at writable
      rcases yields writable request with ⟨events, _, yielded⟩
      exact run_moves yielded rfl
    restart := start_of_started
    refuse := start_of_stopped
    failedStart := fun failure after failed => cluster_eq_of_start_error failed
    stopped_iff
    restop := fun asked => stop_of_stopped (stopped_iff.mpr asked)
    unclosed := fun unstopped => (before unstopped).2
    closes := by
      rintro earlier later rfl first
      exact (runAll_closes writable active unclosed first).2 }

/-- A cluster in a simulated world whose network fails to close. -/
theorem runAll_keepsLifecycle_simulated :
    ∃ (cluster : Cluster) (session : Session Simulation.World),
      Cluster.build {} .supplied Simulation.patience
        (Session.fresh { networkFailure := some (.reported .general "still in use") }) =
          .ok cluster session ∧
      KeepsLifecycle ⟨cluster, session⟩ [.start, .stop, .addShard, .stop] := by
  have succeeds : returnsWith (fun _ _ => true) (Cluster.build {} .supplied Simulation.patience
      (Session.fresh { networkFailure := some (.reported .general "still in use") :
        Simulation.World })) = true := by
    decide +kernel
  rcases exists_of_returnsWith succeeds with ⟨cluster, session, built, _⟩
  exact ⟨cluster, session, built, runAll_keepsLifecycle built [.start, .stop, .addShard, .stop]⟩

end Request

end ShardFleet
