import ShardFleet.Proofs.Cluster.Lifecycle
import ShardFleet.Proofs.Cluster.Teardown
import ShardFleet.Proofs.StartOrder.Forestalling

/-!
# What a teardown attempts

Before it closes the network, the first stop tells the started components of the cluster to stop,
those that require others first. It goes no further than the level in which a handle fails, so the
components that such a failure forestalls are not attempted, and all others are.
-/

namespace ShardFleet

variable {ω : Type} [Outside ω]

namespace Request

variable {world : ω} {running : Running ω}

/-- The stop closes the network after it has told those started components to stop that no failing
one forestalls. -/
structure AttemptsStops (before after : Running ω) (arranged : List (List Component))
    (front tail : List Event) (answer : Except Failure Unit) : Prop where
  levelled : before.cluster.order.levelsOf before.cluster.ownedComponents = .ok arranged
  closing : ClosesNetwork before after front tail answer
  attempts : ∀ component ∈ before.cluster.ownedComponents,
    before.session.stateOf component = .started →
      ((∃ stopping, .called (.stop component) stopping ∈ front) ↔
        ¬∃ failing failure, .called (.stop failing) (.error failure) ∈ front ∧
          Forestalls before.cluster.order.pools before.session.isStarted failing component
            arranged.reverse)

theorem Tended.attemptsStops (tended : Tended world running) :
    ∃ arranged front tail answer,
      AttemptsStops running (Request.run running .stop) arranged front tail answer := by
  rcases stop_closes tended.active rfl with ⟨entry, answer, tail, closes, quiet, _⟩
  have announces := Session.Evolves.logged running.session entry
  rcases StartOrder.stopAll_eq tended.workers (tended.acyclic running.cluster.ownedComponents)
    (running.session.record (.logged entry)) with
    ⟨arranged, turns, result, events, down, levelled, arranges, ran, rolled⟩
  have final : finalState (running.cluster.order.stopAll running.cluster.ownedComponents)
      (running.session.record (.logged entry)) = down := by
    rw [finalState, ran]
    exact finalState_conclude result
  rw [final] at closes
  have listed : ∀ component, component ∈ arranged.reverse.flatten ↔
      component ∈ running.cluster.ownedComponents := by
    intro component
    rw [arranged.reverse_perm.flatten.mem_iff]
    exact arranges.mem_flatten
  have called : ∀ component outcome, .called (.stop component) outcome ∈ [.logged entry] ++ events ↔
      Transition.stop.asked component outcome ∈ events := by
    intro component outcome
    simp [Transition.asked]
  refine ⟨arranged, [.logged entry] ++ events, tail, answer, levelled,
    ⟨(announces.trans rolled.evolves).trans closes, .append (.quiet rfl) ?_, quiet⟩, ?_⟩
  · intro call outcome member
    rcases rolled.only_asked member rfl with ⟨component, _, same⟩
    cases same
    exact ⟨component, (listed component).mp (rolled.called member).1, rfl⟩
  · intro component owned started
    refine (exists_congr (called component)).trans
      ((rolled.asked_iff_not_forestalled ((listed component).mpr owned) started).trans ?_)
    apply not_congr
    exact exists_congr fun failing => exists_congr fun failure =>
      and_congr_left' (called failing (.error failure)).symm

/-- Whatever has failed before, the first stop of a cluster attempts to stop each of its started
components before it closes the network, but for those that another one forestalls by failing to
stop. -/
theorem stop_attempts_unless_forestalled {shape : ClusterShape} {source : ChannelSource}
    {patience : ℕ} {cluster : Cluster} {session : Session ω}
    (admits : StartOrder.AdmitsPool shape.workers)
    (built : Cluster.build shape source patience (Session.fresh world) = .ok cluster session)
    (requests : List Request) (unstopped : .stop ∉ requests) :
    ∃ arranged front tail answer,
      AttemptsStops (runAll requests ⟨cluster, session⟩)
        (run (runAll requests ⟨cluster, session⟩) .stop) arranged front tail answer :=
  ((tended_of_build admits built).runAll unstopped).attemptsStops

/-- The handle of the only router fails to stop. -/
def unstoppableWorld : Simulation.World :=
  { stopFailures := [(.text "test-mongos1", some (.reported .general "stop refused"))] }

/-- A cluster in a simulated world that is stopped once it has been started, though its router does
not stop. -/
theorem stop_attempts_unless_forestalled_simulated :
    ∃ (cluster : Cluster) (session : Session Simulation.World),
      Cluster.build {} .supplied Simulation.patience (Session.fresh unstoppableWorld) =
        .ok cluster session ∧
      ∃ arranged front tail answer,
        AttemptsStops (runAll [.start] ⟨cluster, session⟩)
          (run (runAll [.start] ⟨cluster, session⟩) .stop) arranged front tail answer := by
  have succeeds : returnsWith (fun _ _ => true) (Cluster.build {} .supplied Simulation.patience
      (Session.fresh unstoppableWorld)) = true := by
    decide +kernel
  rcases exists_of_returnsWith succeeds with ⟨cluster, session, built, _⟩
  exact ⟨cluster, session, built,
    stop_attempts_unless_forestalled (Or.inl rfl) built [.start] (by simp)⟩

def closesNetwork : Call → Bool
  | .closeNetwork => true
  | _ => false

def stopsOnly (component : Component) : Call → Bool
  | .stop other => other = component
  | _ => false

/-- The network is closed, and a started component of the cluster has not been told to stop. -/
theorem stop_overlooks_simulated :
    ∃ (cluster : Cluster) (session : Session Simulation.World) (component : Component)
        (events : List Event),
      Cluster.build {} .supplied Simulation.patience (Session.fresh unstoppableWorld) =
        .ok cluster session ∧
      component ∈ (runAll [.start] ⟨cluster, session⟩).cluster.ownedComponents ∧
      (runAll [.start] ⟨cluster, session⟩).session.stateOf component = .started ∧
      (runAll [.start] ⟨cluster, session⟩).session.Evolves events
        (runAll [.start, .stop] ⟨cluster, session⟩).session ∧
      (∃ answer, .called .closeNetwork answer ∈ events) ∧
      ∀ answer, .called (.stop component) answer ∉ events := by
  have overlooks : returnsWith (fun cluster session =>
      let before := runAll [.start] ⟨cluster, session⟩
      let events := (runAll [.start, .stop] ⟨cluster, session⟩).session.history.drop
        before.session.history.length
      events.any (Event.isCallTo closesNetwork) &&
        before.cluster.ownedComponents.any fun component =>
          before.session.isStarted component &&
            !events.any (Event.isCallTo (stopsOnly component)))
      (Cluster.build {} .supplied Simulation.patience (Session.fresh unstoppableWorld)) = true := by
    decide +kernel
  rcases exists_of_returnsWith overlooks with ⟨cluster, session, built, overlooked⟩
  rcases Cluster.build_eq_ok built with ⟨building, isNew⟩
  have writable := isNew.blueprint_writable
  rw [← runAll_shape ⟨cluster, session⟩ writable [.start]] at writable
  rcases yields writable .stop with ⟨events, evolves, _⟩
  have history : (runAll [.start, .stop] ⟨cluster, session⟩).session.history =
      (runAll [.start] ⟨cluster, session⟩).session.history ++ events := evolves.history
  dsimp only at overlooked
  rw [history, List.drop_left, Bool.and_eq_true] at overlooked
  rcases overlooked with ⟨closes, overlooks⟩
  rcases List.any_eq_true.mp overlooks with ⟨component, owned, missed⟩
  rw [Bool.and_eq_true, Bool.not_eq_true'] at missed
  refine ⟨cluster, session, component, events, built, owned, of_decide_eq_true missed.1, evolves,
    ?_, ?_⟩
  · rcases any_isCallTo_iff.mp closes with ⟨call, answer, member, closing⟩
    cases call <;> try cases closing
    exact ⟨answer, member⟩
  · intro answer member
    have told : events.any (Event.isCallTo (stopsOnly component)) = true :=
      any_isCallTo_iff.mpr ⟨_, answer, member, by simp [stopsOnly]⟩
    rw [missed.2] at told
    cases told

end Request

end ShardFleet
