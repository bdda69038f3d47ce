import ShardFleet.Proofs.Cluster.Ownership
import ShardFleet.Proofs.StartOrder.Stopping

/-!
# Nothing is left running at teardown

Requests fail at many points, and each leaves the shard that it was about in another list of the
cluster. What carries over all of them is that a started component is always one of those that the
cluster owns, as long as no handle has failed to stop. A teardown stops all of these before it
closes the network, so then nothing at all is started any more.
-/

namespace ShardFleet

variable {ω : Type}

namespace Request

variable {world : ω} {running after : Running ω} {events : List Event}

/-- No handle has failed to stop. -/
def StopsSucceed (events : List Event) : Prop :=
  ∀ component failure, .called (.stop component) (.error failure) ∉ events

def isFailedStop : Event → Bool
  | .called (.stop _) (.error _) => true
  | _ => false

instance (events : List Event) : Decidable (StopsSucceed events) :=
  decidable_of_iff (events.all fun event => !isFailedStop event) <| by
    rw [List.all_eq_true]
    constructor
    · intro all component failure member
      cases all _ member
    · intro succeed event member
      cases event with
      | called call answer =>
          cases call <;> cases answer <;> try rfl
          exact absurd member (succeed _ _)
      | logged entry => rfl
      | pooled workers => rfl

/-- A cluster that has not been torn down, whose started components are its own. -/
structure Tended (world : ω) (running : Running ω) : Prop where
  evolved : (Session.fresh world).Evolves running.session.history running.session
  unclosed : ∀ answer, .called .closeNetwork answer ∉ running.session.history
  active : running.cluster.state ≠ .stopped
  workers : StartOrder.AdmitsPool running.cluster.order.workers
  requires : ∀ component other, other ∈ running.cluster.order.requires component →
    other.serial < component.serial
  writable : running.cluster.shape.blueprint.namespacePrefix.checkWritable = .ok ()
  owned : StopsSucceed running.session.history →
    ∀ component, running.session.stateOf component = .started →
      component ∈ running.cluster.ownedComponents

theorem Tended.acyclic (tended : Tended world running) (components : List Component) :
    StartOrder.Acyclic running.cluster.order.requires components :=
  StartOrder.acyclic_of_rank Component.serial
    fun component _ other _ required => tended.requires component other required

variable [Outside ω]

theorem tended_of_build {shape : ClusterShape} {source : ChannelSource} {patience : ℕ}
    {cluster : Cluster} {session : Session ω}
    (admits : StartOrder.AdmitsPool shape.workers)
    (built : Cluster.build shape source patience (Session.fresh world) = .ok cluster session) :
    Tended world ⟨cluster, session⟩ := by
  rcases Cluster.build_eq_ok built with ⟨events, isNew⟩
  have history : session.history = events := isNew.evolves.history
  refine ⟨?_, ?_, ?_, ?_, isNew.requires, ?_, ?_⟩
  · rw [history]
    exact isNew.evolves
  · intro answer member
    rw [history] at member
    exact isNew.calls _ _ member
  · simp [isNew.state]
  · exact isNew.workers ▸ admits
  · exact isNew.shape ▸ isNew.writable
  · intro _ component started
    exact absurd started (isNew.unstarted component)

/-- Every request but a stop keeps the cluster tended. -/
theorem Tended.run (tended : Tended world running) {request : Request}
    (unstopped : request ≠ .stop) : Tended world (Request.run running request) := by
  rcases yields tended.writable request with ⟨events, evolves, yielded⟩
  generalize Request.run running request = after at evolves yielded
  refine ⟨?_, ?_, ?_, yielded.order ▸ tended.workers, yielded.order ▸ tended.requires,
    yielded.shape ▸ tended.writable, ?_⟩
  · rw [evolves.history]
    exact tended.evolved.trans evolves
  · intro answer member
    rw [evolves.history] at member
    rcases List.mem_append.mp member with before | now
    · exact tended.unclosed answer before
    · exact yielded.unclosing unstopped _ _ now rfl
  · rcases yielded.state with same | ⟨_, up⟩ | ⟨isStop, _⟩
    · exact same ▸ tended.active
    · exact up ▸ nofun
    · exact absurd isStop unstopped
  · intro succeed component started
    rw [evolves.history] at succeed
    have startedNow := started
    rw [evolves.states] at startedNow
    rcases started_of_statesAfter startedNow with before | came
    · have owned : component ∈ running.cluster.ownedComponents := by
        refine tended.owned ?_ component before
        intro other failure member
        exact succeed other failure (List.mem_append_left _ member)
      rcases yielded.owned_or_abandoned owned started with kept | ⟨_, abandons⟩
      · exact kept
      · cases abandons with
        | intro last failed _ => exact absurd (List.mem_append_right _ failed) (succeed _ _)
    · exact yielded.owns came

theorem Tended.runAll (tended : Tended world running) {requests : List Request}
    (unstopped : .stop ∉ requests) : Tended world (Request.runAll requests running) := by
  induction requests generalizing running with
  | nil => exact tended
  | cons request rest ih =>
      rw [List.mem_cons, not_or] at unstopped
      exact ih (tended.run (Ne.symm unstopped.1)) unstopped.2

/-- A teardown whose handles all stop leaves nothing started when it comes to the network. -/
theorem Tended.stop (tended : Tended world running)
    (succeed : StopsSucceed (Request.run running .stop).session.history) :
    ∃ (closing : Session ω) (answer : Except Failure Unit) (later : List Event),
      closing.Evolves (.called .closeNetwork answer :: later)
        (Request.run running .stop).session ∧
      (Session.fresh world).Evolves closing.history closing ∧
      (∀ another, .called .closeNetwork another ∉ closing.history) ∧
      (∀ another, .called .closeNetwork another ∉ later) ∧
      ∀ component, closing.stateOf component ≠ .started := by
  rcases stop_closes tended.active rfl with ⟨entry, answer, tail, closes, quiet, _⟩
  have announces : running.session.Evolves [.logged entry] _ := .record _ _ rfl
  rcases StartOrder.stopAll_eq tended.workers (tended.acyclic running.cluster.ownedComponents)
    (running.session.record (.logged entry)) with
    ⟨arranged, turns, result, events, down, _, arranges, ran, rolled⟩
  have final : finalState (running.cluster.order.stopAll running.cluster.ownedComponents)
      (running.session.record (.logged entry)) = down := by
    rw [finalState, ran]
    exact finalState_conclude result
  rw [final] at closes
  have whole := announces.trans rolled.evolves
  have history : (Request.run running .stop).session.history =
      running.session.history ++ ([.logged entry] ++ events) ++
        .called .closeNetwork answer :: tail := by
    rw [Request.run, closes.history, whole.history]
  have stopsInOrder := rolled.stopsInOrder arranges
  refine ⟨down, answer, tail, closes, ?_, ?_, fun another member => quiet _ _ member, ?_⟩
  · rw [whole.history]
    exact tended.evolved.trans whole
  · intro another member
    rw [whole.history] at member
    rcases List.mem_append.mp member with before | now
    · exact tended.unclosed another before
    · rcases List.mem_cons.mp now with entry | stopping
      · cases entry
      · rcases stopsInOrder.onlyStops _ _ stopping with ⟨component, _, same⟩
        cases same
  · intro component
    have unfailed : ∀ other failure, .called (.stop other) (.error failure) ∉ events := by
      intro other failure failed
      apply succeed other failure
      rw [history]
      simp [failed]
    cases result with
    | error failure =>
        rcases stopsInOrder.failsFirst failure rfl with ⟨_, _, failing, _, _, _, failed, _⟩
        exact absurd failed (unfailed failing failure)
    | ok value =>
        rw [rolled.evolves.stateOf]
        by_cases owned : component ∈ running.cluster.ownedComponents
        · exact stopsInOrder.stopsAll rfl component owned
        · have idle : running.session.stateOf component ≠ .started := by
            intro started
            refine owned (tended.owned ?_ component started)
            intro other failure member
            apply succeed other failure
            rw [history]
            simp [member]
          rw [stopsInOrder.keepsOthers component idle events List.prefix_rfl]
          exact idle

/-- The first stop of a cluster finds nothing started any more when it closes the network, and
every handle has gone down as often as it has come up, whatever has failed before, unless a handle
has failed to stop. -/
theorem stop_leaves_nothing_started {shape : ClusterShape} {source : ChannelSource} {patience : ℕ}
    {cluster : Cluster} {session : Session ω}
    (admits : StartOrder.AdmitsPool shape.workers)
    (built : Cluster.build shape source patience (Session.fresh world) = .ok cluster session)
    (requests : List Request) (unstopped : .stop ∉ requests)
    (succeed : StopsSucceed
      (Request.run (Request.runAll requests ⟨cluster, session⟩) .stop).session.history) :
    ∃ (closing : Session ω) (answer : Except Failure Unit) (later : List Event),
      closing.Evolves (.called .closeNetwork answer :: later)
        (Request.run (Request.runAll requests ⟨cluster, session⟩) .stop).session ∧
      (∀ another, .called .closeNetwork another ∉ closing.history) ∧
      (∀ another, .called .closeNetwork another ∉ later) ∧
      (∀ component, closing.stateOf component ≠ .started) ∧
      ∀ handle,
        ((closing.history.filterMap Event.broughtUp?).map (·.handle)).count handle =
          ((closing.history.filterMap Event.broughtDown?).map (·.handle)).count handle := by
  have tended := (tended_of_build admits built).runAll unstopped
  rcases tended.stop succeed with ⟨closing, answer, later, closes, evolved, first, last, idle⟩
  refine ⟨closing, answer, later, closes, first, last, idle, ?_⟩
  have states : closing.stateOf = statesAfter neverStarted closing.history := evolved.states
  rw [states] at idle
  intro handle
  exact ((broughtUp_perm_broughtDown evolved.orderly idle).map (·.handle)).count_eq handle

/-- In a simulated world, a cluster that was started and has had a shard added and removed. -/
theorem stop_leaves_nothing_started_simulated :
    ∃ (cluster : Cluster) (session : Session Simulation.World),
      Cluster.build {} .supplied Simulation.patience (Session.fresh {}) = .ok cluster session ∧
      ∃ (closing : Session Simulation.World) (answer : Except Failure Unit) (later : List Event),
        closing.Evolves (.called .closeNetwork answer :: later)
          (Request.run (Request.runAll [.start, .addShard, .removeShard] ⟨cluster, session⟩)
            .stop).session ∧
        (∀ another, .called .closeNetwork another ∉ closing.history) ∧
        (∀ another, .called .closeNetwork another ∉ later) ∧
        (∀ component, closing.stateOf component ≠ .started) ∧
        ∀ handle,
          ((closing.history.filterMap Event.broughtUp?).map (·.handle)).count handle =
            ((closing.history.filterMap Event.broughtDown?).map (·.handle)).count handle := by
  have succeeds : (match Cluster.build {} .supplied Simulation.patience
      (Session.fresh ({} : Simulation.World)) with
    | .ok cluster session => decide (StopsSucceed
        (Request.run (Request.runAll [.start, .addShard, .removeShard] ⟨cluster, session⟩)
          .stop).session.history)
    | .error _ _ => false) = true := by
    decide +kernel
  cases built : Cluster.build {} .supplied Simulation.patience
      (Session.fresh ({} : Simulation.World)) with
  | error failure session =>
      rw [built] at succeeds
      cases succeeds
  | ok cluster session =>
      rw [built] at succeeds
      exact ⟨cluster, session, rfl, stop_leaves_nothing_started (Or.inl rfl) built
        [.start, .addShard, .removeShard] (by simp) (of_decide_eq_true succeeds)⟩

end Request

end ShardFleet
