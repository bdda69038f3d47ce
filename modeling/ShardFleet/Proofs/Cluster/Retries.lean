import Mathlib.Logic.Relation
import ShardFleet.Proofs.Cluster.Introductions
import ShardFleet.Proofs.Cluster.Lifecycle
import ShardFleet.Proofs.Session.Tally
import ShardFleet.Proofs.StartOrder.StartUp

/-!
# Starts that fail and are tried again

A start brings up all components before it registers the first shard. If anything fails it leaves
the cluster as it was, though not the components, so it can be tried again. However many starts
fail, the one that returns registers every shard, and all of them together have brought up each
component that was not started, once.
-/

namespace ShardFleet

open ShardFleet.Action Relation

variable {ω : Type} [Outside ω]

/-- The calls of a start, in order: those that start components, and once all components are started
those that register the shards. -/
inductive Cluster.StartsUp (cluster : Cluster) (before : Session ω) :
    List Event → Except Failure Unit → Prop where
  | unstarted {calls : List Event} {failure : Failure}
      (starts : CalledOnly (Transition.start.Reaches cluster.topology.components) calls)
      (raises : Raises (cluster.order.Blocks cluster.topology.components) calls
        (.error failure)) :
      StartsUp cluster before calls (.error failure)
  | joined {starting joining : List Event} {up after : Session ω} {result : Except Failure Unit}
      (evolves : before.Evolves starting up)
      (starts : CalledOnly (Transition.start.Reaches cluster.topology.components)
        (starting.filter Event.isCall))
      (raises : Raises (cluster.order.Blocks cluster.topology.components)
        (starting.filter Event.isCall) (.ok ()))
      (started : ∀ component ∈ cluster.topology.components, up.stateOf component = .started)
      (joins : cluster.EntersAll cluster.topology.shards up joining after result) :
      StartsUp cluster before ((starting ++ joining).filter Event.isCall) result

/-- The cluster after a start: if it fails, the cluster is as it was. -/
def Cluster.afterStart (cluster : Cluster) : Except Failure Unit → Cluster
  | .ok _ => { cluster with state := .started }
  | .error _ => cluster

namespace Request

variable {running middle last after : Running ω} {events calls : List Event}

/-- One start of a cluster that is not started yet. Its network stays open. -/
structure StartRun (before after : Running ω) (calls : List Event)
    (result : Except Failure Unit) : Prop where
  ran : Operation.start before = conclude result after
  evolves : ∃ events, before.session.Evolves events after.session ∧
    events.filter Event.isCall = calls
  startsUp : before.cluster.StartsUp before.session calls result
  cluster : after.cluster = before.cluster.afterStart result
  unclosed : ∀ answer, .called .closeNetwork answer ∉ after.session.history

def FailsToStart (before after : Running ω) : Prop :=
  ∃ failure, Operation.start before = .error failure after

/-- What has become of a cluster whose last start has returned, after others that have failed. -/
structure Retried (before last after : Running ω) : Prop where
  unchanged : last.cluster = before.cluster
  registers : ∃ calls, StartRun last after calls (.ok ())
  started : ∀ component ∈ before.cluster.topology.components,
    after.session.stateOf component = .started
  starts : ∃ events, before.session.Evolves events after.session ∧
    (∀ component ∈ before.cluster.topology.components,
      (events.filterMap Event.broughtUp?).count component =
        if before.session.stateOf component = .started then 0 else 1) ∧
    ∀ component, (∃ answer, .called (.start component) answer ∈ events) →
      component ∈ before.cluster.topology.components

/-- The cluster can be started, and started again for as long as that fails. -/
structure IsStartable (running : Running ω) : Prop where
  attempt : ∃ calls result after, StartRun running after calls result
  retry : ∀ last after, ReflTransGen FailsToStart running last →
    Operation.start last = .ok () after → Retried running last after

theorem start_unclosed (unclosed : ∀ answer, .called .closeNetwork answer ∉ running.session.history)
    (ran : finalState Operation.start running = after) :
    ∀ answer, .called .closeNetwork answer ∉ after.session.history := by
  rcases start_yields ran with ⟨events, evolves, yielded⟩
  intro answer member
  rw [evolves.history] at member
  rcases List.mem_append.mp member with before | now
  · exact unclosed answer before
  · exact yielded.unclosing nofun _ _ now rfl

/-- The components are started, and whatever comes of their registration follows. -/
theorem startsUp_of_registerAll {cluster : Cluster} {before up after : Session ω}
    {entry : LogEntry} {result : Except Failure Unit}
    (starts : cluster.order.startAll cluster.topology.components
      (before.record (.logged entry)) = .ok () up)
    (registers : cluster.registerAll cluster.topology.shards up = conclude result after) :
    ∃ events, before.Evolves events after ∧
      cluster.StartsUp before (events.filter Event.isCall) result := by
  rcases (cluster.order.startAll_traces _).of_ok starts with ⟨events, evolves, calls, raises⟩
  rcases Cluster.entersAll_of_registerAll registers with ⟨later, enters⟩
  have started := (Session.Evolves.logged before entry).trans evolves
  refine ⟨_, started.trans enters.evolves, .joined started calls raises ?_ enters⟩
  exact StartOrder.stateOf_of_startAll _ _ starts

theorem exists_startRun (idle : running.cluster.state = .notStarted)
    (unclosed : ∀ answer, .called .closeNetwork answer ∉ running.session.history) :
    ∃ calls result after, StartRun running after calls result := by
  have starting := running.cluster.order.startAll_traces (ω := ω)
    running.cluster.topology.components
  have course := Operation.start_course running
  have stays := start_unclosed unclosed rfl
  rw [finalState] at stays
  generalize ran : Operation.start running = outcome at course stays
  cases course with
  | already up =>
      rw [idle] at up
      cases up
  | refused down =>
      rw [idle] at down
      cases down
  | unstarted _ starts =>
      rcases starting.of_error starts with ⟨events, evolves, calls, raises⟩
      have begun := (Session.Evolves.logged running.session _).trans evolves
      exact ⟨_, .error _, _, ran, ⟨_, begun, rfl⟩, .unstarted calls raises, rfl, stays⟩
  | unregistered _ starts registers =>
      rcases startsUp_of_registerAll starts (show _ = conclude (.error _) _ from registers) with
        ⟨events, evolves, startsUp⟩
      exact ⟨_, .error _, _, ran, ⟨events, evolves, rfl⟩, startsUp, rfl, stays⟩
  | started _ starts registers =>
      rcases startsUp_of_registerAll starts (show _ = conclude (.ok ()) _ from registers) with
        ⟨events, evolves, startsUp⟩
      refine ⟨_, .ok (), _, ran, ⟨_, evolves.trans (.logged _ _), ?_⟩, startsUp, rfl, stays⟩
      rw [List.filter_append]
      exact List.append_nil _

/-- The start registers all shards and leaves every component started. -/
theorem startRun_of_ok (idle : running.cluster.state = .notStarted)
    (unclosed : ∀ answer, .called .closeNetwork answer ∉ running.session.history)
    (ran : Operation.start running = .ok () after) :
    ∃ calls, StartRun running after calls (.ok ()) := by
  rcases exists_startRun idle unclosed with ⟨calls, result, final, run⟩
  have returned : Operation.start running = conclude (.ok ()) after := ran
  rcases conclude_inj.mp (returned.symm.trans run.ran) with ⟨rfl, rfl⟩
  exact ⟨calls, run⟩

/-- Registering shards leaves the components as they are, which are all started by then. -/
theorem stateOf_of_start (idle : running.cluster.state = .notStarted)
    (ran : Operation.start running = .ok () after) :
    ∀ component ∈ running.cluster.topology.components,
      after.session.stateOf component = .started := by
  have course := Operation.start_course running
  rw [ran] at course
  cases course with
  | already up =>
      rw [idle] at up
      cases up
  | started waits starts registers =>
      rename_i entry final up whole
      rcases (Cluster.registerAll_callsOnly _ _).evolves registers with ⟨events, within⟩
      intro component listed
      change whole.stateOf component = LifecycleState.started
      rw [within.stateOf_eq]
      exact StartOrder.stateOf_of_startAll _ _ starts component listed

theorem Yields.starts (yielded : Yields running .start events after) :
    CalledOnly (Starts running.cluster) events := by
  cases yielded with
  | started calls stateEq => exact calls

/-- Starts that fail leave the cluster as it is, and its network open. -/
structure Held (before after : Running ω) : Prop where
  cluster : after.cluster = before.cluster
  unclosed : ∀ answer, .called .closeNetwork answer ∉ after.session.history
  evolves : ∃ events, before.session.Evolves events after.session ∧
    CalledOnly (Starts before.cluster) events

theorem Held.of_failing (unclosed : ∀ answer,
      .called .closeNetwork answer ∉ running.session.history)
    (failing : ReflTransGen FailsToStart running last) : Held running last := by
  induction failing with
  | refl => exact ⟨rfl, unclosed, [], .refl _, .nil⟩
  | tail _ fails held =>
      rcases fails with ⟨failure, ran⟩
      rcases held.evolves with ⟨before, evolves, calls⟩
      rcases start_yields (finalState_of_error ran) with ⟨events, follows, yielded⟩
      refine ⟨(cluster_eq_of_start_error ran).trans held.cluster,
        start_unclosed held.unclosed (finalState_of_error ran), _, evolves.trans follows, ?_⟩
      rw [← held.cluster] at calls ⊢
      exact calls.append yielded.starts

theorem broughtDown_of_starts {cluster : Cluster} (calls : CalledOnly (Starts cluster) events) :
    events.filterMap Event.broughtDown? = [] := by
  rw [List.filterMap_eq_nil_iff]
  intro event member
  cases event with
  | called call answer =>
      cases call <;> try rfl
      rcases calls _ _ member with ⟨component, _, same⟩ | onChannel
      · cases same
      · exact onChannel.elim
  | logged entry => rfl
  | pooled workers => rfl

theorem retried_of_held (idle : running.cluster.state = .notStarted) (held : Held running last)
    (ran : Operation.start last = .ok () after) : Retried running last after := by
  have waits : last.cluster.state = .notStarted := held.cluster ▸ idle
  have up := stateOf_of_start waits ran
  rw [held.cluster] at up
  rcases held.evolves with ⟨before, evolves, calls⟩
  rcases start_yields (finalState_of_ok ran) with ⟨events, follows, yielded⟩
  have all : CalledOnly (Starts running.cluster) (before ++ events) :=
    calls.append (held.cluster ▸ yielded.starts)
  have whole := evolves.trans follows
  refine ⟨held.cluster, startRun_of_ok waits held.unclosed ran, up, _, whole, ?_, ?_⟩
  · intro component listed
    -- Nothing goes down, so a component goes up once if it was not started, and not at all else.
    have counted := count_brought component whole.orderly
    rw [broughtDown_of_starts all, ← whole.states, up component listed, List.count_nil,
      if_pos rfl] at counted
    by_cases started : running.session.stateOf component = .started
    · rw [if_pos started] at counted ⊢
      exact Nat.succ.inj counted
    · rw [if_neg started] at counted ⊢
      exact counted
  · rintro component ⟨answer, member⟩
    rcases all _ _ member with ⟨other, listed, same⟩ | onChannel
    · cases same
      exact listed
    · exact onChannel.elim

/-- Whatever an unstarted cluster has been asked for and whatever has failed, it can be started. -/
theorem runAll_isStartable {world : ω} {shape : ClusterShape} {source : ChannelSource}
    {patience : ℕ} {cluster : Cluster} {session : Session ω}
    (built : Cluster.build shape source patience (Session.fresh world) = .ok cluster session)
    (requests : List Request)
    (idle : (runAll requests ⟨cluster, session⟩).cluster.state = .notStarted) :
    IsStartable (runAll requests ⟨cluster, session⟩) := by
  have active : (runAll requests ⟨cluster, session⟩).cluster.state ≠ .stopped := by simp [idle]
  have unclosed := unclosed_of_build built active
  exact {
    attempt := exists_startRun idle unclosed
    retry := fun last after failing ran =>
      retried_of_held idle (.of_failing unclosed failing) ran }

/-- The first response that lists the shards cannot be read. -/
def garbledWorld : Simulation.World :=
  { admin := { scripts := [(.text "listShards", [.int 0])] } }

/-- A cluster in a simulated world that is started at the second attempt. -/
theorem runAll_isStartable_simulated :
    ∃ (cluster : Cluster) (session : Session Simulation.World) (last after :
        Running Simulation.World),
      Cluster.build {} .supplied Simulation.patience (Session.fresh garbledWorld) =
        .ok cluster session ∧
      (runAll [] ⟨cluster, session⟩).cluster.state = .notStarted ∧
      FailsToStart ⟨cluster, session⟩ last ∧ Operation.start last = .ok () after ∧
      Retried ⟨cluster, session⟩ last after := by
  have retries : returnsWith (fun cluster session =>
      decide ((runAll [] ⟨cluster, session⟩).cluster.state = .notStarted) &&
        match Operation.start ⟨cluster, session⟩ with
        | .ok _ _ => false
        | .error _ last => returnsWith (fun _ _ => true) (Operation.start last))
      (Cluster.build {} .supplied Simulation.patience (Session.fresh garbledWorld)) = true := by
    decide +kernel
  rcases exists_of_returnsWith retries with ⟨cluster, session, built, checked⟩
  rw [Bool.and_eq_true, decide_eq_true_eq] at checked
  rcases checked with ⟨idle, again⟩
  cases ran : Operation.start ⟨cluster, session⟩ with
  | ok value last =>
      rw [ran] at again
      cases again
  | error failure last =>
      rw [ran] at again
      rcases exists_of_returnsWith again with ⟨value, after, returned, _⟩
      have fails : FailsToStart ⟨cluster, session⟩ last := ⟨failure, ran⟩
      exact ⟨cluster, session, last, after, built, idle, fails, returned,
        (runAll_isStartable built [] idle).retry last after (.single fails) returned⟩

end Request

end ShardFleet
