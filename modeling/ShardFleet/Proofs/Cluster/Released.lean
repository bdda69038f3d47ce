import ShardFleet.Proofs.Cluster.Lifecycle

/-!
# What a stopped cluster starts

A cluster that is stopped has released its network. A start is refused then, but a shard can still
be asked for: it is built and its handle is started, though no stop will reach it any more. Nothing
else brings a handle up once the cluster has been stopped.
-/

namespace ShardFleet

open ShardFleet.Action

variable {ω : Type} [Outside ω]

namespace Request

variable {running : Running ω} {request : Request} {events : List Event} {component : Component}
  {answer : Except Failure Unit}

/-- The component is the shard that is built when the cluster is asked for one. -/
def IsNextShard (running : Running ω) (component : Component) : Prop :=
  ∃ shard built, running.cluster.shape.blueprint.buildShard (running.cluster.shardsCreated + 1)
    running.session = .ok shard built ∧ component = shard.toComponent

/-- One of the requests was to add a shard, and the component is that shard. -/
def Added (start : Running ω) (requests : List Request) (component : Component) : Prop :=
  ∃ earlier later, requests = earlier ++ .addShard :: later ∧
    IsNextShard (runAll earlier start) component

theorem Added.append {start : Running ω} {requests more : List Request}
    (added : Added start requests component) : Added start (requests ++ more) component := by
  rcases added with ⟨earlier, later, rfl, next⟩
  exact ⟨earlier, later ++ more, by rw [List.append_assoc, List.cons_append], next⟩

/-- Adding a shard starts the handle of this shard at the most. -/
theorem isNextShard_of_started
    (evolves : running.session.Evolves events (run running .addShard).session)
    (started : .called (.start component) answer ∈ events) : IsNextShard running component := by
  have builds : CallsOnly (Call.Constructs fun _ => True)
      (running.cluster.shape.blueprint.buildShard (running.cluster.shardsCreated + 1) :
        Action ω ReplicaGroup) := Blueprint.buildShard_callsOnly _ trivial
  have course := Operation.addShard_course running
  rw [run, finalState] at evolves
  generalize Operation.addShard running = result at course evolves
  cases course with
  | unbuilt building =>
      rcases builds.evolves_of_error building with ⟨others, within⟩
      rw [evolves.unique within.evolves] at started
      exact (within.calls _ _ started).elim
  | unstarted building starts =>
      rcases builds.evolves building with ⟨others, within⟩
      have starting := Transition.start.evolves_of_run_error starts
      rw [evolves.unique (within.evolves.trans starting.evolves)] at started
      rcases List.mem_append.mp started with before | now
      · exact (within.calls _ _ before).elim
      · cases starting.calls _ _ now
        exact ⟨_, _, building, rfl⟩
  | stranded building starts registers =>
      rcases builds.evolves building with ⟨others, within⟩
      rcases setUp_evolves starts (finalState_of_error registers) with ⟨setting, sets, _⟩
      rw [evolves.unique (within.evolves.trans (sets.evolves.trans (.logged _ _)))] at started
      rcases List.mem_append.mp started with before | now
      · exact (within.calls _ _ before).elim
      · rcases sets.calls.append (.quiet rfl) _ _ now with constructs | same | onChannel
        · exact constructs.elim
        · cases same
          exact ⟨_, _, building, rfl⟩
        · exact onChannel.elim
  | joined building starts registers =>
      rcases builds.evolves building with ⟨others, within⟩
      rcases setUp_evolves starts (finalState_of_ok registers) with ⟨setting, sets, _⟩
      rw [evolves.unique (within.evolves.trans sets.evolves)] at started
      rcases List.mem_append.mp started with before | now
      · exact (within.calls _ _ before).elim
      · rcases sets.calls _ _ now with constructs | same | onChannel
        · exact constructs.elim
        · cases same
          exact ⟨_, _, building, rfl⟩
        · exact onChannel.elim

/-- No other request than these two starts a handle. -/
theorem Yields.unstarting {after : Running ω} (yielded : Yields running request events after)
    (others : request ≠ .start ∧ request ≠ .addShard) (component : Component) :
    CalledOnly (· ≠ .start component) events := by
  cases yielded with
  | started calls stateEq => exact absurd rfl others.1
  | stopped calls stateEq =>
      apply calls.avoids
      rintro (⟨other, _, same⟩ | same) <;> cases same
  | unadded asks calls unstarted => exact absurd rfl others.2
  | added asks calls once named made joined => exact absurd rfl others.2
  | shardless empty => exact .nil
  | undrained last calls => exact calls.avoids id
  | removed last calls down =>
      apply calls.avoids
      rintro (onChannel | same)
      · exact onChannel
      · cases same
  | enabled calls => exact calls.avoids id
  | sharded calls => exact calls.avoids id

theorem state_after_stop (running : Running ω) :
    (run running .stop).cluster.state = .stopped := by
  by_cases down : running.cluster.state = .stopped
  · rw [run, finalState_of_ok (stop_of_stopped down)]
    exact down
  · exact (stop_closesNetwork down).1

/-- Once the cluster is stopped, a request starts the shard that it adds, if anything. -/
theorem added_of_started
    (writable : running.cluster.shape.blueprint.namespacePrefix.checkWritable = .ok ())
    (down : running.cluster.state = .stopped)
    (evolves : running.session.Evolves events (run running request).session)
    (started : .called (.start component) answer ∈ events) :
    request = .addShard ∧ IsNextShard running component := by
  by_cases isStart : request = .start
  · subst isStart
    rw [run, finalState_of_error (start_of_stopped down)] at evolves
    rw [evolves.unique (.refl _)] at started
    cases started
  · by_cases adds : request = .addShard
    · subst adds
      exact ⟨rfl, isNextShard_of_started evolves started⟩
    · rcases yields writable request with ⟨same, yielding, yielded⟩
      rw [evolves.unique yielding] at started
      exact absurd rfl (yielded.unstarting ⟨isStart, adds⟩ component _ _ started)

theorem runAll_added_of_started
    (writable : running.cluster.shape.blueprint.namespacePrefix.checkWritable = .ok ())
    (down : running.cluster.state = .stopped) (requests : List Request) :
    ∃ rest, running.session.Evolves rest (runAll requests running).session ∧
      ∀ component answer, .called (.start component) answer ∈ rest →
        Added running requests component := by
  refine runAll_induction (motive := fun requests after =>
      ∃ rest, running.session.Evolves rest after.session ∧
        ∀ component answer, .called (.start component) answer ∈ rest →
          Added running requests component)
    running writable ⟨[], .refl _, fun _ _ member => nomatch member⟩ ?_ requests
  rintro earlier request events after ⟨rest, before, added⟩ evolves yielded rfl
  refine ⟨rest ++ events, before.trans evolves, ?_⟩
  intro component answer started
  rcases List.mem_append.mp started with sooner | now
  · exact (added component answer sooner).append
  · have stays := (runAll_of_stopped writable down earlier).1
    rw [← runAll_shape running writable earlier] at writable
    rcases added_of_started writable stays evolves now with ⟨rfl, next⟩
    exact ⟨earlier, [], rfl, next⟩

/-- Whatever a cluster has been asked for and whatever has failed, after its first stop no handle is
started but those of the shards that it is asked to add. -/
theorem stopped_starts_only_added {world : ω} {shape : ClusterShape} {source : ChannelSource}
    {patience : ℕ} {cluster : Cluster} {session : Session ω}
    (built : Cluster.build shape source patience (Session.fresh world) = .ok cluster session)
    (earlier later : List Request) :
    ∃ rest, (runAll (earlier ++ [.stop]) ⟨cluster, session⟩).session.Evolves rest
        (runAll (earlier ++ .stop :: later) ⟨cluster, session⟩).session ∧
      ∀ component answer, .called (.start component) answer ∈ rest →
        Added (runAll (earlier ++ [.stop]) ⟨cluster, session⟩) later component := by
  rcases Cluster.build_eq_ok built with ⟨building, isNew⟩
  have writable := isNew.blueprint_writable
  rw [← runAll_shape ⟨cluster, session⟩ writable (earlier ++ [.stop])] at writable
  have down : (runAll (earlier ++ [.stop]) ⟨cluster, session⟩).cluster.state = .stopped := by
    rw [runAll_append]
    exact state_after_stop _
  have split : runAll (earlier ++ .stop :: later) ⟨cluster, session⟩ =
      runAll later (runAll (earlier ++ [.stop]) ⟨cluster, session⟩) := by
    rw [← runAll_append, List.append_assoc, List.singleton_append]
  rw [split]
  exact runAll_added_of_started writable down later

/-- A cluster in a simulated world that is stopped and then asked for a shard, and to start. -/
theorem stopped_starts_only_added_simulated :
    ∃ (cluster : Cluster) (session : Session Simulation.World),
      Cluster.build {} .supplied Simulation.patience (Session.fresh {}) = .ok cluster session ∧
      ∃ rest, (runAll ([.start] ++ [.stop]) ⟨cluster, session⟩).session.Evolves rest
          (runAll ([.start] ++ .stop :: [.addShard, .start]) ⟨cluster, session⟩).session ∧
        ∀ component answer, .called (.start component) answer ∈ rest →
          Added (runAll ([.start] ++ [.stop]) ⟨cluster, session⟩) [.addShard, .start]
            component := by
  have succeeds : returnsWith (fun _ _ => true) (Cluster.build {} .supplied Simulation.patience
      (Session.fresh ({} : Simulation.World))) = true := by
    decide +kernel
  rcases exists_of_returnsWith succeeds with ⟨cluster, session, built, _⟩
  exact ⟨cluster, session, built, stopped_starts_only_added built [.start] [.addShard, .start]⟩

def startsAny : Call → Bool
  | .start _ => true
  | _ => false

/-- A cluster that has been stopped starts the shard that it is asked for. -/
theorem addShard_starts_when_stopped :
    ∃ (cluster : Cluster) (session : Session Simulation.World) (events : List Event)
        (component : Component) (answer : Except Failure Unit),
      Cluster.build {} .supplied Simulation.patience (Session.fresh {}) = .ok cluster session ∧
      (runAll [.stop] ⟨cluster, session⟩).cluster.state = .stopped ∧
      (runAll [.stop] ⟨cluster, session⟩).session.Evolves events
        (runAll [.stop, .addShard] ⟨cluster, session⟩).session ∧
      .called (.start component) answer ∈ events := by
  have starts : returnsWith (fun cluster session =>
      ((runAll [.stop, .addShard] ⟨cluster, session⟩).session.history.drop
        (runAll [.stop] ⟨cluster, session⟩).session.history.length).any
          (Event.isCallTo startsAny))
      (Cluster.build {} .supplied Simulation.patience
        (Session.fresh ({} : Simulation.World))) = true := by
    decide +kernel
  rcases exists_of_returnsWith starts with ⟨cluster, session, built, started⟩
  rcases Cluster.build_eq_ok built with ⟨building, isNew⟩
  have writable := isNew.blueprint_writable
  rw [← runAll_shape ⟨cluster, session⟩ writable [.stop]] at writable
  rcases yields writable .addShard with ⟨events, evolves, _⟩
  have history : (runAll [.stop, .addShard] ⟨cluster, session⟩).session.history =
      (runAll [.stop] ⟨cluster, session⟩).session.history ++ events := evolves.history
  rw [history, List.drop_left] at started
  rcases any_isCallTo_iff.mp started with ⟨call, answer, member, starts⟩
  cases call <;> try cases starts
  exact ⟨cluster, session, events, _, answer, built, state_after_stop _, evolves, member⟩

end Request

end ShardFleet
