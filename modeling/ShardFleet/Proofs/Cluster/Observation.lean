import ShardFleet.Proofs.Cluster.Serials
import ShardFleet.Proofs.Cluster.Waiting
import ShardFleet.Simulation.World

/-!
# What a cluster makes of what it is told

The admin namespace reports a shard active, or its removal complete, while a channel is open; the
cluster enters it in its topology once the channel is closed. Two things can come between: the
channel may fail to close, and the time that the wait has taken may be no number of milliseconds.
Otherwise what has been reported is entered, whatever the request goes on to.
-/

namespace ShardFleet

open ShardFleet.Action

variable {ω : Type}

namespace Event

/-- A response to a command of the name given that is read as the end of a wait. -/
def isReport (command : String) (reading : Value → Except Failure Bool) : Event → Bool
  | .called (.command sent) (.ok response) =>
      sent.name.isText command &&
        match reading response with
        | .ok holds => holds
        | .error _ => false
  | _ => false

def isFailedClosing : Event → Bool
  | .called .closeChannel (.error _) => true
  | .called .disconnect (.error _) => true
  | _ => false

end Event

/-- There is a report among the events. -/
def Hears (command : String) (reading : Value → Except Failure Bool) (events : List Event) : Prop :=
  ∃ event ∈ events, event.isReport command reading = true

/-- The reasons for which a report may not have been entered. -/
def Excuses (failure : Failure) (events : List Event) : Prop :=
  (∃ event ∈ events, event.isFailedClosing = true) ∨ failure.IsUntimed

theorem Excuses.mono {failure other : Failure} {first second : List Event}
    (excuses : Excuses failure first) (included : first ⊆ second)
    (same : failure.IsUntimed → other.IsUntimed) : Excuses other second := by
  rcases excuses with ⟨event, member, closing⟩ | untimed
  · exact Or.inl ⟨event, included member, closing⟩
  · exact Or.inr (same untimed)

theorem Failure.IsUntimed.leaving {failure : Failure} (untimed : failure.IsUntimed)
    (shard : ReplicaGroup) : (failure.leaving shard).IsUntimed := by
  rcases untimed with rfl | rfl
  · exact Or.inl rfl
  · exact Or.inr rfl

namespace Call

/-- A call that is no command of the name given. -/
def Avoids (command : String) : Call → Prop := Issues fun sent => sent.name.isText command = false

theorem IsIdle.avoids {command : String} {call : Call} (idle : call.IsIdle) :
    call.Avoids command :=
  OnChannel.issues (OnChannel.mono idle fun _ => False.elim)

end Call

section Hears

variable {command : String} {reading : Value → Except Failure Bool} {first second : List Event}

theorem hears_append :
    Hears command reading (first ++ second) ↔
      Hears command reading first ∨ Hears command reading second := by
  simp only [Hears, List.mem_append, or_and_right, exists_or]

theorem not_hears_of_avoids (calls : CalledOnly (Call.Avoids command) first) :
    ¬Hears command reading first := by
  rintro ⟨event, member, report⟩
  unfold Event.isReport at report
  split at report
  · have other : _ = false := calls _ _ member
    rw [other] at report
    cases report
  · cases report

theorem not_hears_of_reading {sent : AdminCommand} {response : Value}
    (otherwise : reading response ≠ .ok true) :
    ¬Hears command reading [.called (.command sent) (.ok response)] := by
  rintro ⟨event, member, report⟩
  cases List.mem_singleton.mp member
  unfold Event.isReport at report
  cases read : reading response with
  | error failure => simp [read] at report
  | ok holds =>
      simp only [read, Bool.and_eq_true] at report
      exact otherwise (report.2 ▸ read)

end Hears

variable {command : String} {reading : Value → Except Failure Bool}

/-- Nothing has been reported since. -/
def Unheard (before : Session ω) (command : String) (reading : Value → Except Failure Bool) :
    Session ω → Prop :=
  Session.Since before fun events => ¬Hears command reading events

namespace Unheard

variable {before session after : Session ω} {events : List Event}

theorem refl (session : Session ω) : Unheard session command reading session :=
  ⟨[], .refl session, by rintro ⟨event, member, _⟩; cases member⟩

theorem append (unheard : Unheard before command reading session)
    (evolves : session.Evolves events after) (quiet : ¬Hears command reading events) :
    Unheard before command reading after := by
  rcases unheard with ⟨earlier, evolved, unheard⟩
  refine ⟨_, evolved.trans evolves, ?_⟩
  rintro (heard : Hears command reading (earlier ++ events))
  rw [hears_append] at heard
  exact heard.elim unheard quiet

end Unheard

variable [Outside ω]

theorem survives_unheard (before : Session ω) :
    Session.Survives (Call.Avoids command) (Unheard before command reading) := by
  intro session after events within unheard
  exact unheard.append within.evolves (not_hears_of_avoids within.calls)

theorem awaits_report (before : Session ω) (command : String)
    (reading : Value → Except Failure Bool) :
    Awaits (Unheard before command reading) (Session.Since before fun _ => True)
      (Session.Since before fun events => ∃ event ∈ events, event.isFailedClosing = true) where
  waits := (survives_unheard before).mono fun call => Call.IsIdle.avoids
  stays := Session.survives_since fun _ _ _ _ => trivial
  lapses := by
    intro session call failure since closing answer
    have evolved : ∃ events, before.Evolves events session := by
      rcases since with ⟨events, evolves, _⟩ | ⟨events, evolves, _⟩
      · exact ⟨events, evolves⟩
      · exact ⟨events, evolves⟩
    rcases evolved with ⟨events, evolves⟩
    have still : call.isTransition = false := by
      rcases closing with rfl | rfl <;> rfl
    refine ⟨_, evolves.trans (session.evolves_answered still), _,
      List.mem_append_right _ (List.mem_singleton_self _), ?_⟩
    rw [answer]
    rcases closing with rfl | rfl <;> rfl

theorem decides_report (before : Session ω) (channel : Channel) (sent : AdminCommand) :
    Ensures.Decides (Unheard before command reading) (Session.Since before fun _ => True)
      (channel.command sent >>= fun response => conclude (reading response)) := by
  apply Ensures.decides_of_reading (awaits_report before command reading).waits
  · intro session response unheard answer
    have answered : session.Evolves [.called (.command sent) _] (session.answered (.command sent)) :=
      session.evolves_answered rfl
    rw [answer] at answered
    constructor
    · rcases unheard with ⟨events, evolves, _⟩
      exact fun _ => ⟨_, evolves.trans answered, trivial⟩
    · exact fun otherwise => unheard.append answered (not_hears_of_reading otherwise)
  · intro session failure unheard answer
    have answered : session.Evolves [.called (.command sent) _] (session.answered (.command sent)) :=
      session.evolves_answered rfl
    rw [answer] at answered
    apply unheard.append answered
    rintro ⟨event, member, report⟩
    cases List.mem_singleton.mp member
    cases report

namespace Cluster

variable {cluster : Cluster} {shard : ReplicaGroup} {before after : Session ω} {failure : Failure}
  {events : List Event}

omit [Outside ω] in
theorem excuses_of_fails
    (fails : Awaits.Fails (Unheard before command reading) (Session.Since before fun _ => True)
      (Session.Since before fun events => ∃ event ∈ events, event.isFailedClosing = true)
      failure after)
    (evolves : before.Evolves events after) (heard : Hears command reading events) :
    Excuses failure events := by
  rcases fails with ⟨others, same, unheard⟩ | ⟨others, same, closing⟩ | ⟨_, untimed⟩
  · rw [same.unique evolves] at unheard
    exact absurd heard unheard
  · rw [same.unique evolves] at closing
    exact Or.inl closing
  · exact Or.inr untimed

theorem register_excuses (failed : cluster.register shard before = .error failure after)
    (evolves : before.Evolves events after)
    (heard : Hears "listShards" (Admin.readActive shard.nameValue) events) :
    Excuses failure events := by
  have adds (address : String) : Keeps
      (Unheard before "listShards" (Admin.readActive shard.nameValue))
      (Admin.addShard cluster.channel (.text address)) := by
    have calls : CallsOnly (Call.OnChannel fun sent => sent.name.isText "listShards" = false)
        (Admin.addShard cluster.channel (.text address) : Action ω Value) := .command _ rfl
    exact (calls.mono fun call => Call.OnChannel.issues).keeps (survives_unheard before)
  have decides : Ensures.Decides (Unheard before "listShards" (Admin.readActive shard.nameValue))
      (Session.Since before fun _ => True)
      (Admin.isShardActive cluster.channel shard.nameValue) := by
    rw [Admin.isShardActive_eq]
    exact decides_report before _ _
  have registers := (awaits_report before _ _).register cluster shard adds decides
  exact excuses_of_fails (registers.error (.refl before) failed) evolves heard

theorem drain_excuses (failed : cluster.drain shard before = .error failure after)
    (evolves : before.Evolves events after) (heard : Hears "removeShard" Admin.readRemoved events) :
    Excuses failure events := by
  have decides : Ensures.Decides (Unheard before "removeShard" Admin.readRemoved)
      (Session.Since before fun _ => True)
      (Admin.isShardRemoved cluster.channel shard.nameValue) := by
    rw [Admin.isShardRemoved_eq]
    exact decides_report before _ _
  have drains := (awaits_report before _ _).drain cluster shard decides
  exact excuses_of_fails (drains.error (.refl before) failed) evolves heard

end Cluster

namespace Request

variable {running : Running ω} {shard : ReplicaGroup} {built : Session ω} {events : List Event}

/-- A new shard that has been reported active is entered in the topology and not kept as one that is
not registered. -/
structure Enters (after : Running ω) (shard : ReplicaGroup) : Prop where
  listed : shard ∈ after.cluster.topology.shards
  registered : shard ∉ after.cluster.unregistered

theorem addShard_enters (distinct : Distinct running)
    (builds : running.cluster.shape.blueprint.buildShard (running.cluster.shardsCreated + 1)
      running.session = .ok shard built)
    (evolves : running.session.Evolves events (run running .addShard).session)
    (heard : Hears "listShards" (Admin.readActive shard.nameValue) events) :
    Enters (run running .addShard) shard ∨
      ∃ failure after, Operation.addShard running = .error failure after ∧
        Excuses failure events := by
  -- Neither building nor starting the shard asks for a listing: a report can only come from its
  -- registration.
  have new : shard ∉ running.cluster.listedShards :=
    distinct.not_mem_of_new (Blueprint.buildShard_eq_ok builds).1.1
  have constructs : CallsOnly (Call.Avoids "listShards")
      (running.cluster.shape.blueprint.buildShard (running.cluster.shardsCreated + 1) :
        Action ω ReplicaGroup) := by
    have calls : CallsOnly (Call.Constructs fun _ => True)
        (running.cluster.shape.blueprint.buildShard (running.cluster.shardsCreated + 1) :
          Action ω ReplicaGroup) := Blueprint.buildShard_callsOnly _ trivial
    exact calls.mono fun call constructs => by cases call <;> trivial
  have brings : CallsOnly (Call.Avoids "listShards")
      (shard.toComponent.start : Action ω Bool) := Transition.start.run_callsOnly _ trivial
  rcases constructs.evolves builds with ⟨building, buildsWithin⟩
  have course := Operation.addShard_course running
  rw [run, finalState] at evolves ⊢
  generalize Operation.addShard running = result at course evolves
  cases course with
  | unbuilt fails =>
      rw [builds] at fails
      cases fails
  | unstarted again starts =>
      rw [builds] at again
      cases again
      rcases brings.evolves_of_error starts with ⟨starting, startsWithin⟩
      have quietly := buildsWithin.trans startsWithin
      rw [evolves.unique quietly.evolves] at heard
      exact absurd heard (not_hears_of_avoids quietly.calls)
  | stranded again starts registers =>
      rename_i entry
      rw [builds] at again
      cases again
      rcases brings.evolves starts with ⟨starting, startsWithin⟩
      have quietly := buildsWithin.trans startsWithin
      rcases (running.cluster.register_callsOnly shard).evolves_of_error registers with
        ⟨registering, registersWithin⟩
      have same := evolves.unique
        (quietly.evolves.trans (registersWithin.evolves.trans (.logged _ entry)))
      rw [same] at heard
      rcases hears_append.mp heard with before | later
      · exact absurd before (not_hears_of_avoids quietly.calls)
      · rcases hears_append.mp later with now | logged
        · right
          refine ⟨_, _, rfl, ?_⟩
          have excuses := Cluster.register_excuses registers registersWithin.evolves now
          refine excuses.mono ?_ fun untimed => untimed.leaving shard
          intro event member
          rw [same]
          exact List.mem_append_right _ (List.mem_append_left _ member)
        · exact absurd logged (not_hears_of_avoids (CalledOnly.quiet rfl))
  | joined again starts registers =>
      rw [builds] at again
      cases again
      exact Or.inl ⟨List.mem_append_right _ (List.mem_singleton_self _),
        fun kept => new (List.mem_append_right _ kept)⟩

theorem removeShard_drops (distinct : Distinct running)
    (last : running.cluster.topology.shards.getLast? = some shard)
    (evolves : running.session.Evolves events (run running .removeShard).session)
    (heard : Hears "removeShard" Admin.readRemoved events) :
    shard ∉ (run running .removeShard).cluster.topology.shards ∨
      ∃ failure after, Operation.removeShard running = .error failure after ∧
        Excuses failure events := by
  have course := Operation.removeShard_course running
  rw [run, finalState] at evolves ⊢
  generalize Operation.removeShard running = result at course evolves
  cases course with
  | shardless empty =>
      rw [empty] at last
      cases last
  | undrained again drains =>
      rename_i entry _ _
      right
      refine ⟨_, _, rfl, ?_⟩
      rcases (running.cluster.drain_callsOnly _).evolves_of_error drains with
        ⟨draining, drainsWithin⟩
      have same := evolves.unique (Session.Evolves.trans (.logged _ entry) drainsWithin.evolves)
      rw [same] at heard
      rcases hears_append.mp heard with logged | now
      · exact absurd logged (not_hears_of_avoids (CalledOnly.quiet rfl))
      · have excuses := Cluster.drain_excuses drains drainsWithin.evolves now
        refine excuses.mono ?_ id
        rw [same]
        exact List.subset_append_right _ _
  | unstopped again drains stops => exact Or.inl (distinct.not_mem_dropLast last)
  | removed again drains stops => exact Or.inl (distinct.not_mem_dropLast last)

/-- What has been reported to the next request is entered, but for the excuses there are. -/
structure Remembers (running : Running ω) : Prop where
  additions : ∀ shard built events,
    running.cluster.shape.blueprint.buildShard (running.cluster.shardsCreated + 1)
      running.session = .ok shard built →
    running.session.Evolves events (run running .addShard).session →
    Hears "listShards" (Admin.readActive shard.nameValue) events →
    Enters (run running .addShard) shard ∨
      ∃ failure after, Operation.addShard running = .error failure after ∧ Excuses failure events
  removals : ∀ shard events, running.cluster.topology.shards.getLast? = some shard →
    running.session.Evolves events (run running .removeShard).session →
    Hears "removeShard" Admin.readRemoved events →
    shard ∉ (run running .removeShard).cluster.topology.shards ∨
      ∃ failure after, Operation.removeShard running = .error failure after ∧
        Excuses failure events

/-- Whatever a new cluster has been asked for and whatever has failed, it does not forget what it is
told next, unless a channel fails to close or a time is no number. -/
theorem runAll_remembers {world : ω} {shape : ClusterShape} {source : ChannelSource}
    {patience : ℕ} {cluster : Cluster} {session : Session ω}
    (built : Cluster.build shape source patience (Session.fresh world) = .ok cluster session)
    (requests : List Request) : Remembers (runAll requests ⟨cluster, session⟩) := by
  have distinct := runAll_distinct built requests
  exact {
    additions := fun _ _ _ builds evolves heard => addShard_enters distinct builds evolves heard
    removals := fun _ _ last evolves heard => removeShard_drops distinct last evolves heard }

/-- A simulated world in which no channel closes. -/
def unclosableWorld : Simulation.World :=
  { closeFailure := some (.reported .general "close refused") }

/-- A cluster whose channels fail to close, once it has been asked for a shard. -/
theorem runAll_remembers_simulated :
    ∃ (cluster : Cluster) (session : Session Simulation.World),
      Cluster.build {} .supplied Simulation.patience (Session.fresh unclosableWorld) =
        .ok cluster session ∧
      Remembers (runAll [.addShard] ⟨cluster, session⟩) := by
  have succeeds : returnsWith (fun _ _ => true) (Cluster.build {} .supplied Simulation.patience
      (Session.fresh unclosableWorld)) = true := by
    decide +kernel
  rcases exists_of_returnsWith succeeds with ⟨cluster, session, built, _⟩
  exact ⟨cluster, session, built, runAll_remembers built [.addShard]⟩

/-- The shard that it was asked for has been reported active, and is not in its topology. -/
theorem addShard_forgets_simulated :
    ∃ (cluster : Cluster) (session made : Session Simulation.World) (shard : ReplicaGroup)
        (events : List Event),
      Cluster.build {} .supplied Simulation.patience (Session.fresh unclosableWorld) =
        .ok cluster session ∧
      cluster.shape.blueprint.buildShard (cluster.shardsCreated + 1) session = .ok shard made ∧
      session.Evolves events (run ⟨cluster, session⟩ .addShard).session ∧
      Hears "listShards" (Admin.readActive shard.nameValue) events ∧
      ¬Enters (run ⟨cluster, session⟩ .addShard) shard := by
  have forgets : returnsWith (fun cluster session =>
      returnsWith (fun shard _ =>
          let after := run ⟨cluster, session⟩ .addShard
          (after.session.history.drop session.history.length).any
              (Event.isReport "listShards" (Admin.readActive shard.nameValue)) &&
            decide (shard ∉ after.cluster.topology.shards))
        (cluster.shape.blueprint.buildShard (cluster.shardsCreated + 1) session))
      (Cluster.build {} .supplied Simulation.patience (Session.fresh unclosableWorld)) = true := by
    decide +kernel
  rcases exists_of_returnsWith forgets with ⟨cluster, session, built, adding⟩
  rcases exists_of_returnsWith adding with ⟨shard, made, builds, missing⟩
  rw [Bool.and_eq_true] at missing
  rcases Cluster.build_eq_ok built with ⟨building, isNew⟩
  have writable := isNew.blueprint_writable
  rcases @yields _ _ ⟨cluster, session⟩ writable .addShard with ⟨events, evolves, _⟩
  refine ⟨cluster, session, made, shard, events, built, builds, evolves, ?_, ?_⟩
  · rw [evolves.history, List.drop_left] at missing
    exact List.any_eq_true.mp missing.1
  · exact fun enters => of_decide_eq_true missing.2 enters.listed

end Request

end ShardFleet
