import ShardFleet.Proofs.Session.Ensures
import ShardFleet.Proofs.Session.Traces
import ShardFleet.Proofs.StartOrder.Reach

/-!
# What a start comes to

Nothing is assumed of the requirements or of the number of workers here. A start that returns has
started every listed component. One that fails does so with the failure of the first handle that
failed; if none has, the components could not be put in order or a pool would not open.
-/

namespace ShardFleet

open ShardFleet.Action

variable {ω : Type}

namespace Event

/-- What a call has failed with. -/
def failure? : Event → Option Failure
  | .called _ (.error failure) => some failure
  | _ => none

end Event

/-- The outcome is the first failure among the calls. Where no call fails, it is a failure only if
it is one of the others. -/
def Raises (others : Failure → Prop) (calls : List Event) (result : Except Failure Unit) : Prop :=
  match calls.findSome? Event.failure? with
  | some failure => result = .error failure
  | none => ∀ failure, result = .error failure → others failure

namespace Raises

variable {others weaker : Failure → Prop} {front back calls : List Event}
  {result : Except Failure Unit} {failure : Failure}

theorem nil_ok : Raises others [] (.ok ()) := nofun

theorem nil_error (other : others failure) : Raises others [] (.error failure) := by
  rintro given same
  rwa [← Except.error.inj same]

theorem mono (raises : Raises others calls result)
    (implies : ∀ failure, others failure → weaker failure) : Raises weaker calls result := by
  unfold Raises at raises ⊢
  split at raises
  · exact raises
  · exact fun failure failed => implies failure (raises failure failed)

theorem findSome?_of_ok (raises : Raises others calls (.ok ())) :
    calls.findSome? Event.failure? = none := by
  unfold Raises at raises
  split at raises
  · cases raises
  · assumption

theorem append (first : Raises others front (.ok ())) (second : Raises others back result) :
    Raises others (front ++ back) result := by
  rw [Raises, List.findSome?_append, first.findSome?_of_ok]
  exact second

/-- A failure that no other accounts for is that of a call, and what is called later does not
matter. -/
theorem append_of_error (first : Raises (fun _ => False) front (.error failure)) :
    Raises others (front ++ back) (.error failure) := by
  unfold Raises at first ⊢
  rw [List.findSome?_append]
  split at first
  · rename_i found
    rw [found]
    exact first
  · exact (first failure rfl).elim

end Raises

variable [Outside ω]

/-- The transition does not apply to the component in the session. -/
def Transition.Settled (transition : Transition) (component : Component) (session : Session ω) :
    Prop :=
  ¬transition.AppliesTo (session.stateOf component)

/-- What a transition does not apply to stays so while only this transition is called. -/
theorem Transition.survives_settled (transition : Transition) (component : Component) :
    Session.Survives (fun call => ∃ other, call = transition.callOf other)
      (transition.Settled component : Session ω → Prop) := by
  intro before after events within settled
  have kept : ∀ states, ∀ event ∈ events, ¬transition.AppliesTo (states component) →
      ¬transition.AppliesTo (event.change states component) := by
    intro states event member settled
    cases isCall : event.isCall with
    | false =>
        rw [Event.change_of_not_isCall isCall]
        exact settled
    | true =>
        cases event with
        | called call answer =>
            rcases within.calls _ _ member with ⟨other, rfl⟩
            cases transition <;> exact not_appliesTo_change ⟨other, answer⟩ settled
        | _ => cases isCall
  rw [Settled, within.evolves.states]
  exact (along_of_preserved (fun states => ¬transition.AppliesTo (states component)) settled
    kept).2

namespace Transition

variable {transition : Transition} {component : Component}

theorem run_traces (transition : Transition) (component : Component) :
    Traces (fun calls result => Raises (fun _ => False) calls (result.map fun _ => ()))
      (transition.run component : Action ω Bool) := by
  intro session
  by_cases applies : transition.AppliesTo (session.stateOf component)
  · rcases run_of_appliesTo applies with ⟨after, run, evolves⟩ | ⟨failure, after, run, evolves⟩
    · refine ⟨_, .ok true, after, run, evolves, ?_⟩
      cases transition <;> exact nofun
    · refine ⟨_, .error failure, after, run, evolves, ?_⟩
      cases transition <;> rfl
  · exact ⟨[], .ok false, session, run_of_not_appliesTo applies, .refl session, nofun⟩

/-- A component that a transition does not apply to is not called, and any other one is called once;
what is answered is the outcome. -/
theorem calls_of_run {session after : Session ω} {outcome : Except Failure Bool}
    (ran : transition.run component session = ShardFleet.conclude outcome after) :
    ∃ events, session.Evolves events after ∧
      (¬transition.AppliesTo (session.stateOf component) ∧ outcome = .ok false ∧
          events.filter Event.isCall = [] ∨
        transition.AppliesTo (session.stateOf component) ∧
          events.filter Event.isCall = [transition.asked component (outcome.map fun _ => ())]) := by
  by_cases applies : transition.AppliesTo (session.stateOf component)
  · rcases run_of_appliesTo applies with ⟨final, run, evolves⟩ | ⟨failure, final, run, evolves⟩
    · rcases conclude_inj.mp
        (ran.symm.trans (show _ = ShardFleet.conclude (.ok true) final from run)) with
        ⟨rfl, rfl⟩
      exact ⟨_, evolves, Or.inr ⟨applies, by cases transition <;> rfl⟩⟩
    · rcases conclude_inj.mp
        (ran.symm.trans (show _ = ShardFleet.conclude (.error failure) final from run)) with
        ⟨rfl, rfl⟩
      exact ⟨_, evolves, Or.inr ⟨applies, by cases transition <;> rfl⟩⟩
  · rcases conclude_inj.mp (ran.symm.trans
      (show _ = ShardFleet.conclude (.ok false) session from run_of_not_appliesTo applies)) with
      ⟨rfl, rfl⟩
    exact ⟨[], .refl _, Or.inl ⟨applies, rfl, rfl⟩⟩

/-- Once the computation has returned, the component is settled. -/
abbrev Settles {α : Type} (transition : Transition) (component : Component)
    (action : Action ω α) : Prop :=
  Ensures (fun _ => True) action (fun _ => transition.Settled component) fun _ _ => True

/-- Other components may take their turns; one that is settled stays so. -/
theorem keeps_settled {α : Type} {action : Action ω α}
    (calls : CallsOnly (fun call => ∃ other, call = transition.callOf other) action) :
    Ensures (transition.Settled component) action (fun _ => transition.Settled component)
      fun _ _ => True :=
  (calls.keeps (transition.survives_settled component)).mono_failed fun _ _ _ => trivial

end Transition

namespace StartOrder

variable {transition : Transition} {component : Component}

/-! ## The outcome -/

theorem runOne_traces (transition : Transition) (component : Component) :
    Traces (Raises fun _ => False)
      (runOne transition transition.run component : Action ω Unit) := by
  apply (transition.run_traces component).attempt.bind_of_returns
  intro calls outcome raises
  cases outcome with
  | ok called =>
      apply Traces.pure
      rwa [List.append_nil]
  | error failure =>
      apply Traces.log_bind
      exact .throw failure raises.append_of_error

theorem runInTurn_traces (transition : Transition) (level : List Component) :
    Traces (Raises fun _ => False)
      (runInTurn transition transition.run level : Action ω Unit) := by
  induction level with
  | nil => exact .pure () .nil_ok
  | cons component rest ih =>
      apply (runOne_traces transition component).bind
      · exact fun calls failure => id
      · intro calls value raises
        exact ih.mono fun later result => raises.append

theorem runEach_traces (transition : Transition) (level : List Component) :
    Traces (fun calls result => ∃ outcome, result = .ok outcome ∧
        Raises (fun _ => False) calls outcome)
      (runEach transition transition.run level : Action ω (Except Failure Unit)) := by
  induction level with
  | nil => exact .pure _ ⟨_, rfl, .nil_ok⟩
  | cons component rest ih =>
      apply (runOne_traces transition component).attempt.bind_of_returns
      intro calls outcome raises
      apply ih.bind_of_returns
      intro later others raising
      cases outcome with
      | ok value =>
          apply Traces.pure
          rw [List.append_nil]
          exact ⟨_, rfl, raises.append raising⟩
      | error failure =>
          -- The others have had their turns too, and may have failed, but this failure came first.
          apply Traces.pure
          rw [List.append_nil]
          exact ⟨_, rfl, raises.append_of_error⟩

/-- Why a pool does not open. -/
def RefusesPool (order : StartOrder) (failure : Failure) : Prop :=
  ¬AdmitsPool order.workers ∧ (failure = .emptyPool ∨ failure = .wrongKind)

omit [Outside ω] in
theorem openPool_traces (order : StartOrder) {size : Nat} (someSize : 0 < size) :
    Traces (Raises order.RefusesPool) (order.openPool size : Action ω Unit) := by
  by_cases admits : AdmitsPool order.workers
  · intro session
    exact ⟨_, .ok (), _, openPool_eq admits someSize session, .record session _ rfl, .nil_ok⟩
  · unfold openPool
    dsimp only
    split
    · intro session
      exact ⟨_, .ok (), _, rfl, .record session _ rfl, .nil_ok⟩
    · exact .throw _ (.nil_error ⟨admits, Or.inl rfl⟩)
    · exact .throw _ (.nil_error ⟨admits, Or.inr rfl⟩)

theorem runLevel_traces (order : StartOrder) (transition : Transition) (level : List Component) :
    Traces (Raises order.RefusesPool)
      (order.runLevel transition transition.run level : Action ω Unit) := by
  have impossible : ∀ failure : Failure, False → order.RefusesPool failure := fun _ => False.elim
  unfold runLevel
  split
  · exact .pure () .nil_ok
  · rename_i nonempty
    split
    · exact (runInTurn_traces transition level).mono fun calls result raises =>
        raises.mono impossible
    · have someSize : 0 < level.length := by
        apply List.length_pos_iff.mpr
        simpa using nonempty
      apply (order.openPool_traces someSize).bind
      · exact fun calls failure => id
      · intro calls value opened
        apply (runEach_traces transition level).bind_of_returns
        intro later outcome raises
        apply Traces.conclude
        rw [List.append_nil]
        exact opened.append (raises.mono impossible)

theorem runLevels_traces (order : StartOrder) (transition : Transition)
    (wanted : Session ω → Component → Bool) (arranged : List (List Component)) :
    Traces (Raises order.RefusesPool)
      (order.runLevels transition transition.run wanted arranged) := by
  induction arranged with
  | nil => exact .pure () .nil_ok
  | cons level rest ih =>
      apply Traces.quiet_bind fun session => ⟨[], session, session, rfl, .refl session, rfl⟩
      intro session
      apply (order.runLevel_traces transition _).bind
      · exact fun calls failure => id
      · intro calls value raises
        exact ih.mono fun later result => raises.append

/-! ## What is settled -/

theorem runOne_settles :
    transition.Settles component
      (runOne transition transition.run component : Action ω Unit) := by
  have runs : transition.Settles component (transition.run component : Action ω Bool) :=
    ⟨fun _ ran => transition.not_appliesTo_of_run ran, fun _ _ => trivial⟩
  apply runs.attempt.bind_of_returns
  rintro (failure | called)
  · exact ⟨fun _ ran => (by cases ran), fun _ _ => trivial⟩
  · exact .pure fun _ => id

theorem runInTurn_settles {level : List Component} (listed : component ∈ level) :
    transition.Settles component
      (runInTurn transition transition.run level : Action ω Unit) := by
  induction level with
  | nil => cases listed
  | cons first rest ih =>
      rcases List.mem_cons.mp listed with rfl | later
      · apply runOne_settles.bind
        intro _
        exact Transition.keeps_settled (runInTurn_callsOnly fun other _ => ⟨other, rfl⟩)
      · exact Ensures.anything.bind fun _ => ih later

theorem runEach_settles {level : List Component} (listed : component ∈ level) :
    Ensures (fun _ => True)
      (runEach transition transition.run level : Action ω (Except Failure Unit))
      (fun outcome session => outcome = .ok () → transition.Settled component session)
      fun _ _ => True := by
  induction level with
  | nil => cases listed
  | cons first rest ih =>
      rcases List.mem_cons.mp listed with rfl | later
      · apply runOne_settles.attempt.bind_of_returns
        rintro (failure | value)
        · apply Ensures.anything.bind
          intro others
          exact .pure fun _ _ => nofun
        · apply (Transition.keeps_settled (runEach_callsOnly fun other _ => ⟨other, rfl⟩)).bind
          intro others
          exact .pure fun _ settled _ => settled
      · apply Ensures.anything.bind
        rintro (failure | value)
        · apply Ensures.anything.bind
          intro others
          exact .pure fun _ _ => nofun
        · apply (ih later).bind
          intro others
          exact .pure fun _ => id

theorem runLevel_settles (order : StartOrder) {level : List Component}
    (listed : component ∈ level) :
    transition.Settles component
      (order.runLevel transition transition.run level : Action ω Unit) := by
  unfold runLevel
  split
  · rename_i empty
    rw [List.isEmpty_iff.mp empty] at listed
    cases listed
  · split
    · exact runInTurn_settles listed
    · apply Ensures.anything.bind
      intro _
      apply (runEach_settles listed).bind
      intro outcome
      apply Ensures.conclude
      · exact fun _ _ returned settles => settles returned
      · exact fun _ _ _ _ => trivial

/-- A component of a level is settled when the level is looked at, or it has its turn. -/
theorem runWanted_settles (order : StartOrder) {wanted : Session ω → Component → Bool}
    (judges : ∀ session component,
      wanted session component = decide (transition.AppliesTo (session.stateOf component)))
    (seen : Session ω) {level : List Component} (listed : component ∈ level) :
    Ensures (fun session => session = seen)
      (order.runLevel transition transition.run (level.filter (wanted seen)) : Action ω Unit)
      (fun _ => transition.Settled component) fun _ _ => True := by
  by_cases wants : wanted seen component = true
  · exact (order.runLevel_settles (List.mem_filter.mpr ⟨listed, wants⟩)).mono
      (fun _ _ => trivial) (fun _ _ => id) fun _ _ => id
  · rw [judges, decide_eq_true_eq] at wants
    have turns : CallsOnly (fun call => ∃ other, call = transition.callOf other)
        (order.runLevel transition transition.run (level.filter (wanted seen)) :
          Action ω Unit) :=
      order.runLevel_callsOnly fun other _ => ⟨other, rfl⟩
    exact (Transition.keeps_settled turns).mono (fun _ same => same ▸ wants)
      (fun _ _ => id) fun _ _ => id

theorem runLevels_settles (order : StartOrder) {wanted : Session ω → Component → Bool}
    (judges : ∀ session component,
      wanted session component = decide (transition.AppliesTo (session.stateOf component)))
    {arranged : List (List Component)} (listed : component ∈ arranged.flatten) :
    transition.Settles component (order.runLevels transition transition.run wanted arranged) := by
  induction arranged with
  | nil => cases listed
  | cons level rest ih =>
      have looks : Ensures (fun _ : Session ω => True) get
          (fun seen session => session = seen) fun _ _ => True :=
        ⟨fun _ ran => (by cases ran; rfl), fun _ _ => trivial⟩
      apply looks.bind
      intro seen
      rcases List.mem_append.mp listed with here | later
      · exact (order.runWanted_settles judges seen here).bind fun _ =>
          Transition.keeps_settled (order.runLevels_callsOnly wanted fun other _ => ⟨other, rfl⟩)
      · exact Ensures.anything.bind fun _ => ih later

/-! ## Starting everything -/

/-- Why components are not started though no handle has failed. -/
def Blocks (order : StartOrder) (components : List Component) (failure : Failure) : Prop :=
  order.levelsOf components = .error failure ∨ order.RefusesPool failure

variable (order : StartOrder) (components : List Component)

theorem startAll_traces :
    Traces (fun calls result => CalledOnly (Transition.start.Reaches components) calls ∧
        Raises (order.Blocks components) calls result)
      (order.startAll components : Action ω Unit) := by
  have raises : Traces (Raises (order.Blocks components))
      (order.startAll components : Action ω Unit) := by
    unfold startAll startAllBy
    cases levelled : order.levelsOf components with
    | error failure => exact .throw failure (.nil_error (Or.inl levelled))
    | ok arranged =>
        change Traces _ (announce "Starting units" arranged >>= fun _ =>
          order.runLevels .start Transition.start.run _ arranged)
        apply Traces.log_bind
        apply (order.runLevels_traces .start _ arranged).mono
        exact fun calls result raises => raises.mono fun failure => Or.inr
  intro session
  rcases raises session with ⟨events, result, after, run, evolves, holds⟩
  rcases order.startAll_callsOnly components session with ⟨others, within⟩
  rw [finalState_of_conclude run] at within
  rw [within.evolves.unique evolves] at within
  refine ⟨events, result, after, run, evolves, ?_, holds⟩
  exact fun call answer member => within.calls call answer (List.mem_filter.mp member).1

omit [Outside ω] in
theorem not_isStarted_eq (session : Session ω) (component : Component) :
    (!session.isStarted component) =
      decide (Transition.start.AppliesTo (session.stateOf component)) :=
  (decide_not (p := session.stateOf component = .started)).symm

/-- Once a start has returned, every component is started. -/
theorem stateOf_of_startAll {session after : Session ω}
    (ran : order.startAll components session = .ok () after) :
    ∀ component ∈ components, after.stateOf component = .started := by
  intro component listed
  unfold startAll startAllBy at ran
  rcases bind_eq_ok.mp ran with ⟨arranged, unchanged, concluded, rest⟩
  have levelled := (conclude_eq_ok.mp concluded).1
  rcases bind_eq_ok.mp rest with ⟨_, begun, _, rolls⟩
  have settled := (order.runLevels_settles not_isStarted_eq ((mem_levelsOf levelled).mpr listed)).ok trivial
    rolls
  exact Classical.not_not.mp settled

end StartOrder

end ShardFleet
