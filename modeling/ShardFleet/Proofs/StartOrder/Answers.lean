import ShardFleet.Proofs.Session.Ensures
import ShardFleet.Proofs.Session.Traces
import ShardFleet.Proofs.StartOrder.Outcome

/-!
# What handles answer

A handle answers in the world that the earlier calls have left. `Replied` says so of the turns of a
rollout, and it follows from what one turn keeps: whatever a turn keeps is kept by a rollout as a
whole. Where no handle depends on the others, the answers are foretold by one outcome for each
component, whatever the order of the calls is.
-/

namespace ShardFleet

variable {ω : Type} [Outside ω]

namespace Transition

/-- The world once handles have been called, one after another. -/
def worldAfter (transition : Transition) (outside : ω) (called : List Component) : ω :=
  called.foldl (fun outside component => (transition.ask component outside).2) outside

/-- What a handle answers when it is first called does not depend on which others have been called
before. -/
def AnswersAlone (transition : Transition) (outcome : Component → Except Failure Unit)
    (outside : ω) : Prop :=
  ∀ called component, component ∉ called →
    (transition.ask component (transition.worldAfter outside called)).1 = outcome component

/-- Each handle has answered in the world that the turns before have left. -/
def Replied (transition : Transition) : ω → List Turn → Prop
  | _, [] => True
  | outside, turn :: rest =>
      (transition.ask turn.component outside).1 = turn.answer ∧
        transition.Replied (transition.ask turn.component outside).2 rest

variable {transition : Transition} {outcome : Component → Except Failure Unit} {outside : ω}
  {turns : List Turn}

theorem worldAfter_append (first second : List Component) :
    transition.worldAfter outside (first ++ second) =
      transition.worldAfter (transition.worldAfter outside first) second :=
  List.foldl_append

theorem replied_append {first second : List Turn} :
    transition.Replied outside (first ++ second) ↔
      transition.Replied outside first ∧
        transition.Replied (transition.worldAfter outside (first.map (·.component))) second := by
  induction first generalizing outside with
  | nil => exact (iff_of_eq (true_and _)).symm
  | cons turn rest ih =>
      rw [List.cons_append, Replied, Replied, ih, and_assoc]
      rfl

/-- If no component has two turns, handles that answer on their own answer as foretold. -/
theorem AnswersAlone.answer_eq (alone : transition.AnswersAlone outcome outside)
    (replied : transition.Replied outside turns) (nodup : (turns.map (·.component)).Nodup) :
    ∀ turn ∈ turns, turn.answer = outcome turn.component := by
  intro turn turnMem
  rcases List.append_of_mem turnMem with ⟨front, back, rfl⟩
  rw [List.map_append, List.map_cons, List.nodup_append] at nodup
  have absent : turn.component ∉ front.map (·.component) :=
    fun member => nodup.2.2 _ member _ List.mem_cons_self rfl
  rw [← (replied_append.mp replied).2.1]
  exact alone _ _ absent

/-- One turn, by what the handle answers to it. -/
theorem run_of_asked {component : Component} {session : Session ω}
    {answer : Except Failure Unit}
    (applies : transition.AppliesTo (session.stateOf component))
    (asked : transition.ask component session.outside = (answer, outside)) :
    ∃ after, transition.run component session = conclude (answer.map fun _ => true) after ∧
      after.outside = outside ∧
      ∃ events, session.Evolves events after ∧
        events.filter Event.isCall = [transition.asked component answer] := by
  have run := run_eq_of_appliesTo applies
  rw [asked] at run
  have began := Session.Evolves.record session (transition.begins component) rfl
  have applies' : transition.AppliesTo
      ((session.record (transition.begins component)).stateOf component) := applies
  have turned := Session.evolves_turned applies' answer outside
  cases answer with
  | error failure =>
      refine ⟨_, run, rfl, _, began.trans turned, ?_⟩
      cases transition <;> rfl
  | ok value =>
      refine ⟨_, run, rfl, _, (began.trans turned).trans (.record _ _ rfl), ?_⟩
      cases transition <;> rfl

end Transition

/-! ## What every turn keeps -/

namespace StartOrder

variable {transition : Transition} {fact : Session ω → Prop}
  (turns : ∀ component, Keeps fact (transition.run component : Action ω Bool))
  (records : ∀ session event, event.isCall = false → fact session → fact (session.record event))
include turns records

omit turns [Outside ω] in
theorem log_keeps (level : LogLevel) (event : String) (context : List (String × Value)) :
    Keeps fact (Action.log level event context : Action ω Unit) where
  ok holds run := by
    cases run
    exact records _ _ rfl holds
  error _ run := by cases run

theorem runOne_keeps (component : Component) :
    Keeps fact (runOne transition transition.run component : Action ω Unit) := by
  apply (turns component).attempt.bind_of_returns
  rintro (failure | called)
  · apply (log_keeps records _ _ _).bind fun _ _ => id
    intro _
    exact .throw fun _ => id
  · exact .pure fun _ => id

theorem runInTurn_keeps (level : List Component) :
    Keeps fact (runInTurn transition transition.run level : Action ω Unit) := by
  induction level with
  | nil => exact .pure fun _ => id
  | cons component rest ih =>
      apply (runOne_keeps turns records component).bind fun _ _ => id
      exact fun _ => ih

theorem runEach_keeps (level : List Component) :
    Keeps fact (runEach transition transition.run level : Action ω (Except Failure Unit)) := by
  induction level with
  | nil => exact .pure fun _ => id
  | cons component rest ih =>
      apply (runOne_keeps turns records component).attempt.bind_of_returns
      rintro (failure | value)
      · exact ih.bind (fun _ _ => id) fun _ => .pure fun _ => id
      · exact ih.bind (fun _ _ => id) fun _ => .pure fun _ => id

omit turns [Outside ω] in
theorem openPool_keeps (order : StartOrder) (size : Nat) :
    Keeps fact (order.openPool size : Action ω Unit) := by
  unfold openPool
  dsimp only
  split
  · exact ⟨fun holds run => by cases run; exact records _ _ rfl holds, fun _ run => by cases run⟩
  · exact .throw fun _ => id
  · exact .throw fun _ => id

theorem runLevel_keeps (order : StartOrder) (level : List Component) :
    Keeps fact (order.runLevel transition transition.run level : Action ω Unit) := by
  unfold runLevel
  split
  · exact .pure fun _ => id
  · split
    · exact runInTurn_keeps turns records level
    · apply (openPool_keeps records order level.length).bind fun _ _ => id
      intro _
      apply (runEach_keeps turns records level).bind fun _ _ => id
      exact fun _ => .conclude (fun _ _ _ => id) fun _ _ _ => id

theorem runLevels_keeps (order : StartOrder) (wanted : Session ω → Component → Bool)
    (arranged : List (List Component)) :
    Keeps fact (order.runLevels transition transition.run wanted arranged : Action ω Unit) := by
  induction arranged with
  | nil => exact .pure fun _ => id
  | cons level rest ih =>
      have looks : Keeps fact (get : Action ω (Session ω)) :=
        ⟨fun holds run => (by cases run; exact holds), fun _ run => (by cases run)⟩
      apply looks.bind fun _ _ => id
      intro session
      apply (order.runLevel_keeps turns records _).bind fun _ _ => id
      exact fun _ => ih

end StartOrder

/-! ## The answers of a rollout -/

/-- The session has come from an earlier one by the turns. -/
structure ComeBy (transition : Transition) (before session : Session ω) (turns : List Turn) :
    Prop where
  past : ∃ events, before.Evolves events session ∧
    events.filter Event.isCall = turns.map (Turn.call transition)
  replied : transition.Replied before.outside turns
  world : session.outside = transition.worldAfter before.outside (turns.map (·.component))

namespace ComeBy

variable {transition : Transition} {before session after : Session ω} {turns : List Turn}
  {events : List Event}

theorem refl (session : Session ω) : ComeBy transition session session [] :=
  ⟨⟨[], .refl session, rfl⟩, trivial, rfl⟩

theorem record (come : ComeBy transition before session turns) {event : Event}
    (quiet : event.isCall = false) : ComeBy transition before (session.record event) turns := by
  rcases come.past with ⟨earlier, evolves, calls⟩
  refine ⟨⟨_, evolves.trans (.record session event quiet), ?_⟩, come.replied, come.world⟩
  rw [List.filter_append, calls]
  simp [quiet]

theorem turn (come : ComeBy transition before session turns) {component : Component}
    {answer : Except Failure Unit} (evolves : session.Evolves events after)
    (calls : events.filter Event.isCall = [transition.asked component answer])
    (asked : transition.ask component session.outside = (answer, after.outside)) :
    ComeBy transition before after (turns ++ [⟨component, answer⟩]) := by
  rcases come.past with ⟨earlier, evolved, called⟩
  rw [come.world] at asked
  refine ⟨⟨_, evolved.trans evolves, ?_⟩, ?_, ?_⟩
  · rw [List.filter_append, called, calls, List.map_append]
    rfl
  · exact Transition.replied_append.mpr
      ⟨come.replied, congrArg Prod.fst asked, trivial⟩
  · rw [List.map_append, Transition.worldAfter_append]
    exact (congrArg Prod.snd asked).symm

theorem run (come : ComeBy transition before session turns) {component : Component}
    {result : Except Failure Bool}
    (run : transition.run component session = conclude result after) :
    ∃ turns, ComeBy transition before after turns := by
  by_cases applies : transition.AppliesTo (session.stateOf component)
  · rcases asked : transition.ask component session.outside with ⟨answer, outside⟩
    rcases Transition.run_of_asked applies asked with ⟨final, ran, rfl, events, evolves, calls⟩
    rcases conclude_inj.mp (run.symm.trans ran) with ⟨_, rfl⟩
    exact ⟨_, come.turn evolves calls asked⟩
  · have idle : transition.run component session = conclude (.ok false) session :=
      Transition.run_of_not_appliesTo applies
    rcases conclude_inj.mp (run.symm.trans idle) with ⟨_, rfl⟩
    exact ⟨turns, come⟩

theorem run_keeps (component : Component) :
    Keeps (fun session => ∃ turns, ComeBy transition before session turns)
      (transition.run component) where
  ok := by
    rintro session value after ⟨turns, come⟩ ran
    exact come.run (show _ = conclude (.ok value) after from ran)
  error := by
    rintro session failure after ⟨turns, come⟩ ran
    exact come.run (show _ = conclude (.error failure) after from ran)

/-- If the calls are known, then so is how the handles have answered. -/
theorem replied_of_calls (come : ComeBy transition before session turns) {others : List Turn}
    (evolves : before.Evolves events session)
    (calls : events.filter Event.isCall = others.map (Turn.call transition)) :
    transition.Replied before.outside others := by
  rcases come.past with ⟨past, earlier, called⟩
  rw [earlier.unique evolves, calls] at called
  have injective : Function.Injective (Turn.call transition) := by
    rintro ⟨component, answer⟩ ⟨other, another⟩ same
    rcases Transition.asked_inj.mp same with ⟨rfl, rfl⟩
    rfl
  rw [List.map_injective_iff.mpr injective called]
  exact come.replied

end ComeBy

end ShardFleet
