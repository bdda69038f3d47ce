import Mathlib.Data.List.Chain
import Mathlib.Tactic.NormNum
import ShardFleet.Proofs.Polling.Scene

/-!
# The order of events in a wait

Whatever the condition answers, however the clock runs and whether or not a sleep fails, a wait that
ends has evaluated its condition and slept in turn. `TakesTurns` says what can be told from the
moments of a wait and its outcome alone. The clock may go back, and it does not matter how late it
is when the condition holds.
-/

namespace ShardFleet.Polling

inductive Step where
  | evaluation
  | sleep
deriving DecidableEq

def Moment.step? : Moment → Option Step
  | .evaluated _ => some .evaluation
  | .read _ => none
  | .slept _ _ => some .sleep

def steps (moments : List Moment) : List Step := moments.filterMap Moment.step?

/-- The evaluation of the number is the first to hold, if they are counted from `first` on, and all
before it have given false. -/
def HoldsFirst (answers : List (Except Failure Bool)) (first count : Nat) : Prop :=
  ∃ earlier later : List (Except Failure Bool), answers = earlier ++ .ok true :: later ∧
    (∀ answer ∈ earlier, answer = .ok false) ∧ count = earlier.length + first

/-- Each sleep directly follows an evaluation that does not hold and a reading before the deadline,
which says how long the sleep is. -/
def Paused (wait : Wait) (moments : List Moment) : Prop :=
  ∀ earlier length answer later, moments = earlier ++ .slept length answer :: later →
    ∃ before reading, earlier = before ++ [.evaluated (.ok false), .read reading] ∧
      length = min wait.interval (wait.deadline - reading) ∧ 0 < wait.deadline - reading

/-- A failure of the condition or of a sleep is the last moment and the outcome. -/
def Propagates (moments : List Moment) (result : Except Failure Nat) : Prop :=
  ∀ earlier moment later failure, moments = earlier ++ moment :: later →
    moment.failure? = some failure → later = [] ∧ result = .error failure

/-- The moments of a wait after the first reading of the clock, and what the wait comes to. -/
structure TakesTurns (wait : Wait) (moments : List Moment) (result : Except Failure Nat) :
    Prop where
  alternates : (steps moments).IsChain (· ≠ ·)
  begins : (steps moments).head? = some .evaluation
  /-- The wait returns with the number of the first evaluation that holds, and only so. -/
  returns : ∀ count, result = .ok count ↔ HoldsFirst (evaluations moments) 1 count
  propagates : Propagates moments result
  /-- Any other failure is a timeout, which directly follows an evaluation that does not hold and a
  reading that is not before the deadline. -/
  raises : ∀ failure, result = .error failure →
    (∃ earlier moment, moments = earlier ++ [moment] ∧ moment.failure? = some failure) ∨
      ∃ earlier reading last,
        moments = earlier ++ [.evaluated (.ok false), .read reading, .read last] ∧
          wait.deadline ≤ reading ∧ failure = wait.timeout last
  paused : Paused wait moments

variable {σ : Type} {wait : Wait} {scene : Scene σ}

namespace Paused

variable {first second : List Moment} {reading : Rat}

theorem append (front : Paused wait first) (back : Paused wait second) :
    Paused wait (first ++ second) := by
  intro earlier length answer later split
  rcases List.append_eq_append_iff.mp split with ⟨more, rfl, behind⟩ | ⟨more, same, ahead⟩
  · rcases back more length answer later behind with ⟨before, reading, rfl, asked⟩
    exact ⟨first ++ before, reading, by rw [List.append_assoc], asked⟩
  · cases more with
    | nil =>
        rcases back [] length answer later ahead.symm with ⟨before, reading, empty, _⟩
        simp at empty
    | cons moment rest =>
        rcases List.cons.inj ahead with ⟨rfl, _⟩
        exact front earlier length answer rest same

theorem of_sleepless (sleepless : sleeps first = []) : Paused wait first := by
  rintro earlier length answer later rfl
  simp [sleeps, Moment.sleep?] at sleepless

theorem unheld (early : reading < wait.deadline) (answer : Except Failure Unit) :
    Paused wait [.evaluated (.ok false), .read reading, .slept (wait.pause reading) answer] := by
  intro earlier length other later split
  rcases earlier with _ | ⟨evaluation, _ | ⟨look, _ | ⟨sleep, rest⟩⟩⟩
  · cases split
  · cases split
  · cases split
    exact ⟨[], reading, rfl, rfl, sub_pos.mpr early⟩
  · simp at split

theorem of_round {state awake : σ} (round : wait.Round scene state reading awake) :
    Paused wait (wait.round reading) := by
  rcases round with ⟨_, _, early, _⟩
  exact .unheld early (.ok ())

theorem of_ending {attempts : Nat} {state : σ} {moments : List Moment}
    {result : Except Failure Nat} (ending : wait.Ending scene attempts state moments result) :
    Paused wait moments := by
  cases ending with
  | unslept evaluation look early sleep => exact .unheld early _
  | _ => exact .of_sleepless rfl

end Paused

namespace Propagates

variable {first second : List Moment} {result : Except Failure Nat}

theorem append (unfailed : ∀ moment ∈ first, moment.failure? = none)
    (back : Propagates second result) : Propagates (first ++ second) result := by
  intro earlier moment later failure split failed
  rcases List.append_eq_append_iff.mp split with ⟨more, rfl, behind⟩ | ⟨more, same, ahead⟩
  · exact back more moment later failure behind failed
  · cases more with
    | nil => exact back [] moment later failure ahead.symm failed
    | cons other rest =>
        rcases List.cons.inj ahead with ⟨rfl, _⟩
        rw [unfailed moment (by simp [same])] at failed
        cases failed

theorem single {moment : Moment}
    (outcome : ∀ failure, moment.failure? = some failure → result = .error failure) :
    Propagates [moment] result := by
  intro earlier other later failure split failed
  rcases List.append_eq_singleton_iff.mp split.symm with ⟨rfl, same⟩ | ⟨_, empty⟩
  · cases same
    exact ⟨rfl, outcome failure failed⟩
  · cases empty

theorem of_ending {attempts : Nat} {state : σ} {moments : List Moment}
    (ending : wait.Ending scene attempts state moments result) : Propagates moments result := by
  have last (front : List Moment) {moment : Moment}
      (unfailed : ∀ moment ∈ front, moment.failure? = none)
      (outcome : ∀ failure, moment.failure? = some failure → result = .error failure) :
      Propagates (front ++ [moment]) result := .append unfailed (.single outcome)
  cases ending with
  | failed evaluation => exact last [] (by simp) fun failure failed => by cases failed; rfl
  | held evaluation look =>
      exact last [_] (by simp [Moment.failure?]) fun failure failed => by cases failed
  | expired evaluation look late again =>
      exact last [_, _] (by simp [Moment.failure?]) fun failure failed => by cases failed
  | unslept evaluation look early sleep =>
      exact last [_, _] (by simp [Moment.failure?]) fun failure failed => by cases failed; rfl

end Propagates

section holdsFirst

variable {answer : Except Failure Bool} {answers : List (Except Failure Bool)} {first count : Nat}

theorem holdsFirst_singleton :
    HoldsFirst [answer] first count ↔ answer = .ok true ∧ count = first := by
  constructor
  · rintro ⟨earlier, later, split, _, rfl⟩
    rcases List.append_eq_singleton_iff.mp split.symm with ⟨rfl, same⟩ | ⟨_, empty⟩
    · exact ⟨(List.cons.inj same).1.symm, Nat.zero_add first⟩
    · cases empty
  · rintro ⟨rfl, rfl⟩
    exact ⟨[], [], rfl, by simp, (Nat.zero_add _).symm⟩

/-- An evaluation that gives false only puts the count on. -/
theorem holdsFirst_cons_false :
    HoldsFirst (.ok false :: answers) first count ↔ HoldsFirst answers (first + 1) count := by
  constructor
  · rintro ⟨earlier, later, split, unheld, rfl⟩
    cases earlier with
    | nil => simp at split
    | cons answer earlier =>
        rcases List.cons.inj split with ⟨_, rest⟩
        refine ⟨earlier, later, rest, fun other member => ?_, by rw [List.length_cons]; omega⟩
        exact unheld other (List.mem_cons_of_mem _ member)
  · rintro ⟨earlier, later, rfl, unheld, rfl⟩
    exact ⟨.ok false :: earlier, later, rfl, by simpa using unheld,
      by rw [List.length_cons]; omega⟩

end holdsFirst

/-- One evaluation gives the number that it has if it holds, and is followed by a failure else. -/
theorem Wait.Ending.returns {attempts : Nat} {state : σ} {moments : List Moment}
    {result : Except Failure Nat} (ending : wait.Ending scene attempts state moments result)
    (count : Nat) : result = .ok count ↔ HoldsFirst (evaluations moments) attempts count := by
  cases ending with
  | held evaluation look =>
      change _ ↔ HoldsFirst [.ok true] attempts count
      rw [holdsFirst_singleton, Except.ok.injEq, eq_comm]
      exact (and_iff_right rfl).symm
  | failed evaluation =>
      change _ ↔ HoldsFirst [.error _] attempts count
      simp [holdsFirst_singleton]
  | expired evaluation look late again =>
      change _ ↔ HoldsFirst [.ok false] attempts count
      simp [holdsFirst_singleton]
  | unslept evaluation look early sleep =>
      change _ ↔ HoldsFirst [.ok false] attempts count
      simp [holdsFirst_singleton]

namespace Wait.Course

variable {attempts : Nat} {state : σ} {moments : List Moment} {result : Except Failure Nat}

theorem alternates (course : wait.Course scene attempts state moments result) :
    ∃ rest, steps moments = .evaluation :: rest ∧ (steps moments).IsChain (· ≠ ·) := by
  induction course with
  | ends ending =>
      cases ending with
      | unslept evaluation look early sleep =>
          exact ⟨[.sleep], rfl, List.isChain_pair.mpr (by decide)⟩
      | _ => exact ⟨[], rfl, List.isChain_singleton _⟩
  | @onward attempts state awake reading moments result round more ih =>
      rcases ih with ⟨rest, same, chain⟩
      have front : steps (wait.round reading ++ moments) =
          .evaluation :: .sleep :: steps moments := rfl
      rw [same] at chain front
      rw [front]
      exact ⟨_, rfl, List.isChain_cons_cons.mpr ⟨by decide,
        List.isChain_cons_cons.mpr ⟨by decide, chain⟩⟩⟩

/-- The evaluations of a wait are counted from the number of the first one on. -/
theorem returns (course : wait.Course scene attempts state moments result) (count : Nat) :
    result = .ok count ↔ HoldsFirst (evaluations moments) attempts count := by
  induction course with
  | ends ending => exact ending.returns count
  | onward round more ih =>
      rw [ih, evaluations_append, evaluations_round, List.singleton_append, holdsFirst_cons_false]

theorem propagates (course : wait.Course scene attempts state moments result) :
    Propagates moments result := by
  induction course with
  | ends ending => exact .of_ending ending
  | onward round more ih => exact ih.append (by simp [Wait.round, Moment.failure?])

theorem paused (course : wait.Course scene attempts state moments result) :
    Paused wait moments := by
  induction course with
  | ends ending => exact .of_ending ending
  | onward round more ih => exact (Paused.of_round round).append ih

theorem raises (course : wait.Course scene attempts state moments result) {failure : Failure}
    (failed : result = .error failure) :
    (∃ earlier moment, moments = earlier ++ [moment] ∧ moment.failure? = some failure) ∨
      ∃ earlier reading last,
        moments = earlier ++ [.evaluated (.ok false), .read reading, .read last] ∧
          wait.deadline ≤ reading ∧ failure = wait.timeout last := by
  induction course with
  | ends ending =>
      cases ending with
      | held evaluation look => cases failed
      | failed evaluation =>
          cases failed
          exact Or.inl ⟨[], _, rfl, rfl⟩
      | expired evaluation look late again =>
          cases failed
          exact Or.inr ⟨[], _, _, rfl, late, rfl⟩
      | unslept evaluation look early sleep =>
          cases failed
          exact Or.inl ⟨[_, _], _, rfl, rfl⟩
  | onward round more ih =>
      rcases ih failed with ⟨earlier, moment, rfl, fails⟩ | ⟨earlier, reading, last, rfl, late⟩
      · exact Or.inl ⟨_ ++ earlier, moment, by rw [List.append_assoc], fails⟩
      · exact Or.inr ⟨_ ++ earlier, reading, last, by rw [List.append_assoc], late⟩

end Wait.Course

namespace Scene

variable {description : Value} {policy : PollPolicy} {timeout interval : Rat} {limit : Nat}
  {state : σ} {moments : List Moment} {result : Except Failure Nat}

/-- A wait that ends takes turns, whatever it meets with. -/
theorem comesTo_takesTurns (comes : scene.ComesTo limit description policy state moments result)
    (sets : Sets policy timeout interval) :
    ∃ start rest, moments = .read start :: rest ∧
      TakesTurns (Wait.begun description start timeout interval) rest result := by
  rcases comes.course sets with ⟨start, looked, rest, _, split, course⟩
  rcases course.alternates with ⟨others, begins, chain⟩
  exact ⟨start, rest, split, chain, by rw [begins]; rfl, course.returns, course.propagates,
    fun _ => course.raises, course.paused⟩

/-- The clock goes back after its first reading, and is long past the deadline when the condition
holds. -/
def belated : Scene Nat where
  condition state := (.ok (decide (3 < state)), state + 1)
  clock state := (if state = 0 then 10 else if state < 4 then 9 else 50, state + 1)
  sleep _ state := (.ok (), state + 1)
  log _ _ _ state := state

theorem comesTo_takesTurns_belated : ∃ moments,
    belated.ComesTo 2 .null ⟨.int 1000, .int 2000⟩ 0 (.read 10 :: moments) (.ok 2) ∧
      TakesTurns (Wait.begun .null 10 2000 1000) moments (.ok 2) := by
  have sets : Sets ⟨.int 1000, .int 2000⟩ 2000 1000 := ⟨rfl, rfl⟩
  have early : 9 < (Wait.begun .null 10 2000 1000).deadline := by norm_num [Wait.begun]
  have look : belated.clock 2 = (9, 3) := rfl
  have comes : belated.ComesTo 2 .null ⟨.int 1000, .int 2000⟩ 0 _ (.ok 2) :=
    comesTo_of_course sets rfl (.onward (.intro rfl look early rfl) (.ends (.held rfl rfl))) le_rfl
  rcases comesTo_takesTurns comes sets with ⟨start, rest, split, turns⟩
  cases split
  exact ⟨_, comes, turns⟩

end Scene

end ShardFleet.Polling
