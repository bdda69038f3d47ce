import Mathlib.Data.NNRat.Defs
import Mathlib.Tactic.Linarith
import Mathlib.Tactic.NormNum
import ShardFleet.Proofs.Polling.Budget

/-!
# Waiting longer

In the world of a `Timetable` it is laid down what the condition answers at each evaluation, and how
long every evaluation, reading and sleep takes. Two waits that differ in their timeouts only go
through the same rounds there, until the shorter one has less than an interval left. That one sleeps
just until its deadline then, and has one evaluation more; the other one makes this evaluation
later, but with the same answer.
-/

namespace ShardFleet.Polling

/-- What happens at the evaluation, at the reading and at the sleep of each number, from one on. -/
structure Timetable where
  answer : Nat → Except Failure Bool
  evaluating : Nat → NNRat
  /-- How long a reading takes until the clock is read, and after that. -/
  reading : Nat → NNRat × NNRat
  /-- How much longer a sleep takes than it was asked to. -/
  oversleeping : Nat → NNRat

/-- The time, and how many evaluations, readings and sleeps there have been. -/
structure Progress where
  now : Rat
  evaluations : Nat := 0
  readings : Nat := 0
  sleeps : Nat := 0

namespace Timetable

def scene (timetable : Timetable) : Scene Progress where
  condition progress :=
    let number := progress.evaluations + 1
    (timetable.answer number,
      { progress with now := progress.now + timetable.evaluating number, evaluations := number })
  clock progress :=
    let number := progress.readings + 1
    let reading := progress.now + (timetable.reading number).1
    (reading,
      { progress with now := reading + (timetable.reading number).2, readings := number })
  sleep length progress :=
    let number := progress.sleeps + 1
    (.ok (),
      { progress with
        now := progress.now + length + timetable.oversleeping number, sleeps := number })
  log _ _ _ progress := progress

theorem keepsTime (timetable : Timetable) : timetable.scene.KeepsTime Progress.now where
  evaluates _ := le_add_of_nonneg_right (NNRat.coe_nonneg _)
  reads _ :=
    ⟨le_add_of_nonneg_right (NNRat.coe_nonneg _), le_add_of_nonneg_right (NNRat.coe_nonneg _)⟩
  sleeps _ _ _ _ := le_add_of_nonneg_right (NNRat.coe_nonneg _)

end Timetable

variable {timetable : Timetable} {wait : Wait} {deadline : Rat}

/-- The same wait, with another deadline. -/
def Wait.extended (wait : Wait) (deadline : Rat) : Wait := { wait with deadline }

section rounds

variable {progress awake : Progress} {reading : Rat}

/-- In the same round the other wait sleeps as long, or else the deadline has come after it. -/
theorem Wait.Round.extended (round : wait.Round timetable.scene progress reading awake)
    (positive : 0 < wait.interval) (longer : wait.deadline ≤ deadline) :
    ∃ later, (wait.extended deadline).Round timetable.scene progress reading later ∧
      later.evaluations = awake.evaluations ∧ (later = awake ∨ wait.deadline ≤ awake.now) := by
  rcases round.forward timetable.keepsTime positive with ⟨_, _, passed⟩
  rcases round with @⟨seen, looked, evaluation, look, early, sleep⟩
  have awoken : (timetable.scene.sleep (wait.pause reading) looked).2 = awake :=
    congrArg Prod.snd sleep
  refine ⟨_, .intro evaluation look (early.trans_le longer) rfl, awoken ▸ rfl, ?_⟩
  -- The two sleeps differ only where the deadline cuts the shorter one.
  rcases min_choice wait.interval (wait.deadline - reading) with whole | clamped
  · have room : wait.interval ≤ deadline - reading :=
      (min_eq_left_iff.mp whole).trans (sub_le_sub_right longer reading)
    have same : (wait.extended deadline).pause reading = wait.pause reading :=
      (min_eq_left room).trans whole.symm
    rw [same]
    exact Or.inl awoken
  · have rest : wait.pause reading = wait.deadline - reading := clamped
    exact Or.inr (by linarith)

end rounds

namespace Wait.Course

variable {attempts count : Nat} {progress : Progress} {moments : List Moment}
  {result : Except Failure Nat}

/-- Once the deadline has come there is one evaluation more. -/
theorem holds_of_late (course : wait.Course timetable.scene attempts progress moments result)
    (returned : result = .ok count) (positive : 0 < wait.interval)
    (late : wait.deadline ≤ progress.now) :
    timetable.answer (progress.evaluations + 1) = .ok true ∧ count = attempts ∧
      (evaluations moments).length = 1 := by
  cases course with
  | ends ending =>
      cases ending with
      | held evaluation look =>
          cases returned
          exact ⟨congrArg Prod.fst evaluation, rfl, rfl⟩
      | _ => cases returned
  | onward round more =>
      rcases round.forward timetable.keepsTime positive with ⟨before, early, _⟩
      exact absurd (late.trans before) (not_le.mpr early)

/-- The other wait has as many evaluations, and the last of them holds as well. -/
theorem extended (course : wait.Course timetable.scene attempts progress moments result)
    (returned : result = .ok count) (positive : 0 < wait.interval)
    (longer : wait.deadline ≤ deadline) :
    ∃ others, (wait.extended deadline).Course timetable.scene attempts progress others (.ok count) ∧
      (evaluations others).length = (evaluations moments).length := by
  induction course with
  | ends ending =>
      cases ending with
      | held evaluation look =>
          cases returned
          exact ⟨_, .ends (.held evaluation look), rfl⟩
      | _ => cases returned
  | @onward attempts progress awake reading moments result round more ih =>
      rcases round.extended positive longer with ⟨later, same, number, alike | late⟩
      · rcases ih returned with ⟨others, course, counts⟩
        rw [← alike] at course
        exact ⟨_, .onward same course, by simp [counts]⟩
      · rcases more.holds_of_late returned positive late with ⟨holds, rfl, counts⟩
        have evaluation : (timetable.scene.condition later).1 = .ok true := by
          rw [← holds, ← number]
          rfl
        exact ⟨_, .onward same (.ends (.held (Prod.ext evaluation rfl) rfl)), by simp [counts]; rfl⟩

end Wait.Course

namespace Timetable

variable {policy longer : PollPolicy} {timeout other interval : Rat} {limit count : Nat}
  {description : Value} {progress : Progress} {after : Record Progress}

/-- What a wait returns, it returns with a longer timeout. -/
theorem await_longer (timetable : Timetable) (sets : Sets policy timeout interval)
    (setsLonger : Sets longer other interval) (positive : 0 < interval) (least : timeout ≤ other)
    (run : timetable.scene.await limit description policy ⟨progress, []⟩ = .ok count after) :
    ∃ final, timetable.scene.await limit description longer ⟨progress, []⟩ = .ok count final := by
  rcases look : timetable.scene.clock progress with ⟨start, looked⟩
  rcases Scene.course_of_await sets look run with ⟨moments, course, few⟩
  have spaced : 0 < interval / 1000 := div_pos positive (by norm_num)
  have later : start + timeout / 1000 ≤ start + other / 1000 := by linarith
  rcases course.extended rfl spaced later with ⟨others, same, counts⟩
  rw [Scene.await_eq setsLonger look]
  rcases Wait.poll_of_course same (counts.trans_le few) [.read start] with ⟨final, ran⟩
  exact ⟨_, ran⟩

/-- The third evaluation is the first to hold. Nothing takes time but sleeping. -/
def third : Timetable where
  answer number := .ok (decide (3 ≤ number))
  evaluating _ := 0
  reading _ := (0, 0)
  oversleeping _ := 0

/-- The second sleep of the shorter wait is cut to half a second. -/
theorem await_longer_third :
    (∃ after, third.scene.await 3 .null ⟨.int 1000, .int 1500⟩ ⟨⟨0, 0, 0, 0⟩, []⟩ =
        .ok 3 after) ∧
      ∃ after, third.scene.await 3 .null ⟨.int 1000, .int 9000⟩ ⟨⟨0, 0, 0, 0⟩, []⟩ =
        .ok 3 after := by
  have sets : Sets ⟨.int 1000, .int 1500⟩ 1500 1000 := ⟨rfl, rfl⟩
  let wait := Wait.begun .null 0 1500 1000
  have look : third.scene.clock ⟨0, 0, 0, 0⟩ = (0, ⟨0, 0, 1, 0⟩) := by simp [scene, third]
  have first : wait.Round third.scene ⟨0, 0, 1, 0⟩ 0 ⟨1, 1, 2, 1⟩ := by
    have unheld : third.scene.condition ⟨0, 0, 1, 0⟩ = (.ok false, ⟨0, 1, 1, 0⟩) := by
      simp [scene, third]
    have look : third.scene.clock ⟨0, 1, 1, 0⟩ = (0, ⟨0, 1, 2, 0⟩) := by simp [scene, third]
    have pause : wait.pause 0 = 1 := by norm_num [wait, Wait.begun, Wait.pause]
    exact .intro unheld look (by norm_num [wait, Wait.begun]) (by simp [pause, scene, third])
  have second : wait.Round third.scene ⟨1, 1, 2, 1⟩ 1 ⟨3 / 2, 2, 3, 2⟩ := by
    have unheld : third.scene.condition ⟨1, 1, 2, 1⟩ = (.ok false, ⟨1, 2, 2, 1⟩) := by
      simp [scene, third]
    have look : third.scene.clock ⟨1, 2, 2, 1⟩ = (1, ⟨1, 2, 3, 1⟩) := by simp [scene, third]
    have pause : wait.pause 1 = 1 / 2 := by norm_num [wait, Wait.begun, Wait.pause]
    exact .intro unheld look (by norm_num [wait, Wait.begun]) (by norm_num [pause, scene, third])
  have last : third.scene.condition ⟨3 / 2, 2, 3, 2⟩ = (.ok true, ⟨3 / 2, 3, 3, 2⟩) := by
    simp [scene, third]
  rcases Scene.comesTo_of_course sets look (.onward first (.onward second (.ends (.held last rfl))))
    le_rfl 3 le_rfl with ⟨after, run⟩
  exact ⟨⟨_, run⟩, await_longer third sets ⟨rfl, rfl⟩ (by norm_num) (by norm_num) run⟩

end Timetable

end ShardFleet.Polling
