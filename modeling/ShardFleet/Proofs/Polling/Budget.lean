import Mathlib.Algebra.Order.Floor.Ring
import Mathlib.Algebra.Order.Floor.Semiring
import Mathlib.Data.Rat.Floor
import Mathlib.Tactic.Linarith
import ShardFleet.Proofs.Polling.Scene

/-!
# The budget of a wait

Where the clock does not go back, and is not behind after a sleep, every round but the last takes a
whole interval off the time that remains. So a wait ends after as many rounds as intervals fit into
its timeout, rounded up, and does not ask for more sleep than that. If nothing but sleeping takes
time and the condition never holds, it uses up its budget exactly.
-/

namespace ShardFleet.Polling

variable {σ : Type} {wait : Wait} {scene : Scene σ} {time : σ → Rat}

/-- The clock goes with a time that never goes back and that a sleep takes at least as long as it
was asked to. -/
structure Scene.KeepsTime (scene : Scene σ) (time : σ → Rat) : Prop where
  evaluates : ∀ state, time state ≤ time (scene.condition state).2
  reads : ∀ state, time state ≤ (scene.clock state).1 ∧
    (scene.clock state).1 ≤ time (scene.clock state).2
  sleeps : ∀ length state, 0 < length → (scene.sleep length state).1 = .ok () →
    time state + length ≤ time (scene.sleep length state).2

/-- The condition never holds, and nothing but sleeping takes time, just as long as was asked. -/
structure Scene.OnlySleeps (scene : Scene σ) (time : σ → Rat) : Prop where
  evaluates : ∀ state,
    (scene.condition state).1 = .ok false ∧ time (scene.condition state).2 = time state
  reads : ∀ state,
    (scene.clock state).1 = time state ∧ time (scene.clock state).2 = time state
  sleeps : ∀ length state, 0 < length →
    (scene.sleep length state).1 = .ok () ∧ time (scene.sleep length state).2 = time state + length

/-! ## One round -/

section rounds

variable {state awake seen looked : σ} {reading : Rat}

theorem Wait.pause_pos (positive : 0 < wait.interval) (early : reading < wait.deadline) :
    0 < wait.pause reading :=
  lt_min positive (sub_pos.mpr early)

theorem Wait.pause_le (reading : Rat) : wait.pause reading ≤ wait.deadline - reading :=
  min_le_right _ _

/-- The reading after an evaluation is not before the evaluation. -/
theorem Scene.KeepsTime.le_reading (keeps : scene.KeepsTime time) {answer : Except Failure Bool}
    (evaluation : scene.condition state = (answer, seen))
    (look : scene.clock seen = (reading, looked)) :
    time state ≤ reading ∧ reading ≤ time looked := by
  have evaluates := keeps.evaluates state
  have reads := keeps.reads seen
  rw [evaluation] at evaluates
  rw [look] at reads
  exact ⟨evaluates.trans reads.1, reads.2⟩

/-- A round reads the clock and then sleeps. -/
theorem Wait.Round.forward (round : wait.Round scene state reading awake)
    (keeps : scene.KeepsTime time) (positive : 0 < wait.interval) :
    time state ≤ reading ∧ reading < wait.deadline ∧
      reading + wait.pause reading ≤ time awake := by
  rcases round with ⟨evaluation, look, early, sleep⟩
  rcases keeps.le_reading evaluation look with ⟨before, after⟩
  have slept := keeps.sleeps _ _ (Wait.pause_pos positive early) (congrArg Prod.fst sleep)
  rw [sleep] at slept
  exact ⟨before, early, (add_le_add_left after _).trans slept⟩

end rounds

namespace Wait

variable {attempts rounds : Nat} {state : σ} {moments : List Moment} {result : Except Failure Nat}

/-- A round takes an interval off what remains, or all of it. -/
theorem Undecided.rounds_le (undecided : wait.Undecided scene rounds state moments)
    (keeps : scene.KeepsTime time) (positive : 0 < wait.interval) {count : Nat}
    (remaining : wait.deadline - time state ≤ count * wait.interval) : rounds ≤ count := by
  induction undecided generalizing count with
  | none => exact Nat.zero_le count
  | @onward rounds state awake reading moments round more ih =>
      rcases round.forward keeps positive with ⟨before, early, after⟩
      cases count with
      | zero => rw [Nat.cast_zero, zero_mul] at remaining; linarith
      | succ count =>
          apply Nat.succ_le_succ
          apply ih
          rw [Nat.cast_succ, add_mul, one_mul] at remaining
          have whole : 0 ≤ count * wait.interval := by positivity
          unfold pause at after
          rcases min_choice wait.interval (wait.deadline - reading) with same | same
          · rw [same] at after
            linarith
          · rw [same] at after
            linarith

theorem Course.sum_sleeps_le (course : wait.Course scene attempts state moments result)
    (keeps : scene.KeepsTime time) (positive : 0 < wait.interval) :
    (sleeps moments).sum ≤ max (wait.deadline - time state) 0 := by
  induction course with
  | ends ending =>
      cases ending with
      | @unslept _ _ _ reading _ evaluation look early sleep =>
          have before := (keeps.le_reading evaluation look).1
          have short := wait.pause_le reading
          apply le_max_of_le_left
          simp only [sleeps, Moment.sleep?, List.filterMap, List.sum_cons, List.sum_nil]
          linarith
      | _ => exact le_max_right _ _
  | @onward attempts state awake reading moments result round more ih =>
      rcases round.forward keeps positive with ⟨before, early, after⟩
      have short := wait.pause_le reading
      have later : max (wait.deadline - time awake) 0 ≤
          wait.deadline - reading - wait.pause reading := max_le (by linarith) (by linarith)
      apply le_max_of_le_left
      rw [sleeps_append, sleeps_round, List.singleton_append, List.sum_cons]
      linarith

/-- A timeout that no other failure brought about comes at or after the deadline. -/
theorem Course.times_out (course : wait.Course scene attempts state moments result)
    (keeps : scene.KeepsTime time) (positive : 0 < wait.interval) {failure : Failure}
    (failed : result = .error failure) (unfailed : ∀ moment ∈ moments, moment.failure? = none) :
    ∃ last, failure = wait.timeout last ∧ wait.deadline ≤ last ∧ time state ≤ last := by
  induction course with
  | ends ending =>
      cases ending with
      | held evaluation look => cases failed
      | failed evaluation => simp [Moment.failure?] at unfailed
      | @expired seen looked final reading last evaluation look late again =>
          cases failed
          rcases keeps.le_reading evaluation look with ⟨before, after⟩
          have reads := (keeps.reads looked).1
          rw [again] at reads
          have on : reading ≤ last := after.trans reads
          exact ⟨last, rfl, late.trans on, before.trans on⟩
      | unslept evaluation look early sleep => simp [Moment.failure?] at unfailed
  | @onward attempts state awake reading moments result round more ih =>
      rcases round.forward keeps positive with ⟨before, early, after⟩
      rcases ih failed fun moment member => unfailed moment (List.mem_append_right _ member) with
        ⟨last, timeout, late, on⟩
      exact ⟨last, timeout, late, before.trans (early.le.trans late)⟩

/-- There is only one way in which a wait can end. -/
theorem Course.unique {others : List Moment} {other : Except Failure Nat}
    (first : wait.Course scene attempts state moments result)
    (second : wait.Course scene attempts state others other) :
    moments = others ∧ result = other := by
  have enough := le_max_left (evaluations moments).length (evaluations others).length
  have enoughToo := le_max_right (evaluations moments).length (evaluations others).length
  rcases poll_of_course first enough [] with ⟨after, run⟩
  rcases poll_of_course second enoughToo [] with ⟨final, same⟩
  rcases conclude_inj.mp (run.symm.trans same) with ⟨result, records⟩
  exact ⟨congrArg Record.moments records, result⟩

end Wait

/-! ## Filling a span -/

/-- The intervals that fit into a span, and what is left after them if anything is. -/
def filling (interval span : Rat) : List Rat :=
  List.replicate ⌊span / interval⌋₊ interval ++
    if span = ⌊span / interval⌋₊ * interval then [] else [span - ⌊span / interval⌋₊ * interval]

/-- A span is so many intervals and a rest. -/
structure Fills (interval span : Rat) (count : Nat) (rest : Rat) : Prop where
  split : span = count * interval + rest
  nonneg : 0 ≤ rest
  short : rest < interval

section filling

variable {interval span rest : Rat} {count : Nat}

theorem exists_fills (positive : 0 < interval) (nonneg : 0 ≤ span) :
    ∃ count rest, Fills interval span count rest := by
  have below : ⌊span / interval⌋₊ * interval ≤ span :=
    (le_div_iff₀ positive).mp (Nat.floor_le (div_nonneg nonneg positive.le))
  have above : span < (⌊span / interval⌋₊ + 1) * interval :=
    (div_lt_iff₀ positive).mp (Nat.lt_floor_add_one _)
  exact ⟨⌊span / interval⌋₊, span - ⌊span / interval⌋₊ * interval, by ring, by linarith,
    by linarith⟩

namespace Fills

variable (fills : Fills interval span count rest)
include fills

theorem positive : 0 < interval := fills.nonneg.trans_lt fills.short

theorem div_eq : span / interval = count + rest / interval := by
  rw [fills.split, add_div, mul_div_cancel_right₀ _ fills.positive.ne']

theorem floor_eq : ⌊span / interval⌋₊ = count := by
  have part : 0 ≤ rest / interval := div_nonneg fills.nonneg fills.positive.le
  have proper : rest / interval < 1 := (div_lt_one fills.positive).mpr fills.short
  rw [fills.div_eq]
  exact (Nat.floor_eq_iff (by positivity)).mpr ⟨by linarith, by linarith⟩

theorem filling_eq :
    filling interval span = List.replicate count interval ++ if rest = 0 then [] else [rest] := by
  have left : span - count * interval = rest := by
    rw [fills.split]
    ring
  unfold filling
  rw [fills.floor_eq, left]
  simp only [fills.split, add_eq_left]

theorem filling_length : (filling interval span).length = ⌈span / interval⌉₊ := by
  rw [fills.filling_eq, fills.div_eq]
  rcases fills.nonneg.eq_or_lt with rfl | left
  · simp
  · have part : 0 < rest / interval := div_pos left fills.positive
    have proper : rest / interval ≤ 1 := (div_le_one fills.positive).mpr fills.short.le
    have up : ⌈count + rest / interval⌉₊ = count + 1 :=
      (Nat.ceil_eq_iff (Nat.succ_ne_zero count)).mpr
        ⟨by push_cast; linarith, by push_cast; linarith⟩
    rw [up, if_neg left.ne']
    simp

end Fills

/-- A span in seconds is filled as it is in milliseconds. -/
theorem filling_seconds (positive : 0 < interval) (nonneg : 0 ≤ span) :
    filling (interval / 1000) (span / 1000) = (filling interval span).map (· / 1000) := by
  rcases exists_fills positive nonneg with ⟨count, rest, fills⟩
  have seconds : Fills (interval / 1000) (span / 1000) count (rest / 1000) :=
    ⟨by rw [fills.split]; ring, div_nonneg fills.nonneg (by norm_num),
      div_lt_div_of_pos_right fills.short (by norm_num)⟩
  rw [seconds.filling_eq, fills.filling_eq]
  by_cases whole : rest = 0 <;> simp [whole]

end filling

/-! ## Time that passes only in sleep -/

section only

variable (only : scene.OnlySleeps time)
include only

theorem Scene.OnlySleeps.keepsTime : scene.KeepsTime time where
  evaluates state := (only.evaluates state).2.ge
  reads state :=
    ⟨(only.reads state).1.ge, ((only.reads state).1.trans (only.reads state).2.symm).le⟩
  sleeps length state positive _ := (only.sleeps length state positive).2.ge

theorem Scene.OnlySleeps.read (state : σ) :
    ∃ looked, scene.clock state = (time state, looked) ∧ time looked = time state := by
  have reads := only.reads state
  rcases look : scene.clock state with ⟨reading, looked⟩
  rw [look] at reads
  rcases reads with ⟨rfl, still⟩
  exact ⟨looked, rfl, still⟩

/-- The condition does not hold, and the clock still shows the time that it was before. -/
theorem Scene.OnlySleeps.unheld (state : σ) :
    ∃ seen looked, scene.condition state = (.ok false, seen) ∧
      scene.clock seen = (time state, looked) ∧ time looked = time state := by
  have evaluates := only.evaluates state
  rcases evaluation : scene.condition state with ⟨answer, seen⟩
  rw [evaluation] at evaluates
  rcases evaluates with ⟨rfl, unmoved⟩
  rcases only.read seen with ⟨looked, look, still⟩
  rw [unmoved] at look still
  exact ⟨seen, looked, rfl, look, still⟩

theorem Wait.ending_of_late (attempts : Nat) {state : σ} (late : wait.deadline ≤ time state) :
    ∃ moments, wait.Ending scene attempts state moments (.error (wait.timeout (time state))) ∧
      sleeps moments = [] := by
  rcases only.unheld state with ⟨seen, looked, evaluation, look, still⟩
  rcases only.read looked with ⟨final, again, _⟩
  rw [still] at again
  exact ⟨_, .expired evaluation look late again, rfl⟩

theorem Wait.round_of_early (positive : 0 < wait.interval) {state : σ}
    (early : time state < wait.deadline) :
    ∃ awake, wait.Round scene state (time state) awake ∧
      time awake = time state + wait.pause (time state) := by
  rcases only.unheld state with ⟨seen, looked, evaluation, look, still⟩
  have slept := only.sleeps _ looked (Wait.pause_pos positive early)
  rcases sleep : scene.sleep (wait.pause (time state)) looked with ⟨answer, awake⟩
  rw [sleep, still] at slept
  rcases slept with ⟨rfl, passed⟩
  exact ⟨awake, .intro evaluation look early sleep, passed⟩

/-- With no more than an interval left, there is one sleep, just until the deadline. -/
theorem Wait.course_of_short (attempts : Nat) {state : σ} (positive : 0 < wait.interval)
    (early : time state < wait.deadline) (short : wait.deadline - time state ≤ wait.interval) :
    ∃ moments, wait.Course scene attempts state moments (.error (wait.timeout wait.deadline)) ∧
      (evaluations moments).length = (sleeps moments).length + 1 ∧
      sleeps moments = [wait.deadline - time state] := by
  have pause : wait.pause (time state) = wait.deadline - time state := min_eq_right short
  rcases round_of_early only positive early with ⟨awake, round, passed⟩
  have now : time awake = wait.deadline := by linarith
  rcases ending_of_late only (attempts + 1) now.ge with ⟨moments, ending, sleepless⟩
  rw [now] at ending
  exact ⟨_, .onward round (.ends ending), by simp [ending.evaluations_length, sleepless],
    by simp [sleepless, pause]⟩

/-- The sleeps fill the time that remains, and the wait times out just when it is over. -/
theorem Wait.course_of_fills {count : Nat} {rest : Rat} (attempts : Nat) {state : σ}
    (fills : Fills wait.interval (max (wait.deadline - time state) 0) count rest) :
    ∃ moments, wait.Course scene attempts state moments
        (.error (wait.timeout (max wait.deadline (time state)))) ∧
      (evaluations moments).length = (sleeps moments).length + 1 ∧
      sleeps moments = List.replicate count wait.interval ++ if rest = 0 then [] else [rest] := by
  have positive := fills.positive
  -- Each full interval is one round. When none fits any more, only the rest can be left.
  induction count generalizing attempts state with
  | zero =>
      have whole : max (wait.deadline - time state) 0 = rest := by simpa using fills.split
      rcases le_or_gt wait.deadline (time state) with late | early
      · have spent : rest = 0 := whole.symm.trans (max_eq_right (sub_nonpos.mpr late))
        rcases ending_of_late only attempts late with ⟨moments, ending, sleepless⟩
        rw [max_eq_right late]
        exact ⟨moments, .ends ending, by simp [ending.evaluations_length, sleepless],
          by simp [sleepless, spent]⟩
      · have left : wait.deadline - time state = rest :=
          (max_eq_left (sub_pos.mpr early).le).symm.trans whole
        have remains : rest ≠ 0 := left ▸ (sub_pos.mpr early).ne'
        rcases course_of_short only attempts positive early (left ▸ fills.short.le) with
          ⟨moments, course, counts, slept⟩
        rw [max_eq_left early.le]
        exact ⟨moments, course, counts, by simp [slept, left, remains]⟩
  | succ count ih =>
      have split := fills.split
      have nonneg := fills.nonneg
      have whole : 0 ≤ count * wait.interval := by positivity
      push_cast at split
      have early : time state < wait.deadline := by
        by_contra late
        rw [max_eq_right (sub_nonpos.mpr (not_lt.mp late))] at split
        linarith
      rw [max_eq_left (sub_pos.mpr early).le] at split
      have pause : wait.pause (time state) = wait.interval := min_eq_left (by linarith)
      rcases round_of_early only positive early with ⟨awake, round, passed⟩
      have before : 0 ≤ wait.deadline - time awake := by linarith
      have fewer : Fills wait.interval (max (wait.deadline - time awake) 0) count rest :=
        ⟨by rw [max_eq_left before]; linarith, nonneg, fills.short⟩
      rcases ih (attempts + 1) fewer with ⟨moments, more, counts, slept⟩
      rw [max_eq_left (sub_nonneg.mp before)] at more
      rw [max_eq_left early.le]
      refine ⟨_, .onward round more, by simp [counts], ?_⟩
      rw [sleeps_append, sleeps_round, pause, slept, List.replicate_succ]
      rfl

end only

/-! ## The budget -/

theorem wholePart_cast (whole : Int) : wholePart whole = whole := by
  simp [wholePart]

theorem le_wholePart {whole : Int} {number : Rat} (nonneg : 0 ≤ whole) (most : whole ≤ number) :
    whole ≤ wholePart number := by
  have numerator : 0 ≤ number.num := Rat.num_nonneg.mpr ((Int.cast_nonneg nonneg).trans most)
  unfold wholePart
  rw [Int.tdiv_eq_ediv_of_nonneg numerator, ← Rat.floor_def']
  exact Int.le_floor.mpr most

/-- What a wait comes to, of which the timeout and the interval are given in milliseconds. -/
structure EndsInBudget (scene : Scene σ) (description : Value) (timeout : Int) (interval : Rat)
    (moments : List Moment) (result : Except Failure Nat) : Prop where
  evaluations_le : (evaluations moments).length ≤ ⌈max (timeout : Rat) 0 / interval⌉₊ + 1
  sleeps_le : (sleeps moments).sum * 1000 ≤ max (timeout : Rat) 0
  /-- What is raised when neither the condition nor a sleep has failed. -/
  times_out : ∀ failure, result = .error failure →
    (∀ moment ∈ moments, moment.failure? = none) →
      ∃ elapsed, failure = .membershipTimeout description elapsed none ∧ timeout ≤ elapsed
  exactly : (∃ time, scene.OnlySleeps time) →
    (evaluations moments).length = ⌈max (timeout : Rat) 0 / interval⌉₊ + 1 ∧
      sleeps moments = (filling interval (max (timeout : Rat) 0)).map (· / 1000) ∧
      result = .error (.membershipTimeout description (max timeout 0) none)

section wait

variable {description : Value} {start interval : Rat} {timeout : Int} {state looked : σ}
  {moments : List Moment} {result : Except Failure Nat}

theorem max_seconds (span : Rat) : max (span / 1000) 0 = max span 0 / 1000 := by
  rw [← max_div_div_right (by norm_num), zero_div]

theorem Wait.begun_remaining_le (keeps : scene.KeepsTime time)
    (look : scene.clock state = (start, looked)) :
    max ((Wait.begun description start timeout interval).deadline - time looked) 0 ≤
      max (timeout : Rat) 0 / 1000 := by
  have read := (keeps.reads state).2
  rw [look] at read
  rw [← max_seconds]
  apply max_le_max_right
  change start + timeout / 1000 - time looked ≤ _
  linarith

theorem Wait.begun_ends (keeps : scene.KeepsTime time) (positive : 0 < interval)
    (look : scene.clock state = (start, looked)) :
    ∃ moments result,
      (Wait.begun description start timeout interval).Course scene 1 looked moments result ∧
        (evaluations moments).length ≤ ⌈max (timeout : Rat) 0 / interval⌉₊ + 1 := by
  let wait := Wait.begun description start timeout interval
  let count := ⌈max (timeout : Rat) 0 / interval⌉₊
  have spaced : 0 < wait.interval := div_pos positive (by norm_num)
  rcases Wait.course_or_undecided (count + 1) 1 looked with ended | ⟨moments, undecided⟩
  · exact ended
  · have most : max (timeout : Rat) 0 ≤ count * interval :=
      (div_le_iff₀ positive).mp (Nat.le_ceil _)
    have enough : wait.deadline - time looked ≤ count * wait.interval :=
      calc wait.deadline - time looked ≤ max (wait.deadline - time looked) 0 := le_max_left _ _
        _ ≤ max (timeout : Rat) 0 / 1000 := Wait.begun_remaining_le keeps look
        _ ≤ count * interval / 1000 := div_le_div_of_nonneg_right most (by norm_num)
        _ = count * wait.interval := mul_div_assoc _ _ _
    exact absurd (undecided.rounds_le keeps spaced enough) (Nat.not_succ_le_self count)

theorem Wait.begun_times_out
    (course : (Wait.begun description start timeout interval).Course scene 1 looked moments result)
    (keeps : scene.KeepsTime time) (positive : 0 < interval)
    (look : scene.clock state = (start, looked)) {failure : Failure}
    (failed : result = .error failure) (unfailed : ∀ moment ∈ moments, moment.failure? = none) :
    ∃ elapsed, failure = .membershipTimeout description elapsed none ∧ timeout ≤ elapsed := by
  have read := (keeps.reads state).2
  rw [look] at read
  rcases course.times_out keeps (div_pos positive (by norm_num)) failed unfailed with
    ⟨last, timedOut, late, on⟩
  have reached : start + timeout / 1000 ≤ last := late
  have passed : ((max timeout 0 : Int) : Rat) ≤ (last - start) * 1000 := by
    push_cast
    exact max_le (by linarith) (by linarith)
  exact ⟨_, timedOut, (le_max_left _ _).trans (le_wholePart (le_max_right _ _) passed)⟩

/-- A wait of which only the sleeps take time uses up its budget. -/
theorem Wait.begun_course_of_only (only : scene.OnlySleeps time) (positive : 0 < interval)
    (look : scene.clock state = (start, looked)) :
    ∃ moments, (Wait.begun description start timeout interval).Course scene 1 looked moments
        (.error (.membershipTimeout description (max timeout 0) none)) ∧
      (evaluations moments).length = ⌈max (timeout : Rat) 0 / interval⌉₊ + 1 ∧
      sleeps moments = (filling interval (max (timeout : Rat) 0)).map (· / 1000) := by
  let wait := Wait.begun description start timeout interval
  have read := only.reads state
  rw [look] at read
  have now : time looked = start := read.2.trans read.1.symm
  have nonneg : 0 ≤ max (timeout : Rat) 0 := le_max_right _ _
  have span : max (wait.deadline - time looked) 0 = max (timeout : Rat) 0 / 1000 := by
    change max (start + timeout / 1000 - time looked) 0 = _
    rw [now, add_sub_cancel_left, max_seconds]
  have elapsed : (max wait.deadline (time looked) - wait.start) * 1000 = (max timeout 0 : Int) := by
    have later : max wait.deadline start = start + max (timeout : Rat) 0 / 1000 := by
      rw [← max_seconds, ← max_add_add_left, add_zero]
      rfl
    change (_ - start) * 1000 = _
    rw [now, later]
    push_cast
    ring
  have filled : ∃ count rest,
      Fills wait.interval (max (wait.deadline - time looked) 0) count rest :=
    exists_fills (div_pos positive (by norm_num)) (le_max_right _ _)
  rcases filled with ⟨count, rest, fills⟩
  rcases Wait.course_of_fills only 1 fills with ⟨moments, course, counts, slept⟩
  have seconds : sleeps moments = (filling interval (max (timeout : Rat) 0)).map (· / 1000) := by
    rw [slept, ← fills.filling_eq, span]
    exact filling_seconds positive nonneg
  refine ⟨moments, ?_, ?_, seconds⟩
  · rw [← wholePart_cast (max timeout 0), ← elapsed]
    exact course
  · rcases exists_fills positive nonneg with ⟨whole, left, milliseconds⟩
    rw [counts, seconds, List.length_map, milliseconds.filling_length]

end wait

namespace Scene

variable {description : Value} {policy : PollPolicy} {interval : Rat} {timeout : Int}

/-- A wait ends within its budget. -/
theorem await_endsInBudget (keeps : scene.KeepsTime time) (sets : Sets policy timeout interval)
    (positive : 0 < interval) (description : Value) (state : σ) :
    ∃ start moments result,
      scene.ComesTo (⌈max (timeout : Rat) 0 / interval⌉₊ + 1) description policy state
        (.read start :: moments) result ∧
      EndsInBudget scene description timeout interval moments result := by
  rcases look : scene.clock state with ⟨start, looked⟩
  rcases Wait.begun_ends keeps positive look with ⟨moments, result, course, few⟩
  refine ⟨start, moments, result, comesTo_of_course sets look course few, few, ?_, ?_, ?_⟩
  · have slept := course.sum_sleeps_le keeps (div_pos positive (by norm_num))
    exact (le_div_iff₀ (by norm_num)).mp (slept.trans (Wait.begun_remaining_le keeps look))
  · exact fun failure => Wait.begun_times_out course keeps positive look
  · rintro ⟨other, only⟩
    rcases Wait.begun_course_of_only only positive look with ⟨filled, timed, counts, slept⟩
    rcases course.unique timed with ⟨rfl, rfl⟩
    exact ⟨counts, slept, rfl⟩

/-- The state is the time, and the condition never holds. -/
def idle : Scene Rat where
  condition state := (.ok false, state)
  clock state := (state, state)
  sleep length state := (.ok (), state + length)
  log _ _ _ state := state

theorem idle_onlySleeps : idle.OnlySleeps id where
  evaluates _ := ⟨rfl, rfl⟩
  reads _ := ⟨rfl, rfl⟩
  sleeps _ _ _ := ⟨rfl, rfl⟩

theorem await_endsInBudget_idle : ∃ start moments,
    idle.ComesTo 4 .null ⟨.int 1000, .int 2500⟩ 0 (.read start :: moments)
        (.error (.membershipTimeout .null 2500 none)) ∧
      (evaluations moments).length = 4 ∧ sleeps moments = [1, 1, 1 / 2] := by
  have sets : Sets ⟨.int 1000, .int 2500⟩ ((2500 : Int) : Rat) 1000 := ⟨rfl, rfl⟩
  rcases await_endsInBudget idle_onlySleeps.keepsTime sets (by norm_num) .null 0 with
    ⟨start, moments, result, comes, ends⟩
  rcases ends.exactly ⟨id, idle_onlySleeps⟩ with ⟨counts, slept, rfl⟩
  have most : ⌈max ((2500 : Int) : Rat) 0 / 1000⌉₊ = 3 := by decide +kernel
  have spans : (filling 1000 (max ((2500 : Int) : Rat) 0)).map (· / 1000) = [1, 1, 1 / 2] := by
    decide +kernel
  rw [most] at comes counts
  exact ⟨start, moments, comes, counts, slept.trans spans⟩

end Scene

end ShardFleet.Polling
