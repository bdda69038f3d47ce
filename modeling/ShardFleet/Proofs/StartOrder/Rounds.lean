import ShardFleet.Proofs.StartOrder.Levels

/-!
# Levels round by round

Levels are found in rounds. Each takes off what requires nothing that is still pending, so after
`n` rounds just those items are pending from which a chain of `n` requirements leads through the
items given. `Peels` follows the rounds and counts them, `Remains` is what holds between two.
-/

namespace ShardFleet.StartOrder

variable {α : Type} {requires : α → List α} {items : List α}

/-- From an item a chain of so many requirements leads through the items. -/
inductive Chain (requires : α → List α) (items : List α) : α → ℕ → Prop where
  | single {item : α} (listed : item ∈ items) : Chain requires items item 0
  | cons {item other : α} {length : ℕ} (required : RequiresWithin requires items item other)
      (rest : Chain requires items other length) : Chain requires items item (length + 1)

namespace Chain

variable {item : α} {length : ℕ}

theorem listed (chain : Chain requires items item length) : item ∈ items := by
  cases chain with
  | single listed => exact listed
  | cons required => exact required.1

theorem succ_iff : Chain requires items item (length + 1) ↔
    ∃ other, RequiresWithin requires items item other ∧ Chain requires items other length := by
  constructor
  · intro chain
    cases chain with
    | cons required rest => exact ⟨_, required, rest⟩
  · rintro ⟨other, required, rest⟩
    exact .cons required rest

theorem shorten (chain : Chain requires items item (length + 1)) :
    Chain requires items item length := by
  induction length generalizing item with
  | zero => exact .single chain.listed
  | succ length ih =>
      rcases succ_iff.mp chain with ⟨other, required, rest⟩
      exact .cons required (ih rest)

theorem of_le (chain : Chain requires items item length) {shorter : ℕ} (le : shorter ≤ length) :
    Chain requires items item shorter := by
  induction le with
  | refl => exact chain
  | step _ ih => exact ih chain.shorten

end Chain

/-- Through so many rounds just those items remain from which so long a chain leads. -/
def Remains (requires : α → List α) (items pending : List α) (rounds : ℕ) : Prop :=
  ∀ item, item ∈ pending ↔ Chain requires items item rounds

namespace Remains

variable {pending : List α} {rounds : ℕ} {item : α}

theorem listed (remains : Remains requires items pending rounds) (pends : item ∈ pending) :
    item ∈ items :=
  ((remains item).mp pends).listed

theorem requiresWithin_iff (remains : Remains requires items pending rounds) {other : α} :
    RequiresWithin requires pending item other ↔
      RequiresWithin requires items item other ∧ Chain requires items other rounds := by
  constructor
  · rintro ⟨itemMem, otherMem, required⟩
    exact ⟨⟨remains.listed itemMem, remains.listed otherMem, required⟩,
      (remains other).mp otherMem⟩
  · rintro ⟨required, chain⟩
    have longer : Chain requires items item (rounds + 1) := .cons required chain
    exact ⟨(remains item).mpr longer.shorten, (remains other).mpr chain, required.2.2⟩

end Remains

variable [DecidableEq α] {pending : List α}

/-- The pending items that require no pending item. -/
def readyItems (requires : α → List α) (pending : List α) : List α :=
  pending.filter (isReady requires pending)

/-- The pending items that require a pending item. -/
def waitingItems (requires : α → List α) (pending : List α) : List α :=
  pending.filter fun item => !isReady requires pending item

theorem isReady_iff {item : α} :
    isReady requires pending item = true ↔ ∀ other ∈ requires item, other ∉ pending := by
  simp [isReady]

theorem mem_readyItems {item : α} : item ∈ readyItems requires pending ↔
    item ∈ pending ∧ ∀ other, ¬RequiresWithin requires pending item other := by
  simp only [readyItems, List.mem_filter, isReady_iff, RequiresWithin]
  grind

theorem mem_waitingItems {item : α} : item ∈ waitingItems requires pending ↔
    ∃ other, RequiresWithin requires pending item other := by
  simp only [waitingItems, List.mem_filter, Bool.not_eq_true', ← Bool.not_eq_true, isReady_iff,
    RequiresWithin]
  grind

theorem readyItems_eq_nil : readyItems requires pending = [] ↔
    ∀ item ∈ pending, ∃ other, RequiresWithin requires pending item other := by
  simp [List.eq_nil_iff_forall_not_mem, mem_readyItems]

/-- The rounds that arrange what is pending: how many they are and what they come to. -/
inductive Peels (requires : α → List α) :
    List α → ℕ → Except (List α) (List (List α)) → Prop where
  | done : Peels requires [] 0 (.ok [])
  | stuck {pending : List α} (pends : pending ≠ []) (unready : readyItems requires pending = []) :
      Peels requires pending 1 (.error pending)
  | round {pending : List α} {rounds : ℕ} {result : Except (List α) (List (List α))}
      (progress : readyItems requires pending ≠ [])
      (rest : Peels requires (waitingItems requires pending) rounds result) :
      Peels requires pending (rounds + 1) (result.map (readyItems requires pending :: ·))

theorem waitingItems_length_lt (progress : readyItems requires pending ≠ []) :
    (waitingItems requires pending).length < pending.length := by
  apply length_waiting_lt
  rcases List.exists_mem_of_ne_nil _ progress with ⟨item, ready⟩
  exact ⟨item, List.mem_filter.mp ready⟩

theorem peel_of_readyItems_ne_nil (progress : readyItems requires pending ≠ []) :
    peel requires pending =
      (peel requires (waitingItems requires pending)).map (readyItems requires pending :: ·) := by
  apply peel_of_ready
  rcases List.exists_mem_of_ne_nil _ progress with ⟨item, ready⟩
  exact ⟨item, List.mem_filter.mp ready⟩

theorem peel_of_readyItems_eq_nil (pends : pending ≠ [])
    (unready : readyItems requires pending = []) : peel requires pending = .error pending := by
  have all : waitingItems requires pending = pending := by
    apply List.filter_eq_self.mpr
    intro item itemMem
    have := List.filter_eq_nil_iff.mp unready item itemMem
    simpa using this
  cases pending with
  | nil => exact absurd rfl pends
  | cons first rest =>
      rw [waitingItems] at all
      rw [peel]
      simp only [all, Nat.lt_irrefl, dite_false]

/-- Whatever is pending, the program goes through rounds. -/
theorem exists_peels (requires : α → List α) (pending : List α) :
    ∃ rounds, Peels requires pending rounds (peel requires pending) := by
  by_cases empty : pending = []
  · subst empty
    rw [peel_nil]
    exact ⟨0, .done⟩
  · by_cases unready : readyItems requires pending = []
    · rw [peel_of_readyItems_eq_nil empty unready]
      exact ⟨1, .stuck empty unready⟩
    · have shorter := waitingItems_length_lt unready
      rcases exists_peels requires (waitingItems requires pending) with ⟨rounds, rest⟩
      rw [peel_of_readyItems_ne_nil unready]
      exact ⟨rounds + 1, .round unready rest⟩
termination_by pending.length

namespace Peels

variable {rounds : ℕ} {result : Except (List α) (List (List α))}

theorem peel_eq (peels : Peels requires pending rounds result) :
    peel requires pending = result := by
  induction peels with
  | done => exact peel_nil
  | stuck pends unready => exact peel_of_readyItems_eq_nil pends unready
  | round progress _ ih => rw [peel_of_readyItems_ne_nil progress, ih]

theorem rounds_le (peels : Peels requires pending rounds result) : rounds ≤ pending.length := by
  induction peels with
  | done => simp
  | stuck pends => exact List.length_pos_iff.mpr pends
  | round progress _ ih =>
      have := waitingItems_length_lt progress
      omega

/-- Rounds that arrange everything get by without getting stuck. -/
@[elab_as_elim]
theorem ok_induction
    {motive : ∀ (pending : List α) (rounds : ℕ) (arranged : List (List α)),
      Peels requires pending rounds (.ok arranged) → Prop}
    (done : motive [] 0 [] .done)
    (round : ∀ (pending : List α) (rounds : ℕ) (later : List (List α))
      (progress : readyItems requires pending ≠ [])
      (rest : Peels requires (waitingItems requires pending) rounds (.ok later)),
      motive _ _ _ rest → motive pending (rounds + 1) (readyItems requires pending :: later)
        (.round progress rest))
    {pending : List α} {rounds : ℕ} {arranged : List (List α)}
    (peels : Peels requires pending rounds (.ok arranged)) :
    motive pending rounds arranged peels := by
  have all : ∀ pending rounds result (given : Peels requires pending rounds result) arranged
      (same : result = .ok arranged), motive pending rounds arranged (same ▸ given) := by
    intro pending rounds result given
    induction given with
    | done =>
        rintro arranged ⟨⟩
        exact done
    | stuck => exact nofun
    | @round pending rounds result progress rest ih =>
        cases result with
        | error => exact nofun
        | ok later =>
            rintro arranged ⟨⟩
            exact round pending rounds later progress rest (ih later rfl)
  exact all _ _ _ peels _ rfl

end Peels

namespace Remains

variable {rounds : ℕ} {item : α}

theorem initially (requires : α → List α) (items : List α) :
    Remains requires items (firstOccurrences items) 0 := by
  intro item
  rw [mem_firstOccurrences]
  constructor
  · exact .single
  · exact Chain.listed

/-- A round leaves what a chain longer by one leads from. -/
theorem next (remains : Remains requires items pending rounds) :
    Remains requires items (waitingItems requires pending) (rounds + 1) := by
  intro item
  simp only [mem_waitingItems, remains.requiresWithin_iff, Chain.succ_iff]

theorem mem_readyItems_iff (remains : Remains requires items pending rounds) :
    item ∈ readyItems requires pending ↔
      Chain requires items item rounds ∧ ¬Chain requires items item (rounds + 1) := by
  rw [mem_readyItems, remains item, ← remains.next item, mem_waitingItems, not_exists]

end Remains

end ShardFleet.StartOrder
