import Mathlib.Data.List.Forall2
import ShardFleet.Proofs.StartOrder.Circles

/-!
# Levels are longest chains

The level of an item is the length of the longest chain of requirements that leads from it through
the items given. So the levels depend on nothing but the set of items and what they require of each
other, and the order in which the items are given shows only within a level.
-/

namespace ShardFleet.StartOrder

section

variable {α : Type} {requires : α → List α} {items : List α} {item : α} {height : ℕ}

/-- An item stands on a level, counted from the first. -/
def StandsOn (arranged : List (List α)) (height : ℕ) (item : α) : Prop :=
  ∃ level, arranged[height]? = some level ∧ item ∈ level

/-- The longest chain from an item is of this length. -/
def LongestChain (requires : α → List α) (items : List α) (item : α) (length : ℕ) : Prop :=
  Chain requires items item length ∧
    ∀ other, Chain requires items item other → other ≤ length

theorem longestChain_iff : LongestChain requires items item height ↔
    Chain requires items item height ∧ ¬Chain requires items item (height + 1) := by
  constructor
  · rintro ⟨chain, longest⟩
    refine ⟨chain, fun longer => ?_⟩
    have := longest _ longer
    omega
  · rintro ⟨chain, ends⟩
    refine ⟨chain, fun other longer => ?_⟩
    by_contra beyond
    exact ends (longer.of_le (by omega))

namespace LongestChain

variable {other : α}

theorem lt {lower : ℕ} (longest : LongestChain requires items item height)
    (onward : LongestChain requires items other lower)
    (required : RequiresWithin requires items item other) : lower < height :=
  longest.2 (lower + 1) (.cons required onward.1)

/-- Without its first step a longest chain is a longest one still. -/
theorem next (longest : LongestChain requires items item (height + 1)) :
    ∃ other, RequiresWithin requires items item other ∧
      LongestChain requires items other height := by
  rcases Chain.succ_iff.mp longest.1 with ⟨other, required, rest⟩
  refine ⟨other, required, rest, fun length onward => ?_⟩
  have := longest.2 (length + 1) (.cons required onward)
  omega

end LongestChain

theorem standsOn_nil : ¬StandsOn [] height item := by
  simp [StandsOn]

theorem standsOn_cons_zero {level : List α} {rest : List (List α)} :
    StandsOn (level :: rest) 0 item ↔ item ∈ level := by
  simp [StandsOn]

theorem standsOn_cons_succ {level : List α} {rest : List (List α)} :
    StandsOn (level :: rest) (height + 1) item ↔ StandsOn rest height item := by
  simp [StandsOn]

theorem mem_flatten_iff_standsOn {arranged : List (List α)} :
    item ∈ arranged.flatten ↔ ∃ height, StandsOn arranged height item := by
  constructor
  · intro member
    rcases List.mem_flatten.mp member with ⟨level, levelMem, itemMem⟩
    rcases List.mem_iff_getElem?.mp levelMem with ⟨height, there⟩
    exact ⟨height, level, there, itemMem⟩
  · rintro ⟨height, level, there, itemMem⟩
    exact List.mem_flatten.mpr ⟨level, List.mem_of_getElem? there, itemMem⟩

variable [DecidableEq α]

/-- The items in levels by their longest chains, each level in the order of the items. -/
structure Layered (requires : α → List α) (items : List α) (arranged : List (List α)) : Prop where
  filled : ∀ level ∈ arranged, level ≠ []
  nodup : arranged.flatten.Nodup
  members : ∀ item, item ∈ arranged.flatten ↔ item ∈ items
  standsOn_iff : ∀ item height, StandsOn arranged height item ↔
    LongestChain requires items item height
  below : ∀ item height, StandsOn arranged height item →
    ∀ other ∈ items, other ∈ requires item → ∃ lower < height, StandsOn arranged lower other
  rests : ∀ item height, StandsOn arranged (height + 1) item →
    ∃ other ∈ requires item, StandsOn arranged height other
  ordered : ∀ level ∈ arranged,
    level.Pairwise fun former latter => items.idxOf former < items.idxOf latter

theorem pairwise_idxOf_firstOccurrences (items : List α) :
    (firstOccurrences items).Pairwise fun former latter =>
      items.idxOf former < items.idxOf latter := by
  induction items with
  | nil => exact .nil
  | cons first rest ih =>
      rw [firstOccurrences, List.pairwise_cons]
      constructor
      · intro other member
        have differs := of_decide_eq_true (List.mem_filter.mp member).2
        simp [List.idxOf_cons_ne rest differs.symm]
      · apply (ih.filter _).imp_of_mem
        intro former latter formerMem latterMem earlier
        have formerDiffers := of_decide_eq_true (List.mem_filter.mp formerMem).2
        have latterDiffers := of_decide_eq_true (List.mem_filter.mp latterMem).2
        rw [List.idxOf_cons_ne rest formerDiffers.symm, List.idxOf_cons_ne rest latterDiffers.symm]
        omega

namespace Peels

variable {pending : List α} {rounds before : ℕ} {arranged : List (List α)}

theorem filled (peels : Peels requires pending rounds (.ok arranged)) :
    ∀ level ∈ arranged, level ≠ [] := by
  induction peels using ok_induction with
  | done => simp
  | round pending rounds later progress rest ih =>
      simp only [List.mem_cons, forall_eq_or_imp]
      exact ⟨progress, ih⟩

theorem standsOn_iff (peels : Peels requires pending rounds (.ok arranged))
    (remains : Remains requires items pending before) :
    StandsOn arranged height item ↔
      Chain requires items item (before + height) ∧
        ¬Chain requires items item (before + height + 1) := by
  induction peels using ok_induction generalizing before height with
  | done =>
      have ended : ¬Chain requires items item before := by simp [← remains item]
      simp only [standsOn_nil, false_iff, not_and]
      intro chain
      exact absurd (chain.of_le (Nat.le_add_right _ _)) ended
  | round pending rounds later progress rest ih =>
      cases height with
      | zero => simp [standsOn_cons_zero, remains.mem_readyItems_iff]
      | succ height =>
          rw [standsOn_cons_succ, ih remains.next, Nat.add_right_comm before 1 height,
            Nat.add_assoc before height 1]

end Peels

theorem Layered.of_levels {arranged : List (List α)}
    (levelled : levels requires items = .ok arranged) : Layered requires items arranged := by
  have acyclic : Acyclic requires items := by
    intro item circle
    rcases levels_fails_iff.mpr ⟨item, circle⟩ with ⟨stuck, failed⟩
    rw [levelled] at failed
    cases failed
  rcases acyclic.levels_eq_ok with ⟨_, same, arranges⟩
  rw [levelled, Except.ok.injEq] at same
  subst same
  rcases exists_peels requires (firstOccurrences items) with ⟨rounds, peels⟩
  rw [← levels, levelled] at peels
  have stands : ∀ item height, StandsOn arranged height item ↔
      LongestChain requires items item height := by
    intro item height
    rw [longestChain_iff, peels.standsOn_iff (.initially requires items), Nat.zero_add]
  exact {
    filled := peels.filled
    nodup := arranges.nodup
    members := fun _ => arranges.mem_flatten
    standsOn_iff := stands
    below := by
      intro item height standing other listed required
      rcases mem_flatten_iff_standsOn.mp (arranges.mem_flatten.mpr listed) with ⟨lower, under⟩
      have longest := (stands item height).mp standing
      have shorter :=
        longest.lt ((stands other lower).mp under) ⟨longest.1.listed, listed, required⟩
      exact ⟨lower, shorter, under⟩
    rests := by
      intro item height standing
      rcases ((stands item (height + 1)).mp standing).next with ⟨other, required, longest⟩
      exact ⟨other, required.2.2, (stands other height).mpr longest⟩
    ordered := fun level levelMem =>
      (pairwise_idxOf_firstOccurrences items).sublist (arranges.sublist level levelMem) }

theorem isReady_congr {other : α → List α} {pending given : List α}
    (members : ∀ required, required ∈ given ↔ required ∈ pending)
    (agree : ∀ required ∈ pending, required ∈ other item ↔ required ∈ requires item) :
    isReady other given item = isReady requires pending item := by
  rw [Bool.eq_iff_iff, isReady_iff, isReady_iff]
  grind

namespace Peels

variable {pending given : List α} {rounds : ℕ} {result : Except (List α) (List (List α))}

/-- The rounds depend only on what the items require of each other. -/
theorem congr {other : α → List α} (peels : Peels requires pending rounds result)
    (agree : ∀ item ∈ pending, ∀ required ∈ pending,
      required ∈ other item ↔ required ∈ requires item) :
    Peels other pending rounds result := by
  have same : ∀ {pending : List α}, (∀ item ∈ pending, ∀ required ∈ pending,
      required ∈ other item ↔ required ∈ requires item) → ∀ item ∈ pending,
      isReady other pending item = isReady requires pending item :=
    fun agree item itemMem => isReady_congr (fun _ => .rfl) (agree item itemMem)
  induction peels with
  | done => exact .done
  | @stuck pending pends unready =>
      have ready : readyItems other pending = readyItems requires pending :=
        List.filter_congr (same agree)
      exact .stuck pends (ready.trans unready)
  | @round pending rounds result progress _ ih =>
      have ready : readyItems other pending = readyItems requires pending :=
        List.filter_congr (same agree)
      have waiting : waitingItems other pending = waitingItems requires pending :=
        List.filter_congr fun item itemMem => congrArg not (same agree item itemMem)
      have rest := ih fun item itemMem required requiredMem =>
        agree item (List.mem_filter.mp itemMem).1 required (List.mem_filter.mp requiredMem).1
      rw [← ready] at progress ⊢
      rw [← waiting] at rest
      exact .round progress rest

theorem perm {arranged : List (List α)} (peels : Peels requires pending rounds (.ok arranged))
    (perm : pending.Perm given) :
    ∃ rearranged, Peels requires given rounds (.ok rearranged) ∧
      List.Forall₂ List.Perm arranged rearranged := by
  induction peels using ok_induction generalizing given with
  | done =>
      rw [List.nil_perm.mp perm]
      exact ⟨[], .done, .nil⟩
  | round pending rounds later progress rest ih =>
      have alike : isReady requires given = isReady requires pending :=
        funext fun _ => isReady_congr (fun _ => perm.mem_iff.symm) fun _ _ => .rfl
      have ready : (readyItems requires pending).Perm (readyItems requires given) := by
        rw [readyItems, readyItems, alike]
        exact perm.filter _
      have waiting : (waitingItems requires pending).Perm (waitingItems requires given) := by
        rw [waitingItems, waitingItems, alike]
        exact perm.filter _
      rcases ih waiting with ⟨rearranged, others, levels⟩
      refine ⟨readyItems requires given :: rearranged, ?_, .cons ready levels⟩
      apply round (fun unready => progress ?_) others
      rw [unready] at ready
      exact ready.eq_nil

end Peels

theorem levels_congr {other : α → List α}
    (agree : ∀ item ∈ items, ∀ required ∈ items, required ∈ other item ↔ required ∈ requires item) :
    levels other items = levels requires items := by
  rcases exists_peels requires (firstOccurrences items) with ⟨rounds, peels⟩
  apply (peels.congr ?_).peel_eq
  simpa only [mem_firstOccurrences] using agree

theorem levels_perm {given : List α} {arranged : List (List α)}
    (levelled : levels requires items = .ok arranged)
    (members : ∀ item, item ∈ given ↔ item ∈ items) :
    ∃ rearranged, levels requires given = .ok rearranged ∧
      List.Forall₂ List.Perm arranged rearranged := by
  have perm : (firstOccurrences items).Perm (firstOccurrences given) := by
    rw [List.perm_ext_iff_of_nodup (nodup_firstOccurrences _) (nodup_firstOccurrences _)]
    intro item
    simp [members item]
  rcases exists_peels requires (firstOccurrences items) with ⟨rounds, peels⟩
  rw [← levels, levelled] at peels
  rcases peels.perm perm with ⟨rearranged, regiven, alike⟩
  exact ⟨rearranged, regiven.peel_eq, alike⟩

end

variable {order : StartOrder} {components : List Component} {arranged : List (List Component)}

theorem levelsOf_eq_ok :
    order.levelsOf components = .ok arranged ↔ levels order.requires components = .ok arranged := by
  rw [levelsOf]
  cases levels order.requires components <;> simp

/-- Levels are the layers of longest chains. What leads to components not given, and how those
given are listed, changes them at most within. -/
theorem levelsOf_layered (levelled : order.levelsOf components = .ok arranged) :
    Layered order.requires components arranged ∧
      (∀ other : StartOrder,
        (∀ component ∈ components, ∀ required ∈ components,
          required ∈ other.requires component ↔ required ∈ order.requires component) →
        other.levelsOf components = .ok arranged) ∧
      ∀ given, (∀ component, component ∈ given ↔ component ∈ components) →
        ∃ rearranged, order.levelsOf given = .ok rearranged ∧
          List.Forall₂ List.Perm arranged rearranged := by
  rw [levelsOf_eq_ok] at levelled
  simp only [levelsOf_eq_ok]
  refine ⟨.of_levels levelled, ?_, ?_⟩
  · intro other agree
    rw [levels_congr agree, levelled]
  · intro given members
    exact levels_perm levelled members

theorem levelsOf_layered_of_stack :
    let base : Component := ⟨0, .text "base", ⟨0⟩⟩
    let beside : Component := ⟨1, .text "beside", ⟨1⟩⟩
    let middle : Component := ⟨2, .text "middle", ⟨2⟩⟩
    let top : Component := ⟨3, .text "top", ⟨3⟩⟩
    let absent : Component := ⟨4, .text "absent", ⟨4⟩⟩
    let order : StartOrder :=
      ⟨[(base, [absent]), (middle, [base]), (top, [base, middle]), (absent, [top])], .null⟩
    let arranged := [[base, beside], [middle], [top]]
    order.levelsOf [top, base, beside, middle, base] = .ok arranged ∧
      Layered order.requires [top, base, beside, middle, base] arranged ∧
      (⟨[(middle, [base]), (top, [middle, base])], .null⟩ : StartOrder).levelsOf
        [top, base, beside, middle, base] = .ok arranged ∧
      ∃ rearranged, order.levelsOf [beside, middle, base, top] = .ok rearranged ∧
        List.Forall₂ List.Perm arranged rearranged := by
  intro base beside middle top absent order arranged
  have levelled : order.levelsOf [top, base, beside, middle, base] = .ok arranged := by
    rw [levelsOf_eq_ok]
    decide +kernel
  rcases levelsOf_layered levelled with ⟨layered, elsewhere, listing⟩
  refine ⟨levelled, layered, elsewhere _ (by decide), listing _ ?_⟩
  intro component
  simp only [List.mem_cons, List.not_mem_nil]
  tauto

end ShardFleet.StartOrder
