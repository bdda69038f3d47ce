import ShardFleet.Proofs.StartOrder.Stacking
import ShardFleet.Proofs.StartOrder.StartUp

/-!
# Two tiers

Some items stand below and require none of the items; the others stand above, and each requires some
of those below, but none above. Such items have two levels, whatever else is required that is not
among them. When components are started or stopped in two tiers, the tier whose turn comes first is
settled before the other one is touched. Nothing is assumed of the number of workers here.
-/

namespace ShardFleet

namespace StartOrder

section levels

variable {α : Type} [DecidableEq α] {requires : α → List α} {items : List α} {above : α → Bool}

theorem firstOccurrences_eq_self (nodup : items.Nodup) : firstOccurrences items = items := by
  induction items with
  | nil => rfl
  | cons first rest ih =>
      rcases List.nodup_cons.mp nodup with ⟨absent, restNodup⟩
      rw [firstOccurrences, ih restNodup]
      congr 1
      apply List.filter_eq_self.mpr
      intro other otherMem
      exact decide_eq_true fun same => absent (same ▸ otherMem)

structure Tiered (requires : α → List α) (items : List α) (above : α → Bool) : Prop where
  nodup : items.Nodup
  inhabited : ∃ item ∈ items, above item = true
  below : ∀ item ∈ items, above item = false → ∀ other ∈ items, other ∉ requires item
  rests : ∀ item ∈ items, above item = true → ∃ other ∈ items, other ∈ requires item
  apart : ∀ item ∈ items, above item = true → ∀ other ∈ items, above other = true →
    other ∉ requires item

namespace Tiered

theorem isReady_eq (tiered : Tiered requires items above) {item : α} (listed : item ∈ items) :
    isReady requires items item = !above item := by
  cases tier : above item with
  | false =>
      rw [Bool.not_false, isReady, List.all_eq_true]
      intro other required
      exact decide_eq_true fun otherMem => tiered.below item listed tier other otherMem required
  | true =>
      rcases tiered.rests item listed tier with ⟨other, otherMem, required⟩
      rw [Bool.not_true, isReady, List.all_eq_false]
      exact ⟨other, required, by simpa using otherMem⟩

theorem isReady_above (tiered : Tiered requires items above) {item : α}
    (listed : item ∈ items.filter above) : isReady requires (items.filter above) item = true := by
  rcases List.mem_filter.mp listed with ⟨itemMem, tier⟩
  rw [isReady, List.all_eq_true]
  intro other required
  refine decide_eq_true fun pending => ?_
  rcases List.mem_filter.mp pending with ⟨otherMem, otherTier⟩
  exact tiered.apart item itemMem tier other otherMem otherTier required

omit [DecidableEq α] in
/-- The items above rest on some item, and that stands below. -/
theorem exists_below (tiered : Tiered requires items above) :
    ∃ item ∈ items, above item = false := by
  rcases tiered.inhabited with ⟨item, listed, tier⟩
  rcases tiered.rests item listed tier with ⟨other, otherMem, required⟩
  refine ⟨other, otherMem, ?_⟩
  rw [← Bool.not_eq_true]
  exact fun otherTier => tiered.apart item listed tier other otherMem otherTier required

theorem peel_above (tiered : Tiered requires items above) :
    peel requires (items.filter above) = .ok [items.filter above] := by
  rcases tiered.inhabited with ⟨item, listed, tier⟩
  have itemMem : item ∈ items.filter above := List.mem_filter.mpr ⟨listed, tier⟩
  rw [peel_of_ready ⟨item, itemMem, tiered.isReady_above itemMem⟩]
  have all : (items.filter above).filter (isReady requires (items.filter above)) =
      items.filter above :=
    List.filter_eq_self.mpr fun _ => tiered.isReady_above
  have waiting :
      (items.filter above).filter (fun item => !isReady requires (items.filter above) item) = [] :=
    List.filter_eq_nil_iff.mpr fun _ pending => by simp [tiered.isReady_above pending]
  rw [all, waiting, peel_nil]
  rfl

/-- Items in two tiers have two levels, each in the order of the items. -/
theorem levels_eq (tiered : Tiered requires items above) :
    levels requires items = .ok [items.filter (!above ·), items.filter above] := by
  rcases tiered.exists_below with ⟨item, listed, tier⟩
  have ready : isReady requires items item = true := by rw [tiered.isReady_eq listed, tier]; rfl
  rw [levels, firstOccurrences_eq_self tiered.nodup, peel_of_ready ⟨item, listed, ready⟩]
  have lower : items.filter (isReady requires items) = items.filter (!above ·) :=
    List.filter_congr fun _ => tiered.isReady_eq
  have upper : items.filter (fun item => !isReady requires items item) = items.filter above :=
    List.filter_congr fun _ itemMem => by rw [tiered.isReady_eq itemMem, Bool.not_not]
  rw [lower, upper, tiered.peel_above]
  rfl

end Tiered

end levels

open ShardFleet.Action

variable {ω : Type} [Outside ω] {transition : Transition}

theorem along_needsSettled_of_reaches {needs : Component → Component → Prop} {states : States}
    {done level : List Component} {events : List Event}
    (settled : ∀ other ∈ done, ¬transition.AppliesTo (states other))
    (calls : CalledOnly (transition.Reaches level) events)
    (needed : ∀ component ∈ level, ∀ other, needs component other → other ∈ done) :
    Along (NeedsSettled transition needs) states events := by
  apply along_needsSettled_of_asked settled
  intro event eventMem isCall
  cases event with
  | called call answer =>
      rcases calls _ _ eventMem with ⟨component, listed, rfl⟩
      refine ⟨component, ?_⟩
      cases transition <;> exact ⟨answer, rfl, needed component listed⟩
  | _ => cases isCall

/-- While stacked levels are taken one after another, whatever a called component needs is settled
at the call. -/
theorem runLevels_needsSettled (order : StartOrder) {wanted : Session ω → Component → Bool}
    (judges : ∀ session component,
      wanted session component = decide (transition.AppliesTo (session.stateOf component)))
    {needs : Component → Component → Prop} {done : List Component}
    {arranged : List (List Component)} (stacked : Stacked needs done arranged)
    (session : Session ω) (settled : ∀ other ∈ done, transition.Settled other session) :
    ∃ events, session.Evolves events
        (finalState (order.runLevels transition transition.run wanted arranged) session) ∧
      Along (NeedsSettled transition needs) session.stateOf events := by
  induction arranged generalizing done session with
  | nil => exact ⟨[], .refl session, trivial⟩
  | cons level rest ih =>
      rcases stacked with ⟨levelNeeds, restStacked⟩
      have calls : CallsOnly (transition.Reaches level)
          (order.runLevel transition transition.run (level.filter (wanted session)) :
            Action ω Unit) :=
        order.runLevel_callsOnly fun component listed =>
          ⟨component, (List.mem_filter.mp listed).1, rfl⟩
      rcases calls session with ⟨events, within⟩
      have along := along_needsSettled_of_reaches settled within.calls levelNeeds
      change ∃ events, session.Evolves events (finalState
        (order.runLevel transition transition.run (level.filter (wanted session)) >>= fun _ =>
          order.runLevels transition transition.run wanted rest) session) ∧ _
      cases ran : order.runLevel transition transition.run (level.filter (wanted session))
          session with
      | error failure after =>
          rw [finalState_of_error ran] at within
          rw [finalState_bind_of_error ran]
          exact ⟨events, within.evolves, along⟩
      | ok value between =>
          rw [finalState_of_ok ran] at within
          rw [finalState_bind_of_ok ran]
          have settledNow : ∀ other ∈ done ++ level, transition.Settled other between := by
            intro other otherMem
            rcases List.mem_append.mp otherMem with before | here
            · exact transition.survives_settled other
                (within.mono fun call ⟨component, _, same⟩ => ⟨component, same⟩)
                (settled other before)
            · exact (order.runWanted_settles judges session here).ok rfl ran
          rcases ih restStacked between settledNow with ⟨later, evolves, alongLater⟩
          refine ⟨events ++ later, within.evolves.trans evolves, along_append.mpr ⟨along, ?_⟩⟩
          rwa [← within.evolves.states]

variable {order : StartOrder} {components : List Component} {arranged : List (List Component)}
  {needs : Component → Component → Prop}

omit [Outside ω] in
theorem announce_eq (event : String) (arranged : List (List Component)) (session : Session ω) :
    ∃ entry, announce event arranged session = .ok () (session.record (.logged entry)) :=
  ⟨_, rfl⟩

theorem startAll_needsSettled (levelled : order.levelsOf components = .ok arranged)
    (stacked : Stacked needs [] arranged) (session : Session ω) :
    ∃ events, session.Evolves events (finalState (order.startAll components) session) ∧
      Along (NeedsSettled .start needs) session.stateOf events := by
  unfold startAll startAllBy
  rw [levelled]
  change ∃ events, session.Evolves events (finalState (announce "Starting units" arranged >>=
    fun _ => order.runLevels .start Transition.start.run _ arranged) session) ∧ _
  rcases announce_eq "Starting units" arranged session with ⟨entry, announced⟩
  rw [finalState_bind_of_ok announced]
  rcases order.runLevels_needsSettled not_isStarted_eq stacked (session.record (.logged entry))
    nofun with ⟨events, evolves, along⟩
  exact ⟨_, (Session.Evolves.logged session entry).trans evolves,
    needsSettled_of_not_isCall _ _ rfl, along⟩

theorem stopAll_needsSettled (levelled : order.levelsOf components = .ok arranged)
    (stacked : Stacked needs [] arranged.reverse) (session : Session ω) :
    ∃ events, session.Evolves events (finalState (order.stopAll components) session) ∧
      Along (NeedsSettled .stop needs) session.stateOf events := by
  unfold stopAll
  rw [levelled]
  change ∃ events, session.Evolves events (finalState (announce "Stopping units" arranged >>=
    fun _ => order.runLevels .stop Transition.stop.run _ arranged.reverse) session) ∧ _
  rcases announce_eq "Stopping units" arranged session with ⟨entry, announced⟩
  rw [finalState_bind_of_ok announced]
  rcases order.runLevels_needsSettled (fun _ _ => rfl) stacked (session.record (.logged entry))
    nofun with ⟨events, evolves, along⟩
  exact ⟨_, (Session.Evolves.logged session entry).trans evolves,
    needsSettled_of_not_isCall _ _ rfl, along⟩

end StartOrder

end ShardFleet
