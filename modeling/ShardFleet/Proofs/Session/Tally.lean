import Mathlib.Data.List.Perm.Basic
import ShardFleet.Proofs.Session.Calls

/-!
# How often handles go up and down

Only a component that is not started goes up, and only one that is started goes down. So the number
of times that a component went up exceeds the number of times that it went down by one as long as it
is started, and otherwise the two are equal.
-/

namespace ShardFleet

namespace Event

/-- The component whose handle came up. -/
def broughtUp? : Event → Option Component
  | .called (.start component) (.ok _) => some component
  | _ => none

def broughtDown? : Event → Option Component
  | .called (.stop component) (.ok _) => some component
  | _ => none

end Event

variable {states : States} {events : List Event} {component : Component}

theorem started_of_statesAfter (started : statesAfter states events component = .started) :
    states component = .started ∨ .called (.start component) (.ok ()) ∈ events := by
  by_cases member : .called (.start component) (.ok ()) ∈ events
  · exact Or.inr member
  · have kept : ∀ now, ∀ event ∈ events, now component ≠ .started →
        event.change now component ≠ .started := by
      intro now event eventMem idle
      cases event with
      | called call answer =>
          cases call <;> cases answer <;> try exact idle
          case start.ok other value =>
            have different : component ≠ other := by
              rintro rfl
              exact member eventMem
            rw [Event.change, Function.update_of_ne different]
            exact idle
          case stop.ok other value =>
            rw [Event.change, Function.update_apply]
            split
            · exact nofun
            · exact idle
      | logged entry => exact idle
      | pooled workers => exact idle
    refine Or.inl (Classical.byContradiction fun idle => ?_)
    exact (along_of_preserved (fun now => now component ≠ .started) idle kept).2 started

theorem count_brought_step (component : Component) {event : Event}
    (orderly : event.IsOrderly states) :
    event.broughtUp?.toList.count component +
        (if states component = .started then 1 else 0) =
      event.broughtDown?.toList.count component +
        (if event.change states component = .started then 1 else 0) := by
  cases event with
  | called call answer =>
      cases call <;> cases answer <;> try rfl
      case start.ok other value =>
        by_cases same : other = component
        · subst same
          have idle : states other ≠ .started := orderly
          simp [Event.broughtUp?, Event.broughtDown?, Event.change, idle]
        · simp [Event.broughtUp?, Event.broughtDown?, Event.change, same,
            Function.update_of_ne (Ne.symm same)]
      case stop.ok other value =>
        by_cases same : other = component
        · subst same
          have started : states other = .started := orderly
          simp [Event.broughtUp?, Event.broughtDown?, Event.change, started]
        · simp [Event.broughtUp?, Event.broughtDown?, Event.change, same,
            Function.update_of_ne (Ne.symm same)]
  | logged entry => rfl
  | pooled workers => rfl

theorem count_brought (component : Component) (orderly : Along Event.IsOrderly states events) :
    (events.filterMap Event.broughtUp?).count component +
        (if states component = .started then 1 else 0) =
      (events.filterMap Event.broughtDown?).count component +
        (if statesAfter states events component = .started then 1 else 0) := by
  induction events generalizing states with
  | nil => rfl
  | cons event rest ih =>
      have step := count_brought_step component orderly.1
      have later := ih orderly.2
      have head (part : Event → Option Component) :
          (event :: rest).filterMap part = (part event).toList ++ rest.filterMap part := by
        rw [List.filterMap_cons]
        cases part event <;> rfl
      rw [head, head, List.count_append, List.count_append, statesAfter_cons]
      omega

/-- Where no component is started before or after, handles went down as often as they came up. -/
theorem broughtUp_perm_broughtDown (orderly : Along Event.IsOrderly neverStarted events)
    (idle : ∀ component, statesAfter neverStarted events component ≠ .started) :
    (events.filterMap Event.broughtUp?).Perm (events.filterMap Event.broughtDown?) := by
  rw [List.perm_iff_count]
  intro component
  have counted := count_brought component orderly
  simpa [neverStarted, idle component] using counted

end ShardFleet
