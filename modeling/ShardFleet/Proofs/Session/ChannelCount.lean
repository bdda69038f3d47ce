import Mathlib.Data.Int.Notation
import ShardFleet.Proofs.Session.Calls

/-!
# How many channels are open

Read from event to event, a journal tells how many channels are open at any time: one more once a
channel has been opened, and one less once one has been closed, also if the closing has failed. A
command, a wait and a closing need one open channel, and all other calls are made while none is
open.
-/

namespace ShardFleet

namespace Call

/-- A call that needs an open channel: a command, or a wait between two commands. -/
def NeedsChannel : Call → Prop
  | .command _ => True
  | .sleep _ => True
  | _ => False

/-- A call that has nothing to do with channels. -/
def IsApart : Call → Prop
  | .openChannel _ => False
  | .closeChannel => False
  | .connect _ _ => False
  | .disconnect => False
  | .command _ => False
  | .sleep _ => False
  | _ => True

/-- How many channels are open when a call is made. -/
def openChannels : Call → ℤ
  | .command _ => 1
  | .sleep _ => 1
  | .closeChannel => 1
  | .disconnect => 1
  | _ => 0

end Call

namespace Event

/-- How many channels are open after an event, with the number of those before it. -/
def countChannels (count : ℤ) : Event → ℤ
  | .called (.openChannel _) (.ok _) => count + 1
  | .called (.connect _ _) (.ok _) => count + 1
  | .called .closeChannel _ => count - 1
  | .called .disconnect _ => count - 1
  | _ => count

/-- An event that may happen while so many channels are open. -/
def SuitsChannels (count : ℤ) : Event → Prop
  | .called call _ => count = call.openChannels
  | _ => count = 0 ∨ count = 1

theorem SuitsChannels.zero_or_one {count : ℤ} {event : Event} (suits : event.SuitsChannels count) :
    count = 0 ∨ count = 1 := by
  cases event with
  | called call answer => cases call <;> first | exact Or.inl suits | exact Or.inr suits
  | logged entry => exact suits
  | pooled workers => exact suits

/-- What suits the channels that are open leaves at most one open. -/
theorem SuitsChannels.countChannels {count : ℤ} {event : Event}
    (suits : event.SuitsChannels count) :
    event.countChannels count = 0 ∨ event.countChannels count = 1 := by
  cases event with
  | called call answer =>
      rcases suits with rfl
      cases call <;> cases answer <;> first | exact Or.inl rfl | exact Or.inr rfl
  | logged entry => exact suits
  | pooled workers => exact suits

end Event

/-- How many channels are open after events, with the number of those before them. -/
def channelsAfter (count : ℤ) (events : List Event) : ℤ :=
  events.foldl Event.countChannels count

@[simp]
theorem channelsAfter_nil (count : ℤ) : channelsAfter count [] = count := rfl

@[simp]
theorem channelsAfter_cons (count : ℤ) (event : Event) (rest : List Event) :
    channelsAfter count (event :: rest) = channelsAfter (event.countChannels count) rest := rfl

@[simp]
theorem channelsAfter_append (count : ℤ) (first second : List Event) :
    channelsAfter count (first ++ second) = channelsAfter (channelsAfter count first) second := by
  simp [channelsAfter]

/-- Each event happens while the right number of channels is open. -/
def SuitChannels : ℤ → List Event → Prop
  | _, [] => True
  | count, event :: rest =>
      event.SuitsChannels count ∧ SuitChannels (event.countChannels count) rest

section SuitChannels

variable {count : ℤ} {first second events : List Event}

theorem suitChannels_append :
    SuitChannels count (first ++ second) ↔
      SuitChannels count first ∧ SuitChannels (channelsAfter count first) second := by
  induction first generalizing count with
  | nil => simp [SuitChannels]
  | cons event rest ih => simp [SuitChannels, ih, and_assoc]

/-- Only calls open and close channels. -/
theorem channelsAfter_filter (count : ℤ) (events : List Event) :
    channelsAfter count (events.filter Event.isCall) = channelsAfter count events := by
  induction events generalizing count with
  | nil => rfl
  | cons event rest ih => cases event <;> exact ih _

/-- Whatever is no call suits one channel as well as none. -/
theorem suitChannels_of_filter (few : count = 0 ∨ count = 1)
    (suits : SuitChannels count (events.filter Event.isCall)) : SuitChannels count events := by
  induction events generalizing count with
  | nil => trivial
  | cons event rest ih =>
      cases event with
      | called call answer => exact ⟨suits.1, ih suits.1.countChannels suits.2⟩
      | logged entry => exact ⟨few, ih few suits⟩
      | pooled workers => exact ⟨few, ih few suits⟩

end SuitChannels

/-- Events that suit the number of channels that are open before them, and leave it as it was. -/
structure RestoreChannels (count : ℤ) (events : List Event) : Prop where
  suits : SuitChannels count events
  restores : channelsAfter count events = count

namespace RestoreChannels

variable {count : ℤ} {first second events : List Event}

theorem nil (count : ℤ) : RestoreChannels count [] := ⟨trivial, rfl⟩

theorem append (front : RestoreChannels count first) (back : RestoreChannels count second) :
    RestoreChannels count (first ++ second) where
  suits := by
    rw [suitChannels_append, front.restores]
    exact ⟨front.suits, back.suits⟩
  restores := by rw [channelsAfter_append, front.restores, back.restores]

theorem of_filter (few : count = 0 ∨ count = 1)
    (calls : RestoreChannels count (events.filter Event.isCall)) :
    RestoreChannels count events where
  suits := suitChannels_of_filter few calls.suits
  restores := (channelsAfter_filter count events).symm.trans calls.restores

/-- Calls that suit a number of channels, and do not change it, suit it one after another. -/
theorem of_steady (few : count = 0 ∨ count = 1)
    (steady : ∀ call answer, .called call answer ∈ events →
      count = call.openChannels ∧ Event.countChannels count (.called call answer) = count) :
    RestoreChannels count events := by
  induction events with
  | nil => exact nil count
  | cons event rest ih =>
      have rest := ih fun call answer member => steady call answer (List.mem_cons_of_mem _ member)
      have here : RestoreChannels count [event] := by
        cases event with
        | called call answer =>
            rcases steady call answer List.mem_cons_self with ⟨suits, same⟩
            exact ⟨⟨suits, trivial⟩, same⟩
        | logged entry => exact ⟨⟨few, trivial⟩, rfl⟩
        | pooled workers => exact ⟨⟨few, trivial⟩, rfl⟩
      exact here.append rest

theorem of_apart (calls : CalledOnly Call.IsApart events) : RestoreChannels 0 events := by
  refine of_steady (Or.inl rfl) fun call answer member => ?_
  have apart := calls call answer member
  cases call <;> first | exact apart.elim | exact ⟨rfl, rfl⟩

theorem of_needsChannel (calls : CalledOnly Call.NeedsChannel events) :
    RestoreChannels 1 events := by
  refine of_steady (Or.inr rfl) fun call answer member => ?_
  have needs := calls call answer member
  cases call <;> first | exact needs.elim | exact ⟨rfl, rfl⟩

end RestoreChannels

/-- Channels are open one at a time, whatever is called finds none or one open as it needs, and none
is left open: each that was opened has been closed once. -/
structure KeepsChannels (events : List Event) : Prop where
  atMostOne : ∀ earlier, earlier <+: events →
    channelsAfter 0 earlier = 0 ∨ channelsAfter 0 earlier = 1
  calls : ∀ earlier call answer later, events = earlier ++ .called call answer :: later →
    channelsAfter 0 earlier = call.openChannels
  closed : channelsAfter 0 events = 0

theorem RestoreChannels.keepsChannels {events : List Event} (channels : RestoreChannels 0 events) :
    KeepsChannels events where
  atMostOne := by
    rintro earlier ⟨later, rfl⟩
    cases later with
    | nil => exact Or.inl (by simpa using channels.restores)
    | cons event later => exact (suitChannels_append.mp channels.suits).2.1.zero_or_one
  calls := by
    rintro earlier call answer later rfl
    exact (suitChannels_append.mp channels.suits).2.1
  closed := channels.restores

end ShardFleet
