import ShardFleet.Proofs.Component.ShownAddress
import ShardFleet.Proofs.Session.ChannelCount
import ShardFleet.Proofs.Session.Traces

/-!
# Channels are held one at a time

A channel is open for the length of one body. `Channel.During` gives the calls of an operation on a
channel, from those of its body: the opening, and if it succeeds the body and the closing. For
`Channel.Visits` the address comes first, which may be missing. If all that the body calls needs a
channel, no call finds another number of channels open than it needs, and none is left open.
-/

namespace ShardFleet

variable {ω α β : Type}

/-! ## One channel -/

namespace Channel

/-- The opening of the channel, with its answer. -/
def opened (channel : Channel) (address : String) (answer : Except Failure Unit) : Event :=
  match channel with
  | .supplied => .called (.openChannel address) answer
  | .client selectionTimeout => .called (.connect (.text address) selectionTimeout) answer

def closed (channel : Channel) (answer : Except Failure Unit) : Event :=
  match channel with
  | .supplied => .called .closeChannel answer
  | .client _ => .called .disconnect answer

variable [Outside ω] {channel : Channel} {address : String} {answer : Except Failure Unit}
  {session after : Session ω}

theorem evolves_opened (opens : channel.openAt address session = conclude answer after) :
    session.Evolves [channel.opened address answer] after := by
  cases channel with
  | supplied =>
      rcases conclude_inj.mp (opens.symm.trans (Action.perform_eq _ session)) with ⟨rfl, rfl⟩
      exact session.evolves_answered rfl
  | client selectionTimeout =>
      rcases conclude_inj.mp (opens.symm.trans (Action.perform_eq _ session)) with ⟨rfl, rfl⟩
      exact session.evolves_answered rfl

theorem evolves_closed (closes : channel.close session = conclude answer after) :
    session.Evolves [channel.closed answer] after := by
  cases channel with
  | supplied =>
      rcases conclude_inj.mp (closes.symm.trans (Action.perform_eq _ session)) with ⟨rfl, rfl⟩
      exact session.evolves_answered rfl
  | client selectionTimeout =>
      rcases conclude_inj.mp (closes.symm.trans (Action.perform_eq _ session)) with ⟨rfl, rfl⟩
      exact session.evolves_answered rfl

end Channel

namespace Event

def isSending : Event → Bool
  | .called (.command _) _ => true
  | _ => false

/-- A channel has been opened. -/
def isOpening : Event → Bool
  | .called (.openChannel _) (.ok _) => true
  | .called (.connect _ _) (.ok _) => true
  | _ => false

theorem isCall_of_isSending {event : Event} (sending : event.isSending = true) :
    event.isCall = true := by
  cases event with
  | called call answer => rfl
  | _ => cases sending

theorem isCall_of_isOpening {event : Event} (opening : event.isOpening = true) :
    event.isCall = true := by
  cases event with
  | called call answer => rfl
  | _ => cases opening

end Event

/-- Of events that are calls nothing is lost in counting the calls alone. -/
theorem countP_filter_isCall {counted : Event → Bool} (events : List Event)
    (calls : ∀ event, counted event = true → event.isCall = true) :
    (events.filter Event.isCall).countP counted = events.countP counted := by
  rw [List.countP_filter]
  apply List.countP_congr
  intro event _
  simpa using calls event

namespace Channel

/-- The calls of a body on a channel. A failure to close the channel replaces the outcome. -/
inductive During (channel : Channel) (address : String)
    (kind : List Event → Except Failure α → Prop) : List Event → Except Failure α → Prop where
  | unopened (failure : Failure) :
      During channel address kind [channel.opened address (.error failure)] (.error failure)
  | closed {inside : List Event} {result : Except Failure α} (holds : kind inside result) :
      During channel address kind
        ([channel.opened address (.ok ())] ++ inside ++ [channel.closed (.ok ())]) result
  | unclosed {inside : List Event} {result : Except Failure α} (holds : kind inside result)
      (failure : Failure) :
      During channel address kind
        ([channel.opened address (.ok ())] ++ inside ++ [channel.closed (.error failure)])
        (.error failure)

theorem filter_opened (channel : Channel) (address : String) (answer : Except Failure Unit) :
    [channel.opened address answer].filter Event.isCall = [channel.opened address answer] := by
  cases channel <;> rfl

theorem filter_closed (channel : Channel) (answer : Except Failure Unit) :
    [channel.closed answer].filter Event.isCall = [channel.closed answer] := by
  cases channel <;> rfl

theorem During.restoreChannels {channel : Channel} {address : String}
    {kind : List Event → Except Failure α → Prop} {calls : List Event} {result : Except Failure α}
    (during : channel.During address kind calls result)
    (inside : ∀ calls result, kind calls result → CalledOnly Call.NeedsChannel calls) :
    RestoreChannels 0 calls := by
  have held {body : List Event} (needs : CalledOnly Call.NeedsChannel body)
      (answer : Except Failure Unit) :
      RestoreChannels 0
        ([channel.opened address (.ok ())] ++ body ++ [channel.closed answer]) := by
    have within := RestoreChannels.of_needsChannel needs
    have up : channelsAfter 0 [channel.opened address (.ok ())] = 1 := by cases channel <;> rfl
    have down : channelsAfter 1 [channel.closed answer] = 0 := by cases channel <;> rfl
    constructor
    · simp only [suitChannels_append, channelsAfter_append, up, within.restores]
      refine ⟨⟨?_, within.suits⟩, ?_⟩
      · cases channel <;> exact ⟨rfl, trivial⟩
      · cases channel <;> exact ⟨rfl, trivial⟩
    · simp only [channelsAfter_append, up, within.restores, down]
  cases during with
  | unopened failure => cases channel <;> exact ⟨⟨rfl, trivial⟩, rfl⟩
  | closed holds => exact held (inside _ _ holds) _
  | unclosed holds failure => exact held (inside _ _ holds) _

/-- A body that sends one command sends it if the channel has been opened, and only then. -/
theorem During.sends {channel : Channel} {address : String}
    {kind : List Event → Except Failure α → Prop} {calls : List Event} {result : Except Failure α}
    (during : channel.During address kind calls result)
    (once : ∀ inside result, kind inside result →
      inside.countP Event.isSending = 1 ∧ inside.countP Event.isOpening = 0) :
    calls.countP Event.isOpening ≤ 1 ∧
      calls.countP Event.isSending = calls.countP Event.isOpening := by
  have held {inside : List Event} {outcome : Except Failure α} (holds : kind inside outcome)
      (answer : Except Failure Unit) :
      ([channel.opened address (.ok ())] ++ inside ++ [channel.closed answer]).countP
          Event.isOpening = 1 ∧
        ([channel.opened address (.ok ())] ++ inside ++ [channel.closed answer]).countP
          Event.isSending = 1 := by
    rcases once _ _ holds with ⟨sends, opens⟩
    simp only [List.countP_append, sends, opens]
    cases channel <;> exact ⟨rfl, rfl⟩
  cases during with
  | unopened failure => cases channel <;> exact ⟨Nat.zero_le _, rfl⟩
  | closed holds =>
      rcases held holds (.ok ()) with ⟨opens, sends⟩
      exact ⟨Nat.le_of_eq opens, sends.trans opens.symm⟩
  | unclosed holds failure =>
      rcases held holds (.error failure) with ⟨opens, sends⟩
      exact ⟨Nat.le_of_eq opens, sends.trans opens.symm⟩

end Channel

namespace Action.Traces

variable [Outside ω] {channel : Channel} {address : String} {action : Action ω α}
  {kind : List Event → Except Failure α → Prop}

theorem openAt (channel : Channel) (address : String) :
    Traces (fun calls answer => calls = [channel.opened address answer])
      (channel.openAt address : Action ω Unit) := by
  intro session
  rcases exists_eq_conclude (channel.openAt address) session with ⟨answer, after, opens⟩
  exact ⟨_, answer, after, opens, Channel.evolves_opened opens, channel.filter_opened _ _⟩

theorem close (channel : Channel) :
    Traces (fun calls answer => calls = [channel.closed answer])
      (channel.close : Action ω Unit) := by
  intro session
  rcases exists_eq_conclude channel.close session with ⟨answer, after, closes⟩
  exact ⟨_, answer, after, closes, Channel.evolves_closed closes, channel.filter_closed _⟩

theorem during (inside : Traces kind action) :
    Traces (channel.During address kind) (channel.during address action) := by
  apply (openAt channel address).bind
  · rintro calls failure rfl
    exact .unopened failure
  · rintro calls value rfl
    apply inside.attempt.bind_of_returns
    intro calls outcome holds
    apply (close channel).bind
    · rintro closing failure rfl
      simpa using Channel.During.unclosed holds failure
    · rintro closing value rfl
      apply conclude
      simpa using Channel.During.closed holds

theorem command (channel : Channel) (sent : AdminCommand) :
    Traces (fun calls answer => calls = [.called (.command sent) answer])
      (channel.command sent : Action ω Value) := by
  have performs : Traces (fun calls answer => calls = [.called (.command sent) answer])
      (Action.perform (.command sent) : Action ω Value) := perform rfl
  cases channel with
  | supplied => exact performs
  | client selectionTimeout =>
      apply performs.attempt.bind_of_returns
      rintro calls outcome rfl
      cases outcome with
      | ok response => exact pure response rfl
      | error failure =>
          dsimp only
          split
          · exact log_bind (throw failure rfl)
          · exact throw failure rfl

end Action.Traces

/-! ## At the address that is shown -/

/-- The calls of an operation on a channel, which is opened at the address that is shown; without
one nothing is called. -/
inductive Channel.Visits (channel : Channel) (shown : Except Failure String)
    (kind : List Event → Except Failure α → Prop) : List Event → Except Failure α → Prop where
  | unaddressed {failure : Failure} (lacks : shown = .error failure) :
      Visits channel shown kind [] (.error failure)
  | addressed {address : String} {calls : List Event} {result : Except Failure α}
      (shows : shown = .ok address) (during : channel.During address kind calls result) :
      Visits channel shown kind calls result

theorem Channel.Visits.restoreChannels {channel : Channel} {shown : Except Failure String}
    {kind : List Event → Except Failure α → Prop} {calls : List Event} {result : Except Failure α}
    (visits : channel.Visits shown kind calls result)
    (inside : ∀ calls result, kind calls result → CalledOnly Call.NeedsChannel calls) :
    RestoreChannels 0 calls := by
  cases visits with
  | unaddressed lacks => exact .nil 0
  | addressed shows during => exact during.restoreChannels inside

end ShardFleet
