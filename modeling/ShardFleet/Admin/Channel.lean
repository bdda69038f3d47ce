import ShardFleet.Session.Basic

/-!
# Admin channels

A channel to the admin namespace is open for the length of one operation and is closed on every
exit; a failure to close replaces the outcome of the operation. A channel is either supplied by the
world outside or is a client of the database of our own, with a limit on the time to select a
server; a client logs the commands that the database fails.
-/

namespace ShardFleet

variable {ω : Type} {α : Type}

/-- Runs the body between an opening and a closing. The closing runs whether or not the body fails;
if the opening fails, neither runs. -/
def between {σ : Type} (opening closing : EStateM Failure σ Unit) (body : EStateM Failure σ α) :
    EStateM Failure σ α := do
  opening
  let outcome ← attempt body
  closing
  conclude outcome

/-- Who provides the channels of a cluster. -/
inductive ChannelSource where
  | supplied
  | client
deriving DecidableEq, Repr

/-- A command from a name, at most one argument and further fields. The argument can be given as the
field `value` too, but not twice, and it is one if it is not given. -/
def AdminCommand.ofArguments (name : Value) (arguments : List Value)
    (fields : List (String × Value)) : Except Failure AdminCommand :=
  let others := fields.filter fun field => field.1 != "value"
  if fields.any fun field => field.1 == "name" || field.1 == "self" then .error .wrongKind
  else
    match arguments, fields.lookup "value" with
    | [], given => .ok ⟨name, given.getD (.int 1), others⟩
    | [argument], none => .ok ⟨name, argument, others⟩
    | _, _ => .error .wrongKind

/-- A way to reach the admin namespace. -/
inductive Channel where
  | supplied
  | client (selectionTimeout : Value)

namespace Channel

variable [Outside ω]

def openAt (channel : Channel) (address : String) : Action ω Unit :=
  match channel with
  | .supplied => Action.perform (.openChannel address)
  | .client selectionTimeout => Action.perform (.connect (.text address) selectionTimeout)

def close (channel : Channel) : Action ω Unit :=
  match channel with
  | .supplied => Action.perform .closeChannel
  | .client _ => Action.perform .disconnect

/-- Runs a command through a client; a failure that the database reports is logged. -/
def commandThroughClient (command : AdminCommand) : Action ω Value := do
  match ← attempt (Action.perform (.command command)) with
  | .ok response => return response
  | .error failure =>
      if failure.isDatabase then
        Action.log .error "Admin command failed"
          [("command", command.name), ("error", .text failure.message)]
      throw failure

def command (channel : Channel) (command : AdminCommand) : Action ω Value :=
  match channel with
  | .supplied => Action.perform (.command command)
  | .client _ => commandThroughClient command

/-- Runs an operation on the channel, opened at an address. -/
def during (channel : Channel) (address : String) (operation : Action ω α) : Action ω α :=
  between (channel.openAt address) channel.close operation

end Channel

/-- A client that is opened and closed by hand. The address is passed on as it was given. -/
structure ClientChannel where
  address : Value
  selectionTimeout : Value := .int 30000
  isOpen : Bool := false

namespace ClientChannel

variable [Outside ω]

/-- Connects a new client, also while another one is connected; that one is then never closed. -/
def enter (channel : ClientChannel) : Action ω ClientChannel := do
  Action.perform (.connect channel.address channel.selectionTimeout)
  return { channel with isOpen := true }

def leave (channel : ClientChannel) : Action ω ClientChannel := do
  if channel.isOpen then
    Action.perform .disconnect
  return { channel with isOpen := false }

def command (channel : ClientChannel) (command : AdminCommand) : Action ω Value :=
  if channel.isOpen then Channel.commandThroughClient command
  else throw .channelNotOpen

/-- Runs commands one after another while the client is open. -/
def commandAll (channel : ClientChannel) : List AdminCommand → Action ω (List Value)
  | [] => return []
  | next :: rest => do
      let response ← channel.command next
      return response :: (← channel.commandAll rest)

/-- Runs commands on a client opened for them and closed after them. -/
def commandDuring (channel : ClientChannel) (commands : List AdminCommand) :
    Action ω (List Value) := do
  let entered ← channel.enter
  let outcome ← attempt (entered.commandAll commands)
  let _ ← entered.leave
  conclude outcome

end ClientChannel

end ShardFleet
