import ShardFleet.Logging.Console
import ShardFleet.Session.Basic
import ShardFleet.Settings.Basic
import ShardFleet.Text.Capital

/-!
# Logging

Logging is set up with a level, a format and an output. An entry is written if its level is at
least as severe as the one set, as an entry of fields in the format `json` and for the eye in
any other; the latter is coloured unless it goes to the standard output. Every entry carries
the name of the application.
-/

namespace ShardFleet

mutual

/-- A value as it is read back from an entry of fields: undefined numbers are all the same there. -/
def Value.asRead : Value → Value
  | .float number => .float (if number.isUndefined then .quiet false else number)
  | .list items => .list (Value.asReadAll items)
  | .mapping entries => .mapping entries.asRead
  | value => value

def Value.asReadAll : List Value → List Value
  | [] => []
  | item :: rest => item.asRead :: Value.asReadAll rest

def Mapping.asRead : Mapping → Mapping
  | .empty => .empty
  | .entry key value older => .entry key value.asRead older.asRead

end

namespace Logging

def application : String := "shardedcluster"

/-- An entry with the name of the application. -/
def tagged (entry : Mapping) : Mapping := entry.insert (.text "app") (.text application)

/-- The same for any value; only a mapping can be an entry. -/
def tagged? : Value → Except Failure Mapping
  | .mapping entry => .ok (tagged entry)
  | _ => .error .wrongKind

/-- The weight of a level by its name, in whatever case. Two words are known that are no levels, one
for a text and one for a table. -/
def levelOf (name : String) : Except Failure Nat :=
  match Text.capitals name with
  | "DEBUG" => .ok 10
  | "INFO" => .ok 20
  | "WARN" => .ok 30
  | "WARNING" => .ok 30
  | "ERROR" => .ok 40
  | "CRITICAL" => .ok 50
  | "FATAL" => .ok 50
  | "NOTSET" => .ok 0
  | "BASIC_FORMAT" => .error .levelIsText
  | "_STYLES" => .error .wrongKind
  | _ => .error .unknownLevel

inductive Output where
  | stdout
  | stderr
deriving DecidableEq, Repr

structure Setup where
  level : Nat
  asFields : Bool
  output : Output
deriving DecidableEq, Repr

def defaultLevel : Value := .text "INFO"

def defaultFormat : Value := .text "console"

def defaultOutput : Value := .text "stderr"

/-- A setup from values as configured. Only the level may be wrong; a level that is no text has no
name. -/
def configure (level format output : Value) : Except Failure Setup :=
  match level with
  | .text name => do
      let weight ← levelOf name
      return {
        level := weight
        asFields := format.isText "json"
        output := if output.isText "stdout" then .stdout else .stderr }
  | _ => .error .noFields

/-- A setup from arguments by name. One that is not given has its default,
and there are no others. -/
def configureWith (arguments : Mapping) : Except Failure Setup :=
  if arguments.knowsOnly ["log_level", "log_format", "log_output"] then
    configure ((arguments.field? "log_level").getD defaultLevel)
      ((arguments.field? "log_format").getD defaultFormat)
      ((arguments.field? "log_output").getD defaultOutput)
  else .error .wrongKind

def configureFrom (settings : Settings) : Except Failure Setup :=
  configure (settings.get "logging.level" defaultLevel) (settings.get "logging.format" defaultFormat)
    (settings.get "logging.output" defaultOutput)

/-- A line that is written: an entry of fields, without its time, or a line for the eye. -/
inductive Line where
  | fields (entry : Mapping)
  | readable (coloured : Bool)

/-- The name that a logger is shown by. One that is given nothing is the root of all; else it
has to be given a text. -/
def loggerName (name : Value) : Except Failure String :=
  match name with
  | .text chars => .ok (if chars.isEmpty then "root" else chars)
  | other => if other.isVacant then .ok "root" else .error .wrongKind

/-- A way to log: a level, and whether the failure under way is written after the entry. -/
structure Method where
  level : LogLevel
  showsFailure : Bool := false
deriving DecidableEq, Repr

def Method.named? : String → Option Method
  | "debug" => some ⟨.debug, false⟩
  | "info" => some ⟨.info, false⟩
  | "warning" => some ⟨.warning, false⟩
  | "warn" => some ⟨.warning, false⟩
  | "error" => some ⟨.error, false⟩
  | "critical" => some ⟨.critical, false⟩
  | "fatal" => some ⟨.critical, false⟩
  | "exception" => some ⟨.error, true⟩
  | _ => none

/-- What is to be logged. An event that is null is none. -/
structure Message where
  logger : Value
  method : String
  event : Value
  context : Mapping

/-- The names that a context cannot have, as they say something else. -/
def reservedNames : List String := ["self", "event", "method_name"]

/-- The name in a context of the record that the logger's name is taken from; no value has one. -/
def recordName : String := "_record"

/-- The names in a context that ask for the failure or the call under way and are no fields. -/
def requestNames : List String := ["exc_info", "stack_info"]

/-- The fields of an entry: its context, the event, and what every entry carries. -/
def fieldsOf (logger : String) (level : LogLevel) (message : Message) : Mapping :=
  let context := requestNames.foldl (fun context name => context.without (.text name))
    message.context
  let described :=
    match message.event with
    | .null => context
    | event => context.insert (.text "event") event
  (tagged ((described.insert (.text "level") (.text level.toText)).insert
    (.text "logger") (.text logger))).insert (.text "timestamp") (.bool true)

/-- The lines that a message gives, if its level is severe enough. There is no failure under way, so
a line that shows it has no colours. -/
def linesOf (setup : Setup) (message : Message) : Except Failure (List Line) := do
  let logger ← loggerName message.logger
  match Method.named? message.method with
  | none => throw .noFields
  | some method =>
      if reservedNames.any fun name => (message.context.field? name).isSome then throw .wrongKind
      if !((message.context.field? recordName).getD .null).isNull then throw .noFields
      let entry := fieldsOf logger method.level message
      let lines ←
        if setup.asFields then
          pure (.fields entry.asRead :: if method.showsFailure then [.readable false] else [])
        else do
          let text ← Console.textOf (setup.output != .stdout) entry
          let shown := if method.showsFailure then Console.withNoFailure text else text
          pure ((Console.colouredLines shown).map .readable)
      return if method.level.severity < setup.level then [] else lines

/-- The lines of messages up to the first one that fails, and its failure. -/
def linesOfAll (setup : Setup) : List Message → List Line × Option Failure
  | [] => ([], none)
  | message :: rest =>
      match linesOf setup message with
      | .ok lines =>
          let (others, failure) := linesOfAll setup rest
          (lines ++ others, failure)
      | .error failure => ([], some failure)

end Logging

end ShardFleet
