import ShardFleet.Component.Basic
import ShardFleet.Text.Encoded
import ShardFleet.Value.Display

/-!
# Failures

Why an operation did not return. A failure names its cause; `Failure.message` words it. What the
world outside reports comes with its own words.
-/

namespace ShardFleet

/-- A call or a shape that the cluster cannot serve. -/
inductive Misconfiguration where
  | emptyGroup (name : Key)
  | tooFewRouters (count : Value)
  | released
  | noShards
  | noRouters
  | badOverride (name : String) (raw : String)
  | other (message : String)

/-- The kinds of failure that the world outside reports. An operation that the database refused is
also a database failure. -/
inductive ReportKind where
  | general
  | invalidValue
  | database
  | databaseOperation
deriving DecidableEq, Repr

/-- A value of a kind that its use does not allow. -/
inductive Mismatch where
  /-- Fields of something that has none. -/
  | noFields
  /-- A number, a sequence or a settable section was needed. -/
  | wrongKind
  /-- A number too large for a double, or an infinite one where a whole number was needed. -/
  | outOfRange
  /-- A key that is not there, or a word that is none of those known. -/
  | noSuchKey
  /-- A position outside a list or a text. -/
  | noSuchPosition
deriving DecidableEq, Repr

/-- What is wrong with a point in time. The distance from the common time is given in seconds. -/
inductive MomentFault where
  | year
  | month
  | day
  | hour
  | minute
  | second
  | offset (seconds : Int)
deriving DecidableEq, Repr

/-- Why nothing can be read at a place where there is something. -/
inductive FileFault where
  | isDirectory
  | notDirectory
  | nameTooLong
  /-- No file is open under the number given. -/
  | notOpen
deriving DecidableEq, Repr

/-- What goes on without end because it is part of itself. -/
inductive EndlessPart where
  /-- Sections inside sections. -/
  | collection
  /-- A text that a mapping is to stand for. -/
  | text
deriving DecidableEq, Repr

inductive Failure where
  | general (message : String)
  | misconfigured (cause : Misconfiguration)
  | cycle (names : List String)
  | membershipTimeout (description : Value) (elapsed : Int) (shard : Option ReplicaGroup)
  | reported (kind : ReportKind) (message : String)
  | channelNotOpen
  | emptyPool
  | undefinedElapsed
  | mismatch (cause : Mismatch)
  | fileMissing (name : String)
  /-- What the name leads to holds no text. -/
  | fileUnreadable (cause : FileFault)
  | embeddedNull
  /-- A text with halves of pairs that have no octets. -/
  | unencodable (halves : Text.HalfRun)
  | illegalVariableName
  | emptyVariableName
  /-- A file cannot be open under a number below zero. -/
  | negativeFileNumber
  | malformedDocument
  | endless (part : EndlessPart)
  | badMoment (fault : MomentFault)
  | badNumeral (base : Nat) (text : String)
  | badDecimal (text : String)
  | badCharacterCode
  | tooManyDigits (count : Nat)
  | integerTooLong
  | unknownLevel
  | levelIsText
  /-- A wait was given up before its outcome was known. -/
  | abandoned

namespace Misconfiguration

def message : Misconfiguration → String
  | .emptyGroup name => "Replica group " ++ name.display ++ " has no members"
  | .tooFewRouters count => "Cluster needs at least one router, got " ++ count.toText
  | .released => "Cluster has been stopped and its network released"
  | .noShards => "No shards to remove"
  | .noRouters => "Cannot build a connection string without routers"
  | .badOverride name raw => "Invalid value for " ++ name ++ ": " ++ Text.quoted raw
  | .other message => message

end Misconfiguration

namespace MomentFault

def message : MomentFault → String
  | .year => "year 0 is out of range"
  | .month => "month must be in 1..12"
  | .day => "day is out of range for month"
  | .hour => "hour must be in 0..23"
  | .minute => "minute must be in 0..59"
  | .second => "second must be in 0..59"
  | .offset seconds =>
      "offset must be a timedelta strictly between -timedelta(hours=24) and timedelta(hours=24), not " ++
        Text.timeSpan seconds ++ "."

end MomentFault

namespace Failure

/-- How a membership timeout is worded. -/
def timeoutMessage (elapsed description : String) : String :=
  "Timed out after " ++ elapsed ++ "ms waiting for " ++ description

/-- A quoted text, cut off after two hundred characters. -/
def quotedStart (text : String) : String := String.ofList ((Text.quoted text).toList.take 200)

/-- How a text that cannot be stored is worded. -/
def unencodableMessage (halves : Text.HalfRun) : String :=
  "'utf-8' codec can't encode " ++
    (if halves.stop = halves.start + 1 then
      "character '" ++ String.ofList (Text.escapedCode halves.first) ++ "' in position " ++
        Text.decimal halves.start
    else
      "characters in position " ++ Text.decimal halves.start ++ "-" ++
        Text.decimal (halves.stop - 1 : Nat)) ++
    ": surrogates not allowed"

/-- The failure of components that wait for each other. Their names go in code point order, and
what is no text has none. -/
def ofCycle (names : List Key) : Failure :=
  match names.mapM Key.name? with
  | some texts => .cycle (texts.mergeSort Text.precedes)
  | none => .mismatch .wrongKind

def message : Failure → String
  | .general message => message
  | .misconfigured cause => cause.message
  | .cycle names => "Dependency cycle between units: " ++ String.intercalate ", " names
  | .membershipTimeout description elapsed _ =>
      timeoutMessage (Text.decimal elapsed) description.toText
  | .reported _ message => message
  | .channelNotOpen => "Admin channel is not open"
  | .emptyPool => "max_workers must be greater than 0"
  | .undefinedElapsed => "cannot convert float NaN to integer"
  | .mismatch _ => ""
  | .fileMissing name => "[Errno 2] No such file or directory: " ++ Text.quoted name
  | .fileUnreadable _ => ""
  | .embeddedNull => "embedded null byte"
  | .unencodable halves => unencodableMessage halves
  | .illegalVariableName => "illegal environment variable name"
  | .emptyVariableName => ""
  | .negativeFileNumber => "negative file descriptor"
  | .malformedDocument => ""
  | .endless .collection => "maximum recursion depth exceeded while calling a Python object"
  | .endless .text => "maximum recursion depth exceeded"
  | .badMoment fault => fault.message
  | .badNumeral base text =>
      "invalid literal for int() with base " ++ Text.decimal base ++ ": " ++ quotedStart text
  | .badDecimal text => "could not convert string to float: " ++ Text.quoted text
  | .badCharacterCode => "chr() arg not in range(0x110000)"
  | .tooManyDigits count =>
      "Exceeds the limit (4300 digits) for integer string conversion: value has " ++
        Text.decimal count ++ " digits; use sys.set_int_max_str_digits() to increase the limit"
  | .integerTooLong =>
      "Exceeds the limit (4300 digits) for integer string conversion; " ++
        "use sys.set_int_max_str_digits() to increase the limit"
  | .unknownLevel => ""
  | .levelIsText => "Unknown level: '%(levelname)s:%(name)s:%(message)s'"
  | .abandoned => ""

def noFields : Failure := .mismatch .noFields

def wrongKind : Failure := .mismatch .wrongKind

def outOfRange : Failure := .mismatch .outOfRange

def noSuchKey : Failure := .mismatch .noSuchKey

def noSuchPosition : Failure := .mismatch .noSuchPosition

/-- Whether the database client reported it. -/
def isDatabase : Failure → Bool
  | .reported .database _ => true
  | .reported .databaseOperation _ => true
  | _ => false

/-- A membership timeout with the shard that it leaves behind; any other failure as it is. -/
def leaving (shard : ReplicaGroup) : Failure → Failure
  | .membershipTimeout description elapsed _ => .membershipTimeout description elapsed (some shard)
  | failure => failure

end Failure

end ShardFleet
