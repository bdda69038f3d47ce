import ShardFleet.Markup.Document
import ShardFleet.Settings.Basic
import ShardFleet.Settings.Files
import ShardFleet.Text.Integer

/-!
# Layers of settings

Settings are loaded in layers, each laid over the one before: the defaults, a file, and the
variables of the environment. What the text of a file stands for is left to a loader. A variable of
the environment overrides one dotted key; most of them have to be integers.
-/

namespace ShardFleet

namespace Settings

/-- The defaults that come with the library. -/
def packaged : Mapping :=
  .ofFields [
    ("cluster", .mapping (.ofFields [
      ("shards", .int 1),
      ("replicas", .int 1),
      ("routers", .int 1),
      ("namespace_prefix", .text "test-mongo"),
      ("router_prefix", .text "test-mongos"),
      ("max_workers", .null)])),
    ("membership", .mapping (.ofFields [
      ("poll_interval_ms", .int 1000),
      ("timeout_ms", .int 30000)])),
    ("admin", .mapping (.ofFields [("server_selection_timeout_ms", .int 30000)])),
    ("logging", .mapping (.ofFields [
      ("level", .text "INFO"),
      ("format", .text "console"),
      ("output", .text "stderr")]))]

/-- The two kinds of override. -/
inductive OverrideKind where
  | integer
  | text
deriving DecidableEq, Repr

structure Override where
  name : String
  key : String
  kind : OverrideKind
deriving DecidableEq, Repr

def overrides : List Override := [
  ⟨"SHARDED_CLUSTER_SHARDS", "cluster.shards", .integer⟩,
  ⟨"SHARDED_CLUSTER_REPLICAS", "cluster.replicas", .integer⟩,
  ⟨"SHARDED_CLUSTER_ROUTERS", "cluster.routers", .integer⟩,
  ⟨"SHARDED_CLUSTER_POLL_INTERVAL_MS", "membership.poll_interval_ms", .integer⟩,
  ⟨"SHARDED_CLUSTER_TIMEOUT_MS", "membership.timeout_ms", .integer⟩,
  ⟨"LOG_LEVEL", "logging.level", .text⟩]

/-- The value that an override gives its key. -/
def Override.parse (override : Override) (raw : String) : Except Failure Value :=
  match override.kind with
  | .text => .ok (.text raw)
  | .integer =>
      match Text.integer? raw with
      | some number => .ok (.int number)
      | none => .error (.misconfigured (.badOverride override.name raw))

/-- The variables of an environment. -/
abbrev Environment := String → Option String

/-- Applies the overrides of which the variable is set, in order. -/
def override (environment : Environment) : List Override → Settings → Except Failure Settings
  | [], settings => .ok settings
  | next :: rest, settings =>
      match environment next.name with
      | none => settings.override environment rest
      | some raw =>
          match next.parse raw with
          | .error failure => .error failure
          | .ok value =>
              match settings.set? next.key value with
              | .error failure => .error failure
              | .ok changed => changed.override environment rest

/-! ## Files -/

section loader

variable (loader : Markup.Loader)

/-- Lays a document over the settings. A document whose value is vacant changes nothing. -/
def mergeDocument (settings : Settings) (chars : List Char) : Except Failure Settings :=
  match Markup.Document.read loader settings.shelf.size chars with
  | .ok .vacant => settings.merge? (.mapping .empty)
  | .ok (.settings entries shelf) => .ok (settings.lay entries shelf)
  | .ok .unsuitable => .error .noFields
  | .error failure => .error failure

/-- Lays the file that a value names over the settings. -/
def mergeFile (settings : Settings) (files : Files) (name : Value) : Except Failure Settings :=
  match files.readNamed name with
  | .ok chars => settings.mergeDocument loader chars
  | .error failure => .error failure

/-- A change by its name and arguments, which have to fit. A key that is no text has no parts. -/
def changeWith (settings : Settings) (files : Files) :
    String → List Value → Except Failure Settings
  | "set", [.text key, value] => settings.set? key value
  | "set", [_, _] => .error .noFields
  | "merge", [overrides] => settings.merge? overrides
  | "load_file", [name] => settings.mergeFile loader files name
  | _, _ => .error .wrongKind

/-- Where the defaults come from. A file that is missing holds none, and only a text can name it. -/
inductive Defaults where
  | packaged
  | none
  | file (name : Value)

def ofDefaults (files : Files) (defaults : Defaults) : Except Failure Settings :=
  match defaults with
  | .packaged => .ok { content := packaged }
  | .none => .ok {}
  | .file (.text name) =>
      match files.holds name with
      | .ok true => ({} : Settings).mergeFile loader files (.text name)
      | .ok false => .ok {}
      | .error failure => .error failure
  | .file _ => .error .wrongKind

/-- Loads settings: the defaults, the file unless its name is vacant, and the environment over both.
-/
def load (files : Files) (environment : Environment) (defaults : Defaults)
    (file : Value) : Except Failure Settings := do
  let base ← ofDefaults loader files defaults
  let merged ← if file.isVacant then pure base else base.mergeFile loader files file
  merged.override environment overrides

end loader

end Settings

end ShardFleet
