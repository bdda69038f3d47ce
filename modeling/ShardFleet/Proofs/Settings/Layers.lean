import ShardFleet.Cluster.Configured
import ShardFleet.Markup.Content
import ShardFleet.Proofs.Settings.Overrides

/-!
# Precedence of the layers

Loaded settings are the defaults, the file laid over them, and the overrides over both. At the key
of an override of which the variable is set they hold what that parses to, whatever the layers below
have there; at a key apart from all of these they hold what the file laid over the defaults does.
A shape takes each of its fields from such a key.
-/

namespace ShardFleet

namespace ClusterShape

/-- A field of a shape, with the key in the settings that it comes from. -/
structure Field where
  key : String
  read : ClusterShape → Value

def fields : List Field := [
  ⟨"cluster.shards", (·.shardCount)⟩,
  ⟨"cluster.replicas", (·.replicaCount)⟩,
  ⟨"cluster.routers", (·.routerCount)⟩,
  ⟨"cluster.namespace_prefix", (·.namespacePrefix)⟩,
  ⟨"cluster.router_prefix", (·.routerPrefix)⟩,
  ⟨"cluster.max_workers", (·.workers)⟩,
  ⟨"admin.server_selection_timeout_ms", (·.selectionTimeout)⟩,
  ⟨"membership.poll_interval_ms", (·.membership.interval)⟩,
  ⟨"membership.timeout_ms", (·.membership.timeout)⟩]

variable {field : Field}

/-- A shape has no other fields. -/
theorem eq_of_fields {shape other : ClusterShape}
    (same : ∀ field ∈ fields, field.read shape = field.read other) : shape = other := by
  rcases shape with ⟨_, _, _, _, _, _, _, ⟨_, _⟩⟩
  rcases other with ⟨_, _, _, _, _, _, _, ⟨_, _⟩⟩
  simpa [fields] using same

/-- The default of a field is the one that it has in a shape of which nothing is said. -/
theorem read_ofSettings (settings : Settings) (among : field ∈ fields) :
    field.read (ofSettings settings) = settings.get field.key (field.read {}) := by
  revert field
  simp [fields, ofSettings]

theorem read_default_standsAlone (among : field ∈ fields) : (field.read {}).StandsAlone := by
  revert field
  simp [fields, Value.StandsAlone, Value.replaceKept]

end ClusterShape

namespace Settings

variable {loader : Markup.Loader} {files : Files} {environment : Environment} {file : Value}
  {settings lower merged : Settings} {key : String} {fallback : Value}

/-- What settings hold at a dotted key; the fallback is for a key that nothing stands at. -/
def heldOr (settings : Settings) (key : String) (fallback : Value) : Value :=
  match settings.content.lookup? (pathOf key) with
  | some held => settings.shelf.unfold held
  | none => fallback

theorem get_eq_heldOr (alone : fallback.StandsAlone) :
    settings.get key fallback = settings.heldOr key fallback := by
  rw [get, heldOr]
  rcases settings.content.lookup? (pathOf key) with _ | held
  · exact settings.shelf.unfold_of_standsAlone alone
  · rfl

/-! ## The file -/

/-- What a file lays over settings with so many collections: nothing if no file is named or its
value is vacant, and else its entries, with the collections that they refer to. -/
inductive FileLayer (loader : Markup.Loader) (files : Files) (file : Value) (first : Nat) :
    Mapping → Shelf → Prop
  | unnamed (unnamed : file.isVacant) : FileLayer loader files file first .empty #[]
  | vacant {chars : List Char} (read : files.readNamed file = .ok chars)
      (holds : Markup.Document.read loader first chars = .ok .vacant) :
      FileLayer loader files file first .empty #[]
  | settings {chars : List Char} {entries : Mapping} {shelf : Shelf}
      (read : files.readNamed file = .ok chars)
      (holds : Markup.Document.read loader first chars = .ok (.settings entries shelf)) :
      FileLayer loader files file first entries shelf

theorem lay_nothing (settings : Settings) : settings.lay .empty #[] = settings := by
  rw [lay, Mapping.merge, Array.append_empty]

theorem mergeFile_eq_ok (ran : lower.mergeFile loader files file = .ok merged) :
    ∃ entries shelf, FileLayer loader files file lower.shelf.size entries shelf ∧
      merged = lower.lay entries shelf := by
  unfold mergeFile at ran
  split at ran
  · next chars read =>
    unfold mergeDocument at ran
    split at ran
    · next holds => exact ⟨_, _, .vacant read holds, (Except.ok.inj ran).symm⟩
    · next holds => exact ⟨_, _, .settings read holds, (Except.ok.inj ran).symm⟩
    · contradiction
    · contradiction
  · contradiction

/-! ## The environment over both -/

theorem overrides_pairwise : overrides.Pairwise Override.Apart := by decide +kernel

/-- The key of a field is the one of an override or apart from it. -/
theorem eq_or_apart_of_field {field : ClusterShape.Field} (among : field ∈ ClusterShape.fields)
    {override : Override} (there : override ∈ overrides) :
    override.key = field.key ∨ Apart (pathOf field.key) (pathOf override.key) := by
  revert override
  revert field
  decide +kernel

/-- How an environment takes precedence over settings. -/
structure Prevails (environment : Environment) (merged settings : Settings) : Prop where
  /-- The key of a variable that is set reads back as what the variable parses to. -/
  overridden : ∀ override ∈ overrides, ∀ raw, environment override.name = some raw →
    ∃ value, override.parse raw = .ok value ∧ ∀ fallback, settings.get override.key fallback = value
  /-- Any key apart from all of these reads as before. The fallback is a value that the caller brings
  along, so it refers to nothing in the settings. -/
  elsewhere : ∀ key fallback, fallback.StandsAlone →
    (∀ override ∈ overrides, environment override.name ≠ none →
      Apart (pathOf key) (pathOf override.key)) →
    settings.get key fallback = merged.heldOr key fallback
  /-- The overrides can be processed in any other order. -/
  anyOrder : ∀ table, table.Perm overrides →
    ∃ other, merged.override environment table = .ok other ∧ settings.Reorders other
  /-- A field of the shape is what the override of its key gives, or what stands at the key. -/
  fields : ∀ field ∈ ClusterShape.fields,
    (∀ override ∈ overrides, override.key = field.key → ∀ raw, environment override.name = some raw →
      override.parse raw = .ok (field.read (.ofSettings settings))) ∧
    ((∀ override ∈ overrides, override.key = field.key → environment override.name = none) →
      field.read (.ofSettings settings) = merged.heldOr field.key (field.read {}))

theorem override_get (ran : merged.override environment overrides = .ok settings)
    {override : Override} (among : override ∈ overrides) {raw : String}
    (given : environment override.name = some raw) :
    ∃ value, override.parse raw = .ok value ∧
      ∀ fallback, settings.get override.key fallback = value := by
  rcases override_lookup?_self overrides_pairwise among given ran with ⟨value, parsed, found⟩
  refine ⟨value, parsed, fun fallback => ?_⟩
  rw [get, found]
  exact settings.shelf.unfold_of_standsAlone (Override.parse_standsAlone parsed)

theorem override_get_of_apart (ran : merged.override environment overrides = .ok settings)
    (alone : fallback.StandsAlone)
    (apart : ∀ override ∈ overrides, environment override.name ≠ none →
      Apart (pathOf key) (pathOf override.key)) :
    settings.get key fallback = merged.heldOr key fallback := by
  rw [← get_eq_heldOr alone, get, get, override_shelf ran, override_lookup?_of_apart apart ran]

theorem override_prevails (ran : merged.override environment overrides = .ok settings) :
    Prevails environment merged settings where
  overridden _ among _ given := override_get ran among given
  elsewhere _ _ alone apart := override_get_of_apart ran alone apart
  anyOrder _ perm := override_perm perm.symm overrides_pairwise ran
  fields field among := by
    rw [ClusterShape.read_ofSettings settings among]
    constructor
    · intro override there same raw given
      rcases override_get ran there given with ⟨value, parsed, reads⟩
      rw [parsed, ← same, reads]
    · intro unset
      refine override_get_of_apart ran (ClusterShape.read_default_standsAlone among) ?_
      intro override there given
      rcases eq_or_apart_of_field among there with same | apart
      · exact absurd (unset override there same) given
      · exact apart

/-- Loading takes the defaults, lays the file over them, and the environment prevails over both. -/
theorem load_layered {defaults : Defaults}
    (loaded : load loader files environment defaults file = .ok settings) :
    ∃ lower entries shelf, ofDefaults loader files defaults = .ok lower ∧
      FileLayer loader files file lower.shelf.size entries shelf ∧
      Prevails environment (lower.lay entries shelf) settings := by
  unfold load at loaded
  rcases based : ofDefaults loader files defaults with failure | lower
  · simp [based, bind, Except.bind] at loaded
  · simp only [based, bind, Except.bind] at loaded
    by_cases unnamed : file.isVacant
    · simp only [unnamed, if_true, pure, Except.pure] at loaded
      refine ⟨lower, _, _, rfl, .unnamed unnamed, ?_⟩
      rw [lay_nothing]
      exact override_prevails loaded
    · simp only [unnamed] at loaded
      rcases ran : lower.mergeFile loader files file with failure | merged
      · simp [ran] at loaded
      · rcases mergeFile_eq_ok ran with ⟨entries, shelf, layer, rfl⟩
        rw [ran] at loaded
        exact ⟨lower, entries, shelf, rfl, layer, override_prevails loaded⟩

/-- A file that has another number of shards, and null for that of the routers. -/
def differingFiles : Files :=
  { contents :=
      [(["tmp", "", "cluster.yaml"], "cluster:\n  shards: 4\n  routers: null\n".toList)] }

def onlyShards : Environment := fun name =>
  if name = "SHARDED_CLUSTER_SHARDS" then some "3" else none

/-- The variable prevails over file and defaults, and the null of the file over the defaults. -/
theorem load_layered_differing :
    ∃ settings, load Markup.loader differingFiles onlyShards .packaged (.text "cluster.yaml") =
        .ok settings ∧
      settings.get "cluster.shards" .null = .int 3 ∧
      (ClusterShape.ofSettings settings).shardCount = .int 3 ∧
      (ClusterShape.ofSettings settings).routerCount.isNull := by
  have runs : (load Markup.loader differingFiles onlyShards .packaged
      (.text "cluster.yaml")).toOption.any
        (fun settings => (ClusterShape.ofSettings settings).routerCount.isNull) := by
    decide +kernel
  rcases loaded : load Markup.loader differingFiles onlyShards .packaged (.text "cluster.yaml") with
    failure | settings
  · rw [loaded] at runs
    contradiction
  · rw [loaded] at runs
    rcases load_layered loaded with ⟨lower, entries, shelf, -, -, prevails⟩
    rcases prevails.overridden ⟨"SHARDED_CLUSTER_SHARDS", "cluster.shards", .integer⟩
        List.mem_cons_self "3" rfl with ⟨value, parsed, reads⟩
    have three : Text.integer? "3" = some 3 := by decide +kernel
    have same : .int 3 = value := by simpa [Override.parse, three] using parsed
    subst same
    exact ⟨settings, rfl, reads .null, reads (.int 1), runs⟩

end Settings

end ShardFleet
