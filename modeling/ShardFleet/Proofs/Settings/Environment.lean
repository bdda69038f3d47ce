import ShardFleet.Proofs.Settings.Documents
import ShardFleet.Proofs.Settings.Layers
import ShardFleet.Proofs.Settings.Writing

/-!
# The environment over any files

Files leave settings of any shape, so an override can find something that is no section where it has
to set a key. It fits if that is not so and its text can be parsed. The keys of the overrides are
apart from each other: none of them makes another one fit, or no longer fit. So loading returns if
and only if all those that are set fit what the files have left, and else it fails by the first that
does not.
-/

namespace ShardFleet.Settings

namespace Override

variable {environment : Environment} {settings changed : Settings} {table : List Override}
  {override earlier later : Override} {raw : String} {value : Value} {failure : Failure}

/-- A text that a value of the kind of the override can be parsed from: any one for a text. -/
def Takes (override : Override) (raw : String) : Prop :=
  override.kind = .integer → (Text.integer? raw).isSome

/-- Something that is no section is in the way to the key. -/
def Blocked (override : Override) (settings : Settings) : Prop :=
  ∃ front, settings.content.Blocks (pathOf override.key) front

/-- The override can be applied, should its variable be set. -/
def Fits (environment : Environment) (override : Override) (settings : Settings) : Prop :=
  ∀ raw, environment override.name = some raw → override.Takes raw ∧ ¬override.Blocked settings

/-- How an override fails that does not fit. Its text is parsed before anything is set. -/
inductive Refuses (environment : Environment) (override : Override) (settings : Settings) :
    Failure → Prop
  | untaken {raw : String} (given : environment override.name = some raw)
      (numeric : override.kind = .integer) (bad : Text.integer? raw = none) :
      Refuses environment override settings (.misconfigured (.badOverride override.name raw))
  | blocked {raw : String} (given : environment override.name = some raw)
      (takes : override.Takes raw) (blocked : override.Blocked settings) :
      Refuses environment override settings .wrongKind

/-! ## One override -/

theorem parse_eq_error_iff :
    override.parse raw = .error failure ↔
      override.kind = .integer ∧ Text.integer? raw = none ∧
        failure = .misconfigured (.badOverride override.name raw) := by
  unfold parse
  rcases override.kind
  · rcases Text.integer? raw <;> simp [eq_comm]
  · simp

theorem takes_iff : override.Takes raw ↔ ∃ value, override.parse raw = .ok value := by
  unfold Takes parse
  rcases override.kind
  · rcases Text.integer? raw <;> simp
  · simp

/-- In the way to a key of two parts only its first part can be. -/
theorem assign_eq_error_iff (two : (pathOf override.key).length = 2) :
    settings.content.assign value (pathOf override.key) = .error failure ↔
      override.Blocked settings ∧ failure = .wrongKind := by
  have only {front : List String} (blocks : settings.content.Blocks (pathOf override.key) front) :
      Mapping.refusal (pathOf override.key) front = .wrongKind := by
    have proper : front.length ≠ 0 := mt List.length_eq_zero_iff.mp blocks.ne_nil
    have short : front.length ≠ 2 := fun same => blocks.proper
      (blocks.before.eq_of_length (same.trans two.symm))
    have bound := blocks.before.length_le
    rw [Mapping.refusal, if_pos (by omega)]
  rw [Mapping.assign_eq_error_iff]
  constructor
  · rintro ⟨front, blocks, refused⟩
    exact ⟨⟨front, blocks⟩, refused.trans (only blocks)⟩
  · rintro ⟨⟨front, blocks⟩, refused⟩
    exact ⟨front, blocks, refused.trans (only blocks).symm⟩

theorem Applies.fits (two : (pathOf override.key).length = 2)
    (applies : override.Applies environment settings changed) :
    override.Fits environment settings := by
  intro raw given
  cases applies with
  | unset unset => cases unset.symm.trans given
  | @set stated value content stands parsed written =>
      cases stands.symm.trans given
      refine ⟨takes_iff.mpr ⟨value, parsed⟩, fun blocked => ?_⟩
      cases written.symm.trans ((assign_eq_error_iff two).mpr ⟨blocked, rfl⟩)

theorem Refuses.not_fits (refuses : override.Refuses environment settings failure) :
    ¬override.Fits environment settings := by
  intro fits
  cases refuses with
  | @untaken raw given numeric bad =>
      have takes := (fits raw given).1 numeric
      rw [bad] at takes
      cases takes
  | @blocked raw given _ blocked => exact (fits raw given).2 blocked

/-- There is no third way for an override. -/
theorem applies_or_refuses (two : (pathOf override.key).length = 2) (environment : Environment)
    (settings : Settings) :
    (∃ changed, override.Applies environment settings changed) ∨
      ∃ failure, override.Refuses environment settings failure := by
  rcases given : environment override.name with _ | raw
  · exact .inl ⟨settings, .unset given⟩
  · rcases parsed : override.parse raw with failure | value
    · rcases parse_eq_error_iff.mp parsed with ⟨numeric, bad, -⟩
      exact .inr ⟨_, .untaken given numeric bad⟩
    · rcases written : settings.content.assign value (pathOf override.key) with failure | content
      · have blocked := ((assign_eq_error_iff two).mp written).1
        exact .inr ⟨_, .blocked given (takes_iff.mpr ⟨value, parsed⟩) blocked⟩
      · exact .inl ⟨_, .set given parsed written⟩

theorem Fits.applies (two : (pathOf override.key).length = 2)
    (fits : override.Fits environment settings) :
    ∃ changed, override.Applies environment settings changed := by
  rcases applies_or_refuses two environment settings with applies | ⟨failure, refuses⟩
  · exact applies
  · exact absurd fits refuses.not_fits

/-- An override of a key apart leaves what is in the way to another one, and puts nothing there. -/
theorem Applies.blocked_iff (apart : earlier.Apart later)
    (applies : earlier.Applies environment settings changed) :
    later.Blocked changed ↔ later.Blocked settings := by
  cases applies with
  | unset => rfl
  | set _ _ written => exact exists_congr fun _ => Mapping.blocks_assign_of_apart apart written

theorem Applies.fits_iff (apart : earlier.Apart later)
    (applies : earlier.Applies environment settings changed) :
    later.Fits environment changed ↔ later.Fits environment settings := by
  simp only [Fits, applies.blocked_iff apart]

theorem Refuses.congr (alike : override.Blocked settings ↔ override.Blocked changed)
    (refuses : override.Refuses environment settings failure) :
    override.Refuses environment changed failure := by
  cases refuses with
  | untaken given numeric bad => exact .untaken given numeric bad
  | blocked given takes blocked => exact .blocked given takes (alike.mp blocked)

theorem Applies.refuses_iff (apart : earlier.Apart later)
    (applies : earlier.Applies environment settings changed) :
    later.Refuses environment changed failure ↔ later.Refuses environment settings failure :=
  ⟨.congr (applies.blocked_iff apart), .congr (applies.blocked_iff apart).symm⟩

end Override

variable {environment : Environment} {settings changed merged : Settings} {table : List Override}
  {failure : Failure}

/-! ## All overrides of a table -/

theorem override_cons_of_refuses {next : Override} (two : (pathOf next.key).length = 2)
    (refuses : next.Refuses environment settings failure) (table : List Override) :
    settings.override environment (next :: table) = .error failure := by
  rw [override]
  cases refuses with
  | untaken given numeric bad =>
      simp [given, Override.parse_eq_error_iff.mpr ⟨numeric, bad, rfl⟩]
  | blocked given takes blocked =>
      rcases Override.takes_iff.mp takes with ⟨value, parsed⟩
      have refused : settings.content.assign value (pathOf next.key) = .error .wrongKind :=
        (Override.assign_eq_error_iff two).mpr ⟨blocked, rfl⟩
      simp [given, parsed, set?, refused, Except.map]

theorem override_cons_of_applies {next : Override}
    (applies : next.Applies environment settings changed) (table : List Override) :
    settings.override environment (next :: table) = changed.override environment table := by
  rw [override]
  cases applies with
  | unset unset => rw [unset]
  | set given parsed written => simp [given, parsed, set?, written, Except.map]

theorem override_cons_eq_error {next : Override} (two : (pathOf next.key).length = 2) :
    settings.override environment (next :: table) = .error failure ↔
      next.Refuses environment settings failure ∨
      ∃ changed, next.Applies environment settings changed ∧
        changed.override environment table = .error failure := by
  constructor
  · intro failed
    rcases Override.applies_or_refuses two environment settings with
      ⟨changed, applies⟩ | ⟨cause, refuses⟩
    · exact .inr ⟨changed, applies, override_cons_of_applies applies table ▸ failed⟩
    · have refused := override_cons_of_refuses two refuses table
      rcases Except.error.inj (refused.symm.trans failed) with rfl
      exact .inl refuses
  · rintro (refuses | ⟨changed, applies, failed⟩)
    · exact override_cons_of_refuses two refuses table
    · exact (override_cons_of_applies applies table).trans failed

theorem override_eq_ok_iff (pairwise : table.Pairwise Override.Apart)
    (two : ∀ override ∈ table, (pathOf override.key).length = 2) :
    (∃ result, settings.override environment table = .ok result) ↔
      ∀ override ∈ table, override.Fits environment settings := by
  induction table generalizing settings with
  | nil => simp [override]
  | cons next table ih =>
      rcases List.pairwise_cons.mp pairwise with ⟨apart, others⟩
      rcases List.forall_mem_cons.mp two with ⟨here, there⟩
      -- Whatever is set by the first of them, the others fit as before.
      have after {changed : Settings} (applies : next.Applies environment settings changed) :
          (∀ override ∈ table, override.Fits environment changed) ↔
            ∀ override ∈ table, override.Fits environment settings :=
        forall₂_congr fun later among => applies.fits_iff (apart later among)
      rw [List.forall_mem_cons]
      constructor
      · rintro ⟨result, ran⟩
        rcases override_cons_eq_ok.mp ran with ⟨changed, applies, rest⟩
        exact ⟨applies.fits here, (after applies).mp ((ih others there).mp ⟨result, rest⟩)⟩
      · rintro ⟨fits, rest⟩
        rcases fits.applies here with ⟨changed, applies⟩
        rcases (ih others there).mpr ((after applies).mpr rest) with ⟨result, ran⟩
        exact ⟨result, override_cons_eq_ok.mpr ⟨changed, applies, ran⟩⟩

/-- Overrides fail by the first one that does not fit. -/
theorem override_eq_error_iff (pairwise : table.Pairwise Override.Apart)
    (two : ∀ override ∈ table, (pathOf override.key).length = 2) :
    settings.override environment table = .error failure ↔
      ∃ before override after, table = before ++ override :: after ∧
        (∀ earlier ∈ before, earlier.Fits environment settings) ∧
        override.Refuses environment settings failure := by
  induction table generalizing settings with
  | nil => simp [override]
  | cons next table ih =>
      rcases List.pairwise_cons.mp pairwise with ⟨apart, others⟩
      rcases List.forall_mem_cons.mp two with ⟨here, there⟩
      rw [override_cons_eq_error here]
      constructor
      · rintro (refuses | ⟨changed, applies, failed⟩)
        · exact ⟨[], next, table, rfl, by simp, refuses⟩
        · rcases (ih others there).mp failed with ⟨before, override, after, rfl, fit, refuses⟩
          have further (later : Override) (among : later ∈ before) : next.Apart later :=
            apart later (List.mem_append_left _ among)
          refine ⟨next :: before, override, after, rfl, List.forall_mem_cons.mpr
            ⟨applies.fits here, fun earlier among =>
              (applies.fits_iff (further earlier among)).mp (fit earlier among)⟩, ?_⟩
          exact (applies.refuses_iff (apart override (by simp))).mp refuses
      · rintro ⟨_ | ⟨first, before⟩, override, after, same, fit, refuses⟩
        · rcases List.cons.inj same with ⟨rfl, rfl⟩
          exact .inl refuses
        · rcases List.cons.inj same with ⟨rfl, rfl⟩
          rcases List.forall_mem_cons.mp fit with ⟨fits, fit⟩
          rcases fits.applies here with ⟨changed, applies⟩
          refine .inr ⟨changed, applies,
            (ih others there).mpr ⟨before, override, after, rfl, ?_, ?_⟩⟩
          · intro earlier among
            exact (applies.fits_iff (apart earlier (List.mem_append_left _ among))).mpr
              (fit earlier among)
          · exact (applies.refuses_iff (apart override (by simp))).mpr refuses

theorem overrides_two_parts : ∀ override ∈ overrides, (pathOf override.key).length = 2 := by
  decide +kernel

/-! ## Loading -/

variable {loader : Markup.Loader} {files : Files} {defaults : Defaults} {file : Value}

/-- An environment in which nothing is set. -/
def bare : Environment := fun _ => none

theorem override_bare (settings : Settings) (table : List Override) :
    settings.override bare table = .ok settings := by
  induction table with
  | nil => rfl
  | cons next table ih => exact ih

/-- In an empty environment only the files are taken. -/
theorem load_bare (loader : Markup.Loader) (files : Files) (defaults : Defaults) (file : Value) :
    load loader files bare defaults file =
      (ofDefaults loader files defaults).bind fun lower =>
        if file.isVacant then .ok lower else lower.mergeFile loader files file := by
  unfold load
  rcases ofDefaults loader files defaults with failure | lower
  · rfl
  · by_cases vacant : file.isVacant
    · simp [vacant, bind, Except.bind, pure, Except.pure, override_bare]
    · rcases ran : lower.mergeFile loader files file with failure | merged <;>
        simp [vacant, ran, bind, Except.bind, override_bare]

/-- The environment comes over what the files have left. -/
theorem load_eq_bind (loader : Markup.Loader) (files : Files) (environment : Environment)
    (defaults : Defaults) (file : Value) :
    load loader files environment defaults file =
      (load loader files bare defaults file).bind (·.override environment overrides) := by
  rw [load_bare]
  unfold load
  rcases ofDefaults loader files defaults with failure | lower
  · rfl
  · by_cases vacant : file.isVacant
    · simp [vacant, bind, Except.bind, pure, Except.pure]
    · simp [vacant, bind, Except.bind]

/-- Whether all files that are named for settings hold fit documents. -/
def filesFit (loader : Markup.Loader) (files : Files) (defaults : Defaults) (file : Value) : Bool :=
  defaults.areFit loader files && (file.isVacant || files.holdsFit loader file)

/-- One of the files that are named for settings holds sections without end. -/
def FilesEndless (loader : Markup.Loader) (files : Files) (defaults : Defaults) (file : Value) :
    Prop :=
  defaults.AreEndless loader files ∨ ¬file.isVacant ∧ files.HoldsEndless loader file

theorem load_bare_of_filesFit (fit : filesFit loader files defaults file)
    (ends : ¬FilesEndless loader files defaults file) :
    ∃ merged, load loader files bare defaults file = .ok merged := by
  rcases Bool.and_eq_true_iff.mp fit with ⟨base, here⟩
  rcases ofDefaults_of_areFit base fun endless => ends (.inl endless) with ⟨lower, based⟩
  rw [load_bare, based, Except.bind]
  split
  · exact ⟨lower, rfl⟩
  · next named =>
    have fitting : files.holdsFit loader file := by simpa [named] using here
    exact mergeFile_of_holdsFit lower fitting fun endless => ends (.inr ⟨named, endless⟩)

theorem load_bare_of_filesEndless (fit : filesFit loader files defaults file)
    (endless : FilesEndless loader files defaults file) :
    load loader files bare defaults file = .error (.endless .collection) := by
  rcases Bool.and_eq_true_iff.mp fit with ⟨base, -⟩
  rw [load_bare]
  by_cases first : defaults.AreEndless loader files
  · rw [ofDefaults_of_areEndless first, Except.bind]
  · rcases ofDefaults_of_areFit base first with ⟨lower, based⟩
    rcases endless.resolve_left first with ⟨named, endless⟩
    rw [based, Except.bind, if_neg named, mergeFile_of_holdsEndless endless]

/-- What an environment makes of settings that the files have left. -/
structure Overlays (environment : Environment) (merged : Settings)
    (outcome : Except Failure Settings) : Prop where
  returns_iff : (∃ settings, outcome = .ok settings) ↔
    ∀ override ∈ overrides, override.Fits environment merged
  /-- The key of every variable that is set reads as what is parsed from it. -/
  readable : ∀ settings, outcome = .ok settings → ∀ override ∈ overrides, ∀ raw,
    environment override.name = some raw →
    ∃ value, override.parse raw = .ok value ∧
      ∀ fallback, settings.get override.key fallback = value
  /-- It fails by the first override that does not fit. -/
  fails_iff : ∀ failure, outcome = .error failure ↔
    ∃ before override after, overrides = before ++ override :: after ∧
      (∀ earlier ∈ before, earlier.Fits environment merged) ∧
      override.Refuses environment merged failure

theorem override_overlays (environment : Environment) (merged : Settings) :
    Overlays environment merged (merged.override environment overrides) where
  returns_iff := override_eq_ok_iff overrides_pairwise overrides_two_parts
  readable _ ran _ among _ given := override_get ran among given
  fails_iff _ := override_eq_error_iff overrides_pairwise overrides_two_parts

/-- How settings are loaded from files in an environment. -/
structure LoadsInto (loader : Markup.Loader) (files : Files) (environment : Environment)
    (defaults : Defaults) (file : Value) : Prop where
  endless : FilesEndless loader files defaults file →
    load loader files environment defaults file = .error (.endless .collection)
  overlaid : ¬FilesEndless loader files defaults file →
    ∃ merged, load loader files bare defaults file = .ok merged ∧
      Overlays environment merged (load loader files environment defaults file)

/-- Over any files that hold mappings, or nothing, loading returns with every variable that is set
in its place, unless its text cannot be parsed or a file has put something that is no section where
the section of its key should be. -/
theorem load_loadsInto (environment : Environment) (fit : filesFit loader files defaults file) :
    LoadsInto loader files environment defaults file where
  endless endless := by
    rw [load_eq_bind, load_bare_of_filesEndless fit endless, Except.bind]
  overlaid ends := by
    rcases load_bare_of_filesFit fit ends with ⟨merged, loaded⟩
    refine ⟨merged, loaded, ?_⟩
    rw [load_eq_bind, loaded, Except.bind]
    exact override_overlays environment merged

/-- A file of so many characters and no other one. -/
def oneFile (text : String) : Files := { contents := [(["tmp", "", "cluster.yaml"], text.toList)] }

/-- An empty section is in no one's way but of the variables whose keys are in it. -/
theorem load_loadsInto_emptied :
    filesFit Markup.loader (oneFile "logging:\n") .packaged (.text "cluster.yaml") ∧
      ∃ settings, load Markup.loader (oneFile "logging:\n") onlyShards .packaged
          (.text "cluster.yaml") = .ok settings ∧
        settings.get "cluster.shards" .null = .int 3 := by
  have fit : filesFit Markup.loader (oneFile "logging:\n") .packaged (.text "cluster.yaml") := by
    decide +kernel
  have returns : (load Markup.loader (oneFile "logging:\n") onlyShards .packaged
      (.text "cluster.yaml")).toOption.isSome := by decide +kernel
  have three : Text.integer? "3" = some 3 := by decide +kernel
  have loads := load_loadsInto onlyShards fit
  have ends :
      ¬FilesEndless Markup.loader (oneFile "logging:\n") .packaged (.text "cluster.yaml") := by
    intro endless
    rw [loads.endless endless] at returns
    cases returns
  rcases loads.overlaid ends with ⟨merged, -, overlays⟩
  rcases loaded : load Markup.loader (oneFile "logging:\n") onlyShards .packaged
      (.text "cluster.yaml") with failure | settings
  · rw [loaded] at returns
    cases returns
  · rcases overlays.readable settings loaded
        ⟨"SHARDED_CLUSTER_SHARDS", "cluster.shards", .integer⟩ List.mem_cons_self "3" rfl with
      ⟨value, parsed, reads⟩
    have same : .int 3 = value := by simpa [Override.parse, three] using parsed
    subst same
    exact ⟨fit, settings, rfl, reads .null⟩

/-- A variable that holds a number is no match for an empty section. -/
theorem load_refuses_emptied :
    filesFit Markup.loader (oneFile "cluster:\n") .packaged (.text "cluster.yaml") ∧
      (∀ override ∈ overrides, ∀ raw, onlyShards override.name = some raw → override.Takes raw) ∧
      load Markup.loader (oneFile "cluster:\n") onlyShards .packaged (.text "cluster.yaml") =
        .error .wrongKind := by
  have fit : filesFit Markup.loader (oneFile "cluster:\n") .packaged (.text "cluster.yaml") := by
    decide +kernel
  have taken : ∀ override ∈ overrides, ∀ raw, onlyShards override.name = some raw →
      override.Takes raw := by
    intro override _ raw given
    rcases Option.ite_none_right_eq_some.mp given with ⟨-, same⟩
    rcases Option.some.inj same with rfl
    exact fun _ => by decide +kernel
  have merges : (load Markup.loader (oneFile "cluster:\n") bare .packaged
      (.text "cluster.yaml")).toOption.isSome := by decide +kernel
  have refused : (load Markup.loader (oneFile "cluster:\n") onlyShards .packaged
      (.text "cluster.yaml")).toOption.isNone := by decide +kernel
  refine ⟨fit, taken, ?_⟩
  rcases loaded : load Markup.loader (oneFile "cluster:\n") bare .packaged
      (.text "cluster.yaml") with failure | merged
  · rw [loaded] at merges
    cases merges
  rcases loads : load Markup.loader (oneFile "cluster:\n") onlyShards .packaged
      (.text "cluster.yaml") with failure | settings
  · rw [load_eq_bind, loaded, Except.bind] at loads
    rcases ((override_overlays onlyShards merged).fails_iff failure).mp loads with
      ⟨before, override, after, table, -, refuses⟩
    cases refuses with
    | @untaken raw given numeric bad =>
        have takes := taken override (by simp [table]) raw given numeric
        rw [bad] at takes
        cases takes
    | blocked => rfl
  · rw [loads] at refused
    cases refused

end ShardFleet.Settings
