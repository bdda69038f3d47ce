import ShardFleet.Proofs.Settings.Paths
import ShardFleet.Settings.Layer

/-!
# Overrides

Each override of which the variable is set writes one parsed value at its key. The keys of the
overrides are apart from each other, so none of these writes touches what another one has written,
and it does not matter in which order they are made.
-/

namespace ShardFleet

/-- A value that refers to no collection: whatever takes the places of those, it is the same. -/
def Value.StandsAlone (value : Value) : Prop :=
  ∀ replacement, value.replaceKept replacement = value

theorem Shelf.unfold_of_standsAlone (shelf : Shelf) {value : Value} (alone : value.StandsAlone) :
    shelf.unfold value = value := alone _

namespace Settings

variable {environment : Environment} {settings changed between result : Settings}
  {table others : List Override}

/-- Settings that differ at most in the order of the entries of their sections. -/
structure Reorders (settings other : Settings) : Prop where
  content : settings.content.Reorders other.content
  shelf : settings.shelf = other.shelf

theorem Reorders.refl (settings : Settings) : settings.Reorders settings :=
  ⟨.refl settings.content, rfl⟩

theorem Reorders.trans (before : settings.Reorders between) (after : between.Reorders result) :
    settings.Reorders result :=
  ⟨before.content.trans after.content, before.shelf.trans after.shelf⟩

namespace Override

variable {override earlier later : Override} {raw : String} {value : Value}

/-- Two overrides of keys apart from each other. -/
def Apart (override other : Override) : Prop :=
  Settings.Apart (pathOf override.key) (pathOf other.key)

instance (override other : Override) : Decidable (override.Apart other) :=
  inferInstanceAs (Decidable (Settings.Apart _ _))

/-- What is parsed is an integer or a text. -/
theorem parse_standsAlone (parsed : override.parse raw = .ok value) : value.StandsAlone := by
  unfold parse at parsed
  split at parsed
  · rcases Except.ok.inj parsed with rfl
    exact fun _ => rfl
  · split at parsed
    · rcases Except.ok.inj parsed with rfl
      exact fun _ => rfl
    · contradiction

/-! ## One override -/

/-- The change that an override makes: none if its variable is unset, and else its key is set to
what the variable parses to. -/
inductive Applies (environment : Environment) (override : Override) (settings : Settings) :
    Settings → Prop
  | unset (unset : environment override.name = none) :
      Applies environment override settings settings
  | set {raw : String} {value : Value} {content : Mapping}
      (given : environment override.name = some raw) (parsed : override.parse raw = .ok value)
      (written : settings.content.assign value (pathOf override.key) = .ok content) :
      Applies environment override settings { settings with content }

theorem Applies.shelf_eq (applies : override.Applies environment settings changed) :
    changed.shelf = settings.shelf := by
  cases applies <;> rfl

theorem Applies.lookup?_self (applies : override.Applies environment settings changed)
    (given : environment override.name = some raw) :
    ∃ value, override.parse raw = .ok value ∧
      changed.content.lookup? (pathOf override.key) = some value := by
  cases applies with
  | unset unset => exact absurd (unset.symm.trans given) (Option.some_ne_none raw).symm
  | @set stated value content stands parsed written =>
      cases stands.symm.trans given
      exact ⟨value, parsed, Mapping.lookup?_assign_self (pathOf_ne_nil _) written⟩

theorem Applies.lookup?_of_apart {path : List String}
    (applies : override.Applies environment settings changed)
    (apart : environment override.name ≠ none → Settings.Apart path (pathOf override.key)) :
    changed.content.lookup? path = settings.content.lookup? path := by
  cases applies with
  | unset => rfl
  | @set raw _ _ given _ written =>
      exact Mapping.lookup?_assign_of_apart
        (apart fun unset => Option.some_ne_none raw (given.symm.trans unset)) written

theorem Applies.reorders {other : Settings}
    (applies : override.Applies environment settings changed)
    (reordered : settings.Reorders other) :
    ∃ reached, override.Applies environment other reached ∧ changed.Reorders reached := by
  cases applies with
  | unset unset => exact ⟨other, .unset unset, reordered⟩
  | set given parsed written =>
      rcases reordered.content.assign written with ⟨content, again, alike⟩
      exact ⟨_, .set given parsed again, alike, reordered.shelf⟩

theorem Applies.comm (apart : earlier.Apart later)
    (first : earlier.Applies environment settings between)
    (second : later.Applies environment between result) :
    ∃ middle last, later.Applies environment settings middle ∧
      earlier.Applies environment middle last ∧ result.Reorders last := by
  cases first with
  | unset unset => exact ⟨result, result, second, .unset unset, .refl result⟩
  | set given parsed written =>
      cases second with
      | unset unset => exact ⟨settings, _, .unset unset, .set given parsed written, .refl _⟩
      | set stated understood further =>
          rcases Mapping.assign_comm apart written further with
            ⟨content, last, before, after, alike⟩
          exact ⟨_, _, .set stated understood before, .set given parsed after, alike, rfl⟩

end Override

/-! ## All overrides of a table -/

theorem override_nil_eq_ok : settings.override environment [] = .ok result ↔ result = settings := by
  rw [override, Except.ok.injEq, eq_comm]

theorem override_cons_eq_ok {next : Override} :
    settings.override environment (next :: table) = .ok result ↔
      ∃ changed, next.Applies environment settings changed ∧
        changed.override environment table = .ok result := by
  rw [override]
  constructor
  · intro ran
    rcases given : environment next.name with _ | raw
    · rw [given] at ran
      exact ⟨settings, .unset given, ran⟩
    · rw [given] at ran
      rcases parsed : next.parse raw with failure | value
      · simp [parsed] at ran
      · rcases written : settings.content.assign value (pathOf next.key) with failure | content
        · simp [parsed, set?, written, Except.map] at ran
        · simp only [parsed, set?, written, Except.map] at ran
          exact ⟨_, .set given parsed written, ran⟩
  · rintro ⟨changed, applies, ran⟩
    cases applies with
    | unset unset => rw [unset]; exact ran
    | set given parsed written => simpa [given, parsed, set?, written, Except.map] using ran

theorem override_shelf (ran : settings.override environment table = .ok result) :
    result.shelf = settings.shelf := by
  induction table generalizing settings with
  | nil => rw [override_nil_eq_ok.mp ran]
  | cons next table ih =>
      rcases override_cons_eq_ok.mp ran with ⟨changed, applies, rest⟩
      exact (ih rest).trans applies.shelf_eq

/-- Overrides change nothing at a path that is apart from all keys they set. -/
theorem override_lookup?_of_apart {path : List String}
    (apart : ∀ override ∈ table, environment override.name ≠ none →
      Apart path (pathOf override.key))
    (ran : settings.override environment table = .ok result) :
    result.content.lookup? path = settings.content.lookup? path := by
  induction table generalizing settings with
  | nil => rw [override_nil_eq_ok.mp ran]
  | cons next table ih =>
      rcases override_cons_eq_ok.mp ran with ⟨changed, applies, rest⟩
      rw [ih (fun override among => apart override (List.mem_cons_of_mem _ among)) rest,
        applies.lookup?_of_apart (apart next List.mem_cons_self)]

/-- What an override has set stays as it is through the overrides that come after it. -/
theorem override_lookup?_self (pairwise : table.Pairwise Override.Apart) {override : Override}
    (among : override ∈ table) {raw : String} (given : environment override.name = some raw)
    (ran : settings.override environment table = .ok result) :
    ∃ value, override.parse raw = .ok value ∧
      result.content.lookup? (pathOf override.key) = some value := by
  induction table generalizing settings with
  | nil => contradiction
  | cons next table ih =>
      rcases override_cons_eq_ok.mp ran with ⟨changed, applies, rest⟩
      rcases List.mem_cons.mp among with rfl | among
      · rcases applies.lookup?_self given with ⟨value, parsed, found⟩
        have later := (List.pairwise_cons.mp pairwise).1
        exact ⟨value, parsed,
          (override_lookup?_of_apart (fun other there _ => later other there) rest).trans found⟩
      · exact ih (List.pairwise_cons.mp pairwise).2 among rest

theorem override_reorders {other : Settings} (reordered : settings.Reorders other)
    (ran : settings.override environment table = .ok result) :
    ∃ reached, other.override environment table = .ok reached ∧ result.Reorders reached := by
  induction table generalizing settings other with
  | nil =>
      rcases override_nil_eq_ok.mp ran with rfl
      exact ⟨other, rfl, reordered⟩
  | cons next table ih =>
      rcases override_cons_eq_ok.mp ran with ⟨changed, applies, rest⟩
      rcases applies.reorders reordered with ⟨middle, again, alike⟩
      rcases ih alike rest with ⟨reached, further, still⟩
      exact ⟨reached, override_cons_eq_ok.mpr ⟨middle, again, further⟩, still⟩

/-- Overrides of keys apart from each other can be applied in any order. -/
theorem override_perm (perm : table.Perm others) (pairwise : table.Pairwise Override.Apart)
    (ran : settings.override environment table = .ok result) :
    ∃ reached, settings.override environment others = .ok reached ∧ result.Reorders reached := by
  induction perm generalizing settings result with
  | nil => exact ⟨result, ran, .refl result⟩
  | cons next _ ih =>
      rcases override_cons_eq_ok.mp ran with ⟨changed, applies, rest⟩
      rcases ih (List.pairwise_cons.mp pairwise).2 rest with ⟨reached, further, alike⟩
      exact ⟨reached, override_cons_eq_ok.mpr ⟨changed, applies, further⟩, alike⟩
  | swap later earlier table =>
      rcases override_cons_eq_ok.mp ran with ⟨between, first, rest⟩
      rcases override_cons_eq_ok.mp rest with ⟨changed, second, rest⟩
      have apart := (List.pairwise_cons.mp pairwise).1 later List.mem_cons_self
      rcases Override.Applies.comm apart first second with ⟨middle, last, before, after, alike⟩
      rcases override_reorders alike rest with ⟨reached, further, still⟩
      exact ⟨reached, override_cons_eq_ok.mpr
        ⟨middle, before, override_cons_eq_ok.mpr ⟨last, after, further⟩⟩, still⟩
  | trans first _ before after =>
      rcases before pairwise ran with ⟨between, reached, alike⟩
      have still := (first.pairwise_iff fun apart => Settings.Apart.symm apart).mp pairwise
      rcases after still reached with ⟨last, further, same⟩
      exact ⟨last, further, alike.trans same⟩

end Settings

end ShardFleet
