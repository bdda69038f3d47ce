import ShardFleet.Proofs.Settings.Merging

/-!
# Laws of merging

To lay a mapping over another one twice is to lay it over once, and it does not matter how three are
put together, as long as the lower two have their sections at the same places: a value that is no
section replaces the section below it, and a section laid over both would find that gone or still
there. The mappings come out the same to the order of their entries. So a copy of settings made
section by section is the settings, and loading it again restores them.
-/

namespace ShardFleet

namespace Mapping

variable {base laid entries first second : Mapping} {key other : Key} {value another : Value}

/-! ## Insertion into a merge -/

theorem replace_congr (entries : Mapping) (value : Value) (same : key.identity = other.identity) :
    insert.replace key value entries = insert.replace other value entries := by
  induction entries with
  | empty => rfl
  | entry present standing older ih => simp [insert.replace, same, ih]

/-- An entry keeps the spelling of its key when its value is replaced. -/
theorem insert_insert_of_same (same : other.identity = key.identity) :
    (entries.insert other another).insert key value = entries.insert other value := by
  have held : (entries.insert other another).find? key = some another := by
    rw [← find?_congr _ same, find?_insert_self]
  rw [insert_of_present held, ← replace_congr _ value same,
    ← insert_of_present (find?_insert_self entries other another), insert_insert]

/-- Of two insertions at different keys, one of which is there, either can come first. -/
theorem insert_comm_of_present {held : Value} (present : entries.find? key = some held)
    (different : key.identity ≠ other.identity) :
    (entries.insert key value).insert other another =
      (entries.insert other another).insert key value := by
  have later := find?_insert_of_ne entries value (Ne.symm different)
  have earlier := find?_insert_of_ne entries another different
  rw [insert_of_present (earlier.trans present)]
  rcases there : entries.find? other with _ | standing
  · rw [insert_of_absent (later.trans there), insert_of_absent there, insert_of_present present,
      replace_entry (Ne.symm different)]
  · rw [insert_of_present (later.trans there), insert_of_present present, insert_of_present there,
      replace_comm entries different]

/-- What is inserted in the mapping laid over comes into the merge at the same place. -/
theorem merge_insert (base laid : Mapping) (key : Key) (value : Value) :
    base.merge (laid.insert key value) =
      (base.merge laid).insert key (Value.over (base.find? key) value) := by
  rcases present : laid.find? key with _ | held
  · rw [insert_of_absent present, merge_entry]
  · rw [insert_of_present present]
    induction laid with
    | empty => cases present
    | entry other standing older ih =>
        by_cases same : other.identity = key.identity
        · rw [insert.replace, if_pos same, merge_entry, merge_entry, insert_insert_of_same same,
            find?_congr base same]
        · rw [find?, if_neg same] at present
          rw [insert.replace, if_neg same, merge_entry, merge_entry, ih present,
            insert_comm_of_present (find?_merge_of_some present) (Ne.symm same)]

end Mapping

/-! ## Twice -/

mutual

theorem Value.over_again (below : Option Value) : ∀ value : Value, value.Distinct →
    Value.over (some (Value.over below value)) value = Value.over below value
  | .mapping entries, distinct => by
      rw [Mapping.over_mapping, Mapping.over_mapping]
      exact congrArg Value.mapping (Mapping.merge_absorbed (Mapping.sectionIn below) _ entries
        distinct fun _ _ found => Mapping.find?_merge_of_some found)
  | .null, _ | .bool _, _ | .int _, _ | .float _, _ | .text _, _ | .datum _, _ | .list _, _
  | .pair _ _, _ | .set _, _ | .kept _ _, _ => rfl

/-- A mapping changes nothing where all that it holds has been laid over some base before. -/
theorem Mapping.merge_absorbed (base result : Mapping) : ∀ laid : Mapping, laid.Distinct →
    (∀ key value, laid.find? key = some value →
      result.find? key = some (Value.over (base.find? key) value)) →
    result.merge laid = result
  | .empty, _, _ => Mapping.merge_empty result
  | .entry key value older, ⟨absent, here, further⟩, absorbed => by
      have held : result.find? key = some (Value.over (base.find? key) value) :=
        absorbed key value (by simp [Mapping.find?])
      have behind : result.merge older = result := by
        refine Mapping.merge_absorbed base result older further fun other another found => ?_
        refine absorbed other another ?_
        have different : key.identity ≠ other.identity := by
          intro same
          rw [Mapping.find?_congr older same, found] at absent
          cases absent
        rw [Mapping.find?, if_neg different, found]
      rw [Mapping.merge_entry, behind, held, Value.over_again _ value here,
        Mapping.insert_eq_self held]

end

/-! ## Three together -/

namespace Value

variable {value other : Value} {below middle : Option Value}

/-- Wherever both of two values hold something, both hold a section or neither does. -/
def Agrees (value other : Value) : Prop :=
  ∀ place inner another, value.inside? place = some inner → other.inside? place = some another →
    (inner.IsSection ↔ another.IsSection)

theorem Agrees.symm (agrees : value.Agrees other) : other.Agrees value :=
  fun place inner another here there => (agrees place another inner there here).symm

/-- What stands where something is laid over something, if anything is. -/
def overlay (below : Option Value) : Option Value → Option Value
  | none => below
  | some value => some (Value.over below value)

/-- The two agree as far as there are two. -/
def AgreeThere (below middle : Option Value) : Prop :=
  ∀ inner other, below = some inner → middle = some other → inner.Agrees other

theorem agrees_of_not_isSection (plain : ¬value.IsSection) (another : ¬other.IsSection) :
    value.Agrees other := by
  intro place inner held here there
  cases place with
  | nil =>
      rcases Option.some.inj here with rfl
      rcases Option.some.inj there with rfl
      exact iff_of_false plain another
  | cons key rest =>
      cases value with
      | mapping entries => exact absurd (isSection_mapping entries) plain
      | _ => cases here

/-- Sections agree if they do key by key. -/
theorem agrees_iff {first second : Mapping} :
    (mapping first).Agrees (.mapping second) ↔
      ∀ key, AgreeThere (first.find? key) (second.find? key) := by
  constructor
  · intro agrees key inner other found among place held another here there
    refine agrees (key :: place) held another ?_ ?_
    · rw [inside?, found, Option.bind_some, here]
    · rw [inside?, among, Option.bind_some, there]
  · intro agree place inner another here there
    cases place with
    | nil =>
        rcases Option.some.inj here with rfl
        rcases Option.some.inj there with rfl
        exact iff_of_true (isSection_mapping _) (isSection_mapping _)
    | cons key rest =>
        rcases Option.bind_eq_some_iff.mp here with ⟨value, found, here⟩
        rcases Option.bind_eq_some_iff.mp there with ⟨other, among, there⟩
        exact agree key value other found among rest inner another here there

theorem empty_agrees (entries : Mapping) : (mapping .empty).Agrees (.mapping entries) :=
  agrees_iff.mpr fun _ _ _ found => by cases found

theorem AgreeThere.sectionIn (agree : AgreeThere below middle) :
    (mapping (Mapping.sectionIn below)).Agrees (.mapping (Mapping.sectionIn middle)) := by
  by_cases lower : ∃ inner, below = some (.mapping inner)
  · rcases lower with ⟨inner, rfl⟩
    by_cases upper : ∃ other, middle = some (.mapping other)
    · rcases upper with ⟨other, rfl⟩
      exact agree _ _ rfl rfl
    · rw [Mapping.sectionIn_of_not_isSection fun other same => upper ⟨other, same⟩]
      exact (empty_agrees _).symm
  · rw [Mapping.sectionIn_of_not_isSection fun inner same => lower ⟨inner, same⟩]
    exact empty_agrees _

end Value

namespace Mapping

variable {below middle : Option Value}

theorem find?_merge (base laid : Mapping) (key : Key) :
    (base.merge laid).find? key = Value.overlay (base.find? key) (laid.find? key) := by
  rcases found : laid.find? key with _ | value
  · exact find?_merge_of_none found
  · exact find?_merge_of_some found

theorem sectionIn_overlay (agree : Value.AgreeThere below middle) :
    sectionIn (Value.overlay below middle) = (sectionIn below).merge (sectionIn middle) := by
  rcases middle with _ | value
  · exact (merge_empty (sectionIn below)).symm
  · by_cases onward : value.IsSection
    · rcases onward with ⟨inner, rfl⟩
      rw [Value.overlay, over_mapping]
      rfl
    · have plain : ∀ inner, some value ≠ some (.mapping inner) := fun inner same =>
        onward ⟨inner, Option.some.inj same⟩
      have under : ∀ inner, below ≠ some (.mapping inner) := by
        rintro inner rfl
        exact onward ((agree _ _ rfl rfl [] _ _ rfl rfl).mp (Value.isSection_mapping inner))
      rw [Value.overlay, over_of_not_isSection _ onward, sectionIn_of_not_isSection plain,
        sectionIn_of_not_isSection under, merge_empty]

end Mapping

mutual

theorem Value.over_over {below middle : Option Value} (agree : Value.AgreeThere below middle) :
    ∀ value : Value,
      Value.over (Value.overlay below middle) value = Value.over below (Value.over middle value)
  | .mapping entries => by
      rw [Mapping.over_mapping, Mapping.over_mapping, Mapping.over_mapping,
        Mapping.sectionIn_overlay agree, Mapping.merge_merge agree.sectionIn entries]
  | .null | .bool _ | .int _ | .float _ | .text _ | .datum _ | .list _ | .pair _ _ | .set _
  | .kept _ _ => rfl

/-- Two mappings can be put together before or after a third one is laid over. -/
theorem Mapping.merge_merge {first second : Mapping}
    (agrees : (Value.mapping first).Agrees (.mapping second)) :
    ∀ third : Mapping, (first.merge second).merge third = first.merge (second.merge third)
  | .empty => by rw [Mapping.merge_empty, Mapping.merge_empty]
  | .entry key value older => by
      rw [Mapping.merge_entry, Mapping.merge_entry, Mapping.merge_insert,
        Mapping.merge_merge agrees older, Mapping.find?_merge,
        Value.over_over (Value.agrees_iff.mp agrees key) value]

end

/-! ## Copies -/

namespace Value

variable {entries : Mapping} {value : Value} {key : Key} {path : List String}

theorem find?_replaceKept (replacement : CollectionKind → Nat → Value) (entries : Mapping)
    (key : Key) :
    (entries.replaceKept replacement).find? key =
      (entries.find? key).map (replaceKept replacement) := by
  induction entries with
  | empty => rfl
  | entry present standing older ih =>
      by_cases same : present.identity = key.identity <;>
        simp [Mapping.replaceKept, Mapping.find?, same, ih]

theorem StandsAlone.find? (alone : (mapping entries).StandsAlone)
    (found : entries.find? key = some value) : value.StandsAlone := by
  intro replacement
  have same : entries.replaceKept replacement = entries := by
    simpa [replaceKept] using alone replacement
  have held := find?_replaceKept replacement entries key
  rw [same, found, Option.map_some] at held
  exact (Option.some.inj held).symm

theorem StandsAlone.lookup? (alone : (mapping entries).StandsAlone)
    (found : entries.lookup? path = some value) : value.StandsAlone := by
  induction path generalizing entries with
  | nil => exact Option.some.inj found ▸ alone
  | cons part path ih =>
      cases path with
      | nil => exact alone.find? found
      | cons name path =>
          rcases Mapping.lookup?_cons_cons_eq_some.mp found with ⟨inner, held, further⟩
          exact ih (alone.find? held) further

end Value

namespace Settings

variable {settings : Settings} {fallback : Value}

theorem get_of_standsAlone (settings : Settings)
    (alone : (Value.mapping settings.content).StandsAlone) (fallbackAlone : fallback.StandsAlone)
    (key : String) :
    settings.get key fallback = (settings.content.lookup? (pathOf key)).getD fallback := by
  rw [get]
  rcases found : settings.content.lookup? (pathOf key) with _ | held
  · exact settings.shelf.unfold_of_standsAlone fallbackAlone
  · exact settings.shelf.unfold_of_standsAlone (alone.lookup? found)

/-- A copy of settings is the settings, and restores them. -/
structure RestoredByCopy (settings : Settings) : Prop where
  snapshot : settings.snapshot = settings.content
  toValue : settings.toValue = settings.shelf.unfold (.mapping settings.content)
  /-- Laid over nothing, with the collections that it refers to, a copy is the settings, at whatever
  key they are read. -/
  relaid : ({} : Settings).lay settings.snapshot settings.shelf = settings
  /-- If it refers to none, it is the value of the settings that can be loaded again. -/
  remerged : (Value.mapping settings.content).StandsAlone →
    ∃ again, ({} : Settings).merge? settings.toValue = .ok again ∧
      ∀ key fallback, fallback.StandsAlone → again.get key fallback = settings.get key fallback

theorem restoredByCopy (distinct : settings.content.Distinct) : settings.RestoredByCopy := by
  have same : settings.snapshot = settings.content := Mapping.empty_merge _ distinct
  constructor
  case snapshot => exact same
  case toValue => rw [Settings.toValue, same]
  case relaid =>
    rw [same, lay, Mapping.empty_merge _ distinct, Array.empty_append]
  case remerged =>
    intro alone
    refine ⟨{ content := settings.content }, ?_, fun key fallback fallbackAlone => ?_⟩
    · rw [Settings.toValue, same, Shelf.unfold_of_standsAlone _ alone, merge?, lay,
        Mapping.empty_merge _ distinct, Array.append_empty]
    · rw [get_of_standsAlone settings alone fallbackAlone,
        get_of_standsAlone { content := settings.content } alone fallbackAlone]

end Settings

namespace Mapping

/-- What comes of mappings that are laid over each other. -/
structure MergeLaws (first second third : Mapping) : Prop where
  /-- An empty mapping changes nothing, over another one or under it. -/
  nothingOver : first.merge .empty = first
  nothingUnder : Mapping.empty.merge first = first
  again : (first.merge second).merge second = first.merge second
  together : (Value.mapping first).Agrees (.mapping second) →
    (first.merge second).merge third = first.merge (second.merge third)
  copied : ∀ settings : Settings, settings.content = first → settings.RestoredByCopy

theorem merge_mergeLaws {first second : Mapping} (distinct : first.Distinct)
    (others : second.Distinct) (third : Mapping) : MergeLaws first second third where
  nothingOver := merge_empty first
  nothingUnder := empty_merge first distinct
  again := merge_absorbed first _ second others fun _ _ found => find?_merge_of_some found
  together agrees := merge_merge agrees third
  copied _ same := Settings.restoredByCopy (same ▸ distinct)

/-- Another number of routers. -/
def rerouted : Mapping :=
  .entry (.text "cluster") (.mapping (.entry (.text "routers") (.int 3) .empty)) .empty

/-- The first two have their sections at the same places, and the third one a number for one of
them. -/
theorem merge_mergeLaws_flattened :
    sectioned.Distinct ∧ rerouted.Distinct ∧
      (Value.mapping sectioned).Agrees (.mapping rerouted) ∧
      (sectioned.merge rerouted).merge flattened = sectioned.merge (rerouted.merge flattened) := by
  have distinct : sectioned.Distinct :=
    ⟨rfl, ⟨rfl, trivial, rfl, ⟨rfl, trivial, trivial⟩, trivial⟩, trivial⟩
  have others : rerouted.Distinct := ⟨rfl, ⟨rfl, trivial, trivial⟩, trivial⟩
  have plain (number : Int) : ¬(Value.int number).IsSection := by
    rintro ⟨entries, isSection⟩
    cases isSection
  have agrees : (Value.mapping sectioned).Agrees (.mapping rerouted) := by
    refine Value.agrees_iff.mpr fun key inner other found among => ?_
    by_cases cluster : (Key.text "cluster").identity = key.identity
    · rw [← find?_congr _ cluster] at found among
      rcases Option.some.inj found with rfl
      rcases Option.some.inj among with rfl
      refine Value.agrees_iff.mpr fun key inner other found among => ?_
      by_cases routers : (Key.text "routers").identity = key.identity
      · rw [← find?_congr _ routers] at found among
        rcases Option.some.inj found with rfl
        rcases Option.some.inj among with rfl
        exact Value.agrees_of_not_isSection (plain 2) (plain 3)
      · rw [find?, if_neg routers] at among
        cases among
    · rw [rerouted, find?, if_neg cluster] at among
      cases among
  exact ⟨distinct, others, agrees, (merge_mergeLaws distinct others flattened).together agrees⟩

end Mapping

end ShardFleet
