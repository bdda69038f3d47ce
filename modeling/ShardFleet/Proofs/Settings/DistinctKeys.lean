import ShardFleet.Proofs.Markup.Leaves
import ShardFleet.Proofs.Settings.Environment
import ShardFleet.Proofs.Settings.MergeLaws
import ShardFleet.Settings.Shared

/-!
# Distinct keys

The keys of settings are distinct, and so are those of the sections inside: this holds of the
defaults and of what is read of a document, and whatever is set, merged or overridden leaves it so.
What is proved of mappings with distinct keys holds of all settings that are ever loaded or changed.
-/

namespace ShardFleet

namespace Mapping

open Settings

variable {entries result base laid : Mapping} {key : Key} {value : Value} {path : List String}

theorem Distinct.replace (distinct : entries.Distinct) (fits : value.Distinct) :
    (insert.replace key value entries).Distinct := by
  induction entries with
  | empty => exact distinct
  | entry present standing older ih =>
      rcases distinct with ⟨absent, here, further⟩
      rw [insert.replace]
      split
      · exact ⟨absent, fits, further⟩
      · next different =>
        refine ⟨?_, here, ih further⟩
        rw [find?_replace_of_ne older value different, absent]

theorem Distinct.insert (distinct : entries.Distinct) (fits : value.Distinct) :
    (entries.insert key value).Distinct := by
  rw [Mapping.insert]
  split
  · exact distinct.replace fits
  · next absent => exact ⟨by simpa using absent, fits, distinct⟩

theorem distinct_ofList (fields : List (Key × Value)) (fit : ∀ field ∈ fields, field.2.Distinct) :
    (ofList fields).Distinct := by
  have onto (entries : Mapping) (distinct : entries.Distinct) :
      (fields.foldl (fun mapping field => mapping.insert field.1 field.2) entries).Distinct := by
    induction fields generalizing entries with
    | nil => exact distinct
    | cons field fields ih =>
        rcases List.forall_mem_cons.mp fit with ⟨here, there⟩
        exact ih there _ (distinct.insert here)
  exact onto .empty trivial

theorem distinct_ofFields (fields : List (String × Value))
    (fit : ∀ field ∈ fields, field.2.Distinct) : (ofFields fields).Distinct := by
  refine distinct_ofList _ fun field among => ?_
  rcases List.mem_map.mp among with ⟨named, there, rfl⟩
  exact fit named there

end Mapping

namespace Value

theorem distinct_of_not_isSection {value : Value} (plain : ¬value.IsSection) : value.Distinct := by
  cases value with
  | mapping entries => exact absurd (isSection_mapping entries) plain
  | _ => trivial

end Value

theorem Mapping.distinct_sectionIn {below : Option Value} (under : ∀ held ∈ below, held.Distinct) :
    (sectionIn below).Distinct := by
  rcases below with _ | held
  · trivial
  · cases held with
    | mapping inner => exact under _ rfl
    | _ => trivial

mutual

theorem Value.distinct_over {below : Option Value} (under : ∀ held ∈ below, held.Distinct) :
    ∀ value : Value, value.Distinct → (Value.over below value).Distinct
  | .mapping entries, distinct => by
      rw [Mapping.over_mapping]
      exact Mapping.Distinct.merge (Mapping.distinct_sectionIn under) entries distinct
  | .null, _ | .bool _, _ | .int _, _ | .float _, _ | .text _, _ | .datum _, _ | .list _, _
  | .pair _ _, _ | .set _, _ | .kept _ _, _ => trivial

theorem Mapping.Distinct.merge {base : Mapping} (distinct : base.Distinct) :
    ∀ laid : Mapping, laid.Distinct → (base.merge laid).Distinct
  | .empty, _ => by rwa [Mapping.merge_empty]
  | .entry key value older, ⟨_, here, further⟩ => by
      rw [Mapping.merge_entry]
      exact (Mapping.Distinct.merge distinct older further).insert
        (Value.distinct_over (fun _ found => distinct.find? found) value here)

end

namespace Mapping

open Settings

variable {entries result inner : Mapping} {value : Value} {part : String} {path : List String}

theorem distinct_of_sectionOf? (distinct : entries.Distinct)
    (found : sectionOf? (entries.field? part) = some inner) : inner.Distinct := by
  generalize held : entries.field? part = below at found
  cases below using Value.casesFound with
  | absent => exact Option.some.inj found ▸ trivial
  | nested standing => exact Option.some.inj found ▸ distinct.find? held
  | plain standing plain => cases found.symm.trans (sectionOf?_of_not_isSection plain)

theorem Distinct.assign (distinct : entries.Distinct) (fits : value.Distinct)
    (written : entries.assign value path = .ok result) : result.Distinct := by
  induction path generalizing entries result with
  | nil => exact Except.ok.inj written ▸ distinct
  | cons part path ih =>
      rcases assign_cons_eq_ok.mp written with ⟨placed, places, rfl⟩
      cases places with
      | last => exact distinct.insert fits
      | further found further =>
          exact distinct.insert (ih (distinct_of_sectionOf? distinct found) further)

end Mapping

/-! ## What is read of a document -/

namespace Markup

variable {built : Built} {first : Nat} {piece : Piece} {value : Value}

namespace Built

theorem distinct_referred (plain : piece.IsPlain) : (built.referred first piece).Distinct := by
  unfold referred
  split
  · exact Value.distinct_of_not_isSection plain
  · trivial
  · split
    · trivial
    · split <;> trivial
    · trivial

theorem distinct_settings? (sound : built.IsPlain) {depth : Nat} (plain : piece.IsPlain)
    (given : built.settings? first depth piece = some value) : value.Distinct := by
  induction depth generalizing piece value with
  | zero =>
      cases piece with
      | collection => cases given
      | leaf | undefined => exact Option.some.inj given ▸ distinct_referred plain
  | succ depth ih =>
      cases piece with
      | collection number =>
          unfold settings? at given
          split at given
          · next fields held =>
            rcases Option.map_eq_some_iff.mp given with ⟨entries, all, rfl⟩
            refine Mapping.distinct_ofList entries fun entry among => ?_
            rcases exists_of_mapM_eq_some all among with ⟨field, member, gives⟩
            rcases Option.map_eq_some_iff.mp gives with ⟨inner, further, rfl⟩
            exact ih (sound.fields number fields held field member) further
          · exact Option.some.inj given ▸ distinct_referred trivial
      | leaf | undefined => exact Option.some.inj given ▸ distinct_referred plain

end Built

namespace Document

variable {chars : List Char} {entries : Mapping} {shelf : Shelf}

theorem distinct_of_ofBuilt (sound : built.IsPlain)
    (holds : ofBuilt first built = .ok (.settings entries shelf)) : entries.Distinct := by
  unfold ofBuilt at holds
  split at holds
  · split at holds <;> cases holds
  · cases holds
  · split at holds
    · split at holds
      · next given =>
        cases holds
        exact Built.distinct_settings? sound sound.root given
      · cases holds
    all_goals cases holds

theorem distinct_of_read {loader : Loader} (sound : loader.IsPlain)
    (holds : read loader first chars = .ok (.settings entries shelf)) : entries.Distinct := by
  rw [read] at holds
  rcases loaded : loader (unifyLineEnds chars) with failure | built
  · rw [loaded] at holds
    cases holds
  · rw [loaded] at holds
    exact distinct_of_ofBuilt (sound _ _ loaded) holds

end Document

end Markup

/-! ## Settings -/

namespace Settings

variable {loader : Markup.Loader} {settings changed lower merged : Settings}
  {environment : Environment} {files : Files} {table : List Override} {key : String} {value : Value}

theorem distinct_of_set? (distinct : settings.content.Distinct) (fits : value.Distinct)
    (done : settings.set? key value = .ok changed) : changed.content.Distinct := by
  rcases set?_eq_ok done with ⟨content, written, rfl⟩
  exact distinct.assign fits written

theorem distinct_of_merge? (distinct : settings.content.Distinct) (fits : value.Distinct)
    (done : settings.merge? value = .ok changed) : changed.content.Distinct := by
  unfold merge? at done
  split at done
  · rcases Except.ok.inj done with rfl
    exact distinct.merge _ fits
  · cases done

theorem distinct_of_mergeFile (sound : loader.IsPlain) (distinct : lower.content.Distinct)
    {name : Value} (done : lower.mergeFile loader files name = .ok merged) :
    merged.content.Distinct := by
  rcases mergeFile_eq_ok done with ⟨entries, shelf, layer, rfl⟩
  refine distinct.merge entries ?_
  cases layer with
  | unnamed | vacant => trivial
  | settings _ holds => exact Markup.Document.distinct_of_read sound holds

theorem Override.distinct_of_parse {override : Override} {raw : String}
    (parsed : override.parse raw = .ok value) : value.Distinct := by
  unfold parse at parsed
  split at parsed
  · exact Except.ok.inj parsed ▸ trivial
  · split at parsed
    · exact Except.ok.inj parsed ▸ trivial
    · cases parsed

theorem distinct_of_override (distinct : settings.content.Distinct)
    (ran : settings.override environment table = .ok changed) : changed.content.Distinct := by
  induction table generalizing settings with
  | nil => exact override_nil_eq_ok.mp ran ▸ distinct
  | cons next table ih =>
      rcases override_cons_eq_ok.mp ran with ⟨between, applies, rest⟩
      refine ih ?_ rest
      cases applies with
      | unset => exact distinct
      | set _ parsed written => exact distinct.assign (Override.distinct_of_parse parsed) written

theorem distinct_packaged : packaged.Distinct := by
  simp [packaged, Mapping.distinct_ofFields, Value.Distinct]

theorem distinct_of_ofDefaults (sound : loader.IsPlain) {defaults : Defaults}
    (based : ofDefaults loader files defaults = .ok lower) : lower.content.Distinct := by
  have empty : ({} : Settings).content.Distinct := trivial
  unfold ofDefaults at based
  split at based
  · exact Except.ok.inj based ▸ distinct_packaged
  · exact Except.ok.inj based ▸ empty
  · split at based
    · exact distinct_of_mergeFile sound empty based
    · exact Except.ok.inj based ▸ empty
    · cases based
  · cases based

/-- Whatever settings are loaded, their keys are distinct. -/
theorem distinct_of_load (sound : loader.IsPlain) {defaults : Defaults} {file : Value}
    (loaded : load loader files environment defaults file = .ok settings) :
    settings.content.Distinct := by
  rw [load_eq_bind, load_bare] at loaded
  rcases based : ofDefaults loader files defaults with failure | lower
  · simp [based, Except.bind] at loaded
  · have distinct := distinct_of_ofDefaults sound based
    simp only [based, Except.bind] at loaded
    split at loaded
    · cases loaded
    · next merged ran =>
      refine distinct_of_override ?_ loaded
      split at ran
      · exact Except.ok.inj ran ▸ distinct
      · exact distinct_of_mergeFile sound distinct ran

/-- No change undoes this. -/
theorem distinct_of_changeWith (sound : loader.IsPlain) (distinct : settings.content.Distinct)
    {name : String} {arguments : List Value} (fit : ∀ value ∈ arguments, value.Distinct)
    (done : settings.changeWith loader files name arguments = .ok changed) :
    changed.content.Distinct := by
  unfold changeWith at done
  split at done
  · exact distinct_of_set? distinct (fit _ (by simp)) done
  · cases done
  · exact distinct_of_merge? distinct (fit _ (by simp)) done
  · exact distinct_of_mergeFile sound distinct done
  · cases done

/-- A copy of loaded settings is the settings, and restores them. -/
theorem load_restoredByCopy (sound : loader.IsPlain) {defaults : Defaults} {file : Value}
    (loaded : load loader files environment defaults file = .ok settings) :
    settings.RestoredByCopy :=
  restoredByCopy (distinct_of_load sound loaded)

end Settings

/-- The settings that a process loads are restored by a copy of them. -/
theorem Workspace.load_restoredByCopy {workspace after : Workspace} {number : Nat}
    {defaults : Settings.Defaults} {file : Value}
    (loaded : workspace.load defaults file = .ok (number, after)) :
    (after.settings number).RestoredByCopy := by
  unfold Workspace.load at loaded
  rcases ran :
      Settings.load Markup.loader workspace.files workspace.variableTexts defaults file with
    failure | settings
  · rw [ran] at loaded
    cases loaded
  · rw [ran] at loaded
    cases loaded
    rw [Workspace.settings, Array.getD_eq_getD_getElem?, Array.getElem?_push_size]
    exact Settings.load_restoredByCopy Markup.loader_isPlain ran

end ShardFleet
