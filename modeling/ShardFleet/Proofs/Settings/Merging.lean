import ShardFleet.Proofs.Settings.Writing

/-!
# Merged mappings, path by path

What stands at the end of a path in a merge depends on what stands there in the mapping laid over
and in the base. A section over a section is merged with it in turn, and whatever else the mapping
laid over has takes the place. Where it has nothing the base shows through, unless something of it
that is no section is in the way: that hides all that the base has further in.
-/

namespace ShardFleet

mutual

/-- Whether the keys of a value, if it is a section, are distinct, and so in the sections inside. -/
def Value.Distinct : Value → Prop
  | .mapping entries => entries.Distinct
  | _ => True

/-- Whether the keys of a mapping are distinct, and so in the sections inside. -/
def Mapping.Distinct : Mapping → Prop
  | .empty => True
  | .entry key value older => older.find? key = none ∧ value.Distinct ∧ older.Distinct

end

namespace Mapping

open Settings

variable {base laid entries inner : Mapping} {key other : Key} {below : Option Value}
  {value : Value} {part name : String} {path : List String}

theorem find?_congr (entries : Mapping) (same : key.identity = other.identity) :
    entries.find? key = entries.find? other := by
  induction entries with
  | empty => rfl
  | entry present standing older ih => simp [find?, same, ih]

theorem Distinct.find? (distinct : entries.Distinct) (found : entries.find? key = some value) :
    value.Distinct := by
  induction entries with
  | empty => cases found
  | entry present standing older ih =>
      rcases distinct with ⟨-, here, further⟩
      by_cases same : present.identity = key.identity
      · simp only [Mapping.find?, same, if_true, Option.some.injEq] at found
        exact found ▸ here
      · simp only [Mapping.find?, same, if_false] at found
        exact ih further found

/-- Whatever is further in than a part of a path is in the section there. -/
theorem lookup?_cons_cons_eq_some :
    entries.lookup? (part :: name :: path) = some value ↔
      ∃ inner, entries.field? part = some (.mapping inner) ∧
        inner.lookup? (name :: path) = some value := by
  rw [lookup?_cons_cons]
  cases entries.field? part using Value.casesFound with
  | absent => simp [sectionOf?, lookup?_empty]
  | nested inner => simp [sectionOf?]
  | plain held plain =>
      have otherwise (inner : Mapping) : held ≠ .mapping inner := fun same => plain ⟨inner, same⟩
      simp [sectionOf?_of_not_isSection plain, otherwise]

theorem Distinct.lookup? (distinct : entries.Distinct) (found : entries.lookup? path = some value) :
    value.Distinct := by
  induction path generalizing entries with
  | nil => exact Option.some.inj found ▸ distinct
  | cons part path ih =>
      cases path with
      | nil => exact distinct.find? found
      | cons name path =>
          rcases lookup?_cons_cons_eq_some.mp found with ⟨inner, held, further⟩
          exact ih (distinct.find? held) further

/-! ## One value over another -/

/-- The section that a value is, or an empty one in place of anything else. -/
def sectionIn : Option Value → Mapping
  | some (.mapping inner) => inner
  | _ => .empty

theorem sectionIn_eq_sectionOf? (below : Option Value) :
    sectionIn below = (sectionOf? below).getD .empty := by
  cases below using Value.casesFound with
  | absent => rfl
  | nested inner => rfl
  | plain held plain =>
      rw [sectionOf?_of_not_isSection plain]
      cases held with
      | mapping inner => exact absurd (Value.isSection_mapping inner) plain
      | _ => rfl

theorem sectionIn_of_not_isSection (plain : ∀ inner, below ≠ some (.mapping inner)) :
    sectionIn below = .empty := by
  cases below using Value.casesFound with
  | absent => rfl
  | nested inner => exact absurd rfl (plain inner)
  | plain held isPlain => rw [sectionIn_eq_sectionOf?, sectionOf?_of_not_isSection isPlain]; rfl

theorem over_mapping (below : Option Value) (entries : Mapping) :
    Value.over below (.mapping entries) = .mapping ((sectionIn below).merge entries) := by
  cases below using Value.casesFound with
  | absent => rfl
  | nested inner => rfl
  | plain held plain =>
      cases held with
      | mapping inner => exact absurd (Value.isSection_mapping inner) plain
      | _ => rfl

theorem over_of_not_isSection (below : Option Value) (plain : ¬value.IsSection) :
    Value.over below value = value := by
  cases value with
  | mapping entries => exact absurd (Value.isSection_mapping entries) plain
  | _ => rfl

/-- A path goes on in the section at its first part; where there is none it leads to nothing. -/
theorem lookup?_sectionIn (entries : Mapping) (part name : String) (path : List String) :
    entries.lookup? (part :: name :: path) =
      (sectionIn (entries.field? part)).lookup? (name :: path) := by
  rw [lookup?_cons_cons, sectionIn_eq_sectionOf?]
  cases sectionOf? (entries.field? part) with
  | none => exact (lookup?_empty name path).symm
  | some inner => rfl

/-! ## One key -/

@[simp] theorem merge_empty (base : Mapping) : base.merge .empty = base := by
  rw [Mapping.merge]

theorem merge_entry (base : Mapping) (key : Key) (value : Value) (older : Mapping) :
    base.merge (.entry key value older) =
      (base.merge older).insert key (Value.over (base.find? key) value) := by
  rw [Mapping.merge]

theorem find?_merge_of_none (absent : laid.find? key = none) :
    (base.merge laid).find? key = base.find? key := by
  induction laid with
  | empty => rw [merge_empty]
  | entry present standing older ih =>
      by_cases same : present.identity = key.identity
      · simp [find?, same] at absent
      · simp only [find?, same, if_false] at absent
        rw [merge_entry, find?_insert_of_ne _ _ (Ne.symm same), ih absent]

theorem find?_merge_of_some (found : laid.find? key = some value) :
    (base.merge laid).find? key = some (Value.over (base.find? key) value) := by
  induction laid with
  | empty => cases found
  | entry present standing older ih =>
      by_cases same : present.identity = key.identity
      · simp only [find?, same, if_true, Option.some.injEq] at found
        rw [merge_entry, ← find?_congr _ same, find?_insert_self, find?_congr base same, found]
      · simp only [find?, same, if_false] at found
        rw [merge_entry, find?_insert_of_ne _ _ (Ne.symm same), ih found]

theorem field?_merge_of_section (held : laid.field? part = some (.mapping inner)) :
    (base.merge laid).field? part =
      some (.mapping ((sectionIn (base.field? part)).merge inner)) := by
  rw [← over_mapping]
  exact find?_merge_of_some held

end Mapping

/-! ## Over nothing -/

mutual

theorem Value.over_none : ∀ value : Value, value.Distinct → Value.over none value = value
  | .mapping entries, distinct => by
      rw [Mapping.over_mapping]
      exact congrArg Value.mapping (Mapping.empty_merge entries distinct)
  | .null, _ | .bool _, _ | .int _, _ | .float _, _ | .text _, _ | .datum _, _ | .list _, _
  | .pair _ _, _ | .set _, _ | .kept _ _, _ => rfl

/-- Laid over nothing a mapping stays as it is, as long as its keys are distinct. -/
theorem Mapping.empty_merge : ∀ entries : Mapping, entries.Distinct →
    Mapping.empty.merge entries = entries
  | .empty, _ => Mapping.merge_empty .empty
  | .entry key value older, ⟨absent, here, further⟩ => by
      rw [Mapping.merge_entry, Mapping.empty_merge older further, Mapping.find?_empty,
        Value.over_none value here, Mapping.insert_of_absent absent]

end

namespace Mapping

open Settings

variable {base laid entries inner : Mapping} {value : Value} {part name : String}
  {path front : List String}

/-! ## One path -/

theorem lookup?_merge_of_some (found : laid.lookup? path = some value) :
    (base.merge laid).lookup? path = some (Value.over (base.lookup? path) value) := by
  induction path generalizing base laid with
  | nil =>
      cases Option.some.inj found
      rw [over_mapping]
      rfl
  | cons part path ih =>
      cases path with
      | nil => exact find?_merge_of_some found
      | cons name path =>
          rcases lookup?_cons_cons_eq_some.mp found with ⟨inner, held, further⟩
          rw [lookup?_sectionIn, lookup?_sectionIn base, field?_merge_of_section held]
          exact ih further

/-- Where nothing stands in the mapping laid over, the base shows through if nothing is in the way.
-/
theorem lookup?_merge_of_clear (absent : laid.lookup? path = none)
    (clear : ∀ front, ¬laid.Blocks path front) :
    (base.merge laid).lookup? path = base.lookup? path := by
  induction path generalizing base laid with
  | nil => cases absent
  | cons part path ih =>
      cases path with
      | nil => exact find?_merge_of_none absent
      | cons name path =>
          rcases held : laid.field? part with _ | above
          · exact lookup?_congr (find?_merge_of_none held) _
          · by_cases onward : above.IsSection
            · rcases onward with ⟨inner, rfl⟩
              rw [lookup?_sectionIn, held] at absent
              rw [lookup?_sectionIn, lookup?_sectionIn base, field?_merge_of_section held]
              refine ih absent fun front blocks => clear (part :: front) ?_
              exact blocks_cons_cons.mpr (.inr ⟨inner, front, by rw [held]; rfl, rfl, blocks⟩)
            · have blocked : sectionOf? (laid.field? part) = none :=
                sectionOf?_eq_none.mpr ⟨above, held, onward⟩
              exact absurd (blocks_cons_cons.mpr (.inl ⟨blocked, rfl⟩)) (clear [part])

/-- What is in the way of a path in the mapping laid over is in the way in the merge. -/
theorem Blocks.merge (blocks : laid.Blocks path front) : (base.merge laid).Blocks path front := by
  rcases blocks.blocking with ⟨value, found, plain⟩
  refine ⟨blocks.before, blocks.proper, value, ?_, plain⟩
  rw [lookup?_merge_of_some found, over_of_not_isSection _ plain]

/-- Nothing is further in than what is in the way. -/
theorem Blocks.lookup?_eq_none (blocks : entries.Blocks path front) :
    entries.lookup? path = none := by
  rcases blocks.blocking with ⟨value, found, plain⟩
  rcases blocks.before with ⟨rest, rfl⟩
  cases rest with
  | nil => exact absurd (List.append_nil front).symm blocks.proper
  | cons name rest =>
      rw [lookup?_append, found, Option.bind_some]
      cases value with
      | mapping entries => exact absurd (Value.isSection_mapping entries) plain
      | _ => rfl

/-- What stands at the end of a path in a merge. -/
structure MergesAt (base laid : Mapping) (path : List String) : Prop where
  /-- Anything of the mapping laid over that is no section. -/
  replaced : ∀ value, laid.lookup? path = some value → ¬value.IsSection →
    (base.merge laid).lookup? path = some value
  merged : ∀ below above, base.lookup? path = some (.mapping below) →
    laid.lookup? path = some (.mapping above) →
    (base.merge laid).lookup? path = some (.mapping (below.merge above))
  /-- A section that is laid over no section is as it was. -/
  taken : ∀ above, laid.lookup? path = some (.mapping above) →
    (∀ below, base.lookup? path ≠ some (.mapping below)) →
    (base.merge laid).lookup? path = some (.mapping above)
  hidden : laid.lookup? path = none → (∃ front, laid.Blocks path front) →
    (base.merge laid).lookup? path = none
  kept : laid.lookup? path = none → (∀ front, ¬laid.Blocks path front) →
    (base.merge laid).lookup? path = base.lookup? path

theorem merge_mergesAt (base : Mapping) (distinct : laid.Distinct) (path : List String) :
    base.MergesAt laid path where
  replaced value found plain := by
    rw [lookup?_merge_of_some found, over_of_not_isSection _ plain]
  merged below above under found := by
    rw [lookup?_merge_of_some found, under, over_mapping]
    rfl
  taken above found plain := by
    have keys : above.Distinct := distinct.lookup? found
    rw [lookup?_merge_of_some found, over_mapping, sectionIn_of_not_isSection plain,
      empty_merge above keys]
  hidden _ := fun ⟨_, blocks⟩ => blocks.merge.lookup?_eq_none
  kept absent clear := lookup?_merge_of_clear absent clear

/-- A section with one of its own and a number. -/
def sectioned : Mapping :=
  .ofFields [("cluster", .mapping (.ofFields [
    ("shards", .mapping (.ofFields [("count", .int 1)])), ("routers", .int 2)]))]

/-- A number in place of the inner section. -/
def flattened : Mapping :=
  .ofFields [("cluster", .mapping (.ofFields [("shards", .int 5)]))]

/-- The number hides what is inside the section that it takes the place of, and nothing beside it.
-/
theorem merge_mergesAt_flattened :
    flattened.Distinct ∧
      (sectioned.merge flattened).lookup? ["cluster", "shards", "count"] = none ∧
      (sectioned.merge flattened).lookup? ["cluster", "routers"] = some (.int 2) := by
  have distinct : flattened.Distinct := ⟨rfl, ⟨rfl, trivial, trivial⟩, trivial⟩
  refine ⟨distinct, ?_, ?_⟩
  · refine (merge_mergesAt sectioned distinct ["cluster", "shards", "count"]).hidden rfl
      ⟨["cluster", "shards"], ⟨["count"], rfl⟩, by decide, .int 5, rfl, ?_⟩
    rintro ⟨entries, isSection⟩
    cases isSection
  · refine (merge_mergesAt sectioned distinct ["cluster", "routers"]).kept rfl ?_
    intro front blocks
    have refused : flattened.assign .null ["cluster", "routers"] = .error _ :=
      assign_eq_error_iff.mpr ⟨front, blocks, rfl⟩
    cases refused

end Mapping

end ShardFleet
