import ShardFleet.Value.Basic

/-!
# Mappings up to the order of their entries

The order of the entries of a mapping says when their keys came, and nothing else depends on it. Two
mappings that differ only in this, in themselves or in a section at any depth, hold the same under
every key, and the same change to both leaves them so. The spellings of keys are not up for change:
neither mapping has an entry that the other spells otherwise.
-/

namespace ShardFleet

namespace Mapping

/-- To prove something of all mappings, their values do not have to be gone into. -/
@[elab_as_elim, induction_eliminator]
theorem entriesInduction {motive : Mapping → Prop} (empty : motive .empty)
    (entry : ∀ key value older, motive older → motive (.entry key value older))
    (entries : Mapping) : motive entries := by
  induction entries using Mapping.rec (motive_1 := fun _ => True) (motive_3 := fun _ => True) with
  | empty => exact empty
  | entry key value older _ ih => exact entry key value older ih
  | _ => trivial

/-- Two mappings with the same entries but for their order, here and in the sections inside. -/
inductive Reorders : Mapping → Mapping → Prop
  | refl (entries : Mapping) : Reorders entries entries
  | entry (key : Key) (value : Value) {older others : Mapping} (reordered : Reorders older others) :
      Reorders (.entry key value older) (.entry key value others)
  | inside (key : Key) {inner other : Mapping} (older : Mapping)
      (reordered : Reorders inner other) :
      Reorders (.entry key (.mapping inner) older) (.entry key (.mapping other) older)
  | swap {key other : Key} (first second : Value) (older : Mapping)
      (different : key.identity ≠ other.identity) :
      Reorders (.entry key first (.entry other second older))
        (.entry other second (.entry key first older))
  | trans {entries between others : Mapping} (before : Reorders entries between)
      (after : Reorders between others) : Reorders entries others

end Mapping

/-- Two values that are the same, or mappings that are the same up to order. -/
inductive Value.Reorders : Value → Value → Prop
  | refl (value : Value) : Reorders value value
  | mapping {entries others : Mapping} (reordered : entries.Reorders others) :
      Reorders (.mapping entries) (.mapping others)

namespace Value

theorem Reorders.trans {value between other : Value} (before : value.Reorders between)
    (after : between.Reorders other) : value.Reorders other := by
  cases before with
  | refl => exact after
  | mapping reordered =>
      cases after with
      | refl => exact .mapping reordered
      | mapping further => exact .mapping (reordered.trans further)

end Value

namespace Mapping

variable {entries others : Mapping} {key other : Key} {value another : Value}

theorem Reorders.symm (reordered : entries.Reorders others) : others.Reorders entries := by
  induction reordered with
  | refl entries => exact .refl entries
  | entry key value _ ih => exact .entry key value ih
  | inside key older _ ih => exact .inside key older ih
  | swap first second older different => exact .swap second first older (Ne.symm different)
  | trans _ _ before after => exact after.trans before

/-- What one of two such mappings holds under a key, the other one holds under it. -/
theorem Reorders.find?_eq_some (reordered : entries.Reorders others)
    (found : entries.find? key = some value) :
    ∃ held, others.find? key = some held ∧ value.Reorders held := by
  induction reordered generalizing value with
  | refl => exact ⟨value, found, .refl value⟩
  | entry present standing _ ih =>
      by_cases same : present.identity = key.identity
      · simp only [find?, same, if_true, Option.some.injEq] at found ⊢
        exact ⟨standing, rfl, found ▸ .refl standing⟩
      · simp only [find?, same, if_false] at found ⊢
        exact ih found
  | @inside present inner changed older reordered _ =>
      by_cases same : present.identity = key.identity
      · simp only [find?, same, if_true, Option.some.injEq] at found ⊢
        exact ⟨.mapping changed, rfl, found ▸ .mapping reordered⟩
      · simp only [find?, same, if_false] at found ⊢
        exact ⟨value, found, .refl value⟩
  | @swap one another first second older different =>
      refine ⟨value, ?_, .refl value⟩
      by_cases same : one.identity = key.identity
      · have apart : another.identity ≠ key.identity := fun equal =>
          different (same.trans equal.symm)
        simpa [find?, same, apart] using found
      · simpa [find?, same] using found
  | trans _ _ before after =>
      rcases before found with ⟨middle, among, alike⟩
      rcases after among with ⟨held, within, further⟩
      exact ⟨held, within, alike.trans further⟩

theorem Reorders.find?_eq_none (reordered : entries.Reorders others)
    (absent : entries.find? key = none) : others.find? key = none := by
  rcases found : others.find? key with _ | held
  · rfl
  · rcases reordered.symm.find?_eq_some found with ⟨value, within, -⟩
    exact absurd (within.symm.trans absent) (Option.some_ne_none value)

theorem Reorders.isSome_find? (reordered : entries.Reorders others) (key : Key) :
    (entries.find? key).isSome = (others.find? key).isSome := by
  rcases found : entries.find? key with _ | value
  · rw [reordered.find?_eq_none found]
  · rcases reordered.find?_eq_some found with ⟨held, within, -⟩
    rw [within, Option.isSome_some, Option.isSome_some]

/-! ## Insertion -/

theorem insert_of_present {held : Value} (present : entries.find? key = some held) :
    entries.insert key value = insert.replace key value entries := by
  simp [Mapping.insert, present]

theorem insert_of_absent (absent : entries.find? key = none) :
    entries.insert key value = .entry key value entries := by
  simp [Mapping.insert, absent]

theorem replace_eq_self (found : entries.find? key = some value) :
    insert.replace key value entries = entries := by
  induction entries with
  | empty => rfl
  | entry present standing older ih =>
      by_cases same : present.identity = key.identity
      · simp only [find?, same, if_true, Option.some.injEq] at found
        simp [insert.replace, same, found]
      · simp only [find?, same, if_false] at found
        simp [insert.replace, same, ih found]

/-- To insert what is there changes nothing. -/
theorem insert_eq_self (found : entries.find? key = some value) :
    entries.insert key value = entries :=
  (insert_of_present found).trans (replace_eq_self found)

theorem Reorders.replace (reordered : entries.Reorders others) (key : Key) (value : Value) :
    (insert.replace key value entries).Reorders (insert.replace key value others) := by
  induction reordered with
  | refl => exact .refl _
  | @entry present standing older others reordered ih =>
      by_cases same : present.identity = key.identity
      · simpa [insert.replace, same] using Reorders.entry present value reordered
      · simpa [insert.replace, same] using Reorders.entry present standing ih
  | @inside present inner changed older reordered _ =>
      by_cases same : present.identity = key.identity
      · simpa [insert.replace, same] using Reorders.refl (.entry present value older)
      · simpa [insert.replace, same] using Reorders.inside present _ reordered
  | @swap one another first second older different =>
      by_cases same : one.identity = key.identity
      · have apart : another.identity ≠ key.identity := fun equal =>
          different (same.trans equal.symm)
        simpa [insert.replace, same, apart] using Reorders.swap value second older different
      · by_cases other : another.identity = key.identity
        · simpa [insert.replace, same, other] using Reorders.swap first value older different
        · simpa [insert.replace, same, other] using Reorders.swap first second _ different
  | trans _ _ before after => exact before.trans after

theorem reorders_replace_of_value (entries : Mapping) (alike : value.Reorders another) :
    (insert.replace key value entries).Reorders (insert.replace key another entries) := by
  cases alike with
  | refl => exact .refl _
  | mapping reordered =>
      induction entries with
      | empty => exact .refl _
      | entry present standing older ih =>
          by_cases same : present.identity = key.identity
          · simpa [insert.replace, same] using Reorders.inside present older reordered
          · simpa [insert.replace, same] using Reorders.entry present standing ih

/-- Mappings that are the same up to order stay so if what is inserted in them is. -/
theorem Reorders.insert (reordered : entries.Reorders others) (key : Key)
    (alike : value.Reorders another) :
    (entries.insert key value).Reorders (others.insert key another) := by
  simp only [Mapping.insert, reordered.isSome_find? key]
  split
  · exact (reordered.replace key value).trans (reorders_replace_of_value others alike)
  · refine (Reorders.entry key value reordered).trans ?_
    cases alike with
    | refl => exact .refl _
    | mapping inner => exact .inside key others inner

theorem replace_replace (entries : Mapping) :
    insert.replace key another (insert.replace key value entries) =
      insert.replace key another entries := by
  induction entries with
  | empty => rfl
  | entry present standing older ih =>
      by_cases same : present.identity = key.identity
      · simp [insert.replace, same]
      · simp [insert.replace, same, ih]

/-- Of two values inserted at the same key the later one stays. -/
theorem insert_insert (entries : Mapping) :
    (entries.insert key value).insert key another = entries.insert key another := by
  rw [insert_of_present (find?_insert_self entries key value)]
  rcases found : entries.find? key with _ | held
  · rw [insert_of_absent found, insert_of_absent found, insert.replace, if_pos rfl]
  · rw [insert_of_present found, insert_of_present found, replace_replace]

theorem replace_comm (entries : Mapping) (different : key.identity ≠ other.identity) :
    insert.replace other another (insert.replace key value entries) =
      insert.replace key value (insert.replace other another entries) := by
  induction entries with
  | empty => rfl
  | entry present standing older ih =>
      by_cases same : present.identity = key.identity
      · have apart : present.identity ≠ other.identity := fun equal =>
          different (same.symm.trans equal)
        simp [insert.replace, same, different]
      · by_cases there : present.identity = other.identity
        · simp [insert.replace, there, Ne.symm different]
        · simp [insert.replace, same, there, ih]

theorem replace_entry (different : other.identity ≠ key.identity) :
    insert.replace key value (.entry other another entries) =
      .entry other another (insert.replace key value entries) := if_neg different

/-- Of two insertions at different keys either can come first: that shows in the order of the
entries alone, and only if both keys are new. -/
theorem insert_comm (entries : Mapping) (value another : Value)
    (different : key.identity ≠ other.identity) :
    ((entries.insert key value).insert other another).Reorders
      ((entries.insert other another).insert key value) := by
  have apart : other.identity ≠ key.identity := Ne.symm different
  have later := find?_insert_of_ne entries value apart
  have earlier := find?_insert_of_ne entries another different
  rcases here : entries.find? key with _ | held <;>
    rcases there : entries.find? other with _ | standing
  · rw [insert_of_absent (later.trans there), insert_of_absent (earlier.trans here),
      insert_of_absent here, insert_of_absent there]
    exact .swap another value entries apart
  · rw [insert_of_present (later.trans there), insert_of_absent (earlier.trans here),
      insert_of_absent here, insert_of_present there, replace_entry different]
    exact .refl _
  · rw [insert_of_absent (later.trans there), insert_of_present (earlier.trans here),
      insert_of_absent there, insert_of_present here, replace_entry apart]
    exact .refl _
  · rw [insert_of_present (later.trans there), insert_of_present (earlier.trans here),
      insert_of_present here, insert_of_present there, replace_comm entries different]
    exact .refl _

end Mapping

end ShardFleet
