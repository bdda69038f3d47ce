import ShardFleet.Proofs.Settings.Overrides
import ShardFleet.Value.Place

/-!
# Settings that are written

A value can be set at a dotted key unless something that is no section is in the way. Then it is
read there, and further in is whatever it holds itself; every key before it leads to a section, and
all other keys read as they did. The sections on the way are made one by one as they are come to,
and yet a write that fails leaves none behind: what is in the way stands in a section that was there
before, so nothing can be in the way behind the first section that has to be made.
-/

namespace ShardFleet

namespace Value

variable {value : Value} {front back : Place}

/-- What stands at a place inside a value, where each key but the last leads to a section. -/
def inside? : Place → Value → Option Value
  | [], value => some value
  | key :: rest, .mapping entries => (entries.find? key).bind (inside? rest)
  | _ :: _, _ => none

theorem inside?_of_not_isSection {key : Key} {place : Place} (plain : ¬value.IsSection) :
    value.inside? (key :: place) = none := by
  cases value with
  | mapping entries => exact absurd (isSection_mapping entries) plain
  | _ => rfl

theorem inside?_append (value : Value) :
    value.inside? (front ++ back) = (value.inside? front).bind (inside? back) := by
  induction front generalizing value with
  | nil => rfl
  | cons key front ih =>
      cases value with
      | mapping entries =>
          rcases found : entries.find? key with _ | inner
          · simp [inside?, found]
          · simpa [inside?, found] using ih inner
      | _ => rfl

end Value

theorem Shelf.unfold_mapping (shelf : Shelf) (entries : Mapping) :
    ∃ unfolded, shelf.unfold (.mapping entries) = .mapping unfolded := ⟨_, rfl⟩

namespace Mapping

open Settings

variable {entries result inner : Mapping} {below : Option Value} {value another : Value}
  {part name : String} {path other front : List String} {failure : Failure}

theorem lookup?_eq_inside? (entries : Mapping) (path : List String) :
    entries.lookup? path = (Value.mapping entries).inside? (path.map .text) := by
  induction path generalizing entries with
  | nil => rfl
  | cons part path ih =>
      cases path with
      | nil =>
          show entries.field? part = (entries.find? (.text part)).bind some
          rw [Option.bind_fun_some, field?]
      | cons name path =>
          show _ = (entries.field? part).bind (Value.inside? ((name :: path).map .text))
          rw [lookup?_cons_cons]
          cases entries.field? part using Value.casesFound with
          | absent => exact lookup?_empty name path
          | nested inner => exact ih inner
          | plain value plain =>
              rw [sectionOf?_of_not_isSection plain]
              exact (Value.inside?_of_not_isSection plain).symm

/-- Reading at a path goes on at the end of its front. -/
theorem lookup?_append (entries : Mapping) (front path : List String) :
    entries.lookup? (front ++ path) =
      (entries.lookup? front).bind (Value.inside? (path.map .text)) := by
  rw [lookup?_eq_inside?, lookup?_eq_inside?, List.map_append, Value.inside?_append]

/-! ## What is in the way -/

theorem sectionOf?_eq_none :
    sectionOf? below = none ↔ ∃ value, below = some value ∧ ¬value.IsSection := by
  cases below using Value.casesFound with
  | absent => simp [sectionOf?]
  | nested inner => simp [sectionOf?, Value.isSection_mapping]
  | plain value plain => simp [sectionOf?_of_not_isSection plain, plain]

/-- At the end of a front of the path, before its last part, stands something that is no section. A
mapping is a section itself, so the front has at least one part. -/
structure Blocks (entries : Mapping) (path front : List String) : Prop where
  before : front <+: path
  proper : front ≠ path
  blocking : ∃ value, entries.lookup? front = some value ∧ ¬value.IsSection

/-- How a write fails by what is in the way: its entries cannot be set if the last part of the path
comes next, and else it has no sections. -/
def refusal (path front : List String) : Failure :=
  if path.length = front.length + 1 then .wrongKind else .noFields

theorem Blocks.ne_nil (blocks : entries.Blocks path front) : front ≠ [] := by
  rintro rfl
  rcases blocks.blocking with ⟨value, found, plain⟩
  cases Option.some.inj found
  exact plain (Value.isSection_mapping entries)

theorem not_blocks_singleton : ¬entries.Blocks [part] front := by
  intro blocks
  rcases List.prefix_cons_iff.mp blocks.before with rfl | ⟨front, rfl, before⟩
  · exact blocks.ne_nil rfl
  · rcases List.prefix_nil.mp before with rfl
    exact blocks.proper rfl

/-- What is in the way stands at the first part of the path or inside the section there. -/
theorem blocks_cons_cons :
    entries.Blocks (part :: name :: path) front ↔
      (sectionOf? (entries.field? part) = none ∧ front = [part]) ∨
      ∃ inner tail, sectionOf? (entries.field? part) = some inner ∧ front = part :: tail ∧
        inner.Blocks (name :: path) tail := by
  constructor
  · intro blocks
    rcases blocks.blocking with ⟨value, found, plain⟩
    rcases List.prefix_cons_iff.mp blocks.before with rfl | ⟨tail, rfl, before⟩
    · exact absurd rfl blocks.ne_nil
    · rcases tail with _ | ⟨next, tail⟩
      · exact .inl ⟨sectionOf?_eq_none.mpr ⟨value, found, plain⟩, rfl⟩
      · rw [lookup?_cons_cons] at found
        rcases Option.bind_eq_some_iff.mp found with ⟨inner, among, further⟩
        exact .inr ⟨inner, _, among, rfl, before, fun same => blocks.proper (same ▸ rfl),
          value, further, plain⟩
  · rintro (⟨missing, rfl⟩ | ⟨inner, tail, among, rfl, blocks⟩)
    · rcases sectionOf?_eq_none.mp missing with ⟨value, found, plain⟩
      exact ⟨⟨_, rfl⟩, by simp, value, found, plain⟩
    · rcases blocks.blocking with ⟨value, found, plain⟩
      rcases List.exists_cons_of_ne_nil blocks.ne_nil with ⟨next, rest, rfl⟩
      refine ⟨List.prefix_cons_inj part |>.mpr blocks.before,
        fun same => blocks.proper (List.cons.inj same).2, value, ?_, plain⟩
      rw [lookup?_cons_cons, among]
      exact found

theorem refusal_singleton (part name : String) (path : List String) :
    refusal (part :: name :: path) [part] = if path.isEmpty then .wrongKind else .noFields := by
  cases path <;> simp [refusal]

theorem refusal_cons (part : String) (path front : List String) :
    refusal (part :: path) (part :: front) = refusal path front := by
  simp [refusal]

theorem assign_cons_cons_eq_error :
    entries.assign value (part :: name :: path) = .error failure ↔
      (sectionOf? (entries.field? part) = none ∧
        failure = refusal (part :: name :: path) [part]) ∨
      ∃ inner, sectionOf? (entries.field? part) = some inner ∧
        inner.assign value (name :: path) = .error failure := by
  rw [refusal_singleton part name path]
  rcases found : sectionOf? (entries.field? part) with _ | inner
  · simp only [assign_of_sectionOf?_eq_none found, Except.error.injEq, true_and, reduceCtorEq,
      false_and, exists_false, or_false]
    exact eq_comm
  · rw [assign_of_sectionOf?_eq_some found]
    rcases written : inner.assign value (name :: path) with failure | changed <;>
      simp [written, Except.map]

/-- A write fails by what is in the way, and by nothing else. -/
theorem assign_eq_error_iff :
    entries.assign value path = .error failure ↔
      ∃ front, entries.Blocks path front ∧ failure = refusal path front := by
  induction path generalizing entries with
  | nil =>
      constructor
      · intro failed
        cases failed
      · rintro ⟨front, blocks, -⟩
        exact absurd (List.prefix_nil.mp blocks.before) blocks.ne_nil
  | cons part path ih =>
      cases path with
      | nil =>
          constructor
          · intro failed
            cases failed
          · rintro ⟨front, blocks, -⟩
            exact absurd blocks not_blocks_singleton
      | cons name path =>
          rw [assign_cons_cons_eq_error]
          constructor
          · rintro (⟨missing, refused⟩ | ⟨inner, among, failed⟩)
            · exact ⟨[part], blocks_cons_cons.mpr (.inl ⟨missing, rfl⟩), refused⟩
            · rcases ih.mp failed with ⟨front, blocks, refused⟩
              exact ⟨part :: front, blocks_cons_cons.mpr (.inr ⟨inner, front, among, rfl, blocks⟩),
                refused.trans (refusal_cons part _ front).symm⟩
          · rintro ⟨front, blocks, refused⟩
            rcases blocks_cons_cons.mp blocks with
              ⟨missing, rfl⟩ | ⟨inner, tail, among, rfl, inside⟩
            · exact .inl ⟨missing, refused⟩
            · exact .inr ⟨inner, among,
                ih.mpr ⟨tail, inside, refused.trans (refusal_cons part _ tail)⟩⟩

theorem not_blocks_empty : ¬Mapping.empty.Blocks path front := by
  intro blocks
  rcases blocks.blocking with ⟨value, found, -⟩
  rcases List.exists_cons_of_ne_nil blocks.ne_nil with ⟨part, rest, rfl⟩
  exact Option.some_ne_none value (found.symm.trans (lookup?_empty part rest))

/-! ## Before the end of the path, and elsewhere -/

/-- What a path leads through once something is written at its end are sections. -/
theorem lookup?_assign_before (written : entries.assign value path = .ok result)
    (before : front <+: path) (proper : front ≠ path) :
    ∃ inner, result.lookup? front = some (.mapping inner) := by
  induction path generalizing entries result front with
  | nil => exact absurd (List.prefix_nil.mp before) proper
  | cons part path ih =>
      rcases assign_cons_eq_ok.mp written with ⟨placed, places, rfl⟩
      rcases List.prefix_cons_iff.mp before with rfl | ⟨tail, rfl, onward⟩
      · exact ⟨_, rfl⟩
      · have short : tail ≠ path := fun same => proper (same ▸ rfl)
        cases places with
        | last => exact absurd (List.prefix_nil.mp onward) short
        | @further name path inner changed found further =>
            rcases tail with _ | ⟨next, tail⟩
            · exact ⟨changed, field?_insert_self entries part _⟩
            · rw [lookup?_cons_cons, field?_insert_self]
              exact ih further onward short

/-- A write puts nothing in the way of a path apart from its own, and clears nothing out of it. -/
theorem blocks_assign_of_apart (apart : Apart path other)
    (written : entries.assign value path = .ok result) :
    result.Blocks other front ↔ entries.Blocks other front := by
  by_cases above : front <+: path
  · -- The write has come through here itself.
    have clear : ¬result.Blocks other front := by
      rintro ⟨before, proper, held, found, plain⟩
      have short : front ≠ path := fun same => apart.1 (same ▸ before)
      rcases lookup?_assign_before written above short with ⟨inner, reached⟩
      rcases Option.some.inj (found.symm.trans reached) with rfl
      exact plain (Value.isSection_mapping inner)
    refine iff_of_false clear ?_
    rintro ⟨before, proper, blocking⟩
    have short : front ≠ path := fun same => apart.1 (same ▸ before)
    have failed : entries.assign value path = .error (refusal path front) :=
      assign_eq_error_iff.mpr ⟨front, ⟨above, short, blocking⟩, rfl⟩
    cases failed.symm.trans written
  · by_cases before : front <+: other
    · have aside : Apart front path := ⟨above, fun below => apart.1 (below.trans before)⟩
      have same := lookup?_assign_of_apart aside written
      exact ⟨fun ⟨_, proper, blocking⟩ => ⟨before, proper, same ▸ blocking⟩,
        fun ⟨_, proper, blocking⟩ => ⟨before, proper, same.symm ▸ blocking⟩⟩
    · exact iff_of_false (fun blocks => before blocks.before) fun blocks => before blocks.before

theorem assign_eq_error_of_apart (apart : Apart path other)
    (written : entries.assign value path = .ok result) :
    result.assign another other = .error failure ↔
      entries.assign another other = .error failure := by
  simp only [assign_eq_error_iff, blocks_assign_of_apart apart written]

/-! ## In place -/

/-- Writes at a path part by part: what it comes to, and the mapping that is left. A section that is
missing is made as soon as the path comes to it, and stays, whatever is further on. -/
def write (entries : Mapping) (value : Value) : List String → Except Failure Unit × Mapping
  | [] => (.ok (), entries)
  | [part] => (.ok (), entries.insert (.text part) value)
  | part :: next :: rest =>
      match (entries.field? part).getD (.mapping .empty) with
      | .mapping inner =>
          let (outcome, left) := inner.write value (next :: rest)
          (outcome, entries.insert (.text part) (.mapping left))
      | _ => (.error (if rest.isEmpty then .wrongKind else .noFields), entries)

/-- Nothing is left behind by a write that fails. -/
theorem write_eq (entries : Mapping) (value : Value) (path : List String) :
    entries.write value path =
      match entries.assign value path with
      | .ok result => (.ok (), result)
      | .error failure => (.error failure, entries) := by
  induction path generalizing entries with
  | nil => rfl
  | cons part path ih =>
      cases path with
      | nil => rfl
      | cons name path =>
          rw [write, assign]
          generalize found : entries.field? part = held
          cases held using Value.casesFound with
          | absent =>
              -- Nothing can be in the way inside a section that has just been made.
              rcases written : Mapping.empty.assign value (name :: path) with failure | changed
              · rcases assign_eq_error_iff.mp written with ⟨front, blocks, -⟩
                exact absurd blocks not_blocks_empty
              · simp [ih, written]
          | nested inner =>
              rcases written : inner.assign value (name :: path) with failure | changed
              · simpa [ih, written] using insert_eq_self found
              · simp [ih, written]
          | plain held plain =>
              cases held with
              | mapping inner => exact absurd (Value.isSection_mapping inner) plain
              | _ => rfl

theorem write_of_ok (written : entries.assign value path = .ok result) :
    entries.write value path = (.ok (), result) := by
  rw [write_eq, written]

theorem write_of_error (failed : entries.assign value path = .error failure) :
    entries.write value path = (.error failure, entries) := by
  rw [write_eq, failed]

/-- A write comes to the same after another one at a path apart from its own. -/
theorem write_after (apart : Apart path other) :
    ((entries.write value path).2.write another other).1 = (entries.write another other).1 := by
  rcases written : entries.assign value path with failure | result
  · rw [write_of_error written]
  · rw [write_of_ok written, write_eq, write_eq entries]
    have alike (failure : Failure) : result.assign another other = .error failure ↔
        entries.assign another other = .error failure :=
      assign_eq_error_of_apart apart written
    rcases later : result.assign another other with failure | last
    · rw [(alike failure).mp later]
    · rcases alone : entries.assign another other with failure | middle
      · cases later.symm.trans ((alike failure).mpr alone)
      · rfl

/-- Two writes at paths apart leave the same in either order, up to the order of entries. -/
theorem write_comm (apart : Apart path other) :
    ((entries.write value path).2.write another other).2.Reorders
      ((entries.write another other).2.write value path).2 := by
  rcases first : entries.assign value path with failure | result
  · rw [write_of_error first]
    rcases second : entries.assign another other with _ | middle
    · rw [write_of_error second, write_of_error first]
      exact .refl entries
    · rw [write_of_ok second,
        write_of_error ((assign_eq_error_of_apart apart.symm second).mpr first)]
      exact .refl middle
  · rw [write_of_ok first]
    rcases second : result.assign another other with failure | last
    · have alone := (assign_eq_error_of_apart apart first).mp second
      rw [write_of_error second, write_of_error alone, write_of_ok first]
      exact .refl result
    · rcases assign_comm apart first second with ⟨middle, other, before, after, alike⟩
      rw [write_of_ok second, write_of_ok before, write_of_ok after]
      exact alike

end Mapping

namespace Settings

variable {settings changed : Settings} {key : String} {value : Value} {failure : Failure}

/-- Sets a value at a dotted key in place: what it comes to, and the settings that are left. -/
def write (settings : Settings) (key : String) (value : Value) : Except Failure Unit × Settings :=
  let (outcome, content) := settings.content.write value (pathOf key)
  (outcome, { settings with content })

theorem set?_eq_ok (done : settings.set? key value = .ok changed) :
    ∃ content, settings.content.assign value (pathOf key) = .ok content ∧
      changed = { settings with content } := by
  rcases written : settings.content.assign value (pathOf key) with failure | content
  · simp [set?, written, Except.map] at done
  · exact ⟨content, rfl, by simpa [set?, written, Except.map, eq_comm] using done⟩

theorem set?_eq_error_iff :
    settings.set? key value = .error failure ↔
      settings.content.assign value (pathOf key) = .error failure := by
  rcases written : settings.content.assign value (pathOf key) with failure | content <;>
    simp [set?, written, Except.map]

theorem write_eq (settings : Settings) (key : String) (value : Value) :
    settings.write key value =
      match settings.set? key value with
      | .ok changed => (.ok (), changed)
      | .error failure => (.error failure, settings) := by
  rw [write, Mapping.write_eq, set?]
  rcases settings.content.assign value (pathOf key) with failure | content <;> rfl

/-- How settings read after a value was set at a key. -/
structure HoldsSet (settings : Settings) (key : String) (value : Value) (changed : Settings) :
    Prop where
  /-- The value is read, with the collections that it refers to in their places. -/
  here : ∀ fallback, changed.get key fallback = settings.shelf.unfold value
  alone : value.StandsAlone → ∀ fallback, changed.get key fallback = value
  /-- A key that leads on from this one reads what the value holds there, if anything. -/
  further : ∀ other rest, pathOf other = pathOf key ++ rest → ∀ fallback,
    changed.get other fallback =
      settings.shelf.unfold ((value.inside? (rest.map .text)).getD fallback)
  /-- A key that leads to this one reads a section. -/
  before : ∀ other, pathOf other <+: pathOf key → pathOf other ≠ pathOf key →
    ∃ entries, ∀ fallback, changed.get other fallback = .mapping entries
  /-- Any other key reads the same as before, or nothing as before. -/
  elsewhere : ∀ other, Apart (pathOf other) (pathOf key) → ∀ fallback,
    changed.get other fallback = settings.get other fallback

theorem holdsSet_of_set? (done : settings.set? key value = .ok changed) :
    settings.HoldsSet key value changed := by
  rcases set?_eq_ok done with ⟨content, written, rfl⟩
  have there := Mapping.lookup?_assign_self (pathOf_ne_nil key) written
  constructor
  · intro fallback
    rw [get, there, Option.getD_some]
  · intro alone fallback
    rw [get, there, Option.getD_some, Shelf.unfold_of_standsAlone _ alone]
  · intro other rest leads fallback
    rw [get, leads, Mapping.lookup?_append, there, Option.bind_some]
  · intro other leads short
    rcases Mapping.lookup?_assign_before written leads short with ⟨inner, found⟩
    rcases settings.shelf.unfold_mapping inner with ⟨unfolded, same⟩
    refine ⟨unfolded, fun fallback => ?_⟩
    rw [get, found, Option.getD_some, same]
  · intro other apart fallback
    rw [get, get, Mapping.lookup?_assign_of_apart apart written]

/-- What it is to set a value at a key, and nothing else. -/
structure SetsExactly (settings : Settings) (key : String) (value : Value) : Prop where
  /-- It fails if and only if something that is no section is in the way. -/
  fails_iff : ∀ failure, settings.set? key value = .error failure ↔
    ∃ front, settings.content.Blocks (pathOf key) front ∧
      failure = Mapping.refusal (pathOf key) front
  /-- Done in place, it leaves the settings as they were if it fails. -/
  atomic : settings.write key value =
    match settings.set? key value with
    | .ok changed => (.ok (), changed)
    | .error failure => (.error failure, settings)
  holds : ∀ changed, settings.set? key value = .ok changed → settings.HoldsSet key value changed
  /-- In either order with a value set at a key apart from this one, each of the two is set, or
  fails to be set, just as it is alone, and what is left is the same up to the order of entries. -/
  commutes : ∀ other another, Apart (pathOf key) (pathOf other) →
    ((settings.write other another).2.write key value).1 = (settings.write key value).1 ∧
    ((settings.write key value).2.write other another).1 = (settings.write other another).1 ∧
    ((settings.write key value).2.write other another).2.Reorders
      ((settings.write other another).2.write key value).2

theorem set_setsExactly (settings : Settings) (key : String) (value : Value) :
    settings.SetsExactly key value where
  fails_iff _ := set?_eq_error_iff.trans Mapping.assign_eq_error_iff
  atomic := write_eq settings key value
  holds _ done := holdsSet_of_set? done
  commutes _ _ apart :=
    ⟨Mapping.write_after apart.symm, Mapping.write_after apart, Mapping.write_comm apart, rfl⟩

end Settings

end ShardFleet
