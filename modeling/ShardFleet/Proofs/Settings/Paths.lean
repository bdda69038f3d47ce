import ShardFleet.Proofs.Settings.Reordering
import ShardFleet.Settings.Basic

/-!
# Writing at a path

A value written at the end of a path is read there again, and at every path that neither leads on
from the one written nor is led on from by it nothing changes, whichever sections are shared by the
two. So two writes at such paths can be made in either order, up to the order of entries: what one
of them needs to find on its way, the other one leaves.
-/

namespace ShardFleet

namespace Value

/-- What a path can lead on through. -/
def IsSection (value : Value) : Prop := ∃ entries, value = .mapping entries

theorem isSection_mapping (entries : Mapping) : (Value.mapping entries).IsSection := ⟨entries, rfl⟩

/-- What can be found somewhere: nothing, a section or something else. -/
@[elab_as_elim]
theorem casesFound {motive : Option Value → Prop} (found : Option Value) (absent : motive none)
    (nested : ∀ inner, motive (some (.mapping inner)))
    (plain : ∀ value, ¬value.IsSection → motive (some value)) : motive found := by
  rcases found with _ | value
  · exact absent
  · by_cases isSection : value.IsSection
    · rcases isSection with ⟨inner, rfl⟩
      exact nested inner
    · exact plain value isSection

end Value

namespace Settings

/-- Two paths neither of which leads on from the other. -/
def Apart (path other : List String) : Prop := ¬path <+: other ∧ ¬other <+: path

instance (path other : List String) : Decidable (Apart path other) :=
  inferInstanceAs (Decidable (_ ∧ _))

variable {path other : List String} {part name : String}

theorem Apart.symm (apart : Apart path other) : Apart other path := ⟨apart.2, apart.1⟩

theorem Apart.ne_nil (apart : Apart path other) : path ≠ [] :=
  fun empty => apart.1 (empty ▸ List.nil_prefix)

theorem Apart.tail (apart : Apart (part :: path) (part :: other)) : Apart path other := by
  simpa only [Apart, List.prefix_cons_inj] using apart

end Settings

namespace Mapping

open Settings

variable {entries others result inner : Mapping} {value another : Value} {part name : String}
  {path other : List String}

@[simp] theorem field?_insert_self (entries : Mapping) (name : String) (value : Value) :
    (entries.insert (.text name) value).field? name = some value := find?_insert_self _ _ _

theorem field?_insert_of_ne (entries : Mapping) (value : Value) (different : name ≠ part) :
    (entries.insert (.text part) value).field? name = entries.field? name :=
  find?_insert_of_ne entries value fun same => different (Key.text.inj same)

/-! ## Sections -/

/-- The section that a place has or can be given: an empty one if nothing is there yet, and none if
something else is. -/
def sectionOf? : Option Value → Option Mapping
  | none => some .empty
  | some (.mapping inner) => some inner
  | some _ => none

theorem sectionOf?_of_not_isSection (plain : ¬value.IsSection) :
    sectionOf? (some value) = none := by
  cases value with
  | mapping inner => exact absurd (Value.isSection_mapping inner) plain
  | _ => rfl

theorem lookup?_empty (name : String) (path : List String) :
    Mapping.empty.lookup? (name :: path) = none := by
  cases path <;> rfl

/-- Reading goes through the section at the first part of a path. An empty section holds nothing, so
it does not matter whether it is there. -/
theorem lookup?_cons_cons (entries : Mapping) (part name : String) (path : List String) :
    entries.lookup? (part :: name :: path) =
      (sectionOf? (entries.field? part)).bind (·.lookup? (name :: path)) := by
  rw [lookup?]
  · cases entries.field? part using Value.casesFound with
    | absent => exact (lookup?_empty name path).symm
    | nested inner => rfl
    | plain value plain =>
        rw [sectionOf?_of_not_isSection plain]
        cases value with
        | mapping inner => exact absurd (Value.isSection_mapping inner) plain
        | _ => rfl
  · exact List.cons_ne_nil name path

theorem lookup?_congr (same : entries.field? part = others.field? part) (path : List String) :
    entries.lookup? (part :: path) = others.lookup? (part :: path) := by
  cases path with
  | nil => exact same
  | cons name path => rw [lookup?_cons_cons, lookup?_cons_cons, same]

/-- A reordering of a mapping has the reordered section. -/
theorem Reorders.sectionOf? (reordered : entries.Reorders others)
    (found : sectionOf? (entries.field? part) = some inner) :
    ∃ other, Mapping.sectionOf? (others.field? part) = some other ∧ inner.Reorders other := by
  rcases held : entries.field? part with _ | value
  · have absent : others.field? part = none := reordered.find?_eq_none held
    rw [held] at found
    exact ⟨inner, by rw [absent]; exact found, .refl inner⟩
  · rcases reordered.find?_eq_some held with ⟨standing, among, alike⟩
    rw [held] at found
    cases alike with
    | refl => exact ⟨inner, by rw [field?, among]; exact found, .refl inner⟩
    | @mapping present stored inside =>
        cases Option.some.inj found
        exact ⟨stored, by rw [field?, among]; rfl, inside⟩

/-! ## One part after the other -/

/-- A write goes on in the section at the first part of its path, which is made if nothing is there.
-/
theorem assign_of_sectionOf?_eq_some (found : sectionOf? (entries.field? part) = some inner) :
    entries.assign value (part :: name :: path) =
      (inner.assign value (name :: path)).map
        fun changed => entries.insert (.text part) (.mapping changed) := by
  rw [assign]
  generalize entries.field? part = held at found
  cases held using Value.casesFound with
  | absent =>
      cases Option.some.inj found
      cases Mapping.empty.assign value (name :: path) <;> simp [Except.map]
  | nested other =>
      cases Option.some.inj found
      cases written : inner.assign value (name :: path) <;> simp [written, Except.map]
  | plain held plain => cases found.symm.trans (sectionOf?_of_not_isSection plain)

theorem assign_of_sectionOf?_eq_none (missing : sectionOf? (entries.field? part) = none) :
    entries.assign value (part :: name :: path) =
      .error (if path.isEmpty then .wrongKind else .noFields) := by
  rw [assign]
  generalize entries.field? part = held at missing
  cases held using Value.casesFound with
  | absent => cases missing
  | nested other => cases missing
  | plain held plain =>
      cases held with
      | mapping inner => exact absurd (Value.isSection_mapping inner) plain
      | _ => rfl

/-- What is written under the first part of a path: the value itself at the end of the path, and
else the section there with the value written further in. -/
inductive Places (below : Option Value) (value : Value) : List String → Value → Prop
  | last : Places below value [] value
  | further {name : String} {path : List String} {inner changed : Mapping}
      (found : sectionOf? below = some inner)
      (written : inner.assign value (name :: path) = .ok changed) :
      Places below value (name :: path) (.mapping changed)

/-- A write at a path inserts one thing, under the first part of it. -/
theorem assign_cons_eq_ok :
    entries.assign value (part :: path) = .ok result ↔
      ∃ placed, Places (entries.field? part) value path placed ∧
        result = entries.insert (.text part) placed := by
  cases path with
  | nil =>
      rw [assign, Except.ok.injEq]
      constructor
      · rintro rfl
        exact ⟨value, .last, rfl⟩
      · rintro ⟨placed, ⟨⟩, rfl⟩
        rfl
  | cons name path =>
      have through : (∃ placed, Places (entries.field? part) value (name :: path) placed ∧
          result = entries.insert (.text part) placed) ↔
          ∃ inner changed, sectionOf? (entries.field? part) = some inner ∧
            inner.assign value (name :: path) = .ok changed ∧
            result = entries.insert (.text part) (.mapping changed) := by
        constructor
        · rintro ⟨placed, ⟨⟩ | ⟨found, written⟩, rfl⟩
          exact ⟨_, _, found, written, rfl⟩
        · rintro ⟨inner, changed, found, written, rfl⟩
          exact ⟨_, .further found written, rfl⟩
      rw [through]
      rcases found : sectionOf? (entries.field? part) with _ | inner
      · simp [assign_of_sectionOf?_eq_none found]
      · rw [assign_of_sectionOf?_eq_some found]
        rcases written : inner.assign value (name :: path) with failure | changed <;>
          simp [written, Except.map, eq_comm]

/-- What was written is there afterwards. -/
theorem lookup?_assign_self (nonempty : path ≠ [])
    (written : entries.assign value path = .ok result) : result.lookup? path = some value := by
  induction path generalizing entries result with
  | nil => exact absurd rfl nonempty
  | cons part path ih =>
      rcases assign_cons_eq_ok.mp written with ⟨placed, places, rfl⟩
      cases places with
      | last => exact field?_insert_self entries part value
      | further found further =>
          rw [lookup?_cons_cons, field?_insert_self]
          exact ih (List.cons_ne_nil _ _) further

/-- Nothing else is changed by a write than what is on the path to it and beyond it. -/
theorem lookup?_assign_of_apart (apart : Apart other path)
    (written : entries.assign value path = .ok result) :
    result.lookup? other = entries.lookup? other := by
  induction path generalizing entries result other with
  | nil => exact absurd rfl apart.symm.ne_nil
  | cons part path ih =>
      rcases assign_cons_eq_ok.mp written with ⟨placed, places, rfl⟩
      rcases other with _ | ⟨first, other⟩
      · exact absurd rfl apart.ne_nil
      by_cases same : first = part
      · subst same
        cases places with
        | last => exact absurd rfl apart.tail.symm.ne_nil
        | further found further =>
            rcases List.exists_cons_of_ne_nil apart.tail.ne_nil with ⟨next, rest, rfl⟩
            rw [lookup?_cons_cons, lookup?_cons_cons, field?_insert_self, found]
            exact ih apart.tail further
      · exact lookup?_congr (field?_insert_of_ne entries placed same) other

/-- What can be written in a mapping can be written in each reordering of it. -/
theorem Reorders.assign (reordered : entries.Reorders others)
    (written : entries.assign value path = .ok result) :
    ∃ another, others.assign value path = .ok another ∧ result.Reorders another := by
  induction path generalizing entries others result with
  | nil =>
      cases Except.ok.inj written
      exact ⟨others, rfl, reordered⟩
  | cons part path ih =>
      rcases assign_cons_eq_ok.mp written with ⟨placed, places, rfl⟩
      cases places with
      | last =>
          exact ⟨_, assign_cons_eq_ok.mpr ⟨value, .last, rfl⟩, reordered.insert _ (.refl value)⟩
      | further found further =>
          rcases reordered.sectionOf? found with ⟨other, among, alike⟩
          rcases ih alike further with ⟨changed, within, still⟩
          exact ⟨_, assign_cons_eq_ok.mpr ⟨_, .further among within, rfl⟩,
            reordered.insert _ (.mapping still)⟩

/-- Two writes at paths apart can be made in either order. -/
theorem assign_comm {between : Mapping} (apart : Apart path other)
    (first : entries.assign value path = .ok between)
    (second : between.assign another other = .ok result) :
    ∃ middle last, entries.assign another other = .ok middle ∧
      middle.assign value path = .ok last ∧ result.Reorders last := by
  induction path generalizing entries between result other with
  | nil => exact absurd rfl apart.ne_nil
  | cons part path ih =>
      rcases assign_cons_eq_ok.mp first with ⟨placed, places, rfl⟩
      rcases List.exists_cons_of_ne_nil apart.symm.ne_nil with ⟨name, other, rfl⟩
      rcases assign_cons_eq_ok.mp second with ⟨put, puts, rfl⟩
      by_cases same : name = part
      · -- Both go through the section at their first part, and are apart inside it.
        subst same
        rw [field?_insert_self] at puts
        cases places with
        | last => exact absurd rfl apart.tail.ne_nil
        | further found further =>
            cases puts with
            | last => exact absurd rfl apart.tail.symm.ne_nil
            | further among within =>
                rcases Option.some.inj among with rfl
                rcases ih apart.tail further within with ⟨middle, last, earlier, later, alike⟩
                refine ⟨_, _, assign_cons_eq_ok.mpr ⟨_, .further found earlier, rfl⟩,
                  assign_cons_eq_ok.mpr ⟨_, .further ?_ later, rfl⟩, ?_⟩
                · rw [field?_insert_self]
                  rfl
                · rw [insert_insert, insert_insert]
                  exact (Reorders.refl entries).insert _ (.mapping alike)
      · rw [field?_insert_of_ne entries placed same] at puts
        refine ⟨_, _, assign_cons_eq_ok.mpr ⟨put, puts, rfl⟩,
          assign_cons_eq_ok.mpr ⟨placed, ?_, rfl⟩, insert_comm entries placed put ?_⟩
        · rwa [field?_insert_of_ne entries put (Ne.symm same)]
        · exact fun equal => same (Key.text.inj equal).symm

end Mapping

end ShardFleet
