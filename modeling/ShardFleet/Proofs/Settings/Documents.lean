import Mathlib.Data.List.Chain
import Mathlib.Data.List.Duplicate
import Mathlib.Data.List.NodupEquivFin
import Mathlib.Logic.Relation
import ShardFleet.Settings.Layer

/-!
# Documents that settings are loaded from

A document that holds a mapping, or nothing, gives settings or nothing to lay over others, with one
exception: where a section stands inside itself there is no end to the sections. The sections of a
document are followed for more steps than it has collections. Whoever gets that far has come through
one of them twice, so what is then given up is just what has no end.
-/

namespace ShardFleet

/-- A function fails on a list if and only if it fails on one of the items. -/
theorem mapM_eq_none_iff {α β : Type} {get? : α → Option β} {items : List α} :
    items.mapM get? = none ↔ ∃ item ∈ items, get? item = none := by
  induction items with
  | nil => simp
  | cons item items ih =>
      rcases given : get? item with _ | value
      · simp [given]
      · rcases further : items.mapM get? with _ | values
        · simpa [given, further] using ih.mp further
        · have all := mt ih.mpr (further ▸ Option.some_ne_none values)
          simpa [given, further] using all

/-- What a function gives on a list it gives on the items. -/
theorem exists_of_mapM_eq_some {α β : Type} {get? : α → Option β} {items : List α}
    {values : List β} (given : items.mapM get? = some values) {value : β} (among : value ∈ values) :
    ∃ item ∈ items, get? item = some value := by
  induction items generalizing values with
  | nil =>
      have empty : [] = values := by simpa using given
      subst empty
      cases among
  | cons item items ih =>
      rw [List.mapM_cons] at given
      rcases Option.bind_eq_some_iff.mp given with ⟨first, here, rest⟩
      rcases Option.bind_eq_some_iff.mp rest with ⟨others, there, whole⟩
      cases Option.some.inj whole
      rcases List.mem_cons.mp among with rfl | among
      · exact ⟨item, List.mem_cons_self, here⟩
      · rcases ih there among with ⟨other, member, gives⟩
        exact ⟨other, List.mem_cons_of_mem _ member, gives⟩

namespace Markup

namespace Built

variable {built : Built} {first depth : ℕ} {number inner : NodeNumber} {piece : Piece}
  {content : Content} {fields : List (Key × Piece)}

/-- A section has another one, or itself, for a field. -/
def Nests (built : Built) (number inner : NodeNumber) : Prop :=
  ∃ fields key, built.content? number = some (.fields fields) ∧ (key, .collection inner) ∈ fields

/-- From a section on, field by field, one leads to a section that is inside itself. -/
def ReachesItself (built : Built) (number : NodeNumber) : Prop :=
  ∃ inner, Relation.ReflTransGen built.Nests number inner ∧
    Relation.TransGen built.Nests inner inner

/-- Whether the root is a mapping, or a value that is vacant. -/
def isFit (built : Built) : Bool :=
  match built.root with
  | .leaf value => value.isVacant
  | .undefined _ _ => false
  | .collection number =>
      match built.content? number with
      | some (.items (_ :: _)) => false
      | some (.entries (_ :: _)) => false
      | some (.members (_ :: _)) => false
      | _ => true

/-- There is no end to the sections of the root. -/
def IsEndless (built : Built) : Prop :=
  ∃ number, built.root = .collection number ∧ built.ReachesItself number

/-! ## Sections inside sections -/

theorem lt_size_of_content? (held : built.content? number = some content) :
    number < built.contents.size := by
  by_contra beyond
  rw [content?, Array.getD_eq_getD_getElem?, Array.getElem?_eq_none (not_lt.mp beyond)] at held
  cases held

theorem Nests.lt_size (nests : built.Nests number inner) : number < built.contents.size := by
  rcases nests with ⟨fields, key, held, -⟩
  exact lt_size_of_content? held

/-- Only a collection can be without a value. -/
theorem exists_collection_of_settings?_eq_none (lacks : built.settings? first depth piece = none) :
    ∃ inner, piece = .collection inner := by
  cases piece with
  | collection inner => exact ⟨inner, rfl⟩
  | leaf | undefined => cases depth <;> cases lacks

/-- A section is without a value if and only if one of its sections is, a step further in. -/
theorem settings?_succ_eq_none_iff :
    built.settings? first (depth + 1) (.collection number) = none ↔
      ∃ inner, built.Nests number inner ∧
        built.settings? first depth (.collection inner) = none := by
  constructor
  · intro lacks
    unfold settings? at lacks
    split at lacks
    · next fields held =>
      rcases mapM_eq_none_iff.mp (Option.map_eq_none_iff.mp lacks) with ⟨field, among, without⟩
      rw [Option.map_eq_none_iff] at without
      rcases exists_collection_of_settings?_eq_none without with ⟨inner, same⟩
      exact ⟨inner, ⟨fields, field.1, held, same ▸ among⟩, same ▸ without⟩
    · cases lacks
  · rintro ⟨inner, ⟨fields, key, held, among⟩, lacks⟩
    rw [settings?, held]
    exact Option.map_eq_none_iff.mpr
      (mapM_eq_none_iff.mpr ⟨_, among, Option.map_eq_none_iff.mpr lacks⟩)

theorem ReachesItself.next (reaches : built.ReachesItself number) :
    ∃ inner, built.Nests number inner ∧ built.ReachesItself inner := by
  rcases reaches with ⟨last, path, circle⟩
  rcases path.cases_head with rfl | ⟨inner, nests, rest⟩
  · rcases Relation.TransGen.head'_iff.mp circle with ⟨inner, nests, back⟩
    exact ⟨inner, nests, number, back, circle⟩
  · exact ⟨inner, nests, last, rest, circle⟩

theorem ReachesItself.settings?_eq_none (reaches : built.ReachesItself number) :
    built.settings? first depth (.collection number) = none := by
  induction depth generalizing number with
  | zero => rfl
  | succ depth ih =>
      rcases reaches.next with ⟨inner, nests, onward⟩
      exact settings?_succ_eq_none_iff.mpr ⟨inner, nests, ih onward⟩

/-- Sections that are given up after so many steps are in each other, one for each step. -/
theorem exists_nested_of_settings?_eq_none
    (lacks : built.settings? first (depth + 1) (.collection number) = none) :
    ∃ numbers : List NodeNumber, numbers.length = depth ∧
      (number :: numbers).IsChain built.Nests ∧
      ∀ other ∈ number :: numbers, other < built.contents.size := by
  induction depth generalizing number with
  | zero =>
      rcases settings?_succ_eq_none_iff.mp lacks with ⟨inner, nests, -⟩
      exact ⟨[], rfl, .singleton number, by simpa using nests.lt_size⟩
  | succ depth ih =>
      rcases settings?_succ_eq_none_iff.mp lacks with ⟨inner, nests, further⟩
      rcases ih further with ⟨numbers, length, chain, bounded⟩
      exact ⟨inner :: numbers, congrArg (· + 1) length, .cons_cons nests chain,
        List.forall_mem_cons.mpr ⟨nests.lt_size, bounded⟩⟩

/-- More sections in each other than there are collections come to one of them twice. -/
theorem reachesItself_of_chain {numbers : List NodeNumber}
    (chain : (number :: numbers).IsChain built.Nests)
    (bounded : ∀ other ∈ number :: numbers, other < built.contents.size)
    (long : built.contents.size ≤ numbers.length) : built.ReachesItself number := by
  have leads : (number :: numbers).Pairwise (Relation.TransGen built.Nests) :=
    List.isChain_iff_pairwise.mp (chain.imp fun _ _ => .single)
  have twice : ¬(number :: numbers).Nodup := by
    intro distinct
    have among : number :: numbers ⊆ List.range built.contents.size :=
      fun other member => List.mem_range.mpr (bounded other member)
    have short := (List.subperm_of_subset distinct among).length_le
    rw [List.length_cons, List.length_range] at short
    omega
  rcases List.exists_duplicate_iff_not_nodup.mpr twice with ⟨inner, duplicate⟩
  have circle : Relation.TransGen built.Nests inner inner :=
    List.pairwise_pair.mp (leads.sublist (List.duplicate_iff_sublist.mp duplicate))
  refine ⟨inner, ?_, circle⟩
  rcases List.mem_cons.mp duplicate.mem with rfl | later
  · exact .refl
  · exact (List.rel_of_pairwise_cons leads later).to_reflTransGen

theorem settings?_eq_none_iff :
    built.settings? first (built.contents.size + 1) (.collection number) = none ↔
      built.ReachesItself number := by
  constructor
  · intro lacks
    rcases exists_nested_of_settings?_eq_none lacks with ⟨numbers, length, chain, bounded⟩
    exact reachesItself_of_chain chain bounded length.ge
  · exact ReachesItself.settings?_eq_none

/-- Only a mapping that is not empty has sections. -/
theorem ReachesItself.content? (reaches : built.ReachesItself number) :
    ∃ field fields, built.content? number = some (.fields (field :: fields)) := by
  rcases reaches.next with ⟨inner, ⟨fields, key, held, among⟩, -⟩
  rcases List.exists_cons_of_ne_nil (List.ne_nil_of_mem among) with ⟨field, rest, rfl⟩
  exact ⟨field, rest, held⟩

end Built

namespace Document

variable {loader : Loader} {built : Built} {first : ℕ} {chars : List Char}

/-! ## What a document comes to -/

/-- Whether a document is loaded, and with a fit root. -/
def isFit (loader : Loader) (chars : List Char) : Bool :=
  match loader (unifyLineEnds chars) with
  | .ok built => built.isFit
  | .error _ => false

/-- There is no end to the sections of what a document holds. -/
def IsEndless (loader : Loader) (chars : List Char) : Prop :=
  ∃ built, loader (unifyLineEnds chars) = .ok built ∧ built.IsEndless

/-- What is read of a document that can be laid over settings. -/
inductive Lays : Except Failure Document → Prop
  | vacant : Lays (.ok .vacant)
  | settings (entries : Mapping) (shelf : Shelf) : Lays (.ok (.settings entries shelf))

theorem ofBuilt_of_isEndless (endless : built.IsEndless) :
    ofBuilt first built = .error (.endless .collection) := by
  rcases endless with ⟨number, root, reaches⟩
  rcases reaches.content? with ⟨field, fields, held⟩
  simp [ofBuilt, root, held, reaches.settings?_eq_none]

theorem ofBuilt_lays (first : ℕ) (fit : built.isFit) (ends : ¬built.IsEndless) :
    Lays (ofBuilt first built) := by
  unfold Built.isFit at fit
  unfold ofBuilt
  cases root : built.root with
  | leaf value =>
      have vacant : value.isVacant := by simpa [root] using fit
      simpa [vacant] using Lays.vacant
  | undefined => simp [root] at fit
  | collection number =>
      simp only [root] at fit ⊢
      rcases held : built.content? number with
        _ | (_ | ⟨piece, pieces⟩) | (_ | ⟨pair, pairs⟩) | (_ | ⟨field, fields⟩) | (_ | ⟨key, keys⟩)
      case some.fields.cons =>
        rcases given : built.settings? first (built.contents.size + 1) (.collection number) with
          _ | value
        · exact absurd ⟨number, root, Built.settings?_eq_none_iff.mp given⟩ ends
        · rw [Built.settings?, held, Option.map_eq_some_iff] at given
          rcases given with ⟨entries, -, rfl⟩
          exact .settings _ _
      case some.items.cons | some.entries.cons | some.members.cons => simp [held] at fit
      all_goals exact .vacant

theorem read_of_isEndless (endless : IsEndless loader chars) :
    read loader first chars = .error (.endless .collection) := by
  rcases endless with ⟨built, loaded, endless⟩
  rw [read, loaded]
  exact ofBuilt_of_isEndless endless

theorem read_lays (first : ℕ) (fit : isFit loader chars) (ends : ¬IsEndless loader chars) :
    Lays (read loader first chars) := by
  unfold isFit at fit
  rw [read]
  rcases loaded : loader (unifyLineEnds chars) with failure | built
  · simp [loaded] at fit
  · rw [loaded] at fit
    exact ofBuilt_lays first fit fun endless => ends ⟨built, loaded, endless⟩

end Document

end Markup

/-! ## What a file comes to -/

namespace Files

/-- Whether what a value names is there and holds a fit document. -/
def holdsFit (loader : Markup.Loader) (files : Files) (name : Value) : Bool :=
  match files.readNamed name with
  | .ok chars => Markup.Document.isFit loader chars
  | .error _ => false

def HoldsEndless (loader : Markup.Loader) (files : Files) (name : Value) : Prop :=
  ∃ chars, files.readNamed name = .ok chars ∧ Markup.Document.IsEndless loader chars

end Files

namespace Settings

variable {loader : Markup.Loader} {files : Files} {lower : Settings} {name : Value}
  {defaults : Defaults}

theorem mergeFile_of_readNamed {chars : List Char} (given : files.readNamed name = .ok chars) :
    lower.mergeFile loader files name = lower.mergeDocument loader chars := by
  rw [mergeFile, given]

theorem mergeFile_of_holdsEndless (endless : files.HoldsEndless loader name) :
    lower.mergeFile loader files name = .error (.endless .collection) := by
  rcases endless with ⟨chars, given, endless⟩
  rw [mergeFile_of_readNamed given]
  unfold mergeDocument
  rw [Markup.Document.read_of_isEndless endless]

theorem mergeFile_of_holdsFit (lower : Settings) (fit : files.holdsFit loader name)
    (ends : ¬files.HoldsEndless loader name) :
    ∃ merged, lower.mergeFile loader files name = .ok merged := by
  unfold Files.holdsFit at fit
  split at fit
  · next chars given =>
    have lays := Markup.Document.read_lays lower.shelf.size fit fun endless =>
      ends ⟨chars, given, endless⟩
    rw [mergeFile_of_readNamed given]
    unfold mergeDocument
    generalize Markup.Document.read loader lower.shelf.size chars = outcome at lays
    cases lays with
    | vacant => exact ⟨_, rfl⟩
    | settings => exact ⟨_, rfl⟩
  · contradiction

namespace Defaults

/-- Whether a file of defaults, if there is one, holds a fit document. -/
def areFit (loader : Markup.Loader) (files : Files) : Defaults → Bool
  | .packaged => true
  | .none => true
  | .file (.text name) =>
      match files.holds name with
      | .ok true => files.holdsFit loader (.text name)
      | .ok false => true
      | .error _ => false
  | .file _ => false

def AreEndless (loader : Markup.Loader) (files : Files) : Defaults → Prop
  | .file (.text name) => files.holds name = .ok true ∧ files.HoldsEndless loader (.text name)
  | _ => False

end Defaults

theorem ofDefaults_of_areEndless (endless : defaults.AreEndless loader files) :
    ofDefaults loader files defaults = .error (.endless .collection) := by
  unfold Defaults.AreEndless at endless
  split at endless
  · rw [ofDefaults, endless.1]
    exact mergeFile_of_holdsEndless endless.2
  · contradiction

theorem ofDefaults_of_areFit (fit : defaults.areFit loader files)
    (ends : ¬defaults.AreEndless loader files) :
    ∃ lower, ofDefaults loader files defaults = .ok lower := by
  unfold Defaults.areFit at fit
  split at fit
  · exact ⟨_, rfl⟩
  · exact ⟨_, rfl⟩
  · next name =>
    rcases found : files.holds name with failure | (_ | _)
    · simp [found] at fit
    · exact ⟨{}, by rw [ofDefaults, found]⟩
    · rw [ofDefaults, found]
      simp only [found] at fit
      exact mergeFile_of_holdsFit {} fit fun endless => ends ⟨found, endless⟩
  · contradiction

end Settings

end ShardFleet
