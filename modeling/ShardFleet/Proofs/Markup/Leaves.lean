import ShardFleet.Markup.Content
import ShardFleet.Proofs.Settings.Writing

/-!
# Leaves of a document

What a scalar of a document stands for is never a mapping, so the leaves of what is built of a
document have no sections. This is kept by every step of building: a piece is kept when it is a
collection that is begun or comes from a scalar, and the fields of a mapping are pieces.
-/

namespace ShardFleet.Markup

namespace Piece

/-- Not a leaf that would be a section. -/
def IsPlain : Piece → Prop
  | .leaf value => ¬value.IsSection
  | _ => True

theorem isPlain_ofScalar {value : Value} (plain : ¬value.IsSection) (number : NodeNumber)
    (text : String) : (ofScalar number text value).IsPlain := by
  unfold ofScalar
  split
  · split
    · trivial
    · exact plain
  · exact plain

end Piece

/-- All pieces that are known are plain, and so are those in the fields of mappings. -/
structure Workshop.IsPlain (shop : Workshop) : Prop where
  pieces : ∀ number piece, shop.pieces.getD number none = some piece → piece.IsPlain
  fields : ∀ number fields, shop.contents.getD number none = some (.fields fields) →
    ∀ field ∈ fields, field.2.IsPlain

namespace Building

variable {α β : Type} {post : α → Prop} {further : β → Prop} {action : Building α}
  {next : α → Building β} {shop : Workshop} {number : NodeNumber}

/-- A step that leaves all pieces plain, and returns something with a property, if it returns. -/
def Keeps (action : Building α) (post : α → Prop) : Prop :=
  ∀ shop value after, shop.IsPlain → action shop = .ok value after → after.IsPlain ∧ post value

/-! ## How steps are put together -/

namespace Keeps

theorem pure {value : α} (holds : post value) : Keeps (pure value) post := by
  rintro shop value after plain ⟨⟩
  exact ⟨plain, holds⟩

theorem throw {failure : Failure} : Keeps (throw failure) post := by
  rintro shop value after plain ⟨⟩

theorem bind (first : Keeps action post)
    (rest : ∀ value, post value → Keeps (next value) further) :
    Keeps (action >>= next) further := by
  intro shop value after plain ran
  change EStateM.bind action next shop = _ at ran
  unfold EStateM.bind at ran
  split at ran
  · next middle between done =>
    rcases first shop middle between plain done with ⟨still, holds⟩
    exact rest middle holds between value after still ran
  · cases ran

theorem get : Keeps get Workshop.IsPlain := by
  rintro shop value after plain ⟨⟩
  exact ⟨plain, plain⟩

theorem modify {change : Workshop → Workshop}
    (keeps : ∀ shop : Workshop, shop.IsPlain → (change shop).IsPlain) :
    Keeps (modify change) fun _ => True := by
  rintro shop value after plain ⟨⟩
  exact ⟨keeps shop plain, trivial⟩

theorem malformed : Keeps malformed post := throw

end Keeps

/-! ## Single steps -/

theorem node_keeps (number : NodeNumber) : Keeps (node number) fun _ => True :=
  .bind .get fun _ _ => .pure trivial

theorem nodeCount_keeps : Keeps nodeCount fun _ => True := .bind .get fun _ _ => .pure trivial

theorem scalarText_keeps (fuel : Nat) (number : NodeNumber) :
    Keeps (scalarText fuel number) fun _ => True := by
  induction fuel generalizing number with
  | zero => exact .throw
  | succ fuel ih =>
      refine .bind (node_keeps number) fun node _ => ?_
      rcases node.shape with text | items | pairs
      · exact .pure trivial
      · exact .malformed
      · refine .bind .get fun shop _ => ?_
        dsimp only
        split
        · exact ih _
        · exact .malformed

/-- What stands in an array after an entry was set is that entry or stood there before. -/
theorem eq_or_getD_of_setIfInBounds {entries : Array (Option α)} {set asked : Nat}
    {entry found : α}
    (there : (entries.setIfInBounds set (some entry)).getD asked none = some found) :
    found = entry ∨ entries.getD asked none = some found := by
  rw [Array.getD_eq_getD_getElem?] at there ⊢
  rw [Array.getElem?_setIfInBounds] at there
  split at there
  · split at there
    · exact .inl (Option.some.inj there).symm
    · cases there
  · exact .inr there

theorem keepPiece_keeps {piece : Piece} (plain : piece.IsPlain) :
    Keeps (keepPiece number piece) fun _ => True := by
  refine .modify fun shop sound => ⟨fun asked found there => ?_, sound.fields⟩
  rcases eq_or_getD_of_setIfInBounds there with rfl | before
  · exact plain
  · exact sound.pieces asked found before

theorem keepContent_keeps {content : Content}
    (plain : ∀ fields, content = .fields fields → ∀ field ∈ fields, field.2.IsPlain) :
    Keeps (keepContent number content) fun _ => True := by
  refine .modify fun shop sound => ⟨sound.pieces, fun asked fields there => ?_⟩
  rcases eq_or_getD_of_setIfInBounds there with same | before
  · exact plain fields same.symm
  · exact sound.fields asked fields before

/-- A collection that is begun holds nothing yet. -/
theorem start_keeps {tag : Tag} {content : Content} (begun : startOf? tag = some content) :
    Keeps (start number content) Piece.IsPlain := by
  refine .bind (keepPiece_keeps trivial) fun _ _ => .bind (keepContent_keeps ?_) fun _ _ =>
    .bind (.modify fun shop sound => ⟨sound.pieces, sound.fields⟩) fun _ _ => .pure trivial
  rintro fields rfl
  cases tag <;> simp_all [startOf?]

theorem not_momentOf_mapping {node : Node} {entries : Mapping} :
    momentOf node ≠ .ok (.mapping entries) := by
  unfold momentOf
  split
  · split
    · simp
    · split <;> simp
  · simp

theorem not_isSection_of_scalarValue {node : Node} {text : String} {value : Value}
    (given : scalarValue node text = .ok value) : ¬value.IsSection := by
  rintro ⟨entries, rfl⟩
  unfold scalarValue at given
  split at given
  · cases given
  · split at given <;> cases given
  · rcases number : Numeral.toInt text <;> simp [number, Except.map] at given
  · rcases number : Numeral.toFloat text <;> simp [number, Except.map] at given
  · split at given <;> cases given
  · exact not_momentOf_mapping given
  · cases given
  · cases given

theorem piece_keeps (number : NodeNumber) : Keeps (piece number) Piece.IsPlain := by
  refine .bind .get fun shop sound => ?_
  split
  · next held => exact .pure (sound.pieces _ _ held)
  · refine .bind (node_keeps number) fun node _ => ?_
    split
    · next begun => exact start_keeps begun
    · split
      · exact .malformed
      · refine .bind nodeCount_keeps fun count _ =>
          .bind (scalarText_keeps _ number) fun text _ => ?_
        split
        · next value given =>
          have plain := Piece.isPlain_ofScalar (not_isSection_of_scalarValue given) number text
          exact .bind (keepPiece_keeps plain) fun _ _ => .pure plain
        · exact .throw

/-! ## Collections -/

theorem piecesOf_keeps (numbers : List NodeNumber) : Keeps (piecesOf numbers) fun _ => True := by
  induction numbers with
  | nil => exact .pure trivial
  | cons number rest ih =>
      exact .bind (piece_keeps number) fun _ _ => .bind ih fun _ _ => .pure trivial

theorem keyOf_keeps (number : NodeNumber) : Keeps (keyOf number) fun _ => True := by
  refine .bind (piece_keeps number) fun piece _ => ?_
  split
  · split
    · exact .pure trivial
    · exact .malformed
  · exact .pure trivial
  · exact .malformed

theorem forall_mem_withField {key : Key} {piece : Piece} {found : List (Key × Piece)}
    (plain : piece.IsPlain) (before : ∀ field ∈ found, field.2.IsPlain) :
    ∀ field ∈ withField key piece found, field.2.IsPlain := by
  induction found with
  | nil => simpa [withField] using plain
  | cons field rest ih =>
      rcases List.forall_mem_cons.mp before with ⟨here, there⟩
      rw [withField]
      split
      · exact List.forall_mem_cons.mpr ⟨plain, there⟩
      · exact List.forall_mem_cons.mpr ⟨here, ih there⟩

theorem fieldsOf_keeps {found : List (Key × Piece)} (before : ∀ field ∈ found, field.2.IsPlain)
    (pairs : List (NodeNumber × NodeNumber)) :
    Keeps (fieldsOf found pairs) fun fields => ∀ field ∈ fields, field.2.IsPlain := by
  induction pairs generalizing found with
  | nil => exact .pure before
  | cons pair rest ih =>
      exact .bind (keyOf_keeps pair.1) fun key _ => .bind (piece_keeps pair.2) fun piece plain =>
        ih (forall_mem_withField plain before)

theorem entriesOf_keeps (numbers : List NodeNumber) : Keeps (entriesOf numbers) fun _ => True := by
  induction numbers with
  | nil => exact .pure trivial
  | cons number rest ih =>
      refine .bind (node_keeps number) fun node _ => ?_
      split
      · exact .bind (piece_keeps _) fun _ _ => .bind (piece_keeps _) fun _ _ =>
          .bind ih fun _ _ => .pure trivial
      · exact .malformed

/-! ## Merge keys -/

theorem setPairs_keeps (number : NodeNumber) (pairs : List (NodeNumber × NodeNumber)) :
    Keeps (setPairs number pairs) fun _ => True :=
  .modify fun _ sound => ⟨sound.pieces, sound.fields⟩

theorem setTag_keeps (number : NodeNumber) (tag : Tag) : Keeps (setTag number tag) fun _ => True :=
  .modify fun _ sound => ⟨sound.pieces, sound.fields⟩

theorem pairsOf_keeps (number : NodeNumber) : Keeps (pairsOf number) fun _ => True := by
  refine .bind (node_keeps number) fun node _ => ?_
  split
  · exact .pure trivial
  · exact .malformed

section

variable {ready : NodeNumber → Building Unit}

theorem offeredByEach_keeps (readied : ∀ number, Keeps (ready number) fun _ => True)
    (numbers : List NodeNumber) : Keeps (offeredByEach ready numbers) fun _ => True := by
  induction numbers with
  | nil => exact .pure trivial
  | cons number rest ih =>
      refine .bind (node_keeps number) fun node _ => ?_
      split
      · exact .bind (readied number) fun _ _ => .bind (pairsOf_keeps number) fun _ _ =>
          .bind ih fun _ _ => .pure trivial
      · exact .malformed

theorem offeredBy_keeps (readied : ∀ number, Keeps (ready number) fun _ => True)
    (number : NodeNumber) : Keeps (offeredBy ready number) fun _ => True := by
  refine .bind (node_keeps number) fun node _ => ?_
  split
  · exact .bind (readied number) fun _ _ => pairsOf_keeps number
  · exact .bind (offeredByEach_keeps readied _) fun _ _ => .pure trivial
  · exact .malformed

theorem takeIn_keeps (readied : ∀ number, Keeps (ready number) fun _ => True)
    (number : NodeNumber) (count position : Nat) :
    Keeps (takeIn ready number count position) fun _ => True := by
  induction count generalizing position with
  | zero => exact .pure trivial
  | succ count ih =>
      refine .bind (pairsOf_keeps number) fun pairs _ => ?_
      split
      · exact .pure trivial
      · refine .bind (node_keeps _) fun node _ => ?_
        split
        · exact .bind (setPairs_keeps number _) fun _ _ => .bind (offeredBy_keeps readied _)
            fun _ _ => .bind (ih position) fun _ _ => .pure trivial
        · exact .bind (setTag_keeps _ _) fun _ _ => ih _
        · exact ih _

end

theorem flatten_keeps (depth : Nat) (number : NodeNumber) :
    Keeps (flatten depth number) fun _ => True := by
  induction depth generalizing number with
  | zero => exact .throw
  | succ depth ih =>
      refine .bind (pairsOf_keeps number) fun pairs _ => .bind (takeIn_keeps ih number _ 0)
        fun taken _ => ?_
      split
      · exact .bind (pairsOf_keeps number) fun _ _ => setPairs_keeps number _
      · exact .pure trivial

theorem flattenedFields_keeps (number : NodeNumber) :
    Keeps (flattenedFields number) fun fields => ∀ field ∈ fields, field.2.IsPlain :=
  .bind .get fun _ _ => .bind (flatten_keeps _ number) fun _ _ =>
    .bind (pairsOf_keeps number) fun pairs _ => fieldsOf_keeps (by simp) pairs

/-! ## The whole document -/

theorem fill_keeps (number : NodeNumber) : Keeps (fill number) fun _ => True := by
  refine .bind (node_keeps number) fun node _ => ?_
  split
  · exact .bind (piecesOf_keeps _) fun _ _ => keepContent_keeps (by simp)
  · exact .bind (entriesOf_keeps _) fun _ _ => keepContent_keeps (by simp)
  · exact .bind (flattenedFields_keeps number) fun fields plain =>
      keepContent_keeps (by rintro _ ⟨⟩; exact plain)
  · exact .bind (flattenedFields_keeps number) fun _ _ => keepContent_keeps (by simp)
  · exact .malformed

theorem fillFrom_keeps (fuel position : Nat) : Keeps (fillFrom fuel position) fun _ => True := by
  induction fuel generalizing position with
  | zero => exact .throw
  | succ fuel ih =>
      refine .bind .get fun shop _ => ?_
      split
      · exact .pure trivial
      · exact .bind (fill_keeps _) fun _ _ => ih _

theorem root_keeps (number : NodeNumber) : Keeps (root number) Piece.IsPlain :=
  .bind (piece_keeps number) fun _ plain => .bind nodeCount_keeps fun _ _ =>
    .bind (fillFrom_keeps _ 0) fun _ _ => .pure plain

end Building

/-- What is built of a document has no leaf that would be a section, be it the root or a field. -/
structure Built.IsPlain (built : Built) : Prop where
  root : built.root.IsPlain
  fields : ∀ number fields, built.content? number = some (.fields fields) →
    ∀ field ∈ fields, field.2.IsPlain

/-- A loader gives nothing but what has no such leaf. -/
def Loader.IsPlain (loader : Loader) : Prop :=
  ∀ chars built, loader chars = .ok built → built.IsPlain

theorem Graph.build_isPlain {graph : Graph} {built : Built} (builds : graph.build = .ok built) :
    built.IsPlain := by
  unfold Graph.build at builds
  dsimp only at builds
  split at builds
  · next root after ran =>
    rcases Except.ok.inj builds with rfl
    have unbuilt : Workshop.IsPlain
        { nodes := graph.nodes
          pieces := Array.replicate graph.nodes.size none
          contents := Array.replicate graph.nodes.size none } := by
      constructor <;> intro number _ there <;>
        · rw [Array.getD_eq_getD_getElem?, Array.getElem?_replicate] at there
          split at there <;> cases there
    rcases Building.root_keeps graph.root _ _ _ unbuilt ran with ⟨sound, plain⟩
    exact ⟨plain, sound.fields⟩
  · cases builds

theorem loader_isPlain : loader.IsPlain := by
  intro chars built loaded
  unfold loader at loaded
  rcases read : Graph.read? chars with failure | (_ | graph)
  · rw [read] at loaded
    cases loaded
  · rw [read] at loaded
    cases loaded
    exact ⟨nofun, by simp [Built.content?]⟩
  · rw [read] at loaded
    exact Graph.build_isPlain loaded

end ShardFleet.Markup
