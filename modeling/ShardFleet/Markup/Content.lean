import ShardFleet.Markup.Node
import ShardFleet.Markup.Numeral
import ShardFleet.Markup.Octets

/-!
# What the nodes of a document stand for

A scalar stands for a value at once. A collection is begun empty and filled later: collections wait
in the order in which they were begun, and each is filled once, which may begin others. So a
collection can be part of itself, and of several faults in a document the one in the collection that
was begun first is found. A mapping takes in the entries of other mappings under a merge key when it
is filled; its own entries win over those, and of two entries with the same key the later one wins.
-/

namespace ShardFleet.Markup

/-- What a scalar stands for at a node, by its text and the value that it has. -/
def Piece.ofScalar (number : NodeNumber) (text : String) : Value → Piece
  | .float value =>
      if value.isUndefined then
        .undefined value (if Numeral.isCommonUndefined text then none else some number)
      else .leaf (.float value)
  | value => .leaf value

/-- The state of the work: the nodes, what they stand for as far as that is known, what the
collections hold, and the collections in the order in which they were begun. -/
structure Workshop where
  nodes : Array Node
  pieces : Array (Option Piece)
  contents : Array (Option Content)
  begun : Array NodeNumber := #[]

abbrev Building := EStateM Failure Workshop

namespace Building

def malformed {α : Type} : Building α := throw .malformedDocument

def node (number : NodeNumber) : Building Node := do
  return (← get).nodes.getD number default

def nodeCount : Building Nat := do return (← get).nodes.size

/-! ## Scalars -/

/-- The scalar that a node is, or the default value of the mapping that it is. A mapping that is its
own default value has none that could be found. -/
def scalarText : Nat → NodeNumber → Building String
  | 0, _ => throw (.endless .text)
  | fuel + 1, number => do
      match (← node number).shape with
      | .scalar text => return text
      | .sequence _ => malformed
      | .mapping pairs =>
          let nodes := (← get).nodes
          match pairs.find? fun pair => (nodes.getD pair.1 default).tag == .default with
          | some (_, value) => scalarText fuel value
          | none => malformed

/-- The point in time that a scalar is; a default value of a mapping cannot be one. -/
def momentOf (node : Node) : Except Failure Value :=
  match node.shape with
  | .scalar text =>
      match Timestamp.read? (Form.withoutLastBreak text.toList) with
      | none => .error .noFields
      | some written =>
          match written.moment with
          | .ok moment => .ok (.datum (.moment moment))
          | .error fault => .error (.badMoment fault)
  | _ => .error .wrongKind

/-- The value of a scalar by its tag. -/
def scalarValue (node : Node) (text : String) : Except Failure Value :=
  match node.tag with
  | .null => .ok .null
  | .bool =>
      match Form.truthOf? (text.toList.map Char.toLower) with
      | some truth => .ok (.bool truth)
      | none => .error .noSuchKey
  | .int => (Numeral.toInt text).map .int
  | .float => (Numeral.toFloat text).map .float
  | .octets =>
      match Octets.decode? text.toList with
      | some values => .ok (.datum (.octets values))
      | none => .error .malformedDocument
  | .moment => momentOf node
  | .text => .ok (.text text)
  | _ => .error .malformedDocument

/-! ## Collections -/

/-- What a collection with the tag given holds before it is filled. -/
def startOf? : Tag → Option Content
  | .sequence => some (.items [])
  | .entries => some (.entries [])
  | .mapping => some (.fields [])
  | .set => some (.members [])
  | _ => none

def keepPiece (number : NodeNumber) (piece : Piece) : Building Unit :=
  modify fun shop => { shop with pieces := shop.pieces.setIfInBounds number (some piece) }

def keepContent (number : NodeNumber) (content : Content) : Building Unit :=
  modify fun shop => { shop with contents := shop.contents.setIfInBounds number (some content) }

def start (number : NodeNumber) (content : Content) : Building Piece := do
  keepPiece number (.collection number)
  keepContent number content
  modify fun shop => { shop with begun := shop.begun.push number }
  return .collection number

/-- What a node stands for; a collection is begun if it is not yet. A tag that is unknown, or that
has a meaning only for keys, stands for nothing. -/
def piece (number : NodeNumber) : Building Piece := do
  match ((← get).pieces.getD number none) with
  | some piece => return piece
  | none =>
      let node ← node number
      match startOf? node.tag with
      | some content => start number content
      | none =>
          if node.tag = .unknown ∨ node.tag = .merge ∨ node.tag = .default then malformed
          else
            let text ← scalarText ((← nodeCount) + 1) number
            match scalarValue node text with
            | .ok value =>
                let piece := Piece.ofScalar number text value
                keepPiece number piece
                return piece
            | .error failure => throw failure

def piecesOf : List NodeNumber → Building (List Piece)
  | [] => return []
  | number :: rest => do
      let first ← piece number
      return first :: (← piecesOf rest)

/-- What a key node stands for, which has to be able to be a key. -/
def keyOf (number : NodeNumber) : Building Key := do
  match ← piece number with
  | .leaf value =>
      match value.toKey? with
      | some key => return key
      | none => malformed
  | .undefined value mark => return .undefined value mark
  | .collection _ => malformed

/-- Fields with one more: in the place of one with the same key, or last. -/
def withField (key : Key) (piece : Piece) : List (Key × Piece) → List (Key × Piece)
  | [] => [(key, piece)]
  | (other, old) :: rest =>
      if other.identity = key.identity then (other, piece) :: rest
      else (other, old) :: withField key piece rest

def fieldsOf (found : List (Key × Piece)) : List (NodeNumber × NodeNumber) →
    Building (List (Key × Piece))
  | [] => return found
  | (keyNode, valueNode) :: rest => do
      let key ← keyOf keyNode
      let value ← piece valueNode
      fieldsOf (withField key value found) rest

/-- The pairs of the mappings in a list of entries, each of which has to
be a mapping of one pair. -/
def entriesOf : List NodeNumber → Building (List (Piece × Piece))
  | [] => return []
  | number :: rest => do
      match (← node number).shape with
      | .mapping [(keyNode, valueNode)] =>
          let key ← piece keyNode
          let value ← piece valueNode
          return (key, value) :: (← entriesOf rest)
      | _ => malformed

/-! ## Merge keys -/

def setPairs (number : NodeNumber) (pairs : List (NodeNumber × NodeNumber)) : Building Unit :=
  modify fun shop =>
    let old := shop.nodes.getD number default
    { shop with nodes := shop.nodes.setIfInBounds number { old with shape := .mapping pairs } }

def setTag (number : NodeNumber) (tag : Tag) : Building Unit :=
  modify fun shop =>
    let old := shop.nodes.getD number default
    { shop with nodes := shop.nodes.setIfInBounds number { old with tag } }

def pairsOf (number : NodeNumber) : Building (List (NodeNumber × NodeNumber)) := do
  match (← node number).shape with
  | .mapping pairs => return pairs
  | _ => malformed

/-- The pairs that the mappings in a list offer to a merge key, each made ready first. -/
def offeredByEach (ready : NodeNumber → Building Unit) : List NodeNumber →
    Building (List (List (NodeNumber × NodeNumber)))
  | [] => return []
  | number :: rest => do
      match (← node number).shape with
      | .mapping _ =>
          ready number
          let pairs ← pairsOf number
          return pairs :: (← offeredByEach ready rest)
      | _ => malformed

/-- The pairs that a node offers to a merge key: those of a mapping, or those of the mappings in a
sequence, the last one first. -/
def offeredBy (ready : NodeNumber → Building Unit) (number : NodeNumber) :
    Building (List (NodeNumber × NodeNumber)) := do
  match (← node number).shape with
  | .mapping _ =>
      ready number
      pairsOf number
  | .sequence items => return (← offeredByEach ready items).reverse.flatten
  | .scalar _ => malformed

/-- The pairs that a mapping takes in under its merge keys, for as many of its pairs as given from
the position given on. A merge key is left out before what stands under it is looked at. A key that
marks a default value is a text from then on. -/
def takeIn (ready : NodeNumber → Building Unit) (number : NodeNumber) : Nat → Nat →
    Building (List (NodeNumber × NodeNumber))
  | 0, _ => return []
  | count + 1, position => do
      let pairs ← pairsOf number
      match pairs[position]? with
      | none => return []
      | some (keyNode, valueNode) =>
          match (← node keyNode).tag with
          | .merge =>
              setPairs number (pairs.eraseIdx position)
              let offered ← offeredBy ready valueNode
              return offered ++ (← takeIn ready number count position)
          | .default =>
              setTag keyNode .text
              takeIn ready number count (position + 1)
          | _ => takeIn ready number count (position + 1)

/-- Puts the pairs that a mapping takes in before its own ones. Every mapping that it takes in is
made ready in the same way; as each of these steps leaves a merge key out for good, their depth is
bounded by the number of pairs. -/
def flatten : Nat → NodeNumber → Building Unit
  | 0, _ => throw (.endless .collection)
  | depth + 1, number => do
      let taken ← takeIn (fun other => flatten depth other) number (← pairsOf number).length 0
      if !taken.isEmpty then
        setPairs number (taken ++ (← pairsOf number))

def pairCount (node : Node) : Nat :=
  match node.shape with
  | .mapping pairs => pairs.length
  | _ => 0

/-- The fields of a mapping with those that it takes in. -/
def flattenedFields (number : NodeNumber) : Building (List (Key × Piece)) := do
  let depth := (← get).nodes.foldl (fun total node => total + pairCount node) 1
  flatten depth number
  fieldsOf [] (← pairsOf number)

/-! ## Filling -/

/-- Fills a collection that was begun. -/
def fill (number : NodeNumber) : Building Unit := do
  let node ← node number
  match node.tag, node.shape with
  | .sequence, .sequence items => keepContent number (.items (← piecesOf items))
  | .entries, .sequence items => keepContent number (.entries (← entriesOf items))
  | .mapping, .mapping _ => keepContent number (.fields (← flattenedFields number))
  | .set, .mapping _ =>
      let fields ← flattenedFields number
      keepContent number (.members (fields.map (·.1)))
  | _, _ => malformed

/-- Fills the collections in the order in which they were begun, from the position given on. -/
def fillFrom : Nat → Nat → Building Unit
  | 0, _ => throw (.endless .collection)
  | fuel + 1, position => do
      match (← get).begun[position]? with
      | none => return ()
      | some number =>
          fill number
          fillFrom fuel (position + 1)

/-- What the root stands for, with everything in it filled. -/
def root (number : NodeNumber) : Building Piece := do
  let piece ← piece number
  fillFrom ((← nodeCount) + 1) 0
  return piece

end Building

namespace Graph

def build (graph : Graph) : Except Failure Built :=
  let size := graph.nodes.size
  let shop : Workshop :=
    { nodes := graph.nodes
      pieces := Array.replicate size none
      contents := Array.replicate size none }
  match Building.root graph.root shop with
  | .ok root after => .ok { root, contents := after.contents }
  | .error failure _ => .error failure

end Graph

/-- Loads the single document that a text holds; a text without one stands for null. -/
def loader : Loader := fun chars => do
  match ← Graph.read? chars with
  | some graph => graph.build
  | none => return { root := .leaf .null, contents := #[] }

end ShardFleet.Markup
