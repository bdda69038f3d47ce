import ShardFleet.Markup.Built
import ShardFleet.Markup.Lexer
import ShardFleet.Markup.Tag

/-!
# The nodes of a document

A node is a scalar, a sequence or a mapping, with its tag. Nodes are numbered in the order in which
they begin, and refer to each other by number: a reference stands for the node that its anchor
names, be it around the reference itself. `Graph.read?` reads the nodes of a single document, token
by token; a text without a document has none.
-/

namespace ShardFleet.Markup

inductive Shape where
  | scalar (text : String)
  | sequence (items : List NodeNumber)
  | mapping (pairs : List (NodeNumber × NodeNumber))

structure Node where
  tag : Tag
  shape : Shape

instance : Inhabited Node := ⟨.null, .scalar ""⟩

/-- The nodes of a document by number, and its root. -/
structure Graph where
  nodes : Array Node
  root : NodeNumber

namespace Node

/-- What stands where a node is left out. -/
def absent : Node := ⟨.null, .scalar ""⟩

/-- What is known while nodes are read: the tokens to come, the nodes so far, the anchors with the
nodes that they name, and the meaning of tag handles. -/
structure Reader where
  lexer : Lexer
  nodes : Array Node := #[]
  anchors : List (String × NodeNumber) := []
  handles : List (String × String) := []

abbrev Reading := EStateM Failure Reader

def malformed {α : Type} : Reading α := throw .malformedDocument

/-- The next token; there is none at the end of the text. -/
def peek : Reading (Option Token) := fun reader =>
  match reader.lexer.ready with
  | .ok lexer => .ok lexer.next? { reader with lexer }
  | .error failure => .error failure reader

def advance : Reading Unit := modify fun reader => { reader with lexer := reader.lexer.take }

/-- Whether the next token is one of those given. -/
def nextIs (isOne : Token → Bool) : Reading Bool := do
  match ← peek with
  | some token => return isOne token
  | none => return false

/-- Passes over a token that has to stand next. -/
def expect (token : Token) : Reading Unit := do
  if (← peek) = some token then advance else malformed

/-- Adds a node, and names it if it has an anchor; an anchor names one node of a document. -/
def add (anchor : Option String) (node : Node) : Reading NodeNumber := fun reader =>
  let number := reader.nodes.size
  let after := { reader with nodes := reader.nodes.push node }
  match anchor with
  | none => .ok number after
  | some name =>
      if (reader.anchors.lookup name).isSome then .error .malformedDocument reader
      else .ok number { after with anchors := (name, number) :: reader.anchors }

def addAbsent : Reading NodeNumber := add none absent

/-- Adds a collection before its parts, which are then read. -/
def addCollection {α : Type} (anchor : Option String) (tag : Tag) (shape : α → Shape)
    (empty : α) (parts : Reading α) : Reading NodeNumber := do
  let number ← add anchor ⟨tag, shape empty⟩
  let found ← parts
  modify fun reader => { reader with nodes := reader.nodes.setIfInBounds number ⟨tag, shape found⟩ }
  return number

def addSequence (anchor : Option String) (tag : Tag) (items : Reading (List NodeNumber)) :
    Reading NodeNumber :=
  addCollection anchor tag .sequence [] items

def addMapping (anchor : Option String) (tag : Tag)
    (pairs : Reading (List (NodeNumber × NodeNumber))) : Reading NodeNumber :=
  addCollection anchor tag .mapping [] pairs

/-- The tag that a handle and a suffix spell out. -/
def spelledTag (handle : Option String) (suffix : String) : Reading String := do
  match handle with
  | none => return suffix
  | some handle =>
      match (← get).handles.lookup handle with
      | some expansion => return expansion ++ suffix
      | none => malformed

/-- The anchor and the tag in front of a node, in either order, each at most once. -/
def properties : Reading (Option String × Option String) := do
  match ← peek with
  | some (.anchor name) =>
      advance
      match ← peek with
      | some (.tag handle suffix) =>
          advance
          return (some name, some (← spelledTag handle suffix))
      | _ => return (some name, none)
  | some (.tag handle suffix) =>
      advance
      match ← peek with
      | some (.anchor name) =>
          advance
          return (some name, some (← spelledTag handle suffix))
      | _ => return (none, some (← spelledTag handle suffix))
  | _ => return (none, none)

def referenced (name : String) : Reading NodeNumber := do
  match (← get).anchors.lookup name with
  | some number => return number
  | none => malformed

/-- The tag of a scalar: the one it has, or the one that its text has by its form. A scalar that is
not plain is a text, unless its tag is a lone exclamation mark. -/
def scalarTag (tag : Option String) (text : String) (plain : Bool) : Tag :=
  match tag with
  | none => if plain then Tag.ofForm text.toList else .text
  | some "!" => Tag.ofForm text.toList
  | some tag => .ofName tag

def collectionTag (tag : Option String) (usual : Tag) : Tag :=
  match tag with
  | none => usual
  | some "!" => usual
  | some tag => .ofName tag

def endsBlockItem (token : Token) : Bool :=
  token == .blockEntry || token == .blockEnd

def endsIndentlessItem (token : Token) : Bool :=
  token == .blockEntry || token == .key || token == .value || token == .blockEnd

def endsBlockPart (token : Token) : Bool :=
  token == .key || token == .value || token == .blockEnd

def endsFlowKey (close token : Token) : Bool :=
  token == .value || token == .flowEntry || token == close

def endsFlowValue (close token : Token) : Bool :=
  token == .flowEntry || token == close

/-- Where a node stands: which block collections may begin there. -/
inductive Place where
  | flow
  | block
  | blockOrIndentless
deriving DecidableEq, Repr

mutual

/-- The node that stands next. -/
def node : Nat → Place → Reading NodeNumber
  | 0, _ => malformed
  | fuel + 1, place => do
      match ← peek with
      | some (.reference name) =>
          advance
          referenced name
      | _ =>
          let (anchor, tag) ← properties
          content fuel place anchor tag

/-- A node without its properties. One that has properties may be left out. -/
def content : Nat → Place → Option String → Option String → Reading NodeNumber
  | 0, _, _, _ => malformed
  | fuel + 1, place, anchor, tag => do
      let sequenceTag := collectionTag tag .sequence
      let mappingTag := collectionTag tag .mapping
      match ← peek, place with
      | some .blockEntry, .blockOrIndentless =>
          addSequence anchor sequenceTag (indentlessItems fuel)
      | some (.scalar text plain), _ =>
          advance
          add anchor ⟨scalarTag tag text plain, .scalar text⟩
      | some .flowSequenceStart, _ =>
          addSequence anchor sequenceTag do
            advance
            flowItems fuel true
      | some .flowMappingStart, _ =>
          addMapping anchor mappingTag do
            advance
            flowPairs fuel true
      | some .blockSequenceStart, .block | some .blockSequenceStart, .blockOrIndentless =>
          addSequence anchor sequenceTag do
            advance
            blockItems fuel
      | some .blockMappingStart, .block | some .blockMappingStart, .blockOrIndentless =>
          addMapping anchor mappingTag do
            advance
            blockPairs fuel
      | _, _ =>
          if anchor.isSome || tag.isSome then add anchor ⟨scalarTag tag "" true, .scalar ""⟩
          else malformed

/-- A node, or its absence if one of the tokens given stands next. -/
def nodeUnless : Nat → Place → (Token → Bool) → Reading NodeNumber
  | 0, _, _ => malformed
  | fuel + 1, place, leavesOut => do
      if ← nextIs leavesOut then addAbsent else node fuel place

def blockItems : Nat → Reading (List NodeNumber)
  | 0 => malformed
  | fuel + 1 => do
      if ← nextIs (· == .blockEntry) then
        advance
        let item ← nodeUnless fuel .block endsBlockItem
        return item :: (← blockItems fuel)
      else
        expect .blockEnd
        return []

/-- Items of a sequence that stands at the indentation of the mapping around it. -/
def indentlessItems : Nat → Reading (List NodeNumber)
  | 0 => malformed
  | fuel + 1 => do
      if ← nextIs (· == .blockEntry) then
        advance
        let item ← nodeUnless fuel .block endsIndentlessItem
        return item :: (← indentlessItems fuel)
      else return []

def blockPairs : Nat → Reading (List (NodeNumber × NodeNumber))
  | 0 => malformed
  | fuel + 1 => do
      if ← nextIs (· == .key) then
        advance
        let key ← nodeUnless fuel .blockOrIndentless endsBlockPart
        let value ← valueUnless fuel .blockOrIndentless endsBlockPart
        return (key, value) :: (← blockPairs fuel)
      else
        expect .blockEnd
        return []

/-- The value behind a value mark; without the mark, or with nothing behind it, there is none. -/
def valueUnless : Nat → Place → (Token → Bool) → Reading NodeNumber
  | 0, _, _ => malformed
  | fuel + 1, place, leavesOut => do
      if ← nextIs (· == .value) then
        advance
        nodeUnless fuel place leavesOut
      else addAbsent

/-- Items up to the closing bracket, with a comma before all but the first. An item may be a single
pair, which is a mapping of its own. -/
def flowItems : Nat → Bool → Reading (List NodeNumber)
  | 0, _ => malformed
  | fuel + 1, isFirst => do
      if ← nextIs (· == .flowSequenceEnd) then
        advance
        return []
      else
        if !isFirst then expect .flowEntry
        if ← nextIs (· == .key) then
          let item ← addMapping none .mapping do
            advance
            let key ← nodeUnless fuel .flow (endsFlowKey .flowSequenceEnd)
            let value ← valueUnless fuel .flow (endsFlowValue .flowSequenceEnd)
            return [(key, value)]
          return item :: (← flowItems fuel false)
        else if ← nextIs (· == .flowSequenceEnd) then
          advance
          return []
        else
          let item ← node fuel .flow
          return item :: (← flowItems fuel false)

/-- Pairs up to the closing brace, with a comma before all but the first. -/
def flowPairs : Nat → Bool → Reading (List (NodeNumber × NodeNumber))
  | 0, _ => malformed
  | fuel + 1, isFirst => do
      if ← nextIs (· == .flowMappingEnd) then
        advance
        return []
      else
        if !isFirst then expect .flowEntry
        if ← nextIs (· == .key) then
          advance
          let key ← nodeUnless fuel .flow (endsFlowKey .flowMappingEnd)
          let value ← valueUnless fuel .flow (endsFlowValue .flowMappingEnd)
          return (key, value) :: (← flowPairs fuel false)
        else if ← nextIs (· == .flowMappingEnd) then
          advance
          return []
        else
          let key ← node fuel .flow
          let value ← addAbsent
          return (key, value) :: (← flowPairs fuel false)

end

/-! ## Documents -/

def defaultHandles : List (String × String) := [("!", "!"), ("!!", Tag.standardSpace)]

/-- The directives in front of a document: at most one version, of the first series, and at most one
expansion for each tag handle. Gives the meaning of tag handles. -/
def directives : Nat → Bool → List (String × String) → Reading (List (String × String))
  | 0, _, _ => malformed
  | fuel + 1, versioned, handles => do
      match ← peek with
      | some (.directive (.version major _)) =>
          advance
          if versioned || major ≠ 1 then malformed else directives fuel true handles
      | some (.directive (.tagHandle handle expansion)) =>
          advance
          if (handles.lookup handle).isSome then malformed
          else directives fuel versioned ((handle, expansion) :: handles)
      | some (.directive .unknown) =>
          advance
          directives fuel versioned handles
      | _ => return handles ++ defaultHandles

def isDirective : Token → Bool
  | .directive _ => true
  | _ => false

/-- Whether a token can stand where a document has no content. -/
def endsDocument (token : Token) : Bool :=
  isDirective token || token == .documentStart || token == .documentEnd

/-- The root of a document that begins here, which has directives or a mark in front or neither. -/
def documentRoot (fuel : Nat) : Reading NodeNumber := do
  if ← nextIs fun token => isDirective token || token == .documentStart then
    let handles ← directives fuel false []
    modify ({ · with handles })
    expect .documentStart
    match ← peek with
    | none => addAbsent
    | some token => if endsDocument token then addAbsent else node fuel .block
  else
    modify ({ · with handles := defaultHandles })
    node fuel .block

/-- Passes over marks of a document's end. -/
def passEnds : Nat → Reading Unit
  | 0 => malformed
  | fuel + 1 => do
      if ← nextIs (· == .documentEnd) then
        advance
        passEnds fuel

/-- Reads a document and nothing behind it but marks of its end. Directives behind it are looked at
before they are refused. -/
def single (fuel : Nat) : Reading (Option NodeNumber) := do
  if (← peek).isNone then return none
  else
    let root ← documentRoot fuel
    passEnds fuel
    if (← peek).isNone then return some root
    else
      let _ ← directives fuel false []
      malformed

end Node

namespace Graph

/-- The nodes of the document that a text holds, if it holds one. A token gives rise to few steps
and a character to few tokens, so the number of steps is bounded by that of the characters. -/
def read? (text : List Char) : Except Failure (Option Graph) := do
  let lexer := Lexer.ofText text
  match Node.single (32 * (text.length + 2)) { lexer } with
  | .ok (some root) reader => return some { nodes := reader.nodes, root }
  | .ok none _ => return none
  | .error failure _ => throw failure

end Graph

end ShardFleet.Markup
