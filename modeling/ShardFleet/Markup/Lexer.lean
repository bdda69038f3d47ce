import ShardFleet.Markup.Token
import ShardFleet.Markup.Written
import ShardFleet.Text.Real

/-!
# Reading tokens

A lexer turns a document's text into tokens, no further ahead than whoever takes them asks: `ready`
reads on until the next token is certain, and `take` passes over it. Whether a scalar is the key of
a mapping shows only when a colon follows it, so the lexer remembers, for each depth of flow
brackets, the last place where a key may have begun; the tokens that mark the key are put in there
once the colon is found. Such a key has to end on the line where it began, within 1024 characters.
-/

namespace ShardFleet.Markup

/-- A place where a key may have begun. A required one has to turn out to be a key. -/
structure KeyCandidate where
  depth : Nat
  tokenNumber : Nat
  required : Bool
  index : Nat
  line : Nat
  column : Nat

/-- The state of reading: all tokens so far, how many of them are taken, and the text still to be
read. -/
structure Lexer where
  cursor : Cursor
  /-- How many characters the text has. -/
  length : Nat
  tokens : Array Token := #[]
  taken : Nat := 0
  ended : Bool := false
  depth : Nat := 0
  indent : Int := -1
  outerIndents : List Int := []
  keyAllowed : Bool := true
  candidates : List KeyCandidate := []

namespace Lexer

def malformed {α : Type} : Except Failure α := .error .malformedDocument

def column (lexer : Lexer) : Int := lexer.cursor.column

def emit (lexer : Lexer) (token : Token) : Lexer :=
  { lexer with tokens := lexer.tokens.push token }

def insertAt (lexer : Lexer) (position : Nat) (token : Token) : Lexer :=
  { lexer with tokens := lexer.tokens.insertIdxIfInBounds position token }

/-- Past a number of characters, which are a token. -/
def emitOver (lexer : Lexer) (length : Nat) (token : Token) : Lexer :=
  { lexer.emit token with cursor := lexer.cursor.skip length }

/-! ## Key candidates -/

def isStale (lexer : Lexer) (candidate : KeyCandidate) : Bool :=
  candidate.line ≠ lexer.cursor.line || 1024 < lexer.cursor.index - candidate.index

/-- Forgets the candidates that can be keys no more. -/
def dropStale (lexer : Lexer) : Except Failure Lexer :=
  if lexer.candidates.any fun candidate => lexer.isStale candidate && candidate.required then
    malformed
  else .ok { lexer with candidates := lexer.candidates.filter (!lexer.isStale ·) }

def candidate? (lexer : Lexer) : Option KeyCandidate :=
  lexer.candidates.find? (·.depth == lexer.depth)

def withoutCandidate (lexer : Lexer) : Lexer :=
  { lexer with candidates := lexer.candidates.filter (·.depth != lexer.depth) }

/-- Forgets the candidate of the current depth, which must not be a required one. -/
def dropCandidate (lexer : Lexer) : Except Failure Lexer :=
  match lexer.candidate? with
  | some candidate => if candidate.required then malformed else .ok lexer.withoutCandidate
  | none => .ok lexer

/-- Remembers the place as one where a key may begin. -/
def saveCandidate (lexer : Lexer) : Except Failure Lexer := do
  if lexer.keyAllowed then
    let lexer ← lexer.dropCandidate
    let candidate :=
      { depth := lexer.depth
        tokenNumber := lexer.tokens.size
        required := lexer.depth == 0 && lexer.indent == lexer.column
        index := lexer.cursor.index
        line := lexer.cursor.line
        column := lexer.cursor.column }
    return { lexer with candidates := candidate :: lexer.candidates }
  else return lexer

/-! ## Indentation -/

/-- Ends the blocks that are indented deeper than the column given. -/
def closeBlocks (lexer : Lexer) (column : Int) : Lexer :=
  if lexer.depth ≠ 0 then lexer else go lexer.outerIndents lexer
where
  go : List Int → Lexer → Lexer
    | [], lexer => lexer
    | outer :: rest, lexer =>
        if column < lexer.indent then
          go rest { lexer.emit .blockEnd with indent := outer, outerIndents := rest }
        else lexer

/-- Whether a block at the column given is a new one; if so it is entered. -/
def openBlock (lexer : Lexer) (column : Int) : Bool × Lexer :=
  if lexer.indent < column then
    (true, { lexer with indent := column, outerIndents := lexer.indent :: lexer.outerIndents })
  else (false, lexer)

/-! ## White space and comments -/

def skipBlankLines : Nat → Lexer → Lexer
  | 0, lexer => lexer
  | fuel + 1, lexer =>
      let cursor := lexer.cursor.skipSpaces.skipComment
      if cursor.meets isBreak then
        skipBlankLines fuel
          { lexer with
            cursor := cursor.lineBreak.2
            keyAllowed := lexer.keyAllowed || lexer.depth == 0 }
      else { lexer with cursor }

/-- To the next character that is neither blank nor in a comment; a mark at the very start of the
text is passed over. -/
def toNextToken (lexer : Lexer) : Lexer :=
  let cursor :=
    if lexer.cursor.index = 0 ∧ lexer.cursor.peek = some byteOrderMark then lexer.cursor.next
    else lexer.cursor
  skipBlankLines (cursor.rest.length + 1) { lexer with cursor }

/-! ## Directives, anchors and tags -/

def decimalRun (cursor : Cursor) : Except Failure (Nat × Cursor) :=
  let (digits, after) := cursor.run Char.isDigit
  if digits.isEmpty || (after.rest.isEmpty && after.cutOff) then malformed
  else if Text.integerDigitLimit < digits.length then .error (.tooManyDigits digits.length)
  else .ok (Text.naturalOf digits, after)

def wordRun (cursor : Cursor) : Except Failure (String × Cursor) :=
  let (chars, after) := cursor.run isWordChar
  if chars.isEmpty then malformed else .ok (String.ofList chars, after)

/-- A tag handle: one exclamation mark, or a word between two of them. -/
def tagHandle (cursor : Cursor) : Except Failure (String × Cursor) :=
  if cursor.peek ≠ some '!' then malformed
  else if cursor.peekAt 1 = some ' ' then .ok ("!", cursor.next)
  else
    let (chars, after) := cursor.next.run isWordChar
    if after.peek = some '!' then .ok (String.ofList ('!' :: chars ++ ['!']), after.next)
    else malformed

def isTagChar (char : Char) : Bool :=
  char.isAlphanum || "-;/?:@&=+$,_.!~*'()[]".toList.contains char

/-- Escaped bytes of a tag, two hexadecimal digits each. -/
def tagBytes : Nat → Cursor → Except Failure (List UInt8 × Cursor)
  | 0, cursor => .ok ([], cursor)
  | fuel + 1, cursor =>
      match cursor.rest with
      | '%' :: high :: low :: _ =>
          match Binary64.hexDigit? high, Binary64.hexDigit? low with
          | some first, some second => do
              let (more, last) ← tagBytes fuel (cursor.skip 3)
              return (UInt8.ofNat (first * 16 + second) :: more, last)
          | _, _ => malformed
      | '%' :: _ => malformed
      | _ => .ok ([], cursor)

def tagText : Nat → List (List Char) → Cursor → Except Failure (List (List Char) × Cursor)
  | 0, found, cursor => .ok (found, cursor)
  | fuel + 1, found, cursor =>
      let (chars, after) := cursor.run isTagChar
      let found := if chars.isEmpty then found else chars :: found
      if after.peek = some '%' then do
        let (bytes, next) ← tagBytes after.rest.length after
        match String.fromUTF8? ⟨bytes.toArray⟩ with
        | some text => tagText fuel (text.toList :: found) next
        | none => malformed
      else .ok (found, after)

/-- The text of a tag, which may not be empty. -/
def tagUri (cursor : Cursor) : Except Failure (String × Cursor) := do
  let (found, after) ← tagText (cursor.rest.length + 1) [] cursor
  if found.isEmpty then malformed else return (String.ofList (joinPieces found), after)

def directive (cursor : Cursor) : Except Failure (Directive × Cursor) := do
  let (name, after) ← wordRun cursor.next
  if !after.endsOr 0 Cursor.isSpaceOrBreak then malformed
  else if name = "YAML" then
    let (major, afterMajor) ← decimalRun after.skipSpaces
    if afterMajor.peek ≠ some '.' then malformed
    else
      let (minor, last) ← decimalRun afterMajor.next
      if last.endsOr 0 Cursor.isSpaceOrBreak then
        return (.version major minor, ← last.restOfLine)
      else malformed
  else if name = "TAG" then
    let (handle, afterHandle) ← tagHandle after.skipSpaces
    if afterHandle.peek ≠ some ' ' then malformed
    else
      let (expansion, last) ← tagUri afterHandle.skipSpaces
      if last.endsOr 0 Cursor.isSpaceOrBreak then
        return (.tagHandle handle expansion, ← last.restOfLine)
      else malformed
  else return (.unknown, ← (after.skipWhile (!isBreak ·)).restOfLine)

/-- The name behind an anchor or reference sign. -/
def anchorName (cursor : Cursor) : Except Failure (String × Cursor) := do
  let (name, after) ← wordRun cursor.next
  let endsName (char : Char) : Bool :=
    Cursor.isBlankOrBreak char || ['?', ':', ',', ']', '\x7d', '%', '@', '\x60'].contains char
  if after.endsOr 0 endsName then return (name, after) else malformed

/-- Whether a second exclamation mark stands in the word that begins here. -/
def hasSecondMark (cursor : Cursor) : Bool :=
  (cursor.next.rest.takeWhile (!Cursor.isSpaceOrBreak ·)).contains '!'

def tag (cursor : Cursor) : Except Failure (Token × Cursor) := do
  let (token, after) ←
    if cursor.peekAt 1 = some '<' then do
      let (uri, after) ← tagUri (cursor.skip 2)
      if after.peek = some '>' then pure (Token.tag none uri, after.next) else malformed
    else if cursor.atBlank 1 then pure (Token.tag none "!", cursor.next)
    else do
      let (handle, after) ←
        if hasSecondMark cursor then tagHandle cursor else pure ("!", cursor.next)
      let (suffix, last) ← tagUri after
      pure (Token.tag (some handle) suffix, last)
  if after.endsOr 0 Cursor.isSpaceOrBreak then return (token, after) else malformed

/-! ## One token after another -/

/-- Leaves all blocks and any key behind, as a document's end and a directive do. -/
def atDocumentEdge (lexer : Lexer) : Except Failure Lexer := do
  let lexer ← (lexer.closeBlocks (-1)).dropCandidate
  return { lexer with keyAllowed := false }

def flowStart (lexer : Lexer) (token : Token) : Except Failure Lexer := do
  let lexer ← lexer.saveCandidate
  return { lexer.emitOver 1 token with depth := lexer.depth + 1, keyAllowed := true }

def flowEnd (lexer : Lexer) (token : Token) : Except Failure Lexer := do
  let lexer ← lexer.dropCandidate
  if lexer.depth = 0 then malformed
  else return { lexer.emitOver 1 token with depth := lexer.depth - 1, keyAllowed := false }

def flowEntry (lexer : Lexer) : Except Failure Lexer := do
  let lexer ← lexer.dropCandidate
  return { lexer.emitOver 1 .flowEntry with keyAllowed := true }

/-- Enters a block at the current column, if it is a new one; not inside flow brackets. -/
def enterBlock (lexer : Lexer) (start : Token) : Except Failure Lexer :=
  if lexer.depth ≠ 0 then .ok lexer
  else if !lexer.keyAllowed then malformed
  else
    let (fresh, lexer) := lexer.openBlock lexer.column
    .ok (if fresh then lexer.emit start else lexer)

def blockEntry (lexer : Lexer) : Except Failure Lexer := do
  let lexer ← (← lexer.enterBlock .blockSequenceStart).dropCandidate
  return { lexer.emitOver 1 .blockEntry with keyAllowed := true }

def explicitKey (lexer : Lexer) : Except Failure Lexer := do
  let lexer ← (← lexer.enterBlock .blockMappingStart).dropCandidate
  return { lexer.emitOver 1 .key with keyAllowed := lexer.depth == 0 }

/-- A colon makes the remembered candidate a key; without one it stands for a value alone. -/
def mappingValue (lexer : Lexer) : Except Failure Lexer :=
  match lexer.candidate? with
  | some candidate =>
      let lexer := lexer.withoutCandidate.insertAt candidate.tokenNumber .key
      let lexer :=
        if lexer.depth = 0 then
          let (fresh, lexer) := lexer.openBlock candidate.column
          if fresh then lexer.insertAt candidate.tokenNumber .blockMappingStart else lexer
        else lexer
      .ok { lexer.emitOver 1 .value with keyAllowed := false }
  | none => do
      let lexer ← (← lexer.enterBlock .blockMappingStart).dropCandidate
      return { lexer.emitOver 1 .value with keyAllowed := lexer.depth == 0 }

/-- A token that a key may begin with. -/
def inKeyPlace (lexer : Lexer) (read : Cursor → Except Failure (Token × Cursor)) :
    Except Failure Lexer := do
  let lexer ← lexer.saveCandidate
  let (token, cursor) ← read lexer.cursor
  return { lexer.emit token with cursor, keyAllowed := false }

def blockScalar (lexer : Lexer) (folded : Bool) : Except Failure Lexer := do
  let lexer ← lexer.dropCandidate
  let (text, cursor) ← BlockScalar.read folded lexer.indent lexer.cursor
  return { lexer.emit (.scalar (String.ofList text) false) with cursor, keyAllowed := true }

def quotedScalar (lexer : Lexer) (double : Bool) : Except Failure Lexer :=
  lexer.inKeyPlace fun cursor => do
    let (text, after) ← QuotedScalar.read double cursor
    return (.scalar (String.ofList text) false, after)

def plainScalar (lexer : Lexer) : Except Failure Lexer := do
  let lexer ← lexer.saveCandidate
  let outcome := Plain.read (lexer.depth != 0) (lexer.indent + 1).toNat lexer.cursor
  return { lexer.emit (.scalar (String.ofList outcome.text) true) with
    cursor := outcome.cursor
    keyAllowed := outcome.lineEnded }

/-- Characters with a meaning of their own at the start of a token. -/
def indicators : List Char :=
  ['-', '?', ':', ',', '[', ']', '\x7b', '\x7d', '#', '&', '*', '!', '|', '>', '\'', '"', '%', '@',
    '\x60']

/-- Whether a plain scalar can begin here. -/
def startsPlain (lexer : Lexer) (char : Char) : Bool :=
  !(Cursor.isBlankOrBreak char || indicators.contains char) ||
    (!lexer.cursor.atBlank 1 &&
      (char == '-' || (lexer.depth == 0 && (char == '?' || char == ':'))))

/-- Reads the token that begins with the character given. -/
def tokenAt (lexer : Lexer) (char : Char) : Except Failure Lexer :=
  let cursor := lexer.cursor
  let inFlow := lexer.depth != 0
  let atLineStart := cursor.column == 0
  if char == '%' && atLineStart then do
    let lexer ← lexer.atDocumentEdge
    let (directive, after) ← directive lexer.cursor
    return { lexer.emit (.directive directive) with cursor := after }
  else if atLineStart && cursor.atMarker '-' then do
    return (← lexer.atDocumentEdge).emitOver 3 .documentStart
  else if atLineStart && cursor.atMarker '.' then do
    return (← lexer.atDocumentEdge).emitOver 3 .documentEnd
  else if char == '[' then lexer.flowStart .flowSequenceStart
  else if char == '\x7b' then lexer.flowStart .flowMappingStart
  else if char == ']' then lexer.flowEnd .flowSequenceEnd
  else if char == '\x7d' then lexer.flowEnd .flowMappingEnd
  else if char == ',' then lexer.flowEntry
  else if char == '-' && cursor.atBlank 1 then lexer.blockEntry
  else if char == '?' && (inFlow || cursor.atBlank 1) then lexer.explicitKey
  else if char == ':' && (inFlow || cursor.atBlank 1) then lexer.mappingValue
  else if char == '*' then
    lexer.inKeyPlace fun cursor => do
      let (name, after) ← anchorName cursor
      return (.reference name, after)
  else if char == '&' then
    lexer.inKeyPlace fun cursor => do
      let (name, after) ← anchorName cursor
      return (.anchor name, after)
  else if char == '!' then lexer.inKeyPlace tag
  else if char == '|' && !inFlow then lexer.blockScalar false
  else if char == '>' && !inFlow then lexer.blockScalar true
  else if char == '\'' then lexer.quotedScalar false
  else if char == '"' then lexer.quotedScalar true
  else if lexer.startsPlain char then lexer.plainScalar
  else malformed

/-- Reads the next token; at the end of the text, leaves all blocks. -/
def fetch (lexer : Lexer) : Except Failure Lexer := do
  let lexer ← lexer.toNextToken.dropStale
  let lexer := lexer.closeBlocks lexer.column
  match lexer.cursor.peek with
  | some char => lexer.tokenAt char
  | none =>
      if lexer.cursor.cutOff then malformed
      let lexer ← (lexer.closeBlocks (-1)).dropCandidate
      return { lexer with ended := true, candidates := [] }

/-! ## Taking tokens -/

/-- Whether the next token is not yet certain: it is not there, or may still
turn out to begin a key. -/
def needsMore (lexer : Lexer) : Except Failure (Bool × Lexer) :=
  if lexer.ended then .ok (false, lexer)
  else if lexer.taken = lexer.tokens.size then .ok (true, lexer)
  else do
    let lexer ← lexer.dropStale
    return (lexer.candidates.any (·.tokenNumber == lexer.taken), lexer)

/-- Reads on until the next token is certain. Every token takes a character, so there are no more
steps than characters. -/
def ready (lexer : Lexer) : Except Failure Lexer := go (lexer.length + 2) lexer
where
  go : Nat → Lexer → Except Failure Lexer
    | 0, _ => malformed
    | steps + 1, lexer => do
        let (more, lexer) ← lexer.needsMore
        if more then go steps (← lexer.fetch) else return lexer

/-- The next token of a lexer that is ready; there is none at the end of the text. -/
def next? (lexer : Lexer) : Option Token := lexer.tokens[lexer.taken]?

/-- Past the next token. -/
def take (lexer : Lexer) : Lexer := { lexer with taken := lexer.taken + 1 }

/-- A lexer at the start of a text. -/
def ofText (text : List Char) : Lexer := { cursor := .ofText text, length := text.length }

end Lexer

end ShardFleet.Markup
