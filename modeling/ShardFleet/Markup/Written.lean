import ShardFleet.Markup.Cursor
import ShardFleet.Numeric.Binary64

/-!
# Scalars as they are written

A scalar is plain, quoted or a block. Each reader takes the cursor at the scalar's first character
and gives its characters, as they stand in a text, and the cursor behind it. Line ends inside a
scalar are folded: one break becomes a space and further ones are kept.
-/

namespace ShardFleet.Markup

/-- A text in pieces, as they stand in it, the last one first, and the cursor behind it. -/
abbrev Pieces := List (List Char) × Cursor

def joinPieces (pieces : List (List Char)) : List Char := pieces.reverse.flatten

/-- A folded line end: the break itself if it is a special one, else a space if no further breaks
follow. -/
def foldedBreak (lineEnd : List Char) (breaks : List (List Char)) : List (List Char) :=
  if lineEnd ≠ ['\n'] then [lineEnd] else if breaks.isEmpty then [[' ']] else []

/-! ## Plain scalars -/

namespace Plain

/-- Breaks and the blanks between them, whether a document marker ended them, and the cursor. -/
structure Breaks where
  found : List (List Char)
  atMarker : Bool
  cursor : Cursor

def breaks : Nat → Cursor → Breaks
  | 0, cursor => ⟨[], false, cursor⟩
  | fuel + 1, cursor =>
      if cursor.peek = some ' ' then breaks fuel cursor.next
      else if cursor.meets isBreak then
        let (lineEnd, after) := cursor.lineBreak
        if after.atAnyMarker then ⟨[], true, after⟩
        else
          let more := breaks fuel after
          { more with found := lineEnd :: more.found }
      else ⟨[], false, cursor⟩

/-- The blanks between two pieces, whether a line ended among them, and the cursor behind them. At a
document marker there is nothing between pieces. -/
def gap (cursor : Cursor) : List (List Char) × Bool × Cursor :=
  let (blanks, after) := cursor.run (· == ' ')
  if after.meets isBreak then
    let (lineEnd, next) := after.lineBreak
    if next.atAnyMarker then ([], true, next)
    else
      let more := breaks next.rest.length next
      if more.atMarker then ([], true, more.cursor)
      else (foldedBreak lineEnd more.found ++ more.found, true, more.cursor)
  else (if blanks.isEmpty then [] else [blanks], false, after)

def isFlowIndicator (char : Char) : Bool :=
  char == ',' || char == '[' || char == ']' || char == '\x7b' || char == '\x7d'

/-- How many characters of one piece stand here. -/
def pieceLength (inFlow : Bool) : List Char → Nat
  | [] => 0
  | char :: rest =>
      let blankNext :=
        match rest with
        | [] => true
        | next :: _ => Cursor.isBlankOrBreak next || (inFlow && isFlowIndicator next)
      if Cursor.isBlankOrBreak char || (char == ':' && blankNext) ||
          (inFlow && (isFlowIndicator char || char == '?')) then 0
      else pieceLength inFlow rest + 1

/-- What a plain scalar leaves behind: its text, whether a line ended after its last piece, and the
cursor. -/
structure Outcome where
  text : List Char
  lineEnded : Bool
  cursor : Cursor

/-- Pieces from the cursor on, after the blanks given. -/
def pieces (inFlow : Bool) (indent : Nat) :
    Nat → List (List Char) → List (List Char) → Bool → Cursor → Outcome
  | 0, found, _, lineEnded, cursor => ⟨joinPieces found, lineEnded, cursor⟩
  | fuel + 1, found, blanks, lineEnded, cursor =>
      let length := if cursor.peek = some '#' then 0 else pieceLength inFlow cursor.rest
      if length = 0 then ⟨joinPieces found, lineEnded, cursor⟩
      else
        let found := Text.standing (cursor.rest.take length) :: (blanks.reverse ++ found)
        let (between, ended, after) := gap (cursor.skip length)
        if between.isEmpty || after.peek = some '#' || (!inFlow && after.column < indent) then
          ⟨joinPieces found, ended, after⟩
        else pieces inFlow indent fuel found between ended after

def read (inFlow : Bool) (indent : Nat) (cursor : Cursor) : Outcome :=
  pieces inFlow indent (cursor.rest.length + 1) [] [] false cursor

end Plain

/-! ## Quoted scalars -/

namespace QuotedScalar

/-- The character that a single-letter escape stands for. -/
def namedEscape? (char : Char) : Option Char :=
  match char with
  | '0' => some '\x00'
  | 'a' => some '\x07'
  | 'b' => some '\x08'
  | 't' => some '\t'
  | '\t' => some '\t'
  | 'n' => some '\n'
  | 'v' => some '\x0b'
  | 'f' => some '\x0c'
  | 'r' => some '\r'
  | 'e' => some '\x1b'
  | ' ' => some ' '
  | '"' => some '"'
  | '\\' => some '\\'
  | '/' => some '/'
  | 'N' => some '\x85'
  | '_' => some '\u00a0'
  | 'L' => some '\u2028'
  | 'P' => some '\u2029'
  | _ => none

/-- How many hexadecimal digits a coded escape has. -/
def codeLength? (char : Char) : Option Nat :=
  match char with
  | 'x' => some 2
  | 'u' => some 4
  | 'U' => some 8
  | _ => none

/-- The code point that as many hexadecimal digits as given, at the front of a text, stand for; it
may be a half of a pair. There is none past the last one, and a code of more than thirty-one bits is
out of range altogether. -/
def code (chars : List Char) (length : Nat) : Except Failure Nat :=
  match (chars.take length).mapM Binary64.hexDigit? with
  | none => .error .malformedDocument
  | some values =>
      let code := values.foldl (fun code digit => code * 16 + digit) 0
      if values.length < length then .error .malformedDocument
      else if 0x80000000 ≤ code then .error .outOfRange
      else if 0x110000 ≤ code then .error .badCharacterCode
      else .ok code

/-- Breaks and the blanks between them. No document marker may start a line. -/
def breaks : Nat → Cursor → Except Failure Pieces
  | 0, cursor => .ok ([], cursor)
  | fuel + 1, cursor =>
      if cursor.atAnyMarker then .error .malformedDocument
      else
        let after := cursor.skipWhile fun char => char == ' ' || char == '\t'
        if after.meets isBreak then do
          let (lineEnd, next) := after.lineBreak
          let (more, last) ← breaks fuel next
          return (lineEnd :: more, last)
        else return ([], after)

/-- The blanks between two pieces; the text may not end there. -/
def gap (cursor : Cursor) : Except Failure Pieces := do
  let (blanks, after) := cursor.run fun char => char == ' ' || char == '\t'
  if after.rest.isEmpty then throw .malformedDocument
  else if after.meets isBreak then
    let (lineEnd, next) := after.lineBreak
    let (more, last) ← breaks next.rest.length next
    return (foldedBreak lineEnd more ++ more, last)
  else return ([blanks], after)

/-- One piece without blanks, the last part first; `double` says which quotes are in use. -/
def piece (double : Bool) : Nat → List (List Char) → Cursor → Except Failure Pieces
  | 0, found, cursor => .ok (found, cursor)
  | fuel + 1, found, cursor =>
      let isPlainPart (char : Char) : Bool :=
        !(char == '\'' || char == '"' || char == '\\' || Cursor.isBlankOrBreak char)
      let (chars, after) := cursor.run isPlainPart
      let found := Text.standing chars :: found
      match after.rest with
      | '\'' :: rest =>
          if double then piece double fuel (['\''] :: found) after.next
          else if rest.head? = some '\'' then piece double fuel (['\''] :: found) (after.skip 2)
          else .ok (found, after)
      | '"' :: _ =>
          if double then .ok (found, after) else piece double fuel (['"'] :: found) after.next
      | '\\' :: rest =>
          if !double then piece double fuel (['\\'] :: found) after.next
          else
            match rest with
            | [] => .error .malformedDocument
            | char :: _ =>
                match namedEscape? char, codeLength? char with
                | some meant, _ => piece double fuel ([meant] :: found) (after.skip 2)
                | none, some length =>
                    match code (after.skip 2).rest length with
                    | .ok code =>
                        piece double fuel (Text.charsOf code :: found) (after.skip (2 + length))
                    | .error failure => .error failure
                | none, none =>
                    if isBreak char then
                      let next := after.next.lineBreak.2
                      match breaks next.rest.length next with
                      | .ok (more, last) => piece double fuel (more.reverse ++ found) last
                      | .error failure => .error failure
                    else .error .malformedDocument
      | _ => .ok (found, after)

/-- Pieces and gaps up to the closing quote. -/
def pieces (double : Bool) : Nat → List (List Char) → Cursor → Except Failure Pieces
  | 0, _, _ => .error .malformedDocument
  | fuel + 1, found, cursor => do
      let (found, after) ← piece double cursor.rest.length found cursor
      if after.peek = some (if double then '"' else '\'') then return (found, after.next)
      else
        let (between, next) ← gap after
        pieces double fuel (between.reverse ++ found) next

def read (double : Bool) (cursor : Cursor) : Except Failure (List Char × Cursor) := do
  let (found, after) ← pieces double (cursor.rest.length + 1) [] cursor.next
  return (joinPieces found, after)

end QuotedScalar

/-! ## Block scalars -/

namespace BlockScalar

/-- What becomes of the line ends behind the last line. -/
inductive Chomping where
  | strip
  | clip
  | keep
deriving DecidableEq, Repr

def chomping? (char : Char) : Option Chomping :=
  if char = '+' then some .keep else if char = '-' then some .strip else none

def increment? (char : Char) : Option Nat :=
  if char.isDigit then some (char.toNat - '0'.toNat) else none

/-- The indicators behind the style character, in either order. -/
def header (cursor : Cursor) : Except Failure (Chomping × Option Nat × Cursor) := do
  let (chomping, increment, after) ←
    match cursor.peek with
    | none => pure (Chomping.clip, none, cursor)
    | some first =>
        match chomping? first, increment? first with
        | some chomping, _ =>
            match cursor.next.peek.bind increment? with
            | some increment => pure (chomping, some increment, cursor.skip 2)
            | none => pure (chomping, none, cursor.next)
        | none, some increment =>
            match cursor.next.peek.bind chomping? with
            | some chomping => pure (chomping, some increment, cursor.skip 2)
            | none => pure (Chomping.clip, some increment, cursor.next)
        | none, none => pure (Chomping.clip, none, cursor)
  if increment = some 0 then throw .malformedDocument
  else if after.endsOr 0 Cursor.isSpaceOrBreak then return (chomping, increment, after)
  else throw .malformedDocument

/-- Leading breaks, and the deepest indentation among the blanks before the first line. -/
def measureIndent : Nat → Nat → Cursor → List (List Char) × Nat × Cursor
  | 0, deepest, cursor => ([], deepest, cursor)
  | fuel + 1, deepest, cursor =>
      if cursor.peek = some ' ' then
        let after := cursor.next
        measureIndent fuel (max deepest after.column) after
      else if cursor.meets isBreak then
        let (lineEnd, after) := cursor.lineBreak
        let (more, found, last) := measureIndent fuel deepest after
        (lineEnd :: more, found, last)
      else ([], deepest, cursor)

def skipIndent (indent : Nat) : Nat → Cursor → Cursor
  | 0, cursor => cursor
  | fuel + 1, cursor =>
      if cursor.column < indent ∧ cursor.peek = some ' ' then skipIndent indent fuel cursor.next
      else cursor

/-- Empty lines, and the indentation of the line behind them. -/
def breaks (indent : Nat) : Nat → Cursor → List (List Char) × Cursor
  | 0, cursor => ([], cursor)
  | fuel + 1, cursor =>
      let after := skipIndent indent indent cursor
      if after.meets isBreak then
        let (lineEnd, next) := after.lineBreak
        let (more, last) := breaks indent fuel next
        (lineEnd :: more, last)
      else ([], after)

/-- What stands between two lines of a block. -/
def betweenLines (folded solidBefore : Bool) (lineEnd : List Char) (empty : List (List Char))
    (after : Cursor) : List (List Char) :=
  let solidAfter := !after.meets fun char => char == ' ' || char == '\t'
  if folded && lineEnd == ['\n'] && solidBefore && solidAfter then
    if empty.isEmpty then [[' ']] else []
  else [lineEnd]

structure Lines where
  found : List (List Char)
  lastEnd : List Char
  empty : List (List Char)
  cursor : Cursor

/-- Lines with the indentation given, after the empty lines given. -/
def lines (folded : Bool) (indent : Nat) :
    Nat → List (List Char) → List (List Char) → Cursor → Lines
  | 0, found, empty, cursor => ⟨found, [], empty, cursor⟩
  | fuel + 1, found, empty, cursor =>
      let solid := !cursor.meets fun char => char == ' ' || char == '\t'
      let (chars, after) := cursor.run (!isBreak ·)
      let (lineEnd, next) := after.lineBreak
      let found := Text.standing chars :: (empty.reverse ++ found)
      let (more, last) := breaks indent next.rest.length next
      if last.column = indent ∧ ¬last.rest.isEmpty then
        lines folded indent fuel ((betweenLines folded solid lineEnd more last).reverse ++ found)
          more last
      else ⟨found, lineEnd, more, last⟩

def read (folded : Bool) (parentIndent : Int) (cursor : Cursor) :
    Except Failure (List Char × Cursor) := do
  let (chomping, increment, after) ← header cursor.next
  let start ← after.restOfLine
  let least := max (parentIndent + 1) 1 |>.toNat
  let (empty, indent, first) :=
    match increment with
    | none =>
        let (empty, deepest, first) := measureIndent (start.rest.length + 1) 0 start
        (empty, max least deepest, first)
    | some increment =>
        let indent := least + increment - 1
        let (empty, first) := breaks indent (start.rest.length + 1) start
        (empty, indent, first)
  let content :=
    if first.column = indent ∧ ¬first.rest.isEmpty then
      lines folded indent (first.rest.length + 1) [] empty first
    else ⟨[], [], empty, first⟩
  let tail :=
    match chomping with
    | .strip => []
    | .clip => [content.lastEnd]
    | .keep => content.lastEnd :: content.empty
  return (joinPieces (tail.reverse ++ content.found), content.cursor)

end BlockScalar

end ShardFleet.Markup
