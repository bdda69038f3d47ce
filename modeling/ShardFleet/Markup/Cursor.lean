import ShardFleet.Failure

/-!
# Positions in a document's text

A cursor is the text still to be read with its place: how many characters precede it, its line and
its column. A byte order mark takes up no column. A text is read in portions, and a character that
may not stand in a document is a fault only once its portion is read: `Cursor.ofText` cuts the
text off before that portion.
-/

namespace ShardFleet.Markup

def isBreak (char : Char) : Bool :=
  char == '\n' || char == '\r' || char == '\x85' || char == '\u2028' || char == '\u2029'

def byteOrderMark : Char := '\ufeff'

/-- Whether a character may stand in a document at all. -/
def isAllowed (char : Char) : Bool :=
  let code := char.toNat
  code == 0x9 || code == 0xa || code == 0xd || (0x20 ≤ code && code ≤ 0x7e) || code == 0x85 ||
    (0xa0 ≤ code && code ≤ 0xd7ff) || (0xe000 ≤ code && code ≤ 0xfffd) || 0x10000 ≤ code

structure Cursor where
  rest : List Char
  /-- Whether the text was cut off behind `rest`. -/
  cutOff : Bool := false
  index : Nat := 0
  line : Nat := 0
  column : Nat := 0

namespace Cursor

/-- How many characters a portion of a text has; the first two are read at once. -/
def portion : Nat := 4096

/-- A cursor at the start of a text. -/
def ofText (text : List Char) : Cursor :=
  let allowed := (text.takeWhile isAllowed).length
  if allowed = text.length then { rest := text }
  else if allowed < 2 * portion then { rest := [], cutOff := true }
  else { rest := text.take (allowed / portion * portion), cutOff := true }

def peek (cursor : Cursor) : Option Char := cursor.rest.head?

def peekAt (cursor : Cursor) (offset : Nat) : Option Char := cursor.rest[offset]?

/-- Past one character; the two characters of a line's end are one break. -/
def next (cursor : Cursor) : Cursor :=
  match cursor.rest with
  | [] => cursor
  | char :: rest =>
      let ends := isBreak char && !(char == '\r' && rest.head? == some '\n')
      { cursor with
        rest
        index := cursor.index + 1
        line := if ends then cursor.line + 1 else cursor.line
        column :=
          if ends then 0
          else if char = byteOrderMark then cursor.column
          else cursor.column + 1 }

def skip (cursor : Cursor) : Nat → Cursor
  | 0 => cursor
  | count + 1 => cursor.next.skip count

/-- Whether the character at an offset is one of a class, or the text ends there. -/
def endsOr (cursor : Cursor) (offset : Nat) (isOne : Char → Bool) : Bool :=
  match cursor.peekAt offset with
  | none => true
  | some char => isOne char

def meets (cursor : Cursor) (isOne : Char → Bool) : Bool :=
  match cursor.peek with
  | none => false
  | some char => isOne char

def isBlankOrBreak (char : Char) : Bool := char == ' ' || char == '\t' || isBreak char

def isSpaceOrBreak (char : Char) : Bool := char == ' ' || isBreak char

def atBlank (cursor : Cursor) (offset : Nat) : Bool := cursor.endsOr offset isBlankOrBreak

/-- Whether a document marker, three of one character and then a blank, stands here. -/
def atMarker (cursor : Cursor) (char : Char) : Bool :=
  cursor.rest.take 3 == [char, char, char] && cursor.atBlank 3

def atAnyMarker (cursor : Cursor) : Bool := cursor.atMarker '-' || cursor.atMarker '.'

/-- The characters of a class that stand here, and the cursor past them. -/
def run (cursor : Cursor) (isOne : Char → Bool) : List Char × Cursor :=
  let chars := cursor.rest.takeWhile isOne
  (chars, cursor.skip chars.length)

def skipWhile (cursor : Cursor) (isOne : Char → Bool) : Cursor := (cursor.run isOne).2

def skipSpaces (cursor : Cursor) : Cursor := cursor.skipWhile (· == ' ')

def skipComment (cursor : Cursor) : Cursor :=
  if cursor.peek = some '#' then cursor.skipWhile (!isBreak ·) else cursor

/-- The break that stands here, as it counts in a text, and the cursor past it. -/
def lineBreak (cursor : Cursor) : List Char × Cursor :=
  match cursor.rest with
  | '\r' :: '\n' :: _ => (['\n'], cursor.skip 2)
  | '\u2028' :: _ => (['\u2028'], cursor.next)
  | '\u2029' :: _ => (['\u2029'], cursor.next)
  | char :: _ => if isBreak char then (['\n'], cursor.next) else ([], cursor)
  | [] => ([], cursor)

/-- Past blanks and a comment up to the end of the line, which nothing else may stand before. -/
def restOfLine (cursor : Cursor) : Except Failure Cursor :=
  let cursor := cursor.skipSpaces.skipComment
  if cursor.endsOr 0 isBreak then .ok cursor.lineBreak.2 else .error .malformedDocument

end Cursor

def isWordChar (char : Char) : Bool :=
  char.isAlphanum || char == '-' || char == '_'

end ShardFleet.Markup
