namespace ApiBridge.Yaml

def isBreak (c : Char) : Bool :=
  c == '\n' || c == '\r' || c == '\u0085' || c == '\u2028' || c == '\u2029'

def isBlank (c : Char) : Bool := c == ' ' || c == '\t'

def isWordChar (c : Char) : Bool := c.isAlphanum || c == '_' || c == '-'

def isAllowed (c : Char) : Bool :=
  let code := c.toNat
  code == 0x09 || code == 0x0A || code == 0x0D || (0x20 ≤ code && code ≤ 0x7E) || code == 0x85 ||
    (0xA0 ≤ code && code ≤ 0xD7FF) || (0xE000 ≤ code && code ≤ 0xFFFD) || 0x10000 ≤ code

def byteOrderMark : Char := '\uFEFF'

structure Cursor where
  rest : List Char
  index : Nat
  line : Nat
  column : Nat
  deriving Repr

namespace Cursor

def start (text : String) : Cursor := { rest := text.toList, index := 0, line := 0, column := 0 }

def peek? (cursor : Cursor) (distance : Nat) : Option Char := cursor.rest[distance]?

def startsWith (cursor : Cursor) (chars : List Char) : Bool := chars.isPrefixOf cursor.rest

def isGapAt (cursor : Cursor) (distance : Nat) : Bool :=
  (cursor.peek? distance).all fun c => isBlank c || isBreak c

def isLineEnd (cursor : Cursor) : Bool := (cursor.peek? 0).all isBreak

def skip (cursor : Cursor) (count : Nat) : Cursor :=
  { cursor with
    rest := cursor.rest.drop count
    index := cursor.index + count
    column := cursor.column + count }

def skipWhile (cursor : Cursor) (test : Char → Bool) : Cursor :=
  cursor.skip (cursor.rest.takeWhile test).length

/-- Goes past a line break; a carriage return and a line feed together are one. -/
def skipBreak (cursor : Cursor) : Cursor :=
  let count := if cursor.startsWith ['\r', '\n'] then 2 else 1
  { rest := cursor.rest.drop count, index := cursor.index + count, line := cursor.line + 1,
    column := 0 }

def breakValue (c : Char) : Char := if c == '\u2028' || c == '\u2029' then c else '\n'

def isAtMarker (cursor : Cursor) (marker : String) : Bool :=
  cursor.column == 0 && cursor.startsWith marker.toList && cursor.isGapAt 3

def isAtAnyMarker (cursor : Cursor) : Bool := cursor.isAtMarker "---" || cursor.isAtMarker "..."

/-- Goes past blanks and a comment to the end of the line, which must follow. -/
def skipLineTail? (cursor : Cursor) : Option Cursor :=
  let cursor := cursor.skipWhile isBlank
  let cursor := if cursor.peek? 0 = some '#' then cursor.skipWhile fun c => !isBreak c else cursor
  if !cursor.isLineEnd then none
  else if cursor.rest.isEmpty then some cursor
  else some cursor.skipBreak

end Cursor

end ApiBridge.Yaml
