import ApiBridge.Yaml.Cursor

/-!
The scalars of YAML as they are written: plain, in quotes, and as blocks of lines. What stands
between two words of a scalar is folded: a single line break means a blank, and of several the first
is left out.
-/

namespace ApiBridge.Yaml

inductive Style where
  | plain
  | literal
  | other
  deriving DecidableEq, Repr

structure Scalar where
  text : String
  style : Style
  deriving DecidableEq, Repr

namespace Scalar

structure Gap where
  blanks : List Char
  breaks : List Char

def Gap.fold (gap : Gap) : List Char :=
  match gap.breaks with
  | [] => gap.blanks
  | ['\n'] => [' ']
  | '\n' :: more => more
  | breaks => breaks

/-- Reads the blanks and line breaks here. Blanks at the start of a line are left out; a tab may not
stand left of `indent` there. -/
def readGap (indent : Nat) (gap : Gap) (atLineStart : Bool) (cursor : Cursor) :
    Nat → Option (Gap × Cursor)
  | 0 => some (gap, cursor)
  | fuel + 1 =>
      match cursor.rest with
      | [] => some (gap, cursor)
      | c :: _ =>
          if isBlank c then
            if atLineStart && cursor.column < indent && c == '\t' then none
            else if atLineStart then readGap indent gap true (cursor.skip 1) fuel
            else
              readGap indent { gap with blanks := gap.blanks ++ [c] } false (cursor.skip 1) fuel
          else if isBreak c then
            readGap indent { gap with breaks := gap.breaks ++ [Cursor.breakValue c] } true
              cursor.skipBreak fuel
          else some (gap, cursor)

def gap? (indent : Nat) (afterEscape : Bool) (cursor : Cursor) : Option (Gap × Cursor) :=
  readGap indent { blanks := [], breaks := [] } afterEscape cursor cursor.rest.length

def isFlowMark (c : Char) : Bool := [',', '[', ']', '\x7b', '\x7d'].contains c

/-- The word at the front of a text: up to a blank, a line break, a colon before one of those, or
the marks of a flow collection. No colon may stand right before such a mark. -/
def plainWord? (inFlow : Bool) : List Char → Option (List Char)
  | [] => some []
  | c :: rest =>
      if isBlank c || isBreak c then some []
      else if inFlow && c == ':' && rest.head?.any fun next => isFlowMark next || next == '?' then
        none
      else if c == ':' && rest.head?.all fun next => isBlank next || isBreak next then some []
      else if inFlow && isFlowMark c then some []
      else (plainWord? inFlow rest).map (c :: ·)

/-- What is read of a plain scalar, and whether line breaks come after it. -/
structure Plain where
  text : List Char
  beforeBreak : Bool

/-- Reads the words of a plain scalar whose lines are indented by `indent` at least. -/
def readPlain (inFlow : Bool) (indent : Nat) (text : List Char) (gap : Gap) (cursor : Cursor) :
    Nat → Option (Plain × Cursor)
  | 0 => none
  | fuel + 1 =>
      let stop : Option (Plain × Cursor) :=
        some ({ text, beforeBreak := !gap.breaks.isEmpty }, cursor)
      if cursor.isAtAnyMarker || cursor.peek? 0 = some '#' then stop
      else
        match plainWord? inFlow cursor.rest with
        | none => none
        | some [] => stop
        | some word =>
            let text := text ++ gap.fold ++ word
            let cursor := cursor.skip word.length
            if cursor.rest.isEmpty || !cursor.isGapAt 0 then
              some ({ text, beforeBreak := false }, cursor)
            else
              match gap? indent false cursor with
              | none => none
              | some (gap, cursor) =>
                  if !inFlow && cursor.column < indent then
                    some ({ text, beforeBreak := !gap.breaks.isEmpty }, cursor)
                  else readPlain inFlow indent text gap cursor fuel

def plain? (inFlow : Bool) (indent : Nat) (cursor : Cursor) : Option (Plain × Cursor) :=
  readPlain inFlow indent [] { blanks := [], breaks := [] } cursor (cursor.rest.length + 1)

def escapes : List (Char × Char) :=
  [('0', '\x00'), ('a', '\x07'), ('b', '\x08'), ('t', '\t'), ('\t', '\t'), ('n', '\n'),
    ('v', '\x0b'), ('f', '\x0c'), ('r', '\r'), ('e', '\x1b'), (' ', ' '), ('"', '"'), ('/', '/'),
    ('\\', '\\'), ('N', '\u0085'), ('_', '\u00a0'), ('L', '\u2028'), ('P', '\u2029')]

/-- How many hexadecimal digits of a code follow a backslash and a letter. -/
def codeLengths : List (Char × Nat) := [('x', 2), ('u', 4), ('U', 8)]

def hexDigit? (c : Char) : Option Nat :=
  if c.isDigit then some (c.toNat - '0'.toNat)
  else if 'a' ≤ c ∧ c ≤ 'f' then some (c.toNat - 'a'.toNat + 10)
  else if 'A' ≤ c ∧ c ≤ 'F' then some (c.toNat - 'A'.toNat + 10)
  else none

def charOfHex? (digits : List Char) : Option Char := do
  let values ← digits.mapM hexDigit?
  let code := values.foldl (fun code value => code * 16 + value) 0
  if h : code.isValidChar then some (Char.ofNatAux code h) else none

/-- The escaped character after a backslash, and how many characters it takes to write. -/
def escape? : List Char → Option (Char × Nat)
  | [] => none
  | letter :: rest =>
      match escapes.lookup letter, codeLengths.lookup letter with
      | some c, _ => some (c, 1)
      | none, some length =>
          if rest.length < length then none
          else (charOfHex? (rest.take length)).map fun c => (c, length + 1)
      | none, none => none

/-- What is found in quotes: the characters up to a gap or the closing quote, and whether they end
with an escaped line break. -/
structure Piece where
  text : List Char
  escapedBreak : Bool

def readPiece (single : Bool) (text : List Char) (cursor : Cursor) :
    Nat → Option (Piece × Cursor)
  | 0 => none
  | fuel + 1 =>
      match cursor.rest with
      | [] => some ({ text, escapedBreak := false }, cursor)
      | c :: rest =>
          if isBlank c || isBreak c then some ({ text, escapedBreak := false }, cursor)
          else if single && c == '\'' && rest.head? = some '\'' then
            readPiece single (text ++ ['\'']) (cursor.skip 2) fuel
          else if c == (if single then '\'' else '"') then
            some ({ text, escapedBreak := false }, cursor)
          else if !single && c == '\\' then
            if rest.head?.any isBreak then
              some ({ text, escapedBreak := true }, (cursor.skip 1).skipBreak)
            else
              match escape? rest with
              | some (value, length) =>
                  readPiece single (text ++ [value]) (cursor.skip (length + 1)) fuel
              | none => none
          else readPiece single (text ++ [c]) (cursor.skip 1) fuel

def readQuoted (single : Bool) (text : List Char) (cursor : Cursor) :
    Nat → Option (List Char × Cursor)
  | 0 => none
  | fuel + 1 =>
      if cursor.isAtAnyMarker || cursor.rest.isEmpty then none
      else
        match readPiece single [] cursor (cursor.rest.length + 1) with
        | none => none
        | some (piece, cursor) =>
            let text := text ++ piece.text
            if !piece.escapedBreak && cursor.peek? 0 = some (if single then '\'' else '"') then
              some (text, cursor.skip 1)
            else
              match gap? 0 piece.escapedBreak cursor with
              | none => none
              | some (gap, cursor) =>
                  let between := if piece.escapedBreak then gap.breaks else gap.fold
                  readQuoted single (text ++ between) cursor fuel

def quoted? (single : Bool) (cursor : Cursor) : Option (List Char × Cursor) :=
  readQuoted single [] cursor (cursor.rest.length + 1)

inductive Chomping where
  | strip
  | clip
  | keep
  deriving DecidableEq, Repr

/-- The header of a block: the chomping and the number of blanks of its indentation. -/
structure BlockHeader where
  chomping : Chomping
  indent : Option Nat

def chomping? : Option Char → Option Chomping
  | some '+' => some .keep
  | some '-' => some .strip
  | _ => none

def blockHeader? (cursor : Cursor) : Option (BlockHeader × Cursor) := do
  let digit? (cursor : Cursor) : Option Nat :=
    ((cursor.peek? 0).filter Char.isDigit).map fun c => c.toNat - '0'.toNat
  let (first, cursor) := match chomping? (cursor.peek? 0) with
    | some chomping => (some chomping, cursor.skip 1)
    | none => (none, cursor)
  let indent := digit? cursor
  if indent = some 0 then none
  else
    let cursor := if indent.isSome then cursor.skip 1 else cursor
    let (second, cursor) := match first, indent.bind fun _ => chomping? (cursor.peek? 0) with
      | none, some chomping => (some chomping, cursor.skip 1)
      | _, _ => (none, cursor)
    let cursor ← cursor.skipLineTail?
    some ({ chomping := (first <|> second).getD .clip, indent }, cursor)

/-- Reads empty lines, and the blanks before the next line up to the indentation. Where that is not
known, all blanks are taken; `widest` is the most of them found in a line. -/
def readEmptyLines (indent : Option Nat) (widest : Nat) (breaks : List Char) (cursor : Cursor) :
    Nat → Option (Nat × List Char × Cursor)
  | 0 => none
  | fuel + 1 =>
      let blanks := (cursor.rest.takeWhile (· == ' ')).length
      let cursor := cursor.skip (match indent with
        | some indent => min blanks (indent - cursor.column)
        | none => blanks)
      let widest := max widest cursor.column
      match cursor.rest with
      | [] => some (widest, breaks, cursor)
      | c :: _ =>
          if c == '\t' && indent.all fun indent => cursor.column < indent then none
          else if isBreak c then
            readEmptyLines indent widest (breaks ++ [Cursor.breakValue c]) cursor.skipBreak fuel
          else some (widest, breaks, cursor)

/-- A block in the course of reading: its text, and what comes after the last line: the line break,
the empty lines, and whether that line started with a blank. -/
structure Lines where
  text : List Char
  ending : List Char
  empty : List Char
  startsBlank : Bool

/-- Adds a line to a block. In a folded block a single break between two lines that start with no
blank means a blank, and of several the first is left out. -/
def Lines.add (lines : Lines) (literal : Bool) (line ending : List Char) : Lines :=
  let startsBlank := line.head?.any isBlank
  let between :=
    if !literal && lines.ending == ['\n'] && !lines.startsBlank && !startsBlank then
      if lines.empty.isEmpty then [' '] else lines.empty
    else lines.ending ++ lines.empty
  { text := lines.text ++ between ++ line, ending, empty := [], startsBlank }

def readLines (literal : Bool) (indent : Nat) (lines : Lines) (cursor : Cursor) :
    Nat → Option (Lines × Cursor)
  | 0 => none
  | fuel + 1 =>
      if cursor.column == indent && !cursor.rest.isEmpty then
        let line := cursor.rest.takeWhile fun c => !isBreak c
        let cursor := cursor.skip line.length
        let (ending, cursor) := match cursor.rest with
          | c :: _ => ([Cursor.breakValue c], cursor.skipBreak)
          | [] => ([], cursor)
        match readEmptyLines (some indent) 0 [] cursor (cursor.rest.length + 1) with
        | none => none
        | some (_, empty, cursor) =>
            readLines literal indent { lines.add literal line ending with empty } cursor fuel
      else some (lines, cursor)

/-- The block after its mark, in a collection whose contents are indented by `least` at least. -/
def block? (literal : Bool) (least : Nat) (cursor : Cursor) : Option (Scalar × Cursor) := do
  let (header, cursor) ← blockHeader? cursor
  let declared := header.indent.map fun indent => least - 1 + indent
  let (widest, empty, cursor) ← readEmptyLines declared 0 [] cursor (cursor.rest.length + 1)
  let indent := declared.getD (max widest (max least 1))
  let (lines, cursor) ← readLines literal indent
    { text := [], ending := [], empty, startsBlank := false } cursor (cursor.rest.length + 1)
  let tail := match header.chomping with
    | .strip => []
    | .clip => lines.ending
    | .keep => lines.ending ++ lines.empty
  some ({ text := String.ofList (lines.text ++ tail),
          style := if literal then .literal else .other }, cursor)

end Scalar

end ApiBridge.Yaml
