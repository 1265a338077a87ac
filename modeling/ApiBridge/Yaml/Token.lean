import ApiBridge.Yaml.Tag

/-!
The tokens of YAML texts. In block collections it is the indentation that tells where a collection
starts and ends, and tokens stand for that: a collection starts where the indentation grows, and
ends where it shrinks again. That a mapping or one of its keys started is only known at the colon
after the key; then the tokens for it are put in where the key began.
-/

namespace ApiBridge.Yaml

inductive Token where
  | directive (directive : Directive)
  | documentStart
  | documentEnd
  | blockSequenceStart
  | blockMappingStart
  | blockEnd
  | flowSequenceStart
  | flowSequenceEnd
  | flowMappingStart
  | flowMappingEnd
  | blockEntry
  | flowEntry
  | key
  | value
  | alias (name : String)
  | anchor (name : String)
  | tag (tag : TagText)
  | scalar (scalar : Scalar)
  deriving DecidableEq, Repr

structure KeyStart where
  position : Nat
  place : Cursor
  required : Bool

structure Lexer where
  cursor : Cursor
  tokens : List Token
  count : Nat
  indents : List Nat
  /-- Where a key may have begun: for each open flow collection, the innermost first, and in the
  end for the block around them. -/
  keyStarts : List (Option KeyStart)
  keyAllowed : Bool

namespace Lexer

def start (text : String) : Lexer :=
  { cursor := .start text, tokens := [], count := 0, indents := [], keyStarts := [none],
    keyAllowed := true }

def inFlow (lexer : Lexer) : Bool := 1 < lexer.keyStarts.length

def contentColumn (lexer : Lexer) : Nat :=
  match lexer.indents with
  | [] => 0
  | indent :: _ => indent + 1

def emit (lexer : Lexer) (token : Token) : Lexer :=
  { lexer with tokens := token :: lexer.tokens, count := lexer.count + 1 }

def emitAt (lexer : Lexer) (position : Nat) (token : Token) : Lexer :=
  let later := lexer.count - position
  { lexer with
    tokens := lexer.tokens.take later ++ token :: lexer.tokens.drop later
    count := lexer.count + 1 }

/-- Opens a block collection at a column right of the innermost one, with its token at a
position. -/
def openBlock (lexer : Lexer) (column position : Nat) (token : Token) : Lexer :=
  if !lexer.inFlow && lexer.contentColumn ≤ column then
    { lexer.emitAt position token with indents := column :: lexer.indents }
  else lexer

/-- Closes the block collections right of the column that is given as one more than it, so that zero
closes all. -/
def closeBlocks (lexer : Lexer) (columnBound : Nat) : Lexer :=
  if lexer.inFlow then lexer
  else
    let closed := lexer.indents.takeWhile (columnBound ≤ ·)
    { lexer with
      tokens := closed.map (fun _ => Token.blockEnd) ++ lexer.tokens
      count := lexer.count + closed.length
      indents := lexer.indents.drop closed.length }

/-- Where a key may have begun, as far as it still may: on this line, and not too far back. Fails
where only a key could stand. -/
def freshKeyStart? (lexer : Lexer) : Option KeyStart → Option (Option KeyStart)
  | none => some none
  | some start =>
      if start.place.line < lexer.cursor.line || start.place.index + 1024 < lexer.cursor.index then
        if start.required then none else some none
      else some (some start)

def dropKeyStart? (lexer : Lexer) : Option Lexer :=
  match lexer.keyStarts with
  | [] => some lexer
  | start :: outer =>
      if start.any KeyStart.required then none
      else some { lexer with keyStarts := none :: outer }

def noteKeyStart? (lexer : Lexer) : Option Lexer :=
  if lexer.keyAllowed then
    lexer.dropKeyStart?.map fun lexer =>
      let start : KeyStart := {
        position := lexer.count, place := lexer.cursor
        required := !lexer.inFlow && lexer.contentColumn == lexer.cursor.column + 1 }
      { lexer with keyStarts := some start :: lexer.keyStarts.tail }
  else some lexer

/-- Goes on to the next token, past blanks, comments and line breaks. A tab counts as a blank only
where no block collection can start. -/
def skipToToken (lexer : Lexer) : Nat → Lexer
  | 0 => lexer
  | fuel + 1 =>
      let cursor := lexer.cursor
      let cursor :=
        if cursor.column == 0 && cursor.peek? 0 = some byteOrderMark then cursor.skip 1 else cursor
      let cursor := cursor.skipWhile fun c =>
        c == ' ' || ((lexer.inFlow || !lexer.keyAllowed) && c == '\t')
      let cursor :=
        if cursor.peek? 0 = some '#' then cursor.skipWhile fun c => !isBreak c else cursor
      if (cursor.peek? 0).any isBreak then
        skipToToken { lexer with
          cursor := cursor.skipBreak
          keyAllowed := lexer.keyAllowed || !lexer.inFlow } fuel
      else { lexer with cursor }

def mark (lexer : Lexer) (length : Nat) (token : Token) : Lexer :=
  { lexer.emit token with cursor := lexer.cursor.skip length }

def documentMark? (lexer : Lexer) (token : Token) : Option Lexer := do
  let lexer ← (lexer.closeBlocks 0).dropKeyStart?
  some { lexer.mark 3 token with keyAllowed := false }

def openFlow? (lexer : Lexer) (token : Token) : Option Lexer := do
  let lexer ← lexer.noteKeyStart?
  some { lexer.mark 1 token with keyStarts := none :: lexer.keyStarts, keyAllowed := true }

def closeFlow? (lexer : Lexer) (token : Token) : Option Lexer := do
  let lexer ← lexer.dropKeyStart?
  let keyStarts := if lexer.inFlow then lexer.keyStarts.tail else lexer.keyStarts
  some { lexer.mark 1 token with keyStarts, keyAllowed := false }

def blockMark? (lexer : Lexer) (opening token : Token) (keyAllowed : Bool) : Option Lexer :=
  if !lexer.inFlow && !lexer.keyAllowed then none
  else do
    let lexer ← (lexer.openBlock lexer.cursor.column lexer.count opening).dropKeyStart?
    some { lexer.mark 1 token with keyAllowed }

def valueMark? (lexer : Lexer) : Option Lexer :=
  match lexer.keyStarts with
  | some start :: outer =>
      let lexer := (lexer.emitAt start.position .key).openBlock start.place.column start.position
        .blockMappingStart
      some { lexer.mark 1 .value with keyStarts := none :: outer, keyAllowed := false }
  | _ =>
      if !lexer.inFlow && !lexer.keyAllowed then none
      else
        let lexer := lexer.openBlock lexer.cursor.column lexer.count .blockMappingStart
        some { lexer.mark 1 .value with keyAllowed := !lexer.inFlow }

def anchorMark? (lexer : Lexer) (token : String → Token) : Option Lexer := do
  let lexer ← lexer.noteKeyStart?
  let name := (lexer.cursor.rest.drop 1).takeWhile isWordChar
  let cursor := lexer.cursor.skip (name.length + 1)
  let mayFollow (c : Char) : Bool := ['?', ':', ',', ']', '\x7d', '%', '@', '\x60'].contains c
  if name.isEmpty || !(cursor.isGapAt 0 || (cursor.peek? 0).any mayFollow) then none
  else some { lexer.emit (token (String.ofList name)) with cursor, keyAllowed := false }

def tagMark? (lexer : Lexer) : Option Lexer := do
  let lexer ← lexer.noteKeyStart?
  let (tag, cursor) ← TagText.read? lexer.inFlow lexer.cursor
  some { lexer.emit (.tag tag) with cursor, keyAllowed := false }

def directive? (lexer : Lexer) : Option Lexer := do
  let lexer ← (lexer.closeBlocks 0).dropKeyStart?
  let (directive, cursor) ← Directive.read? lexer.cursor
  some { lexer.emit (.directive directive) with cursor, keyAllowed := false }

def block? (lexer : Lexer) (literal : Bool) : Option Lexer := do
  let lexer ← lexer.dropKeyStart?
  let (scalar, cursor) ← Scalar.block? literal lexer.contentColumn (lexer.cursor.skip 1)
  some { lexer.emit (.scalar scalar) with cursor, keyAllowed := true }

def quoted? (lexer : Lexer) (single : Bool) : Option Lexer := do
  let lexer ← lexer.noteKeyStart?
  let (text, cursor) ← Scalar.quoted? single (lexer.cursor.skip 1)
  let scalar : Scalar := { text := String.ofList text, style := .other }
  some { lexer.emit (.scalar scalar) with cursor, keyAllowed := false }

def plain? (lexer : Lexer) : Option Lexer := do
  let lexer ← lexer.noteKeyStart?
  let (plain, cursor) ← Scalar.plain? lexer.inFlow lexer.contentColumn lexer.cursor
  let scalar : Scalar := { text := String.ofList plain.text, style := .plain }
  some { lexer.emit (.scalar scalar) with cursor, keyAllowed := plain.beforeBreak }

def isIndicator (c : Char) : Bool :=
  ['-', '?', ':', ',', '[', ']', '\x7b', '\x7d', '#', '&', '*', '!', '|', '>', '\'', '"', '%', '@',
    '\x60'].contains c

def token? (lexer : Lexer) (c : Char) : Option Lexer :=
  let cursor := lexer.cursor
  let isMark := lexer.inFlow || cursor.isGapAt 1
  if cursor.column == 0 && c == '%' then lexer.directive?
  else if cursor.isAtMarker "---" then lexer.documentMark? .documentStart
  else if cursor.isAtMarker "..." then lexer.documentMark? .documentEnd
  else if c == '[' then lexer.openFlow? .flowSequenceStart
  else if c == '\x7b' then lexer.openFlow? .flowMappingStart
  else if c == ']' then lexer.closeFlow? .flowSequenceEnd
  else if c == '\x7d' then lexer.closeFlow? .flowMappingEnd
  else if c == ',' then
    lexer.dropKeyStart?.map fun lexer => { lexer.mark 1 .flowEntry with keyAllowed := true }
  else if c == '-' && cursor.isGapAt 1 then lexer.blockMark? .blockSequenceStart .blockEntry true
  else if c == '?' && isMark then lexer.blockMark? .blockMappingStart .key (!lexer.inFlow)
  else if c == ':' && isMark then lexer.valueMark?
  else if c == '*' then lexer.anchorMark? .alias
  else if c == '&' then lexer.anchorMark? .anchor
  else if c == '!' then lexer.tagMark?
  else if c == '|' && !lexer.inFlow then lexer.block? true
  else if c == '>' && !lexer.inFlow then lexer.block? false
  else if c == '\'' then lexer.quoted? true
  else if c == '"' then lexer.quoted? false
  else if !(isIndicator c || isBlank c) || (c == '-' && !(cursor.peek? 1).any isBlank) ||
      (!lexer.inFlow && (c == '?' || c == ':') && !cursor.isGapAt 1) then lexer.plain?
  else none

def run? (lexer : Lexer) : Nat → Option (List Token)
  | 0 => none
  | fuel + 1 => do
      let lexer := lexer.skipToToken (lexer.cursor.rest.length + 1)
      let keyStarts ← lexer.keyStarts.mapM lexer.freshKeyStart?
      let lexer := { lexer with keyStarts }.closeBlocks (lexer.cursor.column + 1)
      match lexer.cursor.rest with
      | [] =>
          let lexer ← (lexer.closeBlocks 0).dropKeyStart?
          some lexer.tokens.reverse
      | c :: _ => run? (← lexer.token? c) fuel

end Lexer

def Token.ofText? (text : String) : Option (List Token) :=
  if text.toList.all isAllowed then (Lexer.start text).run? (text.length + 1) else none

end ApiBridge.Yaml
