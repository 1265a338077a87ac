import ApiBridge.Text.Utf8
import ApiBridge.Yaml.Scalar

namespace ApiBridge.Yaml

/-- A tag as it is written: the handle of a prefix, and what comes after it. -/
structure TagText where
  handle : String
  suffix : List UInt8
  deriving DecidableEq, Repr

inductive Directive where
  | version (major minor : Nat)
  | handle (handle : String) (fullPrefix : List UInt8)
  deriving DecidableEq, Repr

namespace TagText

/-- A character of the name of a tag; in a name between angle brackets some more may stand. -/
def isNameChar (bracketed : Bool) (c : Char) : Bool :=
  isWordChar c ||
    [';', '/', '?', ':', '@', '&', '=', '+', '$', '.', '%', '!', '~', '*', '\'', '(', ')'].contains
      c ||
    (bracketed && [',', '[', ']'].contains c)

/-- How many bytes follow the first byte of a character; only the form of the byte counts. -/
def tailCount? (first : Nat) : Option Nat :=
  if first < 0x80 then some 0
  else if 0xC0 ≤ first ∧ first < 0xE0 then some 1
  else if 0xE0 ≤ first ∧ first < 0xF0 then some 2
  else if 0xF0 ≤ first ∧ first < 0xF8 then some 3
  else none

/-- Replaces the escapes of bytes in the name of a tag. All bytes of a character that begins with an
escape are escapes; `due` of them are still to come. -/
def unescape (due : Nat) : List Char → Option (List UInt8)
  | [] => if due = 0 then some [] else none
  | '%' :: high :: low :: rest => do
      let code := (← Scalar.hexDigit? high) * 16 + (← Scalar.hexDigit? low)
      let due ←
        if due = 0 then tailCount? code
        else if 0x80 ≤ code ∧ code < 0xC0 then some (due - 1)
        else none
      (unescape due rest).map (UInt8.ofNat code :: ·)
  | '%' :: _ => none
  | c :: rest =>
      if due = 0 then (unescape 0 rest).map (String.utf8EncodeChar c ++ ·) else none

/-- Reads the name of a tag, which may be empty, with what it holds after a zero byte. -/
def name? (bracketed : Bool) (cursor : Cursor) : Option (List UInt8 × Cursor) := do
  let text := cursor.rest.takeWhile (isNameChar bracketed)
  some (← unescape 0 text, cursor.skip text.length)

def cut (name : List UInt8) : List UInt8 := name.takeWhile (· != 0)

/-- Reads the handle of a tag: an exclamation mark, and a word up to another one. -/
def handle? (cursor : Cursor) : Option (String × Cursor) :=
  match cursor.rest with
  | '!' :: rest =>
      let word := rest.takeWhile isWordChar
      let cursor := cursor.skip (word.length + 1)
      if cursor.peek? 0 = some '!' then
        some (String.ofList ('!' :: word ++ ['!']), cursor.skip 1)
      else some (String.ofList ('!' :: word), cursor)
  | _ => none

def isClosed (handle : String) : Bool := 1 < handle.length && handle.toList.getLast? = some '!'

def bare : List UInt8 := Utf8.encode "!"

def read? (inFlow : Bool) (cursor : Cursor) : Option (TagText × Cursor) := do
  let (tag, cursor) ←
    if cursor.peek? 1 = some '<' then do
      let (suffix, cursor) ← name? true (cursor.skip 2)
      if suffix.isEmpty || cursor.peek? 0 != some '>' then none
      else some (⟨"", cut suffix⟩, cursor.skip 1)
    else do
      let (handle, cursor) ← handle? cursor
      let (suffix, cursor) ← name? false cursor
      if isClosed handle then
        if suffix.isEmpty then none else some (⟨handle, cut suffix⟩, cursor)
      else
        let suffix := cut (Utf8.encode (String.ofList (handle.toList.drop 1)) ++ suffix)
        some (if suffix.isEmpty then ⟨"", bare⟩ else ⟨"!", suffix⟩, cursor)
  if cursor.isGapAt 0 || (inFlow && cursor.peek? 0 = some ',') then some (tag, cursor) else none

def defaultHandles : List (String × List UInt8) :=
  [("!", bare), ("!!", Utf8.encode "tag:yaml.org,2002:")]

def resolve? (tag : TagText) (handles : List (String × List UInt8)) : Option (List UInt8) :=
  if tag.handle.isEmpty then some tag.suffix
  else (handles.lookup tag.handle).map fun fullPrefix => fullPrefix ++ tag.suffix

end TagText

namespace Directive

def versionNumber? (cursor : Cursor) : Option (Nat × Cursor) :=
  let digits := cursor.rest.takeWhile Char.isDigit
  if digits.isEmpty || 9 < digits.length then none
  else
    let value := digits.foldl (fun value digit => value * 10 + (digit.toNat - '0'.toNat)) 0
    some (value, cursor.skip digits.length)

def read? (cursor : Cursor) : Option (Directive × Cursor) := do
  let cursor := cursor.skip 1
  let name := cursor.rest.takeWhile isWordChar
  let cursor := cursor.skip name.length
  if !cursor.isGapAt 0 then none
  else
    let cursor := cursor.skipWhile isBlank
    match String.ofList name with
    | "YAML" => do
        let (major, cursor) ← versionNumber? cursor
        if cursor.peek? 0 != some '.' then none
        else
          let (minor, cursor) ← versionNumber? (cursor.skip 1)
          some (.version major minor, ← cursor.skipLineTail?)
    | "TAG" => do
        let (short, cursor) ← TagText.handle? cursor
        if short != "!" && !TagText.isClosed short then none
        else if !(cursor.peek? 0).any isBlank then none
        else
          let (fullPrefix, cursor) ← TagText.name? true (cursor.skipWhile isBlank)
          if fullPrefix.isEmpty || !cursor.isGapAt 0 then none
          else some (.handle short (TagText.cut fullPrefix), ← cursor.skipLineTail?)
    | _ => none

end Directive

end ApiBridge.Yaml
