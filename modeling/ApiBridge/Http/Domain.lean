import ApiBridge.Http.Punycode
import ApiBridge.Unicode.Direction
import ApiBridge.Unicode.Joining
import ApiBridge.Unicode.Mapping
import ApiBridge.Unicode.Mark
import ApiBridge.Unicode.Normalization

/-!
Domain names, which are brought into lower-case ASCII: characters are replaced by what they stand
for, and a label that is not ASCII afterwards is written as one that is. A name without characters
outside ASCII and without such labels only changes its capital letters.
-/

namespace ApiBridge.Http.Domain

open Unicode

def isForbidden (c : Char) : Bool :=
  c.toNat ≤ 0x20 || c.toNat == 0x7F || "#%/:<>?@[\\]^|".toList.contains c

def isAscii (c : Char) : Bool := c.toNat < 0x80

def normal? (name : List Char) : Option (List Char) :=
  if name.all isAscii then some (name.map Char.toLower)
  else (name.mapM mapped?).map fun images => Normalization.compose images.flatten

structure Label where
  sent : List Char
  meant : List Char
  deriving DecidableEq, Repr

namespace Label

def asciiMark : List Char := "xn--".toList

def maxMarked : Nat := 2000

def maxMeant : Nat := 1000

def isSettled (text : List Char) : Bool :=
  text.all (fun c => mapped? c == some [c] && c != '.' && !isForbidden c) &&
    Normalization.compose text == text

/-- The label of a text. A text that stands for another must be what is written for that. -/
def ofText? (text : List Char) : Option Label :=
  if asciiMark.isPrefixOf text then
    let marked := text.drop asciiMark.length
    if maxMarked < marked.length || !marked.all isAscii then none
    else
      (Punycode.decode? marked).bind fun meant =>
        if meant.all isAscii || !isSettled meant || Punycode.encode meant != marked then none
        else some { sent := text, meant }
  else if text.all isAscii then some { sent := text, meant := text }
  else some { sent := asciiMark ++ Punycode.encode text, meant := text }

def silencer : Nat := 9

def joins (ways : List Joining) (characters : List Char) : Bool :=
  match (characters.map Joining.ofChar).find? (· != .transparent) with
  | some way => ways.contains way
  | none => false

/-- Whether a character may stand after some others, given in reverse, and before some more. Only
joiners need company: a silencer in front, or, for the one that separates, letters that would join
without it. -/
def hasCompany (before : List Char) (c : Char) (after : List Char) : Bool :=
  if c.toNat = 0x200C ∨ c.toNat = 0x200D then
    match before with
    | [] => false
    | previous :: _ =>
        Normalization.order previous == silencer ||
          (c.toNat == 0x200C && joins [.left, .both] before && joins [.right, .both] after)
  else true

def joinersFit (before : List Char) : List Char → Bool
  | [] => true
  | c :: rest => hasCompany before c rest && joinersFit (c :: before) rest

/-- Whether a label may stand in a name: it is not too long, does not begin with a mark, and has no
joiners out of place. -/
def isProper (label : Label) : Bool :=
  label.meant.all isAscii ||
    (label.meant.length ≤ maxMeant && !label.meant.head?.any marks.has &&
      joinersFit [] label.meant)

/-- Whether a label makes its name one that is written in both directions. -/
def turns (label : Label) : Bool :=
  label.meant.any fun c =>
    let direction := Direction.ofChar c
    direction == .rightToLeft || direction == .arabicDigit

/-- Whether the directions after the first of a label go together: those allowed anywhere, and those
allowed for the last one that is no mark. Digits of two kinds do not go together. -/
def agree (anywhere atEnd rest : List Direction) : Bool :=
  match rest.reverse.dropWhile (· == .mark) with
  | [] => true
  | last :: others =>
      atEnd.contains last && others.all anywhere.contains &&
        !(rest.contains .europeanDigit && rest.contains .arabicDigit)

/-- Whether a label has one direction, as all labels of a name in both directions must. -/
def isOneWay (label : Label) : Bool :=
  match label.meant.map Direction.ofChar with
  | [] => true
  | .leftToRight :: rest =>
      agree [.leftToRight, .europeanDigit, .neutral, .mark] [.leftToRight, .europeanDigit] rest
  | .rightToLeft :: rest =>
      agree [.rightToLeft, .europeanDigit, .arabicDigit, .neutral, .mark]
        [.rightToLeft, .europeanDigit, .arabicDigit] rest
  | _ => false

end Label

def toAscii? (name : String) : Option (List Char) := do
  let name ← normal? name.toList
  if name.any isForbidden then none
  else
    let labels ← (name.splitOn '.').mapM Label.ofText?
    if labels.all Label.isProper && (!labels.any Label.turns || labels.all Label.isOneWay) then
      some (List.intercalate ['.'] (labels.map Label.sent))
    else none

end ApiBridge.Http.Domain
