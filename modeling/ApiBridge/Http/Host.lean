import ApiBridge.Http.Domain
import ApiBridge.Http.Percent
import ApiBridge.Http.UrlError

namespace ApiBridge.Http.Host

/-- The value of a run of digits to a base, all of which must be digits of it. -/
def baseValue? (base : Nat) (digits : List Char) : Option Nat :=
  digits.foldlM (fun value c =>
    match Percent.hexValue? c with
    | some d => if d < base then some (value * base + d) else none
    | none => none) 0

/-- The number of a part of an address: decimal, or octal after a zero, or hexadecimal after
`0x`. -/
def partValue? (part : List Char) : Option Nat :=
  match part with
  | [] => none
  | '0' :: 'x' :: rest | '0' :: 'X' :: rest => baseValue? 16 rest
  | '0' :: d :: rest => baseValue? 8 (d :: rest)
  | digits => baseValue? 10 digits

def parts (name : List Char) : List (List Char) :=
  let all := name.splitOn '.'
  if all.getLast? = some [] then all.dropLast else all

/-- Whether the last part of a name is a number, which makes the name an address. -/
def endsInNumber (name : List Char) : Bool :=
  match (parts name).getLast? with
  | some last => (!last.isEmpty && last.all Char.isDigit) || (partValue? last).isSome
  | none => false

def ipv4Text (value : Nat) : String :=
  let bytes := [value / 16777216, value / 65536 % 256, value / 256 % 256, value % 256]
  String.intercalate "." (bytes.map fun byte => toString byte)

/-- Reads an address of at most four parts, of which the last fills all that the others leave. -/
def ipv4Value? (name : List Char) : Option Nat := do
  let numbers ← (parts name).mapM partValue?
  let last ← numbers.getLast?
  let others := numbers.dropLast
  if 3 < others.length then none
  else if Nat.pow 256 (4 - others.length) ≤ last then none
  else if others.any fun number => 255 < number then none
  else
    some (others.zipIdx.foldl
      (fun value (number, index) => value + number * Nat.pow 256 (3 - index)) last)

/-- Reads one group of at most four hexadecimal digits. -/
def groupValue? (digits : List Char) : Option Nat :=
  if digits.isEmpty || 4 < digits.length then none else baseValue? 16 digits

def dottedGroups? (part : List Char) : Option (List Nat) := do
  let bytes ← (part.splitOn '.').mapM fun piece =>
    if piece.isEmpty || !piece.all Char.isDigit ||
        (piece.head? == some '0' && piece.length ≠ 1) then none
    else (baseValue? 10 piece).filter (· < 256)
  match bytes with
  | [a, b, c, d] => some [a * 256 + b, c * 256 + d]
  | _ => none

/-- Reads groups between single colons; the last one may be dotted. -/
def groups? (text : List Char) : Option (List Nat) :=
  if text.isEmpty then some []
  else
    let pieces := text.splitOn ':'
    match pieces.getLast? with
    | some last =>
        if last.contains '.' then do
          let front ← pieces.dropLast.mapM groupValue?
          some (front ++ (← dottedGroups? last))
        else pieces.mapM groupValue?
    | none => none

def splitGap : List Char → Option (List Char × List Char)
  | [] => none
  | ':' :: ':' :: rest => some ([], rest)
  | c :: rest => (splitGap rest).map fun (front, back) => (c :: front, back)

def ipv6Groups? (text : List Char) : Option (List Nat) :=
  match splitGap text with
  | none => (groups? text).filter fun groups => groups.length = 8
  | some (front, back) => do
      let front ← if front.contains '.' then none else groups? front
      let back ← groups? back
      if front.length + back.length < 8 then
        some (front ++ List.replicate (8 - front.length - back.length) 0 ++ back)
      else none

def longestZeros (groups : List Nat) : Nat × Nat :=
  let runFrom (index : Nat) : Nat := ((groups.drop index).takeWhile (· == 0)).length
  (List.range groups.length).foldl
    (fun best index => if best.2 < runFrom index then (index, runFrom index) else best) (0, 0)

def groupText (group : Nat) : List Char := Nat.toDigits 16 group

/-- An address with its longest run of at least two zero groups left out. -/
def ipv6Text (groups : List Nat) : String :=
  let (start, length) := longestZeros groups
  let joined (part : List Nat) : List Char := List.intercalate [':'] (part.map groupText)
  String.ofList <|
    '[' :: (if 2 ≤ length then
      joined (groups.take start) ++ [':', ':'] ++ joined (groups.drop (start + length))
    else joined groups) ++ [']']

def bracketed (text : List Char) : Except UrlError String :=
  match text.getLast?, ipv6Groups? text.dropLast with
  | some ']', some groups => .ok (ipv6Text groups)
  | _, _ => .error .invalidIpv6

def parse (text : List Char) : Except UrlError String :=
  match text with
  | '[' :: rest => bracketed rest
  | _ =>
      match Domain.toAscii? (Utf8.lossy (Percent.decode text)) with
      | none => .error .invalidDomainName
      | some [] => .error .emptyHost
      | some name =>
          if endsInNumber name then
            match ipv4Value? name with
            | some value => .ok (ipv4Text value)
            | none => .error .invalidIpv4
          else .ok (String.ofList name)

def parseOpaque (text : List Char) : Except UrlError String :=
  match text with
  | '[' :: rest => bracketed rest
  | _ =>
      if text.any fun c => c.toNat = 0 || "\t\n\r #/:<>?@[\\]^|".toList.contains c then
        .error .invalidDomainCharacter
      else .ok (String.ofList (Percent.encode Percent.isControl text))

end ApiBridge.Http.Host
