import ApiBridge.Text.Utf8

namespace ApiBridge.Http.Percent

def hexDigit (value : Nat) : Char := (Nat.digitChar value).toUpper

def escape (byte : UInt8) : List Char :=
  ['%', hexDigit (byte.toNat / 16), hexDigit (byte.toNat % 16)]

def isControl (byte : UInt8) : Bool := byte < 0x20 || 0x7F ≤ byte

def isAny (marks : String) (byte : UInt8) : Bool := marks.toList.any fun c => c.toNat == byte.toNat

def inFragment (byte : UInt8) : Bool := isControl byte || isAny " \"<>\x60" byte

def inQuery (byte : UInt8) : Bool := isControl byte || isAny " \"#<>" byte

def inSpecialQuery (byte : UInt8) : Bool := inQuery byte || isAny "'" byte

def inPath (byte : UInt8) : Bool := inFragment byte || isAny "#?\x7b\x7d" byte

def inUserInfo (byte : UInt8) : Bool := inPath byte || isAny "/:;=@[\\]^|" byte

def encode (test : UInt8 → Bool) (text : List Char) : List Char :=
  (Utf8.encode (String.ofList text)).flatMap fun byte =>
    if test byte then escape byte else [Char.ofNat byte.toNat]

def hexValue? (c : Char) : Option Nat :=
  if c.isDigit then some (c.toNat - '0'.toNat)
  else if 'a' ≤ c ∧ c ≤ 'f' then some (c.toNat - 'a'.toNat + 10)
  else if 'A' ≤ c ∧ c ≤ 'F' then some (c.toNat - 'A'.toNat + 10)
  else none

/-- The bytes of a text with its escapes undone; a percent sign that starts none stays. -/
def decode : List Char → List UInt8
  | '%' :: high :: low :: rest =>
      match hexValue? high, hexValue? low with
      | some h, some l => UInt8.ofNat (h * 16 + l) :: decode rest
      | _, _ => 0x25 :: decode (high :: low :: rest)
  | c :: rest => String.utf8EncodeChar c ++ decode rest
  | [] => []

def formByte (byte : UInt8) : List Char :=
  let c := Char.ofNat byte.toNat
  if byte < 0x80 && (c.isAlphanum || isAny "*-._" byte) then [c]
  else if byte = 0x20 then ['+']
  else escape byte

def formText (text : String) : List Char := (Utf8.encode text).flatMap formByte

def form (pairs : List (String × String)) : List Char :=
  List.intercalate ['&'] (pairs.map fun (name, value) => formText name ++ '=' :: formText value)

end ApiBridge.Http.Percent
