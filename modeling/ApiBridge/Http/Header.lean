import ApiBridge.Table
import ApiBridge.Text.Blank
import ApiBridge.Text.Utf8

namespace ApiBridge.Http

/-- The headers of a message in the order in which they came, with their values as bytes. -/
abbrev Headers := List (String × List UInt8)

namespace Header

def isNameChar (c : Char) : Bool :=
  c.isAlphanum ||
    ['!', '#', '$', '%', '&', '\'', '*', '+', '-', '.', '^', '_', '\x60', '|', '~'].contains c

def maxNameLength : Nat := 65535

def isLegalName (name : String) : Bool :=
  !name.isEmpty && name.toList.all isNameChar && name.length ≤ maxNameLength

/-- The bytes of header values: all but the controls, of which a tab may stand. -/
def isValueByte (byte : UInt8) : Bool := (0x20 ≤ byte && byte != 0x7F) || byte == 0x09

def isLegalValue (value : List UInt8) : Bool := value.all isValueByte

def isLegal (name value : String) : Bool := isLegalName name && isLegalValue (Utf8.encode value)

def areLegal (headers : Headers) : Bool :=
  headers.all fun header => isLegalName header.1 && isLegalValue header.2

def isPlainByte (byte : UInt8) : Bool := (0x20 ≤ byte && byte < 0x7F) || byte == 0x09

def first? (headers : Headers) (name : String) : Option (List UInt8) :=
  (headers.find? fun header => Text.equalFold header.1 name).map Prod.snd

/-- The first value of a header without blanks around it, if it is plain text. -/
def text? (headers : Headers) (name : String) : Option String :=
  ((first? headers name).filter fun value => value.all isPlainByte).map fun value =>
    Text.trim (Utf8.lossy value)

/-- Puts a header into a table, in the place of all that have its name in any case. -/
def put (headers : Table String) (name value : String) : Table String :=
  Table.put name value (headers.filter fun header => !Text.equalFold header.1 name)

def merge (headers changes : Table String) : Table String :=
  changes.foldl (fun merged change => put merged change.1 change.2) headers

/-- Puts a header into a table that has none of its name in any case. -/
def putIfAbsent (headers : Table String) (name value : String) : Table String :=
  if headers.any fun header => Text.equalFold header.1 name then headers
  else Table.put name value headers

end Header

end ApiBridge.Http
