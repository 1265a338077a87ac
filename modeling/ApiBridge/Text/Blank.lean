namespace ApiBridge.Text

/-- White space, as Unicode's White_Space property has it. -/
def isBlank (c : Char) : Bool :=
  let code := c.toNat
  (0x09 ≤ code && code ≤ 0x0D) || code == 0x20 || code == 0x85 || code == 0xA0 ||
    code == 0x1680 || (0x2000 ≤ code && code ≤ 0x200A) || code == 0x2028 || code == 0x2029 ||
    code == 0x202F || code == 0x205F || code == 0x3000

def trimStart (text : List Char) : List Char := text.dropWhile isBlank

def trimBy (test : Char → Bool) (text : String) : String :=
  String.ofList ((text.toList.dropWhile test).reverse.dropWhile test).reverse

def trim (text : String) : String := trimBy isBlank text

def isAllBlank (text : String) : Bool := text.toList.all isBlank

def equalFold (left right : String) : Bool :=
  left.toList.map Char.toLower == right.toList.map Char.toLower

end ApiBridge.Text
