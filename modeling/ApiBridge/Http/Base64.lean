namespace ApiBridge.Http.Base64

def alphabet : List Char :=
  "ABCDEFGHIJKLMNOPQRSTUVWXYZabcdefghijklmnopqrstuvwxyz0123456789+/".toList

def sign (bits : Nat) : Char := alphabet.getD bits 'A'

def group (bits : Nat) : List Char :=
  [sign (bits / 262144), sign (bits / 4096 % 64), sign (bits / 64 % 64), sign (bits % 64)]

def encode : List UInt8 → List Char
  | [] => []
  | [a] => (group (a.toNat * 65536)).take 2 ++ ['=', '=']
  | [a, b] => (group (a.toNat * 65536 + b.toNat * 256)).take 3 ++ ['=']
  | a :: b :: c :: rest => group (a.toNat * 65536 + b.toNat * 256 + c.toNat) ++ encode rest

end ApiBridge.Http.Base64
