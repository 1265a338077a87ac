/-!
UTF-8. `Utf8.lossy` reads any bytes: each longest run of bytes that starts a character but does not
finish one becomes a single U+FFFD, and so does each byte that starts no character.
-/

namespace ApiBridge.Utf8

def encode (text : String) : List UInt8 := text.toList.flatMap String.utf8EncodeChar

def isTail (byte : UInt8) : Bool := 0x80 ≤ byte && byte ≤ 0xBF

/-- What the first byte of a character asks for: how many bytes follow, the range of the first of
them, and the bits that the first byte contributes. -/
structure Lead where
  tails : Nat
  low : UInt8
  high : UInt8
  bits : Nat

def lead? (byte : UInt8) : Option Lead :=
  if byte < 0x80 then some ⟨0, 0x80, 0xBF, byte.toNat⟩
  else if byte < 0xC2 then none
  else if byte < 0xE0 then some ⟨1, 0x80, 0xBF, byte.toNat - 0xC0⟩
  else if byte = 0xE0 then some ⟨2, 0xA0, 0xBF, 0⟩
  else if byte = 0xED then some ⟨2, 0x80, 0x9F, 0xD⟩
  else if byte < 0xF0 then some ⟨2, 0x80, 0xBF, byte.toNat - 0xE0⟩
  else if byte = 0xF0 then some ⟨3, 0x90, 0xBF, 0⟩
  else if byte < 0xF4 then some ⟨3, 0x80, 0xBF, byte.toNat - 0xF0⟩
  else if byte = 0xF4 then some ⟨3, 0x80, 0x8F, 4⟩
  else none

def extend (code : Nat) (byte : UInt8) : Nat := code * 64 + (byte.toNat - 0x80)

/-- The character at the front of the bytes after a given first byte, with the bytes left; `none`
for a run that is not a character, again with the bytes left after it. -/
def next (first : UInt8) (bytes : List UInt8) : Option Char × List UInt8 :=
  match lead? first with
  | none => (none, bytes)
  | some lead =>
      match lead.tails, bytes with
      | 0, _ => (some (Char.ofNat lead.bits), bytes)
      | _, [] => (none, [])
      | tails, second :: afterSecond =>
          if second < lead.low || lead.high < second then (none, bytes)
          else
            let code := extend lead.bits second
            match tails, afterSecond with
            | 1, _ => (some (Char.ofNat code), afterSecond)
            | _, [] => (none, [])
            | tails, third :: afterThird =>
                if !isTail third then (none, afterSecond)
                else
                  let code := extend code third
                  match tails, afterThird with
                  | 2, _ => (some (Char.ofNat code), afterThird)
                  | _, [] => (none, [])
                  | _, fourth :: afterFourth =>
                      if !isTail fourth then (none, afterThird)
                      else (some (Char.ofNat (extend code fourth)), afterFourth)

/-- What is left after one step is no longer than what followed the first byte. -/
theorem next_length_le (first : UInt8) (bytes : List UInt8) :
    (next first bytes).2.length ≤ bytes.length := by
  unfold next
  repeat' split
  all_goals simp
  all_goals omega

/-- The characters and spoiled runs of the bytes, in reverse, put before `done`. -/
def steps (done : List (Option Char)) : List UInt8 → List (Option Char)
  | [] => done
  | first :: bytes => steps ((next first bytes).1 :: done) (next first bytes).2
termination_by bytes => bytes.length
decreasing_by
  have := next_length_le first bytes
  simp only [List.length_cons]
  omega

def lossy (bytes : List UInt8) : String :=
  String.ofList ((steps [] bytes).reverse.map (·.getD '\uFFFD'))

def decode? (bytes : List UInt8) : Option String :=
  ((steps [] bytes).reverse.mapM id).map String.ofList

end ApiBridge.Utf8
