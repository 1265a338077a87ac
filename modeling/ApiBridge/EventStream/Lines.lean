import ApiBridge.Error
import ApiBridge.Text.Utf8

/-!
Lines out of chunks of bytes. A line ends with a line feed, a carriage return or both, wherever the
chunks are cut; the bytes after the last end are kept for the next chunk, up to a limit.
-/

namespace ApiBridge.EventStream

def lineFeed : UInt8 := 0x0A

def carriageReturn : UInt8 := 0x0D

def isLineEnd (byte : UInt8) : Bool := byte == lineFeed || byte == carriageReturn

def maxLineBytes : Nat := 1024 * 1024

/-- The bytes of a line that has not ended. -/
structure LineBuffer where
  bytes : List UInt8
  /-- How many bytes at the front are known to hold no line end. -/
  scanned : Nat
  /-- Whether the last line ended with a carriage return whose line feed may still come. -/
  afterReturn : Bool
  limit : Nat
  deriving DecidableEq, Repr

namespace LineBuffer

def ofLimit (limit : Nat) : LineBuffer :=
  { bytes := [], scanned := 0, afterReturn := false, limit }

def new : LineBuffer := ofLimit maxLineBytes

def skipFeed (buffer : LineBuffer) : LineBuffer :=
  match buffer.bytes with
  | [] => buffer
  | first :: rest =>
      if buffer.afterReturn then
        { buffer with
          bytes := if first = lineFeed then rest else first :: rest
          afterReturn := false }
      else buffer

def takeLine? (buffer : LineBuffer) : Option (List UInt8 × LineBuffer) :=
  let unseen := buffer.bytes.drop buffer.scanned
  match unseen.dropWhile (fun byte => !isLineEnd byte) with
  | [] => none
  | ending :: rest =>
      some (buffer.bytes.take buffer.scanned ++ unseen.takeWhile (fun byte => !isLineEnd byte),
        { buffer with bytes := rest, scanned := 0, afterReturn := ending = carriageReturn })

theorem skipFeed_length_le (buffer : LineBuffer) :
    buffer.skipFeed.bytes.length ≤ buffer.bytes.length := by
  unfold skipFeed
  split
  · exact Nat.le_refl _
  · split <;> simp_all
    split <;> simp

theorem takeLine?_length_lt {buffer rest : LineBuffer} {line : List UInt8}
    (h : buffer.takeLine? = some (line, rest)) : rest.bytes.length < buffer.bytes.length := by
  simp only [takeLine?] at h
  split at h
  · exact absurd h (by simp)
  · next ending left hleft =>
      simp only [Option.some.injEq, Prod.mk.injEq] at h
      obtain ⟨-, rfl⟩ := h
      have hlength := congrArg List.length hleft
      have hdrop := (List.dropWhile_suffix (l := buffer.bytes.drop buffer.scanned)
        (fun byte => !isLineEnd byte)).length_le
      simp only [List.length_cons, List.length_drop] at hlength hdrop
      simp only
      omega

/-- Takes off all lines that have ended; `lines` holds the earlier ones, in reverse. -/
def takeLines (buffer : LineBuffer) (lines : List (List UInt8)) :
    List (List UInt8) × LineBuffer :=
  match _h : buffer.skipFeed.takeLine? with
  | none =>
      (lines.reverse, { buffer.skipFeed with scanned := buffer.skipFeed.bytes.length })
  | some (line, rest) => takeLines rest (line :: lines)
termination_by buffer.bytes.length
decreasing_by
  exact Nat.lt_of_lt_of_le (takeLine?_length_lt _h) (skipFeed_length_le buffer)

/-- Adds a chunk and takes off the lines that end in it. When more bytes than the limit are left
without an end, they and those lines are lost and the push fails. -/
def push (buffer : LineBuffer) (chunk : List UInt8) :
    Except Error (List String) × LineBuffer :=
  let (lines, rest) := takeLines { buffer with bytes := buffer.bytes ++ chunk } []
  if rest.limit < rest.bytes.length then
    (.error (.lineOverflow rest.bytes.length rest.limit), { rest with bytes := [], scanned := 0 })
  else (.ok (lines.map Utf8.lossy), rest)

def finish (buffer : LineBuffer) : Option String × LineBuffer :=
  let rest := if buffer.bytes.isEmpty then none else some (Utf8.lossy buffer.bytes)
  (rest, { buffer with bytes := [], scanned := 0, afterReturn := false })

end LineBuffer

end ApiBridge.EventStream
