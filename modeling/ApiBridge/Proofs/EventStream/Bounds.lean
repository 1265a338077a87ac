import ApiBridge.Proofs.EventStream.Calls
import Mathlib.Logic.Relation

/-!
The bounds of a line buffer. The search for lines is made once more with every index looked up and
checked: whatever calls have come before, no index is out of range, no line end is passed over, and
each round but the last takes a byte off.
-/

namespace ApiBridge.EventStream

/-- Bytes parted behind some number of them, of which there have to be so many. -/
def divide? (bytes : List UInt8) (count : Nat) : Option (List UInt8 × List UInt8) :=
  if count ≤ bytes.length then some (bytes.take count, bytes.drop count) else none

def behind? (bytes : List UInt8) (count : Nat) : Option (List UInt8) :=
  (divide? bytes count).map Prod.snd

theorem behind?_eq_some_iff {bytes rest : List UInt8} {count : Nat} :
    behind? bytes count = some rest ↔ count ≤ bytes.length ∧ bytes.drop count = rest := by
  simp only [behind?, divide?]
  by_cases hcount : count ≤ bytes.length <;> simp [hcount]

theorem divide?_append (front rest : List UInt8) :
    divide? (front ++ rest) front.length = some (front, rest) := by
  simp [divide?]

theorem behind?_cons (first : UInt8) (rest : List UInt8) :
    behind? (first :: rest) 1 = some rest := by
  simp [behind?, divide?]

namespace LineBuffer

/-- Leaves out the line feed that belongs to a carriage return before it. As in every step of a
round, nothing is given where an index is out of range. -/
def skipFeed? (buffer : LineBuffer) : Option LineBuffer :=
  if buffer.afterReturn && !buffer.bytes.isEmpty then do
    let first ← buffer.bytes[0]?
    let bytes ← if first = lineFeed then behind? buffer.bytes 1 else some buffer.bytes
    return { buffer with bytes, afterReturn := false }
  else some buffer

/-- Looks for a line end among the bytes not known to hold none, and takes off the line before it if
there is one. -/
def search? (buffer : LineBuffer) : Option (Option (List UInt8) × LineBuffer) := do
  let unseen ← behind? buffer.bytes buffer.scanned
  match unseen.findIdx? isLineEnd with
  | none => return (none, { buffer with scanned := buffer.bytes.length })
  | some offset =>
      let (line, rest) ← divide? buffer.bytes (buffer.scanned + offset)
      let ending ← rest[0]?
      let bytes ← behind? rest 1
      return (some line, { buffer with
        bytes, scanned := 0, afterReturn := ending == carriageReturn || buffer.afterReturn })

def round? (buffer : LineBuffer) : Option (Option (List UInt8) × LineBuffer) := do
  (← buffer.skipFeed?).search?

variable {buffer next state : LineBuffer} {line : List UInt8}

theorem skipFeed?_eq (buffer : LineBuffer) : buffer.skipFeed? = some buffer.skipFeed := by
  unfold skipFeed? skipFeed
  cases hbytes : buffer.bytes with
  | nil => simp
  | cons first rest =>
      cases hafter : buffer.afterReturn with
      | false => simp
      | true =>
          by_cases hfeed : first = lineFeed
          · simp [hfeed, behind?_cons]
          · simp [hfeed]

theorem round?_eq (buffer : LineBuffer) : buffer.round? = buffer.skipFeed.search? := by
  simp [round?, skipFeed?_eq]

theorem search?_length_lt (h : buffer.search? = some (some line, next)) :
    next.bytes.length < buffer.bytes.length := by
  simp only [search?, bind, Option.bind_eq_some_iff] at h
  obtain ⟨unseen, -, h⟩ := h
  split at h
  · simp [pure] at h
  · simp only [Option.bind_eq_some_iff, pure, Option.some.injEq, Prod.mk.injEq] at h
    obtain ⟨⟨front, rest⟩, hdivide, ending, -, bytes, hbytes, -, rfl⟩ := h
    obtain ⟨hone, rfl⟩ := behind?_eq_some_iff.1 hbytes
    have hrest : behind? buffer.bytes _ = some rest := congrArg (Option.map Prod.snd) hdivide
    obtain ⟨-, rfl⟩ := behind?_eq_some_iff.1 hrest
    simp only [List.length_drop] at hone ⊢
    omega

theorem round?_length_lt (h : buffer.round? = some (some line, next)) :
    next.bytes.length < buffer.bytes.length := by
  rw [round?_eq] at h
  exact Nat.lt_of_lt_of_le (search?_length_lt h) (skipFeed_length_le buffer)

/-- All rounds, up to the one that finds no line; `lines` holds the earlier ones, in reverse. -/
def rounds? (buffer : LineBuffer) (lines : List (List UInt8)) :
    Option (List (List UInt8) × LineBuffer) :=
  match _h : buffer.round? with
  | none => none
  | some (none, rest) => some (lines.reverse, rest)
  | some (some line, rest) => rounds? rest (line :: lines)
termination_by buffer.bytes.length
decreasing_by exact round?_length_lt _h

/-- A push that takes its lines off in rounds. -/
def push? (buffer : LineBuffer) (chunk : List UInt8) :
    Option (Except Error (List String) × LineBuffer) := do
  let (lines, rest) ← rounds? { buffer with bytes := buffer.bytes ++ chunk } []
  if rest.limit < rest.bytes.length then
    return (.error (.lineOverflow rest.bytes.length rest.limit),
      { rest with bytes := [], scanned := 0 })
  else return (.ok (lines.map Utf8.lossy), rest)

/-- What holds where a round begins. The flag may be set beside bytes that have just come, but then
no byte is known yet. -/
structure InBounds (buffer : LineBuffer) : Prop where
  scanned_le : buffer.scanned ≤ buffer.bytes.length
  sound : buffer.Sound

theorem InBounds.skipFeed (h : buffer.InBounds) : buffer.skipFeed.InBounds := by
  refine ⟨?_, skipFeed_sound h.sound⟩
  have hle := h.scanned_le
  unfold LineBuffer.skipFeed
  split
  · exact hle
  · split
    · next hafter => simp [h.sound.scanned_eq_zero hafter]
    · exact hle

theorem afterReturn_eq_false_of_takeLine? {rest : LineBuffer}
    (hline : buffer.skipFeed.takeLine? = some (line, rest)) :
    buffer.skipFeed.afterReturn = false := by
  cases hafter : buffer.skipFeed.afterReturn with
  | false => rfl
  | true =>
      have hlength := takeLine?_length_lt hline
      rw [skipFeed_bytes_eq_nil hafter] at hlength
      exact absurd hlength (Nat.not_lt_zero _)

theorem search?_of_none (h : buffer.InBounds) (hline : buffer.takeLine? = none) :
    buffer.search? = some (none, { buffer with scanned := buffer.bytes.length }) := by
  have hclean := takeLine?_eq_none h.sound hline
  have hunseen : behind? buffer.bytes buffer.scanned = some (buffer.bytes.drop buffer.scanned) :=
    behind?_eq_some_iff.2 ⟨h.scanned_le, rfl⟩
  have hnone : (buffer.bytes.drop buffer.scanned).findIdx? isLineEnd = none := by
    rw [List.findIdx?_eq_none_iff]
    intro byte hbyte
    exact hclean byte (List.mem_of_mem_drop hbyte)
  simp [search?, hunseen, hnone]

theorem search?_of_some {rest : LineBuffer} (h : buffer.InBounds)
    (hafter : buffer.afterReturn = false) (hline : buffer.takeLine? = some (line, rest)) :
    buffer.search? = some (some line, rest) := by
  obtain ⟨hclean, ending, hending, hbytes, hrest⟩ := takeLine?_eq_some h.sound hline
  have hscanned : buffer.scanned ≤ line.length := by
    -- The line end is not among the bytes that are known to hold none.
    by_contra hlong
    have hmem : ending ∈ buffer.bytes.take buffer.scanned := by
      rw [hbytes, List.take_append, List.mem_append]
      right
      rw [show buffer.scanned - line.length = buffer.scanned - line.length - 1 + 1 by omega]
      exact List.mem_cons_self
    rw [h.sound.scanned_clean ending hmem] at hending
    cases hending
  have hunseen : behind? buffer.bytes buffer.scanned =
      some (line.drop buffer.scanned ++ ending :: rest.bytes) := by
    rw [behind?_eq_some_iff]
    refine ⟨h.scanned_le, ?_⟩
    rw [hbytes, List.drop_append_of_le_length hscanned]
  have hfound : (line.drop buffer.scanned ++ ending :: rest.bytes).findIdx? isLineEnd =
      some (line.length - buffer.scanned) := by
    rw [List.findIdx?_append, List.findIdx?_eq_none_iff.2
      fun byte hbyte => hclean byte (List.mem_of_mem_drop hbyte)]
    simp [List.findIdx?_cons, hending]
  have hdivide : divide? buffer.bytes (buffer.scanned + (line.length - buffer.scanned)) =
      some (line, ending :: rest.bytes) := by
    rw [Nat.add_sub_cancel' hscanned, hbytes]
    exact divide?_append line _
  rw [hrest]
  simp [search?, hunseen, hfound, hdivide, behind?_cons, hafter]

/-- A round in bounds stays in bounds, and finds what is there: a line up to the first line end, or
that there is none in all the bytes. -/
theorem InBounds.round (h : buffer.InBounds) :
    (buffer.skipFeed.takeLine? = none ∧
        buffer.round? = some (none, { buffer.skipFeed with
          scanned := buffer.skipFeed.bytes.length }) ∧
        ∀ byte ∈ buffer.skipFeed.bytes, isLineEnd byte = false) ∨
      ∃ line rest, buffer.skipFeed.takeLine? = some (line, rest) ∧
        buffer.round? = some (some line, rest) ∧ (∀ byte ∈ line, isLineEnd byte = false) ∧
        rest.InBounds := by
  have hskipped := h.skipFeed
  rw [round?_eq]
  cases hline : buffer.skipFeed.takeLine? with
  | none =>
      exact .inl ⟨rfl, search?_of_none hskipped hline, takeLine?_eq_none hskipped.sound hline⟩
  | some found =>
      rcases found with ⟨line, rest⟩
      obtain ⟨hclean, ending, -, -, hrest⟩ := takeLine?_eq_some hskipped.sound hline
      refine .inr ⟨line, rest, rfl, ?_, hclean, ?_⟩
      · exact search?_of_some hskipped (afterReturn_eq_false_of_takeLine? hline) hline
      · rw [hrest]
        exact ⟨Nat.zero_le _, by simp, fun _ => rfl⟩

theorem InBounds.rounds?_eq (h : buffer.InBounds) (lines : List (List UInt8)) :
    buffer.rounds? lines = some (buffer.takeLines lines) := by
  induction buffer, lines using takeLines.induct with
  | case1 buffer lines hline =>
      rcases h.round with ⟨-, hround, -⟩ | ⟨line, rest, hsome, -⟩
      · rw [takeLines_of_none hline, rounds?]
        split <;> simp_all
      · simp [hline] at hsome
  | case2 buffer lines line rest hline ih =>
      rcases h.round with ⟨hnone, -⟩ | ⟨found, left, hsome, hround, -, hleft⟩
      · simp [hline] at hnone
      · rw [hline] at hsome
        obtain ⟨rfl, rfl⟩ := Prod.mk.inj (Option.some.inj hsome)
        rw [takeLines_of_some hline, ← ih hleft, rounds?]
        split <;> simp_all

theorem push?_eq {chunk : List UInt8}
    (h : InBounds { buffer with bytes := buffer.bytes ++ chunk }) :
    buffer.push? chunk = some (buffer.push chunk) := by
  simp only [push?, push, h.rounds?_eq, bind, Option.bind_some]
  split <;> rfl

/-- Whether a state is reached from another one by rounds that take lines off. -/
def Reaches : LineBuffer → LineBuffer → Prop :=
  Relation.ReflTransGen fun state next => ∃ line, state.round? = some (some line, next)

theorem InBounds.of_reaches (h : buffer.InBounds) (hreaches : buffer.Reaches state) :
    state.InBounds := by
  induction hreaches with
  | refl => exact h
  | tail _ hstep ih =>
      obtain ⟨line, hstep⟩ := hstep
      rcases ih.round with ⟨-, hround, -⟩ | ⟨found, rest, -, hround, -, hrest⟩
      · simp [hstep] at hround
      · rw [hstep] at hround
        obtain ⟨-, rfl⟩ := Prod.mk.inj (Option.some.inj hround)
        exact hrest

theorem inBounds_after_append (limit : Nat) (bytes chunk : List UInt8) :
    InBounds { after limit bytes with bytes := (after limit bytes).bytes ++ chunk } := by
  refine ⟨?_, sound_after_append limit bytes chunk⟩
  simp [after]

/-- After any calls, the bytes known to hold no line end are bytes that the buffer has, and hold
none; while a line feed may still belong to the line before, there are no bytes. So no index that
one more push looks up is out of range. Each of its rounds finds the first line end that there is,
and takes a byte off unless it is the last one. -/
theorem record_inBounds (limit : Nat) (calls : List Call) :
    let buffer := ((ofLimit limit).record calls).2
    buffer.scanned ≤ buffer.bytes.length ∧
    (∀ byte ∈ buffer.bytes.take buffer.scanned, isLineEnd byte = false) ∧
    (buffer.afterReturn = true → buffer.bytes = []) ∧
    ∀ chunk, buffer.push? chunk = some (buffer.push chunk) ∧
      ∀ state, Reaches { buffer with bytes := buffer.bytes ++ chunk } state →
        state.scanned ≤ state.bytes.length ∧
        ((∃ last, state.round? = some (none, last) ∧
            last.scanned = last.bytes.length ∧ ∀ byte ∈ last.bytes, isLineEnd byte = false) ∨
          ∃ line next, state.round? = some (some line, next) ∧
            (∀ byte ∈ line, isLineEnd byte = false) ∧
            next.bytes.length < state.bytes.length) := by
  intro buffer
  have hafter : buffer = after limit _ := (record_eq_after limit calls).1
  rw [hafter]
  refine ⟨Nat.le_refl _, ?_, splitLines_snd_of_endsInReturn, ?_⟩
  · intro byte hbyte
    exact splitLines_snd_forall _ byte (List.mem_of_mem_take hbyte)
  · intro chunk
    have hfilled := inBounds_after_append limit
      ((stretch ((ofLimit limit).record calls).1).flatMap Entry.bytes) chunk
    refine ⟨push?_eq hfilled, ?_⟩
    intro state hreaches
    have hstate := hfilled.of_reaches hreaches
    refine ⟨hstate.scanned_le, ?_⟩
    rcases hstate.round with ⟨-, hround, hclean⟩ | ⟨line, next, -, hround, hclean, -⟩
    · exact .inl ⟨_, hround, rfl, hclean⟩
    · exact .inr ⟨line, next, hround, hclean, round?_length_lt hround⟩

end LineBuffer

end ApiBridge.EventStream
