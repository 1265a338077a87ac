import ApiBridge.Proofs.EventStream.Lines

namespace ApiBridge.EventStream

/-- Bytes as lines and a rest. A line ends with a line feed, with a carriage return and a line feed,
or with a carriage return alone; neither byte is in a line or in the rest. -/
inductive IsSplit : List UInt8 → List (List UInt8) → List UInt8 → Prop
  | rest {rest : List UInt8} (hrest : ∀ byte ∈ rest, isLineEnd byte = false) :
      IsSplit rest [] rest
  | feed {line more rest : List UInt8} {lines : List (List UInt8)}
      (hline : ∀ byte ∈ line, isLineEnd byte = false) (hmore : IsSplit more lines rest) :
      IsSplit (line ++ lineFeed :: more) (line :: lines) rest
  | both {line more rest : List UInt8} {lines : List (List UInt8)}
      (hline : ∀ byte ∈ line, isLineEnd byte = false) (hmore : IsSplit more lines rest) :
      IsSplit (line ++ carriageReturn :: lineFeed :: more) (line :: lines) rest
  | carriage {line more rest : List UInt8} {lines : List (List UInt8)}
      (hline : ∀ byte ∈ line, isLineEnd byte = false) (hnext : more.head? ≠ some lineFeed)
      (hmore : IsSplit more lines rest) :
      IsSplit (line ++ carriageReturn :: more) (line :: lines) rest

theorem dropFeeds_of_head? {bytes : List UInt8} (hhead : bytes.head? ≠ some lineFeed) :
    dropFeeds true bytes = dropFeeds false bytes := by
  cases bytes with
  | nil => rfl
  | cons byte bytes =>
      have hbyte : (byte == lineFeed) = false := by simpa using hhead
      rw [dropFeeds, dropFeeds, hbyte]
      rfl

theorem splitLines_append_cons {line : List UInt8} (hline : ∀ byte ∈ line, isLineEnd byte = false)
    {ending : UInt8} (hending : isLineEnd ending = true) {after more : List UInt8}
    (hafter : dropFeeds (ending == carriageReturn) after = dropFeeds false more) :
    splitLines (line ++ ending :: after) =
      (line :: (splitLines more).1, (splitLines more).2) := by
  rw [splitLines, dropFeeds_append_cons hline (by simp), hafter, cut_append_cons hline hending]
  rfl

theorem splitLines_of_isSplit {bytes rest : List UInt8} {lines : List (List UInt8)}
    (h : IsSplit bytes lines rest) : splitLines bytes = (lines, rest) := by
  induction h with
  | rest hrest => rw [splitLines, dropFeeds_of_forall hrest, cut_of_forall hrest]
  | feed hline _ ih =>
      have hending : isLineEnd lineFeed = true := rfl
      rw [splitLines_append_cons hline hending rfl, ih]
  | both hline _ ih =>
      have hending : isLineEnd carriageReturn = true := rfl
      rw [splitLines_append_cons hline hending rfl, ih]
  | carriage hline hnext _ ih =>
      have hending : isLineEnd carriageReturn = true := rfl
      rw [splitLines_append_cons hline hending (dropFeeds_of_head? hnext), ih]

theorem exists_first_line (bytes : List UInt8) :
    (∀ byte ∈ bytes, isLineEnd byte = false) ∨
      ∃ line ending after, bytes = line ++ ending :: after ∧
        (∀ byte ∈ line, isLineEnd byte = false) ∧ isLineEnd ending = true := by
  induction bytes with
  | nil => exact .inl (List.forall_mem_nil _)
  | cons byte bytes ih =>
      cases hbyte : isLineEnd byte with
      | true => exact .inr ⟨[], byte, bytes, rfl, List.forall_mem_nil _, hbyte⟩
      | false =>
          rcases ih with hclean | ⟨line, ending, after, rfl, hline, hending⟩
          · exact .inl (List.forall_mem_cons.2 ⟨hbyte, hclean⟩)
          · exact .inr ⟨byte :: line, ending, after, rfl, List.forall_mem_cons.2 ⟨hbyte, hline⟩,
              hending⟩

theorem exists_isSplit (bytes : List UInt8) : ∃ lines rest, IsSplit bytes lines rest := by
  induction hlength : bytes.length using Nat.strongRecOn generalizing bytes with
  | ind length ih =>
      subst hlength
      rcases exists_first_line bytes with hclean | ⟨line, ending, after, rfl, hline, hending⟩
      · exact ⟨[], bytes, .rest hclean⟩
      · rw [isLineEnd, Bool.or_eq_true, beq_iff_eq, beq_iff_eq] at hending
        have hshorter : ∀ more, more <:+ after → ∃ lines rest, IsSplit more lines rest := by
          intro more hmore
          refine ih more.length ?_ more rfl
          have hlength := hmore.length_le
          rw [List.length_append, List.length_cons]
          omega
        rcases hending with rfl | rfl
        · obtain ⟨lines, rest, hmore⟩ := hshorter after List.suffix_rfl
          exact ⟨line :: lines, rest, .feed hline hmore⟩
        · by_cases hnext : after.head? = some lineFeed
          · obtain ⟨more, rfl⟩ := List.head?_eq_some_iff.1 hnext
            obtain ⟨lines, rest, hmore⟩ := hshorter more (List.suffix_cons _ _)
            exact ⟨line :: lines, rest, .both hline hmore⟩
          · obtain ⟨lines, rest, hmore⟩ := hshorter after List.suffix_rfl
            exact ⟨line :: lines, rest, .carriage hline hnext hmore⟩

theorem isSplit_iff {bytes rest : List UInt8} {lines : List (List UInt8)} :
    IsSplit bytes lines rest ↔ splitLines bytes = (lines, rest) := by
  refine ⟨splitLines_of_isSplit, fun hsplit => ?_⟩
  obtain ⟨others, last, h⟩ := exists_isSplit bytes
  obtain ⟨rfl, rfl⟩ := Prod.mk.inj (hsplit.symm.trans (splitLines_of_isSplit h))
  exact h

theorem isSplit_splitLines (bytes : List UInt8) :
    IsSplit bytes (splitLines bytes).1 (splitLines bytes).2 :=
  isSplit_iff.2 rfl

namespace LineBuffer

inductive Call where
  | push (chunk : List UInt8)
  | finish
  deriving DecidableEq, Repr

/-- What a call gives: the lines of a chunk, or the rest behind the last line. -/
inductive Answer where
  | pushed (result : Except Error (List String))
  | finished (rest : Option String)

/-- A call with what it gave. -/
structure Entry where
  call : Call
  answer : Answer

namespace Entry

/-- Whether nothing of the bytes before is left after a call: it is the end, or it failed. -/
def isReset (entry : Entry) : Bool :=
  match entry.answer with
  | .pushed (.ok _) => false
  | _ => true

def bytes (entry : Entry) : List UInt8 :=
  match entry.call with
  | .push chunk => chunk
  | .finish => []

def lines (entry : Entry) : List String :=
  match entry.answer with
  | .pushed (.ok lines) => lines
  | _ => []

end Entry

def answer (buffer : LineBuffer) : Call → Answer × LineBuffer
  | .push chunk => (.pushed (buffer.push chunk).1, (buffer.push chunk).2)
  | .finish => (.finished buffer.finish.1, buffer.finish.2)

/-- Calls one after the other with what they give, and the buffer after them. -/
def record (buffer : LineBuffer) : List Call → List Entry × LineBuffer
  | [] => ([], buffer)
  | call :: later =>
      let (answer, next) := buffer.answer call
      ({ call, answer } :: (next.record later).1, (next.record later).2)

/-- The calls since the last one that left nothing behind. -/
def stretch (entries : List Entry) : List Entry := (cut Entry.isReset entries).2

theorem stretch_concat_of_isReset {entry : Entry} (hreset : entry.isReset = true)
    (entries : List Entry) : stretch (entries ++ [entry]) = [] := by
  rw [stretch, cut_append, cut_append_cons (cut_snd_forall entries) hreset]
  rfl

theorem stretch_concat {entry : Entry} (hkept : entry.isReset = false) (entries : List Entry) :
    stretch (entries ++ [entry]) = stretch entries ++ [entry] := by
  have hopen : ∀ other ∈ (cut Entry.isReset entries).2 ++ [entry], other.isReset = false :=
    List.forall_mem_append.2 ⟨cut_snd_forall entries, List.forall_mem_singleton.2 hkept⟩
  rw [stretch, cut_append, cut_of_forall hopen]
  rfl

theorem record_append (buffer : LineBuffer) (calls later : List Call) :
    buffer.record (calls ++ later) =
      ((buffer.record calls).1 ++ ((buffer.record calls).2.record later).1,
        ((buffer.record calls).2.record later).2) := by
  induction calls generalizing buffer with
  | nil => rfl
  | cons call calls ih => simp only [List.cons_append, record, ih]

theorem record_eq_after (limit : Nat) (calls : List Call) :
    let entries := ((ofLimit limit).record calls).1
    let bytes := (stretch entries).flatMap Entry.bytes
    ((ofLimit limit).record calls).2 = after limit bytes ∧
      (stretch entries).flatMap Entry.lines = (splitLines bytes).1.map Utf8.lossy := by
  induction calls using List.reverseRecOn with
  | nil => exact ⟨rfl, rfl⟩
  | append_singleton calls call ih =>
      obtain ⟨hbuffer, hlines⟩ := ih
      simp only [record_append, record, hbuffer]
      generalize ((ofLimit limit).record calls).1 = entries at hlines ⊢
      cases call with
      | finish =>
          rw [answer, finish_after, stretch_concat_of_isReset rfl]
          exact ⟨rfl, rfl⟩
      | push chunk =>
          obtain ⟨lines, hsplit, hpush⟩ :=
            push_after limit ((stretch entries).flatMap Entry.bytes) chunk
          rw [answer, hpush]
          split
          · rw [stretch_concat_of_isReset rfl]
            exact ⟨rfl, rfl⟩
          · rw [stretch_concat (by rfl), List.flatMap_append, List.flatMap_append, hlines,
              List.flatMap_singleton, List.flatMap_singleton]
            refine ⟨rfl, ?_⟩
            rw [Entry.bytes, hsplit, List.map_append]
            rfl

/-- After any calls, the lines that have been given since the last reset are those of all the bytes
since then, and the end gives their rest. One more chunk fails if and only if it leaves a rest that
is longer than the limit, which the failure tells; else it gives the lines that are new. After a
failure and after the end, the buffer is the one that it was at first. -/
theorem record_splits (limit : Nat) (calls : List Call) :
    let entries := ((ofLimit limit).record calls).1
    let buffer := ((ofLimit limit).record calls).2
    let bytes := (stretch entries).flatMap Entry.bytes
    ∃ lines rest, IsSplit bytes lines rest ∧
      (stretch entries).flatMap Entry.lines = lines.map Utf8.lossy ∧
      buffer.finish = (if rest = [] then none else some (Utf8.lossy rest), ofLimit limit) ∧
      ∀ chunk, ∃ longer left, IsSplit (bytes ++ chunk) longer left ∧
        if limit < left.length then
          buffer.push chunk = (.error (.lineOverflow left.length limit), ofLimit limit)
        else
          ∃ given, (buffer.push chunk).1 = .ok given ∧
            lines.map Utf8.lossy ++ given = longer.map Utf8.lossy := by
  intro entries buffer bytes
  obtain ⟨hbuffer, hlines⟩ := record_eq_after limit calls
  have hafter : buffer = after limit bytes := hbuffer
  refine ⟨_, _, isSplit_splitLines bytes, hlines, ?_, fun chunk => ?_⟩
  · rw [hafter, finish_after]
  · refine ⟨_, _, isSplit_splitLines (bytes ++ chunk), ?_⟩
    obtain ⟨lines, hsplit, hpush⟩ := push_after limit bytes chunk
    rw [hafter, hpush]
    split
    · rfl
    · exact ⟨lines.map Utf8.lossy, rfl, by rw [hsplit, List.map_append]⟩

end LineBuffer

end ApiBridge.EventStream
