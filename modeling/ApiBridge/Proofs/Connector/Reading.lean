import ApiBridge.Proofs.Connector.Uptake

namespace ApiBridge

open EventStream

namespace Http.Incoming

theorem next_eq_chunk {incoming rest : Incoming} {chunk : List UInt8}
    (hnext : incoming.next = .chunk chunk rest) :
    incoming.chunks = chunk :: rest.chunks ∧ incoming.ending = rest.ending := by
  rcases incoming with ⟨chunks, ending⟩
  cases chunks with
  | nil => cases ending <;> simp [next] at hnext
  | cons first others =>
      obtain ⟨rfl, rfl⟩ := Arrival.chunk.inj hnext
      exact ⟨rfl, rfl⟩

theorem next_eq_finished {incoming : Incoming} (hnext : incoming.next = .finished) :
    incoming.chunks = [] ∧ incoming.ending = .complete := by
  rcases incoming with ⟨chunks, ending⟩
  cases chunks with
  | nil => cases ending <;> simp [next] at hnext ⊢
  | cons first others => simp [next] at hnext

theorem next_eq_broken {incoming : Incoming} (hnext : incoming.next = .broken) :
    incoming.chunks = [] ∧ incoming.ending = .cut := by
  rcases incoming with ⟨chunks, ending⟩
  cases chunks with
  | nil => cases ending <;> simp [next] at hnext ⊢
  | cons first others => simp [next] at hnext

theorem next_eq_nothing {incoming : Incoming} (hnext : incoming.next = .nothing) :
    incoming.chunks = [] ∧ incoming.ending = .stalled := by
  rcases incoming with ⟨chunks, ending⟩
  cases chunks with
  | nil => cases ending <;> simp [next] at hnext ⊢
  | cons first others => simp [next] at hnext

theorem next_eq_lost {incoming : Incoming}
    (hnext : incoming.next = .broken ∨ incoming.next = .nothing) :
    incoming.chunks = [] ∧ (incoming.ending == .complete) = false := by
  rcases hnext with hnext | hnext
  · obtain ⟨hchunks, hending⟩ := next_eq_broken hnext
    exact ⟨hchunks, by rw [hending]; rfl⟩
  · obtain ⟨hchunks, hending⟩ := next_eq_nothing hnext
    exact ⟨hchunks, by rw [hending]; rfl⟩

end Http.Incoming

/-- How far a connection has read a body: up to some bytes, none of which failed its buffer. -/
structure Reading (incoming : Http.Incoming) (seen : List UInt8) (connection : Connection) :
    Prop where
  flatten_eq : incoming.chunks.flatten = seen ++ connection.incoming.chunks.flatten
  heard_eq : heard maxLineBytes [] incoming.chunks =
    heard maxLineBytes seen connection.incoming.chunks
  ending_eq : incoming.ending = connection.incoming.ending
  lines_eq : connection.lines = .after maxLineBytes seen
  pending_eq : connection.pending = (splitBlocks seen).2

namespace Reading

variable {incoming rest : Http.Incoming} {seen chunk : List UInt8} {connection : Connection}

theorem start (incoming : Http.Incoming) :
    Reading incoming [] { incoming, lines := .new, pending := [] } :=
  ⟨rfl, rfl, rfl, rfl, rfl⟩

theorem prefix_heardBlocks (h : Reading incoming seen connection) :
    blocks false seen <+: incoming.heardBlocks := by
  rw [Http.Incoming.heardBlocks, h.heard_eq]
  exact blocks_false_isPrefix (prefix_heard _ _ _) _

theorem overlong_of_error (h : Reading incoming seen connection) {error : Error}
    {buffer : LineBuffer} (hpush : connection.lines.push chunk = (.error error, buffer)) :
    maxLineBytes < (splitLines (seen ++ chunk)).2.length ∧
      error = .lineOverflow (splitLines (seen ++ chunk)).2.length maxLineBytes :=
  LineBuffer.push_after_eq_error (h.lines_eq ▸ hpush)

theorem heard_of_error (h : Reading incoming seen connection) {error : Error}
    {buffer : LineBuffer} (hnext : connection.incoming.next = .chunk chunk rest)
    (hpush : connection.lines.push chunk = (.error error, buffer)) :
    heard maxLineBytes [] incoming.chunks = (seen, false) := by
  obtain ⟨hchunks, -⟩ := Http.Incoming.next_eq_chunk hnext
  rw [h.heard_eq, hchunks, heard_cons_of_lt (h.overlong_of_error hpush).1]

theorem heard_of_chunks (h : Reading incoming seen connection)
    (hchunks : connection.incoming.chunks = []) :
    heard maxLineBytes [] incoming.chunks = (seen, true) := by
  rw [h.heard_eq, hchunks, heard]

theorem isHeard_of_error (h : Reading incoming seen connection) {error : Error}
    {buffer : LineBuffer} (hnext : connection.incoming.next = .chunk chunk rest)
    (hpush : connection.lines.push chunk = (.error error, buffer)) : incoming.isHeard = false := by
  rw [Http.Incoming.isHeard, h.heard_of_error hnext hpush]

theorem isHeard (h : Reading incoming seen connection)
    (hchunks : connection.incoming.chunks = []) : incoming.isHeard = true := by
  rw [Http.Incoming.isHeard, h.heard_of_chunks hchunks]

theorem heardBlocks_of_error (h : Reading incoming seen connection) {error : Error}
    {buffer : LineBuffer} (hnext : connection.incoming.next = .chunk chunk rest)
    (hpush : connection.lines.push chunk = (.error error, buffer)) :
    incoming.heardBlocks = blocks false seen := by
  rw [Http.Incoming.heardBlocks, h.isHeard_of_error hnext hpush, h.heard_of_error hnext hpush,
    Bool.false_and]

theorem heardBlocks_of_lost (h : Reading incoming seen connection)
    (hnext : connection.incoming.next = .broken ∨ connection.incoming.next = .nothing) :
    incoming.heardBlocks = blocks false seen := by
  obtain ⟨hchunks, hending⟩ := Http.Incoming.next_eq_lost hnext
  rw [Http.Incoming.heardBlocks, h.heard_of_chunks hchunks, h.ending_eq, hending, Bool.and_false]

theorem heardBlocks_of_finished (h : Reading incoming seen connection)
    (hnext : connection.incoming.next = .finished) : incoming.heardBlocks = blocks true seen := by
  obtain ⟨hchunks, hending⟩ := Http.Incoming.next_eq_finished hnext
  rw [Http.Incoming.heardBlocks, h.isHeard hchunks, h.heard_of_chunks hchunks, h.ending_eq, hending]
  rfl

theorem openBlock_eq (h : Reading incoming seen connection) :
    openBlock seen = connection.pending ++ connection.lines.finish.1.toList := by
  rw [h.pending_eq, h.lines_eq, LineBuffer.finish_after]
  rfl

theorem push_eq_ok (h : Reading incoming seen connection) {lines : List String}
    {buffer : LineBuffer} (hnext : connection.incoming.next = .chunk chunk rest)
    (hpush : connection.lines.push chunk = (.ok lines, buffer)) :
    splitBlocks (seen ++ chunk) =
        (let parts := cut String.isEmpty (connection.pending ++ lines)
        ((splitBlocks seen).1 ++ parts.1, parts.2)) ∧
      Reading incoming (seen ++ chunk)
        { incoming := rest, lines := buffer, pending := (splitBlocks (seen ++ chunk)).2 } := by
  obtain ⟨hchunks, hending⟩ := Http.Incoming.next_eq_chunk hnext
  obtain ⟨ended, hended, hresult⟩ := LineBuffer.push_after maxLineBytes seen chunk
  rw [h.lines_eq, hresult] at hpush
  split at hpush
  · simp at hpush
  · next hshort =>
      obtain ⟨hlines, rfl⟩ := Prod.mk.inj hpush
      obtain rfl := Except.ok.inj hlines
      refine ⟨?_, ?_, ?_, ?_, rfl, rfl⟩
      · rw [splitBlocks_append hended, h.pending_eq]
      · rw [h.flatten_eq, hchunks, List.flatten_cons, List.append_assoc]
      · rw [h.heard_eq, hchunks, heard_cons_of_not_lt hshort]
      · rw [h.ending_eq, hending]

/-- What a session takes in with a chunk: the blocks that end in it, or those of them up to the last
event that is asked for. -/
theorem takeLines_cases (h : Reading incoming seen connection) {lines : List String}
    {buffer : LineBuffer} (hnext : connection.incoming.next = .chunk chunk rest)
    (hpush : connection.lines.push chunk = (.ok lines, buffer)) {session : Session}
    (hfull : session.isFull = false) :
    ∃ more,
      (session.takeLines connection.pending lines =
          (session.takeBlocks more, (splitBlocks (seen ++ chunk)).2, true) ∧
        (session.takeBlocks more).isFull = false ∧
        blocks false (seen ++ chunk) = blocks false seen ++ more) ∨
      (session.takeLines connection.pending lines = (session.takeBlocks more, [], false) ∧
        (session.takeBlocks more).isFull = true ∧ (session.takeBlocks more).IsWithin ∧
        blocks false seen ++ more <+: blocks false (seen ++ chunk)) := by
  have hsplit := (h.push_eq_ok hnext hpush).1
  have hpending : ∀ line ∈ connection.pending, line.isEmpty = false := by
    rw [h.pending_eq]
    exact splitBlocks_snd_forall seen
  rw [blocks_false, blocks_false, hsplit, List.filterMap_append]
  rcases session.takeLines_cases lines hfull hpending with ⟨htake, hopen⟩ |
    ⟨taken, hfront, htake, hend, hwithin⟩
  · exact ⟨_, .inl ⟨htake, hopen, rfl⟩⟩
  · exact ⟨_, .inr ⟨htake, hend, hwithin, (List.prefix_append_right_inj _).2 (hfront.filterMap _)⟩⟩

end Reading

end ApiBridge
