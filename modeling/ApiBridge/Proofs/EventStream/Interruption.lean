import ApiBridge.Proofs.EventStream.Consumption

/-!
Streams that fail under the blocking policy. An event is handed over once it makes a chunk whole, once
the buffer is needed for the next one, or at the end of the stream. A stream that fails has no end,
so that the events which wait by then are not handed over.
-/

namespace ApiBridge.EventStream.Consumption

variable {α : Type} {limits : ConsumeLimits} {events : List α} {state : Consumption α}

theorem run_map_ok (state : Consumption α) (events : List α) (later : List (Except Error α)) :
    state.run (events.map .ok ++ later) = (events.foldl push state).run later := by
  induction events generalizing state with
  | nil => rfl
  | cons event events ih => exact ih (state.push event)

theorem run_of_end (state : Consumption α) (events : List α) :
    state.run (events.map .ok) = .ok (events.foldl push state).finish := by
  have hrun := state.run_map_ok events []
  rwa [List.append_nil] at hrun

/-- How many of a number of events wait, if none is discarded. Where a buffer is smaller than a
chunk it is emptied only for the next event, so that some wait from the first event on. -/
def waiting (limits : ConsumeLimits) (count : Nat) : Nat :=
  if limits.chunkSize ≤ limits.capacity then count % limits.chunkSize
  else if count = 0 then 0 else (count - 1) % limits.capacity + 1

theorem waiting_eq_zero_iff (limits : ConsumeLimits) (count : Nat) :
    waiting limits count = 0 ↔
      count = 0 ∨ limits.chunkSize ≤ limits.capacity ∧ limits.chunkSize ∣ count := by
  unfold waiting
  split
  · next hfits =>
      rw [← Nat.dvd_iff_mod_eq_zero]
      constructor
      · exact fun hdvd => .inr ⟨hfits, hdvd⟩
      · rintro (rfl | ⟨-, hdvd⟩)
        · exact Nat.dvd_zero _
        · exact hdvd
  · next hsmall =>
      split
      · next hzero => simp [hzero]
      · next hsome => simp [hsome, hsmall]

theorem Keeps.length_flatten (h : Keeps limits events state) :
    state.chunks.flatten.length = state.chunks.length * min limits.chunkSize limits.capacity := by
  have hlengths : state.chunks.map List.length =
      List.replicate state.chunks.length (min limits.chunkSize limits.capacity) := by
    refine List.eq_replicate_iff.2 ⟨List.length_map _, ?_⟩
    intro length hlength
    obtain ⟨chunk, hchunk, rfl⟩ := List.mem_map.1 hlength
    exact h.length_of_mem chunk hchunk
  rw [List.length_flatten, hlengths, List.sum_replicate_nat]

theorem buffer_foldl_push_ne_nil (hsmall : limits.capacity < limits.chunkSize)
    (hpolicy : limits.policy = .block) (hevents : events ≠ []) :
    (events.foldl push (empty limits)).buffer ≠ [] := by
  obtain ⟨earlier, event, rfl⟩ := (List.eq_nil_or_concat events).resolve_left hevents
  rw [List.concat_eq_append, List.foldl_append]
  change (push _ event).buffer ≠ []
  have hsettled := settled_foldl_push limits earlier
  rcases push_cases hsettled event with ⟨-, -, hpush⟩ | ⟨hwhole, hroom, -⟩ | ⟨-, -, hpush⟩ |
    ⟨-, holdest, -⟩
  · simp [hpush]
  · omega
  · simp [hpush]
  · simp [hpolicy] at holdest

theorem length_buffer_foldl_push (hpolicy : limits.policy = .block) (events : List α) :
    (events.foldl push (empty limits)).buffer.length = waiting limits events.length := by
  have hkeeps := keeps_foldl_push limits (.inl hpolicy) events
  have hsettled := settled_foldl_push limits events
  have hnil : limits.capacity < limits.chunkSize → events ≠ [] →
      (events.foldl push (empty limits)).buffer ≠ [] :=
    fun hsmall => buffer_foldl_push_ne_nil hsmall hpolicy
  generalize events.foldl push (empty limits) = state at *
  have hlength : state.chunks.length * min limits.chunkSize limits.capacity +
      state.buffer.length = events.length := by
    rw [← hkeeps.length_flatten, ← List.length_append, hkeeps.flatten_append]
  unfold waiting
  split
  · next hfits =>
      rw [Nat.min_eq_left hfits] at hlength
      rw [← hlength, Nat.mul_add_mod_self_right, Nat.mod_eq_of_lt hsettled.length_lt]
  · next hsmall =>
      rw [Nat.min_eq_right (Nat.le_of_not_le hsmall)] at hlength
      split
      · next hzero => omega
      · next hsome =>
          have hpos := List.length_pos_iff.2
            (hnil (Nat.not_le.1 hsmall) (List.length_pos_iff.1 (Nat.pos_of_ne_zero hsome)))
          have hlast : state.buffer.length - 1 < limits.capacity := by
            have hle := hsettled.length_le
            omega
          have hbefore : events.length - 1 =
              state.chunks.length * limits.capacity + (state.buffer.length - 1) := by omega
          rw [hbefore, Nat.mul_add_mod_self_right, Nat.mod_eq_of_lt hlast]
          omega

/-- What a consumer has handed over at any time is in the chunks that it hands over at the end of
the stream, in front of a last one with the events that wait. -/
theorem results_finish_of_settled (h : Settled limits state) :
    state.finish.results =
      state.chunks ++ if state.buffer = [] then [] else [state.buffer] := by
  have hpieces : pieces limits.chunkSize state.buffer =
      if state.buffer = [] then [] else [state.buffer] := by
    split
    · next hnil => rw [hnil, pieces_nil]
    · next hsome => rw [pieces_of_length_le hsome (Nat.le_of_lt h.length_lt)]
  simp only [finish, drain_eq, h.limits_eq, hpieces]

theorem Keeps.parts (h : Keeps limits events state) :
    state.chunks = pieces (min limits.chunkSize limits.capacity)
        (events.take (events.length - state.buffer.length)) ∧
      state.buffer = events.drop (events.length - state.buffer.length) := by
  have hpos : 0 < min limits.chunkSize limits.capacity :=
    Nat.lt_min.2 ⟨limits.chunkSize_pos, limits.capacity_pos⟩
  have hlength : events.length - state.buffer.length = state.chunks.flatten.length := by
    rw [← h.flatten_append, List.length_append, Nat.add_sub_cancel]
  have hpieces := pieces_flatten_append hpos h.length_of_mem ([] : List α)
  rw [List.append_nil, pieces_nil, List.append_nil] at hpieces
  constructor
  · rw [hlength, ← h.flatten_append, List.take_left, hpieces]
  · rw [hlength, ← h.flatten_append, List.drop_left]

/-- A run on a stream that fails after some events, under the blocking policy. It gives the error
back. By then all events but those that wait have been handed over in their order, in chunks of one
length. They are the chunks that the stream would have made had it ended there, apart from the
last one, which holds the events that wait. No event is left out just if none waits, which is so if
there were none, or if a chunk fits into the buffer and the last one was whole. -/
theorem run_of_failure (limits : ConsumeLimits) (hpolicy : limits.policy = .block)
    (events : List α) (error : Error) (later : List (Except Error α)) :
    ∃ state summary,
      (empty limits).run (events.map .ok ++ .error error :: later) = .error (error, state) ∧
      (empty limits).run (events.map .ok) = .ok summary ∧
      state.chunks = pieces (min limits.chunkSize limits.capacity)
        (events.take (events.length - waiting limits events.length)) ∧
      state.buffer = events.drop (events.length - waiting limits events.length) ∧
      state.dropped = 0 ∧
      summary.results = state.chunks ++ (if state.buffer = [] then [] else [state.buffer]) ∧
      (state.chunks.flatten = events ↔
        events = [] ∨ limits.chunkSize ≤ limits.capacity ∧ limits.chunkSize ∣ events.length) := by
  have hkeeps := keeps_foldl_push limits (.inl hpolicy) events
  have hlength := length_buffer_foldl_push hpolicy events
  obtain ⟨hchunks, hbuffer⟩ := hkeeps.parts
  rw [hlength] at hchunks hbuffer
  refine ⟨events.foldl push (empty limits), _, ?_, run_of_end _ events, hchunks, hbuffer,
    hkeeps.dropped_eq, results_finish_of_settled (settled_foldl_push limits events), ?_⟩
  · rw [run_map_ok]
    rfl
  · have hwhole : (events.foldl push (empty limits)).chunks.flatten = events ↔
        waiting limits events.length = 0 := by
      rw [← hlength, List.length_eq_zero_iff]
      nth_rewrite 2 [← hkeeps.flatten_append]
      exact List.self_eq_append_right
    rw [hwhole, waiting_eq_zero_iff, List.length_eq_zero_iff]

/-- Three events, of which the first two make a chunk, and then a failure. -/
theorem run_of_failure_sample :
    let limits : ConsumeLimits := ⟨2, 3, .block, by decide, by decide⟩
    let error := Error.timeout 5
    limits.policy = .block ∧ ∃ state, ∃ summary : Summary (List Nat),
      (empty limits).run [.ok 1, .ok 2, .ok 3, .error error] = .error (error, state) ∧
      (empty limits).run [.ok 1, .ok 2, .ok 3] = .ok summary ∧
      state.chunks = pieces 2 [1, 2] ∧ state.buffer = [3] ∧
      summary.results = state.chunks ++ [[3]] := by
  intro limits error
  obtain ⟨state, summary, hfailed, hended, hchunks, hbuffer, -, hresults, -⟩ :=
    run_of_failure limits rfl [1, 2, 3] error []
  have hwaiting : waiting limits [1, 2, 3].length = 1 := by decide
  rw [hwaiting] at hchunks hbuffer
  refine ⟨rfl, state, summary, hfailed, hended, hchunks, hbuffer, ?_⟩
  rw [hresults, hbuffer]
  rfl

/-- A consumer gives one event to its processor if the stream ends after it, and none if the stream
fails after it. -/
theorem failure_loses_event :
    let limits : ConsumeLimits := ⟨2, 3, .block, by decide, by decide⟩
    let error := Error.timeout 5
    ∃ state, ∃ summary : Summary (List Nat),
      (empty limits).run [.ok 1, .error error] = .error (error, state) ∧
      (empty limits).run [.ok 1] = .ok summary ∧
      summary.results = [[1]] ∧ state.chunks = [] := by
  intro limits error
  refine ⟨_, _, rfl, rfl, ?_, rfl⟩
  decide +kernel

end ApiBridge.EventStream.Consumption
