import ApiBridge.EventStream.Consumption
import Mathlib.Algebra.GroupWithZero.Nat
import Mathlib.Data.List.Induction

/-!
What a consumer hands over, in closed form. Under the blocking policy, and whenever a chunk fits
into the buffer, nothing is lost and the chunks are the events cut into pieces of one length.
Otherwise no chunk is ever whole, and only the events that the buffer holds in the end are handed
over.
-/

namespace ApiBridge.EventStream

variable {α : Type}

/-- A list cut into consecutive pieces of one length, of which the last may be shorter. -/
def pieces (length : Nat) (items : List α) : List (List α) :=
  if _h : length = 0 ∨ items = [] then []
  else items.take length :: pieces length (items.drop length)
termination_by items.length
decreasing_by
  have hpos := List.length_pos_iff.2 (not_or.1 _h).2
  simp only [List.length_drop]
  omega

@[simp] theorem pieces_nil (length : Nat) : pieces length ([] : List α) = [] := by
  rw [pieces]
  simp

theorem pieces_of_ne_nil {length : Nat} {items : List α} (hlength : 0 < length)
    (hitems : items ≠ []) :
    pieces length items = items.take length :: pieces length (items.drop length) := by
  rw [pieces, dif_neg]
  rintro (rfl | hnil)
  · exact absurd hlength (Nat.lt_irrefl 0)
  · exact hitems hnil

theorem pieces_of_length_le {length : Nat} {items : List α} (hitems : items ≠ [])
    (hle : items.length ≤ length) : pieces length items = [items] := by
  have hpos := List.length_pos_iff.2 hitems
  rw [pieces_of_ne_nil (by omega) hitems, List.take_of_length_le hle, List.drop_of_length_le hle,
    pieces_nil]

theorem pieces_flatten_append {length : Nat} (hlength : 0 < length) {whole : List (List α)}
    (hwhole : ∀ piece ∈ whole, piece.length = length) (rest : List α) :
    pieces length (whole.flatten ++ rest) = whole ++ pieces length rest := by
  induction whole with
  | nil => rfl
  | cons piece whole ih =>
      have hpiece : piece.length = length := hwhole piece (by simp)
      have hne : piece ++ (whole.flatten ++ rest) ≠ [] := by
        intro hnil
        rw [(List.append_eq_nil_iff.1 hnil).1] at hpiece
        simp only [List.length_nil] at hpiece
        omega
      rw [List.flatten_cons, List.append_assoc, pieces_of_ne_nil hlength hne,
        List.take_left' hpiece, List.drop_left' hpiece,
        ih fun other hother => hwhole other (List.mem_cons_of_mem _ hother)]
      rfl

theorem flatten_pieces {length : Nat} (hlength : 0 < length) (items : List α) :
    (pieces length items).flatten = items := by
  induction items using pieces.induct length with
  | case1 items hempty =>
      rcases hempty with rfl | rfl
      · exact absurd hlength (Nat.lt_irrefl 0)
      · simp
  | case2 items hsome ih =>
      rw [pieces_of_ne_nil hlength (not_or.1 hsome).2, List.flatten_cons, ih, List.take_append_drop]

theorem ne_nil_of_mem_pieces {length : Nat} {items piece : List α}
    (hpiece : piece ∈ pieces length items) : piece ≠ [] := by
  induction items using pieces.induct length with
  | case1 items hempty =>
      rw [pieces, dif_pos hempty] at hpiece
      simp at hpiece
  | case2 items hsome ih =>
      rw [pieces, dif_neg hsome] at hpiece
      rcases List.mem_cons.1 hpiece with rfl | hlater
      · rw [not_or] at hsome
        rw [Ne, List.take_eq_nil_iff, not_or]
        exact hsome
      · exact ih hlater

namespace Consumption

theorem handOver_of_length_le {state : Consumption α}
    (hle : state.buffer.length ≤ state.limits.chunkSize) :
    state.handOver =
      { state with
        buffer := []
        chunks := state.chunks ++ [state.buffer]
        processed := state.processed + state.buffer.length
        chunkCount := state.chunkCount + 1 } := by
  simp only [handOver, List.take_of_length_le hle, List.drop_of_length_le hle]

theorem drain_eq (state : Consumption α) :
    state.drain =
      { state with
        buffer := []
        chunks := state.chunks ++ pieces state.limits.chunkSize state.buffer
        processed := state.processed + state.buffer.length
        chunkCount := state.chunkCount + (pieces state.limits.chunkSize state.buffer).length } := by
  induction state using drain.induct with
  | case1 state hempty =>
      rw [drain, dif_pos hempty]
      cases state
      simp_all
  | case2 state hsome ih =>
      rw [drain, dif_neg hsome, ih, pieces_of_ne_nil state.limits.chunkSize_pos hsome]
      simp only [handOver, List.append_assoc, List.cons_append, List.nil_append,
        List.length_take, List.length_drop, List.length_cons, Consumption.mk.injEq, true_and,
        and_true]
      omega

theorem relieve_of_length_lt {state : Consumption α}
    (hfull : state.limits.capacity ≤ state.buffer.length)
    (hshort : state.buffer.length < state.limits.chunkSize) :
    state.relieve = state.handOver := by
  have hne : state.buffer ≠ [] := by
    have hpos := state.limits.capacity_pos
    exact List.length_pos_iff.1 (by omega)
  rw [relieve, if_pos hfull, dif_neg (Nat.not_le.2 hshort), drain_eq,
    pieces_of_length_le hne (Nat.le_of_lt hshort), handOver_of_length_le (Nat.le_of_lt hshort)]
  rfl

theorem flushOne_of_length_lt {state : Consumption α}
    (hshort : state.buffer.length < state.limits.chunkSize) : state.flushOne = state := by
  rw [flushOne, if_neg (Nat.not_le.2 hshort)]

theorem flushOne_of_length_eq {state : Consumption α}
    (hwhole : state.buffer.length = state.limits.chunkSize) : state.flushOne = state.handOver := by
  rw [flushOne, if_pos (Nat.le_of_eq hwhole.symm)]

/-- What holds of the buffer between two pushes. -/
structure Settled (limits : ConsumeLimits) (state : Consumption α) : Prop where
  limits_eq : state.limits = limits
  length_lt : state.buffer.length < limits.chunkSize
  length_le : state.buffer.length ≤ limits.capacity

variable {limits : ConsumeLimits} {events : List α} {state : Consumption α}

theorem settled_empty (limits : ConsumeLimits) : Settled limits (empty limits : Consumption α) where
  limits_eq := rfl
  length_lt := limits.chunkSize_pos
  length_le := Nat.zero_le _

theorem push_cases (h : Settled limits state) (event : α) :
    (state.buffer.length + 1 < limits.chunkSize ∧ state.buffer.length < limits.capacity ∧
        state.push event = { state with buffer := state.buffer ++ [event] }) ∨
      (state.buffer.length + 1 = limits.chunkSize ∧ state.buffer.length < limits.capacity ∧
        state.push event = handOver { state with buffer := state.buffer ++ [event] }) ∨
      (state.buffer.length = limits.capacity ∧ limits.policy = .block ∧
        state.push event = { state.handOver with buffer := [event] }) ∨
      (state.buffer.length = limits.capacity ∧ limits.policy = .dropOldest ∧
        state.push event = { state.dropFirst with buffer := state.buffer.drop 1 ++ [event] }) := by
  obtain ⟨rfl, hlt, hle⟩ := h
  have hpos := state.limits.capacity_pos
  by_cases hfull : state.buffer.length = state.limits.capacity
  · refine .inr (.inr ?_)
    rw [push, if_pos (Nat.le_of_eq hfull.symm)]
    cases hpolicy : state.limits.policy with
    | block =>
        refine .inl ⟨hfull, rfl, ?_⟩
        simp only [relieve_of_length_lt (Nat.le_of_eq hfull.symm) hlt,
          handOver_of_length_le (Nat.le_of_lt hlt), List.nil_append]
        apply flushOne_of_length_lt
        simp only [List.length_singleton]
        omega
    | dropOldest =>
        refine .inr ⟨hfull, rfl, ?_⟩
        apply flushOne_of_length_lt
        simp only [dropFirst, List.length_append, List.length_drop, List.length_singleton]
        omega
  · have hroom : state.buffer.length < state.limits.capacity := by omega
    rw [push, if_neg (Nat.not_le.2 hroom)]
    by_cases hwhole : state.buffer.length + 1 = state.limits.chunkSize
    · refine .inr (.inl ⟨hwhole, hroom, ?_⟩)
      apply flushOne_of_length_eq
      simpa using hwhole
    · have hshort : state.buffer.length + 1 < state.limits.chunkSize := by omega
      refine .inl ⟨hshort, hroom, ?_⟩
      apply flushOne_of_length_lt
      simpa using hshort

theorem Settled.push (h : Settled limits state) (event : α) :
    Settled limits (state.push event) := by
  have hchunk := limits.chunkSize_pos
  have hcapacity := limits.capacity_pos
  have hlt := h.length_lt
  rcases push_cases h event with ⟨hshort, hroom, hpush⟩ | ⟨hwhole, hroom, hpush⟩ |
    ⟨hfull, -, hpush⟩ | ⟨hfull, -, hpush⟩
  · rw [hpush]
    refine ⟨h.limits_eq, ?_, ?_⟩ <;>
      simp only [List.length_append, List.length_singleton] <;> omega
  · rw [hpush, handOver_of_length_le (by simp [h.limits_eq, hwhole])]
    exact ⟨h.limits_eq, hchunk, Nat.zero_le _⟩
  · rw [hpush]
    refine ⟨h.limits_eq, ?_, ?_⟩ <;> simp only [List.length_singleton] <;> omega
  · rw [hpush]
    refine ⟨h.limits_eq, ?_, ?_⟩ <;>
      simp only [List.length_append, List.length_drop, List.length_singleton] <;> omega

/-- A consumer that has lost nothing: what it took in are the events of the chunks, all of one
length, and those that wait. -/
structure Keeps (limits : ConsumeLimits) (events : List α) (state : Consumption α) : Prop where
  flatten_append : state.chunks.flatten ++ state.buffer = events
  length_of_mem : ∀ chunk ∈ state.chunks, chunk.length = min limits.chunkSize limits.capacity
  processed_eq : state.processed = state.chunks.flatten.length
  chunkCount_eq : state.chunkCount = state.chunks.length
  dropped_eq : state.dropped = 0

theorem keeps_empty (limits : ConsumeLimits) :
    Keeps limits [] (empty limits : Consumption α) where
  flatten_append := rfl
  length_of_mem := by simp [empty]
  processed_eq := rfl
  chunkCount_eq := rfl
  dropped_eq := rfl

theorem Keeps.accept (h : Keeps limits events state) (event : α) :
    Keeps limits (events ++ [event]) { state with buffer := state.buffer ++ [event] } where
  flatten_append := by rw [← h.flatten_append, List.append_assoc]
  length_of_mem := h.length_of_mem
  processed_eq := h.processed_eq
  chunkCount_eq := h.chunkCount_eq
  dropped_eq := h.dropped_eq

theorem Keeps.handOver (h : Keeps limits events state)
    (hlength : state.buffer.length = min limits.chunkSize limits.capacity)
    (hle : state.buffer.length ≤ state.limits.chunkSize) : Keeps limits events state.handOver := by
  rw [handOver_of_length_le hle]
  constructor
  · rw [← h.flatten_append]
    simp
  · intro chunk hchunk
    rcases List.mem_append.1 hchunk with hearlier | hlast
    · exact h.length_of_mem chunk hearlier
    · rw [List.mem_singleton.1 hlast, hlength]
  · simp [h.processed_eq]
  · simp [h.chunkCount_eq]
  · exact h.dropped_eq

theorem Keeps.push (h : Keeps limits events state) (hsettled : Settled limits state)
    (hkeeps : limits.policy = .block ∨ limits.chunkSize ≤ limits.capacity) (event : α) :
    Keeps limits (events ++ [event]) (state.push event) := by
  have hlt := hsettled.length_lt
  rcases push_cases hsettled event with ⟨-, -, hpush⟩ | ⟨hwhole, hroom, hpush⟩ |
    ⟨hfull, -, hpush⟩ | ⟨hfull, hpolicy, -⟩
  · rw [hpush]
    exact h.accept event
  · rw [hpush]
    refine (h.accept event).handOver ?_ ?_
    · simp only [List.length_append, List.length_singleton]
      omega
    · simp [hsettled.limits_eq, hwhole]
  · have hgiven : Keeps limits events state.handOver :=
      h.handOver (by omega) (hsettled.limits_eq ▸ Nat.le_of_lt hlt)
    have hnil : state.handOver.buffer = [] := by
      rw [handOver_of_length_le (hsettled.limits_eq ▸ Nat.le_of_lt hlt)]
    have haccept := hgiven.accept event
    rw [hnil] at haccept
    rw [hpush]
    exact haccept
  · rcases hkeeps with hblock | hfits
    · rw [hpolicy] at hblock
      exact absurd hblock (by decide)
    · omega

theorem Keeps.finish (h : Keeps limits events state) (hsettled : Settled limits state) :
    state.finish =
      { success := true, processedEvents := events.length
        chunksProcessed := (pieces (min limits.chunkSize limits.capacity) events).length
        droppedEvents := 0, chunkSize := limits.chunkSize, bufferMaxSize := limits.capacity
        results := pieces (min limits.chunkSize limits.capacity) events } := by
  have hlt := hsettled.length_lt
  have hle := hsettled.length_le
  have hpos : 0 < min limits.chunkSize limits.capacity :=
    Nat.lt_min.2 ⟨limits.chunkSize_pos, limits.capacity_pos⟩
  have hlast : pieces limits.chunkSize state.buffer =
      pieces (min limits.chunkSize limits.capacity) state.buffer := by
    by_cases hnil : state.buffer = []
    · rw [hnil, pieces_nil, pieces_nil]
    · rw [pieces_of_length_le hnil (Nat.le_of_lt hlt), pieces_of_length_le hnil (by omega)]
  have hpieces : state.chunks ++ pieces limits.chunkSize state.buffer =
      pieces (min limits.chunkSize limits.capacity) events := by
    rw [hlast, ← pieces_flatten_append hpos h.length_of_mem, h.flatten_append]
  have hlength : state.processed + state.buffer.length = events.length := by
    rw [h.processed_eq, ← h.flatten_append, List.length_append]
  simp only [Consumption.finish, drain_eq, hsettled.limits_eq, hpieces, hlength, h.dropped_eq,
    h.chunkCount_eq, ← List.length_append]

/-- A consumer that only ever discards: the latest events wait, and nothing was handed over. -/
structure Discards (limits : ConsumeLimits) (events : List α) (state : Consumption α) : Prop where
  buffer_eq : state.buffer = events.drop (events.length - limits.capacity)
  chunks_eq : state.chunks = []
  processed_eq : state.processed = 0
  chunkCount_eq : state.chunkCount = 0
  dropped_eq : state.dropped = events.length - limits.capacity

theorem discards_empty (limits : ConsumeLimits) :
    Discards limits [] (empty limits : Consumption α) where
  buffer_eq := by simp [empty]
  chunks_eq := rfl
  processed_eq := rfl
  chunkCount_eq := rfl
  dropped_eq := by simp [empty]

theorem Discards.push (h : Discards limits events state) (hsettled : Settled limits state)
    (hpolicy : limits.policy = .dropOldest) (hsmall : limits.capacity < limits.chunkSize)
    (event : α) : Discards limits (events ++ [event]) (state.push event) := by
  have hlength : state.buffer.length = min events.length limits.capacity := by
    rw [h.buffer_eq, List.length_drop]
    omega
  rcases push_cases hsettled event with ⟨-, hroom, hpush⟩ | ⟨hwhole, hroom, -⟩ |
    ⟨-, hblock, -⟩ | ⟨hfull, -, hpush⟩
  · have hall : events.length - limits.capacity = 0 := by omega
    have hnone : (events ++ [event]).length - limits.capacity = 0 := by
      simp only [List.length_append, List.length_singleton]
      omega
    rw [hpush]
    exact ⟨by simp only [hnone, h.buffer_eq, hall, List.drop_zero], h.chunks_eq, h.processed_eq,
      h.chunkCount_eq, by rw [hnone, ← hall]; exact h.dropped_eq⟩
  · omega
  · rw [hpolicy] at hblock
    exact absurd hblock (by decide)
  · have hmore : (events ++ [event]).length - limits.capacity =
        events.length - limits.capacity + 1 := by
      simp only [List.length_append, List.length_singleton]
      omega
    have hcapacity := limits.capacity_pos
    rw [hpush]
    refine ⟨?_, h.chunks_eq, h.processed_eq, h.chunkCount_eq, ?_⟩
    · simp only [hmore, h.buffer_eq, List.drop_drop]
      rw [List.drop_append_of_le_length (by omega)]
    · rw [hmore, ← h.dropped_eq]
      rfl

theorem Discards.finish (h : Discards limits events state) (hsettled : Settled limits state) :
    state.finish =
      { success := true, processedEvents := min events.length limits.capacity
        chunksProcessed := if events = [] then 0 else 1
        droppedEvents := events.length - limits.capacity
        chunkSize := limits.chunkSize, bufferMaxSize := limits.capacity
        results :=
          if events = [] then [] else [events.drop (events.length - limits.capacity)] } := by
  have hlength : state.buffer.length = min events.length limits.capacity := by
    rw [h.buffer_eq, List.length_drop]
    omega
  have hpieces : pieces limits.chunkSize state.buffer =
      if events = [] then [] else [events.drop (events.length - limits.capacity)] := by
    split
    · next hnil => simp [h.buffer_eq, hnil]
    · next hne =>
        have hpos := List.length_pos_iff.2 hne
        have hcapacity := limits.capacity_pos
        have hbuffer : state.buffer ≠ [] := List.length_pos_iff.1 (by omega)
        rw [pieces_of_length_le hbuffer (Nat.le_of_lt hsettled.length_lt), h.buffer_eq]
  simp only [Consumption.finish, drain_eq, hsettled.limits_eq, hpieces, h.chunks_eq, h.processed_eq,
    h.chunkCount_eq, h.dropped_eq, hlength, List.nil_append, Nat.zero_add]
  congr 1
  split <;> rfl

theorem settled_foldl_push (limits : ConsumeLimits) (events : List α) :
    Settled limits (events.foldl push (empty limits)) := by
  induction events using List.reverseRecOn with
  | nil => exact settled_empty limits
  | append_singleton events event ih =>
      rw [List.foldl_append]
      exact ih.push event

theorem keeps_foldl_push (limits : ConsumeLimits)
    (hkeeps : limits.policy = .block ∨ limits.chunkSize ≤ limits.capacity) (events : List α) :
    Keeps limits events (events.foldl push (empty limits)) := by
  induction events using List.reverseRecOn with
  | nil => exact keeps_empty limits
  | append_singleton events event ih =>
      rw [List.foldl_append]
      exact ih.push (settled_foldl_push limits events) hkeeps event

theorem discards_foldl_push (limits : ConsumeLimits) (hpolicy : limits.policy = .dropOldest)
    (hsmall : limits.capacity < limits.chunkSize) (events : List α) :
    Discards limits events (events.foldl push (empty limits)) := by
  induction events using List.reverseRecOn with
  | nil => exact discards_empty limits
  | append_singleton events event ih =>
      rw [List.foldl_append]
      exact ih.push (settled_foldl_push limits events) hpolicy hsmall event

/-- The chunks that a policy makes of the events. -/
def chunksOf (limits : ConsumeLimits) (events : List α) : List (List α) :=
  match limits.policy with
  | .block => pieces (min limits.chunkSize limits.capacity) events
  | .dropOldest =>
      if limits.chunkSize ≤ limits.capacity then pieces limits.chunkSize events
      else if events = [] then []
      else [events.drop (events.length - min events.length limits.capacity)]

/-- How many of the events a policy discards. -/
def discarded (limits : ConsumeLimits) (events : List α) : Nat :=
  match limits.policy with
  | .block => 0
  | .dropOldest =>
      if limits.chunkSize ≤ limits.capacity then 0
      else events.length - min events.length limits.capacity

theorem flatten_chunksOf_length (limits : ConsumeLimits) (events : List α) :
    (chunksOf limits events).flatten.length + discarded limits events = events.length := by
  have hpos : 0 < min limits.chunkSize limits.capacity :=
    Nat.lt_min.2 ⟨limits.chunkSize_pos, limits.capacity_pos⟩
  unfold chunksOf discarded
  cases limits.policy with
  | block => simp only [flatten_pieces hpos, Nat.add_zero]
  | dropOldest =>
      by_cases hfits : limits.chunkSize ≤ limits.capacity
      · simp only [if_pos hfits, flatten_pieces limits.chunkSize_pos, Nat.add_zero]
      · by_cases hnil : events = []
        · simp [hfits, hnil]
        · simp only [if_neg hfits, if_neg hnil, List.flatten_singleton, List.length_drop]
          omega

theorem nil_notMem_chunksOf (limits : ConsumeLimits) (events : List α) :
    [] ∉ chunksOf limits events := by
  unfold chunksOf
  cases limits.policy with
  | block => exact fun hmem => ne_nil_of_mem_pieces hmem rfl
  | dropOldest =>
      by_cases hfits : limits.chunkSize ≤ limits.capacity
      · simp only [if_pos hfits]
        exact fun hmem => ne_nil_of_mem_pieces hmem rfl
      · by_cases hnil : events = []
        · simp [hfits, hnil]
        · have hpos := List.length_pos_iff.2 hnil
          have hcapacity := limits.capacity_pos
          simp only [if_neg hfits, if_neg hnil, List.mem_singleton]
          intro hdrop
          have hlength := congrArg List.length hdrop
          simp only [List.length_nil, List.length_drop] at hlength
          omega

theorem finish_foldl_push_eq (limits : ConsumeLimits) (events : List α) :
    (events.foldl push (empty limits)).finish =
      { success := true, processedEvents := (chunksOf limits events).flatten.length
        chunksProcessed := (chunksOf limits events).length
        droppedEvents := discarded limits events, chunkSize := limits.chunkSize
        bufferMaxSize := limits.capacity, results := chunksOf limits events } := by
  have hpos : 0 < min limits.chunkSize limits.capacity :=
    Nat.lt_min.2 ⟨limits.chunkSize_pos, limits.capacity_pos⟩
  have hsettled := settled_foldl_push limits events
  by_cases hkeeps : limits.policy = .block ∨ limits.chunkSize ≤ limits.capacity
  · have hchunks : chunksOf limits events =
        pieces (min limits.chunkSize limits.capacity) events := by
      unfold chunksOf
      cases hpolicy : limits.policy with
      | block => rfl
      | dropOldest =>
          have hfits := hkeeps.resolve_left (by simp [hpolicy])
          simp only [if_pos hfits, Nat.min_eq_left hfits]
    have hnone : discarded limits events = 0 := by
      unfold discarded
      cases hpolicy : limits.policy with
      | block => rfl
      | dropOldest => exact if_pos (hkeeps.resolve_left (by simp [hpolicy]))
    rw [(keeps_foldl_push limits hkeeps events).finish hsettled, hchunks, hnone,
      flatten_pieces hpos]
  · obtain ⟨hpolicy, hsmall⟩ := not_or.1 hkeeps
    have holdest : limits.policy = .dropOldest := by
      cases hcase : limits.policy with
      | block => exact absurd hcase hpolicy
      | dropOldest => rfl
    have hmin : events.length - min events.length limits.capacity =
        events.length - limits.capacity := by omega
    rw [(discards_foldl_push limits holdest (Nat.not_le.1 hsmall) events).finish hsettled]
    simp only [chunksOf, discarded, holdest, if_neg hsmall, hmin]
    by_cases hnil : events = []
    · simp [hnil]
    · simp only [if_neg hnil, List.flatten_singleton, List.length_drop, List.length_singleton,
        Summary.mk.injEq, true_and, and_true]
      omega

/-- What a consumer hands over and what it discards follow from its sizes, its policy and the events
alone, and between two pushes no more events wait than the buffer may hold. -/
theorem finish_of_pushes (limits : ConsumeLimits) (events : List α) :
    let summary := (events.foldl push (empty limits)).finish
    summary.results = chunksOf limits events ∧
      summary.droppedEvents = discarded limits events ∧
      summary.processedEvents + summary.droppedEvents = events.length ∧
      summary.processedEvents = (summary.results.map List.length).sum ∧
      summary.chunksProcessed = summary.results.length ∧
      [] ∉ summary.results ∧
      ∀ earlier, earlier <+: events →
        (earlier.foldl push (empty limits)).buffer.length ≤ limits.capacity := by
  simp only [finish_foldl_push_eq, List.length_flatten, true_and]
  refine ⟨?_, nil_notMem_chunksOf limits events, fun earlier _ =>
    (settled_foldl_push limits earlier).length_le⟩
  rw [← List.length_flatten]
  exact flatten_chunksOf_length limits events

end Consumption

end ApiBridge.EventStream
