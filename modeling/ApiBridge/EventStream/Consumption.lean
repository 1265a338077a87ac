import ApiBridge.EventStream.Settings

/-!
Chunked consumption: events wait in a bounded buffer and leave it in chunks. When the buffer is full
the policy either discards the oldest event or drains the buffer first.
-/

namespace ApiBridge.EventStream

/-- A consumer in the course of its work. -/
structure Consumption (α : Type) where
  limits : ConsumeLimits
  /-- The events that wait, oldest first. -/
  buffer : List α
  chunks : List (List α)
  processed : Nat
  chunkCount : Nat
  dropped : Nat

namespace Consumption

variable {α : Type}

/-- How many events of 120 bytes each fit into memory whose addresses have 63 bits. -/
def maxCapacity : Nat := Int64.maxValue.toInt.toNat / 120

def empty (limits : ConsumeLimits) : Consumption α :=
  { limits, buffer := [], chunks := [], processed := 0, chunkCount := 0, dropped := 0 }

def start (limits : ConsumeLimits) : Except Fault (Consumption α) :=
  if maxCapacity < limits.capacity then .error .bufferOverflow else .ok (empty limits)

/-- Hands over one chunk from the front of the buffer, of the chunk size or all there is. -/
def handOver (state : Consumption α) : Consumption α :=
  let chunk := state.buffer.take state.limits.chunkSize
  { state with
    buffer := state.buffer.drop state.limits.chunkSize
    chunks := state.chunks ++ [chunk]
    processed := state.processed + chunk.length
    chunkCount := state.chunkCount + 1 }

def flushOne (state : Consumption α) : Consumption α :=
  if state.limits.chunkSize ≤ state.buffer.length then state.handOver else state

def drain (state : Consumption α) : Consumption α :=
  if _h : state.buffer = [] then state else drain state.handOver
termination_by state.buffer.length
decreasing_by
  have hpos := state.limits.chunkSize_pos
  have hlength := List.length_pos_iff.2 _h
  simp only [handOver, List.length_drop]
  omega

/-- Makes room in a full buffer by discarding the oldest event. -/
def dropFirst (state : Consumption α) : Consumption α :=
  { state with buffer := state.buffer.drop 1, dropped := state.dropped + 1 }

/-- Makes room in a full buffer by handing over chunks: whole ones while the buffer is full, and
everything once no whole chunk waits. -/
def relieve (state : Consumption α) : Consumption α :=
  if state.limits.capacity ≤ state.buffer.length then
    if _h : state.limits.chunkSize ≤ state.buffer.length then relieve state.handOver
    else state.drain
  else state
termination_by state.buffer.length
decreasing_by
  have hpos := state.limits.chunkSize_pos
  simp only [handOver, List.length_drop]
  omega

def push (state : Consumption α) (event : α) : Consumption α :=
  let state :=
    if state.limits.capacity ≤ state.buffer.length then
      match state.limits.policy with
      | .dropOldest => state.dropFirst
      | .block => state.relieve
    else state
  flushOne { state with buffer := state.buffer ++ [event] }

end Consumption

structure Summary (ρ : Type) where
  success : Bool
  processedEvents : Nat
  chunksProcessed : Nat
  droppedEvents : Nat
  chunkSize : Nat
  bufferMaxSize : Nat
  results : List ρ

namespace Summary

variable {ρ : Type}

def encode (result : ρ → Json) (summary : Summary ρ) : Json :=
  .ofPairs [
    ("success", .bool summary.success), ("processed_events", .ofNat summary.processedEvents),
    ("chunks_processed", .ofNat summary.chunksProcessed),
    ("dropped_events", .ofNat summary.droppedEvents), ("chunk_size", .ofNat summary.chunkSize),
    ("buffer_max_size", .ofNat summary.bufferMaxSize),
    ("results", .array (summary.results.map result))]

end Summary

namespace Consumption

variable {α : Type}

def finish (state : Consumption α) : Summary (List α) :=
  let state := state.drain
  { success := true, processedEvents := state.processed, chunksProcessed := state.chunkCount,
    droppedEvents := state.dropped, chunkSize := state.limits.chunkSize,
    bufferMaxSize := state.limits.capacity, results := state.chunks }

/-- Takes in the items of a stream up to its end or its first error. After an error nothing more is
handed over; the consumer is given back as it stands. -/
def run (state : Consumption α) : List (Except Error α) → Except (Error × Consumption α)
    (Summary (List α))
  | [] => .ok state.finish
  | .error error :: _ => .error (error, state)
  | .ok event :: items => run (state.push event) items

end Consumption

end ApiBridge.EventStream
