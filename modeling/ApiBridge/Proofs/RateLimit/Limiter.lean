import ApiBridge.Proofs.Outcome
import ApiBridge.Proofs.RateLimit.Hints
import ApiBridge.Proofs.Table

namespace ApiBridge

namespace RateLimit

open Hints hiding none

variable {now : Instant}

/-- Whether the times that a bucket reckons with at an instant fit into 64 bits. -/
def Bucket.Fits (bucket : Bucket) (now : Instant) : Prop :=
  (now.nanoseconds - bucket.start.nanoseconds).toNat + bucket.period * (bucket.capacity + 1) <
    UInt64.size

theorem Bucket.exists_take {bucket : Bucket} (hfits : bucket.Fits now) :
    ∃ outcome, bucket.take now = .ok outcome := by
  unfold Bucket.Fits at hfits
  rw [Nat.mul_succ] at hfits
  unfold Bucket.take
  dsimp only
  split
  · exact ⟨_, rfl⟩
  · next hdue =>
      rw [if_neg (by omega)]
      exact ⟨_, rfl⟩

theorem Bucket.take_eq_ok {bucket next : Bucket}
    (htake : bucket.take now = .ok (.ok next)) : ∃ fullAt, next = { bucket with fullAt } := by
  unfold Bucket.take at htake
  dsimp only at htake
  split at htake
  · cases Except.ok.inj htake
  · split at htake
    · cases htake
    · exact ⟨_, (Except.ok.inj (Except.ok.inj htake)).symm⟩

/-- What an acquired turn has waited for, first for the server and then for a token, and the limiter
after it. -/
structure Turn where
  hintWaits : List Duration
  bucketWaits : List Duration
  after : Limiter

namespace Limiter

variable {limiter next : Limiter} {waits : List Duration}

theorem acquireHints_eq (limiter : Limiter) (now : Instant) :
    limiter.acquireHints now =
      (pauses (limiter.hints.hold now),
        { limiter with
          hints := if limiter.hints.hold now = 0 then limiter.hints else limiter.hints.served }) := by
  rw [acquireHints, wait?_eq, pauses]
  by_cases hhold : limiter.hints.hold now = 0
  · simp only [hhold, if_true]
  · simp only [hhold, if_false]

theorem acquireBucket_eq_ok (hrun : limiter.acquireBucket now = .ok (waits, next)) :
    ∃ fullAt, next = { limiter with bucket := { limiter.bucket with fullAt } } := by
  obtain ⟨outcome, htake, hrun⟩ := Fault.bind_eq_ok.1 hrun
  cases outcome with
  | ok bucket =>
      obtain ⟨fullAt, rfl⟩ := Bucket.take_eq_ok htake
      exact ⟨fullAt, (Prod.mk.inj (Except.ok.inj hrun)).2.symm⟩
  | error wait => exact ⟨limiter.bucket.fullAt, (Prod.mk.inj (Except.ok.inj hrun)).2.symm⟩

/-- A turn waits for the server as long as the hints hold it, before it waits for a token. -/
theorem acquire_cases (hrun : limiter.acquire now = .ok (waits, next)) :
    ∃ bucketWaits fullAt, waits = pauses (limiter.hints.hold now) ++ bucketWaits ∧
      next = { limiter with
        bucket := { limiter.bucket with fullAt }
        hints := limiter.hints.afterTurn now
        acquired := limiter.acquired + 1 } := by
  unfold acquire at hrun
  rw [acquireHints_eq] at hrun
  obtain ⟨⟨bucketWaits, taken⟩, hbucket, hcount⟩ := Fault.bind_eq_ok.1 hrun
  obtain ⟨fullAt, rfl⟩ := acquireBucket_eq_ok hbucket
  obtain ⟨hwaits, hnext⟩ := Prod.mk.inj (Except.ok.inj hcount)
  exact ⟨bucketWaits, fullAt, hwaits.symm, hnext.symm⟩

theorem acquire_eq_ok (hrun : limiter.acquire now = .ok (waits, next)) :
    next.acquired = limiter.acquired + 1 ∧ next.headerUpdates = limiter.headerUpdates := by
  obtain ⟨bucketWaits, fullAt, -, rfl⟩ := acquire_cases hrun
  exact ⟨rfl, rfl⟩

theorem exists_acquire (hfits : limiter.bucket.Fits now) :
    ∃ waits next, limiter.acquire now = .ok (waits, next) ∧ next.bucket.Fits now := by
  have hexists : ∃ waits next, limiter.acquire now = .ok (waits, next) := by
    unfold acquire
    rw [acquireHints_eq]
    dsimp only
    unfold acquireBucket
    obtain ⟨outcome, htake⟩ := Bucket.exists_take hfits
    rw [htake]
    cases outcome with
    | ok bucket => exact ⟨_, _, rfl⟩
    | error wait => exact ⟨_, _, rfl⟩
  obtain ⟨waits, next, hacquire⟩ := hexists
  obtain ⟨bucketWaits, fullAt, -, hnext⟩ := acquire_cases hacquire
  exact ⟨waits, next, hacquire, hnext ▸ hfits⟩

def turn (limiter : Limiter) (now : Instant) : Except Fault Turn := do
  let (waits, after) ← limiter.acquire now
  let hintWaits := (limiter.acquireHints now).1
  pure { hintWaits, bucketWaits := waits.drop hintWaits.length, after }

theorem turn_eq_ok {turn : Turn} (hrun : limiter.turn now = .ok turn) :
    limiter.acquire now = .ok (turn.hintWaits ++ turn.bucketWaits, turn.after) ∧
      turn.hintWaits = pauses (limiter.hints.hold now) ∧
      turn.after.hints = limiter.hints.afterTurn now ∧
      ∀ later, limiter.bucket.Fits later → turn.after.bucket.Fits later := by
  obtain ⟨⟨waits, after⟩, hacquire, hturn⟩ := Fault.bind_eq_ok.1 hrun
  obtain rfl := Except.ok.inj hturn
  obtain ⟨bucketWaits, fullAt, rfl, rfl⟩ := acquire_cases hacquire
  dsimp only
  rw [acquireHints_eq, List.drop_left]
  exact ⟨hacquire, rfl, rfl, fun _ hfits => hfits⟩

theorem exists_turn (hfits : limiter.bucket.Fits now) : ∃ turn, limiter.turn now = .ok turn := by
  obtain ⟨waits, after, hacquire, -⟩ := exists_acquire hfits
  rw [Limiter.turn, hacquire]
  exact ⟨_, rfl⟩

theorem update_of_advice {headers : Http.Headers} {advice : Advice} {now : Instant}
    (hadvice : Advice.parse headers now = .ok advice) (limiter : Limiter) :
    limiter.update headers now = (limiter.hints.update advice now).map fun hints =>
      { limiter with headerUpdates := limiter.headerUpdates + 1, hints } := by
  rw [update, hadvice]
  rcases advice with ⟨limit, remaining, resetAt, retryAfter⟩
  by_cases hempty : Advice.isEmpty ⟨limit, remaining, resetAt, retryAfter⟩ = true
  · simp only [Advice.isEmpty, Bool.and_eq_true, Option.isNone_iff_eq_none] at hempty
    obtain ⟨⟨⟨rfl, rfl⟩, rfl⟩, rfl⟩ := hempty
    rfl
  · simp only [bind, Except.bind, hempty]
    cases limiter.hints.update ⟨limit, remaining, resetAt, retryAfter⟩ now <;> rfl

theorem update_eq_ok {headers : Http.Headers} (hrun : limiter.update headers now = .ok next) :
    next.acquired = limiter.acquired ∧ next.headerUpdates = limiter.headerUpdates + 1 ∧
      next.bucket = limiter.bucket := by
  obtain ⟨advice, hadvice, -⟩ := Fault.bind_eq_ok.1 hrun
  rw [update_of_advice hadvice] at hrun
  obtain ⟨hints, -, rfl⟩ := Fault.map_eq_ok.1 hrun
  exact ⟨rfl, rfl, rfl⟩

/-- A limiter that gains a token each second and holds ten of them. -/
def sample : Limiter where
  spec := .tokenBucket (.ofNat 1) 10
  bucket := { period := 1000000000, capacity := 10, start := ⟨0⟩, fullAt := none }
  hints := .none
  acquired := 0
  headerUpdates := 0

end Limiter

/-- Whether limiters can reckon with the times that some headers tell. -/
def CanNote (headers : Http.Headers) (now : Instant) : Prop :=
  ∀ limiter : Limiter, ∃ next, limiter.update headers now = .ok next

namespace Limiters

variable {limiters after : Limiters} {endpoint : String} {headers? : Option Http.Headers}
  {waits : List Duration}

/-- A turn, and after it the headers of the answer if there is one. -/
def serve (limiters : Limiters) (endpoint : String) (headers? : Option Http.Headers)
    (now : Instant) : Except Fault (List Duration × Limiters) := do
  let (waits, limiters) ← limiters.acquire endpoint now
  match headers? with
  | none => pure (waits, limiters)
  | some headers => do
      let limiters ← limiters.update endpoint headers now
      pure (waits, limiters)

theorem acquire_of_some {limiter : Limiter} (hlimiter : limiters.find? endpoint = some limiter) :
    limiters.acquire endpoint now =
      (limiter.acquire now).map fun (waits, limiter) => (waits, limiters.put endpoint limiter) := by
  rw [acquire, hlimiter]

theorem update_of_some {limiter : Limiter} (hlimiter : limiters.find? endpoint = some limiter)
    (headers : Http.Headers) :
    limiters.update endpoint headers now =
      (limiter.update headers now).map fun limiter => limiters.put endpoint limiter := by
  rw [update, hlimiter]

theorem serve_of_none (hlimiter : limiters.find? endpoint = none)
    (headers? : Option Http.Headers) (now : Instant) :
    limiters.serve endpoint headers? now = .ok ([], limiters) := by
  unfold serve
  rw [acquire, hlimiter]
  cases headers? with
  | none => rfl
  | some headers =>
      change (limiters.update endpoint headers now >>= _) = _
      rw [update, hlimiter]
      rfl

theorem serve_eq_ok_of_some {limiter : Limiter} (hlimiter : limiters.find? endpoint = some limiter)
    (hrun : limiters.serve endpoint headers? now = .ok (waits, after)) :
    ∃ next, after.find? endpoint = some next ∧ next.acquired = limiter.acquired + 1 ∧
      next.headerUpdates = limiter.headerUpdates + headers?.toList.length := by
  obtain ⟨⟨turnWaits, turnedAll⟩, hacquire, hrun⟩ := Fault.bind_eq_ok.1 hrun
  rw [acquire_of_some hlimiter] at hacquire
  obtain ⟨⟨_, turned⟩, hturned, hput⟩ := Fault.map_eq_ok.1 hacquire
  obtain ⟨-, rfl⟩ := Prod.mk.inj hput
  obtain ⟨hacquired, hupdates⟩ := Limiter.acquire_eq_ok hturned
  have hfound := Table.find?_put endpoint turned limiters
  cases headers? with
  | none =>
      obtain ⟨-, rfl⟩ := Prod.mk.inj (Except.ok.inj hrun)
      exact ⟨turned, hfound, hacquired, hupdates⟩
  | some headers =>
      obtain ⟨notedAll, hupdate, hrun⟩ := Fault.bind_eq_ok.1 hrun
      rw [update_of_some hfound] at hupdate
      obtain ⟨noted, hnoted, rfl⟩ := Fault.map_eq_ok.1 hupdate
      obtain ⟨hsame, hcounted, -⟩ := Limiter.update_eq_ok hnoted
      obtain ⟨-, rfl⟩ := Prod.mk.inj (Except.ok.inj hrun)
      refine ⟨noted, Table.find?_put endpoint noted _, ?_, ?_⟩
      · rw [hsame, hacquired]
      · rw [hcounted, hupdates]
        rfl

theorem acquire_find?_of_ne {other : String} (hother : other ≠ endpoint)
    (hrun : limiters.acquire endpoint now = .ok (waits, after)) :
    after.find? other = limiters.find? other := by
  cases hlimiter : limiters.find? endpoint with
  | none =>
      rw [acquire, hlimiter] at hrun
      rw [(Prod.mk.inj (Except.ok.inj hrun)).2]
  | some limiter =>
      rw [acquire_of_some hlimiter] at hrun
      obtain ⟨⟨_, next⟩, -, hput⟩ := Fault.map_eq_ok.1 hrun
      rw [← (Prod.mk.inj hput).2, Table.find?_put_of_ne endpoint hother]

theorem update_find?_of_ne {other : String} {headers : Http.Headers} (hother : other ≠ endpoint)
    (hrun : limiters.update endpoint headers now = .ok after) :
    after.find? other = limiters.find? other := by
  cases hlimiter : limiters.find? endpoint with
  | none =>
      rw [update, hlimiter] at hrun
      rw [Except.ok.inj hrun]
  | some limiter =>
      rw [update_of_some hlimiter] at hrun
      obtain ⟨next, -, hput⟩ := Fault.map_eq_ok.1 hrun
      rw [← hput, Table.find?_put_of_ne endpoint hother]

theorem serve_find?_of_ne {other : String} (hother : other ≠ endpoint)
    (hrun : limiters.serve endpoint headers? now = .ok (waits, after)) :
    after.find? other = limiters.find? other := by
  obtain ⟨⟨turnWaits, turned⟩, hacquire, hrun⟩ := Fault.bind_eq_ok.1 hrun
  have hturned := acquire_find?_of_ne hother hacquire
  cases headers? with
  | none =>
      obtain ⟨-, rfl⟩ := Prod.mk.inj (Except.ok.inj hrun)
      exact hturned
  | some headers =>
      obtain ⟨noted, hupdate, hrun⟩ := Fault.bind_eq_ok.1 hrun
      obtain ⟨-, rfl⟩ := Prod.mk.inj (Except.ok.inj hrun)
      rw [update_find?_of_ne hother hupdate, hturned]

theorem exists_serve
    (hfits : ∀ limiter, limiters.find? endpoint = some limiter → limiter.bucket.Fits now)
    (hnote : limiters.find? endpoint ≠ none → ∀ headers, headers? = some headers →
      CanNote headers now) :
    ∃ waits after, limiters.serve endpoint headers? now = .ok (waits, after) ∧
      ∀ limiter, after.find? endpoint = some limiter → limiter.bucket.Fits now := by
  cases hlimiter : limiters.find? endpoint with
  | none => exact ⟨[], limiters, serve_of_none hlimiter headers? now, by simp [hlimiter]⟩
  | some limiter =>
      obtain ⟨waits, turned, hturned, hturnedFits⟩ :=
        Limiter.exists_acquire (hfits limiter hlimiter)
      have hfound := Table.find?_put endpoint turned limiters
      unfold serve
      rw [acquire_of_some hlimiter, hturned]
      cases headers? with
      | none =>
          refine ⟨waits, _, rfl, ?_⟩
          intro next hnext
          rw [hfound] at hnext
          exact Option.some.inj hnext ▸ hturnedFits
      | some headers =>
          obtain ⟨noted, hnoted⟩ := hnote (by simp [hlimiter]) headers rfl turned
          change ∃ _ _, (update (limiters.put endpoint turned) endpoint headers now >>= _) = _ ∧ _
          rw [update_of_some hfound, hnoted]
          refine ⟨waits, _, rfl, ?_⟩
          intro next hnext
          rw [Table.find?_put] at hnext
          rw [← Option.some.inj hnext, (Limiter.update_eq_ok hnoted).2.2]
          exact hturnedFits

end Limiters

end RateLimit

end ApiBridge
