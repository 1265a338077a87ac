import ApiBridge.Proofs.RateLimit.Limiter

/-!
Turns on a clock that is read again after each sleep, and turns that can be had at once. On a clock
that stands still a turn is what acquiring gives, and a turn is granted at once just where it would be
had without any sleep.
-/

namespace ApiBridge

/-- The time of some sleeps together. -/
def Duration.total (sleeps : List Duration) : Duration := sleeps.foldl Duration.add .zero

theorem Duration.total_singleton (sleep : Duration) : total [sleep] = sleep := by
  simp [total, add, zero]

namespace RateLimit

/-- What a clock shows after a sleep that has begun at an instant. -/
abbrev Sleeper := Instant → Duration → Instant

/-- Sleeps that are noted and not slept. -/
def standing : Sleeper := fun now _ => now

/-- A turn that has been waited for: the time that is told for it, the sleeps, and the limiter after
them. -/
structure Awaited where
  waited : Duration
  sleeps : List Duration
  after : Limiter
  deriving DecidableEq

namespace Awaited

def sleep (awaited : Awaited) (wait : Duration) : Awaited :=
  { awaited with waited := awaited.waited.add wait, sleeps := awaited.sleeps ++ [wait] }

def withBucket (awaited : Awaited) (bucket : Bucket) : Awaited :=
  { awaited with after := { awaited.after with bucket } }

end Awaited

namespace Limiter

variable {limiter next : Limiter} {now : Instant} {sleeper : Sleeper} {awaited : Awaited}

/-- Sleeps for what the server has said. -/
def awaitHints (limiter : Limiter) (sleeper : Sleeper) (now : Instant) : Awaited × Instant :=
  match limiter.hints.wait? now with
  | some wait =>
      (Awaited.sleep ⟨.zero, [], { limiter with hints := limiter.hints.served }⟩ wait,
        sleeper now wait)
  | none => (⟨.zero, [], limiter⟩, now)

/-- Takes a token, or sleeps until one is due and then takes it. If the bucket still has none, the
turn goes on without a token. -/
def awaitToken (awaited : Awaited) (sleeper : Sleeper) (now : Instant) : Except Fault Awaited := do
  match ← awaited.after.bucket.take now with
  | .ok bucket => pure (awaited.withBucket bucket)
  | .error wait =>
      match ← awaited.after.bucket.take (sleeper now wait) with
      | .ok bucket => pure ((awaited.sleep wait).withBucket bucket)
      | .error _ => pure (awaited.sleep wait)

/-- Lets one request through, with its sleeps served one after the other. -/
def await (limiter : Limiter) (sleeper : Sleeper) (now : Instant) : Except Fault Awaited := do
  let (awaited, now) := limiter.awaitHints sleeper now
  let awaited ← awaitToken awaited sleeper now
  pure { awaited with after := awaited.after.count }

theorem awaitToken_standing (awaited : Awaited) (now : Instant) :
    awaitToken awaited standing now =
      (awaited.after.acquireBucket now).map fun (waits, after) =>
        ⟨waits.foldl Duration.add awaited.waited, awaited.sleeps ++ waits, after⟩ := by
  unfold awaitToken acquireBucket
  cases htake : awaited.after.bucket.take now with
  | error fault => rfl
  | ok outcome =>
      cases outcome with
      | ok bucket =>
          change _ = Except.ok (Awaited.mk _ (awaited.sleeps ++ []) _)
          rw [List.append_nil]
          rfl
      | error wait =>
          change (awaited.after.bucket.take now >>= _) = _
          rw [htake]
          rfl

theorem awaitHints_standing (limiter : Limiter) (now : Instant) :
    limiter.awaitHints standing now =
      (⟨.total (limiter.acquireHints now).1, (limiter.acquireHints now).1,
        (limiter.acquireHints now).2⟩, now) := by
  unfold awaitHints acquireHints
  cases limiter.hints.wait? now <;> rfl

/-- On a clock that stands still a turn is what acquiring gives, and the time told for it is that of
its sleeps. -/
theorem await_standing (limiter : Limiter) (now : Instant) :
    limiter.await standing now =
      (limiter.acquire now).map fun (sleeps, after) => ⟨.total sleeps, sleeps, after⟩ := by
  rw [await, awaitHints_standing, acquire]
  rcases limiter.acquireHints now with ⟨hintSleeps, served⟩
  dsimp only
  rw [awaitToken_standing]
  dsimp only
  cases served.acquireBucket now with
  | error fault => rfl
  | ok token =>
      change Except.ok (Awaited.mk (token.1.foldl Duration.add (.total hintSleeps)) _ _) =
        Except.ok (Awaited.mk (.total (hintSleeps ++ token.1)) _ _)
      rw [Duration.total, Duration.total, List.foldl_append]

/-- Whether a turn can be had without any sleep, and the bucket after it: nothing that the server
said is to be waited for, and the bucket has a token. -/
structure IsFree (limiter : Limiter) (now : Instant) (bucket : Bucket) : Prop where
  wait?_eq : limiter.hints.wait? now = none
  take_eq : limiter.bucket.take now = .ok (.ok bucket)

theorem sleeps_of_awaitToken {served : Awaited} (hrun : awaitToken awaited sleeper now = .ok served) :
    (∃ bucket, awaited.after.bucket.take now = .ok (.ok bucket) ∧ served.sleeps = awaited.sleeps) ∨
      ∃ wait, awaited.after.bucket.take now = .ok (.error wait) ∧
        served.sleeps = awaited.sleeps ++ [wait] := by
  obtain ⟨outcome, htake, hrun⟩ := Fault.bind_eq_ok.1 hrun
  cases outcome with
  | ok bucket =>
      obtain rfl := Except.ok.inj hrun
      exact .inl ⟨bucket, htake, rfl⟩
  | error wait =>
      obtain ⟨again, -, hrun⟩ := Fault.bind_eq_ok.1 hrun
      refine .inr ⟨wait, htake, ?_⟩
      cases again <;> obtain rfl := Except.ok.inj hrun <;> rfl

theorem await_of_isFree {bucket : Bucket} (h : limiter.IsFree now bucket) (sleeper : Sleeper) :
    limiter.await sleeper now = .ok ⟨.zero, [], count { limiter with bucket }⟩ := by
  rw [await, awaitHints, h.wait?_eq]
  dsimp only
  rw [awaitToken, h.take_eq]
  rfl

theorem await_free_iff (sleeper : Sleeper) :
    (∃ awaited, limiter.await sleeper now = .ok awaited ∧ awaited.sleeps = []) ↔
      ∃ bucket, limiter.IsFree now bucket := by
  constructor
  · rintro ⟨awaited, hrun, hsleeps⟩
    rw [await, awaitHints] at hrun
    cases hwait : limiter.hints.wait? now with
    | some wait =>
        rw [hwait] at hrun
        obtain ⟨served, htoken, hserved⟩ := Fault.bind_eq_ok.1 hrun
        obtain rfl := Except.ok.inj hserved
        rcases sleeps_of_awaitToken htoken with ⟨bucket, -, hslept⟩ | ⟨again, -, hslept⟩ <;>
          cases hslept.symm.trans hsleeps
    | none =>
        rw [hwait] at hrun
        obtain ⟨served, htoken, hserved⟩ := Fault.bind_eq_ok.1 hrun
        obtain rfl := Except.ok.inj hserved
        rcases sleeps_of_awaitToken htoken with ⟨bucket, htake, -⟩ | ⟨wait, -, hslept⟩
        · exact ⟨bucket, hwait, htake⟩
        · cases hslept.symm.trans hsleeps
  · rintro ⟨bucket, hfree⟩
    exact ⟨_, await_of_isFree hfree sleeper, rfl⟩

theorem await_of_fault {fault : Fault} (hwait : limiter.hints.wait? now = none)
    (htake : limiter.bucket.take now = .error fault) (sleeper : Sleeper) :
    limiter.await sleeper now = .error fault := by
  rw [await, awaitHints, hwait]
  dsimp only
  rw [awaitToken, htake]
  rfl

theorem tryAcquire_of_isFree {bucket : Bucket} (h : limiter.IsFree now bucket) :
    limiter.tryAcquire now = .ok (true, { limiter with bucket }) := by
  rw [tryAcquire, h.wait?_eq, h.take_eq]
  rfl

theorem tryAcquire_cases (limiter : Limiter) (now : Instant) :
    (∃ bucket, limiter.IsFree now bucket ∧
        limiter.tryAcquire now = .ok (true, { limiter with bucket })) ∨
      limiter.tryAcquire now = .ok (false, limiter) ∨
      ∃ fault, limiter.tryAcquire now = .error fault ∧ limiter.hints.wait? now = none ∧
        limiter.bucket.take now = .error fault := by
  cases hwait : limiter.hints.wait? now with
  | some wait =>
      rw [tryAcquire, hwait]
      exact .inr (.inl rfl)
  | none =>
      cases htake : limiter.bucket.take now with
      | error fault =>
          rw [tryAcquire, hwait, htake]
          exact .inr (.inr ⟨fault, rfl, rfl, rfl⟩)
      | ok outcome =>
          cases outcome with
          | ok bucket =>
              exact .inl ⟨bucket, ⟨hwait, htake⟩, tryAcquire_of_isFree ⟨hwait, htake⟩⟩
          | error wait =>
              rw [tryAcquire, hwait, htake]
              exact .inr (.inl rfl)

theorem tryAcquire_eq_true (hrun : limiter.tryAcquire now = .ok (true, next)) :
    ∃ bucket, limiter.IsFree now bucket ∧ next = { limiter with bucket } := by
  rcases limiter.tryAcquire_cases now with ⟨bucket, hfree, htry⟩ | htry | ⟨fault, htry, -⟩
  · exact ⟨bucket, hfree, (Prod.mk.inj (Except.ok.inj (hrun.symm.trans htry))).2⟩
  · cases hrun.symm.trans htry
  · cases hrun.symm.trans htry

theorem tryAcquire_eq_false (hrun : limiter.tryAcquire now = .ok (false, next)) :
    next = limiter := by
  rcases limiter.tryAcquire_cases now with ⟨bucket, -, htry⟩ | htry | ⟨fault, htry, -⟩
  · cases hrun.symm.trans htry
  · exact (Prod.mk.inj (Except.ok.inj (hrun.symm.trans htry))).2
  · cases hrun.symm.trans htry

theorem tryAcquire_eq_error {fault : Fault} (hrun : limiter.tryAcquire now = .error fault) :
    limiter.hints.wait? now = none ∧ limiter.bucket.take now = .error fault := by
  rcases limiter.tryAcquire_cases now with ⟨bucket, -, htry⟩ | htry | ⟨other, htry, hwait, htake⟩
  · cases hrun.symm.trans htry
  · cases hrun.symm.trans htry
  · obtain rfl := Except.error.inj (hrun.symm.trans htry)
    exact ⟨hwait, htake⟩

theorem exists_tryAcquire (hfits : limiter.bucket.Fits now) :
    ∃ result, limiter.tryAcquire now = .ok result := by
  cases hrun : limiter.tryAcquire now with
  | ok result => exact ⟨result, rfl⟩
  | error fault =>
      obtain ⟨outcome, htake⟩ := Bucket.exists_take hfits
      cases (tryAcquire_eq_error hrun).2.symm.trans htake

/-- A turn is granted at once just where one that is waited for would be had without any sleep,
whatever a sleep does to the clock. Then the bucket is left as that turn leaves it, and nothing else
changes; if no turn is granted, nothing changes at all. -/
theorem tryAcquire_iff_await (limiter : Limiter) (now : Instant) :
    (limiter.await standing now =
      (limiter.acquire now).map fun (sleeps, after) => ⟨.total sleeps, sleeps, after⟩) ∧
    (∀ sleeper, (∃ next, limiter.tryAcquire now = .ok (true, next)) ↔
      ∃ awaited, limiter.await sleeper now = .ok awaited ∧ awaited.sleeps = []) ∧
    (∀ next, limiter.tryAcquire now = .ok (false, next) → next = limiter) ∧
    (∀ sleeper next, limiter.tryAcquire now = .ok (true, next) →
      ∃ awaited, limiter.await sleeper now = .ok awaited ∧
        next = { limiter with bucket := awaited.after.bucket }) ∧
    (∀ sleeper fault, limiter.tryAcquire now = .error fault →
      limiter.await sleeper now = .error fault) ∧
    (limiter.bucket.Fits now → ∃ result, limiter.tryAcquire now = .ok result) := by
  refine ⟨await_standing limiter now, ?_, fun _ => tryAcquire_eq_false, ?_, ?_, exists_tryAcquire⟩
  · intro sleeper
    rw [await_free_iff]
    constructor
    · rintro ⟨next, hrun⟩
      obtain ⟨bucket, hfree, -⟩ := tryAcquire_eq_true hrun
      exact ⟨bucket, hfree⟩
    · rintro ⟨bucket, hfree⟩
      exact ⟨_, tryAcquire_of_isFree hfree⟩
  · intro sleeper next hrun
    obtain ⟨bucket, hfree, rfl⟩ := tryAcquire_eq_true hrun
    exact ⟨_, await_of_isFree hfree sleeper, rfl⟩
  · intro sleeper fault hrun
    obtain ⟨hwait, htake⟩ := tryAcquire_eq_error hrun
    exact await_of_fault hwait htake sleeper

end Limiter

end RateLimit

end ApiBridge
