import ApiBridge.Proofs.Binary64
import ApiBridge.Proofs.Outcome
import ApiBridge.RateLimit.Limiter

/-!
Declared rates and their buckets. A rate that is refused has no bucket. One that is not refused has
a bucket unless the time between two tokens rounds to nothing, or the time in which the bucket fills
does not fit into the 64 bits that buckets count their time in.
-/

namespace ApiBridge.RateLimit

namespace Spec

variable {spec : Spec} {start : Instant}

/-- The time between two tokens in whole nanoseconds. -/
def periodNanos (spec : Spec) : Nat := (spec.period?.getD .zero).nanoseconds

def IsTooFast (spec : Spec) : Prop := spec.periodNanos = 0

def IsTooSlow (spec : Spec) : Prop := UInt64.size ≤ spec.periodNanos * spec.capacity

instance (spec : Spec) : Decidable spec.IsTooFast := inferInstanceAs (Decidable (_ = _))

instance (spec : Spec) : Decidable spec.IsTooSlow := inferInstanceAs (Decidable (_ ≤ _))

def tooFast : Error := invalidRate "rate is too high"

theorem IsTooFast.not_isTooSlow (h : spec.IsTooFast) : ¬ spec.IsTooSlow := by
  rw [IsTooFast] at h
  simp [IsTooSlow, h, UInt64.size]

theorem validate_eq_ok :
    spec.validate = .ok () ↔
      (spec.rate.isFinite = true ∧ spec.rate.le (.zero false) = false) ∧
        spec.period?.isSome ∧ spec.burst ≠ some 0 := by
  unfold validate
  dsimp only
  split
  · next hrate => grind
  · next hrate =>
      split
      · next hperiod => simp_all
      · next hperiod => split <;> simp_all [Option.isSome_iff_ne_none]

theorem capacity_pos (hvalid : spec.validate = .ok ()) : 0 < spec.capacity := by
  obtain ⟨-, -, hburst⟩ := validate_eq_ok.1 hvalid
  unfold capacity
  cases spec.strategy with
  | leakyBucket => exact Nat.one_pos
  | tokenBucket =>
      cases hcase : spec.burst with
      | none => exact Nat.lt_of_lt_of_le Nat.one_pos (Nat.le_max_right _ _)
      | some burst =>
          rw [hcase] at hburst
          exact Nat.pos_of_ne_zero fun hzero => hburst (congrArg some hzero)

theorem negative_of_valid (hvalid : spec.validate = .ok ()) : spec.rate.negative = false := by
  obtain ⟨⟨hfinite, hpositive⟩, -, -⟩ := validate_eq_ok.1 hvalid
  have hzero : (Binary64.zero false).signedUnits = 0 := by decide +kernel
  have hnan : (Binary64.zero false).isNaN = false := by decide +kernel
  cases hnegative : spec.rate.negative with
  | false => rfl
  | true =>
      have hbelow : spec.rate.signedUnits ≤ (Binary64.zero false).signedUnits := by
        rw [hzero, Binary64.signedUnits, hnegative]
        exact Int.neg_nonpos_of_nonneg (Int.natCast_nonneg _)
      simp [Binary64.le, Binary64.isNaN_of_isFinite hfinite, hnan, hbelow] at hpositive

theorem period?_eq (hvalid : spec.validate = .ok ()) :
    spec.period? = some ⟨spec.periodNanos⟩ := by
  obtain ⟨period, hperiod⟩ := Option.isSome_iff_exists.1 (validate_eq_ok.1 hvalid).2.1
  simp [periodNanos, hperiod]

/-- Without a burst a bucket has a token for each whole one that a second brings, and for a part of
one, as far as 32 bits go, and at least one. -/
theorem capacity_le_iff (hvalid : spec.validate = .ok ()) (hstrategy : spec.strategy = .tokenBucket)
    (hburst : spec.burst = none) (tokens : Nat) :
    spec.capacity ≤ tokens ↔
      1 ≤ tokens ∧
        (spec.rate.units ≤ tokens * Binary64.unitsPerOne ∨ UInt32.size - 1 ≤ tokens) := by
  have hfinite := (validate_eq_ok.1 hvalid).1.1
  have hwhole : wholeRate spec.rate = min spec.rate.ceil.toNat (UInt32.size - 1) := by
    simp [wholeRate, hfinite, Binary64.isNaN_of_isFinite hfinite]
  rw [capacity, hstrategy, hburst]
  dsimp only
  rw [Option.getD_none, hwhole, ← Binary64.toNat_ceil_le (negative_of_valid hvalid)]
  omega

theorem bucket_of_refused {error : Error} (hrefused : spec.validate = .error error)
    (start : Instant) : spec.bucket start = .ok (.error error) := by
  rw [bucket, hrefused]

theorem bucket_of_valid (hvalid : spec.validate = .ok ()) (start : Instant) :
    spec.bucket start =
      if spec.IsTooFast then .ok (.error tooFast)
      else if spec.IsTooSlow then .error .bucketOverflow
      else
        .ok (.ok {
          period := spec.periodNanos, capacity := spec.capacity, start, fullAt := none }) := by
  obtain ⟨period, hperiod⟩ := Option.isSome_iff_exists.1 (validate_eq_ok.1 hvalid).2.1
  have hnanos : spec.periodNanos = period.nanoseconds := by simp [periodNanos, hperiod]
  have hcapacity : spec.capacity ≠ 0 := Nat.ne_of_gt (capacity_pos hvalid)
  rw [bucket, hvalid, hperiod]
  simp only [if_neg hcapacity, IsTooFast, IsTooSlow, hnanos, tooFast]

theorem bucket_eq_ok {bucket : Bucket} (hbucket : spec.bucket start = .ok (.ok bucket)) :
    spec.validate = .ok () ∧ 0 < spec.periodNanos ∧
      bucket =
        { period := spec.periodNanos, capacity := spec.capacity, start, fullAt := none } := by
  cases hvalid : spec.validate with
  | error error =>
      rw [bucket_of_refused hvalid] at hbucket
      cases Except.ok.inj hbucket
  | ok _ =>
      rw [bucket_of_valid hvalid] at hbucket
      split at hbucket
      · cases Except.ok.inj hbucket
      · next hfast =>
          split at hbucket
          · cases hbucket
          · exact ⟨rfl, Nat.pos_of_ne_zero hfast, (Except.ok.inj (Except.ok.inj hbucket)).symm⟩

end Spec

namespace Limiter

variable {spec : Spec} {start : Instant}

theorem create_of_refused {error : Error} (hrefused : spec.validate = .error error)
    (start : Instant) : create spec start = .ok (.error error) := by
  rw [create, Spec.bucket_of_refused hrefused]
  rfl

theorem create_of_isTooFast (hvalid : spec.validate = .ok ()) (hfast : spec.IsTooFast)
    (start : Instant) : create spec start = .ok (.error Spec.tooFast) := by
  rw [create, Spec.bucket_of_valid hvalid, if_pos hfast]
  rfl

theorem create_of_isTooSlow (hvalid : spec.validate = .ok ()) (hslow : spec.IsTooSlow)
    (start : Instant) : create spec start = .error .bucketOverflow := by
  rw [create, Spec.bucket_of_valid hvalid, if_neg fun hfast => hfast.not_isTooSlow hslow,
    if_pos hslow]
  rfl

theorem exists_create (hvalid : spec.validate = .ok ()) (hfast : ¬ spec.IsTooFast)
    (hslow : ¬ spec.IsTooSlow) (start : Instant) :
    ∃ limiter, create spec start = .ok (.ok limiter) ∧ limiter.spec = spec := by
  rw [create, Spec.bucket_of_valid hvalid, if_neg hfast, if_neg hslow]
  exact ⟨_, rfl, rfl⟩

theorem create_eq_ok {limiter : Limiter} (hcreate : create spec start = .ok (.ok limiter)) :
    spec.bucket start = .ok (.ok limiter.bucket) ∧ limiter.spec = spec ∧
      limiter.hints = .none ∧ limiter.acquired = 0 ∧ limiter.headerUpdates = 0 := by
  obtain ⟨outcome, hbucket, hcreate⟩ := Fault.bind_eq_ok.1 hcreate
  cases outcome with
  | error error => cases Except.ok.inj hcreate
  | ok bucket =>
      obtain rfl := Except.ok.inj (Except.ok.inj hcreate)
      exact ⟨hbucket, rfl, rfl, rfl, rfl⟩

end Limiter

end ApiBridge.RateLimit
