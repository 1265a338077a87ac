import ApiBridge.Proofs.RateLimit.Calls
import ApiBridge.Proofs.RateLimit.Spec

/-!
What a limiter lets through while the clock stands still: as many requests as its bucket holds tokens.
After them nothing is granted at once, and each turn that is waited for is one period late.
-/

namespace ApiBridge.RateLimit

variable {now : Instant}

namespace Bucket

variable {bucket : Bucket} {taken : Nat}

/-- The nanoseconds for which a bucket has been in use. -/
def elapsed (bucket : Bucket) (now : Instant) : Nat :=
  (now.nanoseconds - bucket.start.nanoseconds).toNat

/-- A full bucket after a number of tokens has been taken at one instant. -/
def without (bucket : Bucket) (now : Instant) : Nat → Bucket
  | 0 => bucket
  | taken + 1 =>
      { bucket with fullAt := some (bucket.elapsed now + bucket.period * (taken + 2)) }

/-- Whether the bucket can reckon with the time at which it is full again after one more token than a
number of them. -/
def CanGive (bucket : Bucket) (now : Instant) (taken : Nat) : Prop :=
  bucket.elapsed now + bucket.period * (taken + 2) < UInt64.size

instance (bucket : Bucket) (now : Instant) (taken : Nat) : Decidable (bucket.CanGive now taken) :=
  inferInstanceAs (Decidable (_ < _))

@[simp] theorem period_without : (bucket.without now taken).period = bucket.period := by
  cases taken <;> rfl

@[simp] theorem capacity_without : (bucket.without now taken).capacity = bucket.capacity := by
  cases taken <;> rfl

@[simp] theorem start_without : (bucket.without now taken).start = bucket.start := by
  cases taken <;> rfl

theorem fullAt_without (hfull : bucket.fullAt = none) (now : Instant) (taken : Nat) :
    (bucket.without now taken).fullAt.getD (bucket.elapsed now + bucket.period) =
      bucket.elapsed now + bucket.period * (taken + 1) := by
  cases taken with
  | zero => simp [without, hfull]
  | succ taken => rfl

theorem take_without (hfull : bucket.fullAt = none) (hperiod : 0 < bucket.period)
    (htaken : taken ≤ bucket.capacity) :
    (bucket.without now taken).take now =
      if taken = bucket.capacity then .ok (.error ⟨bucket.period⟩)
      else if bucket.CanGive now taken then .ok (.ok (bucket.without now (taken + 1)))
      else .error .bucketOverflow := by
  have hlater : max (bucket.elapsed now + bucket.period * (taken + 1)) (bucket.elapsed now) +
      bucket.period = bucket.elapsed now + bucket.period * (taken + 2) := by
    rw [Nat.max_eq_left (Nat.le_add_right _ _), Nat.add_assoc, Nat.mul_succ _ (taken + 1)]
  unfold take
  rw [period_without, capacity_without, start_without, ← elapsed]
  dsimp only
  rw [fullAt_without hfull now taken, hlater]
  by_cases hall : taken = bucket.capacity
  · -- The next token is due a period after the last one has been taken.
    subst hall
    have hdue : bucket.elapsed now + bucket.period * (bucket.capacity + 1) -
        bucket.period * bucket.capacity = bucket.elapsed now + bucket.period := by
      rw [Nat.mul_succ]
      omega
    rw [hdue, if_pos (by omega), if_pos rfl, Nat.add_sub_cancel_left]
  · have hleft : bucket.period * (taken + 1) ≤ bucket.period * bucket.capacity :=
      Nat.mul_le_mul_left _ (by omega)
    rw [if_neg (by omega), if_neg hall]
    by_cases hgive : bucket.CanGive now taken
    · rw [if_pos hgive, if_neg (Nat.not_le.2 hgive)]
      rfl
    · rw [if_neg hgive, if_pos (Nat.not_lt.1 hgive)]

end Bucket

namespace Call

def granted : Call → Answer
  | .acquire => .acquired .zero []
  | .tryAcquire => .tried true

/-- The answer of a bucket that has no token for a time. -/
def refused (wait : Duration) : Call → Answer
  | .acquire => .acquired wait [wait]
  | .tryAcquire => .tried false

/-- What a call leaves in the books of a limiter. -/
def count (limiter : Limiter) : Call → Limiter
  | .acquire => limiter.count
  | .tryAcquire => limiter

def countHints (hints : Hints) : Call → Hints
  | .acquire => { hints with remaining := hints.remaining.map (· - 1) }
  | .tryAcquire => hints

@[simp] theorem isFree_granted (call : Call) : call.granted.isFree = true := by
  cases call <;> rfl

@[simp] theorem isFree_refused (wait : Duration) (call : Call) :
    (call.refused wait).isFree = false := by
  cases call <;> rfl

end Call

namespace Limiter

variable {limiter : Limiter} {bucket : Bucket} {call : Call}

theorem answer_of_quiet (hwait : limiter.hints.wait? now = none) (call : Call) :
    limiter.answer now call = (limiter.bucket.take now).map fun
      | .ok bucket => (call.granted, call.count { limiter with bucket })
      | .error wait => (call.refused wait, call.count limiter) := by
  cases call with
  | acquire =>
      rw [answer_acquire, acquire, acquireHints, hwait]
      dsimp only
      rw [acquireBucket]
      rcases limiter.bucket.take now with fault | (wait | bucket)
      · rfl
      · change Except.ok (Answer.ofSleeps [wait], _) = _
        rw [Answer.ofSleeps, Duration.total_singleton]
        rfl
      · rfl
  | tryAcquire =>
      rw [answer, tryAcquire, hwait]
      rcases limiter.bucket.take now with fault | (wait | bucket) <;> rfl

end Limiter

/-- Whether nothing that the server said is to be waited for at any of some calls. -/
def Hints.IsQuiet (hints : Hints) (now : Instant) : List Call → Prop
  | [] => True
  | call :: later => hints.wait? now = Option.none ∧ (call.countHints hints).IsQuiet now later

theorem Hints.isQuiet_none (now : Instant) (calls : List Call) : Hints.none.IsQuiet now calls := by
  induction calls with
  | nil => trivial
  | cons call later ih =>
      cases call with
      | acquire => exact ⟨rfl, ih⟩
      | tryAcquire => exact ⟨rfl, ih⟩

/-- The answers of a bucket that still has a number of tokens. -/
def Bucket.answersWith (bucket : Bucket) (tokens : Nat) (calls : List Call) : List Answer :=
  calls.mapIdx fun position call =>
    if position < tokens then call.granted else call.refused ⟨bucket.period⟩

theorem Bucket.answersWith_cons (bucket : Bucket) (tokens : Nat) (call : Call)
    (later : List Call) :
    bucket.answersWith tokens (call :: later) =
      (if 0 < tokens then call.granted else call.refused ⟨bucket.period⟩) ::
        bucket.answersWith (tokens - 1) later := by
  unfold answersWith
  rw [List.mapIdx_cons]
  congr 2
  funext position next
  exact ite_congr (propext (by omega)) (fun _ => rfl) fun _ => rfl

theorem Bucket.countP_take_answersWith (bucket : Bucket) (tokens position : Nat)
    (calls : List Call) :
    ((bucket.answersWith tokens calls).take position).countP Answer.isFree =
      min tokens (min position calls.length) := by
  induction calls generalizing tokens position with
  | nil => simp [answersWith]
  | cons call later ih =>
      cases position with
      | zero => simp
      | succ position =>
          rw [answersWith_cons, List.take_succ_cons, List.countP_cons, ih, List.length_cons]
          split
          · rw [Call.isFree_granted, if_pos rfl]
            omega
          · rw [Call.isFree_refused, if_neg Bool.false_ne_true]
            omega

theorem Bucket.getElem?_answersWith (bucket : Bucket) (tokens : Nat) {calls : List Call}
    {position : Nat} {call : Call} (hcall : calls[position]? = some call) :
    (bucket.answersWith tokens calls)[position]? = some (
      if ((bucket.answersWith tokens calls).take position).countP Answer.isFree < tokens then
        call.granted
      else call.refused ⟨bucket.period⟩) := by
  have hposition : position < calls.length := (List.getElem?_eq_some_iff.1 hcall).1
  rw [countP_take_answersWith, answersWith, List.getElem?_mapIdx, hcall]
  refine congrArg some (ite_congr (propext ?_) (fun _ => rfl) fun _ => rfl)
  omega

namespace Limiter

variable {limiter : Limiter} {bucket : Bucket} {taken : Nat} {calls : List Call}

/-- A limiter with a full bucket of its own, of which a number of tokens has been taken. -/
structure HasTaken (limiter : Limiter) (bucket : Bucket) (now : Instant) (taken : Nat) : Prop where
  bucket_eq : limiter.bucket = bucket.without now taken
  fullAt_eq : bucket.fullAt = none
  period_pos : 0 < bucket.period
  le_capacity : taken ≤ bucket.capacity

theorem HasTaken.count_of_granted (h : limiter.HasTaken bucket now taken)
    (hleft : taken ≠ bucket.capacity) (call : Call) :
    (call.count { limiter with bucket := bucket.without now (taken + 1) }).HasTaken bucket now
      (taken + 1) := by
  have hcapacity := h.le_capacity
  exact ⟨by cases call <;> rfl, h.fullAt_eq, h.period_pos, by omega⟩

theorem HasTaken.count (h : limiter.HasTaken bucket now taken) (call : Call) :
    (call.count limiter).HasTaken bucket now taken := by
  refine ⟨?_, h.fullAt_eq, h.period_pos, h.le_capacity⟩
  rw [← h.bucket_eq]
  cases call <;> rfl

theorem hints_count (limiter : Limiter) (call : Call) :
    (call.count limiter).hints = call.countHints limiter.hints := by
  cases call <;> rfl

theorem acquired_count (limiter : Limiter) (call : Call) (later : List Call) :
    (call.count limiter).acquired + later.count .acquire =
      limiter.acquired + (call :: later).count .acquire := by
  cases call with
  | acquire =>
      rw [List.count_cons_self]
      change limiter.acquired + 1 + _ = _
      omega
  | tryAcquire => rw [List.count_cons_of_ne (by decide)]; rfl

theorem HasTaken.answer_eq (h : limiter.HasTaken bucket now taken)
    (hwait : limiter.hints.wait? now = none) (call : Call) :
    limiter.answer now call =
      if taken = bucket.capacity then .ok (call.refused ⟨bucket.period⟩, call.count limiter)
      else if bucket.CanGive now taken then
        .ok (call.granted, call.count { limiter with bucket := bucket.without now (taken + 1) })
      else .error .bucketOverflow := by
  rw [answer_of_quiet hwait, h.bucket_eq,
    Bucket.take_without h.fullAt_eq h.period_pos h.le_capacity]
  split
  · rfl
  · split <;> rfl

theorem HasTaken.answers_eq (h : limiter.HasTaken bucket now taken)
    (hquiet : limiter.hints.IsQuiet now calls)
    (hgive : ∀ count, taken ≤ count → count < min (taken + calls.length) bucket.capacity →
      bucket.CanGive now count) :
    ∃ last, limiter.answers now calls =
        .ok (bucket.answersWith (bucket.capacity - taken) calls, last) ∧
      last.acquired = limiter.acquired + calls.count .acquire := by
  -- `HasTaken` goes along with the calls, with one more token for each that is granted.
  induction calls generalizing limiter taken with
  | nil => exact ⟨limiter, rfl, rfl⟩
  | cons call later ih =>
      obtain ⟨hwait, hlater⟩ := hquiet
      have hcapacity := h.le_capacity
      rw [List.length_cons] at hgive
      rw [Bucket.answersWith_cons]
      by_cases hall : taken = bucket.capacity
      · have hanswer := h.answer_eq hwait call
        rw [if_pos hall] at hanswer
        obtain ⟨last, hrun, hacquired⟩ := ih (h.count call) (hints_count limiter call ▸ hlater)
          fun count hcount hbelow => by omega
        refine ⟨last, ?_, hacquired.trans (acquired_count limiter call later)⟩
        rw [answers_cons hanswer, hrun, if_neg (by omega), hall, Nat.sub_self]
        rfl
      · have hanswer := h.answer_eq hwait call
        rw [if_neg hall, if_pos (hgive taken (Nat.le_refl _) (by omega))] at hanswer
        have hquiet : (call.count { limiter with
            bucket := bucket.without now (taken + 1) }).hints.IsQuiet now later := by
          rw [hints_count]
          exact hlater
        obtain ⟨last, hrun, hacquired⟩ := ih (h.count_of_granted hall call) hquiet
          fun count hcount hbelow => hgive count (by omega) (by omega)
        refine ⟨last, ?_, hacquired.trans (acquired_count _ call later)⟩
        rw [answers_cons hanswer, hrun, if_pos (by omega)]
        rfl

theorem HasTaken.canGive_of_answers (h : limiter.HasTaken bucket now taken)
    (hquiet : limiter.hints.IsQuiet now calls)
    (hrun : ∃ result, limiter.answers now calls = .ok result) {count : Nat} (hcount : taken ≤ count)
    (hbelow : count < min (taken + calls.length) bucket.capacity) : bucket.CanGive now count := by
  induction calls generalizing limiter taken with
  | nil =>
      rw [List.length_nil] at hbelow
      omega
  | cons call later ih =>
      obtain ⟨hwait, hlater⟩ := hquiet
      obtain ⟨result, hrun⟩ := hrun
      obtain ⟨answer, next, rest, hanswer, hrest⟩ := answers_cons_eq_ok hrun
      have hcapacity := h.le_capacity
      rw [List.length_cons] at hbelow
      rw [h.answer_eq hwait, if_neg (by omega)] at hanswer
      by_cases hgive : bucket.CanGive now taken
      · rw [if_pos hgive] at hanswer
        obtain ⟨-, rfl⟩ := Prod.mk.inj (Except.ok.inj hanswer)
        rcases Nat.eq_or_lt_of_le hcount with rfl | hmore
        · exact hgive
        · refine ih (h.count_of_granted (by omega) call) ?_ ⟨rest, hrest⟩ hmore (by omega)
          rw [hints_count]
          exact hlater
      · rw [if_neg hgive] at hanswer
        cases hanswer

theorem hasTaken_of_create {spec : Spec} {start : Instant} {created : Limiter}
    (hcreate : create spec start = .ok (.ok created)) (hbucket : limiter.bucket = created.bucket)
    (now : Instant) : limiter.HasTaken created.bucket now 0 := by
  obtain ⟨-, hperiod, hmade⟩ := Spec.bucket_eq_ok (create_eq_ok hcreate).1
  refine ⟨hbucket, ?_, ?_, Nat.zero_le _⟩
  · rw [hmade]
  · rw [hmade]
    exact hperiod

/-- What a limiter lets through while the clock stands still and nothing that the server said is to be
waited for. Its bucket holds one token if it leaks, and else its burst or enough for a second. Calls
come to an answer as long as the bucket can reckon with the time of the last token taken. A call is
granted without waiting just if fewer calls before it have been than the bucket holds tokens; any
other is refused, or sleeps once, for the time between two tokens. Each turn that is acquired counts,
and none that is asked for at once. The steps of other endpoints among the calls change none of
this. -/
theorem answers_of_create {spec : Spec} {start : Instant} {created : Limiter}
    (hcreate : create spec start = .ok (.ok created)) (hbucket : limiter.bucket = created.bucket)
    (hquiet : limiter.hints.IsQuiet now calls) :
    (spec.strategy = .leakyBucket → spec.capacity = 1) ∧
    (spec.strategy = .tokenBucket → ∀ burst, spec.burst = some burst → spec.capacity = burst) ∧
    (spec.strategy = .tokenBucket → spec.burst = none → ∀ tokens,
      (spec.capacity ≤ tokens ↔
        1 ≤ tokens ∧
          (spec.rate.units ≤ tokens * Binary64.unitsPerOne ∨ UInt32.size - 1 ≤ tokens))) ∧
    Duration.ofSeconds? ((Binary64.ofNat 1).div spec.rate) = some ⟨spec.periodNanos⟩ ∧
    ((∃ result, limiter.answers now calls = .ok result) ↔
      ∀ count < min calls.length spec.capacity, created.bucket.CanGive now count) ∧
    (∀ answers last, limiter.answers now calls = .ok (answers, last) →
      last.acquired = limiter.acquired + calls.count .acquire ∧
      answers.length = calls.length ∧
      ∀ position call, calls[position]? = some call →
        answers[position]? = some (
          if (answers.take position).countP Answer.isFree < spec.capacity then call.granted
          else call.refused ⟨spec.periodNanos⟩)) ∧
    (∀ endpoint steps, Among endpoint calls steps → ∀ (limiters after : Limiters) told,
      limiters.find? endpoint = some limiter → limiters.run now steps = .ok (told, after) →
      ∃ last, limiter.answers now calls = .ok (Limiters.answersOf endpoint told, last) ∧
        after.find? endpoint = some last ∧
        ∀ call, after.perform now (.call endpoint call) =
          (last.answer now call).map fun (answer, next) =>
            (some answer, after.put endpoint next)) := by
  obtain ⟨hvalid, -, hmade⟩ := Spec.bucket_eq_ok (create_eq_ok hcreate).1
  have htaken := hasTaken_of_create hcreate hbucket now
  have hcapacity : created.bucket.capacity = spec.capacity := by rw [hmade]
  have hperiod : created.bucket.period = spec.periodNanos := by rw [hmade]
  have hanswers (hgive : ∀ count < min calls.length spec.capacity,
      created.bucket.CanGive now count) : ∃ last, limiter.answers now calls =
        .ok (created.bucket.answersWith spec.capacity calls, last) ∧
      last.acquired = limiter.acquired + calls.count .acquire := by
    have hall := htaken.answers_eq hquiet fun count _ hcount =>
      hgive count (by rwa [Nat.zero_add, hcapacity] at hcount)
    rwa [Nat.sub_zero, hcapacity] at hall
  have hgives : (∃ result, limiter.answers now calls = .ok result) →
      ∀ count < min calls.length spec.capacity, created.bucket.CanGive now count := by
    intro hrun count hcount
    refine htaken.canGive_of_answers hquiet hrun (Nat.zero_le count) ?_
    rwa [Nat.zero_add, hcapacity]
  refine ⟨?_, ?_, ?_, Spec.period?_eq hvalid, ⟨hgives, ?_⟩, ?_, ?_⟩
  · intro hstrategy
    rw [Spec.capacity, hstrategy]
  · intro hstrategy burst hburst
    rw [Spec.capacity, hstrategy, hburst]
    rfl
  · exact Spec.capacity_le_iff hvalid
  · intro hgive
    obtain ⟨last, hrun, -⟩ := hanswers hgive
    exact ⟨_, hrun⟩
  · intro answers last hrun
    obtain ⟨ended, hall, hacquired⟩ := hanswers (hgives ⟨_, hrun⟩)
    obtain ⟨rfl, rfl⟩ := Prod.mk.inj (Except.ok.inj (hrun.symm.trans hall))
    refine ⟨hacquired, List.length_mapIdx, ?_⟩
    intro position call hcall
    rw [created.bucket.getElem?_answersWith spec.capacity hcall, hperiod]
  · intro endpoint steps hamong limiters after told hlimiter hrun
    obtain ⟨last, halone, hfound⟩ := Limiters.run_of_among hamong hlimiter hrun
    exact ⟨last, halone, hfound, Limiters.perform_call hfound⟩

/-- A limiter that gains a token each half second and holds one. -/
def leaky : Limiter where
  spec := .leakyBucket (.ofNat 2)
  bucket := { period := 500000000, capacity := 1, start := ⟨0⟩, fullAt := none }
  hints := .none
  acquired := 0
  headerUpdates := 0

theorem answers_of_create_leaky :
    create (.leakyBucket (.ofNat 2)) ⟨0⟩ = .ok (.ok leaky) ∧
      ∃ last, leaky.answers ⟨0⟩ [.tryAcquire, .acquire, .tryAcquire] =
          .ok ([.tried true, .acquired ⟨500000000⟩ [⟨500000000⟩], .tried false], last) ∧
        last.acquired = 1 := by
  have hcreate : create (.leakyBucket (.ofNat 2)) ⟨0⟩ = .ok (.ok leaky) := by
    have htest : (create (.leakyBucket (.ofNat 2)) ⟨0⟩).toOption.any
        (fun made => made.toOption.any (· == leaky)) = true := by decide +kernel
    obtain ⟨made, hmade, htest⟩ := exists_of_any htest
    obtain ⟨limiter, rfl, hsame⟩ := exists_of_any htest
    rw [hmade, eq_of_beq hsame]
  obtain ⟨-, -, -, -, hends, hall, -⟩ := answers_of_create hcreate rfl
    (Hints.isQuiet_none ⟨0⟩ [.tryAcquire, .acquire, .tryAcquire])
  obtain ⟨⟨answers, last⟩, hrun⟩ := hends.2 (by decide +kernel)
  obtain ⟨hacquired, hlength, hposition⟩ := hall answers last hrun
  have hperiod : (Spec.leakyBucket (.ofNat 2)).periodNanos = 500000000 := by decide +kernel
  rw [hperiod] at hposition
  obtain ⟨first, second, third, rfl⟩ :
      ∃ first second third, answers = [first, second, third] := by
    match answers, hlength with
    | [first, second, third], _ => exact ⟨first, second, third, rfl⟩
  obtain rfl : first = .tried true := Option.some.inj (hposition 0 .tryAcquire rfl)
  obtain rfl : second = .acquired ⟨500000000⟩ [⟨500000000⟩] :=
    Option.some.inj (hposition 1 .acquire rfl)
  obtain rfl : third = .tried false := Option.some.inj (hposition 2 .tryAcquire rfl)
  exact ⟨hcreate, last, hrun, hacquired⟩

end Limiter

end ApiBridge.RateLimit
