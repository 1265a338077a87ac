import ApiBridge.Proofs.Binary64
import ApiBridge.Proofs.RateLimit.Limiter

/-!
What a limiter makes of the times that the server tells it. A time to wait becomes an instant, and
there are more times to wait than instants: up to some number of seconds it is kept to, further on
the calendar ends, and still further on nothing is waited for.
-/

namespace ApiBridge

namespace Instant

variable {now : Instant} {d : Duration}

/-- Whether the calendar goes on for so long. -/
def Reaches (now : Instant) (d : Duration) : Prop :=
  now.nanoseconds + d.nanoseconds ≤ last.nanoseconds

theorem plus_of_reaches (h : now.Reaches d) :
    now.plus d = .ok ⟨now.nanoseconds + d.nanoseconds⟩ := if_pos h

theorem plus_of_not_reaches (h : ¬ now.Reaches d) : now.plus d = .error .instantOverflow := if_neg h

end Instant

namespace RateLimit

open Hints hiding none

variable {headers : Http.Headers} {now : Instant}

namespace Advice

/-- The time until the reset that a number of seconds tells, unless it is counted from 1970. -/
def resetDelay (seconds : Binary64) : Duration :=
  .ofMillis ((seconds.mul (.ofNat 1000)).clamp Int64.minValue.toInt Int64.maxValue.toInt).toNat

/-- The time that the `Retry-After` header asks to wait. -/
def pause? (headers : Http.Headers) (now : Instant) : Option Duration :=
  (Http.Header.text? headers "retry-after").bind fun value => retryTime? value now

/-- Whether the reset that some headers tell is an instant of the calendar. -/
def CanReset (headers : Http.Headers) (now : Instant) : Prop :=
  ∀ seconds, firstNumber? headers (headerNames "reset") = some seconds →
    epochThreshold.le seconds = false → now.Reaches (resetDelay seconds)

theorem resetInstant_cases (seconds : Binary64) (now : Instant) :
    (∃ reset?, resetInstant seconds now = .ok reset?) ∧
        (epochThreshold.le seconds = false → now.Reaches (resetDelay seconds)) ∨
      resetInstant seconds now = .error .instantOverflow ∧ epochThreshold.le seconds = false ∧
        ¬ now.Reaches (resetDelay seconds) := by
  unfold resetInstant
  cases hepoch : epochThreshold.le seconds with
  | true => exact .inl ⟨⟨_, rfl⟩, by simp⟩
  | false =>
      change (∃ _, (now.plus (resetDelay seconds)).map some = _) ∧ _ ∨
        (now.plus (resetDelay seconds)).map some = _ ∧ _
      by_cases hreaches : now.Reaches (resetDelay seconds)
      · rw [Instant.plus_of_reaches hreaches]
        exact .inl ⟨⟨_, rfl⟩, fun _ => hreaches⟩
      · rw [Instant.plus_of_not_reaches hreaches]
        exact .inr ⟨rfl, rfl, hreaches⟩

theorem units_le_of_not_epoch {seconds : Binary64} (hfinite : seconds.isFinite = true)
    (hpositive : Binary64.le (.zero false) seconds = true)
    (hepoch : epochThreshold.le seconds = false) :
    seconds.units ≤ 1000000000 * Binary64.unitsPerOne := by
  have hthreshold : epochThreshold.isNaN = false ∧
      epochThreshold.signedUnits = (1000000000 * Binary64.unitsPerOne : Nat) := by
    decide +kernel
  have hzero : (Binary64.zero false).signedUnits = 0 := by decide +kernel
  have hnumber := Binary64.isNaN_of_isFinite hfinite
  obtain ⟨hthresholdNumber, hthresholdUnits⟩ := hthreshold
  simp only [Binary64.le, hnumber, hthresholdNumber, hthresholdUnits, Bool.not_false, Bool.and_self,
    Bool.true_and, decide_eq_false_iff_not, Int.not_le] at hepoch
  simp only [Binary64.le, hnumber, hzero, Bool.not_false, Bool.and_true, Bool.and_eq_true,
    decide_eq_true_eq] at hpositive
  unfold Binary64.signedUnits at hepoch hpositive
  simp only [hfinite, if_true] at hepoch hpositive
  generalize Binary64.unitsPerOne = one at *
  split at hepoch
  · next hnegative =>
      rw [if_pos hnegative] at hpositive
      omega
  · omega

theorem resetDelay_le {seconds : Binary64} (hfinite : seconds.isFinite = true)
    (hpositive : Binary64.le (.zero false) seconds = true)
    (hepoch : epochThreshold.le seconds = false) :
    (resetDelay seconds).nanoseconds ≤ (Duration.ofSeconds 1000000000).nanoseconds := by
  have hthousand : (Binary64.ofNat 1000).isFinite = true ∧
      (Binary64.ofNat 1000).units ≤ 1000 * Binary64.unitsPerOne := by
    decide +kernel
  obtain ⟨hmillis, hbound, -⟩ := Binary64.mul_le hfinite hthousand.1
    (units_le_of_not_epoch hfinite hpositive hepoch) hthousand.2 (by decide)
  have hclamp := Binary64.toNat_clamp_le hmillis (by decide : Int64.minValue.toInt ≤ 0)
    hbound Int64.maxValue.toInt
  simp only [resetDelay, Duration.ofMillis, Duration.ofSeconds, Duration.nanosPerSecond]
  omega

theorem canReset_of_reaches (hreaches : now.Reaches (.ofSeconds 1000000000))
    (headers : Http.Headers) : CanReset headers now := by
  intro seconds hseconds hepoch
  obtain ⟨-, hfilter⟩ := Option.filter_eq_some_iff.1 hseconds
  rw [Bool.and_eq_true] at hfilter
  have hdelay := resetDelay_le hfilter.1 hfilter.2 hepoch
  unfold Instant.Reaches at *
  omega

theorem parse_cases (headers : Http.Headers) (now : Instant) :
    (∃ advice, parse headers now = .ok advice ∧ advice.retryAfter = pause? headers now) ∧
        CanReset headers now ∨
      parse headers now = .error .instantOverflow ∧ ¬ CanReset headers now := by
  unfold parse CanReset
  cases hreset : firstNumber? headers (headerNames "reset") with
  | none => exact .inl ⟨⟨_, rfl, rfl⟩, by simp⟩
  | some seconds =>
      rcases resetInstant_cases seconds now with ⟨⟨reset?, hinstant⟩, hreaches⟩ |
        ⟨hfault, hepoch, hshort⟩
      · refine .inl ⟨?_, by simpa using hreaches⟩
        dsimp only
        rw [hinstant]
        exact ⟨_, rfl, rfl⟩
      · refine .inr ⟨?_, fun hreaches => hshort (hreaches seconds rfl hepoch)⟩
        dsimp only
        rw [hfault]
        rfl

end Advice

namespace Hints

/-- The end of a pause that begins now, which is noted if it is not too long. -/
def blockAfter (hints : Hints) (pause? : Option Duration) (now : Instant) : Option Instant :=
  match pause? with
  | some pause =>
      if pause.seconds ≤ maxBlockSeconds then some ⟨now.nanoseconds + pause.nanoseconds⟩
      else Option.none
  | Option.none => hints.blockedUntil

/-- Whether the end of a pause is an instant of the calendar, if it is to be noted. -/
def CanBlock (pause? : Option Duration) (now : Instant) : Prop :=
  ∀ pause, pause? = some pause → pause.seconds ≤ maxBlockSeconds → now.Reaches pause

theorem update_cases (hints : Hints) (advice : Advice) (now : Instant) :
    (∃ next, hints.update advice now = .ok next ∧
      next.blockedUntil = hints.blockAfter advice.retryAfter now) ∧
        CanBlock advice.retryAfter now ∨
      hints.update advice now = .error .instantOverflow ∧ ¬ CanBlock advice.retryAfter now := by
  unfold update blockAfter CanBlock
  cases advice.retryAfter with
  | none => exact .inl ⟨⟨_, rfl, rfl⟩, by simp⟩
  | some pause =>
      dsimp only
      by_cases hbound : pause.seconds ≤ maxBlockSeconds
      · rw [if_pos hbound, if_pos hbound]
        by_cases hreaches : now.Reaches pause
        · rw [Instant.plus_of_reaches hreaches]
          exact .inl ⟨⟨_, rfl, rfl⟩, by simpa using fun _ => hreaches⟩
        · rw [Instant.plus_of_not_reaches hreaches]
          exact .inr ⟨rfl, fun hall => hreaches (hall pause rfl hbound)⟩
      · rw [if_neg hbound, if_neg hbound]
        exact .inl ⟨⟨_, rfl, rfl⟩, by simp [hbound]⟩

end Hints

namespace Limiter

variable {limiter next : Limiter}

/-- Headers are noted unless the calendar ends before what they tell. -/
theorem update_cases (limiter : Limiter) (headers : Http.Headers) (now : Instant) :
    (∃ next, limiter.update headers now = .ok next ∧
      next.hints.blockedUntil = limiter.hints.blockAfter (Advice.pause? headers now) now) ∧
        Advice.CanReset headers now ∧ CanBlock (Advice.pause? headers now) now ∨
      limiter.update headers now = .error .instantOverflow ∧
        ¬ (Advice.CanReset headers now ∧ CanBlock (Advice.pause? headers now) now) := by
  rcases Advice.parse_cases headers now with ⟨⟨advice, hadvice, hpause⟩, hreset⟩ | ⟨hfault, hreset⟩
  · rw [update_of_advice hadvice, ← hpause]
    rcases limiter.hints.update_cases advice now with ⟨⟨hints, hhints, hblock⟩, hcan⟩ |
      ⟨hfault, hcannot⟩
    · rw [hhints]
      exact .inl ⟨⟨_, rfl, hblock⟩, hreset, hcan⟩
    · rw [hfault]
      exact .inr ⟨rfl, fun hboth => hcannot hboth.2⟩
  · rw [update, hfault]
    exact .inr ⟨rfl, fun hboth => hreset hboth.1⟩

theorem exists_update_iff :
    (∃ next, limiter.update headers now = .ok next) ↔
      Advice.CanReset headers now ∧ CanBlock (Advice.pause? headers now) now := by
  rcases limiter.update_cases headers now with ⟨⟨next, hnext, -⟩, hcan⟩ | ⟨hfault, hcannot⟩
  · exact iff_of_true ⟨next, hnext⟩ hcan
  · exact iff_of_false (by simp [hfault]) hcannot

theorem eq_instantOverflow_of_update {fault : Fault}
    (hupdate : limiter.update headers now = .error fault) : fault = .instantOverflow := by
  rcases limiter.update_cases headers now with ⟨⟨next, hnext, -⟩, -⟩ | ⟨hfault, -⟩
  · simp [hnext] at hupdate
  · rw [hfault] at hupdate
    exact (Except.error.inj hupdate).symm

theorem blockedUntil_of_update (hupdate : limiter.update headers now = .ok next) :
    next.hints.blockedUntil = limiter.hints.blockAfter (Advice.pause? headers now) now := by
  rcases limiter.update_cases headers now with ⟨⟨noted, hnoted, hblock⟩, -⟩ | ⟨hfault, -⟩
  · rw [hnoted] at hupdate
    obtain rfl := Except.ok.inj hupdate
    exact hblock
  · simp [hfault] at hupdate

end Limiter

theorem Advice.pause?_of_seconds {text : String} {seconds : Nat}
    (htext : Http.Header.text? headers "retry-after" = some text)
    (hseconds : Numeral.natural? UInt64.size text = some seconds) (now : Instant) :
    pause? headers now = some (.ofSeconds seconds) := by
  rw [pause?, htext, Option.bind_some, retryTime?, hseconds]

theorem seconds_ofSeconds (seconds : Nat) : (Duration.ofSeconds seconds).seconds = seconds :=
  Nat.mul_div_cancel _ (by decide)

namespace Hints

variable {hints : Hints} {seconds : Nat}

theorem untilOpen_of_pause
    (hblock : hints.blockedUntil = some ⟨now.nanoseconds + (Duration.ofSeconds seconds).nanoseconds⟩) :
    hints.untilOpen now = (Duration.ofSeconds seconds).nanoseconds := by
  rw [untilOpen, hblock]
  change (now.nanoseconds + _ - now.nanoseconds).toNat = _
  omega

theorem hold_of_pause
    (hopen : hints.untilOpen now = (Duration.ofSeconds seconds).nanoseconds) :
    (Duration.ofSeconds (min seconds 3600)).nanoseconds ≤ hints.hold now ∧
      hints.hold now ≤ (Duration.ofSeconds 3600).nanoseconds := by
  rw [hold, hopen]
  simp only [maxWait, Duration.ofSeconds, Duration.nanosPerSecond]
  omega

end Hints

namespace Limiter

/-- What the headers of an answer can do to a client, and what it makes of the seconds that it is
asked to wait for. Noting headers fails just if a reset or the end of a pause that they tell lies
behind the end of the calendar; for a reset this cannot be unless the calendar ends soon. If a number
of seconds has been noted, the next turn waits once, for at least so long and for a reset if that is
later, though for no longer than an hour. A number beyond what a block can hold is not waited for at
all. -/
theorem update_of_retryAfter (limiter : Limiter) (headers : Http.Headers) (now : Instant) :
    ((∃ next, limiter.update headers now = .ok next) ↔
      Advice.CanReset headers now ∧ CanBlock (Advice.pause? headers now) now) ∧
    (now.Reaches (.ofSeconds 1000000000) → Advice.CanReset headers now) ∧
    (∀ fault, limiter.update headers now = .error fault → fault = .instantOverflow) ∧
    ∀ text seconds next, Http.Header.text? headers "retry-after" = some text →
      Numeral.natural? UInt64.size text = some seconds →
      limiter.update headers now = .ok next →
      (next.bucket.Fits now → ∃ turn, next.turn now = .ok turn) ∧
      ∀ turn, next.turn now = .ok turn →
        (seconds ≤ maxBlockSeconds →
          turn.hintWaits = pauses (min
            (max (next.hints.untilReset now) (Duration.ofSeconds seconds).nanoseconds)
            maxWait.nanoseconds) ∧
          (0 < seconds → ∃ wait, turn.hintWaits = [wait] ∧
            (Duration.ofSeconds (min seconds 3600)).nanoseconds ≤ wait.nanoseconds ∧
            wait.nanoseconds ≤ (Duration.ofSeconds 3600).nanoseconds)) ∧
        (maxBlockSeconds < seconds →
          turn.hintWaits = pauses (min (next.hints.untilReset now) maxWait.nanoseconds)) := by
  refine ⟨exists_update_iff, fun hreaches => Advice.canReset_of_reaches hreaches headers,
    fun fault => eq_instantOverflow_of_update, ?_⟩
  intro text seconds next htext hseconds hupdate
  refine ⟨exists_turn, fun turn hturn => ?_⟩
  obtain ⟨-, hwaits, -, -⟩ := turn_eq_ok hturn
  have hblock := blockedUntil_of_update hupdate
  rw [Advice.pause?_of_seconds htext hseconds, blockAfter, seconds_ofSeconds] at hblock
  constructor
  · intro hbound
    rw [if_pos hbound] at hblock
    have hopen := untilOpen_of_pause hblock
    obtain ⟨hleast, hmost⟩ := hold_of_pause hopen
    refine ⟨by rw [hwaits, hold, hopen], fun hsome => ?_⟩
    have hpos : 0 < next.hints.hold now := by
      refine Nat.lt_of_lt_of_le ?_ hleast
      exact Nat.mul_pos (Nat.lt_min.2 ⟨hsome, by decide⟩) (by decide)
    exact ⟨⟨next.hints.hold now⟩, by rw [hwaits, pauses_of_pos hpos], hleast, hmost⟩
  · intro hbeyond
    rw [if_neg (Nat.not_le.2 hbeyond)] at hblock
    rw [hwaits, hold, untilOpen, hblock]
    simp [nanosUntil?]

/-- The headers of an answer that asks to wait. -/
def retryAfter (text : String) : Http.Headers := [("Retry-After", Utf8.encode text)]

/-- Five seconds are waited for at least. -/
theorem update_of_retryAfter_sample :
    Http.Header.text? (retryAfter "5") "retry-after" = some "5" ∧
      Numeral.natural? UInt64.size "5" = some 5 ∧
      ∃ next turn, sample.update (retryAfter "5") ⟨0⟩ = .ok next ∧ next.turn ⟨0⟩ = .ok turn ∧
        ∃ wait, turn.hintWaits = [wait] ∧
          (Duration.ofSeconds 5).nanoseconds ≤ wait.nanoseconds := by
  have htext : Http.Header.text? (retryAfter "5") "retry-after" = some "5" := by decide +kernel
  have hseconds : Numeral.natural? UInt64.size "5" = some 5 := by decide +kernel
  obtain ⟨hnoted, hreset, -, hpause⟩ := update_of_retryAfter sample (retryAfter "5") ⟨0⟩
  have hblock : CanBlock (Advice.pause? (retryAfter "5") ⟨0⟩) ⟨0⟩ := by
    rw [Advice.pause?_of_seconds htext hseconds]
    rintro pause hpause -
    obtain rfl := Option.some.inj hpause
    unfold Instant.Reaches
    decide
  obtain ⟨next, hnext⟩ := hnoted.2 ⟨hreset (by unfold Instant.Reaches; decide), hblock⟩
  obtain ⟨hexists, hkept⟩ := hpause "5" 5 next htext hseconds hnext
  have hbucket : next.bucket = sample.bucket := (update_eq_ok hnext).2.2
  obtain ⟨turn, hturn⟩ := hexists (by rw [hbucket]; unfold Bucket.Fits; decide)
  obtain ⟨wait, hwaits, hleast, -⟩ := ((hkept turn hturn).1 (by decide)).2 (by decide)
  exact ⟨htext, hseconds, next, turn, hnext, hturn, wait, hwaits, hleast⟩

/-- Of two numbers of seconds that a server asks to wait, the greater one is not waited for, and the
other one ends the client. -/
theorem retryAfter_not_kept :
    Http.Header.text? (retryAfter "9223372036854776") "retry-after" = some "9223372036854776" ∧
      Numeral.natural? UInt64.size "9223372036854776" = some 9223372036854776 ∧
      (∃ next, sample.update (retryAfter "9223372036854776") ⟨0⟩ = .ok next ∧
        next.acquireHints ⟨0⟩ = ([], next)) ∧
      Http.Header.text? (retryAfter "9000000000000") "retry-after" = some "9000000000000" ∧
      Numeral.natural? UInt64.size "9000000000000" = some 9000000000000 ∧
      sample.update (retryAfter "9000000000000") ⟨0⟩ = .error .instantOverflow := by
  refine ⟨by decide +kernel, by decide +kernel, ?_, by decide +kernel, by decide +kernel, ?_⟩
  · have htest : (sample.update (retryAfter "9223372036854776") ⟨0⟩).toOption.any
        (fun next => decide (next.acquireHints ⟨0⟩ = ([], next))) = true := by decide +kernel
    obtain ⟨next, hnext, hnone⟩ := exists_of_any htest
    exact ⟨next, hnext, of_decide_eq_true hnone⟩
  · have hfails : (sample.update (retryAfter "9000000000000") ⟨0⟩).toOption = none := by
      decide +kernel
    rcases sample.update_cases (retryAfter "9000000000000") ⟨0⟩ with ⟨⟨next, hnext, -⟩, -⟩ |
      ⟨hfault, -⟩
    · rw [hnext] at hfails
      cases hfails
    · exact hfault

end Limiter

end RateLimit

end ApiBridge
