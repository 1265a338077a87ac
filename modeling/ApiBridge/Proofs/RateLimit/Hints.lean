import ApiBridge.RateLimit.Limiter

namespace ApiBridge

/-- The nanoseconds from now until an instant, none if it has passed. -/
def Instant.nanosUntil (now instant : Instant) : Nat :=
  (instant.nanoseconds - now.nanoseconds).toNat

theorem Instant.nanosUntil_of_le {now instant : Instant}
    (hpassed : instant.nanoseconds ≤ now.nanoseconds) : now.nanosUntil instant = 0 := by
  unfold nanosUntil
  omega

theorem Instant.nanosUntil_pos {now instant : Instant}
    (hahead : now.nanoseconds < instant.nanoseconds) : 0 < now.nanosUntil instant := by
  unfold nanosUntil
  omega

theorem Instant.after?_eq (now instant : Instant) :
    instant.after? now =
      if now.nanosUntil instant = 0 then none else some ⟨now.nanosUntil instant⟩ := by
  unfold after?
  split
  · next hahead => rw [if_neg (Nat.ne_of_gt (nanosUntil_pos hahead)), nanosUntil]
  · next hpassed => rw [if_pos (nanosUntil_of_le (Int.not_lt.1 hpassed))]

namespace RateLimit

namespace Hints

variable {hints : Hints} {now start reset : Instant} {left : Nat}

/-- The nanoseconds until an instant, none if there is no such instant. -/
def nanosUntil? (now : Instant) (instant? : Option Instant) : Nat :=
  (instant?.map now.nanosUntil).getD 0

/-- The nanoseconds until a spent budget is reset. -/
def untilReset (hints : Hints) (now : Instant) : Nat :=
  if hints.remaining = some 0 then nanosUntil? now hints.resetAt else 0

/-- The nanoseconds until the end of a block. -/
def untilOpen (hints : Hints) (now : Instant) : Nat := nanosUntil? now hints.blockedUntil

/-- The nanoseconds that a turn is held for what the server said. -/
def hold (hints : Hints) (now : Instant) : Nat :=
  min (max (hints.untilReset now) (hints.untilOpen now)) maxWait.nanoseconds

/-- The sleep of a number of nanoseconds, which is none for zero. -/
def pauses (nanos : Nat) : List Duration := if nanos = 0 then [] else [⟨nanos⟩]

theorem pauses_of_pos {nanos : Nat} (hpos : 0 < nanos) : pauses nanos = [⟨nanos⟩] :=
  if_neg (Nat.ne_of_gt hpos)

theorem bind_after?_eq (now : Instant) (instant? : Option Instant) :
    (instant?.bind fun instant => instant.after? now) =
      if nanosUntil? now instant? = 0 then Option.none
      else some ⟨nanosUntil? now instant?⟩ := by
  cases instant? with
  | none => rfl
  | some instant => exact Instant.after?_eq now instant

theorem wait?_eq (hints : Hints) (now : Instant) :
    hints.wait? now = if hints.hold now = 0 then Option.none else some ⟨hints.hold now⟩ := by
  have hexhausted :
      (if hints.remaining = some 0 then hints.resetAt.bind fun reset => reset.after? now
        else Option.none) =
      if hints.untilReset now = 0 then Option.none else some ⟨hints.untilReset now⟩ := by
    rw [bind_after?_eq, untilReset]
    split
    · rfl
    · rfl
  -- Either wait is missing just where its length would be zero, and the limit is not zero.
  have hmax : 0 < maxWait.nanoseconds := by decide
  unfold wait? hold
  rw [hexhausted, bind_after?_eq, ← untilOpen]
  generalize hints.untilReset now = reset
  generalize hints.untilOpen now = block
  rcases Nat.eq_zero_or_pos reset with rfl | hreset
  · rcases Nat.eq_zero_or_pos block with rfl | hblock
    · simp
    · have hne : block ≠ 0 := Nat.ne_of_gt hblock
      have hmin : min block maxWait.nanoseconds ≠ 0 := by omega
      simp [hne, hmin, Duration.shorter]
  · have hne : reset ≠ 0 := Nat.ne_of_gt hreset
    have hmin : min (max reset block) maxWait.nanoseconds ≠ 0 := by omega
    rcases Nat.eq_zero_or_pos block with rfl | hblock
    · rw [Nat.max_zero] at hmin ⊢
      simp [hne, hmin, Duration.shorter]
    · simp [hne, Nat.ne_of_gt hblock, hmin, Duration.shorter, Duration.longer]

/-- The hints after a turn: a hold is served once, and the turn is one of the budget. -/
def afterTurn (hints : Hints) (now : Instant) : Hints :=
  let served := if hints.hold now = 0 then hints else hints.served
  { served with remaining := served.remaining.map (· - 1) }

/-- Hints that have nothing left to wait for. -/
def spent (hints : Hints) : Hints :=
  { hints with remaining := Option.none, blockedUntil := Option.none }

@[simp] theorem hold_spent (hints : Hints) (now : Instant) : hints.spent.hold now = 0 := by
  simp [hold, untilReset, untilOpen, nanosUntil?, spent]

@[simp] theorem afterTurn_spent (hints : Hints) (now : Instant) :
    hints.spent.afterTurn now = hints.spent := by
  rw [afterTurn, hold_spent]
  rfl

/-- A budget of which some requests are left until its reset, and no block from an instant on. -/
structure Budgeted (start reset : Instant) (left : Nat) (hints : Hints) : Prop where
  remaining_eq : hints.remaining = some left
  resetAt_eq : hints.resetAt = some reset
  untilOpen_eq : ∀ now, start.nanoseconds ≤ now.nanoseconds → hints.untilOpen now = 0

theorem Budgeted.hold_succ (h : Budgeted start reset (left + 1) hints)
    (hstart : start.nanoseconds ≤ now.nanoseconds) : hints.hold now = 0 := by
  simp [hold, untilReset, h.remaining_eq, h.untilOpen_eq now hstart]

theorem Budgeted.afterTurn_succ (h : Budgeted start reset (left + 1) hints)
    (hstart : start.nanoseconds ≤ now.nanoseconds) :
    hints.afterTurn now = { hints with remaining := some left } := by
  simp [afterTurn, h.hold_succ hstart, h.remaining_eq]

theorem Budgeted.pred (h : Budgeted start reset (left + 1) hints) :
    Budgeted start reset left { hints with remaining := some left } :=
  ⟨rfl, h.resetAt_eq, h.untilOpen_eq⟩

theorem Budgeted.hold_zero (h : Budgeted start reset 0 hints)
    (hstart : start.nanoseconds ≤ now.nanoseconds) :
    hints.hold now = min (now.nanosUntil reset) maxWait.nanoseconds := by
  simp [hold, untilReset, nanosUntil?, h.remaining_eq, h.resetAt_eq, h.untilOpen_eq now hstart]

theorem afterTurn_of_hold (hremaining : hints.remaining = some 0) (hhold : hints.hold now ≠ 0) :
    hints.afterTurn now = hints.spent := by
  simp [afterTurn, hhold, served, hremaining, spent]

theorem hold_of_both {until' : Instant} (now : Instant) (hremaining : hints.remaining = some 0)
    (hreset : hints.resetAt = some reset) (hblock : hints.blockedUntil = some until') :
    hints.hold now =
      min (max (now.nanosUntil reset) (now.nanosUntil until')) maxWait.nanoseconds := by
  simp [hold, untilReset, untilOpen, nanosUntil?, hremaining, hreset, hblock]

theorem update_of_no_retry {advice : Advice} (hretry : advice.retryAfter = Option.none)
    (hints : Hints) (now : Instant) :
    hints.update advice now = .ok { hints with
      remaining := advice.remaining <|> hints.remaining
      limit := advice.limit <|> hints.limit
      resetAt := advice.resetAt <|> hints.resetAt } := by
  rw [update, hretry]
  rfl

end Hints

end RateLimit

end ApiBridge
