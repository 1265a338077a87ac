import ApiBridge.Proofs.RateLimit.Limiter

namespace ApiBridge.RateLimit

open Hints hiding none

namespace Limiter

variable {limiter : Limiter} {now : Instant}

/-- Turns at one instant after the other. -/
def turns (limiter : Limiter) : List Instant → Except Fault (List Turn)
  | [] => pure []
  | now :: later => do
      let turn ← limiter.turn now
      let turns ← turn.after.turns later
      pure (turn :: turns)

theorem exists_turns {instants : List Instant} (hfits : ∀ now ∈ instants, limiter.bucket.Fits now) :
    ∃ turns, limiter.turns instants = .ok turns := by
  induction instants generalizing limiter with
  | nil => exact ⟨[], rfl⟩
  | cons now later ih =>
      obtain ⟨hnow, hlater⟩ := List.forall_mem_cons.1 hfits
      obtain ⟨turn, hturn⟩ := exists_turn hnow
      obtain ⟨-, -, -, hkept⟩ := turn_eq_ok hturn
      obtain ⟨turns, hturns⟩ := ih fun instant hinstant => hkept instant (hlater instant hinstant)
      rw [Limiter.turns, hturn]
      change ∃ all, (turn.after.turns later >>= fun turns => pure (turn :: turns)) = .ok all
      rw [hturns]
      exact ⟨_, rfl⟩

theorem turns_cons_eq_ok {later : List Instant} {all : List Turn}
    (hrun : limiter.turns (now :: later) = .ok all) :
    ∃ turn turns, all = turn :: turns ∧ limiter.turn now = .ok turn ∧
      turn.after.turns later = .ok turns := by
  obtain ⟨turn, hturn, hrun⟩ := Fault.bind_eq_ok.1 hrun
  obtain ⟨turns, hturns, hall⟩ := Fault.bind_eq_ok.1 hrun
  exact ⟨turn, turns, (Except.ok.inj hall).symm, hturn, hturns⟩

end Limiter

/-- What the turn at a position does under a budget that has been reported before the first one.
Turns within the budget do not wait for the server and count it down. The first one after them waits
for the reset, after which there is nothing to wait for. -/
structure Turn.IsWithin (hints : Hints) (reset : Instant) (budget position : Nat) (now : Instant)
    (turn : Turn) : Prop where
  hintWaits_eq : turn.hintWaits =
    if position = budget then [⟨min (now.nanosUntil reset) maxWait.nanoseconds⟩] else []
  hints_eq : turn.after.hints =
    if position < budget then { hints with remaining := some (budget - 1 - position) }
    else hints.spent

namespace Limiter

variable {limiter : Limiter} {instants : List Instant} {turns : List Turn}
  {start reset : Instant} {budget : Nat}

theorem length_turns (hrun : limiter.turns instants = .ok turns) :
    turns.length = instants.length := by
  induction instants generalizing limiter turns with
  | nil =>
      obtain rfl := Except.ok.inj hrun
      rfl
  | cons now later ih =>
      obtain ⟨turn, rest, rfl, -, hrest⟩ := turns_cons_eq_ok hrun
      rw [List.length_cons, List.length_cons, ih hrest]

theorem turns_of_spent {hints : Hints} (hhints : limiter.hints = hints.spent)
    (hrun : limiter.turns instants = .ok turns) :
    ∀ turn ∈ turns, turn.hintWaits = [] ∧ turn.after.hints = hints.spent := by
  induction instants generalizing limiter turns with
  | nil =>
      obtain rfl := Except.ok.inj hrun
      simp
  | cons now later ih =>
      obtain ⟨turn, rest, rfl, hturn, hrest⟩ := turns_cons_eq_ok hrun
      obtain ⟨-, hwaits, hafter, -⟩ := turn_eq_ok hturn
      rw [hhints, hold_spent] at hwaits
      rw [hhints, afterTurn_spent] at hafter
      exact List.forall_mem_cons.2 ⟨⟨hwaits, hafter⟩, ih hafter hrest⟩

theorem turns_of_budgeted {hints : Hints} (hhints : limiter.hints = hints)
    (h : Budgeted start reset budget hints)
    (hinstants : ∀ now ∈ instants.take (budget + 1),
      start.nanoseconds ≤ now.nanoseconds ∧ now.nanoseconds < reset.nanoseconds)
    (hrun : limiter.turns instants = .ok turns) :
    ∀ position now (turn : Turn), instants[position]? = some now → turns[position]? = some turn →
      turn.IsWithin hints reset budget position now := by
  -- The first turn leaves one request less, with the positions of the others one further on.
  induction instants generalizing limiter turns hints budget with
  | nil => simp
  | cons now later ih =>
      rw [List.take_succ_cons, List.forall_mem_cons] at hinstants
      obtain ⟨⟨hstart, hahead⟩, hlater⟩ := hinstants
      obtain ⟨first, rest, rfl, hfirst, hrest⟩ := turns_cons_eq_ok hrun
      obtain ⟨-, hwaits, hafter, -⟩ := turn_eq_ok hfirst
      rw [hhints] at hwaits hafter
      cases budget with
      | zero =>
          have hhold := h.hold_zero hstart
          have hpos : 0 < min (now.nanosUntil reset) maxWait.nanoseconds :=
            Nat.lt_min.2 ⟨Instant.nanosUntil_pos hahead, by decide⟩
          rw [hhold, pauses_of_pos hpos] at hwaits
          rw [afterTurn_of_hold h.remaining_eq (by omega)] at hafter
          intro position instant turn hinstant hturn
          cases position with
          | zero =>
              obtain rfl := Option.some.inj hinstant
              obtain rfl := Option.some.inj hturn
              exact ⟨hwaits, hafter⟩
          | succ position =>
              obtain ⟨hnone, hspent⟩ :=
                turns_of_spent hafter hrest turn (List.mem_of_getElem? hturn)
              exact ⟨hnone, hspent⟩
      | succ left =>
          rw [h.hold_succ hstart] at hwaits
          rw [h.afterTurn_succ hstart] at hafter
          intro position instant turn hinstant hturn
          cases position with
          | zero =>
              obtain rfl := Option.some.inj hinstant
              obtain rfl := Option.some.inj hturn
              exact ⟨hwaits, hafter⟩
          | succ position =>
              obtain ⟨hnext, hleft⟩ :=
                ih hafter h.pred hlater hrest position instant turn hinstant hturn
              refine ⟨?_, ?_⟩
              · simpa using hnext
              · have hcount : left + 1 - 1 - (position + 1) = left - 1 - position := by omega
                rw [hcount]
                simpa [spent] using hleft

/-- A server's budget is not overspent, and what it says is waited for once. After headers with a
budget and a reset, and no block in force, turns at instants before the reset wait for the server
just where the budget is used up, and there until the reset or for the longest time allowed. Each
of them counts the budget down, the limit and the reset stay as they were reported, and what comes
later does not wait for the server. A limiter with a spent budget and a block, at least one of which
is still ahead, waits once, for the later of the two. -/
theorem turns_of_budget :
    (∀ (limiter : Limiter) (headers : Http.Headers) (advice : Advice) (start reset : Instant)
      (budget : Nat),
      (∀ until', limiter.hints.blockedUntil = some until' →
        until'.nanoseconds ≤ start.nanoseconds) →
      Advice.parse headers start = .ok advice → advice.remaining = some budget →
      advice.resetAt = some reset → advice.retryAfter = none →
      ∃ noted, limiter.update headers start = .ok noted ∧ noted.hints.remaining = some budget ∧
        noted.hints.resetAt = some reset ∧
        ∀ instants : List Instant,
          (∀ now ∈ instants.take (budget + 1),
            start.nanoseconds ≤ now.nanoseconds ∧ now.nanoseconds < reset.nanoseconds) →
          ((∀ now ∈ instants, noted.bucket.Fits now) → ∃ turns, noted.turns instants = .ok turns) ∧
          ∀ turns, noted.turns instants = .ok turns → turns.length = instants.length ∧
            ∀ position now (turn : Turn), instants[position]? = some now →
              turns[position]? = some turn → turn.IsWithin noted.hints reset budget position now) ∧
    ∀ (limiter : Limiter) (now reset until' : Instant), limiter.hints.remaining = some 0 →
      limiter.hints.resetAt = some reset → limiter.hints.blockedUntil = some until' →
      now.nanoseconds < max reset.nanoseconds until'.nanoseconds →
      (limiter.bucket.Fits now → ∃ turns, limiter.turns [now, now] = .ok turns) ∧
      ∀ turns, limiter.turns [now, now] = .ok turns →
        turns.map Turn.hintWaits =
          [[⟨min (max (now.nanosUntil reset) (now.nanosUntil until')) maxWait.nanoseconds⟩], []] := by
  constructor
  · intro limiter headers advice start reset budget hopen hadvice hremaining hreset hretry
    have hupdate := update_of_advice hadvice limiter
    rw [update_of_no_retry hretry] at hupdate
    refine ⟨_, hupdate, by simp [hremaining], by simp [hreset], ?_⟩
    intro instants hinstants
    refine ⟨exists_turns, fun turns hturns => ⟨length_turns hturns, ?_⟩⟩
    refine turns_of_budgeted rfl ⟨by simp [hremaining], by simp [hreset], ?_⟩ hinstants hturns
    intro now hstart
    cases hblock : limiter.hints.blockedUntil with
    | none => simp [untilOpen, nanosUntil?]
    | some until' =>
        have hpassed := Instant.nanosUntil_of_le (Int.le_trans (hopen until' hblock) hstart)
        simp [untilOpen, nanosUntil?, hpassed]
  · intro limiter now reset until' hremaining hreset hblock hahead
    refine ⟨fun hfits => exists_turns (by simpa using hfits), ?_⟩
    intro turns hturns
    have hhold := hold_of_both now hremaining hreset hblock
    have hpos : 0 < limiter.hints.hold now := by
      rw [hhold]
      unfold Instant.nanosUntil
      exact Nat.lt_min.2 ⟨by omega, by decide⟩
    obtain ⟨first, rest, rfl, hfirst, hrest⟩ := turns_cons_eq_ok hturns
    obtain ⟨second, others, rfl, -, hothers⟩ := turns_cons_eq_ok hrest
    obtain ⟨-, hwaits, hafter, -⟩ := turn_eq_ok hfirst
    rw [afterTurn_of_hold hremaining (Nat.ne_of_gt hpos)] at hafter
    obtain ⟨hlater, -⟩ := turns_of_spent hafter hrest second List.mem_cons_self
    obtain rfl := Except.ok.inj hothers
    rw [pauses_of_pos hpos, hhold] at hwaits
    rw [List.map_cons, List.map_cons, hwaits, hlater, List.map_nil]

/-- Two requests are left until the reset in ten seconds. The third one, after two seconds, waits
for eight seconds, and no longer for a block that ends in six. -/
theorem turns_of_budget_sample :
    let headers : Http.Headers := [("x-ratelimit-remaining", Utf8.encode "2"),
      ("X-RateLimit-Reset", Utf8.encode "10")]
    let instants : List Instant := [⟨0⟩, ⟨1000000000⟩, ⟨2000000000⟩, ⟨2000000000⟩]
    let blocked : Limiter := { sample with
      hints := ⟨some 0, none, some ⟨10000000000⟩, some ⟨8000000000⟩⟩ }
    (∃ noted turns, sample.update headers ⟨0⟩ = .ok noted ∧ noted.turns instants = .ok turns ∧
      ∀ turn, turns[2]? = some turn →
        turn.hintWaits = [⟨8000000000⟩] ∧ turn.after.hints.remaining = none) ∧
    ∃ turns, blocked.turns [⟨2000000000⟩, ⟨2000000000⟩] = .ok turns ∧
      turns.map Turn.hintWaits = [[⟨8000000000⟩], []] := by
  intro headers instants blocked
  obtain ⟨hbudget, hboth⟩ := turns_of_budget
  constructor
  · have htest : (Advice.parse headers ⟨0⟩).toOption.any
        (fun advice => decide (advice = ⟨none, some 2, some ⟨10000000000⟩, none⟩)) = true := by
      decide +kernel
    obtain ⟨advice, hadvice, hequal⟩ := exists_of_any htest
    obtain rfl := of_decide_eq_true hequal
    obtain ⟨noted, hnoted, -, -, hturns⟩ := hbudget sample headers _ ⟨0⟩ ⟨10000000000⟩ 2
      (by simp [sample, Hints.none]) hadvice rfl rfl rfl
    obtain ⟨hexists, hwithin⟩ := hturns instants (by decide)
    have hbucket : noted.bucket = sample.bucket := (update_eq_ok hnoted).2.2
    obtain ⟨turns, hrun⟩ := hexists (by rw [hbucket]; unfold Bucket.Fits; decide)
    refine ⟨noted, turns, hnoted, hrun, fun turn hturn => ?_⟩
    obtain ⟨hwaits, hhints⟩ := (hwithin turns hrun).2 2 ⟨2000000000⟩ turn rfl hturn
    exact ⟨hwaits, by rw [hhints]; rfl⟩
  · obtain ⟨hexists, hwaits⟩ := hboth blocked ⟨2000000000⟩ ⟨10000000000⟩ ⟨8000000000⟩ rfl rfl rfl
      (by decide)
    obtain ⟨turns, hrun⟩ := hexists (by unfold Bucket.Fits; decide)
    exact ⟨turns, hrun, hwaits turns hrun⟩

end Limiter

end ApiBridge.RateLimit
