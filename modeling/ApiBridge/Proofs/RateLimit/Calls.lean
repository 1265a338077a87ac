import ApiBridge.Proofs.RateLimit.Await

namespace ApiBridge.RateLimit

variable {now : Instant}

inductive Call where
  | acquire
  | tryAcquire
  deriving DecidableEq, Repr

/-- What comes of a call: the time told for a turn that was waited for and its sleeps, or whether a
turn was granted at once. -/
inductive Answer where
  | acquired (waited : Duration) (sleeps : List Duration)
  | tried (granted : Bool)
  deriving DecidableEq, Repr

namespace Answer

/-- Whether a turn was granted without waiting. -/
def isFree : Answer → Bool
  | .acquired _ sleeps => sleeps.isEmpty
  | .tried granted => granted

def ofSleeps (sleeps : List Duration) : Answer := .acquired (.total sleeps) sleeps

end Answer

namespace Limiter

variable {limiter next : Limiter} {call : Call} {later : List Call} {first : Answer}

def answer (limiter : Limiter) (now : Instant) : Call → Except Fault (Answer × Limiter)
  | .acquire =>
      (limiter.await standing now).map fun awaited =>
        (.acquired awaited.waited awaited.sleeps, awaited.after)
  | .tryAcquire => (limiter.tryAcquire now).map fun (granted, after) => (.tried granted, after)

/-- What comes of calls one after the other. -/
def answers (limiter : Limiter) (now : Instant) : List Call → Except Fault (List Answer × Limiter)
  | [] => pure ([], limiter)
  | call :: later => do
      let (answer, next) ← limiter.answer now call
      let (answers, last) ← next.answers now later
      pure (answer :: answers, last)

theorem answer_acquire (limiter : Limiter) (now : Instant) :
    limiter.answer now .acquire =
      (limiter.acquire now).map fun (sleeps, after) => (.ofSleeps sleeps, after) := by
  rw [answer, await_standing]
  cases limiter.acquire now <;> rfl

theorem answers_cons (hanswer : limiter.answer now call = .ok (first, next)) (later : List Call) :
    limiter.answers now (call :: later) =
      (next.answers now later).map fun (answers, last) => (first :: answers, last) := by
  rw [answers, hanswer]
  change (next.answers now later >>= _) = _
  cases next.answers now later <;> rfl

theorem answers_cons_eq_ok {result : List Answer × Limiter}
    (hrun : limiter.answers now (call :: later) = .ok result) :
    ∃ first next rest, limiter.answer now call = .ok (first, next) ∧
      next.answers now later = .ok rest := by
  obtain ⟨⟨first, next⟩, hanswer, hrun⟩ := Fault.bind_eq_ok.1 hrun
  obtain ⟨rest, hrest, -⟩ := Fault.bind_eq_ok.1 hrun
  exact ⟨first, next, rest, hanswer, hrest⟩

end Limiter

/-- What can be done to the limiter of an endpoint. -/
inductive Step where
  | create (endpoint : String) (spec : Spec)
  | note (endpoint : String) (headers : Http.Headers)
  | call (endpoint : String) (call : Call)

def Step.endpoint : Step → String
  | .create endpoint _ => endpoint
  | .note endpoint _ => endpoint
  | .call endpoint _ => endpoint

/-- Steps that are some calls to one endpoint, with steps of other endpoints put anywhere among
them. -/
inductive Among (endpoint : String) : List Call → List Step → Prop where
  | nil : Among endpoint [] []
  | own (call : Call) {calls : List Call} {steps : List Step} :
      Among endpoint calls steps → Among endpoint (call :: calls) (.call endpoint call :: steps)
  | other {step : Step} {calls : List Call} {steps : List Step} :
      step.endpoint ≠ endpoint → Among endpoint calls steps → Among endpoint calls (step :: steps)

namespace Limiters

variable {limiters after : Limiters} {limiter : Limiter} {endpoint : String} {step : Step}
  {answer? : Option Answer} {told : List (String × Answer)}

/-- A limiter that is refused leaves all others as they are. An endpoint without one never waits, and
has none to be asked for a turn at once. -/
def perform (limiters : Limiters) (now : Instant) : Step → Except Fault (Option Answer × Limiters)
  | .create endpoint spec =>
      (limiters.create endpoint spec now).map fun
        | .ok after => (none, after)
        | .error _ => (none, limiters)
  | .note endpoint headers =>
      (limiters.update endpoint headers now).map fun after => (none, after)
  | .call endpoint .acquire =>
      (limiters.acquire endpoint now).map fun (sleeps, after) => (some (.ofSleeps sleeps), after)
  | .call endpoint .tryAcquire =>
      match limiters.find? endpoint with
      | some limiter =>
          (limiter.tryAcquire now).map fun (granted, after) =>
            (some (.tried granted), limiters.put endpoint after)
      | none => .ok (none, limiters)

/-- Steps one after the other, with what comes of the calls and the endpoints of these. -/
def run (limiters : Limiters) (now : Instant) :
    List Step → Except Fault (List (String × Answer) × Limiters)
  | [] => pure ([], limiters)
  | step :: later => do
      let (answer?, next) ← limiters.perform now step
      let (told, last) ← next.run now later
      pure ((answer?.map fun answer => (step.endpoint, answer)).toList ++ told, last)

/-- The answers that are told at an endpoint. -/
def answersOf (endpoint : String) (told : List (String × Answer)) : List Answer :=
  told.filterMap fun (name, answer) => if name = endpoint then some answer else none

theorem perform_call (hlimiter : limiters.find? endpoint = some limiter) (call : Call) :
    limiters.perform now (.call endpoint call) =
      (limiter.answer now call).map fun (answer, next) =>
        (some answer, limiters.put endpoint next) := by
  cases call with
  | acquire =>
      rw [perform, acquire_of_some hlimiter, Limiter.answer_acquire]
      cases limiter.acquire now <;> rfl
  | tryAcquire =>
      rw [perform, hlimiter, Limiter.answer]
      dsimp only
      cases limiter.tryAcquire now <;> rfl

theorem perform_find?_of_ne (hother : step.endpoint ≠ endpoint)
    (hrun : limiters.perform now step = .ok (answer?, after)) :
    after.find? endpoint = limiters.find? endpoint := by
  cases step with
  | create other spec =>
      obtain ⟨outcome, hcreate, houtcome⟩ := Fault.map_eq_ok.1 hrun
      obtain ⟨made, hmade, hcreate⟩ := Fault.bind_eq_ok.1 hcreate
      cases made with
      | error error =>
          obtain rfl := Except.ok.inj hcreate
          rw [(Prod.mk.inj houtcome).2]
      | ok limiter =>
          obtain rfl := Except.ok.inj hcreate
          rw [← (Prod.mk.inj houtcome).2, Table.find?_put_of_ne other hother.symm]
  | note other headers =>
      obtain ⟨noted, hnoted, houtcome⟩ := Fault.map_eq_ok.1 hrun
      rw [← (Prod.mk.inj houtcome).2, update_find?_of_ne hother.symm hnoted]
  | call other call =>
      cases hlimiter : limiters.find? other with
      | some limiter =>
          rw [perform_call hlimiter] at hrun
          obtain ⟨⟨answer, next⟩, -, houtcome⟩ := Fault.map_eq_ok.1 hrun
          rw [← (Prod.mk.inj houtcome).2, Table.find?_put_of_ne other hother.symm]
      | none =>
          cases call with
          | acquire =>
              rw [perform, acquire, hlimiter] at hrun
              rw [(Prod.mk.inj (Except.ok.inj hrun)).2]
          | tryAcquire =>
              rw [perform, hlimiter] at hrun
              rw [(Prod.mk.inj (Except.ok.inj hrun)).2]

theorem answersOf_step (endpoint : String) (answer? : Option Answer)
    (told : List (String × Answer)) (name : String) :
    answersOf endpoint ((answer?.map fun answer => (name, answer)).toList ++ told) =
      (if name = endpoint then answer?.toList else []) ++ answersOf endpoint told := by
  unfold answersOf
  rw [List.filterMap_append]
  cases answer? with
  | none => split <;> rfl
  | some answer =>
      by_cases hname : name = endpoint
      · simp [hname]
      · simp [hname]

theorem run_cons_eq_ok {later : List Step}
    (hrun : limiters.run now (step :: later) = .ok (told, after)) :
    ∃ answer? next rest, limiters.perform now step = .ok (answer?, next) ∧
      next.run now later = .ok (rest, after) ∧
      ∀ endpoint, answersOf endpoint told =
        (if step.endpoint = endpoint then answer?.toList else []) ++ answersOf endpoint rest := by
  obtain ⟨⟨answer?, next⟩, hstep, hrun⟩ := Fault.bind_eq_ok.1 hrun
  obtain ⟨⟨rest, last⟩, hrest, hrun⟩ := Fault.bind_eq_ok.1 hrun
  obtain ⟨rfl, rfl⟩ := Prod.mk.inj (Except.ok.inj hrun)
  exact ⟨answer?, next, rest, hstep, hrest, fun endpoint => answersOf_step endpoint _ _ _⟩

theorem run_of_among {calls : List Call} {steps : List Step} (h : Among endpoint calls steps)
    (hlimiter : limiters.find? endpoint = some limiter)
    (hrun : limiters.run now steps = .ok (told, after)) :
    ∃ last, limiter.answers now calls = .ok (answersOf endpoint told, last) ∧
      after.find? endpoint = some last := by
  -- The steps at other endpoints leave the limiter, so only the calls move it on.
  induction h generalizing limiters limiter told with
  | nil =>
      obtain ⟨rfl, rfl⟩ := Prod.mk.inj (Except.ok.inj hrun)
      exact ⟨limiter, rfl, hlimiter⟩
  | own call _ ih =>
      obtain ⟨answer?, next, rest, hstep, hrest, htold⟩ := run_cons_eq_ok hrun
      rw [perform_call hlimiter] at hstep
      obtain ⟨⟨answer, nextLimiter⟩, hanswer, houtcome⟩ := Fault.map_eq_ok.1 hstep
      obtain ⟨rfl, rfl⟩ := Prod.mk.inj houtcome
      obtain ⟨last, hanswers, hfound⟩ := ih (Table.find?_put endpoint nextLimiter limiters) hrest
      refine ⟨last, ?_, hfound⟩
      rw [Limiter.answers_cons hanswer, hanswers, htold, Step.endpoint, if_pos rfl]
      rfl
  | other hother _ ih =>
      obtain ⟨answer?, next, rest, hstep, hrest, htold⟩ := run_cons_eq_ok hrun
      obtain ⟨last, hanswers, hfound⟩ :=
        ih ((perform_find?_of_ne hother hstep).trans hlimiter) hrest
      refine ⟨last, ?_, hfound⟩
      rw [hanswers, htold, if_neg hother, List.nil_append]

end Limiters

end ApiBridge.RateLimit
