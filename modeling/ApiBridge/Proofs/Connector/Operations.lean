import ApiBridge.Proofs.Connector.Pacing

namespace ApiBridge

/-- Something that is done at an endpoint. -/
inductive Operation where
  | fetch (name : String) (params : Option (Table Json))
  | send (name : String) (value : Json)
  | consume (name : String) (params : Table Json) (request : EventStream.ConsumeRequest)
  /-- Gets the next event of a stream, wherever that is in its course. -/
  | pull (session : Session)
  /-- Takes one step towards the next event, of which there may be no end. -/
  | step (session : Session)

namespace Operation

def endpoint : Operation → String
  | .fetch name _ => name
  | .send name _ => name
  | .consume name _ _ => name
  | .pull session => session.endpoint
  | .step session => session.endpoint

/-- Whether an answer has come once the whole of it has; that of a stream has with its head. -/
def whole : Operation → Bool
  | .fetch .. => true
  | .send .. => true
  | .consume .. => false
  | .pull _ => false
  | .step _ => false

def perform (connector : Connector) : Operation → Run Unit
  | .fetch name params => do
      let _ ← (connector.fetch name params).run
  | .send name value => do
      let _ ← (connector.send name value).run
  | .consume name params request => do
      let _ ← (connector.consume name params request).run
  | .pull session => do
      let _ ← session.pull connector
  | .step session => do
      let _ ← session.step connector

/-- Does something at each of some instants. -/
def performAll (connector : Connector) : List (Instant × Operation) → Run Unit
  | [] => return
  | (now, operation) :: rest => do
      modify fun traffic => { traffic with now }
      operation.perform connector
      performAll connector rest

theorem passes_perform (connector : Connector) (operation : Operation) :
    connector.Passes operation.endpoint operation.whole (operation.perform connector) := by
  cases operation with
  | fetch name params => exact .bind (connector.passes_fetch name params) fun _ => .pure _
  | send name value => exact .bind (connector.passes_send name value) fun _ => .pure _
  | consume name params request =>
      exact .bind (connector.passes_consume name params request) fun _ => .pure _
  | pull session =>
      apply Run.Passes.bind
      · exact .bind .get fun traffic => Session.passes_pullWithin rfl _
      · intro _
        exact .pure _
  | step session => exact .bind (Session.passes_step connector session) fun _ => .pure _

theorem passes_performAll (connector : Connector) (operations : List (Instant × Operation)) :
    (performAll connector operations).Passes connector.definition.auth fun passage =>
      ∃ timed ∈ operations, passage.IsTo connector timed.2.endpoint timed.2.whole := by
  induction operations with
  | nil => exact .pure _
  | cons timed rest ih =>
      rcases timed with ⟨now, operation⟩
      apply Run.Passes.bind
      · apply Run.Passes.of_idle
        intro before result after hrun
        obtain rfl := Run.modify_eq_ok.1 hrun
        exact ⟨rfl, rfl, rfl⟩
      · intro _
        apply Run.Passes.bind
        · apply (passes_perform connector operation).mono
          intro passage hpassage
          exact ⟨(now, operation), List.mem_cons_self, hpassage⟩
        · intro _
          apply ih.mono
          rintro passage ⟨timed, htimed, hpassage⟩
          exact ⟨timed, List.mem_cons_of_mem _ htimed, hpassage⟩

end Operation

/-- Whether a definition declares a rate for an endpoint. -/
def Definition.Limits (definition : Definition) (name : String) : Prop :=
  ∃ endpoint, (name, endpoint) ∈ definition.endpoints ∧ endpoint.rateLimit.isSome

namespace Connector

variable {definition : Definition} {validator : Option Schema.Validator} {start now : Instant}
  {connector : Connector} {limiters : RateLimit.Limiters}

theorem limiters_eq_ok {given made : RateLimit.Limiters} {endpoints : List (String × Endpoint)}
    (hrun : Connector.limiters now given endpoints = .ok (.ok made)) (name : String) :
    (made.find? name).isSome ↔ (given.find? name).isSome ∨
      ∃ endpoint, (name, endpoint) ∈ endpoints ∧ endpoint.rateLimit.isSome := by
  -- Limiters are added to those that are given, which grow along the induction.
  induction endpoints generalizing given with
  | nil =>
      obtain rfl := Except.ok.inj (Except.ok.inj hrun)
      simp
  | cons binding rest ih =>
      rcases binding with ⟨key, endpoint⟩
      cases hspec : endpoint.rateLimit with
      | none =>
          rw [Connector.limiters, hspec] at hrun
          rw [ih hrun]
          simp [or_and_right, exists_or, hspec]
      | some spec =>
          rw [Connector.limiters, hspec] at hrun
          obtain ⟨outcome, hcreate, hrun⟩ := Fault.bind_eq_ok.1 hrun
          cases outcome with
          | error error => cases hrun
          | ok more =>
              obtain ⟨created, hcreated, hmore⟩ := Fault.bind_eq_ok.1 hcreate
              cases created with
              | error error => cases hmore
              | ok limiter =>
                  obtain rfl := Except.ok.inj (Except.ok.inj hmore)
                  rw [ih hrun, Table.isSome_find?_put]
                  simp [or_and_right, exists_or, hspec, or_assoc, or_left_comm]

theorem create_eq_ok
    (hcreate : create definition validator start = .ok (.ok (connector, limiters))) :
    connector = { definition, validator } ∧
      ∀ name, (limiters.find? name).isSome ↔ definition.Limits name := by
  unfold create at hcreate
  split at hcreate
  · cases hcreate
  · obtain ⟨outcome, hlimiters, hopened⟩ := Fault.bind_eq_ok.1 hcreate
    cases outcome with
    | error error => cases hopened
    | ok made =>
        obtain ⟨rfl, rfl⟩ := Prod.mk.inj (Except.ok.inj (Except.ok.inj hopened))
        refine ⟨rfl, ?_⟩
        intro name
        rw [limiters_eq_ok hlimiters]
        simp [Definition.Limits, Table.find?]

/-- What operations leave behind at a connector that has been opened, after any others before them.
They ask for something in passages at their own endpoints only, each with one turn, then the request,
and then a note if an answer has come. A limiter counts a turn for each request to its endpoint, and
an update for each answer; where no rate is declared there are no waits; and the limiters of
endpoints at which nothing is done stay as they are. -/
theorem counted_of_operations {peer : Http.Peer} {earlier operations : List (Instant × Operation)}
    {before after : Traffic}
    (hcreate : create definition validator start = .ok (.ok (connector, limiters)))
    (hearlier : Operation.performAll connector earlier (.start peer limiters start) =
      .ok ((), before))
    (hrun : Operation.performAll connector operations before = .ok ((), after)) :
    (∃ passages : List Passage,
      (∀ passage ∈ passages, ∃ timed ∈ operations,
        passage.IsTo connector timed.2.endpoint timed.2.whole) ∧
      after.log.filter Act.isPaced =
        before.log.filter Act.isPaced ++ passages.flatMap Passage.acts ∧
      before.peer.openings definition.auth (passages.map Passage.request) =
        passages.map Passage.opening ∧
      (∀ name, definition.Limits name → ∃ limiter next,
        before.limiters.find? name = some limiter ∧ after.limiters.find? name = some next ∧
        next.acquired = limiter.acquired + Passage.turns name passages ∧
        next.headerUpdates = limiter.headerUpdates + Passage.answers name passages) ∧
      ∀ name, ¬ definition.Limits name →
        ∀ passage ∈ passages, passage.endpoint = name → passage.waits = []) ∧
    ∀ name, (∀ timed ∈ operations, timed.2.endpoint ≠ name) →
      after.limiters.find? name = before.limiters.find? name := by
  obtain ⟨rfl, hlimits⟩ := create_eq_ok hcreate
  obtain ⟨past, -, hpast⟩ := Operation.passes_performAll _ earlier _ _ _ hearlier
  obtain ⟨passages, hpassages, hpaced⟩ := Operation.passes_performAll _ operations _ _ _ hrun
  refine ⟨⟨passages, hpassages, hpaced.log_eq, hpaced.openings_eq, ?_, ?_⟩, ?_⟩
  · intro name hname
    obtain ⟨first, hfirst⟩ := Option.isSome_iff_exists.1 ((hlimits name).2 hname)
    obtain ⟨limiter, hlimiter, -⟩ := hpast.counted name first hfirst
    obtain ⟨next, hnext, hturns, hanswers⟩ := hpaced.counted name limiter hlimiter
    exact ⟨limiter, next, hlimiter, hnext, hturns, hanswers⟩
  · intro name hname
    have hnone : limiters.find? name = none := by
      rw [← Option.not_isSome_iff_eq_none, hlimits]
      exact hname
    exact (hpaced.unlimited name (hpast.unlimited name hnone).1).2
  · intro name hothers
    apply hpaced.others
    intro passage hpassage
    obtain ⟨timed, htimed, hto⟩ := hpassages passage hpassage
    rw [hto.endpoint_eq]
    exact hothers timed htimed

/-- A definition with two endpoints, of which one has a declared rate. -/
def limitedSample : Definition :=
  ((Definition.new "rest" "http://h").withEndpoint "free" (.new "/free")).withEndpoint "paid"
    { Endpoint.new "/paid" with rateLimit := some (.tokenBucket (.ofNat 1) 2) }

/-- A fetch, then another one of which the first attempt fails, one elsewhere, and a stream. -/
theorem counted_of_operations_sample :
    let peer := Http.Peer.scripted [.sample [Utf8.encode "[1]"] .complete, .hangUp,
      .sample [Utf8.encode "[2]"] .complete, .sample [Utf8.encode "[3]"] .complete,
      .sample [Utf8.encode "data: 4\n\n"] .complete]
    let earlier := [(⟨0⟩, Operation.fetch "paid" none)]
    let operations := [(⟨5⟩, Operation.fetch "paid" none), (⟨5⟩, .fetch "free" none),
      (⟨6⟩, .pull (.start "paid" [] .sample))]
    ∃ connector limiters before after,
      create limitedSample none ⟨0⟩ = .ok (.ok (connector, limiters)) ∧
      Operation.performAll connector earlier (.start peer limiters ⟨0⟩) = .ok ((), before) ∧
      Operation.performAll connector operations before = .ok ((), after) ∧
      ∃ passages : List Passage, ∃ limiter next,
        before.peer.openings limitedSample.auth (passages.map Passage.request) =
          passages.map Passage.opening ∧
        before.limiters.find? "paid" = some limiter ∧ after.limiters.find? "paid" = some next ∧
        limiter.acquired = 1 ∧ next.acquired = 4 ∧ Passage.turns "paid" passages = 3 ∧
        limiter.headerUpdates = 1 ∧ next.headerUpdates = 3 ∧
        Passage.answers "paid" passages = 2 := by
  intro peer earlier operations
  -- The three runs, and what the limiter has counted before and after the last of them.
  have htest : (create limitedSample none ⟨0⟩).toOption.any fun created =>
      created.toOption.any fun opened =>
        (Operation.performAll opened.1 earlier (.start peer opened.2 ⟨0⟩)).toOption.any fun first =>
          (Operation.performAll opened.1 operations first.2).toOption.any fun last =>
            (first.2.limiters.find? "paid").map (fun limiter =>
              (limiter.acquired, limiter.headerUpdates)) == some (1, 1) &&
            (last.2.limiters.find? "paid").map (fun limiter =>
              (limiter.acquired, limiter.headerUpdates)) == some (4, 3) := by
    decide +kernel
  obtain ⟨created, hcreate, htest⟩ := exists_of_any htest
  obtain ⟨⟨connector, limiters⟩, rfl, htest⟩ := exists_of_any htest
  obtain ⟨_, before, hbefore, htest⟩ := Run.exists_of_any htest
  obtain ⟨_, after, hafter, htest⟩ := Run.exists_of_any htest
  obtain ⟨⟨passages, -, -, hopenings, hcounted, -⟩, -⟩ :=
    counted_of_operations hcreate hbefore hafter
  obtain ⟨limiter, next, hlimiter, hnext, hturns, hanswers⟩ :=
    hcounted "paid" ⟨_, List.mem_cons_of_mem _ List.mem_cons_self, rfl⟩
  simp only [hlimiter, hnext, Option.map_some, Bool.and_eq_true, beq_iff_eq, Option.some.injEq,
    Prod.mk.injEq] at htest
  refine ⟨connector, limiters, before, after, hcreate, hbefore, hafter, passages, limiter, next,
    hopenings, hlimiter, hnext, htest.1.1, htest.2.1, ?_, htest.1.2, htest.2.2, ?_⟩
  · omega
  · omega

end Connector

end ApiBridge
