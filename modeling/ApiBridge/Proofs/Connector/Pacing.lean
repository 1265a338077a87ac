import ApiBridge.Proofs.Connector.Composition

namespace ApiBridge

/-- A passage that has been made. -/
structure Passage where
  endpoint : String
  waits : List Duration
  request : Http.Request
  whole : Bool
  opening : Run.Opening

/-- Whether an act belongs to a passage. -/
def Act.isPaced : Act → Bool
  | .turn .. => true
  | .attempt _ => true
  | .noted _ => true
  | _ => false

namespace Passage

/-- The headers that have been taken note of. -/
def headers? (passage : Passage) : Option Http.Headers := passage.opening.headers? passage.whole

/-- A turn, the request, and a note if an answer has come. -/
def acts (passage : Passage) : List Act :=
  .turn passage.endpoint passage.waits :: .attempt passage.request ::
    passage.headers?.toList.map fun _ => .noted passage.endpoint

/-- How many of some passages go to an endpoint. -/
def turns (name : String) (passages : List Passage) : Nat :=
  passages.countP fun passage => passage.endpoint == name

/-- How many of some passages to an endpoint have brought an answer. -/
def answers (name : String) (passages : List Passage) : Nat :=
  passages.countP fun passage => passage.endpoint == name && passage.headers?.isSome

theorem turns_append (name : String) (passages more : List Passage) :
    turns name (passages ++ more) = turns name passages + turns name more :=
  List.countP_append

theorem answers_append (name : String) (passages more : List Passage) :
    answers name (passages ++ more) = answers name passages + answers name more :=
  List.countP_append

theorem turns_singleton (passage : Passage) : turns passage.endpoint [passage] = 1 := by
  simp [turns]

theorem answers_singleton (passage : Passage) :
    answers passage.endpoint [passage] = passage.headers?.toList.length := by
  cases hheaders : passage.headers? <;> simp [answers, hheaders]

theorem turns_of_ne {name : String} {passage : Passage} (hname : passage.endpoint ≠ name) :
    turns name [passage] = 0 := by
  simp [turns, hname]

theorem answers_of_ne {name : String} {passage : Passage} (hname : passage.endpoint ≠ name) :
    answers name [passage] = 0 := by
  simp [answers, hname]

end Passage

/-- What passages leave in the traffic. -/
structure Paced (auth : Auth) (before : Traffic) (passages : List Passage) (after : Traffic) :
    Prop where
  log_eq : after.log.filter Act.isPaced =
    before.log.filter Act.isPaced ++ passages.flatMap Passage.acts
  openings_eq : before.peer.openings auth (passages.map Passage.request) =
    passages.map Passage.opening
  peer_eq : after.peer = before.peer.afterRequests auth (passages.map Passage.request)
  counted : ∀ name limiter, before.limiters.find? name = some limiter →
    ∃ next, after.limiters.find? name = some next ∧
      next.acquired = limiter.acquired + Passage.turns name passages ∧
      next.headerUpdates = limiter.headerUpdates + Passage.answers name passages
  unlimited : ∀ name, before.limiters.find? name = none → after.limiters.find? name = none ∧
    ∀ passage ∈ passages, passage.endpoint = name → passage.waits = []
  others : ∀ name, (∀ passage ∈ passages, passage.endpoint ≠ name) →
    after.limiters.find? name = before.limiters.find? name

namespace Paced

variable {auth : Auth} {before middle after : Traffic} {passages more : List Passage}

theorem of_idle (hlog : after.log.filter Act.isPaced = before.log.filter Act.isPaced)
    (hpeer : after.peer = before.peer) (hlimiters : after.limiters = before.limiters) :
    Paced auth before [] after where
  log_eq := by rw [hlog, List.flatMap_nil, List.append_nil]
  openings_eq := rfl
  peer_eq := hpeer
  counted := by
    intro name limiter hlimiter
    exact ⟨limiter, by rw [hlimiters, hlimiter], rfl, rfl⟩
  unlimited := by
    intro name hlimiter
    exact ⟨by rw [hlimiters, hlimiter], List.forall_mem_nil _⟩
  others := by
    intro name _
    rw [hlimiters]

theorem trans (h : Paced auth before passages middle) (hmore : Paced auth middle more after) :
    Paced auth before (passages ++ more) after where
  log_eq := by rw [hmore.log_eq, h.log_eq, List.flatMap_append, List.append_assoc]
  openings_eq := by
    rw [List.map_append, Http.Peer.openings_append, ← h.peer_eq, h.openings_eq, hmore.openings_eq,
      List.map_append]
  peer_eq := by
    rw [hmore.peer_eq, h.peer_eq, Http.Peer.afterRequests, Http.Peer.afterRequests,
      Http.Peer.afterRequests, List.map_append, List.foldl_append]
  counted := by
    intro name limiter hlimiter
    obtain ⟨turned, hturned, hturns, hanswers⟩ := h.counted name limiter hlimiter
    obtain ⟨next, hnext, hmoreTurns, hmoreAnswers⟩ := hmore.counted name turned hturned
    refine ⟨next, hnext, ?_, ?_⟩
    · rw [hmoreTurns, hturns, Passage.turns_append, Nat.add_assoc]
    · rw [hmoreAnswers, hanswers, Passage.answers_append, Nat.add_assoc]
  unlimited := by
    intro name hlimiter
    obtain ⟨hmiddle, hwaits⟩ := h.unlimited name hlimiter
    obtain ⟨hafter, hmoreWaits⟩ := hmore.unlimited name hmiddle
    exact ⟨hafter, List.forall_mem_append.2 ⟨hwaits, hmoreWaits⟩⟩
  others := by
    intro name hothers
    obtain ⟨hfirst, hsecond⟩ := List.forall_mem_append.1 hothers
    rw [hmore.others name hsecond, h.others name hfirst]

theorem of_serve {passage : Passage} {limiters : RateLimit.Limiters}
    (hopening : passage.opening = (before.peer.opening auth passage.request).1)
    (hserve : before.limiters.serve passage.endpoint passage.headers? before.now =
      .ok (passage.waits, limiters)) :
    Paced auth before [passage] (before.passed auth passage.endpoint passage.request passage.whole
      (passage.waits, limiters)) where
  log_eq := by
    have hsent : ((before.peer.heard? auth passage.request).toList.map Act.sent).filter
        Act.isPaced = [] := List.filter_eq_nil_iff.2 (by simp [Act.isPaced])
    simp [Traffic.passed, Passage.acts, Passage.headers?, Act.isPaced, List.filter_cons, hsent,
      hopening]
  openings_eq := by
    rw [List.map_singleton, List.map_singleton, hopening]
    rfl
  peer_eq := rfl
  counted := by
    intro name limiter hlimiter
    by_cases hname : passage.endpoint = name
    · subst hname
      obtain ⟨next, hnext, hacquired, hupdates⟩ :=
        RateLimit.Limiters.serve_eq_ok_of_some hlimiter hserve
      refine ⟨next, hnext, ?_, ?_⟩
      · rw [hacquired, Passage.turns_singleton]
      · rw [hupdates, Passage.answers_singleton]
    · refine ⟨limiter, ?_, ?_, ?_⟩
      · exact (RateLimit.Limiters.serve_find?_of_ne (Ne.symm hname) hserve).trans hlimiter
      · rw [Passage.turns_of_ne hname, Nat.add_zero]
      · rw [Passage.answers_of_ne hname, Nat.add_zero]
  unlimited := by
    intro name hlimiter
    by_cases hname : passage.endpoint = name
    · subst hname
      rw [RateLimit.Limiters.serve_of_none hlimiter] at hserve
      obtain ⟨hwaits, rfl⟩ := Prod.mk.inj (Except.ok.inj hserve)
      refine ⟨hlimiter, ?_⟩
      intro other hother _
      rw [List.mem_singleton.1 hother, ← hwaits]
    · refine ⟨?_, ?_⟩
      · exact (RateLimit.Limiters.serve_find?_of_ne (Ne.symm hname) hserve).trans hlimiter
      · intro other hother hsame
        rw [List.mem_singleton.1 hother] at hsame
        exact absurd hsame hname
  others := by
    intro name hothers
    have hname : passage.endpoint ≠ name := hothers passage (List.mem_singleton_self _)
    exact RateLimit.Limiters.serve_find?_of_ne (Ne.symm hname) hserve

end Paced

/-- Whether a run asks for something in passages of some kind only. -/
def Run.Passes {α : Type} (auth : Auth) (kind : Passage → Prop) (run : Run α) : Prop :=
  ∀ before result after, run before = .ok (result, after) →
    ∃ passages, (∀ passage ∈ passages, kind passage) ∧ Paced auth before passages after

namespace Run.Passes

variable {α β : Type} {auth : Auth} {kind : Passage → Prop}

theorem of_idle {run : Run α}
    (hrun : ∀ before result after, run before = .ok (result, after) →
      after.log.filter Act.isPaced = before.log.filter Act.isPaced ∧ after.peer = before.peer ∧
        after.limiters = before.limiters) : run.Passes auth kind := by
  intro before result after hresult
  obtain ⟨hlog, hpeer, hlimiters⟩ := hrun before result after hresult
  exact ⟨[], List.forall_mem_nil _, .of_idle hlog hpeer hlimiters⟩

theorem pure (value : α) : (Pure.pure value : Run α).Passes auth kind := by
  apply of_idle
  intro before result after hrun
  obtain ⟨-, rfl⟩ := Run.pure_eq_ok.1 hrun
  exact ⟨rfl, rfl, rfl⟩

theorem bind {first : Run α} {second : α → Run β} (hfirst : first.Passes auth kind)
    (hsecond : ∀ value, (second value).Passes auth kind) :
    (first >>= second).Passes auth kind := by
  intro before result after hrun
  obtain ⟨value, middle, hvalue, hrest⟩ := Run.bind_eq_ok.1 hrun
  obtain ⟨passages, hpassages, hpaced⟩ := hfirst before value middle hvalue
  obtain ⟨more, hmore, hmorePaced⟩ := hsecond value middle result after hrest
  exact ⟨passages ++ more, List.forall_mem_append.2 ⟨hpassages, hmore⟩, hpaced.trans hmorePaced⟩

theorem mono {other : Passage → Prop} {run : Run α} (hrun : run.Passes auth kind)
    (hkind : ∀ passage, kind passage → other passage) : run.Passes auth other := by
  intro before result after hresult
  obtain ⟨passages, hpassages, hpaced⟩ := hrun before result after hresult
  exact ⟨passages, fun passage hpassage => hkind passage (hpassages passage hpassage), hpaced⟩

theorem lift (outcome : Except Fault α) : (liftM outcome : Run α).Passes auth kind := by
  apply of_idle
  intro before result after hrun
  obtain ⟨-, rfl⟩ := Run.liftM_eq_ok.1 hrun
  exact ⟨rfl, rfl, rfl⟩

theorem get : (MonadState.get : Run Traffic).Passes auth kind := by
  apply of_idle
  intro before result after hrun
  obtain ⟨-, rfl⟩ := Run.get_eq_ok.1 hrun
  exact ⟨rfl, rfl, rfl⟩

theorem throw (fault : Fault) : (MonadExcept.throw fault : Run α).Passes auth kind := by
  intro before result after hrun
  cases hrun

theorem pause (d : Duration) : (Run.pause d).Passes auth kind := by
  apply of_idle
  intro before result after hrun
  obtain rfl := Run.modify_eq_ok.1 hrun
  exact ⟨by simp [Traffic.add, Act.isPaced], rfl, rfl⟩

theorem validate (validator : Schema.Validator) (payload schema : Json) :
    (Run.validate validator payload schema).Passes auth kind := by
  apply of_idle
  intro before result after hrun
  obtain ⟨_, middle, hmodify, hpure⟩ := Run.bind_eq_ok.1 hrun
  obtain rfl := Run.modify_eq_ok.1 hmodify
  obtain ⟨-, rfl⟩ := Run.pure_eq_ok.1 hpure
  exact ⟨by simp [Traffic.add, Act.isPaced], rfl, rfl⟩

theorem pass {endpoint : String} {request : Http.Request} {whole : Bool}
    (hkind : ∀ waits opening, kind { endpoint, waits, request, whole, opening }) :
    (Run.pass auth endpoint request whole).Passes auth kind := by
  intro before result after hrun
  obtain ⟨served, hserve, -, rfl⟩ := Run.pass_eq_ok.1 hrun
  let passage : Passage :=
    { endpoint, waits := served.1, request, whole, opening := (before.peer.opening auth request).1 }
  have hpaced : Paced auth before [passage] _ := .of_serve rfl hserve
  exact ⟨[passage], List.forall_mem_singleton.2 (hkind _ _), hpaced⟩

theorem pervasive (auth : Auth) (kind : Passage → Prop) :
    Pervasive fun _ run => run.Passes auth kind :=
  { pure, bind, lift, pause, get, validate }

end Run.Passes

/-- Whether a request is one to an endpoint. -/
def Connector.Targets (connector : Connector) (name : String) (request : Http.Request) : Prop :=
  ∃ endpoint, connector.endpoint name = .ok endpoint ∧
    request.url = connector.urlOf endpoint.path ∧ request.method = endpoint.method

/-- Whether a passage is one to an endpoint of a connector, for the whole of its answer or for the
head of it. -/
structure Passage.IsTo (connector : Connector) (name : String) (whole : Bool) (passage : Passage) :
    Prop where
  endpoint_eq : passage.endpoint = name
  whole_eq : passage.whole = whole
  target : connector.Targets name passage.request

namespace Connector

variable {connector : Connector} {name : String} {whole : Bool}

theorem targets_of_prepare {params : Table Json} {request : Http.Request}
    (hrequest : connector.prepare name params = .ok request) : connector.Targets name request := by
  unfold prepare at hrequest
  cases hendpoint : connector.endpoint name with
  | error error =>
      rw [hendpoint] at hrequest
      cases hrequest
  | ok endpoint =>
      rw [hendpoint] at hrequest
      obtain rfl := Except.ok.inj hrequest
      exact ⟨endpoint, hendpoint, rfl, rfl⟩

theorem targets_of_prepareStream {params : Table Json} {lastEventId : Option String}
    {request : Http.Request}
    (hrequest : connector.prepareStream name params lastEventId = .ok request) :
    connector.Targets name request := by
  unfold prepareStream at hrequest
  cases hplain : connector.prepare name params with
  | error error =>
      rw [hplain] at hrequest
      cases hrequest
  | ok plain =>
      rw [hplain] at hrequest
      obtain rfl := Except.ok.inj hrequest
      obtain ⟨endpoint, hendpoint, hurl, hmethod⟩ := targets_of_prepare hplain
      exact ⟨endpoint, hendpoint, hurl, hmethod⟩

/-- What a connector may do for a call to an endpoint. -/
abbrev Passes {α : Type} (connector : Connector) (name : String) (whole : Bool) (run : Run α) :
    Prop :=
  run.Passes connector.definition.auth (Passage.IsTo connector name whole)

theorem passes_pass {request : Http.Request} (htarget : connector.Targets name request)
    (whole : Bool) :
    connector.Passes name whole (Run.pass connector.definition.auth name request whole) :=
  .pass fun _ _ => ⟨rfl, rfl, htarget⟩

theorem passes_pervasive (connector : Connector) (name : String) (whole : Bool) :
    Run.Pervasive fun _ run => connector.Passes name whole run :=
  Run.Passes.pervasive _ _

theorem passes_fetch (connector : Connector) (name : String) (params : Option (Table Json)) :
    connector.Passes name true (connector.fetch name params).run :=
  (passes_pervasive connector name true).fetch
    (fun _ _ hrequest => passes_pass (targets_of_prepare hrequest) true) params

theorem passes_send (connector : Connector) (name : String) (value : Json) :
    connector.Passes name true (connector.send name value).run := by
  apply (passes_pervasive connector name true).send
  intro request body hrequest
  have hplain : connector.Targets name request := targets_of_prepare hrequest
  have htarget : connector.Targets name { request with body } := hplain
  exact passes_pass htarget true

end Connector

namespace Session

variable {connector : Connector} {session next : Session} {before after : Traffic}
  {pull : Option Pull} {more : List Contact}

theorem Departure.endpoint_eq {failure : Option Error}
    (h : Departure session before failure next pull after) : next.endpoint = session.endpoint := by
  cases h <;> rfl

theorem Transition.endpoint_eq (h : Transition connector session before next pull more after) :
    next.endpoint = session.endpoint := by
  cases h with
  | refused hready hphase hrequest hattempt hdeparture => exact hdeparture.endpoint_eq
  | read hready hphase hnext hpush htake =>
      obtain ⟨blocks, rfl, -⟩ := takeLines_eq htake
      rfl
  | filled hready hphase hnext hpush htake =>
      obtain ⟨blocks, rfl, -⟩ := takeLines_eq htake
      rfl
  | lost hready hphase hlost hdeparture => exact hdeparture.endpoint_eq
  | completed hready hphase hnext hlast hfull =>
      rw [hlast, takeBlock_eq]
      rfl
  | closed hready hphase hnext hlast hfull hdeparture =>
      rw [hdeparture.endpoint_eq, hlast, takeBlock_eq]
      rfl
  | _ => rfl

theorem passes_step (connector : Connector) (session : Session) :
    connector.Passes session.endpoint false (session.step connector) :=
  (Connector.passes_pervasive connector session.endpoint false).step fun _ hrequest =>
    Connector.passes_pass (Connector.targets_of_prepareStream hrequest) false

theorem passes_step_bind {α : Type} {name : String} {rest : Session × Option Pull → Run α}
    (hname : session.endpoint = name)
    (hrest : ∀ next pull, next.endpoint = name → connector.Passes name false (rest (next, pull))) :
    connector.Passes name false (session.step connector >>= rest) := by
  subst hname
  intro before result after hrun
  -- That the next session has the same endpoint is known only of the step that gave it.
  obtain ⟨⟨next, pull⟩, middle, hstep, hrun⟩ := Run.bind_eq_ok.1 hrun
  obtain ⟨passages, hpassages, hpaced⟩ := passes_step connector session _ _ _ hstep
  obtain ⟨more, hmore, hmorePaced⟩ :=
    hrest next pull (step_transition hstep).endpoint_eq _ _ _ hrun
  exact ⟨passages ++ more, List.forall_mem_append.2 ⟨hpassages, hmore⟩, hpaced.trans hmorePaced⟩

theorem passes_pullWithin {name : String} (hname : session.endpoint = name) (fuel : Nat) :
    connector.Passes name false (session.pullWithin connector fuel) := by
  induction fuel generalizing session with
  | zero => exact .throw _
  | succ fuel ih =>
      apply passes_step_bind hname
      intro next pull hnext
      cases pull with
      | none => exact ih hnext
      | some pull => exact .pure _

theorem passes_drainWithin {name : String} (hname : session.endpoint = name) (fuel : Nat) :
    connector.Passes name false (session.drainWithin connector fuel) := by
  induction fuel generalizing session with
  | zero => exact .throw _
  | succ fuel ih =>
      apply passes_step_bind hname
      intro next pull hnext
      cases pull with
      | none => exact ih hnext
      | some pull =>
          cases pull with
          | event event => exact .bind (ih hnext) fun _ => .pure _
          | failed error => exact .pure _
          | ended => exact .pure _

end Session

theorem Connector.passes_consume (connector : Connector) (name : String) (params : Table Json)
    (request : EventStream.ConsumeRequest) :
    connector.Passes name false (connector.consume name params request).run := by
  have hparts := passes_pervasive connector name false
  apply hparts.activity_bind (hparts.ofResult _)
  intro endpoint
  apply hparts.activity_bind (hparts.ofResult _)
  intro limits
  apply hparts.liftM_bind (.lift _)
  intro consumption
  cases hstream : connector.stream name params request.stream with
  | error error => exact .pure _
  | ok session =>
      have hname : session.endpoint = name := by
        unfold stream at hstream
        cases hendpoint : connector.endpoint name with
        | error error =>
            rw [hendpoint] at hstream
            cases hstream
        | ok endpoint =>
            rw [hendpoint] at hstream
            rw [← Except.ok.inj hstream]
            rfl
      rw [Activity.ofResult_ok_bind]
      apply hparts.liftM_bind (.bind .get fun traffic => Session.passes_drainWithin hname _)
      intro events
      split <;> exact .pure _

end ApiBridge
