import ApiBridge.Proofs.Connector.Checks
import ApiBridge.Proofs.Connector.Course
import ApiBridge.Proofs.Pagination.Walk

namespace ApiBridge

namespace Connector

variable {connector : Connector} {before after : Traffic}

theorem leaves_sendOnce (connector : Connector) (name : String) (request : Http.Request) :
    (connector.sendOnce name request).Leaves [.request request] :=
  .of_pass (connector.sendOnce_run name request)

theorem leaves_fetchPage {name : String} {params : Table Json} {request : Http.Request}
    (hrequest : connector.prepare name params = .ok request) :
    (connector.fetchPage name params).Leaves [.request request] :=
  .of_pass (fetchPage_run hrequest)

theorem leaves_responseData (connector : Connector) (endpoint : Endpoint)
    (response : Http.Response) : (connector.responseData endpoint response).Leaves [] := by
  refine .ofResult_bind fun _ => .ofResult_bind fun value => ?_
  split
  · exact .validate_bind fun _ => .ofResult (.ok _)
  · exact .ofResult (.ok _)

theorem ownMarks_of_pages {name : String} {endpoint : Endpoint} {visits : List Pagination.Visit}
    (hendpoint : connector.endpoint name = .ok endpoint)
    (hasks : Pagination.Asks (connector.pages name) before visits after) :
    ∃ requests : List Http.Request,
      visits.map (fun visit => connector.prepare name visit.params) = requests.map .ok ∧
        after.ownMarks = before.ownMarks ++ requests.map .request := by
  induction hasks with
  | nil => exact ⟨[], rfl, by simp⟩
  | @snoc visits middle after params body hasks hfetch ih =>
      obtain ⟨requests, hrequests, hmarks⟩ := ih
      obtain ⟨request, hrequest⟩ := prepare_eq_ok hendpoint params
      obtain ⟨outcome, reached, hpage, hbody⟩ := Run.bind_eq_ok.1 hfetch
      obtain rfl : reached = after := by
        cases outcome <;> exact (Run.pure_eq_ok.1 hbody).2
      refine ⟨requests ++ [request], by simp [hrequests, hrequest], ?_⟩
      rw [leaves_fetchPage hrequest _ _ _ hpage, hmarks, List.map_append, List.append_assoc]
      rfl

theorem ownMarks_of_pagesData {name : String} {endpoint : Endpoint} {params : Table Json}
    {data : Payload} {outcome : Except Error Payload}
    (hendpoint : connector.endpoint name = .ok endpoint)
    (hrun : (connector.pagesData name endpoint params data).run before = .ok (outcome, after)) :
    ∃ pages : List Http.Request, after.ownMarks = before.ownMarks ++ pages.map .request ∧
      (pages ≠ [] → endpoint.pagination.isSome ∧ outcome.isOk) := by
  unfold pagesData at hrun
  cases hpagination : endpoint.pagination with
  | none =>
      rw [hpagination] at hrun
      obtain ⟨rfl, rfl⟩ := Activity.pure_eq_ok.1 hrun
      exact ⟨[], (List.append_nil _).symm, by simp⟩
  | some spec =>
      rw [hpagination] at hrun
      obtain ⟨items, walked, hwalk, hrun⟩ := Activity.liftM_bind_eq_ok.1 hrun
      obtain ⟨rfl, rfl⟩ := Activity.pure_eq_ok.1 hrun
      obtain ⟨_, _, hget, hwalk⟩ := Run.bind_eq_ok.1 hwalk
      obtain ⟨rfl, rfl⟩ := Run.get_eq_ok.1 hget
      obtain ⟨visits, hasks, -⟩ := Pagination.exists_asks_of_walk hwalk
      obtain ⟨requests, -, hmarks⟩ := ownMarks_of_pages hendpoint hasks
      exact ⟨requests, hmarks, fun _ => ⟨rfl, rfl⟩⟩

theorem ownMarks_of_fetchOnce {name : String} {endpoint : Endpoint} {request : Http.Request}
    {params : Table Json} {outcome : Except Error Payload}
    (hendpoint : connector.endpoint name = .ok endpoint)
    (hrun : (connector.fetchOnce name endpoint request params).run before = .ok (outcome, after)) :
    ∃ pages, after.ownMarks = before.ownMarks ++ .request request :: pages.map .request ∧
      (pages ≠ [] → endpoint.pagination.isSome ∧ outcome.isOk) := by
  rw [fetchOnce_run hendpoint] at hrun
  obtain ⟨opening, passed, hpass, hrun⟩ := Run.bind_eq_ok.1 hrun
  obtain ⟨served, -, -, rfl⟩ := Run.pass_eq_ok.1 hpass
  have hpassed := before.ownMarks_passed connector.definition.auth name request true served
  cases hresponse : opening.response with
  | error error =>
      rw [hresponse] at hrun
      obtain ⟨-, rfl⟩ := Run.pure_eq_ok.1 hrun
      exact ⟨[], hpassed, by simp⟩
  | ok response =>
      rw [hresponse] at hrun
      rcases Activity.bind_eq_ok.1 hrun with ⟨error, hdata, -⟩ | ⟨data, received, hdata, hpages⟩
      · refine ⟨[], ?_, by simp⟩
        rw [leaves_responseData connector endpoint response _ _ _ hdata, List.append_nil, hpassed]
        rfl
      · obtain ⟨pages, hmarks, hmade⟩ := ownMarks_of_pagesData hendpoint hpages
        refine ⟨pages, ?_, hmade⟩
        rw [hmarks, leaves_responseData connector endpoint response _ _ _ hdata, List.append_nil,
          hpassed, List.append_assoc]
        rfl

end Connector

variable {α : Type}

/-- Whether nothing is tried again after an outcome: after a success, or if the configuration is at
fault. -/
def Connector.isFinal : Except Error α → Bool
  | .ok _ => true
  | .error error => error.isConfig

/-- Attempts at an action one after another, each followed by a wait that grows with their number:
their outcomes, and the traffic that the next attempt meets. -/
inductive Tries (delay : Duration) (action : Activity α) (before : Traffic) :
    List (Except Error α) → Traffic → Prop
  | nil : Tries delay action before [] before
  | snoc {outcomes : List (Except Error α)} {met after : Traffic} {outcome : Except Error α}
      (htries : Tries delay action before outcomes met)
      (hrun : action.run met = .ok (outcome, after)) :
      Tries delay action before (outcomes ++ [outcome])
        (after.add (.pause ⟨delay.nanoseconds * (outcomes.length + 1)⟩))

/-- What a number of failed attempts leave: their requests, each with the wait after it. -/
def backoff (delay : Duration) (request : Http.Request) : Nat → List Mark
  | 0 => []
  | attempts + 1 =>
      backoff delay request attempts ++
        [.request request, .wait ⟨delay.nanoseconds * (attempts + 1)⟩]

theorem Tries.ownMarks_eq {delay : Duration} {action : Activity α} {before met : Traffic}
    {outcomes : List (Except Error α)} {request : Http.Request}
    (h : Tries delay action before outcomes met)
    (hfailed : ∀ outcome ∈ outcomes, Connector.isFinal outcome = false)
    (haction : ∀ before outcome after, action.run before = .ok (outcome, after) →
      Connector.isFinal outcome = false → after.ownMarks = before.ownMarks ++ [.request request]) :
    met.ownMarks = before.ownMarks ++ backoff delay request outcomes.length := by
  induction h with
  | nil => rw [List.length_nil, backoff, List.append_nil]
  | @snoc outcomes met after outcome htries hrun ih =>
      have hmet := ih fun outcome hmem => hfailed outcome (List.mem_append_left _ hmem)
      have hafter := haction met outcome after hrun (hfailed outcome (by simp))
      rw [Traffic.ownMarks_of_log rfl, hafter, hmet, List.length_append, List.length_singleton,
        backoff, List.append_assoc, List.append_assoc]
      rfl

theorem Traffic.requests_pause (traffic : Traffic) (d : Duration) :
    (traffic.add (.pause d)).requests = traffic.requests := by
  simp [requests, add, Act.request?]

/-- Whether an activity, wherever it fails, has made a request and fails the way the answer to it is
read. -/
def Activity.FailsBy (activity : Activity α) (auth : Auth) (request : Http.Request)
    (read : List UInt8 → Except Error Json) : Prop :=
  ∀ before error after, activity.run before = .ok (.error error, after) →
    Connector.answerValue read (before.peer.opening auth request).1 = .error error ∧
      after.peer = (before.peer.opening auth request).2 ∧
      after.requests = before.requests ++ [request]

theorem Tries.failures_eq {delay : Duration} {action : Activity α} {before met : Traffic}
    {outcomes : List (Except Error α)} {auth : Auth} {request : Http.Request}
    {read : List UInt8 → Except Error Json} (h : Tries delay action before outcomes met)
    (hfailed : ∀ outcome ∈ outcomes, Connector.isFinal outcome = false)
    (haction : action.FailsBy auth request read) :
    let requests := List.replicate outcomes.length request
    (∃ errors : List Error, outcomes = errors.map .error ∧
      (before.peer.openings auth requests).map (Connector.answerValue read) =
        errors.map .error) ∧
      met.peer = before.peer.afterRequests auth requests ∧
      met.requests = before.requests ++ requests := by
  induction h with
  | nil => exact ⟨⟨[], rfl, rfl⟩, rfl, (List.append_nil _).symm⟩
  | @snoc outcomes met after outcome htries hrun ih =>
      obtain ⟨hearlier, hlast⟩ := List.forall_mem_append.1 hfailed
      obtain ⟨⟨errors, rfl, hopenings⟩, hpeer, hrequests⟩ := ih hearlier
      cases outcome with
      | ok value => cases hlast _ (List.mem_singleton_self _)
      | error error =>
          obtain ⟨hanswer, hafter, hmade⟩ := haction met error after hrun
          dsimp only
          rw [List.length_append, List.length_singleton, List.replicate_succ']
          refine ⟨⟨errors ++ [error], by rw [List.map_append]; rfl, ?_⟩, ?_, ?_⟩
          · rw [Http.Peer.openings_append, List.map_append, hopenings, ← hpeer, List.map_append]
            exact congrArg _ (congrArg (fun outcome => [outcome]) hanswer)
          · change after.peer = _
            rw [hafter, hpeer]
            simp [Http.Peer.afterRequests]
          · rw [Traffic.requests_pause, hmade, hrequests, List.append_assoc]

namespace Connector

theorem attempt_bind_run {β : Type} (activity : Activity α)
    (second : Except Error α → Activity β) (before : Traffic) :
    (activity.attempt >>= second : Activity β).run before =
      activity.run before >>= fun state => (second state.1).run state.2 := by
  change ((activity.run >>= fun value => pure (Except.ok value)) >>= ExceptT.bindCont second)
    before = _
  change ((activity.run before >>= fun state => Except.ok (Except.ok state.1, state.2)) >>= _) = _
  cases activity.run before <;> rfl

theorem attempt_bind_eq_ok {β : Type} {activity : Activity α}
    {second : Except Error α → Activity β} {result : Except Error β} {before after : Traffic} :
    (activity.attempt >>= second : Activity β).run before = .ok (result, after) ↔
      ∃ outcome middle, activity.run before = .ok (outcome, middle) ∧
        (second outcome).run middle = .ok (result, after) := by
  rw [attempt_bind_run]
  cases hrun : activity.run before with
  | error fault => simp [bind, Except.bind]
  | ok state =>
      rcases state with ⟨outcome, middle⟩
      simp [bind, Except.bind, and_assoc]

theorem retry_succ_run {delay : Duration} {attempt : Nat} {action : Activity α}
    (hdelay : delay.nanoseconds * attempt ≤ Duration.max.nanoseconds) (left : Nat)
    (before : Traffic) :
    (retry delay action (left + 1) attempt).run before =
      action.run before >>= fun state =>
        if isFinal state.1 then .ok state
        else (retry delay action left (attempt + 1)).run
          (state.2.add (.pause ⟨delay.nanoseconds * attempt⟩)) := by
  rw [retry, attempt_bind_run]
  congr 1
  funext state
  rcases state with ⟨outcome, after⟩
  cases outcome with
  | ok value => rfl
  | error error =>
      cases hconfig : error.isConfig with
      | true =>
          simp only [isFinal, hconfig, if_true]
          rfl
      | false =>
          have htimes : delay.times attempt = .ok ⟨delay.nanoseconds * attempt⟩ := if_pos hdelay
          simp only [isFinal, hconfig, htimes, Bool.false_eq_true, if_false]
          rfl

theorem retry_of_tries {delay : Duration} {action : Activity α} {before met : Traffic}
    {outcomes : List (Except Error α)} (left : Nat) (h : Tries delay action before outcomes met)
    (hfailed : ∀ outcome ∈ outcomes, isFinal outcome = false)
    (hdelay : ∀ attempt ≤ outcomes.length + left,
      delay.nanoseconds * attempt ≤ Duration.max.nanoseconds) :
    ∃ earlier last, Tries delay action before earlier last ∧
      (∀ outcome ∈ earlier, isFinal outcome = false) ∧
      earlier.length ≤ outcomes.length + left ∧
      (retry delay action left (outcomes.length + 1)).run met = action.run last ∧
      ∀ outcome after, action.run last = .ok (outcome, after) →
        isFinal outcome ∨ earlier.length = outcomes.length + left := by
  -- Each round that fails moves one of the attempts that are left to the outcomes so far.
  induction left generalizing outcomes met with
  | zero => exact ⟨outcomes, met, h, hfailed, Nat.le_refl _, rfl, fun _ _ _ => .inr rfl⟩
  | succ left ih =>
      rw [retry_succ_run (hdelay _ (by omega))]
      cases hrun : action.run met with
      | error fault =>
          refine ⟨outcomes, met, h, hfailed, by omega, hrun.symm, fun _ _ hok => ?_⟩
          simp [hrun] at hok
      | ok state =>
          rcases state with ⟨outcome, after⟩
          cases hfinal : isFinal outcome with
          | true =>
              refine ⟨outcomes, met, h, hfailed, by omega, ?_, fun _ _ hok => .inl ?_⟩
              · rw [hrun]
                exact if_pos hfinal
              · rw [hrun] at hok
                rw [← (Prod.mk.inj (Except.ok.inj hok)).1, hfinal]
          | false =>
              have hmore : ∀ other ∈ outcomes ++ [outcome], isFinal other = false := by
                intro other hother
                rcases List.mem_append.1 hother with hearlier | hlast
                · exact hfailed other hearlier
                · rw [List.mem_singleton.1 hlast, hfinal]
              have hlength : (outcomes ++ [outcome]).length + left =
                  outcomes.length + (left + 1) := by
                rw [List.length_append, List.length_singleton]
                omega
              obtain ⟨earlier, last, htries, hearlier, hbound, hretry, hend⟩ :=
                ih (h.snoc hrun) hmore (by rwa [hlength])
              rw [hlength] at hbound hend
              rw [List.length_append, List.length_singleton] at hretry
              refine ⟨earlier, last, htries, hearlier, hbound, ?_, hend⟩
              rw [← hretry]
              exact if_neg (by simp [hfinal])

theorem retry_succ_eq_ok {delay : Duration} {action : Activity α} {left attempt : Nat}
    {before after : Traffic} {result : Except Error α}
    (hrun : (retry delay action (left + 1) attempt).run before = .ok (result, after)) :
    ∃ outcome middle, action.run before = .ok (outcome, middle) ∧
      (isFinal outcome = true ∧ outcome = result ∧ middle = after ∨
        isFinal outcome = false ∧ (retry delay action left (attempt + 1)).run
          (middle.add (.pause ⟨delay.nanoseconds * attempt⟩)) = .ok (result, after)) := by
  obtain ⟨outcome, middle, haction, hrun⟩ := attempt_bind_eq_ok.1 hrun
  refine ⟨outcome, middle, haction, ?_⟩
  cases outcome with
  | ok value =>
      obtain ⟨hresult, hafter⟩ := Activity.pure_eq_ok.1 hrun
      exact .inl ⟨rfl, hresult, hafter⟩
  | error error =>
      change (ite _ (throw error) _ : Activity α).run middle = _ at hrun
      split at hrun
      · next hconfig =>
          obtain ⟨hresult, hafter⟩ := Activity.throw_eq_ok.1 hrun
          exact .inl ⟨hconfig, hresult, hafter⟩
      · next hopen =>
          obtain ⟨wait, timed, hwait, hrun⟩ := Activity.liftM_bind_eq_ok.1 hrun
          obtain ⟨htimes, rfl⟩ := Run.liftM_eq_ok.1 hwait
          obtain ⟨_, paused, hpause, hrun⟩ := Activity.liftM_bind_eq_ok.1 hrun
          obtain rfl := Run.modify_eq_ok.1 hpause
          have hproduct : (⟨delay.nanoseconds * attempt⟩ : Duration) = wait := by
            unfold Duration.times at htimes
            split at htimes
            · exact Except.ok.inj htimes
            · cases htimes
          exact .inr ⟨Bool.eq_false_iff.2 hopen, by rw [hproduct]; exact hrun⟩

/-- What retrying comes to after some failed attempts is what the last attempt comes to. -/
theorem tries_of_retry {delay : Duration} {action : Activity α} {before met after : Traffic}
    {outcomes : List (Except Error α)} {result : Except Error α} (left : Nat)
    (h : Tries delay action before outcomes met)
    (hfailed : ∀ outcome ∈ outcomes, isFinal outcome = false)
    (hrun : (retry delay action left (outcomes.length + 1)).run met = .ok (result, after)) :
    ∃ earlier last, Tries delay action before earlier last ∧
      (∀ outcome ∈ earlier, isFinal outcome = false) ∧
      earlier.length ≤ outcomes.length + left ∧ action.run last = .ok (result, after) ∧
      (isFinal result ∨ earlier.length = outcomes.length + left) := by
  induction left generalizing outcomes met with
  | zero => exact ⟨outcomes, met, h, hfailed, Nat.le_refl _, hrun, .inr rfl⟩
  | succ left ih =>
      obtain ⟨outcome, middle, haction, ⟨hfinal, rfl, rfl⟩ | ⟨hopen, hrun⟩⟩ := retry_succ_eq_ok hrun
      · exact ⟨outcomes, met, h, hfailed, Nat.le_add_right _ _, haction, .inl hfinal⟩
      · have hlength : (outcomes ++ [outcome]).length = outcomes.length + 1 := by simp
        have hmore : ∀ other ∈ outcomes ++ [outcome], isFinal other = false :=
          List.forall_mem_append.2 ⟨hfailed, List.forall_mem_singleton.2 hopen⟩
        have hrest := ih (h.snoc haction) hmore
        rw [hlength] at hrest
        obtain ⟨earlier, last, htries, hearlier, hbound, hlast, hend⟩ := hrest hrun
        exact ⟨earlier, last, htries, hearlier, by omega, hlast, hend.imp_right (by omega)⟩

theorem exists_retry {delay : Duration} {action : Activity α} {holds : Traffic → Prop}
    (hpause : ∀ traffic d, holds traffic → holds (traffic.add (.pause d)))
    (haction : ∀ before, holds before →
      ∃ outcome after, action.run before = .ok (outcome, after) ∧ holds after)
    {left attempt : Nat}
    (hdelay : ∀ number < attempt + left,
      delay.nanoseconds * number ≤ Duration.max.nanoseconds)
    {before : Traffic} (hbefore : holds before) :
    ∃ outcome after, (retry delay action left attempt).run before = .ok (outcome, after) := by
  induction left generalizing attempt before with
  | zero =>
      obtain ⟨outcome, after, hrun, -⟩ := haction before hbefore
      exact ⟨outcome, after, hrun⟩
  | succ left ih =>
      obtain ⟨outcome, after, hrun, hafter⟩ := haction before hbefore
      rw [retry_succ_run (hdelay attempt (by omega)), hrun]
      change ∃ _ _, (if isFinal outcome then Except.ok (outcome, after) else _) = _
      split
      · exact ⟨outcome, after, rfl⟩
      · apply ih _ (hpause after _ hafter)
        intro number hnumber
        exact hdelay number (by omega)

/-- Attempts at an action with a request, the last of which counts: it is the first one to be final,
or no more are allowed. Further pages are asked for only after a success. -/
structure Retried (connector : Connector) (request : Http.Request) (paged : Bool)
    (action : Activity α) (before : Traffic) (earlier : List (Except Error α)) (last : Traffic) :
    Prop where
  tries : Tries connector.definition.retryDelay action before earlier last
  failed : ∀ outcome ∈ earlier, isFinal outcome = false
  length_lt : earlier.length < max connector.definition.retryCount 1
  ended : ∀ outcome after, action.run last = .ok (outcome, after) →
    isFinal outcome ∨ earlier.length + 1 = max connector.definition.retryCount 1
  marks : ∀ outcome after, action.run last = .ok (outcome, after) →
    ∃ pages, after.ownMarks = before.ownMarks ++
        backoff connector.definition.retryDelay request earlier.length ++
          .request request :: pages.map .request ∧
      (pages ≠ [] → paged ∧ outcome.isOk)

theorem isFinal_of_isOk {outcome : Except Error α} (hok : outcome.isOk) : isFinal outcome := by
  cases outcome with
  | ok value => rfl
  | error error => simp [Except.isOk, Except.toBool] at hok

theorem withRetries_run {connector : Connector} {action : Activity α} (request : Http.Request)
    (paged : Bool) (before : Traffic)
    (hdelay : ∀ attempt < max connector.definition.retryCount 1,
      connector.definition.retryDelay.nanoseconds * attempt ≤ Duration.max.nanoseconds)
    (haction : ∀ before outcome after, action.run before = .ok (outcome, after) →
      ∃ pages, after.ownMarks = before.ownMarks ++ .request request :: pages.map .request ∧
        (pages ≠ [] → paged ∧ outcome.isOk)) :
    ∃ earlier last, connector.Retried request paged action before earlier last ∧
      (connector.withRetries action).run before = action.run last := by
  have hfailing : ∀ before outcome after, action.run before = .ok (outcome, after) →
      isFinal outcome = false → after.ownMarks = before.ownMarks ++ [.request request] := by
    intro before outcome after hrun hopen
    obtain ⟨pages, hmarks, hpages⟩ := haction before outcome after hrun
    cases pages with
    | nil => exact hmarks
    | cons page rest => simp [isFinal_of_isOk (hpages (by simp)).2] at hopen
  obtain ⟨earlier, last, htries, hfailed, hlength, hretry, hended⟩ :=
    retry_of_tries (connector.definition.retryCount - 1)
      (Tries.nil : Tries connector.definition.retryDelay action before [] before) (by simp)
      fun attempt hattempt => hdelay attempt (by rw [List.length_nil] at hattempt; omega)
  rw [List.length_nil, Nat.zero_add] at hlength hended
  refine ⟨earlier, last, ⟨htries, hfailed, by omega, ?_, ?_⟩, hretry⟩
  · intro outcome after hrun
    rcases hended outcome after hrun with hfinal | hall
    · exact .inl hfinal
    · exact .inr (by omega)
  · intro outcome after hrun
    obtain ⟨pages, hmarks, hpages⟩ := haction last outcome after hrun
    exact ⟨pages, by rw [hmarks, htries.ownMarks_eq hfailed hfailing], hpages⟩

/-- What becomes of an error: its report, unless the configuration is at fault. -/
def reported (report : Error → ApiError) (error : Error) : Error :=
  if error.isConfig then error else .api (report error)

theorem reporting_run (activity : Activity α) (report : Error → ApiError) (before : Traffic) :
    (reporting activity report).run before =
      activity.run before >>= fun state => .ok (state.1.mapError (reported report), state.2) := by
  rw [reporting, attempt_bind_run]
  congr 1
  funext state
  rcases state with ⟨outcome, after⟩
  cases outcome <;> rfl

theorem reporting_eq_ok {activity : Activity α} {report : Error → ApiError} {value : α}
    {before after : Traffic} :
    (reporting activity report).run before = .ok (.ok value, after) ↔
      activity.run before = .ok (.ok value, after) := by
  rw [reporting_run]
  cases activity.run before with
  | error fault => rfl
  | ok state =>
      rcases state with ⟨outcome, middle⟩
      cases outcome with
      | error error => simp [bind, Except.bind, Except.mapError]
      | ok result => rfl

def fetchReport (name : String) (params : Option (Table Json)) (request : Http.Request)
    (error : Error) : ApiError :=
  (requestReport ("Failed to fetch data from " ++ name) name request error).withContext "params"
    (.ofOption .object params)

def sendReport (name : String) (request : Http.Request) : Error → ApiError :=
  requestReport ("Failed to send data to " ++ name) name request

section

variable {connector : Connector} {name : String} {endpoint : Endpoint} {request : Http.Request}

theorem fetch_eq {params : Option (Table Json)}
    (hendpoint : connector.endpoint name = .ok endpoint)
    (hrequest : connector.prepare name (params.getD []) = .ok request) :
    connector.fetch name params =
      reporting
        (connector.withRetries (connector.fetchOnce name endpoint request (params.getD [])))
        (fetchReport name params request) := by
  rw [fetch, hendpoint]
  change (Activity.ofResult (connector.prepare name (params.getD [])) >>= _ : Activity _) = _
  rw [hrequest]
  rfl

theorem fetch_eq_throw {error : Error} (hendpoint : connector.endpoint name = .error error)
    (params : Option (Table Json)) : connector.fetch name params = throw error := by
  rw [fetch, hendpoint]
  rfl

theorem send_eq_throw {error : Error} (hendpoint : connector.endpoint name = .error error)
    (value : Json) : connector.send name value = throw error := by
  rw [send, hendpoint]
  rfl

theorem reporting_single_run (activity : Activity Json) (report : Error → ApiError)
    (before : Traffic) :
    (do return .single (← reporting activity report) : Activity Delivery).run before =
      activity.run before >>= fun state =>
        .ok ((state.1.mapError (reported report)).map .single, state.2) := by
  change ((reporting activity report).run before >>= _) = _
  rw [reporting_run]
  rcases activity.run before with fault | ⟨outcome | outcome, after⟩ <;> rfl

theorem deliver_run {value : Json} (hvalue : value.array? = none) (before : Traffic) :
    (connector.deliver name request value).run before =
      (connector.withRetries
        (connector.sendOnce name { request with body := some value })).run before >>=
          fun state => .ok ((state.1.mapError (reported (sendReport name
            { request with body := some value }))).map .single, state.2) := by
  cases value with
  | array items => cases hvalue
  | _ => exact reporting_single_run _ _ before

theorem send_run {value : Json} (hendpoint : connector.endpoint name = .ok endpoint)
    (hrequest : connector.prepare name [] = .ok request) (hvalue : value.array? = none)
    (before : Traffic) :
    ∃ checked, checked.unchecked = before.unchecked ∧
      (connector.accepts endpoint value = false →
        ∃ report, (connector.send name value).run before = .ok (.error (.api report), checked)) ∧
      (connector.accepts endpoint value →
        (connector.send name value).run before =
          (connector.withRetries
            (connector.sendOnce name { request with body := some value })).run checked >>=
              fun state => .ok ((state.1.mapError (reported (sendReport name
                { request with body := some value }))).map .single, state.2)) := by
  obtain ⟨checked, hchecked, haccepted, hrefused⟩ :=
    connector.checkPayload_run name endpoint value before
  rw [hvalue] at haccepted hrefused
  rw [send_eq_deliver hendpoint hrequest]
  refine ⟨checked, hchecked, ?_, ?_⟩
  · intro hinvalid
    obtain ⟨report, hrun⟩ := hrefused ⟨value, List.mem_singleton_self value, hinvalid⟩
    exact ⟨report, Activity.bind_run_of_error hrun _⟩
  · intro hvalid
    rw [Activity.bind_run_of_ok (haccepted (List.forall_mem_singleton.2 hvalid)),
      deliver_run hvalue]

end

/-- What fetching, and sending a value that is no list, come to as long as the waits between the
attempts can be told. A call for an endpoint that there is not does nothing, and a value that is
refused is not sent. Otherwise attempts are made until one is final or as many have been made as the
definition says. They all have the same request, with the growing waits in between, and the result
is that of the last one, an error being reported. -/
theorem retried_of_calls (connector : Connector) (name : String) (before : Traffic)
    (hdelay : ∀ attempt < max connector.definition.retryCount 1,
      connector.definition.retryDelay.nanoseconds * attempt ≤ Duration.max.nanoseconds) :
    (∀ error, connector.endpoint name = .error error →
      (∀ params, (connector.fetch name params).run before = .ok (.error error, before)) ∧
        ∀ value, (connector.send name value).run before = .ok (.error error, before)) ∧
    ∀ endpoint, connector.endpoint name = .ok endpoint →
      (∀ params, ∃ request earlier last,
        connector.prepare name (params.getD []) = .ok request ∧
        let action := connector.fetchOnce name endpoint request (params.getD [])
        connector.Retried request endpoint.pagination.isSome action before earlier last ∧
        (connector.fetch name params).run before = action.run last >>= fun state =>
          .ok (state.1.mapError (reported (fetchReport name params request)), state.2)) ∧
      ∀ value, value.array? = none →
        ∃ checked, checked.ownMarks = before.ownMarks ∧
          (connector.accepts endpoint value = false →
            ∃ report, (connector.send name value).run before =
              .ok (.error (.api report), checked)) ∧
          (connector.accepts endpoint value → ∃ plain request earlier last,
            connector.prepare name [] = .ok plain ∧ request = { plain with body := some value } ∧
            let action := connector.sendOnce name request
            connector.Retried request false action checked earlier last ∧
            (connector.send name value).run before = action.run last >>= fun state =>
              .ok ((state.1.mapError (reported (sendReport name request))).map .single,
                state.2)) := by
  refine ⟨fun error herror => ⟨fun params => ?_, fun value => ?_⟩,
    fun endpoint hendpoint => ⟨fun params => ?_, fun value hvalue => ?_⟩⟩
  · rw [fetch, herror]
    rfl
  · rw [send, herror]
    rfl
  · obtain ⟨request, hrequest⟩ := prepare_eq_ok hendpoint (params.getD [])
    obtain ⟨earlier, last, hretried, hrun⟩ :=
      withRetries_run request endpoint.pagination.isSome before hdelay
        fun _ _ _ hrun => ownMarks_of_fetchOnce hendpoint hrun
    refine ⟨request, earlier, last, hrequest, hretried, ?_⟩
    rw [fetch_eq hendpoint hrequest, reporting_run, hrun]
  · obtain ⟨plain, hplain⟩ := prepare_eq_ok hendpoint []
    obtain ⟨checked, hchecked, hrefused, haccepted⟩ := send_run hendpoint hplain hvalue before
    refine ⟨checked, (Traffic.eq_of_unchecked hchecked).2.2.2, hrefused, fun haccepts => ?_⟩
    obtain ⟨earlier, last, hretried, hrun⟩ :=
      withRetries_run { plain with body := some value } false checked hdelay
        fun _ _ _ hrun => ⟨[], leaves_sendOnce connector name _ _ _ _ hrun, by simp⟩
    refine ⟨plain, _, earlier, last, hplain, rfl, hretried, ?_⟩
    rw [haccepted haccepts, hrun]

/-- Fetching from a server that hangs up, fails, and then answers. -/
theorem retried_of_calls_sample :
    let start := Traffic.sample [.hangUp,
      .answer { status := 500, headers := [], chunks := [], ending := .complete },
      .sample [Utf8.encode "[1]"] .complete]
    ∃ endpoint request earlier last,
      Connector.sample.endpoint "events" = .ok endpoint ∧
      Connector.sample.prepare "events" [] = .ok request ∧
      let action := Connector.sample.fetchOnce "events" endpoint request []
      Connector.sample.Retried request false action start earlier last ∧
      (Connector.sample.fetch "events" none).run start = action.run last >>= (fun state =>
        .ok (state.1.mapError (reported (fetchReport "events" none request)), state.2)) ∧
      ((Connector.sample.fetch "events" none).run start).toOption.any fun state =>
        state.1.isOk && state.2.ownMarks.length == 5 := by
  intro start
  obtain ⟨request, earlier, last, hrequest, hretried, hrun⟩ :=
    ((retried_of_calls .sample "events" start (by decide +kernel)).2 (.new "/") rfl).1 none
  exact ⟨.new "/", request, earlier, last, rfl, hrequest, hretried, hrun, by decide +kernel⟩

end Connector

end ApiBridge
