import ApiBridge.Proofs.Connector.Batch
import ApiBridge.Proofs.Connector.Delivery

namespace ApiBridge

/-- Whether an error is the fault of the configuration or a report. -/
def Error.IsStructured (error : Error) : Prop :=
  error.isConfig = true ∨ ∃ report, error = .api report

theorem truncateBody_truncateBody (body : String) :
    truncateBody (truncateBody body) = truncateBody body := by
  rw [truncateBody, truncateBody, String.toList_ofList, List.take_take, Nat.min_self]

namespace ApiError

/-- Whether a report tells what has become of a request to an endpoint: its cause, and the text that
the other side has refused the request with, if it has. -/
structure Describes (report : ApiError) (name : String) (request : Http.Request) (cause : Error)
    (refusal : Option String) : Prop where
  category_eq : (report.category, report.status) = cause.categorize
  url_eq : report.requestUrl = some request.url
  method_eq : report.requestMethod = some request.method.name
  body_eq : report.responseBody = refusal.map fun text => String.ofList (text.toList.take 1000)
  endpoint_eq : report.context.find? "endpoint" = some (.string name)

variable {report : ApiError} {name : String} {request : Http.Request} {cause : Error}
  {refusal : Option String}

theorem responseBody_ofError (hbody : cause.responseBody? = refusal.map truncateBody)
    (message : String) :
    (ofError message cause).responseBody =
      refusal.map fun text => String.ofList (text.toList.take 1000) := by
  change cause.responseBody?.map truncateBody = refusal.map truncateBody
  rw [hbody, Option.map_map]
  exact congrArg (fun shorten => refusal.map shorten) (funext truncateBody_truncateBody)

theorem Describes.withContext (h : report.Describes name request cause refusal) {key : String}
    (hkey : "endpoint" ≠ key) (value : Json) :
    (report.withContext key value).Describes name request cause refusal where
  category_eq := h.category_eq
  url_eq := h.url_eq
  method_eq := h.method_eq
  body_eq := h.body_eq
  endpoint_eq := (Table.find?_put_of_ne _ hkey value report.context).trans h.endpoint_eq

end ApiError

namespace Connector

variable {name : String} {request : Http.Request} {cause : Error} {refusal : Option String}

theorem describes_requestReport (hbody : cause.responseBody? = refusal.map truncateBody)
    (message : String) :
    (requestReport message name request cause).Describes name request cause refusal where
  category_eq := rfl
  url_eq := rfl
  method_eq := rfl
  body_eq := ApiError.responseBody_ofError hbody (message ++ ": " ++ cause.message)
  endpoint_eq := Table.find?_put _ _ _

theorem describes_fetchReport (hbody : cause.responseBody? = refusal.map truncateBody)
    (params : Option (Table Json)) :
    (fetchReport name params request cause).Describes name request cause refusal :=
  (describes_requestReport hbody _).withContext (by decide) _

theorem describes_sendReport (hbody : cause.responseBody? = refusal.map truncateBody) :
    (sendReport name request cause).Describes name request cause refusal :=
  describes_requestReport hbody _

theorem describes_itemReport (hbody : cause.responseBody? = refusal.map truncateBody)
    (index : Nat) :
    (itemReport name request index cause).Describes name request cause refusal :=
  (describes_requestReport hbody _).withContext (by decide) _

end Connector

/-- The text that a request has been refused with: the body of an answer that has come whole and is
not a success. -/
def Run.Opening.refusal? (opening : Run.Opening) : Option String :=
  match opening.response with
  | .ok response => if response.isSuccess then none else some (Utf8.lossy response.body)
  | .error _ => none

namespace Connector

theorem jsonOf_eq_error {body : List UInt8} {error : Error} (h : jsonOf body = .error error) :
    error = .invalidJson := by
  unfold jsonOf at h
  split at h
  · cases h
  · exact (Except.error.inj h).symm

theorem bodyValue_eq_error {body : List UInt8} {error : Error} (h : bodyValue body = .error error) :
    error = .invalidJson := by
  unfold bodyValue at h
  split at h
  · cases h
  · exact jsonOf_eq_error h

theorem sentValue_eq_error {body : List UInt8} {error : Error} (h : sentValue body = .error error) :
    error = .invalidJson := by
  unfold sentValue at h
  split at h
  · cases h
  · exact jsonOf_eq_error h

theorem answerValue_eq_error {read : List UInt8 → Except Error Json} {opening : Run.Opening}
    {cause : Error} (hread : ∀ {body error}, read body = .error error → error = .invalidJson)
    (h : answerValue read opening = .error cause) :
    cause.isConfig = false ∧ cause.responseBody? = opening.refusal?.map truncateBody := by
  unfold answerValue at h
  unfold Run.Opening.refusal?
  split at h
  · next error hresponse =>
      obtain rfl := Except.error.inj h
      rw [hresponse]
      exact ⟨rfl, rfl⟩
  · next response hresponse =>
      rw [hresponse]
      dsimp only
      split at h
      · next hsuccess =>
          obtain rfl := hread h
          rw [if_pos hsuccess]
          exact ⟨rfl, rfl⟩
      · next hsuccess =>
          obtain rfl := Except.error.inj h
          rw [if_neg hsuccess]
          exact ⟨rfl, rfl⟩

variable {connector : Connector} {endpoint : Endpoint} {before after : Traffic}

theorem responseData_eq_error {response : Http.Response} {error : Error}
    (hrun : (connector.responseData endpoint response).run before = .ok (.error error, after)) :
    (if response.isSuccess then bodyValue response.body
      else .error (.ofStatus response.status response.text)) = .error error ∧ after = before := by
  unfold responseData checkStatus at hrun
  rcases Activity.bind_eq_ok.1 hrun with ⟨refused, hcheck, herror⟩ | ⟨_, _, hcheck, hrest⟩
  · obtain ⟨hrefused, rfl⟩ := Activity.ofResult_eq_ok.1 hcheck
    split at hrefused
    · cases hrefused
    · next hsuccess =>
        obtain rfl := Except.error.inj hrefused
        rw [if_neg hsuccess, Except.error.inj herror]
        exact ⟨rfl, rfl⟩
  · obtain ⟨haccepted, rfl⟩ := Activity.ofResult_eq_ok.1 hcheck
    split at haccepted
    · next hsuccess =>
        rw [if_pos hsuccess]
        rcases Activity.bind_eq_ok.1 hrest with ⟨unread, hread, herror⟩ | ⟨value, _, -, hchecks⟩
        · obtain ⟨hbody, rfl⟩ := Activity.ofResult_eq_ok.1 hread
          rw [hbody, Except.error.inj herror]
          exact ⟨rfl, rfl⟩
        · dsimp only at hchecks
          split at hchecks
          · obtain ⟨_, _, -, hpure⟩ := Activity.liftM_bind_eq_ok.1 hchecks
            cases (Activity.pure_eq_ok.1 hpure).1
          · cases (Activity.pure_eq_ok.1 hchecks).1
    · cases haccepted

theorem pagesData_ne_error {name : String} {params : Table Json} {data : Payload} {error : Error} :
    (connector.pagesData name endpoint params data).run before ≠ .ok (.error error, after) := by
  intro hrun
  unfold pagesData at hrun
  split at hrun
  · cases (Activity.pure_eq_ok.1 hrun).1
  · obtain ⟨_, _, -, hrun⟩ := Activity.liftM_bind_eq_ok.1 hrun
    cases (Activity.pure_eq_ok.1 hrun).1

theorem failsBy_fetchOnce {params : Table Json} (hendpoint : connector.endpoint name = .ok endpoint)
    (request : Http.Request) :
    (connector.fetchOnce name endpoint request params).FailsBy connector.definition.auth request
      bodyValue := by
  intro before error after hrun
  obtain ⟨pages, hmarks, hmade⟩ := ownMarks_of_fetchOnce hendpoint hrun
  -- Further pages are asked for only after a success.
  have hnone : pages = [] := by
    by_contra hsome
    cases (hmade hsome).2
  have hrequests : after.requests = before.requests ++ [request] := by
    rw [Traffic.requests_eq, hmarks, hnone, List.filterMap_append, ← Traffic.requests_eq]
    rfl
  rw [fetchOnce_run hendpoint] at hrun
  obtain ⟨opening, passed, hpass, hrun⟩ := Run.bind_eq_ok.1 hrun
  obtain ⟨served, -, rfl, rfl⟩ := Run.pass_eq_ok.1 hpass
  unfold answerValue
  cases hresponse : (before.peer.opening connector.definition.auth request).1.response with
  | error failure =>
      rw [hresponse] at hrun
      obtain ⟨hfailure, rfl⟩ := Run.pure_eq_ok.1 hrun
      obtain rfl := Except.error.inj hfailure
      exact ⟨rfl, rfl, hrequests⟩
  | ok response =>
      rw [hresponse] at hrun
      rcases Activity.bind_eq_ok.1 hrun with ⟨failure, hdata, hfailure⟩ | ⟨data, met, -, hpages⟩
      · obtain rfl := Except.error.inj hfailure
        obtain ⟨hanswer, rfl⟩ := responseData_eq_error hdata
        exact ⟨hanswer, rfl, hrequests⟩
      · exact absurd hpages pagesData_ne_error

/-- What attempts at a request come to that have all failed: there are as many as are allowed, and
the error is the report of the last one. -/
structure Failed (connector : Connector) (name : String) (request : Http.Request)
    (read : List UInt8 → Except Error Json) (report : Error → ApiError) (before : Traffic)
    (error : Error) (after : Traffic) : Prop where
  requests_eq : after.requests =
    before.requests ++ List.replicate (max connector.definition.retryCount 1) request
  exists_cause : ∃ earlier last cause,
    before.peer.openings connector.definition.auth
        (List.replicate (max connector.definition.retryCount 1) request) = earlier ++ [last] ∧
      answerValue read last = .error cause ∧ error = .api (report cause) ∧
      (report cause).Describes name request cause last.refusal?

theorem failed_of_withRetries {α : Type} {action : Activity α}
    {read : List UInt8 → Except Error Json} {report : Error → ApiError} {cause : Error}
    (haction : action.FailsBy connector.definition.auth request read)
    (hread : ∀ {body error}, read body = .error error → error = .invalidJson)
    (hreport : ∀ {cause refusal}, cause.responseBody? = refusal.map truncateBody →
      (report cause).Describes name request cause refusal)
    (hrun : (connector.withRetries action).run before = .ok (.error cause, after)) :
    connector.Failed name request read report before (reported report cause) after := by
  obtain ⟨failed, met, htries, hfailed, -, hlast, hend⟩ :=
    tries_of_retry _ .nil (List.forall_mem_nil _) hrun
  obtain ⟨⟨errors, -, hopenings⟩, hpeer, hrequests⟩ := htries.failures_eq hfailed haction
  obtain ⟨hanswer, -, hmade⟩ := haction _ _ _ hlast
  obtain ⟨hconfig, hbody⟩ := answerValue_eq_error hread hanswer
  -- The retries end early only for an error of the configuration, and no answer gives one.
  have hall : failed.length + 1 = max connector.definition.retryCount 1 := by
    rw [List.length_nil, Nat.zero_add] at hend
    have hlength := hend.resolve_left (by rw [isFinal, hconfig]; exact Bool.false_ne_true)
    omega
  have hreported : reported report cause = .api (report cause) := by
    rw [reported, hconfig]
    rfl
  have hmet : before.peer.openings connector.definition.auth
      (List.replicate (failed.length + 1) request) =
        before.peer.openings connector.definition.auth (List.replicate failed.length request) ++
          [(met.peer.opening connector.definition.auth request).1] := by
    rw [List.replicate_succ', Http.Peer.openings_append, ← hpeer]
    rfl
  constructor
  · rw [hmade, hrequests, ← hall, List.append_assoc, List.replicate_succ']
  · rw [← hall]
    exact ⟨_, _, cause, hmet, hanswer, hreported, hreport hbody⟩

theorem Failed.isStructured {read : List UInt8 → Except Error Json} {report : Error → ApiError}
    {error : Error} (h : connector.Failed name request read report before error after) :
    error.IsStructured := by
  obtain ⟨-, -, cause, -, -, herror, -⟩ := h.exists_cause
  exact .inr ⟨_, herror⟩

theorem Failed.of_unchecked {read : List UInt8 → Except Error Json} {report : Error → ApiError}
    {checked : Traffic} {error : Error}
    (h : connector.Failed name request read report checked error after)
    (hchecked : checked.unchecked = before.unchecked) :
    connector.Failed name request read report before error after where
  requests_eq := Traffic.requests_of_unchecked hchecked ▸ h.requests_eq
  exists_cause := (Traffic.eq_of_unchecked hchecked).1 ▸ h.exists_cause

theorem mapError_eq_error {α ε δ : Type} {outcome : Except ε α} {change : ε → δ} {error : δ}
    (h : outcome.mapError change = .error error) :
    ∃ cause, outcome = .error cause ∧ error = change cause := by
  cases outcome with
  | ok value => cases h
  | error cause => exact ⟨cause, rfl, (Except.error.inj h).symm⟩

/-- An error because of an endpoint that there is not. -/
def IsUnknown (connector : Connector) (name : String) (error : Error) : Prop :=
  error.isConfig = true ∧ connector.endpoint name = .error error

theorem fetch_eq_error {params : Option (Table Json)} {error : Error}
    (hrun : (connector.fetch name params).run before = .ok (.error error, after)) :
    (connector.IsUnknown name error ∧ after = before) ∨
      ∃ request, connector.prepare name (params.getD []) = .ok request ∧
        connector.Failed name request bodyValue (fetchReport name params request) before error
          after := by
  cases hendpoint : connector.endpoint name with
  | error unknown =>
      rw [fetch_eq_throw hendpoint] at hrun
      obtain ⟨herror, rfl⟩ := Activity.throw_eq_ok.1 hrun
      obtain rfl := Except.error.inj herror
      exact .inl ⟨⟨isConfig_of_endpoint hendpoint, hendpoint⟩, rfl⟩
  | ok endpoint =>
      obtain ⟨request, hrequest⟩ := prepare_eq_ok hendpoint (params.getD [])
      rw [fetch_eq hendpoint hrequest, reporting_run] at hrun
      obtain ⟨⟨outcome, reached⟩, hretry, hpair⟩ := Fault.bind_eq_ok.1 hrun
      obtain ⟨houtcome, rfl⟩ := Prod.mk.inj (Except.ok.inj hpair)
      obtain ⟨cause, rfl, rfl⟩ := mapError_eq_error houtcome
      exact .inr ⟨request, hrequest,
        failed_of_withRetries (failsBy_fetchOnce hendpoint request) bodyValue_eq_error
          (fun hbody => describes_fetchReport hbody params) hretry⟩

/-- What a failure in the report of a batch tells of: an item whose one request has failed. -/
structure FailedItem (connector : Connector) (name : String) (plain : Http.Request)
    (items : List Json) (before : Traffic) (failure : ApiError) : Prop where
  exists_cause : ∃ index item opening cause,
    items[index]? = some item ∧
      (before.peer.openings connector.definition.auth
        (items.map fun item => { plain with body := some item }))[index]? = some opening ∧
      answerValue sentValue opening = .error cause ∧
      failure = itemReport name plain index cause ∧
      failure.Describes name { plain with body := some item } cause opening.refusal?

theorem failedItem_of_mem {plain : Http.Request} {items : List Json} {failure : ApiError}
    (hfailure : failure ∈ (BatchReport.ofOutcomes name plain
      ((before.peer.openings connector.definition.auth
        (items.map fun item => { plain with body := some item })).map
          (answerValue sentValue))).failures) :
    connector.FailedItem name plain items before failure := by
  obtain ⟨⟨index, cause⟩, hmem, rfl⟩ := List.mem_map.1 hfailure
  have houtcome := mem_errorsOf.1 hmem
  rw [List.getElem?_map, Option.map_eq_some_iff] at houtcome
  obtain ⟨opening, hopening, hanswer⟩ := houtcome
  obtain ⟨hindex, -⟩ := List.getElem?_eq_some_iff.1 hopening
  rw [Http.Peer.length_openings, List.length_map] at hindex
  obtain ⟨-, hbody⟩ := answerValue_eq_error sentValue_eq_error hanswer
  have hreport : (itemReport name plain index cause).Describes name plain cause opening.refusal? :=
    describes_itemReport hbody index
  exact ⟨index, items[index], opening, cause, List.getElem?_eq_getElem hindex, hopening, hanswer,
    rfl, ⟨hreport.category_eq, hreport.url_eq, hreport.method_eq, hreport.body_eq,
      hreport.endpoint_eq⟩⟩

/-- How sending a value fails: because of an endpoint that there is not, with a check and no
request, or with the attempts at its request. -/
inductive Unsent (connector : Connector) (name : String) (value : Json) (before : Traffic) :
    Error → Traffic → Prop
  | unknown {error : Error} (herror : connector.IsUnknown name error) :
      Unsent connector name value before error before
  | refused {report : ApiError} {after : Traffic} (hchecked : after.unchecked = before.unchecked) :
      Unsent connector name value before (.api report) after
  | failed {plain : Http.Request} {error : Error} {after : Traffic} (hvalue : value.array? = none)
      (hplain : connector.prepare name [] = .ok plain)
      (hfailed : connector.Failed name { plain with body := some value } sentValue
        (sendReport name { plain with body := some value }) before error after) :
      Unsent connector name value before error after

theorem Unsent.isStructured {value : Json} {error : Error}
    (h : connector.Unsent name value before error after) : error.IsStructured := by
  cases h with
  | unknown herror => exact .inl herror.1
  | refused => exact .inr ⟨_, rfl⟩
  | failed hvalue hplain hfailed => exact hfailed.isStructured

/-- What sending a list comes to: one request for each item, and a report whose failures are those
of items. -/
def IsBatch (connector : Connector) (name : String) (value : Json) (before : Traffic)
    (report : BatchReport) (after : Traffic) : Prop :=
  ∃ items plain, value = .array items ∧ connector.prepare name [] = .ok plain ∧
    after.requests = before.requests ++ items.map (fun item => { plain with body := some item }) ∧
    ∀ failure ∈ report.failures, connector.FailedItem name plain items before failure

theorem send_array_ends {items : List Json} {result : Except Error Delivery}
    (hendpoint : connector.endpoint name = .ok endpoint)
    (hrun : (connector.send name (.array items)).run before = .ok (result, after)) :
    (∀ error, result = .error error → connector.Unsent name (.array items) before error after) ∧
      ∀ report, result = .ok (.batch report) →
        connector.IsBatch name (.array items) before report after := by
  obtain ⟨plain, hplain⟩ := prepare_eq_ok hendpoint []
  obtain ⟨checked, hchecked, haccepted, hrefused⟩ :=
    connector.checkPayload_run name endpoint (.array items) before
  by_cases haccepts : ∀ item ∈ items, connector.accepts endpoint item = true
  · rw [send_array_run hendpoint hplain (haccepted haccepts)] at hrun
    obtain ⟨reached, hpassed, hpair⟩ := Fault.map_eq_ok.1 hrun
    obtain ⟨rfl, rfl⟩ := Prod.mk.inj hpair
    refine ⟨by rintro error ⟨⟩, ?_⟩
    intro report hreport
    obtain rfl := Delivery.batch.inj (Except.ok.inj hreport)
    refine ⟨items, plain, rfl, hplain, ?_, ?_⟩
    · rw [Traffic.requests_eq, Traffic.ownMarks_passedAll hpassed, List.filterMap_append,
        ← Traffic.requests_eq, Traffic.requests_of_unchecked hchecked, List.filterMap_map]
      congr 1
      exact List.filterMap_some
    · rw [(Traffic.eq_of_unchecked hchecked).1]
      exact fun failure hfailure => failedItem_of_mem hfailure
  · have hinvalid : ∃ item ∈ items, connector.accepts endpoint item = false := by
      simpa using haccepts
    obtain ⟨refusal, hcheck⟩ := hrefused hinvalid
    rw [send_eq_deliver hendpoint hplain, Activity.bind_run_of_error hcheck] at hrun
    obtain ⟨rfl, rfl⟩ := Prod.mk.inj (Except.ok.inj hrun)
    refine ⟨?_, by rintro report ⟨⟩⟩
    rintro error ⟨⟩
    exact .refused hchecked

theorem send_single_ends {value : Json} {result : Except Error Delivery}
    (hendpoint : connector.endpoint name = .ok endpoint) (hvalue : value.array? = none)
    (hrun : (connector.send name value).run before = .ok (result, after)) :
    (∃ single, result = .ok (.single single)) ∨
      ∃ error, result = .error error ∧ connector.Unsent name value before error after := by
  obtain ⟨plain, hplain⟩ := prepare_eq_ok hendpoint []
  obtain ⟨checked, hchecked, hrefused, haccepted⟩ := send_run hendpoint hplain hvalue before
  cases haccepts : connector.accepts endpoint value with
  | false =>
      obtain ⟨report, hrefusal⟩ := hrefused haccepts
      rw [hrefusal] at hrun
      obtain ⟨rfl, rfl⟩ := Prod.mk.inj (Except.ok.inj hrun)
      exact .inr ⟨_, rfl, .refused hchecked⟩
  | true =>
      rw [haccepted haccepts] at hrun
      obtain ⟨⟨outcome, reached⟩, hretry, hpair⟩ := Fault.bind_eq_ok.1 hrun
      obtain ⟨rfl, rfl⟩ := Prod.mk.inj (Except.ok.inj hpair)
      cases outcome with
      | ok single => exact .inl ⟨single, rfl⟩
      | error cause =>
          refine .inr ⟨_, rfl, .failed hvalue hplain (Failed.of_unchecked ?_ hchecked)⟩
          exact failed_of_withRetries (failsBy_sendOnce connector name _) sentValue_eq_error
            describes_sendReport hretry

theorem send_ends {value : Json} {result : Except Error Delivery}
    (hrun : (connector.send name value).run before = .ok (result, after)) :
    (∀ error, result = .error error → connector.Unsent name value before error after) ∧
      ∀ report, result = .ok (.batch report) →
        connector.IsBatch name value before report after := by
  cases hendpoint : connector.endpoint name with
  | error unknown =>
      rw [send_eq_throw hendpoint] at hrun
      obtain ⟨rfl, rfl⟩ := Activity.throw_eq_ok.1 hrun
      refine ⟨?_, by rintro report ⟨⟩⟩
      rintro error ⟨⟩
      exact .unknown ⟨isConfig_of_endpoint hendpoint, hendpoint⟩
  | ok endpoint =>
      cases hvalue : value.array? with
      | some items =>
          obtain rfl : value = .array items := by
            cases value with
            | array given => rw [Option.some.inj hvalue]
            | _ => cases hvalue
          exact send_array_ends hendpoint hrun
      | none =>
          rcases send_single_ends hendpoint hvalue hrun with ⟨single, rfl⟩ | ⟨error, rfl, hunsent⟩
          · exact ⟨by rintro error ⟨⟩, by rintro report ⟨⟩⟩
          · refine ⟨?_, by rintro report ⟨⟩⟩
            rintro error ⟨⟩
            exact hunsent

end Connector

end ApiBridge
