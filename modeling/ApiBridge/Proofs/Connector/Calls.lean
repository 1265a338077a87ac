import ApiBridge.Connector.Send
import ApiBridge.Proofs.Connector.Passage

namespace ApiBridge

namespace Connector

theorem prepare_eq_ok {connector : Connector} {name : String} {endpoint : Endpoint}
    (hendpoint : connector.endpoint name = .ok endpoint) (params : Table Json) :
    ∃ request, connector.prepare name params = .ok request := by
  rw [prepare, hendpoint]
  exact ⟨_, rfl⟩

theorem exchange_bind_run {α : Type} (connector : Connector) (request : Http.Request)
    (second : Http.Response → Activity α) :
    (connector.exchange request >>= second).run = do
      let opening ← Run.openAnswer request connector.definition.auth
      match opening.response with
      | .ok response => (second response).run
      | .error error => return .error (.transport error) := by
  change (connector.exchange request).run >>= ExceptT.bindCont second = _
  unfold exchange Run.exchange
  rw [Activity.liftM_bind_run, bind_assoc, bind_assoc]
  congr 1
  funext opening
  cases opening with
  | failed error => rfl
  | silent url => rfl
  | opened answer =>
      unfold Run.Opening.response
      dsimp only
      cases answer.incoming.all <;> rfl

theorem exchange_in_turn_run {α : Type} (connector : Connector) (name : String)
    (request : Http.Request) (rest : Http.Response → Activity α) :
    (do
      Run.acquire name
      let response ← connector.exchange request
      Run.noteHeaders name response.headers
      rest response : Activity α).run = do
    let opening ← Run.pass connector.definition.auth name request true
    match opening.response with
    | .ok response => (rest response).run
    | .error error => return .error (.transport error) := by
  rw [Activity.liftM_bind_run]
  unfold Run.pass
  rw [bind_assoc]
  congr 1
  funext _
  rw [exchange_bind_run, bind_assoc]
  congr 1
  funext opening
  cases hresponse : opening.response with
  | error error =>
      have hheaders : opening.headers? true = none := by
        simp [Run.Opening.headers?, hresponse, Except.toOption]
      simp only [hheaders, pure_bind, hresponse]
  | ok response =>
      have hheaders : opening.headers? true = some response.headers := by
        simp [Run.Opening.headers?, hresponse, Except.toOption]
      simp only [hheaders, bind_assoc, pure_bind, hresponse]
      exact Activity.liftM_bind_run _ _

/-- What is made of an answer whose body is read in some way. -/
def answerValue (read : List UInt8 → Except Error Json) (opening : Run.Opening) :
    Except Error Json :=
  match opening.response with
  | .error error => .error (.transport error)
  | .ok response =>
      if response.isSuccess then read response.body
      else .error (.ofStatus response.status response.text)

theorem exchange_in_turn_value_run (connector : Connector) (name : String)
    (request : Http.Request) (read : List UInt8 → Except Error Json) :
    (do
      Run.acquire name
      let response ← connector.exchange request
      Run.noteHeaders name response.headers
      Activity.ofResult (checkStatus response)
      Activity.ofResult (read response.body) : Activity Json).run = do
    let opening ← Run.pass connector.definition.auth name request true
    return answerValue read opening := by
  rw [exchange_in_turn_run]
  congr 1
  funext opening
  unfold answerValue checkStatus
  cases opening.response with
  | error error => rfl
  | ok response =>
      dsimp only
      split
      · cases read response.body <;> rfl
      · rfl

/-- What the body of an answer says about a value that was sent; an empty one means an empty
object. -/
def sentValue (body : List UInt8) : Except Error Json :=
  if body.isEmpty then .ok (.object []) else jsonOf body

theorem sendOnce_run (connector : Connector) (name : String) (request : Http.Request) :
    (connector.sendOnce name request).run = do
      let opening ← Run.pass connector.definition.auth name request true
      return answerValue sentValue opening := by
  rw [← exchange_in_turn_value_run]
  unfold sendOnce sentValue
  refine congrArg ExceptT.run (bind_congr fun _ => bind_congr fun response =>
    bind_congr fun _ => bind_congr fun _ => ?_)
  split <;> rfl

theorem fetchPage_run {connector : Connector} {name : String} {params : Table Json}
    {request : Http.Request} (hrequest : connector.prepare name params = .ok request) :
    (connector.fetchPage name params).run = do
      let opening ← Run.pass connector.definition.auth name request true
      return answerValue bodyValue opening := by
  rw [← exchange_in_turn_value_run, fetchPage, hrequest]
  rfl

/-- The data of a response whose headers have been taken note of. -/
def responseData (connector : Connector) (endpoint : Endpoint) (response : Http.Response) :
    Activity Payload := do
  Activity.ofResult (checkStatus response)
  let value ← Activity.ofResult (bodyValue response.body)
  let value := atResponsePath endpoint.responsePath value
  if let (some schema, some validator) := (endpoint.responseSchema, connector.validator) then
    let _ ← (Run.validate validator value schema : Run _)
  return .ofJson value

/-- The data of an endpoint whose first page is given: with the items of the pages after it, if it
has pages. -/
def pagesData (connector : Connector) (name : String) (endpoint : Endpoint) (params : Table Json)
    (data : Payload) : Activity Payload :=
  match endpoint.pagination with
  | none => return data
  | some spec => do
      let items ← (connector.walkPages name params spec data.toJson : Run _)
      return .list (items.map .object)

theorem fetchOnce_run {connector : Connector} {name : String} {endpoint : Endpoint}
    (hendpoint : connector.endpoint name = .ok endpoint) (request : Http.Request)
    (params : Table Json) :
    (connector.fetchOnce name endpoint request params).run = do
      let opening ← Run.pass connector.definition.auth name request true
      match opening.response with
      | .ok response =>
          (connector.responseData endpoint response >>=
            connector.pagesData name endpoint params).run
      | .error error => return .error (.transport error) := by
  rw [← exchange_in_turn_run]
  unfold fetchOnce process
  rw [hendpoint]
  refine congrArg ExceptT.run (bind_congr fun _ => bind_congr fun response => ?_)
  rw [Activity.ofResult_ok_bind, bind_assoc]
  rfl

/-- The check of a value before it is sent, as far as there is a schema that is checked. -/
def checkPayload (connector : Connector) (name : String) (endpoint : Endpoint) (value : Json) :
    Activity Unit :=
  match endpoint.requestSchema, connector.validator with
  | some schema, some validator =>
      checkRequests validator name schema (value.array?.getD [value])
  | _, _ => return

/-- The sending of a value that has been checked. -/
def deliver (connector : Connector) (name : String) (request : Http.Request) (value : Json) :
    Activity Delivery :=
  match value with
  | .array items => do
      let report ← (connector.sendItems name request { results := [], failures := [] } 0 items :
        Run _)
      return .batch report
  | value => do
      let request := { request with body := some value }
      let result ← reporting (connector.withRetries (connector.sendOnce name request))
        (requestReport ("Failed to send data to " ++ name) name request)
      return .single result

theorem send_eq_deliver {connector : Connector} {name : String} {endpoint : Endpoint}
    {request : Http.Request} (hendpoint : connector.endpoint name = .ok endpoint)
    (hrequest : connector.prepare name [] = .ok request) (value : Json) :
    connector.send name value = (do
      connector.checkPayload name endpoint value
      connector.deliver name request value) := by
  rw [send, hendpoint, hrequest, Activity.ofResult_ok_bind, Activity.ofResult_ok_bind, checkPayload]
  cases endpoint.requestSchema with
  | none => cases value <;> rfl
  | some schema => cases connector.validator <;> cases value <;> rfl

/-- The report of an item of a batch that could not be sent. -/
def itemReport (name : String) (request : Http.Request) (index : Nat) (error : Error) : ApiError :=
  (requestReport ("Failed to send data item " ++ toString index ++ " to " ++ name) name request
    error).withContext "item_index" (.ofNat index)

end Connector

/-- The report of a batch with the outcome of one more item. -/
def BatchReport.add (report : BatchReport) (name : String)
    (request : Http.Request) (index : Nat) : Except Error Json → BatchReport
  | .ok result => { report with results := report.results ++ [result] }
  | .error error =>
      { report with
        failures := report.failures ++ [Connector.itemReport name request index error] }

namespace Connector

theorem sendItems_cons (connector : Connector) (name : String) (request : Http.Request)
    (report : BatchReport) (index : Nat) (item : Json) (rest : List Json) :
    connector.sendItems name request report index (item :: rest) = (do
      let full := { request with body := some item }
      let opening ← Run.pass connector.definition.auth name full true
      connector.sendItems name full
        (report.add name full index (answerValue sentValue opening)) (index + 1) rest) := by
  rw [sendItems]
  dsimp only
  rw [sendOnce_run, bind_assoc]
  congr 1
  funext opening
  rw [pure_bind]
  cases answerValue sentValue opening <;> rfl

end Connector

namespace Run.Congruence

variable {relates : (α : Type) → Run α → Run α → Prop} {α : Type}

theorem retry (h : Congruence relates) {activity other : Activity α}
    (hactivity : relates _ activity.run other.run) (delay : Duration) (left attempt : Nat) :
    relates _ (Connector.retry delay activity left attempt).run
      (Connector.retry delay other left attempt).run := by
  -- The attempts that are left carry the induction; the number of an attempt only sets its wait.
  induction left generalizing attempt with
  | zero => exact hactivity
  | succ left ih =>
      apply h.attempt_bind hactivity
      intro outcome
      cases outcome with
      | ok value => exact h.pure _
      | error error =>
          dsimp only
          split
          · exact h.pure _
          · apply h.liftM_bind (h.lift _)
            intro wait
            apply h.liftM_bind (h.pause wait)
            intro _
            exact ih _

theorem reporting (h : Congruence relates) {activity other : Activity α}
    (hactivity : relates _ activity.run other.run) (report : Error → ApiError) :
    relates _ (Connector.reporting activity report).run
      (Connector.reporting other report).run := by
  apply h.attempt_bind hactivity
  intro outcome
  cases outcome <;> exact h.pure _

end Run.Congruence

namespace Run.Compositional

variable {holds : (α : Type) → Run α → Prop} {α : Type}

theorem retry (h : Compositional holds) {activity : Activity α} (hactivity : holds _ activity.run)
    (delay : Duration) (left attempt : Nat) :
    holds _ (Connector.retry delay activity left attempt).run :=
  (h.diagonal.retry ⟨rfl, hactivity⟩ delay left attempt).2

theorem reporting (h : Compositional holds) {activity : Activity α}
    (hactivity : holds _ activity.run) (report : Error → ApiError) :
    holds _ (Connector.reporting activity report).run :=
  (h.diagonal.reporting ⟨rfl, hactivity⟩ report).2

variable {connector : Connector} {name : String} {request : Http.Request}

theorem sendOnce (h : Compositional holds)
    (hpass : holds _ (Run.pass connector.definition.auth name request true)) :
    holds _ (connector.sendOnce name request).run := by
  rw [Connector.sendOnce_run]
  exact h.bind hpass fun opening => h.pure _

theorem sendItems (h : Compositional holds)
    (hpass : ∀ body, holds _ (Run.pass connector.definition.auth name { request with body } true))
    (report : BatchReport) (index : Nat) (items : List Json) :
    holds _ (connector.sendItems name request report index items) := by
  induction items generalizing request report index with
  | nil => exact h.pure _
  | cons item rest ih =>
      rw [Connector.sendItems_cons]
      have hrest : ∀ report index, holds _ (connector.sendItems name
          { request with body := some item } report index rest) := ih hpass
      exact h.bind (hpass (some item)) fun opening => hrest _ _

theorem deliver (h : Compositional holds)
    (hpass : ∀ body, holds _ (Run.pass connector.definition.auth name { request with body } true))
    (value : Json) : holds _ (connector.deliver name request value).run := by
  unfold Connector.deliver
  split
  · apply h.liftM_bind (h.sendItems hpass _ _ _)
    intro report
    exact h.pure _
  · apply h.activity_bind (h.reporting (h.retry (h.sendOnce (hpass _)) _ _ _) _)
    intro result
    exact h.pure _

end Run.Compositional

end ApiBridge
