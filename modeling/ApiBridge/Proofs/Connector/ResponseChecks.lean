import ApiBridge.Proofs.Connector.Composition
import ApiBridge.Proofs.Connector.Validation

namespace ApiBridge

theorem Table.find?_map_values {α β : Type} (change : String → α → β) (key : String)
    (table : Table α) :
    find? key (table.map fun pair => (pair.1, change pair.1 pair.2)) =
      (table.find? key).map (change key) := by
  induction table with
  | nil => rfl
  | cons pair rest ih =>
      rw [List.map_cons, find?, find?]
      split
      · next hkey => rw [hkey, Option.map_some]
      · exact ih

namespace Run

/-- Walks through pages ignore checks: it is the reactions that are left to the other side that
bound them. -/
theorem IgnoresChecks.walkPages {connector : Connector} {name : String} (params : Table Json)
    (spec : Pagination.Spec) (first : Json) :
    (connector.walkPages name params spec first).IgnoresChecks := by
  intro before other hsame
  have hpages : ∀ params, IgnoresChecks (connector.pages name params) :=
    compositional.pages fun _ _ _ => .pass _ _ _ _
  have hwalk : ∀ fuel, IgnoresChecks
      (Pagination.walk spec params (connector.pages name) fuel first) :=
    fun fuel => compositional.walk hpages _ _ fuel _
  have hfuel : ∀ traffic, (connector.walkPages name params spec first).unchecked traffic =
      Run.unchecked (Pagination.walk spec params (connector.pages name)
        (traffic.peer.reactions.length + 1) first) traffic := fun _ => rfl
  rw [hfuel, hfuel, (Traffic.eq_of_unchecked hsame).1]
  exact hwalk _ before other hsame

theorem IgnoresChecks.pagesData (connector : Connector) (name : String) (endpoint : Endpoint)
    (params : Table Json) (data : Payload) :
    (connector.pagesData name endpoint params data).run.IgnoresChecks := by
  unfold Connector.pagesData
  split
  · exact .pure _
  · exact compositional.liftM_bind (walkPages _ _ _) fun items => .pure _

theorem Agrees.congruence : Congruence fun _ run other => run.Agrees other :=
  ⟨IgnoresChecks.pure, Agrees.bind, IgnoresChecks.lift, IgnoresChecks.pause⟩

end Run

theorem Traffic.unchecked_checked (traffic : Traffic) (validation : Validation) :
    (traffic.add (.checked validation)).unchecked = traffic.unchecked := by
  rw [unchecked, add, List.filter_append]
  exact congrArg (fun log => { traffic with log }) (List.append_nil _)

/-- An endpoint with another schema for what it gives, or without one. -/
def Endpoint.withResponseSchema (endpoint : Endpoint) (schema : Option Json) : Endpoint :=
  { endpoint with responseSchema := schema }

namespace Connector

/-- A connector that checks what its endpoints give in another way, or not at all. -/
def withResponseChecks (connector : Connector) (validator : Option Schema.Validator)
    (schemas : String → Option Json) : Connector where
  definition := { connector.definition with
    endpoints := connector.definition.endpoints.map fun pair =>
      (pair.1, pair.2.withResponseSchema (schemas pair.1)) }
  validator

/-- What a response comes to, apart from the check of it. -/
def responseOutcome (endpoint : Endpoint) (response : Http.Response) : Except Error Payload := do
  checkStatus response
  let value ← bodyValue response.body
  return .ofJson (atResponsePath endpoint.responsePath value)

theorem responseData_unchecked (connector : Connector) (endpoint : Endpoint)
    (response : Http.Response) (before : Traffic) :
    (connector.responseData endpoint response).run.unchecked before =
      .ok (responseOutcome endpoint response, before.unchecked) := by
  unfold Run.unchecked responseData responseOutcome
  cases checkStatus response with
  | error error => rfl
  | ok _ =>
      cases bodyValue response.body with
      | error error => rfl
      | ok value =>
          cases endpoint.responseSchema with
          | none => rfl
          | some schema =>
              cases connector.validator with
              | none => rfl
              | some validator =>
                  exact congrArg (fun traffic => Except.ok (_, traffic))
                    (before.unchecked_checked _)

section

variable (connector : Connector) (validator : Option Schema.Validator)
  (schemas : String → Option Json) (name : String)

theorem endpoint_withResponseChecks :
    (connector.withResponseChecks validator schemas).endpoint name =
      (connector.endpoint name).map fun endpoint => endpoint.withResponseSchema (schemas name) := by
  have hfind := Table.find?_map_values
    (fun name (endpoint : Endpoint) => endpoint.withResponseSchema (schemas name)) name
    connector.definition.endpoints
  unfold endpoint Definition.endpoint? withResponseChecks
  dsimp only
  rw [hfind]
  cases connector.definition.endpoints.find? name <;> rfl

theorem prepare_withResponseChecks (params : Table Json) :
    (connector.withResponseChecks validator schemas).prepare name params =
      connector.prepare name params := by
  unfold prepare
  rw [endpoint_withResponseChecks]
  cases connector.endpoint name <;> rfl

theorem pages_withResponseChecks :
    (connector.withResponseChecks validator schemas).pages name = connector.pages name := by
  funext params
  unfold pages fetchPage
  rw [prepare_withResponseChecks]
  rfl

theorem pagesData_withResponseChecks (endpoint : Endpoint) (params : Table Json) (data : Payload) :
    (connector.withResponseChecks validator schemas).pagesData name
        (endpoint.withResponseSchema (schemas name)) params data =
      connector.pagesData name endpoint params data := by
  unfold pagesData walkPages
  rw [pages_withResponseChecks]
  rfl

theorem withRetries_withResponseChecks {α : Type} (action : Activity α) :
    (connector.withResponseChecks validator schemas).withRetries action =
      connector.withRetries action :=
  rfl

theorem fetchOnce_agrees {endpoint : Endpoint} (hendpoint : connector.endpoint name = .ok endpoint)
    (request : Http.Request) (params : Table Json) :
    ((connector.withResponseChecks validator schemas).fetchOnce name
        (endpoint.withResponseSchema (schemas name)) request params).run.Agrees
      (connector.fetchOnce name endpoint request params).run := by
  have hfound : (connector.withResponseChecks validator schemas).endpoint name =
      .ok (endpoint.withResponseSchema (schemas name)) := by
    rw [endpoint_withResponseChecks, hendpoint]
    rfl
  rw [fetchOnce_run hendpoint, fetchOnce_run hfound]
  apply Run.Agrees.bind (Run.IgnoresChecks.pass _ _ _ _)
  intro opening
  cases opening.response with
  | error error => exact Run.IgnoresChecks.pure _
  | ok response =>
      apply Run.Agrees.congruence.activity_bind
      · intro before met hsame
        rw [responseData_unchecked, responseData_unchecked, hsame]
        rfl
      · intro data
        rw [pagesData_withResponseChecks]
        exact Run.IgnoresChecks.pagesData _ _ _ _ _

end

/-- Fetching comes to the same, with the same requests, waits and limiters, whatever checks the data
of the endpoints, against whatever schemas, and whatever the checks come to. Only the notes of the
checks differ. -/
theorem fetch_withResponseChecks (connector : Connector) (validator : Option Schema.Validator)
    (schemas : String → Option Json) (name : String) (params : Option (Table Json))
    (before : Traffic) :
    ((connector.withResponseChecks validator schemas).fetch name params).run.unchecked before =
      (connector.fetch name params).run.unchecked before := by
  have hfound := connector.endpoint_withResponseChecks validator schemas name
  cases hendpoint : connector.endpoint name with
  | error error =>
      rw [hendpoint] at hfound
      rw [fetch_eq_throw hendpoint, fetch_eq_throw hfound]
  | ok endpoint =>
      rw [hendpoint] at hfound
      obtain ⟨request, hrequest⟩ := prepare_eq_ok hendpoint (params.getD [])
      have hprepared := connector.prepare_withResponseChecks validator schemas name (params.getD [])
      rw [hrequest] at hprepared
      rw [fetch_eq hendpoint hrequest, fetch_eq hfound hprepared]
      rw [withRetries_withResponseChecks]
      have honce := connector.fetchOnce_agrees validator schemas name hendpoint request
        (params.getD [])
      have hagrees := Run.Agrees.congruence.reporting (Run.Agrees.congruence.retry honce
        connector.definition.retryDelay (connector.definition.retryCount - 1) 1)
        (fetchReport name params request)
      exact hagrees before before rfl

end Connector

end ApiBridge
