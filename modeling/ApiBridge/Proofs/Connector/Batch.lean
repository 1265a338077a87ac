import ApiBridge.Proofs.Connector.Validation

namespace ApiBridge

open RateLimit

/-- Traffic after requests to an endpoint one after another, each for the whole of its answer. -/
def Traffic.passedAll (auth : Auth) (endpoint : String) :
    Traffic → List Http.Request → Except Fault Traffic
  | traffic, [] => .ok traffic
  | traffic, request :: rest => do
      let served ← traffic.limiters.serve endpoint
        ((traffic.peer.opening auth request).1.headers? true) traffic.now
      passedAll auth endpoint (traffic.passed auth endpoint request true served) rest

namespace Traffic

variable {auth : Auth} {endpoint : String}

theorem ownMarks_passedAll {before after : Traffic} {requests : List Http.Request}
    (hrun : before.passedAll auth endpoint requests = .ok after) :
    after.ownMarks = before.ownMarks ++ requests.map .request := by
  induction requests generalizing before with
  | nil =>
      obtain rfl := Except.ok.inj hrun
      rw [List.map_nil, List.append_nil]
  | cons request rest ih =>
      obtain ⟨served, -, hrest⟩ := Fault.bind_eq_ok.1 hrun
      rw [ih hrest, ownMarks_passed, List.append_assoc]
      rfl

end Traffic

namespace Connector

/-- A failure among numbered outcomes. -/
def failed? : Except Error Json × Nat → Option (Nat × Error)
  | (.ok _, _) => none
  | (.error error, index) => some (index, error)

/-- The results among some outcomes. -/
def resultsOf (outcomes : List (Except Error Json)) : List Json :=
  outcomes.filterMap Except.toOption

/-- The errors among some outcomes, with their numbers. -/
def errorsOf (index : Nat) (outcomes : List (Except Error Json)) : List (Nat × Error) :=
  (outcomes.zipIdx index).filterMap failed?

theorem resultsOf_ok (result : Json) (rest : List (Except Error Json)) :
    resultsOf (.ok result :: rest) = result :: resultsOf rest :=
  List.filterMap_cons_some (by rfl)

theorem resultsOf_error (error : Error) (rest : List (Except Error Json)) :
    resultsOf (.error error :: rest) = resultsOf rest :=
  List.filterMap_cons_none (by rfl)

theorem errorsOf_ok (index : Nat) (result : Json) (rest : List (Except Error Json)) :
    errorsOf index (.ok result :: rest) = errorsOf (index + 1) rest :=
  List.filterMap_cons_none (by rfl)

theorem errorsOf_error (index : Nat) (error : Error) (rest : List (Except Error Json)) :
    errorsOf index (.error error :: rest) = (index, error) :: errorsOf (index + 1) rest :=
  List.filterMap_cons_some (by rfl)

theorem failed?_eq_some {numbered : Except Error Json × Nat} {index : Nat} {error : Error}
    (hfailed : failed? numbered = some (index, error)) : numbered = (.error error, index) := by
  rcases numbered with ⟨outcome, number⟩
  cases outcome with
  | ok result => cases hfailed
  | error other =>
      obtain ⟨rfl, rfl⟩ := Prod.mk.inj (Option.some.inj hfailed)
      rfl

theorem mem_errorsOf {index : Nat} {error : Error} {outcomes : List (Except Error Json)} :
    (index, error) ∈ errorsOf 0 outcomes ↔ outcomes[index]? = some (.error error) := by
  rw [← List.mk_mem_zipIdx_iff_getElem?, errorsOf, List.mem_filterMap]
  constructor
  · rintro ⟨numbered, hnumbered, hfailed⟩
    rwa [failed?_eq_some hfailed] at hnumbered
  · intro hnumbered
    exact ⟨(.error error, index), hnumbered, rfl⟩

end Connector

namespace BatchReport

/-- The report of a batch with the outcomes of more items. -/
def addAll (report : BatchReport) (name : String) (request : Http.Request) (index : Nat)
    (outcomes : List (Except Error Json)) : BatchReport where
  results := report.results ++ Connector.resultsOf outcomes
  failures := report.failures ++ (Connector.errorsOf index outcomes).map fun (number, error) =>
    Connector.itemReport name request number error

theorem addAll_nil (report : BatchReport) (name : String) (request : Http.Request) (index : Nat) :
    report.addAll name request index [] = report := by
  simp [addAll, Connector.resultsOf, Connector.errorsOf]

theorem addAll_cons (report : BatchReport) (name : String) (request : Http.Request) (index : Nat)
    (outcome : Except Error Json) (rest : List (Except Error Json)) :
    report.addAll name request index (outcome :: rest) =
      (report.add name request index outcome).addAll name request (index + 1) rest := by
  cases outcome with
  | ok result => simp [addAll, add, Connector.resultsOf_ok, Connector.errorsOf_ok]
  | error error => simp [addAll, add, Connector.resultsOf_error, Connector.errorsOf_error]

/-- The report of a whole batch. -/
def ofOutcomes (name : String) (request : Http.Request) (outcomes : List (Except Error Json)) :
    BatchReport where
  results := Connector.resultsOf outcomes
  failures := (Connector.errorsOf 0 outcomes).map fun (index, error) =>
    Connector.itemReport name request index error

theorem addAll_new (name : String) (request : Http.Request) (outcomes : List (Except Error Json)) :
    addAll { results := [], failures := [] } name request 0 outcomes =
      ofOutcomes name request outcomes := by
  rw [addAll, List.nil_append, List.nil_append, ofOutcomes]

end BatchReport

namespace Connector

/-- Sending the items of a list comes to one request for each of them, and to the report of what
these open. -/
theorem sendItems_run (connector : Connector) (name : String) (request : Http.Request)
    (report : BatchReport) (index : Nat) (items : List Json) (before : Traffic) :
    let requests := items.map fun item => { request with body := some item }
    connector.sendItems name request report index items before =
      (before.passedAll connector.definition.auth name requests).map fun after =>
        (report.addAll name request index
          ((before.peer.openings connector.definition.auth requests).map
            (answerValue sentValue)), after) := by
  -- Each item goes on with the request of the one before it, whose body is replaced.
  induction items generalizing request report index before with
  | nil =>
      change Except.ok (report, before) = .ok (report.addAll name request index [], before)
      rw [BatchReport.addAll_nil]
  | cons item rest ih =>
      have hpass := Run.pass_run connector.definition.auth name { request with body := some item }
        true before
      intro requests
      rw [sendItems_cons]
      change _ = Except.map _ (Traffic.passedAll _ _ _ (_ :: _))
      rw [Traffic.passedAll]
      cases hserve : before.limiters.serve name ((before.peer.opening connector.definition.auth
          { request with body := some item }).1.headers? true) before.now with
      | error fault =>
          rw [hserve] at hpass
          exact Run.bind_run_of_error hpass _
      | ok served =>
          rw [hserve] at hpass
          rw [Run.bind_run_of_ok hpass, ih]
          change _ = Except.map (fun after => (report.addAll name request index (_ :: _), after)) _
          rw [BatchReport.addAll_cons]
          rfl

theorem send_array_run {connector : Connector} {name : String} {endpoint : Endpoint}
    {request : Http.Request} {items : List Json} {before checked : Traffic}
    (hendpoint : connector.endpoint name = .ok endpoint)
    (hrequest : connector.prepare name [] = .ok request)
    (hchecks : (connector.checkPayload name endpoint (.array items)).run before =
      .ok (.ok (), checked)) :
    let requests := items.map fun item => { request with body := some item }
    (connector.send name (.array items)).run before =
      (checked.passedAll connector.definition.auth name requests).map fun after =>
        (.ok (.batch (.ofOutcomes name request ((checked.peer.openings connector.definition.auth
          requests).map (answerValue sentValue)))), after) := by
  intro requests
  have hitems : connector.sendItems name request { results := [], failures := [] } 0 items
      checked = (checked.passedAll connector.definition.auth name requests).map _ :=
    sendItems_run connector name request _ 0 items checked
  rw [BatchReport.addAll_new] at hitems
  rw [send_eq_deliver hendpoint hrequest, Activity.bind_run_of_ok hchecks, deliver,
    Activity.liftM_bind_run]
  cases hpassed : checked.passedAll connector.definition.auth name requests with
  | error fault =>
      rw [hpassed] at hitems
      exact Run.bind_run_of_error hitems _
  | ok after =>
      rw [hpassed] at hitems
      exact Run.bind_run_of_ok hitems _

end Connector

end ApiBridge
