import ApiBridge.Connector.Fetch

namespace ApiBridge

structure BatchReport where
  results : List Json
  failures : List ApiError
  deriving Repr

namespace BatchReport

def success (report : BatchReport) : Bool := !report.results.isEmpty && report.failures.isEmpty

def encode (report : BatchReport) : Json :=
  .ofPairs [
    ("success", .bool report.success), ("sent_count", .ofNat report.results.length),
    ("failed_count", .ofNat report.failures.length), ("results", .array report.results),
    ("failures", .array (report.failures.map ApiError.encode))]

end BatchReport

inductive Delivery where
  | single (result : Json)
  | batch (report : BatchReport)
  deriving Repr

namespace Delivery

def success : Delivery → Bool
  | .single _ => true
  | .batch report => report.success

def encode : Delivery → Json
  | .single result => .ofPairs [("success", .bool true), ("result", result)]
  | .batch report => report.encode

end Delivery

namespace Connector

def validationReport (name : String) (diffs : List Schema.Diff) : ApiError :=
  (((ApiError.new "Request failed schema validation" .validation).withStatus 0).withContext
    "endpoint" (.string name)).withContext "diffs" (.array (diffs.map Schema.Diff.encode))

/-- Checks values against the schema for requests, up to the first that does not satisfy it. -/
def checkRequests (validator : Schema.Validator) (name : String) (schema : Json) :
    List Json → Activity Unit
  | [] => return
  | value :: rest => do
      let outcome ← (Run.validate validator value schema : Run _)
      if outcome.valid then checkRequests validator name schema rest
      else throw (.api (validationReport name outcome.diffs))

/-- One attempt at sending; an empty body of the response means an empty object. -/
def sendOnce (connector : Connector) (name : String) (request : Http.Request) : Activity Json := do
  Run.acquire name
  let response ← connector.exchange request
  Run.noteHeaders name response.headers
  Activity.ofResult (checkStatus response)
  if response.body.isEmpty then return .object [] else Activity.ofResult (jsonOf response.body)

def sendItems (connector : Connector) (name : String) (request : Http.Request)
    (report : BatchReport) : Nat → List Json → Run BatchReport
  | _, [] => return report
  | index, item :: rest => do
      let request := { request with body := some item }
      let report ← match ← (connector.sendOnce name request).run with
        | .ok result => pure { report with results := report.results ++ [result] }
        | .error error =>
            let message := "Failed to send data item " ++ toString index ++ " to " ++ name
            let failure := (requestReport message name request error).withContext "item_index"
              (.ofNat index)
            pure { report with failures := report.failures ++ [failure] }
      connector.sendItems name request report (index + 1) rest

def send (connector : Connector) (name : String) (value : Json) : Activity Delivery := do
  let endpoint ← Activity.ofResult (connector.endpoint name)
  let request ← Activity.ofResult (connector.prepare name [])
  if let (some schema, some validator) := (endpoint.requestSchema, connector.validator) then
    checkRequests validator name schema (value.array?.getD [value])
  match value with
  | .array items =>
      let start : BatchReport := { results := [], failures := [] }
      let report ← (connector.sendItems name request start 0 items : Run _)
      return .batch report
  | value =>
      let request := { request with body := some value }
      let result ← reporting (connector.withRetries (connector.sendOnce name request))
        (requestReport ("Failed to send data to " ++ name) name request)
      return .single result

end Connector

end ApiBridge
