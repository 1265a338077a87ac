import ApiBridge.Connector.EventSource

namespace ApiBridge.Activity

/-- Opens a connector with checks of values. Its limiters take the place of those before. -/
def openConnector (definition : Definition) : Activity Connector := do
  let traffic ← get
  let (connector, limiters) ←
    ExceptT.mk (StateT.lift (Connector.create definition (some Schema.validate) traffic.now))
  set { traffic with limiters }
  return connector

/-- Opens a connector that must have an endpoint to serve as an event source. -/
def openEventSource (definition : Definition) : Activity EventSource := do
  Activity.ofResult (EventSource.ofConnector (← openConnector definition))

end ApiBridge.Activity
