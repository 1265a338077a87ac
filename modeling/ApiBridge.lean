import ApiBridge.Auth
import ApiBridge.Binary64
import ApiBridge.CommandLine.Arguments
import ApiBridge.CommandLine.Command
import ApiBridge.CommandLine.Execution
import ApiBridge.CommandLine.Files
import ApiBridge.Connector.Basic
import ApiBridge.Connector.EventSource
import ApiBridge.Connector.Fetch
import ApiBridge.Connector.Health
import ApiBridge.Connector.Opening
import ApiBridge.Connector.Payload
import ApiBridge.Connector.Send
import ApiBridge.Connector.Stream
import ApiBridge.Content
import ApiBridge.Decimal.Layout
import ApiBridge.Decimal.Numeral
import ApiBridge.Decimal.Shortest
import ApiBridge.Definition.Basic
import ApiBridge.Definition.Check
import ApiBridge.Definition.Endpoint
import ApiBridge.Document
import ApiBridge.Duration
import ApiBridge.Error
import ApiBridge.EventStream.Block
import ApiBridge.EventStream.Consumption
import ApiBridge.EventStream.Event
import ApiBridge.EventStream.Lines
import ApiBridge.EventStream.Settings
import ApiBridge.Http.Base64
import ApiBridge.Http.Date
import ApiBridge.Http.Domain
import ApiBridge.Http.Header
import ApiBridge.Http.Host
import ApiBridge.Http.Method
import ApiBridge.Http.Path
import ApiBridge.Http.Peer
import ApiBridge.Http.Percent
import ApiBridge.Http.Punycode
import ApiBridge.Http.Request
import ApiBridge.Http.Url
import ApiBridge.Http.UrlError
import ApiBridge.Instant
import ApiBridge.Json.Access
import ApiBridge.Json.Basic
import ApiBridge.Json.Printer
import ApiBridge.Json.Reader
import ApiBridge.Main
import ApiBridge.Pagination.Spec
import ApiBridge.Pagination.Walk
import ApiBridge.Plugin
import ApiBridge.Proofs.Auth
import ApiBridge.Proofs.Binary64
import ApiBridge.Proofs.Connector.Attempt
import ApiBridge.Proofs.Connector.Backlog
import ApiBridge.Proofs.Connector.Batch
import ApiBridge.Proofs.Connector.Calls
import ApiBridge.Proofs.Connector.Checks
import ApiBridge.Proofs.Connector.Chunking
import ApiBridge.Proofs.Connector.Composition
import ApiBridge.Proofs.Connector.Course
import ApiBridge.Proofs.Connector.Delivery
import ApiBridge.Proofs.Connector.Failure
import ApiBridge.Proofs.Connector.Finish
import ApiBridge.Proofs.Connector.Headers
import ApiBridge.Proofs.Connector.History
import ApiBridge.Proofs.Connector.Mark
import ApiBridge.Proofs.Connector.Opening
import ApiBridge.Proofs.Connector.Operations
import ApiBridge.Proofs.Connector.Overflow
import ApiBridge.Proofs.Connector.Pacing
import ApiBridge.Proofs.Connector.Pages
import ApiBridge.Proofs.Connector.Passage
import ApiBridge.Proofs.Connector.Preparation
import ApiBridge.Proofs.Connector.Reading
import ApiBridge.Proofs.Connector.Reconnect
import ApiBridge.Proofs.Connector.Refinement
import ApiBridge.Proofs.Connector.ResponseChecks
import ApiBridge.Proofs.Connector.Resume
import ApiBridge.Proofs.Connector.Retry
import ApiBridge.Proofs.Connector.StoredId
import ApiBridge.Proofs.Connector.StreamFailure
import ApiBridge.Proofs.Connector.Termination
import ApiBridge.Proofs.Connector.Transition
import ApiBridge.Proofs.Connector.Uptake
import ApiBridge.Proofs.Connector.Validation
import ApiBridge.Proofs.Decimal.Numeral
import ApiBridge.Proofs.Definition.Check
import ApiBridge.Proofs.Definition.RoundTrip
import ApiBridge.Proofs.Document
import ApiBridge.Proofs.EventStream.Blocks
import ApiBridge.Proofs.EventStream.Bounds
import ApiBridge.Proofs.EventStream.Calls
import ApiBridge.Proofs.EventStream.Consumption
import ApiBridge.Proofs.EventStream.Encoding
import ApiBridge.Proofs.EventStream.Fields
import ApiBridge.Proofs.EventStream.Interruption
import ApiBridge.Proofs.EventStream.Lines
import ApiBridge.Proofs.EventStream.RoundTrip
import ApiBridge.Proofs.Http.Header
import ApiBridge.Proofs.Http.Message
import ApiBridge.Proofs.Json.Access
import ApiBridge.Proofs.Json.Number
import ApiBridge.Proofs.Json.Order
import ApiBridge.Proofs.Json.Reader
import ApiBridge.Proofs.Outcome
import ApiBridge.Proofs.Pagination.Items
import ApiBridge.Proofs.Pagination.Tokens
import ApiBridge.Proofs.Pagination.Walk
import ApiBridge.Proofs.Plugin
import ApiBridge.Proofs.RateLimit.Allowance
import ApiBridge.Proofs.RateLimit.Await
import ApiBridge.Proofs.RateLimit.Budget
import ApiBridge.Proofs.RateLimit.Calls
import ApiBridge.Proofs.RateLimit.Hints
import ApiBridge.Proofs.RateLimit.Limiter
import ApiBridge.Proofs.RateLimit.RetryAfter
import ApiBridge.Proofs.RateLimit.Spec
import ApiBridge.Proofs.Schema.Keyword
import ApiBridge.Proofs.Schema.Location
import ApiBridge.Proofs.Schema.Part
import ApiBridge.Proofs.Schema.Satisfaction
import ApiBridge.Proofs.Table
import ApiBridge.Proofs.Text.Utf8
import ApiBridge.Proofs.Traffic
import ApiBridge.RateLimit.Limiter
import ApiBridge.RateLimit.Spec
import ApiBridge.Schema.Kind
import ApiBridge.Schema.Validate
import ApiBridge.Table
import ApiBridge.Text.Blank
import ApiBridge.Text.Utf8
import ApiBridge.Traffic
import ApiBridge.Unicode.Composition
import ApiBridge.Unicode.Direction
import ApiBridge.Unicode.Joining
import ApiBridge.Unicode.Mapping
import ApiBridge.Unicode.Mark
import ApiBridge.Unicode.Normalization
import ApiBridge.Unicode.Table
import ApiBridge.Yaml.Cursor
import ApiBridge.Yaml.Node
import ApiBridge.Yaml.Plain
import ApiBridge.Yaml.Scalar
import ApiBridge.Yaml.Tag
import ApiBridge.Yaml.Token
import ApiBridge.Yaml.Value
