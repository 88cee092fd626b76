import QueryWire.Logging.Session
import QueryWire.Script.Program
import QueryWire.Session
import QueryWire.Proofs.Json.RoundTrip
import QueryWire.Proofs.Expr.RoundTrip
import QueryWire.Proofs.Response.Decode
import QueryWire.Proofs.Text.Utf8
import QueryWire.Proofs.Value.Frame
import QueryWire.Proofs.Value.Settled
import QueryWire.Proofs.Expr.Serialize
import QueryWire.Proofs.Expr.Conversion
import QueryWire.Proofs.Builder
import QueryWire.Proofs.Program
import QueryWire.Proofs.Client.Exchange
import QueryWire.Proofs.Client.Request
import QueryWire.Proofs.Client.Query
import QueryWire.Proofs.Client.Interruption
import QueryWire.Proofs.Text.Base64
import QueryWire.Proofs.Session
import QueryWire.Proofs.Client.Authorization
import QueryWire.Proofs.Client.Blocking
import QueryWire.Proofs.Expr.Datum
import QueryWire.Proofs.Json.Wrapping
import QueryWire.Proofs.Expr.Neutral
import QueryWire.Proofs.Builder.Acceptance
import QueryWire.Proofs.Builder.Fields
import QueryWire.Proofs.Builder.History
import QueryWire.Proofs.Builder.Commutation
import QueryWire.Proofs.Expr.Frame
import QueryWire.Proofs.Expr.Stray
import QueryWire.Proofs.Client.Endpoint
import QueryWire.Proofs.Client.Lifecycle
import QueryWire.Proofs.Client.Secrecy
import QueryWire.Proofs.Client.Building
import QueryWire.Proofs.Client.Closing
import QueryWire.Proofs.Text.Parts
import QueryWire.Proofs.Url.Parse
import QueryWire.Proofs.Client.Construction
import QueryWire.Proofs.Client.Timeout
import QueryWire.Proofs.Client.Deadline
import QueryWire.Proofs.Expr.Reference
import QueryWire.Proofs.Json.Reread
import QueryWire.Proofs.Client.Resource
import QueryWire.Proofs.Client.Rejection
import QueryWire.Proofs.Response.BodyText
import QueryWire.Proofs.Client.Credentials
import QueryWire.Proofs.Client.Transcript
import QueryWire.Proofs.Expr.Composition
import QueryWire.Proofs.Logging.Hierarchy
import QueryWire.Proofs.Logging.Delivery
import QueryWire.Proofs.Logging.Level
import QueryWire.Proofs.Logging.Setup
import QueryWire.Proofs.Logging.History
import QueryWire.Proofs.Logging.Governance
import QueryWire.Proofs.Client.Payload
import QueryWire.Proofs.Logging.Session
