import ChainRpc.Binary64
import ChainRpc.Binary64.Decimal
import ChainRpc.Binary64.Shortest
import ChainRpc.Binary64.Sum
import ChainRpc.ByteString
import ChainRpc.Client.Blocking
import ChainRpc.Client.Core
import ChainRpc.Client.Operation
import ChainRpc.Client.Resumable
import ChainRpc.Client.Typed
import ChainRpc.Entries
import ChainRpc.Envelope
import ChainRpc.Fault
import ChainRpc.Fault.Kind
import ChainRpc.Hex
import ChainRpc.Http.Headers
import ChainRpc.Http.Post
import ChainRpc.Http.Script
import ChainRpc.Http.Transport
import ChainRpc.Http.Url
import ChainRpc.Http.Url.Address
import ChainRpc.Http.Url.Quoting
import ChainRpc.Idna
import ChainRpc.Idna.Label
import ChainRpc.Idna.Punycode
import ChainRpc.Idna.Repertoire
import ChainRpc.Issue
import ChainRpc.Json
import ChainRpc.Json.Carried
import ChainRpc.Json.Reader
import ChainRpc.Json.Unreadable
import ChainRpc.Json.Writer
import ChainRpc.Lenient
import ChainRpc.Log
import ChainRpc.Malformed
import ChainRpc.Method
import ChainRpc.Method.Registry
import ChainRpc.Method.Shelf
import ChainRpc.Method.Table
import ChainRpc.Node
import ChainRpc.Node.Command
import ChainRpc.Node.Handler
import ChainRpc.Node.Writer
import ChainRpc.Proofs.Checked
import ChainRpc.Proofs.Client.Accounting
import ChainRpc.Proofs.Client.Agreement
import ChainRpc.Proofs.Client.Attribution
import ChainRpc.Proofs.Client.Batches
import ChainRpc.Proofs.Client.Building
import ChainRpc.Proofs.Client.Correlation
import ChainRpc.Proofs.Client.Dialogue
import ChainRpc.Proofs.Client.Echo
import ChainRpc.Proofs.Client.Faults
import ChainRpc.Proofs.Client.History
import ChainRpc.Proofs.Client.Operations
import ChainRpc.Proofs.Client.Reading
import ChainRpc.Proofs.Client.Refusals
import ChainRpc.Proofs.Client.Sending
import ChainRpc.Proofs.Client.Steps
import ChainRpc.Proofs.Client.TypedCalls
import ChainRpc.Proofs.Entries
import ChainRpc.Proofs.Hex
import ChainRpc.Proofs.Json.Ordered
import ChainRpc.Proofs.Json.Portable
import ChainRpc.Proofs.Json.RoundTrip
import ChainRpc.Proofs.Messages
import ChainRpc.Proofs.Node.Answers
import ChainRpc.Proofs.Request
import ChainRpc.Proofs.Shape.Fields
import ChainRpc.Proofs.Shape.Fits
import ChainRpc.Proofs.Shape.Normal
import ChainRpc.Proofs.Shape.Portable
import ChainRpc.Proofs.Shape.Rereading
import ChainRpc.Proofs.Shape.Rewriting
import ChainRpc.Proofs.Shape.Structure
import ChainRpc.Proofs.Shape.Typed
import ChainRpc.Proofs.Signature
import ChainRpc.Proofs.Text.Clean
import ChainRpc.Proofs.Text.Digits
import ChainRpc.Proofs.Text.Whole
import ChainRpc.Proofs.Value.Fits
import ChainRpc.Proofs.Value.Legible
import ChainRpc.Proofs.Value.Plain
import ChainRpc.ProtocolError
import ChainRpc.Quantity
import ChainRpc.Request
import ChainRpc.Response
import ChainRpc.Settings
import ChainRpc.Shape
import ChainRpc.Shape.Catalogue
import ChainRpc.Shape.Chain
import ChainRpc.Shape.Decode
import ChainRpc.Shape.Encode
import ChainRpc.Shape.Node
import ChainRpc.Shape.Record
import ChainRpc.Signature
import ChainRpc.Text
import ChainRpc.Text.Base64
import ChainRpc.Text.Blank
import ChainRpc.Text.Codec
import ChainRpc.Text.CombiningClass
import ChainRpc.Text.Detect
import ChainRpc.Text.Direction
import ChainRpc.Text.Joining
import ChainRpc.Text.Lower
import ChainRpc.Text.Mark
import ChainRpc.Text.Normal
import ChainRpc.Text.Printable
import ChainRpc.Text.Quoted
import ChainRpc.Text.Run
import ChainRpc.Text.Script
import ChainRpc.Text.Upper
import ChainRpc.Text.Utf8
import ChainRpc.Text.Wide
import ChainRpc.Value
import ChainRpc.Value.Plain
import ChainRpc.Value.Shown
import ChainRpc.Proofs.Client.Kinds
import ChainRpc.Proofs.Shape.Narrowing
import ChainRpc.Proofs.Method.WireForm
import ChainRpc.Proofs.Binary64.Rounding
import ChainRpc.Proofs.Binary64.Shortest
import ChainRpc.Proofs.Json.Carried
import ChainRpc.Proofs.Client.RawCalls
import ChainRpc.Proofs.Method.Chronicles
import ChainRpc.Proofs.Method.Registries
import ChainRpc.Proofs.Text.Utf8
import ChainRpc.Proofs.Text.Decoded
import ChainRpc.Proofs.Json.Received
import ChainRpc.Proofs.Json.Numbers
import ChainRpc.Proofs.Node.Bodies
import ChainRpc.Proofs.Responses
import ChainRpc.Proofs.Node.Outcomes
import ChainRpc.Proofs.Node.Framing
import ChainRpc.Proofs.Node.Runs
import ChainRpc.Proofs.Client.NodeErrors
import ChainRpc.Proofs.Method.Positions
import ChainRpc.Proofs.Shape.Modes
import ChainRpc.Proofs.Shape.Additions
import ChainRpc.Proofs.Envelope
import ChainRpc.Proofs.Client.Verbatim
import ChainRpc.Proofs.Primitives
import ChainRpc.Proofs.RequestBodies
import ChainRpc.Proofs.Client.Acceptance
import ChainRpc.Proofs.Malformed
import ChainRpc.Proofs.Node.Unreadable
import ChainRpc.Proofs.Http.Headers
import ChainRpc.Proofs.Client.Helpers
import ChainRpc.Proofs.Node.Coroutines
