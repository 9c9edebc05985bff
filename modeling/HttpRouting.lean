import HttpRouting.Data.Keyed
import HttpRouting.Decimal.Binary
import HttpRouting.Decimal.Layout
import HttpRouting.Decimal.Reading
import HttpRouting.Decimal.Shortest
import HttpRouting.Envelope
import HttpRouting.Example.Directory
import HttpRouting.Example.Program
import HttpRouting.Handler
import HttpRouting.Http.Form
import HttpRouting.Http.Header
import HttpRouting.Http.Method
import HttpRouting.Http.Request
import HttpRouting.Http.Response
import HttpRouting.Http.Status
import HttpRouting.Http.Uri
import HttpRouting.Http.Wire
import HttpRouting.Introspect
import HttpRouting.Json.Cursor
import HttpRouting.Json.Error
import HttpRouting.Json.Printer
import HttpRouting.Json.Reader
import HttpRouting.Json.Scan
import HttpRouting.Json.Shape
import HttpRouting.Json.Value
import HttpRouting.Main
import HttpRouting.Middleware.Fields
import HttpRouting.Middleware.Trim
import HttpRouting.OpenApi.Codec
import HttpRouting.OpenApi.Config
import HttpRouting.OpenApi.Document
import HttpRouting.Router.Allow
import HttpRouting.Router.Error
import HttpRouting.Router.Path
import HttpRouting.Router.Slot
import HttpRouting.Router.Table
import HttpRouting.Router.Tree
import HttpRouting.Server.Activity
import HttpRouting.Server.Address
import HttpRouting.Server.Basic
import HttpRouting.Server.Listen
import HttpRouting.Text.Blank
import HttpRouting.Text.Printable
import HttpRouting.Text.Utf8
import HttpRouting.Proofs.Table
import HttpRouting.Proofs.Registration
import HttpRouting.Proofs.Routing
import HttpRouting.Proofs.Mounts
import HttpRouting.Proofs.Interleaving
import HttpRouting.Proofs.Documentation
import HttpRouting.Proofs.Headers
import HttpRouting.Proofs.Inheritance
import HttpRouting.Proofs.AllowHeader
import HttpRouting.Proofs.TableRefinement
import HttpRouting.Proofs.TableLinearizable
import HttpRouting.Proofs.PathJoin
import HttpRouting.Proofs.HeaderNames
import HttpRouting.Proofs.Preflight
import HttpRouting.Proofs.EndpointExits
import HttpRouting.Proofs.WriteLog
import HttpRouting.Proofs.OrderIndependence
import HttpRouting.Proofs.AtomicTableWrite
import HttpRouting.Proofs.PathKey
import HttpRouting.Proofs.Utf8Decoding
import HttpRouting.Proofs.FormRoundTrip
import HttpRouting.Proofs.TrimSpaces
import HttpRouting.Proofs.JsonReader
import HttpRouting.Proofs.JsonRoundTrip
import HttpRouting.Proofs.ShapeReading
import HttpRouting.Proofs.DocumentRoundTrip
import HttpRouting.Proofs.FieldsRecording
import HttpRouting.Proofs.PrettyReading
import HttpRouting.Proofs.EnvelopeRendering
import HttpRouting.Proofs.IdleShutdown
