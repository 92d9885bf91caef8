import Admission.Chain.Basic
import Admission.Chain.Build
import Admission.Check
import Admission.Config.Basic
import Admission.Config.Schema
import Admission.Config.Validation
import Admission.Context
import Admission.Credential
import Admission.Decimal.Layout
import Admission.Decimal.Shortest
import Admission.Decision
import Admission.Delegate.Attempt
import Admission.Delegate.Basic
import Admission.Delegate.Call
import Admission.Delegate.Denial
import Admission.Delegate.Target
import Admission.Error
import Admission.Event
import Admission.Filter.Basic
import Admission.Filter.LengthLimit
import Admission.Hook
import Admission.Json.Basic
import Admission.Json.Decoder
import Admission.Json.Fault
import Admission.Json.Lexeme
import Admission.Json.Record
import Admission.Json.Skip
import Admission.Lease.Basic
import Admission.Lease.Violation
import Admission.Main
import Admission.Metrics.Basic
import Admission.Metrics.Counter
import Admission.Metrics.Histogram
import Admission.Metrics.Labels
import Admission.Proofs.Chain.Accounts
import Admission.Proofs.Chain.Agreement
import Admission.Proofs.Chain.Assembly
import Admission.Proofs.Chain.Build
import Admission.Proofs.Chain.Scan
import Admission.Proofs.Chain.Trace
import Admission.Proofs.Check
import Admission.Proofs.Config.Limits
import Admission.Proofs.Config.Loading
import Admission.Proofs.Config.Validation
import Admission.Proofs.Decision
import Admission.Proofs.Delegate.Accounts
import Admission.Proofs.Delegate.Attempt
import Admission.Proofs.Delegate.Build
import Admission.Proofs.Delegate.Denial
import Admission.Proofs.Delegate.Reason
import Admission.Proofs.Delegate.Retry
import Admission.Proofs.Delegate.Secrecy
import Admission.Proofs.Delegate.Target
import Admission.Proofs.Delegate.Wire
import Admission.Proofs.Except
import Admission.Proofs.Filter.Denial
import Admission.Proofs.Filter.Extension
import Admission.Proofs.Filter.LengthLimit
import Admission.Proofs.Filter.Reduced
import Admission.Proofs.Filter.Relaxation
import Admission.Proofs.Filter.Words
import Admission.Proofs.Json.Container
import Admission.Proofs.Json.Lexeme
import Admission.Proofs.Json.Members
import Admission.Proofs.Json.Origin
import Admission.Proofs.Json.Record
import Admission.Proofs.Json.Skip
import Admission.Proofs.Json.Spelling
import Admission.Proofs.Json.Value
import Admission.Proofs.Lease.Violation
import Admission.Proofs.Lease.Window
import Admission.Proofs.Lease.Wire
import Admission.Proofs.Metrics.Decoding
import Admission.Proofs.Metrics.Line
import Admission.Proofs.Metrics.Recording
import Admission.Proofs.Metrics.Rendering
import Admission.Proofs.Metrics.Series
import Admission.Proofs.Registry
import Admission.Proofs.Retry
import Admission.Proofs.Table
import Admission.Proofs.Task
import Admission.Proofs.Text.Blank
import Admission.Proofs.Text.Digits
import Admission.Proofs.Text.Run
import Admission.Proofs.Text.Utf8
import Admission.Proofs.Time.Calendar
import Admission.Proofs.Time.Instant
import Admission.Proofs.Time.Wire
import Admission.Proofs.Url.Authority
import Admission.Proofs.Url.Path
import Admission.Proofs.Url.Reader
import Admission.Proofs.Yaml.Reader
import Admission.Proofs.Yaml.Record
import Admission.Record
import Admission.Registry
import Admission.Request
import Admission.Retry
import Admission.Service
import Admission.Table
import Admission.Task
import Admission.Text.Blank
import Admission.Text.Chart
import Admission.Text.Composed
import Admission.Text.Digit
import Admission.Text.Direction
import Admission.Text.File
import Admission.Text.Joining
import Admission.Text.Mark
import Admission.Text.Order
import Admission.Text.Printed
import Admission.Text.Quoted
import Admission.Text.Split
import Admission.Text.Utf8
import Admission.Time.Calendar
import Admission.Time.Clock
import Admission.Time.Delay
import Admission.Time.Instant
import Admission.Time.Reader
import Admission.Time.Span
import Admission.Url.Address
import Admission.Url.Basic
import Admission.Url.Domain.Basic
import Admission.Url.Domain.Label
import Admission.Url.Domain.Mapping
import Admission.Url.Domain.Punycode
import Admission.Url.Encoding
import Admission.Url.Reader
import Admission.Yaml.Cursor
import Admission.Yaml.Node
import Admission.Yaml.Reader
import Admission.Yaml.Scalar
import Admission.Yaml.Tag
import Admission.Yaml.Token
