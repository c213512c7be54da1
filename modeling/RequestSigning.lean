import RequestSigning.Bytes
import RequestSigning.Canonical.Fields
import RequestSigning.Canonical.Request
import RequestSigning.Canonical.Target
import RequestSigning.Credential
import RequestSigning.Decimal.CubeRoot
import RequestSigning.Decimal.Dyadic
import RequestSigning.Decimal.Fixed
import RequestSigning.Decimal.Shortest
import RequestSigning.Draft
import RequestSigning.Encoding.Form
import RequestSigning.Encoding.Hex
import RequestSigning.Encoding.Percent
import RequestSigning.Environment
import RequestSigning.Error
import RequestSigning.Hash.Hmac
import RequestSigning.Hash.Sha256
import RequestSigning.Http.Authority
import RequestSigning.Http.Fault
import RequestSigning.Http.Header
import RequestSigning.Http.Message
import RequestSigning.Http.Method
import RequestSigning.Http.Transport
import RequestSigning.Http.Uri
import RequestSigning.Key.Cache
import RequestSigning.Key.Derivation
import RequestSigning.Log
import RequestSigning.Metadata.Answer
import RequestSigning.Metadata.Callers
import RequestSigning.Metadata.Client
import RequestSigning.Metadata.Token
import RequestSigning.Payload.Hash
import RequestSigning.Payload.Stream
import RequestSigning.Proofs.Bytes
import RequestSigning.Proofs.Canonical.Compact
import RequestSigning.Proofs.Canonical.Fields
import RequestSigning.Proofs.Canonical.Lines
import RequestSigning.Proofs.Canonical.Path
import RequestSigning.Proofs.Canonical.Printed
import RequestSigning.Proofs.Canonical.Query
import RequestSigning.Proofs.Canonical.QueryOrder
import RequestSigning.Proofs.Canonical.Request
import RequestSigning.Proofs.Credential
import RequestSigning.Proofs.Decimal.Digits
import RequestSigning.Proofs.Draft.HandedBack
import RequestSigning.Proofs.Draft.Octets
import RequestSigning.Proofs.Draft.Query
import RequestSigning.Proofs.Draft.Restore
import RequestSigning.Proofs.Draft.Room
import RequestSigning.Proofs.Encoding.Form
import RequestSigning.Proofs.Encoding.Hex
import RequestSigning.Proofs.Encoding.Percent
import RequestSigning.Proofs.Http.Authority
import RequestSigning.Proofs.Http.Endpoint
import RequestSigning.Proofs.Http.FieldText
import RequestSigning.Proofs.Http.Header
import RequestSigning.Proofs.Http.Target
import RequestSigning.Proofs.Key.Queue
import RequestSigning.Proofs.Key.Run
import RequestSigning.Proofs.Key.Slot
import RequestSigning.Proofs.Metadata.Attempt
import RequestSigning.Proofs.Metadata.Callers
import RequestSigning.Proofs.Metadata.Ending
import RequestSigning.Proofs.Metadata.LifeCycle
import RequestSigning.Proofs.Metadata.Reading
import RequestSigning.Proofs.Metadata.Refresh
import RequestSigning.Proofs.Metadata.Turn
import RequestSigning.Proofs.Metadata.Unrenewable
import RequestSigning.Proofs.Metadata.Usable
import RequestSigning.Proofs.Payload.Reading
import RequestSigning.Proofs.Payload.Stream
import RequestSigning.Proofs.Retry.Backoff
import RequestSigning.Proofs.Retry.Bounds
import RequestSigning.Proofs.Retry.Bucket
import RequestSigning.Proofs.Retry.Calls
import RequestSigning.Proofs.Retry.Dormant
import RequestSigning.Proofs.Retry.Exact
import RequestSigning.Proofs.Retry.Outcome
import RequestSigning.Proofs.Retry.Pace
import RequestSigning.Proofs.Retry.Protocol
import RequestSigning.Proofs.Retry.Refill
import RequestSigning.Proofs.Retry.Steady
import RequestSigning.Proofs.Retry.Steps
import RequestSigning.Proofs.Retry.Throttling
import RequestSigning.Proofs.Retry.Timing
import RequestSigning.Proofs.Signing.DeclaredHash
import RequestSigning.Proofs.Signing.Disclosure
import RequestSigning.Proofs.Signing.Failure
import RequestSigning.Proofs.Signing.Fields
import RequestSigning.Proofs.Signing.Footprint
import RequestSigning.Proofs.Signing.Frame
import RequestSigning.Proofs.Signing.Padding
import RequestSigning.Proofs.Signing.Query
import RequestSigning.Proofs.Signing.Repeated
import RequestSigning.Proofs.Signing.Reports
import RequestSigning.Proofs.Signing.Resigned
import RequestSigning.Proofs.Signing.Reuse
import RequestSigning.Proofs.Signing.Steps
import RequestSigning.Proofs.Signing.Success
import RequestSigning.Proofs.Signing.Unsigned
import RequestSigning.Proofs.Signing.Validity
import RequestSigning.Proofs.Text.Lossy
import RequestSigning.Proofs.Text.Utf8
import RequestSigning.Proofs.Time.Civil
import RequestSigning.Proofs.Time.Day
import RequestSigning.Proofs.Time.Instant
import RequestSigning.Retry.Backoff
import RequestSigning.Retry.Exact
import RequestSigning.Retry.Limiter
import RequestSigning.Retry.Policy
import RequestSigning.Retry.Rate
import RequestSigning.Retry.Wait
import RequestSigning.Settings
import RequestSigning.Signing.Head
import RequestSigning.Signing.Profile
import RequestSigning.Signing.Reuse
import RequestSigning.Signing.Session
import RequestSigning.Signing.Signature
import RequestSigning.SigningTerms
import RequestSigning.Text.Ascii
import RequestSigning.Text.Blank
import RequestSigning.Text.CodePoints
import RequestSigning.Text.Invisible
import RequestSigning.Text.Quoted
import RequestSigning.Text.Redact
import RequestSigning.Text.Unassigned
import RequestSigning.Text.Utf8
import RequestSigning.Time.Civil
import RequestSigning.Time.Clock
import RequestSigning.Time.Duration
import RequestSigning.Time.Format
import RequestSigning.Time.Instant
import RequestSigning.Time.Rfc3339
