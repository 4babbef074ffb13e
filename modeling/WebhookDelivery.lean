import WebhookDelivery.Attempt
import WebhookDelivery.Clock
import WebhookDelivery.Count
import WebhookDelivery.Domain
import WebhookDelivery.Domain.Mapping
import WebhookDelivery.Domain.NormalForm
import WebhookDelivery.Domain.Punycode
import WebhookDelivery.Duration
import WebhookDelivery.Http.Body
import WebhookDelivery.Http.Client
import WebhookDelivery.Http.Exchange
import WebhookDelivery.Http.Method
import WebhookDelivery.Http.Outcome
import WebhookDelivery.Http.Request
import WebhookDelivery.Instant
import WebhookDelivery.Instant.Calendar
import WebhookDelivery.Instant.Rfc3339
import WebhookDelivery.Json
import WebhookDelivery.Json.Reader
import WebhookDelivery.Json.Records
import WebhookDelivery.Json.Settings
import WebhookDelivery.Message
import WebhookDelivery.Pipeline.Engine
import WebhookDelivery.Pipeline.Scene
import WebhookDelivery.Pipeline.Sequence
import WebhookDelivery.Pipeline.Stats
import WebhookDelivery.Pipeline.Submission
import WebhookDelivery.Pipeline.Sweep
import WebhookDelivery.Pipeline.Task
import WebhookDelivery.Pipeline.Worker
import WebhookDelivery.Pipeline.World
import WebhookDelivery.PipelineError
import WebhookDelivery.Proofs.AddressText
import WebhookDelivery.Proofs.AnswerRecord
import WebhookDelivery.Proofs.AuditTrail
import WebhookDelivery.Proofs.Backoff
import WebhookDelivery.Proofs.BodyReading
import WebhookDelivery.Proofs.BodySummary
import WebhookDelivery.Proofs.CalendarDays
import WebhookDelivery.Proofs.Calls
import WebhookDelivery.Proofs.ClockReadings
import WebhookDelivery.Proofs.CompareAndSet
import WebhookDelivery.Proofs.Counters
import WebhookDelivery.Proofs.Deeds
import WebhookDelivery.Proofs.Deliverable
import WebhookDelivery.Proofs.DeliveryEffect
import WebhookDelivery.Proofs.Digits
import WebhookDelivery.Proofs.DomainNames
import WebhookDelivery.Proofs.DueTimes
import WebhookDelivery.Proofs.IdentifierSpellings
import WebhookDelivery.Proofs.Identifiers
import WebhookDelivery.Proofs.Interchange
import WebhookDelivery.Proofs.LayeredSettings
import WebhookDelivery.Proofs.Ledger
import WebhookDelivery.Proofs.Lifecycle
import WebhookDelivery.Proofs.LongNames
import WebhookDelivery.Proofs.MessageHistory
import WebhookDelivery.Proofs.NoneStranded
import WebhookDelivery.Proofs.ObjectMembers
import WebhookDelivery.Proofs.Ownership
import WebhookDelivery.Proofs.PasswordMask
import WebhookDelivery.Proofs.PercentText
import WebhookDelivery.Proofs.Phases
import WebhookDelivery.Proofs.PlainAddress
import WebhookDelivery.Proofs.PlainValues
import WebhookDelivery.Proofs.QuotedValues
import WebhookDelivery.Proofs.RecordForms
import WebhookDelivery.Proofs.Recovery
import WebhookDelivery.Proofs.Redirects
import WebhookDelivery.Proofs.RepeatedRecovery
import WebhookDelivery.Proofs.RetryMachine
import WebhookDelivery.Proofs.SecretIndependence
import WebhookDelivery.Proofs.Separators
import WebhookDelivery.Proofs.SettingLayers
import WebhookDelivery.Proofs.SignedContent
import WebhookDelivery.Proofs.SinceQuery
import WebhookDelivery.Proofs.SingleOwner
import WebhookDelivery.Proofs.Stages
import WebhookDelivery.Proofs.StoreInvariant
import WebhookDelivery.Proofs.Submission
import WebhookDelivery.Proofs.Sweeps
import WebhookDelivery.Proofs.Tally
import WebhookDelivery.Proofs.TimeText
import WebhookDelivery.Proofs.Unsealed
import WebhookDelivery.Proofs.UrlForm
import WebhookDelivery.Proofs.UrlText
import WebhookDelivery.Proofs.Utf8Text
import WebhookDelivery.Proofs.VariableValues
import WebhookDelivery.Proofs.VerbatimSettings
import WebhookDelivery.Proofs.Verification
import WebhookDelivery.Proofs.Waits
import WebhookDelivery.Proofs.Wakeups
import WebhookDelivery.Proofs.WireSignature
import WebhookDelivery.Queue
import WebhookDelivery.Queue.Handoff
import WebhookDelivery.Queue.Table
import WebhookDelivery.Retry
import WebhookDelivery.Settings
import WebhookDelivery.Settings.Environment
import WebhookDelivery.Settings.Loading
import WebhookDelivery.Settings.Pipeline
import WebhookDelivery.Signing
import WebhookDelivery.Signing.Base64
import WebhookDelivery.Signing.Hmac
import WebhookDelivery.Signing.Sha256
import WebhookDelivery.Status
import WebhookDelivery.Store
import WebhookDelivery.StoreError
import WebhookDelivery.Text.Blank
import WebhookDelivery.Text.Decimal
import WebhookDelivery.Text.Hex
import WebhookDelivery.Text.LossyUtf8
import WebhookDelivery.Text.Numeral
import WebhookDelivery.Text.Quoted
import WebhookDelivery.Toml.Reader
import WebhookDelivery.Toml.Scalar
import WebhookDelivery.Toml.Strings
import WebhookDelivery.Toml.Table
import WebhookDelivery.Unicode.CodePointSet
import WebhookDelivery.Unicode.Composition
import WebhookDelivery.Unicode.Direction
import WebhookDelivery.Unicode.Hidden
import WebhookDelivery.Unicode.Joining
import WebhookDelivery.Unicode.Marks
import WebhookDelivery.Url
import WebhookDelivery.Url.Address
import WebhookDelivery.Url.Percent
import WebhookDelivery.Url.Reader
import WebhookDelivery.Uuid
