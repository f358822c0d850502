import AlertRouter.Alert.Basic
import AlertRouter.Alert.Ingest
import AlertRouter.Alert.Query
import AlertRouter.Alert.Status
import AlertRouter.Alert.Store
import AlertRouter.Alert.Tally
import AlertRouter.Api.Parameters
import AlertRouter.Api.Reply
import AlertRouter.Api.Resource
import AlertRouter.Api.Server
import AlertRouter.Config.Basic
import AlertRouter.Config.Global
import AlertRouter.Config.HttpClient
import AlertRouter.Config.Kind
import AlertRouter.Config.Secret
import AlertRouter.Config.Text
import AlertRouter.Data.Remote
import AlertRouter.Data.SortedMap
import AlertRouter.Data.Tree
import AlertRouter.Delivery.Dispatcher
import AlertRouter.Doc.Basic
import AlertRouter.Doc.Codec
import AlertRouter.Doc.Nested
import AlertRouter.Endpoint.Basic
import AlertRouter.Endpoint.Email
import AlertRouter.Endpoint.Opsgenie
import AlertRouter.Endpoint.Pagerduty
import AlertRouter.Endpoint.Pushover
import AlertRouter.Endpoint.Slack
import AlertRouter.Endpoint.Sns
import AlertRouter.Endpoint.Victorops
import AlertRouter.Endpoint.Webhook
import AlertRouter.Endpoint.Wechat
import AlertRouter.Error
import AlertRouter.Hash.Blake3
import AlertRouter.Http.Message
import AlertRouter.Http.Query
import AlertRouter.Integration.Basic
import AlertRouter.Integration.Registry
import AlertRouter.Json.Printer
import AlertRouter.Json.Reader
import AlertRouter.Label.Basic
import AlertRouter.Label.Fingerprint
import AlertRouter.Main
import AlertRouter.Matcher.Basic
import AlertRouter.Matcher.Expression
import AlertRouter.Number.Binary64
import AlertRouter.Options
import AlertRouter.Proofs.Alert.Batch
import AlertRouter.Proofs.Alert.Categories
import AlertRouter.Proofs.Alert.Episode
import AlertRouter.Proofs.Alert.Listing
import AlertRouter.Proofs.Alert.Resolved
import AlertRouter.Proofs.Alert.Stored
import AlertRouter.Proofs.Alert.Window
import AlertRouter.Proofs.Api.Refusal
import AlertRouter.Proofs.Api.Texts
import AlertRouter.Proofs.Config.Reread
import AlertRouter.Proofs.Config.Shown
import AlertRouter.Proofs.Cut
import AlertRouter.Proofs.Delivery.Attempts
import AlertRouter.Proofs.Delivery.Bookkeeping
import AlertRouter.Proofs.Delivery.Collection
import AlertRouter.Proofs.Delivery.Exact
import AlertRouter.Proofs.Delivery.Once
import AlertRouter.Proofs.Delivery.Pass
import AlertRouter.Proofs.Delivery.Record
import AlertRouter.Proofs.Doc.Reread
import AlertRouter.Proofs.Integration.Build
import AlertRouter.Proofs.Json.RoundTrip
import AlertRouter.Proofs.Label.Hexadecimal
import AlertRouter.Proofs.Label.Identity
import AlertRouter.Proofs.Label.Numeral
import AlertRouter.Proofs.Matcher.Grammar
import AlertRouter.Proofs.Matcher.Quotes
import AlertRouter.Proofs.Matcher.RoundTrip
import AlertRouter.Proofs.Matcher.Selection
import AlertRouter.Proofs.Matcher.Split
import AlertRouter.Proofs.Matcher.WholeText
import AlertRouter.Proofs.Outcome
import AlertRouter.Proofs.Pipeline.Basic
import AlertRouter.Proofs.Pipeline.Exclusion
import AlertRouter.Proofs.Pipeline.Protocol
import AlertRouter.Proofs.Receiver.Resolve
import AlertRouter.Proofs.Receiver.Setting
import AlertRouter.Proofs.Regex.Anchored
import AlertRouter.Proofs.Regex.Class
import AlertRouter.Proofs.Regex.Escape
import AlertRouter.Proofs.Regex.Local
import AlertRouter.Proofs.Regex.Matches
import AlertRouter.Proofs.Regex.Reading
import AlertRouter.Proofs.Regex.Token
import AlertRouter.Proofs.Route.Compile
import AlertRouter.Proofs.Route.Destination
import AlertRouter.Proofs.Route.Inheritance
import AlertRouter.Proofs.Route.Matching
import AlertRouter.Proofs.Routing.Calls
import AlertRouter.Proofs.Routing.Commute
import AlertRouter.Proofs.Routing.Effect
import AlertRouter.Proofs.Routing.Names
import AlertRouter.Proofs.Routing.Rebuild
import AlertRouter.Proofs.Routing.Requests
import AlertRouter.Proofs.Routing.Run
import AlertRouter.Proofs.Routing.Table
import AlertRouter.Proofs.Routing.Validity
import AlertRouter.Proofs.Secret.Masked
import AlertRouter.Proofs.Secret.Unseen
import AlertRouter.Proofs.Secret.Written
import AlertRouter.Proofs.Silence.Expiry
import AlertRouter.Proofs.Silence.Listing
import AlertRouter.Proofs.Silence.Muting
import AlertRouter.Proofs.Silence.Order
import AlertRouter.Proofs.Silence.Readback
import AlertRouter.Proofs.Silence.Records
import AlertRouter.Proofs.Silence.Store
import AlertRouter.Proofs.StableSort
import AlertRouter.Proofs.Text.Digits
import AlertRouter.Proofs.Text.Trim
import AlertRouter.Proofs.Time.Back
import AlertRouter.Proofs.Time.Calendar
import AlertRouter.Proofs.Time.Rfc3339
import AlertRouter.Receiver.Basic
import AlertRouter.Regex.Anchored
import AlertRouter.Regex.Basic
import AlertRouter.Regex.CharSet
import AlertRouter.Regex.Pattern.Class
import AlertRouter.Regex.Pattern.Escape
import AlertRouter.Regex.Pattern.Parser
import AlertRouter.Route.Basic
import AlertRouter.Route.Config
import AlertRouter.Routing.Coordinator
import AlertRouter.Routing.Table
import AlertRouter.Silence.Basic
import AlertRouter.Silence.Query
import AlertRouter.Silence.Store
import AlertRouter.Status
import AlertRouter.Text.Quoted
import AlertRouter.Text.Trim
import AlertRouter.Text.Utf8
import AlertRouter.Time.Calendar
import AlertRouter.Time.Instant
import AlertRouter.Time.Rfc3339
import AlertRouter.Unicode.Case
import AlertRouter.Unicode.Category
import AlertRouter.Unicode.Property
import AlertRouter.Unicode.Script
import AlertRouter.Unicode.Table
import AlertRouter.Url.Basic
import AlertRouter.Url.Domain
import AlertRouter.Url.Host
import AlertRouter.Url.Parser
import AlertRouter.Url.Percent
import AlertRouter.Url.Punycode
import AlertRouter.Yaml.Cursor
import AlertRouter.Yaml.Node
import AlertRouter.Yaml.Printer
import AlertRouter.Yaml.Reader
import AlertRouter.Yaml.Scalar
import AlertRouter.Yaml.Token
import AlertRouter.Yaml.Token.Lexer
import AlertRouter.Yaml.Token.Scalar
import AlertRouter.Yaml.Token.Tag
