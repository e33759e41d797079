import HttpStub.Admin.Client
import HttpStub.Admin.Exchange
import HttpStub.Admin.Message
import HttpStub.Admin.Operation
import HttpStub.Admin.Request
import HttpStub.Base64
import HttpStub.Data
import HttpStub.Decimal.Shortest
import HttpStub.Delay
import HttpStub.Dict
import HttpStub.Duration
import HttpStub.Error
import HttpStub.Grpc.Code
import HttpStub.Grpc.Stub
import HttpStub.Http.Header
import HttpStub.Http.Status
import HttpStub.Journal.Codec
import HttpStub.Journal.Entry
import HttpStub.Json.Basic
import HttpStub.Json.Fault
import HttpStub.Json.Number
import HttpStub.Json.Position
import HttpStub.Json.Read.Basic
import HttpStub.Json.Read.Bracketed
import HttpStub.Json.Read.Document
import HttpStub.Json.Read.NumberLiteral
import HttpStub.Json.Read.StringLiteral
import HttpStub.Json.Text
import HttpStub.Matcher.Basic
import HttpStub.Matcher.Build
import HttpStub.Matcher.Chain
import HttpStub.Matcher.Pattern
import HttpStub.Matcher.Strategy
import HttpStub.Proofs.Admin.EntryUrl
import HttpStub.Proofs.Admin.Headers
import HttpStub.Proofs.Admin.Outcome
import HttpStub.Proofs.Admin.Transport
import HttpStub.Proofs.Admin.Verdict
import HttpStub.Proofs.Duration
import HttpStub.Proofs.Grpc.Stub
import HttpStub.Proofs.Journal.Edits
import HttpStub.Proofs.Journal.Grammar
import HttpStub.Proofs.Journal.Lawful
import HttpStub.Proofs.Journal.Readers
import HttpStub.Proofs.Journal.RoundTrip
import HttpStub.Proofs.Journal.Types
import HttpStub.Proofs.Json.Data
import HttpStub.Proofs.Json.Documents
import HttpStub.Proofs.Json.Keys
import HttpStub.Proofs.Json.Literals
import HttpStub.Proofs.Json.Members
import HttpStub.Proofs.Json.Paths
import HttpStub.Proofs.Json.Places
import HttpStub.Proofs.Json.Source.Basic
import HttpStub.Proofs.Json.Source.OfJson
import HttpStub.Proofs.Json.Source.Reading
import HttpStub.Proofs.Json.Source.Tokens
import HttpStub.Proofs.Json.Whole
import HttpStub.Proofs.Matcher.Choice
import HttpStub.Proofs.Matcher.Keys
import HttpStub.Proofs.Matcher.Literal
import HttpStub.Proofs.Matcher.Meaning
import HttpStub.Proofs.Matcher.Prepend
import HttpStub.Proofs.Matcher.Representation
import HttpStub.Proofs.Matcher.Runs
import HttpStub.Proofs.Matcher.Truth
import HttpStub.Proofs.Matcher.Wire
import HttpStub.Proofs.Request.Authorization
import HttpStub.Proofs.Request.Multipart
import HttpStub.Proofs.Request.Slots
import HttpStub.Proofs.Request.Wire
import HttpStub.Proofs.Response.Base64
import HttpStub.Proofs.Rule.Answer
import HttpStub.Proofs.Rule.Identity
import HttpStub.Proofs.Rule.Keys
import HttpStub.Proofs.Rule.Places
import HttpStub.Proofs.Rule.Request
import HttpStub.Proofs.Rule.Wire
import HttpStub.Proofs.Url.Child
import HttpStub.Proofs.Url.Parsed
import HttpStub.Proofs.Url.PathWalk
import HttpStub.Proofs.Url.PercentDecoding
import HttpStub.Reply
import HttpStub.Request.Basic
import HttpStub.Request.Multipart
import HttpStub.Request.Url
import HttpStub.Response.Basic
import HttpStub.Rule.Basic
import HttpStub.Rule.Identity
import HttpStub.Text.Codes
import HttpStub.Text.Composition
import HttpStub.Text.Composition.Table
import HttpStub.Text.Mark
import HttpStub.Text.Quoted
import HttpStub.Text.Standalone
import HttpStub.Text.Utf8
import HttpStub.Url.Basic
import HttpStub.Url.Domain
import HttpStub.Url.Domain.Direction
import HttpStub.Url.Domain.Joiner
import HttpStub.Url.Domain.Table
import HttpStub.Url.Fault
import HttpStub.Url.Host
import HttpStub.Url.Ip
import HttpStub.Url.Parse
import HttpStub.Url.Path
import HttpStub.Url.Percent
import HttpStub.Url.Punycode
import HttpStub.Url.Scheme
import HttpStub.Webhook
