import ChatGateway.Attachment.Cache
import ChatGateway.Attachment.Id
import ChatGateway.Config.Environment
import ChatGateway.Config.Error
import ChatGateway.Config.Load
import ChatGateway.Config.Schema
import ChatGateway.Config.Tree
import ChatGateway.Config.Validation
import ChatGateway.Config.Yaml
import ChatGateway.Dictionary
import ChatGateway.Failure
import ChatGateway.Gateway.Rehearsal
import ChatGateway.Gateway.Setup
import ChatGateway.Gateway.Task
import ChatGateway.Json.Decode
import ChatGateway.Json.Parser
import ChatGateway.Json.Printer
import ChatGateway.Json.Value
import ChatGateway.Message.Block
import ChatGateway.Message.Event
import ChatGateway.Message.Request
import ChatGateway.Message.Response
import ChatGateway.Number.Binary
import ChatGateway.Number.Decimal
import ChatGateway.Number.Single
import ChatGateway.Number.Word
import ChatGateway.Proofs.Attachment.Recall
import ChatGateway.Proofs.Attachment.Scope
import ChatGateway.Proofs.Config.Accepted
import ChatGateway.Proofs.Config.References
import ChatGateway.Proofs.Config.Variables
import ChatGateway.Proofs.Dictionary
import ChatGateway.Proofs.Gateway.Attempt
import ChatGateway.Proofs.Gateway.Isolation
import ChatGateway.Proofs.Gateway.Rotation
import ChatGateway.Proofs.Gateway.Routes
import ChatGateway.Proofs.Gateway.Serialized
import ChatGateway.Proofs.Gateway.Traffic
import ChatGateway.Proofs.Json.Fields
import ChatGateway.Proofs.Json.Hereditary
import ChatGateway.Proofs.Json.Layout
import ChatGateway.Proofs.Json.Literal
import ChatGateway.Proofs.Json.Normal
import ChatGateway.Proofs.Json.Printed
import ChatGateway.Proofs.Json.ReadBack
import ChatGateway.Proofs.Json.Strings
import ChatGateway.Proofs.Message.Codec
import ChatGateway.Proofs.Message.Images
import ChatGateway.Proofs.Message.Legible
import ChatGateway.Proofs.Message.ReadBack
import ChatGateway.Proofs.Message.Regular
import ChatGateway.Proofs.Message.Tools
import ChatGateway.Proofs.Number.Bounds
import ChatGateway.Proofs.Number.Nearness
import ChatGateway.Proofs.Number.Rounding
import ChatGateway.Proofs.Number.Shortest
import ChatGateway.Proofs.Resilience.Histories
import ChatGateway.Proofs.Resilience.Leases
import ChatGateway.Proofs.Resilience.Operations
import ChatGateway.Proofs.Resilience.Parking
import ChatGateway.Proofs.Resilience.ParkingTime
import ChatGateway.Proofs.Resilience.Punctual
import ChatGateway.Proofs.Resilience.Refusing
import ChatGateway.Proofs.Resilience.Retrying
import ChatGateway.Proofs.Resilience.Separation
import ChatGateway.Proofs.Routing.Decisions
import ChatGateway.Proofs.Routing.Directives
import ChatGateway.Proofs.Routing.Hoisting
import ChatGateway.Proofs.Routing.Intake
import ChatGateway.Proofs.Routing.Refusals
import ChatGateway.Proofs.Routing.Tags
import ChatGateway.Proofs.Routing.UserTags
import ChatGateway.Proofs.Stage.Assembly
import ChatGateway.Proofs.Stage.Instructions
import ChatGateway.Proofs.Stage.LimitOrder
import ChatGateway.Proofs.Stage.Outline
import ChatGateway.Proofs.Stage.Rendering
import ChatGateway.Proofs.Stage.Repair
import ChatGateway.Proofs.Stage.RepairOrder
import ChatGateway.Proofs.Stage.Tidy
import ChatGateway.Proofs.Stage.TrailingCommas
import ChatGateway.Proofs.Stage.Writing
import ChatGateway.Proofs.Stage.Written
import ChatGateway.Proofs.Stream.Balance
import ChatGateway.Proofs.Stream.Ending
import ChatGateway.Proofs.Stream.Frames
import ChatGateway.Proofs.Stream.History
import ChatGateway.Proofs.Stream.Overflow
import ChatGateway.Proofs.Stream.Portions
import ChatGateway.Proofs.Stream.RoundTrip
import ChatGateway.Proofs.Stream.Signals
import ChatGateway.Proofs.Stream.Stretches
import ChatGateway.Proofs.Stream.Whole
import ChatGateway.Proofs.Text.Search
import ChatGateway.Proofs.Text.Utf8
import ChatGateway.Proofs.Wire.Assistant
import ChatGateway.Proofs.Wire.Calls
import ChatGateway.Proofs.Wire.Conversation
import ChatGateway.Proofs.Wire.Fragments
import ChatGateway.Proofs.Wire.FunctionNames
import ChatGateway.Proofs.Wire.Parts
import ChatGateway.Proofs.Wire.Schemas
import ChatGateway.Proofs.Wire.StopReason
import ChatGateway.Proofs.Wire.TokenCounts
import ChatGateway.Proofs.Wire.Written
import ChatGateway.Resilience.Breaker
import ChatGateway.Resilience.KeyRing
import ChatGateway.Resilience.Ledger
import ChatGateway.Resilience.RateLimit
import ChatGateway.Resilience.Retry
import ChatGateway.Routing.Directive
import ChatGateway.Routing.Images
import ChatGateway.Routing.Marker
import ChatGateway.Routing.Router
import ChatGateway.Sample.Category
import ChatGateway.Sample.Letter
import ChatGateway.Sample.Pattern
import ChatGateway.Sample.PatternParser
import ChatGateway.Sample.Pieces
import ChatGateway.Sample.Run
import ChatGateway.Sample.Script
import ChatGateway.Sample.Toolkit
import ChatGateway.Sample.Url
import ChatGateway.Secret
import ChatGateway.Stage.Basic
import ChatGateway.Stage.Chain
import ChatGateway.Stage.Context
import ChatGateway.Stage.EventWriter
import ChatGateway.Stage.OutputLimit
import ChatGateway.Stage.ToolRepair
import ChatGateway.Stream.Delivery
import ChatGateway.Stream.Frame
import ChatGateway.Stream.Pump
import ChatGateway.Text.Base64
import ChatGateway.Text.Blank
import ChatGateway.Text.Digit
import ChatGateway.Text.Search
import ChatGateway.Text.Utf8
import ChatGateway.Tokens.Estimate
import ChatGateway.Toolkit
import ChatGateway.Transport.Answer
import ChatGateway.Transport.Body
import ChatGateway.Transport.Connection
import ChatGateway.Transport.Outbound
import ChatGateway.Uuid
import ChatGateway.Wire.ChatCompletions
import ChatGateway.Wire.GenerateContent
import ChatGateway.Wire.Messages
import ChatGateway.Wire.Vertex
