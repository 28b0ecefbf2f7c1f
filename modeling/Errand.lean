import Errand.Action
import Errand.Backend.Basic
import Errand.Backend.Failover
import Errand.Binding
import Errand.Breaker
import Errand.Config
import Errand.Config.File
import Errand.Contract
import Errand.Fault
import Errand.Feed
import Errand.Function
import Errand.Goal
import Errand.Json.Layout
import Errand.Json.Mismatch
import Errand.Json.Printer
import Errand.Json.Reader
import Errand.Json.Value
import Errand.Number.Binary
import Errand.Number.Shortest
import Errand.Outcome
import Errand.Placeholder
import Errand.Plan
import Errand.Prompt.Budget
import Errand.Prompt.Function
import Errand.Prompt.Roles
import Errand.Prompt.Section
import Errand.Prompt.Template
import Errand.Registry
import Errand.Reply
import Errand.Role
import Errand.Run.Basic
import Errand.Run.Bind
import Errand.Run.Event
import Errand.Run.Goal
import Errand.Run.Plan
import Errand.Run.PlanExecute
import Errand.Run.React
import Errand.Run.Step
import Errand.Run.Stream
import Errand.Run.Strategy
import Errand.Schema.Check
import Errand.Schema.Dialect
import Errand.Schema.Violation
import Errand.Scripted.Backend
import Errand.Scripted.Basic
import Errand.Scripted.Function
import Errand.Scripted.Tool
import Errand.Session.Folder
import Errand.Session.Store
import Errand.Text.Blank
import Errand.Text.Case
import Errand.Text.CaseTable
import Errand.Text.HiddenTable
import Errand.Text.Pattern
import Errand.Text.Quoted
import Errand.Text.Ranges
import Errand.Text.Search
import Errand.Text.Tokens
import Errand.Text.WordTable
import Errand.Toml.Layout
import Errand.Toml.Printer
import Errand.Toml.Reader
import Errand.Toml.Scalar
import Errand.Toml.Table
import Errand.Toml.Value
import Errand.Tool
import Errand.World
import Errand.Proofs.Run.Completion
import Errand.Proofs.Run.Bindings
import Errand.Proofs.Run.Cancellation
import Errand.Proofs.Plan
import Errand.Proofs.Run.Pass
import Errand.Proofs.Json.Locality
import Errand.Proofs.Json.Blanks
import Errand.Proofs.Run.ToolInput
import Errand.Proofs.Breaker
import Errand.Proofs.Backend.Walk
import Errand.Proofs.Backend.History
import Errand.Proofs.Run.Parameters
import Errand.Proofs.Prompt.Budget
import Errand.Proofs.Backend.Tree
import Errand.Proofs.Backend.Serve
import Errand.Proofs.Run.RoleCalls
import Errand.Proofs.Run.PlanExecute
import Errand.Proofs.Run.React
import Errand.Proofs.Run.Stream
import Errand.Proofs.Run.Log
import Errand.Proofs.Prompt.Material
import Errand.Proofs.Run.Account
import Errand.Proofs.Run.Telling
import Errand.Proofs.Backend.Position
import Errand.Proofs.Reply.Extract
import Errand.Proofs.Reply.Wrapped
import Errand.Proofs.Run.Chunks
import Errand.Proofs.Run.Delivery
import Errand.Proofs.Backend.Streaming
import Errand.Proofs.Backend.StreamEnd
import Errand.Proofs.Placeholder.Stored
import Errand.Proofs.Placeholder.SinglePass
import Errand.Proofs.Run.Binding
import Errand.Proofs.Prompt.Fitting
import Errand.Proofs.Reply.Actions
import Errand.Proofs.Reply.Verdict
import Errand.Proofs.Backend.TokenCount
import Errand.Proofs.Registry
import Errand.Proofs.Run.Parts
import Errand.Proofs.Breaker.Openings
import Errand.Proofs.Json.Form
import Errand.Proofs.Session
import Errand.Proofs.Prompt.Raising
import Errand.Proofs.Run.Generated
import Errand.Proofs.Plan.Written
import Errand.Proofs.Run.Outcome
import Errand.Proofs.Goal
import Errand.Proofs.Plan.Numbers
