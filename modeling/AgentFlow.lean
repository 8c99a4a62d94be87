import AgentFlow.CommandLine.Argument
import AgentFlow.CommandLine.Command
import AgentFlow.CommandLine.Environment
import AgentFlow.CommandLine.Help
import AgentFlow.CommandLine.Report
import AgentFlow.Condition
import AgentFlow.Condition.Shorthand
import AgentFlow.Decode.Basic
import AgentFlow.Decode.Checked
import AgentFlow.Decode.Error
import AgentFlow.Decode.Record
import AgentFlow.Execution.Boundary
import AgentFlow.Execution.Branch
import AgentFlow.Execution.Context
import AgentFlow.Execution.Error
import AgentFlow.Execution.Playback
import AgentFlow.Execution.Prompt
import AgentFlow.Execution.Run
import AgentFlow.Execution.ToolStep
import AgentFlow.Expr.Basic
import AgentFlow.Expr.DenyList
import AgentFlow.Expr.Error
import AgentFlow.Expr.Eval
import AgentFlow.Expr.Parser
import AgentFlow.Expr.Token
import AgentFlow.Expr.Value
import AgentFlow.Flow.Document
import AgentFlow.Flow.File
import AgentFlow.Flow.Graph
import AgentFlow.Flow.Result
import AgentFlow.Flow.Step
import AgentFlow.Json.Basic
import AgentFlow.Json.Fields
import AgentFlow.Json.Literal
import AgentFlow.Json.Node
import AgentFlow.Json.Parse
import AgentFlow.Json.Printer
import AgentFlow.Json.Reader
import AgentFlow.Json.Scalar
import AgentFlow.Main
import AgentFlow.Model.Endpoint
import AgentFlow.Model.Generation
import AgentFlow.Numeric.Decimal
import AgentFlow.Numeric.Dyadic
import AgentFlow.Numeric.Numeral
import AgentFlow.Template
import AgentFlow.Text.Blank
import AgentFlow.Text.Printable
import AgentFlow.Text.Quoted
import AgentFlow.Time.Timestamp
import AgentFlow.Tool.Call
import AgentFlow.Tool.Registry
import AgentFlow.Tool.Shared
import AgentFlow.Trace.Span
import AgentFlow.Validation
import AgentFlow.Variables
import AgentFlow.Yaml.Block
import AgentFlow.Yaml.Document
import AgentFlow.Yaml.Flow
import AgentFlow.Yaml.Source
import AgentFlow.Yaml.Tag
import AgentFlow.Yaml.Token
import AgentFlow.Proofs.Expr.Lexicon
import AgentFlow.Proofs.Expr.Grammar
import AgentFlow.Proofs.Expr.Tokens
import AgentFlow.Proofs.Expr.Reading
import AgentFlow.Proofs.Expr.Height
import AgentFlow.Proofs.Expr.Spelling
import AgentFlow.Proofs.Expr.Tallest
import AgentFlow.Proofs.Expr.Sandbox
import AgentFlow.Proofs.Expr.Written
import AgentFlow.Proofs.Decode.Record
import AgentFlow.Proofs.Flow.Graph
import AgentFlow.Proofs.Flow.Validation
import AgentFlow.Proofs.Execution.Service
import AgentFlow.Proofs.Execution.Handler
import AgentFlow.Proofs.Execution.Journey
import AgentFlow.Proofs.Execution.Trace
import AgentFlow.Proofs.Execution.StepLimit
import AgentFlow.Proofs.Execution.Itinerary
import AgentFlow.Proofs.Execution.StepSpans
import AgentFlow.Proofs.Execution.ValidFlow
import AgentFlow.Proofs.Execution.Event
import AgentFlow.Proofs.Execution.LoopRounds
import AgentFlow.Proofs.Execution.ErrorEdge
import AgentFlow.Proofs.Execution.Retry
import AgentFlow.Proofs.Flow.Reachability
import AgentFlow.Proofs.Execution.Reachability
import AgentFlow.Proofs.Template
import AgentFlow.Proofs.Execution.Noninterference
import AgentFlow.Proofs.Execution.Numbering
import AgentFlow.Proofs.Execution.SpanContent
import AgentFlow.Proofs.Execution.Answer
import AgentFlow.Proofs.Expr.Adjacency
import AgentFlow.Proofs.Condition.Words
import AgentFlow.Proofs.Condition.Tokens
import AgentFlow.Proofs.Condition.Ambiguity
import AgentFlow.Proofs.Execution.DeclarationOrder
import AgentFlow.Proofs.Execution.ThrownError
import AgentFlow.Proofs.Json.Fields
import AgentFlow.Proofs.Decode.Written
import AgentFlow.Proofs.Flow.Document
import AgentFlow.Proofs.Execution.Result
import AgentFlow.Proofs.Execution.CheckedCondition
import AgentFlow.Proofs.Expr.PathResolution
import AgentFlow.Proofs.Template.Pattern
import AgentFlow.Proofs.Template.SinglePass
import AgentFlow.Proofs.Expr.Piece
import AgentFlow.Proofs.Expr.MaximalMunch
import AgentFlow.Proofs.Condition.Wording
import AgentFlow.Proofs.Condition.Recognition
import AgentFlow.Proofs.Expr.Equality
import AgentFlow.Proofs.Condition.Coherence
import AgentFlow.Proofs.Execution.Frame
import AgentFlow.Proofs.Expr.HandBuilt
import AgentFlow.Proofs.Model.Endpoint
import AgentFlow.Proofs.Execution.SinglePrompt
import AgentFlow.Proofs.Text.ByteOrder
import AgentFlow.Proofs.Tool.Registry
import AgentFlow.Proofs.Expr.Cursor
import AgentFlow.Proofs.Expr.Promise
import AgentFlow.Proofs.Expr.Nesting
