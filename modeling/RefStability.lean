import RefStability.Binding.Event
import RefStability.Command.Arguments
import RefStability.Command.Check
import RefStability.Command.Paths
import RefStability.Command.Run
import RefStability.Config
import RefStability.Decimal
import RefStability.Document.Basic
import RefStability.Document.Decode
import RefStability.Document.Encode
import RefStability.Document.Record
import RefStability.Finding.Basic
import RefStability.Finding.Check
import RefStability.Json.Basic
import RefStability.Json.Number
import RefStability.Json.Printer
import RefStability.Json.Reader
import RefStability.Json.Token
import RefStability.Lint.Linter
import RefStability.Lint.Rule
import RefStability.Liveness.Scan
import RefStability.Liveness.Window
import RefStability.Main
import RefStability.Path.Basic
import RefStability.Path.Relation
import RefStability.Path.Template
import RefStability.Path.TemplateTable
import RefStability.Path.Trace
import RefStability.Program.Basic
import RefStability.Program.Lower
import RefStability.Program.Place
import RefStability.Program.Scope
import RefStability.Program.Walk
import RefStability.Span
import RefStability.SymbolTable
import RefStability.Text.Alphabetic
import RefStability.Text.Identifier
import RefStability.Toml.Basic
import RefStability.Toml.Document
import RefStability.Toml.Number
import RefStability.Toml.Table
import RefStability.Toml.Text
import RefStability.Proofs.Layout
import RefStability.Proofs.EventLog
import RefStability.Proofs.Resolution
import RefStability.Proofs.Liveness
import RefStability.Proofs.Detection
import RefStability.Proofs.LiveResolution
import RefStability.Proofs.Meaning
import RefStability.Proofs.StepBound
import RefStability.Proofs.WalkInvariant
import RefStability.Proofs.MoreSteps
import RefStability.Proofs.SourceOrder
import RefStability.Proofs.Scoping
import RefStability.Proofs.Acceptance
import RefStability.Proofs.ReadBack
import RefStability.Proofs.InRange
import RefStability.Proofs.Problem
import RefStability.Proofs.Resizability
import RefStability.Proofs.Shift
import RefStability.Proofs.Independence
import RefStability.Proofs.Diagnostics
import RefStability.Proofs.Roots
import RefStability.Proofs.RejectedTemplate
import RefStability.Proofs.ByNumber
import RefStability.Proofs.WithinBounds
import RefStability.Proofs.TraceByNumber
import RefStability.Proofs.CheckByNumber
import RefStability.Proofs.Unfailing
import RefStability.Proofs.Verdict
import RefStability.Proofs.CheckedNodes
import RefStability.Proofs.MethodNames
import RefStability.Proofs.ListedPaths
import RefStability.Proofs.FixedSize
import RefStability.Proofs.RoundTrip
import RefStability.Proofs.TemplateSymbols
import RefStability.Proofs.TemplateGrammar
import RefStability.Proofs.TemplateDeclarations
import RefStability.Proofs.CompleteLog
import RefStability.Proofs.ReadThrough
import RefStability.Proofs.PathOrder
import RefStability.Proofs.SharedArguments
import RefStability.Proofs.RelationLaws
import RefStability.Proofs.BuiltPaths
import RefStability.Proofs.ScopeEscape
import RefStability.Proofs.CheckedPositions
import RefStability.Proofs.RenderedPaths
