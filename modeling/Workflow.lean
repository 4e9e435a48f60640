import Workflow.Graph.Text
import Workflow.Graph.Editor
import Workflow.Definition.Compile
import Workflow.Definition.Emitter
import Workflow.Definition.Load
import Workflow.Engine.Text
import Workflow.Engine.Local
import Workflow.Cache.Session
import Workflow.Cache.Client
import Workflow.Remote.Connection
import Workflow.Remote.Unreachable
import Workflow.Cli.Run
import Workflow.Main
import Workflow.Proofs.Graph.WellFormed
import Workflow.Proofs.Graph.Editor
import Workflow.Proofs.Graph.Session
import Workflow.Proofs.Definition.Load
import Workflow.Proofs.Definition.Compile
import Workflow.Proofs.Definition.EdgeOrder
import Workflow.Proofs.Definition.Indifference
import Workflow.Proofs.Json.Layout
import Workflow.Proofs.Json.ReadBack
import Workflow.Proofs.Json.Cut
import Workflow.Proofs.Json.Meaning
import Workflow.Proofs.Definition.Wire
import Workflow.Proofs.Definition.Reload
import Workflow.Proofs.Definition.Format
import Workflow.Proofs.Engine.Local
import Workflow.Proofs.Engine.Names
import Workflow.Proofs.Engine.Retention
import Workflow.Proofs.Cache.Watermarks
import Workflow.Proofs.Cache.History
import Workflow.Proofs.Cache.LatestRequest
import Workflow.Proofs.Cache.Refusal
import Workflow.Proofs.Cache.Judgement
import Workflow.Proofs.Cache.Coherence
import Workflow.Proofs.Cache.Landings
import Workflow.Proofs.Cache.Erasure
import Workflow.Proofs.Cache.InOrder
import Workflow.Proofs.Cache.Confluence
import Workflow.Proofs.Definition.Stable
import Workflow.Proofs.Json.Ordered
import Workflow.Proofs.Graph.Origin
import Workflow.Proofs.Graph.File
import Workflow.Proofs.Cache.Reopening
import Workflow.Proofs.Cache.Turns
import Workflow.Proofs.Cache.Reporting
import Workflow.Proofs.Timestamp.Text
import Workflow.Proofs.Json.Members
import Workflow.Proofs.Json.Format
import Workflow.Proofs.Engine.Wire
import Workflow.Proofs.Cache.Numbers
import Workflow.Proofs.Definition.LeastOrder
import Workflow.Proofs.Number.Exact
import Workflow.Proofs.Step.WholeNumber
import Workflow.Proofs.Cli.Writing
import Workflow.Proofs.Cli.Durable
import Workflow.Proofs.Step.Registry
import Workflow.Proofs.Definition.Acceptance
import Workflow.Proofs.Cache.Saving
import Workflow.Proofs.Graph.GeneratedNames
import Workflow.Proofs.Graph.EdgeIds
import Workflow.Proofs.Graph.Undo
import Workflow.Proofs.Graph.Update
import Workflow.Proofs.Definition.EntryPoints
import Workflow.Proofs.Graph.Parts
import Workflow.Proofs.Definition.Warnings
import Workflow.Proofs.Definition.Emitter
import Workflow.Proofs.Remote.Address
