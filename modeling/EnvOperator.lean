import EnvOperator.ApiServer.Address
import EnvOperator.ApiServer.Http
import EnvOperator.ApiServer.Reply
import EnvOperator.Cluster.Container
import EnvOperator.Cluster.Deployment
import EnvOperator.Cluster.Ingress
import EnvOperator.Cluster.Job
import EnvOperator.Cluster.Meta
import EnvOperator.Cluster.Pod
import EnvOperator.Cluster.Schema.Basic
import EnvOperator.Cluster.Schema.Pod
import EnvOperator.Cluster.Schema.Volume
import EnvOperator.Cluster.Schema.Workload
import EnvOperator.Cluster.Secret
import EnvOperator.Cluster.Service
import EnvOperator.Data.SortedMap
import EnvOperator.Environment.Basic
import EnvOperator.Environment.Config
import EnvOperator.Environment.Definition
import EnvOperator.Environment.Naming
import EnvOperator.Environment.Spec
import EnvOperator.Environment.Stage
import EnvOperator.Json.Basic
import EnvOperator.Json.Codec
import EnvOperator.Json.CodecLemmas
import EnvOperator.Json.MergePatch
import EnvOperator.Json.Number
import EnvOperator.Json.Parser
import EnvOperator.Json.Printer
import EnvOperator.Json.Shape
import EnvOperator.Json.ShapeLemmas
import EnvOperator.Main
import EnvOperator.Net.Http
import EnvOperator.Net.SocketAddress
import EnvOperator.Number.Binary64
import EnvOperator.Number.Shortest
import EnvOperator.Pipeline.Build
import EnvOperator.Pipeline.Deploy
import EnvOperator.Pipeline.Dialogue
import EnvOperator.Pipeline.Pass
import EnvOperator.Pipeline.World
import EnvOperator.Progress.Stall
import EnvOperator.Progress.Tracker
import EnvOperator.Proofs.ApiServer.Absence
import EnvOperator.Proofs.Dialogue.Rules
import EnvOperator.Proofs.Documents.Cluster
import EnvOperator.Proofs.Documents.Defaults
import EnvOperator.Proofs.Documents.Environment
import EnvOperator.Proofs.Documents.Patch
import EnvOperator.Proofs.Documents.RoundTrip
import EnvOperator.Proofs.Pass.Advancing
import EnvOperator.Proofs.Pass.Applying
import EnvOperator.Proofs.Pass.Building
import EnvOperator.Proofs.Pass.Calls
import EnvOperator.Proofs.Pass.Collecting
import EnvOperator.Proofs.Pass.Contention
import EnvOperator.Proofs.Pass.Converging
import EnvOperator.Proofs.Pass.Counting
import EnvOperator.Proofs.Pass.Course
import EnvOperator.Proofs.Pass.Defaulting
import EnvOperator.Proofs.Pass.Edges
import EnvOperator.Proofs.Pass.Effects
import EnvOperator.Proofs.Pass.Footprint
import EnvOperator.Proofs.Pass.Interrupted
import EnvOperator.Proofs.Pass.Mirroring
import EnvOperator.Proofs.Pass.Outcomes
import EnvOperator.Proofs.Pass.Questions
import EnvOperator.Proofs.Pass.Quiet
import EnvOperator.Proofs.Pass.Races
import EnvOperator.Proofs.Pass.Remembering
import EnvOperator.Proofs.Pass.Repeating
import EnvOperator.Proofs.Pass.Rollout
import EnvOperator.Proofs.Pass.Sources
import EnvOperator.Proofs.Pass.Steps
import EnvOperator.Proofs.Pass.Writers
import EnvOperator.Proofs.Progress.History
import EnvOperator.Proofs.Progress.Stalls
import EnvOperator.Proofs.Progress.Tracking
import EnvOperator.Proofs.Run.Basic
import EnvOperator.Proofs.Run.Building
import EnvOperator.Proofs.Run.Contention
import EnvOperator.Proofs.Run.GivingUp
import EnvOperator.Proofs.Run.Independence
import EnvOperator.Proofs.Run.Recovering
import EnvOperator.Proofs.Run.Redeploying
import EnvOperator.Proofs.Run.Rest
import EnvOperator.Proofs.Run.Restarting
import EnvOperator.Proofs.Run.Revision
import EnvOperator.Proofs.Run.Settling
import EnvOperator.Proofs.Run.Stalling
import EnvOperator.Proofs.Run.Verification
import EnvOperator.Proofs.Settings.Loading
import EnvOperator.Proofs.Store.Effects
import EnvOperator.Proofs.Store.Histories
import EnvOperator.Proofs.Store.Keys
import EnvOperator.Proofs.Target.Archives
import EnvOperator.Proofs.Target.Attached
import EnvOperator.Proofs.Target.Comparing
import EnvOperator.Proofs.Target.Fitting
import EnvOperator.Proofs.Target.Images
import EnvOperator.Proofs.Target.Ownership
import EnvOperator.Proofs.Target.Selection
import EnvOperator.Proofs.Target.Settled
import EnvOperator.Proofs.Target.Shape
import EnvOperator.Proofs.Target.Sharing
import EnvOperator.Proofs.Target.Transport
import EnvOperator.Proofs.Target.Variables
import EnvOperator.Registry.Basic
import EnvOperator.Registry.Client
import EnvOperator.Schedule.Controller
import EnvOperator.Schedule.Signal
import EnvOperator.Settings.Load
import EnvOperator.Snapshot.Basic
import EnvOperator.Snapshot.Collect
import EnvOperator.Status.Report
import EnvOperator.Status.Router
import EnvOperator.Store.Key
import EnvOperator.Store.Kind
import EnvOperator.Store.Memory
import EnvOperator.Store.Request
import EnvOperator.Target.BuildJob
import EnvOperator.Target.Metadata
import EnvOperator.Target.Network
import EnvOperator.Target.Workload
import EnvOperator.Text.Base64
import EnvOperator.Text.Bytes
import EnvOperator.Text.Digit
import EnvOperator.Text.DigitLemmas
import EnvOperator.Text.Integer
import EnvOperator.Text.Quoted
import EnvOperator.Text.Trim
import EnvOperator.Text.TrimLemmas
import EnvOperator.Time.Instant
import EnvOperator.Time.OffsetLemmas
import EnvOperator.Time.Rfc3339
import EnvOperator.Time.Rfc3339Lemmas
