import Reconciler.Text.Blank
import Reconciler.Text.Quoted
import Reconciler.Text.Utf8
import Reconciler.Text.Base64
import Reconciler.SortedMap
import Reconciler.Binary64.Shortest
import Reconciler.Json.Basic
import Reconciler.Json.Writer
import Reconciler.Json.Reader
import Reconciler.Time.Rfc3339
import Reconciler.Label.Parser
import Reconciler.Switches
import Reconciler.Condition.List
import Reconciler.Condition.Settings
import Reconciler.Reference
import Reconciler.Client.Operation
import Reconciler.Client.Finalizer
import Reconciler.Store.Client
import Reconciler.Client.FinalizerPatcher
import Reconciler.Api.Client
import Reconciler.Owner
import Reconciler.FieldIndex
import Reconciler.Yaml.Token.Lexer
import Reconciler.Yaml.Document
import Reconciler.Yaml.Scalar
import Reconciler.Object.Form
import Reconciler.Object.BuiltIn
import Reconciler.Object.Stream
import Reconciler.Machine.Basic
import Reconciler.Machine.Run
import Reconciler.Tool.Executor
import Reconciler.Kustomize.Kustomizer
import Reconciler.CommandLine.Switches
import Reconciler.CommandLine.Reader
import Reconciler.CommandLine.Basic
import Reconciler.Http.Uri
import Reconciler.Kubeconfig.Basic
import Reconciler.Kubeconfig.Reader
import Reconciler.Text.Pem
import Reconciler.Yaml.Value.Fields
import Reconciler.Kubeconfig.Connection
import Reconciler.Kubeconfig.Arguments
import Reconciler.Client.ErrorChain
import Reconciler.Controller.Pass
import Reconciler.Controller.Deployments
import Reconciler.Controller.ConfigMaps
import Reconciler.Controller.Arguments
import Reconciler.Controller.Program
import Reconciler.Main
import Reconciler.Http.Settings
import Reconciler.Machine.Settings
import Reconciler.Tool.Task
import Reconciler.Proofs.Store.Step
import Reconciler.Proofs.Store.History
import Reconciler.Proofs.Store.Listing
import Reconciler.Proofs.Store.Views
import Reconciler.Proofs.Condition.Frame
import Reconciler.Proofs.Time.Calendar
import Reconciler.Proofs.Time.Rfc3339
import Reconciler.Proofs.Condition.Timestamps
import Reconciler.Proofs.Condition.Find
import Reconciler.Proofs.Condition.Keyed
import Reconciler.Proofs.Condition.Transitions
import Reconciler.Proofs.Condition.Mirror
import Reconciler.Proofs.Condition.Copy
import Reconciler.Proofs.Label.Grammar
import Reconciler.Proofs.Label.Parser
import Reconciler.Proofs.Label.RoundTrip
import Reconciler.Attempt
import Reconciler.Proofs.Text.Blank
import Reconciler.Proofs.Text.Base64
import Reconciler.Proofs.Text.Utf8
import Reconciler.Proofs.Json.RoundTrip
import Reconciler.Proofs.Object.Meta
import Reconciler.Proofs.Object.Form
import Reconciler.Proofs.Condition.RoundTrip
import Reconciler.Proofs.Object.Typed
import Reconciler.Proofs.Object.Scheme
import Reconciler.Proofs.Store.Typed
import Reconciler.Proofs.Client.Batch
import Reconciler.Proofs.Client.Finalizer
import Reconciler.Proofs.Store.Batch
import Reconciler.Proofs.Switches.Specification
import Reconciler.Proofs.Switches.Fields
import Reconciler.Proofs.Switches.Canonical
import Reconciler.Proofs.Object.Settled
import Reconciler.Proofs.Object.Status
import Reconciler.Proofs.Object.Identity
import Reconciler.Proofs.Store.Failure
import Reconciler.Proofs.Api.Address
import Reconciler.Proofs.FieldIndex.History
import Reconciler.Proofs.Condition.Timeline
import Reconciler.Proofs.Object.Reference
import Reconciler.Proofs.Store.Status
import Reconciler.Proofs.Store.Options
import Reconciler.Proofs.Store.Namespace
import Reconciler.Proofs.Object.Finalizer
import Reconciler.Proofs.Object.Stream
import Reconciler.Proofs.Client.Stream
import Reconciler.Proofs.Condition.Part
import Reconciler.Proofs.Condition.Reread
import Reconciler.Proofs.Condition.Verdict
import Reconciler.Proofs.Condition.VerdictList
import Reconciler.Proofs.Object.Received
import Reconciler.Proofs.Controller.Walk
import Reconciler.Proofs.Controller.Deployments
import Reconciler.Proofs.Controller.ConfigMaps
import Reconciler.Proofs.Controller.Pass
import Reconciler.Proofs.Owner
import Reconciler.Proofs.Store.Stream
import Reconciler.Proofs.Yaml.Record
import Reconciler.Proofs.Yaml.Shape
import Reconciler.Proofs.Kustomize.RoundTrip
