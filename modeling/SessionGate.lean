import SessionGate.Cluster.Client
import SessionGate.Cluster.ClientLibrary
import SessionGate.Cluster.Connection
import SessionGate.Cluster.Delivery
import SessionGate.Cluster.Error
import SessionGate.Cluster.Http
import SessionGate.Cluster.Identity
import SessionGate.Cluster.Kubeconfig
import SessionGate.Cluster.Manifest
import SessionGate.Cluster.Resource
import SessionGate.Cluster.Server
import SessionGate.Cluster.Shape
import SessionGate.Cluster.Shape.Answer
import SessionGate.Cluster.Shape.Container
import SessionGate.Cluster.Shape.Deployment
import SessionGate.Cluster.Shape.Metadata
import SessionGate.Cluster.Shape.Pod
import SessionGate.Cluster.Shape.Service
import SessionGate.Cluster.Shape.Volume
import SessionGate.CommandLine
import SessionGate.Files
import SessionGate.Gateway.Cache
import SessionGate.Gateway.ClusterQuery
import SessionGate.Gateway.Config
import SessionGate.Gateway.Decision
import SessionGate.Gateway.Error
import SessionGate.Gateway.Registry
import SessionGate.Gateway.Request
import SessionGate.Gateway.Resolver
import SessionGate.Gateway.Response
import SessionGate.Gateway.State
import SessionGate.Intercept.Arguments
import SessionGate.Intercept.ClusterSite
import SessionGate.Intercept.Plan
import SessionGate.Intercept.Rehearsal
import SessionGate.Intercept.Route
import SessionGate.Intercept.RouteGuard
import SessionGate.Intercept.RouteTable
import SessionGate.Intercept.Run
import SessionGate.Intercept.Script
import SessionGate.Json.Basic
import SessionGate.Json.Patch
import SessionGate.Json.Pointer
import SessionGate.Json.Printer
import SessionGate.Json.Reader
import SessionGate.Json.Written
import SessionGate.Log.Directive
import SessionGate.Log.Event
import SessionGate.Log.Filter
import SessionGate.Log.Line
import SessionGate.Log.Pattern
import SessionGate.Log.Pattern.Parser
import SessionGate.Main
import SessionGate.Moment
import SessionGate.Number.Arithmetic
import SessionGate.Number.Decimal
import SessionGate.Number.Double
import SessionGate.Number.Duration
import SessionGate.Number.FixedPoint
import SessionGate.Number.Power
import SessionGate.Number.RealPower
import SessionGate.Number.Timestamp
import SessionGate.Program
import SessionGate.Proofs.Intercept.Chain
import SessionGate.Proofs.Intercept.Course
import SessionGate.Proofs.Intercept.Guard
import SessionGate.Proofs.Intercept.LostAnswer
import SessionGate.Proofs.Intercept.Overlap
import SessionGate.Proofs.Intercept.Phases
import SessionGate.Proofs.Intercept.Rehearsal
import SessionGate.Proofs.Intercept.Restoration
import SessionGate.Proofs.Intercept.Table
import SessionGate.Proofs.Intercept.Teardown
import SessionGate.Proofs.Json.Place
import SessionGate.Proofs.Program.History
import SessionGate.Proofs.Program.Interleaving
import SessionGate.Proofs.Session.Token
import SessionGate.Session.Labels
import SessionGate.Session.Token
import SessionGate.Template.Capture
import SessionGate.Template.Expr
import SessionGate.Template.Expr.Parser
import SessionGate.Template.Filter
import SessionGate.Template.Format
import SessionGate.Template.Given
import SessionGate.Template.Heap
import SessionGate.Template.ListFilter
import SessionGate.Template.Placeholder
import SessionGate.Template.Render
import SessionGate.Template.Statement
import SessionGate.Template.Statement.Parser
import SessionGate.Template.Test
import SessionGate.Template.TextFilter
import SessionGate.Template.Token
import SessionGate.Template.Value
import SessionGate.Template.Value.Operation
import SessionGate.Text.Address
import SessionGate.Text.AlphanumericTable
import SessionGate.Text.Base64
import SessionGate.Text.Case
import SessionGate.Text.CaseTable
import SessionGate.Text.Form
import SessionGate.Text.LetterCase
import SessionGate.Text.Pem
import SessionGate.Text.PemSection
import SessionGate.Text.PropertyTable
import SessionGate.Text.Quoted
import SessionGate.Text.SocketAddress
import SessionGate.Text.Split
import SessionGate.Text.Utf16
import SessionGate.Text.Utf8
import SessionGate.Yaml.Document
import SessionGate.Yaml.Node
import SessionGate.Yaml.Token
import SessionGate.Yaml.Token.Cursor
import SessionGate.Yaml.Token.Lexer
import SessionGate.Yaml.Token.Scalar
import SessionGate.Yaml.Tree
import SessionGate.Yaml.V11.Cursor
import SessionGate.Yaml.V11.Document
import SessionGate.Yaml.V11.Lexer
import SessionGate.Yaml.V11.Scalar
import SessionGate.Yaml.V11.Value
import SessionGate.Proofs.Gateway.Admission
import SessionGate.Proofs.Gateway.Resolving
import SessionGate.Proofs.Intercept.Scan
import SessionGate.Proofs.Gateway.Traffic
import SessionGate.Proofs.Session.Alphabet
import SessionGate.Proofs.Gateway.Request
import SessionGate.Proofs.Intercept.Overwriting
import SessionGate.Proofs.Gateway.Isolation
import SessionGate.Proofs.Json.Beside
import SessionGate.Proofs.Intercept.Applying
import SessionGate.Proofs.Intercept.Desk
import SessionGate.Proofs.Intercept.Reaching
import SessionGate.Proofs.Intercept.Repeating
import SessionGate.Proofs.Intercept.Footprint
import SessionGate.Proofs.Yaml.Plain
import SessionGate.Proofs.Program.Result
import SessionGate.Proofs.Yaml.Field
import SessionGate.Proofs.Cluster.Manifest
import SessionGate.Proofs.Intercept.SessionField
import SessionGate.Proofs.Template.Segment
import SessionGate.Proofs.Yaml.Part
import SessionGate.Proofs.Session.Path
import SessionGate.Proofs.Gateway.Lookup
import SessionGate.Proofs.Gateway.Recall
import SessionGate.Proofs.Template.Substitution
import SessionGate.Proofs.Yaml.Conversion
import SessionGate.Proofs.Cluster.Delivery
import SessionGate.Proofs.Intercept.Waiting
import SessionGate.Proofs.Program.Told
import SessionGate.Proofs.Cluster.Consistency
import SessionGate.Proofs.Yaml.Stream
import SessionGate.Proofs.Intercept.Rendering
import SessionGate.Proofs.Gateway.Reporting
import SessionGate.Proofs.Gateway.Starting
import SessionGate.Proofs.Cluster.Plural
