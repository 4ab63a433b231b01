import VirtualNode.Agent.Api
import VirtualNode.Agent.CommandLine
import VirtualNode.Agent.Environment
import VirtualNode.Agent.Launch
import VirtualNode.Agent.Place
import VirtualNode.Agent.Tunables
import VirtualNode.Biz.Descriptor
import VirtualNode.Biz.Probe
import VirtualNode.Biz.Report
import VirtualNode.Biz.Sightings
import VirtualNode.Biz.State
import VirtualNode.Controller.Call
import VirtualNode.Controller.Completion
import VirtualNode.Controller.Desk
import VirtualNode.Controller.Heartbeat
import VirtualNode.Controller.Inbox
import VirtualNode.Controller.Lifetime
import VirtualNode.Controller.Reconcile
import VirtualNode.Controller.Settings
import VirtualNode.Controller.Startup
import VirtualNode.Controller.Subscriptions
import VirtualNode.Controller.System
import VirtualNode.Dialogue
import VirtualNode.Fault
import VirtualNode.Json.Lookup
import VirtualNode.Json.Reader
import VirtualNode.Json.Row
import VirtualNode.Json.Shape
import VirtualNode.Json.Value
import VirtualNode.Json.Writer
import VirtualNode.Kube.Access
import VirtualNode.Kube.Cluster
import VirtualNode.Kube.Kubeconfig
import VirtualNode.Kube.Login
import VirtualNode.Kube.Node
import VirtualNode.Kube.NodeOfBase
import VirtualNode.Kube.Pod
import VirtualNode.Kube.PodStatus
import VirtualNode.Kube.Rest
import VirtualNode.Kube.Shapes.Common
import VirtualNode.Kube.Shapes.Container
import VirtualNode.Kube.Shapes.Node
import VirtualNode.Kube.Shapes.Outcome
import VirtualNode.Kube.Shapes.Pod
import VirtualNode.Kube.Shapes.Volume
import VirtualNode.Main
import VirtualNode.Mqtt.Acks
import VirtualNode.Mqtt.Client
import VirtualNode.Mqtt.Connection
import VirtualNode.Mqtt.Qos
import VirtualNode.Mqtt.Routes
import VirtualNode.Mqtt.Tls
import VirtualNode.Pki.Bundle
import VirtualNode.Pki.Certificate
import VirtualNode.Pki.Der
import VirtualNode.Pki.Key
import VirtualNode.Pki.Pem
import VirtualNode.Proofs.Delivery.Callers
import VirtualNode.Proofs.Delivery.Clients
import VirtualNode.Proofs.Delivery.Operations
import VirtualNode.Proofs.Delivery.Waiters
import VirtualNode.Proofs.Ending.Conduct
import VirtualNode.Proofs.Ending.Errands
import VirtualNode.Proofs.Ending.Leftovers
import VirtualNode.Proofs.Ending.Outcome
import VirtualNode.Proofs.Ending.Removal
import VirtualNode.Proofs.Ending.Stages
import VirtualNode.Proofs.Episodes
import VirtualNode.Proofs.Frames
import VirtualNode.Proofs.Interleaving.Chronicle
import VirtualNode.Proofs.Interleaving.Contract
import VirtualNode.Proofs.Interleaving.Habits
import VirtualNode.Proofs.Interleaving.Laws
import VirtualNode.Proofs.Interleaving.Sessions
import VirtualNode.Proofs.Interleaving.Turns
import VirtualNode.Proofs.Ledger.Attempts
import VirtualNode.Proofs.Ledger.Books
import VirtualNode.Proofs.Ledger.Changes
import VirtualNode.Proofs.Ledger.Convergence
import VirtualNode.Proofs.Ledger.Deletion
import VirtualNode.Proofs.Ledger.Fixpoint
import VirtualNode.Proofs.Ledger.HandOver
import VirtualNode.Proofs.Ledger.Itinerary
import VirtualNode.Proofs.Ledger.Once
import VirtualNode.Proofs.Ledger.Passes
import VirtualNode.Proofs.Ledger.Reclaims
import VirtualNode.Proofs.Ledger.Safety
import VirtualNode.Proofs.Ledger.Served
import VirtualNode.Proofs.Ledger.Survey
import VirtualNode.Proofs.Ledger.Visits
import VirtualNode.Proofs.Nodes.History
import VirtualNode.Proofs.Nodes.Names
import VirtualNode.Proofs.Nodes.Registration
import VirtualNode.Proofs.Reports.Accounts
import VirtualNode.Proofs.Reports.Histories
import VirtualNode.Proofs.Reports.Identities
import VirtualNode.Proofs.Restraint
import VirtualNode.Proofs.Statuses.Forgotten
import VirtualNode.Proofs.Statuses.Pushes
import VirtualNode.Proofs.Statuses.Repetition
import VirtualNode.Proofs.Statuses.Returns
import VirtualNode.Proofs.Statuses.Views
import VirtualNode.Proofs.Statuses.Wakeups
import VirtualNode.Proofs.Vigil.Panel
import VirtualNode.Proofs.Vigil.Readiness
import VirtualNode.Proofs.Vigil.Tally
import VirtualNode.Proofs.Vigil.Thresholds
import VirtualNode.Proofs.Wire.Documents
import VirtualNode.Proofs.Wire.Fields
import VirtualNode.Proofs.Wire.Literals
import VirtualNode.Proofs.Wire.Messages
import VirtualNode.Proofs.Wire.Presentations
import VirtualNode.Proofs.Wire.Records
import VirtualNode.Rounding
import VirtualNode.Simulation.Clockwork
import VirtualNode.Simulation.Transcript
import VirtualNode.Simulation.World
import VirtualNode.Table
import VirtualNode.Text.Base64
import VirtualNode.Text.Blank
import VirtualNode.Text.Decimal
import VirtualNode.Text.Hex
import VirtualNode.Text.Inkless
import VirtualNode.Text.Quoted
import VirtualNode.Text.ServerName
import VirtualNode.Text.Symbols
import VirtualNode.Text.Uri
import VirtualNode.Text.Url
import VirtualNode.Time.Reading
import VirtualNode.Time.Span
import VirtualNode.Time.Stamp
import VirtualNode.Topic.Filter
import VirtualNode.Topic.Names
import VirtualNode.Watch.Health
import VirtualNode.Watch.Journal
import VirtualNode.Watch.Metrics
import VirtualNode.Yaml.Cursor
import VirtualNode.Yaml.Event
import VirtualNode.Yaml.Layout
import VirtualNode.Yaml.Node
import VirtualNode.Yaml.Plain
import VirtualNode.Yaml.Property
import VirtualNode.Yaml.Record
import VirtualNode.Yaml.Scalar
import VirtualNode.Yaml.Token
import VirtualNode.Yaml.Value
import VirtualNode.Proofs.Topics.Filters
import VirtualNode.Proofs.Topics.Isolation
import VirtualNode.Proofs.Topics.Routing
import VirtualNode.Proofs.Statuses.Observations
