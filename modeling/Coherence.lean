import Coherence.Text.Blank
import Coherence.Text.Shown
import Coherence.Text.Quoted
import Coherence.Text.Bytes
import Coherence.Duration
import Coherence.Lifecycle
import Coherence.NodeId
import Coherence.Fault
import Coherence.Error
import Coherence.Event
import Coherence.View
import Coherence.Snapshot
import Coherence.Counters
import Coherence.Numeral
import Coherence.Json.Number
import Coherence.Json.Literal
import Coherence.Json.Raw
import Coherence.Json.Writer
import Coherence.Announcement
import Coherence.Recomputation
import Coherence.Event.Codec
import Coherence.Config
import Coherence.Summary
import Coherence.Subscription
import Coherence.Listeners
import Coherence.Reply
import Coherence.Hub
import Coherence.Hub.Session
import Coherence.Store
import Coherence.Store.Session
import Coherence.Registry
import Coherence.Registry.Session
import Coherence.Bus
import Coherence.Bus.Operation
import Coherence.Log
import Coherence.Relay
import Coherence.Relay.Session
import Coherence.Service
import Coherence.Node
import Coherence.Cluster.Basic
import Coherence.Cluster.Announcing
import Coherence.Cluster.Invalidating
import Coherence.Cluster.Enrolment
import Coherence.Cluster.Operation
import Coherence.Cluster.Report
import Coherence.Interleaving.Task
import Coherence.Interleaving.Bench
import Coherence.Interleaving.Turn
import Coherence.Interleaving.Request
import Coherence.Toml.Value
import Coherence.Toml.Table
import Coherence.Toml.Blank
import Coherence.Toml.Quotation
import Coherence.Toml.Scalar
import Coherence.Toml.Document
import Coherence.Config.Load
import Coherence.Simulation.Setup
import Coherence.Simulation.Report
import Coherence.Main
import Coherence.Proofs.Document
import Coherence.Proofs.AnnouncementCodec
import Coherence.Proofs.Following
import Coherence.Proofs.Starting
import Coherence.Proofs.Stopping
import Coherence.Proofs.Draws
import Coherence.Proofs.Attention
import Coherence.Proofs.Adjusting
import Coherence.Proofs.Tracking
import Coherence.Proofs.Agreement
import Coherence.Proofs.Entries
import Coherence.Proofs.Orderly
import Coherence.Proofs.Announcing
import Coherence.Proofs.Accuracy
import Coherence.Proofs.Gating
import Coherence.Proofs.Outbound
import Coherence.Proofs.Clearing
import Coherence.Proofs.Invalidation
import Coherence.Proofs.Circles
import Coherence.Proofs.HubListeners
import Coherence.Proofs.Cleanup
import Coherence.Proofs.Pruning
import Coherence.Proofs.Convergence
import Coherence.Proofs.Acting
import Coherence.Proofs.Scheduling
import Coherence.Proofs.Recomputing
import Coherence.Proofs.Generations
import Coherence.Proofs.Readings
import Coherence.Proofs.Queueing
import Coherence.Proofs.Locking
import Coherence.Proofs.Hosting
import Coherence.Proofs.NodePresence
import Coherence.Proofs.Serialization
import Coherence.Proofs.Sweeping
import Coherence.Proofs.Erasure
import Coherence.Proofs.Offers
import Coherence.Proofs.Flapping
import Coherence.Proofs.DrawBounds
import Coherence.Proofs.Preparing
import Coherence.Proofs.Launching
import Coherence.Proofs.Census
import Coherence.Proofs.Simulation
import Coherence.Proofs.Awaiting
import Coherence.Proofs.Broadcasting
import Coherence.Proofs.Drifting
import Coherence.Proofs.ResourceInvariant
import Coherence.Proofs.ResourceSteps
import Coherence.Proofs.Conduct
import Coherence.Proofs.Resources
import Coherence.Proofs.Rollback
import Coherence.Proofs.Reception
import Coherence.Proofs.EventCodec
import Coherence.Proofs.Legibility
import Coherence.Proofs.Bridging
import Coherence.Proofs.Conservation
import Coherence.Proofs.Sessions
import Coherence.Proofs.Forgetting
import Coherence.Proofs.Primacy
import Coherence.Proofs.Storage
import Coherence.Proofs.Publishing
import Coherence.Proofs.ListenerNumbers
import Coherence.Proofs.Notifications
import Coherence.Proofs.Handles
import Coherence.Proofs.SubscriptionHistory
import Coherence.Proofs.Releasing
