import ShardFleet.Cluster.Configured
import ShardFleet.Cluster.Operation
import ShardFleet.Logging.Basic
import ShardFleet.Proofs.Cluster.Bookkeeping
import ShardFleet.Proofs.Cluster.Teardown
import ShardFleet.Proofs.StartOrder.Starting
import ShardFleet.Settings.Shared
import ShardFleet.Settings.Snapshot
import ShardFleet.Simulation.Described
import ShardFleet.Text.Escaped
import ShardFleet.Value.Canonical
import ShardFleet.Value.Plain
import ShardFleet.Proofs.Cluster.Ownership
import ShardFleet.Proofs.Cluster.Lifecycle
import ShardFleet.Proofs.Cluster.Waiting
import ShardFleet.Proofs.Cluster.Observation
import ShardFleet.Proofs.Cluster.Frame
import ShardFleet.Proofs.Simulation.Namespace
import ShardFleet.Proofs.Simulation.Hosting
import ShardFleet.Proofs.Cluster.Agreement
import ShardFleet.Proofs.Cluster.Released
import ShardFleet.Proofs.Cluster.Attempts
import ShardFleet.Proofs.Session.Traces
import ShardFleet.Proofs.Cluster.Channels
import ShardFleet.Proofs.Cluster.Joining
import ShardFleet.Proofs.Cluster.Retries
import ShardFleet.Proofs.Cluster.Block
import ShardFleet.Proofs.StartOrder.Tiers
import ShardFleet.Proofs.Cluster.Tiers
import ShardFleet.Proofs.Cluster.Introductions
import ShardFleet.Proofs.Cluster.OneName
import ShardFleet.Proofs.Settings.Reordering
import ShardFleet.Proofs.Settings.Paths
import ShardFleet.Proofs.Settings.Overrides
import ShardFleet.Proofs.Settings.Layers
import ShardFleet.Proofs.StartOrder.Rounds
import ShardFleet.Proofs.StartOrder.Circles
import ShardFleet.Proofs.StartOrder.Layering
import ShardFleet.Proofs.Cluster.Adding
import ShardFleet.Proofs.Cluster.Removing
import ShardFleet.Proofs.Polling.Scene
import ShardFleet.Proofs.Polling.Turns
import ShardFleet.Proofs.Polling.Budget
import ShardFleet.Proofs.Polling.Extension
import ShardFleet.Proofs.StartOrder.Answers
import ShardFleet.Proofs.StartOrder.Pooling
import ShardFleet.Proofs.Settings.Writing
import ShardFleet.Proofs.Settings.Merging
import ShardFleet.Proofs.Settings.MergeLaws
import ShardFleet.Proofs.Settings.Documents
import ShardFleet.Proofs.Settings.Environment
import ShardFleet.Proofs.Markup.Leaves
import ShardFleet.Proofs.Settings.DistinctKeys
import ShardFleet.Proofs.Component.History
import ShardFleet.Proofs.Admin.Activity
import ShardFleet.Proofs.Cluster.Addresses
import ShardFleet.Proofs.Cluster.Namespaces
import ShardFleet.Proofs.Cluster.Commissions
import ShardFleet.Proofs.Cluster.Construction
