import SimpleNetworkMonitor.Api.Conditional
import SimpleNetworkMonitor.Api.Events
import SimpleNetworkMonitor.Api.Executions
import SimpleNetworkMonitor.Api.Exposition
import SimpleNetworkMonitor.Api.Freshness
import SimpleNetworkMonitor.Api.Inventory
import SimpleNetworkMonitor.Api.Usage
import SimpleNetworkMonitor.App.Metadata
import SimpleNetworkMonitor.App.Replacement
import SimpleNetworkMonitor.Backends.Deadlines
import SimpleNetworkMonitor.Backends.Identifiers
import SimpleNetworkMonitor.Backends.Lookups
import SimpleNetworkMonitor.Daemon.Acceptance
import SimpleNetworkMonitor.Daemon.Access
import SimpleNetworkMonitor.Daemon.Admission
import SimpleNetworkMonitor.Daemon.Groups
import SimpleNetworkMonitor.Daemon.Listener
import SimpleNetworkMonitor.Daemon.Punctual
import SimpleNetworkMonitor.Daemon.Reload
import SimpleNetworkMonitor.Daemon.Supervision
import SimpleNetworkMonitor.Domain.Statistics
import SimpleNetworkMonitor.History.Breakdowns
import SimpleNetworkMonitor.History.Charts
import SimpleNetworkMonitor.History.Draining
import SimpleNetworkMonitor.History.Eligible
import SimpleNetworkMonitor.History.Feed
import SimpleNetworkMonitor.History.Planner
import SimpleNetworkMonitor.History.Pruning
import SimpleNetworkMonitor.History.Rollup
import SimpleNetworkMonitor.History.Tiers
import SimpleNetworkMonitor.History.Windows
import SimpleNetworkMonitor.Icmp.Thresholds
import SimpleNetworkMonitor.Icmp.Transitions
import SimpleNetworkMonitor.Storage.Attribution
import SimpleNetworkMonitor.Storage.Cache
import SimpleNetworkMonitor.Storage.Chronology
import SimpleNetworkMonitor.Storage.Compression
import SimpleNetworkMonitor.Storage.Fencing
import SimpleNetworkMonitor.Storage.Inactivity
import SimpleNetworkMonitor.Storage.Jobs
import SimpleNetworkMonitor.Storage.Monotone
import SimpleNetworkMonitor.Storage.Readback
import SimpleNetworkMonitor.Storage.Retention
import SimpleNetworkMonitor.Storage.RetentionJob
import SimpleNetworkMonitor.Storage.Retry
import SimpleNetworkMonitor.Storage.Synchronize
