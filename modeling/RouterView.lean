import RouterView.Foundation.Amounts
import RouterView.Foundation.Span
import RouterView.Foundation.OrdMap
import RouterView.Foundation.Checked
import RouterView.Foundation.Table
import RouterView.Foundation.Terminated
import RouterView.Foundation.F64
import RouterView.Foundation.Json
import RouterView.Foundation.Replay
import RouterView.Foundation.AppendLog
import RouterView.Foundation.Text
import RouterView.Foundation.Run
import RouterView.Foundation.UniqueTable
import RouterView.Foundation.Pending
import RouterView.Foundation.KeyedTable
import RouterView.Foundation.CrashProgram
import RouterView.Db.Types
import RouterView.Db.Commit
import RouterView.Db.CommitSpec
import RouterView.Db.Interfaces
import RouterView.Db.Contribution
import RouterView.Db.Accumulator
import RouterView.Db.Rollup
import RouterView.Db.RollupLoop
import RouterView.Db.RollupBatch
import RouterView.Db.RollupWrites
import RouterView.Db.RollupSpec
import RouterView.Db.RollupDisjoint
import RouterView.Db.LegacyImport
import RouterView.Db.Retention
import RouterView.Db.PruneSpec
import RouterView.Db.Routers
import RouterView.Db.Integrity
import RouterView.Db.Adoption
import RouterView.Db.Store
import RouterView.Db.TrafficRun
import RouterView.Db.RouterIdentity
import RouterView.Db.Checkpoints
import RouterView.Db.Query
import RouterView.Db.QuerySegments
import RouterView.Db.QueryFold
import RouterView.Db.QuerySpec
import RouterView.Db.QueryAnswer
import RouterView.Db.QueryBudget
import RouterView.Db.RollupReach
import RouterView.Db.QueryWhole
import RouterView.Poller.Transform
import RouterView.Poller.Engine
import RouterView.Poller.EngineSpec
import RouterView.Poller.Tiling
import RouterView.Poller.History
import RouterView.Poller.Ledger
import RouterView.Poller.LostAcknowledgement
import RouterView.Poller.Accounting
import RouterView.Poller.EndToEnd
import RouterView.Poller.ExactTraffic
import RouterView.Poller.AggregateSpec
import RouterView.Poller.Aggregate
import RouterView.Poller.MemberSum
import RouterView.Auth.Store
import RouterView.Auth.StoreSpec
import RouterView.Auth.Sessions
import RouterView.Auth.Requests
import RouterView.Auth.Reset
import RouterView.Auth.Pairing
import RouterView.Auth.Policy
import RouterView.Auth.PolicySpec
import RouterView.Secrets.Cipher
import RouterView.Secrets.Rotation
import RouterView.Maintenance.Restore
import RouterView.Maintenance.RestoreSpec
import RouterView.Maintenance.Export
import RouterView.Maintenance.ExportSpec
import RouterView.Config.Merged
import RouterView.Config.Update
import RouterView.Config.Reload
import RouterView.Config.Publication
import RouterView.Ws.Protocol
import RouterView.Ws.Dashboard
import RouterView.Ws.Overrides
import RouterView.Ws.Fields
import RouterView.Ws.Hub
import RouterView.Ws.HubSpec
import RouterView.Ws.Convergence
import RouterView.Ws.OverrideRequests
import RouterView.Ws.LiveHistory
import RouterView.Ws.LiveHistorySpec
import RouterView.Ws.LivePoints
import RouterView.Ws.LivePointsSpec
import RouterView.Ws.LiveSeamless
import RouterView.Foundation.CountMap
import RouterView.Ws.Limits
import RouterView.Ws.Connection
import RouterView.Ws.Link
import RouterView.Ws.ConnectionSpec
import RouterView.Ws.Stuck
import RouterView.Db.QuerySplit
import RouterView.Db.RollupOverlap
import RouterView.Db.ImportSpec
import RouterView.Db.Migrated
import RouterView.Db.LegacyQueries
import RouterView.Maintenance.Schema
import RouterView.Maintenance.SchemaSpec
import RouterView.Auth.Setup
import RouterView.Auth.SetupSpec
import RouterView.Db.RollupLoad
import RouterView.Db.RollupProgress
import RouterView.Db.RollupDrain
import RouterView.Db.RetentionSpec
import RouterView.Foundation.Dict
import RouterView.Auth.Limiter
import RouterView.Auth.LimiterSpec
import RouterView.Auth.PairingLimiter
import RouterView.Auth.PairingLimiterSpec
import RouterView.Auth.Login
import RouterView.Auth.LoginSpec
import RouterView.Oidc.Flow
import RouterView.Oidc.FlowSpec
import RouterView.Oidc.FlowRuns
import RouterView.Config.Credentials
import RouterView.Transform.Uptime
import RouterView.Foundation.IpText
import RouterView.Auth.ClientIp
import RouterView.Foundation.Keys
import RouterView.Transform.Devices
import RouterView.Transform.DevicesSpec
import RouterView.Transform.Wans
import RouterView.Transform.WansSpec
import RouterView.Transform.WansOrder
import RouterView.Config.Migration
import RouterView.Config.MigrationSpec
import RouterView.Foundation.Instants
import RouterView.Poller.PollTick
import RouterView.Poller.PollSpec
import RouterView.Poller.MonthBudget
import RouterView.Poller.SteadyAnswers
import RouterView.Poller.MonthOverrun
import RouterView.Foundation.Backoff
import RouterView.Poller.Supervision
import RouterView.Poller.SupervisionSpec
import RouterView.Foundation.WaitLoop
import RouterView.Ws.Session
import RouterView.Ws.SessionSpec
import RouterView.Auth.Gate
import RouterView.Auth.GateSpec
import RouterView.Auth.Cookies
import RouterView.Db.QueryPrinted
import RouterView.Api.Traffic
import RouterView.Api.TrafficSpec
import RouterView.Api.TrafficPage
import RouterView.Api.TrafficPageSpec
import RouterView.Api.TrafficView
import RouterView.Api.TrafficViewSpec
import RouterView.Foundation.IpPrint
import RouterView.Foundation.Ipv6Print
import RouterView.Api.Probes
import RouterView.Api.ProbesSpec
import RouterView.Foundation.Collect
import RouterView.Poller.Probes
import RouterView.Poller.ProbesSpec
