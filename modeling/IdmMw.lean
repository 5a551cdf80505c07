import IdmMw.Admin.ConcurrentEdits
import IdmMw.Admin.ConfigEdits
import IdmMw.Admin.DlqAccess
import IdmMw.Admin.FleetIsolation
import IdmMw.Admin.FleetRows
import IdmMw.Admin.FleetTables
import IdmMw.Admin.Grants
import IdmMw.Admin.GroupSettings
import IdmMw.Admin.Merging
import IdmMw.Admin.PublicView
import IdmMw.Admin.RoleRows
import IdmMw.Admin.SetReplacement
import IdmMw.Admin.SettingsCoverage
import IdmMw.Connectors.AccountChecks
import IdmMw.Connectors.CmdbuildGroups
import IdmMw.Connectors.ConsultantUrls
import IdmMw.Connectors.ErrorTexts
import IdmMw.Connectors.Fanout
import IdmMw.Connectors.FleetRouting
import IdmMw.Connectors.GroupSearch
import IdmMw.Connectors.Inventory
import IdmMw.Connectors.Memberships
import IdmMw.Connectors.MssqlTokens
import IdmMw.Connectors.MssqlValidation
import IdmMw.Connectors.OperatorSession
import IdmMw.Connectors.PassworkPaths
import IdmMw.Connectors.PostgresPolicy
import IdmMw.Connectors.PostgresSearch
import IdmMw.Connectors.PostgresStatements
import IdmMw.Connectors.PostgresTokens
import IdmMw.Connectors.PostgresTransaction
import IdmMw.Connectors.ProtectedOperator
import IdmMw.Connectors.Quoting
import IdmMw.Connectors.RestTarget
import IdmMw.Connectors.ShellWords
import IdmMw.Connectors.SshOutcomes
import IdmMw.Connectors.SshRuns
import IdmMw.Connectors.WhereClauses
import IdmMw.Connectors.ZabbixCalls
import IdmMw.Connectors.ZabbixMembers
import IdmMw.Diagnostics.AuditRows
import IdmMw.Diagnostics.AuditTruth
import IdmMw.Diagnostics.EventMetrics
import IdmMw.Diagnostics.LogBuffer
import IdmMw.Diagnostics.LogStream
import IdmMw.Dlq.Closed
import IdmMw.Dlq.Fencing
import IdmMw.Dlq.HandOff
import IdmMw.Dlq.InHand
import IdmMw.Dlq.Lease
import IdmMw.Dlq.Queue
import IdmMw.Encryption.AtRest
import IdmMw.Encryption.Restart
import IdmMw.Encryption.Rotation
import IdmMw.Encryption.RoundTrip
import IdmMw.Encryption.Startup
import IdmMw.Encryption.Storage
import IdmMw.Encryption.Walk
import IdmMw.Library.Async
import IdmMw.Library.BoundedLog
import IdmMw.Library.ErrorKinds
import IdmMw.Library.ExpiringSet
import IdmMw.Library.History
import IdmMw.Library.KeyOrder
import IdmMw.Library.Lease
import IdmMw.Library.Like
import IdmMw.Library.Locks
import IdmMw.Library.NumberText
import IdmMw.Library.OrderedMap
import IdmMw.Library.Paging
import IdmMw.Library.Pool
import IdmMw.Library.ReadCommitted
import IdmMw.Library.Rejection
import IdmMw.Library.Rewriting
import IdmMw.Library.Runs
import IdmMw.Library.Serial
import IdmMw.Library.SharedSet
import IdmMw.Library.Shell
import IdmMw.Library.SlidingWindow
import IdmMw.Library.Split
import IdmMw.Library.Sql
import IdmMw.Library.Stopping
import IdmMw.Library.Tally
import IdmMw.Library.Transducer
import IdmMw.Library.UniqueRows
import IdmMw.Library.Url
import IdmMw.Library.UrlJoin
import IdmMw.Library.UrlText
import IdmMw.Library.Utf8
import IdmMw.Library.ValueText
import IdmMw.Library.Versions
import IdmMw.Model.Admin
import IdmMw.Model.Audit
import IdmMw.Model.CmdbuildConnector
import IdmMw.Model.ConnectorError
import IdmMw.Model.ConsultantPlusConnector
import IdmMw.Model.ConsultantTemplates
import IdmMw.Model.DbConnector
import IdmMw.Model.Dlq
import IdmMw.Model.Encryption
import IdmMw.Model.Facade
import IdmMw.Model.FleetRows
import IdmMw.Model.Footprint
import IdmMw.Model.GroupMapping
import IdmMw.Model.Idempotency
import IdmMw.Model.IntegrationAuth
import IdmMw.Model.IpUtils
import IdmMw.Model.Json
import IdmMw.Model.LinuxConnector
import IdmMw.Model.LinuxFleet
import IdmMw.Model.LogBuffer
import IdmMw.Model.Messaging
import IdmMw.Model.Metrics
import IdmMw.Model.MssqlLogin
import IdmMw.Model.PassworkConnector
import IdmMw.Model.PostgresRole
import IdmMw.Model.Processing
import IdmMw.Model.Rbac
import IdmMw.Model.Registry
import IdmMw.Model.Requests
import IdmMw.Model.RestConnector
import IdmMw.Model.Retry
import IdmMw.Model.RoleStore
import IdmMw.Model.Rotation
import IdmMw.Model.Routing
import IdmMw.Model.SamlRequests
import IdmMw.Model.Sealing
import IdmMw.Model.Secrets
import IdmMw.Model.Sessions
import IdmMw.Model.SqlAccounts
import IdmMw.Model.SshClient
import IdmMw.Model.TargetSystems
import IdmMw.Model.Webhook
import IdmMw.Model.ZabbixConnector
import IdmMw.Pipeline.Attempts
import IdmMw.Pipeline.LockAgreement
import IdmMw.Pipeline.Published
import IdmMw.Pipeline.ReadFailures
import IdmMw.Pipeline.RetryLoop
import IdmMw.Pipeline.RetryOutcome
import IdmMw.Pipeline.Traces
import IdmMw.Pipeline.Worker
import IdmMw.Registry.Disabled
import IdmMw.Registry.Polling
import IdmMw.Registry.Reload
import IdmMw.Secrets.Extraction
import IdmMw.Secrets.Resolution
import IdmMw.Security.AllowedAddresses
import IdmMw.Security.Canonical
import IdmMw.Security.Guards
import IdmMw.Security.Networks
import IdmMw.Security.SamlRequests
import IdmMw.Security.Sessions
import IdmMw.Store.Duplicates
import IdmMw.Store.EventKeys
import IdmMw.Store.Exclusion
import IdmMw.Store.KeyRotation
import IdmMw.Store.Ownership
import IdmMw.Store.Postgres
import IdmMw.Store.Redis
import IdmMw.Store.Refinement
