import OpenLangGraph.Foundation.Transition
import OpenLangGraph.Foundation.PyString
import OpenLangGraph.Foundation.IpAddress
import OpenLangGraph.Foundation.Url
import OpenLangGraph.Foundation.Json
import OpenLangGraph.Foundation.PyVal
import OpenLangGraph.Utils.UrlValidator
import OpenLangGraph.Utils.SafeUrl
import OpenLangGraph.Core.Serializers
import OpenLangGraph.Core.Sse
import OpenLangGraph.Services.EventConverter
import OpenLangGraph.Services.EventStore
import OpenLangGraph.Foundation.SplitText
import OpenLangGraph.Services.EventIds
import OpenLangGraph.Services.StorableEvents
import OpenLangGraph.Core.Orm
import OpenLangGraph.Services.Broker
import OpenLangGraph.Services.StreamingService
import OpenLangGraph.Services.EventEncoding
import OpenLangGraph.Services.RunStream
import OpenLangGraph.Services.RunStreamOrder
import OpenLangGraph.Services.RunStreamReplay
import OpenLangGraph.Services.RunInfo
import OpenLangGraph.Services.RunStreamEnd
import OpenLangGraph.Foundation.Processes
import OpenLangGraph.Api.Runs
import OpenLangGraph.Api.ExecuteRun
import OpenLangGraph.Api.EventLoop
import OpenLangGraph.Api.RunRequests
import OpenLangGraph.Api.RunServer
import OpenLangGraph.Api.RunStatus
import OpenLangGraph.Api.Observers
import OpenLangGraph.Api.Resume
import OpenLangGraph.Api.ThreadStatus
import OpenLangGraph.Foundation.PyDict
import OpenLangGraph.Foundation.TtlCache
import OpenLangGraph.Foundation.Interleaving
import OpenLangGraph.Foundation.Table
import OpenLangGraph.Services.LangGraphService
import OpenLangGraph.Api.Crons
import OpenLangGraph.Services.CronScheduler
import OpenLangGraph.Services.PermissionService
import OpenLangGraph.Core.OrganizationOrm
import OpenLangGraph.Services.OrganizationService
import OpenLangGraph.Foundation.DelimitedWords
import OpenLangGraph.Services.Slug
import OpenLangGraph.Services.RbacService
import OpenLangGraph.Api.Rbac
import OpenLangGraph.Services.OwnerChanges
import OpenLangGraph.Services.ServiceCalls
import OpenLangGraph.Services.RoleVocabulary
import OpenLangGraph.Services.PermissionCache
import OpenLangGraph.Services.LastOwner
import OpenLangGraph.A2A.Executor
import OpenLangGraph.A2A.RoundTrip
import OpenLangGraph.A2A.Execution
import OpenLangGraph.Services.LruRetryCache
import OpenLangGraph.Services.RetryCounts
import OpenLangGraph.Services.AuditOutbox
import OpenLangGraph.Services.AuditMovers
import OpenLangGraph.Foundation.Savepoints
import OpenLangGraph.Services.AuditPartitions
import OpenLangGraph.Utils.Masking
import OpenLangGraph.Utils.MaskingBounds
import OpenLangGraph.Foundation.Coroutine
import OpenLangGraph.Middleware.AuditEntries
import OpenLangGraph.Models.Audit
import OpenLangGraph.Middleware.Audit
import OpenLangGraph.Api.Audit
import OpenLangGraph.Api.AuditPages
import OpenLangGraph.Foundation.BoundedQueue
import OpenLangGraph.Services.BrokerQueue
import OpenLangGraph.Services.RunSignals
import OpenLangGraph.Services.UnreadRun
import OpenLangGraph.Services.BrokerManager
import OpenLangGraph.Api.ReleaseRun
import OpenLangGraph.Api.DeadStreams
import OpenLangGraph.Foundation.SharedQueue
import OpenLangGraph.Services.BrokerAudience
import OpenLangGraph.Foundation.UnitOfWork
import OpenLangGraph.Api.FailedCreation
import OpenLangGraph.Api.FailedBatch
import OpenLangGraph.Api.ThreadDeletion
import OpenLangGraph.Main.Shutdown
import OpenLangGraph.Middleware.RateLimit
import OpenLangGraph.Main.Middlewares
import OpenLangGraph.Foundation.FixedWindow
import OpenLangGraph.Foundation.Redis
import OpenLangGraph.Core.InMemoryRateLimiter
import OpenLangGraph.Core.RateLimiter
import OpenLangGraph.Foundation.SlidingWindow
import OpenLangGraph.Core.RateLimitEnforcer
import OpenLangGraph.Models.RateLimitRules
import OpenLangGraph.Core.RateLimitCheck
import OpenLangGraph.Core.RateLimitKeys
import OpenLangGraph.Foundation.Fnmatch
import OpenLangGraph.Services.RateLimitRules
import OpenLangGraph.Foundation.PercentEncoding
import OpenLangGraph.Services.Federation.ContextPropagation
import OpenLangGraph.Services.Federation.AgentChain
import OpenLangGraph.Services.Federation.TimeoutBudget
import OpenLangGraph.Services.AssistantService
import OpenLangGraph.Services.AssistantVersions
import OpenLangGraph.Services.CronTicks
import OpenLangGraph.Services.CronRuns
import OpenLangGraph.Core.CircuitBreaker
import OpenLangGraph.Core.Retry
import OpenLangGraph.Core.Backoff
import OpenLangGraph.Api.Store
import OpenLangGraph.Middleware.AuditSecrets
import OpenLangGraph.Middleware.DoubleEncodedJson
import OpenLangGraph.Services.CustomEndpoints
import OpenLangGraph.Services.WebhookDelivery
import OpenLangGraph.Services.Federation.TraceContext
import OpenLangGraph.Services.Federation.Discovery
import OpenLangGraph.Services.Federation.DiscoveredUrls
import OpenLangGraph.Services.Federation.BadEntries
import OpenLangGraph.Services.Federation.InertText
import OpenLangGraph.Services.Federation.RemoteA2AClient
import OpenLangGraph.Services.Federation.PeerCredentials
import OpenLangGraph.Core.Rls
import OpenLangGraph.Models.FeatureFlags
import OpenLangGraph.Core.FeatureFlagOrm
import OpenLangGraph.Services.FeatureFlagService
import OpenLangGraph.Services.FlagOverrides
import OpenLangGraph.Services.FlagEvaluation
import OpenLangGraph.Services.FlagChangeLog
import OpenLangGraph.Api.ThreadHistory
import OpenLangGraph.Foundation.PlainColumn
import OpenLangGraph.Models.RateLimit
import OpenLangGraph.Services.OrgLimits
import OpenLangGraph.Api.ThreadUpdate
import OpenLangGraph.Foundation.CanonicalObject
import OpenLangGraph.Services.AssistantContext
import OpenLangGraph.Services.AssistantPatch
import OpenLangGraph.Models.RuleRecords
import OpenLangGraph.Services.RuleRoundTrip
import OpenLangGraph.Foundation.Pagination
import OpenLangGraph.Foundation.PartialUpdate
import OpenLangGraph.Services.FlagUpdates
import OpenLangGraph.Services.AllFlags
import OpenLangGraph.Services.FlagRollout
import OpenLangGraph.Services.UsageCounters
import OpenLangGraph.Core.RedisLimiter
import OpenLangGraph.Core.LimiterAgreement
import OpenLangGraph.Services.UsageReports
import OpenLangGraph.Foundation.Calendar
import OpenLangGraph.Services.PartitionService
import OpenLangGraph.Services.FuturePartitions
import OpenLangGraph.Services.PartitionCleanup
import OpenLangGraph.Services.MissingPartition
import OpenLangGraph.Foundation.Traversal
import OpenLangGraph.A2A.Converter
import OpenLangGraph.Api.ThreadAccess
import OpenLangGraph.Api.ThreadCopy
import OpenLangGraph.Services.HeldRoles
import OpenLangGraph.Services.OutboxDrain
import OpenLangGraph.Foundation.SeparableText
import OpenLangGraph.Foundation.PyJson
import OpenLangGraph.Api.ThreadSearch
import OpenLangGraph.Foundation.Double
import OpenLangGraph.Foundation.JsonText
import OpenLangGraph.Foundation.EventStream
import OpenLangGraph.Core.SseText
import OpenLangGraph.Foundation.ProgramReads
import OpenLangGraph.Foundation.Grants
import OpenLangGraph.Foundation.TwoKeyTable
import OpenLangGraph.Core.SecretsOrm
import OpenLangGraph.Services.ApiKeys
import OpenLangGraph.Services.AgentAuth
import OpenLangGraph.Services.SecretRequests
import OpenLangGraph.Services.SecretHistory
import OpenLangGraph.Api.RunAccess
import OpenLangGraph.Foundation.GroupBy
import OpenLangGraph.Foundation.Isolation
import OpenLangGraph.Services.RateLimitAnalytics
import OpenLangGraph.Services.RateLimitHistory
import OpenLangGraph.Api.AuditSummary
import OpenLangGraph.Foundation.RelyGuarantee
import OpenLangGraph.Services.PermissionChecks
import OpenLangGraph.Services.AssistantRequests
import OpenLangGraph.Services.AssistantHistory
import OpenLangGraph.Api.RateLimitRehearsal
import OpenLangGraph.Api.ThreadExpiry
