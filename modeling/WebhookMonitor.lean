import WebhookMonitor.Interaction.Program
import WebhookMonitor.Interaction.Schedule
import WebhookMonitor.Interaction.Embedding
import WebhookMonitor.Interaction.Component
import WebhookMonitor.Interaction.Budget
import WebhookMonitor.Interaction.Progress
import WebhookMonitor.Sql.Condition
import WebhookMonitor.Sql.Table
import WebhookMonitor.Sql.Migration
import WebhookMonitor.Python.Text
import WebhookMonitor.Python.Integer
import WebhookMonitor.Python.Decimal
import WebhookMonitor.Python.Bytes
import WebhookMonitor.Python.Utf8
import WebhookMonitor.Python.Errors
import WebhookMonitor.Python.Json
import WebhookMonitor.Python.JsonText
import WebhookMonitor.Python.Base64
import WebhookMonitor.Python.Uuid
import WebhookMonitor.Python.Sha256
import WebhookMonitor.Python.Datetime
import WebhookMonitor.Python.DatetimeText
import WebhookMonitor.Python.Url
import WebhookMonitor.Python.UrlPath
import WebhookMonitor.Errors
import WebhookMonitor.Domain
import WebhookMonitor.Effects
import WebhookMonitor.History
import WebhookMonitor.Records.Lifecycle
import WebhookMonitor.Database.Table
import WebhookMonitor.Database.LockedTable
import WebhookMonitor.GitHub.Client
import WebhookMonitor.GitHub.DeliveryRecords
import WebhookMonitor.GitHub.LinkHeader
import WebhookMonitor.Storage.RecoveryActions
import WebhookMonitor.Persistence.Postgres
import WebhookMonitor.Persistence.Deliveries
import WebhookMonitor.Journal.Calls
import WebhookMonitor.Persistence.RecoveryActions
import WebhookMonitor.Services.Cursor
import WebhookMonitor.Services.KeysetCursor
import WebhookMonitor.Services.GitHubReconciliation
import WebhookMonitor.Services.GitHubRedelivery
import WebhookMonitor.Storage.Deliveries
import WebhookMonitor.Security.Authenticator
import WebhookMonitor.Security.Endings
import WebhookMonitor.Security.Acceptance
import WebhookMonitor.Security.Faults
import WebhookMonitor.Security.SharedCaches
import WebhookMonitor.Security.Provenance
import WebhookMonitor.Security.KeyCache
import WebhookMonitor.Security.Management
import WebhookMonitor.Config
import WebhookMonitor.Security.Signature
import WebhookMonitor.Services.Webhooks
import WebhookMonitor.Api.Management
import WebhookMonitor.Management.Exclusivity
import WebhookMonitor.Management.Scopes
import WebhookMonitor.Api.Routes
import WebhookMonitor.Webhooks.Specification
import WebhookMonitor.Webhooks.Acceptance
import WebhookMonitor.Webhooks.Answers
import WebhookMonitor.Api.DeliveryAttempts
import WebhookMonitor.Api.Answers
import WebhookMonitor.Reconciliation.Search
import WebhookMonitor.Reconciliation.Completeness
import WebhookMonitor.Pagination.Chain
import WebhookMonitor.Pagination.Keyset
import WebhookMonitor.Reconciliation.Continuation
import WebhookMonitor.Redelivery.Specification
import WebhookMonitor.Redelivery.Outcomes
import WebhookMonitor.Redelivery.Safety
import WebhookMonitor.Redelivery.Journals
import WebhookMonitor.Redelivery.Agreement
import WebhookMonitor.Redelivery.Capacity
import WebhookMonitor.Deliveries.ConcurrentAdds
import WebhookMonitor.Deliveries.AddAlone
import WebhookMonitor.Deliveries.Waiting
import WebhookMonitor.Deliveries.Readback
import WebhookMonitor.Services.Queries
import WebhookMonitor.Deliveries.Backends
import WebhookMonitor.Deliveries.RecentEvents
import WebhookMonitor.Deliveries.SchemaFit
import WebhookMonitor.Listings.Traversals
import WebhookMonitor.Journal.Concurrent
import WebhookMonitor.Journal.KeptRows
import WebhookMonitor.Journal.OneWay
import WebhookMonitor.Journal.Backends
import WebhookMonitor.Webhooks.Readability
import WebhookMonitor.Webhooks.LedgerFit
import WebhookMonitor.Redelivery.JournalFit
import WebhookMonitor.Cursors.Totality
import WebhookMonitor.Cursors.Faithfulness
import WebhookMonitor.GitHub.LinkRendering
import WebhookMonitor.GitHub.Containment
import WebhookMonitor.GitHub.RequestTargets
import WebhookMonitor.Migrations.Versions
import WebhookMonitor.Migrations.RoundTrip
import WebhookMonitor.Migrations.Journal
import WebhookMonitor.Application.Calls
import WebhookMonitor.Application.Routes
import WebhookMonitor.Application.Backends
import WebhookMonitor.Application.Specification
import WebhookMonitor.Application.System
import WebhookMonitor.Application.Authority
import WebhookMonitor.Application.Redeliveries
import WebhookMonitor.Application.Journal
import WebhookMonitor.Application.Confinement
import WebhookMonitor.Application.Answers
import WebhookMonitor.Application.Submissions
import WebhookMonitor.Application.Durability
import WebhookMonitor.Application.Retention
import WebhookMonitor.Application.Budget
import WebhookMonitor.Application.Progress
