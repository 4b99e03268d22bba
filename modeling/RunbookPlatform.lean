import RunbookPlatform.Locks.Invariants
import RunbookPlatform.Lifecycle.Services
import RunbookPlatform.Lifecycle.Waits
import RunbookPlatform.Lifecycle.Drift
import RunbookPlatform.Work.Claims
import RunbookPlatform.Emergency.Duties
import RunbookPlatform.Emergency.Scope
import RunbookPlatform.Reviews.Cached
import RunbookPlatform.Reviews.Gate
import RunbookPlatform.Runners.Contention
import RunbookPlatform.Gates.Approvals
import RunbookPlatform.Gates.Order
import RunbookPlatform.Workflows.Versions
import RunbookPlatform.Workflows.Runnable
import RunbookPlatform.Runner.DryRun
import RunbookPlatform.Runner.Facts
import RunbookPlatform.Policies.TimeWindow
import RunbookPlatform.Policies.FirstMatch
import RunbookPlatform.Lifecycle.Sweep
import RunbookPlatform.Workflows.OnePublished
import RunbookPlatform.Auditor.Access
import RunbookPlatform.Evidence.Holds
import RunbookPlatform.Runner.ShellSwitch
import RunbookPlatform.Runners.Selection
import RunbookPlatform.Runner.Waiting
import RunbookPlatform.Transactional.Sweeps
import RunbookPlatform.Changes.Promotion
import RunbookPlatform.Changes.Freezes
import RunbookPlatform.Changes.PlanGeneration
import RunbookPlatform.Runner.Redaction
import RunbookPlatform.Runners.Registration
import RunbookPlatform.Audit.Scrub
import RunbookPlatform.Core.Python
import RunbookPlatform.Text.Replace
import RunbookPlatform.Runners.Queue
import RunbookPlatform.Artifacts.Quotas
import RunbookPlatform.Evidence.Exports
import RunbookPlatform.Executions.Retry
import RunbookPlatform.Auditor.Covered
import RunbookPlatform.Workflows.DefinitionHash
import RunbookPlatform.Runbooks.AiClient
import RunbookPlatform.Text.Strip
import RunbookPlatform.Runbooks.Parser
import RunbookPlatform.Auditor.Snapshots
import RunbookPlatform.Auditor.References
import RunbookPlatform.Integrations.Webhooks
import RunbookPlatform.Runner.Artifacts
import RunbookPlatform.Runner.Assertions
import RunbookPlatform.Runner.Timeouts
import RunbookPlatform.Emergency.Heartbeats
import RunbookPlatform.Executions.StreamEvents
import RunbookPlatform.Runner.Workspaces
import RunbookPlatform.Organizations.Owners
import RunbookPlatform.Integrations.Ssrf
import RunbookPlatform.Runner.Arrivals
import RunbookPlatform.Executions.StreamClient
import RunbookPlatform.Runner.Completion
import RunbookPlatform.Runner.Polling
import RunbookPlatform.Workflows.Lifted
import RunbookPlatform.Work.Progress
import RunbookPlatform.Policies.Rules
import RunbookPlatform.Policies.ActiveNames
import RunbookPlatform.Integrations.Notify
