import Mathlib.Data.List.Basic

/-!
# Status values

The `TextChoices` classes of the platform's models, with the text each choice is
stored as. `ChangeStatus.allowed` is the table `ALLOWED_STATUS_TRANSITIONS`, the
only place where the moves of a change's lifecycle are listed.
-/

namespace RunbookPlatform

/-- `ChangeRecord.Status`. -/
inductive ChangeStatus where
  | draft | pendingApproval | approved | scheduled | dispatchable | running
  | verificationPending | verificationFailed | verified | closed | rejected | canceled | expired
  deriving DecidableEq

namespace ChangeStatus

/-- The stored text. -/
def value : ChangeStatus → String
  | draft => "draft"
  | pendingApproval => "pending_approval"
  | approved => "approved"
  | scheduled => "scheduled"
  | dispatchable => "dispatchable"
  | running => "running"
  | verificationPending => "verification_pending"
  | verificationFailed => "verification_failed"
  | verified => "verified"
  | closed => "closed"
  | rejected => "rejected"
  | canceled => "canceled"
  | expired => "expired"

/-- `ALLOWED_STATUS_TRANSITIONS`. -/
def allowed : ChangeStatus → List ChangeStatus
  | draft => [pendingApproval, approved, canceled]
  | pendingApproval => [approved, rejected, expired, canceled]
  | approved => [scheduled, dispatchable, canceled]
  | scheduled => [dispatchable, expired, canceled]
  | dispatchable => [running, expired]
  | running => [verificationPending, closed]
  | verificationPending => [verified, verificationFailed]
  | verificationFailed => [closed]
  | verified => [closed]
  | closed => []
  | rejected => []
  | canceled => []
  | expired => []

end ChangeStatus

/-- `Execution.Status`. -/
inductive ExecutionStatus where
  | queued | claimed | running | succeeded | failed | cancelled
  deriving DecidableEq

namespace ExecutionStatus

def value : ExecutionStatus → String
  | queued => "queued"
  | claimed => "claimed"
  | running => "running"
  | succeeded => "succeeded"
  | failed => "failed"
  | cancelled => "cancelled"

/-- `CLAIMED` or `RUNNING`: a runner is at work on the execution. -/
def isActive : ExecutionStatus → Bool
  | claimed | running => true
  | _ => false

/-- `SUCCEEDED`, `FAILED` or `CANCELLED`. -/
def isTerminal : ExecutionStatus → Bool
  | succeeded | failed | cancelled => true
  | _ => false

end ExecutionStatus

/-- `ExecutionStep.Status`. -/
inductive StepStatus where
  | pending | waitingForApproval | running | succeeded | failed | skipped | cancelled
  deriving DecidableEq

def StepStatus.value : StepStatus → String
  | pending => "pending"
  | waitingForApproval => "waiting_for_approval"
  | running => "running"
  | succeeded => "succeeded"
  | failed => "failed"
  | skipped => "skipped"
  | cancelled => "cancelled"

/-- `SUCCEEDED` or `SKIPPED`. -/
def StepStatus.isDone : StepStatus → Bool
  | succeeded | skipped => true
  | _ => false

/-- `RUNNING` or `WAITING_FOR_APPROVAL`. -/
def StepStatus.isActive : StepStatus → Bool
  | running | waitingForApproval => true
  | _ => false

/-- `Execution.ExecutionMode`. -/
inductive ExecutionMode where
  | live | dryRun
  deriving DecidableEq

def ExecutionMode.value : ExecutionMode → String
  | live => "live"
  | dryRun => "dry_run"

/-- `ApprovalRequest.Status`. -/
inductive ApprovalStatus where
  | pending | approved | rejected | timedOut
  deriving DecidableEq

def ApprovalStatus.value : ApprovalStatus → String
  | pending => "pending"
  | approved => "approved"
  | rejected => "rejected"
  | timedOut => "timed_out"

/-- The decisions that `DecideApprovalSerializer` accepts. -/
inductive HumanDecision where
  | approved | rejected
  deriving DecidableEq

def HumanDecision.status : HumanDecision → ApprovalStatus
  | approved => .approved
  | rejected => .rejected

/-- `ApprovalRequest.SubjectType`. -/
inductive SubjectType where
  | executionStep | changeRecord | changeException
  deriving DecidableEq

/-- `ExecutionLease.Status`. -/
inductive LeaseStatus where
  | active | released | expired
  deriving DecidableEq

/-- `TargetLock.Status`. -/
inductive LockStatus where
  | active | released | expired
  deriving DecidableEq

/-- `PolicyRule.Outcome`. -/
inductive PolicyOutcome where
  | approvalRequired | autoApprove | block
  deriving DecidableEq

def PolicyOutcome.value : PolicyOutcome → String
  | approvalRequired => "approval_required"
  | autoApprove => "auto_approve"
  | block => "block"

/-- `PolicyRule.ConditionType`. -/
inductive ConditionType where
  | riskLevel | stepType | timeWindow | actionType | actionVersion | executionMode
  | idempotencyMode | mutatesTarget
  deriving DecidableEq

/-- `VerificationPlan.Status`. -/
inductive PlanStatus where
  | generated | active | satisfied | failed | canceled
  deriving DecidableEq

def PlanStatus.value : PlanStatus → String
  | generated => "generated"
  | active => "active"
  | satisfied => "satisfied"
  | failed => "failed"
  | canceled => "canceled"

/-- `VerificationPlan.Mode` and `OperationProfile.VerificationMode`. -/
inductive VerificationMode where
  | automated | manual | mixed
  deriving DecidableEq

def VerificationMode.value : VerificationMode → String
  | automated => "automated"
  | manual => "manual"
  | mixed => "mixed"

/-- `VerificationCheck.CheckType`. -/
inductive CheckType where
  | runnerStep | artifactPresence | manualAttestation | apiAssertion | externalReference
  deriving DecidableEq

def CheckType.value : CheckType → String
  | runnerStep => "runner_step"
  | artifactPresence => "artifact_presence"
  | manualAttestation => "manual_attestation"
  | apiAssertion => "api_assertion"
  | externalReference => "external_reference"

/-- The check type stored as `text`, if there is one. -/
def CheckType.ofValue? (text : String) : Option CheckType :=
  [runnerStep, artifactPresence, manualAttestation, apiAssertion, externalReference].find?
    fun t => t.value == text

/-- `VerificationCheck.Status`. -/
inductive CheckStatus where
  | pending | passed | failed | notApplicable
  deriving DecidableEq

/-- `VerificationResult.Source`. -/
inductive ResultSource where
  | runner | user | system
  deriving DecidableEq

/-- `VerificationResult.Outcome`. -/
inductive ResultOutcome where
  | passed | failed
  deriving DecidableEq

def ResultOutcome.value : ResultOutcome → String
  | passed => "passed"
  | failed => "failed"

/-- `VerificationResult.ValidationStatus`. -/
inductive ValidationStatus where
  | accepted | rejected
  deriving DecidableEq

/-- `ChangeClosure.Outcome`. -/
inductive ClosureOutcome where
  | success | rolledBack | partialSuccess | failed | canceled
  deriving DecidableEq

def ClosureOutcome.value : ClosureOutcome → String
  | success => "success"
  | rolledBack => "rolled_back"
  | partialSuccess => "partial_success"
  | failed => "failed"
  | canceled => "canceled"

/-- The outcome stored as `text`, if there is one. -/
def ClosureOutcome.ofValue? (text : String) : Option ClosureOutcome :=
  [success, rolledBack, partialSuccess, failed, canceled].find? fun o => o.value == text

/-- `ChangeWindow.Status`. -/
inductive WindowStatus where
  | scheduled | open | expired | overrun | closed
  deriving DecidableEq

def WindowStatus.value : WindowStatus → String
  | scheduled => "scheduled"
  | .open => "open"
  | expired => "expired"
  | overrun => "overrun"
  | closed => "closed"

/-- `FreezeRule.Behavior`. -/
inductive FreezeBehavior where
  | block | allowWithException
  deriving DecidableEq

/-- `FreezeRule.ScopeType`. -/
inductive FreezeScope where
  | allProduction | targetType | targetIdentifier
  deriving DecidableEq

/-- `DispatchEligibilityCheck.Result`. -/
inductive PreflightResult where
  | passed | failed
  deriving DecidableEq

/-- `ChangeException.ExceptionType`. -/
inductive ExceptionType where
  | freezeOverride | windowOverrun | lateVerification | policyOverride | missingArtifact
  deriving DecidableEq

def ExceptionType.value : ExceptionType → String
  | freezeOverride => "freeze_override"
  | windowOverrun => "window_overrun"
  | lateVerification => "late_verification"
  | policyOverride => "policy_override"
  | missingArtifact => "missing_artifact"

/-- The exception type stored as `text`, if there is one. -/
def ExceptionType.ofValue? (text : String) : Option ExceptionType :=
  [freezeOverride, windowOverrun, lateVerification, policyOverride, missingArtifact].find?
    fun t => t.value == text

/-- `ChangeException.Status`. -/
inductive ExceptionStatus where
  | pendingApproval | approved | rejected | resolved | expired
  deriving DecidableEq

def ExceptionStatus.value : ExceptionStatus → String
  | pendingApproval => "pending_approval"
  | approved => "approved"
  | rejected => "rejected"
  | resolved => "resolved"
  | expired => "expired"

/-- No decision about the exception is left. -/
def ExceptionStatus.isFinal : ExceptionStatus → Bool
  | rejected | resolved | expired => true
  | pendingApproval | approved => false

/-- `BreakglassSession.Status`. -/
inductive SessionStatus where
  | active | ended | expired | revoked
  deriving DecidableEq

def SessionStatus.value : SessionStatus → String
  | active => "active"
  | ended => "ended"
  | expired => "expired"
  | revoked => "revoked"

/-- `BreakglassSession.ReviewStatus`. -/
inductive ReviewStatus where
  | pending | submitted | accepted | overdue | blocked
  deriving DecidableEq

/-- `RetroReview.Status`. -/
inductive RetroStatus where
  | pending | submitted | superseded
  deriving DecidableEq

def RetroStatus.value : RetroStatus → String
  | pending => "pending"
  | submitted => "submitted"
  | superseded => "superseded"

/-- `RetroReview.Disposition`. -/
inductive Disposition where
  | accepted | needsRemediation | controlFailure
  deriving DecidableEq

def Disposition.value : Disposition → String
  | accepted => "accepted"
  | needsRemediation => "needs_remediation"
  | controlFailure => "control_failure"

/-- The disposition stored as `text`, if there is one. -/
def Disposition.ofValue? (text : String) : Option Disposition :=
  [accepted, needsRemediation, controlFailure].find? fun d => d.value == text

/-- `Artifact.Kind`. -/
inductive ArtifactKind where
  | stdout | stderr | file | report | diagnostic
  deriving DecidableEq

def ArtifactKind.value : ArtifactKind → String
  | stdout => "stdout"
  | stderr => "stderr"
  | file => "file"
  | report => "report"
  | diagnostic => "diagnostic"

/-- `Artifact.Kind.values`. -/
def ArtifactKind.all : List ArtifactKind := [stdout, stderr, file, report, diagnostic]

/-- The kind stored as `text`, if there is one. -/
def ArtifactKind.ofValue? (text : String) : Option ArtifactKind :=
  ArtifactKind.all.find? fun k => k.value == text

/-- `Artifact.UploadStatus`. -/
inductive UploadStatus where
  | available | failed
  deriving DecidableEq

/-- `Workflow.Status`. -/
inductive WorkflowStatus where
  | draft | published | superseded | archived
  deriving DecidableEq

def WorkflowStatus.value : WorkflowStatus → String
  | draft => "draft"
  | published => "published"
  | superseded => "superseded"
  | archived => "archived"

/-- `Runner.Status`. -/
inductive RunnerStatus where
  | registered | active | draining | offline | disabled | revoked
  deriving DecidableEq

def RunnerStatus.value : RunnerStatus → String
  | registered => "registered"
  | active => "active"
  | draining => "draining"
  | offline => "offline"
  | disabled => "disabled"
  | revoked => "revoked"

/-- `RunnerPool.Status`. -/
inductive PoolStatus where
  | active | draining | disabled
  deriving DecidableEq

def PoolStatus.value : PoolStatus → String
  | active => "active"
  | draining => "draining"
  | disabled => "disabled"

/-- `MembershipRole`. -/
inductive MembershipRole where
  | owner | admin | operator | viewer
  deriving DecidableEq

def MembershipRole.value : MembershipRole → String
  | owner => "owner"
  | admin => "admin"
  | operator => "operator"
  | viewer => "viewer"

/-- `AuditEvent.ActorType`. -/
inductive ActorType where
  | user | system | runner | unknown
  deriving DecidableEq

end RunbookPlatform
