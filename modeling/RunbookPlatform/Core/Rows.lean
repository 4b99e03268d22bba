import RunbookPlatform.Core.Json
import RunbookPlatform.Core.Status

/-!
# Rows

One structure for each table of the modelled apps, with the columns that the
modelled services read. Primary keys are positions in a table, so a row does not
repeat its own key; a foreign key is the key of the row it refers to. Instants
are microseconds since the epoch.

Columns that are only ever written (audit metadata, labels, display texts of
responses) are left out, as are notifications, stream events and metrics.
-/

namespace RunbookPlatform

/-- A byte string. -/
abbrev Bytes := List UInt8

/-- An instant, in microseconds. -/
abbrev Time := ℕ

/-- `timedelta(seconds=n)`. -/
def seconds (n : ℕ) : Time := n * 1000000

/-- `AuditActor`. -/
structure AuditActor where
  actorType : ActorType
  actorId : String := ""
  actorLabel : String := ""
  deriving DecidableEq

/-- `system_actor(label)`. -/
def systemActor (label : String := "Django system") : AuditActor :=
  { actorType := .system, actorLabel := label }

/-- `actor_from_runner(runner_id)` and `_runner_actor(runner_id)`. -/
def runnerActor (runnerId : String) : AuditActor :=
  { actorType := .runner, actorId := runnerId, actorLabel := runnerId }

/-- The user behind an actor, if the actor is one. -/
def AuditActor.userId? (actor : AuditActor) : Option String :=
  if actor.actorType = .user then some actor.actorId else none

-- ════════════════════════════════════════════════════════════════════════
-- Reference data: edited by administrators
-- ════════════════════════════════════════════════════════════════════════

/-- `OperationProfile`. -/
structure OperationProfile where
  organization : ℕ
  key : String
  name : String
  isActive : Bool := true
  riskLevel : String
  requiresApproval : Bool := true
  verificationRequired : Bool := true
  verificationMode : VerificationMode := .mixed
  verificationPlanTemplate : Json := .obj []
  requiresIndependentReviewer : Bool := true
  approvalTtlSeconds : Option ℕ := none
  dispatchTtlSeconds : ℕ := 900
  allowedTargetTypes : List String := []
  requestedInputsSchema : Json := .obj []
  targetSchema : Json := .obj []
  allowedWorkflows : List ℕ := []
  requiredRunnerCapabilities : List String := []
  allowEmergencyChanges : Bool := false
  maxBreakglassSeconds : Option ℕ := none
  retroReviewSlaSeconds : Option ℕ := none

/-- `Workflow`. -/
structure Workflow where
  organization : ℕ
  name : String
  version : ℕ
  status : WorkflowStatus
  definitionSchemaVersion : String := "workflow.schema.v1"
  definition : Json := .obj []
  requiresReview : Bool := false

/-- `Membership`. -/
structure Membership where
  organization : ℕ
  user : String
  role : MembershipRole

/-- The columns of the user table that services read. -/
structure User where
  id : String
  email : String := ""
  isActive : Bool := true
  deriving DecidableEq

/-- `RunnerPool`. -/
structure RunnerPool where
  organization : ℕ
  key : String
  status : PoolStatus := .active
  maxConcurrentExecutions : ℕ := 1
  defaultForNonChangeExecutions : Bool := false
  capabilities : List String := []

/-- `Runner`. -/
structure Runner where
  organization : ℕ
  pool : ℕ
  status : RunnerStatus
  lastHeartbeatAt : Option Time := none

/-- `TargetConnectivityRoute`. -/
structure TargetConnectivityRoute where
  organization : ℕ
  environment : String := "production"
  targetType : String
  normalizedIdentifierPattern : String
  pool : ℕ
  requiredCapabilities : List String := []
  priority : ℕ := 100
  isActive : Bool := true

/-- `Policy`. -/
structure Policy where
  organization : ℕ
  isActive : Bool := true
  createdAt : Time

/-- `PolicyRule`. -/
structure PolicyRule where
  policy : ℕ
  isActive : Bool := true
  priority : ℕ
  conditionType : ConditionType
  conditionParams : Json := .obj []
  outcome : PolicyOutcome
  reason : String := ""

-- ════════════════════════════════════════════════════════════════════════
-- Changes
-- ════════════════════════════════════════════════════════════════════════

/-- `ChangeRecord`. -/
structure ChangeRecord where
  organization : ℕ
  operationProfile : ℕ
  workflow : ℕ
  requestedBy : Option String := none
  submittedBy : Option String := none
  title : String
  summary : String := ""
  justification : String := ""
  status : ChangeStatus := .draft
  requestedInputs : Json := .obj []
  requestedInputsSha256 : String := ""
  requestSnapshot : Json := .obj []
  requestSnapshotSha256 : String := ""
  operationProfileKeySnapshot : String := ""
  workflowVersionSnapshot : Option ℕ := none
  workflowDefinitionSha256 : String := ""
  approvalRequest : Option ℕ := none
  policyEvaluation : Option ℕ := none
  scheduledFor : Option Time := none
  submittedAt : Option Time := none
  approvedAt : Option Time := none
  dispatchableAt : Option Time := none
  runningAt : Option Time := none
  verificationPendingAt : Option Time := none
  verificationFailedAt : Option Time := none
  verifiedAt : Option Time := none
  closedAt : Option Time := none
  rejectedAt : Option Time := none
  canceledAt : Option Time := none
  expiredAt : Option Time := none
  terminalReason : String := ""
  isEmergency : Bool := false
  emergencyReason : String := ""
  emergencyDeclaredBy : Option String := none
  emergencyDeclaredAt : Option Time := none
  retroReviewRequired : Bool := false
  retroReviewDueAt : Option Time := none
  retroReviewBlockingStatus : String := ""

/-- The columns of a change that no service saves again. -/
def ChangeRecord.identity (change : ChangeRecord) : ℕ × ℕ × ℕ × Option Time :=
  (change.organization, change.operationProfile, change.workflow, change.scheduledFor)

/-- What the integrity check of a submitted change reads of its row. -/
structure Dossier where
  operationProfile : ℕ
  workflow : ℕ
  title : String
  summary : String
  justification : String
  requestedInputs : Json
  requestedInputsSha256 : String
  requestSnapshot : Json
  requestSnapshotSha256 : String
  operationProfileKeySnapshot : String
  workflowVersionSnapshot : Option ℕ
  scheduledFor : Option Time
  submittedAt : Option Time

/-- The dossier of a change. -/
def ChangeRecord.dossier (change : ChangeRecord) : Dossier where
  operationProfile := change.operationProfile
  workflow := change.workflow
  title := change.title
  summary := change.summary
  justification := change.justification
  requestedInputs := change.requestedInputs
  requestedInputsSha256 := change.requestedInputsSha256
  requestSnapshot := change.requestSnapshot
  requestSnapshotSha256 := change.requestSnapshotSha256
  operationProfileKeySnapshot := change.operationProfileKeySnapshot
  workflowVersionSnapshot := change.workflowVersionSnapshot
  scheduledFor := change.scheduledFor
  submittedAt := change.submittedAt

/-- Whether a change requires retro-reviews, and what they say about its closure. -/
def ChangeRecord.retro (change : ChangeRecord) : Bool × String :=
  (change.retroReviewRequired, change.retroReviewBlockingStatus)

/-- A change may become `later`: it keeps its identity, and is a draft only if it was one. -/
structure ChangeRecord.Evolves (change later : ChangeRecord) : Prop where
  identity : later.identity = change.identity
  draft : later.status = .draft → change.status = .draft

theorem ChangeRecord.Evolves.organization {change later : ChangeRecord} (h : change.Evolves later) :
    later.organization = change.organization :=
  congrArg Prod.fst h.identity

theorem ChangeRecord.Evolves.scheduledFor {change later : ChangeRecord} (h : change.Evolves later) :
    later.scheduledFor = change.scheduledFor :=
  congrArg (·.2.2.2) h.identity

theorem ChangeRecord.Evolves.refl (change : ChangeRecord) : change.Evolves change :=
  ⟨rfl, id⟩

theorem ChangeRecord.Evolves.trans {a b c : ChangeRecord} (h1 : a.Evolves b)
    (h2 : b.Evolves c) : a.Evolves c :=
  ⟨h2.identity.trans h1.identity, h1.draft ∘ h2.draft⟩

/-- A change that keeps its status only has its identity to keep. -/
theorem ChangeRecord.Evolves.of_status {change later : ChangeRecord}
    (hstatus : later.status = change.status) (hid : later.identity = change.identity) :
    change.Evolves later :=
  ⟨hid, fun h => hstatus ▸ h⟩

/-- `ChangeTarget`. -/
structure ChangeTarget where
  changeRecord : ℕ
  organization : ℕ
  position : ℕ
  targetType : String
  targetIdentifier : String
  normalizedIdentifier : String
  displayName : String := ""
  environment : String
  metadata : Json := .obj []

/-- `ChangeExecutionBinding`. -/
structure ChangeExecutionBinding where
  changeRecord : ℕ
  execution : ℕ
  organization : ℕ
  operationProfileKey : String
  requestedInputsSha256 : String
  dispatchTokenNonce : String
  dispatchTokenHash : String
  dispatchTokenExpiresAt : Time
  reservedAt : Time
  boundAt : Option Time := none
  boundByRunnerId : String := ""
  executionAcceptedAt : Option Time := none
  executionStartedAt : Option Time := none
  executionFinishedAt : Option Time := none

/-- `VerificationPlan`. -/
structure VerificationPlan where
  organization : ℕ
  changeRecord : ℕ
  operationProfile : ℕ
  mode : VerificationMode
  status : PlanStatus := .generated
  generatedFromProfileSnapshot : Json
  generatedFromProfileSha256 : String
  requiredCheckCount : ℕ
  optionalCheckCount : ℕ
  satisfiedRequiredCount : ℕ := 0
  failedRequiredCount : ℕ := 0
  generatedAt : Time
  activatedAt : Option Time := none
  satisfiedAt : Option Time := none
  failedAt : Option Time := none

/-- `VerificationCheck`. -/
structure VerificationCheck where
  organization : ℕ
  plan : ℕ
  changeRecord : ℕ
  position : ℕ
  key : String
  name : String
  description : String := ""
  checkType : CheckType
  required : Bool := true
  status : CheckStatus := .pending
  verificationKey : String := ""
  sourceStepKey : String := ""
  artifactKind : String := ""
  artifactNamePattern : String := ""
  expectedChecksumSha256 : String := ""
  apiAssertion : Json := .obj []
  externalReferenceConfig : Json := .obj []
  manualAttestationConfig : Json := .obj []
  lastResult : Option ℕ := none
  satisfiedAt : Option Time := none
  failedAt : Option Time := none

/-- `VerificationResult`. -/
structure VerificationResult where
  organization : ℕ
  changeRecord : ℕ
  plan : ℕ
  verificationCheck : ℕ
  source : ResultSource
  outcome : ResultOutcome
  validationStatus : ValidationStatus
  submittedBy : Option String := none
  runnerId : String := ""
  verificationKey : String := ""
  artifact : Option ℕ := none
  artifactChecksumSha256 : String := ""
  externalReference : String := ""
  apiAssertionSnapshot : Json := .obj []
  manualAttestationText : String := ""
  observedValue : Json := .obj []
  validationErrors : List Json := []
  submittedAt : Time
  validatedAt : Time

/-- `ChangeClosure`. -/
structure ChangeClosure where
  organization : ℕ
  changeRecord : ℕ
  outcome : ClosureOutcome
  closedBy : Option String := none
  independentReviewer : Option String := none
  summary : String
  verificationPlan : ℕ
  locksReleased : ℕ
  closedAt : Time

/-- `ChangeWindow`. -/
structure ChangeWindow where
  organization : ℕ
  changeRecord : ℕ
  startsAt : Time
  endsAt : Time
  status : WindowStatus
  timezone : String := ""
  reason : String := ""
  overrunAt : Option Time := none
  closedAt : Option Time := none
  updatedBy : Option String := none

/-- `FreezeRule`. -/
structure FreezeRule where
  organization : ℕ
  name : String
  description : String := ""
  isActive : Bool := true
  behavior : FreezeBehavior
  startsAt : Time
  endsAt : Time
  scopeType : FreezeScope
  targetType : String := ""
  targetIdentifier : String := ""
  normalizedIdentifier : String := ""
  requiresExceptionReference : Bool := false
  createdBy : Option String := none
  updatedBy : Option String := none

/-- `TargetLock`. -/
structure TargetLock where
  organization : ℕ
  changeRecord : ℕ
  execution : ℕ
  changeTarget : ℕ
  targetType : String
  targetIdentifier : String
  normalizedIdentifier : String
  status : LockStatus := .active
  acquiredAt : Time
  releasedAt : Option Time := none
  releaseReason : String := ""

/-- One entry of the `checks` column of a preflight. -/
structure GateCheck where
  name : String
  ok : Bool
  detail : String
  /-- The further fields of the entry. -/
  refs : List (String × String) := []
  deriving DecidableEq

/-- One entry of the `conflicts` column of a preflight. -/
inductive GateConflict where
  | freezeRule (id : ℕ) (name : String) (behavior : FreezeBehavior) (scopeType : FreezeScope)
  | targetLock (id : ℕ) (targetType targetIdentifier : String) (changeRecord : ℕ)
      (acquiredAt : Time)
  | verificationPlan (reason : String) (plan : Option ℕ)
  deriving DecidableEq

/-- `DispatchEligibilityCheck`. -/
structure DispatchEligibilityCheck where
  organization : ℕ
  changeRecord : ℕ
  requestedBy : Option String
  result : PreflightResult
  checkedAt : Time
  expiresAt : Time
  approvedStatusOk : Bool
  policyPassOk : Bool
  windowOpenOk : Bool
  freezeConflictsOk : Bool
  targetLocksOk : Bool
  actorAuthorizedOk : Bool
  verificationPlanOk : Bool
  runnerPoolOk : Option Bool
  runnerPoolKey : String := ""
  runnerPoolId : String := ""
  runnerPoolReason : String := ""
  checks : List GateCheck
  conflicts : List GateConflict
  inputSnapshotSha256 : String
  windowSnapshotSha256 : String := ""

/-- `ChangeException`. -/
structure ChangeException where
  organization : ℕ
  changeRecord : ℕ
  exceptionType : ExceptionType
  status : ExceptionStatus := .pendingApproval
  reason : String
  scopeJson : Json
  requestedBy : Option String
  requestedAt : Time
  approvalRequest : Option ℕ := none
  approvedBy : Option String := none
  approvedAt : Option Time := none
  rejectedAt : Option Time := none
  expiresAt : Time
  resolvedAt : Option Time := none
  resolutionNote : String := ""

/-- The columns of an exception that no service saves again. -/
def ChangeException.identity (exc : ChangeException) :
    ℕ × ℕ × ExceptionType × Time × Option String :=
  (exc.organization, exc.changeRecord, exc.exceptionType, exc.expiresAt, exc.requestedBy)

/-- An exception may become `later`: it keeps its identity, and once it is not pending it
never is again. -/
structure ChangeException.Evolves (exc later : ChangeException) : Prop where
  identity : later.identity = exc.identity
  decided : exc.status ≠ .pendingApproval → later.status ≠ .pendingApproval

theorem ChangeException.Evolves.refl (exc : ChangeException) : exc.Evolves exc :=
  ⟨rfl, id⟩

theorem ChangeException.Evolves.trans {a b c : ChangeException} (h1 : a.Evolves b)
    (h2 : b.Evolves c) : a.Evolves c :=
  ⟨h2.identity.trans h1.identity, fun h => h2.decided (h1.decided h)⟩

/-- `BreakglassSession`. -/
structure BreakglassSession where
  organization : ℕ
  changeRecord : ℕ
  status : SessionStatus := .active
  scopeJson : Json
  scopeSha256 : String
  reason : String
  activatedBy : Option String
  startedAt : Time
  expiresAt : Time
  endedAt : Option Time := none
  endedBy : Option String := none
  endReason : String := ""
  reviewDueAt : Time
  reviewStatus : ReviewStatus := .pending
  lastHeartbeatAt : Option Time := none

/-- The columns of a session that no service saves again. -/
def BreakglassSession.identity (session : BreakglassSession) : ℕ × ℕ × Json × Time × Time :=
  (session.organization, session.changeRecord, session.scopeJson, session.expiresAt,
    session.reviewDueAt)

/-- A session may become `later`: it keeps its identity, and once it is over it never is
active again. -/
structure BreakglassSession.Evolves (session later : BreakglassSession) : Prop where
  identity : later.identity = session.identity
  active : later.status = .active → session.status = .active

theorem BreakglassSession.Evolves.refl (session : BreakglassSession) : session.Evolves session :=
  ⟨rfl, id⟩

theorem BreakglassSession.Evolves.trans {a b c : BreakglassSession} (h1 : a.Evolves b)
    (h2 : b.Evolves c) : a.Evolves c :=
  ⟨h2.identity.trans h1.identity, h1.active ∘ h2.active⟩

theorem BreakglassSession.Evolves.expiresAt {a b : BreakglassSession} (h : a.Evolves b) :
    b.expiresAt = a.expiresAt := by
  have hid := h.identity
  simp only [BreakglassSession.identity, Prod.mk.injEq] at hid
  exact hid.2.2.2.1

/-- A session may become `later` until `now`: a submitted review stays submitted, unless the
session is active beyond its end. -/
structure BreakglassSession.Reviewed (now : Time) (session later : BreakglassSession) : Prop where
  evolves : session.Evolves later
  submitted : session.reviewStatus = .submitted →
    later.reviewStatus = .submitted ∨ session.status = .active ∧ session.expiresAt ≤ now

theorem BreakglassSession.Reviewed.refl {now : Time} (session : BreakglassSession) :
    session.Reviewed now session :=
  ⟨.refl session, .inl⟩

theorem BreakglassSession.Reviewed.trans {now now' : Time} {a b c : BreakglassSession}
    (h1 : a.Reviewed now b) (h2 : b.Reviewed now' c) (hnow : now ≤ now') : a.Reviewed now' c := by
  refine ⟨h1.evolves.trans h2.evolves, fun ha => ?_⟩
  rcases h1.submitted ha with hb | ⟨hactive, hover⟩
  · rcases h2.submitted hb with hc | ⟨hactive, hover⟩
    · exact .inl hc
    · exact .inr ⟨h1.evolves.active hactive, h1.evolves.expiresAt ▸ hover⟩
  · exact .inr ⟨hactive, hover.trans hnow⟩

/-- `RetroReview`. -/
structure RetroReview where
  organization : ℕ
  changeRecord : ℕ
  breakglassSession : Option ℕ := none
  changeException : Option ℕ := none
  status : RetroStatus := .pending
  disposition : Option Disposition := none
  reviewedBy : Option String := none
  reviewedAt : Option Time := none
  dueAt : Time
  summary : String := ""
  remediationRequired : Bool := false
  remediationReference : String := ""
  controlFailureCategory : Json := .str ""
  evidenceJson : Json := .obj []

-- ════════════════════════════════════════════════════════════════════════
-- Executions, approvals, policies, runners, artifacts, audit
-- ════════════════════════════════════════════════════════════════════════

/-- `Execution`. -/
structure Execution where
  organization : ℕ
  workflow : ℕ
  workflowVersion : ℕ
  workflowSnapshot : Json
  workflowSnapshotHashSha256 : String := ""
  executionMode : ExecutionMode := .live
  status : ExecutionStatus := .queued
  startedAt : Option Time := none
  finishedAt : Option Time := none
  claimedByRunnerId : String := ""
  claimToken : Option String := none
  claimedAt : Option Time := none
  lastHeartbeatAt : Option Time := none
  runnerPoolKey : String := ""
  cancelRequestedAt : Option Time := none
  cancelRequestedBy : String := ""
  cancelReason : String := ""

/-- The sandbox columns of `ExecutionStep`, reported with a terminal status. -/
structure SandboxResult where
  failureKind : String := ""
  timedOut : Bool := false
  cancelled : Bool := false
  sandboxProvider : String := ""
  sandboxRunId : String := ""
  commandSha256 : String := ""
  resultMetadata : Json := .obj []

/-- `ExecutionStep`. -/
structure ExecutionStep where
  execution : ℕ
  position : ℕ
  stepKey : String
  name : String
  stepType : String := ""
  riskLevel : String := ""
  command : String := ""
  requiresApproval : Bool := false
  stepSnapshot : Json := .obj []
  status : StepStatus := .pending
  startedAt : Option Time := none
  finishedAt : Option Time := none
  exitCode : Option ℤ := none
  errorMessage : String := ""
  sandbox : SandboxResult := {}

/-- The columns of a step that no service saves again. -/
def ExecutionStep.identity (step : ExecutionStep) : ℕ × String × Bool × Json :=
  (step.execution, step.stepKey, step.requiresApproval, step.stepSnapshot)

/-- A step may become `later`: it keeps its identity, and its status once that is
`SUCCEEDED` or `SKIPPED`. -/
structure ExecutionStep.Evolves (step later : ExecutionStep) : Prop where
  identity : later.identity = step.identity
  final : step.status.isDone = true → later.status = step.status

theorem ExecutionStep.Evolves.refl (step : ExecutionStep) : step.Evolves step :=
  ⟨rfl, fun _ => rfl⟩

theorem ExecutionStep.Evolves.trans {a b c : ExecutionStep} (h1 : a.Evolves b)
    (h2 : b.Evolves c) : a.Evolves c := by
  refine ⟨h2.identity.trans h1.identity, fun h => ?_⟩
  have hb := h1.final h
  rw [h2.final (hb ▸ h), hb]

/-- `ApprovalRequest`. -/
structure ApprovalRequest where
  organization : ℕ
  subjectType : SubjectType
  subjectId : ℕ
  execution : Option ℕ := none
  step : Option ℕ := none
  status : ApprovalStatus := .pending
  requestedByRunnerId : String := ""
  requestedAt : Time
  timeoutSeconds : Option ℕ := none
  expiresAt : Option Time := none
  resolvedAt : Option Time := none

/-- The columns of a request that no service saves again. -/
def ApprovalRequest.identity (request : ApprovalRequest) :
    SubjectType × ℕ × Option ℕ × Option Time :=
  (request.subjectType, request.subjectId, request.step, request.expiresAt)

/-- A request may become `later`: it keeps its identity, and its status once that is
decided. -/
structure ApprovalRequest.Evolves (request later : ApprovalRequest) : Prop where
  identity : later.identity = request.identity
  decided : request.status ≠ .pending → later.status = request.status

theorem ApprovalRequest.Evolves.refl (request : ApprovalRequest) : request.Evolves request :=
  ⟨rfl, fun _ => rfl⟩

theorem ApprovalRequest.Evolves.trans {a b c : ApprovalRequest} (h1 : a.Evolves b)
    (h2 : b.Evolves c) : a.Evolves c := by
  refine ⟨h2.identity.trans h1.identity, fun h => ?_⟩
  have hb := h1.decided h
  rw [h2.decided (hb ▸ h), hb]

/-- `ApprovalDecision`. -/
structure ApprovalDecision where
  approvalRequest : ℕ
  decision : ApprovalStatus
  human : Bool
  decidedByUser : Option String := none
  decidedByLabel : String := ""
  decidedByLabelSource : String := ""
  notes : String := ""
  decidedAt : Time

/-- `PolicyEvaluation`. -/
structure PolicyEvaluation where
  organization : ℕ
  execution : ℕ
  step : ℕ
  policy : Option ℕ
  rule : Option ℕ
  matched : Bool
  outcome : PolicyOutcome
  effectiveOutcome : PolicyOutcome
  decisionFromRule : Bool
  reason : String
  errorCode : String := ""
  errorMessage : String := ""
  evaluatedAt : Time

/-- `ExecutionLease`. -/
structure ExecutionLease where
  execution : ℕ
  organization : ℕ
  runner : String
  pool : ℕ
  status : LeaseStatus := .active
  claimedAt : Time
  lastHeartbeatAt : Option Time := none
  releasedAt : Option Time := none
  releaseReason : String := ""

/-- `Artifact`. -/
structure Artifact where
  organization : ℕ
  execution : ℕ
  step : Option ℕ
  kind : ArtifactKind
  name : String
  sizeBytes : ℕ
  checksumSha256 : String
  uploadedByRunnerId : String
  uploadStatus : UploadStatus
  uploadedAt : Time

/-- The kinds of object an audit event is about. -/
inductive ObjectType where
  | execution | executionStep | approvalRequest | approvalDecision | policyEvaluation | artifact
  | changeRecord | changeExecutionBinding | changeWindow | freezeRule | targetLock
  | dispatchEligibilityCheck | changeException | breakglassSession | retroReview
  deriving DecidableEq

/-- `AuditEvent`, with the before and after values of a status change. -/
structure AuditEvent where
  organization : ℕ
  actor : AuditActor
  eventType : String
  objectType : ObjectType
  objectId : ℕ
  previousStatus : String := ""
  newStatus : String := ""

/-- The types of the events that report a new status of a change. -/
def statusEventTypes : List String := ["change.status_changed", "change.approval_invalidated"]

/-- The event reports a new status of a change. -/
def AuditEvent.isStatusEvent (event : AuditEvent) : Bool := event.eventType ∈ statusEventTypes

end RunbookPlatform
