import RunbookPlatform.Approvals.Requests

/-!
# Submission and approval of changes

## Main definitions

- `submitChangeRecord` — freeze the request and ask for approval, or go on to dispatch
- `handleChangeApprovalDecision`, `timeOutChangeApproval` — the callback of an approval decision
-/

namespace RunbookPlatform

open Transactional

set_option synthInstance.maxSize 1000

/-- The columns that a submission freezes. -/
structure FrozenRequest where
  requestedInputsSha256 : String
  requestSnapshot : Json
  requestSnapshotSha256 : String
  operationProfileKeySnapshot : String
  workflowVersionSnapshot : ℕ
  workflowDefinitionSha256 : String
  submittedAt : Time
  submittedBy : Option String

/-- Save the frozen columns. -/
def FrozenRequest.apply (frozen : FrozenRequest) (change : ChangeRecord) : ChangeRecord :=
  { change with
    requestedInputsSha256 := frozen.requestedInputsSha256
    requestSnapshot := frozen.requestSnapshot
    requestSnapshotSha256 := frozen.requestSnapshotSha256
    operationProfileKeySnapshot := frozen.operationProfileKeySnapshot
    workflowVersionSnapshot := some frozen.workflowVersionSnapshot
    workflowDefinitionSha256 := frozen.workflowDefinitionSha256
    submittedAt := some frozen.submittedAt
    submittedBy := frozen.submittedBy.or change.submittedBy }

/-- The guards of `submit_change_record` and the columns it freezes, with the profile. -/
def freezeRequest (env : Env) (change : ℕ) (row : ChangeRecord) (actor : AuditActor) :
    Read (OperationProfile × FrozenRequest) := do
  ensure (row.status = .draft) <| .transition "invalid_state_transition"
    s!"Cannot submit change with status '{row.status.value}', expected 'draft'."
  let profile ← lookup (·.reference.profiles) "OperationProfile" row.operationProfile
  ensure profile.isActive <| .conflict "change_profile_inactive"
    s!"Operation profile '{profile.key}' is no longer active."
  let workflow ← lookup (·.reference.workflows) "Workflow" row.workflow
  ensure (workflow.organization = row.organization) <|
    .validation "workflow_organization_mismatch"
      "Workflow organization does not match the change organization."
  ensure (profile.organization = row.organization) <|
    .validation "operation_profile_organization_mismatch"
      "Operation profile organization does not match the change organization."
  ensure (row.workflow ∈ profile.allowedWorkflows) <|
    .validation "workflow_not_allowlisted_for_profile"
      "Workflow is no longer allowlisted for this profile."
  ensure (workflow.status = .published) <| .validation "workflow_not_published"
    s!"Workflow must be published (current: '{workflow.status.value}')."
  ensure (strip row.justification ≠ "") <| .validation "change_requires_justification"
    "Justification is required to submit a change."
  let targets ← select (targetsOf change)
  validateRequestedInputs env (row.requestedInputs.orElse (.obj [])) profile
  validateTargets env (targets.map fun t =>
    { environment := t.row.environment, targetType := t.row.targetType
      targetIdentifier := t.row.targetIdentifier, metadata := t.row.metadata }) profile
  let now ← timezoneNow
  let snapshot := buildRequestSnapshot env ⟨change, row⟩ (targets.map (·.row)) now
    (some ⟨row.operationProfile, profile⟩) (some ⟨row.workflow, workflow⟩)
  pure (profile,
    { requestedInputsSha256 := sha256CanonicalJson env row.requestedInputs
      requestSnapshot := snapshot
      requestSnapshotSha256 := sha256CanonicalJson env snapshot
      operationProfileKeySnapshot := profile.key
      workflowVersionSnapshot := workflow.version
      workflowDefinitionSha256 :=
        sha256CanonicalJson env (workflow.definition.orElse (.obj []))
      submittedAt := now
      submittedBy := actor.userId? })

/-- The cells of a submission. -/
@[reducible] def submissionCells : List Cell :=
  [.changes, .changeApproval, .changeDossier, .changeStatus .draft, .changeStatus .pendingApproval,
    .changeStatus .approved,
    .changeStatus .scheduled, .changeStatus .dispatchable,
    .bindings, .targetLocks, .executions, .executionStatus .queued, .steps, .plans, .checks,
    .exceptions, .sessions, .preflights, .approvals, .audit, .statusEvents]

/-- `submit_change_record`. -/
def submitChangeRecord (env : Env) (change : ℕ) (actor : AuditActor) (nonce : String) :
    Service submissionCells Unit := do
  let row ← lookup Db.changes "ChangeRecord" change
  let (profile, frozen) ← freezeRequest env change row actor
  emit row.organization actor "change.submitted" .changeRecord change
  if profile.requiresApproval then
    let request ← createChangeApprovalRequest change row.organization profile.approvalTtlSeconds
      actor
    let _ ← transitionChange change .pendingApproval actor frozen.submittedAt
    linkChange change fun c => { frozen.apply c with approvalRequest := some request }
    emit row.organization actor "change.approval_bound" .changeRecord change
  else
    let _ ← transitionChange change .approved actor frozen.submittedAt
    updateDossier change frozen.apply
    scheduleOrMakeDispatchable env change actor nonce

/-- The change an approval request belongs to, with its key. -/
def changeOfApproval? (request : ℕ) (s : Db) : Option (ℕ × ChangeRecord) :=
  s.changes.find? fun _ c => c.approvalRequest = some request

/-- The cells of a decision about a change. -/
@[reducible] def changeDecisionCells : List Cell :=
  [.changes, .changeStatus .draft, .changeStatus .pendingApproval, .changeStatus .approved,
    .changeStatus .rejected, .changeStatus .expired, .changeStatus .scheduled,
    .changeStatus .dispatchable, .bindings, .targetLocks, .executions, .executionStatus .queued,
    .steps, .plans, .checks, .exceptions, .sessions, .preflights, .audit, .statusEvents]

/-- The guards of `handle_change_approval_decision`. Returns the change. -/
def undecidedChange (env : Env) (request : ℕ) (decision : ApprovalStatus) : Read ℕ := do
  let found ← select (changeOfApproval? request)
  let (change, row) ← expect found <| .validation "change_approval_decision_orphaned"
    s!"No ChangeRecord found for approval_request_id={request} (decision={decision.value}). Approval decision rolled back to preserve consistency."
  ensure (row.status = .pendingApproval) <| .transition "change_approval_state_conflict"
    s!"ChangeRecord {change} is in status '{row.status.value}', expected 'pending_approval' (decision={decision.value}). Approval decision rolled back to prevent approval/change divergence."
  validateRequestIntegrity env change
  pure change

/-- The decided change waits for this request. -/
theorem undecidedChange_ok {env : Env} {request : ℕ} {decision : ApprovalStatus} {s : Db}
    {change : ℕ} (h : undecidedChange env request decision s = .ok change) :
    ∃ row, s.changes.get? change = some row ∧ row.approvalRequest = some request ∧
      row.status = .pendingApproval := by
  simp only [undecidedChange, Query.bind_ok, select_ok, expect_ok, ensure_ok] at h
  obtain ⟨found, hfound, ⟨i, row⟩, rfl, -, hstatus, -, -, hi⟩ := h
  cases hi
  obtain ⟨hrow, hrequest⟩ := Table.find?_some hfound
  exact ⟨row, hrow, by simpa using hrequest, hstatus⟩

/-- `handle_change_approval_decision` for a request that timed out. Its guards leave only a
pending change to expire. -/
def timeOutChangeApproval (env : Env) (request : ℕ) (actor : AuditActor) :
    Service [.audit, .statusEvents, .changes, .changeStatus .expired, .changeStatus .pendingApproval] Unit :=
  Tx.narrow (V := transitionCells .expired)
    (do
      let change ← undecidedChange env request .timedOut
      let now ← timezoneNow
      let _ ← transitionChange change .expired actor now "approval_timed_out")
    fun s _ s' h c hc => by
      simp only [Tx.bind_ok, Tx.lift_query_ok, Tx.run_pure, Except.ok.injEq, Prod.mk.injEq] at h
      obtain ⟨change, _, ⟨hchange, rfl⟩, now, _, ⟨-, rfl⟩, old, _, hmove, -, rfl⟩ := h
      obtain ⟨row, hrow, -, hpending⟩ := undecidedChange_ok hchange
      obtain ⟨row', hrow', hold, -⟩ := transitionChange_ok.1 hmove
      rw [hrow] at hrow'
      cases hrow'
      rw [hpending] at hold
      exact transitionChange_agree hmove (hold ▸ hc)

/-- `handle_change_approval_decision` for a human decision. -/
def handleChangeApprovalDecision (env : Env) (request : ℕ) (decision : HumanDecision)
    (actor : AuditActor) (nonce : String) : Service changeDecisionCells Unit := do
  let change ← undecidedChange env request decision.status
  let now ← timezoneNow
  match decision with
  | .approved =>
    let _ ← transitionChange change .approved actor now
    scheduleOrMakeDispatchable env change actor nonce
  | .rejected =>
    let _ ← transitionChange change .rejected actor now "approval_rejected"

end RunbookPlatform
