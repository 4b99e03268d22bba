import RunbookPlatform.Changes.Dispatch
import RunbookPlatform.Core.Texts

/-!
# Approval requests

Requests for changes and for execution steps. A step has at most one request, and a
request is created together with the step's move to `WAITING_FOR_APPROVAL`.

## Main definitions

- `validateRunnerOwnership` — the check shared by the runner callbacks
- `createChangeApprovalRequest`, `requestStepApproval`
-/

namespace RunbookPlatform

open Transactional

/-- `str(execution.claim_token)`. -/
def claimTokenText (execution : Execution) : String := execution.claimToken.getD "None"

/-- `_validate_runner_ownership`, and `_check_runner_ownership` of the approvals. -/
def validateRunnerOwnership (execution : Execution) (runnerId claimToken : String) :
    Read Unit := do
  ensure (execution.claimedByRunnerId = runnerId) <| .transition "runner_ownership_mismatch"
    "Runner ID does not match execution owner."
  ensure (claimTokenText execution = claimToken) <| .transition "claim_token_mismatch"
    "Claim token is invalid."

/-- `create_change_approval_request`. The organization is the change's own. -/
def createChangeApprovalRequest (change organization : ℕ) (ttlSeconds : Option ℕ)
    (actor : AuditActor) : Service [.approvals, .audit] ℕ := do
  let now ← timezoneNow
  let request ← insertRow Rel.approvals
    { organization
      subjectType := .changeRecord
      subjectId := change
      status := .pending
      requestedAt := now
      timeoutSeconds := ttlSeconds
      expiresAt := ttlSeconds.map fun ttl => now + seconds ttl }
  emit organization actor "approval.requested" .approvalRequest request
  pure request

/-- `int(value)`. -/
def pyInt (value : Json) : Except Err ℤ :=
  match value with
  | .int n => .ok n
  | .bool b => .ok (if b then 1 else 0)
  | .str text =>
    match parseInt text with
    | some n => .ok n
    | none => .error (.uncaught "ValueError")
  | _ => .error (.uncaught "TypeError")

/-- The approval timeout a step's snapshot declares. The column is a positive integer. -/
def approvalTimeout (snapshot : Json) : Except Err (Option ℕ) := do
  let value := snapshot.getD "approvalTimeoutSeconds" .null
  if value = .null then
    pure none
  else
    let n ← pyInt value
    if n < 0 then throw .integrity
    pure (some n.toNat)

/-- The request of a step, with its key. -/
def approvalOf? (step : ℕ) (s : Db) : Option (ℕ × ApprovalRequest) :=
  s.approvals.find? fun _ a => a.step = some step

/-- The columns a resolution saves. The caller has checked that the request is pending. -/
def resolveApproval (status : ApprovalStatus) (now : Time) (request : ApprovalRequest) :
    ApprovalRequest :=
  if request.status = .pending then { request with status, resolvedAt := some now } else request

theorem resolveApproval_evolves (status : ApprovalStatus) (now : Time)
    (request : ApprovalRequest) : request.Evolves (resolveApproval status now request) := by
  unfold resolveApproval
  split_ifs with h
  · exact ⟨rfl, fun hne => absurd h hne⟩
  · exact .refl request

/-- Resolve a request. -/
def resolveRequest (approval : ℕ) (status : ApprovalStatus) (now : Time) :
    Service [.approvals] Unit :=
  updateRow Rel.approvals approval (resolveApproval status now)
    (resolveApproval_evolves status now)

/-- `request_step_approval`. Returns the request and whether it was created. -/
def requestStepApproval (execution step : ℕ) (runnerId claimToken : String)
    (policyDriven : Bool) : Service [.steps, .approvals, .audit] (ℕ × Bool) := do
  let e ← lookup Db.executions "Execution" execution
  let st ← lookup Db.steps "ExecutionStep" step
  ensure (st.execution = execution) <| .transition "step_execution_mismatch"
    "Step does not belong to the given execution."
  validateRunnerOwnership e runnerId claimToken
  let existing ← select (approvalOf? step)
  match st.status, existing with
  | .waitingForApproval, some (request, _) => pure (request, false)
  | status, _ => do
    ensure (status = .pending) <| .transition "invalid_state_transition"
      s!"Cannot create approval request: step status is '{status.value}', expected 'pending'."
    ensure (st.requiresApproval ∨ policyDriven) <| .transition "approval_not_required_for_step"
      "This step does not require approval."
    let now ← timezoneNow
    moveStep step [.pending] .waitingForApproval fun r => r
    let timeoutSeconds ← ofExcept (approvalTimeout st.stepSnapshot)
    let request ← insertUnique Rel.approvals (·.step = some step)
      { organization := e.organization
        subjectType := .executionStep
        subjectId := step
        execution := some execution
        step := some step
        status := .pending
        requestedByRunnerId := runnerId
        requestedAt := now
        timeoutSeconds
        expiresAt := timeoutSeconds.map fun t => now + seconds t }
    emit e.organization (runnerActor runnerId) "execution_step.waiting_for_approval"
      .executionStep step st.status.value StepStatus.waitingForApproval.value
    emit e.organization (runnerActor runnerId) "approval.requested" .approvalRequest request
    pure (request, true)

end RunbookPlatform
