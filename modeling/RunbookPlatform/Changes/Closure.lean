import RunbookPlatform.Changes.Verification

/-!
# Closure

A change ends through `close_change`, which writes the closure record, or through
`handle_bound_execution_completed`, the hook that runs when its execution does. Only
the first releases the target locks.

## Main definitions

- `assertRetroReviewsAllowClosure`, `closeChange`
- `handleBoundExecutionCompleted`
-/

namespace RunbookPlatform

open Transactional

set_option synthInstance.maxSize 1000

/-- The reviews of a change that block its closure. -/
def closureBlockers (reviews : List RetroReview) : List RetroReview :=
  reviews.filter fun review =>
    match review.status with
    | .pending => true
    | .submitted =>
      (review.disposition = some .needsRemediation ||
        review.disposition = some .controlFailure) &&
          strip review.remediationReference == ""
    | .superseded => false

/-- `assert_retro_reviews_allow_closure`. The audit event of a blocked closure is
rolled back with the closure. -/
def assertRetroReviewsAllowClosure (change : ℕ) (row : ChangeRecord) : Read Unit := do
  if row.retroReviewRequired then
    let reviews ← select fun s => rowsWhere s.retroReviews (·.changeRecord = change)
    ensure (closureBlockers (reviews.map (·.row)) = []) <|
      .conflict "retro_review_blocking_closure"
        "Change closure is blocked by pending or unresolved retro-reviews."

/-- The arguments of `close_change`. -/
structure CloseRequest where
  change : ℕ
  outcome : String
  summary : String
  closedBy : Option String := none
  independentReviewer : Option String := none

/-- The conditions of `close_change` on the change's status and its required checks. -/
def checkClosure (row : ChangeRecord) (outcome : ClosureOutcome)
    (checks : List VerificationCheck) : Read Unit := do
  let required := checks.filter (·.required)
  if outcome = .success then
    ensure (row.status = .verified) <| .transition "change_not_verified"
      "Successful closure requires a verified change."
    ensure (∀ check ∈ required, check.status ≠ .failed) <|
      .conflict "change_closure_required_checks_failed"
        "Successful closure is blocked by failed required checks."
    ensure (∀ check ∈ required, check.status = .passed) <|
      .conflict "change_closure_required_checks_unmet"
        "Successful closure is blocked by unmet required checks."
  else
    ensure (row.status = .verificationFailed ∨ row.status = .running) <|
      .transition "change_closure_invalid_state"
        "Non-success closure is only allowed for running or verification-failed changes."

/-- The cells of a closure. -/
@[reducible] def closureCells : List Cell :=
  [.changes, .changeStatus .closed, .changeStatus .running, .changeStatus .verified,
    .changeStatus .verificationFailed, .closures, .targetLocks, .exceptions, .sessions, .audit, .statusEvents]

/-- The transaction of `close_change`. -/
def closeChangeTx (req : CloseRequest) (outcome : ClosureOutcome) (actor : AuditActor) :
    Service closureCells Unit := do
  let row ← lookup Db.changes "ChangeRecord" req.change
  (sweepEmergency req.change).widen
  let closed ← select fun s => (s.closures.find? fun _ c => c.changeRecord = req.change).isSome
  ensure (closed = false) <| .conflict "change_already_closed"
    "Change already has an immutable closure record."
  assertRetroReviewsAllowClosure req.change row
  let found ← select (planOf? req.change)
  let (plan, _) ← expect found <| .conflict "verification_plan_missing"
    "Change closure requires a verification plan."
  let checks ← select (checksOf plan)
  checkClosure row outcome (checks.map (·.row))
  let now ← timezoneNow
  let locksReleased ← releaseActiveTargetLocks req.change row.organization now actor "change_closed"
  (endSessions req.change "change_closed" actor).widen
  let _ ← insertUnique Rel.closures (·.changeRecord = req.change)
    { organization := row.organization
      changeRecord := req.change
      outcome
      closedBy := req.closedBy
      independentReviewer := req.independentReviewer
      summary := strip req.summary
      verificationPlan := plan
      locksReleased
      closedAt := now }
  let _ ← transitionChange req.change .closed actor now
  emit row.organization actor "change.closed" .changeRecord req.change

/-- `close_change`. -/
def closeChange (req : CloseRequest) (actor : AuditActor) : Handler closureCells Unit := do
  let outcome ← Prog.read <| expect (ClosureOutcome.ofValue? req.outcome) <|
    .validation "change_closure_outcome_invalid"
      s!"Unknown change closure outcome '{req.outcome}'."
  Prog.read <| ensure (strip req.summary ≠ "") <|
    .validation "change_closure_summary_required" "Closure summary is required."
  Prog.atomic (.closeChange req.change) (closeChangeTx req outcome actor)

-- ════════════════════════════════════════════════════════════════════════
-- The completion hook
-- ════════════════════════════════════════════════════════════════════════

/-- The cells of the completion hook. -/
@[reducible] def completionCells : List Cell :=
  [.changes, .changeStatus .expired, .changeStatus .dispatchable, .changeStatus .closed,
    .changeStatus .running,
    .changeStatus .verified, .changeStatus .verificationFailed,
    .changeStatus .verificationPending, .plans, .sessions, .audit, .statusEvents]

/-- `request_integrity` as a truth value; other failures pass through. -/
def requestIntegrityHolds (env : Env) (change : ℕ) : Read Bool := fun s =>
  match validateRequestIntegrity env change s with
  | .ok _ => .ok true
  | .error e => if e.kind = .invalidStateTransition then .ok false else .error e

/-- How a change follows its execution out of `RUNNING`. -/
def settleRunningChange (env : Env) (change : ℕ) (row : ChangeRecord)
    (executionStatus : ExecutionStatus) : Service completionCells Unit := do
  let now ← timezoneNow
  let intact ← requestIntegrityHolds env change
  if intact = false then
    let _ ← transitionChange change .closed changeService now "request_integrity_mismatch"
  else
    let profile ← lookup (·.reference.profiles) "OperationProfile" row.operationProfile
    let reason :=
      match executionStatus with
      | .succeeded => "execution_finished"
      | .cancelled => "execution_cancelled"
      | _ => "execution_failed"
    (endSessions change reason changeService).widen
    if executionStatus = .succeeded then
      if profile.verificationRequired then
        let _ ← transitionChange change .verificationPending changeService now
        recomputeVerificationState change changeService
      else
        let _ ← transitionChange change .closed changeService now "execution_succeeded"
    else
      let _ ← transitionChange change .closed changeService now reason

/-- The transaction of `handle_bound_execution_completed`. -/
def settleBoundChange (env : Env) (change : ℕ) (executionStatus : ExecutionStatus) :
    Service completionCells Unit := do
  let row ← lookup Db.changes "ChangeRecord" change
  if row.status = .dispatchable then
    let now ← timezoneNow
    expireDispatchableChange change now "execution_failed_before_binding"
  else if row.status = .running then
    settleRunningChange env change row executionStatus

/-- `handle_bound_execution_completed`, with the status of the execution object. -/
def handleBoundExecutionCompleted (env : Env) (execution : ℕ)
    (executionStatus : ExecutionStatus) : Handler completionCells Unit := do
  match ← Prog.read (select (bindingOf? execution)) with
  | none => pure ()
  | some (_, binding) =>
    Prog.atomic (.completionHook binding.changeRecord)
      (settleBoundChange env binding.changeRecord executionStatus)

end RunbookPlatform
