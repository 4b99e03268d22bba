import RunbookPlatform.Changes.Breakglass

/-!
# Executions

The services that move executions and their steps. A runner reports steps and the
completion of an execution; the watchdog fails executions whose heartbeat is stale or
whose approval timed out; an operator cancels.

## Main definitions

- `cancelExecution`, `heartbeatExecution`
- `updateExecutionStep` — the step transitions, with their two tables
- `completeExecution`, `recoverStuckExecutions`, `failExecutionForApprovalTimeout`
-/

namespace RunbookPlatform

open Transactional

set_option synthInstance.maxSize 1000

/-- What the internal serializers let through of a runner's identity: a `CharField` is
not blank, and the text of a `UUIDField` is not that of a missing token. -/
structure RunnerCall where
  runnerId : String
  claimToken : String
  runnerId_ne : runnerId ≠ ""
  claimToken_ne : claimToken ≠ "None"

/-- The cells of a cancellation. -/
@[reducible] def cancelCells : List Cell :=
  [.executions, .executionStatus .cancelled, .executionStatus .queued, .audit]

theorem cancelled_reports : "execution.cancelled" ∉ statusEventTypes := by
  simp [statusEventTypes]

/-- `cancel_execution`: a queued execution is over at once, an active one is asked to stop. -/
def cancelExecution (execution : ℕ) (actor : AuditActor) : Service cancelCells Unit := do
  let e ← lookup Db.executions "Execution" execution
  if e.status = .queued then
    moveExecution (W := cancelCells) execution [.queued] .cancelled fun e => e
    emit e.organization actor "execution.cancelled" .execution execution
      e.status.value ExecutionStatus.cancelled.value cancelled_reports
  else if e.status = .claimed ∨ e.status = .running then
    let now ← timezoneNow
    let requestedBy :=
      if actor.actorLabel ≠ "" then actor.actorLabel
      else if actor.actorId ≠ "" then actor.actorId else "system"
    updateExecution execution fun e =>
      { e with cancelRequestedAt := some now, cancelRequestedBy := requestedBy }
    emit e.organization actor "execution.cancel_requested" .execution execution
  else
    raise (.transition "invalid_state_transition"
      s!"Cannot cancel execution with status '{e.status.value}'.")

/-- `heartbeat_execution`, on the execution object the view loaded. -/
def heartbeatExecution (execution : ℕ) (call : RunnerCall) :
    Handler (.executions :: sweepCells) Unit := do
  let e ← Prog.read (lookup Db.executions "Execution" execution)
  Prog.read do
    ensure (e.status = .claimed ∨ e.status = .running) <| .transition "invalid_state_transition"
      s!"Cannot heartbeat execution with status '{e.status.value}'."
    validateRunnerOwnership e call.runnerId call.claimToken
  enforceEmergencyExpiryForExecution execution
  let now ← Prog.read timezoneNow
  Prog.atomic (.heartbeat execution) ((updateExecution execution fun e =>
    { e with lastHeartbeatAt := some now }) : Service [.executions] Unit)

-- ════════════════════════════════════════════════════════════════════════
-- Steps
-- ════════════════════════════════════════════════════════════════════════

/-- `_VALID_STEP_TRANSITIONS`. -/
def StepStatus.transitions : StepStatus → List StepStatus
  | .pending | .waitingForApproval => [.failed]
  | .running => [.succeeded, .failed]
  | _ => []

/-- `_VALID_STEP_START_TRANSITIONS`. -/
def StepStatus.startTransitions : StepStatus → List StepStatus
  | .pending | .waitingForApproval => [.running, .failed]
  | _ => []

/-- The arguments of `update_execution_step` besides the step. -/
structure StepUpdate where
  newStatus : StepStatus
  startedAt : Option Time := none
  finishedAt : Option Time := none
  exitCode : Option ℤ := none
  errorMessage : String := ""
  sandbox : SandboxResult := {}

/-- The columns that `update_execution_step` saves. -/
def StepUpdate.apply (update : StepUpdate) (now : Time) (step : ExecutionStep) : ExecutionStep :=
  let step := { step with status := update.newStatus }
  if update.newStatus = .running then
    { step with startedAt := some (update.startedAt.getD now) }
  else if update.newStatus = .succeeded ∨ update.newStatus = .failed then
    { step with
      finishedAt := some (update.finishedAt.getD now)
      exitCode := update.exitCode.or step.exitCode
      errorMessage := if update.errorMessage ≠ "" then update.errorMessage else step.errorMessage
      sandbox := update.sandbox }
  else step

@[simp] theorem StepUpdate.apply_status (update : StepUpdate) (now : Time)
    (step : ExecutionStep) : (update.apply now step).status = update.newStatus := by
  unfold StepUpdate.apply
  dsimp only
  split_ifs <;> rfl

theorem StepUpdate.apply_identity (update : StepUpdate) (now : Time) (step : ExecutionStep) :
    (update.apply now step).identity = step.identity := by
  unfold StepUpdate.apply
  dsimp only
  split_ifs <;> rfl

/-- The event types of `_emit_step_transition_audit`. -/
def stepEventType? : StepStatus → Option String
  | .waitingForApproval => some "execution_step.waiting_for_approval"
  | .running => some "execution_step.started"
  | .succeeded => some "execution_step.succeeded"
  | .failed => some "execution_step.failed"
  | _ => none

theorem stepEventType?_reports {status : StepStatus} {eventType : String}
    (h : stepEventType? status = some eventType) : eventType ∉ statusEventTypes := by
  cases status <;> simp only [stepEventType?, Option.some.injEq, reduceCtorEq] at h
  all_goals
    subst h
    simp [statusEventTypes]

/-- `_emit_step_transition_audit`. -/
def emitStepTransition (organization step : ℕ) (runnerId : String)
    (previousStatus newStatus : StepStatus) : Service [.audit] Unit := do
  match h : stepEventType? newStatus with
  | some eventType =>
    emit organization (runnerActor runnerId) eventType .executionStep step
      previousStatus.value newStatus.value (stepEventType?_reports h)
  | none => pure ()

/-- The cells of a step's update. -/
@[reducible] def stepCells : List Cell :=
  [.steps, .executions, .executionStatus .running, .executionStatus .claimed, .audit]

/-- `update_execution_step`. Nothing in it looks at the status of the execution, except
to start a claimed one. -/
def updateExecutionStep (execution step : ℕ) (call : RunnerCall) (update : StepUpdate)
    (allowRunning : Bool) : Service stepCells Unit := do
  let e ← lookup Db.executions "Execution" execution
  validateRunnerOwnership e call.runnerId call.claimToken
  let found ← select fun s => (s.steps.get? step).filter (·.execution = execution)
  let row ← expect found <| .transition "step_not_found"
    s!"Step {step} not found on execution {execution}."
  let allowed := if allowRunning then row.status.startTransitions else row.status.transitions
  ensure (update.newStatus ∈ allowed) <| .transition "invalid_state_transition"
    s!"Invalid step transition: '{row.status.value}' -> '{update.newStatus.value}'."
  let now ← timezoneNow
  moveStep step [.pending, .waitingForApproval, .running] update.newStatus (update.apply now)
    (update.apply_identity now)
  if e.status = .claimed ∧ update.newStatus = .running then
    moveExecution (W := stepCells) execution [.claimed] .running fun e =>
      { e with startedAt := e.startedAt.or (update.startedAt.or (some now)) }
  emitStepTransition e.organization step call.runnerId row.status update.newStatus

-- ════════════════════════════════════════════════════════════════════════
-- The end of an execution
-- ════════════════════════════════════════════════════════════════════════

/-- The columns that the end of an execution saves, besides its status. -/
def finishExecution (now : Time) (e : Execution) : Execution :=
  { e with finishedAt := some now, startedAt := e.startedAt.or (some now) }

/-- `_COMPLETION` events: what `complete_execution` reports for an outcome. -/
def completionEventType : ExecutionStatus → String
  | .succeeded => "execution.completed"
  | .cancelled => "execution.cancelled"
  | _ => "execution.failed"

theorem completionEventType_reports (outcome : ExecutionStatus) :
    completionEventType outcome ∉ statusEventTypes := by
  cases outcome <;> simp [completionEventType, statusEventTypes]

/-- Release or expire the active lease of an execution. -/
def endActiveLease (execution : ℕ) (status : LeaseStatus) (releaseReason : String) :
    Service [.leases] Unit := do
  let now ← timezoneNow
  updateRows Rel.leases (fun l => l.execution = execution && l.status = .active) fun l =>
    { l with status, releasedAt := some now, releaseReason }

/-- The cells of a completion's transaction. -/
@[reducible] def completeCells : List Cell :=
  [.executions, .executionStatus .succeeded, .executionStatus .failed,
    .executionStatus .cancelled, .executionStatus .claimed, .executionStatus .running,
    .exceptions, .sessions, .audit]

/-- Save the end of an active execution. -/
def endExecution (execution : ℕ) (outcome : ExecutionStatus) (now : Time) :
    Service completeCells Unit :=
  match outcome with
  | .succeeded =>
    moveExecution (W := completeCells) execution [.claimed, .running] .succeeded
      (finishExecution now)
  | .cancelled =>
    moveExecution (W := completeCells) execution [.claimed, .running] .cancelled
      (finishExecution now)
  | _ =>
    moveExecution (W := completeCells) execution [.claimed, .running] .failed
      (finishExecution now)

/-- The transaction of `complete_execution`. No step is looked at. -/
def completeExecutionTx (env : Env) (execution : ℕ) (call : RunnerCall)
    (outcome : ExecutionStatus) : Service completeCells Unit := do
  let e ← lookup Db.executions "Execution" execution
  validateRunnerOwnership e call.runnerId call.claimToken
  ensure (e.status = .claimed ∨ e.status = .running) <| .transition "invalid_state_transition"
    s!"Cannot complete execution with status '{e.status.value}'."
  ensure outcome.isTerminal <| .transition "invalid_state_transition"
    s!"Invalid completion outcome: '{outcome.value}'."
  (bindingReadyTx env ⟨execution, e⟩ call.runnerId call.claimToken).widen
  let now ← timezoneNow
  endExecution execution outcome now
  emit e.organization (runnerActor call.runnerId) (completionEventType outcome) .execution
    execution e.status.value outcome.value (completionEventType_reports outcome)

/-- The cells of a completion and of the hook after it. -/
@[reducible] def completeHandlerCells : List Cell :=
  [.executions, .executionStatus .succeeded, .executionStatus .failed,
    .executionStatus .cancelled, .executionStatus .claimed, .executionStatus .running,
    .exceptions, .sessions, .audit, .statusEvents, .leases, .changes, .changeStatus .expired,
    .changeStatus .dispatchable, .changeStatus .closed, .changeStatus .running, .changeStatus .verified,
    .changeStatus .verificationFailed, .changeStatus .verificationPending, .plans]

instance completeCells_within : Within completeCells completeHandlerCells := ⟨by decide⟩

/-- `complete_execution`: the lease is released and the change settled after the commit; a
failure of the hook is raised again when the execution is bound to a change. -/
def completeExecution (env : Env) (execution : ℕ) (call : RunnerCall)
    (outcome : ExecutionStatus) : Handler completeHandlerCells Unit := do
  Prog.atomic (.completeExecution execution outcome)
    (completeExecutionTx env execution call outcome)
  Prog.atomic .service (endActiveLease execution .released outcome.value)
  (handleBoundExecutionCompleted env execution outcome).widen.tryCatch fun e => do
    let bound ← Prog.read (select fun s => (bindingOf? execution s).isSome)
    if bound then Prog.fail e

-- ════════════════════════════════════════════════════════════════════════
-- The watchdog
-- ════════════════════════════════════════════════════════════════════════

/-- The cells of a recovered execution. -/
@[reducible] def recoverCells : List Cell :=
  [.steps, .executions, .executionStatus .failed, .executionStatus .claimed,
    .executionStatus .running, .audit]

/-- The columns that the watchdog saves on a step. -/
def failStep (now : Time) (errorMessage : String) (step : ExecutionStep) : ExecutionStep :=
  { step with status := .failed, finishedAt := some now, errorMessage }

/-- A claimed or running execution whose heartbeat is older than `staleBefore`. -/
def Execution.isStuck (e : Execution) (staleBefore : Time) : Bool :=
  e.status.isActive && e.lastHeartbeatAt.any (· < staleBefore)

/-- The transaction of `recover_stuck_executions`, for one candidate: the execution and
its running steps fail. Returns whether the candidate was still stuck. -/
def recoverStuckExecution (execution : ℕ) (staleBefore : Time) : Service recoverCells Bool := do
  let found ← select fun s => (s.executions.get? execution).filter (·.isStuck staleBefore)
  match found with
  | none => pure false
  | some e =>
    let now ← timezoneNow
    moveExecution (W := recoverCells) execution [.claimed, .running] .failed (finishExecution now)
    moveSteps (fun step => step.execution = execution) [.running] .failed
      (failStep now "Step marked failed by watchdog: heartbeat timeout")
    emit e.organization (systemActor) "execution.failed" .execution execution
      e.status.value ExecutionStatus.failed.value
    pure true

/-- The cells of the watchdog's sweep. -/
@[reducible] def recoverHandlerCells : List Cell :=
  [.steps, .executions, .executionStatus .failed, .executionStatus .claimed,
    .executionStatus .running, .audit, .statusEvents, .leases, .changes, .changeStatus .expired,
    .changeStatus .dispatchable,
    .changeStatus .closed, .changeStatus .running, .changeStatus .verified,
    .changeStatus .verificationFailed, .changeStatus .verificationPending, .plans, .sessions]

/-- One iteration of `recover_stuck_executions`. -/
def recoverCandidate (env : Env) (staleBefore : Time) (execution : ℕ) :
    Handler recoverHandlerCells Unit := do
  let recovered ← Prog.atomic (.recoverExecution execution staleBefore)
    (recoverStuckExecution execution staleBefore)
  if recovered then
    Prog.atomic .service (endActiveLease execution .expired "heartbeat_timeout")
    (handleBoundExecutionCompleted env execution .failed).widen.tryCatch fun _ => pure ()

/-- `recover_stuck_executions`. -/
def recoverStuckExecutions (env : Env) (stuckThresholdSeconds : ℕ := 300) :
    Handler recoverHandlerCells Unit := do
  let now ← Prog.read timezoneNow
  let staleBefore := now - seconds stuckThresholdSeconds
  let candidates ← Prog.read (select fun s => rowsWhere s.executions (·.isStuck staleBefore))
  Prog.forEach (fun e => recoverCandidate env staleBefore e.id) candidates

/-- The cells of a failure by approval timeout. -/
@[reducible] def timeoutCells : List Cell :=
  [.steps, .executions, .executionStatus .failed, .executionStatus .claimed,
    .executionStatus .running, .audit, .statusEvents, .changes, .changeStatus .expired,
    .changeStatus .dispatchable,
    .changeStatus .closed, .changeStatus .running, .changeStatus .verified,
    .changeStatus .verificationFailed, .changeStatus .verificationPending, .plans, .sessions]

/-- The approval timeout of the step fails its execution. -/
def blockedByTimeout (execution step : ℕ) (s : Db) : Bool :=
  (s.executions.get? execution).any (·.status.isActive) &&
    (s.steps.get? step).any fun st => st.execution = execution && st.status = .waitingForApproval

/-- `fail_execution_for_approval_timeout`, inside the transaction of its caller. The lease
of the execution is not touched. -/
def failExecutionForApprovalTimeout (env : Env) (execution step : ℕ) (now : Time) :
    Service timeoutCells Bool := do
  let e ← lookup Db.executions "Execution" execution
  let found ← select fun s => (s.steps.get? step).filter (·.execution = execution)
  let st ← expect found (.notFound "ExecutionStep")
  if e.status.isActive = false ∨ st.status ≠ .waitingForApproval then
    pure false
  else
    moveStep step [.waitingForApproval] .failed
      (failStep now "Step marked failed by watchdog: approval timeout")
    moveExecution (W := timeoutCells) execution [.claimed, .running] .failed (finishExecution now)
    emit e.organization systemActor "execution_step.failed" .executionStep step
      st.status.value StepStatus.failed.value
    emit e.organization systemActor "execution.failed" .execution execution
      e.status.value ExecutionStatus.failed.value
    emit e.organization systemActor "execution.approval_timeout" .execution execution
      e.status.value ExecutionStatus.failed.value
    Tx.savepoint (Tx.ofProg (handleBoundExecutionCompleted env execution .failed)).widen
      fun _ => pure ()
    pure true

end RunbookPlatform
