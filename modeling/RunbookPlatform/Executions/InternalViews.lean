import RunbookPlatform.Policies.Evaluation

/-!
# The internal endpoints of runners

Starting a step is decided by policy: the endpoint reads the step without a lock,
evaluates the policies, and then moves the step under a lock. Other requests can commit
between these three.

## Main definitions

- `startStep` — the three parts of a step start
- `pollApproval` — what a runner that waits for an approval asks
- `updateStep`, `completeByRunner`
-/

namespace RunbookPlatform

open Transactional

set_option synthInstance.maxSize 1000

/-- What an active breakglass session says about a gate: there is none, it is open, or the
session does not cover it. -/
inductive BreakglassDecision where
  | closed | allowed | refused
  deriving DecidableEq

/-- `assert_breakglass_allows` for all targets of a change, as a decision. -/
def breakglassDecision (env : Env) (change : ℕ) (gateType action : String) (s : Db) :
    BreakglassDecision :=
  match activeSession? change s with
  | none => .closed
  | some (_, session) =>
    match scopeCovers env session.scopeJson gateType action ((targetsOf change s).map (·.id)) s with
    | .ok _ => .allowed
    | .error _ => .refused

/-- `_breakglass_execution_gate_decision`, after `_change_has_active_breakglass`. Expired
sessions are saved as such, whatever the decision. -/
def breakglassExecutionGate (env : Env) (execution : ℕ) :
    Service [.sessions, .audit] BreakglassDecision := do
  match ← select (bindingOf? execution) with
  | none => pure .closed
  | some (_, binding) =>
    let active ← select (activeSession? binding.changeRecord)
    if active.isSome then
      sweepSessions binding.changeRecord
      select (breakglassDecision env binding.changeRecord "policy_override" "continue_running")
    else pure .closed

/-- Load the execution and check that a change it is bound to is ready. -/
def loadReadyExecution (env : Env) (execution : ℕ) (call : RunnerCall) :
    Handler sweepCells Execution := do
  let e ← Prog.read (lookup Db.executions "Execution" execution)
  assertExecutionChangeBindingReady env ⟨execution, e⟩ call.runnerId call.claimToken
  pure e

/-- `get_object_or_404(ExecutionStep, pk=step, execution=execution)`. -/
def loadStep (execution step : ℕ) : Read ExecutionStep := do
  let found ← select fun s => (s.steps.get? step).filter (·.execution = execution)
  expect found (.notFound "ExecutionStep")

-- ════════════════════════════════════════════════════════════════════════
-- Step start
-- ════════════════════════════════════════════════════════════════════════

/-- The cells of a step start's transaction. -/
@[reducible] def startTxCells : List Cell :=
  [.steps, .approvals, .evaluations, .executions, .executionStatus .running,
    .executionStatus .claimed, .changes, .sessions, .audit]

/-- Move the step to `RUNNING`. -/
def runStep (execution step : ℕ) (call : RunnerCall) : Service startTxCells Unit :=
  (updateExecutionStep execution step call { newStatus := .running } true).widen

/-- Move the step to `FAILED`. -/
def blockStep (execution step : ℕ) (call : RunnerCall) (errorMessage : String)
    (failureKind : String := "") : Service startTxCells Unit :=
  (updateExecutionStep execution step call
    { newStatus := .failed, errorMessage, sandbox := { failureKind } } false).widen

/-- Where an evaluation leads the step. -/
def applyEvaluation (env : Env) (execution step : ℕ) (call : RunnerCall) (found : Evaluated) :
    Service startTxCells Unit := do
  if found.errorCode ≠ "" then
    blockStep execution step call "policy_evaluation_error"
  else
    match found.effectiveOutcome with
    | .autoApprove => runStep execution step call
    | .approvalRequired =>
      match ← (breakglassExecutionGate env execution).widen with
      | .allowed => runStep execution step call
      | .refused => pure ()
      | .closed =>
        let _ ← (requestStepApproval execution step call.runnerId call.claimToken true).widen
    | .block =>
      match ← (breakglassExecutionGate env execution).widen with
      | .allowed => runStep execution step call
      | .refused => pure ()
      | .closed => blockStep execution step call "policy_blocked" "policy_blocked"

/-- The transaction of a step start. The evaluation was read before the row locks were
taken; its row becomes visible with the move of the step. -/
def startStepTx (env : Env) (execution : Loaded Execution) (step : ℕ) (call : RunnerCall)
    (evaluated : Except Err Evaluated) (evaluatedAt : Time) : Service startTxCells Unit := do
  match evaluated with
  | .ok found =>
    let _ ← (persistEvaluation execution step found evaluatedAt).widen
    applyEvaluation env execution.id step call found
  | .error _ =>
    -- the evaluation raised, and storing a failed one raises again
    blockStep execution.id step call "policy_evaluation_error"

/-- The outcome that a step start acts on. -/
def actedOutcome : Except Err Evaluated → PolicyOutcome
  | .ok found => if found.errorCode ≠ "" then .block else found.effectiveOutcome
  | .error _ => .block

/-- The cells of a step start. -/
@[reducible] def startCells : List Cell :=
  [.steps, .approvals, .decisions, .evaluations, .executions, .executionStatus .running,
    .executionStatus .claimed, .changes, .changeStatus .expired, .changeStatus .pendingApproval,
    .exceptions, .exceptionEnds, .sessions, .sessionEnds, .sessionReviews, .audit, .statusEvents]

/-- The part of a step start after the unlocked read of the step. -/
def evaluateAndStart (env : Env) (execution : Loaded Execution) (step : Loaded ExecutionStep)
    (call : RunnerCall) : Handler startCells Unit := do
  let now ← Prog.read timezoneNow
  let evaluated ← Prog.read (select (evaluateStepPolicy env execution step now))
  Prog.atomic (.startStep step.id (actedOutcome evaluated))
    (startStepTx env execution step.id call evaluated now)

/-- `ExecutionStepStartView`. -/
def startStep (env : Env) (execution step : ℕ) (call : RunnerCall) : Handler startCells Unit := do
  let e ← (loadReadyExecution env execution call).widen
  let st ← Prog.read (loadStep execution step)
  let waiting ← Prog.read (select (approvalOf? step))
  match st.status, waiting with
  | .waitingForApproval, some (id, request) =>
    let _ ← (getApprovalStatus env ⟨id, request⟩).widen
  | _, _ => evaluateAndStart env ⟨execution, e⟩ ⟨step, st⟩ call

-- ════════════════════════════════════════════════════════════════════════
-- Approval polls
-- ════════════════════════════════════════════════════════════════════════

/-- The cells of an approval poll's transaction. -/
@[reducible] def pollTxCells : List Cell :=
  [.steps, .approvals, .decisions, .executions, .executionStatus .running,
    .executionStatus .claimed, .changes, .changeStatus .expired, .changeStatus .pendingApproval,
    .sessions, .audit, .statusEvents]

/-- The transaction of an approval poll, with the request object the view loaded. -/
def pollApprovalTx (env : Env) (execution step : ℕ) (call : RunnerCall)
    (approval : Loaded ApprovalRequest) : Service pollTxCells Unit := do
  let request ← (Tx.ofProg (getApprovalStatus env approval)).widen
  match request.status with
  | .pending => pure ()
  | .approved =>
    match ← (breakglassExecutionGate env execution).widen with
    | .refused => pure ()
    | _ => (updateExecutionStep execution step call { newStatus := .running } true).widen
  | .rejected =>
    (updateExecutionStep execution step call
      { newStatus := .failed, errorMessage := "Approval rejected." } false).widen
  | .timedOut =>
    (updateExecutionStep execution step call
      { newStatus := .failed, errorMessage := "Approval timed out." } false).widen

/-- The cells of an approval poll. -/
@[reducible] def pollCells : List Cell :=
  .exceptions :: .exceptionEnds :: .sessionEnds :: .sessionReviews :: pollTxCells

/-- `ApprovalStatusView`. -/
def pollApproval (env : Env) (execution step : ℕ) (call : RunnerCall) :
    Handler pollCells Unit := do
  let e ← (loadReadyExecution env execution call).widen
  Prog.read (validateRunnerOwnership e call.runnerId call.claimToken)
  let st ← Prog.read (loadStep execution step)
  match st.status with
  | .running | .failed => pure ()
  | .waitingForApproval =>
    let found ← Prog.read (select (approvalOf? step))
    let (id, request) ← Prog.read (expect found (.notFound "ApprovalRequest"))
    Prog.atomic (.pollStep step) (pollApprovalTx env execution step call ⟨id, request⟩)
  | status =>
    Prog.fail (.transition "invalid_state_transition"
      s!"Step is not in waiting_for_approval state (current: {status.value}).")

-- ════════════════════════════════════════════════════════════════════════
-- Reports
-- ════════════════════════════════════════════════════════════════════════

/-- The cells of a step's report. -/
@[reducible] def updateStepCells : List Cell :=
  [.steps, .executions, .executionStatus .running, .executionStatus .claimed, .exceptions,
    .exceptionEnds, .sessions, .sessionEnds, .sessionReviews, .audit]

/-- `ExecutionStepUpdateView`. -/
def updateStep (env : Env) (execution step : ℕ) (call : RunnerCall) (update : StepUpdate) :
    Handler updateStepCells Unit := do
  let _ ← (loadReadyExecution env execution call).widen
  Prog.atomic (.updateStep step) (updateExecutionStep execution step call update false)

/-- The cells of a runner's report that the execution is over. -/
@[reducible] def completeViewCells : List Cell :=
  .exceptionEnds :: .sessionEnds :: .sessionReviews :: completeHandlerCells

/-- `ExecutionCompleteView`. -/
def completeByRunner (env : Env) (execution : ℕ) (call : RunnerCall)
    (outcome : ExecutionStatus) : Handler completeViewCells Unit := do
  let _ ← (loadReadyExecution env execution call).widen
  (completeExecution env execution call outcome).widen

end RunbookPlatform
