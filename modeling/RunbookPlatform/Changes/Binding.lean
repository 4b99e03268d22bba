import RunbookPlatform.Changes.Submission

/-!
# Binding of executions

`bind_execution` proves possession of the dispatch token and moves the change to
`RUNNING`; the runner's callbacks report what happens to the bound execution.

## Main definitions

- `bindExecution` — the transaction, and the expiry after its rollback
- `recordExecutionAccepted`, `recordExecutionStarted`, `recordExecutionFinished`
- `assertExecutionChangeBindingReady` — the guard of the internal endpoints
- `linkPolicyEvaluation`
-/

namespace RunbookPlatform

open Transactional

set_option synthInstance.maxSize 1000

/-- The arguments of `bind_execution`, as its serializer lets them through: the runner's id is
not blank. -/
structure BindRequest where
  change : ℕ
  runnerId : String
  runnerId_ne : runnerId ≠ ""
  claimToken : String
  execution : ℕ
  dispatchToken : String
  requestedInputsSha256 : String
  operationProfileKey : String

/-- The binding of a change, with its key. -/
def bindingOfChange? (change : ℕ) (s : Db) : Option (ℕ × ChangeExecutionBinding) :=
  s.bindings.find? fun _ b => b.changeRecord = change

/-- The cells of a bind. -/
@[reducible] def bindCells : List Cell :=
  [.bindings, .changes, .changeStatus .running, .changeStatus .dispatchable, .plans, .checks,
    .audit, .statusEvents]

/-- The payload checks of `bind_execution`; `suffix` tells the two places apart. -/
def checkBindPayload (req : BindRequest) (binding : ChangeExecutionBinding) (suffix : String) :
    Read Unit := do
  ensure (binding.operationProfileKey = req.operationProfileKey) <|
    .validation "operation_profile_key_mismatch"
      s!"Operation profile key does not match binding{suffix}."
  ensure (binding.requestedInputsSha256 = req.requestedInputsSha256) <|
    .validation "requested_inputs_hash_mismatch"
      s!"Requested inputs hash does not match binding{suffix}."

/-- The retry branch of `bind_execution`: the binding is bound already. -/
def rebindExecution (env : Env) (req : BindRequest) (binding : ChangeExecutionBinding)
    (now : Time) : Service [.plans, .checks, .audit] Unit := do
  ensure (binding.boundByRunnerId = req.runnerId) <| .transition "execution_binding_conflict"
    "Binding already claimed by a different runner."
  ensure (now < binding.dispatchTokenExpiresAt) <| .transition "dispatch_token_expired"
    "Dispatch token has expired."
  checkBindPayload req binding " on idempotent retry"
  let verified ← verifyDispatchToken env binding req.dispatchToken
  ensure (verified = true) <| .validation "dispatch_token_invalid"
    "Dispatch token is invalid on idempotent retry."
  let _ ← ensureVerificationPlan env req.change (runnerActor req.runnerId) false

/-- The first bind of a binding. The marks tell the handler why to expire the change. -/
def activateBinding (env : Env) (req : BindRequest) (row : ChangeRecord) (id : ℕ)
    (binding : ChangeExecutionBinding) (now : Time) : Service bindCells Unit := do
  let actor := runnerActor req.runnerId
  ensure (row.status = .dispatchable) <| .transition "change_not_dispatchable"
    s!"Change is not dispatchable (status: '{row.status.value}')."
  (validateRequestIntegrity env req.change).mapError fun e =>
    if e.kind = .invalidStateTransition then { e with mark := "request_integrity_mismatch" } else e
  let _ ← ensureVerificationPlan env req.change actor false
  checkBindPayload req binding ""
  ensure (now < binding.dispatchTokenExpiresAt)
    { Err.transition "dispatch_token_expired" "Dispatch token has expired." with
      mark := "dispatch_token_expired" }
  let verified ← verifyDispatchToken env binding req.dispatchToken
  ensure (verified = true) <| .validation "dispatch_token_invalid" "Dispatch token is invalid."
  updateRow Rel.bindings id fun b =>
    { b with boundAt := some now, boundByRunnerId := req.runnerId }
  let _ ← transitionChange req.change .running actor now
  emit row.organization actor "change.execution_bound" .changeExecutionBinding id

/-- The transaction of `bind_execution`. -/
def bindExecutionTx (env : Env) (req : BindRequest) : Service bindCells Unit := do
  let change ← select fun s => s.changes.get? req.change
  let row ← expect change <| .validation "change_not_found" "Change record not found."
  let found ← select (bindingOfChange? req.change)
  let (id, binding) ← expect found <| .validation "execution_binding_not_found"
    "No execution binding found for this change."
  ensure (binding.execution = req.execution) <| .transition "execution_binding_conflict"
    "Execution ID does not match binding."
  let execution ← select fun s => s.executions.get? req.execution
  let e ← expect execution <| .validation "execution_not_found" "Execution not found."
  ensure (e.claimedByRunnerId = req.runnerId) <| .transition "runner_ownership_mismatch"
    "Runner does not own this execution."
  ensure (claimTokenText e = req.claimToken) <| .transition "claim_token_mismatch"
    "Claim token is invalid."
  let now ← timezoneNow
  if binding.boundAt.isSome then
    rebindExecution env req binding now
  else
    activateBinding env req row id binding now

/-- The expiry that follows a rejected bind: the change is read without a lock. -/
def expireAfterBindRejection (change : ℕ) (terminalReason : String) :
    Handler (.audit :: .statusEvents :: changeCells) Unit := do
  let row ← Prog.read (lookup Db.changes "ChangeRecord" change)
  let now ← Prog.read timezoneNow
  if row.status = .dispatchable then
    transitionStaleChange (.rejectBind change) ⟨change, row⟩ .expired changeService now
      terminalReason

/-- The cells of a bind and of the expiry after it. -/
@[reducible] def bindHandlerCells : List Cell :=
  .bindings :: .plans :: .checks :: .audit :: .statusEvents :: changeCells

/-- `bind_execution`. -/
def bindExecution (env : Env) (req : BindRequest) : Handler bindHandlerCells Unit :=
  (Prog.atomic .service (bindExecutionTx env req)).tryCatch fun e => do
    if e.mark ≠ "" then
      (expireAfterBindRejection req.change e.mark).widen.tryCatch fun _ => pure ()
    Prog.fail { e with mark := "" }

/-- `link_policy_evaluation`: the first evaluation of a bound execution is linked. -/
def linkPolicyEvaluation (execution evaluation : ℕ) : Service [.changes, .audit] Unit := do
  match ← select (bindingOf? execution) with
  | none => pure ()
  | some (_, binding) =>
    let change ← lookup Db.changes "ChangeRecord" binding.changeRecord
    if change.policyEvaluation = none then
      updateChange binding.changeRecord fun c => { c with policyEvaluation := some evaluation }
      emit change.organization changeService "change.policy_bound" .changeRecord
        binding.changeRecord

-- ════════════════════════════════════════════════════════════════════════
-- Runner callbacks
-- ════════════════════════════════════════════════════════════════════════

/-- `_resolve_bound_binding`. -/
def resolveBoundBinding (change : ℕ) (runnerId : String) (execution : ℕ) :
    Read (ChangeRecord × ℕ × ChangeExecutionBinding) := do
  let row ← select fun s => s.changes.get? change
  let row ← expect row <| .validation "change_not_found" "Change record not found."
  let found ← select (bindingOfChange? change)
  let (id, binding) ← expect found <| .validation "binding_not_found"
    "No execution binding found for this change."
  ensure (binding.execution = execution) <| .validation "execution_id_mismatch"
    "Execution ID does not match binding."
  ensure binding.boundAt.isSome <| .transition "execution_not_bound"
    "Execution has not been bound yet."
  ensure (binding.boundByRunnerId = runnerId) <| .transition "runner_ownership_mismatch"
    "Runner does not own this execution."
  pure (row, id, binding)

/-- The arguments of a runner callback. -/
structure CallbackRequest where
  change : ℕ
  runnerId : String
  execution : ℕ
  observedAt : Option Time := none

/-- Save the instant of a callback, unless one is there. -/
def stampBinding (id : ℕ) (stamped : Option Time)
    (f : ChangeExecutionBinding → ChangeExecutionBinding) : Service [.bindings] Unit :=
  if stamped = none then updateRow Rel.bindings id f else pure ()

/-- `record_execution_accepted`. -/
def recordExecutionAccepted (req : CallbackRequest) : Service [.bindings, .audit] Unit := do
  let clock ← timezoneNow
  let now := req.observedAt.getD clock
  let (row, id, binding) ← resolveBoundBinding req.change req.runnerId req.execution
  stampBinding id binding.executionAcceptedAt fun b => { b with executionAcceptedAt := some now }
  emit row.organization (runnerActor req.runnerId) "change.execution_accepted"
    .changeExecutionBinding id

/-- `record_execution_started`. -/
def recordExecutionStarted (req : CallbackRequest) : Service [.bindings, .audit] Unit := do
  let clock ← timezoneNow
  let now := req.observedAt.getD clock
  let (row, id, binding) ← resolveBoundBinding req.change req.runnerId req.execution
  stampBinding id binding.executionStartedAt fun b => { b with executionStartedAt := some now }
  emit row.organization (runnerActor req.runnerId) "change.execution_started"
    .changeExecutionBinding id

/-- `_release_active_target_locks`. Returns how many were released. -/
def releaseActiveTargetLocks (change organization : ℕ) (now : Time) (actor : AuditActor)
    (releaseReason : String := "execution_finished") : Service [.targetLocks, .audit] ℕ := do
  let locks ← select fun s => rowsWhere s.targetLocks fun l =>
    l.changeRecord = change && l.status = .active
  Tx.forEach (fun lock => do
    updateRow Rel.targetLocks lock.id fun l =>
      { l with status := .released, releasedAt := some now, releaseReason }
    emit organization actor "target_lock.released" .targetLock lock.id) locks
  pure locks.length

/-- `_finalize_window_on_execution_finished`. -/
def finalizeWindowOnExecutionFinished (change organization : ℕ) (now : Time)
    (runnerId : String) : Service [.windows, .audit] Unit := do
  match ← select (windowOf? change) with
  | none => pure ()
  | some (id, window) =>
    if window.status = .closed ∨ window.status = .overrun then
      pure ()
    else if window.endsAt < now then
      updateRow Rel.windows id fun w =>
        { w with status := .overrun, overrunAt := some now }
      emit organization (runnerActor runnerId) "change.window_overrun" .changeWindow id
    else
      updateRow Rel.windows id fun w =>
        { w with status := .closed, closedAt := some now }
      emit organization (runnerActor runnerId) "change.window_closed" .changeWindow id

/-- The cells of a finished callback. -/
@[reducible] def finishedCells : List Cell := [.bindings, .targetLocks, .windows, .audit]

/-- `record_execution_finished`: the locks go and the window is settled while the
execution may still be running. -/
def recordExecutionFinished (req : CallbackRequest) : Service finishedCells Unit := do
  let clock ← timezoneNow
  let now := req.observedAt.getD clock
  let (row, id, binding) ← resolveBoundBinding req.change req.runnerId req.execution
  stampBinding id binding.executionFinishedAt fun b => { b with executionFinishedAt := some now }
  let _ ← releaseActiveTargetLocks req.change row.organization now (runnerActor req.runnerId)
  finalizeWindowOnExecutionFinished req.change row.organization now req.runnerId
  emit row.organization (runnerActor req.runnerId) "change.execution_finished"
    .changeExecutionBinding id

-- ════════════════════════════════════════════════════════════════════════
-- The guard of the internal endpoints
-- ════════════════════════════════════════════════════════════════════════

/-- The checks of `assert_execution_change_binding_ready` on the execution object the
caller holds. Returns the change, if the execution is bound to one. -/
def checkBindingReady (execution : Loaded Execution) (runnerId claimToken : String) :
    Read (Option ℕ) := do
  match ← select (bindingOf? execution.id) with
  | none => pure none
  | some (_, binding) =>
    let change ← lookup Db.changes "ChangeRecord" binding.changeRecord
    ensure (binding.boundAt.isSome ∧ change.status = .running) <|
      .transition "change_binding_not_confirmed"
        "Execution is change-bound but the dispatch token has not been verified yet. The runner must call bind-execution first."
    ensure (binding.boundByRunnerId = runnerId) <| .transition "change_binding_runner_mismatch"
      "Execution is change-bound by a different runner."
    ensure (execution.row.claimedByRunnerId = binding.boundByRunnerId) <|
      .transition "change_binding_runner_mismatch"
        "Execution ownership no longer matches the change binding."
    ensure (claimTokenText execution.row = claimToken) <| .transition "claim_token_mismatch"
      "Claim token is invalid."
    pure (some binding.changeRecord)

/-- `assert_execution_change_binding_ready`. -/
def assertExecutionChangeBindingReady (env : Env) (execution : Loaded Execution)
    (runnerId claimToken : String) : Handler sweepCells Unit := do
  match ← Prog.read (checkBindingReady execution runnerId claimToken) with
  | none => pure ()
  | some change =>
    let now ← Prog.read timezoneNow
    enforceEmergencyExpiryForChange change now
    Prog.read (validateRequestIntegrity env change)

/-- `assert_execution_change_binding_ready`, in a transaction. -/
def bindingReadyTx (env : Env) (execution : Loaded Execution) (runnerId claimToken : String) :
    Service [.exceptions, .sessions, .audit] Unit :=
  runFresh (assertExecutionChangeBindingReady env execution runnerId claimToken) (fun s => by
    refine .read fun ready _ => ?_
    cases ready with
    | none => exact .pure _
    | some change =>
      refine .read fun now hnow => ?_
      rw [timezoneNow, select_ok] at hnow
      subst hnow
      exact .bind (enforceEmergencyExpiryForChange_runs change s) fun _ _ => .query _)
    sweepCells_fresh

end RunbookPlatform
