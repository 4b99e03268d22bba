import RunbookPlatform.Executions.Creation

/-!
# Dispatch

`make_dispatchable` reserves an execution for an approved change: it needs a passed
preflight that has not expired, locks every target, and creates the binding with the
hash of its dispatch token. `expire_dispatchable_change` ends a dispatch whose token
expired unused.

## Main definitions

- `acquireTargetLocksForDispatch` — one lock for each target
- `makeDispatchable`, `scheduleOrMakeDispatchable`, `promoteDueScheduledChanges`
- `expireDispatchableChange`, `expireUnboundDispatchForExecution`
-/

namespace RunbookPlatform

open Transactional

set_option synthInstance.maxSize 1000

/-- The default actor of the change services. -/
def changeService : AuditActor := systemActor "Change service"

/-- The active locks that exclude a lock on a target. -/
def lockClash (organization : ℕ) (target : ChangeTarget) (lock : TargetLock) : Bool :=
  lock.status = .active && lock.organization = organization &&
    lock.targetType = target.targetType &&
    lock.normalizedIdentifier = target.normalizedIdentifier

/-- Lock one target; a violated constraint is a conflict. -/
def acquireTargetLock (change organization execution : ℕ) (target : Loaded ChangeTarget)
    (now : Time) : Service [.targetLocks] ℕ :=
  Tx.savepoint
    (insertUnique Rel.targetLocks (lockClash organization target.row)
      { organization
        changeRecord := change
        execution
        changeTarget := target.id
        targetType := target.row.targetType
        targetIdentifier := target.row.targetIdentifier
        normalizedIdentifier := target.row.normalizedIdentifier
        status := .active
        acquiredAt := now })
    fun e => raise <| if e = .integrity then
      .conflict "target_lock_conflict"
        s!"Dispatch blocked: active target lock exists for {target.row.targetType}:{target.row.targetIdentifier}."
      else e

/-- `_acquire_target_locks_for_dispatch`. -/
def acquireTargetLocksForDispatch (change organization execution : ℕ) (now : Time)
    (actor : AuditActor) : Service [.targetLocks, .audit] Unit := do
  let targets ← select (targetsOf change)
  let locks ← Tx.collect (acquireTargetLock change organization execution · now) targets
  (Tx.forEach (fun lock =>
    emit organization actor "change.target_lock_acquired" .targetLock lock) locks).widen

/-- The cells of a dispatch. -/
@[reducible] def dispatchCells : List Cell :=
  [.changes, .changeStatus .dispatchable, .changeStatus .approved, .changeStatus .scheduled,
    .bindings, .targetLocks, .executions, .executionStatus .queued, .steps, .plans, .checks,
    .exceptions, .sessions, .preflights, .audit, .statusEvents]

/-- The cells of the gates before a dispatch. -/
@[reducible] def gateCells : List Cell :=
  [.plans, .checks, .exceptions, .sessions, .preflights, .audit]

/-- The newest passed preflight that has not expired, else a new one. -/
def freshOrNewPreflight (env : Env) (change : ℕ) (now : Time) (actor : AuditActor) :
    Service [.exceptions, .sessions, .preflights, .audit] (Loaded DispatchEligibilityCheck) := do
  match ← select (getFreshPassedPreflight change now) with
  | some check => pure check
  | none => runPreflightTx env change (some actor)

/-- A passed preflight for a dispatch. -/
def passedPreflight (env : Env) (change : ℕ) (now : Time) (actor : AuditActor) :
    Service [.exceptions, .sessions, .preflights, .audit] (Loaded DispatchEligibilityCheck) := do
  let check ← freshOrNewPreflight env change now actor
  ensure (check.row.result = .passed) <| .conflict "dispatch_preflight_failed" <|
    if check.row.conflicts ≠ [] then
      s!"Dispatch blocked: preflight failed with {check.row.conflicts.length} conflict(s)."
    else "Dispatch blocked: preflight check failed."
  pure check

/-- The first half of `make_dispatchable`: its guards, the plan and the preflight. -/
def passDispatchGates (env : Env) (change : ℕ) (row : ChangeRecord) (now : Time)
    (actor : AuditActor) : Service gateCells (Loaded DispatchEligibilityCheck) := do
  ensure (row.status = .approved ∨ row.status = .scheduled) <|
    .transition "invalid_state_transition"
      s!"Cannot dispatch change with status '{row.status.value}'."
  (sweepEmergency change).widen
  ensure (row.status = .scheduled → ∀ t ∈ row.scheduledFor, t ≤ now) <|
    .transition "invalid_state_transition"
      "Cannot dispatch scheduled change before scheduled_for."
  validateRequestIntegrity env change
  let _ ← ensureVerificationPlan env change actor true
  passedPreflight env change now actor

/-- Create the execution of a dispatch, routed to the pool of the preflight. -/
def reserveExecution (env : Env) (row : ChangeRecord) (workflow : Workflow)
    (check : DispatchEligibilityCheck) (actor : AuditActor) : Service creationCells ℕ := do
  let execution ← Tx.ofProg (createExecution env ⟨row.workflow, workflow⟩ .live actor true)
  if check.runnerPoolKey ≠ "" then
    updateExecution execution fun e => { e with runnerPoolKey := check.runnerPoolKey }
  pure execution

/-- Create the binding of a dispatch with the hash of its token. -/
def reserveBinding (env : Env) (change : ℕ) (row : ChangeRecord) (profile : OperationProfile)
    (execution : ℕ) (now : Time) (nonce : String) : Service [.bindings] ℕ := do
  let inputsHash :=
    if row.requestedInputsSha256 ≠ "" then row.requestedInputsSha256
    else sha256CanonicalJson env row.requestedInputs
  let binding : ChangeExecutionBinding :=
    { changeRecord := change
      execution
      organization := row.organization
      operationProfileKey := profile.key
      requestedInputsSha256 := inputsHash
      dispatchTokenNonce := nonce
      dispatchTokenHash := ""
      dispatchTokenExpiresAt := now + seconds profile.dispatchTtlSeconds
      reservedAt := now }
  let id ← insertUnique Rel.bindings
    (fun b => b.changeRecord = change || b.execution = execution) binding
  let clearToken ← generateDispatchToken env binding
  updateRow Rel.bindings id fun b =>
    { b with dispatchTokenHash := hashDispatchToken env clearToken }
  pure id

/-- `make_dispatchable`. -/
def makeDispatchable (env : Env) (change : ℕ) (actor : AuditActor) (nonce : String) :
    Service dispatchCells Unit := do
  let row ← lookup Db.changes "ChangeRecord" change
  let now ← timezoneNow
  let check ← passDispatchGates env change row now actor
  let profile ← lookup (·.reference.profiles) "OperationProfile" row.operationProfile
  let workflow ← lookup (·.reference.workflows) "Workflow" row.workflow
  ensure (profile.organization = row.organization) <|
    .validation "operation_profile_organization_mismatch"
      "Operation profile organization does not match the change organization."
  ensure (workflow.organization = row.organization) <|
    .validation "workflow_organization_mismatch"
      "Workflow organization does not match the change organization."
  let execution ← reserveExecution env row workflow check.row actor
  acquireTargetLocksForDispatch change row.organization execution now actor
  let binding ← reserveBinding env change row profile execution now nonce
  let _ ← transitionChange change .dispatchable actor now
  emit row.organization actor "change.execution_binding_reserved" .changeExecutionBinding binding

/-- The cells of a scheduling. -/
@[reducible] def scheduleCells : List Cell := dispatchCells

/-- `schedule_or_make_dispatchable`, on a change that this transaction has locked. -/
def scheduleOrMakeDispatchable (env : Env) (change : ℕ) (actor : AuditActor) (nonce : String) :
    Service scheduleCells Unit := do
  let row ← lookup Db.changes "ChangeRecord" change
  ensure (row.status = .approved) <| .transition "invalid_state_transition"
    s!"Cannot schedule or dispatch change with status '{row.status.value}'."
  validateRequestIntegrity env change
  let now ← timezoneNow
  if row.scheduledFor.any (now < ·) then
    let _ ← transitionChange change .scheduled actor now
  else
    makeDispatchable env change actor nonce

/-- One iteration of `promote_due_scheduled_changes`: the lock query, then the dispatch. -/
def promoteScheduledChange (env : Env) (change : ℕ) (now : Time) (nonce : String) :
    Service dispatchCells Unit := do
  let row ← lookup Db.changes "ChangeRecord" change
  if row.status = .scheduled ∧ row.scheduledFor.any (· ≤ now) then
    makeDispatchable env change changeService nonce

/-- `promote_due_scheduled_changes`: the fifty newest due changes; a failure is logged
and the next one tried. Nonces come from `secrets.token_hex`. -/
def promoteDueScheduledChanges (env : Env) (nonce : ℕ → String) : Handler dispatchCells Unit := do
  let now ← Prog.read timezoneNow
  let due ← Prog.read (select fun s => (rowsWhere s.changes fun c =>
    c.status = .scheduled && c.scheduledFor.any (· ≤ now)).reverse.take 50)
  Prog.forEach (fun change =>
    (Prog.atomic (.promote change.id now)
      (promoteScheduledChange env change.id now (nonce change.id))).tryCatch fun _ => pure ()) due

-- ════════════════════════════════════════════════════════════════════════
-- Expiry of dispatches
-- ════════════════════════════════════════════════════════════════════════

/-- `expire_dispatchable_change` on a change that this transaction has locked. -/
def expireDispatchableChange (change : ℕ) (now : Time)
    (terminalReason : String := "dispatch_token_expired") :
    Service [.audit, .statusEvents, .changes, .changeStatus .expired, .changeStatus .dispatchable] Unit :=
  Tx.narrow (V := transitionCells .expired)
    (do
      let row ← lookup Db.changes "ChangeRecord" change
      if row.status = .dispatchable then
        let _ ← transitionChange change .expired changeService now terminalReason)
    fun s _ s' h c hc => by
      simp only [Tx.bind_ok, Tx.lift_query_ok, lookup_ok] at h
      obtain ⟨row, _, ⟨hrow, rfl⟩, h⟩ := h
      split_ifs at h with hdispatchable
      · simp only [Tx.bind_ok, Tx.run_pure, Except.ok.injEq, Prod.mk.injEq] at h
        obtain ⟨old, _, hmove, -, rfl⟩ := h
        obtain ⟨row', hrow', hold, -⟩ := transitionChange_ok.1 hmove
        rw [hrow] at hrow'
        cases hrow'
        rw [hdispatchable] at hold
        exact transitionChange_agree hmove (hold ▸ hc)
      · simp only [Tx.run_pure, Except.ok.injEq, Prod.mk.injEq] at h
        exact h.2 ▸ Cells.agree_refl c _

/-- The cells of an unbound dispatch's expiry. -/
@[reducible] def unboundExpiryCells : List Cell :=
  [.executions, .executionStatus .cancelled, .executionStatus .queued, .executionStatus .claimed,
    .audit, .statusEvents, .changes, .changeStatus .expired, .changeStatus .dispatchable]

/-- `expire_unbound_dispatch_for_execution`, on an execution that this transaction has
locked. Returns whether a claim should skip the execution. -/
def expireUnboundDispatchForExecution (execution : ℕ) (now : Time) :
    Service unboundExpiryCells Bool := do
  let found ← select (bindingOf? execution)
  match found with
  | none => pure false
  | some (_, binding) =>
    if binding.boundAt.isSome ∨ now < binding.dispatchTokenExpiresAt then
      pure false
    else
      expireDispatchableChange binding.changeRecord now
      let e ← lookup Db.executions "Execution" execution
      if e.status = .queued ∨ e.status = .claimed then
        moveExecution (W := unboundExpiryCells) execution [.queued, .claimed] .cancelled
          fun e => { e with finishedAt := some now, startedAt := e.startedAt.or (some now) }
        emit e.organization changeService "execution.cancelled" .execution execution
          e.status.value ExecutionStatus.cancelled.value
      pure true

end RunbookPlatform
