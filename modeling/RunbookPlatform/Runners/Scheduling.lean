import RunbookPlatform.Executions.Services

/-!
# Claims

How a runner gets work. A registered runner claims for its pool under concurrency limits
and gets a lease; an unregistered one claims the oldest queued execution, or takes over a
stale one that waits for an approval. Both expire the dispatches they find expired on the
way.

## Main definitions

- `claimScan` — the search for a candidate, with the expiries it makes
- `scheduleExecutionClaim`, `claimNextExecution`
- `serializeClaimedExecution` — what the response of a claim writes
- `claimNext` — the endpoint
-/

namespace RunbookPlatform

open Transactional

set_option synthInstance.maxSize 1000

/-- The outcome of a claim. -/
inductive ClaimResult where
  | nothing
  | drain
  | claimed (execution : ℕ)

/-- The oldest queued execution that satisfies `p` and is not excluded. -/
def oldestQueued? (p : Execution → Bool) (excluded : List ℕ) (s : Db) : Option (ℕ × Execution) :=
  s.executions.find? fun i e => e.status = .queued && p e && !excluded.contains i

/-- `_expire_unbound_change_dispatch_if_needed`: a failure counts as not expired. -/
def expireUnboundChangeDispatchIfNeeded (execution : ℕ) (now : Time) :
    Service unboundExpiryCells Bool :=
  Tx.savepoint (expireUnboundDispatchForExecution execution now) fun _ => pure false

/-- The search for a candidate: the oldest queued execution is expired, passed over, or
taken, up to the given number of times. -/
def claimScan (p : Execution → Bool) (eligible : Loaded Execution → Read Bool) (now : Time) :
    ℕ → List ℕ → Service unboundExpiryCells (Option (Loaded Execution))
  | 0, _ => pure none
  | n + 1, excluded => do
    match ← select (oldestQueued? p excluded) with
    | none => pure none
    | some (i, e) =>
      if ← expireUnboundChangeDispatchIfNeeded i now then
        claimScan p eligible now n excluded
      else if ← eligible ⟨i, e⟩ then
        pure (some ⟨i, e⟩)
      else
        claimScan p eligible now n (i :: excluded)

-- ════════════════════════════════════════════════════════════════════════
-- Registered runners
-- ════════════════════════════════════════════════════════════════════════

/-- `_execution_eligible_for_pool`. -/
def executionEligibleForPool (execution : Loaded Execution) (pool : RunnerPool) (s : Db) : Bool :=
  if (bindingOf? execution.id s).isSome then
    execution.row.runnerPoolKey = "" || execution.row.runnerPoolKey = pool.key
  else
    pool.defaultForNonChangeExecutions ||
      (s.reference.pools.find? fun _ q =>
        q.organization = pool.organization && q.status = .active &&
          q.defaultForNonChangeExecutions).isNone

/-- The routing and the capability check of a candidate. -/
def candidateFits (pool : RunnerPool) (candidate : Loaded Execution) : Read Bool := do
  let routed ← select (executionEligibleForPool candidate pool)
  if routed then
    let required := candidate.row.workflowSnapshot.getD "requiredCapabilities" (.arr [])
    if required.truthy then
      let items ← expect required.iterate? (.uncaught "TypeError")
      pure (items.all fun c => pool.capabilities.any fun p => c = .str p)
    else pure true
  else pure false

/-- The active leases that `p` selects. -/
def activeLeases (p : ExecutionLease → Bool) (s : Db) : ℕ :=
  (rowsWhere s.leases fun l => l.status = .active && p l).length

/-- The concurrency limits leave room for one more claim. -/
def hasCapacity (env : Env) (runnerId : String) (runner : Runner) (pool : RunnerPool) (s : Db) :
    Bool :=
  activeLeases (·.runner = runnerId) s < 1 &&
    activeLeases (·.pool = runner.pool) s < pool.maxConcurrentExecutions &&
    activeLeases (·.organization = runner.organization) s < env.runnerOrgMaxConcurrent

/-- The columns that a claim saves, besides the status. -/
def claimColumns (runnerId token poolKey : String) (now : Time) (e : Execution) : Execution :=
  { e with
    claimedByRunnerId := runnerId
    claimToken := some token
    claimedAt := some now
    lastHeartbeatAt := some now
    runnerPoolKey := poolKey }

/-- The cells of a claim. -/
@[reducible] def claimCells : List Cell :=
  [.executions, .executionStatus .cancelled, .executionStatus .queued, .executionStatus .claimed,
    .audit, .statusEvents, .changes, .changeStatus .expired, .changeStatus .dispatchable, .leases]

/-- The claim of the candidate that the scan found, with its lease. -/
def grantLease (runnerId : String) (runner : Runner) (pool : RunnerPool) (execution : ℕ)
    (token : String) (now : Time) : Service claimCells Unit := do
  moveExecution (W := claimCells) execution [.queued] .claimed
    (claimColumns runnerId token pool.key now)
  let _ ← insertUnique Rel.leases (·.execution = execution)
    { execution
      organization := runner.organization
      runner := runnerId
      pool := runner.pool
      status := .active
      claimedAt := now
      lastHeartbeatAt := some now }

/-- `schedule_execution_claim`. -/
def scheduleExecutionClaim (env : Env) (runnerId : String) (runner : Runner) (token : String) :
    Service claimCells ClaimResult := do
  if runner.status = .draining then
    pure .drain
  else
    ensure (runner.status = .active ∨ runner.status = .registered) <|
      .transition "runner_not_active"
        s!"Runner status '{runner.status.value}' cannot claim executions."
    let pool ← lookup (·.reference.pools) "RunnerPool" runner.pool
    if pool.status = .draining then
      pure .drain
    else
      ensure (pool.status = .active) <| .transition "pool_not_active"
        s!"Runner pool '{pool.key}' is not active (status: {pool.status.value})."
      let room ← select (hasCapacity env runnerId runner pool)
      if room then
        let now ← timezoneNow
        match ← (claimScan (·.organization = runner.organization) (candidateFits pool) now 50
            []).widen with
        | none => pure .nothing
        | some e =>
          grantLease runnerId runner pool e.id token now
          pure (.claimed e.id)
      else pure .nothing

-- ════════════════════════════════════════════════════════════════════════
-- Unregistered runners
-- ════════════════════════════════════════════════════════════════════════

/-- The execution has a step with this status. -/
def hasStep (execution : ℕ) (status : StepStatus) (s : Db) : Bool :=
  (s.steps.find? fun _ st => st.execution = execution && st.status = status).isSome

/-- A stale execution that waits for an approval and is not bound to a change. -/
def reclaimable (staleBefore : Time) (s : Db) (execution : ℕ) (e : Execution) : Bool :=
  e.isStuck staleBefore && hasStep execution .waitingForApproval s &&
    !hasStep execution .running s && (bindingOf? execution s).isNone

/-- The reclaimable execution with the oldest heartbeat; among equals the oldest. -/
def staleWaiting? (staleBefore : Time) (s : Db) : Option (Loaded Execution) :=
  ((s.executions.keys (reclaimable staleBefore s)).filterMap fun i =>
      (s.executions.get? i).map fun e => (⟨i, e⟩ : Loaded Execution)).foldl
    (fun best e =>
      match best with
      | some b =>
        if e.row.lastHeartbeatAt.getD 0 < b.row.lastHeartbeatAt.getD 0 then some e else some b
      | none => some e) none

/-- The branch of `claim_next_execution` for a runner without a record. -/
def claimUnregistered (env : Env) (runnerId token : String) : Service claimCells ClaimResult := do
  let now ← timezoneNow
  let queued ← (claimScan (fun _ => true) (fun _ => pure true) now 50 []).widen
  match queued with
  | some e =>
    moveExecution (W := claimCells) e.id [.queued] .claimed (claimColumns runnerId token "" now)
    emit e.row.organization (runnerActor runnerId) "execution.claimed" .execution e.id
      e.row.status.value ExecutionStatus.claimed.value
    pure (.claimed e.id)
  | none =>
    let stale ← select (staleWaiting? (now - seconds env.runnerStaleHeartbeatSeconds))
    match stale with
    | some e =>
      -- a stale execution is claimed or running, and keeps its status
      updateExecution e.id (claimColumns runnerId token "" now)
      emit e.row.organization (runnerActor runnerId) "execution.claimed" .execution e.id
        e.row.status.value e.row.status.value
      pure (.claimed e.id)
    | none => pure .nothing

/-- `claim_next_execution`. -/
def claimNextExecution (env : Env) (runnerId : String) (runner : Option Runner) (token : String) :
    Handler claimCells ClaimResult := do
  match runner with
  | some runner =>
    let result ← Prog.atomic (.claim (some runner))
      (scheduleExecutionClaim env runnerId runner token)
    match result with
    | .claimed execution =>
      let e ← Prog.read (lookup Db.executions "Execution" execution)
      Prog.atomic .service (emit e.organization (runnerActor runnerId) "execution.claimed"
        .execution execution ExecutionStatus.queued.value e.status.value)
    | _ => pure ()
    pure result
  | none => Prog.atomic (.claim none) (claimUnregistered env runnerId token)

-- ════════════════════════════════════════════════════════════════════════
-- The endpoint
-- ════════════════════════════════════════════════════════════════════════

/-- The cells of a serialized claim. -/
@[reducible] def serializeCells : List Cell :=
  .exceptions :: .exceptionEnds :: .sessions :: .sessionEnds :: .sessionReviews :: .audit ::
    .statusEvents :: changeCells

/-- `ClaimedExecutionSerializer`: an unbound dispatch whose token is over expires its
change; one that is alive has its emergency state refreshed. -/
def serializeClaimedExecution (execution : ℕ) : Handler serializeCells Unit := do
  match ← Prog.read (select (bindingOf? execution)) with
  | none => pure ()
  | some (_, binding) =>
    if binding.boundAt = none then
      let now ← Prog.read timezoneNow
      let change ← Prog.read (lookup Db.changes "ChangeRecord" binding.changeRecord)
      if binding.dispatchTokenExpiresAt ≤ now then
        if change.status = .dispatchable then
          (transitionStaleChange (.serializeClaim binding.changeRecord) ⟨binding.changeRecord, change⟩
            .expired changeService now "dispatch_token_expired" expired_ne_draft).widen.tryCatch fun _ => pure ()
      else if change.status = .dispatchable then
        (enforceEmergencyExpiryForChange binding.changeRecord now).widen.tryCatch fun _ => pure ()

/-- The cells of the claim endpoint. -/
@[reducible] def claimNextCells : List Cell :=
  .executions :: .executionStatus .cancelled :: .executionStatus .queued ::
    .executionStatus .claimed :: .leases :: .exceptions :: .exceptionEnds :: .sessions ::
    .sessionEnds :: .sessionReviews :: .audit :: .statusEvents :: .bindings ::
    .targetLocks :: .steps :: .plans :: .checks :: .preflights :: changeCells

/-- The registered runner behind the bearer token. -/
def runnerOf? (runnerId : String) (s : Db) : Option Runner :=
  (s.reference.runners.find? (·.1 = runnerId)).map (·.2)

/-- `ClaimNextExecutionView`: due changes are dispatched first. `registered` tells whether the
bearer token names a runner. -/
def claimNext (env : Env) (runnerId : String) (registered : Bool) (token : String)
    (nonce : ℕ → String) : Handler claimNextCells Unit := do
  (promoteDueScheduledChanges env nonce).widen.tryCatch fun _ => pure ()
  let runner ← Prog.read (select fun s => if registered then runnerOf? runnerId s else none)
  match ← (claimNextExecution env runnerId runner token).widen with
  | .claimed execution => (serializeClaimedExecution execution).widen
  | _ => pure ()

end RunbookPlatform
