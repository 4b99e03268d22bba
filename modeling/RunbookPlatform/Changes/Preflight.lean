import RunbookPlatform.Changes.Windows

/-!
# Dispatch preflight

`run_dispatch_preflight` evaluates every gate, whatever the others say, and records
the outcome with a time to live. Each gate is a query; emergency state is expired once
before them, and the expiry calls inside the gates, made with the same instant, find
nothing left to expire.

## Main definitions

- `approvedStatusGate`, `policyGate`, `windowGate`, `freezeGate`, `lockGate`,
  `actorGate`, `planGate`, `poolGate` — the gates
- `preflightCheck` — the row they add up to
- `runDispatchPreflight`, `getFreshPassedPreflight`
-/

namespace RunbookPlatform

open Transactional

/-- `_PREFLIGHT_TTL_SECONDS`. -/
def preflightTtlSeconds : ℕ := 300

/-- `_PREFLIGHT_ELIGIBLE_STATUSES`. -/
def preflightEligibleStatuses : List ChangeStatus := [.approved, .scheduled, .dispatchable]

/-- `_preflight_check_approval_status`. -/
def approvedStatusGate (change : ChangeRecord) (profile : OperationProfile) (s : Db) : GateCheck :=
  let gate (ok : Bool) (detail : String) : GateCheck := { name := "approved_status", ok, detail }
  if change.status ∉ preflightEligibleStatuses then
    gate false
      s!"Change is not in an eligible status for dispatch (current: '{change.status.value}')."
  else if !profile.requiresApproval then
    gate true "Approval status is valid."
  else
    match change.approvalRequest.bind s.approvals.get? with
    | none => gate false "Profile requires approval but no approval request exists."
    | some ar =>
      if ar.status ≠ .approved then
        gate false s!"Approval request is '{ar.status.value}', expected 'approved'."
      else gate true "Approval status is valid."

/-- `_approved_exception_for_scope`: newest approval first. -/
def approvedExceptionForScope (change : ℕ) (exceptionType : ExceptionType)
    (predicate : Json → Bool) (now : Time) (s : Db) : Option (Loaded ChangeException) :=
  let found := rowsWhere s.exceptions fun e =>
    e.changeRecord = change && e.exceptionType = exceptionType && e.status = .approved &&
      now < e.expiresAt && predicate (e.scopeJson.orElse (.obj []))
  found.foldl (fun best exc =>
    match best with
    | some b =>
      if b.row.approvedAt.getD 0 < exc.row.approvedAt.getD 0 then some exc else some b
    | none => some exc) none

/-- `_breakglass_allows_preflight`: the active session, when it covers a dispatch
through the gate for all the targets. -/
def breakglassAllowsPreflight (env : Env) (change : ℕ) (gateType : ExceptionType)
    (targetIds : List ℕ) (s : Db) : Option ℕ :=
  match activeSession? change s with
  | none => none
  | some (id, session) =>
    match scopeCovers env session.scopeJson gateType.value "dispatch" targetIds s with
    | .ok _ => some id
    | .error _ => none

/-- `_preflight_check_policy_gate`. -/
def policyGate (env : Env) (change : Loaded ChangeRecord) (targetIds : List ℕ) (now : Time)
    (s : Db) : GateCheck :=
  let gate (ok : Bool) (detail : String) (refs : List (String × String) := []) : GateCheck :=
    { name := "policy_pass", ok, detail, refs }
  match change.row.policyEvaluation.bind fun i => (s.evaluations.get? i).map fun e => (i, e) with
  | none => gate true "No policy evaluation linked; gate passes by default."
  | some (i, evaluation) =>
    -- the stored outcomes are those of `PolicyRule.Outcome`, so none is "pass"
    let effective := evaluation.effectiveOutcome.value
    let covers (scope : Json) : Bool :=
      pyStr env (scope.getD "policy_evaluation_id" .null) == idText i &&
        scope.getD "overridden_outcome" .null = .str effective &&
        (match evaluation.rule with
        | none => true
        | some rule =>
          ((scopeItems scope "policy_rule_ids").map (pyStr env)).contains (idText rule))
    match approvedExceptionForScope change.id .policyOverride covers now s with
    | some exc =>
      gate true "Policy gate is covered by an approved policy_override exception."
        [("change_exception_id", idText exc.id)]
    | none =>
      match breakglassAllowsPreflight env change.id .policyOverride targetIds s with
      | some session =>
        gate true "Policy gate is covered by active scoped breakglass."
          [("breakglass_session_id", idText session)]
      | none =>
        gate false s!"Policy evaluation effective outcome is '{effective}', expected 'pass'."

/-- `_preflight_check_window`, with the hash of the window's snapshot. -/
def windowGate (env : Env) (change : Loaded ChangeRecord) (targetIds : List ℕ) (now : Time)
    (s : Db) : GateCheck × String :=
  let gate (ok : Bool) (detail : String) (refs : List (String × String) := []) : GateCheck :=
    { name := "window_open", ok, detail, refs }
  match windowOf? change.id s with
  | none => (gate true "No change window configured; gate passes by default.", "")
  | some (id, window) =>
    let status := recomputeWindowStatus window change.row.status now
    let snapshot : Json := .obj [("window_id", .str (idText id)),
      ("starts_at", .str (env.isoformat window.startsAt)),
      ("ends_at", .str (env.isoformat window.endsAt)), ("status", .str status.value)]
    let sha := sha256CanonicalJson env snapshot
    if status = .open then (gate true "Change window is open.", sha)
    else
      match breakglassAllowsPreflight env change.id .windowOverrun targetIds s with
      | some session =>
        (gate true "Window gate is covered by active scoped breakglass."
          [("breakglass_session_id", idText session)], sha)
      | none => (gate false s!"Change window is '{status.value}', not open.", sha)

/-- Insert a rule by its start. -/
def insertByStart (r : Loaded FreezeRule) : List (Loaded FreezeRule) → List (Loaded FreezeRule)
  | [] => [r]
  | q :: qs => if r.row.startsAt ≤ q.row.startsAt then r :: q :: qs else q :: insertByStart r qs

/-- A rule covers the instant. -/
def FreezeRule.activeAt (rule : FreezeRule) (organization : ℕ) (now : Time) : Bool :=
  rule.organization = organization && rule.isActive && rule.startsAt ≤ now && now < rule.endsAt

/-- A rule's scope covers a target. -/
def FreezeRule.matchesTarget (env : Env) (rule : FreezeRule) (target : ChangeTarget) : Bool :=
  match rule.scopeType with
  | .allProduction => true
  | .targetType => rule.targetType = target.targetType
  | .targetIdentifier =>
    rule.normalizedIdentifier = normalizeTargetIdentifier env target.targetIdentifier

/-- The active rules that match a target of the change, by start. -/
def matchingFreezeRules (env : Env) (change : ChangeRecord) (targets : List ChangeTarget)
    (now : Time) (s : Db) : List (Loaded FreezeRule) :=
  (rowsWhere s.freezeRules fun r =>
    r.activeAt change.organization now && targets.any (r.matchesTarget env)).foldr insertByStart []

/-- A rule blocks dispatch unless an approved exception for all the targets covers it. -/
def freezeRuleBlocks (env : Env) (change : ℕ) (targetIds : List ℕ) (now : Time) (s : Db)
    (rule : Loaded FreezeRule) : Bool :=
  match rule.row.behavior with
  | .block => true
  | .allowWithException =>
    (approvedExceptionForScope change .freezeOverride (fun scope =>
      pyStr env (scope.getD "freeze_rule_id" .null) == idText rule.id &&
        (targetIds.map idText).all
          (((scopeItems scope "target_ids").map (pyStr env)).contains ·)) now s).isNone

/-- `_preflight_check_freeze_conflicts`. -/
def freezeGate (env : Env) (change : Loaded ChangeRecord) (targets : List (Loaded ChangeTarget))
    (now : Time) (s : Db) : GateCheck × List GateConflict :=
  let gate (ok : Bool) (detail : String) : GateCheck := { name := "freeze_conflicts", ok, detail }
  if targets = [] then (gate true "No targets; freeze check skipped.", [])
  else
    let blocking := (matchingFreezeRules env change.row (targets.map (·.row)) now s).filter
      (freezeRuleBlocks env change.id (targets.map (·.id)) now s)
    let conflicts := blocking.map fun r =>
      .freezeRule r.id r.row.name r.row.behavior r.row.scopeType
    if blocking = [] then (gate true "No active freeze conflicts.", conflicts)
    else (gate false s!"{blocking.length} freeze rule(s) block dispatch.", conflicts)

/-- A lock holds a target. -/
def TargetLock.holds (env : Env) (lock : TargetLock) (organization : ℕ) (target : ChangeTarget) :
    Bool :=
  lock.organization = organization && lock.status = .active &&
    lock.targetType = target.targetType &&
    lock.normalizedIdentifier = normalizeTargetIdentifier env target.targetIdentifier

/-- `_preflight_check_target_locks`. -/
def lockGate (env : Env) (change : Loaded ChangeRecord) (targets : List (Loaded ChangeTarget))
    (s : Db) : GateCheck × List GateConflict :=
  let gate (ok : Bool) (detail : String) : GateCheck := { name := "target_locks", ok, detail }
  if targets = [] then (gate true "No targets; lock check skipped.", [])
  else
    let conflicting := rowsWhere s.targetLocks fun l =>
      l.changeRecord ≠ change.id &&
        targets.any fun t => l.holds env change.row.organization t.row
    let conflicts := conflicting.map fun l =>
      .targetLock l.id l.row.targetType l.row.targetIdentifier l.row.changeRecord l.row.acquiredAt
    if conflicting = [] then (gate true "No conflicting target locks.", conflicts)
    else
      (gate false
        s!"{conflicting.length} active lock(s) conflict with this change's targets.", conflicts)

/-- `_preflight_check_actor`. -/
def actorGate (actor : Option AuditActor) : GateCheck :=
  if actor.isSome then
    { name := "actor_authorized", ok := true, detail := "Actor is authorized to dispatch." }
  else
    { name := "actor_authorized", ok := false
      detail := "No authenticated actor; dispatch authorization cannot be confirmed." }

/-- `_preflight_check_verification_plan`. -/
def planGate (change : Loaded ChangeRecord) (profile : OperationProfile) (s : Db) :
    GateCheck × List GateConflict :=
  let gate (ok : Bool) (detail : String) (refs : List (String × String) := []) : GateCheck :=
    { name := "verification_plan", ok, detail, refs }
  if !profile.verificationRequired then
    (gate true "Profile does not require verification.", [])
  else
    match planOf? change.id s with
    | none =>
      (gate false "Verification-required change is missing a generated verification plan.",
        [.verificationPlan "missing" none])
    | some (id, plan) =>
      match validateExistingVerificationPlanForDispatch ⟨id, plan⟩ change.row s with
      | .error e => (gate false e.detail, [.verificationPlan e.code (some id)])
      | .ok _ =>
        (gate true s!"Verification plan is '{plan.status.value}'."
          [("verification_plan_id", idText id)], [])

/-- The outcome of the runner pool check: whether it was made and passed, the pool's key
and id, the reason, and its entry among the checks. -/
structure PoolGate where
  ok : Option Bool
  key : String := ""
  id : String := ""
  reason : String
  check : Option GateCheck

/-- The runner pool check of `run_dispatch_preflight`. -/
def poolGate (env : Env) (change : Loaded ChangeRecord) (s : Db) : PoolGate :=
  match findPoolForChange env change.id change.row s with
  | .error reason =>
    if reason = "no_routes_configured" then { ok := none, reason, check := none }
    else
      { ok := some false
        reason
        check := some
          { name := "runner_pool", ok := false, detail := s!"No eligible runner pool: {reason}"
            refs := [("reason", reason)] } }
  | .ok pool =>
    { ok := some true
      key := pool.row.key
      id := idText pool.id
      reason := "ok"
      check := some
        { name := "runner_pool", ok := true
          detail := s!"Pool '{pool.row.key}' matched and has online runners."
          refs := [("pool_key", pool.row.key), ("pool_id", idText pool.id), ("reason", "ok")] } }

/-- The row that `run_dispatch_preflight` creates. -/
def preflightCheck (env : Env) (change : Loaded ChangeRecord) (profile : OperationProfile)
    (actor : Option AuditActor) (now : Time) (s : Db) : DispatchEligibilityCheck :=
  let targets := targetsOf change.id s
  let targetIds := targets.map (·.id)
  let approval := approvedStatusGate change.row profile s
  let policy := policyGate env change targetIds now s
  let (window, windowSha) := windowGate env change targetIds now s
  let (freeze, freezeConflicts) := freezeGate env change targets now s
  let (locks, lockConflicts) := lockGate env change targets s
  let authorized := actorGate actor
  let (plan, planConflicts) := planGate change profile s
  let pool := poolGate env change s
  let overall := approval.ok && policy.ok && window.ok && freeze.ok && locks.ok &&
    authorized.ok && plan.ok && pool.ok.getD true
  { organization := change.row.organization
    changeRecord := change.id
    requestedBy := actor.bind (·.userId?)
    result := if overall then .passed else .failed
    checkedAt := now
    expiresAt := now + seconds preflightTtlSeconds
    approvedStatusOk := approval.ok
    policyPassOk := policy.ok
    windowOpenOk := window.ok
    freezeConflictsOk := freeze.ok
    targetLocksOk := locks.ok
    actorAuthorizedOk := authorized.ok
    verificationPlanOk := plan.ok
    runnerPoolOk := pool.ok
    runnerPoolKey := pool.key
    runnerPoolId := pool.id
    runnerPoolReason := pool.reason
    checks := [approval, policy, window, freeze, locks, authorized, plan] ++ pool.check.toList
    conflicts := freezeConflicts ++ lockConflicts ++ planConflicts
    inputSnapshotSha256 :=
      if change.row.requestSnapshotSha256 ≠ "" then change.row.requestSnapshotSha256
      else sha256CanonicalJson env change.row.requestSnapshot
    windowSnapshotSha256 := windowSha }

/-- The cells of a preflight. -/
@[reducible] def preflightCells : List Cell :=
  [.exceptions, .exceptionEnds, .sessions, .sessionEnds, .sessionReviews, .preflights, .audit]

/-- Evaluate the gates and record the outcome. -/
def recordPreflight (env : Env) (change : ℕ) (actor : Option AuditActor) (now : Time) :
    Handler [.preflights, .audit] (Loaded DispatchEligibilityCheck) := do
  let check ← Prog.read do
    let row ← lookup Db.changes "ChangeRecord" change
    let profile ← lookup (·.reference.profiles) "OperationProfile" row.operationProfile
    select (preflightCheck env ⟨change, row⟩ profile actor now)
  let id ← Prog.atomic .service (insertRow (W := [.preflights]) Rel.preflights check)
  Prog.atomic .service (emit check.organization (actor.getD (systemActor "Change service"))
    "change.preflight_checked" .dispatchEligibilityCheck id)
  pure ⟨id, check⟩

/-- `run_dispatch_preflight`. -/
def runDispatchPreflight (env : Env) (change : ℕ) (actor : Option AuditActor) :
    Handler preflightCells (Loaded DispatchEligibilityCheck) := do
  let now ← Prog.read timezoneNow
  enforceEmergencyExpiryForChange change now
  recordPreflight env change actor now

/-- `run_dispatch_preflight`, in a transaction. -/
def runPreflightTx (env : Env) (change : ℕ) (actor : Option AuditActor) :
    Service [.exceptions, .sessions, .preflights, .audit] (Loaded DispatchEligibilityCheck) :=
  runFresh (runDispatchPreflight env change actor) fun s => .read fun now hnow => by
    rw [timezoneNow, select_ok] at hnow
    subst hnow
    exact .bind (.widen (enforceEmergencyExpiryForChange_runs change s)) fun _ _ =>
      .widen (.sameOn _ (by decide))

/-- `_get_fresh_passed_preflight`: the newest passed check that has not expired. -/
def getFreshPassedPreflight (change : ℕ) (now : Time) (s : Db) :
    Option (Loaded DispatchEligibilityCheck) :=
  let fresh := rowsWhere s.preflights fun c =>
    c.changeRecord = change && c.result = .passed && now < c.expiresAt
  fresh.foldl (fun best c =>
    match best with
    | some b => if b.row.checkedAt < c.row.checkedAt then some c else some b
    | none => some c) none

end RunbookPlatform
