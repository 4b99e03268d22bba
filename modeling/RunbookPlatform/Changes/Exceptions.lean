import RunbookPlatform.Changes.Closure

/-!
# Exceptions

A change exception excuses one gate of one change for a limited time. It is requested
with a scope, decided through its approval request or directly, and expires.

## Main definitions

- `validateExceptionScope` — the checks of each exception type
- `requestException`, `approveException`, `rejectException`, `resolveException`
- `applyExceptionApprovalDecision` — the decision of the linked approval request
-/

namespace RunbookPlatform

open Transactional

set_option synthInstance.maxSize 1000

/-- `_EXCEPTION_SCOPE_REQUIRED_KEYS`. -/
def ExceptionType.requiredKeys : ExceptionType → List String
  | .freezeOverride => ["freeze_rule_id", "target_ids"]
  | .windowOverrun => ["change_window_id", "allowed_until"]
  | .lateVerification => ["verification_plan_id", "verification_check_ids", "due_at"]
  | .policyOverride => ["policy_evaluation_id", "policy_rule_ids", "overridden_outcome"]
  | .missingArtifact =>
    ["verification_check_id", "expected_artifact_kind", "replacement_evidence"]

/-- `_EXCEPTION_RETRO_REVIEW_REQUIRED_TYPES`, and the types that need an admin's approval. -/
def ExceptionType.isSevere (t : ExceptionType) : Bool :=
  t = .policyOverride || t = .missingArtifact

/-- The JSON value is the text of the key. -/
def refersTo (value : Json) (id : ℕ) : Bool := value.str? = some (idText id)

/-- `{str(x) for x in scope.get(key, [])}`. -/
def scopeTexts (env : Env) (scope : Json) (key : String) : Read (List String) := do
  let items ← expect (scope.getD key (.arr [])).iterate? (.uncaught "TypeError")
  pure (items.map (pyStr env))

/-- `_validate_exception_freeze_override`. -/
def validateExceptionFreezeOverride (env : Env) (change : Loaded ChangeRecord) (scope : Json) :
    Read Unit := do
  let found ← select fun s => s.freezeRules.find? fun i r =>
    refersTo (scope.getD "freeze_rule_id" (.str "")) i && r.organization = change.row.organization
  let (_, rule) ← expect found <| .validation "freeze_rule_not_found"
    "freeze_override scope must reference a freeze rule in the same organization."
  ensure (rule.behavior ≠ .block) <| .validation "freeze_override_cannot_override_block"
    "freeze_override exceptions can only satisfy 'allow_with_exception' freeze rules, not 'block' rules."
  let targetIds ← scopeTexts env scope "target_ids"
  let targets ← select (targetsOf change.id)
  ensure (targetIds ≠ [] ∧ ∀ t ∈ targetIds, t ∈ targets.map (idText ·.id)) <|
    .validation "exception_scope_unknown_targets"
      "freeze_override target_ids must belong to the same change."

/-- The value of `allowed_until`, parsed when it is a text. -/
def parseAllowedUntil (env : Env) (value : Json) : Except Err (Option Time) :=
  match value with
  | .null => .ok none
  | .str text => env.parseDatetime text
  | _ => .error (.uncaught "TypeError")

/-- `_validate_exception_window_overrun`. -/
def validateExceptionWindowOverrun (env : Env) (change : Loaded ChangeRecord) (scope : Json) :
    Read Unit := do
  let found ← select fun s => s.windows.find? fun i w =>
    refersTo (scope.getD "change_window_id" .null) i && w.changeRecord = change.id &&
      w.organization = change.row.organization
  let (_, window) ← expect found <| .validation "change_window_not_found"
    "window_overrun scope must reference this change's window."
  let allowedUntil ← ofExcept (parseAllowedUntil env (scope.getD "allowed_until" .null))
  let allowedUntil ← expect allowedUntil <| .validation "window_overrun_allowed_until_invalid"
    "window_overrun allowed_until must be a datetime."
  ensure (window.endsAt < allowedUntil) <| .validation "window_overrun_allowed_until_invalid"
    "window_overrun allowed_until must be after the window end."

/-- `_validate_exception_late_verification`. -/
def validateExceptionLateVerification (env : Env) (change : Loaded ChangeRecord) (scope : Json) :
    Read Unit := do
  let found ← select fun s => s.plans.find? fun i p =>
    refersTo (scope.getD "verification_plan_id" .null) i && p.changeRecord = change.id &&
      p.organization = change.row.organization
  let (plan, _) ← expect found <| .validation "verification_plan_not_found"
    "late_verification scope must reference this change's verification plan."
  let checkIds ← scopeTexts env scope "verification_check_ids"
  let actual ← select fun s => rowsWhere s.checks fun c =>
    c.plan = plan && c.changeRecord = change.id && c.organization = change.row.organization
  ensure (checkIds ≠ [] ∧ ∀ c ∈ checkIds, c ∈ actual.map (idText ·.id)) <|
    .validation "verification_check_not_found"
      "late_verification verification_check_ids must belong to this change's plan."

/-- `_validate_exception_policy_override`. -/
def validateExceptionPolicyOverride (env : Env) (change : Loaded ChangeRecord) (scope : Json) :
    Read Unit := do
  let found ← select fun s => s.evaluations.find? fun i e =>
    refersTo (scope.getD "policy_evaluation_id" .null) i &&
      e.organization = change.row.organization
  let (id, evaluation) ← expect found <| .validation "policy_evaluation_not_found"
    "policy_override scope must reference a same-organization policy evaluation."
  ensure (change.row.policyEvaluation = some id) <|
    .validation "policy_evaluation_change_mismatch"
      "policy_override scope must reference the policy evaluation linked to this change."
  let ruleIds ← scopeTexts env scope "policy_rule_ids"
  if ruleIds ≠ [] then
    let known ← select fun s => rowsWhere s.reference.policyRules fun r =>
      (s.reference.policies.get? r.policy).any (·.organization = change.row.organization)
    ensure (∀ r ∈ ruleIds, r ∈ known.map (idText ·.id)) <| .validation "policy_rule_not_found"
      "policy_override policy_rule_ids must belong to this organization."
    ensure (∀ rule ∈ evaluation.rule, idText rule ∈ ruleIds) <|
      .validation "policy_rule_scope_mismatch"
        "policy_override policy_rule_ids must include the evaluated rule."
  let outcome := scope.getD "overridden_outcome" .null
  ensure (outcome = .str "block" ∨ outcome = .str "approval_required") <|
    .validation "policy_override_outcome_invalid"
      "policy_override can only override block or approval_required outcomes."

/-- `_validate_exception_missing_artifact`. -/
def validateExceptionMissingArtifact (env : Env) (change : Loaded ChangeRecord) (scope : Json) :
    Read Unit := do
  let found ← select fun s => s.checks.find? fun i c =>
    refersTo (scope.getD "verification_check_id" .null) i && c.changeRecord = change.id &&
      c.organization = change.row.organization
  let (_, check) ← expect found <| .validation "verification_check_not_found"
    "missing_artifact scope must reference a verification check on this change."
  let expectedKind := pyStr env (scope.getD "expected_artifact_kind" (.str ""))
  ensure (check.artifactKind = "" ∨ expectedKind = check.artifactKind) <|
    .validation "missing_artifact_kind_mismatch"
      "missing_artifact expected_artifact_kind must match the verification check."
  ensure (scope.getD "replacement_evidence" .null).truthy <|
    .validation "missing_artifact_replacement_evidence_required"
      "missing_artifact requires replacement evidence summary."

/-- `_validate_exception_scope`. -/
def validateExceptionScope (env : Env) (change : Loaded ChangeRecord)
    (exceptionType : ExceptionType) (scope : Json) : Read Unit := do
  let missing := Json.sortTexts (exceptionType.requiredKeys.filter (· ∉ scope.keys))
  ensure (missing = []) <| .validation "exception_scope_missing_keys"
    s!"Exception type '{exceptionType.value}' requires scope keys: {(Json.ofStrings missing).repr env.reprText}."
  match exceptionType with
  | .freezeOverride => validateExceptionFreezeOverride env change scope
  | .windowOverrun => validateExceptionWindowOverrun env change scope
  | .lateVerification => validateExceptionLateVerification env change scope
  | .policyOverride => validateExceptionPolicyOverride env change scope
  | .missingArtifact => validateExceptionMissingArtifact env change scope

-- ════════════════════════════════════════════════════════════════════════
-- Requests
-- ════════════════════════════════════════════════════════════════════════

/-- The arguments of `request_exception`. -/
structure ExceptionRequest where
  change : ℕ
  exceptionType : String
  reason : String
  scopeJson : Json
  expiresAt : Option Time
  requestedBy : Option String := none

/-- The checks of `request_exception` before its transaction. Returns the type and the
expiry. -/
def checkExceptionRequest (req : ExceptionRequest) : Read (ExceptionType × Time) := do
  let exceptionType ← expect (ExceptionType.ofValue? req.exceptionType) <|
    .validation "exception_type_invalid" s!"Invalid exception type: '{req.exceptionType}'."
  ensure (strip req.reason ≠ "") <| .validation "exception_reason_required"
    "Exception reason is required."
  ensure (req.reason.length ≤ 4000) <| .validation "exception_reason_too_long"
    "Exception reason must be 4000 characters or fewer."
  ensure req.scopeJson.isObj <| .validation "exception_scope_invalid"
    "scope_json must be a JSON object."
  let now ← timezoneNow
  let expiresAt ← expect (req.expiresAt.filter (now < ·)) <|
    .validation "exception_expires_at_required" "expires_at must be a future datetime."
  pure (exceptionType, expiresAt)

/-- A `window_overrun` exception is for a window that has opened. -/
def checkWindowOpened (change : ℕ) (exceptionType : ExceptionType) (now : Time) : Read Unit := do
  if exceptionType = .windowOverrun then
    let window ← select (windowOf? change)
    ensure (∀ w ∈ window, w.2.startsAt ≤ now) <| .validation "window_overrun_before_window_opens"
      "window_overrun exception cannot authorize dispatch before the change window opens."

/-- Insert a new exception with the request about it. Returns the exception's key. -/
def insertException (exc : ChangeException) :
    Service [.exceptions, .exceptionOutcome, .exceptionEnds, .approvals] ℕ := do
  let id ← createException exc
  let approval ← insertRow Rel.approvals
    { organization := exc.organization
      subjectType := .changeException
      subjectId := id
      status := .pending
      requestedAt := exc.requestedAt }
  updateRow Rel.exceptions id (fun e => { e with approvalRequest := some approval })
    fun _ => ⟨rfl, fun h => h⟩
  pure id

/-- The transaction of `request_exception`. Returns the exception's key. -/
def requestExceptionTx (env : Env) (req : ExceptionRequest) (exceptionType : ExceptionType)
    (expiresAt : Time) :
    Service [.exceptions, .exceptionOutcome, .exceptionEnds, .approvals] ℕ := do
  let now ← timezoneNow
  let row ← lookup Db.changes "ChangeRecord" req.change
  validateExceptionScope env ⟨req.change, row⟩ exceptionType req.scopeJson
  checkWindowOpened req.change exceptionType now
  insertException
    { organization := row.organization
      changeRecord := req.change
      exceptionType
      status := .pendingApproval
      reason := strip req.reason
      scopeJson := req.scopeJson
      requestedBy := req.requestedBy
      requestedAt := now
      expiresAt }

/-- `request_exception`. -/
def requestException (env : Env) (req : ExceptionRequest) (actor : AuditActor) :
    Handler [.exceptions, .exceptionOutcome, .exceptionEnds, .approvals, .audit] Unit := do
  let (exceptionType, expiresAt) ← Prog.read (checkExceptionRequest req)
  let exc ← Prog.atomic .service (requestExceptionTx env req exceptionType expiresAt)
  let row ← Prog.read (lookup Db.changes "ChangeRecord" req.change)
  Prog.atomic .service (emit row.organization actor "change_exception.requested"
    .changeException exc)

-- ════════════════════════════════════════════════════════════════════════
-- Decisions
-- ════════════════════════════════════════════════════════════════════════

/-- The user is an admin or an owner of the organization. -/
def isOrganizationAdmin (organization : ℕ) (user : String) (s : Db) : Bool :=
  (s.reference.memberships.find? fun _ m =>
    m.organization = organization && m.user = user &&
      (m.role = .admin || m.role = .owner)).isSome

/-- `_assert_exception_approver_allowed`. -/
def assertExceptionApproverAllowed (exc : Loaded ChangeException) (actor : AuditActor)
    (actorUser : Option String) : Handler [.audit] Unit := do
  if actorUser.isSome ∧ actorUser = exc.row.requestedBy then
    Prog.atomic .service (emit exc.row.organization actor
      "change_exception.self_approval_rejected" .changeException exc.id)
    Prog.fail <| .validation "exception_self_approval_rejected"
      "The requester cannot approve their own exception."
  Prog.read do
    let admin ← select fun s => actorUser.all fun u => isOrganizationAdmin exc.row.organization u s
    ensure (exc.row.exceptionType.isSevere → admin = true) <|
      .validation "exception_admin_approval_required"
        "policy_override and missing_artifact exceptions require admin or owner approval."

/-- The cells of a decision on an exception. -/
@[reducible] def exceptionDecisionCells : List Cell :=
  [.exceptions, .exceptionOutcome, .exceptionEnds, .approvals, .decisions, .changes, .changeRetro,
    .audit]

/-- Lock the exception, expire what is over, and require it pending. `verb` tells the
callers' messages apart. -/
def lockPendingException (id : ℕ) (verb pendingDetail : String) :
    Service [.exceptions, .audit] ChangeException := do
  let row ← lookup Db.exceptions "ChangeException" id
  (sweepExceptions row.changeRecord).widen
  let row ← lookup Db.exceptions "ChangeException" id
  ensure (row.status ≠ .expired) <| .transition "exception_expired"
    s!"Exception has expired and cannot be {verb}."
  ensure (row.status = .pendingApproval) <| .transition "exception_not_pending" <|
    if pendingDetail ≠ "" then pendingDetail
    else s!"Exception is in status '{row.status.value}'; only pending_approval exceptions can be {verb}."
  pure row

/-- Resolve the approval request of a decided exception, if it is still pending. -/
def resolveLinkedApproval (approval : Option ℕ) (decision : ApprovalStatus) (actor : AuditActor)
    (actorUser : Option String) (now : Time) : Service [.approvals, .decisions] Unit := do
  match approval with
  | none => pure ()
  | some id =>
    let request ← lookup Db.approvals "ApprovalRequest" id
    if request.status = .pending then
      resolveRequest id decision now
      let _ ← insertUnique Rel.decisions
        (·.approvalRequest = id)
        { approvalRequest := id
          decision
          human := true
          decidedByUser := actorUser
          decidedByLabel := actor.actorLabel
          decidedByLabelSource := "verified_user"
          decidedAt := now }

/-- The columns an approval of an exception saves. -/
def approveExceptionRow (actorUser : Option String) (now : Time) (e : ChangeException) :
    ChangeException :=
  { e with status := .approved, approvedBy := actorUser, approvedAt := some now }

/-- Mark the change of a severe exception for retro-review. -/
def requireRetroReview (exc : ChangeException) : Service [.changes, .changeRetro] Unit := do
  if exc.exceptionType.isSevere then
    updateRetro exc.changeRecord fun c =>
      { c with retroReviewRequired := true, retroReviewBlockingStatus := "pending" }

/-- The transaction of `approve_exception`. -/
def approveExceptionTx (id : ℕ) (actor : AuditActor) (actorUser : Option String) :
    Service exceptionDecisionCells ChangeException := do
  let row ← (lockPendingException id "approved" "").widen
  let now ← timezoneNow
  settleException id (approveExceptionRow actorUser now)
  (resolveLinkedApproval row.approvalRequest .approved actor actorUser now).widen
  requireRetroReview row
  pure row

/-- `ensure_retro_review_for_exception`. Both callers run it outside any transaction, where
its `select_for_update` raises, so no review is ever created. -/
def ensureRetroReviewForException (id : ℕ) (exc : ChangeException) : Read Unit := do
  if exc.exceptionType.isSevere then
    let existing ← select fun s => s.retroReviews.find? fun _ r => r.changeException = some id
    ensure existing.isSome (.uncaught "TransactionManagementError")

/-- `approve_exception`. -/
def approveException (id : ℕ) (actor : AuditActor) (actorUser : Option String) :
    Handler exceptionDecisionCells Unit := do
  let loaded ← Prog.read (lookup Db.exceptions "ChangeException" id)
  (assertExceptionApproverAllowed ⟨id, loaded⟩ actor actorUser).widen
  let row ← Prog.atomic (.decideException id) (approveExceptionTx id actor actorUser)
  Prog.read (ensureRetroReviewForException id row)
  Prog.atomic .service (emit row.organization actor "change_exception.approved"
    .changeException id)

/-- The transaction of `reject_exception`. -/
def rejectExceptionTx (id : ℕ) (actor : AuditActor) (actorUser : Option String) :
    Service exceptionDecisionCells ChangeException := do
  let row ← (lockPendingException id "rejected" "").widen
  let now ← timezoneNow
  settleException id fun e =>
    { e with status := .rejected, rejectedAt := some now }
  (resolveLinkedApproval row.approvalRequest .rejected actor actorUser now).widen
  pure row

/-- `reject_exception`. -/
def rejectException (id : ℕ) (actor : AuditActor) (actorUser : Option String) :
    Handler exceptionDecisionCells Unit := do
  let row ← Prog.atomic (.decideException id) (rejectExceptionTx id actor actorUser)
  Prog.atomic .service (emit row.organization actor "change_exception.rejected"
    .changeException id)

/-- The exception of an approval request, with its key. -/
def exceptionOf? (approval organization : ℕ) (s : Db) : Option (ℕ × ChangeException) :=
  s.exceptions.find? fun _ e => e.approvalRequest = some approval && e.organization = organization

/-- `apply_exception_approval_decision`. Returns the exception whose retro-review the
commit hook has to ensure. -/
def applyExceptionApprovalDecision (approval organization : ℕ) (decision : HumanDecision)
    (actor : AuditActor) (actorUser : Option String) :
    Service exceptionDecisionCells (Option (Loaded ChangeException)) := do
  let found ← select (exceptionOf? approval organization)
  let (id, _) ← expect found <| .validation "change_exception_not_found"
    "Approval request is not linked to a change exception."
  let row ← (lockPendingException id "decided"
    "Only pending_approval exceptions can be decided.").widen
  let now ← timezoneNow
  match decision with
  | .approved =>
    (Tx.ofProg (assertExceptionApproverAllowed ⟨id, row⟩ actor actorUser)).widen
    settleException id (approveExceptionRow actorUser now)
    requireRetroReview row
    emit row.organization actor "change_exception.approved" .changeException id
    pure (if row.exceptionType.isSevere then some ⟨id, row⟩ else none)
  | .rejected =>
    settleException id fun e =>
      { e with status := .rejected, rejectedAt := some now }
    emit row.organization actor "change_exception.rejected" .changeException id
    pure none

/-- `resolve_exception`, on the object the caller loaded. -/
def resolveException (id : ℕ) (actor : AuditActor) (resolutionNote : String) :
    Handler [.exceptions, .exceptionOutcome, .exceptionEnds, .audit] Unit := do
  let row ← Prog.read (lookup Db.exceptions "ChangeException" id)
  Prog.read <| ensure (row.status = .approved) <| .transition "exception_not_approved"
    s!"Exception is in status '{row.status.value}'; only approved exceptions can be resolved."
  let now ← Prog.read timezoneNow
  Prog.atomic (.resolveException id) (settleException id fun e =>
    { e with
      status := .resolved
      resolvedAt := some now
      resolutionNote := String.ofList (resolutionNote.toList.take 2000) })
  Prog.atomic .service (emit row.organization actor "change_exception.resolved"
    .changeException id)

end RunbookPlatform
