import RunbookPlatform.Runners.Scheduling

/-!
# Approval decisions

A pending request is resolved once: by a human decision, by a reader who finds its
deadline over, or by the watchdog, which also fails the execution that waits for it.

## Main definitions

- `getApprovalStatus` — the read that resolves a timeout
- `recoverExpiredApprovals` — the watchdog's sweep
- `decideApproval`
-/

namespace RunbookPlatform

open Transactional

set_option synthInstance.maxSize 1000

/-- The request is pending and its deadline is over. -/
def ApprovalRequest.isOverdue (request : ApprovalRequest) (now : Time) : Bool :=
  request.status = .pending && request.expiresAt.any (· ≤ now)

/-- The decision row of a timeout. -/
def timeoutDecision (approval : ℕ) (now : Time) : ApprovalDecision where
  approvalRequest := approval
  decision := .timedOut
  human := false
  decidedByLabel := "system"
  decidedByLabelSource := "system"
  decidedAt := now

/-- `_emit_approval_decision_audit`. -/
def emitApprovalDecision (organization decision : ℕ) (status : ApprovalStatus)
    (actor : AuditActor) : Service [.audit] Unit :=
  emit organization actor ("approval." ++ status.value) .approvalDecision decision "" ""
    (by cases status <;> decide)

/-- `ApprovalDecision.objects.get_or_create(...)` for a timeout. Returns whether the decision
is new. -/
def getOrCreateTimeoutDecision (approval organization : ℕ) (now : Time) :
    Service [.decisions, .audit] Bool := do
  let existing ← select fun s => (s.decisions.find? fun _ d => d.approvalRequest = approval).isSome
  if existing then
    pure false
  else
    let decision ← insertRow Rel.decisions
      (timeoutDecision approval now)
    emitApprovalDecision organization decision .timedOut systemActor
    pure true

/-- The cells of a resolved timeout. -/
@[reducible] def approvalStatusCells : List Cell :=
  [.approvals, .decisions, .audit, .statusEvents, .changes, .changeStatus .expired,
    .changeStatus .pendingApproval]

/-- The transaction of `get_approval_status`. Returns the request as it is then. -/
def resolveTimeout (env : Env) (approval : ℕ) (now : Time) :
    Service approvalStatusCells ApprovalRequest := do
  let request ← lookup Db.approvals "ApprovalRequest" approval
  if request.status ≠ .pending then
    pure request
  else
    resolveRequest approval .timedOut now
    let _ ← (getOrCreateTimeoutDecision approval request.organization now).widen
    if request.subjectType = .changeRecord then
      (timeOutChangeApproval env approval systemActor).widen
    pure (resolveApproval .timedOut now request)

/-- `get_approval_status`, on the request object the caller loaded. -/
def getApprovalStatus (env : Env) (approval : Loaded ApprovalRequest) :
    Handler approvalStatusCells ApprovalRequest := do
  let now ← Prog.read timezoneNow
  if approval.row.isOverdue now then
    Prog.atomic .service (resolveTimeout env approval.id now)
  else
    pure approval.row

/-- The detail endpoint: the status of one request is resolved on reading. -/
def readApproval (env : Env) (approval : ℕ) : Handler approvalStatusCells Unit := do
  let row ← Prog.read (lookup Db.approvals "ApprovalRequest" approval)
  let _ ← getApprovalStatus env ⟨approval, row⟩

-- ════════════════════════════════════════════════════════════════════════
-- The watchdog
-- ════════════════════════════════════════════════════════════════════════

/-- The cells of a recovered approval. -/
@[reducible] def recoverApprovalCells : List Cell :=
  [.steps, .executions, .executionStatus .failed, .executionStatus .claimed,
    .executionStatus .running, .audit, .statusEvents, .changes, .changeStatus .expired,
    .changeStatus .pendingApproval, .changeStatus .dispatchable,
    .changeStatus .closed, .changeStatus .running, .changeStatus .verified,
    .changeStatus .verificationFailed, .changeStatus .verificationPending, .plans, .sessions,
    .approvals, .decisions]

instance recoverApprovalCells_within : Within recoverApprovalCells recoverApprovalCells :=
  ⟨List.Subset.refl _⟩

/-- What a timed-out request does to its subject. -/
def timeOutSubject (env : Env) (approval : ℕ) (request : ApprovalRequest) (now : Time) :
    Service recoverApprovalCells Unit := do
  if request.subjectType = .changeRecord then
    (timeOutChangeApproval env approval systemActor).widen
  else
    match request.execution, request.step with
    | some execution, some step =>
      let _ ← (failExecutionForApprovalTimeout env execution step now).widen
    | _, _ => pure ()

/-- `_recover_expired_approval`. -/
def recoverExpiredApproval (env : Env) (approval : ℕ) (now : Time) :
    Service recoverApprovalCells Unit := do
  let found ← select fun s => (s.approvals.get? approval).filter (·.isOverdue now)
  match found with
  | none => pure ()
  | some request =>
    resolveRequest approval .timedOut now
    let created ← (getOrCreateTimeoutDecision approval request.organization now).widen
    if created then
      emit request.organization systemActor "approval.timeout" .approvalRequest approval
      timeOutSubject env approval request now

/-- Insert a request by its deadline; among equals the older row stays first. -/
def insertByDeadline (a : Loaded ApprovalRequest) :
    List (Loaded ApprovalRequest) → List (Loaded ApprovalRequest)
  | [] => [a]
  | b :: bs =>
    if a.row.expiresAt.getD 0 ≤ b.row.expiresAt.getD 0 then a :: b :: bs
    else b :: insertByDeadline a bs

/-- `recover_expired_approvals`. -/
def recoverExpiredApprovals (env : Env) (batchSize : ℕ := 100) :
    Handler recoverApprovalCells Unit := do
  let now ← Prog.read timezoneNow
  let overdue ← Prog.read (select fun s =>
    ((rowsWhere s.approvals (·.isOverdue now)).foldr insertByDeadline []).take batchSize)
  Prog.forEach (fun a =>
    Prog.atomic (.recoverApproval a.id now) (recoverExpiredApproval env a.id now)) overdue

-- ════════════════════════════════════════════════════════════════════════
-- Human decisions
-- ════════════════════════════════════════════════════════════════════════

/-- The cells of a human decision. -/
@[reducible] def decideCells : List Cell :=
  [.changes, .changeRetro, .changeStatus .draft, .changeStatus .pendingApproval, .changeStatus .approved,
    .changeStatus .rejected, .changeStatus .expired, .changeStatus .scheduled,
    .changeStatus .dispatchable, .bindings, .targetLocks, .executions, .executionStatus .queued,
    .steps, .plans, .checks, .exceptions, .exceptionOutcome, .exceptionEnds, .sessions, .preflights,
    .approvals, .decisions, .audit,
    .statusEvents]

/-- The timeout branch of `decide_approval`: the request is resolved as timed out, and that
is committed. -/
def decideOverdue (env : Env) (approval : ℕ) (request : ApprovalRequest) (now : Time) :
    Service approvalStatusCells Unit := do
  resolveRequest approval .timedOut now
  let decision ← insertUnique Rel.decisions
    (·.approvalRequest = approval) (timeoutDecision approval now)
  emitApprovalDecision request.organization decision .timedOut systemActor
  if request.subjectType = .changeRecord then
    (timeOutChangeApproval env approval systemActor).widen

/-- The decision row of a human. -/
def humanDecision (approval : ℕ) (status : ApprovalStatus) (actor : AuditActor)
    (notes : String) (now : Time) : ApprovalDecision where
  approvalRequest := approval
  decision := status
  human := true
  decidedByUser := actor.userId?
  decidedByLabel := actor.actorLabel
  decidedByLabelSource :=
    if actor.actorType = .user then "authenticated_user" else "unverified_pre_auth"
  notes := notes
  decidedAt := now

/-- What a decision does to an exception. Returns it when it is severe. -/
def decideException (approval : ℕ) (request : ApprovalRequest) (decision : HumanDecision)
    (actor : AuditActor) : Service decideCells (Option (Loaded ChangeException)) :=
  if request.subjectType = .changeException then
    (applyExceptionApprovalDecision approval request.organization decision actor
      actor.userId?).widen
  else pure none

/-- What a decision does to a change. -/
def decideChange (env : Env) (approval : ℕ) (request : ApprovalRequest) (decision : HumanDecision)
    (actor : AuditActor) (nonce : String) : Service decideCells Unit :=
  if request.subjectType = .changeRecord then
    (handleChangeApprovalDecision env approval decision actor nonce).widen
  else pure ()

/-- The transaction of `decide_approval`. Returns the exception whose retro-review the commit
hook has to ensure. -/
def decideApprovalTx (env : Env) (approval : ℕ) (decision : HumanDecision) (notes : String)
    (actor : AuditActor) (nonce : String) : Service decideCells (Option (Loaded ChangeException)) := do
  let request ← lookup Db.approvals "ApprovalRequest" approval
  let now ← timezoneNow
  if request.isOverdue now then
    (decideOverdue env approval request now).widen
    pure none
  else
    ensure (request.status = .pending) <| .conflict "approval_request_not_pending"
      s!"Approval request is already in terminal state '{request.status.value}'."
    let severe ← decideException approval request decision actor
    resolveRequest approval decision.status now
    let row ← insertUnique Rel.decisions (·.approvalRequest = approval)
      (humanDecision approval decision.status actor notes now)
    emitApprovalDecision request.organization row decision.status actor
    decideChange env approval request decision actor nonce
    pure severe

/-- `decide_approval`, with the hook that runs after its commit. -/
def decideApproval (env : Env) (approval : ℕ) (decision : HumanDecision) (notes : String)
    (actor : AuditActor) (nonce : String) : Handler decideCells Unit := do
  match ← Prog.atomic (.decideApproval approval decision)
      (decideApprovalTx env approval decision notes actor nonce) with
  | some exc => Prog.read (ensureRetroReviewForException exc.id exc.row)
  | none => pure ()

end RunbookPlatform
