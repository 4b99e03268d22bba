import RunbookPlatform.Runners.RouteMatching

/-!
# Change windows and freeze rules

## Main definitions

- `recomputeWindowStatus` — the status of a window at an instant
- `invalidateChangeApproval` — the one status write outside the transition table
- `createOrUpdateChangeWindow`
- `createFreezeRule`, `updateFreezeRule`, `deactivateFreezeRule`
-/

namespace RunbookPlatform

open Transactional

/-- `_WINDOW_ALLOWED_STATUSES`. -/
def windowAllowedStatuses : List ChangeStatus := [.draft, .pendingApproval, .approved, .scheduled]

/-- `_WINDOW_INVALIDATION_STATUSES`. -/
def windowInvalidationStatuses : List ChangeStatus := [.approved, .scheduled]

/-- `_CHANGE_TERMINAL_STATUSES`, as the windows see it: `VERIFIED` is among them. -/
def changeTerminalStatuses : List ChangeStatus :=
  [.closed, .verified, .rejected, .canceled, .expired]

/-- `_CHANGE_RUNNING_STATUSES`. -/
def changeRunningStatuses : List ChangeStatus := [.running, .verificationPending]

/-- `_window_status_from_time`. -/
def windowStatusFromTime (startsAt endsAt now : Time) : WindowStatus :=
  if now < startsAt then .scheduled else if now ≤ endsAt then .open else .expired

/-- `recompute_window_status`. -/
def recomputeWindowStatus (window : ChangeWindow) (change : ChangeStatus) (now : Time) :
    WindowStatus :=
  if change ∈ changeTerminalStatuses then .closed
  else if change ∈ changeRunningStatuses ∧ window.endsAt < now then .overrun
  else windowStatusFromTime window.startsAt window.endsAt now

/-- The window of a change, with its key. -/
def windowOf? (change : ℕ) (s : Db) : Option (ℕ × ChangeWindow) :=
  s.windows.find? fun _ w => w.changeRecord = change

/-- The cells of an approval invalidation. -/
@[reducible] def invalidationCells : List Cell :=
  [.changes, .changeStatus .pendingApproval, .changeStatus .approved, .changeStatus .scheduled,
    .audit, .statusEvents]

/-- The audit event of an approval invalidation, which has no statuses. -/
def approvalInvalidated (organization : ℕ) (actor : AuditActor) (change : ℕ) : AuditEvent where
  organization := organization
  actor := actor
  eventType := "change.approval_invalidated"
  objectType := .changeRecord
  objectId := change

/-- `_invalidate_change_approval`. -/
def invalidateChangeApproval (change organization : ℕ) (actor : AuditActor) :
    Service invalidationCells Unit := do
  moveChange change windowInvalidationStatuses .pendingApproval
    fun c => { c with approvedAt := none }
  emitEvent (approvalInvalidated organization actor change)

/-- The arguments of `create_or_update_change_window`. -/
structure WindowRequest where
  startsAt : Time
  endsAt : Time
  timezoneName : String := ""
  reason : String := ""

/-- The window row of a request: a fresh one, or the existing one rewritten. -/
def WindowRequest.apply (req : WindowRequest) (status : WindowStatus) (updatedBy : Option String)
    (window : ChangeWindow) : ChangeWindow :=
  { window with
    startsAt := req.startsAt
    endsAt := req.endsAt
    timezone := req.timezoneName
    reason := req.reason
    status
    updatedBy }

/-- A new window voids the approval of a change whose profile requires one. -/
def voidApproval (change : ℕ) (c : ChangeRecord) (actor : AuditActor) :
    Service invalidationCells Unit := do
  if c.status ∈ windowInvalidationStatuses then
    let profile ← lookup (·.reference.profiles) "OperationProfile" c.operationProfile
    if profile.requiresApproval then
      invalidateChangeApproval change c.organization actor

/-- Create the window of a change, or rewrite it. Returns its key. -/
def putWindow (change organization : ℕ) (req : WindowRequest) (actor : AuditActor) (now : Time) :
    Service [.windows] ℕ := do
  let status := windowStatusFromTime req.startsAt req.endsAt now
  match ← select (windowOf? change) with
  | some (window, _) =>
    updateRow Rel.windows window (req.apply status actor.userId?)
    pure window
  | none =>
    insertUnique Rel.windows (·.changeRecord = change) <|
      req.apply status actor.userId?
        { organization, changeRecord := change, startsAt := req.startsAt, endsAt := req.endsAt
          status }

/-- The transaction of `create_or_update_change_window`. -/
def saveChangeWindow (change : ℕ) (req : WindowRequest) (actor : AuditActor) (now : Time) :
    Service (.windows :: invalidationCells) ℕ := do
  let c ← lookup Db.changes "ChangeRecord" change
  ensure (c.status ∈ windowAllowedStatuses) <| .transition "window_update_not_allowed"
    s!"Cannot update window for change with status '{c.status.value}'."
  (voidApproval change c actor).widen
  let window ← (putWindow change c.organization req actor now).widen
  emit c.organization actor "change.window_updated" .changeWindow window
  pure window

/-- `create_or_update_change_window`, on the change object the view loaded. -/
def createOrUpdateChangeWindow (change : Loaded ChangeRecord) (req : WindowRequest)
    (actor : AuditActor) : Handler (.windows :: invalidationCells) ℕ := do
  Prog.read do
    ensure (change.row.status ∈ windowAllowedStatuses) <|
      .transition "window_update_not_allowed"
        s!"Cannot update window for change with status '{change.row.status.value}'. Window updates are only allowed before dispatch."
    ensure (req.startsAt < req.endsAt) <|
      .validation "window_ends_before_starts" "ends_at must be after starts_at."
  let now ← Prog.read timezoneNow
  Prog.atomic (.saveWindow change.id) (saveChangeWindow change.id req actor now)

-- ════════════════════════════════════════════════════════════════════════
-- Freeze rules
-- ════════════════════════════════════════════════════════════════════════

/-- The checks that `create_freeze_rule` and `update_freeze_rule` share. -/
def validateFreezeRule (rule : FreezeRule) : Read Unit := do
  ensure (rule.startsAt < rule.endsAt) <|
    .validation "invalid_time_range" "ends_at must be after starts_at."
  ensure (rule.behavior = .allowWithException → rule.requiresExceptionReference) <|
    .validation "exception_behavior_requires_ref"
      "allow_with_exception behavior requires requires_exception_reference=True."
  ensure (rule.scopeType = .targetType → rule.targetType ≠ "") <|
    .validation "target_type_required"
      "target_type is required when scope_type is 'target_type'."
  ensure (rule.scopeType = .targetIdentifier → rule.targetIdentifier ≠ "") <|
    .validation "target_identifier_required"
      "target_identifier is required when scope_type is 'target_identifier'."

/-- `create_freeze_rule`. The caller gives the columns of the rule; the normalized
identifier, the flag and the authors are set here. -/
def createFreezeRule (env : Env) (rule : FreezeRule) (actor : AuditActor) :
    Handler [.freezeRules, .audit] ℕ := do
  Prog.read (validateFreezeRule rule)
  let id ← Prog.atomic .service <| insertRow (W := [.freezeRules]) Rel.freezeRules
    { rule with
      normalizedIdentifier :=
        if rule.targetIdentifier = "" then ""
        else normalizeTargetIdentifier env rule.targetIdentifier
      isActive := true
      createdBy := actor.userId?
      updatedBy := actor.userId? }
  Prog.atomic .service (emit rule.organization actor "freeze_rule.created" .freezeRule id)
  pure id

/-- The optional arguments of `update_freeze_rule`. -/
structure FreezeRuleUpdate where
  name : Option String := none
  description : Option String := none
  behavior : Option FreezeBehavior := none
  startsAt : Option Time := none
  endsAt : Option Time := none
  scopeType : Option FreezeScope := none
  targetType : Option String := none
  targetIdentifier : Option String := none
  requiresExceptionReference : Option Bool := none

/-- The columns an update saves. -/
def FreezeRuleUpdate.apply (env : Env) (u : FreezeRuleUpdate) (rule : FreezeRule) : FreezeRule :=
  { rule with
    name := u.name.getD rule.name
    description := u.description.getD rule.description
    behavior := u.behavior.getD rule.behavior
    startsAt := u.startsAt.getD rule.startsAt
    endsAt := u.endsAt.getD rule.endsAt
    scopeType := u.scopeType.getD rule.scopeType
    targetType := u.targetType.getD rule.targetType
    targetIdentifier := u.targetIdentifier.getD rule.targetIdentifier
    normalizedIdentifier :=
      (u.targetIdentifier.map (normalizeTargetIdentifier env)).getD rule.normalizedIdentifier
    requiresExceptionReference :=
      u.requiresExceptionReference.getD rule.requiresExceptionReference }

/-- `update_freeze_rule`, on the rule object the view loaded. -/
def updateFreezeRule (env : Env) (rule : Loaded FreezeRule) (u : FreezeRuleUpdate)
    (actor : AuditActor) : Handler [.freezeRules, .audit] Unit := do
  Prog.read do
    ensure rule.row.isActive <|
      .validation "freeze_rule_inactive" "Cannot update an inactive freeze rule."
    validateFreezeRule (u.apply env rule.row)
  Prog.atomic .service <| updateRow (W := [.freezeRules]) Rel.freezeRules rule.id fun r =>
    { u.apply env r with updatedBy := actor.userId?.or r.updatedBy }
  Prog.atomic .service (emit rule.row.organization actor "freeze_rule.updated" .freezeRule rule.id)

/-- `deactivate_freeze_rule`, on the rule object the view loaded. -/
def deactivateFreezeRule (rule : Loaded FreezeRule) (actor : AuditActor) :
    Handler [.freezeRules, .audit] Unit := do
  if !rule.row.isActive then
    pure ()
  else
    Prog.atomic .service <| updateRow (W := [.freezeRules]) Rel.freezeRules rule.id fun r =>
      { r with isActive := false, updatedBy := actor.userId?.or r.updatedBy }
    Prog.atomic .service (emit rule.row.organization actor "freeze_rule.deactivated"
      .freezeRule rule.id)

end RunbookPlatform
