import RunbookPlatform.Changes.Exceptions

/-!
# Breakglass sessions and retro-reviews

A breakglass session opens named gates of one change for a limited time, and owes a
retro-review. At most one session of a change is active.

## Main definitions

- `activateBreakglass`, `endChangeBreakglass`, `recordBreakglassHeartbeat`
- `submitRetroReview`
- `markBreakglassReviewOverdue`, `markOverdueRetroReviews`
-/

namespace RunbookPlatform

open Transactional

set_option synthInstance.maxSize 1000

/-- `value or default`, for a duration column. -/
def secondsOr (value : Option ℕ) (default : ℕ) : ℕ :=
  match value with
  | some 0 | none => default
  | some n => n

/-- `_BREAKGLASS_SCOPE_REQUIRED_KEYS`, in the order in which their lists are checked. -/
def breakglassScopeKeys : List String := ["allowed_actions", "target_ids", "gate_types"]

/-- `_BREAKGLASS_SCOPE_FORBIDDEN_KEYS`. -/
def breakglassForbiddenKeys : List String :=
  ["api_key", "apikey", "auth", "bearer", "bearer_token", "cloud_role", "host_credentials",
    "iam_role", "iam_policy", "kubeconfig", "password", "private_key", "secret", "ssh_key",
    "token"]

/-- `_validate_breakglass_scope`. -/
def validateBreakglassScope (env : Env) (scope : Json) : Read Unit := do
  ensure scope.isObj <| .validation "breakglass_scope_invalid" "scope_json must be a JSON object."
  let missing := Json.sortTexts (breakglassScopeKeys.filter (· ∉ scope.keys))
  ensure (missing = []) <| .validation "breakglass_scope_missing_keys"
    s!"scope_json is missing required keys: {(Json.ofStrings missing).repr env.reprText}."
  let hollow := breakglassScopeKeys.find? fun key =>
    decide ((scope.getD key .null).items?.getD [] = [])
  match hollow with
  | some key =>
    raise (.validation "breakglass_scope_empty_list" s!"scope_json.{key} must be a non-empty list.")
  | none =>
    match scope.keys.find? fun key => env.lower key ∈ breakglassForbiddenKeys with
    | some key =>
      raise (.validation "breakglass_scope_forbidden_key"
        s!"scope_json must not contain credential or privilege material: {key}.")
    | none => pure ()

/-- `_BREAKGLASS_ACTIVATABLE_STATUSES`. -/
def breakglassActivatableStatuses : List ChangeStatus :=
  [.approved, .dispatchable, .running, .verificationPending, .verificationFailed, .verified]

/-- The arguments of `activate_breakglass`. -/
structure BreakglassRequest where
  change : ℕ
  scopeJson : Json
  reason : String
  expiresAt : Time
  activatedBy : Option String := none

/-- The checks of `activate_breakglass`. Returns the change and the review's due date. -/
def checkBreakglassActivation (env : Env) (req : BreakglassRequest) (now : Time) :
    Read (ChangeRecord × Time) := do
  let row ← lookup Db.changes "ChangeRecord" req.change
  ensure (row.status ∈ breakglassActivatableStatuses) <|
    .conflict "change_status_invalid_for_breakglass"
      s!"Breakglass cannot be activated for a change in status '{row.status.value}'."
  let profile ← lookup (·.reference.profiles) "OperationProfile" row.operationProfile
  ensure profile.allowEmergencyChanges <| .validation "breakglass_not_allowed"
    "Operation profile does not allow emergency changes or breakglass."
  let maxSeconds := secondsOr profile.maxBreakglassSeconds 14400
  ensure (now < req.expiresAt) <| .validation "breakglass_expires_at_past"
    "expires_at must be a future datetime."
  ensure (req.expiresAt - now ≤ seconds maxSeconds) <| .validation "breakglass_ttl_exceeded"
    s!"Requested breakglass duration exceeds the profile maximum of {maxSeconds} seconds."
  validateBreakglassScope env req.scopeJson
  let targets ← select (targetsOf req.change)
  let unknown := Json.sortTexts (((scopeItems req.scopeJson "target_ids").map (pyStr env)).filter
    (· ∉ targets.map (idText ·.id))).dedup
  ensure (unknown = []) <| .validation "breakglass_scope_unknown_targets"
    s!"scope_json.target_ids contains IDs not belonging to this change: {(Json.ofStrings unknown).repr env.reprText}."
  pure (row, now + seconds (secondsOr profile.retroReviewSlaSeconds 86400))

/-- The columns that a new retro-review saves on its change. -/
def requireRetroReviewBy (dueAt : Time) (c : ChangeRecord) : ChangeRecord :=
  { c with
    retroReviewRequired := true
    retroReviewDueAt :=
      match c.retroReviewDueAt with
      | none => some dueAt
      | some old => if dueAt < old then some dueAt else some old
    retroReviewBlockingStatus := "pending" }

/-- `activate_breakglass`. Returns the session's key. -/
def activateBreakglass (env : Env) (req : BreakglassRequest) (actor : AuditActor) :
    Service [.sessions, .sessionRows, .retroReviews, .changes, .changeRetro, .audit] ℕ := do
  let now ← timezoneNow
  (sweepSessions req.change).widen
  let (row, reviewDueAt) ← checkBreakglassActivation env req now
  let session ← createSession (fun b => b.changeRecord = req.change && b.status = .active)
    { organization := row.organization
      changeRecord := req.change
      status := .active
      scopeJson := req.scopeJson
      scopeSha256 := sha256CanonicalJson env req.scopeJson
      reason := String.ofList (req.reason.toList.take 4000)
      activatedBy := req.activatedBy
      startedAt := now
      expiresAt := req.expiresAt
      reviewDueAt }
  updateRetro req.change (requireRetroReviewBy reviewDueAt)
  let review ← insertRow Rel.retroReviews
    { organization := row.organization
      changeRecord := req.change
      breakglassSession := some session
      dueAt := reviewDueAt }
  emit row.organization actor "breakglass.activated" .breakglassSession session
  emit row.organization (systemActor "breakglass-activation") "retro_review.required"
    .retroReview review
  pure session

/-- The endpoint of `end_breakglass`: it ends the active session of the change. -/
def endChangeBreakglass (change : ℕ) (actor : AuditActor) (endReason : String) :
    Handler [.sessions, .sessionEnds, .audit] Unit := do
  let found ← Prog.read (select (activeSession? change))
  let (id, session) ← Prog.read (expect found (.notFound "BreakglassSession"))
  endBreakglass ⟨id, session⟩ actor (if endReason = "" then "manual_end" else endReason)
    actor.userId?

/-- `record_breakglass_heartbeat`: an observation, which extends nothing. -/
def recordBreakglassHeartbeat (change : ℕ) (runnerId claimToken : String) (observedSession : ℕ)
    (observedAt : Option Time) :
    Handler [.sessions, .sessionEnds, .sessionReviews, .audit] Unit := do
  let clock ← Prog.read timezoneNow
  let now := observedAt.getD clock
  Prog.read do
    let found ← select (bindingOfChange? change)
    let (_, binding) ← expect found <| .validation "no_execution_binding"
      "No execution is bound to this change."
    let execution ← lookup Db.executions "Execution" binding.execution
    validateRunnerOwnership execution runnerId claimToken
  expireBreakglassSessions (some change) now
  match ← Prog.read (select (activeSession? change)) with
  | none => pure ()
  | some (id, session) =>
    if id = observedSession then
      Prog.atomic .service (saveSession (W := [.sessions]) id fun b =>
        { b with lastHeartbeatAt := some now })
      Prog.atomic .service (emit session.organization (systemActor s!"runner:{runnerId}")
        "breakglass.heartbeat_observed" .breakglassSession id)

/-- `mark_breakglass_review_overdue`. -/
def markBreakglassReviewOverdue : Handler [.sessions, .sessionReviews, .audit] Unit := do
  let now ← Prog.read timezoneNow
  let overdue ← Prog.read (select fun s => rowsWhere s.sessions fun b =>
    b.reviewStatus = .pending && b.reviewDueAt ≤ now)
  Prog.forEach (fun session => do
    Prog.atomic (.markSessionOverdue session.id)
      (saveSession (W := [.sessions, .sessionReviews]) session.id fun b =>
        { b with reviewStatus := .overdue })
    Prog.atomic .service (emit session.row.organization (systemActor "overdue-check")
      "retro_review.overdue" .breakglassSession session.id)) overdue

-- ════════════════════════════════════════════════════════════════════════
-- Retro-reviews
-- ════════════════════════════════════════════════════════════════════════

/-- The blocking status that `_recompute_change_retro_review_status` derives from the
reviews: the first control failure ends the scan. -/
def retroBlockingStatus (now : Time) : String → List RetroReview → String
  | status, [] => status
  | status, review :: rest =>
    match review.status with
    | .submitted =>
      if review.disposition = some .controlFailure then "control_failure"
      else retroBlockingStatus now status rest
    | .pending =>
      if review.dueAt ≤ now then retroBlockingStatus now "overdue" rest
      else retroBlockingStatus now (if status = "overdue" then status else "pending") rest
    | .superseded => retroBlockingStatus now status rest

/-- `_recompute_change_retro_review_status`. -/
def recomputeChangeRetroReviewStatus (change : ℕ) : Service [.changes, .changeRetro] Unit := do
  let reviews ← select fun s => rowsWhere s.retroReviews (·.changeRecord = change)
  let now ← timezoneNow
  if reviews ≠ [] then
    updateRetro change fun c =>
      { c with retroReviewBlockingStatus := retroBlockingStatus now "" (reviews.map (·.row)) }

/-- The arguments of `submit_retro_review`. -/
structure RetroReviewRequest where
  review : ℕ
  reviewedBy : Option String
  disposition : String
  summary : String
  evidenceJson : Json := .obj []
  remediationReference : String := ""

/-- The reviewer had a part in what is reviewed: the error of the self-review check. -/
def selfReview? (review : RetroReview) (user : Option String) (s : Db) : Option String :=
  let activator := review.breakglassSession.bind s.sessions.get? |>.bind (·.activatedBy)
  let requester := review.changeException.bind s.exceptions.get? |>.bind (·.requestedBy)
  if user.isSome ∧ user = activator then
    some "The breakglass activator cannot review their own session."
  else if user.isSome ∧ user = requester then
    some "The exception requester cannot review their own exception."
  else none

/-- The checks of `submit_retro_review` on the disposition. -/
def checkDisposition (review : RetroReview) (req : RetroReviewRequest)
    (disposition : Disposition) : Read Unit := do
  let admin ← select fun s => req.reviewedBy.all fun u => isOrganizationAdmin review.organization u s
  match disposition with
  | .accepted => pure ()
  | .needsRemediation =>
    ensure (strip req.remediationReference ≠ "") <|
      .validation "retro_review_remediation_reference_required"
        "A remediation reference is required for 'needs_remediation' disposition."
  | .controlFailure =>
    ensure (strip req.remediationReference ≠ "") <|
      .validation "retro_review_remediation_reference_required"
        "A remediation reference is required for 'control_failure' disposition."
    ensure (admin = true) <| .validation "retro_review_admin_required"
      "control_failure retro-review disposition requires an admin or owner reviewer."

/-- The cells of a retro-review's submission. -/
@[reducible] def retroReviewCells : List Cell := [.retroReviews, .sessions, .changes, .changeRetro, .audit]

/-- The transaction of `submit_retro_review`. -/
def submitRetroReviewTx (req : RetroReviewRequest) (disposition : Disposition) :
    Service retroReviewCells Unit := do
  let review ← lookup Db.retroReviews "RetroReview" req.review
  ensure (review.status = .pending) <| .transition "retro_review_not_pending"
    s!"RetroReview is in status '{review.status.value}'; only pending reviews can be submitted."
  let now ← timezoneNow
  updateRow Rel.retroReviews req.review fun r =>
    { r with
      status := .submitted
      disposition := some disposition
      reviewedBy := req.reviewedBy
      reviewedAt := some now
      summary := req.summary
      evidenceJson := req.evidenceJson
      remediationRequired := disposition = .needsRemediation || disposition = .controlFailure
      remediationReference := req.remediationReference
      controlFailureCategory := req.evidenceJson.getD "control_failure_category" (.str "") }
  match review.breakglassSession with
  | some session =>
    (saveSession (W := [.sessions]) session fun b => { b with reviewStatus := .submitted }).widen
  | none => pure ()
  recomputeChangeRetroReviewStatus review.changeRecord

/-- `submit_retro_review`. -/
def submitRetroReview (req : RetroReviewRequest) (actor : AuditActor) :
    Handler retroReviewCells Unit := do
  let review ← Prog.read (lookup Db.retroReviews "RetroReview" req.review)
  let disposition ← Prog.read <| expect (Disposition.ofValue? req.disposition) <|
    .validation "retro_review_disposition_invalid" s!"Invalid disposition: '{req.disposition}'."
  Prog.read <| ensure (strip req.summary ≠ "") <|
    .validation "retro_review_summary_required" "Review summary is required."
  match ← Prog.read (select (selfReview? review req.reviewedBy)) with
  | some detail =>
    Prog.atomic .service (emit review.organization actor "retro_review.self_review_rejected"
      .retroReview req.review)
    Prog.fail (.validation "retro_review_self_review_rejected" detail)
  | none =>
    Prog.read (checkDisposition review req disposition)
    Prog.atomic (.submitReview req.review) (submitRetroReviewTx req disposition)
    Prog.atomic .service (emit review.organization actor "retro_review.submitted"
      .retroReview req.review)

/-- `mark_overdue_retro_reviews`. The change objects are loaded with the reviews. -/
def markOverdueRetroReviews : Handler [.changes, .changeRetro, .audit] Unit := do
  let now ← Prog.read timezoneNow
  let overdue ← Prog.read (select fun s => (rowsWhere s.retroReviews fun r =>
    r.status = .pending && r.dueAt ≤ now).map fun r =>
      (r, (s.changes.get? r.row.changeRecord).map (·.retroReviewBlockingStatus)))
  Prog.forEach (fun (review, blockingStatus) => do
    if blockingStatus ≠ some "overdue" then
      Prog.atomic (.markReviewOverdue review.row.changeRecord)
        (updateRetro review.row.changeRecord fun c =>
          { c with retroReviewBlockingStatus := "overdue" })
      Prog.atomic .service (emit review.row.organization (systemActor "overdue-check")
        "retro_review.overdue" .retroReview review.id)) overdue

end RunbookPlatform
