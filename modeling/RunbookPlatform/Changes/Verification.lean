import RunbookPlatform.Changes.Evidence

/-!
# Verification results

An accepted result moves its check, and the plan and the change are recomputed from the
checks after it. A rejected result is recorded and changes nothing else.

## Main definitions

- `recomputeVerificationState` — plan counts and status, and the change's transition
- `submitVerificationResult`
- `recordRunnerVerificationResult`, `submitUserVerificationResult` — the two entries
-/

namespace RunbookPlatform

open Transactional

set_option synthInstance.maxSize 1000

/-- The plan status that `recompute_verification_state` derives from the checks. -/
def recomputedPlanStatus (plan : VerificationPlan) (checks : List VerificationCheck) :
    PlanStatus :=
  let required := checks.filter (·.required)
  let satisfied := required.countP (·.status = .passed)
  if required.any (·.status = .failed) then .failed
  else if required ≠ [] ∧ satisfied = required.length then .satisfied
  else if plan.status = .satisfied ∨ plan.status = .failed then
    if plan.activatedAt.isSome then .active else .generated
  else plan.status

/-- The plan row that `recompute_verification_state` saves. -/
def recomputePlan (checks : List VerificationCheck) (now : Time) (plan : VerificationPlan) :
    VerificationPlan :=
  let required := checks.filter (·.required)
  let status := recomputedPlanStatus plan checks
  { plan with
    status
    satisfiedRequiredCount := required.countP (·.status = .passed)
    failedRequiredCount := required.countP (·.status = .failed)
    failedAt := if status = .failed then plan.failedAt.or (some now) else plan.failedAt
    satisfiedAt :=
      if status = .satisfied then plan.satisfiedAt.or (some now) else plan.satisfiedAt }

/-- The cells of a recomputation. -/
@[reducible] def recomputeCells : List Cell :=
  [.plans, .changes, .changeStatus .verified, .changeStatus .verificationFailed,
    .changeStatus .verificationPending, .audit, .statusEvents]

/-- `recompute_verification_state`. -/
def recomputeVerificationState (change : ℕ) (actor : AuditActor) :
    Service recomputeCells Unit := do
  let row ← lookup Db.changes "ChangeRecord" change
  let found ← select (planOf? change)
  let (id, plan) ← expect found (.notFound "VerificationPlan")
  let checks ← select (checksOf id)
  let now ← timezoneNow
  let status := recomputedPlanStatus plan (checks.map (·.row))
  updateRow Rel.plans id (recomputePlan (checks.map (·.row)) now)
  if plan.status ≠ status then
    emit plan.organization actor "change.verification_plan_status_changed" .changeRecord
      plan.changeRecord plan.status.value status.value
  if row.status = .verificationPending then
    if status = .failed then
      let _ ← transitionChange change .verificationFailed actor now
    else if status = .satisfied then
      let _ ← transitionChange change .verified actor now

/-- `_apply_accepted_verification_result`. -/
def applyAcceptedVerificationResult (check result : ℕ) (outcome : ResultOutcome) :
    Service [.checks] Unit := do
  let now ← timezoneNow
  updateRow Rel.checks check fun c =>
    match outcome with
    | .passed =>
      { c with
        lastResult := some result
        status := .passed
        satisfiedAt := c.satisfiedAt.or (some now) }
    | .failed =>
      { c with
        lastResult := some result
        status := .failed
        failedAt := c.failedAt.or (some now) }

/-- The result row of a submission with the given validation errors. -/
def resultRow (req : ResultRequest) (organization plan check : ℕ) (artifact : Option Artifact)
    (errors : List Json) (submittedAt now : Time) : VerificationResult where
  organization := organization
  changeRecord := req.change
  plan := plan
  verificationCheck := check
  source := req.source
  outcome := req.outcome
  validationStatus := if errors = [] then .accepted else .rejected
  submittedBy := if req.source = .user then req.submittedBy.map (·.id) else none
  runnerId := if req.source = .runner then req.runnerId else ""
  verificationKey := strip req.verificationKey
  artifact := if errors = [] then artifact.bind fun _ => req.artifact else none
  artifactChecksumSha256 :=
    if strip req.artifactChecksumSha256 ≠ "" then strip req.artifactChecksumSha256
    else (artifact.map (·.checksumSha256)).getD ""
  externalReference := String.ofList ((strip req.externalReference).toList.take 1024)
  apiAssertionSnapshot := req.apiAssertionSnapshot
  manualAttestationText := strip req.manualAttestationText
  observedValue := req.observedValue
  validationErrors := errors
  submittedAt := submittedAt
  validatedAt := now

/-- The cells of a verification result. -/
@[reducible] def resultCells : List Cell :=
  [.results, .checks, .exceptions, .sessions, .plans, .changes, .changeStatus .verified,
    .changeStatus .verificationFailed, .changeStatus .verificationPending, .audit, .statusEvents]

/-- The transaction of `submit_verification_result`. Returns the result's key. -/
def submitVerificationResultTx (env : Env) (req : ResultRequest) (submittedAt : Time)
    (actor : AuditActor) : Service resultCells ℕ := do
  let change ← lookup Db.changes "ChangeRecord" req.change
  let profile ← lookup (·.reference.profiles) "OperationProfile" change.operationProfile
  let now ← timezoneNow
  (sweepEmergency req.change).widen
  let found ← select (planOf? req.change)
  let (plan, planRow) ← expect found (.notFound "VerificationPlan")
  let checks ← select (checksOf plan)
  let check ← expect (checks.find? (·.row.key = req.checkKey)) (.notFound "VerificationCheck")
  let artifact ← select fun s => req.artifact.bind s.artifacts.get?
  let errors ← validateVerificationEvidence env req change profile ⟨plan, planRow⟩ check.row
  -- `VerificationResult.clean`: an attached artifact is of the change's organization
  ensure (errors = [] → ∀ a ∈ artifact, a.organization = change.organization)
    (.uncaught "ValidationError")
  let result ← insertRow Rel.results
    (resultRow req change.organization plan check.id artifact errors submittedAt now)
  if errors = [] then
    emit change.organization actor "change.verification_result_accepted" .changeRecord req.change
    applyAcceptedVerificationResult check.id result req.outcome
    recomputeVerificationState req.change actor
  else
    emit change.organization actor "change.verification_result_rejected" .changeRecord req.change
  pure result

/-- `submit_verification_result`. -/
def submitVerificationResult (env : Env) (req : ResultRequest) (actor : AuditActor) :
    Handler resultCells ℕ := do
  Prog.read do
    ensure req.observedValue.isObj <| .validation "verification_result_observed_value_invalid"
      "observed_value must be a JSON object."
    ensure req.apiAssertionSnapshot.isObj <| .validation "verification_result_api_assertion_invalid"
      "api_assertion_snapshot must be a JSON object."
  let now ← Prog.read timezoneNow
  Prog.atomic (.submitResult req.change)
    (submitVerificationResultTx env req (req.submittedAt.getD now) actor)

/-- The arguments of `record_runner_verification_result`. -/
structure RunnerResultRequest where
  change : ℕ
  runnerId : String
  claimToken : String
  execution : ℕ
  checkKey : String
  outcome : ResultOutcome
  verificationKey : String := ""
  stepKey : String := ""
  artifactIds : List ℕ := []
  artifactChecksums : Json := .obj []
  observedValue : Json := .obj []
  metadata : Json := .obj []
  submittedAt : Option Time := none

/-- `{**observed_value, "metadata": metadata}`. -/
def withMetadata (observedValue metadata : Json) : Json :=
  if metadata.truthy then
    .obj (observedValue.fields.filter (·.1 ≠ "metadata") ++ [("metadata", metadata)])
  else .obj observedValue.fields

/-- The submission a runner's report becomes. -/
def RunnerResultRequest.toResult (env : Env) (req : RunnerResultRequest) : ResultRequest where
  change := req.change
  checkKey := req.checkKey
  source := .runner
  outcome := req.outcome
  runnerId := req.runnerId
  execution := some req.execution
  verificationKey := req.verificationKey
  sourceStepKey := req.stepKey
  artifact := req.artifactIds.head?
  artifactChecksumSha256 :=
    match req.artifactIds.head? with
    | some id => strip (pyStr env (req.artifactChecksums.getD (idText id) (.str "")))
    | none => ""
  observedValue := withMetadata req.observedValue req.metadata
  submittedAt := req.submittedAt

/-- The ownership check of `record_runner_verification_result`, its first transaction. -/
def checkResultOwnership (req : RunnerResultRequest) : Read Unit := do
  let (_, _, binding) ← resolveBoundBinding req.change req.runnerId req.execution
  let execution ← lookup Db.executions "Execution" binding.execution
  ensure (claimTokenText execution = req.claimToken) <| .transition "claim_token_mismatch"
    "Claim token is invalid."

/-- `record_runner_verification_result`. -/
def recordRunnerVerificationResult (env : Env) (req : RunnerResultRequest) :
    Handler resultCells ℕ := do
  Prog.read (checkResultOwnership req)
  submitVerificationResult env (req.toResult env) (runnerActor req.runnerId)

/-- `submit_user_verification_result`. -/
def submitUserVerificationResult (env : Env) (user : User) (req : ResultRequest) :
    Handler resultCells ℕ :=
  submitVerificationResult env { req with source := .user, submittedBy := some user }
    { actorType := .user, actorId := user.id
      actorLabel := if user.email ≠ "" then user.email else user.id }

end RunbookPlatform
