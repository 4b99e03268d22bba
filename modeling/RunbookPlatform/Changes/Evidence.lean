import RunbookPlatform.Changes.Binding

/-!
# Verification evidence

The validation of a submitted verification result. Every check type has its own
conditions; the outcome is a list of errors, and a result without errors is accepted.

## Main definitions

- `ResultRequest` — the arguments of `submit_verification_result`
- `validateRunnerStepEvidence`, `validateArtifactPresenceEvidence`,
  `validateManualAttestationEvidence`, `validateExternalReferenceEvidence`,
  `validateApiAssertionEvidence` — the conditions of each check type
- `validateVerificationEvidence` — all of them
-/

namespace RunbookPlatform

open Transactional

/-- The arguments of `submit_verification_result`. -/
structure ResultRequest where
  change : ℕ
  checkKey : String
  source : ResultSource
  outcome : ResultOutcome
  submittedBy : Option User := none
  runnerId : String := ""
  execution : Option ℕ := none
  verificationKey : String := ""
  sourceStepKey : String := ""
  artifact : Option ℕ := none
  artifactChecksumSha256 : String := ""
  externalReference : String := ""
  apiAssertionSnapshot : Json := .obj []
  manualAttestationText : String := ""
  observedValue : Json := .obj []
  submittedAt : Option Time := none

/-- A validation error without further fields. -/
def evidenceError (code : String) : Json := .obj [("code", .str code)]

/-- The error `code` when `c` holds. -/
def errorIf (c : Prop) [Decidable c] (code : String) : List Json :=
  if c then [evidenceError code] else []

/-- `_bound_execution_for_verification`: the binding of the change, when it is bound and
agrees with the runner and the execution that are given. -/
def boundExecutionForVerification (change : ℕ) (runnerId : String) (execution : Option ℕ)
    (s : Db) : Option ChangeExecutionBinding :=
  ((bindingOfChange? change s).map (·.2)).filter fun b =>
    b.boundAt.isSome && execution.all (· = b.execution) &&
      (runnerId = "" || b.boundByRunnerId = runnerId)

/-- The step of an execution with a key. -/
def stepWithKey? (execution : ℕ) (stepKey : String) (s : Db) : Option (ℕ × ExecutionStep) :=
  s.steps.find? fun _ st => st.execution = execution && st.stepKey = stepKey

/-- `_free_text_only`. -/
def freeTextOnly (req : ResultRequest) : Bool :=
  let hasText := strip req.manualAttestationText ≠ ""
  let hasStructured := req.artifact.isSome || strip req.externalReference ≠ "" ||
    req.apiAssertionSnapshot.truthy || req.observedValue.truthy ||
    strip req.verificationKey ≠ ""
  hasText && !hasStructured

/-- The step conditions of `_validate_runner_step_evidence`: a missing step row is an
error only without an observed value. -/
def validateReportedStep (env : Env) (req : ResultRequest) (step : Option ExecutionStep) :
    List Json :=
  match step with
  | some st =>
    errorIf (req.outcome = .passed ∧ st.status ≠ .succeeded) "execution_step_not_succeeded" ++
      errorIf (req.outcome = .failed ∧ st.status ≠ .failed ∧ st.status ≠ .skipped ∧
        strip (pyStr env (req.observedValue.getD "status" (.str ""))) ≠ "failed")
        "execution_step_not_failed"
  | none => errorIf (req.observedValue.truthy = false) "execution_step_not_found"

/-- `_validate_runner_step_evidence`. -/
def validateRunnerStepEvidence (env : Env) (req : ResultRequest) (check : VerificationCheck)
    (s : Db) : List Json :=
  if req.source ≠ .runner then [evidenceError "runner_step_requires_runner_source"]
  else
    match boundExecutionForVerification req.change req.runnerId req.execution s with
    | none => [evidenceError "runner_ownership_mismatch"]
    | some binding =>
      let expected := check.sourceStepKey
      let submitted :=
        if strip req.sourceStepKey ≠ "" then strip req.sourceStepKey
        else strip (pyStr env (req.observedValue.getD "source_step_key" (.str "")))
      errorIf (expected ≠ "" ∧ submitted ≠ "" ∧ submitted ≠ expected)
          "source_step_key_mismatch" ++
        if expected ≠ "" ∨ submitted ≠ "" then
          let stepKey := if expected ≠ "" then expected else submitted
          validateReportedStep env req ((stepWithKey? binding.execution stepKey s).map (·.2))
        else errorIf (req.observedValue.truthy = false) "runner_step_structured_fact_required"

/-- `_matches_artifact_name`. -/
def matchesArtifactName (env : Env) (name pattern : String) : Bool :=
  if pattern.toList.head? = some '^' ∧ pattern.toList.getLast? = some '$' then
    (env.fullmatch pattern name).getD false
  else name = pattern

/-- `_validate_artifact_presence_evidence`. -/
def validateArtifactPresenceEvidence (env : Env) (req : ResultRequest) (change : ChangeRecord)
    (check : VerificationCheck) (s : Db) : List Json :=
  match req.artifact with
  | none => [evidenceError "artifact_required"]
  | some id =>
    match s.artifacts.get? id with
    | none => [evidenceError "artifact_not_found"]
    | some artifact =>
      let binding := boundExecutionForVerification req.change "" none s
      let stepKey := (artifact.step.bind s.steps.get?).map (·.stepKey)
      errorIf (binding.map (·.execution) ≠ some artifact.execution)
          "artifact_execution_mismatch" ++
        errorIf (artifact.organization ≠ change.organization)
          "artifact_organization_mismatch" ++
        errorIf (artifact.uploadStatus ≠ .available) "artifact_unavailable" ++
        errorIf (check.sourceStepKey ≠ "" ∧ stepKey ≠ some check.sourceStepKey)
          "artifact_step_mismatch" ++
        errorIf (check.artifactKind ≠ "" ∧ artifact.kind.value ≠ check.artifactKind)
          "artifact_kind_mismatch" ++
        errorIf (check.artifactNamePattern ≠ "" ∧
          matchesArtifactName env artifact.name check.artifactNamePattern = false)
          "artifact_name_mismatch" ++
        errorIf (strip req.artifactChecksumSha256 ≠ "" ∧
          strip req.artifactChecksumSha256 ≠ artifact.checksumSha256)
          "artifact_checksum_mismatch" ++
        errorIf (check.expectedChecksumSha256 ≠ "" ∧
          artifact.checksumSha256 ≠ check.expectedChecksumSha256)
          "artifact_expected_checksum_mismatch"

/-- `_disallowed_reviewer_user_ids`. -/
def disallowedReviewerUserIds (change : ChangeRecord) (s : Db) : List String :=
  let decider := change.approvalRequest.bind fun request =>
    (s.decisions.find? fun _ d => d.approvalRequest = request).bind fun d => d.2.decidedByUser
  change.requestedBy.toList ++ change.submittedBy.toList ++ decider.toList

/-- `_validate_user_reviewer`. -/
def validateUserReviewer (env : Env) (change : ChangeRecord) (user : User) (config : Json)
    (independentRequired : Bool) : Read (List Json) := do
  let membership ← select fun s => s.reference.memberships.find? fun _ m =>
    m.organization = change.organization && m.user = user.id
  let roleErrors ← match membership with
    | none => (pure [evidenceError "verification_user_not_org_member"] : Read (List Json))
    | some (_, m) => do
      let allowedRoles := (config.getD "allowed_roles" .null).orElse
        ((config.getD "required_roles" .null).orElse (.arr []))
      if allowedRoles.truthy then
        let roles ← expect allowedRoles.iterate? (.uncaught "TypeError")
        pure (errorIf (m.role.value ∉ roles.map (pyStr env)) "verification_user_role_not_allowed")
      else pure []
  let disallowed ← select (disallowedReviewerUserIds change)
  pure (errorIf (user.isActive = false) "verification_user_inactive" ++ roleErrors ++
    errorIf (independentRequired ∧ user.id ∈ disallowed) "self_review_rejected")

/-- `_check_requires_independent_reviewer`. -/
def checkRequiresIndependentReviewer (profile : OperationProfile) (check : VerificationCheck) :
    Bool :=
  match (check.manualAttestationConfig.orElse (.obj [])).get? "requires_independent_reviewer" with
  | some v => v.truthy
  | none => profile.requiresIndependentReviewer

/-- `_validate_manual_attestation_evidence`. -/
def validateManualAttestationEvidence (env : Env) (req : ResultRequest) (change : ChangeRecord)
    (profile : OperationProfile) (check : VerificationCheck) : Read (List Json) :=
  match req.source, req.submittedBy with
  | .user, some user => do
    let errors ← validateUserReviewer env change user
      (check.manualAttestationConfig.orElse (.obj []))
      (checkRequiresIndependentReviewer profile check)
    pure (errorIf (strip req.manualAttestationText = "") "manual_attestation_text_required" ++
      errors)
  | _, _ => pure [evidenceError "manual_attestation_requires_user"]

/-- `_validate_external_reference_evidence`. -/
def validateExternalReferenceEvidence (env : Env) (req : ResultRequest) (change : ChangeRecord)
    (check : VerificationCheck) : Read (List Json) :=
  match req.source, req.submittedBy with
  | .user, some user => do
    let reference := strip req.externalReference
    let config := check.externalReferenceConfig.orElse (.obj [])
    let pattern := strip (pyStr env (config.getD "pattern" (.str "")))
    let patternErrors :=
      if pattern = "" then []
      else
        match env.fullmatch pattern reference with
        | none => [evidenceError "external_reference_config_invalid"]
        | some ok => errorIf (ok = false) "external_reference_invalid"
    let hosts := ((config.getD "allowed_hosts" .null).items?).getD []
    let (scheme, netloc) := env.urlparse reference
    let errors ← validateUserReviewer env change user config
      (config.getD "requires_independent_reviewer" (.bool false)).truthy
    pure (errorIf (reference = "") "external_reference_required" ++ patternErrors ++
      errorIf (hosts ≠ [] ∧ scheme ≠ "" ∧ netloc ∉ hosts.map (pyStr env))
        "external_reference_host_not_allowed" ++ errors)
  | _, _ => pure [evidenceError "external_reference_requires_user"]

/-- The first expected value that the facts do not show. -/
def unexpectedFact? (req : ResultRequest) (expected : Json) : Option String :=
  (expected.fields.find? fun kv =>
    let fact := (req.apiAssertionSnapshot.get? kv.1).or (req.observedValue.get? kv.1)
    !(fact.getD .null).pyEq kv.2).map (·.1)

/-- `_validate_api_assertion_evidence`. -/
def validateApiAssertionEvidence (req : ResultRequest) (check : VerificationCheck) : List Json :=
  let config := check.apiAssertion.orElse (.obj [])
  if !config.truthy then [evidenceError "api_assertion_config_missing"]
  else if !(req.apiAssertionSnapshot.truthy || req.observedValue.truthy) then
    [evidenceError "api_assertion_structured_evidence_required"]
  else if !(config.getD "allow_submitted_snapshot" (.bool false)).truthy then
    [evidenceError "api_assertion_adapter_unavailable"]
  else if req.source = .runner then [evidenceError "api_assertion_runner_source_unsupported"]
  else
    match unexpectedFact? req (config.getD "expected" .null) with
    | some field =>
      [.obj [("code", .str "api_assertion_expected_value_mismatch"), ("field", .str field)]]
    | none => []

/-- The conditions that `_validate_verification_evidence` makes for every check type. -/
def validateCommonEvidence (req : ResultRequest) (change : ChangeRecord)
    (plan : Loaded VerificationPlan) (check : VerificationCheck) : List Json :=
  errorIf (plan.row.status = .canceled) "verification_plan_canceled" ++
    (if change.status = .running ∨ change.status = .verificationPending then []
      else [.obj [("code", .str "change_not_verifiable"),
        ("status", .str change.status.value)]]) ++
    errorIf (change.status = .running ∧ req.source ≠ .runner)
      "change_not_verification_pending" ++
    errorIf (check.plan ≠ plan.id ∨ check.changeRecord ≠ req.change)
      "verification_check_mismatch" ++
    errorIf (check.verificationKey ≠ "" ∧ strip req.verificationKey ≠ check.verificationKey)
      "verification_key_mismatch" ++
    errorIf (check.checkType ≠ .manualAttestation ∧ freeTextOnly req)
      "structured_evidence_required"

/-- `_validate_verification_evidence`. -/
def validateVerificationEvidence (env : Env) (req : ResultRequest) (change : ChangeRecord)
    (profile : OperationProfile) (plan : Loaded VerificationPlan) (check : VerificationCheck) :
    Read (List Json) := do
  let specific ← match check.checkType with
    | .runnerStep => select (validateRunnerStepEvidence env req check)
    | .artifactPresence => select (validateArtifactPresenceEvidence env req change check)
    | .manualAttestation => validateManualAttestationEvidence env req change profile check
    | .apiAssertion => (pure (validateApiAssertionEvidence req check) : Read (List Json))
    | .externalReference => validateExternalReferenceEvidence env req change check
  pure (validateCommonEvidence req change plan check ++ specific)

end RunbookPlatform
