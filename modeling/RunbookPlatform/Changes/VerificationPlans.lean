import RunbookPlatform.Changes.Requests

/-!
# Verification plans

The plan of a change is generated once from its profile's template, reused
afterwards, and activated at dispatch.

## Main definitions

- `CheckTemplate`, `normalizeVerificationCheckTemplate` — one entry of a template
- `validateVerificationPlanTemplate` — a whole template
- `ensureVerificationPlan` — generate or reuse, validate, activate
-/

namespace RunbookPlatform

open Transactional

/-- A normalized entry of a verification template. -/
structure CheckTemplate where
  key : String
  name : String
  description : String
  type : CheckType
  required : Bool
  verificationKey : String
  sourceStepKey : String
  artifactKind : String
  artifactNamePattern : String
  expectedChecksumSha256 : String
  apiAssertion : Json
  externalReferenceConfig : Json
  manualAttestationConfig : Json

/-- The entry as it stands in the plan's snapshot. -/
def CheckTemplate.toJson (item : CheckTemplate) : Json :=
  .obj [("key", .str item.key), ("name", .str item.name),
    ("description", .str item.description), ("type", .str item.type.value),
    ("required", .bool item.required), ("verification_key", .str item.verificationKey),
    ("source_step_key", .str item.sourceStepKey), ("artifact_kind", .str item.artifactKind),
    ("artifact_name_pattern", .str item.artifactNamePattern),
    ("expected_checksum_sha256", .str item.expectedChecksumSha256),
    ("api_assertion", item.apiAssertion),
    ("external_reference_config", item.externalReferenceConfig),
    ("manual_attestation_config", item.manualAttestationConfig)]

/-- `_AUTOMATED_VERIFICATION_CHECK_TYPES`. -/
def automatedVerificationCheckTypes : List CheckType :=
  [.runnerStep, .artifactPresence, .apiAssertion]

/-- `_MANUAL_VERIFICATION_CHECK_TYPES`. -/
def manualVerificationCheckTypes : List CheckType := [.manualAttestation, .externalReference]

/-- `_compute_verification_plan_mode`. -/
def computeVerificationPlanMode (checks : List CheckTemplate) : VerificationMode :=
  let requiredTypes := (checks.filter (·.required)).map (·.type)
  if requiredTypes ≠ [] ∧ ∀ t ∈ requiredTypes, t ∈ automatedVerificationCheckTypes then
    .automated
  else if requiredTypes ≠ [] ∧ ∀ t ∈ requiredTypes, t ∈ manualVerificationCheckTypes then
    .manual
  else .mixed

/-- The failure all template checks share. -/
def templateInvalid (detail : String) : Err :=
  .validation "verification_plan_template_invalid" detail

/-- `str(raw.get(field, "")).strip()`. -/
def templateText (env : Env) (raw : Json) (field : String) : String :=
  strip (pyStr env (raw.getD field (.str "")))

/-- One configuration object of an entry, checked. -/
def templateConfig (env : Env) (raw : Json) (key configName : String) : Read Json := do
  let value := raw.getD configName (.obj [])
  let config : Json := if value = .null then .obj [] else value
  ensure config.isObj <| templateInvalid
    s!"Verification check '{key}' {configName} must be a JSON object."
  rejectSensitiveKeys env config "verification_plan_template_forbidden_key"
    s!"Verification check '{key}' {configName}"
  pure (value.orElse (.obj []))

/-- `_normalize_verification_check_template`. -/
def normalizeVerificationCheckTemplate (env : Env) (raw : Json) (position : ℕ) :
    Read CheckTemplate := do
  let key := templateText env raw "key"
  let name := templateText env raw "name"
  let rawType := (raw.getD "type" .null).orElse ((raw.getD "check_type" .null).orElse (.str ""))
  let checkType := strip (pyStr env rawType)
  ensure (key ≠ "") <| templateInvalid
    s!"Verification check at position {position} requires a stable key."
  ensure (key.length ≤ 128) <| templateInvalid
    s!"Verification check key '{key}' must be 128 characters or fewer."
  ensure (name ≠ "") <| templateInvalid s!"Verification check '{key}' requires a name."
  let type ← expect (CheckType.ofValue? checkType) <| templateInvalid
    s!"Verification check '{key}' has unknown type '{checkType}'."
  let required ← match raw.getD "required" (.bool true) with
    | .bool b => (pure b : Read Bool)
    | _ => raise (templateInvalid s!"Verification check '{key}' required must be a boolean.")
  let verificationKey := templateText env raw "verification_key"
  let sourceStepKey := templateText env raw "source_step_key"
  let artifactKind := templateText env raw "artifact_kind"
  let artifactNamePattern := templateText env raw "artifact_name_pattern"
  let expectedChecksumSha256 := templateText env raw "expected_checksum_sha256"
  ensure (expectedChecksumSha256 = "" ∨ expectedChecksumSha256.length = 64) <| templateInvalid
    s!"Verification check '{key}' expected checksum must be SHA-256 hex."
  ensure (type = .runnerStep → verificationKey ≠ "" ∨ sourceStepKey ≠ "") <| templateInvalid
    s!"Runner step verification check '{key}' requires verification_key or source_step_key."
  ensure (type = .artifactPresence →
      verificationKey ≠ "" ∨ artifactKind ≠ "" ∨ artifactNamePattern ≠ "") <| templateInvalid
    s!"Artifact verification check '{key}' requires verification_key or artifact matcher."
  let apiAssertion ← templateConfig env raw key "api_assertion"
  let externalReferenceConfig ← templateConfig env raw key "external_reference_config"
  let manualAttestationConfig ← templateConfig env raw key "manual_attestation_config"
  pure
    { key, name, type, required, verificationKey, sourceStepKey, artifactKind
      artifactNamePattern, expectedChecksumSha256, apiAssertion, externalReferenceConfig
      manualAttestationConfig
      description := templateText env raw "description" }

/-- The loop of `_validate_verification_plan_template`, from position `position` on. -/
def normalizeChecks (env : Env) (position : ℕ) (seenKeys : List String) :
    List Json → Read (List CheckTemplate)
  | [] => pure []
  | raw :: rest => do
    ensure raw.isObj <| templateInvalid
      s!"Verification check at position {position} must be a JSON object."
    let item ← normalizeVerificationCheckTemplate env raw position
    ensure (item.key ∉ seenKeys) <| templateInvalid
      s!"Duplicate verification check key '{item.key}'."
    let items ← normalizeChecks env (position + 1) (item.key :: seenKeys) rest
    pure (item :: items)

/-- `_validate_verification_plan_template`. -/
def validateVerificationPlanTemplate (env : Env) (profile : OperationProfile) (template : Json) :
    Read (List CheckTemplate) := do
  ensure template.isObj <| templateInvalid "Verification plan template must be a JSON object."
  rejectSensitiveKeys env template "verification_plan_template_forbidden_key"
    "Verification plan template"
  let rawChecks ← expect (template.getD "checks" .null).items? <| templateInvalid
    "verification_plan_template.checks must be a list."
  ensure (profile.verificationRequired → rawChecks ≠ []) <| templateInvalid
    "Verification-required profiles must define at least one check."
  let normalized ← normalizeChecks env 1 [] rawChecks
  ensure (profile.verificationRequired → normalized.any (·.required)) <| templateInvalid
    "Verification-required profiles must define at least one required check."
  let computedMode := computeVerificationPlanMode normalized
  ensure (profile.verificationMode = .automated → computedMode = .automated) <| templateInvalid
    "Automated verification mode cannot include manual verification checks."
  ensure (profile.verificationMode = .manual → computedMode ≠ .automated) <| templateInvalid
    "Manual verification mode requires at least one manual verification check."
  pure normalized

/-- The `VerificationCheck` row of a template entry. -/
def CheckTemplate.toCheck (item : CheckTemplate) (organization plan changeRecord position : ℕ) :
    VerificationCheck where
  organization := organization
  plan := plan
  changeRecord := changeRecord
  position := position
  key := item.key
  name := item.name
  description := item.description
  checkType := item.type
  required := item.required
  verificationKey := item.verificationKey
  sourceStepKey := item.sourceStepKey
  artifactKind := item.artifactKind
  artifactNamePattern := item.artifactNamePattern
  expectedChecksumSha256 := item.expectedChecksumSha256
  apiAssertion := item.apiAssertion
  externalReferenceConfig := item.externalReferenceConfig
  manualAttestationConfig := item.manualAttestationConfig

/-- `VerificationCheck.objects.bulk_create(...)`, from position `position` on. -/
def insertChecks (organization plan changeRecord : ℕ) (position : ℕ) :
    List CheckTemplate → Service [.checks] Unit
  | [] => pure ()
  | item :: items => do
    let _ ← insertRow Rel.checks (item.toCheck organization plan changeRecord position)
    insertChecks organization plan changeRecord (position + 1) items

/-- `_generate_verification_plan_locked`. -/
def generateVerificationPlanLocked (env : Env) (change : Loaded ChangeRecord)
    (profile : Loaded OperationProfile) (actor : AuditActor) :
    Service [.plans, .checks, .audit] ℕ := do
  let template := profile.row.verificationPlanTemplate.orElse (.obj [])
  let checks ← validateVerificationPlanTemplate env profile.row template
  let now ← timezoneNow
  let requiredCount := checks.countP (·.required)
  let snapshot : Json := .obj [("operation_profile_id", .str (idText profile.id)),
    ("operation_profile_key", .str profile.row.key),
    ("verification_required", .bool profile.row.verificationRequired),
    ("verification_mode", .str profile.row.verificationMode.value),
    ("checks", .arr (checks.map (·.toJson)))]
  let plan ← insertUnique Rel.plans (·.changeRecord = change.id)
    { organization := change.row.organization
      changeRecord := change.id
      operationProfile := profile.id
      mode := computeVerificationPlanMode checks
      status := .generated
      generatedFromProfileSnapshot := snapshot
      generatedFromProfileSha256 := sha256CanonicalJson env snapshot
      requiredCheckCount := requiredCount
      optionalCheckCount := checks.length - requiredCount
      generatedAt := now }
  insertChecks change.row.organization plan change.id 1 checks
  emit change.row.organization actor "change.verification_plan_generated" .changeRecord change.id
  pure plan

/-- `_activate_verification_plan_locked`. -/
def activateVerificationPlanLocked (plan : ℕ) (organization change : ℕ) (actor : AuditActor) :
    Service [.plans, .audit] Unit := do
  let now ← timezoneNow
  updateRow Rel.plans plan fun p => { p with status := .active, activatedAt := some now }
  emit organization actor "change.verification_plan_activated" .changeRecord change

/-- The checks of a plan with their keys, by position. -/
def checksOf (plan : ℕ) (s : Db) : List (Loaded VerificationCheck) :=
  rowsWhere s.checks fun c => c.plan = plan

/-- `_validate_existing_verification_plan_for_dispatch`. -/
def validateExistingVerificationPlanForDispatch (plan : Loaded VerificationPlan)
    (change : ChangeRecord) : Read Unit := do
  ensure (plan.row.organization = change.organization) <|
    .validation "verification_plan_organization_mismatch"
      "Verification plan organization does not match the change organization."
  ensure (plan.row.operationProfile = change.operationProfile) <|
    .validation "verification_plan_profile_mismatch"
      "Verification plan operation profile does not match the change profile."
  ensure (plan.row.status ∈ [PlanStatus.generated, .active, .satisfied]) <|
    .conflict "verification_plan_not_dispatchable"
      s!"Verification plan status '{plan.row.status.value}' cannot be dispatched."
  ensure (0 < plan.row.requiredCheckCount) <|
    .conflict "verification_plan_missing_required_checks"
      "Verification-required changes need at least one required verification check."
  let checks ← select (checksOf plan.id)
  ensure (checks.countP (·.row.required) = plan.row.requiredCheckCount) <|
    .conflict "verification_plan_check_count_mismatch"
      "Verification plan required check count does not match generated checks."

/-- The plan of a change, with its key. -/
def planOf? (change : ℕ) (s : Db) : Option (ℕ × VerificationPlan) :=
  s.plans.find? fun _ p => p.changeRecord = change

/-- `ensure_verification_plan`. -/
def ensureVerificationPlan (env : Env) (change : ℕ) (actor : AuditActor) (activate : Bool) :
    Service [.plans, .checks, .audit] (Option ℕ) := do
  let c ← lookup Db.changes "ChangeRecord" change
  let profile ← lookup (·.reference.profiles) "OperationProfile" c.operationProfile
  if !profile.verificationRequired then
    pure none
  else
    ensure (c.status ∉ [ChangeStatus.draft, .closed, .rejected, .canceled, .expired]) <|
      .transition "verification_plan_invalid_change_state"
        s!"Verification plans can only be generated for submitted, non-terminal changes (current status: '{c.status.value}')."
    let existing ← select (planOf? change)
    let plan ← match existing with
      | some (plan, _) => (pure plan : Service [.plans, .checks, .audit] ℕ)
      | none => do
        ensure (c.status ∉ [ChangeStatus.dispatchable, .running, .verificationPending,
            .verificationFailed, .verified]) <|
          .conflict "verification_plan_missing"
            "Dispatch blocked: verification-required change is missing a generated verification plan."
        generateVerificationPlanLocked env ⟨change, c⟩ ⟨c.operationProfile, profile⟩ actor
    let row ← lookup Db.plans "VerificationPlan" plan
    validateExistingVerificationPlanForDispatch ⟨plan, row⟩ c
    if activate && row.status = .generated then
      activateVerificationPlanLocked plan c.organization change actor
    pure (some plan)

end RunbookPlatform
