import RunbookPlatform.Changes.Integrity

/-!
# Change requests

`create_change_record` and the validation of targets and requested inputs, which
the submission repeats.

## Main definitions

- `validateRequestedInputs`, `validateTargets`
- `createChangeRecord`
-/

namespace RunbookPlatform

open Transactional

/-- One element of the `targets` argument of `create_change_record`. -/
structure TargetInput where
  environment : String := ""
  targetType : String := ""
  targetIdentifier : String := ""
  displayName : String := ""
  metadata : Json := .obj []

/-- `_TARGET_METADATA_FORBIDDEN_KEYS`. -/
def targetMetadataForbiddenKeys : List String :=
  ["api_key", "api_token", "apikey", "apitoken", "auth", "auth_header", "authorization", "bearer",
    "bearer_token", "change_dispatch_token", "claim_token", "cookie", "dispatch_token",
    "dispatch_token_hash", "headers", "password", "private_key", "raw_command_output",
    "raw_request_body", "request_body", "requested_inputs", "secret", "session", "session_token",
    "token", "webhook_url", "x_api_key"]

mutual

/-- The first forbidden key of a value, at any depth. -/
def forbiddenKey? (env : Env) : Json → Option String
  | .obj fields => forbiddenKeyOfFields? env fields
  | .arr items => forbiddenKeyOfItems? env items
  | _ => none

def forbiddenKeyOfItems? (env : Env) : List Json → Option String
  | [] => none
  | v :: vs => (forbiddenKey? env v).or (forbiddenKeyOfItems? env vs)

def forbiddenKeyOfFields? (env : Env) : List (String × Json) → Option String
  | [] => none
  | (key, child) :: rest =>
    if env.lower key ∈ targetMetadataForbiddenKeys then some key
    else (forbiddenKey? env child).or (forbiddenKeyOfFields? env rest)

end

/-- `_reject_sensitive_keys`. -/
def rejectSensitiveKeys (env : Env) (value : Json) (code detailPrefix : String) : Read Unit :=
  match forbiddenKey? env value with
  | some key =>
    raise (.validation code s!"{detailPrefix} contains forbidden sensitive key '{key}'.")
  | none => pure ()

/-- `_validate_target_metadata`. -/
def validateTargetMetadata (env : Env) (metadata : Json) (position : ℕ) : Read Unit := do
  if metadata = .null then
    pure ()
  else
    ensure metadata.isObj <| .validation "target_metadata_invalid"
      s!"Target metadata at position {position} must be a JSON object."
    rejectSensitiveKeys env metadata "target_metadata_forbidden_key"
      s!"Target metadata at position {position}"

/-- The loop of `_validate_targets`, from position `position` on. -/
def validateTargetsFrom (env : Env) (profile : OperationProfile) (position : ℕ)
    (seen : List (String × String)) : List TargetInput → Read Unit
  | [] => pure ()
  | t :: ts => do
    ensure (t.environment = "production") <| .validation "non_production_target"
      s!"Target at position {position} must have environment='production' (got '{t.environment}')."
    ensure (t.targetType ∈ profile.allowedTargetTypes) <| .validation "target_type_not_allowed"
      s!"Target type '{t.targetType}' is not allowed by profile."
    let normalized := normalizeTargetIdentifier env t.targetIdentifier
    ensure (normalized ≠ "") <| .validation "target_identifier_required"
      s!"Target at position {position} requires a target_identifier."
    validateTargetMetadata env t.metadata position
    ensure ((t.targetType, normalized) ∉ seen) <| .validation "duplicate_change_target"
      s!"Duplicate target: type='{t.targetType}', identifier='{t.targetIdentifier}'."
    validateTargetsFrom env profile (position + 1) ((t.targetType, normalized) :: seen) ts

/-- `_validate_targets`. -/
def validateTargets (env : Env) (targets : List TargetInput) (profile : OperationProfile) :
    Read Unit := do
  let allowEmpty := (profile.targetSchema.getD "allow_empty_targets" (.bool false)).truthy
  ensure (targets ≠ [] ∨ allowEmpty) <| .validation "change_requires_targets"
    "At least one production target is required."
  validateTargetsFrom env profile 1 [] targets

/-- `_json_type_matches`. -/
def jsonTypeMatches (value expectedType : Json) : Bool :=
  match expectedType, value with
  | .str "string", v => v.isStr
  | .str "integer", .int _ => true
  | .str "integer", _ => false
  | .str "number", .int _ => true
  | .str "number", _ => false
  | .str "boolean", .bool _ => true
  | .str "boolean", _ => false
  | .str "object", v => v.isObj
  | .str "array", v => v.isArr
  | .str "null", v => v = .null
  | _, _ => true

/-- The `required` loop of `_validate_requested_inputs`. -/
def requireInputs (env : Env) (requestedInputs : Json) : List Json → Read Unit
  | [] => pure ()
  | key :: rest => do
    ensure (!key.isArr && !key.isObj) (.uncaught "TypeError")
    let present : Bool := match key with
      | .str k => requestedInputs.keys.contains k
      | _ => false
    ensure present <| .validation "requested_inputs_invalid"
      s!"Missing required requested input '{pyStr env key}'."
    requireInputs env requestedInputs rest

/-- The `properties` loop of `_validate_requested_inputs`. -/
def checkInputTypes (env : Env) (requestedInputs : Json) : List (String × Json) → Read Unit
  | [] => pure ()
  | (key, rules) :: rest => do
    match requestedInputs.get? key, rules.isObj with
    | some value, true =>
      let expectedType := rules.getD "type" .null
      ensure (!expectedType.truthy || jsonTypeMatches value expectedType) <|
        .validation "requested_inputs_invalid"
          s!"Requested input '{key}' must be of type '{pyStr env expectedType}'."
      checkInputTypes env requestedInputs rest
    | _, _ => checkInputTypes env requestedInputs rest

/-- `_validate_requested_inputs`. -/
def validateRequestedInputs (env : Env) (requestedInputs : Json) (profile : OperationProfile) :
    Read Unit := do
  ensure requestedInputs.isObj <| .validation "requested_inputs_invalid"
    "Requested inputs must be a JSON object."
  let schema := profile.requestedInputsSchema
  if !schema.truthy then
    pure ()
  else
    ensure schema.isObj <| .validation "requested_inputs_schema_invalid"
      "Operation profile requested_inputs_schema must be a JSON object."
    let required ← expect (schema.getD "required" (.arr [])).items? <|
      .validation "requested_inputs_schema_invalid"
        "requested_inputs_schema.required must be a list."
    requireInputs env requestedInputs required
    let properties : Json := match schema.getD "properties" (.obj []) with
      | .null => .obj []
      | v => v
    ensure properties.isObj <| .validation "requested_inputs_schema_invalid"
      "requested_inputs_schema.properties must be a JSON object."
    if schema.get? "additionalProperties" = some (.bool false) then
      let extra := Json.sortTexts (requestedInputs.keys.filter (· ∉ properties.keys))
      let first := extra.headD ""
      ensure (extra = []) <| .validation "requested_inputs_invalid"
        s!"Unexpected requested input '{first}'."
    checkInputTypes env requestedInputs properties.fields

/-- The arguments of `create_change_record`. -/
structure ChangeRequest where
  organization : ℕ
  operationProfileKey : String
  workflow : ℕ
  title : String
  summary : String := ""
  justification : String := ""
  requestedInputs : Json := .obj []
  scheduledFor : Option Time := none
  targets : List TargetInput := []
  isEmergency : Bool := false
  emergencyReason : String := ""

/-- The checks of `create_change_record`, made before its transaction. Returns the key
of the profile. -/
def validateChangeRequest (env : Env) (req : ChangeRequest) : Read ℕ := do
  let found ← select fun s => s.reference.profiles.find? fun _ p =>
    p.organization = req.organization && p.key = req.operationProfileKey
  let (profileId, profile) ← expect found <| .validation "invalid_operation_profile"
    s!"Operation profile '{req.operationProfileKey}' not found."
  ensure profile.isActive <| .conflict "change_profile_inactive"
    s!"Operation profile '{req.operationProfileKey}' is inactive."
  ensure (profile.riskLevel ∈ ["high", "critical"]) <| .validation "invalid_operation_profile"
    "Operation profile risk level must be 'high' or 'critical'."
  ensure (req.isEmergency → profile.allowEmergencyChanges) <|
    .validation "emergency_changes_not_allowed"
      "Operation profile does not allow emergency changes."
  ensure (req.isEmergency → strip req.emergencyReason ≠ "") <|
    .validation "emergency_reason_required"
      "Emergency reason is required for emergency changes."
  let found ← select fun s => (s.reference.workflows.get? req.workflow).filter fun w =>
    w.organization = req.organization
  let workflow ← expect found <| .validation "workflow_not_found"
    s!"Workflow '{req.workflow}' not found."
  ensure (req.workflow ∈ profile.allowedWorkflows) <|
    .validation "workflow_not_allowlisted_for_profile"
      s!"Workflow '{req.workflow}' is not allowlisted for profile '{req.operationProfileKey}'."
  ensure (workflow.status = .published) <| .validation "workflow_not_published"
    s!"Workflow must be published (current status: '{workflow.status.value}')."
  validateRequestedInputs env (req.requestedInputs.orElse (.obj [])) profile
  validateTargets env req.targets profile
  pure profileId

/-- The target rows of `create_change_record`, from position `position` on. -/
def insertTargets (env : Env) (change organization : ℕ) (position : ℕ) :
    List TargetInput → Service [.changeTargets] Unit
  | [] => pure ()
  | t :: ts => do
    let _ ← insertRow Rel.changeTargets
      { changeRecord := change, organization, position
        targetType := t.targetType
        targetIdentifier := t.targetIdentifier
        normalizedIdentifier := normalizeTargetIdentifier env t.targetIdentifier
        displayName := t.displayName
        environment := t.environment
        metadata := t.metadata }
    insertTargets env change organization (position + 1) ts

/-- The transaction of `create_change_record`. -/
def insertChangeRecord (env : Env) (req : ChangeRequest) (profile : ℕ) (actor : AuditActor) :
    Service [.changes, .changeStatus .draft, .changeDossier, .changeRetro, .changeTargets, .audit] ℕ := do
  let now ← timezoneNow
  let change ← insertChange
    { organization := req.organization
      operationProfile := profile
      workflow := req.workflow
      requestedBy := actor.userId?
      title := req.title
      summary := req.summary
      justification := req.justification
      requestedInputs := req.requestedInputs.orElse (.obj [])
      scheduledFor := req.scheduledFor
      isEmergency := req.isEmergency
      emergencyReason := if req.isEmergency then req.emergencyReason else ""
      emergencyDeclaredBy := if req.isEmergency then actor.userId? else none
      emergencyDeclaredAt := if req.isEmergency then some now else none }
  insertTargets env change req.organization 1 req.targets
  emit req.organization actor "change.created" .changeRecord change
  pure change

/-- `create_change_record`. -/
def createChangeRecord (env : Env) (req : ChangeRequest) (actor : AuditActor) :
    Handler [.changes, .changeStatus .draft, .changeDossier, .changeRetro, .changeTargets, .audit] ℕ := do
  let profile ← Prog.read (validateChangeRequest env req)
  Prog.atomic .service (insertChangeRecord env req profile actor)

end RunbookPlatform
