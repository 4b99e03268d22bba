import RunbookPlatform.Core.Env
import RunbookPlatform.Workflows.Schemas

/-!
# Validation of workflow definitions

`apps/workflows/validators.py`: a definition is checked against the schema of its version,
then against what a schema cannot say. What the JSON Schema package writes about a violation
is a parameter.

The semantic checks of a v2 definition read fields whose types the schema has settled; on
other values, which they never see, the model reads the default.

## Main definitions

- `looksLikeSecret` — the search for raw secrets
- `validateV2`, `validateV1` — the two paths
- `validateWorkflowDefinition`
- `Env.withValidator` — the environment whose v2 validation is this one
-/

namespace RunbookPlatform

-- ════════════════════════════════════════════════════════════════════════
-- Raw secrets
-- ════════════════════════════════════════════════════════════════════════

/-- A repeated character class of a pattern: `[chars]{atLeast}`, or `[chars]{atLeast,}`. -/
structure CharRun where
  chars : Char → Bool
  atLeast : ℕ
  unbounded : Bool

/-- What may be left of a text after the run. -/
def CharRun.residuals (run : CharRun) (text : List Char) : List (List Char) :=
  let rest := text.drop run.atLeast
  if (text.take run.atLeast).length = run.atLeast ∧ (text.take run.atLeast).all run.chars then
    if run.unbounded then
      (List.range ((rest.takeWhile run.chars).length + 1)).map rest.drop
    else [rest]
  else []

/-- Whether the runs match one after the other at the start of the text. -/
def matchRuns : List CharRun → List Char → Bool
  | [], _ => true
  | run :: runs, text => (run.residuals text).any (matchRuns runs)

/-- The characters of a text, one by one. -/
def literal (text : String) : List CharRun := text.toList.map fun c => ⟨(· == c), 1, false⟩

/-- `[A-Za-z0-9]`. -/
def isAlnum (c : Char) : Bool := c.isAlphanum

/-- `[A-Za-z0-9` with further characters `]`. -/
def alnumOr (more : String) (c : Char) : Bool := isAlnum c || more.toList.contains c

/-- `_SECRET_PATTERNS`. -/
def secretPatterns : List (List CharRun) :=
  let bearer := [⟨isSpace, 1, true⟩, ⟨alnumOr "-._~+/", 1, true⟩, ⟨(· == '='), 0, true⟩]
  let segment := ⟨alnumOr "_-", 10, true⟩
  [ literal "Bearer" ++ bearer,
    literal "Token" ++ bearer,
    literal "ghp_" ++ [⟨isAlnum, 36, false⟩],
    literal "ghs_" ++ [⟨isAlnum, 36, false⟩],
    literal "sk-" ++ [⟨isAlnum, 48, false⟩],
    literal "xox" ++ [⟨"bpoa".toList.contains, 1, false⟩] ++ literal "-" ++
      [⟨Char.isDigit, 1, true⟩] ++ literal "-" ++ [⟨alnumOr "-", 1, true⟩],
    literal "ey" ++ [segment] ++ literal "." ++ [segment] ++ literal "." ++ [segment] ]

/-- `_looks_like_secret`. -/
def looksLikeSecret (value : String) : Bool :=
  if value.length < 20 then false
  else value.toList.tails.any fun text => secretPatterns.any fun runs => matchRuns runs text

-- ════════════════════════════════════════════════════════════════════════
-- Checks of one step
-- ════════════════════════════════════════════════════════════════════════

/-- `_DEFAULT_CATALOG_VERSION`. -/
def defaultCatalogVersion : String := "pilot.v1"

/-- `definition.get("catalogVersion", _DEFAULT_CATALOG_VERSION)`. -/
def catalogVersionOf (definition : Json) : Json :=
  definition.getD "catalogVersion" (.str defaultCatalogVersion)

/-- The list under a key, empty when there is none. -/
def listOf (value : Json) (key : String) : List Json := ((value.getD key (.arr [])).items?).getD []

/-- The text under a key. -/
def textOf (value : Json) (key default : String) : String :=
  ((value.getD key (.str default)).str?).getD default

/-- `text.split(sep)`. -/
def splitText (sep : Char) (text : String) : List (List Char) := text.toList.splitOn sep

/-- `text.replace("\\", "/")`. -/
def slashes (text : String) : String := text.map fun c => if c = '\\' then '/' else c

/-- `".." in text.replace("\\", "/").split("/")`. -/
def traversesUp (text : String) : Bool := (splitText '/' (slashes text)).contains ['.', '.']

/-- `action.get("params") or action.get("inputs")`. -/
def actionPayload (action : Json) : Json :=
  (action.getD "params" .null).orElse (action.getD "inputs" .null)

section

variable (env : Env) (message : Schema → Json → String) (stepId : String)

/-- `_check_action_type_match`. -/
def checkActionTypeMatch (step action : Json) : Except Err Unit :=
  let stepType := step.getD "type" (.str "")
  let actionType := action.getD "type" (.str "")
  check (stepType.pyEq actionType) <| .workflow "action_type_mismatch"
    s!"Step '{stepId}': step.type '{pyStr env stepType}' does not match action.type '{pyStr env actionType}'."

/-- The action version that a step is checked against. -/
def effectiveVersion (action : Json) (catalogVersion : String) : String :=
  textOf action "version" catalogVersion

/-- `_check_action_catalog`. -/
def checkActionCatalog (action : Json) (catalogVersion : String) : Except Err Unit :=
  match lookupActionContract env.reprText (textOf action "type" "")
      (effectiveVersion action catalogVersion) with
  | none => .ok ()
  | some (code, detail) => .error (.workflow code s!"Step '{stepId}': {detail}")

/-- `_check_action_inputs`. -/
def checkActionInputs (action : Json) (catalogVersion : String) : Except Err Unit :=
  let actionType := textOf action "type" ""
  let actionVersion := effectiveVersion action catalogVersion
  let payload := actionPayload action
  if payload = .null then .ok ()
  else
    match loadActionSchema actionType actionVersion with
    | none => .error (.workflow "unknown_action_schema"
        s!"Step '{stepId}': cannot load schema for action '{actionType}:{actionVersion}'.")
    | some actionSchema =>
      match (actionSchema.property? "params").or (actionSchema.property? "inputs") with
      | none => .ok ()
      | some paramsSchema =>
        check (paramsSchema.valid payload = true) <| .workflow "action_input_invalid"
          s!"Step '{stepId}': action '{actionType}' params/inputs failed validation: {message paramsSchema payload}."

/-- `_check_step_secrets`. -/
def checkStepSecrets (step definition : Json) : Except Err Unit :=
  let declaredKeys := (listOf definition "secrets").map (·.getD "key" (.str ""))
  match (listOf step "secrets").find? fun ref => !declaredKeys.contains ref with
  | none => .ok ()
  | some ref => .error (.workflow "unknown_secret_reference"
      s!"Step '{stepId}' references undeclared secret '{pyStr env ref}'. Declare it in the top-level 'secrets' array.")

/-- The failure of `_validate_artifact_path`. -/
def invalidArtifactPath (key reason : String) : Err :=
  .workflow "invalid_artifact_path" s!"Step '{stepId}', artifact '{key}': {reason}"

/-- `_validate_artifact_path`. -/
def validateArtifactPath (key : String) (path : Json) : Except Err Unit := do
  check (path ≠ .null ∧ path ≠ .str "") <|
    invalidArtifactPath stepId key "path is required for file/report artifacts."
  let pathStr := pyStr env path
  check (¬pathStr.startsWith "/") <|
    invalidArtifactPath stepId key "absolute paths are not allowed."
  check (¬traversesUp pathStr) <|
    invalidArtifactPath stepId key "path traversal ('..') is not allowed."
  check (¬pathStr.startsWith "~" ∧ ¬pathStr.startsWith "//") <|
    invalidArtifactPath stepId key s!"path '{pathStr}' is not allowed."

/-- `_check_step_artifacts`, with the artifact keys seen before and after. -/
def checkStepArtifacts (allArtifactKeys : List String) :
    List Json → Except Err (List String)
  | [] => .ok allArtifactKeys
  | artifact :: artifacts => do
    let key := textOf artifact "key" ""
    check (key ∉ allArtifactKeys) <| .workflow "duplicate_artifact_key"
      s!"Artifact key '{key}' is declared more than once across workflow steps."
    let kind := textOf artifact "kind" ""
    let path := artifact.getD "path" .null
    if kind = "file" ∨ kind = "report" ∨ path ≠ .null then
      validateArtifactPath env stepId key path
    checkStepArtifacts (key :: allArtifactKeys) artifacts

/-- `_check_retry_idempotency`. -/
def checkRetryIdempotency (step : Json) : Except Err Unit := do
  let retry := step.getD "retry" .null
  let idempotency := step.getD "idempotency" .null
  if retry ≠ .null then
    match retry.getD "maxAttempts" (.int 1) with
    | .int maxAttempts =>
      check (maxAttempts ≤ 1 ∨ textOf idempotency "mode" "none" ≠ "none") <|
        .workflow "retry_requires_idempotency"
          s!"Step '{stepId}': retry.maxAttempts={maxAttempts} requires idempotency.mode other than 'none'."
    | _ => .ok ()
  check (¬(idempotency ≠ .null ∧ textOf idempotency "mode" "" = "keyed" ∧
      textOf idempotency "key" "" = "")) <| .workflow "keyed_idempotency_requires_key"
    s!"Step '{stepId}': idempotency.mode='keyed' requires a non-empty 'key'."

/-- `_check_dry_run`. -/
def checkDryRun (step : Json) : Except Err Unit :=
  let dryRun := step.getD "dryRun" .null
  let strategy := textOf dryRun "strategy" ""
  check (dryRun = .null ∨ ["native", "validate_only", "mock", "unsupported"].contains strategy) <|
    .workflow "invalid_dry_run_strategy"
      s!"Step '{stepId}': unknown dry-run strategy '{strategy}'. Valid strategies: ['mock', 'native', 'unsupported', 'validate_only']."

/-- The first field of an object whose value looks like a raw secret. -/
def rawSecret? (fields : Json) : Option String :=
  (fields.fields.find? fun kv => ((kv.2.str?).map looksLikeSecret).getD false).map (·.1)

/-- The first raw secret in an object is an error. -/
def refuseRawSecret (fields : Json) (error : String → Err) : Except Err Unit :=
  match rawSecret? fields with
  | some key => .error (error key)
  | none => .ok ()

/-- `_check_shell_command_restrictions`. -/
def checkShellCommandRestrictions (params : Json) : Except Err Unit := do
  refuseRawSecret (params.getD "environment" (.obj [])) fun envKey =>
    .workflow "raw_secret_in_environment"
      s!"Step '{stepId}': environment variable '{envKey}' appears to contain a raw secret value. Use top-level secret declarations and step-level secret references instead."
  let workingDir := textOf params "working_directory" ""
  check (¬workingDir.startsWith "/") <| .workflow "invalid_working_directory"
    s!"Step '{stepId}': working_directory must be a relative path, not an absolute path."
  check (¬traversesUp workingDir) <| .workflow "invalid_working_directory"
    s!"Step '{stepId}': working_directory must not contain '..'."

/-- `_check_http_request_restrictions`. -/
def checkHttpRequestRestrictions (params : Json) : Except Err Unit := do
  let url := textOf params "url" ""
  check (url = "" ∨ url.startsWith "https://" ∨ url.startsWith "http://") <|
    .workflow "invalid_request_url"
      s!"Step '{stepId}': http_request URL must be absolute (start with https:// or http://)."
  refuseRawSecret (params.getD "headers" (.obj [])) fun headerKey =>
    .workflow "raw_secret_in_header"
      s!"Step '{stepId}': header '{headerKey}' appears to contain a raw secret value. Use top-level secret declarations instead."

/-- `_check_pilot_restrictions`. -/
def checkPilotRestrictions (step action : Json) : Except Err Unit :=
  let stepType := textOf step "type" ""
  let params := (actionPayload action).orElse (.obj [])
  if stepType = "shell_command" then checkShellCommandRestrictions stepId params
  else if stepType = "http_request" then checkHttpRequestRestrictions stepId params
  else .ok ()

end

-- ════════════════════════════════════════════════════════════════════════
-- Checks of a definition
-- ════════════════════════════════════════════════════════════════════════

section

variable (env : Env) (message : Schema → Json → String)

/-- The checks of one step that look at no other step. -/
def checkStep (definition : Json) (catalogVersion stepId : String) (step : Json) :
    Except Err Unit := do
  let action := step.getD "action" (.obj [])
  checkActionTypeMatch env stepId step action
  checkActionCatalog env stepId action catalogVersion
  checkActionInputs message stepId action catalogVersion
  checkStepSecrets env stepId step definition

/-- The loop of `_check_steps`, from position `position` on. Returns the ids of the steps. -/
def checkSteps (definition : Json) (catalogVersion : String) (position : ℕ)
    (seenIds allArtifactKeys : List String) : List Json → Except Err (List String)
  | [] => .ok seenIds
  | step :: steps => do
    let stepId := textOf step "id" s!"<position {position}>"
    check (stepId ∉ seenIds) <| .workflow "duplicate_step_id"
      s!"Duplicate step id '{stepId}' in workflow definition."
    checkStep env message definition catalogVersion stepId step
    let keys ← checkStepArtifacts env stepId allArtifactKeys (listOf step "artifacts")
    checkRetryIdempotency stepId step
    checkDryRun stepId step
    checkPilotRestrictions stepId step (step.getD "action" (.obj []))
    checkSteps definition catalogVersion (position + 1) (stepId :: seenIds) keys steps

/-- `_check_catalog_version`. -/
def checkCatalogVersion (definition : Json) : Except Err Unit :=
  let catalogVersion := catalogVersionOf definition
  check (catalogVersion = .str "pilot.v1") <| .workflow "unsupported_catalog_version"
    s!"catalogVersion {catalogVersion.repr env.reprText} is not supported. Supported: ['pilot.v1']."

/-- `_check_secret_declarations`, with the secret keys seen so far. -/
def checkSecretDeclarations (stepIds seenKeys : List String) : List Json → Except Err Unit
  | [] => .ok ()
  | secret :: secrets => do
    let key := textOf secret "key" ""
    check (key ∉ seenKeys) <| .workflow "duplicate_secret_key"
      s!"Duplicate secret key '{key}' in top-level declarations."
    match (listOf secret "requiredBy").find? fun ref => !(stepIds.map Json.str).contains ref with
    | some ref => throw (.workflow "unknown_step_reference"
        s!"Secret '{key}' requiredBy references unknown step id '{pyStr env ref}'.")
    | none => pure ()
    checkSecretDeclarations stepIds (key :: seenKeys) secrets

/-- `_v2_json_schema`. -/
def checkSchemaV2 (definition : Json) : Except Err Unit :=
  check (workflowSchemaV2.valid definition = true) <| .workflow "workflow_schema_violation"
    s!"Workflow v2 definition does not conform to schema: {message workflowSchemaV2 definition}"

/-- `_v2_semantics`. -/
def checkSemanticsV2 (definition : Json) : Except Err Unit := do
  checkCatalogVersion env definition
  let stepIds ← checkSteps env message definition (pyStr env (catalogVersionOf definition)) 1 [] []
    (listOf definition "steps")
  checkSecretDeclarations env stepIds [] (listOf definition "secrets")

/-- `_validate_v2`. -/
def validateV2 (definition : Json) : Except Err Unit := do
  checkSchemaV2 message definition
  checkSemanticsV2 env message definition

-- ════════════════════════════════════════════════════════════════════════
-- v1
-- ════════════════════════════════════════════════════════════════════════

/-- `SUPPORTED_STEP_TYPES`. -/
def supportedStepTypes : List String := ["manual_task", "shell_command", "approval"]

/-- `SUPPORTED_RISK_LEVELS`. -/
def supportedRiskLevels : List String := ["low", "medium", "high", "critical"]

/-- The failure of `_validate_definition_semantics`. -/
def invalidV1 (detail : String) : Err := .workflow "invalid_workflow_definition" detail

/-- The loop of `_validate_definition_semantics`, from position `position` on. -/
def checkStepsV1 (position : ℕ) (seenIds : List String) : List Json → Except Err Unit
  | [] => .ok ()
  | step :: steps => do
    let stepId := textOf step "id" ""
    check (stepId ≠ "") <| invalidV1 s!"Step at position {position} is missing a stable id."
    check (stepId ∉ seenIds) <|
      invalidV1 s!"Duplicate step id '{stepId}' in workflow definition."
    let stepType := step.getD "type" .null
    check (stepType ∈ supportedStepTypes.map Json.str) <|
      invalidV1 s!"Step '{stepId}' has unsupported type '{pyStr env stepType}'."
    let risk := step.getD "risk" .null
    check (risk ∈ supportedRiskLevels.map Json.str) <|
      invalidV1 s!"Step '{stepId}' has unsupported risk level '{pyStr env risk}'."
    check (Schema.valid (.type .boolean) (step.getD "requiresApproval" (.bool false)) = true) <|
      invalidV1 s!"Step '{stepId}' field 'requiresApproval' must be a boolean."
    check ((step.getD "command" (.str "")).isStr = true) <|
      invalidV1 s!"Step '{stepId}' field 'command' must be a string."
    checkStepsV1 (position + 1) (stepId :: seenIds) steps

/-- `_validate_definition_schema`. -/
def checkSchemaV1 (definition : Json) : Except Err Unit :=
  check (workflowSchemaV1.valid definition = true) <| .workflow "workflow_schema_violation"
    s!"Workflow definition does not conform to schema: {message workflowSchemaV1 definition}"

/-- `_validate_definition_semantics`. -/
def checkSemanticsV1 (definition : Json) : Except Err Unit := do
  check (listOf definition "steps" ≠ []) <|
    invalidV1 "Workflow definition must contain at least one step."
  checkStepsV1 env 1 [] (listOf definition "steps")

/-- `_validate_v1`. -/
def validateV1 (definition : Json) : Except Err Unit := do
  checkSchemaV1 message definition
  checkSemanticsV1 env definition

/-- `validate_workflow_definition`. -/
def validateWorkflowDefinition (definition : Json) (schemaVersion : String) : Except Err Unit :=
  if schemaVersion = "workflow.schema.v1" then validateV1 env message definition
  else if schemaVersion = "workflow.schema.v2" then validateV2 env message definition
  else .error (.workflow "unsupported_schema_version"
    s!"Workflow schema version {env.reprText schemaVersion} is not supported. Supported: 'workflow.schema.v1', 'workflow.schema.v2'.")

/-- The environment whose validation of v2 definitions is `validateV2`. -/
def Env.withValidator : Env :=
  { env with
    validateWorkflowDefinition := fun definition =>
      match validateV2 env message definition with
      | .ok _ => none
      | .error e => some e }

end

end RunbookPlatform
