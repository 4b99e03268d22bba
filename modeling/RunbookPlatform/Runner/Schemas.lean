import RunbookPlatform.Core.Status
import RunbookPlatform.Core.Json
import Std.Data.String.ToNat

/-!
# What the runner reads

`apps/runner/runner/schemas.py`: the models into which the runner parses a claim. A missing
optional field takes its default, an unknown field is ignored, a field of a wrong type
makes the whole payload invalid. How lax mode reads texts as numbers and truth values is a
parameter.

## Main definitions

- `ClaimedStep`, `ClaimedExecution` — the claim
- `RunnerSettings` — the settings that the executor reads
- `ClaimedStep.modelValidate` — `ClaimedStep.model_validate`
-/

namespace RunbookPlatform

/-- `RetrySpec`. -/
structure RetrySpec where
  maxAttempts : ℤ
  backoffSeconds : ℤ := 0
  retryOn : List String := []
  deriving DecidableEq

/-- `IdempotencySpec`. -/
structure IdempotencySpec where
  mode : String
  key : String := ""
  reason : String := ""
  deriving DecidableEq

/-- `ArtifactDeclaration`. -/
structure ArtifactDeclaration where
  key : String
  name : String := ""
  path : String := ""
  kind : String := ""
  mimeType : String := ""
  required : Bool := false
  maxBytes : Option ℤ := none
  contentDisposition : String := ""
  evidenceRole : String := ""
  deriving DecidableEq

/-- `ActionSnapshot`. -/
structure ActionSnapshot where
  type : String
  version : String := ""
  params : Json := .obj []
  inputs : Json := .obj []
  outputs : Json := .obj []
  deriving DecidableEq

/-- `ClaimedStep`. -/
structure ClaimedStep where
  id : ℕ
  position : ℤ
  stepKey : String
  name : String
  stepType : String
  riskLevel : String
  command : String := ""
  requiresApproval : Bool := false
  status : StepStatus
  stepSnapshot : Json := .obj []
  actionSnapshot : Option ActionSnapshot := none
  timeoutSeconds : Option ℤ := none
  retry : Option RetrySpec := none
  idempotency : Option IdempotencySpec := none
  artifacts : List ArtifactDeclaration := []
  secretKeys : List String := []

/-- `ClaimedVerificationKey`. -/
structure ClaimedVerificationKey where
  checkKey : String
  verificationKey : String := ""
  stepKey : String := ""
  checkType : String := ""
  deriving DecidableEq

/-- `BreakglassSessionFacts`, as far as the runner sends them back. -/
structure BreakglassSessionFacts where
  breakglassSessionId : ℕ
  scopeSha256 : String

/-- The change fields of a claim; `validate_change_fields_complete` lets no part of them go
missing. -/
structure ChangeFields where
  changeRecordId : ℕ
  dispatchToken : String
  requestedInputsSha256 : String
  operationProfileKey : String

/-- `ClaimedExecution`, as far as the executor reads it. -/
structure ClaimedExecution where
  id : ℕ
  steps : List ClaimedStep
  executionMode : String := "live"
  change : Option ChangeFields := none
  verificationKeys : List ClaimedVerificationKey := []
  breakglass : Option BreakglassSessionFacts := none

/-- `RunnerSettings`, as far as the executor and the actions read them. -/
structure RunnerSettings where
  executionMode : String := "simulated"
  sandboxProvider : String := "local_process"
  sandboxWorkspaceRoot : String := "/tmp/runner-workspaces"
  sandboxCleanupPolicy : String := "always"
  sandboxDefaultTimeoutSeconds : ℤ := 300
  sandboxStdoutMaxBytes : ℤ := 5242880
  sandboxStderrMaxBytes : ℤ := 5242880
  sandboxArtifactMaxBytes : ℤ := 52428800
  sandboxMaxArtifactsPerStep : ℤ := 10
  sandboxAllowedEnvPrefixes : List String := []
  sandboxAllowedEnvNames : List String := []
  sandboxAllowShell : Bool := false

-- ════════════════════════════════════════════════════════════════════════
-- Reading fields
-- ════════════════════════════════════════════════════════════════════════

/-- How lax mode reads a text as a number or a truth value; none when it refuses. -/
structure Coercions where
  intOfText : String → Option ℤ
  boolOfText : String → Option Bool

/-- A field of type `int`. -/
def Coercions.int (lax : Coercions) : Json → Option ℤ
  | .int n => some n
  | .bool b => some (if b then 1 else 0)
  | .str s => lax.intOfText s
  | _ => none

/-- A field of type `bool`. -/
def Coercions.bool (lax : Coercions) : Json → Option Bool
  | .bool b => some b
  | .int 0 => some false
  | .int 1 => some true
  | .str s => lax.boolOfText s
  | _ => none

/-- A field of type `dict[str, Any]`. -/
def dictField : Json → Option Json
  | .obj fs => some (.obj fs)
  | _ => none

/-- A field of type `list[...]`. -/
def listField {α : Type} (element : Json → Option α) : Json → Option (List α)
  | .arr vs => vs.mapM element
  | _ => none

/-- A field of type `... | None`. -/
def optionalField {α : Type} (element : Json → Option α) : Json → Option (Option α)
  | .null => some none
  | v => (element v).map some

/-- A field of type `UUID`. -/
def uuidField (v : Json) : Option ℕ := v.str?.bind String.toNat?

/-- A field of type `Literal[...]`: the statuses of a claimed step. -/
def stepStatusField (v : Json) : Option StepStatus :=
  [.pending, .waitingForApproval, .running, .succeeded, .failed, .skipped].find? fun status =>
    v = .str (StepStatus.value status)

section

variable {α : Type} (v : Json) (parse : Json → Option α)

/-- A required field. -/
def requiredKey (key : String) : Option α := (v.get? key).bind parse

/-- A field with a default. -/
def optionalKey (key : String) (default : α) : Option α :=
  match v.get? key with
  | some x => parse x
  | none => some default

/-- A required field with an alias, `populate_by_name`. -/
def requiredAlias (aliasKey key : String) : Option α :=
  ((v.get? aliasKey).or (v.get? key)).bind parse

/-- A field with an alias and a default, `populate_by_name`. -/
def optionalAlias (aliasKey key : String) (default : α) : Option α :=
  match (v.get? aliasKey).or (v.get? key) with
  | some x => parse x
  | none => some default

end

-- ════════════════════════════════════════════════════════════════════════
-- Reading a step
-- ════════════════════════════════════════════════════════════════════════

/-- `RetrySpec.model_validate`. -/
def RetrySpec.modelValidate (lax : Coercions) (v : Json) : Option RetrySpec := do
  let v ← dictField v
  pure
    { maxAttempts := ← requiredAlias v lax.int "maxAttempts" "max_attempts"
      backoffSeconds := ← optionalAlias v lax.int "backoffSeconds" "backoff_seconds" 0
      retryOn := ← optionalAlias v (listField Json.str?) "retryOn" "retry_on" [] }

/-- `IdempotencySpec.model_validate`. -/
def IdempotencySpec.modelValidate (v : Json) : Option IdempotencySpec := do
  let v ← dictField v
  pure
    { mode := ← requiredKey v Json.str? "mode"
      key := ← optionalKey v Json.str? "key" ""
      reason := ← optionalKey v Json.str? "reason" "" }

/-- `ArtifactDeclaration.model_validate`. -/
def ArtifactDeclaration.modelValidate (lax : Coercions) (v : Json) :
    Option ArtifactDeclaration := do
  let v ← dictField v
  pure
    { key := ← requiredKey v Json.str? "key"
      name := ← optionalKey v Json.str? "name" ""
      path := ← optionalKey v Json.str? "path" ""
      kind := ← optionalKey v Json.str? "kind" ""
      mimeType := ← optionalAlias v Json.str? "mimeType" "mime_type" ""
      required := ← optionalKey v lax.bool "required" false
      maxBytes := ← optionalAlias v (optionalField lax.int) "maxBytes" "max_bytes" none
      contentDisposition :=
        ← optionalAlias v Json.str? "contentDisposition" "content_disposition" ""
      evidenceRole := ← optionalAlias v Json.str? "evidenceRole" "evidence_role" "" }

/-- `ActionSnapshot.model_validate`. -/
def ActionSnapshot.modelValidate (v : Json) : Option ActionSnapshot := do
  let v ← dictField v
  pure
    { type := ← requiredKey v Json.str? "type"
      version := ← optionalKey v Json.str? "version" ""
      params := ← optionalKey v dictField "params" (.obj [])
      inputs := ← optionalKey v dictField "inputs" (.obj [])
      outputs := ← optionalKey v dictField "outputs" (.obj []) }

/-- `ClaimedStep.model_validate`. -/
def ClaimedStep.modelValidate (lax : Coercions) (v : Json) : Option ClaimedStep := do
  let v ← dictField v
  pure
    { id := ← requiredKey v uuidField "id"
      position := ← requiredKey v lax.int "position"
      stepKey := ← requiredKey v Json.str? "step_key"
      name := ← requiredKey v Json.str? "name"
      stepType := ← requiredKey v Json.str? "step_type"
      riskLevel := ← requiredKey v Json.str? "risk_level"
      command := ← optionalKey v Json.str? "command" ""
      requiresApproval := ← optionalKey v lax.bool "requires_approval" false
      status := ← requiredKey v stepStatusField "status"
      stepSnapshot := ← optionalKey v dictField "step_snapshot" (.obj [])
      actionSnapshot :=
        ← optionalKey v (optionalField ActionSnapshot.modelValidate) "action_snapshot" none
      timeoutSeconds := ← optionalKey v (optionalField lax.int) "timeout_seconds" none
      retry := ← optionalKey v (optionalField (RetrySpec.modelValidate lax)) "retry" none
      idempotency :=
        ← optionalKey v (optionalField IdempotencySpec.modelValidate) "idempotency" none
      artifacts :=
        ← optionalKey v (listField (ArtifactDeclaration.modelValidate lax)) "artifacts" []
      secretKeys := ← optionalKey v (listField Json.str?) "secret_keys" [] }

end RunbookPlatform
