import RunbookPlatform.Core.Texts
import RunbookPlatform.Runner.Calls

/-!
# Actions of the runner

The typed action handlers (`apps/runner/runner/actions/`), their registry, and the local
process sandbox behind `shell_command` (`apps/runner/runner/sandbox/`).

## Main definitions

- `Sandbox.execute` — `LocalProcessSandboxProvider.execute`
- `ActionHandler.validate`, `ActionHandler.execute` — the five handlers
- `lookupHandler` — `ACTION_REGISTRY.lookup`
-/

namespace RunbookPlatform

open Interaction

variable (env : Env) (host : Host)

-- ════════════════════════════════════════════════════════════════════════
-- Text
-- ════════════════════════════════════════════════════════════════════════

/-- `os.path.isabs(path)`. -/
def isAbsolute (path : String) : Bool := path.startsWith "/"

/-- `".." in Path(path).parts`. -/
def hasParentPart (path : String) : Bool := (splitOnChar '/' path).contains ".."

/-- `shlex.quote(text)`. -/
def shlexQuote (text : String) : String :=
  if text = "" then "''"
  else if text.toList.all fun c => c.isAlphanum || "_@%+=:,./-".toList.contains c then text
  else "'" ++ String.join (text.toList.map fun c =>
    if c = '\'' then "'\"'\"'" else String.ofList [c]) ++ "'"

mutual

/-- `json.dumps(value)`. -/
def Json.dumpsDefault : Json → String
  | .arr items => "[" ++ ", ".intercalate (dumpsDefaultItems items) ++ "]"
  | .obj fs => "\x7b" ++ ", ".intercalate (dumpsDefaultFields fs) ++ "\x7d"
  | v => v.dumpsAscii

def Json.dumpsDefaultItems : List Json → List String
  | [] => []
  | v :: vs => v.dumpsDefault :: dumpsDefaultItems vs

def Json.dumpsDefaultFields : List (String × Json) → List String
  | [] => []
  | (k, v) :: fs => ((Json.str k).dumpsAscii ++ ": " ++ v.dumpsDefault) :: dumpsDefaultFields fs

end

/-- `path / name`, for a path without a trailing slash. -/
def joinPath (path name : String) : String := path ++ "/" ++ name

-- ════════════════════════════════════════════════════════════════════════
-- The sandbox
-- ════════════════════════════════════════════════════════════════════════

/-- `text.replace("..", "__")`. -/
def replaceParentDots : List Char → List Char
  | '.' :: '.' :: rest => '_' :: '_' :: replaceParentDots rest
  | c :: rest => c :: replaceParentDots rest
  | [] => []

/-- `step_key.replace(os.sep, "_").replace("..", "__")`. -/
def safeKey (stepKey : String) : String :=
  String.ofList (replaceParentDots (stepKey.toList.map fun c => if c = '/' then '_' else c))

/-- `WorkspaceManager(root).build_workspace_path`. -/
def buildWorkspacePath (root : String) (execution : ℕ) (step : ClaimedStep) : Task String := do
  let root ← resolvePath root
  let stepDir := s!"{step.position}-{safeKey step.stepKey}-{idText step.id}"
  let candidate ← resolvePath (joinPath (joinPath root (idText execution)) stepDir)
  if candidate.startsWith (root ++ "/") ∨ candidate = root then pure candidate
  else .fail (.sandboxValidation
    s!"Workspace path {candidate} escapes configured root {root}")

/-- `_build_sandbox_env` and `_build_env`. -/
def buildSandboxEnv (settings : RunnerSettings) : List (String × String) :=
  host.environ.filter fun kv =>
    settings.sandboxAllowedEnvNames.contains kv.1 ||
      settings.sandboxAllowedEnvPrefixes.any fun p => kv.1.startsWith p

namespace Sandbox

/-- `get_provider`: the only provider is `local_process`. -/
def getProvider (name : String) : Except Exn Unit :=
  if name = "local_process" then .ok ()
  else .error (.sandboxValidation
    s!"Unknown sandbox provider {env.reprText name}. Available: ['local_process']")

/-- `LocalProcessSandboxProvider.validate`. -/
def validate (spec : ExecutionSpec) : Except Exn Unit :=
  if spec.command = [] then .error (.sandboxValidation "command must be non-empty")
  else if strip (" ".intercalate spec.command) = "" then
    .error (.sandboxValidation "command script is blank after joining")
  else .ok ()

/-- The failure kind of a collection of artifacts. -/
def artifactFailureKind (errorMessage : String) : String :=
  if containsText (env.lower errorMessage) "required artifact" then "required_artifact_missing"
  else "action_input_invalid"

/-- `LocalProcessSandboxProvider.execute`. -/
def execute (spec : ExecutionSpec) : Task Result := do
  let startedAt ← utcnow
  let sandboxRunId ← uuid4
  match ← mkdirs spec with
  | .error text => .fail (.sandbox
      s!"Failed to create workspace directories under {spec.workspaceRoot}: {text}")
  | .ok () => do
    let script := " ".intercalate spec.command
    let command := ["/bin/bash", "-c", s!"set -euo pipefail\n{script}"]
    match ← popen command (joinPath spec.workspaceRoot "work") spec with
    | .error text => do
      let finishedAt ← utcnow
      pure
        { provider := "local_process", sandboxRunId, startedAt, finishedAt
          exitCode := none, timedOut := false, cancelled := false
          failureKind := "sandbox_setup_failed", errorMessage := text
          stdout := [], stderr := [], artifacts := [] }
    | .ok ended => do
      let finishedAt ← utcnow
      let result (failureKind errorMessage : String) (artifacts : List CollectedArtifact) :
          Result :=
        { provider := "local_process", sandboxRunId, startedAt, finishedAt
          exitCode := ended.exitCode, timedOut := ended.timedOut, cancelled := ended.cancelled
          failureKind, errorMessage, stdout := ended.stdout, stderr := ended.stderr, artifacts }
      if ended.timedOut ∨ ended.cancelled ∨ spec.artifactSpecs = [] then pure (result "" "" [])
      else
        match ← collectArtifacts spec with
        | .ok artifacts => pure (result "" "" artifacts)
        | .error (.sandboxValidation text) => pure (result (artifactFailureKind env text) text [])
        | .error e => .fail e

/-- `LocalProcessSandboxProvider.cleanup`. -/
def cleanup (spec : ExecutionSpec) : Task Unit := rmtree spec.workspaceRoot

/-- Whether the workspace of a finished step is removed. -/
def cleansUp (settings : RunnerSettings) (failed : Bool) : Bool :=
  settings.sandboxCleanupPolicy = "always" ||
    (settings.sandboxCleanupPolicy = "on_success" && !failed)

end Sandbox

/-- The limits of one step, with its timeout clamped to the runner's. -/
def sandboxLimits (settings : RunnerSettings) (declaredTimeout : Option ℤ) : Sandbox.Limits where
  timeoutSeconds :=
    match declaredTimeout with
    | some seconds =>
      if 0 < seconds then min seconds settings.sandboxDefaultTimeoutSeconds
      else settings.sandboxDefaultTimeoutSeconds
    | none => settings.sandboxDefaultTimeoutSeconds
  stdoutMaxBytes := settings.sandboxStdoutMaxBytes
  stderrMaxBytes := settings.sandboxStderrMaxBytes
  artifactMaxBytes := settings.sandboxArtifactMaxBytes
  maxArtifacts := settings.sandboxMaxArtifactsPerStep

-- ════════════════════════════════════════════════════════════════════════
-- The uploader
-- ════════════════════════════════════════════════════════════════════════

/-- The step that uploads belong to. -/
structure Uploader where
  execution : ℕ
  claimToken : String
  step : ClaimedStep

/-- `_DEFAULT_MAX_BYTES`. -/
def defaultMaxBytes : ℕ := 52428800

/-- `_STDOUT_STDERR_MAX_BYTES`. -/
def stdoutStderrMaxBytes : ℕ := 5242880

/-- A metadata entry that is left out when the text is empty. -/
def metadataText (key text : String) : List (String × Json) :=
  if text = "" then [] else [(key, .str text)]

namespace Uploader

variable (uploader : Uploader)

/-- The attempts of `_upload_bytes`. -/
def attempts (upload : ArtifactUpload) : ℕ → Task (Option ArtifactUploadResponse)
  | 0 => pure none
  | n + 1 => do
    match ← uploadArtifact uploader.execution uploader.step.id uploader.claimToken upload with
    | .ok response => pure (some response)
    | .error (.status code _) => if code < 500 then pure none else attempts upload n
    | .error _ => attempts upload n

/-- `_upload_bytes`, which tries twice. -/
def uploadBytes (content : Bytes) (kind name mimeType : String)
    (metadata : List (String × Json)) : Task (Option ArtifactUploadResponse) :=
  if content.length > defaultMaxBytes then pure none
  else
    uploader.attempts
      { kind, name, content, mimeType, checksumSha256 := host.sha256 content, metadata } 2

/-- `_upload_stream`, with the metadata of the action. -/
def uploadStream (content : Bytes) (kind name : String) (metadata : List (String × Json)) :
    Task (Option ArtifactUploadResponse) :=
  let truncated : List (String × Json) :=
    if content.length ≤ stdoutStderrMaxBytes then [("truncated", .bool false)]
    else
      [ ("truncated", .bool true),
        ("original_size_bytes", .int content.length),
        ("captured_size_bytes", .int stdoutStderrMaxBytes),
        ("truncation_reason", .str "stream_limit") ]
  uploader.uploadBytes host (content.take stdoutStderrMaxBytes) kind name "" (truncated ++ metadata)

/-- `upload_file`. -/
def uploadFile (artifact : Sandbox.CollectedArtifact) (provider runId : String)
    (metadata : List (String × Json)) : Task (Option ArtifactUploadResponse) := do
  match ← readFile artifact.absolutePath with
  | .error _ => pure none
  | .ok content =>
    uploader.uploadBytes host (content.take defaultMaxBytes) artifact.spec.kind artifact.spec.name
      artifact.spec.mimeType
      ([("truncated", .bool (decide (content.length > defaultMaxBytes))),
        ("redaction_applied", .bool false),
        ("collection_status", .str "collected"),
        ("artifact_source_path", .str artifact.spec.path)] ++
        metadataText "sandbox_provider" provider ++ metadataText "sandbox_run_id" runId ++
        metadataText "step_key" uploader.step.stepKey ++ metadata)

/-- The uploads of collected artifacts, and what was answered. -/
def uploadFiles (provider runId : String)
    (metadata : Sandbox.CollectedArtifact → List (String × Json)) :
    List Sandbox.CollectedArtifact → Task (List ArtifactUploadResponse)
  | [] => pure []
  | artifact :: artifacts => do
    let response ← uploader.uploadFile host artifact provider runId (metadata artifact)
    let responses ← uploadFiles provider runId metadata artifacts
    pure (response.toList ++ responses)

end Uploader

-- ════════════════════════════════════════════════════════════════════════
-- Handlers
-- ════════════════════════════════════════════════════════════════════════

/-- `ActionExecutionContext`. -/
structure ActionContext where
  execution : ClaimedExecution
  step : ClaimedStep
  claimToken : String
  settings : Option RunnerSettings

/-- `params` of the step's action. -/
def ActionContext.params (ctx : ActionContext) : Json :=
  match ctx.step.actionSnapshot with
  | some snapshot => snapshot.params
  | none => .obj []

/-- `ActionResult`. -/
structure ActionResult where
  status : StepStatus
  exitCode : Option ℤ := none
  errorMessage : String := ""
  failureKind : String := ""
  startedAt : Option ℕ := none
  finishedAt : Option ℕ := none

/-- `ActionResult(status="succeeded", exit_code=0)`. -/
def ActionResult.done : ActionResult := { status := .succeeded, exitCode := some 0 }

/-- A failure. -/
def ActionResult.failure (exitCode : Option ℤ) (errorMessage failureKind : String) :
    ActionResult :=
  { status := .failed, exitCode, errorMessage, failureKind }

/-- `if not ok: raise ActionValidationError(text)`. -/
def requireParam (ok : Prop) [Decidable ok] (text : String) : Except Exn Unit :=
  if ok then .ok () else .error (.actionValidation text)

/-- `value is None or isinstance(value, str)`. -/
def isNoneOrText (v : Json) : Bool := v = .null || v.isStr

namespace ManualTask

/-- `ManualTaskHandler.validate`. -/
def validate (params : Json) : Except Exn Unit :=
  requireParam (isNoneOrText (params.getD "instructions" .null) = true)
    "manual_task 'instructions' must be a string when present"

/-- `ManualTaskHandler.execute`, which only logs. -/
def execute (_ctx : ActionContext) : Task ActionResult := pure .done

end ManualTask

namespace ApprovalGate

/-- `ApprovalGateHandler.validate`. -/
def validate (params : Json) : Except Exn Unit := do
  let approvers := params.getD "approvers" .null
  requireParam (approvers = .null ∨ approvers.isArr = true)
    "approval_gate 'approvers' must be a list when present"
  let positive : Bool :=
    match params.getD "approval_timeout_seconds" .null with
    | .null => true
    | .bool b => b
    | .int n => 0 < n
    | _ => false
  requireParam (positive = true)
    "approval_gate 'approval_timeout_seconds' must be a positive number when present"

/-- `ApprovalGateHandler.execute`, which only logs. -/
def execute (_ctx : ActionContext) : Task ActionResult := pure .done

end ApprovalGate

namespace ArtifactAssertion

/-- `ArtifactAssertionHandler.validate`. -/
def validate (params : Json) : Except Exn Unit := do
  requireParam ((params.getD "artifact_key" .null).truthy = true)
    "artifact_assertion requires a non-empty 'artifact_key' param"
  requireParam (isNoneOrText (params.getD "expected_kind" .null) = true)
    "artifact_assertion 'expected_kind' must be a string when present"
  requireParam (isNoneOrText (params.getD "expected_mime_type" .null) = true)
    "artifact_assertion 'expected_mime_type' must be a string when present"

/-- `ArtifactAssertionHandler.execute`. -/
def execute (ctx : ActionContext) : Task ActionResult :=
  let artifactKey := ctx.params.getD "artifact_key" (.str "")
  let keyText := artifactKey.repr env.reprText
  -- the last declaration of a key counts
  match ctx.step.artifacts.reverse.find? fun decl => artifactKey = .str decl.key with
  | none =>
    if artifactKey.isArr ∨ artifactKey.isObj then .fail (.other "TypeError")
    else
      let declaredKeys := Json.ofStrings (Json.sortTexts (ctx.step.artifacts.map (·.key)).dedup)
      pure (.failure (some 1)
        s!"Artifact {keyText} is not declared on this step. Declared keys: {declaredKeys.repr env.reprText}"
        "required_artifact_missing")
  | some decl =>
    let expectedKind := ctx.params.getD "expected_kind" .null
    let expectedMime := ctx.params.getD "expected_mime_type" .null
    if expectedKind.truthy ∧ decl.kind ≠ "" ∧ expectedKind ≠ .str decl.kind then
      pure (.failure (some 1)
        s!"Artifact {keyText} has kind {env.reprText decl.kind}, expected {expectedKind.repr env.reprText}"
        "assertion_failed")
    else if expectedMime.truthy ∧ decl.mimeType ≠ "" ∧ expectedMime ≠ .str decl.mimeType then
      pure (.failure (some 1)
        s!"Artifact {keyText} has mime_type {env.reprText decl.mimeType}, expected {expectedMime.repr env.reprText}"
        "assertion_failed")
    else pure .done

end ArtifactAssertion

namespace HttpRequest

/-- `_ALLOWED_METHODS`. -/
def allowedMethods : List String := ["GET", "HEAD", "POST", "PUT", "PATCH", "DELETE"]

/-- `_MUTATING_METHODS`. -/
def mutatingMethods : List String := ["POST", "PUT", "PATCH", "DELETE"]

/-- `_DEFAULT_TIMEOUT_SECONDS`. -/
def defaultTimeoutSeconds : ℤ := 30

/-- `(params.get("method") or "GET").upper()`. -/
def methodOf (params : Json) : Except Exn String :=
  match (params.getD "method" .null).orElse (.str "GET") with
  | .str method => .ok (host.upper method)
  | _ => .error (.other "AttributeError")

/-- `HttpRequestHandler.validate`. -/
def validate (params : Json) : Except Exn Unit := do
  let url := params.getD "url" .null
  requireParam (url.truthy = true ∧ url.isStr = true)
    "http_request requires a non-empty 'url' param"
  requireParam (((url.str?).getD "").startsWith "https://" = true)
    s!"http_request requires an HTTPS URL, got: {url.repr env.reprText}"
  let method ← methodOf host params
  requireParam (allowedMethods.contains method = true)
    s!"http_request 'method' must be one of ['DELETE', 'GET', 'HEAD', 'PATCH', 'POST', 'PUT'], got {env.reprText method}"
  let headers := params.getD "headers" .null
  requireParam (headers = .null ∨ headers.isObj = true)
    "http_request 'headers' must be a dict when present"

/-- The answer of the requested server. -/
def resultOf (params : Json) : Except Exn ℤ → Task ActionResult
  | .ok statusCode =>
    let expected := (params.getD "expected_status_codes" .null).orElse (.arr [.int 200])
    match expected.iterate? with
    | none => .fail (.other "TypeError")
    | some codes =>
      if codes.any (Json.int statusCode).pyEq then pure .done
      else pure (.failure none
        s!"HTTP status {statusCode} did not match expected status codes {expected.repr env.reprText}"
        "http_status_unexpected")
  | .error (.http (.timeout text)) =>
    pure (.failure none s!"HTTP request timed out: {text}" "timeout")
  | .error (.http e) => pure (.failure none s!"HTTP request failed: {e.text}" "action_failed")
  | .error e => .fail e

/-- The content of the request, and its headers. -/
def bodyOf (params headers : Json) : Option Bytes × Json :=
  match params.getD "body" .null with
  | .str text => (some (encode text), headers)
  | .obj fs =>
    let content := some (encode (Json.obj fs).dumpsDefault)
    if (headers.keys.map env.lower).contains "content-type" then (content, headers)
    else (content, .obj (headers.fields ++ [("Content-Type", .str "application/json")]))
  | _ => (none, headers)

/-- Whether `http_request` skips the live request. -/
def isDryRun (ctx : ActionContext) : Bool :=
  ctx.execution.executionMode = "dry_run" || (ctx.params.getD "dry_run" .null).truthy ||
    (ctx.params.getD "validate_only" .null).truthy

/-- `HttpRequestHandler.execute`. -/
def execute (ctx : ActionContext) : Task ActionResult := do
  if isDryRun ctx then
    return .done
  let params := ctx.params
  let url := params.getD "url" (.str "")
  let method ← Comp.ofExcept (methodOf host params)
  let headers := (params.getD "headers" .null).orElse (.obj [])
  if mutatingMethods.contains method ∧ ctx.step.idempotency = none ∧
      ctx.step.requiresApproval = false then
    return .failure none
      s!"http_request with mutating method {env.reprText method} requires either an idempotency spec or requires_approval=true on the step"
      "policy_blocked"
  let (content, headers) := bodyOf env params headers
  let timeoutSeconds :=
    match ctx.step.timeoutSeconds with
    | some seconds => if 0 < seconds then seconds else defaultTimeoutSeconds
    | none => defaultTimeoutSeconds
  let answer ← httpRequest method url headers content timeoutSeconds
  resultOf env params answer

end HttpRequest

namespace ShellCommand

/-- `_command_mode`. -/
def commandMode (params : Json) : Json :=
  match params.get? "commandMode" with
  | some mode => mode
  | none =>
    if (params.getD "argv" .null).truthy then .str "argv"
    else if (params.getD "command" .null).truthy then .str "shell"
    else .str ""

/-- `_working_directory`. -/
def workingDirectory (params : Json) : Json :=
  match params.get? "workingDirectory" with
  | some dir => dir
  | none => params.getD "working_directory" .null

/-- The checks of the working directory. -/
def validateWorkingDirectory : Json → Except Exn Unit
  | .null => .ok ()
  | .str dir => do
    requireParam (¬isAbsolute dir = true)
      "shell_command 'workingDirectory' must be relative, not absolute"
    requireParam (¬hasParentPart dir = true)
      "shell_command 'workingDirectory' must not contain '..'"
    requireParam (dir.length ≤ 512) "shell_command 'workingDirectory' exceeds maximum length"
  | _ => .error (.actionValidation "shell_command 'workingDirectory' must be a string when present")

/-- The checks of the command. -/
def validateCommand (params : Json) : Except Exn Unit :=
  let mode := commandMode params
  if mode = .str "argv" then do
    let argv := params.getD "argv" .null
    requireParam (argv.truthy = true ∧ argv.isArr = true)
      "shell_command commandMode=argv requires a non-empty 'argv' list"
    let items := (argv.items?).getD []
    requireParam (items.length ≤ 256) "shell_command 'argv' exceeds maximum of 256 items"
    requireParam (items.all Json.isStr = true) "shell_command 'argv' entries must all be strings"
  else if mode = .str "shell" then
    let command := params.getD "command" .null
    requireParam (command.truthy = true ∧ command.isStr = true)
      "shell_command commandMode=shell requires a non-empty 'command' string"
  else if mode.isArr ∨ mode.isObj then .error (.other "TypeError")
  else .error (.actionValidation
    s!"shell_command 'commandMode' must be one of ['argv', 'shell'], got {mode.repr env.reprText}")

/-- `ShellCommandHandler.validate`. -/
def validate (params : Json) : Except Exn Unit := do
  validateCommand env params
  validateWorkingDirectory (workingDirectory params)

/-- `_build_artifact_specs`. -/
def buildArtifactSpecs : List ArtifactDeclaration → Except Exn (List Sandbox.ArtifactSpec)
  | [] => .ok []
  | decl :: decls =>
    if decl.path = "" then buildArtifactSpecs decls
    else do
      requireParam (¬isAbsolute decl.path = true)
        s!"Artifact declaration '{decl.key}' has an absolute path: {env.reprText decl.path}"
      requireParam (¬hasParentPart decl.path = true)
        s!"Artifact declaration '{decl.key}' contains '..': {env.reprText decl.path}"
      let specs ← buildArtifactSpecs decls
      pure
        ({ name := if decl.name = "" then decl.key else decl.name
           path := decl.path
           kind := if decl.kind = "" then "file" else decl.kind
           mimeType := decl.mimeType
           required := decl.required
           declarationKey := decl.key } :: specs)

/-- `_normalize_sandbox_failure_kind` of the action. -/
def normalizeFailureKind (kind message : String) : String :=
  if ["timeout", "action_input_invalid", "required_artifact_missing",
      "sandbox_setup_failed"].contains kind then kind
  else if ["spawn_error", "sandbox_error", "validation_error"].contains kind then
    "sandbox_setup_failed"
  else if kind = "artifact_error" then Sandbox.artifactFailureKind env message
  else "action_failed"

/-- The script of the step. -/
def scriptOf (params : Json) : String :=
  let command :=
    if commandMode params = .str "argv" then
      " ".intercalate ((((params.getD "argv" (.arr [])).items?).getD []).map fun a =>
        shlexQuote (pyStr env a))
    else textOrEmpty (params.getD "command" (.str ""))
  match workingDirectory params with
  | .str dir => if dir = "" then command else s!"cd {shlexQuote dir}\n{command}"
  | _ => command
where
  /-- The text of a value. -/
  textOrEmpty (v : Json) : String := (v.str?).getD ""

/-- What the sandbox's result means for the step. -/
def resultOf (timeoutSeconds : ℤ) (result : Sandbox.Result) : ActionResult :=
  let failure (errorMessage failureKind : String) : ActionResult :=
    { status := .failed, exitCode := result.exitCode, errorMessage, failureKind
      startedAt := some result.startedAt, finishedAt := some result.finishedAt }
  if result.timedOut then
    failure (if result.errorMessage = "" then s!"Step timed out after {timeoutSeconds}s"
      else result.errorMessage) "timeout"
  else if result.cancelled then
    failure (if result.errorMessage = "" then "Step was cancelled" else result.errorMessage)
      "cancelled"
  else if result.failureKind ≠ "" then
    failure result.errorMessage (normalizeFailureKind env result.failureKind result.errorMessage)
  else
    match result.exitCode with
    | some code =>
      if code ≠ 0 then failure s!"Command exited with code {code}" "action_failed"
      else
        { status := .succeeded, exitCode := some code
          startedAt := some result.startedAt, finishedAt := some result.finishedAt }
    | none =>
      { status := .succeeded, exitCode := none
        startedAt := some result.startedAt, finishedAt := some result.finishedAt }

/-- The end of `ShellCommandHandler.execute`: output and artifacts are uploaded, and the
workspace is removed, before the result is reported. -/
def report (ctx : ActionContext) (settings : RunnerSettings) (spec : Sandbox.ExecutionSpec)
    (result : Sandbox.Result) : Task ActionResult := do
  let uploader : Uploader := ⟨ctx.execution.id, ctx.claimToken, ctx.step⟩
  let action :=
    match ctx.step.actionSnapshot with
    | some snapshot =>
      metadataText "action_type" snapshot.type ++ metadataText "action_version" snapshot.version
    | none => []
  let metadata := action ++ metadataText "step_key" ctx.step.stepKey
  let _ ← uploader.uploadStream host result.stdout "stdout" "stdout.txt" metadata
  let _ ← uploader.uploadStream host result.stderr "stderr" "stderr.txt" metadata
  let _ ← uploader.uploadFiles host result.provider result.sandboxRunId
    (fun artifact => metadataText "declaration_key" artifact.spec.declarationKey ++ action)
    result.artifacts
  let found := resultOf env spec.limits.timeoutSeconds result
  if Sandbox.cleansUp settings (found.status = .failed) then
    Sandbox.cleanup spec
  pure found

/-- The sandboxed run of `ShellCommandHandler.execute`. -/
def runSandboxed (ctx : ActionContext) (settings : RunnerSettings)
    (spec : Sandbox.ExecutionSpec) : Task ActionResult := do
  Comp.ofExcept (Sandbox.getProvider env settings.sandboxProvider)
  match Sandbox.validate spec with
  | .error (.sandboxValidation text) => pure (.failure none text "sandbox_setup_failed")
  | .error e => .fail e
  | .ok () => do
    let result ← ((Except.ok <$> Sandbox.execute env spec).tryCatch fun
      | .sandbox text | .sandboxValidation text => pure (.error text)
      | e => .fail e : Task (Except String Sandbox.Result))
    match result with
    | .error text => do
      Sandbox.cleanup spec
      pure (.failure none text "sandbox_setup_failed")
    | .ok result => report env host ctx settings spec result

/-- `ShellCommandHandler.execute`. -/
def execute (ctx : ActionContext) : Task ActionResult := do
  match ctx.settings with
  | none => pure (.failure none
      "shell_command requires runner settings (sandbox configuration unavailable)"
      "sandbox_setup_failed")
  | some settings => do
    let params := ctx.params
    if commandMode params = .str "shell" ∧ (params.get? "commandMode").isSome ∧
        settings.sandboxAllowShell = false then
      return .failure none
        "shell_command commandMode=shell is not permitted - set RUNNER_SANDBOX_ALLOW_SHELL=true to enable"
        "policy_blocked"
    if ctx.execution.executionMode = "dry_run" then
      return .done
    let path ← ((Except.ok <$> buildWorkspacePath settings.sandboxWorkspaceRoot ctx.execution.id
      ctx.step).tryCatch fun
        | .sandboxValidation text => pure (.error text)
        | e => .fail e : Task (Except String String))
    match path, buildArtifactSpecs env ctx.step.artifacts with
    | .error text, _ => pure (.failure none s!"Failed to build workspace path: {text}"
        "sandbox_setup_failed")
    | .ok _, .error (.actionValidation text) => pure (.failure none text "action_input_invalid")
    | .ok _, .error e => .fail e
    | .ok workspaceRoot, .ok artifactSpecs =>
      let script := scriptOf env params
      runSandboxed env host ctx settings
        { executionId := ctx.execution.id
          stepId := ctx.step.id
          stepKey := ctx.step.stepKey
          stepType := "shell_command"
          command := [script]
          displayCommand := String.ofList (script.toList.take 256)
          workspaceRoot
          environment := buildSandboxEnv host settings
          limits := sandboxLimits settings ctx.step.timeoutSeconds
          artifactSpecs }

end ShellCommand

-- ════════════════════════════════════════════════════════════════════════
-- The registry
-- ════════════════════════════════════════════════════════════════════════

/-- The registered handlers. -/
inductive ActionHandler where
  | manualTask | approvalGate | shellCommand | httpRequest | artifactAssertion
  deriving DecidableEq

/-- `handler.validate`. -/
def ActionHandler.validate : ActionHandler → Json → Except Exn Unit
  | manualTask => ManualTask.validate
  | approvalGate => ApprovalGate.validate
  | shellCommand => ShellCommand.validate env
  | httpRequest => HttpRequest.validate env host
  | artifactAssertion => ArtifactAssertion.validate

/-- `handler.execute`. -/
def ActionHandler.execute : ActionHandler → ActionContext → Task ActionResult
  | manualTask => ManualTask.execute
  | approvalGate => ApprovalGate.execute
  | shellCommand => ShellCommand.execute env host
  | httpRequest => HttpRequest.execute env host
  | artifactAssertion => ArtifactAssertion.execute env

/-- `_build_registry`. -/
def actionRegistry : List ((String × String) × ActionHandler) :=
  [ (("manual_task", "pilot.v1"), .manualTask),
    (("approval_gate", "pilot.v1"), .approvalGate),
    (("shell_command", "pilot.v1"), .shellCommand),
    (("http_request", "pilot.v1"), .httpRequest),
    (("artifact_assertion", "pilot.v1"), .artifactAssertion) ]

/-- `ACTION_REGISTRY.lookup`. -/
def lookupHandler (actionType actionVersion : String) : Option ActionHandler :=
  actionRegistry.lookup (actionType, actionVersion)

end RunbookPlatform
