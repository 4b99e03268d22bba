import Mathlib.Data.List.Sort
import RunbookPlatform.Runner.Actions

/-!
# The executor

`apps/runner/runner/executor.py`: the program that a runner runs for one claimed
execution. Steps run in the order of their positions; every step is started at the control
plane, which lets it run, makes it wait for an approval or refuses it. The thread that sends
heartbeats is left out but for the flag it sets.

## Main definitions

- `Executor` — one execution of the runner
- `Executor.runStep`, `Executor.run` — `_run_step` and `run`
- `Executor.steps` — the steps in the order of the loop

## Design notes

An approval is waited for without a bound. `Executor.polls` bounds the polls of one wait,
after which the process is killed, so that the executors of all bounds have all finite
prefixes of the unbounded runs among their runs.
-/

namespace RunbookPlatform

open Interaction

/-- The executor of one claimed execution. -/
structure Executor where
  env : Env
  host : Host
  settings : Option RunnerSettings
  execution : ClaimedExecution
  claimToken : String
  polls : ℕ

namespace Executor

variable (x : Executor)

/-- Whether the runner runs v1 steps in the sandbox. -/
def isSandboxed : Bool :=
  match x.settings with
  | some settings => settings.executionMode = "sandboxed"
  | none => false

/-- `sorted(execution.steps, key=lambda s: s.position)`. -/
def steps : List ClaimedStep := x.execution.steps.insertionSort fun a b => a.position ≤ b.position

-- ════════════════════════════════════════════════════════════════════════
-- Reports
-- ════════════════════════════════════════════════════════════════════════

/-- `client.update_step`, and whether it was acknowledged. -/
def updateStep (step : ClaimedStep) (update : StepUpdateRequest) : Task Bool :=
  catchHttp (do
    Client.updateStep x.execution.id step.id x.claimToken update
    pure true) fun _ => pure false

/-- The report of a step that fails before it has run. -/
def failStep (step : ClaimedStep) (errorMessage failureKind : String) : Task Bool := do
  let _ ← x.updateStep step { status := .failed, errorMessage, failureKind }
  pure true

/-- The verification keys that the claim lists for the step. -/
def matchingKeys (step : ClaimedStep) : List ClaimedVerificationKey :=
  x.execution.verificationKeys.filter fun item => item.stepKey ≠ "" && item.stepKey = step.stepKey

/-- The submission for one verification key. -/
def verificationResult (step : ClaimedStep) (outcome : CheckOutcome) (exitCode : ℤ)
    (artifacts : List ArtifactUploadResponse) (item : ClaimedVerificationKey) :
    VerificationResultRequest where
  checkKey := item.checkKey
  outcome
  verificationKey := item.verificationKey
  stepKey := step.stepKey
  artifactIds := artifacts.map (·.id)
  artifactChecksums := artifacts.map fun artifact => (idText artifact.id, artifact.checksumSha256)
  exitCode
  checkType := item.checkType

/-- One submission each. -/
def submitResults (change : ℕ) : List VerificationResultRequest → Task Unit
  | [] => pure ()
  | result :: results => do
    catchHttp (Client.submitVerificationResult change x.execution.id x.claimToken result)
      fun _ => pure ()
    submitResults change results

/-- `_emit_step_verification_facts`. -/
def emitStepVerificationFacts (step : ClaimedStep) (outcome : CheckOutcome) (exitCode : ℤ)
    (artifacts : List ArtifactUploadResponse) : Task Unit :=
  match x.execution.change with
  | none => pure ()
  | some change => x.submitResults change.changeRecordId
      ((x.matchingKeys step).map (verificationResult step outcome exitCode artifacts))

/-- The report of a step that has run; `facts` follow when it is acknowledged. Returns
whether the step failed. -/
def reportStep (step : ClaimedStep) (update : StepUpdateRequest) (facts : Task Unit) :
    Task Bool := do
  if ← x.updateStep step update then
    facts
    pure (update.status = .failed)
  else pure true

-- ════════════════════════════════════════════════════════════════════════
-- v2 actions
-- ════════════════════════════════════════════════════════════════════════

/-- Why an action is refused: `error_message` and `failure_kind`. -/
structure Refusal where
  errorMessage : String
  failureKind : String

/-- `NullProvider().resolve(keys)`: the refusal of any secret. -/
def resolveSecrets (keys : List String) : Except String Unit :=
  if keys = [] then .ok ()
  else .error ("Secrets required but no credential broker is configured: " ++
    (Json.ofStrings (Json.sortTexts keys)).repr x.env.reprText)

/-- What `_execute_action_v2` checks before it calls the handler. -/
def prepareAction (step : ClaimedStep) (snapshot : ActionSnapshot) :
    Except Exn (Except Refusal ActionHandler) :=
  match lookupHandler snapshot.type snapshot.version with
  | none =>
    .ok (.error ⟨s!"Unsupported action contract: type={x.env.reprText snapshot.type} version={x.env.reprText snapshot.version}",
      "unsupported_action_contract"⟩)
  | some handler =>
    match handler.validate x.env x.host snapshot.params with
    | .error (.actionValidation text) => .ok (.error ⟨text, "action_input_invalid"⟩)
    | .error e => .error e
    | .ok () =>
      match x.resolveSecrets step.secretKeys with
      | .error text => .ok (.error ⟨text, "secret_unavailable"⟩)
      | .ok () => .ok (.ok handler)

/-- The context of the handlers. -/
def actionContext (step : ClaimedStep) : ActionContext where
  execution := x.execution
  step
  claimToken := x.claimToken
  settings := x.settings

/-- `_execute_action_v2`. -/
def executeActionV2 (step : ClaimedStep) (snapshot : ActionSnapshot) : Task Bool := do
  match ← Comp.ofExcept (x.prepareAction step snapshot) with
  | .error refusal => x.failStep step refusal.errorMessage refusal.failureKind
  | .ok handler => do
    let startedAt ← utcnow
    let result ← handler.execute x.env x.host (x.actionContext step)
    let finishedAt ← utcnow
    x.reportStep step
      { status := result.status
        startedAt := some (result.startedAt.getD startedAt)
        finishedAt := some (result.finishedAt.getD finishedAt)
        exitCode := result.exitCode
        errorMessage := result.errorMessage
        failureKind := result.failureKind }
      (pure ())

-- ════════════════════════════════════════════════════════════════════════
-- v1 steps
-- ════════════════════════════════════════════════════════════════════════

/-- One stream of `_upload_step_outputs`; an empty one is not uploaded. -/
def uploadStepOutput (step : ClaimedStep) (content : Bytes) (kind name : String) :
    Task (List ArtifactUploadResponse) :=
  if content = [] then pure []
  else do
    let response ← (Uploader.mk x.execution.id x.claimToken step).uploadStream x.host content kind
      name []
    pure response.toList

/-- `_upload_step_outputs`. -/
def uploadStepOutputs (step : ClaimedStep) (stdout stderr : Bytes) :
    Task (List ArtifactUploadResponse) := do
  let first ← x.uploadStepOutput step stdout "stdout" "stdout.txt"
  let second ← x.uploadStepOutput step stderr "stderr" "stderr.txt"
  pure (first ++ second)

/-- The text that a failing simulated step writes and reports. -/
def simulatedFailure : String := "Intentional failure triggered by FAIL_STEP token."

/-- `_execute_simulated`. -/
def executeSimulated (step : ClaimedStep) : Task Bool := do
  let startedAt ← utcnow
  if containsText step.command "FAIL_STEP" then
    let finishedAt ← utcnow
    let artifacts ← x.uploadStepOutputs step [] (encode (simulatedFailure ++ "\n"))
    x.reportStep step
      { status := .failed, startedAt := some startedAt, finishedAt := some finishedAt
        exitCode := some 1, errorMessage := simulatedFailure }
      (x.emitStepVerificationFacts step .failed 1 artifacts)
  else
    let finishedAt ← utcnow
    let artifacts ← x.uploadStepOutputs step
      (encode s!"Step '{step.name}' executed successfully.\n") []
    x.reportStep step
      { status := .succeeded, startedAt := some startedAt, finishedAt := some finishedAt
        exitCode := some 0 }
      (x.emitStepVerificationFacts step .passed 0 artifacts)

/-- `_SUPPORTED_SANDBOX_STEP_TYPES`. -/
def supportedSandboxStepTypes : List String := ["command", "shell"]

/-- `_normalize_sandbox_failure_kind` of the executor. -/
def normalizeFailureKind (kind message : String) : String :=
  if ["timeout", "sandbox_setup_failed", "required_artifact_missing"].contains kind then kind
  else if ["spawn_error", "sandbox_error", "validation_error"].contains kind then
    "sandbox_setup_failed"
  else if kind = "artifact_error" then Sandbox.artifactFailureKind x.env message
  else kind

/-- The outcome of a sandboxed step: whether it failed, its error message and failure
kind. -/
def sandboxOutcome (timeoutSeconds : ℤ) (result : Sandbox.Result) : Bool × String × String :=
  if result.timedOut then
    (true,
      if result.errorMessage = "" then s!"Step timed out after {timeoutSeconds}s"
      else result.errorMessage, "timeout")
  else if result.cancelled then
    (true, if result.errorMessage = "" then "Step was cancelled" else result.errorMessage,
      "cancelled")
  else if result.failureKind ≠ "" then
    (true, result.errorMessage, x.normalizeFailureKind result.failureKind result.errorMessage)
  else
    match result.exitCode with
    | some code => if code ≠ 0 then (true, s!"Command exited with code {code}", "action_failed")
        else (false, "", "")
    | none => (false, "", "")

/-- The end of `_execute_sandboxed`, from the sandbox's result on. -/
def reportSandboxed (settings : RunnerSettings) (step : ClaimedStep)
    (spec : Sandbox.ExecutionSpec) (result : Sandbox.Result) : Task Bool := do
  let (failed, errorMessage, failureKind) := x.sandboxOutcome spec.limits.timeoutSeconds result
  let outputs ← x.uploadStepOutputs step result.stdout result.stderr
  let files ← (Uploader.mk x.execution.id x.claimToken step).uploadFiles x.host result.provider
    result.sandboxRunId (fun _ => []) result.artifacts
  if Sandbox.cleansUp settings failed then
    Sandbox.cleanup spec
  x.reportStep step
    { status := if failed then .failed else .succeeded
      startedAt := some result.startedAt
      finishedAt := some result.finishedAt
      exitCode := result.exitCode
      errorMessage, failureKind
      timedOut := result.timedOut
      cancelled := result.cancelled
      sandboxProvider := result.provider
      sandboxRunId := result.sandboxRunId }
    (x.emitStepVerificationFacts step (if failed then .failed else .passed)
      (result.exitCode.getD (if failed then 1 else 0)) (outputs ++ files))

/-- `step.step_snapshot.get("timeoutSeconds")`, when it is a number. -/
def snapshotTimeout (step : ClaimedStep) : Option ℤ :=
  match step.stepSnapshot.getD "timeoutSeconds" .null with
  | .int n => some n
  | .bool b => some (if b then 1 else 0)
  | _ => none

/-- The `SandboxExecutionSpec` of `_execute_sandboxed`. -/
def sandboxSpec (settings : RunnerSettings) (step : ClaimedStep) (workspaceRoot : String) :
    Sandbox.ExecutionSpec where
  executionId := x.execution.id
  stepId := step.id
  stepKey := step.stepKey
  stepType := step.stepType
  command := [step.command]
  displayCommand := step.command
  workspaceRoot
  environment := buildSandboxEnv x.host settings
  limits := sandboxLimits settings (snapshotTimeout step)

/-- The sandboxed run of `_execute_sandboxed`. -/
def runSandboxed (settings : RunnerSettings) (step : ClaimedStep) (spec : Sandbox.ExecutionSpec) :
    Task Bool := do
  Comp.ofExcept (Sandbox.getProvider x.env settings.sandboxProvider)
  match Sandbox.validate spec with
  | .error (.sandboxValidation text) => x.failStep step text "sandbox_setup_failed"
  | .error e => .fail e
  | .ok () => do
    let result ← ((Except.ok <$> Sandbox.execute x.env spec).tryCatch fun
      | .sandbox text | .sandboxValidation text => pure (.error text)
      | e => .fail e : Task (Except String Sandbox.Result))
    match result with
    | .error text => do
      let failed ← x.failStep step text "sandbox_setup_failed"
      Sandbox.cleanup spec
      pure failed
    | .ok result => x.reportSandboxed settings step spec result

/-- `_execute_sandboxed`. -/
def executeSandboxed (settings : RunnerSettings) (step : ClaimedStep) : Task Bool := do
  if !supportedSandboxStepTypes.contains step.stepType then
    x.failStep step
      s!"Unsupported step_type {x.env.reprText step.stepType} for sandboxed execution."
      "unsupported_action_contract"
  else
    let workspaceRoot ← buildWorkspacePath settings.sandboxWorkspaceRoot x.execution.id step
    x.runSandboxed settings step (x.sandboxSpec settings step workspaceRoot)

-- ════════════════════════════════════════════════════════════════════════
-- Steps
-- ════════════════════════════════════════════════════════════════════════

/-- `_execute_command`. -/
def executeCommand (step : ClaimedStep) : Task Bool :=
  match step.actionSnapshot, x.settings with
  | some snapshot, _ => x.executeActionV2 step snapshot
  | none, some settings =>
    if settings.executionMode = "sandboxed" then x.executeSandboxed settings step
    else x.executeSimulated step
  | none, none => x.executeSimulated step

/-- The loop of `_wait_for_approval`. -/
def waitForApproval (step : ClaimedStep) : ℕ → Task Bool
  | 0 => .fail .killed
  | n + 1 => do
    if ← isCancelled then
      pure true
    else
      let answer ← catchHttp
        (some <$> Client.getStepApprovalStatus x.execution.id step.id x.claimToken)
        fun _ => pure none
      match answer with
      | none | some .wait => waitForApproval step n
      | some .run => x.executeCommand step
      | some .fail => pure true

/-- `_run_step`: whether the step failed. -/
def runStep (step : ClaimedStep) : Task Bool := do
  let answer ← catchHttp (some <$> Client.startStep x.execution.id step.id x.claimToken)
    fun _ => pure none
  match answer with
  | some .run => x.executeCommand step
  | some .waitForApproval => x.waitForApproval step x.polls
  | none | some .blocked => pure true

/-- The loop of `run` over the steps. -/
def runSteps : List ClaimedStep → Task FinalStatus
  | [] => pure .succeeded
  | step :: steps => do
    if ← isCancelled then
      pure .cancelled
    else
      match step.status with
      | .succeeded | .skipped => runSteps steps
      | .failed => pure .failed
      | _ =>
        if ← x.runStep step then pure .failed
        else runSteps steps

-- ════════════════════════════════════════════════════════════════════════
-- The execution
-- ════════════════════════════════════════════════════════════════════════

/-- `_bind_change_execution`. -/
def bindChangeExecution (change : ChangeFields) : Task Bool :=
  catchHttp (do
    Client.bindChangeExecution x.execution.id x.claimToken change
    pure true) fun _ => pure false

/-- `_notify_execution_started`. -/
def notifyExecutionStarted (change : ChangeFields) : Task Unit := do
  let now ← utcnow
  catchHttp (Client.executionStarted change.changeRecordId x.execution.id now) fun _ => pure ()

/-- `_notify_execution_finished`. -/
def notifyExecutionFinished : Task Unit :=
  match x.execution.change with
  | none => pure ()
  | some change => do
    let now ← utcnow
    catchHttp (Client.executionFinished change.changeRecordId x.execution.id now) fun _ => pure ()

/-- `_observe_breakglass`. -/
def observeBreakglass (change : ChangeFields) : Task Unit :=
  match x.execution.breakglass with
  | none => pure ()
  | some session => Client.breakglassHeartbeat change.changeRecordId x.claimToken session

/-- `client.complete_execution`, whose failure is only logged. -/
def completeExecution (finalStatus : FinalStatus) (errorMessage : String) : Task Unit :=
  catchHttp (Client.completeExecution x.execution.id x.claimToken finalStatus errorMessage)
    fun _ => pure ()

/-- The outcome of the loop; a failure counts as a cancellation once that was requested. -/
def outcome : Task FinalStatus :=
  (do
    let outcome ← x.runSteps x.steps
    if outcome = .failed then
      if ← isCancelled then pure .cancelled else pure .failed
    else pure outcome : Task FinalStatus).tryCatch fun
      | .killed => .fail .killed
      | _ => pure .failed

/-- The run from the loop on. -/
def runLoop : Task Unit := do
  let outcome ← x.outcome
  x.completeExecution outcome ""
  x.notifyExecutionFinished

/-- `run`. -/
def run : Task Unit :=
  match x.execution.change with
  | none => x.runLoop
  | some change => do
    if ← x.bindChangeExecution change then
      x.notifyExecutionStarted change
      x.observeBreakglass change
      x.runLoop
    else x.completeExecution .failed "Change binding failed — aborting execution."

end Executor

/-- A host to run examples on. -/
def Host.sample : Host where
  environ := []
  upper text := text.map Char.toUpper
  upper_ascii _ _ := rfl
  sha256 _ := "sha256"

end RunbookPlatform
