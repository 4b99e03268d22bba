import RunbookPlatform.Core.Env
import RunbookPlatform.Interaction.Comp
import RunbookPlatform.Runner.Schemas

/-!
# The calls of the runner

What the runner does to the world around it: requests to the control plane
(`apps/runner/runner/client.py`), and what its sandbox and its actions do on the host. The
control plane answers in the shape of the response models, or the request fails.

## Main definitions

- `Exn` — the exceptions of the runner
- `Call`, `Call.Answer` — the calls and their answers
- `Task` — a program of the runner
- `Host` — what the runner finds on its host
-/

namespace RunbookPlatform

/-- `text.encode()`. -/
def encode (text : String) : Bytes := text.toUTF8.toList

/-- `httpx.HTTPError` and the subclasses that the runner tells apart. -/
inductive HttpError where
  | status (code : ℤ) (text : String)
  | timeout (text : String)
  | transport (text : String)

/-- `str(exc)`. -/
def HttpError.text : HttpError → String
  | status _ text | timeout text | transport text => text

/-- The exceptions of the runner. -/
inductive Exn where
  | http (error : HttpError)
  /-- `SandboxValidationError`, a `SandboxError`. -/
  | sandboxValidation (text : String)
  /-- Any other `SandboxError`. -/
  | sandbox (text : String)
  | actionValidation (text : String)
  | secretUnavailable (text : String)
  /-- Any other `Exception`. -/
  | other (name : String)
  /-- The end of the process, which is no `Exception`. -/
  | killed

-- ════════════════════════════════════════════════════════════════════════
-- Payloads
-- ════════════════════════════════════════════════════════════════════════

/-- The payload of `update_step`. -/
structure StepUpdateRequest where
  status : StepStatus
  startedAt : Option ℕ := none
  finishedAt : Option ℕ := none
  exitCode : Option ℤ := none
  errorMessage : String := ""
  failureKind : String := ""
  timedOut : Bool := false
  cancelled : Bool := false
  sandboxProvider : String := ""
  sandboxRunId : String := ""

/-- `runner_action` of `StepStartResponse`. -/
inductive StartAction where
  | run | waitForApproval | blocked
  deriving DecidableEq

/-- `runner_action` of `ApprovalStatusResponse`. -/
inductive PollAction where
  | wait | run | fail
  deriving DecidableEq

/-- `final_status` of `CompleteExecutionRequest`. -/
inductive FinalStatus where
  | succeeded | failed | cancelled
  deriving DecidableEq

/-- `outcome` of `VerificationResultRequest`. -/
inductive CheckOutcome where
  | passed | failed
  deriving DecidableEq

/-- The payload of `submit_verification_result`. -/
structure VerificationResultRequest where
  checkKey : String
  outcome : CheckOutcome
  verificationKey : String
  stepKey : String
  artifactIds : List ℕ
  artifactChecksums : List (String × String)
  exitCode : ℤ
  checkType : String

/-- The payload of `upload_artifact`. -/
structure ArtifactUpload where
  kind : String
  name : String
  content : Bytes
  mimeType : String := ""
  checksumSha256 : String
  metadata : List (String × Json)

/-- `ArtifactUploadResponse`, as far as the runner reads it. -/
structure ArtifactUploadResponse where
  id : ℕ
  checksumSha256 : String

namespace Sandbox

/-- `SandboxLimits`. -/
structure Limits where
  timeoutSeconds : ℤ
  stdoutMaxBytes : ℤ
  stderrMaxBytes : ℤ
  artifactMaxBytes : ℤ
  maxArtifacts : ℤ

/-- `ArtifactSpec`. -/
structure ArtifactSpec where
  name : String
  path : String
  kind : String := "file"
  mimeType : String := ""
  required : Bool := false
  declarationKey : String := ""

/-- `SandboxExecutionSpec`. -/
structure ExecutionSpec where
  executionId : ℕ
  stepId : ℕ
  stepKey : String
  stepType : String
  command : List String
  displayCommand : String
  workspaceRoot : String
  environment : List (String × String)
  limits : Limits
  artifactSpecs : List ArtifactSpec := []

/-- `CollectedArtifact`. -/
structure CollectedArtifact where
  spec : ArtifactSpec
  absolutePath : String
  sizeBytes : ℕ
  checksumSha256 : String

/-- How a subprocess ended: its exit code, whether it was stopped at the deadline or by a
cancellation, and its output, cut to the limits and redacted. -/
structure ProcessEnd where
  exitCode : Option ℤ
  timedOut : Bool := false
  cancelled : Bool := false
  stdout : Bytes := []
  stderr : Bytes := []

/-- `SandboxResult`. -/
structure Result where
  provider : String
  sandboxRunId : String
  startedAt : ℕ
  finishedAt : ℕ
  exitCode : Option ℤ
  timedOut : Bool
  cancelled : Bool
  failureKind : String
  errorMessage : String
  stdout : Bytes
  stderr : Bytes
  artifacts : List CollectedArtifact

end Sandbox

-- ════════════════════════════════════════════════════════════════════════
-- Calls
-- ════════════════════════════════════════════════════════════════════════

/-- A call of the runner. -/
inductive Call where
  -- the control plane
  | startStep (execution step : ℕ) (claimToken : String)
  | approvalStatus (execution step : ℕ) (claimToken : String)
  | updateStep (execution step : ℕ) (claimToken : String) (update : StepUpdateRequest)
  | completeExecution (execution : ℕ) (claimToken : String) (finalStatus : FinalStatus)
      (errorMessage : String)
  | bindChangeExecution (execution : ℕ) (claimToken : String) (change : ChangeFields)
  | executionStarted (change execution observedAt : ℕ)
  | executionFinished (change execution observedAt : ℕ)
  | breakglassHeartbeat (change : ℕ) (claimToken : String) (session : BreakglassSessionFacts)
  | submitVerificationResult (change execution : ℕ) (claimToken : String)
      (result : VerificationResultRequest)
  | uploadArtifact (execution step : ℕ) (claimToken : String) (upload : ArtifactUpload)
  -- the process
  /-- `cancellation_event.is_set()`, which the heartbeat thread sets. -/
  | isCancelled
  | utcnow
  | uuid4
  -- the host
  | resolvePath (path : String)
  | mkdirs (spec : Sandbox.ExecutionSpec)
  | popen (command : List String) (cwd : String) (spec : Sandbox.ExecutionSpec)
  | collectArtifacts (spec : Sandbox.ExecutionSpec)
  | rmtree (root : String)
  | readFile (path : String)
  -- the network
  | httpRequest (method : String) (url headers : Json) (content : Option Bytes) (timeout : ℤ)

/-- The answer to a call. -/
@[reducible] def Call.Answer : Call → Type
  | startStep .. => Except HttpError StartAction
  | approvalStatus .. => Except HttpError PollAction
  | updateStep .. => Except HttpError Unit
  | completeExecution .. => Except HttpError Unit
  | bindChangeExecution .. => Except HttpError Unit
  | executionStarted .. => Except HttpError Unit
  | executionFinished .. => Except HttpError Unit
  | breakglassHeartbeat .. => Except HttpError Unit
  | submitVerificationResult .. => Except HttpError Unit
  | uploadArtifact .. => Except HttpError ArtifactUploadResponse
  | isCancelled => Bool
  | utcnow => ℕ
  | uuid4 => String
  | resolvePath _ => String
  | mkdirs _ => Except String Unit
  | popen .. => Except String Sandbox.ProcessEnd
  | collectArtifacts _ => Except Exn (List Sandbox.CollectedArtifact)
  | rmtree _ => Unit
  | readFile _ => Except String Bytes
  | httpRequest .. => Except Exn ℤ

/-- A program of the runner. -/
abbrev Task (α : Type) := Interaction.Comp Call Call.Answer Exn α

/-- A call with its answer. -/
abbrev CallEvent := Interaction.Event Call Call.Answer

open Interaction

/-- A request to the control plane raises when it fails. -/
def raiseHttp {α : Type} : Except HttpError α → Task α
  | .ok a => pure a
  | .error e => .fail (.http e)

/-- `try: ... except httpx.HTTPError`. -/
def catchHttp {α : Type} (task : Task α) (handler : HttpError → Task α) : Task α :=
  task.tryCatch fun
    | .http e => handler e
    | e => .fail e

-- ════════════════════════════════════════════════════════════════════════
-- One call each
-- ════════════════════════════════════════════════════════════════════════

namespace Client

/-- `client.start_step`. -/
def startStep (execution step : ℕ) (claimToken : String) : Task StartAction :=
  Comp.request (Call.startStep execution step claimToken) >>= raiseHttp

/-- `client.get_step_approval_status`. -/
def getStepApprovalStatus (execution step : ℕ) (claimToken : String) : Task PollAction :=
  Comp.request (Call.approvalStatus execution step claimToken) >>= raiseHttp

/-- `client.update_step`. -/
def updateStep (execution step : ℕ) (claimToken : String) (update : StepUpdateRequest) :
    Task Unit :=
  Comp.request (Call.updateStep execution step claimToken update) >>= raiseHttp

/-- `client.complete_execution`. -/
def completeExecution (execution : ℕ) (claimToken : String) (finalStatus : FinalStatus)
    (errorMessage : String) : Task Unit :=
  Comp.request (Call.completeExecution execution claimToken finalStatus errorMessage) >>= raiseHttp

/-- `client.bind_change_execution`. -/
def bindChangeExecution (execution : ℕ) (claimToken : String) (change : ChangeFields) :
    Task Unit :=
  Comp.request (Call.bindChangeExecution execution claimToken change) >>= raiseHttp

/-- `client.execution_started`. -/
def executionStarted (change execution observedAt : ℕ) : Task Unit :=
  Comp.request (Call.executionStarted change execution observedAt) >>= raiseHttp

/-- `client.execution_finished`. -/
def executionFinished (change execution observedAt : ℕ) : Task Unit :=
  Comp.request (Call.executionFinished change execution observedAt) >>= raiseHttp

/-- `client.breakglass_heartbeat`, which never raises. -/
def breakglassHeartbeat (change : ℕ) (claimToken : String) (session : BreakglassSessionFacts) :
    Task Unit := do
  let _ ← Comp.request (Call.breakglassHeartbeat change claimToken session)
  pure ()

/-- `client.submit_verification_result`. -/
def submitVerificationResult (change execution : ℕ) (claimToken : String)
    (result : VerificationResultRequest) : Task Unit :=
  Comp.request (Call.submitVerificationResult change execution claimToken result) >>= raiseHttp

end Client

/-- `cancellation_event.is_set()`. -/
def isCancelled : Task Bool := Comp.request Call.isCancelled

/-- `_utcnow()`. -/
def utcnow : Task ℕ := Comp.request Call.utcnow

/-- `str(uuid4())`. -/
def uuid4 : Task String := Comp.request Call.uuid4

/-- `Path(path).resolve()`. -/
def resolvePath (path : String) : Task String := Comp.request (Call.resolvePath path)

/-- The directories of a workspace; the text of an `OSError` when they cannot be made. -/
def mkdirs (spec : Sandbox.ExecutionSpec) : Task (Except String Unit) :=
  Comp.request (Call.mkdirs spec)

/-- `subprocess.Popen(...)` and the wait for its end; the text of an `OSError` when there is
no process. -/
def popen (command : List String) (cwd : String) (spec : Sandbox.ExecutionSpec) :
    Task (Except String Sandbox.ProcessEnd) :=
  Comp.request (Call.popen command cwd spec)

/-- `WorkspaceManager.collect_artifacts`. -/
def collectArtifacts (spec : Sandbox.ExecutionSpec) :
    Task (Except Exn (List Sandbox.CollectedArtifact)) :=
  Comp.request (Call.collectArtifacts spec)

/-- `shutil.rmtree(root)`. -/
def rmtree (root : String) : Task Unit := Comp.request (Call.rmtree root)

/-- `Path(path).read_bytes()`; the text of an `OSError`. -/
def readFile (path : String) : Task (Except String Bytes) := Comp.request (Call.readFile path)

/-- `httpx.Client(timeout=...).request(...)`: the status code of the response. -/
def httpRequest (method : String) (url headers : Json) (content : Option Bytes) (timeout : ℤ) :
    Task (Except Exn ℤ) :=
  Comp.request (Call.httpRequest method url headers content timeout)

/-- `client.upload_artifact`. -/
def uploadArtifact (execution step : ℕ) (claimToken : String) (upload : ArtifactUpload) :
    Task (Except HttpError ArtifactUploadResponse) :=
  Comp.request (Call.uploadArtifact execution step claimToken upload)

/-- What the runner finds on its host. -/
structure Host where
  /-- `os.environ`. -/
  environ : List (String × String)
  /-- `str.upper()`. -/
  upper : String → String
  upper_ascii : ∀ s : String, (∀ c ∈ s.toList, c.toNat < 128) → upper s = s.map Char.toUpper
  /-- `hashlib.sha256(data).hexdigest()`. -/
  sha256 : Bytes → String

end RunbookPlatform
