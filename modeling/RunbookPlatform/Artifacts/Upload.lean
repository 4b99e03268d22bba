import RunbookPlatform.Executions.InternalViews
import Mathlib.Algebra.Ring.Nat

/-!
# Artifact uploads

`create_from_runner_upload`: the checks of an upload, in their order, and the row. Artifacts
are never changed after they are created.

## Main definitions

- `sanitizeFilename`
- `UploadRequest`, `checkUpload`, `createFromRunnerUpload`
-/

namespace RunbookPlatform

open Transactional

/-- `_sanitize_filename`. -/
def sanitizeFilename (env : Env) (name : String) : String :=
  let path := name.toList.map fun c => if c = '\\' then '/' else c
  let base := (path.reverse.takeWhile (· ≠ '/')).reverse
  let visible := (base.filter fun c => 32 ≤ c.toNat && c.toNat ≠ 127).map fun c =>
    if c = ' ' then '_' else c
  let safe := (visible.dropWhile (· = '.')).map fun c =>
    if env.isWordChar c || c = '.' || c = '-' then c else '_'
  String.ofList ((if safe = [] then "artifact".toList else safe).take 200)

/-- `_normalize_mime_type`. -/
def normalizeMimeType (kind : ArtifactKind) (declared : String) : String :=
  match kind with
  | .stdout | .stderr => "text/plain; charset=utf-8"
  | .report => if declared ≠ "" then declared else "application/json"
  | _ => if declared ≠ "" then declared else "application/octet-stream"

/-- The arguments of `create_from_runner_upload`, with what its file and the cache hold. -/
structure UploadRequest where
  execution : ℕ
  step : Option ℕ
  kind : String
  name : String
  sizeBytes : ℕ
  /-- The hash of the file's content. -/
  computedChecksum : String
  declaredMimeType : String := ""
  declaredChecksumSha256 : String := ""
  metadata : Json := .obj []
  /-- `len(json.dumps(metadata).encode("utf-8"))`. -/
  metadataBytes : ℕ := 2
  /-- The bytes that the cache has counted for the runner today. -/
  uploadedToday : ℕ := 0
  /-- Whether the storage accepts the file. -/
  stored : Bool := true

/-- The available artifacts that `p` selects. -/
def availableArtifacts (p : Artifact → Bool) (s : Db) : List Artifact :=
  (rowsWhere s.artifacts fun a => a.uploadStatus = .available && p a).map (·.row)

/-- The quotas of an upload. -/
def checkQuotas (env : Env) (req : UploadRequest) : Read Unit := do
  ensure (req.sizeBytes ≤ env.artifactMaxUploadBytes)
    { kind := .payloadTooLarge, code := "artifact_too_large"
      detail := s!"File size {req.sizeBytes} bytes exceeds maximum {env.artifactMaxUploadBytes} bytes." }
  ensure (req.uploadedToday + req.sizeBytes ≤ env.artifactDailyBytesPerRunner) <|
    .validation "artifact_runner_daily_quota_exceeded"
      s!"Upload would exceed runner daily quota of {env.artifactDailyBytesPerRunner} bytes."
  let existing ← select (availableArtifacts (·.execution = req.execution))
  let total := (existing.map (·.sizeBytes)).sum
  ensure (total + req.sizeBytes ≤ env.artifactMaxTotalBytesPerExecution) <|
    .validation "artifact_execution_quota_exceeded"
      s!"Upload would exceed per-execution quota of {env.artifactMaxTotalBytesPerExecution} bytes."
  match req.step with
  | none => pure ()
  | some step =>
    let count ← select fun s => (availableArtifacts (·.step = some step) s).length
    ensure (count < env.artifactMaxArtifactsPerStep) <|
      .validation "artifact_step_count_exceeded"
        s!"Step already has {env.artifactMaxArtifactsPerStep} artifacts."

/-- `_validate_metadata`. -/
def validateMetadata (env : Env) (req : UploadRequest) : Read Unit := do
  ensure req.metadata.isObj <| .validation "artifact_invalid_metadata"
    "Metadata must be a JSON object."
  ensure (req.metadataBytes ≤ env.artifactMaxMetadataBytes)
    { kind := .payloadTooLarge, code := "artifact_metadata_too_large"
      detail := s!"Artifact metadata exceeds maximum size of {env.artifactMaxMetadataBytes} bytes." }

/-- `_CHECKSUM_RE.match(text)`, which a final line break does not spoil. -/
def isChecksumText (text : String) : Bool :=
  let hex (cs : List Char) : Bool :=
    cs.length = 64 && cs.all fun c => ('0' ≤ c && c ≤ '9') || ('a' ≤ c && c ≤ 'f')
  hex text.toList || (text.toList.getLast? = some '\n' && hex text.toList.dropLast)

/-- The checksum checks of an upload. -/
def validateChecksum (env : Env) (req : UploadRequest) : Read Unit := do
  ensure (env.artifactRequireChecksum → req.declaredChecksumSha256 ≠ "") <|
    .validation "artifact_checksum_required" "checksum_sha256 is required for artifact uploads."
  if req.declaredChecksumSha256 ≠ "" then
    ensure (isChecksumText req.declaredChecksumSha256) <|
      .validation "artifact_invalid_checksum"
        "checksum_sha256 must be exactly 64 lowercase hex characters."
    ensure (req.declaredChecksumSha256 = req.computedChecksum) <|
      .validation "checksum_mismatch"
        "Provided checksum_sha256 does not match computed checksum."

/-- The checks of an upload after the ownership and binding guards. Returns the kind. -/
def checkUpload (env : Env) (req : UploadRequest) (execution : Execution) : Read ArtifactKind := do
  ensure (execution.status.isTerminal = false) <| .transition "artifact_execution_terminal"
    "Artifacts cannot be uploaded after execution has reached a terminal state."
  let kinds := ", ".intercalate (ArtifactKind.all.map (·.value))
  let kind ← expect (ArtifactKind.ofValue? req.kind) <| .validation "artifact_invalid_kind"
    s!"Invalid kind '{req.kind}'. Allowed: {kinds}."
  checkQuotas env req
  validateMetadata env req
  let mimeType := normalizeMimeType kind req.declaredMimeType
  ensure (env.artifactAllowedMimeTypes = [] ∨ mimeType ∈ env.artifactAllowedMimeTypes) <|
    .validation "artifact_mime_type_not_allowed"
      s!"Artifact MIME type '{mimeType}' is not allowed."
  validateChecksum env req
  ensure req.stored
    { kind := .externalDependency, code := "artifact_storage_failed"
      detail := "Failed to write artifact to storage." }
  pure kind

/-- The transaction of `create_from_runner_upload`. -/
def insertArtifact (env : Env) (req : UploadRequest) (call : RunnerCall) (organization : ℕ)
    (kind : ArtifactKind) : Service [.artifacts, .audit] Unit := do
  let now ← timezoneNow
  let artifact ← insertRow Rel.artifacts
    { organization
      execution := req.execution
      step := req.step
      kind
      name := sanitizeFilename env req.name
      sizeBytes := req.sizeBytes
      checksumSha256 := req.computedChecksum
      uploadedByRunnerId := call.runnerId
      uploadStatus := .available
      uploadedAt := now }
  emit organization (runnerActor call.runnerId) "artifact.uploaded" .artifact artifact

/-- The upload endpoints and `create_from_runner_upload`. -/
def createFromRunnerUpload (env : Env) (req : UploadRequest) (call : RunnerCall) :
    Handler (.artifacts :: sweepCells) Unit := do
  let e ← Prog.read (lookup Db.executions "Execution" req.execution)
  match req.step with
  | some step =>
    let _ ← Prog.read (loadStep req.execution step)
  | none => pure ()
  Prog.read (validateRunnerOwnership e call.runnerId call.claimToken)
  (assertExecutionChangeBindingReady env ⟨req.execution, e⟩ call.runnerId call.claimToken).widen
  let kind ← Prog.read (checkUpload env req e)
  Prog.atomic .service (insertArtifact env req call e.organization kind)

end RunbookPlatform
