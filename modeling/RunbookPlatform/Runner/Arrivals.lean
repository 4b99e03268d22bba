import RunbookPlatform.Interaction.Serve
import RunbookPlatform.Runner.Artifacts
import RunbookPlatform.Runner.ShellSwitch

/-!
# Arrival of required artifacts

A `shell_command` step is run, its declared artifacts are collected and uploaded, and the step
is reported. The uploader tries twice and gives up in silence, so what the control plane holds
in the end depends on what comes of every attempt.

## Main definitions

- `UploadOutcome` — what comes of one attempt to upload
- `Surroundings`, `Records` — what answers the calls of the step, and what it records
- `ReportsArrivals` — a step that is reported as succeeded has its required artifacts
- `MeetsArrivals` — the steps and surroundings for which this holds

## Main results

- `serve_uploadFiles`, `serve_report` — what the uploads leave at the control plane
- `sent_collected` — what is uploaded is what the declarations name
- `serve_sandbox` — what the sandbox comes to
- `required_artifacts_arrive_iff` — when required artifacts arrive
- `arrives_of_accepted`, `not_arrives_of_refused` — uploads that are all accepted or all refused
-/

namespace RunbookPlatform

open Interaction Interaction.Comp

-- ════════════════════════════════════════════════════════════════════════
-- Surroundings
-- ════════════════════════════════════════════════════════════════════════

/-- What comes of one attempt to upload: the answer that reaches the runner, and whether the
control plane holds one more artifact. -/
structure UploadOutcome where
  answer : Except HttpError ArtifactUploadResponse
  stored : Bool
  accepted : ∀ response, answer = .ok response → stored = true
  refused : ∀ code text, answer = .error (.status code text) → code < 500 → stored = false

/-- No second attempt is made. -/
def UploadOutcome.settles (outcome : UploadOutcome) : Bool :=
  match outcome.answer with
  | .ok _ => true
  | .error (.status code _) => code < 500
  | .error _ => false

/-- What answers the calls of a step. -/
structure Surroundings where
  /-- The times that the clock shows, in their order. -/
  clock : ℕ → ℕ
  runId : String
  resolvePath : String → String
  made : Except String Unit
  process : Except String Sandbox.ProcessEnd
  /-- The file system that the process leaves behind. -/
  fs : Sandbox.FileSystem
  /-- Whether a file can be read once more when it is uploaded. -/
  reopens : String → Bool
  /-- What comes of the attempts to upload, in their order. -/
  responses : ℕ → UploadOutcome
  acknowledged : Except HttpError Unit

/-- What the surroundings have counted, and what the control plane holds: artifacts and updates,
each with its step. -/
structure Records where
  ticks : ℕ := 0
  attempts : ℕ := 0
  held : List (ℕ × ArtifactUpload) := []
  reports : List (ℕ × StepUpdateRequest) := []

/-- The contents that are held for the step under a declaration key. -/
def Records.holds (s : Records) (step : ℕ) (key : String) : List Bytes :=
  (s.held.filter fun h =>
    h.1 = step ∧ h.2.metadata.lookup "declaration_key" = some (.str key)).map (·.2.content)

/-- The readable file that a declared path leads to: where it stands, and its bytes. -/
def Sandbox.openFile (env : Env) (fs : FileSystem) (root path : String) :
    Option (String × Bytes) :=
  match validateArtifactPath env fs root path with
  | .error _ => none
  | .ok absPath =>
    match fs.readBytes absPath with
    | .error _ => none
    | .ok content => some (absPath, content)

/-- An upload: its declaration key, the bytes of the file, and how often it is held. -/
structure Transfer where
  key : String
  content : Bytes
  copies : ℕ

namespace Surroundings

variable (env : Env) (host : Host) (w : Surroundings)

/-- `Path(path).read_bytes()` of the uploader. -/
def reread (path : String) : Except String Bytes :=
  match w.fs.readBytes path with
  | .ok content => if w.reopens path then .ok content else .error "OSError"
  | .error _ => .error "OSError"

/-- The answer to a call, and the records after it. -/
def serve (s : Records) : (c : Call) → c.Answer × Records
  | .uploadArtifact _ step _ upload =>
    let outcome := w.responses s.attempts
    (outcome.answer,
      { s with
        attempts := s.attempts + 1
        held := s.held ++ if outcome.stored then [(step, upload)] else [] })
  | .updateStep _ step _ update =>
    (w.acknowledged, { s with reports := s.reports ++ [(step, update)] })
  | .utcnow => (w.clock s.ticks, { s with ticks := s.ticks + 1 })
  | .uuid4 => (w.runId, s)
  | .resolvePath path => (w.resolvePath path, s)
  | .mkdirs _ => (w.made, s)
  | .popen .. => (w.process, s)
  | .collectArtifacts spec =>
    ((Sandbox.collectArtifacts env host w.fs spec.workspaceRoot spec.limits
      spec.artifactSpecs).1, s)
  | .readFile path => (w.reread path, s)
  | c => (c.succeed, s)

section

variable {env : Env} {host : Host} {w : Surroundings} (s : Records)

theorem answer_uploadArtifact (execution step : ℕ) (claimToken : String)
    (upload : ArtifactUpload) :
    (w.serve env host s (.uploadArtifact execution step claimToken upload)).1 =
      (w.responses s.attempts).answer := rfl

theorem answer_updateStep (execution step : ℕ) (claimToken : String)
    (update : StepUpdateRequest) :
    (w.serve env host s (.updateStep execution step claimToken update)).1 = w.acknowledged := rfl

theorem answer_mkdirs (spec : Sandbox.ExecutionSpec) :
    (w.serve env host s (.mkdirs spec)).1 = w.made := rfl

theorem answer_popen (command : List String) (cwd : String) (spec : Sandbox.ExecutionSpec) :
    (w.serve env host s (.popen command cwd spec)).1 = w.process := rfl

theorem answer_collectArtifacts (spec : Sandbox.ExecutionSpec) :
    (w.serve env host s (.collectArtifacts spec)).1 =
      (Sandbox.collectArtifacts env host w.fs spec.workspaceRoot spec.limits
        spec.artifactSpecs).1 := rfl

theorem answer_readFile (path : String) :
    (w.serve env host s (.readFile path)).1 = w.reread path := rfl

end

/-- The number of attempts after an upload that starts at the `n`-th. -/
def nextAttempt (n : ℕ) : ℕ := if (w.responses n).settles then n + 1 else n + 2

/-- How often the control plane holds an upload that starts at the `n`-th attempt. -/
def copies (n : ℕ) : ℕ :=
  (w.responses n).stored.toNat +
    if (w.responses n).settles then 0 else (w.responses (n + 1)).stored.toNat

/-- The uploads of files with their keys, one after another from the `n`-th attempt on. -/
def transfers : ℕ → List (String × Bytes) → List Transfer
  | _, [] => []
  | n, (key, content) :: files => ⟨key, content, w.copies n⟩ :: transfers (w.nextAttempt n) files

/-- The workspace of the step. -/
def workspacePath (x : Executor) (step : ClaimedStep) : String :=
  match x.settings with
  | none => ""
  | some settings =>
    w.resolvePath (joinPath (joinPath (w.resolvePath settings.sandboxWorkspaceRoot)
      (idText x.execution.id)) s!"{step.position}-{safeKey step.stepKey}-{idText step.id}")

/-- The file that the step has produced for a declaration: where it stands, and its bytes. -/
def produced (root : String) (decl : ArtifactDeclaration) : Option (String × Bytes) :=
  if decl.path = "" then none else Sandbox.openFile env w.fs root decl.path

/-- The files that can be read once more, with the keys of their declarations. -/
def files (root : String) (decls : List ArtifactDeclaration) : List (String × Bytes) :=
  decls.filterMap fun decl =>
    (w.produced env root decl).bind fun file =>
      if w.reopens file.1 then some (decl.key, file.2) else none

/-- The uploads of the declared files; those of the output come before them. -/
def declaredTransfers (root : String) (decls : List ArtifactDeclaration) : List Transfer :=
  w.transfers (w.nextAttempt (w.nextAttempt 0)) (w.files env root decls)

end Surroundings

-- ════════════════════════════════════════════════════════════════════════
-- Arrival
-- ════════════════════════════════════════════════════════════════════════

section

variable (x : Executor) (step : ClaimedStep) (w : Surroundings)

/-- The records after the step. -/
def recordsAfter : Records := (Comp.serve (w.serve x.env x.host) {} (x.executeCommand step)).2

/-- The step is reported with this status. -/
def IsReported (status : StepStatus) : Prop :=
  ∃ report ∈ (recordsAfter x step w).reports, report.1 = step.id ∧ report.2.status = status

/-- A step that is reported as succeeded has each required artifact at the control plane, once
and with the bytes of its file; another step is reported as failed. -/
structure ReportsArrivals : Prop where
  succeeded : IsReported x step w .succeeded → ∀ decl ∈ step.artifacts, decl.required = true →
    ∃ path content, w.produced x.env (w.workspacePath x step) decl = some (path, content) ∧
      (recordsAfter x step w).holds step.id decl.key = [content]
  failed : ¬IsReported x step w .succeeded → IsReported x step w .failed

/-- One upload under the key of the declaration is held, once; it carries the whole file. -/
structure Arrives (root : String) (decl : ArtifactDeclaration) : Prop where
  named : decl.key ≠ ""
  alone : ∃ path content transfer, w.produced x.env root decl = some (path, content) ∧
    ((w.declaredTransfers x.env root step.artifacts).filter fun t =>
      t.key = decl.key ∧ 0 < t.copies) = [transfer] ∧
    transfer.copies = 1 ∧ transfer.content.take defaultMaxBytes = content

/-- `isinstance(exc, SandboxError)`. -/
def Exn.isSandboxError : Exn → Bool
  | sandbox _ | sandboxValidation _ => true
  | _ => false

/-- What is asked of the surroundings once the process has ended by itself. -/
def EndsInOrder (root : String) (limits : Sandbox.Limits) (specs : List Sandbox.ArtifactSpec)
    (exitCode : Option ℤ) : Prop :=
  match (Sandbox.collectArtifacts x.env x.host w.fs root limits specs).1 with
  | .error e => e.isSandboxError = true
  | .ok _ => exitCode.getD 0 = 0 → ∀ decl ∈ step.artifacts, decl.required = true →
      Arrives x step w root decl

/-- The workspace lies under the root, or is it. -/
def IsUnderRoot (settings : RunnerSettings) : Prop :=
  (w.workspacePath x step).startsWith (w.resolvePath settings.sandboxWorkspaceRoot ++ "/") ∨
    w.workspacePath x step = w.resolvePath settings.sandboxWorkspaceRoot

/-- The step comes to its sandbox with these settings and specifications. -/
structure ComesToSandbox (snapshot : ActionSnapshot) (settings : RunnerSettings)
    (specs : List Sandbox.ArtifactSpec) : Prop where
  prepared : x.prepareAction step snapshot = .ok (.ok .shellCommand)
  configured : x.settings = some settings
  permitted : ¬(ShellCommand.commandMode snapshot.params = .str "shell" ∧
    (snapshot.params.get? "commandMode").isSome = true ∧ settings.sandboxAllowShell = false)
  inside : IsUnderRoot x step w settings
  declared : ShellCommand.buildArtifactSpecs x.env step.artifacts = .ok specs

/-- The process of the step has ended by itself. -/
structure EndsByItself (snapshot : ActionSnapshot) (ended : Sandbox.ProcessEnd) : Prop where
  script : strip (ShellCommand.scriptOf x.env snapshot.params) ≠ ""
  made : w.made = .ok ()
  process : w.process = .ok ended
  notTimedOut : ended.timedOut = false
  notCancelled : ended.cancelled = false

/-- No exception leaves the step, and what it comes to is in order. -/
structure MeetsArrivals (snapshot : ActionSnapshot) : Prop where
  prepares : ∀ e, x.prepareAction step snapshot ≠ .error e
  provider : ∀ settings specs, ComesToSandbox x step w snapshot settings specs →
    settings.sandboxProvider = "local_process"
  ends : ∀ settings specs ended, ComesToSandbox x step w snapshot settings specs →
    EndsByItself x w snapshot ended →
      EndsInOrder x step w (w.workspacePath x step) (sandboxLimits settings step.timeoutSeconds)
        specs ended.exitCode

end

-- ════════════════════════════════════════════════════════════════════════
-- Uploads
-- ════════════════════════════════════════════════════════════════════════

/-- The records after an upload, however it ends. -/
def Records.upload (s : Records) (w : Surroundings) (step : ℕ) (upload : ArtifactUpload) :
    Records :=
  { s with
    attempts := w.nextAttempt s.attempts
    held := s.held ++ List.replicate (w.copies s.attempts) (step, upload) }

/-- The contents of the uploads under a key, as they are held; an empty key is left out of the
metadata. -/
def landed (key : String) (transfers : List Transfer) : List Bytes :=
  (transfers.filter fun t => t.key = key ∧ key ≠ "").flatMap fun t =>
    List.replicate t.copies (t.content.take defaultMaxBytes)

section

variable {env : Env} {host : Host} {w : Surroundings} {s : Records} {uploader : Uploader}

theorem holds_upload (step : ℕ) (upload : ArtifactUpload) (key : String) :
    (s.upload w step upload).holds step key = s.holds step key ++
      if upload.metadata.lookup "declaration_key" = some (.str key) then
        List.replicate (w.copies s.attempts) upload.content else [] := by
  rw [Records.holds, Records.upload, List.filter_append, List.map_append, Records.holds,
    List.filter_replicate]
  by_cases hkey : upload.metadata.lookup "declaration_key" = some (.str key)
  · simp [hkey]
  · simp [hkey]

/-- One attempt; another follows unless it settles the upload. -/
theorem serve_attempts_succ (upload : ArtifactUpload) (n : ℕ) :
    Comp.serve (w.serve env host) s (uploader.attempts upload (n + 1)) =
      if (w.responses s.attempts).settles then
        (.ok (w.responses s.attempts).answer.toOption,
          (w.serve env host s
            (.uploadArtifact uploader.execution uploader.step.id uploader.claimToken upload)).2)
      else
        Comp.serve (w.serve env host)
          (w.serve env host s
            (.uploadArtifact uploader.execution uploader.step.id uploader.claimToken upload)).2
          (uploader.attempts upload n) := by
  rw [Uploader.attempts, uploadArtifact, serve_request_bind, Surroundings.answer_uploadArtifact,
    UploadOutcome.settles]
  match (w.responses s.attempts).answer with
  | .ok response => rfl
  | .error (.status code text) =>
    by_cases hcode : code < 500
    · rw [if_pos (decide_eq_true hcode)]
      simp only [if_pos hcode]
      rfl
    · rw [if_neg (by simpa using hcode)]
      simp only [if_neg hcode]
  | .error (.timeout _) => rfl
  | .error (.transport _) => rfl

variable (env host w s uploader) in
/-- **An upload** is attempted once or twice, and leaves what comes of that. -/
theorem serve_attempts (upload : ArtifactUpload) :
    ∃ response, Comp.serve (w.serve env host) s (uploader.attempts upload 2) =
      (.ok response, s.upload w uploader.step.id upload) := by
  have hheld (a b : Bool) :
      ((if a then [(uploader.step.id, upload)] else []) ++
        if b then [(uploader.step.id, upload)] else []) =
        List.replicate (a.toNat + b.toNat) (uploader.step.id, upload) := by
    cases a <;> cases b <;> rfl
  by_cases hfirst : (w.responses s.attempts).settles = true
  · have hrecords : s.upload w uploader.step.id upload = (w.serve env host s
        (.uploadArtifact uploader.execution uploader.step.id uploader.claimToken upload)).2 := by
      rw [Records.upload, Surroundings.nextAttempt, Surroundings.copies, if_pos hfirst,
        if_pos hfirst]
      exact congrArg (fun copies => { s with attempts := s.attempts + 1, held := s.held ++ copies })
        ((hheld _ false).symm.trans (List.append_nil _))
    exact ⟨_, by rw [serve_attempts_succ, if_pos hfirst, hrecords]⟩
  · have hrecords : s.upload w uploader.step.id upload = (w.serve env host (w.serve env host s
        (.uploadArtifact uploader.execution uploader.step.id uploader.claimToken upload)).2
        (.uploadArtifact uploader.execution uploader.step.id uploader.claimToken upload)).2 := by
      rw [Records.upload, Surroundings.nextAttempt, Surroundings.copies, if_neg hfirst,
        if_neg hfirst]
      exact congrArg (fun held => { s with attempts := s.attempts + 2, held })
        ((congrArg (s.held ++ ·) (hheld _ _).symm).trans (List.append_assoc _ _ _).symm)
    rw [serve_attempts_succ, if_neg hfirst, serve_attempts_succ, hrecords]
    split
    · exact ⟨_, rfl⟩
    · exact ⟨none, rfl⟩

variable (env host w s uploader) in
/-- Content within the limit is uploaded. -/
theorem serve_uploadBytes {content : Bytes} (kind name mimeType : String)
    (metadata : List (String × Json)) (h : content.length ≤ defaultMaxBytes) :
    ∃ response upload, upload.content = content ∧ upload.metadata = metadata ∧
      Comp.serve (w.serve env host) s
          (uploader.uploadBytes host content kind name mimeType metadata) =
        (.ok response, s.upload w uploader.step.id upload) := by
  rw [Uploader.uploadBytes, if_neg (Nat.not_lt.2 h)]
  obtain ⟨response, hserve⟩ := serve_attempts env host w s uploader
    { kind, name, content, mimeType, checksumSha256 := host.sha256 content, metadata }
  exact ⟨response, _, rfl, rfl, hserve⟩

theorem lookup_append_eq_none {metadata more : List (String × Json)} {key : String}
    (h : metadata.lookup key = none) : (metadata ++ more).lookup key = more.lookup key := by
  rw [List.lookup_append, h, Option.none_or]

theorem lookup_metadataText (text : String) {key other : String} (h : key ≠ other) :
    (metadataText other text).lookup key = none := by
  rw [metadataText]
  split
  · rfl
  · rw [List.lookup_cons, beq_eq_false_iff_ne.2 h, List.lookup_nil]

variable (env host w s uploader) in
/-- **An output** is uploaded under no declaration key. -/
theorem serve_uploadStream (content : Bytes) (kind name : String)
    {metadata : List (String × Json)} (h : metadata.lookup "declaration_key" = none) :
    ∃ response upload, upload.metadata.lookup "declaration_key" = none ∧
      Comp.serve (w.serve env host) s (uploader.uploadStream host content kind name metadata) =
        (.ok response, s.upload w uploader.step.id upload) := by
  rw [Uploader.uploadStream]
  obtain ⟨response, upload, -, hmetadata, hserve⟩ := serve_uploadBytes env host w s uploader
    kind name "" _
    ((List.length_take_le _ content).trans (by decide : stdoutStderrMaxBytes ≤ defaultMaxBytes))
  refine ⟨response, upload, ?_, hserve⟩
  rw [hmetadata, lookup_append_eq_none, h]
  split <;> rfl

theorem serve_uploadFile_error {artifact : Sandbox.CollectedArtifact} {text : String}
    (h : w.reread artifact.absolutePath = .error text) (provider runId : String)
    (metadata : List (String × Json)) :
    Comp.serve (w.serve env host) s (uploader.uploadFile host artifact provider runId metadata) =
      (.ok none, s) := by
  rw [Uploader.uploadFile, readFile, serve_request_bind, Surroundings.answer_readFile, h]
  rfl

variable (env host w s uploader) in
/-- **A file** is uploaded up to the limit, under the key of its declaration. -/
theorem serve_uploadFile_ok {artifact : Sandbox.CollectedArtifact} {content : Bytes}
    (h : w.reread artifact.absolutePath = .ok content) (provider runId : String)
    (metadata : List (String × Json)) :
    ∃ response upload, upload.content = content.take defaultMaxBytes ∧
      upload.metadata.lookup "declaration_key" = metadata.lookup "declaration_key" ∧
      Comp.serve (w.serve env host) s (uploader.uploadFile host artifact provider runId metadata) =
        (.ok response, s.upload w uploader.step.id upload) := by
  rw [Uploader.uploadFile, readFile, serve_request_bind, Surroundings.answer_readFile, h]
  obtain ⟨response, upload, hcontent, hmetadata, hserve⟩ := serve_uploadBytes env host w s
    uploader artifact.spec.kind artifact.spec.name artifact.spec.mimeType _ (List.length_take_le defaultMaxBytes content)
  refine ⟨response, upload, hcontent, ?_, hserve⟩
  have hprovider := lookup_metadataText provider
    (by decide : "declaration_key" ≠ "sandbox_provider")
  have hrunId := lookup_metadataText runId
    (by decide : "declaration_key" ≠ "sandbox_run_id")
  have hstepKey := lookup_metadataText uploader.step.stepKey
    (by decide : "declaration_key" ≠ "step_key")
  rw [hmetadata, lookup_append_eq_none]
  rw [lookup_append_eq_none, hstepKey]
  rw [lookup_append_eq_none, hrunId]
  rw [lookup_append_eq_none, hprovider]
  rfl

/-- The files that can be read once more, with the keys of their declarations. -/
def Surroundings.sent (w : Surroundings) (artifacts : List Sandbox.CollectedArtifact) :
    List (String × Bytes) :=
  artifacts.filterMap fun artifact =>
    (w.reread artifact.absolutePath).toOption.map (artifact.spec.declarationKey, ·)

/-- The uploads that come later are landed after the first. -/
theorem landed_cons (key : String) (transfer : Transfer) (transfers : List Transfer) :
    landed key (transfer :: transfers) =
      (if transfer.key = key ∧ key ≠ "" then
        List.replicate transfer.copies (transfer.content.take defaultMaxBytes) else []) ++
        landed key transfers := by
  rw [landed, List.filter_cons]
  split
  · rename_i hkey
    rw [if_pos (of_decide_eq_true hkey), List.flatMap_cons, landed]
  · rename_i hkey
    rw [if_neg fun h => hkey (decide_eq_true h), List.nil_append, landed]

variable (env host w s uploader) in
/-- **Files** are uploaded one after another, whatever comes of each. -/
theorem serve_uploadFiles (provider runId : String)
    (metadata : Sandbox.CollectedArtifact → List (String × Json))
    (hmetadata : ∀ artifact, (metadata artifact).lookup "declaration_key" =
      (metadataText "declaration_key" artifact.spec.declarationKey).lookup "declaration_key")
    (artifacts : List Sandbox.CollectedArtifact) :
    ∃ responses s', Comp.serve (w.serve env host) s
        (uploader.uploadFiles host provider runId metadata artifacts) = (.ok responses, s') ∧
      s'.reports = s.reports ∧ ∀ key, s'.holds uploader.step.id key =
        s.holds uploader.step.id key ++ landed key (w.transfers s.attempts (w.sent artifacts)) := by
  induction artifacts generalizing s with
  | nil => exact ⟨[], s, rfl, rfl, fun key => (List.append_nil _).symm⟩
  | cons artifact artifacts ih =>
    rw [Uploader.uploadFiles]
    cases hread : w.reread artifact.absolutePath with
    | error text =>
      obtain ⟨responses, s', hserve, hreports, hholds⟩ := ih s
      rw [serve_bind_ok (serve_uploadFile_error hread _ _ _), serve_bind_ok hserve]
      refine ⟨_, s', rfl, hreports, fun key => ?_⟩
      rw [hholds key, Surroundings.sent, Surroundings.sent, List.filterMap_cons, hread]
      rfl
    | ok content =>
      obtain ⟨response, upload, hcontent, hlookup, hupload⟩ := serve_uploadFile_ok env
        host w s uploader hread provider runId (metadata artifact)
      obtain ⟨responses, s', hserve, hreports, hholds⟩ :=
        ih (s.upload w uploader.step.id upload)
      rw [serve_bind_ok hupload, serve_bind_ok hserve]
      refine ⟨_, s', rfl, hreports, fun key => ?_⟩
      have hsent : w.sent (artifact :: artifacts) =
          (artifact.spec.declarationKey, content) :: w.sent artifacts := by
        rw [Surroundings.sent, List.filterMap_cons, hread]
        rfl
      have hwhich : upload.metadata.lookup "declaration_key" = some (.str key) ↔
          artifact.spec.declarationKey = key ∧ key ≠ "" := by
        rw [hlookup, hmetadata, metadataText]
        split
        · rename_i hempty
          exact iff_of_false (fun h => by cases h) fun h => h.2 (h.1.symm.trans hempty)
        · rename_i hnamed
          rw [List.lookup_cons_self, Option.some.injEq, Json.str.injEq]
          exact ⟨fun h => ⟨h, h ▸ hnamed⟩, And.left⟩
      rw [hholds key, holds_upload, hcontent, hsent, Surroundings.transfers, landed_cons,
        List.append_assoc]
      simp only [hwhich]
      rfl

/-- The type and the version of the action, where they are set. -/
def ActionContext.actionMetadata (ctx : ActionContext) : List (String × Json) :=
  match ctx.step.actionSnapshot with
  | some snapshot =>
    metadataText "action_type" snapshot.type ++ metadataText "action_version" snapshot.version
  | none => []

theorem lookup_actionMetadata (ctx : ActionContext) :
    ctx.actionMetadata.lookup "declaration_key" = none := by
  rw [ActionContext.actionMetadata]
  split
  · rw [lookup_append_eq_none (lookup_metadataText _ (by decide)), lookup_metadataText _ (by decide)]
  · rfl

variable (env host w s) in
/-- **The end of the handler** leaves the uploads of the artifacts, and has the result of the
sandbox. -/
theorem serve_report (ctx : ActionContext) (settings : RunnerSettings)
    (spec : Sandbox.ExecutionSpec) (result : Sandbox.Result) :
    ∃ s', Comp.serve (w.serve env host) s
        (ShellCommand.report env host ctx settings spec result) =
          (.ok (ShellCommand.resultOf env spec.limits.timeoutSeconds result), s') ∧
      s'.reports = s.reports ∧ ∀ key, s'.holds ctx.step.id key =
        s.holds ctx.step.id key ++ landed key
          (w.transfers (w.nextAttempt (w.nextAttempt s.attempts)) (w.sent result.artifacts)) := by
  have hnone := lookup_actionMetadata ctx
  have hstream : (ctx.actionMetadata ++ metadataText "step_key" ctx.step.stepKey).lookup
      "declaration_key" = none := by
    rw [lookup_append_eq_none hnone, lookup_metadataText _ (by decide)]
  obtain ⟨_, stdout, hout, hstdout⟩ := serve_uploadStream env host w s
    ⟨ctx.execution.id, ctx.claimToken, ctx.step⟩ result.stdout "stdout" "stdout.txt" hstream
  obtain ⟨_, stderr, herr, hstderr⟩ := serve_uploadStream env host w
    (s.upload w ctx.step.id stdout) ⟨ctx.execution.id, ctx.claimToken, ctx.step⟩ result.stderr
    "stderr" "stderr.txt" hstream
  obtain ⟨_, s', hfiles, hreports, hholds⟩ := serve_uploadFiles env host w
    ((s.upload w ctx.step.id stdout).upload w ctx.step.id stderr)
    ⟨ctx.execution.id, ctx.claimToken, ctx.step⟩ result.provider result.sandboxRunId
    (fun artifact =>
      metadataText "declaration_key" artifact.spec.declarationKey ++ ctx.actionMetadata)
    (fun artifact => by rw [List.lookup_append, hnone, Option.or_none]) result.artifacts
  refine ⟨s', ?_, hreports, fun key => ?_⟩
  · refine (serve_bind_ok hstdout).trans ((serve_bind_ok hstderr).trans
      ((serve_bind_ok hfiles).trans ?_))
    dsimp only
    split <;> rfl
  · rw [hholds key, holds_upload, holds_upload, hout, herr, if_neg (fun h => by cases h),
      List.append_nil, if_neg (fun h => by cases h), List.append_nil]
    rfl

-- ════════════════════════════════════════════════════════════════════════
-- Collection
-- ════════════════════════════════════════════════════════════════════════

variable {root : String} {limits : Sandbox.Limits}

/-- A declaration that is passed over has no readable file. -/
theorem openFile_of_passed {fs : Sandbox.FileSystem} {count : ℕ} {spec : Sandbox.ArtifactSpec}
    (h : Sandbox.examine env fs root limits count spec = .ok none) :
    Sandbox.openFile env fs root spec.path = none := by
  rw [Sandbox.openFile]
  cases hvalid : Sandbox.validateArtifactPath env fs root spec.path with
  | error exc => rfl
  | ok absPath =>
    cases hlocate : fs.locate absPath with
    | error errno => simp only [Sandbox.FileSystem.readBytes, hlocate]
    | ok found =>
      obtain ⟨location, node⟩ := found
      cases hnode : node.isSpecial with
      | true =>
        obtain ⟨text, htext⟩ := Sandbox.examine_of_special limits count hvalid hlocate hnode
        rw [htext] at h
        cases h
      | false =>
        rw [Sandbox.examine_of_plain hvalid hlocate hnode] at h
        split_ifs at h
        cases Except.ok.inj h

/-- What is collected for one declaration is its readable file. -/
theorem collectOne_openFile {fs : Sandbox.FileSystem} {count : ℕ} {spec : Sandbox.ArtifactSpec}
    {artifact : Option Sandbox.CollectedArtifact}
    (h : (Sandbox.collectOne env host fs root limits count spec).1 = .ok artifact) :
    artifact.map (fun a => (a.spec, a.absolutePath)) =
      (Sandbox.openFile env fs root spec.path).map fun file => (spec, file.1) := by
  rw [Sandbox.collectOne] at h
  cases hexamine : Sandbox.examine env fs root limits count spec with
  | error exc =>
    rw [hexamine] at h
    cases h
  | ok opened =>
    rw [hexamine] at h
    cases opened with
    | none =>
      obtain rfl := Except.ok.inj h
      rw [openFile_of_passed hexamine]
      rfl
    | some opened =>
      obtain ⟨absPath, size⟩ := opened
      have hopen : Sandbox.openFile env fs root spec.path =
          match fs.readBytes absPath with
          | .error _ => none
          | .ok content => some (absPath, content) := by
        rw [Sandbox.openFile, Sandbox.examine_some hexamine]
      rw [hopen]
      dsimp only at h
      cases hread : fs.readBytes absPath with
      | error exc =>
        rw [hread] at h
        cases h
      | ok content =>
        rw [hread] at h
        obtain rfl := Except.ok.inj h
        rfl

/-- **What is collected** is the readable files of the declarations, in their order. -/
theorem collectFrom_openFile {fs : Sandbox.FileSystem} {specs : List Sandbox.ArtifactSpec}
    {collected result : List Sandbox.CollectedArtifact}
    (h : (Sandbox.collectFrom env host fs root limits collected specs).1 = .ok result) :
    result.map (fun a => (a.spec, a.absolutePath)) =
      collected.map (fun a => (a.spec, a.absolutePath)) ++ specs.filterMap fun spec =>
        (Sandbox.openFile env fs root spec.path).map fun file => (spec, file.1) := by
  induction specs generalizing collected with
  | nil =>
    cases h
    exact (List.append_nil _).symm
  | cons spec specs ih =>
    cases hout : (Sandbox.collectOne env host fs root limits collected.length spec).1 with
    | error exc =>
      rw [Sandbox.collectFrom_of_error hout] at h
      cases h
    | ok artifact =>
      rw [Sandbox.collectFrom_of_ok hout] at h
      have hone := collectOne_openFile hout
      rw [ih h, List.map_append, List.filterMap_cons, List.append_assoc]
      cases hfile : Sandbox.openFile env fs root spec.path with
      | none =>
        rw [hfile, Option.map_none, Option.map_eq_none_iff] at hone
        rw [hone]
        rfl
      | some file =>
        rw [hfile] at hone
        obtain ⟨taken, rfl, htaken⟩ := Option.map_eq_some_iff.1 hone
        exact congrArg (_ ++ · :: _) htaken

/-- The specifications are those of the declarations with a path. -/
theorem buildArtifactSpecs_ok {decls : List ArtifactDeclaration}
    {specs : List Sandbox.ArtifactSpec}
    (h : ShellCommand.buildArtifactSpecs env decls = .ok specs) :
    specs.map (fun spec => (spec.path, spec.declarationKey)) =
      (decls.filter (·.path ≠ "")).map fun decl => (decl.path, decl.key) := by
  induction decls generalizing specs with
  | nil =>
    cases h
    rfl
  | cons decl decls ih =>
    rw [ShellCommand.buildArtifactSpecs] at h
    by_cases hpath : decl.path = ""
    · rw [if_pos hpath] at h
      rw [ih h, List.filter_cons_of_neg (by simpa using hpath)]
    · rw [if_neg hpath] at h
      simp only [except_bind_ok] at h
      obtain ⟨_, -, _, -, rest, hrest, hspecs⟩ := h
      obtain rfl := Except.ok.inj hspecs
      rw [List.filter_cons_of_pos (by simpa using hpath), List.map_cons, List.map_cons, ih hrest]

theorem readBytes_of_openFile {fs : Sandbox.FileSystem} {path : String} {file : String × Bytes}
    (h : Sandbox.openFile env fs root path = some file) : fs.readBytes file.1 = .ok file.2 := by
  rw [Sandbox.openFile] at h
  split at h
  · cases h
  split at h
  · cases h
  · rename_i hread
    obtain rfl := Option.some.inj h
    exact hread

/-- What is sent of a declared path with a key. -/
def Surroundings.sending (w : Surroundings) (env : Env) (root : String)
    (item : String × String) : Option (String × Bytes) :=
  (Sandbox.openFile env w.fs root item.1).bind fun file =>
    if w.reopens file.1 then some (item.2, file.2) else none

/-- **What is collected** and can be read once more is what the declarations name. -/
theorem sent_collected {decls : List ArtifactDeclaration} {specs : List Sandbox.ArtifactSpec}
    {artifacts : List Sandbox.CollectedArtifact}
    (hspecs : ShellCommand.buildArtifactSpecs env decls = .ok specs)
    (h : (Sandbox.collectArtifacts env host w.fs root limits specs).1 = .ok artifacts) :
    w.sent artifacts = w.files env root decls := by
  have hsend (spec : Sandbox.ArtifactSpec) :
      ((Sandbox.openFile env w.fs root spec.path).map fun file => (spec, file.1)).bind
        (fun found => (w.reread found.2).toOption.map (found.1.declarationKey, ·)) =
      w.sending env root (spec.path, spec.declarationKey) := by
    rw [Surroundings.sending]
    cases hfile : Sandbox.openFile env w.fs root spec.path with
    | none => rfl
    | some file =>
      simp only [Option.map_some, Option.bind_some, Surroundings.reread,
        readBytes_of_openFile hfile]
      split <;> rfl
  calc w.sent artifacts
      = (artifacts.map fun a => (a.spec, a.absolutePath)).filterMap fun found =>
          (w.reread found.2).toOption.map (found.1.declarationKey, ·) := by
        rw [List.filterMap_map]
        rfl
    _ = specs.filterMap fun spec => w.sending env root (spec.path, spec.declarationKey) := by
        rw [collectFrom_openFile h, List.map_nil, List.nil_append, List.filterMap_filterMap]
        exact List.filterMap_congr fun spec _ => hsend spec
    _ = ((decls.filter (·.path ≠ "")).map fun decl => (decl.path, decl.key)).filterMap
          (w.sending env root) := by
        rw [← buildArtifactSpecs_ok hspecs, List.filterMap_map]
        rfl
    _ = w.files env root decls := by
        rw [List.filterMap_map, List.filterMap_filter, Surroundings.files]
        refine List.filterMap_congr fun decl _ => ?_
        rw [Surroundings.produced]
        by_cases hpath : decl.path = ""
        · simp [hpath]
        · simp [hpath, Surroundings.sending]

-- ════════════════════════════════════════════════════════════════════════
-- The sandbox
-- ════════════════════════════════════════════════════════════════════════

/-- What the sandbox comes to. -/
inductive SandboxEnds (env : Env) (host : Host) (w : Surroundings) (spec : Sandbox.ExecutionSpec) :
    Except Exn Sandbox.Result → Prop
  | unmade (text : String) : w.made ≠ .ok () → SandboxEnds env host w spec (.error (.sandbox text))
  | stopped (result : Sandbox.Result) :
      (∀ ended, w.process = .ok ended → ended.timedOut = true ∨ ended.cancelled = true) →
      (∀ seconds, (ShellCommand.resultOf env seconds result).status = .failed) →
      SandboxEnds env host w spec (.ok result)
  | rejected (result : Sandbox.Result) (text : String) :
      (Sandbox.collectArtifacts env host w.fs spec.workspaceRoot spec.limits spec.artifactSpecs).1 =
        .error (.sandboxValidation text) →
      (∀ seconds, (ShellCommand.resultOf env seconds result).status = .failed) →
      SandboxEnds env host w spec (.ok result)
  | raised (ended : Sandbox.ProcessEnd) (e : Exn) : w.made = .ok () → w.process = .ok ended →
      ended.timedOut = false → ended.cancelled = false →
      (Sandbox.collectArtifacts env host w.fs spec.workspaceRoot spec.limits spec.artifactSpecs).1 =
        .error e →
      SandboxEnds env host w spec (.error e)
  | collected (ended : Sandbox.ProcessEnd) (result : Sandbox.Result) : w.made = .ok () →
      w.process = .ok ended → ended.timedOut = false → ended.cancelled = false →
      (Sandbox.collectArtifacts env host w.fs spec.workspaceRoot spec.limits spec.artifactSpecs).1 =
        .ok result.artifacts →
      (∀ seconds, (ShellCommand.resultOf env seconds result).status =
        if ended.exitCode.getD 0 = 0 then .succeeded else .failed) →
      SandboxEnds env host w spec (.ok result)

theorem status_of_stopped {result : Sandbox.Result}
    (h : result.timedOut = true ∨ result.cancelled = true) (seconds : ℤ) :
    (ShellCommand.resultOf env seconds result).status = .failed := by
  rw [ShellCommand.resultOf]
  cases htimedOut : result.timedOut with
  | true => rfl
  | false =>
    have hcancelled : result.cancelled = true := by simpa [htimedOut] using h
    rw [if_neg Bool.false_ne_true, if_pos hcancelled]

theorem status_of_failureKind {result : Sandbox.Result} (h : result.failureKind ≠ "")
    (seconds : ℤ) : (ShellCommand.resultOf env seconds result).status = .failed := by
  rw [ShellCommand.resultOf]
  dsimp only
  split_ifs <;> rfl

theorem status_of_exitCode {result : Sandbox.Result} (htimedOut : result.timedOut = false)
    (hcancelled : result.cancelled = false) (hkind : result.failureKind = "") (seconds : ℤ) :
    (ShellCommand.resultOf env seconds result).status =
      if result.exitCode.getD 0 = 0 then .succeeded else .failed := by
  rw [ShellCommand.resultOf, htimedOut, hcancelled, if_neg Bool.false_ne_true,
    if_neg Bool.false_ne_true, if_neg (not_not.2 hkind)]
  cases result.exitCode with
  | none => rfl
  | some code =>
    by_cases hcode : code = 0
    · simp [hcode]
    · simp [hcode]

theorem artifactFailureKind_ne_empty (text : String) :
    Sandbox.artifactFailureKind env text ≠ "" := by
  rw [Sandbox.artifactFailureKind]
  split <;> decide

variable (env host w s) in
/-- **The sandbox** leaves no records but the time. -/
theorem serve_sandbox (spec : Sandbox.ExecutionSpec) :
    ∃ r n, Comp.serve (w.serve env host) s (Sandbox.execute env spec) =
      (r, { s with ticks := n }) ∧ SandboxEnds env host w spec r := by
  rw [Sandbox.execute, utcnow, serve_request_bind, uuid4, serve_request_bind, mkdirs,
    serve_request_bind, Surroundings.answer_mkdirs]
  cases hmade : w.made with
  | error text => exact ⟨_, _, rfl, .unmade _ (by simp [hmade])⟩
  | ok _ =>
    dsimp only
    rw [popen, serve_request_bind, Surroundings.answer_popen]
    cases hprocess : w.process with
    | error text =>
      refine ⟨_, _, rfl, .stopped _ (fun ended h => ?_) fun seconds => rfl⟩
      rw [hprocess] at h
      cases h
    | ok ended =>
      dsimp only
      rw [serve_request_bind]
      by_cases hstop : ended.timedOut = true ∨ ended.cancelled = true
      · rw [if_pos (by tauto)]
        refine ⟨_, _, rfl, .stopped _ (fun ended' h => ?_) (status_of_stopped hstop)⟩
        rw [hprocess] at h
        obtain rfl := Except.ok.inj h
        exact hstop
      obtain ⟨htimedOut, hcancelled⟩ : ended.timedOut = false ∧ ended.cancelled = false := by
        simpa using hstop
      by_cases hspecs : spec.artifactSpecs = []
      · rw [if_pos (.inr (.inr hspecs))]
        refine ⟨_, _, rfl, .collected ended _ hmade hprocess htimedOut hcancelled ?_
          (status_of_exitCode htimedOut hcancelled rfl)⟩
        rw [hspecs]
        rfl
      rw [if_neg (by tauto), collectArtifacts, serve_request_bind,
        Surroundings.answer_collectArtifacts]
      cases hcollect : (Sandbox.collectArtifacts env host w.fs spec.workspaceRoot spec.limits
        spec.artifactSpecs).1 with
      | ok artifacts =>
        exact ⟨_, _, rfl, .collected ended _ hmade hprocess htimedOut hcancelled hcollect
          (status_of_exitCode htimedOut hcancelled rfl)⟩
      | error e =>
        have hraised : SandboxEnds env host w spec (.error e) :=
          .raised ended e hmade hprocess htimedOut hcancelled hcollect
        cases e with
        | sandboxValidation text =>
          exact ⟨_, _, rfl, .rejected _ text hcollect
            (status_of_failureKind (artifactFailureKind_ne_empty text))⟩
        | _ => exact ⟨_, _, rfl, hraised⟩

-- ════════════════════════════════════════════════════════════════════════
-- The verdict
-- ════════════════════════════════════════════════════════════════════════

/-- Copies come to one value exactly when one element alone has a copy, and has one. -/
theorem flatMap_replicate_eq_singleton {α β : Type} {l : List α} {n : α → ℕ} {f : α → β} {b : β} :
    (l.flatMap fun a => List.replicate (n a) (f a)) = [b] ↔
      ∃ a, l.filter (0 < n ·) = [a] ∧ n a = 1 ∧ f a = b := by
  have hnil (l : List α) : (l.flatMap fun a => List.replicate (n a) (f a)) = [] ↔
      l.filter (0 < n ·) = [] := by
    simp [List.flatMap_eq_nil_iff, List.filter_eq_nil_iff]
  induction l with
  | nil => simp
  | cons a l ih =>
    rw [List.flatMap_cons]
    rcases Nat.eq_zero_or_pos (n a) with hzero | hpos
    · rw [hzero, List.replicate_zero, List.nil_append, List.filter_cons_of_neg (by simp [hzero])]
      exact ih
    · obtain ⟨k, hk⟩ := Nat.exists_eq_succ_of_ne_zero hpos.ne'
      rw [List.filter_cons_of_pos (by simpa using hpos), hk, List.replicate_succ, List.cons_append,
        List.cons.injEq, List.append_eq_nil_iff, hnil]
      constructor
      · rintro ⟨hvalue, hrest, hnone⟩
        rw [List.replicate_eq_nil_iff] at hrest
        exact ⟨a, by rw [hnone], by rw [hk, hrest], hvalue⟩
      · rintro ⟨a', hsame, hone, hvalue⟩
        obtain ⟨rfl, hnone⟩ := List.cons.inj hsame
        have hrest : k = 0 := by omega
        exact ⟨hvalue, by rw [hrest, List.replicate_zero], hnone⟩

theorem landed_eq_singleton {key : String} {transfers : List Transfer} {content : Bytes} :
    landed key transfers = [content] ↔ key ≠ "" ∧ ∃ transfer,
      (transfers.filter fun t => t.key = key ∧ 0 < t.copies) = [transfer] ∧
        transfer.copies = 1 ∧ transfer.content.take defaultMaxBytes = content := by
  rw [landed, flatMap_replicate_eq_singleton, List.filter_filter]
  by_cases hkey : key = ""
  · simp [hkey]
  · simp only [hkey, ne_eq, not_false_eq_true, and_true, true_and, Bool.decide_and, Bool.and_comm]

variable {x : Executor} {step : ClaimedStep}

/-- The handler has failed the step, or its required artifacts have arrived. -/
def Delivers (x : Executor) (step : ClaimedStep) (w : Surroundings)
    (outcome : Except Exn ActionResult × Records) : Prop :=
  ∃ result, outcome.1 = .ok result ∧ (result.status = .failed ∨ result.status = .succeeded ∧
    ∀ decl ∈ step.artifacts, decl.required = true → ∃ path content,
      w.produced x.env (w.workspacePath x step) decl = some (path, content) ∧
        outcome.2.holds step.id decl.key = [content])

theorem arrives_iff {root : String} {decl : ArtifactDeclaration} :
    Arrives x step w root decl ↔ ∃ path content, w.produced x.env root decl = some (path, content) ∧
      landed decl.key (w.declaredTransfers x.env root step.artifacts) = [content] := by
  simp only [landed_eq_singleton]
  constructor
  · rintro ⟨hnamed, path, content, transfer, hproduced, hrest⟩
    exact ⟨path, content, hproduced, hnamed, transfer, hrest⟩
  · rintro ⟨path, content, hproduced, hnamed, transfer, hrest⟩
    exact ⟨hnamed, path, content, transfer, hproduced, hrest⟩

theorem delivers_of_failed {result : ActionResult} (h : result.status = .failed) (s : Records) :
    Delivers x step w (.ok result, s) := ⟨result, rfl, .inl h⟩

theorem not_delivers_of_error (e : Exn) (s : Records) : ¬Delivers x step w (.error e, s) := by
  rintro ⟨result, h, -⟩
  cases h

/-- A report delivers when its result is a failure, or the uploads of its artifacts land. -/
theorem delivers_report {settings : RunnerSettings} {spec : Sandbox.ExecutionSpec}
    {result : Sandbox.Result} {n : ℕ} :
    Delivers x step w (Comp.serve (w.serve x.env x.host) { ticks := n }
      (ShellCommand.report x.env x.host (x.actionContext step) settings spec result)) ↔
      let status := (ShellCommand.resultOf x.env spec.limits.timeoutSeconds result).status
      status = .failed ∨ status = .succeeded ∧ ∀ decl ∈ step.artifacts, decl.required = true →
        ∃ path content, w.produced x.env (w.workspacePath x step) decl = some (path, content) ∧
          landed decl.key (w.transfers (w.nextAttempt (w.nextAttempt 0))
            (w.sent result.artifacts)) = [content] := by
  obtain ⟨s', hserve, -, hholds⟩ := serve_report x.env x.host w { ticks := n }
    (x.actionContext step) settings spec result
  have hheld (key : String) : s'.holds step.id key =
      landed key (w.transfers (w.nextAttempt (w.nextAttempt 0)) (w.sent result.artifacts)) :=
    hholds key
  simp only [Delivers, hserve, hheld]
  constructor
  · rintro ⟨_, hresult, h⟩
    obtain rfl := Except.ok.inj hresult
    exact h
  · exact fun h => ⟨_, rfl, h⟩

/-- **The sandboxed run** delivers when its provider is known and what it comes to is in
order. -/
theorem delivers_runSandboxed {settings : RunnerSettings} {spec : Sandbox.ExecutionSpec}
    {script : String} {n : ℕ} (hcommand : spec.command = [script])
    (hroot : spec.workspaceRoot = w.workspacePath x step)
    (hspecs : ShellCommand.buildArtifactSpecs x.env step.artifacts = .ok spec.artifactSpecs) :
    Delivers x step w (Comp.serve (w.serve x.env x.host) { ticks := n }
      (ShellCommand.runSandboxed x.env x.host (x.actionContext step) settings spec)) ↔
      settings.sandboxProvider = "local_process" ∧ (strip script ≠ "" → w.made = .ok () →
        ∀ ended, w.process = .ok ended → ended.timedOut = false → ended.cancelled = false →
          EndsInOrder x step w (w.workspacePath x step) spec.limits spec.artifactSpecs
            ended.exitCode) := by
  rw [ShellCommand.runSandboxed, Sandbox.getProvider]
  by_cases hprovider : settings.sandboxProvider = "local_process"
  swap
  · rw [if_neg hprovider]
    exact iff_of_false (not_delivers_of_error _ _) fun h => hprovider h.1
  rw [if_pos hprovider, serve_bind_ok (serve_ofExcept (r := .ok ()))]
  by_cases hblank : strip script = ""
  · obtain ⟨text, hinvalid⟩ : ∃ text, Sandbox.validate spec = .error (.sandboxValidation text) := by
      rw [Sandbox.validate, hcommand, if_neg (List.cons_ne_nil _ _), if_pos (by simpa using hblank)]
      exact ⟨_, rfl⟩
    rw [hinvalid]
    exact iff_of_true (delivers_of_failed rfl _) ⟨hprovider, fun h => absurd hblank h⟩
  rw [(validate_eq_ok (u := ()) hcommand).2 hblank]
  -- what is asked concerns the process that has ended by itself
  have hasked {ended : Sandbox.ProcessEnd} (hmade : w.made = .ok ())
      (hprocess : w.process = .ok ended) (htimedOut : ended.timedOut = false)
      (hcancelled : ended.cancelled = false) :
      (settings.sandboxProvider = "local_process" ∧ (strip script ≠ "" → w.made = .ok () →
        ∀ ended, w.process = .ok ended → ended.timedOut = false → ended.cancelled = false →
          EndsInOrder x step w (w.workspacePath x step) spec.limits spec.artifactSpecs
            ended.exitCode)) ↔
        EndsInOrder x step w spec.workspaceRoot spec.limits spec.artifactSpecs ended.exitCode := by
    rw [hroot]
    constructor
    · exact fun h => h.2 hblank hmade ended hprocess htimedOut hcancelled
    · refine fun h => ⟨hprovider, fun _ _ ended' hprocess' _ _ => ?_⟩
      obtain rfl := Except.ok.inj (hprocess.symm.trans hprocess')
      exact h
  obtain ⟨r, n', hserve, hends⟩ := serve_sandbox x.env x.host w { ticks := n } spec
  rw [serve_bind, serve_tryCatch, serve_map, hserve]
  cases hends with
  | unmade text hmade =>
    exact iff_of_true (delivers_of_failed rfl _) ⟨hprovider, fun _ h => absurd h hmade⟩
  | stopped result hstop hfailed =>
    refine iff_of_true (delivers_report.2 (.inl (hfailed _))) ⟨hprovider, ?_⟩
    intro _ _ ended hprocess htimedOut hcancelled
    rcases hstop ended hprocess with h | h
    · rw [htimedOut] at h
      cases h
    · rw [hcancelled] at h
      cases h
  | rejected result text hcollect hfailed =>
    refine iff_of_true (delivers_report.2 (.inl (hfailed _))) ⟨hprovider, ?_⟩
    intro _ _ ended _ _ _
    rw [EndsInOrder, ← hroot, hcollect]
    rfl
  | raised ended e hmade hprocess htimedOut hcancelled hcollect =>
    rw [hasked hmade hprocess htimedOut hcancelled, EndsInOrder, hcollect]
    cases e with
    | sandbox text | sandboxValidation text => exact iff_of_true (delivers_of_failed rfl _) rfl
    | _ => exact iff_of_false (not_delivers_of_error _ _) Bool.false_ne_true
  | collected ended result hmade hprocess htimedOut hcancelled hcollect hstatus =>
    rw [hasked hmade hprocess htimedOut hcancelled, EndsInOrder, hcollect]
    refine delivers_report.trans ?_
    simp only [hstatus, arrives_iff, Surroundings.declaredTransfers,
      sent_collected hspecs hcollect, hroot]
    by_cases hexit : ended.exitCode.getD 0 = 0
    · simp [hexit]
    · simp [hexit]

-- ════════════════════════════════════════════════════════════════════════
-- The handler
-- ════════════════════════════════════════════════════════════════════════

/-- A declaration is refused as an invalid input. -/
theorem buildArtifactSpecs_error {decls : List ArtifactDeclaration} {e : Exn}
    (h : ShellCommand.buildArtifactSpecs env decls = .error e) :
    ∃ text, e = .actionValidation text := by
  induction decls with
  | nil => cases h
  | cons decl decls ih =>
    rw [ShellCommand.buildArtifactSpecs] at h
    by_cases hpath : decl.path = ""
    · rw [if_pos hpath] at h
      exact ih h
    rw [if_neg hpath] at h
    cases habsolute : isAbsolute decl.path with
    | true =>
      rw [habsolute] at h
      exact ⟨_, (Except.error.inj h).symm⟩
    | false =>
      cases hparent : hasParentPart decl.path with
      | true =>
        rw [habsolute, hparent] at h
        exact ⟨_, (Except.error.inj h).symm⟩
      | false =>
        rw [habsolute, hparent] at h
        cases hrest : ShellCommand.buildArtifactSpecs env decls with
        | error e' =>
          rw [hrest] at h
          obtain rfl := Except.error.inj h
          exact ih hrest
        | ok specs =>
          rw [hrest] at h
          cases h

variable (env host w s) in
theorem serve_buildWorkspacePath_ok {settings : RunnerSettings} (h : x.settings = some settings)
    (hinside : IsUnderRoot x step w settings) :
    Comp.serve (w.serve env host) s
        (buildWorkspacePath settings.sandboxWorkspaceRoot x.execution.id step) =
      (.ok (w.workspacePath x step), s) := by
  rw [IsUnderRoot, Surroundings.workspacePath, h] at hinside
  rw [buildWorkspacePath, resolvePath, serve_request_bind, Surroundings.workspacePath, h]
  dsimp only
  rw [resolvePath, serve_request_bind]
  exact congrArg (Comp.serve _ _) (if_pos hinside)

variable (env host w s) in
theorem serve_buildWorkspacePath_error {settings : RunnerSettings} (h : x.settings = some settings)
    (hinside : ¬IsUnderRoot x step w settings) :
    ∃ text, Comp.serve (w.serve env host) s
        (buildWorkspacePath settings.sandboxWorkspaceRoot x.execution.id step) =
      (.error (.sandboxValidation text), s) := by
  rw [IsUnderRoot, Surroundings.workspacePath, h] at hinside
  rw [buildWorkspacePath, resolvePath, serve_request_bind]
  dsimp only
  rw [resolvePath, serve_request_bind]
  exact ⟨_, congrArg (Comp.serve _ _) (if_neg hinside)⟩

/-- **The handler** delivers when its provider is known and what it comes to is in order. -/
theorem delivers_execute {snapshot : ActionSnapshot} {n : ℕ}
    (hsnapshot : step.actionSnapshot = some snapshot)
    (hlive : x.execution.executionMode ≠ "dry_run")
    (hprepared : x.prepareAction step snapshot = .ok (.ok .shellCommand)) :
    Delivers x step w (Comp.serve (w.serve x.env x.host) { ticks := n }
      (ShellCommand.execute x.env x.host (x.actionContext step))) ↔
      MeetsArrivals x step w snapshot := by
  have hparams : (x.actionContext step).params = snapshot.params := by
    rw [ActionContext.params, Executor.actionContext, hsnapshot]
  have hprepares (e : Exn) : x.prepareAction step snapshot ≠ .error e := by simp [hprepared]
  -- nothing is asked of a step that does not come to its sandbox
  have hspared (h : ∀ settings specs, ¬ComesToSandbox x step w snapshot settings specs) :
      MeetsArrivals x step w snapshot :=
    ⟨hprepares, fun settings specs hcomes => absurd hcomes (h settings specs),
      fun settings specs ended hcomes => absurd hcomes (h settings specs)⟩
  rw [ShellCommand.execute]
  dsimp only
  rw [show (x.actionContext step).settings = x.settings from rfl]
  cases hsettings : x.settings with
  | none =>
    refine iff_of_true (delivers_of_failed rfl _) (hspared fun settings specs hcomes => ?_)
    have h := hcomes.configured
    rw [hsettings] at h
    cases h
  | some settings =>
    have hsame {settings' : RunnerSettings} (h : x.settings = some settings') :
        settings' = settings := Option.some.inj (h.symm.trans hsettings)
    dsimp only
    rw [hparams]
    by_cases hblocked : ShellCommand.commandMode snapshot.params = .str "shell" ∧
        (snapshot.params.get? "commandMode").isSome = true ∧ settings.sandboxAllowShell = false
    · rw [if_pos hblocked]
      refine iff_of_true (delivers_of_failed rfl _) (hspared fun settings' specs hcomes => ?_)
      exact hcomes.permitted (hsame hcomes.configured ▸ hblocked)
    rw [if_neg hblocked, show (x.actionContext step).execution = x.execution from rfl,
      show (x.actionContext step).step = step from rfl, if_neg hlive]
    by_cases hinside : IsUnderRoot x step w settings
    swap
    · obtain ⟨text, hpath⟩ := serve_buildWorkspacePath_error x.env x.host w { ticks := n }
        hsettings hinside
      rw [serve_bind, serve_tryCatch, serve_map, hpath]
      refine iff_of_true (delivers_of_failed rfl _) (hspared fun settings' specs hcomes => ?_)
      exact hinside (hsame hcomes.configured ▸ hcomes.inside)
    have hpath := serve_buildWorkspacePath_ok x.env x.host w { ticks := n } hsettings
      hinside
    rw [serve_bind, serve_tryCatch, serve_map, hpath]
    cases hspecs : ShellCommand.buildArtifactSpecs x.env step.artifacts with
    | error e =>
      obtain ⟨text, rfl⟩ := buildArtifactSpecs_error hspecs
      refine iff_of_true (delivers_of_failed rfl _) (hspared fun settings' specs hcomes => ?_)
      have h := hcomes.declared
      rw [hspecs] at h
      cases h
    | ok specs =>
      have hcomes : ComesToSandbox x step w snapshot settings specs :=
        ⟨hprepared, hsettings, hblocked, hinside, hspecs⟩
      refine (delivers_runSandboxed rfl rfl hspecs).trans ⟨?_, fun h => ?_⟩
      · rintro ⟨hprovider, hends⟩
        refine ⟨hprepares, fun settings' specs' hcomes' => ?_,
          fun settings' specs' ended hcomes' hended => ?_⟩
        · rw [hsame hcomes'.configured]
          exact hprovider
        · obtain rfl := Except.ok.inj (hspecs.symm.trans hcomes'.declared)
          obtain rfl := hsame hcomes'.configured
          exact hends hended.script hended.made ended hended.process hended.notTimedOut
            hended.notCancelled
      · exact ⟨h.provider _ _ hcomes, fun hblank hmade ended hprocess htimedOut hcancelled =>
          h.ends _ _ _ hcomes ⟨hblank, hmade, hprocess, htimedOut, hcancelled⟩⟩

-- ════════════════════════════════════════════════════════════════════════
-- The report
-- ════════════════════════════════════════════════════════════════════════

/-- An update is recorded, whether or not it is acknowledged. -/
theorem serve_updateStep (update : StepUpdateRequest) :
    Comp.serve (w.serve env host) s (x.updateStep step update) =
      (.ok w.acknowledged.isOk, { s with reports := s.reports ++ [(step.id, update)] }) := by
  rw [Executor.updateStep, catchHttp, serve_tryCatch, serve_bind, Client.updateStep,
    serve_request_bind, Surroundings.answer_updateStep]
  cases w.acknowledged <;> rfl

variable (env host w s x step) in
/-- A report without facts is one update. -/
theorem serve_reportStep (update : StepUpdateRequest) :
    ∃ failed, Comp.serve (w.serve env host) s (x.reportStep step update (pure ())) =
      (.ok failed, { s with reports := s.reports ++ [(step.id, update)] }) := by
  rw [Executor.reportStep, serve_bind_ok (serve_updateStep update)]
  cases w.acknowledged.isOk <;> exact ⟨_, rfl⟩

/-- The work of a handler records no update. -/
theorem reports_serve_work {α : Type} {task : Task α} {id : ℕ} (h : task.Always (Call.IsWork id)) :
    (Comp.serve (w.serve env host) s task).2.reports = s.reports := by
  refine h.serve (I := fun s' : Records => s'.reports = s.reports) (fun s' c hc hs' => ?_) rfl
  cases c <;> first | exact hs' | exact hc.elim

/-- A step without a report does not meet what is asked of it. -/
theorem not_reportsArrivals (h : (recordsAfter x step w).reports = []) :
    ¬ReportsArrivals x step w := by
  have hnone (status : StepStatus) : ¬IsReported x step w status := by
    rintro ⟨report, hmem, -⟩
    rw [h] at hmem
    cases hmem
  exact fun hreports => hnone _ (hreports.failed (hnone _))

theorem isReported_iff {update : StepUpdateRequest} {status : StepStatus}
    (h : (recordsAfter x step w).reports = [(step.id, update)]) :
    IsReported x step w status ↔ update.status = status := by
  simp [IsReported, h]

/-- A step that is refused before its handler is called is reported as failed. -/
theorem reportsArrivals_of_refused {snapshot : ActionSnapshot} {refusal : Executor.Refusal}
    (hsnapshot : step.actionSnapshot = some snapshot)
    (hprepared : x.prepareAction step snapshot = .ok (.error refusal)) :
    ReportsArrivals x step w := by
  have hrecords : recordsAfter x step w = { reports := [(step.id,
      { status := .failed, errorMessage := refusal.errorMessage
        failureKind := refusal.failureKind })] } := by
    rw [recordsAfter, Executor.executeCommand, hsnapshot]
    dsimp only
    rw [Executor.executeActionV2, hprepared, serve_bind_ok serve_ofExcept]
    dsimp only
    rw [Executor.failStep, serve_bind_ok (serve_updateStep _)]
    rfl
  have hreported {status : StepStatus} : IsReported x step w status ↔ .failed = status :=
    isReported_iff (by rw [hrecords])
  refine ⟨fun h => ?_, fun _ => hreported.2 rfl⟩
  cases hreported.1 h

/-- **A step** whose handler is called has its arrivals reported when the handler delivers. -/
theorem reportsArrivals_iff_delivers {snapshot : ActionSnapshot}
    (hsnapshot : step.actionSnapshot = some snapshot)
    (hprepared : x.prepareAction step snapshot = .ok (.ok .shellCommand)) :
    ReportsArrivals x step w ↔
      Delivers x step w (Comp.serve (w.serve x.env x.host) { ticks := 1 }
        (ShellCommand.execute x.env x.host (x.actionContext step))) := by
  have hreports : (Comp.serve (w.serve x.env x.host) { ticks := 1 }
      (ShellCommand.execute x.env x.host (x.actionContext step))).2.reports = [] :=
    reports_serve_work (always_shellCommand _)
  have hrecords : recordsAfter x step w =
      (Comp.serve (w.serve x.env x.host) {} (x.executeActionV2 step snapshot)).2 := by
    rw [recordsAfter, Executor.executeCommand, hsnapshot]
  rw [Executor.executeActionV2, hprepared, serve_bind_ok serve_ofExcept] at hrecords
  dsimp only at hrecords
  rw [utcnow, serve_request_bind,
    show (ActionHandler.shellCommand.execute x.env x.host (x.actionContext step)) =
      ShellCommand.execute x.env x.host (x.actionContext step) from rfl, serve_bind] at hrecords
  rw [show (w.serve x.env x.host {} .utcnow).2 = { ticks := 1 } from rfl] at hrecords
  generalize Comp.serve (w.serve x.env x.host) { ticks := 1 }
    (ShellCommand.execute x.env x.host (x.actionContext step)) = outcome at hreports hrecords ⊢
  obtain ⟨r, s'⟩ := outcome
  cases r with
  | error e =>
    refine iff_of_false (not_reportsArrivals ?_) (not_delivers_of_error e s')
    rw [hrecords]
    exact hreports
  | ok result =>
    dsimp only at hrecords
    rw [serve_request_bind] at hrecords
    obtain ⟨failed, hserve⟩ := serve_reportStep x.env x.host w
      (w.serve x.env x.host s' .utcnow).2 x step
      { status := result.status
        startedAt := some (result.startedAt.getD (w.serve x.env x.host {} .utcnow).1)
        finishedAt := some (result.finishedAt.getD (w.serve x.env x.host s' .utcnow).1)
        exitCode := result.exitCode
        errorMessage := result.errorMessage
        failureKind := result.failureKind }
    rw [hserve] at hrecords
    have hreported {status : StepStatus} : IsReported x step w status ↔ result.status = status :=
      isReported_iff (by
        rw [hrecords]
        exact congrArg (· ++ _) hreports)
    have hholds (key : String) : (recordsAfter x step w).holds step.id key =
        s'.holds step.id key := by
      rw [hrecords]
      rfl
    constructor
    · rintro ⟨hsucceeded, hfailed⟩
      refine ⟨result, rfl, ?_⟩
      by_cases hstatus : result.status = .succeeded
      · refine .inr ⟨hstatus, fun decl hmem hrequired => ?_⟩
        rw [← hholds]
        exact hsucceeded (hreported.2 hstatus) decl hmem hrequired
      · exact .inl (hreported.1 (hfailed fun h => hstatus (hreported.1 h)))
    · rintro ⟨_, hresult, hdelivers⟩
      obtain rfl := Except.ok.inj hresult
      rcases hdelivers with hfailed | ⟨hstatus, harrived⟩
      · refine ⟨fun h => ?_, fun _ => hreported.2 hfailed⟩
        rw [hreported.1 h] at hfailed
        cases hfailed
      · refine ⟨fun _ decl hmem hrequired => ?_, fun h => absurd (hreported.2 hstatus) h⟩
        rw [hholds]
        exact harrived decl hmem hrequired

end

-- ════════════════════════════════════════════════════════════════════════
-- Accepted uploads
-- ════════════════════════════════════════════════════════════════════════

theorem copies_of_accepted {w : Surroundings} {n : ℕ} {response : ArtifactUploadResponse}
    (h : (w.responses n).answer = .ok response) : w.copies n = 1 := by
  have hsettles : (w.responses n).settles = true := by rw [UploadOutcome.settles, h]
  rw [Surroundings.copies, (w.responses n).accepted response h, if_pos hsettles]
  rfl

/-- A refused upload is not held. -/
theorem copies_of_refused {w : Surroundings} {n : ℕ} {code : ℤ} {text : String}
    (h : (w.responses n).answer = .error (.status code text)) (hcode : code < 500) :
    w.copies n = 0 := by
  have hsettles : (w.responses n).settles = true := by
    rw [UploadOutcome.settles, h]
    exact decide_eq_true hcode
  rw [Surroundings.copies, (w.responses n).refused code text h hcode, if_pos hsettles]
  rfl

/-- **Refused uploads** leave no artifact, whatever the step has produced. -/
theorem not_arrives_of_refused {x : Executor} {step : ClaimedStep} {w : Surroundings}
    {root : String} {decl : ArtifactDeclaration}
    (h : ∀ n, ∃ code text, (w.responses n).answer = .error (.status code text) ∧ code < 500) :
    ¬Arrives x step w root decl := by
  have hnone (files : List (String × Bytes)) :
      ∀ n, ∀ transfer ∈ w.transfers n files, transfer.copies = 0 := by
    induction files with
    | nil => exact fun n transfer hmem => nomatch hmem
    | cons file files ih =>
      intro n transfer hmem
      rcases List.mem_cons.1 hmem with rfl | hmem
      · obtain ⟨code, text, hanswer, hcode⟩ := h n
        exact copies_of_refused hanswer hcode
      · exact ih _ transfer hmem
  rintro ⟨-, path, content, transfer, -, halone, hone, -⟩
  have hmem : transfer ∈ w.declaredTransfers x.env root step.artifacts :=
    (List.mem_filter.1 (halone ▸ List.mem_singleton_self transfer)).1
  have hzero := hnone _ _ transfer hmem
  omega

theorem transfers_of_accepted {w : Surroundings}
    (h : ∀ n, ∃ response, (w.responses n).answer = .ok response) (n : ℕ)
    (files : List (String × Bytes)) :
    w.transfers n files = files.map fun file => ⟨file.1, file.2, 1⟩ := by
  induction files generalizing n with
  | nil => rfl
  | cons file files ih =>
    obtain ⟨response, hanswer⟩ := h n
    rw [Surroundings.transfers, copies_of_accepted hanswer, ih, List.map_cons]

/-- One element alone has its key. -/
theorem filter_key_eq_singleton {α β : Type} [DecidableEq β] {f : α → β} {l : List α} {a : α}
    (hnodup : (l.map f).Nodup) (h : a ∈ l) : l.filter (f · = f a) = [a] := by
  induction l with
  | nil => cases h
  | cons first rest ih =>
    obtain ⟨hfirst, hrest⟩ := List.nodup_cons.1 hnodup
    rcases List.mem_cons.1 h with rfl | hmem
    · rw [List.filter_cons_of_pos (by simp), List.filter_eq_nil_iff.2]
      intro other hother
      simpa using fun hsame : f other = f a => hfirst (hsame ▸ List.mem_map_of_mem hother)
    · have hother : f first ≠ f a := fun hsame => hfirst (hsame ▸ List.mem_map_of_mem hmem)
      rw [List.filter_cons_of_neg (by simpa using hother), ih hrest hmem]

/-- **An artifact** under a key of its own arrives when all uploads are accepted and its file can
be read and is within the limit. -/
theorem arrives_of_accepted {x : Executor} {step : ClaimedStep} {w : Surroundings}
    {root path : String} {decl : ArtifactDeclaration} {content : Bytes}
    (haccepted : ∀ n, ∃ response, (w.responses n).answer = .ok response)
    (hkeys : (step.artifacts.map (·.key)).Nodup) (hmem : decl ∈ step.artifacts)
    (hnamed : decl.key ≠ "") (hproduced : w.produced x.env root decl = some (path, content))
    (hreopens : w.reopens path = true) (hlength : content.length ≤ defaultMaxBytes) :
    Arrives x step w root decl := by
  refine ⟨hnamed, path, content, ⟨decl.key, content, 1⟩, hproduced, ?_, rfl,
    List.take_of_length_le hlength⟩
  rw [Surroundings.declaredTransfers, transfers_of_accepted haccepted, Surroundings.files,
    List.map_filterMap, List.filter_filterMap]
  -- only the declaration itself has its key
  have hone : (step.artifacts.filter (·.key = decl.key)).filterMap (fun other =>
      ((w.produced x.env root other).bind fun file =>
        if w.reopens file.1 then some (other.key, file.2) else none).map fun file =>
          (⟨file.1, file.2, 1⟩ : Transfer)) = [⟨decl.key, content, 1⟩] := by
    rw [filter_key_eq_singleton hkeys hmem]
    simp [hproduced, hreopens]
  rw [← hone, List.filterMap_filter]
  refine List.filterMap_congr fun other _ => ?_
  cases w.produced x.env root other with
  | none => simp
  | some file =>
    by_cases hkey : other.key = decl.key <;> by_cases hreopen : w.reopens file.1 = true
    all_goals simp [hkey, hreopen]

/-- **Required artifacts** arrive, for a live `shell_command` step, exactly when no exception
leaves the step and each of them is uploaded whole, under a key, and held once. -/
theorem required_artifacts_arrive_iff {x : Executor} {step : ClaimedStep}
    {snapshot : ActionSnapshot} (w : Surroundings) (hsnapshot : step.actionSnapshot = some snapshot)
    (htype : snapshot.type = "shell_command") (hlive : x.execution.executionMode ≠ "dry_run") :
    ReportsArrivals x step w ↔ MeetsArrivals x step w snapshot := by
  cases hprepared : x.prepareAction step snapshot with
  | error e =>
    refine iff_of_false (not_reportsArrivals ?_) fun h => h.prepares e hprepared
    rw [recordsAfter, Executor.executeCommand, hsnapshot]
    dsimp only
    rw [Executor.executeActionV2, hprepared]
    rfl
  | ok prepared =>
    cases prepared with
    | error refusal =>
      have hother {settings : RunnerSettings} {specs : List Sandbox.ArtifactSpec} :
          ¬ComesToSandbox x step w snapshot settings specs := by
        intro hcomes
        have h := hcomes.prepared
        rw [hprepared] at h
        cases h
      refine iff_of_true (reportsArrivals_of_refused hsnapshot hprepared)
        ⟨fun e he => ?_, fun settings specs h => absurd h hother,
          fun settings specs ended h => absurd h hother⟩
      rw [hprepared] at he
      cases he
    | ok handler =>
      obtain ⟨hlookup, -, -⟩ := Executor.prepareAction_ok.1 hprepared
      obtain rfl := ShellCommand.lookupHandler_shellCommand (htype ▸ hlookup)
      exact (reportsArrivals_iff_delivers hsnapshot hprepared).trans
        (delivers_execute hsnapshot hlive hprepared)

/-- An upload that is accepted. -/
def UploadOutcome.created : UploadOutcome where
  answer := .ok ⟨0, ""⟩
  stored := true
  accepted _ _ := rfl
  refused _ _ h := by cases h

/-- An upload that is refused. -/
def UploadOutcome.denied : UploadOutcome where
  answer := .error (.status 403 "Forbidden")
  stored := false
  accepted _ h := by cases h
  refused _ _ _ _ := rfl

/-- A command that is given by its arguments. -/
def reportingSnapshot : ActionSnapshot where
  type := "shell_command"
  version := "pilot.v1"
  params := .obj [("commandMode", .str "argv"), ("argv", .arr [.str "make", .str "report"])]

/-- The report of the command, which is required. -/
def reportDeclaration : ArtifactDeclaration where
  key := "report"
  path := "out"
  required := true

/-- The step with the command and its report. -/
def reportingStep : ClaimedStep where
  id := 0
  position := 0
  stepKey := "report"
  name := "Report"
  stepType := "shell_command"
  riskLevel := "low"
  status := .pending
  actionSnapshot := some reportingSnapshot
  artifacts := [reportDeclaration]

/-- Its claim. -/
def reportingClaim : Executor := .sample { id := 0, steps := [reportingStep] }

/-- A report of three bytes in the workspace of the step. -/
def reportFile : Sandbox.FileSystem where
  locate path :=
    if path = "/tmp/runner-workspaces/0/0-report-0/out" then .ok (path, .regular [1, 2, 3] true)
    else .error .noent
  resolve path := .ok path
  canonical {path resolved location node} _ hlocate := by
    split_ifs at hlocate
    exact (Prod.mk.inj (Except.ok.inj hlocate)).1.symm

/-- The command succeeds and leaves the report, and all uploads end alike. -/
def reporting (outcome : UploadOutcome) : Surroundings where
  clock n := n
  runId := "run"
  resolvePath path := path
  made := .ok ()
  process := .ok { exitCode := some 0 }
  fs := reportFile
  reopens _ := true
  responses _ := outcome
  acknowledged := .ok ()

/-- With accepted uploads the surroundings are in order. -/
theorem meetsArrivals_reporting :
    MeetsArrivals reportingClaim reportingStep (reporting .created) reportingSnapshot := by
  have hprepared : reportingClaim.prepareAction reportingStep reportingSnapshot =
      .ok (.ok .shellCommand) := rfl
  refine ⟨fun e he => ?_, fun settings specs hcomes => ?_,
    fun settings specs ended hcomes hended => ?_⟩
  · rw [hprepared] at he
    cases he
  · obtain rfl := Option.some.inj hcomes.configured
    rfl
  · obtain rfl := Option.some.inj hcomes.configured
    have hok : (ShellCommand.buildArtifactSpecs reportingClaim.env reportingStep.artifacts >>=
        fun specs => (Sandbox.collectArtifacts reportingClaim.env reportingClaim.host
          (reporting .created).fs ((reporting .created).workspacePath reportingClaim reportingStep)
          (sandboxLimits { executionMode := "sandboxed" } reportingStep.timeoutSeconds)
          specs).1).isOk = true := by
      decide +kernel
    rw [hcomes.declared, ok_bind] at hok
    obtain ⟨artifacts, hcollect⟩ := exists_eq_ok hok
    rw [EndsInOrder, hcollect]
    intro _ decl hmem _
    obtain rfl := List.mem_singleton.1 hmem
    have hproduced : (reporting .created).produced reportingClaim.env
        ((reporting .created).workspacePath reportingClaim reportingStep) reportDeclaration =
        some ("/tmp/runner-workspaces/0/0-report-0/out", [1, 2, 3]) := by
      decide +kernel
    exact arrives_of_accepted (fun n => ⟨_, rfl⟩) (List.nodup_singleton _)
      (List.mem_singleton_self _) (by decide) hproduced rfl (by decide)

/-- The report arrives when its upload is accepted. -/
theorem report_arrives :
    ReportsArrivals reportingClaim reportingStep (reporting .created) ∧
      (recordsAfter reportingClaim reportingStep (reporting .created)).holds 0 "report" =
        [[1, 2, 3]] :=
  ⟨(required_artifacts_arrive_iff _ rfl rfl (by decide)).2 meetsArrivals_reporting,
    by decide +kernel⟩

/-- The step is reported as succeeded, though the upload of its report is refused. -/
theorem denied_report_succeeds :
    ¬∀ (x : Executor) (step : ClaimedStep) (snapshot : ActionSnapshot) (w : Surroundings),
      step.actionSnapshot = some snapshot → snapshot.type = "shell_command" →
        x.execution.executionMode ≠ "dry_run" → ReportsArrivals x step w := by
  intro h
  have hreports := h reportingClaim reportingStep reportingSnapshot (reporting .denied) rfl rfl
    (by decide)
  have hstatus : ((recordsAfter reportingClaim reportingStep (reporting .denied)).reports.map
      fun r => (r.1, r.2.status)) = [(0, .succeeded)] := by decide +kernel
  have hheld : (recordsAfter reportingClaim reportingStep (reporting .denied)).holds 0 "report" =
      [] := by decide +kernel
  obtain ⟨report, hmem, hreport⟩ : ∃ report ∈
      (recordsAfter reportingClaim reportingStep (reporting .denied)).reports,
        (report.1, report.2.status) = (0, .succeeded) :=
    List.mem_map.1 (hstatus ▸ List.mem_singleton_self _)
  obtain ⟨path, content, -, hcontent⟩ := hreports.succeeded
    ⟨report, hmem, (Prod.mk.inj hreport).1, (Prod.mk.inj hreport).2⟩ reportDeclaration
    (List.mem_singleton_self _) rfl
  rw [show reportingStep.id = 0 from rfl, show reportDeclaration.key = "report" from rfl, hheld]
    at hcontent
  cases hcontent

end RunbookPlatform
