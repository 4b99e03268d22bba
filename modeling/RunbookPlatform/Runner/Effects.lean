import RunbookPlatform.Runner.Executor

/-!
# The effects of the runner's functions

Which calls the functions of the runner make. Uploads and clocks are neutral; the handlers
and the sandbox do work on the host and on the network; the executor alone reports to the
control plane.

## Main definitions

- `Call.IsNeutral`, `Call.IsWork`, `Call.IsFrame` — kinds of calls
- `Call.succeed` — the answers when everything succeeds

## Main results

- `ActionHandler.always_work` — a handler reports nothing
- `Executor.runs_updateStep`, `Executor.runs_reportStep` — the runs of a report
- `Executor.run_wraps` — a run is a run of the loop between calls about the whole execution
-/

namespace RunbookPlatform

open Interaction Interaction.Comp

/-- The calls of clocks, paths and uploads. -/
def Call.IsNeutral : Call → Prop
  | uploadArtifact .. | isCancelled | utcnow | uuid4 | resolvePath _ | rmtree _ | readFile _ => True
  | _ => False

/-- The neutral calls, and what handlers and sandbox do for a step on the host and on the
network. -/
def Call.IsWork (step : ℕ) : Call → Prop
  | mkdirs spec | popen _ _ spec | collectArtifacts spec => spec.stepId = step
  | httpRequest .. => True
  | c => c.IsNeutral

/-- What a step calls once it may run: its work, its updates and its facts. -/
def Call.IsOwn (step : ClaimedStep) : Call → Prop
  | updateStep _ id _ _ => id = step.id
  | submitVerificationResult _ _ _ result => result.stepKey = step.stepKey
  | c => c.IsWork step.id

/-- The calls about the whole execution. -/
def Call.IsFrame : Call → Prop
  | completeExecution .. | bindChangeExecution .. | executionStarted .. | executionFinished ..
  | breakglassHeartbeat .. | isCancelled | utcnow => True
  | _ => False

/-- Everything that is called succeeds. -/
def Call.succeed : (c : Call) → c.Answer
  | startStep .. => .ok .run
  | approvalStatus .. => .ok .run
  | updateStep .. | completeExecution .. | bindChangeExecution .. | executionStarted ..
  | executionFinished .. | breakglassHeartbeat .. | submitVerificationResult .. => .ok ()
  | uploadArtifact .. => .ok ⟨0, ""⟩
  | isCancelled => false
  | utcnow => (0 : ℕ)
  | uuid4 => ""
  | resolvePath path => path
  | mkdirs _ => .ok ()
  | popen .. => .ok { exitCode := some 0 }
  | collectArtifacts _ => .ok []
  | rmtree _ => ()
  | readFile _ => .ok []
  | httpRequest .. => .ok 200

instance (c : Call) : Nonempty c.Answer := ⟨c.succeed⟩

theorem Call.IsWork.isOwn {step : ClaimedStep} {c : Call} (h : c.IsWork step.id) :
    c.IsOwn step := by
  cases c <;> first | exact h | exact h.elim

theorem Call.IsNeutral.isWork {step : ℕ} {c : Call} (h : c.IsNeutral) : c.IsWork step := by
  cases c <;> first | exact h | exact h.elim

section

variable {env : Env} {host : Host} {P : Call → Prop} {α β : Type}

-- ════════════════════════════════════════════════════════════════════════
-- Uploads and paths
-- ════════════════════════════════════════════════════════════════════════

theorem always_attempts (uploader : Uploader) (upload : ArtifactUpload) (n : ℕ) :
    (uploader.attempts upload n).Always Call.IsNeutral := by
  induction n with
  | zero => exact .pure
  | succ n ih =>
    refine .bind (.request trivial) fun answer => ?_
    match answer with
    | .ok response => exact .pure
    | .error (.status code text) => exact .ite .pure ih
    | .error (.timeout _) => exact ih
    | .error (.transport _) => exact ih

theorem always_uploadBytes (uploader : Uploader) (content : Bytes) (kind name mimeType : String)
    (metadata : List (String × Json)) :
    (uploader.uploadBytes host content kind name mimeType metadata).Always Call.IsNeutral := by
  rw [Uploader.uploadBytes]
  split
  · exact .pure
  · exact always_attempts _ _ _

theorem always_uploadStream (uploader : Uploader) (content : Bytes) (kind name : String)
    (metadata : List (String × Json)) :
    (uploader.uploadStream host content kind name metadata).Always Call.IsNeutral :=
  always_uploadBytes _ _ _ _ _ _

theorem always_uploadFile (uploader : Uploader) (artifact : Sandbox.CollectedArtifact)
    (provider runId : String) (metadata : List (String × Json)) :
    (uploader.uploadFile host artifact provider runId metadata).Always Call.IsNeutral := by
  refine .bind (.request trivial) fun answer => ?_
  match answer with
  | .error _ => exact .pure
  | .ok content => exact always_uploadBytes _ _ _ _ _ _

theorem always_uploadFiles (uploader : Uploader) (provider runId : String)
    (metadata : Sandbox.CollectedArtifact → List (String × Json))
    (artifacts : List Sandbox.CollectedArtifact) :
    (uploader.uploadFiles host provider runId metadata artifacts).Always Call.IsNeutral := by
  induction artifacts with
  | nil => exact .pure
  | cons artifact artifacts ih =>
    exact .bind (always_uploadFile _ _ _ _ _) fun _ => .bind ih fun _ => .pure

theorem always_buildWorkspacePath (root : String) (execution : ℕ) (step : ClaimedStep) :
    (buildWorkspacePath root execution step).Always Call.IsNeutral := by
  refine .bind (.request trivial) fun root => .bind (.request trivial) fun candidate => ?_
  split
  · exact .pure
  · exact .fail

-- ════════════════════════════════════════════════════════════════════════
-- The sandbox
-- ════════════════════════════════════════════════════════════════════════

/-- A specification of one command is valid when that is not blank. -/
theorem validate_eq_ok {spec : Sandbox.ExecutionSpec} {command : String} {u : Unit}
    (hcommand : spec.command = [command]) :
    Sandbox.validate spec = .ok u ↔ strip command ≠ "" := by
  rw [Sandbox.validate, hcommand, if_neg (List.cons_ne_nil _ _)]
  by_cases h : strip command = ""
  · simp [h]
  · simp [h]


theorem always_sandbox_execute (spec : Sandbox.ExecutionSpec) :
    (Sandbox.execute env spec).Always (Call.IsWork spec.stepId) := by
  refine .bind (.request trivial) fun _ => .bind (.request trivial) fun _ =>
    .bind (.request rfl) fun made => ?_
  cases made with
  | error text => exact .fail
  | ok _ =>
    refine .bind (.request rfl) fun ended => ?_
    cases ended with
    | error text => exact .bind (.request trivial) fun _ => .pure
    | ok ended =>
      refine .bind (.request trivial) fun _ => .ite .pure ?_
      refine .bind (.request rfl) fun collected => ?_
      split
      · exact .pure
      · exact .pure
      · exact .fail

theorem always_report (ctx : ActionContext) (settings : RunnerSettings)
    (spec : Sandbox.ExecutionSpec) (result : Sandbox.Result) :
    (ShellCommand.report env host ctx settings spec result).Always Call.IsNeutral := by
  refine .bind (always_uploadStream _ _ _ _ _) fun _ =>
    .bind (always_uploadStream _ _ _ _ _) fun _ => .bind (always_uploadFiles _ _ _ _ _) fun _ => ?_
  exact .ite (.bind (.request trivial) fun _ => .pure) .pure

theorem always_runSandboxed (ctx : ActionContext) (settings : RunnerSettings)
    (spec : Sandbox.ExecutionSpec) :
    (ShellCommand.runSandboxed env host ctx settings spec).Always (Call.IsWork spec.stepId) := by
  refine .bind .ofExcept fun _ => ?_
  split
  · exact .pure
  · exact .fail
  · refine .bind (.tryCatch (.bind (always_sandbox_execute _) fun _ => .pure) fun e => ?_)
      fun answer => ?_
    · split <;> first | exact .pure | exact .fail
    · cases answer with
      | error text => exact .bind (.request trivial) fun _ => .pure
      | ok result => exact (always_report _ _ _ _).mono fun _ => Call.IsNeutral.isWork

theorem always_shellCommand (ctx : ActionContext) :
    (ShellCommand.execute env host ctx).Always (Call.IsWork ctx.step.id) := by
  rw [ShellCommand.execute]
  split
  · exact .pure
  · refine .ite .pure (.ite .pure ?_)
    refine .bind (.tryCatch (.bind ?_ fun _ => .pure) fun e => ?_) fun path => ?_
    · exact (always_buildWorkspacePath _ _ _).mono fun _ => Call.IsNeutral.isWork
    · split <;> first | exact .pure | exact .fail
    · split
      · exact .pure
      · exact .pure
      · exact .fail
      · exact always_runSandboxed _ _ _

theorem always_httpRequest (ctx : ActionContext) :
    (HttpRequest.execute env host ctx).Always (Call.IsWork ctx.step.id) := by
  refine .ite .pure (.bind .ofExcept fun _ => .ite .pure ?_)
  refine .bind (.request trivial) fun answer => ?_
  rw [HttpRequest.resultOf.eq_def]
  split
  · simp only []
    split
    · exact .fail
    · exact .ite .pure .pure
  · exact .pure
  · exact .pure
  · exact .fail

theorem always_artifactAssertion (ctx : ActionContext) :
    (ArtifactAssertion.execute env ctx).Always fun _ => False := by
  rw [ArtifactAssertion.execute]
  split
  · exact .ite .fail .pure
  · exact .ite .pure (.ite .pure .pure)

/-- **Handlers** work, and report nothing. -/
theorem ActionHandler.always_work (handler : ActionHandler) (ctx : ActionContext) :
    (handler.execute env host ctx).Always (Call.IsWork ctx.step.id) := by
  cases handler with
  | manualTask => exact .pure
  | approvalGate => exact .pure
  | shellCommand => exact always_shellCommand ctx
  | httpRequest => exact always_httpRequest ctx
  | artifactAssertion => exact (always_artifactAssertion ctx).mono nofun

end

-- ════════════════════════════════════════════════════════════════════════
-- The control plane
-- ════════════════════════════════════════════════════════════════════════

theorem always_raiseHttp {P : Call → Prop} {α : Type} (answer : Except HttpError α) :
    (raiseHttp answer).Always P := by
  cases answer <;> first | exact .pure | exact .fail

theorem always_catchHttp {P : Call → Prop} {α : Type} {task : Task α}
    {handler : HttpError → Task α} (htask : task.Always P) (hhandler : ∀ e, (handler e).Always P) :
    (catchHttp task handler).Always P := by
  refine .tryCatch htask fun e => ?_
  cases e <;> first | exact hhandler _ | exact .fail

namespace Executor

variable {x : Executor} {step : ClaimedStep} {t : List CallEvent}

/-- **An update** is one call, and is acknowledged when that call succeeds. -/
theorem runs_updateStep {update : StepUpdateRequest} {r : Except Exn Bool} :
    (x.updateStep step update).Runs t r ↔
      ∃ answer : Except HttpError Unit,
        t = [⟨.updateStep x.execution.id step.id x.claimToken update, answer⟩] ∧
          r = .ok answer.isOk := by
  constructor
  · rintro ⟨answer, t', rfl, h⟩
    cases answer <;> obtain ⟨rfl, rfl⟩ := h <;> exact ⟨_, rfl, rfl⟩
  · rintro ⟨answer, rfl, rfl⟩
    cases answer <;> exact ⟨_, [], rfl, rfl, rfl⟩

/-- A refused step is reported once and has failed. -/
theorem runs_failStep {errorMessage failureKind : String} {r : Except Exn Bool} :
    (x.failStep step errorMessage failureKind).Runs t r ↔
      ∃ answer : Except HttpError Unit,
        t = [⟨.updateStep x.execution.id step.id x.claimToken
          { status := .failed, errorMessage, failureKind }, answer⟩] ∧ r = .ok true := by
  constructor
  · rintro ⟨answer, t', rfl, h⟩
    cases answer <;> obtain ⟨rfl, rfl⟩ := h <;> exact ⟨_, rfl, rfl⟩
  · rintro ⟨answer, rfl, rfl⟩
    cases answer <;> exact ⟨_, [], rfl, rfl, rfl⟩

/-- **A report** is an update, followed by the facts when it is acknowledged. -/
theorem runs_reportStep {update : StepUpdateRequest} {facts : Task Unit} {r : Except Exn Bool} :
    (x.reportStep step update facts).Runs t r ↔
      (∃ e, t = [⟨.updateStep x.execution.id step.id x.claimToken update, .error e⟩] ∧
        r = .ok true) ∨
      ∃ t', t = ⟨.updateStep x.execution.id step.id x.claimToken update, .ok ()⟩ :: t' ∧
        (facts >>= fun _ => pure (decide (update.status = .failed))).Runs t' r := by
  constructor
  · rintro ⟨answer, t', rfl, h⟩
    cases answer with
    | error e =>
      obtain ⟨rfl, rfl⟩ := h
      exact .inl ⟨e, rfl, rfl⟩
    | ok _ => exact .inr ⟨t', rfl, h⟩
  · rintro (⟨e, rfl, rfl⟩ | ⟨t', rfl, h⟩)
    · exact ⟨.error e, [], rfl, rfl, rfl⟩
    · exact ⟨.ok (), t', rfl, h⟩

/-- **A start** is one call. -/
theorem runs_startStep {r : Except Exn (Option StartAction)} :
    (catchHttp (some <$> Client.startStep x.execution.id step.id x.claimToken)
        fun _ => pure none).Runs t r ↔
      ∃ answer : Except HttpError StartAction,
        t = [⟨.startStep x.execution.id step.id x.claimToken, answer⟩] ∧
          r = .ok answer.toOption := by
  constructor
  · rintro ⟨answer, t', rfl, h⟩
    cases answer <;> obtain ⟨rfl, rfl⟩ := h <;> exact ⟨_, rfl, rfl⟩
  · rintro ⟨answer, rfl, rfl⟩
    cases answer <;> exact ⟨_, [], rfl, rfl, rfl⟩

/-- **A poll** is one call. -/
theorem runs_pollStep {r : Except Exn (Option PollAction)} :
    (catchHttp (some <$> Client.getStepApprovalStatus x.execution.id step.id x.claimToken)
        fun _ => pure none).Runs t r ↔
      ∃ answer : Except HttpError PollAction,
        t = [⟨.approvalStatus x.execution.id step.id x.claimToken, answer⟩] ∧
          r = .ok answer.toOption := by
  constructor
  · rintro ⟨answer, t', rfl, h⟩
    cases answer <;> obtain ⟨rfl, rfl⟩ := h <;> exact ⟨_, rfl, rfl⟩
  · rintro ⟨answer, rfl, rfl⟩
    cases answer <;> exact ⟨_, [], rfl, rfl, rfl⟩

section

variable {P : Call → Prop}
  (hupdate : ∀ update, P (.updateStep x.execution.id step.id x.claimToken update))

include hupdate

theorem always_updateStep (update : StepUpdateRequest) : (x.updateStep step update).Always P := by
  intro t r hrun event hevent
  obtain ⟨answer, rfl, -⟩ := runs_updateStep.1 hrun
  cases List.mem_singleton.1 hevent
  exact hupdate update

theorem always_failStep (errorMessage failureKind : String) :
    (x.failStep step errorMessage failureKind).Always P :=
  .bind (always_updateStep hupdate _) fun _ => .pure

theorem always_reportStep (update : StepUpdateRequest) {facts : Task Unit}
    (hfacts : facts.Always P) : (x.reportStep step update facts).Always P := by
  refine .bind (always_updateStep hupdate _) fun acknowledged => ?_
  cases acknowledged with
  | false => exact .pure
  | true => exact .bind hfacts fun _ => .pure

end

theorem always_submitResults {P : Call → Prop} {change : ℕ}
    {results : List VerificationResultRequest}
    (h : ∀ result ∈ results,
      P (.submitVerificationResult change x.execution.id x.claimToken result)) :
    (x.submitResults change results).Always P := by
  induction results with
  | nil => exact .pure
  | cons result results ih =>
    exact .bind (always_catchHttp (.bind (.request (h result List.mem_cons_self)) always_raiseHttp)
      fun _ => .pure) fun _ => ih fun result hmem => h result (List.mem_cons_of_mem _ hmem)

/-- The facts of a step are submissions. -/
theorem always_emitStepVerificationFacts {P : Call → Prop}
    (h : ∀ change result, P (.submitVerificationResult change x.execution.id x.claimToken result))
    (outcome : CheckOutcome) (exitCode : ℤ) (artifacts : List ArtifactUploadResponse) :
    (x.emitStepVerificationFacts step outcome exitCode artifacts).Always P := by
  rw [emitStepVerificationFacts]
  split
  · exact .pure
  · exact always_submitResults fun result _ => h _ result

theorem always_uploadStepOutputs (stdout stderr : Bytes) :
    (x.uploadStepOutputs step stdout stderr).Always Call.IsNeutral := by
  have hone (content : Bytes) (kind name : String) :
      (x.uploadStepOutput step content kind name).Always Call.IsNeutral :=
    .ite .pure (.bind (always_uploadStream _ _ _ _ _) fun _ => .pure)
  exact .bind (hone _ _ _) fun _ => .bind (hone _ _ _) fun _ => .pure

-- ════════════════════════════════════════════════════════════════════════
-- A step that may run
-- ════════════════════════════════════════════════════════════════════════

theorem own_failStep (errorMessage failureKind : String) :
    (x.failStep step errorMessage failureKind).Always (Call.IsOwn step) :=
  always_failStep (fun _ => rfl) _ _

theorem own_reportStep (update : StepUpdateRequest) (outcome : CheckOutcome) (exitCode : ℤ)
    (artifacts : List ArtifactUploadResponse) :
    (x.reportStep step update
      (x.emitStepVerificationFacts step outcome exitCode artifacts)).Always (Call.IsOwn step) := by
  refine always_reportStep (fun _ => rfl) _ ?_
  rw [emitStepVerificationFacts]
  split
  · exact .pure
  · refine always_submitResults fun result hmem => ?_
    obtain ⟨item, -, rfl⟩ := List.mem_map.1 hmem
    exact rfl

theorem own_uploadStepOutputs (stdout stderr : Bytes) :
    (x.uploadStepOutputs step stdout stderr).Always (Call.IsOwn step) :=
  (always_uploadStepOutputs _ _).mono fun _ h => h.isWork.isOwn

theorem own_executeActionV2 (snapshot : ActionSnapshot) :
    (x.executeActionV2 step snapshot).Always (Call.IsOwn step) := by
  refine .bind .ofExcept fun prepared => ?_
  cases prepared with
  | error refusal => exact own_failStep _ _
  | ok handler =>
    exact .bind (.request trivial) fun _ =>
      .bind ((handler.always_work _).mono fun _ h => h.isOwn) fun _ =>
        .bind (.request trivial) fun _ => always_reportStep (fun _ => rfl) _ .pure

theorem own_executeSimulated : (x.executeSimulated step).Always (Call.IsOwn step) := by
  refine .bind (.request trivial) fun _ => .ite ?_ ?_
  all_goals
    exact .bind (.request trivial) fun _ => .bind (own_uploadStepOutputs _ _) fun _ =>
      own_reportStep _ _ _ _

theorem own_runSandboxed (settings : RunnerSettings) {spec : Sandbox.ExecutionSpec}
    (hspec : spec.stepId = step.id) :
    (x.runSandboxed settings step spec).Always (Call.IsOwn step) := by
  refine .bind .ofExcept fun _ => ?_
  split
  · exact own_failStep _ _
  · exact .fail
  refine .bind (.tryCatch (.bind ((always_sandbox_execute _).mono fun c h => ?_) fun _ => .pure)
    fun e => ?_) fun answer => ?_
  · rw [hspec] at h
    exact h.isOwn
  · split <;> first | exact .pure | exact .fail
  cases answer with
  | error text =>
    exact .bind (own_failStep _ _) fun _ => .bind (.request trivial) fun _ => .pure
  | ok result =>
    refine .bind (own_uploadStepOutputs _ _) fun _ =>
      .bind ((always_uploadFiles _ _ _ _ _).mono fun _ h => h.isWork.isOwn) fun _ => ?_
    exact .ite (.bind (.request trivial) fun _ => own_reportStep _ _ _ _) (own_reportStep _ _ _ _)

/-- **A step that may run** works, and reports on itself. -/
theorem own_executeCommand : (x.executeCommand step).Always (Call.IsOwn step) := by
  rw [executeCommand]
  split
  · exact own_executeActionV2 _
  · refine .ite (.ite (own_failStep _ _) ?_) own_executeSimulated
    exact .bind ((always_buildWorkspacePath _ _ _).mono fun _ h => h.isWork.isOwn) fun _ =>
      own_runSandboxed _ rfl
  · exact own_executeSimulated

-- ════════════════════════════════════════════════════════════════════════
-- The whole run
-- ════════════════════════════════════════════════════════════════════════

/-- **A run** is a run of the loop between calls that concern the whole execution. -/
theorem run_wraps (x : Executor) : (x.runSteps x.steps).Wraps Call.IsFrame x.run := by
  have hfinished : x.notifyExecutionFinished.Always Call.IsFrame := by
    rw [notifyExecutionFinished]
    split
    · exact .pure
    · exact .bind (.request trivial) fun _ =>
        always_catchHttp (.bind (.request trivial) always_raiseHttp) fun _ => .pure
  have hcomplete (status : FinalStatus) (text : String) :
      (x.completeExecution status text).Always Call.IsFrame :=
    always_catchHttp (.bind (.request trivial) always_raiseHttp) fun _ => .pure
  have hloop : (x.runSteps x.steps).Wraps Call.IsFrame x.runLoop := by
    refine .bind_left (.tryCatch (.bind_left .refl fun outcome => ?_) fun e => ?_) fun outcome =>
      .bind (hcomplete _ _) fun _ => hfinished
    · exact .ite (.bind (.request trivial) fun _ => .ite .pure .pure) .pure
    · cases e <;> first | exact .pure | exact .fail
  rw [run]
  split
  · exact hloop
  · rename_i change hchange
    refine .bind_right ?_ fun bound => ?_
    · exact always_catchHttp (.bind (.bind (.request trivial) always_raiseHttp) fun _ => .pure)
        fun _ => .pure
    cases bound with
    | false => exact .of_always (hcomplete _ _)
    | true =>
      refine .bind_right ?_ fun _ => .bind_right ?_ fun _ => hloop
      · exact .bind (.request trivial) fun _ =>
          always_catchHttp (.bind (.request trivial) always_raiseHttp) fun _ => .pure
      · rw [observeBreakglass]
        split
        · exact .pure
        · exact .bind (.request trivial) fun _ => .pure

/-- What the loop may do the run may do, when the change can be bound. -/
theorem may_run {P : Call → Prop} (h : (x.runSteps x.steps).May P) : x.run.May P := by
  have hloop : x.runLoop.May P := .bind_left (.tryCatch (.bind_left h))
  rw [run]
  split
  · exact hloop
  · rename_i change hchange
    have hbound : (x.bindChangeExecution change).Runs
        [⟨.bindChangeExecution x.execution.id x.claimToken change, .ok ()⟩] (.ok true) :=
      ⟨.ok (), [], rfl, rfl, rfl⟩
    have hnotified : (x.notifyExecutionStarted change).Runs [⟨.utcnow, 0⟩,
        ⟨.executionStarted change.changeRecordId x.execution.id 0, .ok ()⟩] (.ok ()) :=
      ⟨0, _, rfl, .ok (), [], rfl, rfl, rfl⟩
    refine .bind_right hbound (.bind_right hnotified ?_)
    rw [observeBreakglass]
    split
    · exact .bind_right (runs_pure.2 ⟨rfl, rfl⟩) hloop
    · exact .bind_right ⟨.ok (), [], rfl, rfl, rfl⟩ hloop

end Executor

end RunbookPlatform
