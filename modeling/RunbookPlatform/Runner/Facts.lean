import RunbookPlatform.Executions.Payload
import RunbookPlatform.Runner.Effects

/-!
# Verification facts

After the acknowledged update of a step the runner submits a result for each verification
key of the step, on the simulated path and at the end of the sandboxed path. The path of the
v2 actions and the early failures of the sandboxed path submit nothing.

## Main definitions

- `acknowledged`, `submitted` — the acknowledged updates and the submissions of a step
- `Executor.FactsSubmitted` — every acknowledged step has its facts
- `Executor.Emits` — the step takes a path that submits facts

## Main results

- `Executor.reports_runStep` — what one step reports
- `facts_submitted_iff` — which runs submit the facts of all acknowledged steps
-/

namespace RunbookPlatform

open Interaction Interaction.Comp

-- ════════════════════════════════════════════════════════════════════════
-- Reports of a run
-- ════════════════════════════════════════════════════════════════════════

/-- The update of the step that the event acknowledges. -/
def CallEvent.acknowledged? (step : ClaimedStep) : CallEvent → Option StepUpdateRequest
  | ⟨.updateStep _ id _ update, .ok _⟩ => if id = step.id then some update else none
  | _ => none

/-- The result that the event submits for the step. -/
def CallEvent.submitted? (step : ClaimedStep) : CallEvent → Option VerificationResultRequest
  | ⟨.submitVerificationResult _ _ _ result, _⟩ =>
    if result.stepKey = step.stepKey then some result else none
  | _ => none

/-- The acknowledged updates of the step. -/
def acknowledged (step : ClaimedStep) (t : List CallEvent) : List StepUpdateRequest :=
  t.filterMap (CallEvent.acknowledged? step)

/-- The submissions for the step. -/
def submitted (step : ClaimedStep) (t : List CallEvent) : List VerificationResultRequest :=
  t.filterMap (CallEvent.submitted? step)

/-- The workspace of the step was made. -/
def WorkspaceMade (step : ClaimedStep) (t : List CallEvent) : Prop :=
  ∃ spec, spec.stepId = step.id ∧ (⟨.mkdirs spec, .ok ()⟩ : CallEvent) ∈ t

/-- The outcome of a step that ended with this status. -/
def StepStatus.outcome (status : StepStatus) : CheckOutcome :=
  if status = .succeeded then .passed else .failed

variable {step other : ClaimedStep} {t t₁ t₂ : List CallEvent}

@[simp] theorem acknowledged_append :
    acknowledged step (t₁ ++ t₂) = acknowledged step t₁ ++ acknowledged step t₂ :=
  List.filterMap_append

@[simp] theorem submitted_append :
    submitted step (t₁ ++ t₂) = submitted step t₁ ++ submitted step t₂ :=
  List.filterMap_append

@[simp] theorem workspaceMade_append :
    WorkspaceMade step (t₁ ++ t₂) ↔ WorkspaceMade step t₁ ∨ WorkspaceMade step t₂ := by
  simp only [WorkspaceMade, List.mem_append, and_or_left, exists_or]

/-- The run says nothing of the step. -/
structure Unreported (step : ClaimedStep) (t : List CallEvent) : Prop where
  acknowledged : acknowledged step t = []
  submitted : submitted step t = []
  made : ¬WorkspaceMade step t

/-- The call says nothing of the step. -/
def Call.Spares (step : ClaimedStep) : Call → Prop
  | updateStep _ id _ _ => id ≠ step.id
  | submitVerificationResult _ _ _ result => result.stepKey ≠ step.stepKey
  | mkdirs spec => spec.stepId ≠ step.id
  | _ => True

theorem unreported_of_spares (h : ∀ event ∈ t, event.1.Spares step) : Unreported step t := by
  refine ⟨List.filterMap_eq_nil_iff.2 fun event hmem => ?_,
    List.filterMap_eq_nil_iff.2 fun event hmem => ?_, ?_⟩
  · have hspares := h event hmem
    rw [CallEvent.acknowledged?.eq_def]
    split
    · exact if_neg hspares
    · rfl
  · have hspares := h event hmem
    rw [CallEvent.submitted?.eq_def]
    split
    · exact if_neg hspares
    · rfl
  · rintro ⟨spec, hid, hmem⟩
    exact h _ hmem hid

theorem Call.IsNeutral.spares {c : Call} (h : c.IsNeutral) : c.Spares step := by
  cases c <;> first | exact h.elim | trivial

theorem Call.IsFrame.spares {c : Call} (h : c.IsFrame) : c.Spares step := by
  cases c <;> first | exact h.elim | trivial

theorem Call.IsWork.spares {c : Call} {id : ℕ} (h : c.IsWork id) (hid : id ≠ step.id) :
    c.Spares step := by
  cases c
  case mkdirs spec => exact fun heq => hid ((show spec.stepId = id from h).symm.trans heq)
  all_goals first | exact h.elim | trivial

theorem acknowledged_of_work {id : ℕ} (h : ∀ event ∈ t, event.1.IsWork id) :
    acknowledged step t = [] := by
  refine List.filterMap_eq_nil_iff.2 fun event hmem => ?_
  have hwork := h event hmem
  rw [CallEvent.acknowledged?.eq_def]
  split
  · exact hwork.elim
  · rfl

theorem submitted_of_work {id : ℕ} (h : ∀ event ∈ t, event.1.IsWork id) :
    submitted step t = [] := by
  refine List.filterMap_eq_nil_iff.2 fun event hmem => ?_
  have hwork := h event hmem
  rw [CallEvent.submitted?.eq_def]
  split
  · exact hwork.elim
  · rfl

-- ════════════════════════════════════════════════════════════════════════
-- Reports of a step
-- ════════════════════════════════════════════════════════════════════════

namespace Executor

variable (x : Executor)

/-- The step is acknowledged once at most, and no facts follow. -/
def ReportsNothing (step : ClaimedStep) (t : List CallEvent) : Prop :=
  acknowledged step t = [] ∨
    ∃ update, acknowledged step t = [update] ∧ submitted step t = []

/-- The step is acknowledged once at most, and its facts follow. -/
def ReportsFacts (step : ClaimedStep) (t : List CallEvent) : Prop :=
  acknowledged step t = [] ∨
    ∃ update, acknowledged step t = [update] ∧ ∃ exitCode artifacts, submitted step t =
      (x.matchingKeys step).map (verificationResult step update.status.outcome exitCode artifacts)

/-- The step takes a path that submits facts: it has no action, and in the sandbox its type
is supported, its command is not blank and its workspace is made. -/
def Emits (step : ClaimedStep) (t : List CallEvent) : Prop :=
  step.actionSnapshot = none ∧ (x.isSandboxed = true →
    supportedSandboxStepTypes.contains step.stepType = true ∧ strip step.command ≠ "" ∧
      WorkspaceMade step t)

/-- The facts of the step follow its acknowledgement when it emits them. -/
def Reports (step : ClaimedStep) (t : List CallEvent) : Prop :=
  (x.Emits step t → x.ReportsFacts step t) ∧ (¬x.Emits step t → ReportsNothing step t)

variable {x : Executor} {α : Type}

theorem ReportsNothing.work_append {id : ℕ} (h₁ : ∀ event ∈ t₁, event.1.IsWork id)
    (h₂ : ReportsNothing step t₂) : ReportsNothing step (t₁ ++ t₂) := by
  rw [ReportsNothing, acknowledged_append, submitted_append, acknowledged_of_work h₁,
    submitted_of_work h₁]
  exact h₂

theorem ReportsFacts.work_append {id : ℕ} (h₁ : ∀ event ∈ t₁, event.1.IsWork id)
    (h₂ : x.ReportsFacts step t₂) : x.ReportsFacts step (t₁ ++ t₂) := by
  rw [ReportsFacts, acknowledged_append, submitted_append, acknowledged_of_work h₁,
    submitted_of_work h₁]
  exact h₂

/-- Work may come before a report without facts. -/
theorem reportsNothing_bind {y : Task α} {β : Type} {f : α → Task β}
    (hy : y.Always (Call.IsWork step.id)) (hf : ∀ a, (f a).Traces (ReportsNothing step)) :
    (y >>= f).Traces (ReportsNothing step) :=
  .bind (fun _ _ => ReportsNothing.work_append) (.inl rfl) hy fun a _ _ => hf a

/-- Work may come before a report with facts. -/
theorem reportsFacts_bind {y : Task α} {β : Type} {f : α → Task β}
    (hy : y.Always (Call.IsWork step.id)) (hf : ∀ a, (f a).Traces (x.ReportsFacts step)) :
    (y >>= f).Traces (x.ReportsFacts step) :=
  .bind (fun _ _ => ReportsFacts.work_append) (.inl rfl) hy fun a _ _ => hf a

theorem acknowledged_updateStep (update : StepUpdateRequest) (answer : Except HttpError Unit) :
    acknowledged step [⟨.updateStep x.execution.id step.id x.claimToken update, answer⟩] =
      if answer.isOk then [update] else [] := by
  cases answer with
  | ok _ => simp [acknowledged, CallEvent.acknowledged?, Except.isOk, Except.toBool]
  | error e => rfl

/-- A step that is refused reports no facts. -/
theorem reportsNothing_failStep (errorMessage failureKind : String) :
    (x.failStep step errorMessage failureKind).Traces (ReportsNothing step) := by
  intro t r hrun
  obtain ⟨answer, rfl, -⟩ := runs_failStep.1 hrun
  rw [ReportsNothing, acknowledged_updateStep]
  cases answer with
  | ok _ => exact .inr ⟨_, rfl, rfl⟩
  | error e => exact .inl rfl

/-- **Submissions** are made one after another, whatever is answered. -/
theorem runs_submitResults {change : ℕ} {results : List VerificationResultRequest}
    {r : Except Exn Unit} (hrun : (x.submitResults change results).Runs t r)
    (step : ClaimedStep) (h : ∀ result ∈ results, result.stepKey = step.stepKey) :
    acknowledged step t = [] ∧ submitted step t = results ∧ ¬WorkspaceMade step t := by
  induction results generalizing t with
  | nil =>
    obtain ⟨rfl, -⟩ := hrun
    exact ⟨rfl, rfl, fun ⟨_, _, hmem⟩ => nomatch hmem⟩
  | cons result results ih =>
    obtain ⟨answer, t', rfl, hrest⟩ := hrun
    have hlater : (x.submitResults change results).Runs t' r := by
      cases answer <;> exact hrest
    obtain ⟨hacknowledged, hsubmitted, hmade⟩ := ih hlater fun result hmem =>
      h result (List.mem_cons_of_mem _ hmem)
    refine ⟨hacknowledged, ?_, fun ⟨spec, hid, hmem⟩ => hmade ⟨spec, hid, by simpa using hmem⟩⟩
    rw [submitted, List.filterMap_cons_some (b := result)]
    · exact congrArg (result :: ·) hsubmitted
    · exact if_pos (h result List.mem_cons_self)

/-- **A report** with the facts of the step. -/
theorem reportsFacts_reportStep {change : ChangeFields} (hchange : x.execution.change = some change)
    {update : StepUpdateRequest} {outcome : CheckOutcome}
    (houtcome : update.status.outcome = outcome) (exitCode : ℤ)
    (artifacts : List ArtifactUploadResponse) :
    (x.reportStep step update
      (x.emitStepVerificationFacts step outcome exitCode artifacts)).Traces
        (x.ReportsFacts step) := by
  intro t r hrun
  rcases runs_reportStep.1 hrun with ⟨e, rfl, -⟩ | ⟨t', rfl, hfacts⟩
  · exact .inl rfl
  have hsubmits : ∃ r, (x.submitResults change.changeRecordId ((x.matchingKeys step).map
      (verificationResult step outcome exitCode artifacts))).Runs t' r := by
    rw [emitStepVerificationFacts, hchange] at hfacts
    rcases runs_bind.1 hfacts with ⟨e, -, h⟩ | ⟨_, t₁, t₂, rfl, h, rfl, -⟩
    · exact ⟨_, h⟩
    · rw [List.append_nil]
      exact ⟨_, h⟩
  obtain ⟨r', hsubmits⟩ := hsubmits
  obtain ⟨hacknowledged, hsubmitted, -⟩ := runs_submitResults hsubmits step (by
    intro result hmem
    obtain ⟨item, -, rfl⟩ := List.mem_map.1 hmem
    rfl)
  rw [ReportsFacts, ← List.singleton_append, acknowledged_append, submitted_append,
    acknowledged_updateStep, hacknowledged, hsubmitted, ← houtcome]
  exact .inr ⟨update, rfl, exitCode, artifacts, rfl⟩

-- ════════════════════════════════════════════════════════════════════════
-- The three paths
-- ════════════════════════════════════════════════════════════════════════

/-- **An action** reports no facts. -/
theorem reportsNothing_executeActionV2 (snapshot : ActionSnapshot) :
    (x.executeActionV2 step snapshot).Traces (ReportsNothing step) := by
  refine reportsNothing_bind .ofExcept fun prepared => ?_
  cases prepared with
  | error refusal => exact reportsNothing_failStep _ _
  | ok handler =>
    refine reportsNothing_bind (.request trivial) fun _ =>
      reportsNothing_bind (handler.always_work _) fun result =>
        reportsNothing_bind (.request trivial) fun _ => ?_
    intro t r hrun
    rcases runs_reportStep.1 hrun with ⟨e, rfl, -⟩ | ⟨_, rfl, rfl, -⟩
    · exact .inl rfl
    · rw [ReportsNothing, acknowledged_updateStep]
      exact .inr ⟨_, rfl, rfl⟩

theorem work_uploadStepOutputs (stdout stderr : Bytes) :
    (x.uploadStepOutputs step stdout stderr).Always (Call.IsWork step.id) :=
  (always_uploadStepOutputs _ _).mono fun _ => Call.IsNeutral.isWork

/-- **A simulated step** reports its facts. -/
theorem reportsFacts_executeSimulated {change : ChangeFields}
    (hchange : x.execution.change = some change) :
    (x.executeSimulated step).Traces (x.ReportsFacts step) := by
  refine reportsFacts_bind (.request trivial) fun _ => .ite ?_ ?_
  all_goals
    refine reportsFacts_bind (.request trivial) fun _ =>
      reportsFacts_bind (work_uploadStepOutputs _ _) fun _ => ?_
    exact reportsFacts_reportStep hchange rfl _ _

/-- The sandbox makes the workspace and then has a result, or it raises. -/
theorem runs_sandbox_execute {env : Env} {spec : Sandbox.ExecutionSpec} {t : List CallEvent}
    {r : Except Exn Sandbox.Result} (hspecs : spec.artifactSpecs = [])
    (hrun : (Sandbox.execute env spec).Runs t r) :
    (∃ result, r = .ok result ∧ (⟨.mkdirs spec, .ok ()⟩ : CallEvent) ∈ t) ∨
      (∃ text, r = .error (.sandbox text) ∧
        ∀ other, (⟨.mkdirs other, .ok ()⟩ : CallEvent) ∉ t) := by
  obtain ⟨startedAt, t₁, rfl, hstarted⟩ := runs_request_bind.1 hrun
  obtain ⟨sandboxRunId, t₂, rfl, hnamed⟩ := runs_request_bind.1 hstarted
  obtain ⟨made, t₃, rfl, hmade⟩ := runs_request_bind.1 hnamed
  cases made with
  | error text =>
    obtain ⟨rfl, rfl⟩ := hmade
    exact .inr ⟨_, rfl, by simp⟩
  | ok _ =>
    left
    obtain ⟨ended, t₄, rfl, hended⟩ := runs_request_bind.1 hmade
    have hresult : ∃ result, r = .ok result := by
      cases ended with
      | error text =>
        obtain ⟨_, _, rfl, rfl, rfl⟩ := hended
        exact ⟨_, rfl⟩
      | ok ended =>
        obtain ⟨finishedAt, t₅, rfl, hfinished⟩ := runs_request_bind.1 hended
        simp only [hspecs, or_true, if_true] at hfinished
        exact ⟨_, hfinished.2⟩
    obtain ⟨result, rfl⟩ := hresult
    exact ⟨result, rfl, by simp⟩

/-- **The end of a sandboxed step** reports its facts. -/
theorem reportsFacts_reportSandboxed {change : ChangeFields}
    (hchange : x.execution.change = some change) (settings : RunnerSettings)
    (spec : Sandbox.ExecutionSpec) (result : Sandbox.Result) :
    (x.reportSandboxed settings step spec result).Traces (x.ReportsFacts step) := by
  rw [reportSandboxed]
  obtain ⟨failed, errorMessage, failureKind⟩ :=
    x.sandboxOutcome spec.limits.timeoutSeconds result
  refine reportsFacts_bind (work_uploadStepOutputs _ _) fun _ => reportsFacts_bind
    ((always_uploadFiles _ _ _ _ _).mono fun _ => Call.IsNeutral.isWork) fun _ => ?_
  have hreport (artifacts : List ArtifactUploadResponse) (update : StepUpdateRequest)
      (hstatus : update.status = if failed then .failed else .succeeded) :
      (x.reportStep step update (x.emitStepVerificationFacts step
        (if failed then .failed else .passed) (result.exitCode.getD (if failed then 1 else 0))
        artifacts)).Traces (x.ReportsFacts step) := by
    refine reportsFacts_reportStep hchange ?_ _ _
    rw [hstatus]
    cases failed <;> rfl
  exact .ite (reportsFacts_bind (.request trivial) fun _ => hreport _ _ rfl) (hreport _ _ rfl)

theorem reports_of_work (h : ∀ event ∈ t, event.1.IsWork step.id) : x.Reports step t :=
  ⟨fun _ => .inl (acknowledged_of_work h), fun _ => .inl (acknowledged_of_work h)⟩

/-- Calls that spare the step may come before its report. -/
theorem Reports.append_left (h₁ : Unreported step t₁) (h₂ : x.Reports step t₂) :
    x.Reports step (t₁ ++ t₂) := by
  rw [Reports, Emits, ReportsFacts, ReportsNothing, workspaceMade_append, or_iff_right h₁.made,
    acknowledged_append, submitted_append, h₁.acknowledged, h₁.submitted]
  exact h₂

/-- Calls that spare the step may come after its report. -/
theorem Reports.append_right (h₁ : x.Reports step t₁) (h₂ : Unreported step t₂) :
    x.Reports step (t₁ ++ t₂) := by
  rw [Reports, Emits, ReportsFacts, ReportsNothing, workspaceMade_append, or_iff_left h₂.made,
    acknowledged_append, submitted_append, h₂.acknowledged, h₂.submitted, List.append_nil,
    List.append_nil]
  exact h₁

theorem unreported_of_neutral (h : ∀ event ∈ t, event.1.IsNeutral) : Unreported step t :=
  unreported_of_spares fun event hmem => (h event hmem).spares

/-- The guarded execution of `runSandboxed` has a result exactly when the workspace is made. -/
theorem runs_guarded_execute {env : Env} {spec : Sandbox.ExecutionSpec}
    {r : Except Exn (Except String Sandbox.Result)} (hspecs : spec.artifactSpecs = [])
    (hrun : ((Except.ok <$> Sandbox.execute env spec).tryCatch fun
      | .sandbox text | .sandboxValidation text => pure (.error text)
      | e => .fail e : Task (Except String Sandbox.Result)).Runs t r) :
    (∀ event ∈ t, event.1.IsWork spec.stepId) ∧
      ((∃ result, r = .ok (.ok result) ∧ (⟨.mkdirs spec, .ok ()⟩ : CallEvent) ∈ t) ∨
        (∃ text, r = .ok (.error text) ∧
          ∀ other, (⟨.mkdirs other, .ok ()⟩ : CallEvent) ∉ t)) := by
  have hwork : (Sandbox.execute env spec).Always _ := always_sandbox_execute spec
  rcases runs_tryCatch.1 hrun with ⟨answer, rfl, hexecute⟩ | ⟨e, t₁, t₂, rfl, hexecute, hcaught⟩
  · rcases runs_bind.1 hexecute with ⟨_, heq, -⟩ | ⟨result, t₁, _, rfl, hresult, rfl, heq⟩
    · cases heq
    · cases heq
      rw [List.append_nil]
      refine ⟨hwork _ _ hresult, .inl ⟨result, rfl, ?_⟩⟩
      rcases runs_sandbox_execute hspecs hresult with ⟨_, -, hmade⟩ | ⟨_, heq, -⟩
      · exact hmade
      · cases heq
  · rcases runs_bind.1 hexecute with ⟨_, heq, hraised⟩ | ⟨_, _, _, -, -, -, heq⟩
    · cases heq
      rcases runs_sandbox_execute hspecs hraised with ⟨_, heq, -⟩ | ⟨text, heq, hmade⟩
      · cases heq
      · cases heq
        obtain ⟨rfl, rfl⟩ := hcaught
        rw [List.append_nil]
        exact ⟨hwork _ _ hraised, .inr ⟨text, rfl, hmade⟩⟩
    · cases heq

/-- A refusal with a cleanup reports no facts. -/
theorem reportsNothing_refuse (errorMessage failureKind : String) (spec : Sandbox.ExecutionSpec) :
    (x.failStep step errorMessage failureKind >>= fun failed => Sandbox.cleanup spec >>= fun _ =>
      pure failed).Traces fun t => ReportsNothing step t ∧ ¬WorkspaceMade step t := by
  intro t r hrun
  have hmade {t : List CallEvent} (h : ∀ event ∈ t, ∀ spec, event.1 ≠ .mkdirs spec) :
      ¬WorkspaceMade step t := fun ⟨spec, _, hmem⟩ => h _ hmem spec rfl
  rcases runs_bind.1 hrun with ⟨e, -, hfail⟩ | ⟨failed, t₁, _, rfl, hfail, removed, _, rfl, rfl, -⟩
  · obtain ⟨answer, rfl, heq⟩ := runs_failStep.1 hfail
    cases heq
  · refine ⟨?_, ?_⟩
    · have hwork : ∀ event ∈ [(⟨.rmtree spec.workspaceRoot, removed⟩ : CallEvent)],
          event.1.IsWork step.id := by simp [Call.IsWork, Call.IsNeutral]
      rw [ReportsNothing, acknowledged_append, submitted_append, acknowledged_of_work hwork,
        submitted_of_work hwork, List.append_nil, List.append_nil]
      exact reportsNothing_failStep _ _ _ _ hfail
    · obtain ⟨answer, rfl, -⟩ := runs_failStep.1 hfail
      exact hmade (by simp)

/-- **The sandboxed run** reports its facts once the workspace is made. -/
theorem reports_runSandboxed {change : ChangeFields}
    (hchange : x.execution.change = some change) (haction : step.actionSnapshot = none)
    (hsupported : supportedSandboxStepTypes.contains step.stepType = true)
    (hsandboxed : x.isSandboxed = true) (settings : RunnerSettings) {spec : Sandbox.ExecutionSpec}
    (hid : spec.stepId = step.id) (hcommand : spec.command = [step.command])
    (hspecs : spec.artifactSpecs = []) :
    (x.runSandboxed settings step spec).Traces (x.Reports step) := by
  intro t r hrun
  have hnever {t : List CallEvent} (h : ReportsNothing step t) (hmade : ¬x.Emits step t) :
      x.Reports step t := ⟨fun hemits => absurd hemits hmade, fun _ => h⟩
  rcases runs_bind.1 hrun with ⟨e, -, rfl, -⟩ | ⟨_, _, t₂, rfl, ⟨rfl, -⟩, hvalidated⟩
  · exact reports_of_work fun _ h => nomatch h
  rw [List.nil_append]
  split at hvalidated
  · rename_i hinvalid
    refine hnever (reportsNothing_failStep _ _ _ _ hvalidated) fun hemits => ?_
    have hvalid := (validate_eq_ok (u := ()) hcommand).2 (hemits.2 hsandboxed).2.1
    rw [hvalid] at hinvalid
    cases hinvalid
  · obtain ⟨rfl, -⟩ := hvalidated
    exact reports_of_work fun _ h => nomatch h
  rename_i hvalid
  rcases runs_bind.1 hvalidated with ⟨e, heq, hraised⟩ | ⟨answer, t₁, t₃, rfl, hexecute, hafter⟩
  · exact reports_of_work (hid ▸ (runs_guarded_execute hspecs hraised).1)
  obtain ⟨hwork, ⟨result, heq, hmade⟩ | ⟨text, heq, hnone⟩⟩ := runs_guarded_execute hspecs hexecute
  · cases heq
    have hemits : x.Emits step (t₁ ++ t₃) := ⟨haction, fun _ =>
      ⟨hsupported, (validate_eq_ok hcommand).1 hvalid, spec, hid, List.mem_append_left _ hmade⟩⟩
    refine ⟨fun _ => ?_, fun h => absurd hemits h⟩
    exact (reportsFacts_reportSandboxed hchange _ _ _ _ _ hafter).work_append hwork
  · cases heq
    obtain ⟨hnothing, hunmade⟩ := reportsNothing_refuse _ _ _ _ _ hafter
    refine hnever (hnothing.work_append hwork) fun hemits => ?_
    obtain ⟨other, hother, hmem⟩ := (hemits.2 hsandboxed).2.2
    rcases List.mem_append.1 hmem with hmem | hmem
    · exact hnone _ hmem
    · exact hunmade ⟨other, hother, hmem⟩

/-- **A sandboxed step** reports its facts once its workspace is made. -/
theorem reports_executeSandboxed {change : ChangeFields}
    (hchange : x.execution.change = some change) (haction : step.actionSnapshot = none)
    (hsandboxed : x.isSandboxed = true) (settings : RunnerSettings) :
    (x.executeSandboxed settings step).Traces (x.Reports step) := by
  intro t r hrun
  rw [executeSandboxed] at hrun
  split at hrun
  · rename_i hunsupported
    refine ⟨fun h => ?_, fun _ => reportsNothing_failStep _ _ t r hrun⟩
    rw [(h.2 hsandboxed).1] at hunsupported
    cases hunsupported
  rename_i hsupported
  rcases runs_bind.1 hrun with ⟨e, -, hraised⟩ | ⟨root, t₁, t₂, rfl, hroot, hrest⟩
  · exact reports_of_work fun event hmem =>
      (always_buildWorkspacePath _ _ _ _ _ hraised event hmem).isWork
  · refine .append_left (unreported_of_neutral (always_buildWorkspacePath _ _ _ _ _ hroot)) ?_
    exact reports_runSandboxed hchange haction (by simpa using hsupported) hsandboxed settings rfl
      rfl rfl _ _ hrest

/-- **A command** reports its facts when it emits them. -/
theorem reports_executeCommand {change : ChangeFields}
    (hchange : x.execution.change = some change) :
    (x.executeCommand step).Traces (x.Reports step) := by
  rw [executeCommand]
  have hsimulated (haction : step.actionSnapshot = none) (h : x.isSandboxed = false) :
      (x.executeSimulated step).Traces (x.Reports step) := by
    refine (reportsFacts_executeSimulated hchange).mono fun t hfacts => ⟨fun _ => hfacts, ?_⟩
    refine fun hemits => absurd ⟨haction, fun hsandboxed => ?_⟩ hemits
    exact absurd hsandboxed (by simp [h])
  split
  · rename_i haction
    refine (reportsNothing_executeActionV2 _).mono fun t h => ⟨fun hemits => ?_, fun _ => h⟩
    rw [hemits.1] at haction
    cases haction
  · rename_i settings haction hsettings
    split
    · rename_i hmode
      refine reports_executeSandboxed hchange haction ?_ settings
      rw [isSandboxed, hsettings]
      exact decide_eq_true hmode
    · rename_i hmode
      refine hsimulated haction ?_
      rw [isSandboxed, hsettings]
      exact decide_eq_false hmode
  · rename_i haction hsettings
    exact hsimulated haction (by rw [isSandboxed, hsettings])

theorem reports_waitForApproval (h : (x.executeCommand step).Traces (x.Reports step)) (n : ℕ) :
    (x.waitForApproval step n).Traces (x.Reports step) := by
  have hnil : x.Reports step [] := reports_of_work fun _ h => nomatch h
  have hspared {α β : Type} {y : Task α} {f : α → Task β} (hy : y.Always (Call.Spares step))
      (hf : ∀ a, (f a).Traces (x.Reports step)) : (y >>= f).Traces (x.Reports step) :=
    .bind (fun _ _ h₁ h₂ => .append_left (unreported_of_spares h₁) h₂) hnil hy fun a _ _ => hf a
  induction n with
  | zero => exact .fail hnil
  | succ n ih =>
    refine hspared (.request trivial) fun _ => .ite (.pure hnil) (hspared ?_ fun answer => ?_)
    · intro t r hrun event hevent
      obtain ⟨answer, rfl, -⟩ := runs_pollStep.1 hrun
      cases List.mem_singleton.1 hevent
      trivial
    match answer with
    | none | some .wait => exact ih
    | some .run => exact h
    | some .fail => exact .pure hnil

/-- **A step** reports its facts when it emits them. -/
theorem reports_runStep {change : ChangeFields} (hchange : x.execution.change = some change) :
    (x.runStep step).Traces (x.Reports step) := by
  have hnil : x.Reports step [] := reports_of_work fun _ h => nomatch h
  refine .bind (P := Call.Spares step) (fun _ _ h₁ h₂ => .append_left (unreported_of_spares h₁) h₂)
    hnil ?_ fun answer _ _ => ?_
  · intro t r hrun event hevent
    obtain ⟨answer, rfl, -⟩ := runs_startStep.1 hrun
    cases List.mem_singleton.1 hevent
    trivial
  match answer with
  | some .run => exact reports_executeCommand hchange
  | some .waitForApproval => exact reports_waitForApproval (reports_executeCommand hchange) _
  | none | some .blocked => exact .pure hnil

-- ════════════════════════════════════════════════════════════════════════
-- Other steps
-- ════════════════════════════════════════════════════════════════════════

theorem spares_of_own {c : Call} (h : c.IsOwn step) (hid : step.id ≠ other.id)
    (hkey : step.stepKey ≠ other.stepKey) : c.Spares other := by
  cases c
  case updateStep => exact fun heq => hid (Eq.trans (Eq.symm h) heq)
  case submitVerificationResult => exact fun heq => hkey (Eq.trans (Eq.symm h) heq)
  all_goals exact Call.IsWork.spares h hid

/-- **A step** says nothing of the others. -/
theorem spares_runStep (hid : step.id ≠ other.id) (hkey : step.stepKey ≠ other.stepKey) :
    (x.runStep step).Always (Call.Spares other) := by
  have hcommand : (x.executeCommand step).Always (Call.Spares other) :=
    own_executeCommand.mono fun c h => spares_of_own h hid hkey
  have hwait (n : ℕ) : (x.waitForApproval step n).Always (Call.Spares other) := by
    induction n with
    | zero => exact .fail
    | succ n ih =>
      refine .bind (.request trivial) fun _ => .ite .pure (.bind ?_ fun answer => ?_)
      · exact always_catchHttp (.bind (.bind (.request trivial) always_raiseHttp) fun _ => .pure)
          fun _ => .pure
      match answer with
      | none | some .wait => exact ih
      | some .run => exact hcommand
      | some .fail => exact .pure
  refine .bind ?_ fun answer => ?_
  · exact always_catchHttp (.bind (.bind (.request trivial) always_raiseHttp) fun _ => .pure)
      fun _ => .pure
  match answer with
  | some .run => exact hcommand
  | some .waitForApproval => exact hwait _
  | none | some .blocked => exact .pure

-- ════════════════════════════════════════════════════════════════════════
-- The loop
-- ════════════════════════════════════════════════════════════════════════

/-- Two steps of one execution. -/
def Distinct (step other : ClaimedStep) : Prop :=
  step.id ≠ other.id ∧ step.stepKey ≠ other.stepKey

theorem spares_runSteps {steps : List ClaimedStep} (h : ∀ step ∈ steps, Distinct step other) :
    (x.runSteps steps).Always (Call.Spares other) := by
  induction steps with
  | nil => exact .pure
  | cons step steps ih =>
    have hrest := ih fun later hmem => h later (List.mem_cons_of_mem _ hmem)
    obtain ⟨hid, hkey⟩ := h step List.mem_cons_self
    refine .bind (.request trivial) fun _ => .ite .pure ?_
    split
    · exact hrest
    · exact hrest
    · exact .pure
    · exact .bind (spares_runStep hid hkey) fun _ => .ite .pure hrest

/-- **The loop** reports the facts of every step that emits them. -/
theorem reports_runSteps {change : ChangeFields} (hchange : x.execution.change = some change)
    {steps : List ClaimedStep} (hdistinct : steps.Pairwise Distinct) (hstep : step ∈ steps) :
    (x.runSteps steps).Traces (x.Reports step) := by
  have hnil : x.Reports step [] := reports_of_work fun _ h => nomatch h
  have hspared {α β : Type} {y : Task α} {f : α → Task β} (hy : y.Always (Call.Spares step))
      (hf : ∀ a, (f a).Traces (x.Reports step)) : (y >>= f).Traces (x.Reports step) :=
    .bind (fun _ _ h₁ h₂ => .append_left (unreported_of_spares h₁) h₂) hnil hy fun a _ _ => hf a
  induction steps with
  | nil => cases hstep
  | cons first rest ih =>
    obtain ⟨hfirst, hlater⟩ := List.pairwise_cons.1 hdistinct
    refine hspared (.request trivial) fun _ => .ite (.pure hnil) ?_
    rcases List.mem_cons.1 hstep with rfl | hmem
    · -- its own turn, and the steps after it say nothing of it
      have hrest : (x.runSteps rest).Always (Call.Spares step) := by
        refine spares_runSteps fun later hmem => ?_
        exact ⟨(hfirst later hmem).1.symm, (hfirst later hmem).2.symm⟩
      have hquiet : (x.runSteps rest).Traces (x.Reports step) := fun t r hrun =>
        List.append_nil t ▸ .append_left (unreported_of_spares (hrest t r hrun)) hnil
      split
      · exact hquiet
      · exact hquiet
      · exact .pure hnil
      · intro t r hrun
        rcases runs_bind.1 hrun with ⟨e, -, h⟩ | ⟨failed, t₁, t₂, rfl, h₁, h₂⟩
        · exact reports_runStep hchange _ _ h
        · have hafter : Always (Call.Spares step) 
              (if failed then pure .failed else x.runSteps rest) := .ite .pure hrest
          exact (reports_runStep hchange _ _ h₁).append_right
            (unreported_of_spares (hafter _ _ h₂))
    · -- the turn of an earlier step
      have hrest := ih hlater hmem
      obtain ⟨hid, hkey⟩ := hfirst step hmem
      split
      · exact hrest
      · exact hrest
      · exact .pure hnil
      · exact hspared (spares_runStep hid hkey) fun _ => .ite (.pure hnil) hrest

end Executor

-- ════════════════════════════════════════════════════════════════════════
-- Runs
-- ════════════════════════════════════════════════════════════════════════

/-- What the control plane promises of a claim: its steps are rows of one execution. -/
structure ClaimedExecution.WellFormed (execution : ClaimedExecution) : Prop where
  ids : (execution.steps.map (·.id)).Nodup
  stepKeys : (execution.steps.map (·.stepKey)).Nodup
  named : ∀ step ∈ execution.steps, step.stepKey ≠ ""

/-- The verification keys that the claim lists for the step. -/
def ClaimedExecution.listedKeys (execution : ClaimedExecution) (step : ClaimedStep) :
    List ClaimedVerificationKey :=
  execution.verificationKeys.filter (·.stepKey = step.stepKey)

namespace Executor

variable (x : Executor)

/-- For every acknowledged update the run submits one result for each listed key of the step,
with the outcome of the step. -/
def FactsSubmitted (t : List CallEvent) : Prop :=
  ∀ step ∈ x.execution.steps, ∀ update ∈ acknowledged step t,
    (submitted step t).map (fun result =>
        (result.checkKey, result.verificationKey, result.checkType, result.outcome)) =
      (x.execution.listedKeys step).map fun item =>
        (item.checkKey, item.verificationKey, item.checkType, update.status.outcome)

variable {x : Executor}

theorem matchingKeys_eq_listedKeys (h : step.stepKey ≠ "") :
    x.matchingKeys step = x.execution.listedKeys step := by
  refine List.filter_congr fun item _ => ?_
  by_cases heq : item.stepKey = step.stepKey
  · simp [heq, h]
  · simp [heq]

theorem steps_pairwise_distinct (h : x.execution.WellFormed) : x.steps.Pairwise Distinct := by
  have hperm : x.steps.Perm x.execution.steps := List.perm_insertionSort _ _
  have hids := (hperm.map (·.id)).nodup_iff.2 h.ids
  have hkeys := (hperm.map (·.stepKey)).nodup_iff.2 h.stepKeys
  rw [List.Nodup, List.pairwise_map] at hids hkeys
  exact hids.and hkeys

end Executor

/-- **A run** submits the facts of all acknowledged steps exactly when each of them has no
listed key or takes a path that submits facts. -/
theorem facts_submitted_iff {x : Executor} {change : ChangeFields}
    (hchange : x.execution.change = some change) (hclaim : x.execution.WellFormed)
    {r : Except Exn Unit} (hrun : x.run.Runs t r) :
    x.FactsSubmitted t ↔ ∀ step ∈ x.execution.steps, acknowledged step t ≠ [] →
      x.execution.listedKeys step = [] ∨ x.Emits step t := by
  have hreports {step : ClaimedStep} (hstep : step ∈ x.execution.steps) : x.Reports step t := by
    obtain ⟨before, inner, after, rfl, hframe, hinner⟩ := x.run_wraps t r hrun
    have hloop : x.Reports step inner := by
      rcases hinner with rfl | ⟨r', hinner⟩
      · exact Executor.reports_of_work fun _ h => nomatch h
      · exact Executor.reports_runSteps hchange (Executor.steps_pairwise_distinct hclaim)
          ((List.mem_insertionSort _).2 hstep) inner r' hinner
    have hspares : ∀ event ∈ before ++ after, event.1.Spares step := fun event hmem =>
      (hframe event hmem).spares
    refine (hloop.append_left (unreported_of_spares ?_)).append_right (unreported_of_spares ?_)
    · exact fun event hmem => hspares event (List.mem_append_left _ hmem)
    · exact fun event hmem => hspares event (List.mem_append_right _ hmem)
  constructor
  · intro hsubmitted step hstep hacknowledged
    by_cases hemits : x.Emits step t
    · exact .inr hemits
    left
    rcases (hreports hstep).2 hemits with hnone | ⟨update, hupdate, hnothing⟩
    · exact absurd hnone hacknowledged
    · have hall := hsubmitted step hstep update (by simp [hupdate])
      rw [hnothing, List.map_nil] at hall
      exact List.map_eq_nil_iff.1 hall.symm
  · intro h step hstep update hupdate
    by_cases hemits : x.Emits step t
    · rcases (hreports hstep).1 hemits with hnone | ⟨update', hupdate', exitCode, artifacts, hfacts⟩
      · rw [hnone] at hupdate
        cases hupdate
      · rw [hupdate', List.mem_singleton] at hupdate
        subst hupdate
        rw [hfacts, Executor.matchingKeys_eq_listedKeys (hclaim.named step hstep), List.map_map]
        rfl
    · have hlisted := (h step hstep (List.ne_nil_of_mem hupdate)).resolve_right hemits
      rcases (hreports hstep).2 hemits with hnone | ⟨_, -, hnothing⟩
      · rw [hnone] at hupdate
        cases hupdate
      · rw [hlisted, hnothing]
        rfl

/-- A v2 step with a listed verification key. -/
def noticeStep : ClaimedStep where
  id := 0
  position := 1
  stepKey := "notice"
  name := "Notice"
  stepType := "manual_task"
  riskLevel := "low"
  status := .pending
  actionSnapshot := some { type := "manual_task", version := "pilot.v1" }

/-- Its claim, bound to a change. -/
def noticeClaim : Executor :=
  .sample ⟨0, [noticeStep], "live", some ⟨0, "token", "", ""⟩,
    [⟨"noticed", "notice-key", "notice", "runner_step"⟩], none⟩

theorem noticeClaim_wellFormed : noticeClaim.execution.WellFormed where
  ids := List.nodup_singleton _
  stepKeys := List.nodup_singleton _
  named := by decide

/-- The facts of a run in which everything succeeds. -/
theorem facts_submitted_noticeClaim :
    noticeClaim.FactsSubmitted (noticeClaim.run.play Call.succeed).1 ↔
      ∀ step ∈ noticeClaim.execution.steps,
        acknowledged step (noticeClaim.run.play Call.succeed).1 ≠ [] →
          noticeClaim.execution.listedKeys step = [] ∨
            noticeClaim.Emits step (noticeClaim.run.play Call.succeed).1 :=
  facts_submitted_iff rfl noticeClaim_wellFormed (play_runs _ _)

/-- The step succeeds and is acknowledged, and the listed key gets no result. -/
theorem noticeClaim_without_facts :
    noticeClaim.execution.WellFormed ∧
      ∃ t r, noticeClaim.run.Runs t r ∧
        (acknowledged noticeStep t).map (·.status) = [.succeeded] ∧
        (noticeClaim.execution.listedKeys noticeStep).length = 1 ∧
        submitted noticeStep t = [] ∧ ¬noticeClaim.FactsSubmitted t := by
  have hacknowledged : (acknowledged noticeStep (noticeClaim.run.play Call.succeed).1).map
      (·.status) = [.succeeded] := by decide
  have hsubmitted : submitted noticeStep (noticeClaim.run.play Call.succeed).1 = [] :=
    List.length_eq_zero_iff.1 (by decide)
  refine ⟨noticeClaim_wellFormed, _, _, play_runs Call.succeed _, hacknowledged, rfl, hsubmitted,
    fun hfacts => ?_⟩
  obtain ⟨update, hupdate, -⟩ : ∃ update,
      update ∈ acknowledged noticeStep (noticeClaim.run.play Call.succeed).1 ∧
        update.status = .succeeded :=
    List.mem_map.1 (hacknowledged ▸ List.mem_singleton_self _)
  have hall := hfacts noticeStep (List.mem_singleton_self _) update hupdate
  rw [hsubmitted] at hall
  cases hall

end RunbookPlatform
