import RunbookPlatform.Executions.Payload
import RunbookPlatform.Runner.Effects

/-!
# Dry runs

Every handler looks at the execution mode before it works; the sandboxed v1 path does not.
A dry run therefore starts a process exactly when a v1 step with a command comes first after
steps that pass.

## Main definitions

- `Call.IsHarmless` — no process, and no request but to the control plane
- `Executor.ReachesProcess` — a v1 command comes first after steps that pass
- `DryRunOf` — a claimed dry run of an accepted workflow

## Main results

- `ActionHandler.execute_dryRun` — a handler does nothing in a dry run
- `dryRun_harmless_iff` — which dry runs are harmless
-/

namespace RunbookPlatform

open Interaction Interaction.Comp

/-- The call starts no process and sends no request but to the control plane. -/
def Call.IsHarmless : Call → Prop
  | popen .. | httpRequest .. => False
  | _ => True

theorem Call.IsNeutral.isHarmless {c : Call} (h : c.IsNeutral) : c.IsHarmless := by
  cases c <;> trivial

theorem Call.IsFrame.isHarmless {c : Call} (h : c.IsFrame) : c.IsHarmless := by
  cases c <;> trivial

-- ════════════════════════════════════════════════════════════════════════
-- Handlers
-- ════════════════════════════════════════════════════════════════════════

/-- The handler passes in a dry run. -/
def ActionHandler.PassesDryRun : ActionHandler → ActionContext → Prop
  | manualTask, _ | approvalGate, _ | httpRequest, _ => True
  | shellCommand, ctx => ∃ settings, ctx.settings = some settings ∧
      ¬(ShellCommand.commandMode ctx.params = .str "shell" ∧
        (ctx.params.get? "commandMode").isSome ∧ settings.sandboxAllowShell = false)
  | artifactAssertion, ctx => ∃ decl,
      (ctx.step.artifacts.reverse.find? fun decl =>
        ctx.params.getD "artifact_key" (.str "") = .str decl.key) = some decl ∧
      ¬((ctx.params.getD "expected_kind" .null).truthy ∧ decl.kind ≠ "" ∧
        ctx.params.getD "expected_kind" .null ≠ .str decl.kind) ∧
      ¬((ctx.params.getD "expected_mime_type" .null).truthy ∧ decl.mimeType ≠ "" ∧
        ctx.params.getD "expected_mime_type" .null ≠ .str decl.mimeType)

/-- **Handlers** make no call in a dry run. -/
theorem ActionHandler.execute_dryRun (env : Env) (host : Host) (handler : ActionHandler)
    {ctx : ActionContext}
    (hmode : ctx.execution.executionMode = "dry_run") :
    ∃ r, handler.execute env host ctx = .ofExcept r ∧
      (handler.PassesDryRun ctx → r = .ok .done) ∧
      (¬handler.PassesDryRun ctx → ∀ result, r = .ok result → result.status = .failed) := by
  cases handler with
  | manualTask => exact ⟨_, rfl, fun _ => rfl, fun h => absurd trivial h⟩
  | approvalGate => exact ⟨_, rfl, fun _ => rfl, fun h => absurd trivial h⟩
  | httpRequest =>
    refine ⟨.ok .done, ?_, fun _ => rfl, fun h => absurd trivial h⟩
    have hdry : HttpRequest.isDryRun ctx = true := by simp [HttpRequest.isDryRun, hmode]
    exact if_pos hdry
  | shellCommand =>
    cases hsettings : ctx.settings with
    | none =>
      refine ⟨_, by rw [ActionHandler.execute, ShellCommand.execute, hsettings]; rfl, ?_, ?_⟩
      · rintro ⟨settings, h, -⟩
        rw [hsettings] at h
        cases h
      · rintro - result heq
        cases heq
        rfl
    | some settings =>
      by_cases hblocked : ShellCommand.commandMode ctx.params = .str "shell" ∧
        (ctx.params.get? "commandMode").isSome ∧ settings.sandboxAllowShell = false
      · refine ⟨_, by
          rw [ActionHandler.execute, ShellCommand.execute, hsettings]
          exact if_pos hblocked, ?_, ?_⟩
        · rintro ⟨settings', h, hallowed⟩
          rw [hsettings, Option.some.injEq] at h
          exact absurd (h ▸ hblocked) hallowed
        · rintro - result heq
          cases heq
          rfl
      · refine ⟨.ok .done, by
          rw [ActionHandler.execute, ShellCommand.execute, hsettings]
          exact (if_neg hblocked).trans (if_pos hmode), fun _ => rfl, fun h => ?_⟩
        exact absurd ⟨settings, hsettings, hblocked⟩ h
  | artifactAssertion =>
    rw [ActionHandler.execute, ArtifactAssertion.execute]
    cases hdecl : ctx.step.artifacts.reverse.find? fun decl =>
        ctx.params.getD "artifact_key" (.str "") = .str decl.key with
    | none =>
      have hnone : ¬artifactAssertion.PassesDryRun ctx := by
        rintro ⟨decl, h, -⟩
        rw [hdecl] at h
        cases h
      simp only []
      split
      · refine ⟨_, rfl, fun h => absurd h hnone, ?_⟩
        rintro - result ⟨⟩
      · refine ⟨_, rfl, fun h => absurd h hnone, fun _ result heq => ?_⟩
        cases heq
        rfl
    | some decl =>
      simp only []
      split
      · rename_i hkind
        refine ⟨_, rfl, ?_, fun _ result heq => by cases heq; rfl⟩
        rintro ⟨decl', h, hkind', -⟩
        rw [hdecl, Option.some.injEq] at h
        exact absurd (h ▸ hkind) hkind'
      split
      · rename_i hmime
        refine ⟨_, rfl, ?_, fun _ result heq => by cases heq; rfl⟩
        rintro ⟨decl', h, -, hmime'⟩
        rw [hdecl, Option.some.injEq] at h
        exact absurd (h ▸ hmime) hmime'
      · rename_i hkind hmime
        exact ⟨_, rfl, fun _ => rfl, fun h => absurd ⟨decl, hdecl, hkind, hmime⟩ h⟩

-- ════════════════════════════════════════════════════════════════════════
-- Steps
-- ════════════════════════════════════════════════════════════════════════

namespace Executor

variable (x : Executor)

/-- The step starts a process when it runs: a v1 step with a command, in the sandbox. -/
def StartsProcess (step : ClaimedStep) : Prop :=
  step.actionSnapshot = none ∧ ∃ settings, x.settings = some settings ∧
    settings.executionMode = "sandboxed" ∧ settings.sandboxProvider = "local_process" ∧
    supportedSandboxStepTypes.contains step.stepType = true ∧ strip step.command ≠ ""

/-- The action of the step passes in a dry run. -/
def PassesDryRun (step : ClaimedStep) : Prop :=
  ∃ snapshot handler, step.actionSnapshot = some snapshot ∧ step.secretKeys = [] ∧
    lookupHandler snapshot.type snapshot.version = some handler ∧
    handler.validate x.env x.host snapshot.params = .ok () ∧
    handler.PassesDryRun (x.actionContext step)

/-- A step that starts a process comes first after steps that pass. -/
def ReachesProcess : List ClaimedStep → Prop
  | [] => False
  | step :: steps =>
    match step.status with
    | .succeeded | .skipped => ReachesProcess steps
    | .failed => False
    | _ => x.StartsProcess step ∨ x.PassesDryRun step ∧ ReachesProcess steps

variable {x : Executor} {step : ClaimedStep} {snapshot : ActionSnapshot}

theorem prepareAction_ok {handler : ActionHandler} :
    x.prepareAction step snapshot = .ok (.ok handler) ↔
      lookupHandler snapshot.type snapshot.version = some handler ∧
        handler.validate x.env x.host snapshot.params = .ok () ∧ step.secretKeys = [] := by
  rw [prepareAction]
  cases hlookup : lookupHandler snapshot.type snapshot.version with
  | none => simp
  | some found =>
    simp only [Option.some.injEq]
    constructor
    · intro h
      split at h
      · cases h
      · cases h
      · rename_i hvalid
        rw [resolveSecrets] at h
        by_cases hsecrets : step.secretKeys = []
        · rw [if_pos hsecrets] at h
          cases h
          exact ⟨rfl, hvalid, hsecrets⟩
        · rw [if_neg hsecrets] at h
          cases h
    · rintro ⟨rfl, hvalid, hsecrets⟩
      rw [hvalid, resolveSecrets, if_pos hsecrets]

-- ════════════════════════════════════════════════════════════════════════
-- What does no harm
-- ════════════════════════════════════════════════════════════════════════

theorem harmless_failStep (errorMessage failureKind : String) :
    (x.failStep step errorMessage failureKind).Always Call.IsHarmless :=
  always_failStep (fun _ => trivial) _ _

theorem harmless_report (update : StepUpdateRequest) {facts : Task Unit}
    (hfacts : facts.Always Call.IsHarmless) :
    (x.reportStep step update facts).Always Call.IsHarmless :=
  always_reportStep (fun _ => trivial) _ hfacts

/-- **An action** does no harm in a dry run. -/
theorem harmless_executeActionV2 (hmode : x.execution.executionMode = "dry_run") :
    (x.executeActionV2 step snapshot).Always Call.IsHarmless := by
  refine .bind .ofExcept fun prepared => ?_
  cases prepared with
  | error refusal => exact harmless_failStep _ _
  | ok handler =>
    obtain ⟨r, hexecute, -⟩ := handler.execute_dryRun x.env x.host
      (show (x.actionContext step).execution.executionMode = "dry_run" from hmode)
    refine .bind (.request trivial) fun _ => .bind ?_ fun _ => .bind (.request trivial) fun _ =>
      harmless_report _ .pure
    rw [hexecute]
    exact .ofExcept

theorem harmless_facts (outcome : CheckOutcome) (exitCode : ℤ)
    (artifacts : List ArtifactUploadResponse) :
    (x.emitStepVerificationFacts step outcome exitCode artifacts).Always Call.IsHarmless :=
  always_emitStepVerificationFacts (fun _ _ => trivial) _ _ _

theorem harmless_executeSimulated : (x.executeSimulated step).Always Call.IsHarmless := by
  have houtputs (stdout stderr : Bytes) :
      (x.uploadStepOutputs step stdout stderr).Always Call.IsHarmless :=
    (always_uploadStepOutputs _ _).mono fun _ => Call.IsNeutral.isHarmless
  refine .bind (.request trivial) fun _ => .ite ?_ ?_
  all_goals exact .bind (.request trivial) fun _ => .bind (houtputs _ _) fun _ =>
    harmless_report _ (harmless_facts _ _ _)

theorem harmless_executeSandboxed {settings : RunnerSettings}
    (h : ¬(settings.sandboxProvider = "local_process" ∧
      supportedSandboxStepTypes.contains step.stepType = true ∧ strip step.command ≠ "")) :
    (x.executeSandboxed settings step).Always Call.IsHarmless := by
  rw [executeSandboxed]
  split
  · exact harmless_failStep _ _
  rename_i hsupported
  refine .bind ((always_buildWorkspacePath _ _ _).mono fun _ => Call.IsNeutral.isHarmless)
    fun root => .bind_of .ofExcept fun u t hprovider => ?_
  split
  · exact harmless_failStep _ _
  · exact .fail
  · rename_i hvalid
    refine absurd ⟨?_, by simpa using hsupported, (validate_eq_ok rfl).1 hvalid⟩ h
    by_contra hne
    obtain ⟨-, hok⟩ := hprovider
    rw [Sandbox.getProvider, if_neg hne] at hok
    cases hok

/-- **A step** that starts no process does no harm in a dry run. -/
theorem harmless_executeCommand (hmode : x.execution.executionMode = "dry_run")
    (h : ¬x.StartsProcess step) : (x.executeCommand step).Always Call.IsHarmless := by
  rw [executeCommand]
  split
  · exact harmless_executeActionV2 hmode
  · rename_i settings haction hsettings
    split
    · rename_i hsandboxed
      exact harmless_executeSandboxed fun hrest =>
        h ⟨haction, settings, hsettings, hsandboxed, hrest⟩
    · exact harmless_executeSimulated
  · exact harmless_executeSimulated

theorem harmless_poll :
    (catchHttp (some <$> Client.getStepApprovalStatus x.execution.id step.id x.claimToken)
      fun _ => pure none).Always Call.IsHarmless := by
  intro t r hrun event hevent
  obtain ⟨answer, rfl, -⟩ := runs_pollStep.1 hrun
  cases List.mem_singleton.1 hevent
  trivial

theorem harmless_waitForApproval (h : (x.executeCommand step).Always Call.IsHarmless) (n : ℕ) :
    (x.waitForApproval step n).Always Call.IsHarmless := by
  induction n with
  | zero => exact .fail
  | succ n ih =>
    refine .bind (.request trivial) fun cancelled => .ite .pure ?_
    refine .bind harmless_poll fun answer => ?_
    match answer with
    | none | some .wait => exact ih
    | some .run => exact h
    | some .fail => exact .pure

theorem harmless_runStep (hmode : x.execution.executionMode = "dry_run")
    (h : ¬x.StartsProcess step) : (x.runStep step).Always Call.IsHarmless := by
  refine .bind ?_ fun answer => ?_
  · intro t r hrun event hevent
    obtain ⟨answer, rfl, -⟩ := runs_startStep.1 hrun
    cases List.mem_singleton.1 hevent
    trivial
  match answer with
  | some .run => exact harmless_executeCommand hmode h
  | some .waitForApproval => exact harmless_waitForApproval (harmless_executeCommand hmode h) _
  | none | some .blocked => exact .pure

-- ════════════════════════════════════════════════════════════════════════
-- What passes
-- ════════════════════════════════════════════════════════════════════════

theorem returns_failStep (errorMessage failureKind : String) :
    (x.failStep step errorMessage failureKind).Returns (· = true) :=
  .bind fun _ => .pure rfl

/-- **An action** that does not pass fails in a dry run. -/
theorem returns_executeActionV2 (hmode : x.execution.executionMode = "dry_run")
    (haction : step.actionSnapshot = some snapshot) (h : ¬x.PassesDryRun step) :
    (x.executeActionV2 step snapshot).Returns (· = true) := by
  refine .bind_of fun prepared t hrun => ?_
  obtain ⟨-, hprepared⟩ := hrun
  cases prepared with
  | error refusal => exact returns_failStep _ _
  | ok handler =>
    obtain ⟨hlookup, hvalid, hsecrets⟩ := prepareAction_ok.1 hprepared.symm
    have hfails : ¬handler.PassesDryRun (x.actionContext step) := fun hpasses =>
      h ⟨snapshot, handler, haction, hsecrets, hlookup, hvalid, hpasses⟩
    obtain ⟨r, hexecute, -, hfailed⟩ := handler.execute_dryRun x.env x.host
      (show (x.actionContext step).execution.executionMode = "dry_run" from hmode)
    refine .bind fun _ => .bind_of fun result t hrun => .bind fun _ => .bind fun acknowledged => ?_
    rw [hexecute] at hrun
    have hstatus := hfailed hfails result hrun.2.symm
    cases acknowledged with
    | false => exact .pure rfl
    | true => exact .bind fun _ => .pure (decide_eq_true hstatus)

/-- **A sandboxed step** that neither starts a process nor passes fails in a dry run. -/
theorem returns_executeCommand (hmode : x.execution.executionMode = "dry_run")
    (hsandboxed : x.isSandboxed = true) (hstarts : ¬x.StartsProcess step)
    (hpasses : ¬x.PassesDryRun step) : (x.executeCommand step).Returns (· = true) := by
  rw [executeCommand]
  rw [isSandboxed] at hsandboxed
  split
  · rename_i haction
    exact returns_executeActionV2 hmode haction hpasses
  · rename_i settings haction hsettings
    rw [hsettings] at hsandboxed
    rw [if_pos (of_decide_eq_true hsandboxed), executeSandboxed]
    split
    · exact returns_failStep _ _
    rename_i hsupported
    refine .bind fun root => .bind_of fun u t hprovider => ?_
    split
    · exact returns_failStep _ _
    · exact .fail
    · rename_i hvalid
      refine absurd ⟨haction, settings, hsettings, of_decide_eq_true hsandboxed, ?_,
        by simpa using hsupported, (validate_eq_ok rfl).1 hvalid⟩ hstarts
      by_contra hne
      obtain ⟨-, hok⟩ := hprovider
      rw [Sandbox.getProvider, if_neg hne] at hok
      cases hok
  · rename_i hsettings
    rw [hsettings] at hsandboxed
    cases hsandboxed

theorem returns_waitForApproval (h : (x.executeCommand step).Returns (· = true)) (n : ℕ) :
    (x.waitForApproval step n).Returns (· = true) := by
  induction n with
  | zero => exact .fail
  | succ n ih =>
    refine .bind fun cancelled => ?_
    cases cancelled with
    | true => exact .pure rfl
    | false =>
      refine .bind fun answer => ?_
      match answer with
      | none | some .wait => exact ih
      | some .run => exact h
      | some .fail => exact .pure rfl

theorem returns_runStep (h : (x.executeCommand step).Returns (· = true)) :
    (x.runStep step).Returns (· = true) := by
  refine .bind fun answer => ?_
  match answer with
  | some .run => exact h
  | some .waitForApproval => exact returns_waitForApproval h _
  | none | some .blocked => exact .pure rfl

theorem not_reachesProcess_of_not_sandboxed (h : x.isSandboxed = false)
    (steps : List ClaimedStep) : ¬x.ReachesProcess steps := by
  have hstarts (step : ClaimedStep) : ¬x.StartsProcess step := by
    rintro ⟨-, settings, hsettings, hmode, -⟩
    rw [isSandboxed, hsettings] at h
    exact absurd (decide_eq_true hmode) (by simp [h])
  induction steps with
  | nil => exact id
  | cons step steps ih =>
    rw [ReachesProcess]
    split
    · exact ih
    · exact ih
    · exact id
    · rintro (hstart | ⟨-, hrest⟩)
      · exact hstarts step hstart
      · exact ih hrest

/-- **The loop** does no harm in a dry run that reaches no process. -/
theorem harmless_runSteps (hmode : x.execution.executionMode = "dry_run")
    {steps : List ClaimedStep} (h : ¬x.ReachesProcess steps) :
    (x.runSteps steps).Always Call.IsHarmless := by
  induction steps with
  | nil => exact .pure
  | cons step steps ih =>
    have hrun (h : ¬(x.StartsProcess step ∨ x.PassesDryRun step ∧ x.ReachesProcess steps)) :
        (x.runStep step >>= fun failed =>
          if failed then pure .failed else x.runSteps steps).Always Call.IsHarmless := by
      rw [not_or] at h
      refine .bind_of (harmless_runStep hmode h.1) fun failed t hrun => ?_
      cases failed with
      | true => exact .pure
      | false =>
        refine ih ?_
        by_cases hsandboxed : x.isSandboxed = true
        · intro hrest
          have hfails := returns_runStep (returns_executeCommand hmode hsandboxed h.1
            fun hpasses => h.2 ⟨hpasses, hrest⟩)
          exact Bool.noConfusion (hfails t false hrun)
        · exact not_reachesProcess_of_not_sandboxed (Bool.eq_false_iff.2 hsandboxed) _
    rw [ReachesProcess] at h
    refine .bind (.request trivial) fun cancelled => .ite .pure ?_
    cases hstatus : step.status <;> rw [hstatus] at h
    case succeeded | skipped => exact ih h
    case failed => exact .pure
    all_goals exact hrun h

-- ════════════════════════════════════════════════════════════════════════
-- What may do harm
-- ════════════════════════════════════════════════════════════════════════

/-- A workspace is found where paths resolve to themselves. -/
theorem buildWorkspacePath_runs (root : String) (execution : ℕ) (step : ClaimedStep) :
    ∃ path t, (buildWorkspacePath root execution step).Runs t (.ok path) := by
  let path := joinPath (joinPath root (idText execution))
    s!"{step.position}-{safeKey step.stepKey}-{idText step.id}"
  have hbelow : path.startsWith (root ++ "/") = true := by
    rw [String.startsWith_string_iff]
    simp only [path, joinPath, String.toList_append, List.append_assoc]
    exact ⟨_, by rw [List.append_assoc]⟩
  refine ⟨path, [⟨.resolvePath root, root⟩, ⟨.resolvePath path, path⟩], root, _, rfl, path, _,
    rfl, ?_⟩
  show Comp.Runs (if _ then _ else _) _ _
  rw [if_pos (.inl hbelow)]
  exact ⟨rfl, rfl⟩

/-- **The sandbox** may start the process of its script. -/
theorem may_sandbox_execute {env : Env} {P : Call → Prop} {spec : Sandbox.ExecutionSpec}
    {script : String} (hscript : spec.command = [script])
    (h : ∀ cwd, P (.popen ["/bin/bash", "-c", s!"set -euo pipefail\n{script}"] cwd spec)) :
    (Sandbox.execute env spec).May P := by
  refine .bind_right (runs_request.2 ⟨0, rfl, rfl⟩) <|
    .bind_right (runs_request.2 ⟨"", rfl, rfl⟩) <|
      .bind_right (runs_request.2 ⟨.ok (), rfl, rfl⟩) <| .bind_left (.request ?_)
  rw [hscript]
  exact h _

/-- **A step** that starts a process may do so whatever the mode. -/
theorem may_executeCommand (h : x.StartsProcess step) :
    (x.executeCommand step).May (¬·.IsHarmless) := by
  obtain ⟨haction, settings, hsettings, hmode, hprovider, hsupported, hcommand⟩ := h
  rw [executeCommand, haction, hsettings]
  show Comp.May _ (if _ then _ else _)
  rw [if_pos hmode, executeSandboxed, if_neg (by simpa using hsupported)]
  obtain ⟨root, t, hroot⟩ := buildWorkspacePath_runs settings.sandboxWorkspaceRoot
    x.execution.id step
  have hfound : (Comp.ofExcept (Sandbox.getProvider x.env settings.sandboxProvider) :
      Task Unit).Runs [] (.ok ()) := ⟨rfl, by rw [Sandbox.getProvider, if_pos hprovider]⟩
  refine .bind_right hroot (.bind_right hfound ?_)
  rw [(validate_eq_ok (u := ()) rfl).2 hcommand]
  exact .bind_left (.tryCatch (.bind_left (may_sandbox_execute rfl fun _ => id)))

theorem startStep_run (x : Executor) (step : ClaimedStep) :
    (catchHttp (some <$> Client.startStep x.execution.id step.id x.claimToken)
      fun _ => pure none).Runs
        [⟨.startStep x.execution.id step.id x.claimToken, .ok .run⟩] (.ok (some .run)) :=
  runs_startStep.2 ⟨.ok .run, rfl, rfl⟩

/-- **A passing step** may succeed. -/
theorem runStep_passes (hmode : x.execution.executionMode = "dry_run")
    (h : x.PassesDryRun step) : ∃ t, (x.runStep step).Runs t (.ok false) := by
  obtain ⟨snapshot, handler, haction, hsecrets, hlookup, hvalid, hpasses⟩ := h
  obtain ⟨r, hexecute, hdone, -⟩ := handler.execute_dryRun x.env x.host
    (show (x.actionContext step).execution.executionMode = "dry_run" from hmode)
  rw [hdone hpasses] at hexecute
  have hprepared : (Comp.ofExcept (x.prepareAction step snapshot) : Task _).Runs []
      (.ok (.ok handler)) := ⟨rfl, (prepareAction_ok.2 ⟨hlookup, hvalid, hsecrets⟩).symm⟩
  have hclock : utcnow.Runs [⟨.utcnow, 0⟩] (.ok 0) := runs_request.2 ⟨0, rfl, rfl⟩
  have hdone : (handler.execute x.env x.host (x.actionContext step)).Runs [] (.ok .done) := by
    rw [hexecute]
    exact ⟨rfl, rfl⟩
  have hcommand : ∃ t, (x.executeCommand step).Runs t (.ok false) := by
    rw [executeCommand, haction]
    exact ⟨_, hprepared.bind (hclock.bind (hdone.bind (hclock.bind
      (runs_reportStep.2 (.inr ⟨[], rfl, rfl, rfl⟩)))))⟩
  obtain ⟨t, hcommand⟩ := hcommand
  exact ⟨_, (startStep_run x step).bind hcommand⟩

/-- **The loop** may do harm when it reaches a process. -/
theorem may_runSteps (hmode : x.execution.executionMode = "dry_run") {steps : List ClaimedStep}
    (h : x.ReachesProcess steps) : (x.runSteps steps).May (¬·.IsHarmless) := by
  induction steps with
  | nil => cases h
  | cons step steps ih =>
    have hrun (h : x.StartsProcess step ∨ x.PassesDryRun step ∧ x.ReachesProcess steps) :
        (x.runStep step >>= fun failed =>
          if failed then pure .failed else x.runSteps steps).May (¬·.IsHarmless) := by
      rcases h with hstart | ⟨hpasses, hrest⟩
      · exact .bind_left (.bind_right (startStep_run x step) (may_executeCommand hstart))
      · obtain ⟨t, hrun⟩ := runStep_passes hmode hpasses
        exact .bind_right hrun (ih hrest)
    rw [ReachesProcess] at h
    refine .bind_right (runs_request.2 ⟨false, rfl, rfl⟩) ?_
    show Comp.May _ (if _ then _ else _)
    rw [if_neg Bool.false_ne_true]
    cases hstatus : step.status <;> rw [hstatus] at h
    case succeeded | skipped => exact ih h
    case failed => cases h
    all_goals exact hrun h

theorem not_reachesProcess_of_actions {steps : List ClaimedStep}
    (h : ∀ step ∈ steps, step.actionSnapshot ≠ none) : ¬x.ReachesProcess steps := by
  induction steps with
  | nil => exact id
  | cons step steps ih =>
    have hrest := ih fun later hmem => h later (List.mem_cons_of_mem _ hmem)
    rw [ReachesProcess]
    split
    · exact hrest
    · exact hrest
    · exact id
    · rintro (⟨hnone, -⟩ | ⟨-, hreaches⟩)
      · exact h step List.mem_cons_self hnone
      · exact hrest hreaches

end Executor

-- ════════════════════════════════════════════════════════════════════════
-- Accepted workflows
-- ════════════════════════════════════════════════════════════════════════

/-- The execution of `x` is a claimed dry run of a workflow that `create_execution`
accepts. -/
structure DryRunOf (env : Env) (message : Schema → Json → String) (lax : Coercions)
    (workflow : Workflow) (x : Executor) : Prop where
  accepted : ∃ workflowId fromChangeService s,
    checkCreateExecution (env.withValidator message) workflowId workflow .dryRun
      fromChangeService s = .ok ()
  claimed : ∃ execution steps rows,
    (workflow.definition.getD "steps" .null).items? = some steps ∧
      stepRows env execution workflow.definitionSchemaVersion 1 steps = .ok rows ∧
      List.Forall₂ (fun row step => ∃ id,
        ClaimedStep.modelValidate lax (internalExecutionStep id row) = some step)
        rows x.execution.steps
  mode : x.execution.executionMode = ExecutionMode.dryRun.value

variable {env : Env} {message : Schema → Json → String} {lax : Coercions} {workflow : Workflow}
  {x : Executor}

theorem exists_of_forall₂ {α β : Type} {R : α → β → Prop} {as : List α} {bs : List β}
    (h : List.Forall₂ R as bs) {b : β} (hb : b ∈ bs) : ∃ a ∈ as, R a b := by
  induction h with
  | nil => cases hb
  | cons hR _ ih =>
    rcases List.mem_cons.1 hb with rfl | hmem
    · exact ⟨_, List.mem_cons_self, hR⟩
    · obtain ⟨a, ha, hab⟩ := ih hmem
      exact ⟨a, List.mem_cons_of_mem _ ha, hab⟩

theorem stepRow_of_stepRows {execution position : ℕ} {schemaVersion : String} {steps : List Json}
    {rows : List ExecutionStep} (h : stepRows env execution schemaVersion position steps = .ok rows)
    {row : ExecutionStep} (hrow : row ∈ rows) :
    ∃ step ∈ steps, ∃ position, stepRow env execution position schemaVersion step = .ok row := by
  induction steps generalizing position rows with
  | nil =>
    cases h
    cases hrow
  | cons step steps ih =>
    simp only [stepRows, except_bind_ok] at h
    obtain ⟨first, hfirst, rest, hrest, heq⟩ := h
    cases heq
    rcases List.mem_cons.1 hrow with rfl | hmem
    · exact ⟨step, List.mem_cons_self, position, hfirst⟩
    · obtain ⟨later, hlater, hfound⟩ := ih hrest hmem
      exact ⟨later, List.mem_cons_of_mem _ hlater, hfound⟩

theorem validateV2_of_accepted {workflowId : ℕ} {fromChangeService : Bool} {s : Db} {u : Unit}
    {mode : ExecutionMode}
    (h : checkCreateExecution (env.withValidator message) workflowId workflow mode
      fromChangeService s = .ok u) (hv2 : workflow.definitionSchemaVersion = "workflow.schema.v2") :
    ∃ u, validateV2 env message workflow.definition = .ok u := by
  cases hvalid : validateV2 env message workflow.definition with
  | ok u => exact ⟨u, rfl⟩
  | error e =>
    have hsome : (env.withValidator message).validateWorkflowDefinition workflow.definition =
        some e := by
      simp only [Env.withValidator, hvalid]
    simp only [checkCreateExecution, Transactional.Query.bind_ok] at h
    obtain ⟨_, -, _, -, h⟩ := h
    cases fromChangeService <;> simp [hv2, hsome, raise] at h

/-- A dry run of a v2 workflow has actions only. -/
theorem DryRunOf.actions (h : DryRunOf env message lax workflow x)
    (hv2 : workflow.definitionSchemaVersion = "workflow.schema.v2") :
    ∀ step ∈ x.execution.steps, step.actionSnapshot ≠ none := by
  obtain ⟨_, _, _, haccepted⟩ := h.accepted
  obtain ⟨execution, steps, rows, hsteps, hrows, hclaimed⟩ := h.claimed
  obtain ⟨u, hvalid⟩ := validateV2_of_accepted haccepted hv2
  intro step hstep
  obtain ⟨row, hrow, id, hparsed⟩ := exists_of_forall₂ hclaimed hstep
  obtain ⟨declared, hdeclared, position, hrow⟩ := stepRow_of_stepRows hrows hrow
  obtain ⟨rfl, hpending, -⟩ := stepRow_snapshot hrow
  have hlist : listOf workflow.definition "steps" = steps := by
    rw [Json.getD] at hsteps
    rw [listOf, Json.getD]
    cases hx : workflow.definition.get? "steps" with
    | none =>
      rw [hx] at hsteps
      cases hsteps
    | some v =>
      rw [hx, Option.getD_some] at hsteps
      rw [Option.getD_some, hsteps, Option.getD_some]
  rw [modelValidate_accepted (accepted_steps hvalid (hlist ▸ hdeclared)) (by simp [hpending]),
    Option.some.injEq] at hparsed
  rw [← hparsed, claimedStep]
  exact Option.some_ne_none _

/-- **Dry runs** of accepted workflows do no harm exactly when no v1 command comes first after
steps that pass, and never for v2 workflows. -/
theorem dryRun_harmless_iff (h : DryRunOf env message lax workflow x) :
    (x.run.Always Call.IsHarmless ↔ ¬x.ReachesProcess x.steps) ∧
      (workflow.definitionSchemaVersion = "workflow.schema.v2" →
        x.run.Always Call.IsHarmless) := by
  have hiff : x.run.Always Call.IsHarmless ↔ ¬x.ReachesProcess x.steps := by
    constructor
    · intro hharmless hreaches
      obtain ⟨c, hc, hnot⟩ :=
        hharmless.may (Executor.may_run (Executor.may_runSteps h.mode hreaches))
      exact hnot hc
    · intro hreaches
      exact x.run_wraps.always (fun _ => Call.IsFrame.isHarmless)
        (Executor.harmless_runSteps h.mode hreaches)
  refine ⟨hiff, fun hv2 => hiff.2 (Executor.not_reachesProcess_of_actions fun step hstep => ?_)⟩
  exact h.actions hv2 step ((List.mem_insertionSort _).1 hstep)

-- ════════════════════════════════════════════════════════════════════════
-- A dry run that does harm
-- ════════════════════════════════════════════════════════════════════════

/-- A v1 step with a command. -/
def commandStep : Json :=
  .obj
    [ ("id", .str "wipe"),
      ("name", .str "Wipe"),
      ("type", .str "command"),
      ("risk", .str "high"),
      ("command", .str "rm -rf data") ]

/-- Its workflow. -/
def commandWorkflow : Workflow where
  organization := 0
  name := "Wipe"
  version := 1
  status := .published
  definition := .obj [("name", .str "Wipe"), ("steps", .arr [commandStep])]

/-- The row of that step. -/
def commandRow : ExecutionStep where
  execution := 0
  position := 1
  stepKey := "wipe"
  name := "Wipe"
  stepType := "command"
  riskLevel := "high"
  command := "rm -rf data"
  stepSnapshot := commandStep

/-- The claimed dry run. -/
def commandClaim : Executor :=
  .sample
    ⟨0, [{ id := 0, position := 1, stepKey := "wipe", name := "Wipe", stepType := "command"
           riskLevel := "high", command := "rm -rf data", status := .pending
           stepSnapshot := commandStep }], "dry_run", none, [], none⟩

theorem commandClaim_dryRunOf :
    DryRunOf .sample (fun _ _ => "") ⟨fun _ => none, fun _ => none⟩ commandWorkflow
      commandClaim where
  accepted := ⟨0, true, {}, rfl⟩
  claimed := by
    refine ⟨0, [commandStep], [commandRow], rfl, rfl, .cons ⟨0, ?_⟩ .nil⟩
    have hid : requiredKey (internalExecutionStep 0 commandRow) uuidField "id" = some 0 :=
      uuidField_idText 0
    have hobj : dictField (internalExecutionStep 0 commandRow) =
        some (internalExecutionStep 0 commandRow) := rfl
    rw [ClaimedStep.modelValidate, hobj, Option.bind_eq_bind, Option.bind_some, hid]
    rfl
  mode := rfl

/-- A dry run with one command. -/
theorem dryRun_harmless_commandClaim :
    (commandClaim.run.Always Call.IsHarmless ↔
        ¬commandClaim.ReachesProcess commandClaim.steps) ∧
      (commandWorkflow.definitionSchemaVersion = "workflow.schema.v2" →
        commandClaim.run.Always Call.IsHarmless) :=
  dryRun_harmless_iff commandClaim_dryRunOf

/-- The dry run of a v1 command may run it. -/
theorem commandClaim_harmful :
    DryRunOf .sample (fun _ _ => "") ⟨fun _ => none, fun _ => none⟩ commandWorkflow commandClaim ∧
      ¬commandClaim.run.Always Call.IsHarmless := by
  refine ⟨commandClaim_dryRunOf, fun hharmless => ?_⟩
  have hstarts : commandClaim.ReachesProcess commandClaim.steps :=
    .inl ⟨rfl, _, rfl, rfl, rfl, rfl, by decide⟩
  obtain ⟨c, hc, hnot⟩ := hharmless.may (Executor.may_run (Executor.may_runSteps rfl hstarts))
  exact hnot hc

end RunbookPlatform
