import RunbookPlatform.Runner.Assertions
import RunbookPlatform.Runner.Effects

/-!
# Timeouts

A workflow may limit the time of a shell command or an HTTP request in three places: in the
step, in the parameters of its action and in the defaults of the workflow. The runner is given
the first alone, and has a limit of its own: the maximum of the sandbox, or a default for
requests.

## Main definitions

- `TimedAction.timeout` — the timeout that the runner applies
- `declaredLimits` — the limits that apply to a step
- `keptLimits`, `droppedLimits` — those that reach the handler, and those that do not

## Main results

- `always_timeout` — every process and every request has the timeout
- `timeouts_honoured_iff` — when it respects every limit
-/

namespace RunbookPlatform

open Schema Interaction Interaction.Comp

-- ════════════════════════════════════════════════════════════════════════
-- Limits
-- ════════════════════════════════════════════════════════════════════════

/-- The actions with a timeout. -/
inductive TimedAction where
  | shellCommand | httpRequest
  deriving DecidableEq

namespace TimedAction

def type : TimedAction → String
  | shellCommand => "shell_command"
  | httpRequest => "http_request"

def params : TimedAction → Schema
  | shellCommand => shellCommandParams
  | httpRequest => httpRequestParams

def handler : TimedAction → ActionHandler
  | shellCommand => .shellCommand
  | httpRequest => .httpRequest

/-- The timeout that the runner applies to a step with a declared one. -/
def timeout (settings : RunnerSettings) (declared : Option ℤ) : TimedAction → ℤ
  | shellCommand => (sandboxLimits settings declared).timeoutSeconds
  | httpRequest =>
    match declared with
    | some seconds => if 0 < seconds then seconds else HttpRequest.defaultTimeoutSeconds
    | none => HttpRequest.defaultTimeoutSeconds

end TimedAction

/-- The limit under a key. -/
def limitOf (v : Json) (key : String) : Option ℤ := (v.get? key).map fun _ => intOf v key 0

/-- The limit of the step. -/
def ownLimit (step : Json) : Option ℤ := limitOf step "timeoutSeconds"

/-- The limit in the parameters of the action. -/
def paramsLimit (step : Json) : Option ℤ := limitOf (paramsOf step) "timeout_seconds"

/-- The default limit of the workflow, for a step that has none. -/
def defaultLimit (definition step : Json) : Option ℤ :=
  match ownLimit step with
  | some _ => none
  | none => limitOf (definition.getD "defaults" (.obj [])) "timeoutSeconds"

/-- The limit that the runner is configured with. -/
def runnerLimit (settings : RunnerSettings) : TimedAction → Option ℤ
  | .shellCommand => some settings.sandboxDefaultTimeoutSeconds
  | .httpRequest => none

/-- The limits that apply to a step. -/
def declaredLimits (settings : RunnerSettings) (definition step : Json) (action : TimedAction) :
    List ℤ :=
  (ownLimit step).toList ++ (runnerLimit settings action).toList ++ (paramsLimit step).toList ++
    (defaultLimit definition step).toList

/-- The limits that the handler looks at: that of the step and that of the runner, or the default
of a request whose step has none. -/
def keptLimits (settings : RunnerSettings) (step : Json) : TimedAction → List ℤ
  | .shellCommand => (ownLimit step).toList ++ [settings.sandboxDefaultTimeoutSeconds]
  | .httpRequest => [(ownLimit step).getD HttpRequest.defaultTimeoutSeconds]

/-- The limits that do not reach it. -/
def droppedLimits (definition step : Json) : List ℤ :=
  (paramsLimit step).toList ++ (defaultLimit definition step).toList

-- ════════════════════════════════════════════════════════════════════════
-- What the runner applies
-- ════════════════════════════════════════════════════════════════════════

/-- The timeout of a process or a request. -/
def Call.timeout? : Call → Option ℤ
  | popen _ _ spec => some spec.limits.timeoutSeconds
  | httpRequest _ _ _ _ timeoutSeconds => some timeoutSeconds
  | _ => none

/-- The call has this timeout, if any. -/
def Call.HasTimeout (seconds : ℤ) (c : Call) : Prop :=
  ∀ found, c.timeout? = some found → found = seconds

section

variable {env : Env} {host : Host} {ctx : ActionContext} {settings : RunnerSettings} {seconds : ℤ}

theorem Call.IsNeutral.hasTimeout {c : Call} (h : c.IsNeutral) : c.HasTimeout seconds := by
  intro found hfound
  cases c <;> first | exact h.elim | cases hfound

theorem always_sandbox_timeout (spec : Sandbox.ExecutionSpec) :
    (Sandbox.execute env spec).Always (Call.HasTimeout spec.limits.timeoutSeconds) := by
  have hnone {c : Call} (h : c.timeout? = none) : c.HasTimeout spec.limits.timeoutSeconds := by
    intro found hfound
    rw [h] at hfound
    cases hfound
  refine .bind (.request (hnone rfl)) fun _ => .bind (.request (hnone rfl)) fun _ =>
    .bind (.request (hnone rfl)) fun made => ?_
  cases made with
  | error text => exact .fail
  | ok _ =>
    refine .bind (.request fun found hfound => (Option.some.inj hfound).symm) fun ended => ?_
    cases ended with
    | error text => exact .bind (.request (hnone rfl)) fun _ => .pure
    | ok ended =>
      refine .bind (.request (hnone rfl)) fun _ => .ite .pure ?_
      refine .bind (.request (hnone rfl)) fun collected => ?_
      split
      · exact .pure
      · exact .pure
      · exact .fail

theorem always_runSandboxed_timeout (spec : Sandbox.ExecutionSpec) :
    (ShellCommand.runSandboxed env host ctx settings spec).Always
      (Call.HasTimeout spec.limits.timeoutSeconds) := by
  refine .bind .ofExcept fun _ => ?_
  split
  · exact .pure
  · exact .fail
  · refine .bind (.tryCatch (.bind (always_sandbox_timeout _) fun _ => .pure) fun e => ?_)
      fun answer => ?_
    · split <;> first | exact .pure | exact .fail
    · cases answer with
      | error text => exact .bind (.request fun found hfound => by cases hfound) fun _ => .pure
      | ok result => exact (always_report _ _ _ _).mono fun _ => Call.IsNeutral.hasTimeout

/-- **Timeouts**: every process and every request of a handler has the timeout of its action. -/
theorem always_timeout (action : TimedAction) (hsettings : ctx.settings = some settings) :
    (action.handler.execute env host ctx).Always
      (Call.HasTimeout (action.timeout settings ctx.step.timeoutSeconds)) := by
  cases action with
  | shellCommand =>
    show (ShellCommand.execute env host ctx).Always _
    rw [ShellCommand.execute, hsettings]
    refine .ite .pure (.ite .pure ?_)
    refine .bind (.tryCatch (.bind ?_ fun _ => .pure) fun e => ?_) fun path => ?_
    · exact (always_buildWorkspacePath _ _ _).mono fun _ => Call.IsNeutral.hasTimeout
    · split <;> first | exact .pure | exact .fail
    · split
      · exact .pure
      · exact .pure
      · exact .fail
      · exact always_runSandboxed_timeout _
  | httpRequest =>
    show (HttpRequest.execute env host ctx).Always _
    refine .ite .pure (.bind .ofExcept fun _ => .ite .pure ?_)
    refine .bind (.request fun found hfound => (Option.some.inj hfound).symm) fun answer => ?_
    rw [HttpRequest.resultOf.eq_def]
    split
    · simp only []
      split
      · exact .fail
      · exact .ite .pure .pure
    · exact .pure
    · exact .pure
    · exact .fail

end

-- ════════════════════════════════════════════════════════════════════════
-- What it respects
-- ════════════════════════════════════════════════════════════════════════

section

variable {env : Env} {message : Schema → Json → String} {lax : Coercions}
  {definition step : Json} {u : Unit} {settings : RunnerSettings} {action : TimedAction}

/-- The limit of an accepted step is positive. -/
theorem ownLimit_pos (h : StepAccepted step) {seconds : ℤ} (hown : ownLimit step = some seconds) :
    0 < seconds := by
  obtain ⟨x, hx, rfl⟩ := Option.map_eq_some_iff.1 hown
  have hbetween : (integerBetween 1 86400).valid x = true := closed_property h.fields rfl hx
  obtain ⟨n, rfl⟩ := valid_integer.1 (valid_all.1 hbetween (type .integer) (by simp))
  have hmin := valid_minimum.1 (valid_all.1 hbetween (minimum 1) (by simp))
  simp only [intOf, hx]
  omega

/-- **The timeout** is the least of the limits that the handler looks at. -/
theorem timeout_le_iff (h : StepAccepted step) {limit : ℤ} :
    action.timeout settings (ownLimit step) ≤ limit ↔
      ∃ kept ∈ keptLimits settings step action, kept ≤ limit := by
  cases hown : ownLimit step with
  | none =>
    cases action <;> simp [TimedAction.timeout, sandboxLimits, keptLimits, hown]
  | some seconds =>
    have hpos := ownLimit_pos h hown
    cases action with
    | shellCommand =>
      simp [TimedAction.timeout, sandboxLimits, keptLimits, hown, hpos]
    | httpRequest => simp [TimedAction.timeout, keptLimits, hown, hpos]

/-- **Declared timeouts** are honoured exactly when each limit that does not reach the handler is
at least one that does. -/
theorem timeouts_honoured_iff
    (haccepted : validateWorkflowDefinition env message definition "workflow.schema.v2" = .ok u)
    (hstep : step ∈ listOf definition "steps") (htype : step.get? "type" = some (.str action.type))
    {execution position : ℕ} {row : ExecutionStep}
    (hrow : stepRow env execution position "workflow.schema.v2" step = .ok row) {id : ℕ}
    {claimed : ClaimedStep}
    (hclaimed : ClaimedStep.modelValidate lax (internalExecutionStep id row) = some claimed)
    (settings : RunnerSettings) :
    (∀ limit ∈ declaredLimits settings definition step action,
        action.timeout settings claimed.timeoutSeconds ≤ limit) ↔
      ∀ limit ∈ droppedLimits definition step,
        ∃ kept ∈ keptLimits settings step action, kept ≤ limit := by
  obtain ⟨h, rfl, rfl, -⟩ := claimed_of_accepted haccepted hstep hrow hclaimed
    (show (action.type, action.params, true) ∈ actionTypes by
      cases action <;> simp [TimedAction.type, TimedAction.params, actionTypes]) htype
  have htimeout : (claimedStep id row).timeoutSeconds = ownLimit row.stepSnapshot := rfl
  have hkept : ∀ limit ∈ (ownLimit row.stepSnapshot).toList ++ (runnerLimit settings action).toList,
      ∃ kept ∈ keptLimits settings row.stepSnapshot action, kept ≤ limit := by
    intro limit hlimit
    refine ⟨limit, ?_, le_rfl⟩
    cases action with
    | shellCommand => exact hlimit
    | httpRequest =>
      obtain ⟨seconds, hseconds⟩ : ∃ seconds, ownLimit row.stepSnapshot = some seconds := by
        cases hown : ownLimit row.stepSnapshot with
        | none => simp [hown, runnerLimit] at hlimit
        | some seconds => exact ⟨seconds, rfl⟩
      simpa [keptLimits, runnerLimit, hseconds] using hlimit
  simp only [htimeout, timeout_le_iff h, declaredLimits, droppedLimits, List.append_assoc,
    List.mem_append, or_imp, forall_and] at hkept ⊢
  exact ⟨fun hall => hall.2.2, fun hdropped => ⟨hkept.1, hkept.2, hdropped⟩⟩

end

/-- A shell command whose parameters limit it to five seconds. -/
def briefStep : Json :=
  .obj
    [ ("id", .str "migrate"),
      ("name", .str "Migrate"),
      ("type", .str "shell_command"),
      ("risk", .str "low"),
      ("action", .obj
        [ ("type", .str "shell_command"),
          ("version", .str "pilot.v1"),
          ("params", .obj [("command", .str "migrate"), ("timeout_seconds", .int 5)]) ]) ]

/-- Its workflow, which limits all steps to a minute. -/
def briefDefinition : Json :=
  .obj
    [ ("schemaVersion", .str "2"),
      ("name", .str "Migration"),
      ("defaults", .obj [("timeoutSeconds", .int 60)]),
      ("steps", .arr [briefStep]) ]

/-- The row of that step. -/
def briefRow : ExecutionStep where
  execution := 0
  position := 1
  stepKey := "migrate"
  name := "Migrate"
  stepType := "shell_command"
  riskLevel := "low"
  command := "migrate"
  stepSnapshot := briefStep

theorem briefDefinition_accepted :
    validateWorkflowDefinition .sample (fun _ _ => "") briefDefinition "workflow.schema.v2" =
      .ok () := by
  have hok : (validateWorkflowDefinition .sample (fun _ _ => "") briefDefinition
      "workflow.schema.v2").isOk = true := by decide +kernel
  obtain ⟨u, haccepted⟩ := exists_eq_ok hok
  exact haccepted

theorem briefRow_claimed :
    ClaimedStep.modelValidate ⟨fun _ => none, fun _ => none⟩ (internalExecutionStep 0 briefRow) =
      some (claimedStep 0 briefRow) := by
  have haccepted := briefDefinition_accepted
  rw [validateWorkflowDefinition, if_neg (by decide), if_pos rfl] at haccepted
  exact modelValidate_accepted (accepted_steps haccepted (List.mem_singleton.2 rfl)) (by decide)

/-- The timeouts of that step. -/
theorem timeouts_honoured_brief :
    (∀ limit ∈ declaredLimits {} briefDefinition briefStep .shellCommand,
        TimedAction.shellCommand.timeout {} (claimedStep 0 briefRow).timeoutSeconds ≤ limit) ↔
      ∀ limit ∈ droppedLimits briefDefinition briefStep,
        ∃ kept ∈ keptLimits {} briefStep .shellCommand, kept ≤ limit :=
  timeouts_honoured_iff briefDefinition_accepted (List.mem_singleton.2 rfl) rfl
    (show stepRow .sample 0 1 "workflow.schema.v2" briefStep = .ok briefRow from rfl)
    briefRow_claimed {}

/-- It runs for the five minutes of the sandbox. -/
theorem brief_runs_long :
    validateWorkflowDefinition .sample (fun _ _ => "") briefDefinition "workflow.schema.v2" =
        .ok () ∧
      ClaimedStep.modelValidate ⟨fun _ => none, fun _ => none⟩ (internalExecutionStep 0 briefRow) =
        some (claimedStep 0 briefRow) ∧
      ¬∀ limit ∈ declaredLimits {} briefDefinition briefStep .shellCommand,
        TimedAction.shellCommand.timeout {} (claimedStep 0 briefRow).timeoutSeconds ≤ limit := by
  refine ⟨briefDefinition_accepted, briefRow_claimed, fun h => ?_⟩
  have hfive := h 5 (by decide +kernel)
  revert hfive
  decide +kernel

end RunbookPlatform
