import Mathlib.Data.List.TakeWhile
import RunbookPlatform.Runner.DryRun
import RunbookPlatform.Workflows.Runnable

/-!
# The shell switch

The mode of a `shell_command` step is declared by `commandMode` or follows from the parameters
that are present. The switch is consulted for a declared mode only, so the `command` of a step
that declares none runs whatever the switch says.

## Main definitions

- `ShellCommand.RunsArgv` — a process runs the quoted arguments of the step
- `ShellCommand.SwitchWorks` — with the switch off, nothing else runs
- `ShellCommand.RunsCommand` — the parameters for which the free-form command runs

## Main results

- `shell_switch_iff` — the switch works exactly for the other parameters
-/

namespace RunbookPlatform

open Interaction Interaction.Comp Schema

namespace ShellCommand

/-- A command, in the step's directory if it has one. -/
def withDirectory (params : Json) (command : String) : String :=
  match workingDirectory params with
  | .str dir => if dir = "" then command else s!"cd {shlexQuote dir}\n{command}"
  | _ => command

/-- The script of the arguments. -/
def argvScript (params : Json) (argv : List String) : String :=
  withDirectory params (" ".intercalate (argv.map shlexQuote))

/-- The call runs no process, or one with a script that satisfies `p`. -/
def RunsScript (p : String → Prop) : Call → Prop
  | .popen command .. => ∃ script, p script ∧
      command = ["/bin/bash", "-c", s!"set -euo pipefail\n{script}"]
  | _ => True

/-- The script is the one of the step's arguments. -/
def IsArgvScript (params : Json) (script : String) : Prop :=
  ∃ argv : List String, params.get? "argv" = some (.arr (argv.map .str)) ∧
    script = argvScript params argv

/-- The call runs no process, or the arguments of the step. -/
def RunsArgv (params : Json) : Call → Prop := RunsScript (IsArgvScript params)

variable (env : Env) (host : Host)

/-- With the switch off, a step with these parameters runs nothing but its arguments. -/
def SwitchWorks (params : Json) : Prop :=
  ∀ (x : Executor) (settings : RunnerSettings) (step : ClaimedStep) (snapshot : ActionSnapshot),
    x.env = env → x.host = host → x.settings = some settings →
      settings.sandboxAllowShell = false → step.actionSnapshot = some snapshot →
        snapshot.type = "shell_command" → snapshot.params = params →
          (x.executeCommand step).Always (RunsArgv params)

/-- The validator or the handler accepts a step with these parameters. -/
def Accepted (params : Json) : Prop :=
  validate env params = .ok () ∨
    ∃ (message : Schema → Json → String) (definition step : Json),
      validateWorkflowDefinition env message definition "workflow.schema.v2" = .ok () ∧
        step ∈ listOf definition "steps" ∧ step.get? "type" = some (.str "shell_command") ∧
          (actionOf step).getD "params" (.obj []) = params

/-- The parameters declare no mode and have no arguments; the directory is not refused, and
there is something to run. -/
structure RunsCommand (params : Json) : Prop where
  undeclared : params.get? "commandMode" = none
  noArgv : (params.getD "argv" .null).truthy = false
  directory : ∀ dir, workingDirectory params = .str dir → dir.length ≤ 512
  notBlank : (workingDirectory params).truthy = true ∨ strip (textOf params "command" "") ≠ ""

variable {env host} {params : Json} {p : String → Prop}

theorem scriptOf_eq_withDirectory :
    scriptOf env params = withDirectory params
      (if commandMode params = .str "argv" then
        " ".intercalate ((((params.getD "argv" (.arr [])).items?).getD []).map fun a =>
          shlexQuote (pyStr env a))
      else textOf params "command" "") := rfl

-- ════════════════════════════════════════════════════════════════════════
-- Blank scripts
-- ════════════════════════════════════════════════════════════════════════

theorem strip_ne_empty {s : String} {c : Char} (hhead : s.toList.head? = some c)
    (hc : isSpace c = false) : strip s ≠ "" := by
  intro hstrip
  obtain ⟨rest, h⟩ := List.head?_eq_some_iff.1 hhead
  have hnil : ((c :: rest).reverse.dropWhile isSpace).reverse = [] := by
    rw [strip, h, List.dropWhile_cons_of_neg (by simp [hc])] at hstrip
    have hlist := congrArg String.toList hstrip
    rwa [String.toList_ofList] at hlist
  rw [List.reverse_eq_nil_iff, List.dropWhile_eq_nil_iff] at hnil
  rw [hnil c (by simp)] at hc
  cases hc

/-- A script in a directory is not blank. -/
theorem strip_withDirectory {command : String} :
    strip (withDirectory params command) ≠ "" ↔
      (∃ dir, workingDirectory params = .str dir ∧ dir ≠ "") ∨ strip command ≠ "" := by
  rw [withDirectory]
  split
  · rename_i dir hdir
    by_cases hempty : dir = ""
    · simp [hdir, hempty]
    · refine iff_of_true ?_ (.inl ⟨dir, hdir, hempty⟩)
      rw [if_neg hempty]
      exact strip_ne_empty (c := 'c') (by simp [toString]) (by decide)
  · rename_i hdir
    constructor
    · exact .inr
    · rintro (⟨dir, h, -⟩ | h)
      · exact absurd h (hdir dir)
      · exact h

theorem withDirectory_injective : Function.Injective (withDirectory params) := by
  intro a b h
  rw [withDirectory, withDirectory] at h
  split at h
  · split_ifs at h
    · exact h
    · have hlist := congrArg String.toList h
      simp only [toString, String.toList_append, List.append_cancel_left_eq] at hlist
      exact String.toList_inj.1 hlist
  · exact h

-- ════════════════════════════════════════════════════════════════════════
-- The modes
-- ════════════════════════════════════════════════════════════════════════

/-- What the handler accepts has one of two modes. -/
theorem validate_ok (h : validate env params = .ok ()) :
    (commandMode params = .str "argv" ∧ ∃ argv : List String,
        params.get? "argv" = some (.arr (argv.map .str)) ∧ argv ≠ []) ∨
      (commandMode params = .str "shell" ∧ ∃ command, params.get? "command" = some (.str command) ∧
        command ≠ "") := by
  simp only [validate, except_bind_ok] at h
  obtain ⟨_, hcommand, -⟩ := h
  rw [validateCommand] at hcommand
  by_cases hargv : commandMode params = .str "argv"
  · refine .inl ⟨hargv, ?_⟩
    simp only [if_pos hargv, except_bind_ok, requireParam_ok] at hcommand
    obtain ⟨_, ⟨htruthy, harr⟩, _, -, htexts⟩ := hcommand
    cases hx : params.get? "argv" with
    | none => simp [Json.getD, hx, Json.isArr] at harr
    | some v =>
      rw [Json.getD, hx, Option.getD_some] at htruthy harr htexts
      cases v with
      | arr items =>
        have hitems : (items.map fun v => (v.str?).getD "").map Json.str = items := by
          rw [List.map_map]
          refine (List.map_congr_left fun v hv => ?_).trans (List.map_id items)
          cases v with
          | str text => rfl
          | _ => cases List.all_eq_true.1 htexts _ hv
        refine ⟨items.map fun v => (v.str?).getD "", by rw [hitems], ?_⟩
        intro hnil
        rw [List.map_eq_nil_iff.1 hnil] at htruthy
        cases htruthy
      | _ => cases harr
  · by_cases hshell : commandMode params = .str "shell"
    · refine .inr ⟨hshell, ?_⟩
      rw [if_neg hargv, if_pos hshell, requireParam_ok] at hcommand
      obtain ⟨htruthy, hstr⟩ := hcommand
      cases hx : params.get? "command" with
      | none => simp [Json.getD, hx, Json.isStr] at hstr
      | some v =>
        rw [Json.getD, hx, Option.getD_some] at htruthy hstr
        cases v with
        | str command =>
          refine ⟨command, rfl, ?_⟩
          rintro rfl
          cases htruthy
        | _ => cases hstr
    · simp only [if_neg hargv, if_neg hshell] at hcommand
      split_ifs at hcommand

theorem directory_of_validate (h : validate env params = .ok ()) :
    ∀ dir, workingDirectory params = .str dir → dir.length ≤ 512 := by
  intro dir hdir
  simp only [validate, except_bind_ok, hdir, validateWorkingDirectory, requireParam_ok] at h
  obtain ⟨_, -, _, -, _, -, hlength⟩ := h
  exact hlength

theorem commandMode_undeclared (hmode : params.get? "commandMode" = none) :
    commandMode params = .str "argv" ↔ (params.getD "argv" .null).truthy = true := by
  rw [commandMode, hmode]
  simp only []
  split_ifs with hargv hcommand <;> simp [hargv]

/-- In the mode of arguments the script is that of the arguments. -/
theorem scriptOf_argv {argv : List String} (hmode : commandMode params = .str "argv")
    (hargv : params.get? "argv" = some (.arr (argv.map .str))) :
    scriptOf env params = argvScript params argv := by
  have htexts : (fun a => shlexQuote (pyStr env a)) ∘ Json.str = shlexQuote := rfl
  rw [scriptOf_eq_withDirectory, if_pos hmode, argvScript, Json.getD, hargv, Option.getD_some,
    Json.items?, Option.getD_some, List.map_map, htexts]

/-- In the other mode it is that of the command. -/
theorem scriptOf_command (hmode : commandMode params = .str "shell") :
    scriptOf env params = withDirectory params (textOf params "command" "") := by
  rw [scriptOf_eq_withDirectory, if_neg (by rw [hmode]; decide)]

-- ════════════════════════════════════════════════════════════════════════
-- What runs
-- ════════════════════════════════════════════════════════════════════════

theorem RunsScript.of_neutral {c : Call} (h : c.IsNeutral) : RunsScript p c := by
  cases c <;> trivial

theorem always_sandbox_script {spec : Sandbox.ExecutionSpec} {script : String}
    (hcommand : spec.command = [script]) (hscript : p script) :
    (Sandbox.execute env spec).Always (RunsScript p) := by
  refine .bind (.request trivial) fun _ => .bind (.request trivial) fun _ =>
    .bind (.request trivial) fun made => ?_
  cases made with
  | error text => exact .fail
  | ok _ =>
    refine .bind (.request ⟨script, hscript, by rw [hcommand]; rfl⟩) fun ended => ?_
    cases ended with
    | error text => exact .bind (.request trivial) fun _ => .pure
    | ok ended =>
      refine .bind (.request trivial) fun _ => .ite .pure ?_
      refine .bind (.request trivial) fun collected => ?_
      split
      · exact .pure
      · exact .pure
      · exact .fail

/-- **The sandboxed run** runs the script unless it is blank. -/
theorem always_runSandboxed_script {ctx : ActionContext} {settings : RunnerSettings}
    {spec : Sandbox.ExecutionSpec} {script : String} (hcommand : spec.command = [script])
    (hscript : strip script ≠ "" → p script) :
    (runSandboxed env host ctx settings spec).Always (RunsScript p) := by
  refine .bind .ofExcept fun _ => ?_
  split
  · exact .pure
  · exact .fail
  · rename_i hvalid
    have hp : p script := hscript ((validate_eq_ok hcommand).1 hvalid)
    refine .bind (.tryCatch (.bind (always_sandbox_script hcommand hp) fun _ => .pure)
      fun e => ?_) fun answer => ?_
    · split <;> first | exact .pure | exact .fail
    · cases answer with
      | error text => exact .bind (.request trivial) fun _ => .pure
      | ok result => exact (always_report _ _ _ _).mono fun _ => RunsScript.of_neutral

/-- **The handler** runs the script of the parameters, unless it is blank or the switch
refuses it. -/
theorem always_execute_script {ctx : ActionContext}
    (h : (∀ settings, ctx.settings = some settings →
        ¬(commandMode ctx.params = .str "shell" ∧ (ctx.params.get? "commandMode").isSome ∧
          settings.sandboxAllowShell = false)) →
      strip (scriptOf env ctx.params) ≠ "" → p (scriptOf env ctx.params)) :
    (execute env host ctx).Always (RunsScript p) := by
  rw [execute]
  split
  · exact .pure
  · rename_i settings hsettings
    by_cases hblocked : commandMode ctx.params = .str "shell" ∧
        (ctx.params.get? "commandMode").isSome ∧ settings.sandboxAllowShell = false
    · simp only [if_pos hblocked]
      exact .pure
    simp only [if_neg hblocked]
    have hscript := h fun settings' hsettings' => by
      rw [hsettings, Option.some.injEq] at hsettings'
      exact hsettings' ▸ hblocked
    refine .ite .pure (.bind (.tryCatch (.bind ?_ fun _ => .pure) fun e => ?_) fun path => ?_)
    · exact (always_buildWorkspacePath _ _ _).mono fun _ => RunsScript.of_neutral
    · split <;> first | exact .pure | exact .fail
    · split
      · exact .pure
      · exact .pure
      · exact .fail
      · exact always_runSandboxed_script rfl hscript

/-- **The handler** may run its script when nothing stops it. -/
theorem may_execute_script {P : Call → Prop} {ctx : ActionContext} {settings : RunnerSettings}
    (hsettings : ctx.settings = some settings) (hprovider : settings.sandboxProvider = "local_process")
    (hlive : ctx.execution.executionMode = "live") (hartifacts : ctx.step.artifacts = [])
    (hopen : ctx.params.get? "commandMode" = none)
    (hscript : strip (scriptOf env ctx.params) ≠ "")
    (h : ∀ cwd spec, P (.popen ["/bin/bash", "-c",
      s!"set -euo pipefail\n{scriptOf env ctx.params}"] cwd spec)) :
    (execute env host ctx).May P := by
  rw [execute, hsettings]
  have hunblocked : ¬(commandMode ctx.params = .str "shell" ∧
      (ctx.params.get? "commandMode").isSome ∧ settings.sandboxAllowShell = false) := by
    simp [hopen]
  simp only [if_neg hunblocked, hlive, hartifacts]
  obtain ⟨root, t, hroot⟩ := Executor.buildWorkspacePath_runs settings.sandboxWorkspaceRoot
    ctx.execution.id ctx.step
  have hfound : (Comp.ofExcept (Sandbox.getProvider env settings.sandboxProvider) :
      Task Unit).Runs [] (.ok ()) := ⟨rfl, by rw [Sandbox.getProvider, if_pos hprovider]⟩
  refine .bind_right (.tryCatch (hroot.bind ⟨rfl, rfl⟩)) (.bind_right hfound ?_)
  rw [(validate_eq_ok (u := ()) rfl).2 hscript]
  exact .bind_left (.tryCatch (.bind_left (Executor.may_sandbox_execute rfl fun _ => h _ _)))

-- ════════════════════════════════════════════════════════════════════════
-- Accepted steps
-- ════════════════════════════════════════════════════════════════════════

theorem lookupHandler_shellCommand {version : String} {handler : ActionHandler}
    (h : lookupHandler "shell_command" version = some handler) : handler = .shellCommand := by
  obtain ⟨before, after, hsplit, -⟩ := List.lookup_eq_some_iff.1 h
  have hmem : (("shell_command", version), handler) ∈ actionRegistry := by simp [hsplit]
  simp only [actionRegistry, List.mem_cons, Prod.mk.injEq, List.not_mem_nil, or_false] at hmem
  obtain ⟨⟨h, -⟩, -⟩ | ⟨⟨h, -⟩, -⟩ | ⟨-, rfl⟩ | ⟨⟨h, -⟩, -⟩ | ⟨⟨h, -⟩, -⟩ := hmem
  all_goals first | rfl | exact absurd h (by decide)

/-- What the validator accepts, the handler accepts when the directory is not too long. -/
theorem Accepted.validate (h : Accepted env params) (hcommand : RunsCommand params) :
    validate env params = .ok () := by
  obtain h | ⟨message, definition, step, hdefinition, hstep, htype, rfl⟩ := h
  · exact h
  rw [validateWorkflowDefinition, if_neg (by decide), if_pos rfl] at hdefinition
  have haccepted := accepted_steps hdefinition hstep
  obtain ⟨actionType, paramsSchema, needsParams, action, hmem, haction, hstepType, hvalid⟩ :=
    haccepted.exists_action
  obtain rfl : actionType = "shell_command" := by
    rw [htype, Option.some.injEq, Json.str.injEq] at hstepType
    exact hstepType.symm
  obtain ⟨rfl, rfl⟩ : paramsSchema = shellCommandParams ∧ needsParams = true := by
    simpa [actionTypes] using hmem
  obtain ⟨hparams, hsame⟩ := actionSchema_params hvalid (by simp)
  obtain ⟨handler, hhandler, hguards⟩ := handler_validate env .sample haccepted hmem haction
    hstepType hvalid
  obtain rfl := lookupHandler_shellCommand hhandler
  rw [actionOf_of_get haction] at hcommand ⊢
  refine hguards.2 ⟨fun heq => ?_, fun _ => ?_⟩
  · rw [htype] at heq
    exact absurd heq (by decide)
  · rw [actionOf_of_get haction, hsame rfl, textOf]
    have habsent : (action.getD "params" (.obj [])).get? "workingDirectory" = none :=
      closed_absent hparams (by decide)
    obtain hx | ⟨dir, hx⟩ := text_field hparams (k := "working_directory") rfl only_type
    · rw [Json.getD, hx]
      decide
    · rw [Json.getD, hx]
      exact hcommand.directory dir (by rw [workingDirectory, habsent, Json.getD, hx]; rfl)

/-- A step with arguments runs them and a refused one nothing. -/
theorem switchWorks_of_not (h : ¬RunsCommand params) : SwitchWorks env host params := by
  rintro x settings step snapshot rfl rfl hsettings hoff hsnapshot htype rfl
  rw [Executor.executeCommand, hsnapshot]
  refine .bind_of .ofExcept fun prepared t hprepared => ?_
  cases prepared with
  | error refusal => exact Executor.always_failStep (fun _ => trivial) _ _
  | ok handler =>
    obtain ⟨hlookup, hvalid, -⟩ := Executor.prepareAction_ok.1 hprepared.2.symm
    rw [htype] at hlookup
    obtain rfl := lookupHandler_shellCommand hlookup
    have hparams : (x.actionContext step).params = snapshot.params := by
      rw [ActionContext.params, Executor.actionContext, hsnapshot]
    refine .bind (.request trivial) fun _ => .bind ?_ fun _ => .bind (.request trivial) fun _ =>
      Executor.always_reportStep (fun _ => trivial) _ .pure
    refine always_execute_script fun hunblocked hblank => ?_
    rw [hparams] at hunblocked hblank ⊢
    have hopen := hunblocked settings hsettings
    obtain ⟨hmode, argv, hargv, -⟩ | ⟨hmode, command, hcommand, -⟩ := validate_ok hvalid
    · exact ⟨argv, hargv, scriptOf_argv hmode hargv⟩
    · have hundeclared : snapshot.params.get? "commandMode" = none := by
        simpa [hmode, hoff] using hopen
      refine absurd ⟨hundeclared, ?_, ?_, ?_⟩ h
      · rw [← Bool.not_eq_true, ← commandMode_undeclared hundeclared, hmode]
        decide
      · exact directory_of_validate hvalid
      · rw [scriptOf_command hmode, strip_withDirectory] at hblank
        obtain ⟨dir, hdir, hne⟩ | hcommand := hblank
        · exact .inl (by simp [hdir, Json.truthy, hne])
        · exact .inr hcommand

/-- **A step** may run its script when nothing stops it. -/
theorem may_executeCommand_script {P : Call → Prop} {x : Executor} {settings : RunnerSettings}
    {step : ClaimedStep} {snapshot : ActionSnapshot} (hsettings : x.settings = some settings)
    (hprovider : settings.sandboxProvider = "local_process")
    (hlive : x.execution.executionMode = "live") (hartifacts : step.artifacts = [])
    (hsecrets : step.secretKeys = []) (hsnapshot : step.actionSnapshot = some snapshot)
    (hlookup : lookupHandler snapshot.type snapshot.version = some .shellCommand)
    (hvalid : validate x.env snapshot.params = .ok ())
    (hopen : snapshot.params.get? "commandMode" = none)
    (hscript : strip (scriptOf x.env snapshot.params) ≠ "")
    (h : ∀ cwd spec, P (.popen ["/bin/bash", "-c",
      s!"set -euo pipefail\n{scriptOf x.env snapshot.params}"] cwd spec)) :
    (x.executeCommand step).May P := by
  have hparams : (x.actionContext step).params = snapshot.params := by
    rw [ActionContext.params, Executor.actionContext, hsnapshot]
  have hprepared : (Comp.ofExcept (x.prepareAction step snapshot) : Task _).Runs []
      (.ok (.ok .shellCommand)) :=
    ⟨rfl, (Executor.prepareAction_ok.2 ⟨hlookup, hvalid, hsecrets⟩).symm⟩
  rw [Executor.executeCommand, hsnapshot]
  refine .bind_right hprepared (.bind_right (runs_request.2 ⟨0, rfl, rfl⟩) (.bind_left ?_))
  rw [← hparams] at hopen hscript h
  exact may_execute_script hsettings hprovider hlive hartifacts hopen hscript h

/-- **The free-form command** reaches the shell. -/
theorem not_switchWorks (h : RunsCommand params) (hvalid : validate env params = .ok ()) :
    ¬SwitchWorks env host params := by
  intro hworks
  obtain ⟨hmode, argv, hargv, hne⟩ | ⟨hmode, command, hcommand, hne⟩ := validate_ok hvalid
  · rw [commandMode_undeclared h.undeclared, h.noArgv] at hmode
    cases hmode
  let snapshot : ActionSnapshot := { type := "shell_command", version := "pilot.v1", params }
  let step : ClaimedStep :=
    { id := 0, position := 0, stepKey := "", name := "", stepType := "shell_command"
      riskLevel := "low", status := .pending, actionSnapshot := some snapshot }
  let x : Executor :=
    { env, host, settings := some {}, execution := { id := 0, steps := [step] }, claimToken := ""
      polls := 0 }
  have htext : textOf params "command" "" = command := by
    rw [textOf, Json.getD, hcommand]
    rfl
  have hblank : strip (scriptOf env params) ≠ "" := by
    rw [scriptOf_command hmode, strip_withDirectory]
    refine h.notBlank.imp_left fun hdir => ?_
    simp only [validate, except_bind_ok] at hvalid
    obtain ⟨_, -, hvalid⟩ := hvalid
    cases hx : workingDirectory params with
    | str dir =>
      refine ⟨dir, rfl, ?_⟩
      rintro rfl
      rw [hx] at hdir
      cases hdir
    | null =>
      rw [hx] at hdir
      cases hdir
    | _ =>
      rw [hx] at hvalid
      cases hvalid
  have hmay : (x.executeCommand step).May fun c => ¬RunsArgv params c := by
    refine may_executeCommand_script (show x.settings = some {} from rfl) rfl rfl rfl rfl
      (show step.actionSnapshot = some snapshot from rfl) rfl hvalid h.undeclared hblank ?_
    rintro cwd spec ⟨script, ⟨argv, hargv, rfl⟩, hscript⟩
    have hsame : scriptOf env params = argvScript params argv := by
      have hlist := congrArg String.toList (List.cons.inj (List.cons.inj
        (List.cons.inj hscript).2).2).1
      simp only [toString, String.toList_append, List.append_cancel_left_eq] at hlist
      exact String.toList_inj.1 hlist
    obtain rfl : argv = [] := by
      have hnil := h.noArgv
      rw [Json.getD, hargv] at hnil
      simpa [Json.truthy] using hnil
    rw [scriptOf_command hmode, htext] at hsame
    exact hne (withDirectory_injective hsame)
  obtain ⟨c, hc, hnot⟩ := (hworks x {} step snapshot rfl rfl rfl rfl rfl rfl rfl).may hmay
  exact hnot hc

/-- **The shell switch** works exactly for the accepted steps that do not run their command. -/
theorem shell_switch_iff (haccepted : Accepted env params) :
    SwitchWorks env host params ↔ ¬RunsCommand params := by
  constructor
  · intro hworks hcommand
    exact not_switchWorks hcommand (haccepted.validate hcommand) hworks
  · exact switchWorks_of_not

/-- A step that declares its arguments. -/
theorem shell_switch_argv :
    SwitchWorks .sample .sample
        (.obj [("commandMode", .str "argv"), ("argv", .arr [.str "ls", .str "-l"])]) ↔
      ¬RunsCommand (.obj [("commandMode", .str "argv"), ("argv", .arr [.str "ls", .str "-l"])]) :=
  shell_switch_iff (.inl rfl)

/-- The free-form command of a step that declares no mode runs. -/
theorem undeclared_command_runs :
    ¬∀ params : Json, Accepted .sample params → SwitchWorks .sample .sample params := by
  intro h
  have hvalid : validate .sample (.obj [("command", .str "id; whoami")]) = .ok () := rfl
  refine not_switchWorks ?_ hvalid (h _ (.inl hvalid))
  exact ⟨rfl, rfl, nofun, .inr (by decide)⟩

end ShellCommand

end RunbookPlatform
