import RunbookPlatform.Executions.Payload

/-!
# What the runner can run

The validator accepts an action by the schema of its parameters and the pilot
restrictions; the runner validates the parameters again in its handler. The handlers are
stricter in two places: they require HTTPS, and they bound the length of the working
directory. A sandboxed runner supports none of the v1 step types.

## Main definitions

- `RunnerGuards` — what the handlers require beyond the validator

## Main results

- `hasParentPart_of_traversesUp` — a path that the validator lets through has no part `..`
- `accepted_runnable` — what a sandboxed runner does with the steps of an accepted
  definition
-/

namespace RunbookPlatform

open Schema

-- ════════════════════════════════════════════════════════════════════════
-- Paths
-- ════════════════════════════════════════════════════════════════════════

section Paths

variable {α : Type} [DecidableEq α] {sep other : α}

/-- When another character becomes a separator as well, the parts without that character
stay parts, and the first part stays the first. -/
theorem splitOn_map (text : List α) :
    ∃ head tail head' tail', text.splitOn sep = head :: tail ∧
      (text.map fun c => if c = other then sep else c).splitOn sep = head' :: tail' ∧
      (other ∉ head → head' = head) ∧ ∀ part ∈ tail, other ∉ part → part ∈ tail' := by
  induction text with
  | nil => exact ⟨[], [], [], [], rfl, rfl, fun _ => rfl, fun _ h => nomatch h⟩
  | cons c text ih =>
    obtain ⟨head, tail, head', tail', hsplit, hsplit', hhead, htail⟩ := ih
    rw [List.splitOn] at hsplit hsplit'
    rw [List.map_cons, List.splitOn, List.splitOn, List.splitOnP_cons_eq_if_modifyHead,
      List.splitOnP_cons_eq_if_modifyHead, hsplit, hsplit']
    by_cases hsep : c = sep
    · refine ⟨[], head :: tail, [], head' :: tail', by simp [hsep], by simp [hsep],
        fun _ => rfl, fun part hpart hother => ?_⟩
      rcases List.mem_cons.1 hpart with rfl | hpart
      · exact hhead hother ▸ List.mem_cons_self
      · exact List.mem_cons_of_mem _ (htail part hpart hother)
    by_cases hc : c = other
    · refine ⟨c :: head, tail, [], head' :: tail', by simp [hsep], by simp [hc],
        fun h => absurd (hc ▸ List.mem_cons_self) h, fun part hpart hother => ?_⟩
      exact List.mem_cons_of_mem _ (htail part hpart hother)
    · refine ⟨c :: head, tail, c :: head', tail', by simp [hsep], by simp [hsep, hc],
        fun h => ?_, htail⟩
      rw [hhead fun hmem => h (List.mem_cons_of_mem _ hmem)]

theorem mem_splitOn_map {text part : List α} (h : part ∈ text.splitOn sep)
    (hother : other ∉ part) :
    part ∈ (text.map fun c => if c = other then sep else c).splitOn sep := by
  obtain ⟨head, tail, head', tail', hsplit, hsplit', hhead, htail⟩ :=
    splitOn_map text
  rw [hsplit] at h
  rw [hsplit']
  rcases List.mem_cons.1 h with rfl | h
  · exact hhead hother ▸ List.mem_cons_self
  · exact List.mem_cons_of_mem _ (htail part h hother)

end Paths

/-- **Paths** that the validator lets through have no part `..` for the runner. -/
theorem hasParentPart_of_traversesUp {path : String} (h : traversesUp path = false) :
    hasParentPart path = false := by
  rw [← Bool.not_eq_true, hasParentPart, List.contains_iff_mem, splitOnChar, List.mem_map]
  rintro ⟨part, hpart, hup⟩
  obtain rfl : part = ['.', '.'] := by
    rw [← String.toList_ofList (l := part), hup]
    rfl
  have hmem := mem_splitOn_map hpart (show '\\' ∉ ['.', '.'] by decide)
  rw [traversesUp, ← Bool.not_eq_true, List.contains_iff_mem, splitText, slashes,
    String.toList_map] at h
  exact h hmem

-- ════════════════════════════════════════════════════════════════════════
-- v2 actions
-- ════════════════════════════════════════════════════════════════════════

variable {env : Env} {host : Host} {message : Schema → Json → String} {lax : Coercions}
  {definition step params action : Json} {u : Unit}

theorem requireParam_ok {ok : Prop} [Decidable ok] {text : String} {u : Unit} :
    requireParam ok text = .ok u ↔ ok := by
  by_cases h : ok <;> simp [requireParam, h]

/-- What the handlers require of an accepted step beyond the validator. -/
structure RunnerGuards (step : Json) : Prop where
  https : step.get? "type" = some (.str "http_request") →
    (textOf ((actionOf step).getD "params" .null) "url" "").startsWith "https://" = true
  workingDirectory : step.get? "type" = some (.str "shell_command") →
    (textOf ((actionOf step).getD "params" .null) "working_directory" "").length ≤ 512

theorem isNoneOrText_field {v : Json} {keys : List String} {ps : List (String × Schema)}
    {k : String} {s : Schema} (h : (closed keys ps).valid v = true) (hp : ps.lookup k = some s)
    (hs : s.Only .string) : isNoneOrText (v.getD k .null) = true := by
  rcases text_field h hp hs with hx | ⟨t, hx⟩ <;> rw [Json.getD, hx] <;> rfl

theorem manualTask_validate (h : manualTaskParams.valid params = true) :
    ManualTask.validate params = .ok () :=
  requireParam_ok.2 (isNoneOrText_field h (k := "instructions") rfl only_all)

theorem approvalGate_validate (h : approvalGateParams.valid params = true) :
    ApprovalGate.validate params = .ok () := by
  have happrovers : params.get? "approvers" = none := closed_absent h (by decide)
  have htimeout : params.get? "approval_timeout_seconds" = none := closed_absent h (by decide)
  rw [ApprovalGate.validate, Json.getD, happrovers, Json.getD, htimeout]
  rfl

theorem nonemptyText_field {v : Json} {keys : List String} {ps : List (String × Schema)}
    {k : String} (h : (closed keys ps).valid v = true) (hp : ps.lookup k = some nonemptyText)
    (hk : k ∈ keys) : ∃ t, v.get? k = some (.str t) ∧ t ≠ "" := by
  obtain ⟨x, hx⟩ := closed_required h hk
  have hvalid := closed_property h hp hx
  obtain ⟨t, rfl⟩ := valid_string.1 (valid_all.1 hvalid (type .string) (by simp))
  refine ⟨t, hx, ?_⟩
  rintro rfl
  have hlength := valid_all.1 hvalid (minLength 1) (by simp)
  rw [valid_minLength] at hlength
  exact absurd hlength (by decide)

theorem artifactAssertion_validate (h : artifactAssertionParams.valid params = true) :
    ArtifactAssertion.validate params = .ok () := by
  have hclosed := valid_all.1 h (closed _ _) List.mem_cons_self
  obtain ⟨key, hkey, hne⟩ := nonemptyText_field hclosed (k := "artifact_key") rfl (by simp)
  have hkind : params.get? "expected_kind" = none := closed_absent hclosed (by decide)
  have hmime : params.get? "expected_mime_type" = none := closed_absent hclosed (by decide)
  simp only [ArtifactAssertion.validate, except_bind_ok, requireParam_ok, Json.getD, hkey, hkind,
    hmime]
  exact ⟨(), by simp [Json.truthy, hne], (), rfl, rfl⟩

theorem validateCommand_accepted (h : shellCommandParams.valid params = true) :
    ShellCommand.validateCommand env params = .ok () := by
  obtain ⟨command, hcommand, hne⟩ := nonemptyText_field h (k := "command") rfl (by simp)
  have hmode : ShellCommand.commandMode params = .str "shell" := by
    have hcommandMode : params.get? "commandMode" = none := closed_absent h (by decide)
    have hargv : params.get? "argv" = none := closed_absent h (by decide)
    simp [ShellCommand.commandMode, Json.getD, hcommandMode, hargv, hcommand, Json.truthy, hne]
  rw [ShellCommand.validateCommand, hmode, if_neg (by decide), if_pos rfl, requireParam_ok,
    Json.getD, hcommand]
  exact ⟨by simp [Json.truthy, hne], rfl⟩

/-- **`shell_command`**: the handler bounds the length of the working directory. -/
theorem shellCommand_validate {stepId : String} (h : shellCommandParams.valid params = true)
    (hrestricted : checkShellCommandRestrictions stepId params = .ok ()) :
    ShellCommand.validate env params = .ok () ↔
      (textOf params "working_directory" "").length ≤ 512 := by
  have hdir : ShellCommand.workingDirectory params = params.getD "working_directory" .null := by
    have habsent : params.get? "workingDirectory" = none := closed_absent h (by decide)
    rw [ShellCommand.workingDirectory, habsent]
  rw [ShellCommand.validate, validateCommand_accepted h, ok_bind, hdir, Json.getD]
  simp only [checkShellCommandRestrictions, except_bind_ok, check_ok] at hrestricted
  obtain ⟨_, -, _, hrelative, hparent⟩ := hrestricted
  rcases text_field h (k := "working_directory") rfl only_type with hx | ⟨dir, hx⟩
  · rw [textOf, Json.getD, hx]
    exact ⟨fun _ => by decide, fun _ => rfl⟩
  · rw [textOf, Json.getD, hx] at hrelative hparent ⊢
    have hpart : hasParentPart dir = false :=
      hasParentPart_of_traversesUp (Bool.eq_false_iff.2 hparent)
    simp only [Option.getD_some, Json.str?] at hrelative ⊢
    simp only [ShellCommand.validateWorkingDirectory, except_bind_ok, requireParam_ok, isAbsolute,
      hrelative, hpart]
    simp

/-- The allowed methods are ASCII texts in upper case. -/
theorem allowedMethod_upper {t : String}
    (ht : t ∈ ["GET", "POST", "PUT", "PATCH", "DELETE", "HEAD"]) :
    t ≠ "" ∧ (∀ c ∈ t.toList, c.toNat < 128) ∧ t.map Char.toUpper = t ∧
      HttpRequest.allowedMethods.contains t = true := by
  have hall : ∀ t ∈ ["GET", "POST", "PUT", "PATCH", "DELETE", "HEAD"],
      t ≠ "" ∧ t.toList.all (·.toNat < 128) = true ∧ t.map Char.toUpper = t ∧
        HttpRequest.allowedMethods.contains t = true := by decide +kernel
  obtain ⟨hne, hascii, hrest⟩ := hall t ht
  exact ⟨hne, by simpa using hascii, hrest⟩

/-- **`http_request`**: the handler requires HTTPS. -/
theorem httpRequest_validate (h : httpRequestParams.valid params = true) :
    HttpRequest.validate env host params = .ok () ↔
      (textOf params "url" "").startsWith "https://" = true := by
  obtain ⟨url, hx, hne⟩ := nonemptyText_field h (k := "url") rfl (by simp)
  obtain ⟨method, hmethod⟩ := closed_required h (show "method" ∈ _ by simp)
  have hamong : (textAmong _).valid method = true := closed_property h rfl hmethod
  obtain ⟨text, htext, rfl⟩ := valid_enum.1 (valid_all.1 hamong _ (.tail _ (.head _)))
  have hallowed : HttpRequest.methodOf host params = .ok text ∧
      HttpRequest.allowedMethods.contains text = true := by
    obtain ⟨hne, hascii, hsame, hcontains⟩ := allowedMethod_upper htext
    refine ⟨?_, hcontains⟩
    simp [HttpRequest.methodOf, Json.getD, hmethod, Json.orElse, Json.truthy, hne,
      host.upper_ascii text hascii, hsame]
  have hheaders : params.getD "headers" .null = .null ∨
      (params.getD "headers" .null).isObj = true := by
    rw [Json.getD]
    rcases typed_field h (k := "headers") rfl only_all with hx | ⟨x, hx, hobject⟩
    · exact .inl (by rw [hx]; rfl)
    · obtain ⟨fs, rfl⟩ := valid_object.1 hobject
      exact .inr (by rw [hx]; rfl)
  have hurl : params.getD "url" .null = .str url := by
    rw [Json.getD, hx]
    rfl
  have hurlText : textOf params "url" "" = url := by
    rw [textOf, Json.getD, hx]
    rfl
  simp only [HttpRequest.validate, except_bind_ok, requireParam_ok, hurl, hallowed.1, hurlText]
  constructor
  · rintro ⟨_, -, _, hhttps, -⟩
    exact hhttps
  · intro hhttps
    exact ⟨(), by simp [Json.truthy, Json.isStr, hne], (), hhttps, text, rfl, (), hallowed.2,
      hheaders⟩

-- ════════════════════════════════════════════════════════════════════════
-- The handlers
-- ════════════════════════════════════════════════════════════════════════

/-- The parameters of a conforming action conform to the schema of its type. -/
theorem actionSchema_params {actionType : String} {params : Schema} {needsParams : Bool}
    (h : (actionSchema actionType params needsParams).valid action = true)
    (hempty : needsParams = false → params.valid (.obj []) = true) :
    params.valid (action.getD "params" (.obj [])) = true ∧
      (needsParams = true → action.getD "params" .null = action.getD "params" (.obj [])) := by
  rw [Json.getD, Json.getD]
  cases hx : action.get? "params" with
  | some p => exact ⟨closed_property h rfl hx, fun _ => rfl⟩
  | none =>
    cases needsParams with
    | false => exact ⟨hempty rfl, by simp⟩
    | true =>
      obtain ⟨p, hp⟩ := closed_required h (show "params" ∈ ["type", "params"] by simp)
      rw [hx] at hp
      cases hp

theorem truthy_of_get {v x : Json} {key : String} (h : v.get? key = some x) :
    v.truthy = true := by
  cases v with
  | obj fs =>
    cases fs with
    | nil => cases h
    | cons kv fs => rfl
  | _ => cases h

/-- The pilot restrictions look at the parameters that the handler gets. -/
theorem pilotParams (hparams : action.getD "params" .null = params)
    (htruthy : params.truthy = true) : (actionPayload action).orElse (.obj []) = params := by
  rw [actionPayload, hparams, Json.orElse, Json.orElse, if_pos htruthy, if_pos htruthy]

/-- **The handler** of an accepted step accepts its parameters when the guards of the runner
hold. -/
theorem handler_validate (env : Env) (host : Host) {actionType : String} {paramsSchema : Schema}
    {needsParams : Bool}
    (h : StepAccepted step) (hmem : (actionType, paramsSchema, needsParams) ∈ actionTypes)
    (haction : step.get? "action" = some action) (htype : step.get? "type" = some (.str actionType))
    (hvalid : (actionSchema actionType paramsSchema needsParams).valid action = true) :
    ∃ handler, lookupHandler actionType "pilot.v1" = some handler ∧
      (handler.validate env host (action.getD "params" (.obj [])) = .ok () ↔
        RunnerGuards step) := by
  have hactionOf := actionOf_of_get haction
  have hother : actionType ≠ "http_request" → actionType ≠ "shell_command" →
      RunnerGuards step := by
    intro hhttp hshell
    constructor <;> intro heq <;> rw [htype, Option.some.injEq, Json.str.injEq] at heq <;>
      contradiction
  obtain ⟨stepId, hrestricted⟩ := h.unrestricted
  simp only [actionTypes, List.mem_cons, Prod.mk.injEq, List.not_mem_nil, or_false] at hmem
  rcases hmem with ⟨rfl, rfl, rfl⟩ | ⟨rfl, rfl, rfl⟩ | ⟨rfl, rfl, rfl⟩ | ⟨rfl, rfl, rfl⟩ |
    ⟨rfl, rfl, rfl⟩
  · have hparams := actionSchema_params hvalid fun _ => by decide
    exact ⟨_, rfl, fun _ => hother (by decide) (by decide),
      fun _ => manualTask_validate hparams.1⟩
  · have hparams := actionSchema_params hvalid fun _ => by decide
    exact ⟨_, rfl, fun _ => hother (by decide) (by decide),
      fun _ => approvalGate_validate hparams.1⟩
  · have hparams := actionSchema_params hvalid nofun
    obtain ⟨_, hcommand⟩ := closed_required hparams.1 (show "command" ∈ _ by simp)
    refine ⟨_, rfl, ?_⟩
    rw [hactionOf, checkPilotRestrictions, pilotParams (hparams.2 rfl) (truthy_of_get hcommand),
      show textOf step "type" "" = "shell_command" by rw [textOf, Json.getD, htype]; rfl,
      if_pos rfl] at hrestricted
    rw [ActionHandler.validate, shellCommand_validate hparams.1 hrestricted]
    refine ⟨fun hlength => ⟨fun heq => ?_, fun _ => ?_⟩, fun hguards => ?_⟩
    · exact absurd heq (by rw [htype]; decide)
    · rwa [hactionOf, hparams.2 rfl]
    · have hlength := hguards.workingDirectory htype
      rwa [hactionOf, hparams.2 rfl] at hlength
  · have hparams := actionSchema_params hvalid nofun
    refine ⟨_, rfl, ?_⟩
    rw [ActionHandler.validate, httpRequest_validate hparams.1]
    refine ⟨fun hurl => ⟨fun _ => ?_, fun heq => ?_⟩, fun hguards => ?_⟩
    · rwa [hactionOf, hparams.2 rfl]
    · exact absurd heq (by rw [htype]; decide)
    · have hurl := hguards.https htype
      rwa [hactionOf, hparams.2 rfl] at hurl
  · have hparams := actionSchema_params hvalid nofun
    exact ⟨_, rfl, fun _ => hother (by decide) (by decide),
      fun _ => artifactAssertion_validate hparams.1⟩

-- ════════════════════════════════════════════════════════════════════════
-- v1 steps
-- ════════════════════════════════════════════════════════════════════════

/-- The steps of an accepted v1 definition have the supported types. -/
theorem checkStepsV1_ok {position : ℕ} {seenIds : List String} {steps : List Json}
    (h : checkStepsV1 env position seenIds steps = .ok u) (hstep : step ∈ steps) :
    ∃ stepType ∈ supportedStepTypes, step.get? "type" = some (.str stepType) := by
  induction steps generalizing position seenIds with
  | nil => cases hstep
  | cons first rest ih =>
    simp only [checkStepsV1, except_bind_ok, check_ok] at h
    obtain ⟨_, -, _, -, _, htype, _, -, _, -, _, -, hrest⟩ := h
    rcases List.mem_cons.1 hstep with rfl | hmem
    · obtain ⟨stepType, hsupported, heq⟩ := List.mem_map.1 htype
      refine ⟨stepType, hsupported, ?_⟩
      rw [Json.getD] at heq
      cases hx : step.get? "type" with
      | none =>
        rw [hx] at heq
        cases heq
      | some v =>
        rw [hx, Option.getD_some] at heq
        rw [heq]
    · exact ih hrest hmem

/-- **A sandboxed runner** refuses the v1 step types. -/
theorem executeSandboxed_v1 {x : Executor} {settings : RunnerSettings} {claimed : ClaimedStep}
    (h : claimed.stepType ∈ supportedStepTypes) :
    x.executeSandboxed settings claimed =
      x.failStep claimed
        s!"Unsupported step_type {x.env.reprText claimed.stepType} for sandboxed execution."
        "unsupported_action_contract" := by
  have hunsupported : ∀ stepType ∈ supportedStepTypes,
      (!Executor.supportedSandboxStepTypes.contains stepType) = true := by decide
  rw [Executor.executeSandboxed, if_pos (hunsupported _ h)]

-- ════════════════════════════════════════════════════════════════════════
-- Accepted definitions
-- ════════════════════════════════════════════════════════════════════════

/-- **What a sandboxed runner can run** of an accepted definition: every v2 step with an
action version reaches the handler of its type, which accepts its parameters when the guards
of the runner hold; every v1 step without an action fails as unsupported. -/
theorem accepted_runnable {schemaVersion : String}
    (haccepted : validateWorkflowDefinition env message definition schemaVersion = .ok u)
    (hstep : step ∈ listOf definition "steps") {execution position : ℕ} {row : ExecutionStep}
    (hrow : stepRow env execution position schemaVersion step = .ok row) {id : ℕ}
    {claimed : ClaimedStep}
    (hclaimed : ClaimedStep.modelValidate lax (internalExecutionStep id row) = some claimed)
    {x : Executor} (hsandboxed : x.isSandboxed = true) :
    (schemaVersion = "workflow.schema.v2" → ((actionOf step).get? "version").isSome = true →
      ∃ snapshot handler, claimed.actionSnapshot = some snapshot ∧
        step.get? "type" = some (.str snapshot.type) ∧
        lookupHandler snapshot.type snapshot.version = some handler ∧
        (handler.validate x.env x.host snapshot.params = .ok () ↔ RunnerGuards step)) ∧
    (schemaVersion = "workflow.schema.v1" → step.get? "action" = none →
      x.executeCommand claimed = x.failStep claimed
        s!"Unsupported step_type {x.env.reprText claimed.stepType} for sandboxed execution."
        "unsupported_action_contract") := by
  obtain ⟨rfl, hpending, htype, -⟩ := stepRow_snapshot hrow
  constructor
  · rintro rfl hversion
    rw [validateWorkflowDefinition, if_neg (by decide), if_pos rfl] at haccepted
    have h := accepted_steps haccepted hstep
    obtain ⟨actionType, params, needsParams, action, hmem, haction, hstepType, hvalid⟩ :=
      h.exists_action
    rw [modelValidate_accepted h (by simp [hpending]), Option.some.injEq] at hclaimed
    subst hclaimed
    obtain ⟨handler, hhandler, hguards⟩ := handler_validate x.env x.host h hmem haction
      hstepType hvalid
    have hsnapshotType : textOf (actionOf row.stepSnapshot) "type" "" = actionType := by
      rw [textOf, Json.getD, actionOf_of_get haction, actionSchema_type hvalid]
      rfl
    have hsnapshotVersion : textOf (actionOf row.stepSnapshot) "version" "" = "pilot.v1" := by
      rw [textOf, Json.getD, h.version hversion]
      rfl
    refine ⟨declaredAction (actionOf row.stepSnapshot), handler, rfl, ?_, ?_, ?_⟩
    · rw [declaredAction, hsnapshotType]
      exact hstepType
    · rw [declaredAction, hsnapshotType, hsnapshotVersion]
      exact hhandler
    · rw [declaredAction, actionOf_of_get haction]
      exact hguards
  · rintro rfl hnone
    rw [validateWorkflowDefinition, if_pos rfl] at haccepted
    simp only [validateV1, checkSemanticsV1, except_bind_ok] at haccepted
    obtain ⟨_, -, _, -, hsteps⟩ := haccepted
    obtain ⟨stepType, hsupported, hx⟩ := checkStepsV1_ok hsteps hstep
    obtain ⟨hclaimedType, -, hsnapshot⟩ := modelValidate_internalExecutionStep hclaimed
    have haction : claimed.actionSnapshot = none := by
      have hnull : row.snapshot.getD "action" .null = .null := by
        rw [ExecutionStep.snapshot]
        split
        · rw [Json.getD, hnone]
          rfl
        · rfl
      rw [hnull] at hsnapshot
      exact (Option.some.inj hsnapshot).symm
    have hrowType : claimed.stepType ∈ supportedStepTypes := by
      rw [Json.getD, hx] at htype
      rw [hclaimedType, ← Except.ok.inj htype]
      exact hsupported
    rw [Executor.isSandboxed] at hsandboxed
    split at hsandboxed
    · rename_i settings hsettings
      rw [Executor.executeCommand, haction, hsettings]
      exact (if_pos (of_decide_eq_true hsandboxed)).trans (executeSandboxed_v1 hrowType)
    · cases hsandboxed

theorem validate_secretDefinition :
    validateWorkflowDefinition .sample (fun _ _ => "") secretDefinition "workflow.schema.v2" =
      .ok () := by
  rw [validateWorkflowDefinition, if_neg (by decide), if_pos rfl, secretDefinition_ok]

theorem secretRow_claimed :
    ClaimedStep.modelValidate ⟨fun _ => none, fun _ => none⟩ (internalExecutionStep 0 secretRow) =
      some (claimedStep 0 secretRow) :=
  modelValidate_accepted (accepted_steps secretDefinition_ok (List.mem_singleton.2 rfl))
    (by decide)

/-- What a sandboxed runner can run of a definition with one shell command. -/
theorem accepted_runnable_secretRow :
    ∃ snapshot handler, (claimedStep 0 secretRow).actionSnapshot = some snapshot ∧
      secretStep.get? "type" = some (.str snapshot.type) ∧
      lookupHandler snapshot.type snapshot.version = some handler ∧
      (handler.validate .sample .sample snapshot.params = .ok () ↔ RunnerGuards secretStep) :=
  (accepted_runnable (x := .sample ⟨0, [], "live", none, [], none⟩) validate_secretDefinition
    (List.mem_singleton.2 rfl) secretRow_ok secretRow_claimed rfl).1 rfl (by decide)

/-- A request without HTTPS. -/
def plainHttpStep : Json :=
  .obj
    [ ("id", .str "probe"),
      ("name", .str "Probe"),
      ("type", .str "http_request"),
      ("risk", .str "low"),
      ("action", .obj
        [ ("type", .str "http_request"),
          ("version", .str "pilot.v1"),
          ("params", .obj [("url", .str "http://service/health"), ("method", .str "GET")]) ]) ]

/-- Its workflow. -/
def plainHttpDefinition : Json :=
  .obj
    [ ("schemaVersion", .str "2"),
      ("name", .str "Probe"),
      ("steps", .arr [plainHttpStep]) ]

/-- The row of that step. -/
def plainHttpRow : ExecutionStep where
  execution := 0
  position := 1
  stepKey := "probe"
  name := "Probe"
  stepType := "http_request"
  riskLevel := "low"
  stepSnapshot := plainHttpStep

theorem exists_refusal {answer : Except Exn (Except Executor.Refusal ActionHandler)} {kind : String}
    (h : (match answer with
      | .ok (.error refusal) => refusal.failureKind == kind
      | _ => false) = true) :
    ∃ refusal, answer = .ok (.error refusal) ∧ refusal.failureKind = kind := by
  match answer, h with
  | .ok (.error refusal), h => exact ⟨refusal, rfl, beq_iff_eq.1 h⟩

/-- The validator accepts the request, and the runner refuses it as invalid input. -/
theorem plainHttpStep_refused :
    (validateWorkflowDefinition .sample (fun _ _ => "") plainHttpDefinition
        "workflow.schema.v2").isOk = true ∧
      stepRow .sample 0 1 "workflow.schema.v2" plainHttpStep = .ok plainHttpRow ∧
      ((actionOf plainHttpStep).get? "version").isSome = true ∧
      ∃ claimed snapshot, ClaimedStep.modelValidate ⟨fun _ => none, fun _ => none⟩
          (internalExecutionStep 0 plainHttpRow) = some claimed ∧
        claimed.actionSnapshot = some snapshot ∧
        ∃ refusal, (Executor.sample ⟨0, [claimed], "live", none, [], none⟩).prepareAction claimed
            snapshot = .ok (.error refusal) ∧
          refusal.failureKind = "action_input_invalid" := by
  have hok : (validateV2 .sample (fun _ _ => "") plainHttpDefinition).isOk = true := by
    decide +kernel
  obtain ⟨u, haccepted⟩ := exists_eq_ok hok
  refine ⟨hok, rfl, rfl, claimedStep 0 plainHttpRow, _,
    modelValidate_accepted (accepted_steps haccepted (List.mem_singleton.2 rfl)) (by decide),
    rfl, ?_⟩
  exact exists_refusal (by decide +kernel)

end RunbookPlatform
