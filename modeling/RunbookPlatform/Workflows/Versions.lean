import RunbookPlatform.Executions.Payload

/-!
# The action contract of a step

Three programs resolve the type and the version of an action: the validator, the policies
and the runner. The validator reads an absent version as that of the catalog, the other two
as the empty text.

## Main definitions

- `validatedContract` — the contract that the validator checks the step against
- `OneContract` — the three programs agree, and the runner supports the contract
- `liftV1Step` — one step of `_lift_v1_steps`

## Main results

- `one_contract_iff` — they agree on a step of an accepted definition exactly when its
  action has a version
- `liftV1Step_version` — which no step of a lifted v1 workflow has
-/

namespace RunbookPlatform

open Schema

variable {env : Env} {message : Schema → Json → String} {lax : Coercions}
  {definition step : Json} {u : Unit}

/-- The type and version that the validator checks the step against. -/
def validatedContract (env : Env) (definition step : Json) : String × String :=
  (textOf (actionOf step) "type" "",
    effectiveVersion (actionOf step) (pyStr env (catalogVersionOf definition)))

/-- One contract for the step `row` of an execution of the definition: the policies match
their conditions on it, and the runner looks it up and finds a handler. -/
structure OneContract (env : Env) (lax : Coercions) (definition : Json) (id : ℕ)
    (row : ExecutionStep) (contract : String × String) : Prop where
  policies : ∀ (execution : Execution) (evaluatedAt : Time),
    execution.workflowSnapshot = definition →
      ∃ context, buildEvaluationContext execution row evaluatedAt = .ok context ∧
        (context.actionType, context.actionVersion) = (Json.str contract.1, Json.str contract.2)
  runner : ∃ claimed snapshot,
    ClaimedStep.modelValidate lax (internalExecutionStep id row) = some claimed ∧
      claimed.actionSnapshot = some snapshot ∧ (snapshot.type, snapshot.version) = contract
  supported : ∃ handler, lookupHandler contract.1 contract.2 = some handler

-- ════════════════════════════════════════════════════════════════════════
-- The policies
-- ════════════════════════════════════════════════════════════════════════

theorem objectOrEmpty_of_get {v x : Json} {key : String} (h : v.get? key = some x) :
    objectOrEmpty v = .ok v := by
  cases v with
  | obj fs =>
    cases fs with
    | nil => cases h
    | cons kv fs => rfl
  | _ => cases h

theorem objectOrEmpty_optional {v : Json} {key : String}
    (h : ∀ x, v.get? key = some x → ∃ fs, x = .obj fs) :
    ∃ w, objectOrEmpty (v.getD key .null) = .ok w := by
  rw [Json.getD]
  cases hx : v.get? key with
  | none => exact ⟨.obj [], rfl⟩
  | some x =>
    obtain ⟨fs, rfl⟩ := h x hx
    cases fs with
    | nil => exact ⟨.obj [], rfl⟩
    | cons kv fs => exact ⟨_, rfl⟩

/-- **The policies** read the type and the version of an accepted step as they are. -/
theorem buildEvaluationContext_accepted {execution : Execution} {row : ExecutionStep}
    {evaluatedAt : Time} {action : Json} (h : StepAccepted row.stepSnapshot)
    (haction : row.stepSnapshot.get? "action" = some action)
    (hworkflow : ∃ x, execution.workflowSnapshot.get? "steps" = some x) :
    ∃ context, buildEvaluationContext execution row evaluatedAt = .ok context ∧
      context.actionType = action.getD "type" (.str "") ∧
      context.actionVersion = action.getD "version" (.str "") := by
  obtain ⟨_, _, _, action', -, haction', -, hvalid⟩ := h.exists_action
  obtain rfl : action' = action := Option.some.inj (haction'.symm.trans haction)
  obtain ⟨type, htype⟩ := closed_required hvalid (type_mem_actionRequired _)
  obtain ⟨steps, hsteps⟩ := hworkflow
  obtain ⟨retry, hretry⟩ := objectOrEmpty_optional fun x (hx : _ = some x) =>
    closed_object (closed_property h.fields (k := "retry") rfl hx)
  obtain ⟨idempotency, hidempotency⟩ := objectOrEmpty_optional fun x (hx : _ = some x) =>
    closed_object (closed_property h.fields (k := "idempotency") rfl hx)
  obtain ⟨dryRun, hdryRun⟩ := objectOrEmpty_optional fun x (hx : _ = some x) =>
    closed_object (closed_property h.fields (k := "dryRun") rfl hx)
  have haction : row.stepSnapshot.getD "action" .null = action' := by
    rw [Json.getD, haction]
    rfl
  simp only [buildEvaluationContext, ok_bind, objectOrEmpty_of_get haction', haction,
    objectOrEmpty_of_get htype, hretry, hidempotency, hdryRun, objectOrEmpty_of_get hsteps]
  obtain ⟨hsecrets, -⟩ := list_field h.fields (k := "secrets") rfl rfl
  obtain ⟨hartifacts, hartifact⟩ := list_field h.fields (k := "artifacts") rfl rfl
  have hobjects : (listOf row.stepSnapshot "artifacts").all Json.isObj = true := by
    refine List.all_eq_true.2 fun x hx => ?_
    obtain ⟨fs, rfl⟩ := closed_object (hartifact x hx)
    rfl
  rw [hsecrets, hartifacts]
  simp only [Json.iterate?, Option.isNone_some, Bool.false_eq_true, if_false, hobjects,
    Bool.not_true]
  exact ⟨_, rfl, rfl, rfl⟩

-- ════════════════════════════════════════════════════════════════════════
-- The contract
-- ════════════════════════════════════════════════════════════════════════

theorem lookupHandler_actionTypes {actionType : String} {params : Schema} {needsParams : Bool}
    (h : (actionType, params, needsParams) ∈ actionTypes) :
    ∃ handler, lookupHandler actionType "pilot.v1" = some handler := by
  simp only [actionTypes, List.mem_cons, Prod.mk.injEq, List.not_mem_nil, or_false] at h
  rcases h with ⟨rfl, -, -⟩ | ⟨rfl, -, -⟩ | ⟨rfl, -, -⟩ | ⟨rfl, -, -⟩ | ⟨rfl, -, -⟩
  all_goals exact ⟨_, rfl⟩

/-- **One contract**: the validator, the policies and the runner agree on a step of an
accepted definition, and the runner supports its action, exactly when its action has a
version. -/
theorem one_contract_iff (haccepted : validateV2 env message definition = .ok u)
    (hstep : step ∈ listOf definition "steps") {execution position : ℕ} {row : ExecutionStep}
    (hrow : stepRow env execution position "workflow.schema.v2" step = .ok row) (id : ℕ) :
    OneContract env lax definition id row (validatedContract env definition step) ↔
      ((actionOf step).get? "version").isSome = true := by
  obtain ⟨rfl, hpending, -⟩ := stepRow_snapshot hrow
  have h := accepted_steps haccepted hstep
  obtain ⟨actionType, params, needsParams, action, hmem, haction, -, hvalid⟩ := h.exists_action
  have hactionOf := actionOf_of_get haction
  obtain ⟨hschema, hcatalog, -⟩ := validateV2_ok haccepted
  have hcontract : validatedContract env definition row.stepSnapshot =
      (textOf action "type" "", "pilot.v1") := by
    have hversion := h.contract
    rw [hactionOf] at hversion
    rw [validatedContract, hcatalog, hactionOf]
    exact Prod.ext rfl hversion
  have htype : textOf action "type" "" = actionType := by
    rw [textOf, Json.getD, actionSchema_type hvalid]
    rfl
  rw [hcontract, htype]
  constructor
  · rintro ⟨-, ⟨claimed, snapshot, hclaimed, hsnapshot, heq⟩, -⟩
    rw [modelValidate_accepted h (by simp [hpending]), Option.some.injEq] at hclaimed
    subst hclaimed
    rw [claimedStep, Option.some.injEq] at hsnapshot
    subst hsnapshot
    rw [hactionOf] at heq ⊢
    rw [Option.isSome_iff_ne_none]
    intro habsent
    -- the runner reads an absent version as the empty text
    have hempty : textOf action "version" "" = "" := by
      rw [textOf, Json.getD, habsent]
      rfl
    have hruntime : (declaredAction action).version = "pilot.v1" := congrArg Prod.snd heq
    rw [show (declaredAction action).version = "" from hempty] at hruntime
    exact absurd hruntime (by decide)
  · intro hpresent
    have htext := h.version hpresent
    rw [hactionOf] at htext
    refine ⟨fun execution evaluatedAt hworkflow => ?_, ⟨claimedStep id row, _,
      modelValidate_accepted h (by simp [hpending]), rfl, ?_⟩, lookupHandler_actionTypes hmem⟩
    · obtain ⟨context, hcontext, hcontextType, hcontextVersion⟩ :=
        buildEvaluationContext_accepted h haction
          (hworkflow ▸ closed_required hschema (show "steps" ∈ _ by simp))
      refine ⟨context, hcontext, ?_⟩
      rw [hcontextType, hcontextVersion, Json.getD, Json.getD, actionSchema_type hvalid, htext]
      rfl
    · rw [hactionOf, declaredAction, htype, textOf, Json.getD, htext]
      rfl

/-- The contract of a step with a version. -/
theorem one_contract_secretRow :
    OneContract .sample ⟨fun _ => none, fun _ => none⟩ secretDefinition 0 secretRow
        (validatedContract .sample secretDefinition secretStep) ↔
      ((actionOf secretStep).get? "version").isSome = true :=
  one_contract_iff secretDefinition_ok (List.mem_singleton.2 rfl) secretRow_ok 0

/-- An accepted step without an action version. -/
def unversionedStep : Json :=
  .obj
    [ ("id", .str "check"),
      ("name", .str "Check"),
      ("type", .str "manual_task"),
      ("risk", .str "low"),
      ("action", .obj [("type", .str "manual_task")]) ]

/-- Its workflow. -/
def unversionedDefinition : Json :=
  .obj
    [ ("schemaVersion", .str "2"),
      ("name", .str "Check"),
      ("steps", .arr [unversionedStep]) ]

/-- The row of that step. -/
def unversionedRow : ExecutionStep where
  execution := 0
  position := 1
  stepKey := "check"
  name := "Check"
  stepType := "manual_task"
  riskLevel := "low"
  stepSnapshot := unversionedStep

/-- The validator accepts the step for version `pilot.v1`, the policies see the empty text
as its version, and the runner refuses it as an unsupported action contract. -/
theorem unversioned_step_refused :
    (validateV2 .sample (fun _ _ => "") unversionedDefinition).isOk = true ∧
      stepRow .sample 0 1 "workflow.schema.v2" unversionedStep = .ok unversionedRow ∧
      validatedContract .sample unversionedDefinition unversionedStep =
        ("manual_task", "pilot.v1") ∧
      (∃ context, buildEvaluationContext
          { organization := 0, workflow := 0, workflowVersion := 1
            workflowSnapshot := unversionedDefinition } unversionedRow 0 = .ok context ∧
        context.actionVersion = .str "") ∧
      ∃ snapshot, (claimedStep 0 unversionedRow).actionSnapshot = some snapshot ∧
        lookupHandler snapshot.type snapshot.version = none ∧
        ∃ text, (Executor.sample ⟨0, [], "live", none, [], none⟩).prepareAction
          (claimedStep 0 unversionedRow) snapshot =
            .ok (.error ⟨text, "unsupported_action_contract"⟩) := by
  refine ⟨by decide, rfl, by decide, ⟨_, rfl, rfl⟩, _, rfl, by decide, ?_⟩
  exact ⟨_, rfl⟩

-- ════════════════════════════════════════════════════════════════════════
-- Lifted workflows
-- ════════════════════════════════════════════════════════════════════════

/-- An entry that is copied when it is there. -/
def copied (step : Json) (key : String) : List (String × Json) :=
  ((step.get? key).map fun v => (key, v)).toList

/-- One step of `_lift_v1_steps`. -/
def liftV1Step (step : Json) : Json :=
  let stepType := step.getD "type" (.str "")
  let (liftedType, action) : Json × List (String × Json) :=
    if stepType = .str "manual_task" then (.str "manual_task", [("type", .str "manual_task")])
    else if stepType = .str "approval" then
      (.str "approval_gate",
        ("type", .str "approval_gate") ::
          ((step.get? "approvalTimeoutSeconds").map fun seconds =>
            ("params", Json.obj [("timeout_seconds", seconds)])).toList)
    else if stepType = .str "shell_command" then
      (.str "shell_command",
        [ ("type", .str "shell_command"),
          ("params", .obj [("command", step.getD "command" (.str ""))]) ])
    else (stepType, [("type", stepType)])
  .obj
    ([ ("id", step.getD "id" (.str "")),
        ("name", step.getD "name" (.str "")),
        ("risk", step.getD "risk" (.str "low")),
        ("retry", .obj [("maxAttempts", .int 1)]),
        ("idempotency", .obj [("mode", .str "none")]),
        ("artifacts", .arr []),
        ("secrets", .arr []) ] ++
      copied step "requiresApproval" ++ copied step "approvalTimeoutSeconds" ++
      [("type", liftedType), ("action", .obj action)])

/-- **Lifted steps** have no action version, so that no accepted one of them has one
contract. -/
theorem liftV1Step_version (step : Json) :
    ((actionOf (liftV1Step step)).get? "version").isSome = false := by
  have hcopied : ∀ key, key ≠ "action" → (copied step key).lookup "action" = none := by
    intro key hkey
    cases hx : step.get? key <;> simp [copied, hx, List.lookup_cons, beq_false_of_ne hkey.symm]
  have haction : ∀ head type action, head.lookup "action" = none →
      (Json.obj (head ++ copied step "requiresApproval" ++ copied step "approvalTimeoutSeconds" ++
        [("type", type), ("action", action)])).get? "action" = some action := by
    intro head type action hhead
    simp [Json.get?, Json.fields, List.lookup_append, hcopied, hhead, List.lookup_cons]
  rw [actionOf, Json.getD, liftV1Step, haction _ _ _ rfl]
  generalize step.get? "approvalTimeoutSeconds" = seconds
  simp only [Option.getD_some, Json.get?, Json.fields]
  by_cases hmanual : step.getD "type" (.str "") = .str "manual_task"
  · rw [if_pos hmanual]
    rfl
  by_cases happroval : step.getD "type" (.str "") = .str "approval"
  · rw [if_neg hmanual, if_pos happroval]
    cases seconds <;> rfl
  by_cases hshell : step.getD "type" (.str "") = .str "shell_command"
  · rw [if_neg hmanual, if_neg happroval, if_pos hshell]
    rfl
  · rw [if_neg hmanual, if_neg happroval, if_neg hshell]
    rfl

end RunbookPlatform
