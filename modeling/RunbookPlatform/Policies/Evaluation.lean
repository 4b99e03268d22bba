import Mathlib.Data.List.Sort
import Mathlib.Data.Prod.Lex
import RunbookPlatform.Approvals.Decisions

/-!
# Policy evaluation

Which outcome the active policy rules of an organization give a step. The first rule
that matches decides; a step that requires approval is never approved automatically; a
failure blocks.

## Main definitions

- `validateConditionParams`, `evaluateCondition` — one rule's condition
- `evaluateStepPolicy` — the evaluation, as a read
- `persistEvaluation` — its row, and the link to the change
-/

namespace RunbookPlatform

open Transactional

-- ════════════════════════════════════════════════════════════════════════
-- Conditions
-- ════════════════════════════════════════════════════════════════════════

/-- The failure of a condition's validation. -/
def invalidCondition (detail : String) : Err := .validation "invalid_condition_params" detail

/-- `_validate_enum_condition`. -/
def validateEnumCondition (params : Json) : Except Err Unit := do
  let operator := params.getD "operator" .null
  if operator = .str "in" then
    let values := ((params.getD "values" .null).items?).getD []
    if values = [] then
      throw (invalidCondition "'values' must be a non-empty list when operator is 'in'.")
    if !values.all Json.isStr then
      throw (invalidCondition "All values must be strings.")
  else if operator = .str "equals" then
    let value := params.getD "value" .null
    if !value.isStr || !value.truthy then
      throw (invalidCondition "'value' must be a non-empty string when operator is 'equals'.")
  else
    throw (invalidCondition "operator must be 'equals' or 'in'.")

/-- `_VALID_DAYS`. -/
def validDays : List String := ["mon", "tue", "wed", "thu", "fri", "sat", "sun"]

/-- One of the two times of a window, as a text. -/
def validateTimeField (name : String) (value : Json) : Except Err String := do
  match value with
  | .str text =>
    match splitOnChar ':' text with
    | [hours, minutes] =>
      match pyInt (.str hours), pyInt (.str minutes) with
      | .ok h, .ok m =>
        if 0 ≤ h ∧ h ≤ 23 ∧ 0 ≤ m ∧ m ≤ 59 then pure text
        else throw (invalidCondition s!"'{name}' is not a valid 24-hour HH:MM time.")
      | _, _ => throw (invalidCondition s!"'{name}' is not a valid 24-hour HH:MM time.")
    | _ => throw (invalidCondition s!"'{name}' must be in HH:MM format.")
  | _ => throw (invalidCondition s!"'{name}' must be a string in HH:MM format.")

/-- `_validate_time_window_condition`. -/
def validateTimeWindowCondition (env : Env) (params : Json) : Except Err Unit := do
  let zone := params.getD "timezone" .null
  check zone.truthy (invalidCondition "'timezone' is required.")
  let name ← zone.str?.elim (.error (.uncaught "TypeError")) .ok
  let _ ← env.localTime name 0
  let days := ((params.getD "days_of_week" .null).items?).getD []
  check (days ≠ []) (invalidCondition "'days_of_week' must be a non-empty list.")
  check (days.all fun d => !d.isArr && !d.isObj) (.uncaught "TypeError")
  let invalid := days.filter fun d => !(validDays.map Json.str).contains d
  check (invalid = []) (invalidCondition
    s!"Invalid days_of_week values: {(Json.arr invalid).repr env.reprText}. Use mon/tue/wed/thu/fri/sat/sun.")
  let startTime ← validateTimeField "start_time" (params.getD "start_time" .null)
  let endTime ← validateTimeField "end_time" (params.getD "end_time" .null)
  check (startTime < endTime) (invalidCondition "'start_time' must be before 'end_time'.")
  let matchWhen := params.getD "match_when" .null
  check (matchWhen = .str "inside" ∨ matchWhen = .str "outside")
    (invalidCondition "'match_when' must be 'inside' or 'outside'.")

/-- `_validate_condition_params`. -/
def validateConditionParams (env : Env) (conditionType : ConditionType) (params : Json) :
    Except Err Unit :=
  match conditionType with
  | .timeWindow => validateTimeWindowCondition env params
  | _ => validateEnumCondition params

/-- `_evaluate_enum_condition`. -/
def evaluateEnumCondition (params actual : Json) : Bool :=
  let operator := params.getD "operator" .null
  if operator = .str "equals" then actual.pyEq (params.getD "value" .null)
  else if operator = .str "in" then
    (((params.getD "values" (.arr [])).items?).getD []).any actual.pyEq
  else false

/-- `_evaluate_time_window_condition`. -/
def evaluateTimeWindowCondition (env : Env) (params : Json) (evaluatedAt : Time) :
    Except Err Bool := do
  let text (key : String) : String := ((params.getD key .null).str?).getD ""
  let (day, clock) ← env.localTime (text "timezone") evaluatedAt
  let days := ((params.getD "days_of_week" .null).items?).getD []
  let inWindow := days.contains (.str day) && text "start_time" ≤ clock && clock < text "end_time"
  pure (if params.getD "match_when" (.str "inside") = .str "inside" then inWindow else !inWindow)

/-- The facts of `_build_evaluation_context` that conditions look at. -/
structure EvaluationContext where
  riskLevel : String
  stepType : String
  executionMode : String
  actionType : Json
  actionVersion : Json
  idempotencyMode : Json
  mutatesTarget : String
  evaluatedAt : Time

/-- `value or {}`, for a value whose fields are read. -/
def objectOrEmpty (value : Json) : Except Err Json :=
  if value.truthy then
    if value.isObj then .ok value else .error (.uncaught "AttributeError")
  else .ok (.obj [])

/-- `_build_evaluation_context`. -/
def buildEvaluationContext (execution : Execution) (step : ExecutionStep) (evaluatedAt : Time) :
    Except Err EvaluationContext := do
  let snapshot ← objectOrEmpty step.stepSnapshot
  let action ← objectOrEmpty (snapshot.getD "action" .null)
  let _ ← objectOrEmpty (snapshot.getD "retry" .null)
  let idempotency ← objectOrEmpty (snapshot.getD "idempotency" .null)
  let _ ← objectOrEmpty (snapshot.getD "dryRun" .null)
  let _ ← objectOrEmpty execution.workflowSnapshot
  let secrets := (snapshot.getD "secrets" .null).orElse (.arr [])
  if secrets.iterate?.isNone then throw (.uncaught "TypeError")
  match ((snapshot.getD "artifacts" .null).orElse (.arr [])).iterate? with
  | none => throw (.uncaught "TypeError")
  | some artifacts => if !artifacts.all Json.isObj then throw (.uncaught "AttributeError")
  pure
    { riskLevel := step.riskLevel
      stepType := step.stepType
      executionMode := execution.executionMode.value
      actionType := action.getD "type" (.str "")
      actionVersion := action.getD "version" (.str "")
      idempotencyMode := idempotency.getD "mode" (.str "")
      mutatesTarget :=
        match snapshot.getD "mutatesTarget" .null with
        | .bool true => "true"
        | .bool false => "false"
        | _ => ""
      evaluatedAt }

/-- `_evaluate_condition`. -/
def evaluateCondition (env : Env) (conditionType : ConditionType) (params : Json)
    (context : EvaluationContext) : Except Err Bool :=
  match conditionType with
  | .riskLevel => .ok (evaluateEnumCondition params (.str context.riskLevel))
  | .stepType => .ok (evaluateEnumCondition params (.str context.stepType))
  | .timeWindow => evaluateTimeWindowCondition env params context.evaluatedAt
  | .actionType => .ok (evaluateEnumCondition params context.actionType)
  | .actionVersion => .ok (evaluateEnumCondition params context.actionVersion)
  | .executionMode => .ok (evaluateEnumCondition params (.str context.executionMode))
  | .idempotencyMode => .ok (evaluateEnumCondition params context.idempotencyMode)
  | .mutatesTarget => .ok (evaluateEnumCondition params (.str context.mutatesTarget))

-- ════════════════════════════════════════════════════════════════════════
-- Evaluation
-- ════════════════════════════════════════════════════════════════════════

/-- What an evaluation found, before it is stored. -/
structure Evaluated where
  policy : Option ℕ := none
  rule : Option ℕ := none
  matched : Bool := false
  outcome : PolicyOutcome
  effectiveOutcome : PolicyOutcome
  decisionFromRule : Bool := true
  reason : String
  errorCode : String := ""
  errorMessage : String := ""

/-- `_persist_evaluation_error`: what a failed evaluation stores. -/
def evaluationError (policy rule : Option ℕ) (errorCode errorMessage : String) : Evaluated :=
  { policy, rule, outcome := .block, effectiveOutcome := .block, errorCode, errorMessage
    reason := "Policy evaluation failed; step blocked for safety." }

/-- `_apply_requires_approval_floor`. -/
def applyRequiresApprovalFloor (outcome : PolicyOutcome) (step : ExecutionStep) : PolicyOutcome :=
  if step.requiresApproval ∧ outcome = .autoApprove then .approvalRequired else outcome

/-- The workflow default, when no rule matches. -/
def workflowDefault (step : ExecutionStep) : Evaluated :=
  let outcome := if step.requiresApproval then .approvalRequired else .autoApprove
  { outcome, effectiveOutcome := outcome, decisionFromRule := false
    reason := "No matching policy rule; using workflow default." }

/-- `str(exc)`. -/
def Err.text (e : Err) : String := if e.detail ≠ "" then e.detail else e.code

/-- An active rule of an active policy, with the policy. -/
structure ActiveRule where
  policy : Loaded Policy
  rule : Loaded PolicyRule

/-- The place of a rule in the global order: its priority, and then the age of its policy, the
policy and the rule. -/
def ActiveRule.place (r : ActiveRule) : ℕ ×ₗ Time ×ₗ ℕ ×ₗ ℕ :=
  toLex (r.rule.row.priority, toLex (r.policy.row.createdAt, toLex (r.policy.id, r.rule.id)))

/-- The loop over the active rules in their global order. -/
def evaluateRules (env : Env) (step : ExecutionStep) (context : EvaluationContext) :
    List ActiveRule → Except Err Evaluated
  | [] => .ok (workflowDefault step)
  | ⟨policy, rule⟩ :: rest =>
    match validateConditionParams env rule.row.conditionType rule.row.conditionParams with
    | .error e =>
      if e.kind = .validation then
        .ok (evaluationError (some policy.id) (some rule.id) "invalid_condition_params" e.detail)
      else .error e
    | .ok () =>
      match evaluateCondition env rule.row.conditionType rule.row.conditionParams context with
      | .error e =>
        .ok (evaluationError (some policy.id) (some rule.id) "condition_evaluation_error" e.text)
      | .ok true =>
        .ok
          { policy := some policy.id
            rule := some rule.id
            matched := true
            outcome := rule.row.outcome
            effectiveOutcome := applyRequiresApprovalFloor rule.row.outcome step
            reason := rule.row.reason }
      | .ok false => evaluateRules env step context rest

/-- The active rules of the active policies of an organization, as they are retrieved. -/
def activeRules (organization : ℕ) (s : Db) : List ActiveRule :=
  (rowsWhere s.reference.policies fun p => p.organization = organization && p.isActive).flatMap
    fun policy =>
      (rowsWhere s.reference.policyRules fun r => r.policy = policy.id && r.isActive).map
        fun rule => ⟨policy, rule⟩

/-- The rules in the global order. -/
def sortRules (rules : List ActiveRule) : List ActiveRule :=
  rules.insertionSort fun a b => a.place ≤ b.place

/-- `evaluate_step_policy`, up to the row it stores. A failure in the loop is stored as a
block; one in the context is raised. -/
def evaluateStepPolicy (env : Env) (execution : Loaded Execution) (step : Loaded ExecutionStep)
    (evaluatedAt : Time) (s : Db) : Except Err Evaluated := do
  if step.row.execution ≠ execution.id then
    throw (.validation "step_execution_mismatch" "Step does not belong to the given execution.")
  let context ← buildEvaluationContext execution.row step.row evaluatedAt
  match evaluateRules env step.row context
      (sortRules (activeRules execution.row.organization s)) with
  | .ok found => .ok found
  | .error e => .ok (evaluationError none none "policy_evaluation_error" e.text)

/-- `_create_policy_evaluation_with_audit`. Returns the evaluation's key. -/
def persistEvaluation (execution : Loaded Execution) (step : ℕ) (found : Evaluated)
    (evaluatedAt : Time) : Service [.evaluations, .changes, .audit] ℕ := do
  let evaluation ← insertRow Rel.evaluations
    { organization := execution.row.organization
      execution := execution.id
      step
      policy := found.policy
      rule := found.rule
      matched := found.matched
      outcome := found.outcome
      effectiveOutcome := found.effectiveOutcome
      decisionFromRule := found.decisionFromRule
      reason := found.reason
      errorCode := found.errorCode
      errorMessage := found.errorMessage
      evaluatedAt }
  linkPolicyEvaluation execution.id evaluation
  emit execution.row.organization systemActor "policy.evaluated" .policyEvaluation evaluation
  pure evaluation

/-- An evaluation of a step that requires approval never approves it automatically. -/
theorem evaluateRules_floor {env : Env} {step : ExecutionStep} {context : EvaluationContext}
    {rules : List ActiveRule} {found : Evaluated} (hstep : step.requiresApproval = true)
    (h : evaluateRules env step context rules = .ok found) :
    found.effectiveOutcome ≠ .autoApprove := by
  induction rules with
  | nil =>
    simp only [evaluateRules, Except.ok.injEq] at h
    subst h
    simp [workflowDefault, hstep]
  | cons rule rest ih =>
    simp only [evaluateRules] at h
    split at h
    · split_ifs at h
      cases h
      simp [evaluationError]
    · split at h
      · cases h
        simp [evaluationError]
      · cases h
        simp only [applyRequiresApprovalFloor, hstep, true_and]
        split_ifs with hout <;> simp [hout]
      · exact ih h

theorem evaluateStepPolicy_floor {env : Env} {execution : Loaded Execution}
    {step : Loaded ExecutionStep} {now : Time} {s : Db} {found : Evaluated}
    (hstep : step.row.requiresApproval = true)
    (h : evaluateStepPolicy env execution step now s = .ok found) :
    found.effectiveOutcome ≠ .autoApprove := by
  unfold evaluateStepPolicy at h
  by_cases hexec : step.row.execution ≠ execution.id
  · simp [hexec, throw, throwThe, MonadExceptOf.throw, bind, Except.bind] at h
  · simp only [hexec, if_false] at h
    cases hctx : buildEvaluationContext execution.row step.row now with
    | error e => simp [hctx, bind, Except.bind] at h
    | ok context =>
      simp only [hctx, bind, Except.bind] at h
      split at h
      · rename_i found' hrules
        cases h
        exact evaluateRules_floor hstep hrules
      · cases h
        simp [evaluationError]

end RunbookPlatform
