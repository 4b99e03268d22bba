import RunbookPlatform.Changes.Preflight

/-!
# Creation of executions

`create_execution` snapshots a published workflow and expands its steps into rows.

## Main definitions

- `validateDefinitionSteps` — the structural check of a v1 definition
- `stepRow` — one step of the definition as a row
- `createExecution`
-/

namespace RunbookPlatform

open Transactional

/-- The failure of the structural checks. -/
def invalidDefinition (detail : String) : Err :=
  .workflow "invalid_workflow_definition" detail

/-- The loop of `_validate_workflow_definition`, from position `position` on. -/
def validateSteps (env : Env) (position : ℕ) (seenIds : List Json) : List Json → Read Unit
  | [] => pure ()
  | step :: rest => do
    ensure step.isObj <| invalidDefinition s!"Step at position {position} is not a valid object."
    let stepId := step.getD "id" .null
    ensure stepId.truthy <| invalidDefinition s!"Step at position {position} is missing 'id'."
    ensure (!stepId.isArr && !stepId.isObj) (.uncaught "TypeError")
    ensure (!seenIds.any stepId.pyEq) <| invalidDefinition
      s!"Duplicate step id '{pyStr env stepId}' in workflow definition."
    validateSteps env (position + 1) (stepId :: seenIds) rest

/-- `_validate_workflow_definition`. -/
def validateDefinitionSteps (env : Env) (definition : Json) : Read Unit := do
  ensure definition.isObj <| invalidDefinition "Workflow definition is not a valid object."
  let steps := ((definition.getD "steps" .null).items?).getD []
  ensure (steps ≠ []) <| .workflow "workflow_has_no_steps"
    "Workflow definition must contain at least one step."
  validateSteps env 1 [] steps

/-- `_enforce_dry_run_compatibility`. -/
def enforceDryRunCompatibility (env : Env) (definition : Json) : Read Unit :=
  let steps := ((definition.getD "steps" (.arr [])).items?).getD []
  match steps.find? fun step =>
      (step.getD "dryRun" .null).get? "strategy" = some (.str "unsupported") with
  | some step =>
    let stepId := pyStr env (step.getD "id" (.str "<unknown>"))
    raise (.validation "step_not_dry_run_compatible"
      s!"Step '{stepId}' declares dry-run strategy 'unsupported' and cannot be used in a dry-run execution.")
  | none => pure ()

/-- What a `CharField` stores for a decoded value; `None` violates `NOT NULL`. -/
def charField (env : Env) (value : Json) : Except Err String :=
  if value = .null then .error .integrity else .ok (pyStr env value)

/-- What a `BooleanField` stores for a decoded value. -/
def booleanField (value : Json) : Except Err Bool :=
  match value with
  | .bool b => .ok b
  | .int 1 | .str "t" | .str "True" | .str "1" => .ok true
  | .int 0 | .str "f" | .str "False" | .str "0" => .ok false
  | .null => .error .integrity
  | _ => .error (.uncaught "ValidationError")

/-- `_extract_step_command`. -/
def extractStepCommand (step : Json) (schemaVersion : String) : Json :=
  if schemaVersion = "workflow.schema.v2" then
    let action := step.getD "action" (.obj [])
    let params := (action.getD "params" .null).orElse
      ((action.getD "inputs" .null).orElse (.obj []))
    params.getD "command" (.str "")
  else step.getD "command" (.str "")

/-- `step[key]`. -/
def stepField (step : Json) (key : String) : Except Err Json :=
  match step.get? key with
  | some value => .ok value
  | none => .error (.uncaught "KeyError")

/-- The `ExecutionStep` row of one step of the definition. -/
def stepRow (env : Env) (execution position : ℕ) (schemaVersion : String) (step : Json) :
    Except Err ExecutionStep := do
  let stepKey ← charField env (← stepField step "id")
  let name ← charField env (← stepField step "name")
  let stepType ← charField env (step.getD "type" (.str ""))
  let riskLevel ← charField env (step.getD "risk" (.str ""))
  let command ← charField env (extractStepCommand step schemaVersion)
  let requiresApproval ← booleanField (step.getD "requiresApproval" (.bool false))
  pure
    { execution, position, stepKey, name, stepType, riskLevel, command, requiresApproval
      stepSnapshot := step }

/-- The rows of all steps, from position `position` on. -/
def stepRows (env : Env) (execution : ℕ) (schemaVersion : String) (position : ℕ) :
    List Json → Except Err (List ExecutionStep)
  | [] => .ok []
  | step :: rest => do
    let row ← stepRow env execution position schemaVersion step
    let rows ← stepRows env execution schemaVersion (position + 1) rest
    pure (row :: rows)

/-- `ExecutionStep.objects.bulk_create(...)`. -/
def insertSteps : List ExecutionStep → Service [.steps] Unit
  | [] => pure ()
  | row :: rows => do
    let _ ← insertRow Rel.steps row
    insertSteps rows

/-- The cells of a new execution. -/
@[reducible] def creationCells : List Cell :=
  [.executions, .executionStatus .queued, .steps, .audit]

/-- The checks that `create_execution` makes before its transaction. -/
def checkCreateExecution (env : Env) (workflowId : ℕ) (workflow : Workflow)
    (mode : ExecutionMode) (fromChangeService : Bool) : Read Unit := do
  ensure (workflow.status = .published) <| .validation "workflow_not_published"
    s!"Cannot create execution: workflow has status '{workflow.status.value}', expected 'published'."
  ensure (!workflow.requiresReview) <| .validation "workflow_requires_review"
    "Workflow requires human review before it can be executed."
  if !fromChangeService then
    let managed ← select fun s => (s.reference.profiles.find? fun _ p =>
      p.organization = workflow.organization && p.isActive &&
        p.allowedWorkflows.contains workflowId).isSome
    ensure (managed = false) <| .conflict "workflow_requires_change_record"
      "This workflow is managed by an active operation profile and must be executed through a change record."
  if workflow.definitionSchemaVersion = "workflow.schema.v2" then
    match env.validateWorkflowDefinition workflow.definition with
    | some e => raise e
    | none => pure ()
  else if workflow.definitionSchemaVersion = "workflow.schema.v1" then
    validateDefinitionSteps env workflow.definition
  else
    raise (.workflow "unsupported_schema_version"
      s!"Workflow schema version {env.reprText workflow.definitionSchemaVersion} is not supported. Supported: 'workflow.schema.v1', 'workflow.schema.v2'.")
  if mode = .dryRun then
    enforceDryRunCompatibility env workflow.definition

/-- The error that `create_execution` makes of a violated constraint. -/
def materializationFailed (e : Err) : Err :=
  if e = .integrity then
    .workflow "execution_step_materialization_failed"
      "Execution steps could not be materialized from the workflow definition."
  else e

/-- The transaction of `create_execution`. -/
def insertExecutionRows (env : Env) (workflowId : ℕ) (workflow : Workflow) (mode : ExecutionMode)
    (actor : AuditActor) : Service creationCells ℕ := do
  let execution ← insertExecution
    { organization := workflow.organization
      workflow := workflowId
      workflowVersion := workflow.version
      workflowSnapshot := workflow.definition
      workflowSnapshotHashSha256 := env.sha256 workflow.definition.dumpsAscii
      executionMode := mode
      status := .queued }
  let steps ← expect (workflow.definition.getD "steps" .null).items? (.uncaught "KeyError")
  match stepRows env execution workflow.definitionSchemaVersion 1 steps with
  | .error e => raise (materializationFailed e)
  | .ok rows => do
    ensure (rows.map (·.stepKey)).Nodup (materializationFailed .integrity)
    insertSteps rows
  emit workflow.organization actor "execution.created" .execution execution
  pure execution

/-- `create_execution`, on the workflow object the caller loaded. -/
def createExecution (env : Env) (workflow : Loaded Workflow) (mode : ExecutionMode)
    (actor : AuditActor) (fromChangeService : Bool) : Handler creationCells ℕ := do
  Prog.read (checkCreateExecution env workflow.id workflow.row mode fromChangeService)
  Prog.atomic .service (insertExecutionRows env workflow.id workflow.row mode actor)

end RunbookPlatform
