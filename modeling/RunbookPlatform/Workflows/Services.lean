import RunbookPlatform.Executions.Creation
import RunbookPlatform.Sessions.Machine
import RunbookPlatform.Workflows.Versions

/-!
# Workflow services

A workflow starts as a draft: mapped from an AI candidate, given as a v2 definition, or lifted
from a v1 workflow. It is reviewed, published and archived. Each service is a program of
statements, so that calls can overlap.

## Main definitions

- `StoredWorkflow`, `WorkflowDb` — the tables of the services
- `draftFromCandidate`, `draftFromDefinition`, `draftFromV1` — what the creations store
- `WorkflowCall`, `WorkflowPos`, `workflowMachine` — the services as programs
-/

namespace RunbookPlatform

open Transactional Sessions

-- ════════════════════════════════════════════════════════════════════════
-- Tables
-- ════════════════════════════════════════════════════════════════════════

/-- `Runbook`. -/
structure Runbook where
  organization : ℕ
  title : String
  slug : String
  rawContent : String

/-- `Workflow.ParseSource`. -/
inductive ParseSource where
  | manual | aiParse
  deriving DecidableEq

/-- `Workflow.ValidationStatus`. -/
inductive WorkflowValidation where
  | valid | invalid | pending | notApplicable
  deriving DecidableEq

def WorkflowValidation.value : WorkflowValidation → String
  | valid => "valid"
  | invalid => "invalid"
  | pending => "pending"
  | notApplicable => "not_applicable"

/-- A validation report; the errors are codes with their details. -/
structure ValidationReport where
  valid : Bool
  errors : List (String × String)

/-- The workflow table, with the columns that only its own services read. -/
structure StoredWorkflow extends Workflow where
  runbook : ℕ
  definitionHashSha256 : String
  catalogVersion : String := ""
  validationStatus : WorkflowValidation
  validationReport : Option ValidationReport := none
  parseSource : ParseSource

/-- The calls of the services. -/
inductive WorkflowCall where
  | createWorkflow (runbook : ℕ)
  | createWorkflowFromRunbook (runbook : ℕ)
  | createWorkflowV2Draft (runbook : ℕ)
  | createV2DraftFromV1 (source : ℕ)
  | acceptReview | rejectReview | publishWorkflow | archiveWorkflow | createExecution
  deriving DecidableEq

/-- The tables of the services. -/
structure WorkflowDb where
  runbooks : Table Runbook
  profiles : Table OperationProfile := .empty
  workflows : Table StoredWorkflow := .empty
  executions : Table Execution := .empty
  /-- The calls that returned, with the workflow they were about. No service reads them. -/
  returned : List (WorkflowCall × ℕ) := []

/-- What the guards of `create_execution` read. -/
def WorkflowDb.toDb (d : WorkflowDb) : Db := { reference := { profiles := d.profiles } }

/-- `filter(runbook=...).aggregate(Max("version"))["max_version"] or 0`. -/
def WorkflowDb.maxVersion (d : WorkflowDb) (runbook : ℕ) : ℕ :=
  (d.workflows.log (·.runbook = runbook)).foldr (fun row version => max row.version version) 0

/-- `filter(runbook=..., status=PUBLISHED).exclude(pk=...)`. -/
def WorkflowDb.publishedSiblings (d : WorkflowDb) (runbook workflow : ℕ) : List ℕ :=
  d.workflows.keys fun i row => row.runbook = runbook && row.status = .published && i ≠ workflow

-- ════════════════════════════════════════════════════════════════════════
-- Drafts
-- ════════════════════════════════════════════════════════════════════════

/-- `WorkflowCandidateStep`. -/
structure WorkflowCandidateStep where
  stepKey : String
  name : String
  stepType : String
  riskLevel : String
  requiresApproval : Bool
  command : Option String := none

/-- `WorkflowCandidate`. -/
structure WorkflowCandidate where
  workflowTitle : String
  steps : List WorkflowCandidateStep

/-- The columns of a new workflow that do not depend on its runbook. -/
structure Draft where
  /-- Without a name the title of the runbook is taken. -/
  name : Option Json
  definitionSchemaVersion : String
  definition : Json
  catalogVersion : Json := .str ""
  validationStatus : WorkflowValidation
  validationReport : Option ValidationReport
  requiresReview : Bool
  parseSource : ParseSource

section

variable (env : Env) (message : Schema → Json → String)

/-- The loop of `_validate_candidate`. -/
def validateCandidateSteps (seenKeys : List String) :
    List WorkflowCandidateStep → Except Err Unit
  | [] => .ok ()
  | step :: steps => do
    check (step.stepKey ≠ "") <| invalidDefinition "A workflow step is missing step_key."
    check (step.stepKey ∉ seenKeys) <|
      invalidDefinition s!"Duplicate step_key in transform output: '{step.stepKey}'."
    check (step.name ≠ "") <| invalidDefinition s!"Step '{step.stepKey}' is missing a name."
    validateCandidateSteps (step.stepKey :: seenKeys) steps

/-- `_validate_candidate`. -/
def validateCandidate (candidate : WorkflowCandidate) : Except Err Unit := do
  check (candidate.steps ≠ []) <| invalidDefinition "Workflow transform produced no steps."
  validateCandidateSteps [] candidate.steps

/-- `_map_candidate_to_definition`. -/
def mapCandidateToDefinition (candidate : WorkflowCandidate) : Json :=
  .obj [("name", .str candidate.workflowTitle),
    ("steps", .arr (candidate.steps.map fun step => .obj <|
      [("id", .str step.stepKey), ("name", .str step.name), ("type", .str step.stepType),
        ("risk", .str step.riskLevel), ("requiresApproval", .bool step.requiresApproval)] ++
      (step.command.map fun command => ("command", Json.str command)).toList))]

/-- The part of `create_workflow` before its transaction. -/
def draftFromCandidate (candidate : WorkflowCandidate) (requiresReview : Bool)
    (parseSource : ParseSource) : Except Err Draft := do
  validateCandidate candidate
  let definition := mapCandidateToDefinition candidate
  validateV1 env message definition
  pure
    { name := some (.str candidate.workflowTitle)
      definitionSchemaVersion := "workflow.schema.v1"
      definition
      validationStatus := .notApplicable
      validationReport := none
      requiresReview
      parseSource }

/-- `_build_validation_report`. -/
def buildValidationReport (definition : Json) (schemaVersion : String) :
    Except Err ValidationReport :=
  match validateWorkflowDefinition env message definition schemaVersion with
  | .ok _ => .ok ⟨true, []⟩
  | .error e =>
    if e.kind = .invalidWorkflowDefinition then .ok ⟨false, [(e.code, e.detail)]⟩ else .error e

/-- The `validation_status` of a report. -/
def ValidationReport.status (report : ValidationReport) : WorkflowValidation :=
  if report.valid then .valid else .invalid

/-- The part of `create_workflow_v2_draft` before its transaction. -/
def draftFromDefinition (definition : Json) : Except Err Draft := do
  let report ← buildValidationReport env message definition "workflow.schema.v2"
  pure
    { name := definition.get? "name"
      definitionSchemaVersion := "workflow.schema.v2"
      definition
      catalogVersion := definition.getD "catalogVersion" (.str "pilot.v1")
      validationStatus := report.status
      validationReport := some report
      requiresReview := false
      parseSource := .manual }

/-- The steps that `create_v2_draft_from_v1` lifts. -/
def v1Steps (definition : Json) : List Json :=
  ((definition.getD "steps" (.arr [])).items?).getD []

/-- `shell_introduced`: some step runs a shell command. -/
def hasShellStep (definition : Json) : Bool :=
  (v1Steps definition).any fun step => step.getD "type" (.str "") = .str "shell_command"

/-- The part of `create_v2_draft_from_v1` before its transaction, on the object the caller
loaded. -/
def draftFromV1 (workflow : StoredWorkflow) : Except Err Draft := do
  check (workflow.definitionSchemaVersion = "workflow.schema.v1") <|
    .validation "unsupported_source_schema"
      s!"Cannot migrate workflow with schema version '{workflow.definitionSchemaVersion}'; only 'workflow.schema.v1' is supported."
  let name := workflow.definition.getD "name" (.str workflow.name)
  let definition := Json.obj [("schemaVersion", .str "2"), ("name", name),
    ("catalogVersion", .str "pilot.v1"),
    ("steps", .arr ((v1Steps workflow.definition).map liftV1Step)), ("secrets", .arr [])]
  let report ← buildValidationReport env message definition "workflow.schema.v2"
  pure
    { name := some name
      definitionSchemaVersion := "workflow.schema.v2"
      definition
      catalogVersion := .str "pilot.v1"
      validationStatus := report.status
      validationReport := some report
      requiresReview := workflow.parseSource = .aiParse || hasShellStep workflow.definition
      parseSource := workflow.parseSource }

/-- The row of a draft under its runbook. -/
def Draft.row (draft : Draft) (runbookId : ℕ) (runbook : Runbook) (version : ℕ) :
    Except Err StoredWorkflow := do
  let name ← charField env (draft.name.getD (.str runbook.title))
  let catalogVersion ← charField env draft.catalogVersion
  pure
    { organization := runbook.organization
      name
      version
      status := .draft
      definitionSchemaVersion := draft.definitionSchemaVersion
      definition := draft.definition
      requiresReview := draft.requiresReview
      runbook := runbookId
      definitionHashSha256 := sha256CanonicalJson env draft.definition
      catalogVersion
      validationStatus := draft.validationStatus
      validationReport := draft.validationReport
      parseSource := draft.parseSource }

/-- `ConcurrencyConflictError`, which the creations make of a violated constraint. -/
def versionConflict (e : Err) : Err :=
  if e = .integrity then
    .conflict "workflow_version_conflict"
      "Workflow version allocation conflicted with another request."
  else e

-- ════════════════════════════════════════════════════════════════════════
-- Guards
-- ════════════════════════════════════════════════════════════════════════

/-- The guards of `accept_review` and `reject_review`. -/
def checkPendingReview (verb : String) (workflow : StoredWorkflow) : Except Err Unit := do
  check (workflow.requiresReview = true) <|
    .transition "workflow_not_pending_review" "Workflow is not pending review."
  check (workflow.status = .draft) <| .transition "invalid_state_transition"
    s!"Cannot {verb} review for workflow with status '{workflow.status.value}', expected 'draft'."

/-- The guards of `publish_workflow`. -/
def checkPublish (workflow : StoredWorkflow) : Except Err Unit := do
  check (workflow.requiresReview = false) <| .conflict "workflow_requires_review"
    "Workflow requires human review before it can be published."
  check (workflow.status = .draft) <| .transition "invalid_state_transition"
    s!"Cannot publish workflow with status '{workflow.status.value}', expected 'draft'."
  check (¬(workflow.definitionSchemaVersion = "workflow.schema.v2" ∧
      workflow.validationStatus ≠ .valid)) <|
    .conflict "workflow_invalid_definition"
      s!"Cannot publish a v2 workflow with an invalid or unvalidated definition (validation_status='{workflow.validationStatus.value}')."

/-- The guard of `archive_workflow`. -/
def checkArchive (workflow : StoredWorkflow) : Except Err Unit :=
  check (workflow.status = .draft ∨ workflow.status = .superseded) <|
    .transition "invalid_state_transition"
      s!"Cannot archive workflow with status '{workflow.status.value}'."

-- ════════════════════════════════════════════════════════════════════════
-- Programs
-- ════════════════════════════════════════════════════════════════════════

/-- What the services lock. -/
inductive WorkflowLock where
  | organization (i : ℕ)
  | runbook (i : ℕ)
  | workflow (i : ℕ)
  deriving DecidableEq

/-- The saves of the services, each with its audit event. -/
inductive WorkflowWrite where
  | insert (row : StoredWorkflow) (call : WorkflowCall)
  | accept (workflow : ℕ)
  | reject (workflow : ℕ)
  | supersede (workflow : ℕ)
  | publish (workflow : ℕ)
  | archive (workflow : ℕ)
  | execute (row : Execution)

/-- What a save does. -/
def WorkflowWrite.apply : WorkflowWrite → WorkflowDb → WorkflowDb
  | insert row call, d =>
    { d with workflows := d.workflows.insert row, returned := (call, d.workflows.next) :: d.returned }
  | accept i, d =>
    { d with
      workflows := d.workflows.modify i fun row => { row with requiresReview := false }
      returned := (.acceptReview, i) :: d.returned }
  | reject i, d =>
    { d with
      workflows := d.workflows.modify i fun row =>
        { row with status := .archived, requiresReview := false }
      returned := (.rejectReview, i) :: d.returned }
  | supersede i, d =>
    { d with workflows := d.workflows.modify i fun row => { row with status := .superseded } }
  | publish i, d =>
    { d with
      workflows := d.workflows.modify i fun row => { row with status := .published }
      returned := (.publishWorkflow, i) :: d.returned }
  | archive i, d =>
    { d with
      workflows := d.workflows.modify i fun row => { row with status := .archived }
      returned := (.archiveWorkflow, i) :: d.returned }
  | execute row, d =>
    { d with
      executions := d.executions.insert row
      returned := (.createExecution, row.workflow) :: d.returned }

/-- The calls with their arguments. The candidate is what the transform client answers. -/
inductive WorkflowOp where
  | createWorkflow (runbook : ℕ) (candidate : WorkflowCandidate) (requiresReview : Bool)
      (parseSource : ParseSource)
  | createWorkflowFromRunbook (runbook : ℕ) (candidate : WorkflowCandidate)
  | createWorkflowV2Draft (runbook : ℕ) (definition : Json)
  | createV2DraftFromV1 (workflow : ℕ)
  | acceptReview (workflow : ℕ)
  | rejectReview (workflow : ℕ)
  | publishWorkflow (workflow : ℕ)
  | archiveWorkflow (workflow : ℕ)
  | createExecution (workflow : ℕ) (mode : ExecutionMode) (actor : AuditActor)
      (fromChangeService : Bool)

/-- Where the program of a call is. -/
inductive WorkflowPos where
  | call (op : WorkflowOp)
  /-- Before the lock of the runbook. -/
  | drafted (runbook : ℕ) (draft : Draft) (call : WorkflowCall)
  /-- Before the version is counted. -/
  | locked (runbookId : ℕ) (runbook : Runbook) (draft : Draft) (call : WorkflowCall)
  /-- Before siblings are looked for. -/
  | supersede (workflow runbook : ℕ)
  /-- In the update of the siblings. -/
  | superseding (workflow runbook : ℕ) (siblings : List ℕ)
  | superseded (workflow runbook sibling : ℕ) (siblings : List ℕ)
  | published (workflow runbook : ℕ)
  /-- The workflow is loaded, and to be executed. -/
  | loaded (workflow : ℕ) (row : Workflow) (mode : ExecutionMode) (actor : AuditActor)
      (fromChangeService : Bool)
  | save (write : WorkflowWrite)
  | saved
  | failed (e : Err)
  | raised (e : Err)
  | done

/-- The row of an execution. -/
def executionRow (workflowId : ℕ) (workflow : Workflow) (mode : ExecutionMode) : Execution where
  organization := workflow.organization
  workflow := workflowId
  workflowVersion := workflow.version
  workflowSnapshot := workflow.definition
  workflowSnapshotHashSha256 := env.sha256 workflow.definition.dumpsAscii
  executionMode := mode
  status := .queued

/-- Go on where the guards lead. -/
def proceed {α : Type} (guarded : Except Err α) (next : α → WorkflowPos) : WorkflowPos :=
  match guarded with
  | .ok a => next a
  | .error e => .failed e

/-- Go on with a row, if it exists. -/
def withRow {α : Type} (model : String) (row : Option α) (next : α → WorkflowPos) : WorkflowPos :=
  match row with
  | some row => next row
  | none => .failed (.notFound model)

theorem proceed_elim {α : Type} {p : WorkflowPos → Prop} {guarded : Except Err α}
    {next : α → WorkflowPos} (hfailed : ∀ e, p (.failed e))
    (hnext : ∀ a, guarded = .ok a → p (next a)) : p (proceed guarded next) := by
  cases guarded with
  | error e => exact hfailed e
  | ok a => exact hnext a rfl

theorem withRow_elim {α : Type} {p : WorkflowPos → Prop} {model : String} {row : Option α}
    {next : α → WorkflowPos} (hfailed : ∀ e, p (.failed e))
    (hnext : ∀ a, row = some a → p (next a)) : p (withRow model row next) := by
  cases row with
  | none => exact hfailed _
  | some a => exact hnext a rfl

/-- `select_for_update().get(pk=...)` of a workflow, and its guards. -/
def lockWorkflow (i : ℕ) (guard : StoredWorkflow → Except Err Unit)
    (next : StoredWorkflow → WorkflowPos) :
    Stmt WorkflowDb WorkflowLock WorkflowWrite Unit WorkflowPos :=
  .lock (fun d => (d.workflows.get? i).elim [] fun _ => [.workflow i]) fun d =>
    withRow "Workflow" (d.workflows.get? i) fun row => proceed (guard row) fun _ => next row

/-- The first statement of a call. -/
def WorkflowOp.stmt (maxChars : ℕ) :
    WorkflowOp → Stmt WorkflowDb WorkflowLock WorkflowWrite Unit WorkflowPos
  | createWorkflow runbook candidate requiresReview parseSource =>
    .query fun _ =>
      proceed (draftFromCandidate env message candidate requiresReview parseSource) fun draft =>
        .drafted runbook draft (.createWorkflow runbook)
  | createWorkflowFromRunbook runbook candidate =>
    .query fun d => withRow "Runbook" (d.runbooks.get? runbook) fun row =>
      if row.rawContent.length > maxChars then
        .failed (.validation "ai_input_too_large"
          s!"Runbook content exceeds the maximum allowed input size ({maxChars} characters).")
      else
        proceed (draftFromCandidate env message candidate true .aiParse) fun draft =>
          .drafted runbook draft (.createWorkflowFromRunbook runbook)
  | createWorkflowV2Draft runbook definition =>
    .query fun _ => proceed (draftFromDefinition env message definition) fun draft =>
      .drafted runbook draft (.createWorkflowV2Draft runbook)
  | createV2DraftFromV1 i =>
    .query fun d => withRow "Workflow" (d.workflows.get? i) fun row =>
      proceed (draftFromV1 env message row) fun draft =>
        .drafted row.runbook draft (.createV2DraftFromV1 i)
  | acceptReview i => lockWorkflow i (checkPendingReview "accept") fun _ => .save (.accept i)
  | rejectReview i => lockWorkflow i (checkPendingReview "reject") fun _ => .save (.reject i)
  | publishWorkflow i => lockWorkflow i checkPublish fun row => .supersede i row.runbook
  | archiveWorkflow i => lockWorkflow i checkArchive fun _ => .save (.archive i)
  | createExecution i mode actor fromChangeService =>
    .query fun d => withRow "Workflow" (d.workflows.get? i) fun row =>
      .loaded i row.toWorkflow mode actor fromChangeService

/-- The sibling is still one to supersede. -/
def WorkflowDb.isPublishedIn (d : WorkflowDb) (runbook sibling : ℕ) : Bool :=
  (d.workflows.get? sibling).any fun row => row.runbook = runbook && row.status = .published

/-- The statement at a position. -/
def WorkflowPos.stmt (maxChars : ℕ) :
    WorkflowPos → Stmt WorkflowDb WorkflowLock WorkflowWrite Unit WorkflowPos
  | call op => op.stmt env message maxChars
  | drafted runbook draft c =>
    .lock (fun d => (d.runbooks.get? runbook).elim [] fun row =>
        [.runbook runbook, .organization row.organization]) fun d =>
      withRow "Runbook" (d.runbooks.get? runbook) fun row => .locked runbook row draft c
  | locked runbookId runbook draft c =>
    .query fun d =>
      match draft.row env runbookId runbook (d.maxVersion runbookId + 1) with
      | .ok row => .save (.insert row c)
      | .error e => .failed (versionConflict e)
  | supersede i runbook => .query fun d => .superseding i runbook (d.publishedSiblings runbook i)
  | superseding i runbook [] => .write (.publish i) (.published i runbook)
  | superseding i runbook (sibling :: siblings) =>
    .lock (fun d => if d.isPublishedIn runbook sibling then [.workflow sibling] else []) fun d =>
      if d.isPublishedIn runbook sibling then .superseded i runbook sibling siblings
      else .superseding i runbook siblings
  | superseded i runbook sibling siblings =>
    .write (.supersede sibling) (.superseding i runbook siblings)
  | published _ _ => .commit fun _ => .done
  | loaded i row mode actor fromChangeService =>
    .query fun d =>
      proceed (checkCreateExecution (env.withValidator message) i row mode fromChangeService
          d.toDb) fun _ =>
        proceed ((insertExecutionRows env i row mode actor).run d.toDb) fun _ =>
          .save (.execute (executionRow env i row mode))
  | save write => .write write .saved
  | saved => .commit fun _ => .done
  | failed e => .rollback (.raised e)
  | raised _ | done => .stop

/-- The services. -/
def workflowMachine (maxChars : ℕ) :
    Machine WorkflowDb WorkflowLock WorkflowWrite Unit WorkflowPos where
  stmt := WorkflowPos.stmt env message maxChars
  apply := WorkflowWrite.apply
  rescue _ := .raised (.uncaught "Exception")
  start
    | .call _ => true
    | _ => false

variable {env message}

theorem locked_elim {p : WorkflowPos → Prop} {maxChars : ℕ} {d : WorkflowDb} {w : Unit}
    {runbookId : ℕ} {runbook : Runbook} {draft : Draft} {c : WorkflowCall}
    {pending : List WorkflowWrite} {held : List WorkflowLock}
    (hfailed : ∀ e, p (.failed e))
    (hsave : ∀ row, draft.row env runbookId runbook
      (((workflowMachine env message maxChars).view d pending).maxVersion runbookId + 1) = .ok row →
        p (.save (.insert row c))) :
    p ((workflowMachine env message maxChars).advance d w
      ⟨.locked runbookId runbook draft c, pending, held⟩).2.2.pos := by
  simp only [Machine.advance, workflowMachine, WorkflowPos.stmt]
  split
  · exact hsave _ ‹_›
  · exact hfailed _

end

/-- A database in which no service has been called. -/
def WorkflowDb.Fresh (d : WorkflowDb) (_ : Unit) : Prop :=
  d.workflows = .empty ∧ d.executions = .empty ∧ d.returned = []

end RunbookPlatform
