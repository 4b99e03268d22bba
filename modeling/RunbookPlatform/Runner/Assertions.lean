import RunbookPlatform.Workflows.Runnable

/-!
# Artifact assertions

An `artifact_assertion` step declares what must hold of the artifacts of the run. The handler
looks for the key among the declarations of the step itself, and does not read the assertion;
the validator lets no two steps declare the same key.

## Main definitions

- `paramsOf`, `declaredKeys` — the parameters and the artifact keys of a step
- `AssertionHolds` — what an assertion says of the artifacts of a run
- `Succeeds` — the handler's result is a success

## Main results

- `accepted_keys_disjoint` — the steps of an accepted definition declare different keys
- `succeeds_iff` — the handler succeeds for the keys that the step declares itself
- `assertion_asserts_iff` — when the outcome of the step follows from the artifacts
- `assertions_exclude` — no two steps succeed for one key
-/

namespace RunbookPlatform

open Schema Interaction Interaction.Comp

-- ════════════════════════════════════════════════════════════════════════
-- Claimed steps
-- ════════════════════════════════════════════════════════════════════════

/-- `step["action"]["params"]`, or an empty object. -/
def paramsOf (step : Json) : Json := (actionOf step).getD "params" (.obj [])

section

variable {env : Env} {message : Schema → Json → String} {lax : Coercions}
  {definition step : Json} {before after : List Json} {u : Unit}

/-- Each action type has one schema. -/
theorem actionTypes_unique {actionType : String} {params params' : Schema} {needs needs' : Bool}
    (h : (actionType, params, needs) ∈ actionTypes)
    (h' : (actionType, params', needs') ∈ actionTypes) : params = params' ∧ needs = needs' := by
  have hlookup {params : Schema} {needs : Bool} (h : (actionType, params, needs) ∈ actionTypes) :
      actionTypes.lookup actionType = some (params, needs) := by
    simp only [actionTypes, List.mem_cons, Prod.mk.injEq, List.not_mem_nil, or_false] at h
    rcases h with ⟨rfl, rfl, rfl⟩ | ⟨rfl, rfl, rfl⟩ | ⟨rfl, rfl, rfl⟩ | ⟨rfl, rfl, rfl⟩ |
      ⟨rfl, rfl, rfl⟩ <;> rfl
  have heq := (hlookup h).symm.trans (hlookup h')
  exact Prod.mk.inj (Option.some.inj heq)

/-- **The claimed step** of an accepted one, and the schema of its parameters. -/
theorem claimed_of_accepted
    (haccepted : validateWorkflowDefinition env message definition "workflow.schema.v2" = .ok u)
    (hstep : step ∈ listOf definition "steps") {execution position : ℕ} {row : ExecutionStep}
    (hrow : stepRow env execution position "workflow.schema.v2" step = .ok row) {id : ℕ}
    {claimed : ClaimedStep}
    (hclaimed : ClaimedStep.modelValidate lax (internalExecutionStep id row) = some claimed)
    {actionType : String} {params : Schema} (hmem : (actionType, params, true) ∈ actionTypes)
    (htype : step.get? "type" = some (.str actionType)) :
    StepAccepted step ∧ claimed = claimedStep id row ∧ row.stepSnapshot = step ∧
      params.valid (paramsOf step) = true := by
  obtain ⟨rfl, hpending, -, -⟩ := stepRow_snapshot hrow
  rw [validateWorkflowDefinition, if_neg (by decide), if_pos rfl] at haccepted
  have h := accepted_steps haccepted hstep
  rw [modelValidate_accepted h (by simp [hpending]), Option.some.injEq] at hclaimed
  obtain ⟨found, foundParams, needs, action, hfound, haction, hfoundType, hvalid⟩ :=
    h.exists_action
  obtain rfl : found = actionType := Json.str.inj (Option.some.inj (hfoundType.symm.trans htype))
  obtain ⟨rfl, rfl⟩ := actionTypes_unique hfound hmem
  refine ⟨h, hclaimed.symm, rfl, ?_⟩
  rw [paramsOf, actionOf_of_get haction]
  exact (actionSchema_params hvalid fun h => by cases h).1

-- ════════════════════════════════════════════════════════════════════════
-- Declared keys
-- ════════════════════════════════════════════════════════════════════════

/-- The keys of the artifacts that a step declares. -/
def declaredKeys (step : Json) : List String :=
  (listOf step "artifacts").map fun artifact => textOf artifact "key" ""

theorem checkStepArtifacts_ok {stepId : String} {keys keys' : List String} {artifacts : List Json}
    (h : checkStepArtifacts env stepId keys artifacts = .ok keys') :
    (∀ key ∈ keys, key ∈ keys') ∧
      ∀ artifact ∈ artifacts, textOf artifact "key" "" ∉ keys ∧ textOf artifact "key" "" ∈ keys' := by
  induction artifacts generalizing keys with
  | nil =>
    cases h
    exact ⟨fun _ hkey => hkey, fun _ hmem => absurd hmem List.not_mem_nil⟩
  | cons artifact artifacts ih =>
    rw [checkStepArtifacts, except_bind_ok] at h
    obtain ⟨_, hnew, h⟩ := h
    rw [check_ok] at hnew
    have hrest : checkStepArtifacts env stepId (textOf artifact "key" "" :: keys) artifacts =
        .ok keys' := by
      dsimp only at h
      split_ifs at h
      · obtain ⟨_, -, h⟩ := except_bind_ok.1 h
        exact h
      · exact h
    obtain ⟨hkept, hlater⟩ := ih hrest
    refine ⟨fun key hkey => hkept key (List.mem_cons_of_mem _ hkey), ?_⟩
    intro other hother
    rcases List.mem_cons.1 hother with rfl | hother
    · exact ⟨hnew, hkept _ List.mem_cons_self⟩
    · obtain ⟨hfresh, hseen⟩ := hlater other hother
      exact ⟨fun hkey => hfresh (List.mem_cons_of_mem _ hkey), hseen⟩

/-- What the loop over the steps has seen, no later step declares. -/
theorem checkSteps_keys {catalogVersion : String} {position : ℕ} {seenIds keys ids : List String}
    {steps : List Json}
    (h : checkSteps env message definition catalogVersion position seenIds keys steps = .ok ids)
    (hstep : step ∈ steps) : ∀ key ∈ declaredKeys step, key ∉ keys := by
  induction steps generalizing position seenIds keys with
  | nil => cases hstep
  | cons first rest ih =>
    simp only [checkSteps, except_bind_ok] at h
    obtain ⟨_, -, _, -, later, hartifacts, _, -, _, -, _, -, hrest⟩ := h
    obtain ⟨hkept, hdeclared⟩ := checkStepArtifacts_ok hartifacts
    rcases List.mem_cons.1 hstep with rfl | hmem
    · intro key hkey
      obtain ⟨artifact, hartifact, rfl⟩ := List.mem_map.1 hkey
      exact (hdeclared artifact hartifact).1
    · exact fun key hkey hseen => ih hrest hmem key hkey (hkept key hseen)

theorem checkSteps_disjoint {catalogVersion : String} {position : ℕ}
    {seenIds keys ids : List String}
    (h : checkSteps env message definition catalogVersion position seenIds keys
      (before ++ step :: after) = .ok ids) :
    ∀ other ∈ before, ∀ key ∈ declaredKeys other, key ∉ declaredKeys step := by
  induction before generalizing position seenIds keys with
  | nil => exact fun _ hother => absurd hother List.not_mem_nil
  | cons first rest ih =>
    simp only [List.cons_append, checkSteps, except_bind_ok] at h
    obtain ⟨_, -, _, -, later, hartifacts, _, -, _, -, _, -, hrest⟩ := h
    intro other hother key hkey hsame
    rcases List.mem_cons.1 hother with rfl | hother
    · obtain ⟨artifact, hartifact, rfl⟩ := List.mem_map.1 hkey
      exact checkSteps_keys hrest (List.mem_append_right _ List.mem_cons_self) _ hsame
        ((checkStepArtifacts_ok hartifacts).2 artifact hartifact).2
    · exact ih hrest other hother key hkey hsame

/-- **The steps** of an accepted definition declare different keys. -/
theorem accepted_keys_disjoint
    (haccepted : validateWorkflowDefinition env message definition "workflow.schema.v2" = .ok u)
    (hsteps : listOf definition "steps" = before ++ step :: after) :
    ∀ other ∈ before, ∀ key ∈ declaredKeys other, key ∉ declaredKeys step := by
  rw [validateWorkflowDefinition, if_neg (by decide), if_pos rfl] at haccepted
  obtain ⟨-, -, ids, hids⟩ := validateV2_ok haccepted
  rw [hsteps] at hids
  exact checkSteps_disjoint hids

end

-- ════════════════════════════════════════════════════════════════════════
-- Assertions
-- ════════════════════════════════════════════════════════════════════════

/-- An artifact of a run. -/
structure ProducedArtifact where
  key : String
  content : Bytes

/-- The artifacts are of keys that the steps declare. -/
def ProducedBy (steps : List Json) (produced : List ProducedArtifact) : Prop :=
  ∀ artifact ∈ produced, ∃ step ∈ steps, artifact.key ∈ declaredKeys step

/-- The assertion of a step holds of the artifacts, given what the content of an artifact
matches. -/
def AssertionHolds (contentMatches : String → Bytes → Prop) (step : Json)
    (produced : List ProducedArtifact) : Prop :=
  let key := textOf (paramsOf step) "artifact_key" ""
  let assertion := textOf (paramsOf step) "assertion" ""
  if assertion = "exists" then ∃ artifact ∈ produced, artifact.key = key
  else if assertion = "not_exists" then ∀ artifact ∈ produced, artifact.key ≠ key
  else ∃ artifact ∈ produced, artifact.key = key ∧
    contentMatches (textOf (paramsOf step) "pattern" "") artifact.content

/-- The handler succeeds. -/
def ArtifactAssertion.Succeeds (env : Env) (ctx : ActionContext) : Prop :=
  ∃ t result, (ArtifactAssertion.execute env ctx).Runs t (.ok result) ∧ result.status = .succeeded

section

variable {env : Env} {message : Schema → Json → String} {lax : Coercions}
  {definition step : Json} {before after : List Json} {u : Unit} {id : ℕ} {row : ExecutionStep}
  {ctx : ActionContext}

variable (env) in
/-- The handler succeeds exactly for a key that the step itself declares. -/
theorem succeeds_iff (hvalid : artifactAssertionParams.valid (paramsOf step) = true)
    (hctx : ctx.step = claimedStep id row) (hsnapshot : row.stepSnapshot = step) :
    ArtifactAssertion.Succeeds env ctx ↔
      textOf (paramsOf step) "artifact_key" "" ∈ declaredKeys step := by
  have hclosed := valid_all.1 hvalid (closed _ _) List.mem_cons_self
  obtain ⟨key, hkey, -⟩ := nonemptyText_field hclosed (k := "artifact_key") rfl (by simp)
  have hkind : (paramsOf step).get? "expected_kind" = none := closed_absent hclosed (by decide)
  have hmime : (paramsOf step).get? "expected_mime_type" = none :=
    closed_absent hclosed (by decide)
  have hparams : ctx.params = paramsOf step := by
    rw [ActionContext.params, hctx, claimedStep, hsnapshot]
    rfl
  have hartifacts : ctx.step.artifacts = (listOf step "artifacts").map declaredArtifact := by
    rw [hctx, claimedStep, hsnapshot]
  have hkeyParam : ctx.params.getD "artifact_key" (.str "") = .str key := by
    rw [hparams, Json.getD, hkey, Option.getD_some]
  have hkeyText : textOf (paramsOf step) "artifact_key" "" = key := by
    rw [textOf, Json.getD, hkey]
    rfl
  rw [ArtifactAssertion.Succeeds, hkeyText]
  unfold ArtifactAssertion.execute
  simp only [hkeyParam]
  cases hfind : ctx.step.artifacts.reverse.find? fun decl => Json.str key = .str decl.key with
  | none =>
    refine iff_of_false ?_ fun hmem => ?_
    · rintro ⟨t, result, hrun, hstatus⟩
      simp only [Json.isArr, Json.isObj, Bool.false_eq_true, or_self, if_false, runs_pure] at hrun
      obtain ⟨-, hresult⟩ := hrun
      cases Except.ok.inj hresult
      cases hstatus
    · obtain ⟨artifact, hartifact, rfl⟩ := List.mem_map.1 hmem
      have hnot := List.find?_eq_none.1 hfind (declaredArtifact artifact)
        (List.mem_reverse.2 (hartifacts ▸ List.mem_map_of_mem hartifact))
      exact hnot (by simp [declaredArtifact])
  | some decl =>
    refine iff_of_true ⟨[], .done, ?_, rfl⟩ ?_
    · simp [hparams, Json.getD, hkind, hmime, Json.truthy]
    · have hsame := List.find?_some hfind
      have hmem := List.mem_reverse.1 (List.mem_of_find?_eq_some hfind)
      rw [hartifacts] at hmem
      obtain ⟨artifact, hartifact, rfl⟩ := List.mem_map.1 hmem
      rw [Json.str.inj (of_decide_eq_true hsame)]
      exact List.mem_map_of_mem hartifact

/-- **Assertions**: the step succeeds only when its assertion holds of the artifacts of the steps
before it, whatever these are, exactly when it asserts an absence or does not declare the key
itself. -/
theorem assertion_asserts_iff (contentMatches : String → Bytes → Prop)
    (haccepted : validateWorkflowDefinition env message definition "workflow.schema.v2" = .ok u)
    (hsteps : listOf definition "steps" = before ++ step :: after)
    (htype : step.get? "type" = some (.str "artifact_assertion")) {execution position : ℕ}
    (hrow : stepRow env execution position "workflow.schema.v2" step = .ok row)
    (hclaimed : ClaimedStep.modelValidate lax (internalExecutionStep id row) = some ctx.step) :
    (∀ produced, ProducedBy before produced → ArtifactAssertion.Succeeds env ctx →
        AssertionHolds contentMatches step produced) ↔
      textOf (paramsOf step) "assertion" "" = "not_exists" ∨
        textOf (paramsOf step) "artifact_key" "" ∉ declaredKeys step := by
  have hstep : step ∈ listOf definition "steps" :=
    hsteps ▸ List.mem_append_right _ List.mem_cons_self
  obtain ⟨-, hctx, hsnapshot, hvalid⟩ := claimed_of_accepted haccepted hstep hrow hclaimed
    (show ("artifact_assertion", artifactAssertionParams, true) ∈ actionTypes by
      simp [actionTypes]) htype
  have hsucceeds := succeeds_iff env hvalid hctx hsnapshot
  constructor
  · intro h
    by_contra hnot
    rw [not_or, not_not] at hnot
    have hholds := h [] (fun _ hmem => absurd hmem List.not_mem_nil) (hsucceeds.2 hnot.2)
    -- nothing was produced, and the assertion is not of an absence
    simp [AssertionHolds, hnot.1] at hholds
  · rintro (habsent | hforeign) produced hproduced hsuccess
    · have hexists : ¬textOf (paramsOf step) "assertion" "" = "exists" := by simp [habsent]
      simp only [AssertionHolds, if_neg hexists, if_pos habsent]
      intro artifact hartifact hkey
      obtain ⟨other, hother, hdeclared⟩ := hproduced artifact hartifact
      rw [hkey] at hdeclared
      exact accepted_keys_disjoint haccepted hsteps other hother _ hdeclared
        (hsucceeds.1 hsuccess)
    · exact absurd (hsucceeds.1 hsuccess) hforeign

/-- **Two assertions** about one key, in different steps of an accepted workflow, do not both
succeed. -/
theorem assertions_exclude {other : Json} {otherCtx : ActionContext} {otherRow : ExecutionStep}
    {otherId : ℕ}
    (haccepted : validateWorkflowDefinition env message definition "workflow.schema.v2" = .ok u)
    (hsteps : listOf definition "steps" = before ++ step :: after) (hother : other ∈ before)
    (hvalid : artifactAssertionParams.valid (paramsOf step) = true)
    (hotherValid : artifactAssertionParams.valid (paramsOf other) = true)
    (hctx : ctx.step = claimedStep id row) (hsnapshot : row.stepSnapshot = step)
    (hotherCtx : otherCtx.step = claimedStep otherId otherRow)
    (hotherSnapshot : otherRow.stepSnapshot = other)
    (hkey : textOf (paramsOf other) "artifact_key" "" = textOf (paramsOf step) "artifact_key" "") :
    ¬(ArtifactAssertion.Succeeds env otherCtx ∧ ArtifactAssertion.Succeeds env ctx) := by
  rintro ⟨hfirst, hsecond⟩
  have hdeclared := (succeeds_iff env hotherValid hotherCtx hotherSnapshot).1 hfirst
  rw [hkey] at hdeclared
  exact accepted_keys_disjoint haccepted hsteps other hother _ hdeclared
    ((succeeds_iff env hvalid hctx hsnapshot).1 hsecond)

end

-- ════════════════════════════════════════════════════════════════════════
-- A report that no step makes
-- ════════════════════════════════════════════════════════════════════════

def buildStep : Json :=
  .obj
    [ ("id", .str "build"),
      ("name", .str "Build"),
      ("type", .str "shell_command"),
      ("risk", .str "low"),
      ("action", .obj
        [ ("type", .str "shell_command"),
          ("version", .str "pilot.v1"),
          ("params", .obj [("command", .str "build")]) ]),
      ("artifacts", .arr [.obj [("key", .str "log"), ("kind", .str "log")]]) ]

/-- It asserts that the report that it declares itself exists. -/
def checkReportStep : Json :=
  .obj
    [ ("id", .str "check"),
      ("name", .str "Check"),
      ("type", .str "artifact_assertion"),
      ("risk", .str "low"),
      ("action", .obj
        [ ("type", .str "artifact_assertion"),
          ("version", .str "pilot.v1"),
          ("params", .obj [("artifact_key", .str "report"), ("assertion", .str "exists")]) ]),
      ("artifacts", .arr [.obj [("key", .str "report"), ("kind", .str "log")]]) ]

def reportDefinition : Json :=
  .obj
    [ ("schemaVersion", .str "2"),
      ("name", .str "Report"),
      ("steps", .arr [buildStep, checkReportStep]) ]

/-- The row of the assertion. -/
def checkReportRow : ExecutionStep where
  execution := 0
  position := 2
  stepKey := "check"
  name := "Check"
  stepType := "artifact_assertion"
  riskLevel := "low"
  stepSnapshot := checkReportStep

def checkReportContext : ActionContext where
  execution := ⟨0, [], "live", none, [], none⟩
  step := claimedStep 0 checkReportRow
  claimToken := "token"
  settings := none

theorem reportDefinition_accepted :
    validateWorkflowDefinition .sample (fun _ _ => "") reportDefinition "workflow.schema.v2" =
      .ok () := by
  have hok : (validateWorkflowDefinition .sample (fun _ _ => "") reportDefinition
      "workflow.schema.v2").isOk = true := by decide +kernel
  obtain ⟨u, haccepted⟩ := exists_eq_ok hok
  exact haccepted

theorem checkReport_claimed :
    ClaimedStep.modelValidate ⟨fun _ => none, fun _ => none⟩
      (internalExecutionStep 0 checkReportRow) = some checkReportContext.step := by
  have haccepted := reportDefinition_accepted
  rw [validateWorkflowDefinition, if_neg (by decide), if_pos rfl] at haccepted
  exact modelValidate_accepted (accepted_steps haccepted (.tail _ (.head _))) (by decide)

theorem assertion_asserts_report :
    (∀ produced, ProducedBy [buildStep] produced →
        ArtifactAssertion.Succeeds .sample checkReportContext →
          AssertionHolds (fun _ _ => False) checkReportStep produced) ↔
      textOf (paramsOf checkReportStep) "assertion" "" = "not_exists" ∨
        textOf (paramsOf checkReportStep) "artifact_key" "" ∉ declaredKeys checkReportStep :=
  assertion_asserts_iff (fun _ _ => False) reportDefinition_accepted
    (show listOf reportDefinition "steps" = [buildStep] ++ checkReportStep :: [] from rfl) rfl
    (show stepRow .sample 0 2 "workflow.schema.v2" checkReportStep = .ok checkReportRow from rfl)
    checkReport_claimed

/-- The report exists for the runner, though no step has made it. -/
theorem report_asserted_unmade :
    validateWorkflowDefinition .sample (fun _ _ => "") reportDefinition "workflow.schema.v2" =
        .ok () ∧
      ClaimedStep.modelValidate ⟨fun _ => none, fun _ => none⟩
        (internalExecutionStep 0 checkReportRow) = some checkReportContext.step ∧
      ¬∀ produced, ProducedBy [buildStep] produced →
        ArtifactAssertion.Succeeds .sample checkReportContext →
          AssertionHolds (fun _ _ => False) checkReportStep produced := by
  refine ⟨reportDefinition_accepted, checkReport_claimed, fun h => ?_⟩
  have hvalid : artifactAssertionParams.valid (paramsOf checkReportStep) = true := by
    decide +kernel
  have hstep : checkReportContext.step = claimedStep 0 checkReportRow := rfl
  have hsuccess := (succeeds_iff .sample hvalid hstep rfl).2 (by decide)
  have hholds := h [] (fun _ hmem => absurd hmem List.not_mem_nil) hsuccess
  simp only [AssertionHolds] at hholds
  rw [if_pos (by decide)] at hholds
  obtain ⟨_, hmem, -⟩ := hholds
  cases hmem

end RunbookPlatform
