import RunbookPlatform.Workflows.Validators

/-!
# Accepted definitions

What `validateV2` says of every step of a definition that it accepts.

## Main definitions

- `StepAccepted` — what acceptance says of one step

## Main results

- `accepted_steps` — every step of an accepted definition is accepted
- `StepAccepted.exists_action` — its action conforms to the schema of its type
-/

namespace RunbookPlatform

open Schema

variable {env : Env} {message : Schema → Json → String} {definition step action v : Json}

/-- `step.get("action", {})`. -/
def actionOf (step : Json) : Json := step.getD "action" (.obj [])

theorem actionOf_of_get (h : step.get? "action" = some action) : actionOf step = action := by
  rw [actionOf, Json.getD, h]
  rfl

/-- What acceptance says of one step: it conforms to its schema, its action has its type
and a contract in the pilot catalog, and the pilot restrictions hold. -/
structure StepAccepted (step : Json) : Prop where
  conforms : stepSchema.valid step = true
  matched : (step.getD "type" (.str "")).pyEq ((actionOf step).getD "type" (.str "")) = true
  contract : effectiveVersion (actionOf step) "pilot.v1" = "pilot.v1"
  unrestricted : ∃ stepId, checkPilotRestrictions stepId step (actionOf step) = .ok ()

-- ════════════════════════════════════════════════════════════════════════
-- From a definition to its steps
-- ════════════════════════════════════════════════════════════════════════

theorem checkStep_ok {catalogVersion stepId : String} {u : Unit}
    (h : checkStep env message definition catalogVersion stepId step = .ok u) :
    checkActionTypeMatch env stepId step (actionOf step) = .ok () ∧
      checkActionCatalog env stepId (actionOf step) catalogVersion = .ok () := by
  simp only [checkStep, except_bind_ok] at h
  obtain ⟨_, htype, _, hcatalog, -⟩ := h
  exact ⟨htype, hcatalog⟩

/-- **The loop over the steps** checks every one of them. -/
theorem checkSteps_ok {catalogVersion : String} {position : ℕ} {seenIds keys ids : List String}
    {steps : List Json}
    (h : checkSteps env message definition catalogVersion position seenIds keys steps = .ok ids)
    (hstep : step ∈ steps) :
    ∃ stepId, checkStep env message definition catalogVersion stepId step = .ok () ∧
      checkPilotRestrictions stepId step (actionOf step) = .ok () := by
  induction steps generalizing position seenIds keys with
  | nil => cases hstep
  | cons first rest ih =>
    simp only [checkSteps, except_bind_ok] at h
    obtain ⟨_, -, _, hcheck, later, -, _, -, _, -, _, hpilot, hrest⟩ := h
    rcases List.mem_cons.1 hstep with rfl | hmem
    · exact ⟨_, hcheck, hpilot⟩
    · exact ih hrest hmem

theorem lookupActionContract_none {reprText : String → String} {actionType version : String}
    (h : lookupActionContract reprText actionType version = none) : version = "pilot.v1" := by
  by_contra hversion
  simp [lookupActionContract, hversion] at h

theorem validateV2_ok {u : Unit} (h : validateV2 env message definition = .ok u) :
    workflowSchemaV2.valid definition = true ∧
      catalogVersionOf definition = .str "pilot.v1" ∧
      ∃ ids, checkSteps env message definition "pilot.v1" 1 [] []
        (listOf definition "steps") = .ok ids := by
  simp only [validateV2, checkSchemaV2, checkSemanticsV2, checkCatalogVersion, except_bind_ok,
    check_ok] at h
  obtain ⟨_, hschema, _, hcatalog, ids, hsteps, -⟩ := h
  rw [hcatalog] at hsteps
  exact ⟨hschema, hcatalog, ids, hsteps⟩

/-- **Every step** of an accepted definition is accepted. -/
theorem accepted_steps {u : Unit} (h : validateV2 env message definition = .ok u)
    (hstep : step ∈ listOf definition "steps") : StepAccepted step := by
  obtain ⟨hschema, -, ids, hsteps⟩ := validateV2_ok h
  obtain ⟨stepId, hcheck, hpilot⟩ := checkSteps_ok hsteps hstep
  obtain ⟨htype, hcatalog⟩ := checkStep_ok hcheck
  rw [checkActionTypeMatch, check_ok] at htype
  refine ⟨?_, htype, ?_, stepId, hpilot⟩
  · obtain ⟨list, hlist⟩ := closed_required hschema (show "steps" ∈ _ by simp)
    have hvalid : (all [type .array, minItems 1, items stepSchema]).valid list = true :=
      closed_property hschema rfl hlist
    obtain ⟨elements, rfl⟩ := valid_array.1 (valid_all.1 hvalid (type .array) (by simp))
    rw [listOf, Json.getD, hlist] at hstep
    exact valid_items.1 (valid_all.1 hvalid (items stepSchema) (by simp)) step hstep
  · rw [checkActionCatalog] at hcatalog
    split at hcatalog
    · rename_i hnone
      exact lookupActionContract_none hnone
    · cases hcatalog

-- ════════════════════════════════════════════════════════════════════════
-- The action of a step
-- ════════════════════════════════════════════════════════════════════════

theorem type_mem_actionRequired (needsParams : Bool) : "type" ∈ actionRequired needsParams := by
  cases needsParams <;> simp [actionRequired]

/-- The type of a conforming action is that of its schema. -/
theorem actionSchema_type {actionType : String} {params : Schema} {needsParams : Bool}
    (h : (actionSchema actionType params needsParams).valid action = true) :
    action.get? "type" = some (.str actionType) := by
  obtain ⟨found, hfound⟩ := closed_required h (type_mem_actionRequired needsParams)
  have hconst : (all [type .string, Schema.const actionType]).valid found = true :=
    closed_property h rfl hfound
  rw [hfound, valid_const.1 (valid_all.1 hconst (Schema.const actionType) (by simp))]

/-- The fields of an accepted step. -/
theorem StepAccepted.fields (h : StepAccepted step) : stepFields.valid step = true :=
  valid_all.1 h.conforms stepFields (by simp)

/-- **The action** of an accepted step conforms to the schema of its type. -/
theorem StepAccepted.exists_action (h : StepAccepted step) :
    ∃ actionType params needsParams action,
      (actionType, params, needsParams) ∈ actionTypes ∧
        step.get? "action" = some action ∧
        step.get? "type" = some (.str actionType) ∧
        (actionSchema actionType params needsParams).valid action = true := by
  have hfields := h.fields
  obtain ⟨action, haction⟩ := closed_required hfields (show "action" ∈ _ by simp)
  obtain ⟨stepType, hstepType⟩ := closed_required hfields (show "type" ∈ _ by simp)
  have hone : (oneOf (actionTypes.map fun t => actionSchema t.1 t.2.1 t.2.2)).valid action = true :=
    closed_property hfields rfl haction
  obtain ⟨schema, hschema, hvalid⟩ := exists_valid_of_oneOf hone
  obtain ⟨⟨actionType, params, needsParams⟩, hmem, rfl⟩ := List.mem_map.1 hschema
  have htext : (textAmong (actionTypes.map (·.1))).valid stepType = true :=
    closed_property hfields rfl hstepType
  obtain ⟨text, rfl⟩ := valid_string.1 (valid_all.1 htext (type .string) (by simp))
  have hfound := actionSchema_type hvalid
  have hmatched := h.matched
  simp only [actionOf, Json.getD, hstepType, haction, hfound, Option.getD_some, Json.pyEq,
    beq_iff_eq] at hmatched
  exact ⟨actionType, params, needsParams, action, hmem, haction, hmatched ▸ hstepType, hvalid⟩

end RunbookPlatform
