import RunbookPlatform.Executions.InternalSerializers
import RunbookPlatform.Runner.Executor
import RunbookPlatform.System
import RunbookPlatform.Workflows.Accepted

/-!
# The claim payload of accepted steps

What the runner parses out of the serialized rows of an accepted v2 definition, against
what the definition declares.

## Main definitions

- `declaredAction`, `declaredRetry`, `declaredIdempotency`, `declaredArtifact`,
  `declaredSecrets` — what a step declares
- `claimedStep` — the step that the runner is given

## Main results

- `modelValidate_accepted` — the payload of an accepted step is parsed, to `claimedStep`
- `payload_faithful_iff` — the payload keeps all that the step declares, and the runner
  fails closed, exactly for the steps without secrets
-/

namespace RunbookPlatform

open Schema

variable {env : Env} {message : Schema → Json → String} {lax : Coercions}
  {definition step v : Json} {keys : List String} {ps : List (String × Schema)} {k : String}

-- ════════════════════════════════════════════════════════════════════════
-- What a step declares
-- ════════════════════════════════════════════════════════════════════════

/-- The integer under a key. -/
def intOf (v : Json) (key : String) (default : ℤ) : ℤ :=
  match v.get? key with
  | some (.int n) => n
  | _ => default

/-- The truth value under a key. -/
def boolOf (v : Json) (key : String) : Bool :=
  match v.get? key with
  | some (.bool b) => b
  | _ => false

/-- The texts of the list under a key. -/
def textsOf (v : Json) (key : String) : List String := (listOf v key).map fun x => (x.str?).getD ""

/-- What an action declares. -/
def declaredAction (action : Json) : ActionSnapshot where
  type := textOf action "type" ""
  version := textOf action "version" ""
  params := action.getD "params" (.obj [])
  inputs := action.getD "inputs" (.obj [])
  outputs := action.getD "outputs" (.obj [])

/-- What a retry declares. -/
def declaredRetry (retry : Json) : RetrySpec where
  maxAttempts := intOf retry "maxAttempts" 0
  backoffSeconds := intOf retry "backoffSeconds" 0
  retryOn := textsOf retry "retryOn"

/-- What an idempotency declares. -/
def declaredIdempotency (idempotency : Json) : IdempotencySpec where
  mode := textOf idempotency "mode" ""
  key := textOf idempotency "key" ""
  reason := textOf idempotency "reason" ""

/-- What an artifact declares. -/
def declaredArtifact (artifact : Json) : ArtifactDeclaration where
  key := textOf artifact "key" ""
  name := textOf artifact "name" ""
  path := textOf artifact "path" ""
  kind := textOf artifact "kind" ""
  mimeType := textOf artifact "mimeType" ""
  required := boolOf artifact "required"
  maxBytes := (artifact.get? "maxBytes").map fun _ => intOf artifact "maxBytes" 0
  contentDisposition := textOf artifact "contentDisposition" ""
  evidenceRole := textOf artifact "evidenceRole" ""

/-- The secrets that a step refers to. -/
def declaredSecrets (step : Json) : List String := textsOf step "secrets"

/-- The step that the runner is given: all that the row's snapshot declares but its
secrets. -/
def claimedStep (id : ℕ) (row : ExecutionStep) : ClaimedStep where
  id
  position := row.position
  stepKey := row.stepKey
  name := row.name
  stepType := row.stepType
  riskLevel := row.riskLevel
  command := row.command
  requiresApproval := row.requiresApproval
  status := row.status
  stepSnapshot := row.stepSnapshot
  actionSnapshot := some (declaredAction (actionOf row.stepSnapshot))
  timeoutSeconds := (row.stepSnapshot.get? "timeoutSeconds").map fun _ =>
    intOf row.stepSnapshot "timeoutSeconds" 0
  retry := (row.stepSnapshot.get? "retry").map declaredRetry
  idempotency := (row.stepSnapshot.get? "idempotency").map declaredIdempotency
  artifacts := (listOf row.stepSnapshot "artifacts").map declaredArtifact

-- ════════════════════════════════════════════════════════════════════════
-- Fields of conforming objects
-- ════════════════════════════════════════════════════════════════════════

theorem mapM_of_forall {α β : Type} {f : α → Option β} {g : α → β} {xs : List α}
    (h : ∀ x ∈ xs, f x = some (g x)) : xs.mapM f = some (xs.map g) := by
  induction xs with
  | nil => rfl
  | cons x xs ih =>
    rw [List.mapM_cons, h x List.mem_cons_self, ih fun y hy => h y (List.mem_cons_of_mem _ hy)]
    rfl

section

variable {s : Schema} (h : (closed keys ps).valid v = true) (hp : ps.lookup k = some s)

include h hp

/-- A field of a known type is absent or has a value of that type. -/
theorem typed_field {t : JsonType} (hs : s.Only t) :
    v.get? k = none ∨ ∃ x, v.get? k = some x ∧ t.holds x = true := by
  cases hx : v.get? k with
  | none => exact .inl rfl
  | some x => exact .inr ⟨x, rfl, hs x (closed_property h hp hx)⟩

/-- A list of a known element type, which may be absent. -/
theorem list_field {element : Schema} (hs : s = arrayOf element) :
    (v.getD k .null).orElse (.arr []) = .arr (listOf v k) ∧
      ∀ x ∈ listOf v k, element.valid x = true := by
  subst hs
  rw [listOf, Json.getD, Json.getD]
  cases hx : v.get? k with
  | none => exact ⟨rfl, fun _ h => absurd h List.not_mem_nil⟩
  | some list =>
    have hlist : (arrayOf element).valid list = true := closed_property h hp hx
    obtain ⟨vs, rfl⟩ := valid_array.1 (valid_all.1 hlist (type .array) (by simp))
    refine ⟨?_, valid_items.1 (valid_all.1 hlist (items element) (by simp))⟩
    cases vs <;> simp [Json.orElse, Json.truthy, Json.items?]

theorem text_field (hs : s.Only .string) : v.get? k = none ∨ ∃ t, v.get? k = some (.str t) := by
  refine (typed_field h hp hs).imp_right ?_
  rintro ⟨x, hx, ht⟩
  obtain ⟨t, rfl⟩ := valid_string.1 ht
  exact ⟨t, hx⟩

theorem integer_field (hs : s.Only .integer) :
    v.get? k = none ∨ ∃ n, v.get? k = some (.int n) := by
  refine (typed_field h hp hs).imp_right ?_
  rintro ⟨x, hx, ht⟩
  obtain ⟨n, rfl⟩ := valid_integer.1 ht
  exact ⟨n, hx⟩

theorem optionalKey_text (hs : s.Only .string) {default : String} :
    optionalKey v Json.str? k default = some (textOf v k default) := by
  rcases text_field h hp hs with hx | ⟨t, hx⟩ <;> simp [optionalKey, textOf, Json.getD, hx, Json.str?]

theorem requiredKey_text (hs : s.Only .string) (hk : k ∈ keys) :
    requiredKey v Json.str? k = some (textOf v k "") := by
  obtain ⟨x, hx⟩ := closed_required h hk
  rcases text_field h hp hs with hnone | ⟨t, ht⟩
  · rw [hx] at hnone
    cases hnone
  · simp [requiredKey, textOf, Json.getD, ht, Json.str?]

theorem optionalKey_dict (hs : s.Only .object) :
    optionalKey v dictField k (.obj []) = some (v.getD k (.obj [])) := by
  rcases typed_field h hp hs with hx | ⟨x, hx, hobject⟩
  · simp [optionalKey, Json.getD, hx]
  · obtain ⟨fs, rfl⟩ := valid_object.1 hobject
    simp [optionalKey, Json.getD, hx, dictField]

theorem optionalKey_bool (hs : s.Only .boolean) :
    optionalKey v lax.bool k false = some (boolOf v k) := by
  rcases typed_field h hp hs with hx | ⟨x, hx, hbool⟩
  · simp [optionalKey, boolOf, hx]
  · obtain ⟨b, rfl⟩ := valid_boolean.1 hbool
    simp [optionalKey, boolOf, hx, Coercions.bool]

variable {name : String} (hname : name ∉ ps.map (·.1))

include hname

theorem optionalAlias_text (hs : s.Only .string) {default : String} :
    optionalAlias v Json.str? k name default = some (textOf v k default) := by
  rw [optionalAlias, closed_absent h hname, Option.or_none]
  exact optionalKey_text h hp hs

theorem optionalAlias_int (hs : s.Only .integer) {default : ℤ} :
    optionalAlias v lax.int k name default = some (intOf v k default) := by
  rw [optionalAlias, closed_absent h hname, Option.or_none]
  rcases integer_field h hp hs with hx | ⟨n, hx⟩ <;> simp [intOf, hx, Coercions.int]

theorem requiredAlias_int (hs : s.Only .integer) (hk : k ∈ keys) :
    requiredAlias v lax.int k name = some (intOf v k 0) := by
  obtain ⟨x, hx⟩ := closed_required h hk
  rw [requiredAlias, closed_absent h hname, Option.or_none]
  rcases integer_field h hp hs with hnone | ⟨n, hn⟩
  · rw [hx] at hnone
    cases hnone
  · simp [intOf, hn, Coercions.int]

theorem optionalAlias_optionalInt (hs : s.Only .integer) :
    optionalAlias v (optionalField lax.int) k name none =
      some ((v.get? k).map fun _ => intOf v k 0) := by
  rw [optionalAlias, closed_absent h hname, Option.or_none]
  rcases integer_field h hp hs with hx | ⟨n, hx⟩ <;>
    simp [intOf, hx, Coercions.int, optionalField]

end

/-- The texts of a list of texts. -/
theorem listField_texts {s : Schema} {vs : List Json} (hs : s.Only .string)
    (h : (arrayOf s).valid (.arr vs) = true) :
    listField Json.str? (.arr vs) = some (vs.map fun x => (x.str?).getD "") := by
  refine mapM_of_forall fun x hx => ?_
  have hvalid := valid_items.1 (valid_all.1 h (items s) (by simp)) x hx
  obtain ⟨t, rfl⟩ := valid_string.1 (hs x hvalid)
  rfl

-- ════════════════════════════════════════════════════════════════════════
-- The parts of a step
-- ════════════════════════════════════════════════════════════════════════

theorem action_modelValidate {actionType : String} {params : Schema} {needsParams : Bool}
    (hparams : params.Only .object) (h : (actionSchema actionType params needsParams).valid v = true) :
    ActionSnapshot.modelValidate v = some (declaredAction v) := by
  have htype := type_mem_actionRequired needsParams
  obtain ⟨fs, rfl⟩ := closed_object h
  rw [ActionSnapshot.modelValidate, dictField, Option.bind_eq_bind, Option.bind_some,
    requiredKey_text h rfl only_all htype, optionalKey_text h rfl only_type,
    optionalKey_dict h rfl hparams, optionalKey_dict h rfl only_type,
    optionalKey_dict h rfl only_type]
  rfl

theorem retry_modelValidate (h : retrySchema.valid v = true) :
    RetrySpec.modelValidate lax v = some (declaredRetry v) := by
  have hretryOn : optionalAlias v (listField Json.str?) "retryOn" "retry_on" [] =
      some (textsOf v "retryOn") := by
    rw [optionalAlias, closed_absent h (show "retry_on" ∉ _ by decide), Option.or_none]
    cases hx : v.get? "retryOn" with
    | none => simp [textsOf, listOf, Json.getD, hx, Json.items?]
    | some x =>
      have hlist : (arrayOf _).valid x = true := closed_property h rfl hx
      obtain ⟨vs, rfl⟩ := valid_array.1 (valid_all.1 hlist (type .array) (by simp))
      simp only [textsOf, listOf, Json.getD, hx, Option.getD_some, Json.items?]
      exact listField_texts only_all hlist
  obtain ⟨fs, rfl⟩ := closed_object h
  rw [RetrySpec.modelValidate, dictField, Option.bind_eq_bind, Option.bind_some,
    requiredAlias_int h rfl (by decide) only_all (by simp),
    optionalAlias_int h rfl (by decide) only_all, hretryOn]
  rfl

theorem idempotency_modelValidate (h : idempotencySchema.valid v = true) :
    IdempotencySpec.modelValidate v = some (declaredIdempotency v) := by
  obtain ⟨fs, rfl⟩ := closed_object h
  rw [IdempotencySpec.modelValidate, dictField, Option.bind_eq_bind, Option.bind_some,
    requiredKey_text h rfl only_all (by simp), optionalKey_text h rfl only_type,
    optionalKey_text h rfl only_type]
  rfl

theorem artifact_modelValidate (h : artifactDeclarationSchema.valid v = true) :
    ArtifactDeclaration.modelValidate lax v = some (declaredArtifact v) := by
  obtain ⟨fs, rfl⟩ := closed_object h
  rw [ArtifactDeclaration.modelValidate, dictField, Option.bind_eq_bind, Option.bind_some,
    requiredKey_text h rfl only_all (by simp), optionalKey_text h rfl only_type,
    optionalKey_text h rfl only_type, optionalKey_text h rfl only_all,
    optionalAlias_text h rfl (by decide) only_type, optionalKey_bool h rfl only_type,
    optionalAlias_optionalInt h rfl (by decide) only_all,
    optionalAlias_text h rfl (by decide) only_type, optionalAlias_text h rfl (by decide) only_type]
  rfl

-- ════════════════════════════════════════════════════════════════════════
-- The step
-- ════════════════════════════════════════════════════════════════════════

theorem params_only_object {actionType : String} {params : Schema} {needsParams : Bool}
    (h : (actionType, params, needsParams) ∈ actionTypes) : params.Only .object := by
  simp only [actionTypes, List.mem_cons, Prod.mk.injEq, List.not_mem_nil, or_false] at h
  rcases h with ⟨-, rfl, -⟩ | ⟨-, rfl, -⟩ | ⟨-, rfl, -⟩ | ⟨-, rfl, -⟩ | ⟨-, rfl, -⟩
  any_goals exact only_all
  -- the parameters of an assertion conform to a further condition
  exact fun x hx => only_all x (valid_all.1 hx (closed _ _) List.mem_cons_self)

theorem uuidField_idText (id : ℕ) : uuidField (.str (idText id)) = some id :=
  Nat.toNat?_repr id

theorem stepStatusField_value {status : StepStatus} (h : status ≠ .cancelled) :
    stepStatusField (.str status.value) = some status := by
  cases status <;> first | rfl | exact absurd rfl h

section

variable (h : StepAccepted step)

include h

theorem action_field :
    optionalField ActionSnapshot.modelValidate (step.getD "action" .null) =
      some (some (declaredAction (actionOf step))) := by
  obtain ⟨actionType, params, needsParams, action, hmem, haction, -, hvalid⟩ := h.exists_action
  have hparsed := action_modelValidate (params_only_object hmem) hvalid
  obtain ⟨fs, rfl⟩ := closed_object hvalid
  simp [actionOf, Json.getD, haction, optionalField, hparsed]

theorem timeout_field :
    optionalField lax.int (step.getD "timeoutSeconds" .null) =
      some ((step.get? "timeoutSeconds").map fun _ => intOf step "timeoutSeconds" 0) := by
  rcases integer_field h.fields (k := "timeoutSeconds") rfl only_all with hx | ⟨n, hx⟩ <;>
    simp [Json.getD, hx, optionalField, intOf, Coercions.int]

theorem retry_field :
    optionalField (RetrySpec.modelValidate lax) (step.getD "retry" .null) =
      some ((step.get? "retry").map declaredRetry) := by
  cases hx : step.get? "retry" with
  | none => simp [Json.getD, hx, optionalField]
  | some retry =>
    have hvalid : retrySchema.valid retry = true := closed_property h.fields rfl hx
    have hparsed : RetrySpec.modelValidate lax retry = some (declaredRetry retry) :=
      retry_modelValidate hvalid
    obtain ⟨fs, rfl⟩ := closed_object hvalid
    simp [Json.getD, hx, optionalField, hparsed]

theorem idempotency_field :
    optionalField IdempotencySpec.modelValidate (step.getD "idempotency" .null) =
      some ((step.get? "idempotency").map declaredIdempotency) := by
  cases hx : step.get? "idempotency" with
  | none => simp [Json.getD, hx, optionalField]
  | some idempotency =>
    have hvalid : idempotencySchema.valid idempotency = true := closed_property h.fields rfl hx
    have hparsed := idempotency_modelValidate hvalid
    obtain ⟨fs, rfl⟩ := closed_object hvalid
    simp [Json.getD, hx, optionalField, hparsed]

theorem artifacts_field :
    listField (ArtifactDeclaration.modelValidate lax)
        ((step.getD "artifacts" .null).orElse (.arr [])) =
      some ((listOf step "artifacts").map declaredArtifact) := by
  obtain ⟨hlist, hvalid⟩ := list_field h.fields (k := "artifacts") rfl rfl
  rw [hlist]
  exact mapM_of_forall fun x hmem => artifact_modelValidate (hvalid x hmem)

end

/-- **The payload of an accepted step** is parsed. -/
theorem modelValidate_accepted {id : ℕ} {row : ExecutionStep} (h : StepAccepted row.stepSnapshot)
    (hstatus : row.status ≠ .cancelled) :
    ClaimedStep.modelValidate lax (internalExecutionStep id row) = some (claimedStep id row) := by
  obtain ⟨fs, hsnapshot⟩ := closed_object h.fields
  have hobject : row.snapshot = row.stepSnapshot := by
    rw [ExecutionStep.snapshot, hsnapshot]
    rfl
  have hdict : dictField row.stepSnapshot = some row.stepSnapshot := by
    rw [hsnapshot]
    rfl
  have hid : requiredKey (internalExecutionStep id row) uuidField "id" = some id :=
    uuidField_idText id
  have hstatus : requiredKey (internalExecutionStep id row) stepStatusField "status" =
      some row.status := stepStatusField_value hstatus
  have hsnapshot : optionalKey (internalExecutionStep id row) dictField "step_snapshot" (.obj []) =
      some row.stepSnapshot := hdict
  have haction : optionalKey (internalExecutionStep id row)
      (optionalField ActionSnapshot.modelValidate) "action_snapshot" none =
        some (claimedStep id row).actionSnapshot := by
    show optionalField _ (row.snapshot.getD "action" .null) = _
    rw [hobject]
    exact action_field h
  have htimeout : optionalKey (internalExecutionStep id row) (optionalField lax.int)
      "timeout_seconds" none = some (claimedStep id row).timeoutSeconds := by
    show optionalField _ (row.snapshot.getD "timeoutSeconds" .null) = _
    rw [hobject]
    exact timeout_field h
  have hretry : optionalKey (internalExecutionStep id row)
      (optionalField (RetrySpec.modelValidate lax)) "retry" none =
        some (claimedStep id row).retry := by
    show optionalField _ (row.snapshot.getD "retry" .null) = _
    rw [hobject]
    exact retry_field h
  have hidempotency : optionalKey (internalExecutionStep id row)
      (optionalField IdempotencySpec.modelValidate) "idempotency" none =
        some (claimedStep id row).idempotency := by
    show optionalField _ (row.snapshot.getD "idempotency" .null) = _
    rw [hobject]
    exact idempotency_field h
  have hartifacts : optionalKey (internalExecutionStep id row)
      (listField (ArtifactDeclaration.modelValidate lax)) "artifacts" [] =
        some (claimedStep id row).artifacts := by
    show listField _ ((row.snapshot.getD "artifacts" .null).orElse (.arr [])) = _
    rw [hobject]
    exact artifacts_field h
  have hobj : dictField (internalExecutionStep id row) = some (internalExecutionStep id row) := rfl
  rw [ClaimedStep.modelValidate, hobj, Option.bind_eq_bind, Option.bind_some, hid, hstatus,
    hsnapshot, haction, htimeout, hretry, hidempotency, hartifacts]
  rfl

/-- An action of an accepted step that gives a version gives that of the catalog. -/
theorem StepAccepted.version (h : StepAccepted step)
    (hpresent : ((actionOf step).get? "version").isSome = true) :
    (actionOf step).get? "version" = some (.str "pilot.v1") := by
  obtain ⟨_, _, _, action, -, haction, -, hvalid⟩ := h.exists_action
  have hversion := h.contract
  rw [actionOf_of_get haction] at hpresent hversion ⊢
  rw [effectiveVersion, textOf, Json.getD] at hversion
  obtain ⟨text, htext⟩ := (text_field hvalid (k := "version") rfl only_type).resolve_left
    (Option.isSome_iff_ne_none.1 hpresent)
  rw [htext] at hversion ⊢
  obtain rfl : text = "pilot.v1" := hversion
  rfl

/-- What a parsed payload says of its step. -/
theorem modelValidate_some {claimed : ClaimedStep}
    (h : ClaimedStep.modelValidate lax v = some claimed) :
    (requiredKey v uuidField "id" = some claimed.id ∧
      requiredKey v lax.int "position" = some claimed.position ∧
      requiredKey v stepStatusField "status" = some claimed.status) ∧
    requiredKey v Json.str? "step_type" = some claimed.stepType ∧
      optionalKey v Json.str? "command" "" = some claimed.command ∧
      optionalKey v (optionalField ActionSnapshot.modelValidate) "action_snapshot" none =
        some claimed.actionSnapshot := by
  have hbind : ∀ {α β : Type} {x : Option α} {f : α → Option β} {b : β}, (x >>= f) = some b →
      ∃ a, x = some a ∧ f a = some b := Option.bind_eq_some_iff.1
  rw [ClaimedStep.modelValidate] at h
  obtain ⟨w, hv, hfields⟩ := hbind h
  obtain rfl : w = v := by
    cases v <;> cases hv
    rfl
  -- the fields in their order
  obtain ⟨_, hid, hfields⟩ := hbind hfields
  obtain ⟨_, hposition, hfields⟩ := hbind hfields
  iterate 2 obtain ⟨_, -, hfields⟩ := hbind hfields
  obtain ⟨_, htype, hfields⟩ := hbind hfields
  obtain ⟨_, -, hfields⟩ := hbind hfields
  obtain ⟨_, hcommand, hfields⟩ := hbind hfields
  obtain ⟨_, -, hfields⟩ := hbind hfields
  obtain ⟨_, hstatus, hfields⟩ := hbind hfields
  obtain ⟨_, -, hfields⟩ := hbind hfields
  obtain ⟨_, haction, hfields⟩ := hbind hfields
  iterate 5 obtain ⟨_, -, hfields⟩ := hbind hfields
  cases hfields
  exact ⟨⟨hid, hposition, hstatus⟩, htype, hcommand, haction⟩

/-- A parsed step has the key, the position and the status of its row. -/
theorem modelValidate_row {id : ℕ} {row : ExecutionStep} {claimed : ClaimedStep}
    (h : ClaimedStep.modelValidate lax (internalExecutionStep id row) = some claimed) :
    claimed.id = id ∧ claimed.position = row.position ∧ claimed.status = row.status := by
  obtain ⟨⟨hid, hposition, hstatus⟩, -⟩ := modelValidate_some h
  refine ⟨?_, (Option.some.inj hposition).symm, ?_⟩
  · exact (Option.some.inj ((uuidField_idText id).symm.trans hid)).symm
  · have hfield : stepStatusField (.str row.status.value) = some claimed.status := hstatus
    cases hrow : row.status with
    | cancelled =>
      rw [hrow] at hfield
      cases hfield
    | _ =>
      rw [stepStatusField_value (by simp [hrow]), hrow] at hfield
      exact (Option.some.inj hfield).symm

/-- A parsed step has the type and the command of its row, and the action of the row's
snapshot. -/
theorem modelValidate_internalExecutionStep {id : ℕ} {row : ExecutionStep} {claimed : ClaimedStep}
    (h : ClaimedStep.modelValidate lax (internalExecutionStep id row) = some claimed) :
    claimed.stepType = row.stepType ∧ claimed.command = row.command ∧
      optionalField ActionSnapshot.modelValidate (row.snapshot.getD "action" .null) =
        some claimed.actionSnapshot := by
  obtain ⟨-, htype, hcommand, haction⟩ := modelValidate_some h
  exact ⟨(Option.some.inj htype).symm, (Option.some.inj hcommand).symm, haction⟩

-- ════════════════════════════════════════════════════════════════════════
-- Secrets
-- ════════════════════════════════════════════════════════════════════════

/-- The parsed step has all that the definition declares for it but its secrets. -/
structure ClaimedStep.KeepsDeclared (claimed : ClaimedStep) (step : Json) : Prop where
  action : claimed.actionSnapshot = some (declaredAction (actionOf step))
  timeout : claimed.timeoutSeconds =
    (step.get? "timeoutSeconds").map fun _ => intOf step "timeoutSeconds" 0
  retry : claimed.retry = (step.get? "retry").map declaredRetry
  idempotency : claimed.idempotency = (step.get? "idempotency").map declaredIdempotency
  artifacts : claimed.artifacts = (listOf step "artifacts").map declaredArtifact

/-- The parsed step has the secrets of the definition, and with any of them no handler is
called, since no runner resolves secrets. -/
structure ClaimedStep.KeepsSecrets (x : Executor) (claimed : ClaimedStep) (step : Json) : Prop where
  secrets : claimed.secretKeys = declaredSecrets step
  closed : declaredSecrets step ≠ [] → ∀ snapshot handler, claimed.actionSnapshot = some snapshot →
    x.prepareAction claimed snapshot ≠ .ok (.ok handler)

theorem claimedStep_keepsDeclared (id : ℕ) (row : ExecutionStep) :
    (claimedStep id row).KeepsDeclared row.stepSnapshot :=
  ⟨rfl, rfl, rfl, rfl, rfl⟩

/-- What the row of a step takes from it. -/
theorem stepRow_snapshot {execution position : ℕ} {schemaVersion : String} {row : ExecutionStep}
    (h : stepRow env execution position schemaVersion step = .ok row) :
    row.stepSnapshot = step ∧ row.status = .pending ∧
      charField env (step.getD "type" (.str "")) = .ok row.stepType ∧
      charField env (extractStepCommand step schemaVersion) = .ok row.command := by
  simp only [stepRow, except_bind_ok] at h
  obtain ⟨_, -, _, -, _, -, _, -, _, htype, _, -, _, hcommand, _, -, h⟩ := h
  obtain rfl := Except.ok.inj h
  exact ⟨rfl, rfl, htype, hcommand⟩

/-- **The claim payload** of every step of an accepted v2 definition keeps its action,
timeout, retry, idempotency and artifacts. It keeps the secrets, and the runner fails
closed on them, for the steps without secrets only. -/
theorem payload_faithful_iff {u : Unit} (haccepted : validateV2 env message definition = .ok u)
    (hstep : step ∈ listOf definition "steps") {execution position : ℕ} {row : ExecutionStep}
    (hrow : stepRow env execution position "workflow.schema.v2" step = .ok row) (id : ℕ)
    (x : Executor) :
    ∃ claimed, ClaimedStep.modelValidate lax (internalExecutionStep id row) = some claimed ∧
      claimed.KeepsDeclared step ∧
      (claimed.KeepsSecrets x step ↔ declaredSecrets step = []) := by
  obtain ⟨rfl, hpending, -⟩ := stepRow_snapshot hrow
  refine ⟨claimedStep id row,
    modelValidate_accepted (accepted_steps haccepted hstep) (by simp [hpending]),
    claimedStep_keepsDeclared id row, fun h => h.secrets.symm, fun h => ?_⟩
  exact ⟨h.symm, fun hne => absurd h hne⟩

/-- A step that declares a secret. -/
def secretStep : Json :=
  .obj
    [ ("id", .str "rotate"),
      ("name", .str "Rotate"),
      ("type", .str "shell_command"),
      ("risk", .str "low"),
      ("action", .obj
        [ ("type", .str "shell_command"),
          ("version", .str "pilot.v1"),
          ("params", .obj [("command", .str "rotate")]) ]),
      ("secrets", .arr [.str "password"]) ]

/-- Its workflow. -/
def secretDefinition : Json :=
  .obj
    [ ("schemaVersion", .str "2"),
      ("name", .str "Rotation"),
      ("secrets", .arr [.obj [("key", .str "password")]]),
      ("steps", .arr [secretStep]) ]

/-- The row of that step. -/
def secretRow : ExecutionStep where
  execution := 0
  position := 1
  stepKey := "rotate"
  name := "Rotate"
  stepType := "shell_command"
  riskLevel := "low"
  command := "rotate"
  stepSnapshot := secretStep

/-- A sandboxed runner. -/
def Executor.sample (execution : ClaimedExecution) : Executor where
  env := .sample
  host := .sample
  settings := some { executionMode := "sandboxed" }
  execution
  claimToken := "token"
  polls := 1

theorem secretDefinition_ok : validateV2 .sample (fun _ _ => "") secretDefinition = .ok () := by
  have hok : (validateV2 .sample (fun _ _ => "") secretDefinition).isOk = true := by decide +kernel
  obtain ⟨u, haccepted⟩ := exists_eq_ok hok
  exact haccepted

theorem secretRow_ok :
    stepRow .sample 0 1 "workflow.schema.v2" secretStep = .ok secretRow := by
  rfl

/-- The payload of an accepted step. -/
theorem payload_faithful_secretRow :
    ∃ claimed, ClaimedStep.modelValidate ⟨fun _ => none, fun _ => none⟩
        (internalExecutionStep 0 secretRow) = some claimed ∧
      claimed.KeepsDeclared secretStep ∧
      (claimed.KeepsSecrets (.sample ⟨0, [], "live", none, [], none⟩) secretStep ↔
        declaredSecrets secretStep = []) :=
  payload_faithful_iff secretDefinition_ok (List.mem_singleton.2 rfl) secretRow_ok 0 _

/-- The step declares a secret, the parsed step has none, and its handler is called. -/
theorem secrets_lost_in_payload :
    (validateV2 .sample (fun _ _ => "") secretDefinition).isOk = true ∧
      stepRow .sample 0 1 "workflow.schema.v2" secretStep = .ok secretRow ∧
      declaredSecrets secretStep = ["password"] ∧
      ∃ claimed, ClaimedStep.modelValidate ⟨fun _ => none, fun _ => none⟩
          (internalExecutionStep 0 secretRow) = some claimed ∧
        claimed.secretKeys = [] ∧
        ∃ snapshot, claimed.actionSnapshot = some snapshot ∧
          (Executor.sample ⟨0, [claimed], "live", none, [], none⟩).prepareAction claimed snapshot =
            .ok (.ok .shellCommand) := by
  have haccepted : StepAccepted secretStep :=
    accepted_steps secretDefinition_ok (List.mem_singleton.2 rfl)
  refine ⟨?_, secretRow_ok, rfl, claimedStep 0 secretRow,
    modelValidate_accepted haccepted (by decide), rfl, _, rfl, ?_⟩
  · rw [secretDefinition_ok]
    rfl
  · rfl

end RunbookPlatform
