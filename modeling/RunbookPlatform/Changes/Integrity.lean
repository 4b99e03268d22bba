import RunbookPlatform.Changes.Transitions

/-!
# Request snapshots and dispatch tokens

The frozen dossier of a submitted change and the tokens derived from a binding.
`validateRequestIntegrity` re-hashes the stored inputs and the stored snapshot, and
rebuilds the snapshot from the live rows.

## Main definitions

- `buildRequestSnapshot`, `validateRequestIntegrity`
- `generateDispatchToken`, `verifyDispatchToken`
-/

namespace RunbookPlatform

open Transactional

/-- `normalize_target_identifier`. -/
def normalizeTargetIdentifier (env : Env) (identifier : String) : String :=
  env.lower (strip identifier)

/-- The entry of one target in the snapshot. -/
def targetSnapshot (t : ChangeTarget) : Json :=
  .obj [("position", .int t.position), ("target_type", .str t.targetType),
    ("target_identifier", .str t.targetIdentifier),
    ("normalized_identifier", .str t.normalizedIdentifier),
    ("display_name", .str t.displayName), ("environment", .str t.environment),
    ("metadata", t.metadata.orElse (.obj []))]

/-- Insert a target by position. -/
def insertByPosition (t : ChangeTarget) : List ChangeTarget → List ChangeTarget
  | [] => [t]
  | u :: us => if t.position < u.position then t :: u :: us else u :: insertByPosition t us

/-- `sorted(targets, key=lambda t: t.position)`. -/
def sortByPosition (targets : List ChangeTarget) : List ChangeTarget :=
  targets.reverse.foldr insertByPosition []

def profileSnapshot : Option (Loaded OperationProfile) → Json
  | none => .obj []
  | some ⟨id, profile⟩ =>
    .obj [("id", .str (idText id)), ("key", .str profile.key), ("name", .str profile.name),
      ("risk_level", .str profile.riskLevel),
      ("requires_approval", .bool profile.requiresApproval),
      ("verification_required", .bool profile.verificationRequired)]

def workflowSnapshot (env : Env) : Option (Loaded Workflow) → Json
  | none => .obj []
  | some ⟨id, workflow⟩ =>
    .obj [("id", .str (idText id)), ("name", .str workflow.name),
      ("version", .int workflow.version), ("status", .str workflow.status.value),
      ("definition_sha256", .str (sha256CanonicalJson env (workflow.definition.orElse (.obj []))))]

/-- `build_request_snapshot`, with the two fields that
`build_live_submitted_request_snapshot` replaces as arguments. -/
def requestSnapshot (env : Env) (change : Loaded ChangeRecord) (targets : List ChangeTarget)
    (submittedAt : Time) (profile : Option (Loaded OperationProfile))
    (workflow : Option (Loaded Workflow)) (operationProfileKey workflowVersion : Json) : Json :=
  let c := change.row
  let requestedInputs := c.requestedInputs.orElse (.obj [])
  .obj [("change_record_id", .str (idText change.id)), ("title", .str c.title),
    ("summary", .str c.summary), ("justification", .str c.justification),
    ("operation_profile_id", .str (idText c.operationProfile)),
    ("operation_profile_key", operationProfileKey),
    ("operation_profile_snapshot", profileSnapshot profile),
    ("workflow_id", .str (idText c.workflow)),
    ("workflow_version", workflowVersion),
    ("workflow_snapshot", workflowSnapshot env workflow),
    ("requested_inputs_sha256", .str (sha256CanonicalJson env requestedInputs)),
    ("requested_input_keys", .ofStrings (Json.sortTexts requestedInputs.keys)),
    ("requested_inputs_representation", .str "sha256_and_keys_only"),
    ("scheduled_for", .ofOptStr (c.scheduledFor.map env.isoformat)),
    ("targets", .arr ((sortByPosition targets).map targetSnapshot)),
    ("submitted_at", .str (env.isoformat submittedAt))]

/-- `build_request_snapshot`. -/
def buildRequestSnapshot (env : Env) (change : Loaded ChangeRecord)
    (targets : List ChangeTarget) (submittedAt : Time)
    (profile : Option (Loaded OperationProfile)) (workflow : Option (Loaded Workflow)) : Json :=
  let key :=
    if change.row.operationProfileKeySnapshot ≠ "" then
      Json.str change.row.operationProfileKeySnapshot
    else .ofOptStr (profile.map (·.row.key))
  let version :=
    match change.row.workflowVersionSnapshot with
    | some (v + 1) => Json.int (v + 1)
    | _ => (workflow.map fun w => Json.int w.row.version).getD .null
  requestSnapshot env change targets submittedAt profile workflow key version

/-- The targets of a change, by position. -/
def targetsOf (change : ℕ) (s : Db) : List (Loaded ChangeTarget) :=
  rowsWhere s.changeTargets fun t => t.changeRecord = change

theorem mem_targetsOf {change : ℕ} {s : Db} {t : Loaded ChangeTarget} :
    t ∈ targetsOf change s ↔
      s.changeTargets.get? t.id = some t.row ∧ t.row.changeRecord = change := by
  exact mem_rowsWhere.trans (and_congr_right fun _ => decide_eq_true_iff)

/-- `build_live_submitted_request_snapshot`. -/
def buildLiveSubmittedRequestSnapshot (env : Env) (change : Loaded ChangeRecord) : Read Json := do
  match change.row.submittedAt with
  | none =>
    raise (.transition "change_request_integrity_missing"
      "Submitted change is missing submitted_at.")
  | some submittedAt =>
    let targets ← select (targetsOf change.id)
    let profile ← lookup (·.reference.profiles) "OperationProfile" change.row.operationProfile
    let workflow ← lookup (·.reference.workflows) "Workflow" change.row.workflow
    pure (requestSnapshot env change (targets.map (·.row)) submittedAt
      (some ⟨change.row.operationProfile, profile⟩) (some ⟨change.row.workflow, workflow⟩)
      (.str change.row.operationProfileKeySnapshot)
      ((change.row.workflowVersionSnapshot.map fun v => Json.int v).getD .null))

/-- `validate_request_integrity`: the change is read again, whatever the caller holds. -/
def validateRequestIntegrity (env : Env) (change : ℕ) : Read Unit := do
  let live ← lookup Db.changes "ChangeRecord" change
  if live.status = .draft then
    pure ()
  else
    ensure (live.submittedAt.isSome ∧ live.requestedInputsSha256 ≠ "" ∧
        live.requestSnapshotSha256 ≠ "") <|
      .transition "change_request_integrity_missing"
        "Submitted change is missing frozen request hashes."
    ensure (sha256CanonicalJson env (live.requestedInputs.orElse (.obj [])) =
        live.requestedInputsSha256) <|
      .transition "change_request_integrity_mismatch"
        "Requested inputs no longer match the submitted hash."
    ensure (sha256CanonicalJson env live.requestSnapshot = live.requestSnapshotSha256) <|
      .transition "change_request_integrity_mismatch"
        "Request snapshot no longer matches the submitted hash."
    let liveSnapshot ← buildLiveSubmittedRequestSnapshot env ⟨change, live⟩
    ensure (liveSnapshot.pyEq live.requestSnapshot ∧
        sha256CanonicalJson env liveSnapshot = live.requestSnapshotSha256) <|
      .transition "change_request_integrity_mismatch"
        "Submitted change dossier no longer matches the frozen request snapshot."

/-- The live snapshot reads the targets and what administrators edit. -/
theorem buildLiveSubmittedRequestSnapshot_congr (env : Env) (live : Loaded ChangeRecord) {s s' : Db}
    (h : SameOn [.changeTargets, .reference] s s') :
    buildLiveSubmittedRequestSnapshot env live s =
      buildLiveSubmittedRequestSnapshot env live s' := by
  have htargets : s.changeTargets = s'.changeTargets := h .changeTargets (by decide)
  have hreference : s.reference = s'.reference := h .reference (by decide)
  unfold buildLiveSubmittedRequestSnapshot
  cases live.row.submittedAt with
  | none => rfl
  | some submittedAt =>
    refine Query.bind_congr ?_ fun targets => Query.bind_congr ?_ fun profile =>
      Query.bind_congr ?_ fun _ => rfl
    · simp only [select, targetsOf, htargets]
    · simp only [lookup, hreference]
    · simp only [lookup, hreference]

/-- The request of a change is intact, or not, as far as the change, its targets and what
administrators edit go. -/
theorem validateRequestIntegrity_congr (env : Env) (change : ℕ) {s s' : Db}
    (h : SameOn [.changes, .changeTargets, .reference] s s') :
    validateRequestIntegrity env change s = validateRequestIntegrity env change s' := by
  have hchanges : s.changes = s'.changes := h .changes (by decide)
  refine Query.bind_congr (by simp only [lookup, hchanges]) fun live => ?_
  split
  · rfl
  · exact Query.bind_congr rfl fun _ => Query.bind_congr rfl fun _ => Query.bind_congr rfl fun _ =>
      Query.bind_congr (buildLiveSubmittedRequestSnapshot_congr env _ (h.mono (by decide)))
        fun _ => rfl

/-- The snapshot of a change is one of its dossier. -/
theorem requestSnapshot_of_dossier {env : Env} {c : ℕ} {row row' : ChangeRecord}
    (h : row.dossier = row'.dossier) (targets : List ChangeTarget) (submittedAt : Time)
    (profile : Option (Loaded OperationProfile)) (workflow : Option (Loaded Workflow))
    (operationProfileKey workflowVersion : Json) :
    requestSnapshot env ⟨c, row⟩ targets submittedAt profile workflow operationProfileKey
        workflowVersion =
      requestSnapshot env ⟨c, row'⟩ targets submittedAt profile workflow operationProfileKey
        workflowVersion := by
  simp only [ChangeRecord.dossier, Dossier.mk.injEq] at h
  simp only [requestSnapshot, h]

/-- The integrity check of a submitted change reads its dossier, its targets and what
administrators edit. -/
theorem validateRequestIntegrity_of_dossier {env : Env} {c : ℕ} {row row' : ChangeRecord} {s s' : Db}
    (hrow : s.changes.get? c = some row) (hrow' : s'.changes.get? c = some row')
    (hdossier : row.dossier = row'.dossier) (hstatus : row.status ≠ .draft)
    (hstatus' : row'.status ≠ .draft) (h : SameOn [.changeTargets, .reference] s s')
    (hintact : validateRequestIntegrity env c s = .ok ()) :
    validateRequestIntegrity env c s' = .ok () := by
  have hfields := hdossier
  simp only [ChangeRecord.dossier, Dossier.mk.injEq] at hfields
  have hlive : buildLiveSubmittedRequestSnapshot env ⟨c, row⟩ s =
      buildLiveSubmittedRequestSnapshot env ⟨c, row'⟩ s' := by
    rw [buildLiveSubmittedRequestSnapshot_congr env _ h]
    simp only [buildLiveSubmittedRequestSnapshot, hfields, requestSnapshot_of_dossier hdossier]
  simp only [validateRequestIntegrity, Query.bind_ok, lookup_ok] at hintact ⊢
  obtain ⟨live, hlooked, hintact⟩ := hintact
  rw [hrow, Option.some.injEq] at hlooked
  subst hlooked
  refine ⟨row', hrow', ?_⟩
  rw [if_neg hstatus] at hintact
  rw [if_neg hstatus']
  simp only [Query.bind_ok, ensure_ok, hfields, hlive] at hintact ⊢
  exact hintact

-- ════════════════════════════════════════════════════════════════════════
-- Dispatch tokens
-- ════════════════════════════════════════════════════════════════════════

/-- `hash_dispatch_token`. -/
def hashDispatchToken (env : Env) (token : String) : String := env.sha256 token

/-- `_INSECURE_SECRET_PLACEHOLDERS`. -/
def insecureSecretPlaceholders : List String :=
  ["change-dispatch-insecure-change-me", "insecure-change-me", "insecure", "changeme",
    "change-me"]

/-- The text a dispatch token signs. -/
def dispatchTokenMessage (binding : ChangeExecutionBinding) : String :=
  idText binding.changeRecord ++ ":" ++ idText binding.execution ++ ":" ++
    binding.dispatchTokenNonce ++ ":" ++ binding.requestedInputsSha256

/-- `generate_dispatch_token`. -/
def generateDispatchToken (env : Env) (binding : ChangeExecutionBinding) : Read String := do
  let secret := env.changeDispatchTokenSecret
  ensure (secret ≠ "" ∧ env.lower secret ∉ insecureSecretPlaceholders) <|
    .validation "dispatch_token_secret_missing" "CHANGE_DISPATCH_TOKEN_SECRET is not configured."
  pure (env.hmacSha256 secret (dispatchTokenMessage binding))

/-- `verify_dispatch_token`. -/
def verifyDispatchToken (env : Env) (binding : ChangeExecutionBinding) (token : String) :
    Read Bool := do
  if token = "" then
    pure false
  else
    let expectedToken ← generateDispatchToken env binding
    let expectedHash := hashDispatchToken env expectedToken
    let submittedHash := hashDispatchToken env token
    let storedHash := binding.dispatchTokenHash
    pure (storedHash == expectedHash && storedHash == submittedHash)

/-- `assert_change_request_mutable`. -/
def assertChangeRequestMutable (change : ChangeRecord) : Read Unit :=
  ensure (change.status = .draft) <| .transition "change_request_immutable"
    s!"Change request content is immutable after submit (current status: '{change.status.value}')."

end RunbookPlatform
