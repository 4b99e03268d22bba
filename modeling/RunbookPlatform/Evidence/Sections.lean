import RunbookPlatform.Evidence.Tables

/-!
# Sections and items

The sections of a bundle are built from the rows that the selectors return, once when the bundle
is materialized and again when it is sealed. At materialization each section, audit event and
artifact becomes an item, and the items decide whether the bundle is complete.

## Main definitions

- `SourceReads` — what the selectors return
- `EvidenceSection`, `sourceSections` — the sections
- `materializeItems`, `completenessFromItems` — the items, and the status they add up to
- `materializeBundle` — the row of a new bundle
-/

namespace RunbookPlatform

open Transactional

-- ════════════════════════════════════════════════════════════════════════
-- Source rows
-- ════════════════════════════════════════════════════════════════════════

/-- A source row with its serialized form. -/
structure SourceRow where
  id : ℕ
  updatedAt : Time
  body : Json

/-- `VerificationCheck`, as the evidence services read it. -/
structure CheckRow extends SourceRow where
  key : String
  checkType : String
  required : Bool
  /-- Empty when it is not configured. -/
  externalReferenceConfig : Json := .obj []

/-- `VerificationResult`, as the evidence services read it. -/
structure ResultRow extends SourceRow where
  verificationCheck : ℕ
  accepted : Bool
  externalReference : String := ""

/-- `RetroReview`, as the evidence services read it. -/
structure ReviewRow extends SourceRow where
  remediationReference : String := ""

/-- `Artifact`, with the organization of its execution. -/
structure EvidenceArtifact extends Artifact where
  id : ℕ
  executionOrganization : ℕ
  originalName : String := ""
  mimeType : String
  storageKey : String
  contentDisposition : String := "attachment"
  updatedAt : Time

/-- What the selectors of a bundle return. The queries are statements of their own, so nothing
relates their results. -/
structure SourceReads where
  organization : ℕ
  change : SourceRow
  /-- The hashes of the change that the manifest repeats. -/
  changeHashes : Json := .obj []
  targets : List SourceRow := []
  approvals : List SourceRow := []
  policyEvaluations : List SourceRow := []
  /-- The execution with its binding and steps, and the number of these. -/
  execution : Option (SourceRow × ℕ) := none
  auditEvents : List SourceRow := []
  artifacts : List EvidenceArtifact := []
  verificationPlan : Option SourceRow := none
  verificationChecks : List CheckRow := []
  verificationResults : List ResultRow := []
  closure : Option SourceRow := none
  /-- The emergency columns of the change. -/
  emergency : Json := .obj []
  exceptions : List SourceRow := []
  breakglassSessions : List SourceRow := []
  retroReviews : List ReviewRow := []

-- ════════════════════════════════════════════════════════════════════════
-- Sections
-- ════════════════════════════════════════════════════════════════════════

/-- `_Section`. -/
structure EvidenceSection where
  itemType : ItemType
  itemKey : String
  canonicalPath : String
  payload : Json
  required : Bool := true
  present : Bool := true
  valid : Bool := true
  missingReason : String := ""
  validationErrors : List Json := []
  sourceType : String := ""
  sourceId : String := ""
  sourceUpdatedAt : Option Time := none
  sourceMetadata : Json := .obj []

/-- `canonical_json_bytes`. -/
def canonicalJsonBytes (value : Json) : Bytes := utf8 value.dumps

/-- `canonical_ndjson_bytes`. -/
def canonicalNdjsonBytes (values : List Json) : Bytes :=
  values.flatMap fun value => canonicalJsonBytes value ++ utf8 "\n"

/-- `path.endswith(".ndjson")`. -/
def isNdjson (path : String) : Bool := ".ndjson".toList.isSuffixOf path.toList

/-- The bytes of a section in the package. -/
def EvidenceSection.content (section' : EvidenceSection) : Bytes :=
  if isNdjson section'.canonicalPath then
    canonicalNdjsonBytes ((section'.payload.items?).getD [])
  else canonicalJsonBytes section'.payload

/-- The media type of a section. -/
def mediaTypeOf (path : String) : String :=
  if isNdjson path then "application/x-ndjson" else "application/json"

/-- An identifier as a value. -/
def jsonId (i : ℕ) : Json := .str (idText i)

/-- `_checksum_is_valid`. -/
def checksumIsValid (text : String) : Bool :=
  text.toList.length = 64 &&
    text.toList.all fun c => ('0' ≤ c && c ≤ '9') || ('a' ≤ c && c ≤ 'f')

/-- `_artifact_validation_errors`. -/
def artifactValidationErrors (organization : ℕ) (artifact : EvidenceArtifact) : List Json :=
  let error (code : String) (details : List (String × Json)) : Json :=
    .obj (("code", .str code) :: ("artifact_id", jsonId artifact.id) :: details)
  (if artifact.organization ≠ organization then
    [error "cross_org_artifact_reference"
      [("artifact_organization_id", jsonId artifact.organization),
        ("expected_organization_id", jsonId organization)]]
  else []) ++
  (if artifact.executionOrganization ≠ organization then
    [error "cross_org_artifact_execution" [("execution_id", jsonId artifact.execution)]]
  else []) ++
  (if checksumIsValid artifact.checksumSha256 = false then
    [error "invalid_artifact_checksum" []]
  else []) ++
  if artifact.uploadStatus ≠ .available then
    [error "artifact_unavailable" [("upload_status", .str "failed")]]
  else []

section

variable (env : EvidenceEnv)

/-- An instant as a value. -/
def jsonTime (t : Time) : Json := .str (env.timestamp t)

/-- `_artifact_bundle_path`. -/
def artifactBundlePath (artifact : EvidenceArtifact) : String :=
  let safe := artifact.name.toList.map fun c =>
    if env.isAlnum c || c = '.' || c = '-' || c = '_' then c else '_'
  let edge (c : Char) : Bool := c = '.' || c = '_'
  let stripped := ((safe.dropWhile edge).reverse.dropWhile edge).reverse
  let name := if stripped = [] then "artifact" else String.ofList stripped
  s!"artifacts/files/{idText artifact.id}/{name}"

/-- `_section_payload`. -/
def sectionPayload (bundleId : ℕ) (bundle : EvidenceBundle) (organization : ℕ)
    (items : List Json) : Json :=
  .obj [("schema_version", .str "1"), ("organization_id", jsonId organization),
    ("change_record_id", jsonId bundle.changeRecord), ("bundle_id", jsonId bundleId),
    ("bundle_version", .int bundle.version), ("generated_at", jsonTime env bundle.compiledAt),
    ("items", .arr items)]

/-- An entry of `artifacts/index.json`. -/
def artifactIndexEntry (organization : ℕ) (artifact : EvidenceArtifact) : Json :=
  let errors := artifactValidationErrors organization artifact
  .obj [("id", jsonId artifact.id), ("execution_id", jsonId artifact.execution),
    ("step_id", artifact.step.elim .null jsonId), ("kind", .str artifact.kind.value),
    ("name", .str artifact.name), ("original_name", .str artifact.originalName),
    ("mime_type", .str artifact.mimeType), ("size_bytes", .int artifact.sizeBytes),
    ("checksum_sha256", .str artifact.checksumSha256), ("storage_key", .str artifact.storageKey),
    ("uploaded_by_runner_id", .str artifact.uploadedByRunnerId),
    ("upload_status", .str (if artifact.uploadStatus = .available then "available" else "failed")),
    ("uploaded_at", jsonTime env artifact.uploadedAt),
    ("content_disposition", .str artifact.contentDisposition),
    ("bundle_path", .str (artifactBundlePath env artifact)),
    ("valid", .bool errors.isEmpty), ("validation_errors", .arr errors)]

variable (bundleId : ℕ) (bundle : EvidenceBundle) (reads : SourceReads)

/-- A section that lists serialized rows. -/
def rowsSection (itemType : ItemType) (itemKey path countKey : String) (rows : List SourceRow) :
    EvidenceSection where
  itemType
  itemKey
  canonicalPath := path
  payload := sectionPayload env bundleId bundle reads.organization (rows.map (·.body))
  sourceMetadata := .obj [(countKey, .int rows.length)]

/-- A section about one row that may be missing. -/
def rowSection (itemType : ItemType) (itemKey path missingReason sourceType : String)
    (row : Option SourceRow) (items : List Json) (metadata : Json) : EvidenceSection where
  itemType
  itemKey
  canonicalPath := path
  payload := sectionPayload env bundleId bundle reads.organization items
  present := row.isSome
  missingReason := if row.isSome then "" else missingReason
  sourceType := if row.isSome then sourceType else ""
  sourceId := row.elim "" fun row => idText row.id
  sourceUpdatedAt := row.map (·.updatedAt)
  sourceMetadata := metadata

/-- `_change_snapshot_section`. -/
def changeSnapshotSection : EvidenceSection where
  itemType := .changeSnapshot
  itemKey := "change_snapshot"
  canonicalPath := "change/change_record.json"
  payload := sectionPayload env bundleId bundle reads.organization [reads.change.body]
  sourceType := "changes.ChangeRecord"
  sourceId := idText reads.change.id
  sourceUpdatedAt := some reads.change.updatedAt
  sourceMetadata := .obj [("status", reads.change.body.getD "status" .null),
    ("target_count", .int reads.targets.length)]

/-- `_targets_section`. -/
def targetsSection : EvidenceSection :=
  rowsSection env bundleId bundle reads .changeSnapshot "targets" "change/targets.json"
    "target_count" reads.targets

/-- `_approvals_section`. -/
def approvalsSection : EvidenceSection :=
  rowsSection env bundleId bundle reads .approval "approvals" "controls/approvals.json"
    "approval_count" reads.approvals

/-- `_policy_decisions_section`. -/
def policyDecisionsSection : EvidenceSection :=
  rowsSection env bundleId bundle reads .policyDecision "policy_decisions"
    "controls/policy_decisions.json" "policy_evaluation_count" reads.policyEvaluations

/-- `_execution_section`. -/
def executionSection : EvidenceSection :=
  let row := reads.execution.map (·.1)
  rowSection env bundleId bundle reads .execution "execution" "execution/execution.json"
    "missing_execution" "executions.Execution" row (row.toList.map (·.body))
    (.obj [("step_count", .int (reads.execution.elim 0 (·.2))),
      ("status", (row.map fun row => row.body.getD "status" .null).getD .null)])

/-- `_audit_section`. -/
def auditSection : EvidenceSection where
  itemType := .auditEvent
  itemKey := "audit_trail"
  canonicalPath := "audit/audit_trail.ndjson"
  payload := .arr (reads.auditEvents.map (·.body))
  sourceMetadata := .obj [("audit_event_count", .int reads.auditEvents.length)]

/-- `_artifacts_section`. -/
def artifactsSection : EvidenceSection :=
  let errors := reads.artifacts.flatMap (artifactValidationErrors reads.organization)
  { itemType := .artifact
    itemKey := "artifacts_index"
    canonicalPath := "artifacts/index.json"
    payload := sectionPayload env bundleId bundle reads.organization
      (reads.artifacts.map (artifactIndexEntry env reads.organization))
    valid := errors.isEmpty
    validationErrors := errors
    sourceMetadata := .obj [("artifact_count", .int reads.artifacts.length)] }

/-- The plan and its checks, as two sections show them. -/
def planItems (more : List (String × Json)) : List Json :=
  [.obj (("plan", (reads.verificationPlan.map (·.body)).getD .null) ::
    ("checks", .arr (reads.verificationChecks.map (·.body))) :: more)]

/-- `_verification_plan_section`. -/
def verificationPlanSection : EvidenceSection :=
  rowSection env bundleId bundle reads .verificationResult "verification_plan"
    "verification/plan.json" "missing_verification_plan" "changes.VerificationPlan"
    reads.verificationPlan (planItems reads [])
    (.obj [("required_check_count", .int (reads.verificationChecks.filter (·.required)).length),
      ("check_count", .int reads.verificationChecks.length)])

/-- `_verification_results_section`. -/
def verificationResultsSection : EvidenceSection :=
  rowSection env bundleId bundle reads .verificationResult "verification_results"
    "verification/results.json" "missing_verification_plan" "changes.VerificationPlan"
    reads.verificationPlan
    (planItems reads [("results", .arr (reads.verificationResults.map (·.body)))])
    (.obj [("required_check_count", .int (reads.verificationChecks.filter (·.required)).length),
      ("result_count", .int reads.verificationResults.length)])

/-- `_closure_section`. -/
def closureSection : EvidenceSection :=
  rowSection env bundleId bundle reads .closure "closure" "closure/closure.json" "missing_closure"
    "changes.ChangeClosure" reads.closure (reads.closure.toList.map (·.body))
    (.obj [("outcome", (reads.closure.map fun row => row.body.getD "outcome" .null).getD .null)])

/-- `_exceptions_section`, which is never left out. -/
def exceptionsSection : EvidenceSection where
  itemType := .exception
  itemKey := "exceptions"
  canonicalPath := "exceptions/exceptions.json"
  payload := sectionPayload env bundleId bundle reads.organization
    [.obj [("change_emergency", reads.emergency),
      ("exceptions", .arr (reads.exceptions.map (·.body))),
      ("breakglass_sessions", .arr (reads.breakglassSessions.map (·.body))),
      ("retro_reviews", .arr (reads.retroReviews.map (·.body)))]]
  required := false
  sourceMetadata := .obj [("exception_count", .int reads.exceptions.length),
    ("breakglass_count", .int reads.breakglassSessions.length),
    ("retro_review_count", .int reads.retroReviews.length)]

/-- `_export_receipt_section`. -/
def exportReceiptSection : EvidenceSection where
  itemType := .exportReceipt
  itemKey := "sealed_bundle_receipt"
  canonicalPath := "exports/export_receipt.json"
  payload := sectionPayload env bundleId bundle reads.organization
    [.obj [("receipt_type", .str "sealed_bundle"), ("export_id", .null),
      ("organization_id", jsonId reads.organization),
      ("change_record_id", jsonId bundle.changeRecord), ("bundle_id", jsonId bundleId),
      ("bundle_version", .int bundle.version), ("compiled_at", jsonTime env bundle.compiledAt),
      ("sealed_at", bundle.sealedAt.elim .null (jsonTime env))]]
  sourceMetadata := .obj [("receipt_type", .str "sealed_bundle")]

/-- The references of `_external_references_section`, before they are sorted. -/
def externalReferences : List Json :=
  let reference (sourceType : String) (i : ℕ) (value : Json) : Json :=
    .obj [("source_type", .str sourceType), ("source_id", jsonId i), ("reference", value)]
  ((reads.verificationResults.filter (·.externalReference ≠ "")).map fun row =>
    reference "changes.VerificationResult" row.id (.str row.externalReference)) ++
  ((reads.verificationChecks.filter (·.externalReferenceConfig.truthy)).map fun row =>
    reference "changes.VerificationCheck" row.id row.externalReferenceConfig) ++
  (reads.retroReviews.filter (·.remediationReference ≠ "")).map fun row =>
    reference "changes.RetroReview" row.id (.str row.remediationReference)

/-- The references by type and identifier. -/
def sortReferences (references : List Json) : List Json :=
  let text (reference : Json) (key : String) : String :=
    ((reference.getD key .null).str?).getD ""
  let before (a b : Json) : Bool :=
    text a "source_type" < text b "source_type" ||
      (text a "source_type" = text b "source_type" && text a "source_id" < text b "source_id")
  references.foldr (fun a sorted =>
    sorted.takeWhile (fun b => before b a) ++ a :: sorted.dropWhile fun b => before b a) []

/-- `_external_references_section`. -/
def externalReferencesSection : Option EvidenceSection :=
  let references := externalReferences reads
  if references.isEmpty then none
  else some
    { itemType := .externalReference
      itemKey := "external_references"
      canonicalPath := "references/external_references.json"
      payload := sectionPayload env bundleId bundle reads.organization (sortReferences references)
      required := false
      sourceMetadata := .obj [("external_reference_count", .int references.length)] }

/-- `_source_sections_for_bundle`. -/
def sourceSections : List EvidenceSection :=
  [changeSnapshotSection env bundleId bundle reads, targetsSection env bundleId bundle reads,
    approvalsSection env bundleId bundle reads, policyDecisionsSection env bundleId bundle reads,
    executionSection env bundleId bundle reads, auditSection reads,
    artifactsSection env bundleId bundle reads, verificationPlanSection env bundleId bundle reads,
    verificationResultsSection env bundleId bundle reads, closureSection env bundleId bundle reads,
    exceptionsSection env bundleId bundle reads, exportReceiptSection env bundleId bundle reads] ++
  (externalReferencesSection env bundleId bundle reads).toList

/-- The sections of `_materialize_items`, in its order. -/
def materializedSections : List EvidenceSection :=
  [changeSnapshotSection env bundleId bundle reads, targetsSection env bundleId bundle reads,
    approvalsSection env bundleId bundle reads, policyDecisionsSection env bundleId bundle reads,
    executionSection env bundleId bundle reads, auditSection reads,
    artifactsSection env bundleId bundle reads, verificationPlanSection env bundleId bundle reads,
    verificationResultsSection env bundleId bundle reads, closureSection env bundleId bundle reads,
    exportReceiptSection env bundleId bundle reads, exceptionsSection env bundleId bundle reads] ++
  (externalReferencesSection env bundleId bundle reads).toList

-- ════════════════════════════════════════════════════════════════════════
-- Items
-- ════════════════════════════════════════════════════════════════════════

/-- `_create_section_item`. -/
def createSectionItem (section' : EvidenceSection) (position : ℕ) : EvidenceBundleItem where
  itemType := section'.itemType
  itemKey := section'.itemKey
  canonicalPath := section'.canonicalPath
  position
  required := section'.required
  present := section'.present
  valid := section'.valid
  missingReason := section'.missingReason
  validationErrors := section'.validationErrors
  sourceType := section'.sourceType
  sourceId := section'.sourceId
  sourceUpdatedAt := section'.sourceUpdatedAt
  sourceMetadata := section'.sourceMetadata
  contentSha256 := env.sha256 section'.content
  contentSizeBytes := some section'.content.length
  mimeType := mediaTypeOf section'.canonicalPath

/-- `_create_audit_event_item`; the first event has the index zero. -/
def createAuditEventItem (event : SourceRow) (position index : ℕ) : EvidenceBundleItem where
  itemType := .auditEvent
  itemKey := s!"audit_event:{idText event.id}"
  canonicalPath := "audit/audit_trail.ndjson"
  jsonPointer := s!"/events/{index}"
  position
  sourceType := "audit.AuditEvent"
  sourceId := idText event.id
  sourceUpdatedAt := some event.updatedAt
  sourceMetadata := .obj [("event_type", event.body.getD "event_type" .null),
    ("object_type", event.body.getD "object_type" .null),
    ("object_id", event.body.getD "object_id" .null),
    ("occurred_at", event.body.getD "occurred_at" .null), ("event_position", .int (index + 1))]
  contentSha256 := env.sha256 (canonicalJsonBytes event.body)
  contentSizeBytes := some (canonicalJsonBytes event.body).length
  mimeType := "application/json"

/-- `_create_artifact_item`, in a bundle of an organization, for a change of another one. -/
def createArtifactItem (bundleOrganization organization : ℕ) (artifact : EvidenceArtifact)
    (position : ℕ) : EvidenceBundleItem where
  itemType := .artifact
  itemKey := s!"artifact:{idText artifact.id}"
  canonicalPath := artifactBundlePath env artifact
  position
  valid := (artifactValidationErrors organization artifact).isEmpty
  validationErrors := artifactValidationErrors organization artifact
  sourceType := "artifacts.Artifact"
  sourceId := idText artifact.id
  sourceUpdatedAt := some artifact.updatedAt
  sourceMetadata := .obj [("name", .str artifact.name), ("kind", .str artifact.kind.value),
    ("checksum_sha256", .str artifact.checksumSha256),
    ("upload_status", .str (if artifact.uploadStatus = .available then "available" else "failed"))]
  artifact := if artifact.organization = bundleOrganization then some artifact.id else none
  contentSha256 := if checksumIsValid artifact.checksumSha256 then artifact.checksumSha256 else ""
  contentSizeBytes := some artifact.sizeBytes
  mimeType := artifact.mimeType

/-- The item of `_create_missing_verification_items` for a check. -/
def missingVerificationItem (row : CheckRow) (position : ℕ) : EvidenceBundleItem where
  itemType := .verificationResult
  itemKey := s!"missing_verification_result:{idText row.id}"
  canonicalPath := "verification/results.json"
  jsonPointer := s!"/missing_required/{row.key}"
  position
  present := false
  missingReason := "missing_required_verification_result"
  sourceType := "changes.VerificationCheck"
  sourceId := idText row.id
  sourceUpdatedAt := some row.updatedAt
  sourceMetadata := .obj [("check_key", .str row.key), ("check_type", .str row.checkType)]
  contentSha256 := env.sha256 (canonicalJsonBytes (.obj [("missing", jsonId row.id)]))
  contentSizeBytes := some (canonicalJsonBytes (.obj [("missing", jsonId row.id)])).length
  mimeType := "application/json"

/-- The required checks without an accepted result. -/
def missingChecks : List CheckRow :=
  reads.verificationChecks.filter fun row =>
    row.required && !(reads.verificationResults.any fun result =>
      result.accepted && result.verificationCheck = row.id)

/-- `_materialize_items`. -/
def materializeItems : List EvidenceBundleItem :=
  let sections := materializedSections env bundleId bundle reads
  let events := sections.length
  let artifacts := events + reads.auditEvents.length
  let missing := artifacts + reads.artifacts.length
  (sections.mapIdx fun i section' => createSectionItem env section' (i + 1)) ++
  (reads.auditEvents.mapIdx fun i event => createAuditEventItem env event (events + i + 1) i) ++
  (reads.artifacts.mapIdx fun i artifact =>
    createArtifactItem env bundle.organization reads.organization artifact (artifacts + i + 1)) ++
  (missingChecks reads).mapIdx fun i row => missingVerificationItem env row (missing + i + 1)

end

-- ════════════════════════════════════════════════════════════════════════
-- Completeness
-- ════════════════════════════════════════════════════════════════════════

/-- The entry of an item in the completeness report. -/
def reportItem (item : EvidenceBundleItem) : Json :=
  .obj [("item_type", .str item.itemType.value), ("item_key", .str item.itemKey),
    ("canonical_path", .str item.canonicalPath), ("json_pointer", .str item.jsonPointer),
    ("position", .int item.position), ("required", .bool item.required),
    ("present", .bool item.present), ("valid", .bool item.valid),
    ("missing_reason", .str item.missingReason),
    ("validation_errors", .arr item.validationErrors), ("source_type", .str item.sourceType),
    ("source_id", .str item.sourceId), ("content_sha256", .str item.contentSha256)]

/-- The required items that are missing. -/
def missingRequired (items : List EvidenceBundleItem) : List EvidenceBundleItem :=
  items.filter fun item => item.required && !item.present

/-- The items that are not valid. -/
def invalidItems (items : List EvidenceBundleItem) : List EvidenceBundleItem :=
  items.filter fun item => !item.valid

/-- The status of `_completeness_from_items`. -/
def completenessStatus (items : List EvidenceBundleItem) : Completeness :=
  if invalidItems items ≠ [] then .invalid
  else if missingRequired items ≠ [] then .incomplete
  else .complete

/-- The report of `_completeness_from_items`. -/
def completenessReport (items : List EvidenceBundleItem) : Json :=
  .obj [("schema_version", .str "1"), ("status", .str (completenessStatus items).value),
    ("summary", .obj [("total_items", .int items.length),
      ("missing_required_count", .int (missingRequired items).length),
      ("invalid_count", .int (invalidItems items).length)]),
    ("missing_required", .arr ((missingRequired items).map reportItem)),
    ("invalid", .arr ((invalidItems items).map reportItem)),
    ("sections", .arr (items.map reportItem))]

section

variable (env : EvidenceEnv)

/-- `_snapshot_item_payload`. -/
def snapshotItemPayload (item : EvidenceBundleItem) : Json :=
  .obj [("item_type", .str item.itemType.value), ("item_key", .str item.itemKey),
    ("canonical_path", .str item.canonicalPath), ("json_pointer", .str item.jsonPointer),
    ("position", .int item.position), ("required", .bool item.required),
    ("present", .bool item.present), ("valid", .bool item.valid),
    ("missing_reason", .str item.missingReason),
    ("validation_errors", .arr item.validationErrors), ("source_type", .str item.sourceType),
    ("source_id", .str item.sourceId),
    ("source_updated_at", item.sourceUpdatedAt.elim .null (jsonTime env)),
    ("content_sha256", .str item.contentSha256),
    ("content_size_bytes", item.contentSizeBytes.elim .null fun n => .int n)]

/-- The hash of the items. -/
def sourceSnapshotSha256 (items : List EvidenceBundleItem) : String :=
  env.sha256 (canonicalJsonBytes (.arr (items.map (snapshotItemPayload env))))

/-- What the materialization and the sealing both save of the items: the report, the status and
the snapshot hash. -/
def EvidenceBundle.refresh (bundle : EvidenceBundle) (items : List EvidenceBundleItem) :
    EvidenceBundle :=
  { bundle with
    items
    completenessReport := completenessReport items
    completenessStatus := completenessStatus items
    sourceSnapshotSha256 := sourceSnapshotSha256 env items }

/-- The high watermark of `_finalize_bundle_materialization`. -/
def auditHighWatermark (auditEvents : List SourceRow) : Json :=
  match auditEvents.getLast? with
  | none => .obj []
  | some event =>
    .obj [("occurred_at", event.body.getD "occurred_at" .null),
      ("created_at", event.body.getD "created_at" .null), ("id", jsonId event.id)]

/-- The row of `create_evidence_bundle_for_change` after its materialization. -/
def materializeBundle (bundleId organization change version : ℕ) (previous : Option ℕ)
    (createdBy : Option String) (now : Time) (reads : SourceReads) : EvidenceBundle :=
  let bundle : EvidenceBundle :=
    { organization
      changeRecord := change
      version
      sourceCutoffAt := now
      compiledAt := now
      previousBundle := previous
      createdBy }
  let row := bundle.refresh env (materializeItems env bundleId bundle reads)
  { row with sourceHighWatermark := .obj [("audit", auditHighWatermark reads.auditEvents)] }

end

end RunbookPlatform
