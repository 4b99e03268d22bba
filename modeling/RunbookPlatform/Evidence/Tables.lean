import RunbookPlatform.Core.Env

/-!
# Evidence tables

Bundles with their items, exports, legal holds and retention policies, and the hooks that every
save of a bundle goes through. A bundle that was sealed keeps its columns and its items, also
when it is invalidated later.

## Main definitions

- `EvidenceBundleItem`, `SealedColumns`, `EvidenceBundle` — bundles
- `EvidenceBundle.checkSave`, `checkConstraints` — the guards of `EvidenceBundle.save`
- `EvidenceExport`, `LegalHold`, `EvidenceRetentionPolicy`
- `StorageKey`, `EvidenceDb` — the stored files, and the tables
- `findActiveLegalHold`, `Target.covers` — `_find_active_legal_hold`
-/

namespace RunbookPlatform

open Transactional

/-- `text.encode("utf-8")`. -/
def utf8 (text : String) : Bytes := text.toUTF8.data.toList

/-- What the evidence services take from outside the repository. -/
structure EvidenceEnv where
  /-- `hashlib.sha256(payload).hexdigest()`. -/
  sha256 : Bytes → String
  /-- The archive that `zipfile` writes for files in their order. -/
  zip : List (String × Bytes) → Bytes
  /-- `_normalize` of a datetime. -/
  timestamp : Time → String
  /-- `str.isalnum()`. -/
  isAlnum : Char → Bool
  /-- `settings.EVIDENCE_EXPORT_RETENTION_DAYS`. -/
  evidenceExportRetentionDays : ℕ := 30

/-- `timedelta(days=n)`. -/
def days (n : ℕ) : Time := seconds (86400 * n)

/-- Django's own `ValidationError`. -/
def Err.django (code detail : String) : Err := { kind := .uncaught, code, detail }

-- ════════════════════════════════════════════════════════════════════════
-- Bundles
-- ════════════════════════════════════════════════════════════════════════

/-- The stored files: the package of a bundle, and the archive of an export. -/
inductive StorageKey where
  /-- `evidence/org/…/change/…/bundle/…/v…/sealed.zip`. -/
  | sealedBundle (organization change bundle version : ℕ)
  /-- `evidence/org/…/change/…/bundle/…/exports/…/export.zip`. -/
  | exportArchive (organization change bundle archive : ℕ)
  deriving DecidableEq

/-- `EvidenceBundleItem.ItemType`. -/
inductive ItemType where
  | changeSnapshot | approval | policyDecision | execution | auditEvent | artifact
  | verificationResult | closure | exception | externalReference | exportReceipt
  deriving DecidableEq

def ItemType.value : ItemType → String
  | changeSnapshot => "change_snapshot"
  | approval => "approval"
  | policyDecision => "policy_decision"
  | execution => "execution"
  | auditEvent => "audit_event"
  | artifact => "artifact"
  | verificationResult => "verification_result"
  | closure => "closure"
  | exception => "exception"
  | externalReference => "external_reference"
  | exportReceipt => "export_receipt"

/-- `EvidenceBundleItem`. -/
structure EvidenceBundleItem where
  itemType : ItemType
  itemKey : String
  canonicalPath : String
  jsonPointer : String := ""
  position : ℕ
  required : Bool := true
  present : Bool := true
  valid : Bool := true
  missingReason : String := ""
  validationErrors : List Json := []
  sourceType : String := ""
  sourceId : String := ""
  sourceUpdatedAt : Option Time := none
  sourceMetadata : Json := .obj []
  artifact : Option ℕ := none
  contentSha256 : String := ""
  contentSizeBytes : Option ℕ := none
  mimeType : String := ""

/-- `EvidenceBundle.Status`. -/
inductive BundleStatus where
  | compiling | sealed | invalidated
  deriving DecidableEq

/-- The moves of a bundle: from compiling to sealed or invalidated, and from sealed to
invalidated. -/
inductive BundleStatus.CanBecome : BundleStatus → BundleStatus → Prop
  | same (status : BundleStatus) : CanBecome status status
  | sealing : CanBecome compiling sealed
  | abandon : CanBecome compiling invalidated
  | invalidate : CanBecome sealed invalidated

theorem BundleStatus.CanBecome.trans {a b c : BundleStatus} (h1 : a.CanBecome b)
    (h2 : b.CanBecome c) : a.CanBecome c := by
  cases h1 with
  | same => exact h2
  | abandon | invalidate =>
    cases h2
    constructor
  | sealing =>
    cases h2 with
    | same => exact .sealing
    | invalidate => exact .abandon

/-- `EvidenceBundle.CompletenessStatus`. -/
inductive Completeness where
  | complete | incomplete | invalid
  deriving DecidableEq

def Completeness.value : Completeness → String
  | complete => "complete"
  | incomplete => "incomplete"
  | invalid => "invalid"

/-- The columns of `EvidenceBundle.IMMUTABLE_AFTER_SEAL`. -/
structure SealedColumns where
  organization : ℕ
  changeRecord : ℕ
  version : ℕ
  completenessStatus : Completeness := .incomplete
  completenessReport : Json := .obj []
  sourceSnapshotSha256 : String := ""
  sourceCutoffAt : Time
  sourceHighWatermark : Json := .obj []
  manifest : Json := .obj []
  manifestSha256 : String := ""
  payloadChecksumsSha256 : String := ""
  contentSha256 : String := ""
  contentSizeBytes : Option ℕ := none
  storageKey : Option StorageKey := none
  mimeType : String := "application/zip"
  compiledAt : Time
  sealedAt : Option Time := none
  previousBundle : Option ℕ := none
  createdBy : Option String := none
  sealedBy : Option String := none
  retentionPolicy : Option ℕ := none
  retentionExpiresAt : Option Time := none
  deriving DecidableEq

/-- `EvidenceBundle`, with its items in the order of their positions. An item is only reached
through its bundle, and saved by no service after that is sealed. -/
structure EvidenceBundle extends SealedColumns where
  status : BundleStatus := .compiling
  invalidatedAt : Option Time := none
  invalidationReason : String := ""
  invalidatedBy : Option String := none
  storageDeletedAt : Option Time := none
  storageDeleteReason : String := ""
  items : List EvidenceBundleItem := []

/-- `has_sealed_content`. -/
def EvidenceBundle.hasSealedContent (row : EvidenceBundle) : Bool :=
  row.status = .sealed || (row.status = .invalidated && row.manifestSha256 ≠ "")

/-- What `EvidenceBundle.save` compares with the stored row. -/
def EvidenceBundle.checkSave (previous row : EvidenceBundle) : Except Err Unit := do
  let immutable := Err.django "evidence_bundle_immutable" "Sealed evidence bundles are immutable."
  if previous.status = .invalidated then
    check (row.status = .invalidated) <|
      .django "evidence_bundle_terminal" "Invalidated evidence bundles are terminal."
    if previous.manifestSha256 ≠ "" then
      check (previous.toSealedColumns = row.toSealedColumns) immutable
  if previous.status = .sealed then
    check (previous.toSealedColumns = row.toSealedColumns) immutable
    check (row.status = .sealed ∨ row.status = .invalidated) <|
      .django "evidence_bundle_immutable" "Sealed evidence bundles can only be invalidated."

/-- The check constraints of the table on the fields of a sealed and of an invalidated row. -/
def EvidenceBundle.checkConstraints (row : EvidenceBundle) : Except Err Unit := do
  check (row.status = .sealed → row.sealedAt.isSome ∧ row.manifestSha256 ≠ "" ∧
    row.contentSha256 ≠ "" ∧ row.contentSizeBytes.isSome ∧ row.storageKey.isSome) .integrity
  check (row.status = .invalidated → row.invalidatedAt.isSome ∧ row.invalidationReason ≠ "")
    .integrity

-- ════════════════════════════════════════════════════════════════════════
-- Exports, holds and policies
-- ════════════════════════════════════════════════════════════════════════

/-- `EvidenceExport.Status`. -/
inductive ExportStatus where
  | creating | ready | failed | expired
  deriving DecidableEq

/-- The columns of `EvidenceExport.IMMUTABLE_AFTER_READY`. -/
structure ReadyColumns where
  organization : ℕ
  bundle : ℕ
  redactionPolicy : Option ℕ := none
  requestedBy : Option String := none
  requestedAt : Time
  readyAt : Option Time := none
  storageKey : Option StorageKey := none
  contentSha256 : String := ""
  contentSizeBytes : Option ℕ := none
  manifest : Json := .obj []
  manifestSha256 : String := ""
  sourceManifestSha256 : String
  sourceBundleContentSha256 : String
  redactionSummary : Json := .obj []
  receipt : Json := .obj []
  receiptSha256 : String := ""
  deriving DecidableEq

/-- `EvidenceExport`. -/
structure EvidenceExport extends ReadyColumns where
  status : ExportStatus := .creating
  expiresAt : Option Time := none
  failureCode : String := ""
  failureMessage : String := ""
  storageDeletedAt : Option Time := none

/-- What `EvidenceExport.save` compares with the stored row. -/
def EvidenceExport.checkSave (previous row : EvidenceExport) : Except Err Unit :=
  check (previous.status = .ready → previous.toReadyColumns = row.toReadyColumns) <|
    .django "evidence_export_immutable" "Ready evidence exports are immutable."

/-- The check constraint of the table on the fields of a ready row. -/
def EvidenceExport.checkConstraints (row : EvidenceExport) : Except Err Unit :=
  check (row.status = .ready → row.readyAt.isSome ∧ row.storageKey.isSome ∧
    row.contentSha256 ≠ "" ∧ row.contentSizeBytes.isSome ∧ row.manifestSha256 ≠ "" ∧
    row.receiptSha256 ≠ "") .integrity

/-- `LegalHold.Status`. -/
inductive HoldStatus where
  | active | released
  deriving DecidableEq

/-- `LegalHold`. -/
structure LegalHold where
  organization : ℕ
  changeRecord : ℕ
  evidenceBundle : Option ℕ := none
  evidenceExport : Option ℕ := none
  status : HoldStatus := .active
  reason : String
  externalReference : String := ""
  placedBy : Option String := none
  placedAt : Time
  releasedBy : Option String := none
  releasedAt : Option Time := none
  releaseReason : String := ""

/-- `EvidenceRetentionPolicy`. -/
structure EvidenceRetentionPolicy where
  organization : ℕ
  isActive : Bool := true
  isDefault : Bool := false
  sealedBundleRetentionDays : ℕ
  exportRetentionDays : ℕ

/-- The tables of the evidence services. -/
structure EvidenceDb where
  changes : Table ChangeRecord
  retentionPolicies : Table EvidenceRetentionPolicy := .empty
  bundles : Table EvidenceBundle := .empty
  exports : Table EvidenceExport := .empty
  holds : Table LegalHold := .empty
  /-- The audit events, by type and object. No service reads them. -/
  events : List (String × ℕ) := []

namespace EvidenceDb

/-- The bundles of a change, oldest first. -/
def bundlesOf (d : EvidenceDb) (change : ℕ) : List ℕ :=
  d.bundles.keys fun _ row => row.changeRecord = change

/-- The version of a bundle. -/
def versionOf (d : EvidenceDb) (i : ℕ) : ℕ := (d.bundles.get? i).elim 0 (·.version)

/-- `filter(change_record=...).aggregate(Max("version"))["max_version"] or 0`. -/
def latestVersion (d : EvidenceDb) (change : ℕ) : ℕ :=
  (d.bundlesOf change).foldl (fun latest i => max latest (d.versionOf i)) 0

/-- `filter(change_record=...).order_by("-version", "-created_at").first()`: of two bundles with
one version, the newer. -/
def latestBundle (d : EvidenceDb) (change : ℕ) : Option ℕ :=
  (d.bundlesOf change).foldl (fun best i =>
    if best.elim 0 d.versionOf ≤ d.versionOf i then some i else best) none

/-- `_resolve_default_retention_policy`. -/
def defaultRetentionPolicy (d : EvidenceDb) (organization : ℕ) :
    Option (ℕ × EvidenceRetentionPolicy) :=
  d.retentionPolicies.find? fun _ policy =>
    policy.organization = organization && policy.isDefault && policy.isActive

/-- `_export_retention_days`. -/
def exportRetentionDays (env : EvidenceEnv) (d : EvidenceDb) (bundle : EvidenceBundle) : ℕ :=
  match bundle.retentionPolicy.bind d.retentionPolicies.get? <|>
      (d.defaultRetentionPolicy bundle.organization).map (·.2) with
  | some policy => policy.exportRetentionDays
  | none => env.evidenceExportRetentionDays

/-- `EvidenceBundle.clean`. -/
def cleanBundle (d : EvidenceDb) (row : EvidenceBundle) : Except Err Unit := do
  check ((d.changes.get? row.changeRecord).all (·.organization = row.organization)) <|
    .django "" "Evidence bundle organization must match the change organization."
  check (row.previousBundle.all fun i =>
      (d.bundles.get? i).all (·.changeRecord = row.changeRecord)) <|
    .django "" "Previous evidence bundle must belong to the same change."
  check (row.retentionPolicy.all fun i =>
      (d.retentionPolicies.get? i).all (·.organization = row.organization)) <|
    .django "" "Evidence retention policy organization must match the bundle organization."

/-- `EvidenceExport.clean`; the redaction policy is checked when it is given. -/
def cleanExport (d : EvidenceDb) (row : EvidenceExport) : Except Err Unit :=
  check ((d.bundles.get? row.bundle).all (·.organization = row.organization)) <|
    .django "" "Evidence export organization must match the bundle organization."

/-- `LegalHold.clean`. -/
def cleanHold (d : EvidenceDb) (row : LegalHold) : Except Err Unit := do
  check ((d.changes.get? row.changeRecord).all (·.organization = row.organization)) <|
    .django "" "Legal hold organization must match the change organization."
  check (row.evidenceBundle.all fun i =>
      (d.bundles.get? i).all (·.organization = row.organization)) <|
    .django "" "Legal hold bundle organization must match the hold organization."
  check (row.evidenceBundle.all fun i =>
      (d.bundles.get? i).all (·.changeRecord = row.changeRecord)) <|
    .django "" "Legal hold bundle must belong to the held change."
  check (row.evidenceExport.all fun e =>
      (d.exports.get? e).all (·.organization = row.organization)) <|
    .django "" "Legal hold export organization must match the hold organization."
  check (row.evidenceExport.all fun e => (d.exports.get? e).all fun row' =>
      (d.bundles.get? row'.bundle).all (·.changeRecord = row.changeRecord)) <|
    .django "" "Legal hold export must belong to the held change."
  check (row.status = .released →
      row.releasedBy.isSome ∧ row.releasedAt.isSome ∧ strip row.releaseReason ≠ "") <|
    .django "legal_hold_release_fields_required" "Released legal holds require their fields."

/-- The active hold that `create_legal_hold` looks for. -/
def activeBundleHold (d : EvidenceDb) (change bundle : ℕ) : Option (ℕ × LegalHold) :=
  d.holds.find? fun _ hold =>
    hold.changeRecord = change && hold.evidenceBundle = some bundle && hold.status = .active

end EvidenceDb

/-- What a hold may cover: the bundle of a change, or an archive exported from it. -/
structure Target where
  change : ℕ
  bundle : ℕ
  archive : Option ℕ := none
  deriving DecidableEq

/-- A hold covers a target by its change, its bundle or its export. -/
def Target.covers (hold : LegalHold) (target : Target) : Bool :=
  hold.changeRecord = target.change || hold.evidenceBundle = some target.bundle ||
    (target.archive.isSome && hold.evidenceExport = target.archive)

/-- `_find_active_legal_hold`. -/
def findActiveLegalHold (d : EvidenceDb) (target : Target) : Option (ℕ × LegalHold) :=
  d.holds.find? fun _ hold => target.covers hold && hold.status = .active

-- ════════════════════════════════════════════════════════════════════════
-- The guard of a save
-- ════════════════════════════════════════════════════════════════════════

namespace EvidenceBundle

/-- A compiling row can be saved as anything. -/
theorem checkSave_compiling {previous row : EvidenceBundle} (h : previous.status = .compiling) :
    previous.checkSave row = .ok () := by
  rw [checkSave, h]
  rfl

/-- **What the guard lets through** of a row with sealed content keeps the sealed columns. -/
theorem checkSave_sealed {previous row : EvidenceBundle}
    (h : previous.checkSave row = .ok ()) (hsealed : previous.hasSealedContent = true) :
    row.toSealedColumns = previous.toSealedColumns := by
  simp only [hasSealedContent, Bool.or_eq_true, Bool.and_eq_true, decide_eq_true_eq] at hsealed
  rcases hsealed with hstatus | ⟨hstatus, hmanifest⟩
  · simp only [checkSave, hstatus, reduceCtorEq, if_false, if_true, except_bind_ok, check_ok] at h
    obtain ⟨-, hcolumns, -⟩ := h
    exact hcolumns.symm
  · simp only [checkSave, hstatus, hmanifest, reduceCtorEq, if_false, if_true, except_bind_ok,
      check_ok, ne_eq, not_false_eq_true] at h
    obtain ⟨-, -, -, hcolumns, -⟩ := h
    exact hcolumns.symm

end EvidenceBundle

end RunbookPlatform
