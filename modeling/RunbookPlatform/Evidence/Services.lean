import RunbookPlatform.Evidence.Package
import RunbookPlatform.Sessions.Machine

/-!
# Evidence services

Bundles are created, sealed and invalidated, exports are made of them, legal holds are placed and
released, and expired files are deleted. Each service is a program of statements over the tables
and the stored files, with the handlers that run when it fails.

## Main definitions

- `EvidenceWrite`, `EvidenceOp`, `EvidencePos` — saves, calls and positions
- `sealDraft`, `EvidenceBundle.withRetention` — the row that sealing saves
- `CleanupRow` — what the two cleanups share
- `evidenceMachine` — the services as programs

## Design notes

`select_for_update` after `select_related` locks the related rows too. Sealing locks the items of
its bundle after the bundle. Nothing else locks them, so the lock of the bundle stands for both.
What an export makes of the entries of the package is a parameter of the call.
-/

namespace RunbookPlatform

open Transactional Sessions

/-- The stored files. -/
abbrev EvidenceFiles := StorageKey → Option Bytes

/-- `storage.save_bytes`. -/
def EvidenceFiles.save (key : StorageKey) (content : Bytes) (files : EvidenceFiles) :
    EvidenceFiles :=
  fun k => if k = key then some content else files k

/-- `storage.delete`, which ignores files that are not there. -/
def EvidenceFiles.delete (key : StorageKey) (files : EvidenceFiles) : EvidenceFiles :=
  fun k => if k = key then none else files k

-- ════════════════════════════════════════════════════════════════════════
-- Saves
-- ════════════════════════════════════════════════════════════════════════

/-- What the services lock. -/
inductive EvidenceLock where
  | organization (i : ℕ)
  | operationProfile (i : ℕ)
  | workflow (i : ℕ)
  | change (i : ℕ)
  | bundle (i : ℕ)
  | archive (i : ℕ)
  | hold (i : ℕ)
  deriving DecidableEq

/-- What `select_related("change_record", "organization")` locks with a bundle. -/
def EvidenceBundle.locks (bundleId : ℕ) (row : EvidenceBundle) : List EvidenceLock :=
  [.bundle bundleId, .change row.changeRecord, .organization row.organization]

/-- The saves of the services. -/
inductive EvidenceWrite where
  | createBundle (organization change version : ℕ) (previous : Option ℕ)
      (createdBy : Option String) (now : Time) (reads : SourceReads)
  | sealBundle (bundle : ℕ) (row : EvidenceBundle)
  | invalidateBundle (bundle : ℕ) (reason : String) (invalidatedBy : Option String) (now : Time)
  | markInvalid (bundle : ℕ)
  | deleteBundleStorage (bundle : ℕ) (now : Time)
  | createExport (row : EvidenceExport)
  | readyExport (archive : ℕ) (row : EvidenceExport)
  | failExport (archive : ℕ) (error : Err)
  | deleteExportStorage (archive : ℕ) (now : Time)
  | createHold (row : LegalHold)
  | releaseHold (hold : ℕ) (row : LegalHold)
  | emit (eventType : String) (object : ℕ)

/-- The columns that sealing saves of a row. -/
def EvidenceBundle.saveSealing (row old : EvidenceBundle) : EvidenceBundle :=
  { old with
    sealedAt := row.sealedAt
    sealedBy := row.sealedBy
    items := row.items
    completenessReport := row.completenessReport
    completenessStatus := row.completenessStatus
    sourceSnapshotSha256 := row.sourceSnapshotSha256
    manifest := row.manifest
    manifestSha256 := row.manifestSha256
    payloadChecksumsSha256 := row.payloadChecksumsSha256
    contentSha256 := row.contentSha256
    contentSizeBytes := row.contentSizeBytes
    storageKey := row.storageKey
    mimeType := row.mimeType
    status := row.status
    retentionPolicy := row.retentionPolicy
    retentionExpiresAt := row.retentionExpiresAt }

/-- The columns that `invalidate_bundle` saves. -/
def EvidenceBundle.invalidate (reason : String) (invalidatedBy : Option String) (now : Time)
    (row : EvidenceBundle) : EvidenceBundle :=
  { row with
    status := .invalidated
    invalidatedAt := some now
    invalidationReason := String.ofList (reason.toList.take 128)
    invalidatedBy }

/-- What a save does. -/
def EvidenceWrite.apply (env : EvidenceEnv) : EvidenceWrite → EvidenceDb → EvidenceDb
  | createBundle organization change version previous createdBy now reads, d =>
    { d with
      bundles := d.bundles.insert
        (materializeBundle env d.bundles.next organization change version previous createdBy now
          reads)
      events := ("evidence_bundle.materialized", d.bundles.next) :: d.events }
  | sealBundle b row, d => { d with bundles := d.bundles.modify b row.saveSealing }
  | invalidateBundle b reason invalidatedBy now, d =>
    { d with bundles := d.bundles.modify b (EvidenceBundle.invalidate reason invalidatedBy now) }
  | markInvalid b, d =>
    { d with bundles := d.bundles.modify b fun row => { row with completenessStatus := .invalid } }
  | deleteBundleStorage b now, d =>
    { d with
      bundles := d.bundles.modify b fun row =>
        { row with storageDeletedAt := some now, storageDeleteReason := "retention_expired" } }
  | createExport row, d => { d with exports := d.exports.insert row }
  | readyExport e row, d => { d with exports := d.exports.modify e fun _ => row }
  | failExport e error, d =>
    { d with
      exports := d.exports.modify e fun row =>
        { row with
          status := .failed
          failureCode := String.ofList (error.code.toList.take 128)
          failureMessage := String.ofList (error.detail.toList.take 500) } }
  | deleteExportStorage e now, d =>
    { d with exports := d.exports.modify e fun row => { row with storageDeletedAt := some now } }
  | createHold row, d => { d with holds := d.holds.insert row }
  | releaseHold h row, d => { d with holds := d.holds.modify h fun _ => row }
  | emit eventType object, d => { d with events := (eventType, object) :: d.events }

-- ════════════════════════════════════════════════════════════════════════
-- Sealing
-- ════════════════════════════════════════════════════════════════════════

/-- `_sealed_bundle_storage_key`. -/
def sealedBundleStorageKey (bundleId : ℕ) (row : EvidenceBundle) : StorageKey :=
  .sealedBundle row.organization row.changeRecord bundleId row.version

/-- `_assert_no_missing_or_invalid_items`. -/
def assertNoMissingOrInvalidItems (items : List EvidenceBundleItem) : Except Err Unit := do
  check (missingRequired items = []) <| .validation "evidence_bundle_missing_required_items"
    "Evidence bundle has missing required items."
  check (invalidItems items = []) <| .validation "evidence_bundle_invalid_items"
    "Evidence bundle has invalid items."

/-- The guards of `seal_bundle`. -/
def checkSeal (row : EvidenceBundle) : Except Err Unit := do
  check (row.status = .compiling) <| .validation "evidence_bundle_not_compiling"
    "Only compiling evidence bundles can be sealed."
  check (row.completenessStatus = .complete) <| .validation "evidence_bundle_not_complete"
    "Only complete evidence bundles can be sealed."
  assertNoMissingOrInvalidItems row.items

/-- The comparison with the stored row, if there is one. -/
def EvidenceDb.checkStoredBundle (d : EvidenceDb) (i : ℕ) (row : EvidenceBundle) :
    Except Err Unit :=
  match d.bundles.get? i with
  | none => .ok ()
  | some previous => previous.checkSave row

/-- The save of a bundle passes its guards. -/
def checkBundleSave (d : EvidenceDb) (i : ℕ) (row : EvidenceBundle) : Except Err Unit := do
  d.checkStoredBundle i row
  d.cleanBundle row
  row.checkConstraints

/-- `seal_bundle` up to the write of the file: the row it will save, and the archive. The row is
saved with `sealed_at` before the package is built, and with its refreshed items after that. -/
def sealDraft (env : EvidenceEnv) (d : EvidenceDb) (bundleId : ℕ) (row : EvidenceBundle)
    (sealedBy : Option String) (now : Time) (reads : SealReads) :
    Except Err (EvidenceBundle × Bytes) := do
  checkSeal row
  checkBundleSave d bundleId { row with sealedAt := some now, sealedBy }
  let package ← buildSealedBundlePackage env bundleId
    { row with sealedAt := some now, sealedBy } reads
  checkBundleSave d bundleId package.bundle
  pure ({ package.bundle with
    manifest := package.manifest
    manifestSha256 := package.manifestSha256
    payloadChecksumsSha256 := package.payloadChecksumsSha256
    contentSha256 := env.sha256 package.zipBytes
    contentSizeBytes := some package.zipBytes.length
    storageKey := some (sealedBundleStorageKey bundleId row)
    mimeType := "application/zip"
    status := .sealed }, package.zipBytes)

/-- The retention that sealing gives a row. -/
def EvidenceBundle.withRetention (d : EvidenceDb) (now : Time) (row : EvidenceBundle) :
    EvidenceBundle :=
  match d.defaultRetentionPolicy row.organization with
  | none => row
  | some (i, policy) =>
    { row with
      retentionPolicy := some i
      retentionExpiresAt := some (now + days policy.sealedBundleRetentionDays) }

/-- The codes for which a failed seal invalidates the bundle. -/
def isArtifactDefect (e : Err) : Bool :=
  e.kind = .validation && (e.code = "artifact_storage_missing" || e.code = "artifact_checksum_mismatch")

-- ════════════════════════════════════════════════════════════════════════
-- Exports
-- ════════════════════════════════════════════════════════════════════════

/-- `EvidenceRedactionPolicy`, as `create_export` reads it. -/
structure EvidenceRedactionPolicy where
  id : ℕ
  organization : ℕ
  isActive : Bool := true

/-- What `create_export` makes of the entries of the package. -/
structure ExportContents where
  zipBytes : Bytes
  manifest : Json
  manifestSha256 : String
  redactionSummary : Json
  receipt : Json
  receiptSha256 : String

/-- The arguments of `create_export`, its clock, and how it transforms the package. -/
structure ExportRequest where
  bundle : ℕ
  redactionPolicy : Option EvidenceRedactionPolicy := none
  requestedBy : Option String := none
  requestedAt : Time
  readyAt : Time
  /-- From the identifier of the export and the bytes of the package. -/
  transform : ℕ → Bytes → Except Err ExportContents

/-- The guards of `create_export` on the row of the bundle; returns the key of its file. -/
def checkExport (row : EvidenceBundle) : Except Err StorageKey := do
  check (row.status = .sealed) <| .validation "bundle_not_sealed"
    "Only sealed evidence bundles can be exported."
  let missing := Err.validation "bundle_storage_missing" "Sealed bundle storage is not available."
  check (row.storageDeletedAt = none) missing
  match row.storageKey with
  | some key => .ok key
  | none => .error missing

/-- The guards of `create_export` on the file and the policy; returns the bytes. -/
def checkExportFile (env : EvidenceEnv) (row : EvidenceBundle)
    (policy : Option EvidenceRedactionPolicy) (file : Option Bytes) : Except Err Bytes :=
  match file with
  | none =>
    .error <| .validation "bundle_storage_missing" "Sealed bundle storage is not available."
  | some content => do
    check (env.sha256 content = row.contentSha256) <| .validation "bundle_checksum_mismatch"
      "Sealed bundle checksum does not match stored bytes."
    check (policy.all (·.isActive)) <| .validation "redaction_policy_inactive"
      "Redaction policy is not active."
    check (policy.all (·.organization = row.organization)) <| .validation
      "redaction_policy_invalid" "Redaction policy does not belong to this organization."
    pure content

/-- The row that `create_export` inserts. -/
def exportRow (request : ExportRequest) (row : EvidenceBundle) : EvidenceExport where
  organization := row.organization
  bundle := request.bundle
  redactionPolicy := request.redactionPolicy.map (·.id)
  requestedBy := request.requestedBy
  requestedAt := request.requestedAt
  sourceManifestSha256 := row.manifestSha256
  sourceBundleContentSha256 := row.contentSha256

/-- `_export_storage_key`. -/
def exportStorageKey (e : ℕ) (bundleId : ℕ) (row : EvidenceBundle) : StorageKey :=
  .exportArchive row.organization row.changeRecord bundleId e

/-- The row that `create_export` saves when the file is stored. -/
def readyRow (env : EvidenceEnv) (d : EvidenceDb) (request : ExportRequest) (row : EvidenceBundle)
    (key : StorageKey) (contents : ExportContents) : EvidenceExport :=
  { exportRow request row with
    status := .ready
    readyAt := some request.readyAt
    expiresAt := some (request.readyAt + days (d.exportRetentionDays env row))
    storageKey := some key
    contentSha256 := env.sha256 contents.zipBytes
    contentSizeBytes := some contents.zipBytes.length
    manifest := contents.manifest
    manifestSha256 := contents.manifestSha256
    redactionSummary := contents.redactionSummary
    receipt := contents.receipt
    receiptSha256 := contents.receiptSha256 }

/-- The comparison with the stored row, if there is one. -/
def EvidenceDb.checkStoredExport (d : EvidenceDb) (e : ℕ) (row : EvidenceExport) :
    Except Err Unit :=
  match d.exports.get? e with
  | none => .ok ()
  | some previous => previous.checkSave row

/-- The save of an export passes its guards. -/
def checkExportSave (d : EvidenceDb) (e : ℕ) (row : EvidenceExport) : Except Err Unit := do
  d.checkStoredExport e row
  d.cleanExport row
  row.checkConstraints

-- ════════════════════════════════════════════════════════════════════════
-- Cleanups
-- ════════════════════════════════════════════════════════════════════════

/-- The row that a cleanup has locked. -/
inductive CleanupRow where
  | bundle (i : ℕ) (row : EvidenceBundle)
  /-- An export, with the change of its bundle. -/
  | archive (e : ℕ) (row : EvidenceExport) (change : ℕ)

namespace CleanupRow

/-- What holds are looked for. -/
def target : CleanupRow → Target
  | bundle i row => { change := row.changeRecord, bundle := i }
  | archive e row change => { change, bundle := row.bundle, archive := some e }

/-- What is locked with the row. -/
def locks : CleanupRow → List EvidenceLock
  | bundle i row => row.locks i
  | archive e row change =>
    [.archive e, .bundle row.bundle, .change change, .organization row.organization]

def storageKey : CleanupRow → Option StorageKey
  | bundle _ row => row.storageKey
  | archive _ row _ => row.storageKey

def storageDeletedAt : CleanupRow → Option Time
  | bundle _ row => row.storageDeletedAt
  | archive _ row _ => row.storageDeletedAt

/-- When the retention ends. -/
def expiry : CleanupRow → Option Time
  | bundle _ row => row.retentionExpiresAt
  | archive _ row _ => row.expiresAt

/-- The guard of the save, which changes only the columns about the storage. -/
def checkSave (d : EvidenceDb) : CleanupRow → Except Err Unit
  | bundle i row => checkBundleSave d i row
  | archive e row _ => checkExportSave d e row

/-- The save. -/
def write (now : Time) : CleanupRow → EvidenceWrite
  | bundle i _ => .deleteBundleStorage i now
  | archive e _ _ => .deleteExportStorage e now

/-- The event after the save. -/
def deletedEvent : CleanupRow → String × ℕ
  | bundle i _ => ("evidence_bundle.retention_deleted", i)
  | archive e _ _ => ("evidence_export.retention_deleted", e)

/-- What the cleanup of an expired row checks first. -/
def checkExpired (now : Time) (locked : CleanupRow) : Except Err Unit :=
  check (∃ expiry ∈ locked.expiry, expiry ≤ now) <| .validation "retention_not_expired"
    (match locked with
      | bundle _ _ => "Bundle retention period has not expired."
      | archive _ _ _ => "Export retention period has not expired.")

end CleanupRow

/-- The row that a bundle cleanup locks. -/
def EvidenceDb.bundleToClean (d : EvidenceDb) (i : ℕ) : Option CleanupRow :=
  (d.bundles.get? i).map (.bundle i)

/-- The row that an export cleanup locks, with the change of its bundle. -/
def EvidenceDb.exportToClean (d : EvidenceDb) (e : ℕ) : Option CleanupRow := do
  let row ← d.exports.get? e
  let bundle ← d.bundles.get? row.bundle
  pure (.archive e row bundle.changeRecord)

-- ════════════════════════════════════════════════════════════════════════
-- Holds
-- ════════════════════════════════════════════════════════════════════════

/-- The row that `create_legal_hold` inserts. -/
def holdRow (bundleId : ℕ) (row : EvidenceBundle) (reason externalReference : String)
    (placedBy : Option String) (now : Time) : LegalHold where
  organization := row.organization
  changeRecord := row.changeRecord
  evidenceBundle := some bundleId
  reason := strip reason
  externalReference := String.ofList ((strip externalReference).toList.take 512)
  placedBy
  placedAt := now

/-- The row that `release_legal_hold` saves. -/
def LegalHold.release (row : LegalHold) (releasedBy : Option String) (reason : String)
    (now : Time) : LegalHold :=
  { row with
    status := .released
    releasedBy
    releasedAt := some now
    releaseReason := strip reason }

-- ════════════════════════════════════════════════════════════════════════
-- Programs
-- ════════════════════════════════════════════════════════════════════════

/-- The calls with their arguments and what their clocks and selectors return. -/
inductive EvidenceOp where
  | createBundle (change : ℕ) (createdBy : Option String) (now : Time) (reads : SourceReads)
  /-- The second instant is when a defect of an artifact invalidates the bundle. -/
  | sealBundle (bundle : ℕ) (sealedBy : Option String) (now later : Time) (reads : SealReads)
  | invalidateBundle (bundle : ℕ) (reason : String) (invalidatedBy : Option String) (now : Time)
  | createExport (request : ExportRequest)
  | createLegalHold (bundle : ℕ) (reason externalReference : String) (placedBy : Option String)
      (now : Time)
  | releaseLegalHold (hold : ℕ) (releasedBy : Option String) (reason : String) (now : Time)
  | cleanupBundle (bundle : ℕ) (now : Time)
  | cleanupExport (archive : ℕ) (now : Time)

/-- Where the program of a call is. -/
inductive EvidencePos where
  | call (op : EvidenceOp)
  /-- The change is locked, and its latest version is to be looked up. -/
  | counting (change : ℕ) (row : ChangeRecord) (createdBy : Option String) (now : Time)
      (reads : SourceReads)
  | chaining (change : ℕ) (row : ChangeRecord) (latest : ℕ) (createdBy : Option String)
      (now : Time) (reads : SourceReads)
  /-- Before a save that an event follows once it is committed. -/
  | save (write : EvidenceWrite) (event : Option (EvidenceDb → String × ℕ))
  | saved (event : Option (EvidenceDb → String × ℕ))
  | emit (event : String × ℕ)
  | emitted
  /-- The package of a bundle is built and not yet stored. -/
  | store (bundle : ℕ) (row : EvidenceBundle) (zip : Bytes) (now : Time)
  | stored (bundle : ℕ) (row : EvidenceBundle) (now : Time)
  | sealing (bundle : ℕ) (row : EvidenceBundle)
  | sealed (bundle : ℕ) (row : EvidenceBundle)
  | sealEmit (bundle : ℕ) (row : EvidenceBundle)
  | sealEmitted (bundle : ℕ) (row : EvidenceBundle)
  /-- A seal has failed after the file was stored. -/
  | unsealed (bundle : ℕ) (row : EvidenceBundle) (e : Err)
  | discard (bundle : ℕ) (row : EvidenceBundle) (e : Err)
  /-- An artifact is defective. -/
  | defective (bundle : ℕ) (invalidatedBy : Option String) (now : Time) (e : Err)
  /-- Before the lock of `invalidate_bundle`; the error is that of the seal that calls it. -/
  | invalidate (bundle : ℕ) (reason : String) (invalidatedBy : Option String) (now : Time)
      (defect : Option Err)
  | invalidating (bundle : ℕ) (reason : String) (invalidatedBy : Option String) (now : Time)
      (row : EvidenceBundle) (defect : Option Err)
  | invalidated (bundle : ℕ) (row : EvidenceBundle) (defect : Option Err)
  | invalidEmit (bundle : ℕ) (row : EvidenceBundle) (defect : Option Err)
  | invalidEmitted (bundle : ℕ) (row : EvidenceBundle) (defect : Option Err)
  | unchanged (bundle : ℕ) (row : EvidenceBundle) (defect : Option Err)
  /-- The completeness of the invalidated bundle is to be saved. -/
  | marking (bundle : ℕ) (row : EvidenceBundle) (e : Err)
  | mark (bundle : ℕ) (e : Err)
  | marked (e : Err)
  /-- The expired row is locked, and holds are to be looked for. -/
  | holdCheck (locked : CleanupRow) (now : Time)
  | delete (locked : CleanupRow) (now : Time)
  | deleted (locked : CleanupRow) (now : Time)
  | deleting (locked : CleanupRow) (now : Time)
  | cleaned (locked : CleanupRow)
  | blocked (hold : ℕ)
  | blockedEmit (hold : ℕ)
  | blockedEmitted
  | exportRead (request : ExportRequest) (row : EvidenceBundle) (key : StorageKey)
  | exportCreate (request : ExportRequest) (row : EvidenceBundle) (content : Bytes)
  | exportCreated (request : ExportRequest) (row : EvidenceBundle) (content : Bytes)
  | exportStore (e : ℕ) (request : ExportRequest) (row : EvidenceBundle) (key : StorageKey)
      (contents : ExportContents)
  | exportStored (e : ℕ) (request : ExportRequest) (row : EvidenceBundle) (key : StorageKey)
      (contents : ExportContents)
  | exportReady (e : ℕ) (key : StorageKey) (ready : EvidenceExport)
  | exportReadied (e : ℕ) (key : StorageKey)
  | exportEmit (e : ℕ) (key : StorageKey)
  | exportEmitted (e : ℕ) (key : StorageKey)
  | exportDiscard (e : ℕ) (key : StorageKey) (error : Err)
  | exportFail (e : ℕ) (error : Err)
  | exportFailing (e : ℕ) (error : Err)
  | exportFailed (error : Err)
  | failed (e : Err)
  | raised (e : Err)
  | done

/-- Go on where the guards lead, or fail. -/
def goOn {α : Type} (guarded : Except Err α) (next : α → EvidencePos) : EvidencePos :=
  match guarded with
  | .ok a => next a
  | .error e => .failed e

/-- Go on with a row, if it exists. -/
def goOnWith {α : Type} (model : String) (row : Option α) (next : α → EvidencePos) : EvidencePos :=
  match row with
  | some row => next row
  | none => .failed (.notFound model)

theorem goOn_elim {α : Type} {p : EvidencePos → Prop} {guarded : Except Err α}
    {next : α → EvidencePos} (hfailed : ∀ e, p (.failed e))
    (hnext : ∀ a, guarded = .ok a → p (next a)) : p (goOn guarded next) := by
  cases guarded with
  | error e => exact hfailed e
  | ok a => exact hnext a rfl

theorem goOnWith_elim {α : Type} {p : EvidencePos → Prop} {model : String} {row : Option α}
    {next : α → EvidencePos} (hfailed : ∀ e, p (.failed e))
    (hnext : ∀ a, row = some a → p (next a)) : p (goOnWith model row next) := by
  cases row with
  | none => exact hfailed _
  | some a => exact hnext a rfl

/-- The statements of the services. -/
abbrev EvidenceStmt := Stmt EvidenceDb EvidenceLock EvidenceWrite EvidenceFiles EvidencePos

section

variable (env : EvidenceEnv)

/-- Where a seal goes from the locked row: to the storage of the package, or to its handler. -/
def sealNext (d : EvidenceDb) (bundleId : ℕ) (row : EvidenceBundle) (sealedBy : Option String)
    (now later : Time) (reads : SealReads) : EvidencePos :=
  match sealDraft env d bundleId row sealedBy now reads with
  | .ok (row, zip) => .store bundleId row zip now
  | .error e => if isArtifactDefect e then .defective bundleId sealedBy later e else .failed e

/-- The start of a cleanup: the lock, and the checks before the holds. -/
def cleanupStmt (model : String) (now : Time) (row : EvidenceDb → Option CleanupRow) :
    EvidenceStmt :=
  .lock (fun d => (row d).elim [] CleanupRow.locks) fun d =>
    goOnWith model (row d) fun locked =>
      if locked.storageDeletedAt.isSome then .saved none
      else goOn (locked.checkExpired now) fun _ => .holdCheck locked now

/-- The first statement of a call. -/
def EvidenceOp.stmt : EvidenceOp → EvidenceStmt
  | createBundle change createdBy now reads =>
    .lock (fun d => (d.changes.get? change).elim [] fun row =>
        [.change change, .operationProfile row.operationProfile, .workflow row.workflow]) fun d =>
      goOnWith "ChangeRecord" (d.changes.get? change) fun row =>
        goOn (check (row.status = .closed) <| .django "evidence_change_not_closed"
            "Evidence bundles can only be materialized for closed changes.") fun _ =>
          .counting change row createdBy now reads
  | sealBundle b sealedBy now later reads =>
    .lock (fun d => (d.bundles.get? b).elim [] (·.locks b)) fun d =>
      goOnWith "EvidenceBundle" (d.bundles.get? b) fun row =>
        sealNext env d b row sealedBy now later reads
  | invalidateBundle b reason invalidatedBy now =>
    .query fun _ =>
      goOn (check (reason ≠ "") <| .validation "evidence_invalidation_reason_required"
          "Invalidation reason is required.") fun _ =>
        .invalidate b reason invalidatedBy now none
  | createExport request =>
    .query fun d => goOnWith "EvidenceBundle" (d.bundles.get? request.bundle) fun row =>
      goOn (checkExport row) fun key => .exportRead request row key
  | createLegalHold b reason externalReference placedBy now =>
    if strip reason = "" then
      .query fun _ => .failed <| .validation "legal_hold_reason_required"
        "Legal hold reason is required."
    else
      .lock (fun d => (d.bundles.get? b).elim [] (·.locks b)) fun d =>
        goOnWith "EvidenceBundle" (d.bundles.get? b) fun row =>
          goOn (do
            check (d.activeBundleHold row.changeRecord b = none) <| .conflict
              "legal_hold_already_active" "An active legal hold already exists for this bundle."
            d.cleanHold (holdRow b row reason externalReference placedBy now)) fun _ =>
            .save (.createHold (holdRow b row reason externalReference placedBy now))
              (some fun d => ("legal_hold.created", d.holds.next - 1))
  | releaseLegalHold h releasedBy reason now =>
    if strip reason = "" then
      .query fun _ => .failed <| .validation "release_reason_required"
        "A nonblank release reason is required."
    else
      .lock (fun d => (d.holds.get? h).elim [] fun row =>
          [.hold h, .organization row.organization, .change row.changeRecord]) fun d =>
        goOnWith "LegalHold" (d.holds.get? h) fun row =>
          goOn (do
            check (row.status = .active) <| .validation "legal_hold_not_active"
              "Only active legal holds can be released."
            d.cleanHold (row.release releasedBy reason now)) fun _ =>
            .save (.releaseHold h (row.release releasedBy reason now))
              (some fun _ => ("legal_hold.released", h))
  | cleanupBundle b now =>
    cleanupStmt "EvidenceBundle" now fun d => d.bundleToClean b
  | cleanupExport e now =>
    cleanupStmt "EvidenceExport" now fun d => d.exportToClean e

/-- Where `invalidate_bundle` returns to: its caller, or the handler of a seal. -/
def invalidReturn (bundle : ℕ) (row : EvidenceBundle) : Option Err → EvidencePos
  | none => .done
  | some e => .marking bundle row e

/-- The statement at a position. -/
def EvidencePos.stmt : EvidencePos → EvidenceStmt
  | call op => op.stmt env
  | counting change row createdBy now reads =>
    .query fun d => .chaining change row (d.latestVersion change) createdBy now reads
  | chaining change row latest createdBy now reads =>
    .query fun d => .save (.createBundle row.organization change (latest + 1)
      (d.latestBundle change) createdBy now reads) none
  | save write event => .write write (.saved event)
  | saved event => .commit fun d => event.elim .done fun event => .emit (event d)
  | emit event => .write (.emit event.1 event.2) .emitted
  | emitted => .commit fun _ => .done
  | store b row zip now =>
    .act (fun files => row.storageKey.elim files fun key => files.save key zip) fun _ =>
      .stored b row now
  | stored b row now =>
    .query fun d =>
      match checkBundleSave d b (row.withRetention d now) with
      | .ok _ => .sealing b (row.withRetention d now)
      | .error e => .unsealed b row e
  | sealing b row => .write (.sealBundle b row) (.sealed b row)
  | sealed b row => .commit fun _ => .sealEmit b row
  | sealEmit b row => .write (.emit "evidence_bundle.sealed" b) (.sealEmitted b row)
  | sealEmitted _ _ => .commit fun _ => .done
  | unsealed b row e => .rollback (.discard b row e)
  | discard _ row e =>
    .act (fun files => row.storageKey.elim files files.delete) fun _ => .raised e
  | defective b invalidatedBy now e =>
    .rollback (.invalidate b e.code invalidatedBy now (some e))
  | invalidate b reason invalidatedBy now defect =>
    .lock (fun d => (d.bundles.get? b).elim [] fun _ => [.bundle b]) fun d =>
      goOnWith "EvidenceBundle" (d.bundles.get? b) fun row =>
        if row.status = .invalidated then .unchanged b row defect
        else goOn (checkBundleSave d b (row.invalidate reason invalidatedBy now)) fun _ =>
          .invalidating b reason invalidatedBy now row defect
  | invalidating b reason invalidatedBy now row defect =>
    .write (.invalidateBundle b reason invalidatedBy now)
      (.invalidated b (row.invalidate reason invalidatedBy now) defect)
  | invalidated b row defect => .commit fun _ => .invalidEmit b row defect
  | invalidEmit b row defect =>
    .write (.emit "evidence_bundle.invalidated" b) (.invalidEmitted b row defect)
  | invalidEmitted b row defect => .commit fun _ => invalidReturn b row defect
  | unchanged b row defect => .commit fun _ => invalidReturn b row defect
  | marking b row e =>
    .query fun d =>
      goOn (checkBundleSave d b { row with completenessStatus := .invalid }) fun _ => .mark b e
  | mark b e => .write (.markInvalid b) (.marked e)
  | marked e => .commit fun _ => .raised e
  | holdCheck locked now =>
    .query fun d =>
      match findActiveLegalHold d locked.target with
      | some (h, _) => .blocked h
      | none => .delete locked now
  | delete locked now =>
    .act (fun files => locked.storageKey.elim files files.delete) fun _ => .deleted locked now
  | deleted locked now => .query fun d => goOn (locked.checkSave d) fun _ => .deleting locked now
  | deleting locked now => .write (locked.write now) (.cleaned locked)
  | cleaned locked => .commit fun _ => .emit locked.deletedEvent
  | blocked h => .rollback (.blockedEmit h)
  | blockedEmit h => .write (.emit "evidence.retention_cleanup_blocked" h) .blockedEmitted
  | blockedEmitted =>
    .commit fun _ => .raised (.validation "legal_hold_blocks_cleanup" "Active legal hold blocks cleanup.")
  | exportRead request row key =>
    .act id fun files =>
      goOn (checkExportFile env row request.redactionPolicy (files key)) fun content =>
        .exportCreate request row content
  | exportCreate request row content =>
    .write (.createExport (exportRow request row)) (.exportCreated request row content)
  | exportCreated request row content =>
    .commit fun d =>
      match request.transform (d.exports.next - 1) content with
      | .ok contents =>
        .exportStore (d.exports.next - 1) request row
          (exportStorageKey (d.exports.next - 1) request.bundle row) contents
      | .error error => .exportFail (d.exports.next - 1) error
  | exportStore e request row key contents =>
    .act (fun files => files.save key contents.zipBytes) fun _ =>
      .exportStored e request row key contents
  | exportStored e request row key contents =>
    .query fun d =>
      match checkExportSave d e (readyRow env d request row key contents) with
      | .ok _ => .exportReady e key (readyRow env d request row key contents)
      | .error error => .exportDiscard e key error
  | exportReady e key ready => .write (.readyExport e ready) (.exportReadied e key)
  | exportReadied e key => .commit fun _ => .exportEmit e key
  | exportEmit e key => .write (.emit "evidence_export.created" e) (.exportEmitted e key)
  | exportEmitted _ _ => .commit fun _ => .done
  | exportDiscard e key error => .act (fun files => files.delete key) fun _ => .exportFail e error
  | exportFail e error =>
    .query fun d =>
      if (d.exports.get? e).any (·.status = .creating) then .exportFailing e error
      else .raised error
  | exportFailing e error => .write (.failExport e error) (.exportFailed error)
  | exportFailed error => .commit fun _ => .raised error
  | failed e => .rollback (.raised e)
  | raised _ | done => .stop

/-- Where an exception leads. The handler of a seal deletes the file once it is stored, also when
the bundle is sealed; so does that of an export, which then looks at the status. -/
def EvidencePos.rescue : EvidencePos → EvidencePos
  | stored b row _ | sealing b row | sealed b row | sealEmit b row | sealEmitted b row |
    unsealed b row _ => .discard b row (.uncaught "Exception")
  | exportStore e _ _ _ _ => .exportFail e (.uncaught "Exception")
  | exportStored e _ _ key _ | exportReady e key _ | exportReadied e key | exportEmit e key |
    exportEmitted e key => .exportDiscard e key (.uncaught "Exception")
  | exportDiscard e _ error => .exportFail e error
  | _ => .raised (.uncaught "Exception")

end

/-- The services, of which those that `start` selects are called. -/
def evidenceMachine (env : EvidenceEnv) (start : EvidenceOp → Bool) :
    Machine EvidenceDb EvidenceLock EvidenceWrite EvidenceFiles EvidencePos where
  stmt := EvidencePos.stmt env
  apply := EvidenceWrite.apply env
  rescue := EvidencePos.rescue
  start
    | .call op => start op
    | _ => false

end RunbookPlatform
