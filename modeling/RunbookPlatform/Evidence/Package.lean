import RunbookPlatform.Core.Canonical
import RunbookPlatform.Evidence.Sections

/-!
# Sealed packages

The package of a bundle holds its sections, rebuilt from the source rows, and the files of its
artifact items. The items take over the hashes of what is packaged.

## Main definitions

- `PackageEntry`, `payloadEntries` — `_payload_entries_for_bundle`
- `manifestForBundle`, `canonicalChecksumsBytes` — the two files about the others
- `BundlePackage`, `buildSealedBundlePackage`

## Main results

- `payloadEntries_flags` — packaging leaves the flags of the items alone
-/

namespace RunbookPlatform

open Transactional

/-- `_PackageEntry`, without its path. -/
structure PackageEntry where
  content : Bytes
  mediaType : String
  itemType : ItemType
  itemKey : String := ""
  required : Bool := true
  sourceRefs : List Json := []

/-- A dictionary by path, sorted by it when it is read. -/
abbrev EntriesByPath := List (String × PackageEntry)

/-- `entries_by_path[path] = entry`. -/
def EntriesByPath.put (entries : EntriesByPath) (path : String) (entry : PackageEntry) :
    EntriesByPath :=
  (path, entry) :: entries.filter (·.1 ≠ path)

/-- What sealing reads: the source rows again, the rows of the artifacts, and their files. -/
structure SealReads extends SourceReads where
  artifactRow : ℕ → EvidenceArtifact
  artifactFile : String → Option Bytes

/-- `_source_refs_for_item`. -/
def sourceRefsForItem (item : EvidenceBundleItem) : List Json :=
  if item.sourceType = "" ∧ item.sourceId = "" then []
  else [.obj [("source_type", .str item.sourceType), ("source_id", .str item.sourceId),
    ("json_pointer", .str item.jsonPointer)]]

/-- `_source_refs_for_path`. -/
def sourceRefsForPath (items : List EvidenceBundleItem) (path : String) : List Json :=
  (items.filter (·.canonicalPath = path)).flatMap sourceRefsForItem

/-- `CANONICAL_REQUIRED_PATHS`. -/
def canonicalRequiredPaths : List (String × ItemType) :=
  [("change/change_record.json", .changeSnapshot), ("change/targets.json", .changeSnapshot),
    ("controls/approvals.json", .approval), ("controls/policy_decisions.json", .policyDecision),
    ("execution/execution.json", .execution), ("verification/plan.json", .verificationResult),
    ("verification/results.json", .verificationResult), ("audit/audit_trail.ndjson", .auditEvent),
    ("artifacts/index.json", .artifact), ("exceptions/exceptions.json", .exception),
    ("exports/export_receipt.json", .exportReceipt)]

/-- `_validate_zip_path`. -/
def validateZipPath (path : String) : Except Err Unit :=
  let chars := path.toList
  check (chars ≠ [] ∧ chars.head? ≠ some '/' ∧ '\\' ∉ chars ∧ (Char.ofNat 0) ∉ chars ∧
      (chars.splitOn '/').all fun part => part ≠ [] && part ≠ ['.'] && part ≠ ['.', '.']) <|
    .uncaught "SuspiciousFileOperation"

section

variable (env : EvidenceEnv)

/-- `_sync_compiling_item_content`. -/
def syncItemContent (content : Bytes) (item : EvidenceBundleItem) : EvidenceBundleItem :=
  { item with contentSha256 := env.sha256 content, contentSizeBytes := some content.length }

/-- Update the item with a type and a key, of which there is at most one. -/
def syncItem (itemType : ItemType) (itemKey : String) (content : Bytes)
    (items : List EvidenceBundleItem) : List EvidenceBundleItem :=
  items.map fun item =>
    if item.itemType = itemType ∧ item.itemKey = itemKey then syncItemContent env content item
    else item

/-- A step of the loop over the sections. -/
def packSection (state : List EvidenceBundleItem × EntriesByPath) (section' : EvidenceSection) :
    List EvidenceBundleItem × EntriesByPath :=
  let content := section'.content
  let items := syncItem env section'.itemType section'.itemKey content state.1
  (items, state.2.put section'.canonicalPath
    { content
      mediaType := mediaTypeOf section'.canonicalPath
      itemType := section'.itemType
      itemKey := section'.itemKey
      required := section'.required
      sourceRefs := sourceRefsForPath items section'.canonicalPath })

/-- A step of the loop over the required paths. -/
def packRequired (items : List EvidenceBundleItem) (entries : EntriesByPath)
    (required : String × ItemType) : EntriesByPath :=
  if entries.any (·.1 = required.1) then entries
  else entries.put required.1
    { content := if isNdjson required.1 then [] else canonicalJsonBytes (.obj [])
      mediaType := mediaTypeOf required.1
      itemType := required.2
      sourceRefs := sourceRefsForPath items required.1 }

/-- The entry of an artifact item. -/
def artifactEntry (item : EvidenceBundleItem) (artifact : EvidenceArtifact) (content : Bytes) :
    PackageEntry where
  content
  mediaType := if item.mimeType ≠ "" then item.mimeType else artifact.mimeType
  itemType := item.itemType
  itemKey := item.itemKey
  required := item.required
  sourceRefs := sourceRefsForItem item

/-- A step of the loop over the items of artifacts: its file is there and has the checksum of the
artifact. -/
def packArtifact (reads : SealReads) (state : List EvidenceBundleItem × EntriesByPath)
    (item : EvidenceBundleItem) : Except Err (List EvidenceBundleItem × EntriesByPath) :=
  match item.artifact with
  | none => .ok state
  | some i =>
    if item.canonicalPath = "artifacts/index.json" then .ok state
    else
      match reads.artifactFile (reads.artifactRow i).storageKey with
      | none =>
        .error <| .validation "artifact_storage_missing"
          s!"Artifact storage bytes are missing for {idText i}."
      | some content => do
        check (env.sha256 content = (reads.artifactRow i).checksumSha256) <|
          .validation "artifact_checksum_mismatch" s!"Artifact checksum mismatch for {idText i}."
        pure (syncItem env item.itemType item.itemKey content state.1,
          state.2.put item.canonicalPath (artifactEntry item (reads.artifactRow i) content))

/-- The items of artifacts, by path. -/
def artifactItems (items : List EvidenceBundleItem) : List EvidenceBundleItem :=
  (Json.sortEntries ((items.filter (·.itemType = .artifact)).map fun item =>
    (item.canonicalPath, item))).map (·.2)

/-- The items and the entries after the loops over the sections and the required paths. -/
def packSections (bundleId : ℕ) (bundle : EvidenceBundle) (reads : SourceReads) :
    List EvidenceBundleItem × EntriesByPath :=
  let packed := (sourceSections env bundleId bundle reads).foldl (packSection env) (bundle.items, [])
  (packed.1, canonicalRequiredPaths.foldl (packRequired packed.1) packed.2)

/-- `_payload_entries_for_bundle`: the items with their new hashes, and the entries by path. -/
def payloadEntries (bundleId : ℕ) (bundle : EvidenceBundle) (reads : SealReads) :
    Except Err (List EvidenceBundleItem × EntriesByPath) := do
  let packed := packSections env bundleId bundle reads.toSourceReads
  let (items, entries) ← (artifactItems packed.1).foldlM (packArtifact env reads) packed
  pure (items, Json.sortEntries entries)

/-- An entry of the manifest. -/
def manifestEntry (entry : String × PackageEntry) : Json :=
  .obj [("path", .str entry.1), ("item_type", .str entry.2.itemType.value),
    ("item_key", .str entry.2.itemKey), ("media_type", .str entry.2.mediaType),
    ("size_bytes", .int entry.2.content.length), ("sha256", .str (env.sha256 entry.2.content)),
    ("required", .bool entry.2.required), ("source_refs", .arr entry.2.sourceRefs)]

/-- `_manifest_for_bundle`; the entries come by path. -/
def manifestForBundle (bundleId : ℕ) (bundle : EvidenceBundle) (reads : SourceReads)
    (entries : EntriesByPath) : Json :=
  .obj [("manifest_schema_version", .str "1"), ("package_type", .str "sealed_bundle"),
    ("bundle", .obj [("id", jsonId bundleId), ("version", .int bundle.version),
      ("status", .str "sealed"), ("completeness_status", .str bundle.completenessStatus.value),
      ("compiled_at", jsonTime env bundle.compiledAt),
      ("sealed_at", bundle.sealedAt.elim .null (jsonTime env))]),
    ("change", reads.changeHashes),
    ("source", .obj [("source_snapshot_sha256", .str bundle.sourceSnapshotSha256),
      ("source_cutoff_at", jsonTime env bundle.sourceCutoffAt),
      ("source_high_watermark", bundle.sourceHighWatermark)]),
    ("algorithms", .obj [("content_hash", .str "sha256"), ("manifest_hash", .str "sha256"),
      ("payload_checksums_hash", .str "sha256"), ("zip_method", .str "zip-stored")]),
    ("entries", .arr (entries.map (manifestEntry env)))]

/-- `canonical_checksums_bytes`, of files by path. -/
def canonicalChecksumsBytes (files : List (String × Bytes)) : Except Err Bytes := do
  let listed := files.filter (·.1 ≠ "checksums.sha256")
  listed.forM fun file => validateZipPath file.1
  pure (listed.flatMap fun file => utf8 s!"{env.sha256 file.2}  {file.1}\n")

/-- `deterministic_zip_bytes`, of files by path. -/
def deterministicZipBytes (files : List (String × Bytes)) : Except Err Bytes := do
  files.forM fun file => validateZipPath file.1
  pure (env.zip files)

/-- What `build_sealed_bundle_package` returns and saves, with the files of the archive. -/
structure BundlePackage where
  /-- The row with the saves of the packaging. -/
  bundle : EvidenceBundle
  manifest : Json
  manifestSha256 : String
  payloadChecksumsSha256 : String
  files : List (String × Bytes)
  zipBytes : Bytes

/-- The files by path, with one more; the new one takes the place of an old one. -/
def addFile (path : String) (content : Bytes) (files : List (String × Bytes)) :
    List (String × Bytes) :=
  Json.sortEntries ((path, content) :: files.filter (·.1 ≠ path))

/-- `build_sealed_bundle_package`. -/
def buildSealedBundlePackage (bundleId : ℕ) (bundle : EvidenceBundle) (reads : SealReads) :
    Except Err BundlePackage := do
  check bundle.sealedAt.isSome <| .validation "evidence_bundle_sealed_at_required"
    "sealed_at must be persisted before package generation."
  let (items, entries) ← payloadEntries env bundleId bundle reads
  let bundle := bundle.refresh env items
  let manifest := manifestForBundle env bundleId bundle reads.toSourceReads entries
  let manifestBytes := canonicalJsonBytes manifest
  let payload := entries.map fun entry => (entry.1, entry.2.content)
  let listed := addFile "manifest.json" manifestBytes payload
  let checksumsBytes ← canonicalChecksumsBytes env listed
  let files := addFile "checksums.sha256" checksumsBytes listed
  let payloadChecksumsBytes ← canonicalChecksumsBytes env payload
  let zipBytes ← deterministicZipBytes env files
  pure
    { bundle
      manifest
      manifestSha256 := env.sha256 manifestBytes
      payloadChecksumsSha256 := env.sha256 payloadChecksumsBytes
      files
      zipBytes }

end

-- ════════════════════════════════════════════════════════════════════════
-- The flags of the items
-- ════════════════════════════════════════════════════════════════════════

/-- What decides the completeness of an item. -/
def EvidenceBundleItem.flags (item : EvidenceBundleItem) : Bool × Bool × Bool :=
  (item.required, item.present, item.valid)

theorem completenessStatus_eq_complete {items : List EvidenceBundleItem} :
    completenessStatus items = .complete ↔ missingRequired items = [] ∧ invalidItems items = [] := by
  unfold completenessStatus
  split_ifs with hinvalid hmissing
  · simp [hinvalid]
  · simp [hmissing]
  · simp_all

/-- The status depends on the flags only. -/
theorem completenessStatus_congr {items items' : List EvidenceBundleItem}
    (h : items'.map (·.flags) = items.map (·.flags)) :
    completenessStatus items' = completenessStatus items := by
  have hfilter : ∀ p : Bool × Bool × Bool → Bool, ∀ xs : List EvidenceBundleItem,
      xs.filter (fun item => p item.flags) = [] ↔ (xs.map (·.flags)).filter p = [] := by
    intro p xs
    rw [List.filter_map, List.map_eq_nil_iff]
    rfl
  have hmissing : missingRequired items' = [] ↔ missingRequired items = [] := by
    have hp := hfilter fun flags => flags.1 && !flags.2.1
    exact (hp items').trans (h ▸ (hp items).symm)
  have hinvalid : invalidItems items' = [] ↔ invalidItems items = [] := by
    have hp := hfilter fun flags => !flags.2.2
    exact (hp items').trans (h ▸ (hp items).symm)
  simp only [completenessStatus, ne_eq, hmissing, hinvalid]

section

variable {env : EvidenceEnv}

theorem syncItem_flags (itemType : ItemType) (itemKey : String) (content : Bytes)
    (items : List EvidenceBundleItem) :
    (syncItem env itemType itemKey content items).map (·.flags) = items.map (·.flags) := by
  rw [syncItem, List.map_map]
  refine List.map_congr_left fun item _ => ?_
  simp only [Function.comp_apply]
  split_ifs <;> rfl

theorem packSections_flags (bundleId : ℕ) (bundle : EvidenceBundle) (reads : SourceReads) :
    (packSections env bundleId bundle reads).1.map (·.flags) = bundle.items.map (·.flags) := by
  have hloop : ∀ (sections : List EvidenceSection) (state : List EvidenceBundleItem × EntriesByPath),
      (sections.foldl (packSection env) state).1.map (·.flags) = state.1.map (·.flags) := by
    intro sections
    induction sections with
    | nil => exact fun _ => rfl
    | cons section' sections ih => exact fun state => (ih _).trans (syncItem_flags _ _ _ _)
  unfold packSections
  generalize sourceSections env bundleId bundle reads = sections
  exact hloop sections (bundle.items, [])

/-- What a step of the loop over artifact items does. -/
theorem packArtifact_ok {reads : SealReads} {state state' : List EvidenceBundleItem × EntriesByPath}
    {item : EvidenceBundleItem} (h : packArtifact env reads state item = .ok state') :
    ((item.artifact = none ∨ item.canonicalPath = "artifacts/index.json") ∧ state' = state) ∨
    ∃ i content, item.artifact = some i ∧ item.canonicalPath ≠ "artifacts/index.json" ∧
      reads.artifactFile (reads.artifactRow i).storageKey = some content ∧
      env.sha256 content = (reads.artifactRow i).checksumSha256 ∧
      state' = (syncItem env item.itemType item.itemKey content state.1,
        state.2.put item.canonicalPath (artifactEntry item (reads.artifactRow i) content)) := by
  unfold packArtifact at h
  split at h
  · rename_i hnone
    cases h
    exact .inl ⟨.inl hnone, rfl⟩
  · rename_i i hsome
    split_ifs at h with hindex
    · cases h
      exact .inl ⟨.inr hindex, rfl⟩
    · split at h
      · cases h
      · rename_i content hfile
        simp only [except_bind_ok, check_ok] at h
        obtain ⟨-, hsha, hstate⟩ := h
        cases hstate
        exact .inr ⟨i, content, hsome, hindex, hfile, hsha, rfl⟩

theorem packArtifacts_flags {reads : SealReads} (items : List EvidenceBundleItem)
    {state state' : List EvidenceBundleItem × EntriesByPath}
    (h : items.foldlM (packArtifact env reads) state = .ok state') :
    state'.1.map (·.flags) = state.1.map (·.flags) := by
  induction items generalizing state with
  | nil =>
    cases h
    rfl
  | cons item items ih =>
    rw [List.foldlM_cons, except_bind_ok] at h
    obtain ⟨middle, hitem, hrest⟩ := h
    refine (ih hrest).trans ?_
    rcases packArtifact_ok hitem with ⟨-, rfl⟩ | ⟨i, content, -, -, -, -, rfl⟩
    · rfl
    · exact syncItem_flags _ _ _ _

/-- **Packaging** leaves the flags of the items alone. -/
theorem payloadEntries_flags {bundleId : ℕ} {bundle : EvidenceBundle} {reads : SealReads}
    {items : List EvidenceBundleItem} {entries : EntriesByPath}
    (h : payloadEntries env bundleId bundle reads = .ok (items, entries)) :
    items.map (·.flags) = bundle.items.map (·.flags) := by
  simp only [payloadEntries, except_bind_ok] at h
  obtain ⟨state, hartifacts, hresult⟩ := h
  cases hresult
  exact (packArtifacts_flags _ hartifacts).trans (packSections_flags bundleId bundle _)

/-- What a package is made of. -/
theorem buildSealedBundlePackage_ok {bundleId : ℕ} {bundle : EvidenceBundle} {reads : SealReads}
    {package : BundlePackage} (h : buildSealedBundlePackage env bundleId bundle reads = .ok package) :
    ∃ items entries, payloadEntries env bundleId bundle reads = .ok (items, entries) ∧
      package.bundle = bundle.refresh env items ∧
      package.manifest =
        manifestForBundle env bundleId package.bundle reads.toSourceReads entries ∧
      package.zipBytes = env.zip package.files ∧
      ∃ checksums, package.files = addFile "checksums.sha256" checksums
        (addFile "manifest.json" (canonicalJsonBytes package.manifest)
          (entries.map fun entry => (entry.1, entry.2.content))) := by
  simp only [buildSealedBundlePackage, except_bind_ok, check_ok, deterministicZipBytes] at h
  obtain ⟨-, -, ⟨items, entries⟩, hentries, checksums, -, payloadChecksums, -, zipBytes, ⟨-, -, hzip⟩,
    hpackage⟩ := h
  cases hpackage
  cases hzip
  exact ⟨items, entries, hentries, rfl, rfl, rfl, checksums, rfl⟩

end

end RunbookPlatform
