import RunbookPlatform.Evidence.Runs

/-!
# The contents of an export

`create_export` loads the entries of a sealed package, redacts them, and adds a receipt, a
manifest and the checksums, in this order.

## Main definitions

- `RedactionPolicy`, `applyRedactionPolicy` — how a policy changes the entries
- `exportReceipt`, `exportManifest`, `buildExport` — the files about the others

## Main results

- `export_describes_itself` — what the files of an export say of each other

## Design notes

Every rule of a policy drops entries or changes their bytes, one by one. What the rules make of
an entry is a parameter, as is the reading of an archive.
-/

namespace RunbookPlatform

-- ════════════════════════════════════════════════════════════════════════
-- Files by path
-- ════════════════════════════════════════════════════════════════════════

/-- The files of a dictionary, by path. -/
def FilesByPath (files : List (String × Bytes)) : Prop := files.Pairwise fun a b => a.1 < b.1

variable {files : List (String × Bytes)} {file : String × Bytes} {path : String} {content : Bytes}

theorem FilesByPath.filter (h : FilesByPath files) (p : String × Bytes → Bool) :
    FilesByPath (files.filter p) :=
  List.Pairwise.filter p h

theorem filesByPath_insertEntry (h : FilesByPath files) (hne : ∀ x ∈ files, x.1 ≠ file.1) :
    FilesByPath (Json.insertEntry file files) := by
  induction files with
  | nil => exact List.pairwise_singleton _ _
  | cons x xs ih =>
    obtain ⟨hx, hxs⟩ := List.pairwise_cons.1 h
    rw [Json.insertEntry]
    split_ifs with hlt
    · refine List.pairwise_cons.2 ⟨fun y hy => ?_, h⟩
      obtain rfl | hy := List.mem_cons.1 hy
      · exact hlt
      · exact hlt.trans (hx y hy)
    · have hlt' : x.1 < file.1 := lt_of_le_of_ne (not_lt.1 hlt) (hne x List.mem_cons_self)
      refine List.pairwise_cons.2 ⟨fun y hy => ?_, ih hxs fun y hy => hne y (List.mem_cons_of_mem x hy)⟩
      obtain rfl | hy := Json.mem_insertEntry.1 hy
      · exact hlt'
      · exact hx y hy

/-- Files by path are sorted already. -/
theorem sortEntries_of_byPath (h : FilesByPath files) : Json.sortEntries files = files := by
  induction files with
  | nil => rfl
  | cons x xs ih =>
    obtain ⟨hx, hxs⟩ := List.pairwise_cons.1 h
    rw [Json.sortEntries, List.foldr_cons, ← Json.sortEntries, ih hxs]
    cases xs with
    | nil => rfl
    | cons y ys => rw [Json.insertEntry, if_pos (hx y List.mem_cons_self)]

theorem addFile_of_byPath (h : FilesByPath files) :
    addFile path content files = Json.insertEntry (path, content) (files.filter (·.1 ≠ path)) := by
  rw [addFile, Json.sortEntries, List.foldr_cons, ← Json.sortEntries, sortEntries_of_byPath (h.filter _)]

theorem FilesByPath.addFile (h : FilesByPath files) (path : String) (content : Bytes) :
    FilesByPath (addFile path content files) := by
  rw [addFile_of_byPath h]
  refine filesByPath_insertEntry (h.filter _) fun x hx => ?_
  simpa using (List.mem_filter.1 hx).2

theorem mem_addFile (h : FilesByPath files) : file ∈ addFile path content files ↔
    file = (path, content) ∨ file ∈ files ∧ file.1 ≠ path := by
  rw [addFile_of_byPath h, Json.mem_insertEntry, List.mem_filter, decide_eq_true_eq]

theorem filter_insertEntry {p : String × Bytes → Bool} (hp : p file = false) :
    (Json.insertEntry file files).filter p = files.filter p := by
  induction files with
  | nil => simp [Json.insertEntry, hp]
  | cons x xs ih =>
    rw [Json.insertEntry]
    split_ifs
    · rw [List.filter_cons_of_neg (by simp [hp])]
    · rw [List.filter_cons, List.filter_cons, ih]

/-- A new file is not seen by who does not look at its path. -/
theorem filter_addFile (h : FilesByPath files) {p : String × Bytes → Bool}
    (hp : ∀ x, x.1 = path → p x = false) :
    (addFile path content files).filter p = files.filter p := by
  rw [addFile_of_byPath h, filter_insertEntry (hp _ rfl), List.filter_filter]
  refine List.filter_congr fun x _ => ?_
  by_cases hx : x.1 = path
  · rw [hp x hx, Bool.false_and]
  · simp [hx]

-- ════════════════════════════════════════════════════════════════════════
-- The files of an export
-- ════════════════════════════════════════════════════════════════════════

/-- `_load_zip_entries`, of the names and contents in an archive. -/
def loadZipEntries (archive : List (String × Bytes)) : List (String × Bytes) :=
  archive.foldl (fun files entry => addFile entry.1 entry.2 files) []

theorem filesByPath_loadZipEntries (archive : List (String × Bytes)) :
    FilesByPath (loadZipEntries archive) := by
  have hfold : ∀ (archive files : List (String × Bytes)), FilesByPath files →
      FilesByPath (archive.foldl (fun files entry => addFile entry.1 entry.2 files) files) := by
    intro archive
    induction archive with
    | nil => exact fun files h => h
    | cons entry archive ih => exact fun files h => ih _ (h.addFile _ _)
  exact hfold archive [] List.Pairwise.nil

/-- What the rules of a policy make of a package. -/
structure RedactionEffect where
  /-- The new bytes of an entry, unless it is omitted. -/
  edit : String → Bytes → Option Bytes
  omittedPaths : List Json := []
  transformedPaths : List Json := []
  redactionCounts : List (String × Json) := []

/-- `EvidenceRedactionPolicy`, with its rules. -/
structure RedactionPolicy extends EvidenceRedactionPolicy where
  rulesSha256 : String
  rulesApplied : ℕ
  effect : List (String × Bytes) → Except Err RedactionEffect

/-- `_apply_redaction_policy`. -/
def applyRedactionPolicy (entries : List (String × Bytes)) :
    Option RedactionPolicy → Except Err (List (String × Bytes) × Json)
  | none => .ok (entries, .obj [("redacted", .bool false), ("policy_id", .null),
      ("policy_sha256", .null), ("rules_applied", .int 0), ("omitted_paths", .arr []),
      ("transformed_paths", .arr []), ("redaction_counts", .obj [])])
  | some policy => do
    let effect ← policy.effect entries
    pure (entries.filterMap fun entry => (effect.edit entry.1 entry.2).map fun content =>
        (entry.1, content),
      .obj [("redacted", .bool true), ("policy_id", jsonId policy.id),
        ("policy_sha256", .str policy.rulesSha256), ("rules_applied", .int policy.rulesApplied),
        ("omitted_paths", .arr effect.omittedPaths),
        ("transformed_paths", .arr effect.transformedPaths),
        ("redaction_counts", .obj effect.redactionCounts)])

/-- `_build_export_receipt`. -/
def exportReceipt (env : EvidenceEnv) (bundleId e : ℕ) (row : EvidenceBundle)
    (request : ExportRequest) (policy : Option RedactionPolicy) (redactionSummary : Json) : Json :=
  .obj [("receipt_schema_version", .str "1"), ("receipt_type", .str "evidence_export"),
    ("export_id", jsonId e), ("bundle_id", jsonId bundleId), ("bundle_version", .int row.version),
    ("change_record_id", jsonId row.changeRecord), ("organization_id", jsonId row.organization),
    ("requested_by_user_id", request.requestedBy.elim .null .str),
    ("requested_at", jsonTime env request.requestedAt),
    ("source_manifest_sha256", .str row.manifestSha256),
    ("source_bundle_content_sha256", .str row.contentSha256),
    ("redaction_policy_id", policy.elim .null fun p => jsonId p.id),
    ("redaction_policy_sha256", policy.elim .null fun p => .str p.rulesSha256),
    ("redaction_summary", redactionSummary)]

/-- The media type of an entry. -/
def exportMediaType (path : String) : String :=
  if isNdjson path then "application/x-ndjson"
  else if ".json".toList.isSuffixOf path.toList then "application/json"
  else "application/octet-stream"

/-- An entry of the manifest. -/
def exportEntry (env : EvidenceEnv) (redacted : Bool) (file : String × Bytes) : Json :=
  .obj [("path", .str file.1), ("media_type", .str (exportMediaType file.1)),
    ("size_bytes", .int file.2.length), ("sha256", .str (env.sha256 file.2)),
    ("required", .bool true), ("source_refs", .arr []),
    ("redaction_state", .str (if redacted then "redacted" else "original"))]

/-- The manifest and the checksums are no entries of the manifest. -/
def isListed (file : String × Bytes) : Bool :=
  file.1 ≠ "manifest.json" && file.1 ≠ "checksums.sha256"

/-- `_build_export_manifest`. -/
def exportManifest (env : EvidenceEnv) (bundleId e : ℕ) (row : EvidenceBundle)
    (request : ExportRequest) (policy : Option RedactionPolicy) (redactionSummary : Json)
    (receiptSha256 : String) (files : List (String × Bytes)) : Json :=
  .obj [("manifest_schema_version", .str "1"), ("package_type", .str "evidence_export"),
    ("bundle", .obj [("id", jsonId bundleId), ("version", .int row.version),
      ("status", .str "sealed"), ("manifest_sha256", .str row.manifestSha256),
      ("content_sha256", .str row.contentSha256)]),
    ("export", .obj [("id", jsonId e), ("requested_at", jsonTime env request.requestedAt),
      ("redaction_policy_id", policy.elim .null fun p => jsonId p.id)]),
    ("source", .obj [("source_manifest_sha256", .str row.manifestSha256),
      ("source_bundle_content_sha256", .str row.contentSha256)]),
    ("redaction_summary", redactionSummary), ("receipt_sha256", .str receiptSha256),
    ("algorithms", .obj [("content_hash", .str "sha256"), ("manifest_hash", .str "sha256"),
      ("zip_method", .str "zip-stored")]),
    ("entries", .arr ((files.filter isListed).map (exportEntry env policy.isSome)))]

/-- The files that `create_export` makes of a package with these entries, with what it saves. -/
def buildExport (env : EvidenceEnv) (bundleId e : ℕ) (row : EvidenceBundle)
    (request : ExportRequest) (policy : Option RedactionPolicy) (source : List (String × Bytes)) :
    Except Err (List (String × Bytes) × ExportContents) := do
  let (entries, redactionSummary) ← applyRedactionPolicy source policy
  let receipt := exportReceipt env bundleId e row request policy redactionSummary
  let receiptBytes := canonicalJsonBytes receipt
  let receiptSha256 := env.sha256 receiptBytes
  let entries := addFile "exports/export_receipt.json" receiptBytes entries
  let manifest := exportManifest env bundleId e row request policy redactionSummary receiptSha256
    entries
  let manifestBytes := canonicalJsonBytes manifest
  let entries := addFile "manifest.json" manifestBytes entries
  let checksumsBytes ← canonicalChecksumsBytes env entries
  let files := addFile "checksums.sha256" checksumsBytes entries
  let zipBytes ← deterministicZipBytes env files
  pure (files,
    { zipBytes
      manifest
      manifestSha256 := env.sha256 manifestBytes
      redactionSummary
      receipt
      receiptSha256 })

/-- The transformation of the entries that `create_export` makes of the bytes of a package, with
`unzip` for the reading of an archive. -/
def exportTransform (env : EvidenceEnv) (unzip : Bytes → Except Err (List (String × Bytes)))
    (bundleId : ℕ) (row : EvidenceBundle) (request : ExportRequest) (policy : Option RedactionPolicy)
    (e : ℕ) (content : Bytes) : Except Err ExportContents := do
  let archive ← unzip content
  let (_, contents) ← buildExport env bundleId e row request policy (loadZipEntries archive)
  pure contents

-- ════════════════════════════════════════════════════════════════════════
-- What the files say of each other
-- ════════════════════════════════════════════════════════════════════════

/-- A line of `checksums.sha256`. -/
def checksumLine (env : EvidenceEnv) (file : String × Bytes) : Bytes :=
  utf8 s!"{env.sha256 file.2}  {file.1}\n"

/-- What the files of an export say of each other and of the bundle. -/
structure DescribesItself (env : EvidenceEnv) (row : EvidenceBundle) (redacted : Bool)
    (files : List (String × Bytes)) (contents : ExportContents) : Prop where
  byPath : FilesByPath files
  archive : contents.zipBytes = env.zip files
  checksums : ("checksums.sha256",
    (files.filter (·.1 ≠ "checksums.sha256")).flatMap (checksumLine env)) ∈ files
  manifest : ("manifest.json", canonicalJsonBytes contents.manifest) ∈ files
  manifestSha256 : contents.manifestSha256 = env.sha256 (canonicalJsonBytes contents.manifest)
  entries : contents.manifest.getD "entries" .null =
    .arr ((files.filter isListed).map (exportEntry env redacted))
  receipt : ("exports/export_receipt.json", canonicalJsonBytes contents.receipt) ∈ files
  receiptSha256 : contents.receiptSha256 = env.sha256 (canonicalJsonBytes contents.receipt)
  receiptListed : contents.manifest.getD "receipt_sha256" .null = .str contents.receiptSha256
  manifestSource : contents.manifest.getD "source" .null =
    .obj [("source_manifest_sha256", .str row.manifestSha256),
      ("source_bundle_content_sha256", .str row.contentSha256)]
  receiptSource : contents.receipt.getD "source_manifest_sha256" .null = .str row.manifestSha256 ∧
    contents.receipt.getD "source_bundle_content_sha256" .null = .str row.contentSha256

/-- The files that an export writes itself. -/
def isOwn (file : String × Bytes) : Bool :=
  file.1 = "manifest.json" || file.1 = "checksums.sha256" || file.1 = "exports/export_receipt.json"

variable {env : EvidenceEnv} {bundleId e : ℕ} {row : EvidenceBundle} {request : ExportRequest}
  {policy : Option RedactionPolicy} {source entries : List (String × Bytes)} {summary : Json}
  {contents : ExportContents}

theorem applyRedactionPolicy_byPath (h : FilesByPath source)
    (hredact : applyRedactionPolicy source policy = .ok (entries, summary)) : FilesByPath entries := by
  cases policy with
  | none =>
    obtain ⟨rfl, -⟩ := Prod.mk.inj (Except.ok.inj hredact)
    exact h
  | some policy =>
    simp only [applyRedactionPolicy, except_bind_ok] at hredact
    obtain ⟨effect, -, hredact⟩ := hredact
    obtain ⟨rfl, -⟩ := Prod.mk.inj (Except.ok.inj hredact)
    refine List.Pairwise.filterMap _ (fun a b hlt x hx y hy => ?_) h
    obtain ⟨_, -, rfl⟩ := Option.map_eq_some_iff.1 hx
    obtain ⟨_, -, rfl⟩ := Option.map_eq_some_iff.1 hy
    exact hlt

theorem canonicalChecksumsBytes_ok {bytes : Bytes}
    (h : canonicalChecksumsBytes env files = .ok bytes) :
    bytes = (files.filter (·.1 ≠ "checksums.sha256")).flatMap (checksumLine env) := by
  simp only [canonicalChecksumsBytes, except_bind_ok] at h
  obtain ⟨_, -, h⟩ := h
  exact (Except.ok.inj h).symm

theorem buildExport_ok (hsource : FilesByPath source)
    (h : buildExport env bundleId e row request policy source = .ok (files, contents)) :
    DescribesItself env row policy.isSome files contents ∧
      (policy = none → ∀ file, isOwn file = false → (file ∈ files ↔ file ∈ source)) := by
  simp only [buildExport, except_bind_ok, deterministicZipBytes] at h
  obtain ⟨⟨entries, summary⟩, hredact, checksums, hchecksums, zipBytes, ⟨_, -, hzip⟩, h⟩ := h
  obtain ⟨rfl, rfl⟩ := Prod.mk.inj (Except.ok.inj h)
  obtain rfl := Except.ok.inj hzip
  obtain rfl := canonicalChecksumsBytes_ok hchecksums
  have hentries : FilesByPath entries := applyRedactionPolicy_byPath hsource hredact
  have hmanifestPath : "manifest.json" ≠ "checksums.sha256" := by decide
  have hreceiptPath : "exports/export_receipt.json" ≠ "manifest.json" ∧
    "exports/export_receipt.json" ≠ "checksums.sha256" := by decide
  -- the receipt first, the manifest over it, and the checksums over both
  have hreceipt := hentries.addFile "exports/export_receipt.json"
    (canonicalJsonBytes (exportReceipt env bundleId e row request policy summary))
  have hmanifest := hreceipt.addFile "manifest.json"
    (canonicalJsonBytes (exportManifest env bundleId e row request policy summary
      (env.sha256 (canonicalJsonBytes (exportReceipt env bundleId e row request policy summary)))
      (addFile "exports/export_receipt.json"
        (canonicalJsonBytes (exportReceipt env bundleId e row request policy summary)) entries)))
  refine ⟨⟨hmanifest.addFile _ _, rfl, ?_, ?_, rfl, ?_, ?_, rfl, rfl, rfl, rfl, rfl⟩, ?_⟩
  · rw [filter_addFile hmanifest fun x hx => by simp [hx]]
    exact (mem_addFile hmanifest).2 (.inl rfl)
  · exact (mem_addFile hmanifest).2 (.inr ⟨(mem_addFile hreceipt).2 (.inl rfl), hmanifestPath⟩)
  · have hlisted (checksums : Bytes) : (addFile "checksums.sha256" checksums _).filter isListed = _ :=
      (filter_addFile hmanifest fun x hx => by simp [isListed, hx]).trans
        (filter_addFile hreceipt fun x hx => by simp [isListed, hx])
    rw [hlisted]
    rfl
  · exact (mem_addFile hmanifest).2 (.inr ⟨(mem_addFile hreceipt).2 (.inr
      ⟨(mem_addFile hentries).2 (.inl rfl), hreceiptPath.1⟩), hreceiptPath.2⟩)
  · rintro rfl file hown
    obtain ⟨rfl, -⟩ := Prod.mk.inj (Except.ok.inj hredact)
    simp only [isOwn, Bool.or_eq_false_iff, decide_eq_false_iff_not] at hown
    obtain ⟨⟨hnotManifest, hnotChecksums⟩, hnotReceipt⟩ := hown
    rw [mem_addFile hmanifest, mem_addFile hreceipt, mem_addFile hentries]
    constructor
    · rintro (rfl | ⟨rfl | ⟨rfl | ⟨hmem, -⟩, -⟩, -⟩)
      · exact absurd rfl hnotChecksums
      · exact absurd rfl hnotManifest
      · exact absurd rfl hnotReceipt
      · exact hmem
    · exact fun hmem => .inr ⟨.inr ⟨.inr ⟨hmem, hnotReceipt⟩, hnotManifest⟩, hnotChecksums⟩

/-- **An export describes itself**: the checksums have a line for every other file, by path; the
entries of the manifest are the other files but the checksums; the receipt is the one that is
recorded; and without a policy every other file is the one of the sealed package. -/
theorem export_describes_itself (env : EvidenceEnv)
    (unzip : Bytes → Except Err (List (String × Bytes))) {content : Bytes}
    (h : exportTransform env unzip bundleId row request policy e content = .ok contents) :
    ∃ archive files, unzip content = .ok archive ∧
      DescribesItself env row policy.isSome files contents ∧
      (policy = none → ∀ file, isOwn file = false →
        (file ∈ files ↔ file ∈ loadZipEntries archive)) ∧
      ∀ d key, (readyRow env d request row key contents).contentSha256 = env.sha256 (env.zip files) ∧
        (readyRow env d request row key contents).manifest = contents.manifest ∧
        (readyRow env d request row key contents).receiptSha256 =
          env.sha256 (canonicalJsonBytes contents.receipt) ∧
        (readyRow env d request row key contents).sourceManifestSha256 = row.manifestSha256 ∧
        (readyRow env d request row key contents).sourceBundleContentSha256 = row.contentSha256 := by
  simp only [exportTransform, except_bind_ok] at h
  obtain ⟨archive, harchive, ⟨files, contents'⟩, hbuild, h⟩ := h
  obtain rfl := Except.ok.inj h
  obtain ⟨hdescribes, hsame⟩ := buildExport_ok (filesByPath_loadZipEntries archive) hbuild
  refine ⟨archive, files, harchive, hdescribes, hsame, fun d key => ⟨?_, rfl, ?_, rfl, rfl⟩⟩
  · rw [← hdescribes.archive]
    rfl
  · rw [← hdescribes.receiptSha256]
    rfl

/-- A request for an export. -/
def ExportRequest.sample : ExportRequest where
  bundle := 0
  requestedAt := 0
  readyAt := 0
  transform _ _ := .error .integrity

/-- A bundle whose package has one section. -/
def sectionBundle : EvidenceBundle where
  organization := 0
  changeRecord := 0
  version := 1
  sourceCutoffAt := 0
  compiledAt := 0

/-- The archive of the package. -/
def sectionArchive (_ : Bytes) : Except Err (List (String × Bytes)) :=
  .ok [("audit/audit_trail.ndjson", [123, 125, 10]), ("checksums.sha256", []), ("manifest.json", [])]

theorem export_describes_itself_section : ∃ archive files contents,
    sectionArchive [] = .ok archive ∧
      DescribesItself .sample sectionBundle false files contents ∧
      ("audit/audit_trail.ndjson", [123, 125, 10]) ∈ files := by
  have hchecked : (exportTransform .sample sectionArchive 0 sectionBundle .sample none 0 []).isOk =
      true := by decide
  obtain ⟨contents, h⟩ := exists_eq_ok hchecked
  obtain ⟨archive, files, harchive, hdescribes, hsame, -⟩ :=
    export_describes_itself .sample sectionArchive h
  refine ⟨archive, files, contents, harchive, hdescribes, (hsame rfl _ (by decide)).2 ?_⟩
  obtain rfl := Except.ok.inj harchive
  decide

end RunbookPlatform
