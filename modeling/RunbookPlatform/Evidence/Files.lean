import RunbookPlatform.Evidence.Runs

/-!
# Stored files and their rows

A bundle and an export each name the file that they keep. Both are looked at in one way here: by
the owner of a file, with what its row says about the file and what a hold must cover to keep it.

## Main definitions

- `FileOwner`, `StorageKey.owner` — whose file it is
- `EvidenceDb.fileOf`, `EvidenceDb.targetOf` — its row, and what holds are looked for
- `EvidenceDb.toClean` — the row that a cleanup locks
- `EvidenceDb.KeysOwn` — a row names no file but its own
-/

namespace RunbookPlatform

open Transactional Sessions

variable {d : EvidenceDb}

/-- What a file is stored for. -/
inductive FileOwner where
  | bundle (i : ℕ)
  | archive (e : ℕ)
  deriving DecidableEq

/-- The key of a file names its owner. -/
def StorageKey.owner : StorageKey → FileOwner
  | sealedBundle _ _ bundle _ => .bundle bundle
  | exportArchive _ _ _ archive => .archive archive

/-- What a row says about its file. -/
structure FileRow where
  storageKey : Option StorageKey
  contentSha256 : String
  /-- The row is sealed or ready, and its file is not deleted. -/
  kept : Bool

/-- What the row of an owner says about its file. -/
def EvidenceDb.fileOf (d : EvidenceDb) : FileOwner → Option FileRow
  | .bundle i => (d.bundles.get? i).map fun row =>
    { storageKey := row.storageKey
      contentSha256 := row.contentSha256
      kept := row.status = .sealed && row.storageDeletedAt = none }
  | .archive e => (d.exports.get? e).map fun row =>
    { storageKey := row.storageKey
      contentSha256 := row.contentSha256
      kept := row.status = .ready && row.storageDeletedAt = none }

/-- The row that a cleanup of the file locks. -/
def EvidenceDb.toClean (d : EvidenceDb) : FileOwner → Option CleanupRow
  | .bundle i => d.bundleToClean i
  | .archive e => d.exportToClean e

/-- What holds on the file are looked for. -/
def EvidenceDb.targetOf (d : EvidenceDb) (o : FileOwner) : Option Target :=
  (d.toClean o).map CleanupRow.target

/-- A row names no file but its own. -/
def EvidenceDb.KeysOwn (d : EvidenceDb) : Prop :=
  ∀ o file key, d.fileOf o = some file → file.storageKey = some key → key.owner = o

theorem EvidenceDb.targetOf_bundle (d : EvidenceDb) (i : ℕ) :
    d.targetOf (.bundle i) =
      ((d.bundles.get? i).map (·.changeRecord)).map fun change => { change, bundle := i } := by
  simp only [targetOf, toClean, bundleToClean, Option.map_map]
  rfl

theorem EvidenceDb.targetOf_archive (d : EvidenceDb) (e : ℕ) :
    d.targetOf (.archive e) = ((d.exports.get? e).map (·.bundle)).bind fun bundle =>
      ((d.bundles.get? bundle).map (·.changeRecord)).map fun change =>
        { change, bundle, archive := some e } := by
  simp only [targetOf, toClean, exportToClean]
  cases hrow : d.exports.get? e with
  | none => rfl
  | some row => cases hbundle : d.bundles.get? row.bundle <;> simp [hbundle, CleanupRow.target]

/-- The targets are the same when the changes of the bundles and the bundles of the exports are. -/
theorem EvidenceDb.targetOf_congr {d d' : EvidenceDb}
    (hbundles : ∀ i, (d'.bundles.get? i).map (·.changeRecord) =
      (d.bundles.get? i).map (·.changeRecord))
    (hexports : ∀ e, (d'.exports.get? e).map (·.bundle) = (d.exports.get? e).map (·.bundle))
    (o : FileOwner) : d'.targetOf o = d.targetOf o := by
  cases o with
  | bundle i => rw [targetOf_bundle, targetOf_bundle, hbundles]
  | archive e =>
    rw [targetOf_archive, targetOf_archive, hexports]
    simp only [hbundles]

namespace CleanupRow

/-- Whose file a cleanup deletes. -/
def owner : CleanupRow → FileOwner
  | bundle i _ => .bundle i
  | archive e _ _ => .archive e

/-- A cleanup locks the change and the bundle that a hold covers the file by. -/
theorem target_locked (locked : CleanupRow) :
    .change locked.target.change ∈ locked.locks ∧ .bundle locked.target.bundle ∈ locked.locks := by
  cases locked with
  | bundle i row => simp [target, locks, EvidenceBundle.locks]
  | archive e row change => simp [target, locks]

end CleanupRow

/-- What a cleanup locks is the row of the file. -/
theorem EvidenceDb.toClean_owner {o : FileOwner} {locked : CleanupRow}
    (h : d.toClean o = some locked) :
    locked.owner = o ∧ ∃ file, d.fileOf o = some file ∧ file.storageKey = locked.storageKey := by
  cases o with
  | bundle i =>
    obtain ⟨row, hrow, rfl⟩ := Option.map_eq_some_iff.1 h
    exact ⟨rfl, _, congrArg (Option.map _) hrow, rfl⟩
  | archive e =>
    simp only [toClean, exportToClean, Option.bind_eq_bind, Option.bind_eq_some_iff,
      Option.pure_def, Option.some.injEq] at h
    obtain ⟨row, hrow, bundle, -, rfl⟩ := h
    exact ⟨rfl, _, congrArg (Option.map _) hrow, rfl⟩

/-- A cleanup deletes the file of its row. -/
theorem EvidenceDb.KeysOwn.owner {o : FileOwner} {locked : CleanupRow} {key : StorageKey}
    (h : d.KeysOwn) (hrow : d.toClean o = some locked) (hkey : locked.storageKey = some key) :
    key.owner = locked.owner := by
  obtain ⟨rfl, file, hfile, hsame⟩ := EvidenceDb.toClean_owner hrow
  exact h _ file key hfile (hsame.trans hkey)

end RunbookPlatform
