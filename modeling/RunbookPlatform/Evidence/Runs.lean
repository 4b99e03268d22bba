import RunbookPlatform.Evidence.Immutable

/-!
# Runs of the evidence services

What each position of a service relies on, and that its statements keep it. The saves that a
session plans or has made are justified, so a commit keeps the tables versioned and lies beside
the other sessions.

## Main definitions

- `EvidencePos.planned`, `EvidencePos.Knows`, `SessionSound` — the invariant of a session
- `evidenceDiscipline`

## Main results

- `commit_sound`, `SessionSound.advance`
- `evidence_immutable_versioned`
-/

namespace RunbookPlatform

open Transactional Sessions

variable {env : EvidenceEnv} {starts : EvidenceOp → Bool} {d d' : EvidenceDb}
  {held : List EvidenceLock} {pending : List EvidenceWrite}

/-- A session of the evidence services. -/
abbrev EvidenceSession := Session EvidenceLock EvidenceWrite EvidencePos

/-- The save that a position is about to make. -/
def EvidencePos.planned : EvidencePos → List EvidenceWrite
  | save write _ => [write]
  | sealing b row => [.sealBundle b row]
  | invalidating b reason invalidatedBy now _ _ => [.invalidateBundle b reason invalidatedBy now]
  | mark b _ => [.markInvalid b]
  | deleting locked now => [locked.write now]
  | _ => []

/-- The position is before a commit. -/
def EvidencePos.commits : EvidencePos → Bool
  | saved _ | emitted | sealed _ _ | sealEmitted _ _ | invalidated _ _ _ | invalidEmitted _ _ _ |
    unchanged _ _ _ | marked _ | cleaned _ | blockedEmitted | exportCreated _ _ _ |
    exportReadied _ _ | exportEmitted _ _ | exportFailed _ => true
  | _ => false

/-- A seal holds the lock of a compiling bundle, and its row will be whole. -/
structure SealReady (d : EvidenceDb) (held : List EvidenceLock) (b : ℕ) (row : EvidenceBundle) :
    Prop where
  locked : .bundle b ∈ held
  compiling : ∃ old, d.bundles.get? b = some old ∧ old.status = .compiling
  status : row.status = .sealed
  complete : row.completenessStatus = .complete
  missing : missingRequired row.items = []
  valid : invalidItems row.items = []

/-- The bundle is invalidated. -/
def EvidenceDb.IsInvalidated (d : EvidenceDb) (b : ℕ) : Prop :=
  ∃ row, d.bundles.get? b = some row ∧ row.status = .invalidated

/-- What a position relies on. -/
def EvidencePos.Knows (d : EvidenceDb) (held : List EvidenceLock) (pending : List EvidenceWrite) :
    EvidencePos → Prop
  | counting change _ _ _ _ => .change change ∈ held
  | chaining change _ latest _ _ _ => .change change ∈ held ∧ latest = d.latestVersion change
  | store b row _ _ | stored b row _ => SealReady d held b row
  | invalidating b _ _ _ _ _ => (d.bundles.get? b).isSome
  | invalidated b _ _ =>
    (d.bundles.get? b).isSome ∧
      ∃ reason invalidatedBy now, pending = [.invalidateBundle b reason invalidatedBy now]
  | invalidEmit b _ _ | invalidEmitted b _ _ | unchanged b _ _ | marking b _ _ => d.IsInvalidated b
  | holdCheck locked _ | delete locked _ | deleted locked _ => ∀ row ∈ locked.locks, row ∈ held
  | _ => True

/-- The invariant of a session. -/
structure SessionSound (d : EvidenceDb) (s : EvidenceSession) : Prop where
  knows : s.pos.Knows d s.held s.pending
  justified : ∀ w ∈ s.pending ++ s.pos.planned, w.Justified d s.held
  single : s.pending.length ≤ 1
  idle : s.pos.commits = false → s.pending = []

-- ════════════════════════════════════════════════════════════════════════
-- What the positions rely on, later
-- ════════════════════════════════════════════════════════════════════════

theorem EvidenceBeside.isSome {theirs : List EvidenceLock} (h : EvidenceBeside theirs d d') {b : ℕ}
    (hb : (d.bundles.get? b).isSome = true) : (d'.bundles.get? b).isSome = true := by
  obtain ⟨row, hrow⟩ := Option.isSome_iff_exists.1 hb
  obtain ⟨row', hrow', -⟩ := h.rows b row hrow
  rw [hrow']
  rfl

theorem EvidenceBeside.isInvalidated {theirs : List EvidenceLock} (h : EvidenceBeside theirs d d')
    {b : ℕ} (hb : d.IsInvalidated b) : d'.IsInvalidated b := by
  obtain ⟨row, hrow, hstatus⟩ := hb
  obtain ⟨row', hrow', hevolves⟩ := h.rows b row hrow
  exact ⟨row', hrow', hevolves.invalidated hstatus⟩

theorem SealReady.later {b : ℕ} {row : EvidenceBundle} (hready : SealReady d held b row)
    (h : EvidenceBeside held d d') : SealReady d' held b row := by
  obtain ⟨old, hold, hstatus⟩ := hready.compiling
  have hcompiling := h.locked b old hready.locked hold (by rw [hstatus]; decide)
  exact { hready with compiling := ⟨old, hcompiling, hstatus⟩ }

/-- Commits of others leave the invariant of a session. -/
theorem SessionSound.beside {s : EvidenceSession} (hinv : d.Versioned) (hinv' : d'.Versioned)
    (hs : SessionSound d s) (h : EvidenceBeside s.held d d') : SessionSound d' s where
  knows := by
    obtain ⟨pos, pending, held⟩ := s
    have hknows := hs.knows
    cases pos with
    | chaining change row latest createdBy now reads =>
      refine ⟨hknows.1, ?_⟩
      rw [hknows.2, hinv.numbered.latestVersion, hinv'.numbered.latestVersion,
        h.changes _ hknows.1]
    | store | stored => exact SealReady.later hknows h
    | invalidating => exact h.isSome hknows
    | invalidated => exact ⟨h.isSome hknows.1, hknows.2⟩
    | invalidEmit | invalidEmitted | unchanged | marking => exact h.isInvalidated hknows
    | _ => exact hknows
  justified w hw := (hs.justified w hw).later hinv hinv' h
  single := hs.single
  idle := hs.idle

-- ════════════════════════════════════════════════════════════════════════
-- Commits
-- ════════════════════════════════════════════════════════════════════════

/-- **A commit** of at most one justified save keeps the invariant of the tables, and lies beside
sessions with other locks. -/
theorem commit_sound (hinv : d.Versioned) (hjustified : ∀ w ∈ pending, w.Justified d held)
    (hsingle : pending.length ≤ 1) :
    ((evidenceMachine env starts).view d pending).Versioned ∧
      ∀ theirs, (∀ row ∈ held, row ∉ theirs) →
        EvidenceBeside theirs d ((evidenceMachine env starts).view d pending) := by
  cases pending with
  | nil => exact ⟨hinv, fun theirs _ => .refl theirs d⟩
  | cons w rest =>
    obtain rfl : rest = [] := List.length_eq_zero_iff.1 (by simpa using hsingle)
    have hw := hjustified w List.mem_cons_self
    exact ⟨hw.versioned hinv, fun theirs hdisjoint => hw.beside hdisjoint⟩

namespace SessionSound

variable {s t : EvidenceSession} {pos : EvidencePos}

/-- A session that has saved nothing. -/
theorem rests (hplanned : pos.planned = []) (hknows : pos.Knows d held []) :
    SessionSound d ⟨pos, [], held⟩ :=
  ⟨hknows, by simp [hplanned], Nat.zero_le _, fun _ => rfl⟩

/-- A session that is about to save. -/
theorem plan {w : EvidenceWrite} (hplanned : pos.planned = [w]) (hknows : pos.Knows d held [])
    (hw : w.Justified d held) : SessionSound d ⟨pos, [], held⟩ :=
  ⟨hknows, by simpa [hplanned] using hw, Nat.zero_le _, fun _ => rfl⟩

/-- A session that has saved. -/
theorem written {w : EvidenceWrite} (hplanned : pos.planned = []) (hcommits : pos.commits = true)
    (hknows : pos.Knows d held [w]) (hw : w.Justified d held) : SessionSound d ⟨pos, [w], held⟩ :=
  ⟨hknows, by simpa [hplanned] using hw, le_refl _, fun h => nomatch hcommits.symm.trans h⟩

theorem failed (e : Err) : SessionSound d ⟨.failed e, [], held⟩ := rests rfl trivial

theorem goOn {α : Type} {guarded : Except Err α} {next : α → EvidencePos}
    (h : ∀ a, guarded = .ok a → SessionSound d ⟨next a, [], held⟩) :
    SessionSound d ⟨goOn guarded next, [], held⟩ :=
  goOn_elim (p := fun pos => SessionSound d ⟨pos, [], held⟩) failed h

theorem goOnWith {α : Type} {model : String} {row : Option α} {next : α → EvidencePos}
    (h : ∀ a, row = some a → SessionSound d ⟨next a, [], held⟩) :
    SessionSound d ⟨goOnWith model row next, [], held⟩ :=
  goOnWith_elim (p := fun pos => SessionSound d ⟨pos, [], held⟩) failed h

theorem branch {c : Prop} [Decidable c] {p q : EvidencePos} (hp : SessionSound d ⟨p, [], held⟩)
    (hq : SessionSound d ⟨q, [], held⟩) : SessionSound d ⟨if c then p else q, [], held⟩ := by
  split_ifs
  · exact hp
  · exact hq

/-- A statement that locks a row with its related rows, if there is one, and goes on with it. -/
theorem lockRow {α : Type} {locks : α → List EvidenceLock} {model : String} {row : Option α}
    {next : α → EvidencePos}
    (h : ∀ a, row = some a → SessionSound d ⟨next a, [], locks a ++ held⟩) :
    SessionSound d ⟨RunbookPlatform.goOnWith model row next, [], row.elim [] locks ++ held⟩ := by
  cases row with
  | none => exact failed _
  | some a => exact h a rfl

-- ════════════════════════════════════════════════════════════════════════
-- Statements
-- ════════════════════════════════════════════════════════════════════════

/-- The row that sealing will save. -/
theorem sealDraft_ok {b : ℕ} {row draft : EvidenceBundle} {zip : Bytes} {sealedBy : Option String}
    {now : Time} {reads : SealReads} (h : sealDraft env d b row sealedBy now reads = .ok (draft, zip)) :
    row.status = .compiling ∧ draft.status = .sealed ∧ draft.completenessStatus = .complete ∧
      missingRequired draft.items = [] ∧ invalidItems draft.items = [] ∧
      draft.storageKey = some (sealedBundleStorageKey b row) ∧
      draft.contentSha256 = env.sha256 zip := by
  simp only [sealDraft, except_bind_ok] at h
  obtain ⟨_, hguard, -, -, package, hpackage, -, -, hdraft⟩ := h
  obtain ⟨items, entries, hentries, hbundle, -⟩ := buildSealedBundlePackage_ok hpackage
  cases hdraft
  simp only [checkSeal, assertNoMissingOrInvalidItems, except_bind_ok, check_ok] at hguard
  obtain ⟨-, hstatus, -, -, -, hmissing, hinvalid⟩ := hguard
  have hcomplete : completenessStatus items = .complete := by
    rw [completenessStatus_congr (payloadEntries_flags hentries)]
    exact completenessStatus_eq_complete.2 ⟨hmissing, hinvalid⟩
  obtain ⟨hmissing', hinvalid'⟩ := completenessStatus_eq_complete.1 hcomplete
  refine ⟨hstatus, rfl, ?_, ?_, ?_, rfl, rfl⟩
  · rw [hbundle]
    exact hcomplete
  · rw [hbundle]
    exact hmissing'
  · rw [hbundle]
    exact hinvalid'

theorem withRetention_columns (now : Time) (row : EvidenceBundle) :
    (row.withRetention d now).status = row.status ∧
      (row.withRetention d now).completenessStatus = row.completenessStatus ∧
      (row.withRetention d now).items = row.items := by
  unfold EvidenceBundle.withRetention
  split <;> exact ⟨rfl, rfl, rfl⟩

/-- A sealed row that passes the constraints has a manifest. -/
theorem checkBundleSave_manifest {b : ℕ} {row : EvidenceBundle} {u : Unit}
    (h : checkBundleSave d b row = .ok u) (hstatus : row.status = .sealed) :
    row.manifestSha256 ≠ "" := by
  simp only [checkBundleSave, EvidenceBundle.checkConstraints, except_bind_ok, check_ok] at h
  obtain ⟨-, -, -, -, -, hsealed, -⟩ := h
  exact (hsealed hstatus).2.1

/-- The mark of an invalidated row that passes the guard. -/
theorem checkBundleSave_mark {b : ℕ} {old row : EvidenceBundle} {u : Unit}
    (h : checkBundleSave d b { row with completenessStatus := .invalid } = .ok u)
    (hold : d.bundles.get? b = some old) (hstatus : old.status = .invalidated) :
    old.manifestSha256 = "" ∨ old.completenessStatus = .invalid := by
  by_cases hmanifest : old.manifestSha256 = ""
  · exact .inl hmanifest
  · simp only [checkBundleSave, EvidenceDb.checkStoredBundle, hold, except_bind_ok] at h
    obtain ⟨_, hsave, -⟩ := h
    have hcontent : old.hasSealedContent = true := by
      simp [EvidenceBundle.hasSealedContent, hstatus, hmanifest]
    have hcolumns := EvidenceBundle.checkSave_sealed hsave hcontent
    exact .inr (congrArg SealedColumns.completenessStatus hcolumns).symm

theorem sealNext {b : ℕ} {row : EvidenceBundle} {sealedBy : Option String} {now later : Time}
    {reads : SealReads} (hrow : d.bundles.get? b = some row) (hlocked : .bundle b ∈ held) :
    SessionSound d ⟨sealNext env d b row sealedBy now later reads, [], held⟩ := by
  unfold RunbookPlatform.sealNext
  cases hdraft : sealDraft env d b row sealedBy now reads with
  | ok draft =>
    obtain ⟨hstatus, hsealed, hcomplete, hmissing, hvalid, -⟩ := sealDraft_ok hdraft
    exact rests rfl ⟨hlocked, ⟨row, hrow, hstatus⟩, hsealed, hcomplete, hmissing, hvalid⟩
  | error e =>
    dsimp only
    split_ifs
    · exact rests rfl trivial
    · exact failed e

/-- The start of a cleanup. -/
theorem cleanup {model : String} {now : Time} {row : Option CleanupRow} :
    SessionSound d ⟨RunbookPlatform.goOnWith model row fun locked =>
      if locked.storageDeletedAt.isSome then .saved none
      else RunbookPlatform.goOn (locked.checkExpired now) fun _ => .holdCheck locked now, [],
      row.elim [] CleanupRow.locks ++ held⟩ := by
  refine lockRow fun locked _ => ?_
  split_ifs
  · exact rests rfl trivial
  · exact goOn fun _ _ => rests rfl fun _ hrow => List.mem_append_left _ hrow

/-- The first statement of a call. -/
theorem call (op : EvidenceOp) (w : EvidenceFiles) :
    SessionSound d ((evidenceMachine env starts).advance d w ⟨.call op, [], held⟩).2.2 := by
  cases op with
  | createBundle change createdBy now reads =>
    exact lockRow fun row _ => goOn fun _ _ => rests rfl List.mem_cons_self
  | sealBundle b sealedBy now later reads =>
    exact lockRow fun row hrow => sealNext hrow List.mem_cons_self
  | invalidateBundle b reason invalidatedBy now => exact goOn fun _ _ => rests rfl trivial
  | createExport request => exact goOnWith fun row _ => goOn fun _ _ => rests rfl trivial
  | createLegalHold b reason externalReference placedBy now =>
    unfold Machine.advance
    simp only [evidenceMachine, EvidencePos.stmt, EvidenceOp.stmt]
    split_ifs
    · exact failed _
    · exact lockRow fun row _ => goOn fun _ _ => plan rfl trivial trivial
  | releaseLegalHold h releasedBy reason now =>
    unfold Machine.advance
    simp only [evidenceMachine, EvidencePos.stmt, EvidenceOp.stmt]
    split_ifs
    · exact failed _
    · exact lockRow fun row _ => goOn fun _ _ => plan rfl trivial trivial
  | cleanupBundle | cleanupExport => exact cleanup

/-- The return of an invalidation. -/
theorem returned {b : ℕ} {row : EvidenceBundle} {defect : Option Err} (h : d.IsInvalidated b) :
    SessionSound d ⟨invalidReturn b row defect, [], held⟩ := by
  cases defect with
  | none => exact rests rfl trivial
  | some e => exact rests rfl h

/-- The save of a sealed bundle. -/
theorem stored {b : ℕ} {row : EvidenceBundle} {now : Time} (h : SealReady d held b row) :
    SessionSound d ⟨match checkBundleSave d b (row.withRetention d now) with
      | .ok _ => .sealing b (row.withRetention d now)
      | .error e => .unsealed b row e, [], held⟩ := by
  obtain ⟨hstatus, hcomplete, hitems⟩ := withRetention_columns (d := d) now row
  split
  · rename_i u hguard
    have hsealed := hstatus.trans h.status
    refine plan rfl trivial ⟨h.locked, h.compiling, hsealed, hcomplete.trans h.complete, ?_, ?_,
      checkBundleSave_manifest hguard hsealed⟩
    · rw [hitems]
      exact h.missing
    · rw [hitems]
      exact h.valid
  · exact rests rfl trivial

/-- **Each statement** keeps the invariant of the tables and of its session. -/
theorem advance (w : EvidenceFiles) (hinv : d.Versioned) (h : SessionSound d s) :
    ((evidenceMachine env starts).advance d w s).1.Versioned ∧
      SessionSound ((evidenceMachine env starts).advance d w s).1
        ((evidenceMachine env starts).advance d w s).2.2 := by
  obtain ⟨pos, pending, held⟩ := s
  have hknows := h.knows
  have hcommit : ((evidenceMachine env starts).view d pending).Versioned ∧
      ∀ theirs, (∀ row ∈ held, row ∉ theirs) →
        EvidenceBeside theirs d ((evidenceMachine env starts).view d pending) :=
    commit_sound hinv (fun w hw => h.justified w (List.mem_append_left _ hw)) h.single
  cases pos with
  | call op =>
    obtain rfl : pending = [] := h.idle rfl
    have hdb : ((evidenceMachine env starts).advance d w ⟨.call op, [], held⟩).1 = d := by
      rcases (evidenceMachine env starts).advance_db d w ⟨.call op, [], held⟩ with h | ⟨-, h⟩
      · exact h
      · exact h
    rw [hdb]
    exact ⟨hinv, call op w⟩
  | counting change row createdBy now reads =>
    obtain rfl : pending = [] := h.idle rfl
    exact ⟨hinv, rests rfl ⟨hknows, rfl⟩⟩
  | chaining change row latest createdBy now reads =>
    obtain rfl : pending = [] := h.idle rfl
    exact ⟨hinv, plan rfl trivial ⟨hknows.1, congrArg (· + 1) hknows.2, rfl⟩⟩
  | save write event =>
    obtain rfl : pending = [] := h.idle rfl
    exact ⟨hinv, written rfl rfl trivial (h.justified write List.mem_cons_self)⟩
  | emit | sealEmit | blockedEmit | exportEmit | exportCreate | exportReady | exportFailing =>
    obtain rfl : pending = [] := h.idle rfl
    exact ⟨hinv, written rfl rfl trivial trivial⟩
  | sealing b row =>
    obtain rfl : pending = [] := h.idle rfl
    exact ⟨hinv, written rfl rfl trivial (h.justified _ List.mem_cons_self)⟩
  | mark b e =>
    obtain rfl : pending = [] := h.idle rfl
    exact ⟨hinv, written rfl rfl trivial (h.justified _ List.mem_cons_self)⟩
  | deleting locked now =>
    obtain rfl : pending = [] := h.idle rfl
    exact ⟨hinv, written rfl rfl trivial (h.justified _ List.mem_cons_self)⟩
  | invalidating b reason invalidatedBy now row defect =>
    obtain rfl : pending = [] := h.idle rfl
    exact ⟨hinv, written rfl rfl ⟨hknows, reason, invalidatedBy, now, rfl⟩
      (h.justified _ List.mem_cons_self)⟩
  | invalidEmit b row defect =>
    obtain rfl : pending = [] := h.idle rfl
    exact ⟨hinv, written rfl rfl hknows trivial⟩
  | saved event =>
    refine ⟨hcommit.1, ?_⟩
    cases event with
    | none => exact rests rfl trivial
    | some event => exact rests rfl trivial
  | emitted | sealed | sealEmitted | marked | cleaned | blockedEmitted | exportReadied |
    exportEmitted | exportFailed => exact ⟨hcommit.1, rests rfl trivial⟩
  | exportCreated request row content =>
    refine ⟨hcommit.1, ?_⟩
    simp only [Machine.advance, evidenceMachine, EvidencePos.stmt]
    split <;> exact rests rfl trivial
  | invalidated b row defect =>
    obtain ⟨hsome, reason, invalidatedBy, now, rfl⟩ := hknows
    obtain ⟨old, hold⟩ := Option.isSome_iff_exists.1 hsome
    refine ⟨hcommit.1, rests rfl ⟨old.invalidate reason invalidatedBy now, ?_, rfl⟩⟩
    change (d.bundles.modify b _).get? b = _
    rw [Table.get?_modify_self, hold]
    rfl
  | invalidEmitted b row defect =>
    exact ⟨hcommit.1, returned ((hcommit.2 [] fun _ _ => List.not_mem_nil).isInvalidated hknows)⟩
  | unchanged b row defect =>
    exact ⟨hcommit.1, returned ((hcommit.2 [] fun _ _ => List.not_mem_nil).isInvalidated hknows)⟩
  | store b row zip now =>
    obtain rfl : pending = [] := h.idle rfl
    exact ⟨hinv, rests rfl hknows⟩
  | stored b row now =>
    obtain rfl : pending = [] := h.idle rfl
    exact ⟨hinv, stored hknows⟩
  | unsealed | discard | defective | blocked | exportStore | exportDiscard | failed =>
    obtain rfl : pending = [] := h.idle rfl
    exact ⟨hinv, rests rfl trivial⟩
  | invalidate b reason invalidatedBy now defect =>
    obtain rfl : pending = [] := h.idle rfl
    refine ⟨hinv, lockRow fun row hrow => ?_⟩
    split_ifs with hstatus
    · exact rests rfl ⟨row, hrow, hstatus⟩
    · exact goOn fun _ _ => plan rfl (Option.isSome_iff_exists.2 ⟨row, hrow⟩)
        List.mem_cons_self
  | marking b row e =>
    obtain rfl : pending = [] := h.idle rfl
    obtain ⟨old, hold, hstatus⟩ := hknows
    exact ⟨hinv, goOn fun _ hguard =>
      plan rfl trivial ⟨old, hold, hstatus, checkBundleSave_mark hguard hold hstatus⟩⟩
  | holdCheck locked now =>
    obtain rfl : pending = [] := h.idle rfl
    refine ⟨hinv, ?_⟩
    simp only [Machine.advance, evidenceMachine, EvidencePos.stmt]
    split
    · exact rests rfl trivial
    · exact rests rfl hknows
  | delete locked now =>
    obtain rfl : pending = [] := h.idle rfl
    exact ⟨hinv, rests rfl hknows⟩
  | deleted locked now =>
    obtain rfl : pending = [] := h.idle rfl
    refine ⟨hinv, goOn fun _ _ => ?_⟩
    cases locked with
    | bundle i row => exact plan rfl trivial (hknows _ List.mem_cons_self)
    | archive e row change => exact plan rfl trivial trivial
  | exportRead request row key =>
    obtain rfl : pending = [] := h.idle rfl
    exact ⟨hinv, goOn fun _ _ => rests rfl trivial⟩
  | exportStored e request row key contents =>
    obtain rfl : pending = [] := h.idle rfl
    refine ⟨hinv, ?_⟩
    simp only [Machine.advance, evidenceMachine, EvidencePos.stmt]
    split <;> exact rests rfl trivial
  | exportFail e error =>
    obtain rfl : pending = [] := h.idle rfl
    exact ⟨hinv, branch (rests rfl trivial) (rests rfl trivial)⟩
  | raised | done => exact ⟨hinv, h⟩

/-- What a statement of a session leaves to a session with other locks. -/
theorem others (w : EvidenceFiles) (theirs : List EvidenceLock) (hinv : d.Versioned)
    (h : SessionSound d s) (hdisjoint : ∀ row ∈ s.held, row ∉ theirs) :
    EvidenceBeside theirs d ((evidenceMachine env starts).advance d w s).1 := by
  rcases (evidenceMachine env starts).advance_db d w s with hsame | ⟨-, hcommit⟩
  · rw [hsame]
    exact .refl theirs d
  · rw [hcommit]
    exact (commit_sound hinv (fun w hw => h.justified w (List.mem_append_left _ hw)) h.single).2
      theirs hdisjoint

theorem rescued (pos : EvidencePos) : SessionSound d ⟨pos.rescue, [], held⟩ := by
  cases pos with
  | _ => exact rests rfl trivial

end SessionSound

-- ════════════════════════════════════════════════════════════════════════
-- Runs
-- ════════════════════════════════════════════════════════════════════════

/-- A database in which no evidence service has been called. -/
def EvidenceDb.Fresh (d : EvidenceDb) (_ : EvidenceFiles) : Prop :=
  d.bundles = .empty ∧ d.exports = .empty ∧ d.holds = .empty

theorem EvidenceDb.Versioned.fresh {w : EvidenceFiles} (h : d.Fresh w) : d.Versioned := by
  have hkeys : ∀ change, d.bundlesOf change = [] := by
    intro change
    rw [EvidenceDb.bundlesOf, h.1]
    rfl
  refine ⟨fun change k b hk => ?_, fun b row hrow => ?_⟩
  · rw [hkeys] at hk
    cases hk
  · rw [h.1] at hrow
    cases hrow

/-- The discipline of the evidence services, whatever their schedule. -/
def evidenceDiscipline (env : EvidenceEnv) (starts : EvidenceOp → Bool)
    (A : Schedule EvidenceLock EvidenceWrite EvidencePos) :
    Discipline (evidenceMachine env starts) A EvidenceDb.Fresh where
  Inv d _ := d.Versioned
  Ok d _ s := SessionSound d s
  Apart s t := Machine.Disjoint s t
  symm h row ht hs := h row hs ht
  initial h := .fresh h
  started {d w p} hp := by
    cases p with
    | call op => exact ⟨.rests rfl trivial, fun t row hrow => nomatch hrow⟩
    | _ => cases hp
  advance {d w s} hinv h := h.advance w hinv
  others {d w s t} hinv hs ht hdisjoint hblocked _ :=
    ⟨ht.beside hinv (hs.advance w hinv).1 (hs.others w t.held hinv hdisjoint),
      hdisjoint.advance hblocked⟩
  raised {d w s} _ _ _ := ⟨.rescued s.pos, fun t _ row hrow => nomatch hrow⟩

/-- The versions of the bundles of each change are the numbers from one to their count, each bundle
names the one before it, and a sealed bundle is complete, with no item missing or invalid. -/
structure VersionedAndComplete (d : EvidenceDb) : Prop where
  versions : ∀ change, (d.bundlesOf change).map d.versionOf =
    List.range' 1 (d.bundlesOf change).length
  previous : ∀ change k b, (d.bundlesOf change)[k]? = some b →
    (d.bundles.get? b).bind (·.previousBundle) = d.predecessor change k
  complete : ∀ b row, d.bundles.get? b = some row → row.status = .sealed →
    row.completenessStatus = .complete ∧
      (∀ item ∈ row.items, (item.required = true → item.present = true) ∧ item.valid = true)

/-- Every bundle is still there; its status has made a move that it can make, and if it was sealed,
its columns and items are as they were. -/
def KeepsSealed (d d' : EvidenceDb) : Prop :=
  ∀ b row, d.bundles.get? b = some row → ∃ later, d'.bundles.get? b = some later ∧
    row.status.CanBecome later.status ∧
    (row.status = .sealed → later.toSealedColumns = row.toSealedColumns ∧ later.items = row.items)

theorem EvidenceDb.Versioned.complete (h : d.Versioned) : VersionedAndComplete d where
  versions change := by
    refine List.ext_getElem (by simp) fun k hk _ => ?_
    rw [List.length_map] at hk
    rw [List.getElem_map, List.getElem_range', h.numbered.versionOf (List.getElem?_eq_getElem hk)]
    omega
  previous change k b hk := by
    obtain ⟨row, hrow, -, hprevious⟩ := h.numbered change k b hk
    rw [hrow]
    exact hprevious
  complete b row hrow hstatus := by
    have hwhole := h.whole b row hrow hstatus
    refine ⟨hwhole.complete, fun item hitem => ⟨fun hrequired => ?_, ?_⟩⟩
    · have hmissing := List.filter_eq_nil_iff.1 hwhole.missing item hitem
      simpa [hrequired] using hmissing
    · have hvalid := List.filter_eq_nil_iff.1 hwhole.valid item hitem
      simpa using hvalid

/-- **Immutable, versioned evidence.** In every run of the evidence services, whatever sessions
overlap and wherever they fail, the bundles of a change are numbered in their order, sealed bundles
are complete, statuses only move forward, and a bundle that is sealed keeps its columns and items
from then on. -/
theorem evidence_immutable_versioned
    {c : Config EvidenceDb EvidenceLock EvidenceWrite EvidenceFiles EvidencePos}
    (h : (evidenceMachine env fun _ => true).Reach everyOrder EvidenceDb.Fresh c) :
    VersionedAndComplete c.db ∧
      ∀ c', Relation.ReflTransGen ((evidenceMachine env fun _ => true).Step everyOrder) c c' →
        KeepsSealed c.db c'.db := by
  have hinv : c.db.Versioned := ((evidenceDiscipline env (fun _ => true) everyOrder).holds h).inv
  refine ⟨hinv.complete, fun c' hsteps => ?_⟩
  let R : EvidenceDb × EvidenceFiles → EvidenceDb × EvidenceFiles → Prop := fun d d' =>
    d.1.bundles.Evolves EvidenceBundle.Evolves d'.1.bundles
  have hpreorder : IsPreorder (EvidenceDb × EvidenceFiles) R :=
    { refl := fun d => .refl EvidenceBundle.Evolves.refl _
      trans := fun _ _ _ => .trans fun _ _ _ => .trans }
  have hevolves : c.db.bundles.Evolves EvidenceBundle.Evolves c'.db.bundles :=
    (evidenceDiscipline env (fun _ => true) everyOrder).evolves (R := R)
      (fun d w s hd hs => (hs.others w [] hd (by simp)).rows) h hsteps
  intro b row hrow
  obtain ⟨later, hlater, hrow'⟩ := hevolves b row hrow
  refine ⟨later, hlater, hrow'.status, fun hsealed => hrow'.frozen ⟨by rw [hsealed]; decide, ?_⟩⟩
  exact (hinv.whole b row hrow hsealed).manifest

/-- Hashes and archives that a run does not look into. -/
def EvidenceEnv.sample : EvidenceEnv where
  sha256 _ := "00"
  zip _ := []
  timestamp _ := ""
  isAlnum _ := true

/-- A closed change, and no bundle. -/
def oneClosedChange : EvidenceDb where
  changes := ⟨[{ organization := 0
                 operationProfile := 0
                 workflow := 0
                 title := "Restart"
                 status := .closed }]⟩

/-- The rows of a change that has everything a bundle needs. -/
def completeReads : SourceReads where
  organization := 0
  change := ⟨0, 0, .obj []⟩
  execution := some (⟨0, 0, .obj []⟩, 0)
  verificationPlan := some ⟨0, 0, .obj []⟩
  closure := some ⟨0, 0, .obj []⟩

def sealReads : SealReads where
  toSourceReads := completeReads
  artifactRow i := ⟨⟨0, 0, none, .file, "", 0, "", "", .available, 0⟩, i, 0, "", "", "", "", 0⟩
  artifactFile _ := none

/-- Session `i` moves `n` times. -/
def evidenceMoves (i n : ℕ) : List (Label EvidencePos) := List.replicate n (.move i)

/-- A bundle is created and sealed. -/
def sealLabels : List (Label EvidencePos) :=
  .arrive (.call (.createBundle 0 none 0 completeReads)) :: evidenceMoves 0 5 ++
  .arrive (.call (.sealBundle 0 none 1 1 sealReads)) :: evidenceMoves 1 7

def sealedRun : Config EvidenceDb EvidenceLock EvidenceWrite EvidenceFiles EvidencePos :=
  ((evidenceMachine .sample fun _ => true).runLabels everyOrder sealLabels
    ⟨oneClosedChange, fun _ => none, []⟩).get (by decide)

theorem evidence_immutable_versioned_sealed :
    VersionedAndComplete sealedRun.db ∧ ∀ c',
      Relation.ReflTransGen ((evidenceMachine .sample fun _ => true).Step everyOrder) sealedRun c' →
        KeepsSealed sealedRun.db c'.db :=
  evidence_immutable_versioned
    (Machine.Reach.runLabels ⟨rfl, rfl, rfl⟩ (Option.some_get (by decide)).symm)

end RunbookPlatform
