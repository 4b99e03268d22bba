import RunbookPlatform.Evidence.Files

/-!
# Legal holds

Holds are placed and released, and expired files are deleted, by any number of sessions at once.
All of them lock the change: a hold is committed before a cleanup has looked for holds, or after it
is through.

## Main definitions

- `EvidenceOp.aboutHolds` — the calls
- `HoldsBeside` — what a session leaves to another
- `HoldSound` — the invariant of a session

## Main results

- `legal_hold_wins`
-/

namespace RunbookPlatform

open Transactional Sessions

variable {env : EvidenceEnv} {d d' : EvidenceDb} {held : List EvidenceLock}
  {pending : List EvidenceWrite}

/-- The calls that place holds, release them or look for them. -/
def EvidenceOp.aboutHolds : EvidenceOp → Bool
  | createLegalHold _ _ _ _ _ | releaseLegalHold _ _ _ _ | cleanupBundle _ _ | cleanupExport _ _ =>
    true
  | _ => false

/-- What these calls save. A hold is placed on a bundle, under the locks of the bundle and of its
change. -/
def EvidenceWrite.Fits (held : List EvidenceLock) : EvidenceWrite → Prop
  | createHold row =>
    .change row.changeRecord ∈ held ∧ (∃ b, row.evidenceBundle = some b ∧ .bundle b ∈ held) ∧
      row.evidenceExport = none
  | releaseHold _ row => row.status = .released
  | deleteBundleStorage _ _ | deleteExportStorage _ _ | emit _ _ => True
  | _ => False

-- ════════════════════════════════════════════════════════════════════════
-- Beside other sessions
-- ════════════════════════════════════════════════════════════════════════

/-- What a session leaves to one that holds the locks `theirs`. -/
structure HoldsBeside (theirs : List EvidenceLock) (d d' : EvidenceDb) : Prop where
  keys : ∀ o, (d'.fileOf o).map (·.storageKey) = (d.fileOf o).map (·.storageKey)
  targets : ∀ o, d'.targetOf o = d.targetOf o
  /-- A hold that is active was so, as it is. -/
  holds : d.holds.Evolves (fun old new => new.status = .active → new = old) d'.holds
  /-- No hold is placed on what is locked. -/
  clear : ∀ target, .change target.change ∈ theirs → .bundle target.bundle ∈ theirs →
    findActiveLegalHold d target = none → findActiveLegalHold d' target = none

namespace HoldsBeside

variable {theirs : List EvidenceLock}

theorem refl (theirs : List EvidenceLock) (d : EvidenceDb) : HoldsBeside theirs d d :=
  ⟨fun _ => rfl, fun _ => rfl, .refl (fun _ _ => rfl) _, fun _ _ _ h => h⟩

theorem trans {d1 d2 d3 : EvidenceDb} (h1 : HoldsBeside theirs d1 d2)
    (h2 : HoldsBeside theirs d2 d3) : HoldsBeside theirs d1 d3 where
  keys o := (h2.keys o).trans (h1.keys o)
  targets o := (h2.targets o).trans (h1.targets o)
  holds := by
    refine h1.holds.trans (fun a b c hab hbc hactive => ?_) h2.holds
    have hcb := hbc hactive
    exact hcb.trans (hab (hcb ▸ hactive))
  clear target hchange hbundle hnone :=
    h2.clear target hchange hbundle (h1.clear target hchange hbundle hnone)

theorem keysOwn (h : HoldsBeside theirs d d') (hkeys : d.KeysOwn) : d'.KeysOwn := by
  intro o file key hfile hkey
  have hsame := h.keys o
  rw [hfile, Option.map_some, hkey] at hsame
  obtain ⟨old, hold, hkey'⟩ := Option.map_eq_some_iff.1 hsame.symm
  exact hkeys o old key hold hkey'

/-- A save that only marks a file as deleted. -/
theorem marked (hbundles : ∀ i, (d'.bundles.get? i).map (fun row => (row.storageKey, row.changeRecord)) =
      (d.bundles.get? i).map fun row => (row.storageKey, row.changeRecord))
    (hexports : ∀ e, (d'.exports.get? e).map (fun row => (row.storageKey, row.bundle)) =
      (d.exports.get? e).map fun row => (row.storageKey, row.bundle))
    (hholds : d'.holds = d.holds) : HoldsBeside theirs d d' where
  keys o := by
    cases o with
    | bundle i => simpa [EvidenceDb.fileOf, Function.comp_def] using congrArg (Option.map Prod.fst) (hbundles i)
    | archive e => simpa [EvidenceDb.fileOf, Function.comp_def] using congrArg (Option.map Prod.fst) (hexports e)
  targets := by
    refine EvidenceDb.targetOf_congr (fun i => ?_) fun e => ?_
    · simpa [Function.comp_def] using congrArg (Option.map Prod.snd) (hbundles i)
    · simpa [Function.comp_def] using congrArg (Option.map Prod.snd) (hexports e)
  holds := by
    rw [hholds]
    exact .refl (fun _ _ => rfl) _
  clear target _ _ hnone := by
    rw [findActiveLegalHold, hholds]
    exact hnone

end HoldsBeside

/-- A hold on another change covers nothing of this one. -/
theorem Target.covers_of_unlocked {target : Target} {row : LegalHold} {theirs : List EvidenceLock}
    (hfits : (EvidenceWrite.createHold row).Fits held) (hdisjoint : ∀ lock ∈ held, lock ∉ theirs)
    (hchange : .change target.change ∈ theirs) (hbundle : .bundle target.bundle ∈ theirs) :
    target.covers row = false := by
  obtain ⟨hrow, ⟨b, hb, hlocked⟩, harchive⟩ := hfits
  have hne : row.changeRecord ≠ target.change := fun h => hdisjoint _ hrow (h ▸ hchange)
  have hne' : b ≠ target.bundle := fun h => hdisjoint _ hlocked (h ▸ hbundle)
  cases htarget : target.archive <;> simp [covers, hne, hb, hne', harchive, htarget]

/-- **A save** of these calls leaves to other sessions what they rely on. -/
theorem EvidenceWrite.Fits.beside {w : EvidenceWrite} {theirs : List EvidenceLock}
    (h : w.Fits held) (hdisjoint : ∀ row ∈ held, row ∉ theirs) :
    HoldsBeside theirs d (w.apply env d) := by
  cases w with
  | createHold row =>
    refine ⟨fun _ => rfl, fun _ => rfl, .insert (fun _ _ => rfl) _ _, ?_⟩
    intro target hchange hbundle hnone
    refine Table.find?_none.2 fun i hold hhold => ?_
    change (d.holds.insert row).get? i = some hold at hhold
    rw [Table.get?_insert] at hhold
    split_ifs at hhold
    · cases hhold
      rw [Target.covers_of_unlocked h hdisjoint hchange hbundle, Bool.false_and]
    · exact Table.find?_none.1 hnone i hold hhold
  | releaseHold i row =>
    have hreleased : ¬ row.status = .active := by
      rw [show row.status = .released from h]
      decide
    refine ⟨fun _ => rfl, fun _ => rfl,
      .modify (fun _ _ => rfl) (fun _ hactive => absurd hactive hreleased) _ _, ?_⟩
    intro target _ _ hnone
    refine Table.find?_none.2 fun j hold hhold => ?_
    change (d.holds.modify i fun _ => row).get? j = some hold at hhold
    by_cases hj : j = i
    · subst hj
      rw [Table.get?_modify_self] at hhold
      obtain ⟨-, -, rfl⟩ := Option.map_eq_some_iff.1 hhold
      simp [hreleased]
    · rw [Table.get?_modify_of_ne hj] at hhold
      exact Table.find?_none.1 hnone j hold hhold
  | deleteBundleStorage b now =>
    refine .marked (fun i => Table.map_get?_modify (fun row => ?_) d.bundles b i) (fun _ => rfl) rfl
    rfl
  | deleteExportStorage e now =>
    refine .marked (fun _ => rfl) (fun i => Table.map_get?_modify (fun row => ?_) d.exports e i) rfl
    rfl
  | emit => exact .marked (fun _ => rfl) (fun _ => rfl) rfl
  | _ => exact h.elim

/-- **A commit** of such saves. -/
theorem HoldsBeside.view {theirs : List EvidenceLock} {start : EvidenceOp → Bool}
    (hpending : ∀ w ∈ pending, w.Fits held) (hdisjoint : ∀ row ∈ held, row ∉ theirs) :
    HoldsBeside theirs d ((evidenceMachine env start).view d pending) := by
  induction pending generalizing d with
  | nil => exact .refl theirs d
  | cons w rest ih =>
    have hfirst : HoldsBeside theirs d (w.apply env d) :=
      (hpending w List.mem_cons_self).beside hdisjoint
    exact hfirst.trans (ih fun w hw => hpending w (List.mem_cons_of_mem _ hw))

-- ════════════════════════════════════════════════════════════════════════
-- Sessions
-- ════════════════════════════════════════════════════════════════════════

/-- A cleanup holds the locks of its row, knows what covers it, and names no other file. -/
structure CleanupRow.Ready (locked : CleanupRow) (d : EvidenceDb) (held : List EvidenceLock) :
    Prop where
  owner : ∀ key, locked.storageKey = some key → key.owner = locked.owner
  target : d.targetOf locked.owner = some locked.target
  locked : ∀ row ∈ locked.locks, row ∈ held

/-- What a position of these calls relies on. -/
def EvidencePos.Heeds (d : EvidenceDb) (held : List EvidenceLock) (pending : List EvidenceWrite) :
    EvidencePos → Prop
  | call op => op.aboutHolds = true ∧ pending = []
  | save w _ => w.Fits held
  | holdCheck locked _ => locked.Ready d held ∧ pending = []
  | delete locked _ => locked.Ready d held ∧ findActiveLegalHold d locked.target = none
  | saved _ | emit _ | emitted | deleted _ _ | deleting _ _ | cleaned _ | blocked _ |
    blockedEmit _ | blockedEmitted | failed _ | raised _ | done => True
  | _ => False

/-- The invariant of a session of these calls. -/
structure HoldSound (d : EvidenceDb) (s : EvidenceSession) : Prop where
  heeds : s.pos.Heeds d s.held s.pending
  fits : ∀ w ∈ s.pending, w.Fits s.held

/-- Saves of others leave the invariant of a session. -/
theorem HoldSound.beside {s : EvidenceSession} (hs : HoldSound d s) (h : HoldsBeside s.held d d') :
    HoldSound d' s where
  heeds := by
    obtain ⟨pos, pending, held⟩ := s
    have hheeds := hs.heeds
    cases pos with
    | holdCheck locked now =>
      obtain ⟨⟨howner, htarget, hlocked⟩, hpending⟩ := hheeds
      exact ⟨⟨howner, (h.targets _).trans htarget, hlocked⟩, hpending⟩
    | delete locked now =>
      obtain ⟨⟨howner, htarget, hlocked⟩, hnone⟩ := hheeds
      obtain ⟨hchange, hbundle⟩ := locked.target_locked
      exact ⟨⟨howner, (h.targets _).trans htarget, hlocked⟩,
        h.clear _ (hlocked _ hchange) (hlocked _ hbundle) hnone⟩
    | _ => exact hheeds
  fits := hs.fits

namespace HoldSound

variable {s : EvidenceSession} {pos : EvidencePos}

theorem rests (h : pos.Heeds d held []) : HoldSound d ⟨pos, [], held⟩ := ⟨h, by simp⟩

theorem failed (e : Err) : HoldSound d ⟨.failed e, [], held⟩ := rests trivial

/-- A session after one more save. -/
theorem written {w : EvidenceWrite} {next : EvidencePos} (h : HoldSound d ⟨pos, pending, held⟩)
    (hw : w.Fits held) (hnext : next.Heeds d held (pending ++ [w])) :
    HoldSound d ⟨next, pending ++ [w], held⟩ := by
  refine ⟨hnext, fun write hwrite => ?_⟩
  rcases List.mem_append.1 hwrite with hwrite | hwrite
  · exact h.fits write hwrite
  · rw [List.mem_singleton.1 hwrite]
    exact hw

theorem goOn {α : Type} {guarded : Except Err α} {next : α → EvidencePos}
    (h : ∀ a, guarded = .ok a → HoldSound d ⟨next a, [], held⟩) :
    HoldSound d ⟨goOn guarded next, [], held⟩ :=
  goOn_elim (p := fun pos => HoldSound d ⟨pos, [], held⟩) failed h

/-- A statement that locks a row with its related rows, if there is one, and goes on with it. -/
theorem lockRow {α : Type} {locks : α → List EvidenceLock} {model : String} {row : Option α}
    {next : α → EvidencePos}
    (h : ∀ a, row = some a → HoldSound d ⟨next a, [], locks a ++ held⟩) :
    HoldSound d ⟨goOnWith model row next, [], row.elim [] locks ++ held⟩ := by
  cases row with
  | none => exact failed _
  | some a => exact h a rfl

/-- The start of a cleanup. -/
theorem cleanup {o : FileOwner} {model : String} {now : Time} (hkeys : d.KeysOwn) :
    HoldSound d ⟨goOnWith model (d.toClean o) fun locked =>
      if locked.storageDeletedAt.isSome then .saved none
      else RunbookPlatform.goOn (locked.checkExpired now) fun _ => .holdCheck locked now, [],
      (d.toClean o).elim [] CleanupRow.locks ++ held⟩ := by
  refine lockRow fun locked hrow => ?_
  obtain ⟨howner, -⟩ := EvidenceDb.toClean_owner hrow
  have hready : locked.Ready d (locked.locks ++ held) :=
    ⟨fun key hkey => hkeys.owner hrow hkey,
      by rw [howner, EvidenceDb.targetOf, hrow, Option.map_some],
      fun row hlocked => List.mem_append_left _ hlocked⟩
  split_ifs
  · exact rests trivial
  · exact goOn fun _ _ => rests ⟨hready, rfl⟩

/-- The first statement of a call. -/
theorem call {op : EvidenceOp} (w : EvidenceFiles) (hkeys : d.KeysOwn) (hop : op.aboutHolds = true) :
    HoldSound d ((evidenceMachine env EvidenceOp.aboutHolds).advance d w ⟨.call op, [], held⟩).2.2 := by
  cases op with
  | createLegalHold b reason externalReference placedBy now =>
    unfold Machine.advance
    simp only [evidenceMachine, EvidencePos.stmt, EvidenceOp.stmt]
    split_ifs
    · exact failed _
    · refine lockRow fun row _ => goOn fun _ _ => rests ⟨?_, ⟨b, rfl, ?_⟩, rfl⟩
      · simp [holdRow, EvidenceBundle.locks]
      · simp [EvidenceBundle.locks]
  | releaseLegalHold i releasedBy reason now =>
    unfold Machine.advance
    simp only [evidenceMachine, EvidencePos.stmt, EvidenceOp.stmt]
    split_ifs
    · exact failed _
    · refine lockRow fun row _ => goOn fun _ _ => rests ?_
      exact (rfl : (row.release releasedBy reason now).status = .released)
  | cleanupBundle b now => exact cleanup (o := .bundle b) hkeys
  | cleanupExport e now => exact cleanup (o := .archive e) hkeys
  | _ => cases hop

/-- **Each statement** keeps the keys of the rows and the invariant of its session. -/
theorem advance (w : EvidenceFiles) (hkeys : d.KeysOwn) (h : HoldSound d s) :
    ((evidenceMachine env EvidenceOp.aboutHolds).advance d w s).1.KeysOwn ∧
      HoldSound ((evidenceMachine env EvidenceOp.aboutHolds).advance d w s).1
        ((evidenceMachine env EvidenceOp.aboutHolds).advance d w s).2.2 := by
  obtain ⟨pos, pending, held⟩ := s
  have hheeds := h.heeds
  have hview : HoldsBeside [] d ((evidenceMachine env EvidenceOp.aboutHolds).view d pending) :=
    .view h.fits fun _ _ => List.not_mem_nil
  have hcommit := hview.keysOwn hkeys
  cases pos with
  | call op =>
    obtain ⟨hop, rfl⟩ := hheeds
    have hdb : ((evidenceMachine env EvidenceOp.aboutHolds).advance d w
        ⟨.call op, [], held⟩).1 = d := by
      rcases (evidenceMachine env EvidenceOp.aboutHolds).advance_db d w ⟨.call op, [], held⟩ with
        h | ⟨-, h⟩
      · exact h
      · exact h
    rw [hdb]
    exact ⟨hkeys, call w hkeys hop⟩
  | save write event => exact ⟨hkeys, h.written hheeds trivial⟩
  | emit | blockedEmit => exact ⟨hkeys, h.written trivial trivial⟩
  | deleting locked now =>
    refine ⟨hkeys, h.written ?_ trivial⟩
    cases locked <;> trivial
  | saved event =>
    refine ⟨hcommit, ?_⟩
    cases event with
    | none => exact rests trivial
    | some event => exact rests trivial
  | emitted | cleaned | blockedEmitted => exact ⟨hcommit, rests trivial⟩
  | blocked | failed => exact ⟨hkeys, rests trivial⟩
  | holdCheck locked now =>
    obtain ⟨hready, rfl⟩ := hheeds
    refine ⟨hkeys, ?_⟩
    simp only [Machine.advance, evidenceMachine, EvidencePos.stmt, Machine.view_nil]
    split
    · exact rests trivial
    · rename_i hnone
      exact rests ⟨hready, hnone⟩
  | delete locked now => exact ⟨hkeys, trivial, h.fits⟩
  | deleted locked now =>
    exact ⟨hkeys, goOn_elim (p := fun pos => HoldSound d ⟨pos, pending, held⟩)
      (fun _ => ⟨trivial, h.fits⟩) fun _ _ => ⟨trivial, h.fits⟩⟩
  | raised | done => exact ⟨hkeys, h⟩
  | _ => exact hheeds.elim

/-- What a statement of a session leaves to a session with other locks. -/
theorem others (w : EvidenceFiles) (theirs : List EvidenceLock) (h : HoldSound d s)
    (hdisjoint : ∀ row ∈ s.held, row ∉ theirs) :
    HoldsBeside theirs d ((evidenceMachine env EvidenceOp.aboutHolds).advance d w s).1 := by
  rcases (evidenceMachine env EvidenceOp.aboutHolds).advance_db d w s with hsame | ⟨-, hcommit⟩
  · rw [hsame]
    exact .refl theirs d
  · rw [hcommit]
    exact .view h.fits hdisjoint

theorem rescued (h : HoldSound d s) : HoldSound d ⟨s.pos.rescue, [], held⟩ := by
  obtain ⟨pos, pending, held'⟩ := s
  have hheeds := h.heeds
  cases pos with
  | call | save | saved | emit | emitted | holdCheck | delete | deleted | deleting | cleaned |
    blocked | blockedEmit | blockedEmitted | failed | raised | done => exact rests trivial
  | _ => exact hheeds.elim

/-- **A file is only deleted** at the end of a cleanup that has found no hold on it. -/
theorem deletes {key : StorageKey} {target : Target} {i : ℕ} {hold : LegalHold} (w : EvidenceFiles)
    (h : HoldSound d s) (htarget : d.targetOf key.owner = some target)
    (hhold : d.holds.get? i = some hold) (hactive : hold.status = .active)
    (hcovers : target.covers hold = true) :
    ((evidenceMachine env EvidenceOp.aboutHolds).advance d w s).2.1 key = w key := by
  obtain ⟨pos, pending, held⟩ := s
  have hheeds := h.heeds
  cases pos with
  | delete locked now =>
    obtain ⟨hready, hnone⟩ := hheeds
    have hother : locked.storageKey ≠ some key := by
      intro hkey
      rw [hready.owner key hkey, hready.target] at htarget
      cases htarget
      have hinactive := Table.find?_none.1 hnone i hold hhold
      simp [hcovers, hactive] at hinactive
    change locked.storageKey.elim w w.delete key = w key
    cases hkey : locked.storageKey with
    | none => rfl
    | some key' =>
      have hne : key ≠ key' := fun heq => hother (heq ▸ hkey)
      exact if_neg hne
  | call op =>
    obtain ⟨hop, -⟩ := hheeds
    cases op with
    | createLegalHold b reason externalReference placedBy now =>
      simp only [Machine.advance, evidenceMachine, EvidencePos.stmt, EvidenceOp.stmt]
      split_ifs <;> rfl
    | releaseLegalHold i releasedBy reason now =>
      simp only [Machine.advance, evidenceMachine, EvidencePos.stmt, EvidenceOp.stmt]
      split_ifs <;> rfl
    | cleanupBundle | cleanupExport => rfl
    | _ => cases hop
  | saved | save | emit | emitted | holdCheck | deleted | deleting | cleaned | blocked |
    blockedEmit | blockedEmitted | failed | raised | done => rfl
  | _ => exact hheeds.elim

end HoldSound

-- ════════════════════════════════════════════════════════════════════════
-- Runs
-- ════════════════════════════════════════════════════════════════════════

/-- The discipline of these calls. -/
def holdDiscipline (env : EvidenceEnv) :
    Discipline (evidenceMachine env EvidenceOp.aboutHolds) everyOrder fun d _ => d.KeysOwn where
  Inv d _ := d.KeysOwn
  Ok d _ s := HoldSound d s
  Apart := Machine.Disjoint
  symm h row ht hs := h row hs ht
  initial h := h
  started {d w p} hp := by
    cases p with
    | call op => exact ⟨.rests ⟨hp, rfl⟩, fun t row hrow => nomatch hrow⟩
    | _ => cases hp
  advance {d w s} hinv h := h.advance w hinv
  others {d w s t} _ hs ht hdisjoint hblocked _ :=
    ⟨ht.beside (hs.others w t.held hdisjoint), hdisjoint.advance hblocked⟩
  raised {d w s} _ h _ := ⟨h.rescued, fun t _ row hrow => nomatch hrow⟩

/-- **Legal hold wins.** Holds are placed and released and expired files deleted by any number of
sessions in any order, and any of them may fail or die at any statement: as long as a hold is
active, the file of a bundle or an export that it covers is as it was. -/
theorem legal_hold_wins
    {c : Config EvidenceDb EvidenceLock EvidenceWrite EvidenceFiles EvidencePos}
    (h : (evidenceMachine env EvidenceOp.aboutHolds).Reach everyOrder (fun d _ => d.KeysOwn) c)
    {i : ℕ} {hold : LegalHold} (hhold : c.db.holds.get? i = some hold)
    (hactive : hold.status = .active) {o : FileOwner} {target : Target} {file : FileRow}
    {key : StorageKey} (htarget : c.db.targetOf o = some target)
    (hcovers : target.covers hold = true) (hfile : c.db.fileOf o = some file)
    (hkey : file.storageKey = some key)
    {c' : Config EvidenceDb EvidenceLock EvidenceWrite EvidenceFiles EvidencePos}
    (hsteps : Relation.ReflTransGen ((evidenceMachine env EvidenceOp.aboutHolds).Step everyOrder)
      c c')
    (hstill : (c'.db.holds.get? i).any (·.status = .active) = true) :
    c'.world key = c.world key := by
  have hgood := (holdDiscipline env).holds h
  have howner : key.owner = o := hgood.inv o file key hfile hkey
  -- what holds at every configuration from `c` on
  suffices hlater : c'.db.targetOf o = some target ∧ ∃ later, c'.db.holds.get? i = some later ∧
      (later.status = .active → later = hold ∧ c'.world key = c.world key) by
    obtain ⟨-, later, hlater, hkept⟩ := hlater
    rw [hlater] at hstill
    exact (hkept (by simpa using hstill)).2
  clear hstill
  induction hsteps with
  | refl => exact ⟨htarget, hold, hhold, fun _ => ⟨rfl, rfl⟩⟩
  | @tail c1 c2 hsteps hstep ih =>
    obtain ⟨htarget1, later, hlater, hkept⟩ := ih
    have hgood1 := hgood.steps hsteps
    rcases Machine.step_cases hstep with ⟨p, -, rfl⟩ | ⟨j, s, hj, -, rfl⟩ | ⟨j, s, -, -, rfl⟩ |
      ⟨j, s, -, -, rfl⟩
    · exact ⟨htarget1, later, hlater, hkept⟩
    · have hbeside : HoldsBeside [] c1.db
          ((evidenceMachine env EvidenceOp.aboutHolds).advance c1.db c1.world s).1 :=
        (hgood1.ok j s hj).others c1.world [] fun _ _ => List.not_mem_nil
      obtain ⟨later2, hlater2, hsame⟩ := hbeside.holds i later hlater
      refine ⟨(hbeside.targets o).trans htarget1, later2, hlater2, fun hactive2 => ?_⟩
      obtain rfl := hsame hactive2
      obtain ⟨rfl, hworld⟩ := hkept hactive2
      have hdeletes : ((evidenceMachine env EvidenceOp.aboutHolds).advance c1.db c1.world s).2.1 key =
          c1.world key :=
        (hgood1.ok j s hj).deletes c1.world (howner ▸ htarget1) hlater hactive2 hcovers
      exact ⟨rfl, hdeletes.trans hworld⟩
    · exact ⟨htarget1, later, hlater, hkept⟩
    · exact ⟨htarget1, later, hlater, hkept⟩

/-- A change with an expired bundle, sealed and stored. -/
def oneExpiredBundle : EvidenceDb where
  changes := oneClosedChange.changes
  bundles := ⟨[{ organization := 0
                 changeRecord := 0
                 version := 1
                 sourceCutoffAt := 0
                 compiledAt := 0
                 storageKey := some (.sealedBundle 0 0 0 1)
                 retentionExpiresAt := some 0
                 status := .sealed }]⟩

theorem oneExpiredBundle_keysOwn : oneExpiredBundle.KeysOwn := by
  rintro (i | e) file key hfile hkey
  · obtain ⟨row, hrow, rfl⟩ := Option.map_eq_some_iff.1 hfile
    cases i with
    | zero =>
      cases hrow
      cases hkey
      rfl
    | succ i => cases hrow
  · cases hfile

/-- The file of the bundle. -/
def oneStoredFile : EvidenceFiles :=
  EvidenceFiles.save (.sealedBundle 0 0 0 1) [0] fun _ => none

/-- A hold is placed on the bundle. -/
def holdLabels : List (Label EvidencePos) :=
  .arrive (.call (.createLegalHold 0 "Litigation" "" none 1)) :: evidenceMoves 0 3

/-- Its file is to be deleted. -/
def cleanupLabels : List (Label EvidencePos) :=
  .arrive (.call (.cleanupBundle 0 2)) :: evidenceMoves 1 5

def holdPlaced : Config EvidenceDb EvidenceLock EvidenceWrite EvidenceFiles EvidencePos :=
  ((evidenceMachine .sample EvidenceOp.aboutHolds).runLabels everyOrder holdLabels
    ⟨oneExpiredBundle, oneStoredFile, []⟩).get (by decide)

def cleanupOfHeld : Config EvidenceDb EvidenceLock EvidenceWrite EvidenceFiles EvidencePos :=
  ((evidenceMachine .sample EvidenceOp.aboutHolds).runLabels everyOrder cleanupLabels holdPlaced).get
    (by decide)

theorem legal_hold_wins_cleanup :
    cleanupOfHeld.world (.sealedBundle 0 0 0 1) = holdPlaced.world (.sealedBundle 0 0 0 1) :=
  legal_hold_wins
    (Machine.Reach.runLabels oneExpiredBundle_keysOwn (Option.some_get (by decide)).symm)
    (i := 0) rfl rfl (o := .bundle 0) rfl rfl rfl rfl
    (Machine.steps_of_runLabels (Option.some_get (by decide)).symm) (by decide)

end RunbookPlatform
