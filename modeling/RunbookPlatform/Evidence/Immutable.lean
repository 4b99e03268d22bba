import RunbookPlatform.Evidence.Services

/-!
# Immutable, versioned bundles

A bundle that was sealed keeps its columns and items, statuses only move forward, the bundles of
a change are numbered in their order, and what is sealed is complete. Each save is justified by
the locks that its session holds and the rows as they are, and the saves of other sessions leave
it so.

## Main definitions

- `EvidenceBundle.Evolves` — what becomes of a row
- `EvidenceDb.Versioned` — the invariant of the tables
- `EvidenceWrite.Justified` — when a save keeps it
- `EvidenceBeside` — what the saves of one session leave to another

## Main results

- `Justified.versioned`, `Justified.beside`
-/

namespace RunbookPlatform

open Transactional Sessions

variable {env : EvidenceEnv} {d d' : EvidenceDb} {held : List EvidenceLock}

-- ════════════════════════════════════════════════════════════════════════
-- Versions
-- ════════════════════════════════════════════════════════════════════════

/-- The largest of consecutive numbers. -/
theorem foldl_max_consecutive {f : ℕ → ℕ} {xs : List ℕ} (h : ∀ k x, xs[k]? = some x → f x = k + 1) :
    xs.foldl (fun m x => max m (f x)) 0 = xs.length := by
  induction xs using List.reverseRecOn with
  | nil => rfl
  | append_singleton xs x ih =>
    have hxs := ih fun k y hk => h k y (by rw [List.getElem?_append_left, hk]; grind)
    have hx := h xs.length x List.getElem?_concat_length
    rw [List.foldl_append, List.foldl_cons, List.foldl_nil, hxs, hx, List.length_append]
    simp

/-- The last of consecutively numbered elements has the largest number. -/
theorem foldl_newest_consecutive {f : ℕ → ℕ} {xs : List ℕ}
    (h : ∀ k x, xs[k]? = some x → f x = k + 1) :
    xs.foldl (fun best x => if best.elim 0 f ≤ f x then some x else best) none = xs.getLast? := by
  induction xs using List.reverseRecOn with
  | nil => rfl
  | append_singleton xs x ih =>
    have hbefore : ∀ k y, xs[k]? = some y → f y = k + 1 := fun k y hk =>
      h k y (by rw [List.getElem?_append_left, hk]; grind)
    have hx := h xs.length x List.getElem?_concat_length
    have hlast : xs.getLast?.elim 0 f ≤ f x := by
      cases hxs : xs.getLast? with
      | none => exact Nat.zero_le _
      | some y =>
        rw [List.getLast?_eq_getElem?] at hxs
        have hy := hbefore _ _ hxs
        have hlt := (List.getElem?_eq_some_iff.1 hxs).1
        rw [Option.elim_some]
        omega
    rw [List.foldl_append, List.foldl_cons, List.foldl_nil, ih hbefore, if_pos hlast,
      List.getLast?_concat]

/-- The bundle before the one with index `k`. -/
def EvidenceDb.predecessor (d : EvidenceDb) (change : ℕ) : ℕ → Option ℕ
  | 0 => none
  | k + 1 => (d.bundlesOf change)[k]?

/-- The bundles of a change are numbered from one in their order, each after its predecessor. -/
def EvidenceDb.Numbered (d : EvidenceDb) : Prop :=
  ∀ change k b, (d.bundlesOf change)[k]? = some b → ∃ row, d.bundles.get? b = some row ∧
    row.version = k + 1 ∧ row.previousBundle = d.predecessor change k

theorem EvidenceDb.Numbered.versionOf (h : d.Numbered) {change k b : ℕ}
    (hk : (d.bundlesOf change)[k]? = some b) : d.versionOf b = k + 1 := by
  obtain ⟨row, hrow, hversion, -⟩ := h change k b hk
  rw [EvidenceDb.versionOf, hrow]
  exact hversion

theorem EvidenceDb.Numbered.latestVersion (h : d.Numbered) (change : ℕ) :
    d.latestVersion change = (d.bundlesOf change).length :=
  foldl_max_consecutive fun _ _ hk => h.versionOf hk

theorem EvidenceDb.Numbered.latestBundle (h : d.Numbered) (change : ℕ) :
    d.latestBundle change = (d.bundlesOf change).getLast? :=
  foldl_newest_consecutive fun _ _ hk => h.versionOf hk

-- ════════════════════════════════════════════════════════════════════════
-- Rows
-- ════════════════════════════════════════════════════════════════════════

/-- A row with sealed content. -/
def EvidenceBundle.Frozen (row : EvidenceBundle) : Prop :=
  row.status ≠ .compiling ∧ row.manifestSha256 ≠ ""

/-- What the saves of the services make of a row. -/
structure EvidenceBundle.Evolves (row later : EvidenceBundle) : Prop where
  change : later.changeRecord = row.changeRecord
  organization : later.organization = row.organization
  version : later.version = row.version
  previous : later.previousBundle = row.previousBundle
  status : row.status.CanBecome later.status
  frozen : row.Frozen → later.toSealedColumns = row.toSealedColumns ∧ later.items = row.items
  terminal : row.status = .invalidated → later.manifestSha256 = row.manifestSha256 ∧
    (row.completenessStatus = .invalid → later.completenessStatus = .invalid)

namespace EvidenceBundle.Evolves

theorem refl (row : EvidenceBundle) : row.Evolves row :=
  ⟨rfl, rfl, rfl, rfl, .same _, fun _ => ⟨rfl, rfl⟩, fun _ => ⟨rfl, id⟩⟩

theorem invalidated {row later : EvidenceBundle} (h : row.Evolves later)
    (hrow : row.status = .invalidated) : later.status = .invalidated := by
  have hmoves := h.status
  rw [hrow] at hmoves
  generalize later.status = status at hmoves
  cases hmoves
  rfl

theorem later_frozen {row later : EvidenceBundle} (h : row.Evolves later) (hrow : row.Frozen) :
    later.Frozen := by
  refine ⟨fun hlater => ?_, ?_⟩
  · have hstatus := h.status
    rw [hlater] at hstatus
    generalize hold : row.status = old at hstatus
    cases hstatus
    exact hrow.1 hold
  · rw [congrArg SealedColumns.manifestSha256 (h.frozen hrow).1]
    exact hrow.2

theorem trans {a b c : EvidenceBundle} (h1 : a.Evolves b) (h2 : b.Evolves c) : a.Evolves c where
  change := h2.change.trans h1.change
  organization := h2.organization.trans h1.organization
  version := h2.version.trans h1.version
  previous := h2.previous.trans h1.previous
  status := h1.status.trans h2.status
  frozen ha := by
    obtain ⟨hcolumns, hitems⟩ := h1.frozen ha
    obtain ⟨hcolumns', hitems'⟩ := h2.frozen (h1.later_frozen ha)
    exact ⟨hcolumns'.trans hcolumns, hitems'.trans hitems⟩
  terminal ha := by
    obtain ⟨hmanifest, hinvalid⟩ := h1.terminal ha
    obtain ⟨hmanifest', hinvalid'⟩ := h2.terminal (h1.invalidated ha)
    exact ⟨hmanifest'.trans hmanifest, hinvalid' ∘ hinvalid⟩

/-- A row that keeps its sealed columns and items. -/
theorem of_columns {row later : EvidenceBundle} (hstatus : row.status.CanBecome later.status)
    (hcolumns : later.toSealedColumns = row.toSealedColumns) (hitems : later.items = row.items) :
    row.Evolves later where
  change := congrArg SealedColumns.changeRecord hcolumns
  organization := congrArg SealedColumns.organization hcolumns
  version := congrArg SealedColumns.version hcolumns
  previous := congrArg SealedColumns.previousBundle hcolumns
  status := hstatus
  frozen _ := ⟨hcolumns, hitems⟩
  terminal _ := ⟨congrArg SealedColumns.manifestSha256 hcolumns,
    (congrArg SealedColumns.completenessStatus hcolumns).trans⟩

theorem saveSealing {row old : EvidenceBundle} (hold : old.status = .compiling)
    (hrow : row.status = .sealed) : old.Evolves (row.saveSealing old) where
  change := rfl
  organization := rfl
  version := rfl
  previous := rfl
  status := by
    change old.status.CanBecome row.status
    rw [hold, hrow]
    exact .sealing
  frozen h := absurd hold h.1
  terminal h := by
    rw [hold] at h
    cases h

theorem invalidate (reason : String) (invalidatedBy : Option String) (now : Time)
    (row : EvidenceBundle) : row.Evolves (row.invalidate reason invalidatedBy now) := by
  refine of_columns ?_ rfl rfl
  change row.status.CanBecome .invalidated
  cases row.status with
  | compiling => exact .abandon
  | sealed => exact .invalidate
  | invalidated => exact .same _

/-- Marking an invalidated row. -/
theorem markInvalid {row : EvidenceBundle}
    (h : row.manifestSha256 = "" ∨ row.completenessStatus = .invalid) :
    row.Evolves { row with completenessStatus := .invalid } := by
  refine ⟨rfl, rfl, rfl, rfl, .same _, fun hfrozen => ?_, fun _ => ⟨rfl, fun _ => rfl⟩⟩
  rcases h with hmanifest | hinvalid
  · exact absurd hmanifest hfrozen.2
  · exact ⟨by rw [← hinvalid], rfl⟩

end EvidenceBundle.Evolves

-- ════════════════════════════════════════════════════════════════════════
-- Saves
-- ════════════════════════════════════════════════════════════════════════

/-- What is sealed is complete. -/
structure EvidenceBundle.Whole (row : EvidenceBundle) : Prop where
  complete : row.completenessStatus = .complete
  missing : missingRequired row.items = []
  valid : invalidItems row.items = []
  manifest : row.manifestSha256 ≠ ""

/-- The invariant of the tables. -/
structure EvidenceDb.Versioned (d : EvidenceDb) : Prop where
  numbered : d.Numbered
  whole : ∀ b row, d.bundles.get? b = some row → row.status = .sealed → row.Whole

/-- A save that is right: its session holds the lock it needs, and the row is as it was read. -/
def EvidenceWrite.Justified (d : EvidenceDb) (held : List EvidenceLock) : EvidenceWrite → Prop
  | createBundle _ change version previous _ _ _ =>
    .change change ∈ held ∧ version = d.latestVersion change + 1 ∧
      previous = d.latestBundle change
  | sealBundle b row =>
    .bundle b ∈ held ∧ (∃ old, d.bundles.get? b = some old ∧ old.status = .compiling) ∧
      row.status = .sealed ∧ row.Whole
  | invalidateBundle b _ _ _ | deleteBundleStorage b _ => .bundle b ∈ held
  | markInvalid b =>
    ∃ old, d.bundles.get? b = some old ∧ old.status = .invalidated ∧
      (old.manifestSha256 = "" ∨ old.completenessStatus = .invalid)
  | _ => True

/-- What a session leaves to one that holds the locks `theirs`. -/
structure EvidenceBeside (theirs : List EvidenceLock) (d d' : EvidenceDb) : Prop where
  rows : d.bundles.Evolves EvidenceBundle.Evolves d'.bundles
  /-- A locked row does not change, once it is invalidated apart. -/
  locked : ∀ b row, .bundle b ∈ theirs → d.bundles.get? b = some row →
    row.status ≠ .invalidated → d'.bundles.get? b = some row
  changes : ∀ change, .change change ∈ theirs → d'.bundlesOf change = d.bundlesOf change

theorem EvidenceBeside.refl (theirs : List EvidenceLock) (d : EvidenceDb) :
    EvidenceBeside theirs d d :=
  ⟨.refl EvidenceBundle.Evolves.refl _, fun _ _ _ hrow _ => hrow, fun _ _ => rfl⟩

/-- A new bundle comes last in its change. -/
theorem bundlesOf_createBundle {organization change version : ℕ} {previous : Option ℕ}
    {createdBy : Option String} {now : Time} {reads : SourceReads} (c : ℕ) :
    ((EvidenceWrite.createBundle organization change version previous createdBy now reads).apply
      env d).bundlesOf c = d.bundlesOf c ++ if change = c then [d.bundles.next] else [] := by
  refine (Table.keys_insert d.bundles _ fun _ row => row.changeRecord = c).trans ?_
  refine congrArg (d.bundlesOf c ++ ·) ?_
  by_cases hc : change = c
  · exact (if_pos (decide_eq_true hc)).trans (if_pos hc).symm
  · exact (if_neg fun h => hc (of_decide_eq_true h)).trans (if_neg hc).symm

/-- A modification that keeps the changes of the rows keeps the bundles of each change. -/
theorem bundlesOf_modify {b : ℕ} {f : EvidenceBundle → EvidenceBundle}
    (hf : ∀ row, d.bundles.get? b = some row → (f row).changeRecord = row.changeRecord)
    (change : ℕ) :
    { d with bundles := d.bundles.modify b f }.bundlesOf change = d.bundlesOf change := by
  refine Table.keys_congr (Table.next_modify _ _ _) fun i => ?_
  change ((d.bundles.modify b f).get? i).any _ = (d.bundles.get? i).any _
  by_cases hi : i = b
  · subst hi
    rw [Table.get?_modify_self]
    cases hrow : d.bundles.get? i with
    | none => rfl
    | some row => simp [hf row hrow]
  · rw [Table.get?_modify_of_ne hi]

/-- A save of one row that evolves. -/
theorem beside_modify {b : ℕ} {f : EvidenceBundle → EvidenceBundle} {theirs : List EvidenceLock}
    (hf : ∀ row, d.bundles.get? b = some row → row.Evolves (f row))
    (hlock : ∀ row, d.bundles.get? b = some row → .bundle b ∈ theirs → row.status = .invalidated) :
    EvidenceBeside theirs d { d with bundles := d.bundles.modify b f } where
  rows i row hrow := by
    by_cases hi : i = b
    · subst hi
      exact ⟨f row, by rw [Table.get?_modify_self, hrow]; rfl, hf row hrow⟩
    · exact ⟨row, by rw [Table.get?_modify_of_ne hi, hrow], .refl row⟩
  locked i row hi hrow hstatus := by
    by_cases hib : i = b
    · subst hib
      exact absurd (hlock row hrow hi) hstatus
    · rw [Table.get?_modify_of_ne hib, hrow]
  changes change _ := bundlesOf_modify (fun row hrow => (hf row hrow).change) change

namespace EvidenceWrite.Justified

variable {w : EvidenceWrite}

/-- **A justified save** leaves to other sessions what they rely on. -/
theorem beside {theirs : List EvidenceLock} (h : w.Justified d held)
    (hdisjoint : ∀ row ∈ held, row ∉ theirs) : EvidenceBeside theirs d (w.apply env d) := by
  have hlocked : ∀ {b : ℕ}, .bundle b ∈ held → ∀ row, d.bundles.get? b = some row →
      .bundle b ∈ theirs → row.status = .invalidated :=
    fun hheld _ _ htheirs => absurd htheirs (hdisjoint _ hheld)
  cases w with
  | createBundle organization change version previous createdBy now reads =>
    refine ⟨.insert EvidenceBundle.Evolves.refl _ _,
      fun b row _ hrow _ => Table.get?_insert_of_some _ hrow, fun c hc => ?_⟩
    have hne : change ≠ c := fun heq => hdisjoint _ h.1 (heq ▸ hc)
    rw [bundlesOf_createBundle, if_neg hne, List.append_nil]
  | sealBundle b row =>
    obtain ⟨hheld, ⟨old, hold, hstatus⟩, hsealed, -⟩ := h
    refine beside_modify (fun row' hrow' => ?_) (hlocked hheld)
    rw [hold] at hrow'
    cases hrow'
    exact .saveSealing hstatus hsealed
  | invalidateBundle b reason invalidatedBy now =>
    exact beside_modify (fun row _ => .invalidate _ _ _ row) (hlocked h)
  | deleteBundleStorage b now =>
    exact beside_modify (fun row _ => .of_columns (.same _) rfl rfl) (hlocked h)
  | markInvalid b =>
    obtain ⟨old, hold, hstatus, hmark⟩ := h
    have hrow : ∀ row, d.bundles.get? b = some row → row = old := fun row hrow =>
      Option.some.inj (hrow.symm.trans hold)
    exact beside_modify (fun row hr => hrow row hr ▸ .markInvalid hmark)
      fun row hr _ => hrow row hr ▸ hstatus
  | createExport | readyExport | failExport | deleteExportStorage | createHold | releaseHold |
    emit => exact ⟨.refl EvidenceBundle.Evolves.refl _, fun _ _ _ hrow _ => hrow, fun _ _ => rfl⟩

/-- The rows of a change keep their numbers when the bundles of the change stay. -/
theorem numbered_of_rows (hrows : d.bundles.Evolves EvidenceBundle.Evolves d'.bundles)
    (hchanges : ∀ change, d'.bundlesOf change = d.bundlesOf change) (h : d.Numbered) :
    d'.Numbered := by
  intro change k b hk
  rw [hchanges] at hk
  obtain ⟨row, hrow, hversion, hprevious⟩ := h change k b hk
  obtain ⟨row', hrow', hevolves⟩ := hrows b row hrow
  refine ⟨row', hrow', hevolves.version.trans hversion, hevolves.previous.trans (hprevious.trans ?_)⟩
  cases k with
  | zero => rfl
  | succ k => exact (congrArg (·[k]?) (hchanges change)).symm

/-- A save of one row keeps the invariant, if it leaves a sealed row whole. -/
theorem versioned_modify {b : ℕ} {f : EvidenceBundle → EvidenceBundle} (h : d.Versioned)
    (hf : ∀ row, d.bundles.get? b = some row → row.Evolves (f row))
    (hwhole : ∀ row, d.bundles.get? b = some row → (f row).status = .sealed → (f row).Whole) :
    EvidenceDb.Versioned { d with bundles := d.bundles.modify b f } where
  numbered := by
    have hbeside : EvidenceBeside [] d { d with bundles := d.bundles.modify b f } :=
      beside_modify hf fun _ _ h => nomatch h
    exact numbered_of_rows hbeside.rows (bundlesOf_modify fun row hrow => (hf row hrow).change)
      h.numbered
  whole i row hrow hstatus := by
    change (d.bundles.modify b f).get? i = some row at hrow
    by_cases hi : i = b
    · subst hi
      rw [Table.get?_modify_self] at hrow
      obtain ⟨old, hold, rfl⟩ := Option.map_eq_some_iff.1 hrow
      exact hwhole old hold hstatus
    · rw [Table.get?_modify_of_ne hi] at hrow
      exact h.whole i row hrow hstatus

/-- A new bundle gets the next number of its change. -/
theorem versioned_insert (h : d.Versioned) {organization change version : ℕ} {previous : Option ℕ}
    {createdBy : Option String} {now : Time} {reads : SourceReads}
    (hversion : version = d.latestVersion change + 1) (hprevious : previous = d.latestBundle change) :
    ((createBundle organization change version previous createdBy now reads).apply env d).Versioned := by
  set new := materializeBundle env d.bundles.next organization change version previous createdBy now
    reads with hnew
  refine ⟨fun c k b hk => ?_, fun b row hrow hstatus => ?_⟩
  · rw [bundlesOf_createBundle] at hk
    have hpred : ∀ n, n ≤ (d.bundlesOf c).length → ((createBundle organization change version
        previous createdBy now reads).apply env d).predecessor c n = d.predecessor c n := by
      intro n hn
      cases n with
      | zero => rfl
      | succ n => 
        rw [EvidenceDb.predecessor, EvidenceDb.predecessor, bundlesOf_createBundle,
          List.getElem?_append_left (by omega)]
    rcases Nat.lt_or_ge k (d.bundlesOf c).length with hlt | hge
    · rw [List.getElem?_append_left hlt] at hk
      obtain ⟨row, hrow, hv, hp⟩ := h.numbered c k b hk
      exact ⟨row, Table.get?_insert_of_some _ hrow, hv, hp.trans (hpred k hlt.le).symm⟩
    · rw [List.getElem?_append_right hge] at hk
      split_ifs at hk with hc
      · subst hc
        obtain ⟨hzero, rfl⟩ : k - (d.bundlesOf change).length = 0 ∧ d.bundles.next = b := by
          rcases hn : k - (d.bundlesOf change).length with _ | n
          · rw [hn] at hk
            exact ⟨rfl, Option.some.inj hk⟩
          · rw [hn] at hk
            cases hk
        have hk : k = (d.bundlesOf change).length := by omega
        refine ⟨new, Table.get?_insert_next _ _, ?_, ?_⟩
        · rw [hnew]
          change version = k + 1
          rw [hversion, h.numbered.latestVersion, hk]
        · rw [hpred k hk.le, hnew]
          change previous = _
          rw [hprevious, h.numbered.latestBundle, hk, List.getLast?_eq_getElem?]
          cases hlength : (d.bundlesOf change).length with
          | zero => exact List.getElem?_eq_none (by omega)
          | succ n => rfl
      · cases hk
  · change (d.bundles.insert new).get? b = some row at hrow
    rw [Table.get?_insert] at hrow
    split_ifs at hrow
    · cases hrow
      cases hstatus
    · exact h.whole b row hrow hstatus

/-- **A justified save** keeps the invariant of the tables. -/
theorem versioned (hj : w.Justified d held) (h : d.Versioned) : (w.apply env d).Versioned := by
  cases w with
  | createBundle organization change version previous createdBy now reads =>
    exact versioned_insert h hj.2.1 hj.2.2
  | sealBundle b row =>
    obtain ⟨-, ⟨old, hold, hstatus⟩, hsealed, hwhole⟩ := hj
    refine versioned_modify h (fun row' hrow' => ?_) fun row' _ _ =>
      ⟨hwhole.complete, hwhole.missing, hwhole.valid, hwhole.manifest⟩
    rw [hold] at hrow'
    cases hrow'
    exact .saveSealing hstatus hsealed
  | invalidateBundle b reason invalidatedBy now =>
    exact versioned_modify h (fun row _ => .invalidate _ _ _ row) fun _ _ hstatus => nomatch hstatus
  | deleteBundleStorage b now =>
    refine versioned_modify h (fun row _ => .of_columns (.same _) rfl rfl) fun row hrow hstatus => ?_
    have hwhole := h.whole b row hrow hstatus
    exact ⟨hwhole.complete, hwhole.missing, hwhole.valid, hwhole.manifest⟩
  | markInvalid b =>
    obtain ⟨old, hold, hstatus, hmark⟩ := hj
    have hrow : ∀ row, d.bundles.get? b = some row → row = old := fun row hrow =>
      Option.some.inj (hrow.symm.trans hold)
    refine versioned_modify h (fun row hr => hrow row hr ▸ .markInvalid hmark) fun row hr hsealed => ?_
    obtain rfl := hrow row hr
    rw [show row.status = .sealed from hsealed] at hstatus
    cases hstatus
  | createExport | readyExport | failExport | deleteExportStorage | createHold | releaseHold |
    emit => exact ⟨h.numbered, h.whole⟩

/-- Saves of others leave a save justified. -/
theorem later (hj : w.Justified d held) (hinv : d.Versioned) (hinv' : d'.Versioned)
    (h : EvidenceBeside held d d') : w.Justified d' held := by
  cases w with
  | createBundle organization change version previous createdBy now reads =>
    obtain ⟨hheld, hversion, hprevious⟩ := hj
    refine ⟨hheld, ?_, ?_⟩
    · rw [hversion, hinv.numbered.latestVersion, hinv'.numbered.latestVersion, h.changes _ hheld]
    · rw [hprevious, hinv.numbered.latestBundle, hinv'.numbered.latestBundle, h.changes _ hheld]
  | sealBundle b row =>
    obtain ⟨hheld, ⟨old, hold, hstatus⟩, hrow⟩ := hj
    exact ⟨hheld, ⟨old, h.locked b old hheld hold (by rw [hstatus]; decide), hstatus⟩, hrow⟩
  | markInvalid b =>
    obtain ⟨old, hold, hstatus, hmark⟩ := hj
    obtain ⟨row, hrow, hevolves⟩ := h.rows b old hold
    obtain ⟨hmanifest, hinvalid⟩ := hevolves.terminal hstatus
    exact ⟨row, hrow, hevolves.invalidated hstatus, hmark.imp hmanifest.trans hinvalid⟩
  | invalidateBundle | deleteBundleStorage => exact hj
  | createExport | readyExport | failExport | deleteExportStorage | createHold | releaseHold |
    emit => trivial

end EvidenceWrite.Justified

end RunbookPlatform
