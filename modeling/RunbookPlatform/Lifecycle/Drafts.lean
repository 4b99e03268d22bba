import RunbookPlatform.Locks.Steps

/-!
# Drafts and their submission

A draft has not been frozen: its profile key and workflow version are blank until
`submit_change_record` fills them in, once.

## Main definitions

- `ChangeRecord.Blank` — a change whose frozen columns are blank
- `DraftStep` — what a transaction can do to drafts

## Main results

- `submitChangeRecord_freezes` — the dossier that a submission leaves behind
- `drafts_blank` — every draft of every run is blank
-/

namespace RunbookPlatform

open Transactional

/-- The columns that a submission derives from the profile and the workflow are blank. -/
structure ChangeRecord.Blank (change : ChangeRecord) : Prop where
  key : change.operationProfileKeySnapshot = ""
  version : change.workflowVersionSnapshot = none

/-- A draft after the step is blank, or was a draft with the same dossier before. -/
def DraftStep (s s' : Db) : Prop :=
  ∀ i later, s'.changes.get? i = some later → later.status = .draft →
    later.Blank ∨ ∃ row, s.changes.get? i = some row ∧ row.status = .draft ∧
      row.dossier = later.dossier

variable {s s' s1 : Db}

namespace DraftStep

theorem refl (s : Db) : DraftStep s s := fun _ later hlater hdraft =>
  .inr ⟨later, hlater, hdraft, rfl⟩

/-- Blank columns are part of the dossier. -/
theorem blank_of_dossier {change later : ChangeRecord} (h : change.dossier = later.dossier)
    (hblank : change.Blank) : later.Blank where
  key := (congrArg Dossier.operationProfileKeySnapshot h).symm.trans hblank.key
  version := (congrArg Dossier.workflowVersionSnapshot h).symm.trans hblank.version

theorem trans (h1 : DraftStep s s1) (h2 : DraftStep s1 s') : DraftStep s s' := by
  intro i later hlater hdraft
  obtain hblank | ⟨mid, hmid, hmiddraft, hdossier⟩ := h2 i later hlater hdraft
  · exact .inl hblank
  · obtain hblank | ⟨row, hrow, hrowdraft, hdossier'⟩ := h1 i mid hmid hmiddraft
    · exact .inl (blank_of_dossier hdossier hblank)
    · exact .inr ⟨row, hrow, hrowdraft, hdossier'.trans hdossier⟩

/-- A transaction that saves no dossier makes no draft. -/
theorem of_sameOn (h : SameOn [.changeDossier, .changeIdentity] s s') : DraftStep s s' := by
  intro i later hlater hdraft
  have hdossier := h .changeDossier (by decide) i
  rw [hlater, Option.map_some, Option.map_eq_some_iff] at hdossier
  obtain ⟨row, hrow, hsame⟩ := hdossier
  have hevolves : Table.Evolves ChangeRecord.Evolves s.changes s'.changes :=
    h .changeIdentity (by decide)
  obtain ⟨later', hlater', hlate⟩ := hevolves i row hrow
  rw [hlater] at hlater'
  cases hlater'
  exact .inr ⟨row, hrow, hlate.draft hdraft, hsame⟩

/-- `create_change_record`. -/
theorem insertChangeRecord {env : Env} {req : ChangeRequest} {profile : ℕ} {actor : AuditActor}
    {c : ℕ} (h : (insertChangeRecord env req profile actor).run s = .ok (c, s')) :
    DraftStep s s' := by
  simp only [RunbookPlatform.insertChangeRecord, Tx.bind_ok, Tx.lift_query_ok, Tx.run_lift,
    insertChange_ok, Tx.run_pure, Except.ok.injEq, Prod.mk.injEq] at h
  obtain ⟨now, _, ⟨-, rfl⟩, change, s1, ⟨rfl, hs1⟩, _, s2, htargets, _, s3, hemit, rfl, rfl⟩ := h
  have hrest : DraftStep s1 s3 :=
    of_sameOn ((Tx.sameOn htargets _ (by decide)).trans (Tx.sameOn hemit _ (by decide)))
  refine trans (fun i later hlater hdraft => ?_) hrest
  subst hs1
  by_cases hnew : i = s.changes.next
  · rw [hnew, Table.get?_insert_next, Option.some.injEq] at hlater
    subst hlater
    exact .inl ⟨rfl, rfl⟩
  · rw [Table.get?_insert, if_neg hnew] at hlater
    exact .inr ⟨later, hlater, hdraft, rfl⟩

end DraftStep

-- ════════════════════════════════════════════════════════════════════════
-- Submission
-- ════════════════════════════════════════════════════════════════════════

/-- What a submission freezes when drafts are blank. -/
theorem freezeRequest_ok {env : Env} {c : ℕ} {row : ChangeRecord} {actor : AuditActor}
    {profile : OperationProfile} {frozen : FrozenRequest}
    (h : freezeRequest env c row actor s = .ok (profile, frozen))
    (hblank : row.status = .draft → row.Blank) :
    ∃ (workflow : Workflow),
      frozen.requestSnapshot = requestSnapshot env ⟨c, row⟩ ((targetsOf c s).map (·.row))
        frozen.submittedAt (some ⟨row.operationProfile, profile⟩) (some ⟨row.workflow, workflow⟩)
        (.str frozen.operationProfileKeySnapshot) (.int frozen.workflowVersionSnapshot) ∧
      frozen.requestSnapshotSha256 = sha256CanonicalJson env frozen.requestSnapshot ∧
      frozen.requestedInputsSha256 = sha256CanonicalJson env row.requestedInputs := by
  simp only [freezeRequest, Query.bind_ok, lookup_ok, ensure_ok, select_ok, Query.pure_apply,
    Except.ok.injEq, Prod.mk.injEq] at h
  obtain ⟨_, hdraft, profile', -, _, -, workflow, -, _, -, _, -, _, -, _, -, _, -, targets, rfl, _, -,
    _, -, now, -, rfl, rfl⟩ := h
  refine ⟨workflow, ?_, rfl, rfl⟩
  simp only [buildRequestSnapshot, (hblank hdraft).key, (hblank hdraft).version, ne_eq, not_true_eq_false,
    if_false, Option.map_some, Option.getD_some, Json.ofOptStr]

/-- What a submission leaves of the changes: the frozen dossier in the row that is no longer a
draft, and every other row as it was. -/
structure Freezes (env : Env) (c : ℕ) (actor : AuditActor) (s s' : Db) : Prop where
  targets : s'.changeTargets = s.changeTargets
  others : ∀ i, i ≠ c →
    (s'.changes.get? i).map ChangeRecord.dossier = (s.changes.get? i).map ChangeRecord.dossier
  evolves : SameOn [.changeIdentity] s s'
  row : ∃ row profile frozen sub, s.changes.get? c = some row ∧
    freezeRequest env c row actor s = .ok (profile, frozen) ∧
      s'.changes.get? c = some sub ∧ sub.status ≠ .draft ∧
        sub.dossier = (frozen.apply row).dossier

/-- The frozen columns are saved in a row that has moved on from the draft. -/
theorem Freezes.of_modify {env : Env} {c : ℕ} {actor : AuditActor} {row : ChangeRecord}
    {profile : OperationProfile} {frozen : FrozenRequest} {st : ChangeStatus}
    {f : ChangeRecord → ChangeRecord} {s2 : Db} (hrow : s.changes.get? c = some row)
    (hfreeze : freezeRequest env c row actor s = .ok (profile, frozen))
    (hf : ∀ row, (f row).dossier = (frozen.apply row).dossier)
    (hfst : ∀ row, (f row).status = row.status) (hst : st ≠ .draft)
    (h1 : SameOn [.changeDossier, .changeIdentity, .changeTargets] s s1) (hin : s1.ChangeIn st c)
    (h2 : s2 = { s1 with changes := s1.changes.modify c f })
    (h3 : SameOn [.changeDossier, .changeIdentity, .changeTargets] s2 s')
    (hevolves : SameOn [.changeIdentity] s s') : Freezes env c actor s s' := by
  have hd1 := h1 .changeDossier (by decide)
  have hd3 := h3 .changeDossier (by decide)
  refine ⟨?_, fun i hi => ?_, hevolves, ?_⟩
  · have ht1 : s.changeTargets = s1.changeTargets := h1 .changeTargets (by decide)
    have ht3 : s2.changeTargets = s'.changeTargets := h3 .changeTargets (by decide)
    rw [← ht3, h2, ht1]
  · rw [← hd3 i, hd1 i, h2, Table.get?_modify_of_ne hi]
  · obtain ⟨row1, hrow1, hstatus⟩ := hin
    have hsame := hd1 c
    rw [hrow, hrow1, Option.map_some, Option.map_some, Option.some.injEq] at hsame
    have hrow2 : s2.changes.get? c = some (f row1) := by
      rw [h2, Table.get?_modify_self, hrow1, Option.map_some]
    have hsub := hd3 c
    rw [hrow2, Option.map_some, eq_comm, Option.map_eq_some_iff] at hsub
    obtain ⟨sub, hsub, hdossier⟩ := hsub
    have hlate : Table.Evolves ChangeRecord.Evolves s2.changes s'.changes :=
      h3 .changeIdentity (by decide)
    obtain ⟨sub', hsub', hkept⟩ := hlate c _ hrow2
    rw [hsub] at hsub'
    cases hsub'
    refine ⟨row, profile, frozen, sub, hrow, hfreeze, hsub, fun hdraft => hst ?_, ?_⟩
    · rw [← hstatus, ← hfst row1, hkept.draft hdraft]
    · rw [hdossier, hf]
      simp only [ChangeRecord.dossier, Dossier.mk.injEq] at hsame
      simp only [ChangeRecord.dossier, FrozenRequest.apply, hsame]

/-- **Submission**: it freezes the dossier of its change, and no other. -/
theorem submitChangeRecord_freezes {env : Env} {c : ℕ} {actor : AuditActor} {nonce : String}
    {u : Unit} (h : (submitChangeRecord env c actor nonce).run s = .ok (u, s')) :
    Freezes env c actor s s' := by
  have hevolves : SameOn [.changeIdentity] s s' := Tx.sameOn h _ (by decide)
  simp only [submitChangeRecord, Tx.bind_ok, Tx.lift_query_ok, Tx.run_lift, lookup_ok] at h
  obtain ⟨row, _, ⟨hrow, rfl⟩, ⟨profile, frozen⟩, _, ⟨hfreeze, rfl⟩, _, s1, hemit, h⟩ := h
  have h1 : SameOn [.changeDossier, .changeIdentity, .changeTargets] s s1 := Tx.sameOn hemit _ (by decide)
  split_ifs at h
  · simp only [Tx.bind_ok, Tx.run_lift] at h
    obtain ⟨a, s2, hrequest, old, s3, hmove, _, s4, hlink, hemit'⟩ := h
    obtain ⟨-, -, hmoved⟩ := transitionChange_moved hmove
    exact .of_modify (f := fun c => { frozen.apply c with approvalRequest := some a }) hrow hfreeze
      (fun _ => rfl) (fun _ => rfl) (by decide) ((h1.trans (Tx.sameOn hrequest _ (by decide))).trans (Tx.sameOn hmove _ (by decide))) hmoved.became
      (linkChange_ok.1 hlink) (Tx.sameOn hemit' _ (by decide)) hevolves
  · simp only [Tx.bind_ok, Tx.run_lift] at h
    obtain ⟨old, s2, hmove, _, s3, hupdate, hrest⟩ := h
    obtain ⟨-, -, hmoved⟩ := transitionChange_moved hmove
    exact .of_modify hrow hfreeze (fun _ => rfl) (fun _ => rfl) (by decide)
      (h1.trans (Tx.sameOn hmove _ (by decide))) hmoved.became (updateDossier_ok.1 hupdate)
      (Tx.sameOn hrest _ (by decide)) hevolves

/-- A submission makes no draft. -/
theorem DraftStep.of_freezes {env : Env} {c : ℕ} {actor : AuditActor}
    (h : Freezes env c actor s s') : DraftStep s s' := by
  intro i later hlater hdraft
  obtain ⟨row, profile, frozen, sub, -, -, hsub, hstatus, -⟩ := h.row
  have hi : i ≠ c := by
    rintro rfl
    rw [hlater] at hsub
    cases hsub
    exact hstatus hdraft
  have hdossier := h.others i hi
  rw [hlater, Option.map_some, eq_comm, Option.map_eq_some_iff] at hdossier
  obtain ⟨before, hbefore, hsame⟩ := hdossier
  have hevolves : Table.Evolves ChangeRecord.Evolves s.changes s'.changes :=
    h.evolves .changeIdentity (by decide)
  obtain ⟨later', hlater', hlate⟩ := hevolves i before hbefore
  rw [hlater] at hlater'
  cases hlater'
  exact .inr ⟨before, hbefore, hlate.draft hdraft, hsame⟩

-- ════════════════════════════════════════════════════════════════════════
-- Runs
-- ════════════════════════════════════════════════════════════════════════

/-- Every commit of every request is such a step. -/
theorem Op.draftSteps (env : Env) (op : Op) (s : Db) :
    (op.prog env).Follows historyCells (fun _ => DraftStep) s := by
  cases op with
  | createChange req actor =>
    exact .bind (.read DraftStep.refl fun _ _ _ _ =>
      .atomic fun _ _ _ _ h => DraftStep.insertChangeRecord h) fun _ _ => .pure _
  | submitChange c actor nonce =>
    exact .bind (.atomic fun _ _ _ _ h => DraftStep.of_freezes (submitChangeRecord_freezes h))
      fun _ _ => .pure _
  | _ =>
    exact Op.follows_of_frame (C := [.changeDossier, .changeIdentity])
      (fun _ _ _ => DraftStep.of_sameOn) _ (by dsimp only [Op.cells]; decide) s

/-- **Drafts are blank** in every state of every run. -/
theorem drafts_blank {env : Env} {A : Admission} (h : Interleaved env A s) {i : ℕ}
    {row : ChangeRecord} (hrow : s.changes.get? i = some row) (hdraft : row.status = .draft) :
    row.Blank := by
  refine h.invariant (I := fun s => ∀ i row, s.changes.get? i = some row → row.status = .draft →
    row.Blank) (Op.draftSteps env) (fun _ _ i row hrow => ?_) ?_ i row hrow hdraft
  · cases hrow
  · intro _ s s' hstep _ ih i later hlater hdraft
    obtain hblank | ⟨row, hrow, hrowdraft, hdossier⟩ := hstep i later hlater hdraft
    · exact hblank
    · exact DraftStep.blank_of_dossier hdossier (ih i row hrow hrowdraft)

end RunbookPlatform
