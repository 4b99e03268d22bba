import RunbookPlatform.Core.Env

/-!
# Transitions of changes

`transition_change`: the one helper through which a change's status moves, except
for the re-approval write of `_invalidate_change_approval`. The cells a transition
writes are those of the new status and of the statuses the table allows before it.

## Main definitions

- `transitionChange` — one allowed move, with its audit event
- `transitionStaleChange` — the same on a change object loaded without a lock
-/

namespace RunbookPlatform

open Transactional

set_option synthInstance.maxSize 1000

/-- The cells that a transition to `new` writes. -/
@[reducible] def transitionCells : ChangeStatus → List Cell
  | .draft => [.audit, .statusEvents, .changes, .changeStatus .draft]
  | .pendingApproval =>
    [.audit, .statusEvents, .changes, .changeStatus .pendingApproval, .changeStatus .draft]
  | .approved =>
    [.audit, .statusEvents, .changes, .changeStatus .approved, .changeStatus .draft,
      .changeStatus .pendingApproval]
  | .scheduled =>
    [.audit, .statusEvents, .changes, .changeStatus .scheduled, .changeStatus .approved]
  | .dispatchable =>
    [.audit, .statusEvents, .changes, .changeStatus .dispatchable, .changeStatus .approved,
      .changeStatus .scheduled]
  | .running =>
    [.audit, .statusEvents, .changes, .changeStatus .running, .changeStatus .dispatchable]
  | .verificationPending =>
    [.audit, .statusEvents, .changes, .changeStatus .verificationPending, .changeStatus .running]
  | .verificationFailed =>
    [.audit, .statusEvents, .changes, .changeStatus .verificationFailed,
      .changeStatus .verificationPending]
  | .verified =>
    [.audit, .statusEvents, .changes, .changeStatus .verified, .changeStatus .verificationPending]
  | .closed =>
    [.audit, .statusEvents, .changes, .changeStatus .closed, .changeStatus .running,
      .changeStatus .verified, .changeStatus .verificationFailed]
  | .rejected =>
    [.audit, .statusEvents, .changes, .changeStatus .rejected, .changeStatus .pendingApproval]
  | .canceled =>
    [.audit, .statusEvents, .changes, .changeStatus .canceled, .changeStatus .draft,
      .changeStatus .pendingApproval, .changeStatus .approved, .changeStatus .scheduled]
  | .expired =>
    [.audit, .statusEvents, .changes, .changeStatus .expired, .changeStatus .pendingApproval,
      .changeStatus .scheduled, .changeStatus .dispatchable]

instance (new : ChangeStatus) : Has Cell.audit (transitionCells new) :=
  ⟨by cases new <;> simp [transitionCells]⟩

instance (new : ChangeStatus) : Has Cell.statusEvents (transitionCells new) :=
  ⟨by cases new <;> simp [transitionCells]⟩

/-- The cells cover the moves of the transition table. -/
theorem mem_transitionCells {old new : ChangeStatus} (h : new ∈ old.allowed) :
    Cell.changes ∈ transitionCells new ∧ Cell.changeStatus old ∈ transitionCells new ∧
      Cell.changeStatus new ∈ transitionCells new := by
  cases old <;> simp only [ChangeStatus.allowed, List.mem_cons, List.not_mem_nil, or_false] at h
  all_goals rcases h with rfl | rfl | rfl | rfl <;> simp [transitionCells]

/-- `_STATUS_TIMESTAMP_FIELDS`: the column that records when a status was entered. -/
def stampStatus (new : ChangeStatus) (now : Time) (change : ChangeRecord) : ChangeRecord :=
  match new with
  | .approved => { change with approvedAt := some now }
  | .dispatchable => { change with dispatchableAt := some now }
  | .running => { change with runningAt := some now }
  | .verificationPending => { change with verificationPendingAt := some now }
  | .verificationFailed => { change with verificationFailedAt := some now }
  | .verified => { change with verifiedAt := some now }
  | .closed => { change with closedAt := some now }
  | .rejected => { change with rejectedAt := some now }
  | .canceled => { change with canceledAt := some now }
  | .expired => { change with expiredAt := some now }
  | .draft | .pendingApproval | .scheduled => change

/-- The columns a transition saves. -/
def applyTransition (new : ChangeStatus) (now : Time) (terminalReason : String)
    (change : ChangeRecord) : ChangeRecord :=
  let change := stampStatus new now change
  { change with
    status := new
    terminalReason := if terminalReason = "" then change.terminalReason else terminalReason }

@[simp] theorem applyTransition_status (new : ChangeStatus) (now : Time) (reason : String)
    (change : ChangeRecord) : (applyTransition new now reason change).status = new := rfl

theorem applyTransition_identity (new : ChangeStatus) (now : Time) (reason : String)
    (change : ChangeRecord) :
    (applyTransition new now reason change).identity = change.identity := by
  cases new <;> rfl

theorem applyTransition_dossier (new : ChangeStatus) (now : Time) (reason : String)
    (change : ChangeRecord) : (applyTransition new now reason change).dossier = change.dossier := by
  cases new <;> rfl

theorem applyTransition_retro (new : ChangeStatus) (now : Time) (reason : String)
    (change : ChangeRecord) : (applyTransition new now reason change).retro = change.retro := by
  cases new <;> rfl

/-- No transition goes back to a draft. -/
theorem applyTransition_evolves {new : ChangeStatus} (hnew : new ≠ .draft) (now : Time)
    (reason : String) (change : ChangeRecord) :
    change.Evolves (applyTransition new now reason change) :=
  ⟨applyTransition_identity new now reason change, fun h => absurd h hnew⟩

theorem expired_ne_draft : ChangeStatus.expired ≠ .draft := by decide

/-- No status allows a move back to a draft. -/
theorem ne_draft_of_allowed {old new : ChangeStatus} (h : new ∈ old.allowed) : new ≠ .draft := by
  rintro rfl
  cases old <;> simp [ChangeStatus.allowed] at h

theorem applyTransition_approvalRequest (new : ChangeStatus) (now : Time) (reason : String)
    (change : ChangeRecord) :
    (applyTransition new now reason change).approvalRequest = change.approvalRequest := by
  cases new <;> rfl

/-- Saving a change moved from `old` to `new` writes only the cells of these statuses. -/
theorem agree_of_status {s : Db} {i : ℕ} {old new : ChangeStatus} {change : ChangeRecord}
    {f : ChangeRecord → ChangeRecord} (hrow : s.changes.get? i = some change)
    (hold : change.status = old) (hf : (f change).status = new)
    (hevolves : ∀ row : ChangeRecord, row.Evolves (f row))
    (hlink : ∀ row, (f row).approvalRequest = row.approvalRequest)
    (hdossier : ∀ row, (f row).dossier = row.dossier) (hretro : ∀ row, (f row).retro = row.retro)
    {c : Cell}
    (hc : c ≠ .changes) (hco : c ≠ .changeStatus old) (hcn : c ≠ .changeStatus new) :
    Cells.agree c s { s with changes := s.changes.modify i f } := by
  have hrefl := Cells.agree_refl c s
  cases c with
  | changes => exact absurd rfl hc
  | changeStatus st =>
    intro j
    simp only [Db.ChangeIn, Table.get?_modify]
    split_ifs with h
    · subst h
      have h1 : change.status ≠ st := by rw [hold]; rintro rfl; exact hco rfl
      have h2 : (f change).status ≠ st := by rw [hf]; rintro rfl; exact hcn rfl
      simp [hrow, h1, h2]
    · exact Iff.rfl
  | changeApproval =>
    intro j a
    simp only [Db.ApprovalOf, Table.get?_modify]
    split_ifs with h
    · cases s.changes.get? j <;> simp [hlink]
    · exact Iff.rfl
  | changeDossier => exact fun j => (Table.map_get?_modify hdossier _ _ j).symm
  | changeRetro => exact fun j => (Table.map_get?_modify hretro _ _ j).symm
  | changeIdentity => exact .modify ChangeRecord.Evolves.refl hevolves _ i
  | _ => exact hrefl

/-- Check the move against the table and save it. Returns the previous row. -/
def saveTransition (i : ℕ) (new : ChangeStatus) (now : Time) (terminalReason : String) :
    Service (transitionCells new) ChangeRecord where
  run s :=
    match s.changes.get? i with
    | none => .error (.notFound "ChangeRecord")
    | some change =>
      if new ∈ change.status.allowed then
        .ok (change,
          { s with changes := s.changes.modify i (applyTransition new now terminalReason) })
      else
        .error (.transition "invalid_state_transition"
          s!"Invalid change transition: '{change.status.value}' -> '{new.value}'.")
  frame {s a s'} h c hc := by
    split at h
    · cases h
    · rename_i change hrow
      split_ifs at h with hnew
      cases h
      obtain ⟨h1, h2, h3⟩ := mem_transitionCells hnew
      exact agree_of_status hrow rfl rfl
        (applyTransition_evolves (ne_draft_of_allowed hnew) now terminalReason)
        (applyTransition_approvalRequest new now terminalReason)
        (applyTransition_dossier new now terminalReason)
        (applyTransition_retro new now terminalReason) (by rintro rfl; exact hc h1) (by rintro rfl; exact hc h2) (by rintro rfl; exact hc h3)

theorem saveTransition_ok {i : ℕ} {new : ChangeStatus} {now : Time} {reason : String} {s s' : Db}
    {change : ChangeRecord} :
    (saveTransition i new now reason).run s = .ok (change, s') ↔
      s.changes.get? i = some change ∧ new ∈ change.status.allowed ∧
        s' = { s with changes := s.changes.modify i (applyTransition new now reason) } := by
  unfold saveTransition
  simp only
  cases hrow : s.changes.get? i with
  | none => simp
  | some row =>
    simp only [Option.some.injEq]
    constructor
    · intro h
      split_ifs at h with hnew
      cases h
      exact ⟨rfl, hnew, rfl⟩
    · rintro ⟨rfl, hnew, rfl⟩
      rw [if_pos hnew]

/-- The audit event of a transition. -/
def statusChanged (organization : ℕ) (actor : AuditActor) (change : ℕ) (old new : ChangeStatus) :
    AuditEvent where
  organization := organization
  actor := actor
  eventType := "change.status_changed"
  objectType := .changeRecord
  objectId := change
  previousStatus := old.value
  newStatus := new.value

/-- `transition_change` on a change that this transaction has locked: the row is
what the object says. Returns the previous status. -/
def transitionChange (i : ℕ) (new : ChangeStatus) (actor : AuditActor) (now : Time)
    (terminalReason : String := "") : Service (transitionCells new) ChangeStatus := do
  let change ← saveTransition i new now terminalReason
  emitEvent (statusChanged change.organization actor i change.status new)
  pure change.status

/-- What a transition does: one allowed move, and its audit event. -/
theorem transitionChange_ok {i : ℕ} {new : ChangeStatus} {actor : AuditActor} {now : Time}
    {reason : String} {s s' : Db} {old : ChangeStatus} :
    (transitionChange i new actor now reason).run s = .ok (old, s') ↔
      ∃ change, s.changes.get? i = some change ∧ change.status = old ∧ new ∈ old.allowed ∧
        s' = { s with
          changes := s.changes.modify i (applyTransition new now reason)
          audit := s.audit.insert (statusChanged change.organization actor i old new) } := by
  simp only [transitionChange, Tx.bind_ok, saveTransition_ok, Tx.run_lift, emitEvent_ok, Tx.run_pure,
    Except.ok.injEq, Prod.mk.injEq]
  constructor
  · rintro ⟨change, s1, ⟨hrow, hnew, rfl⟩, u, s2, rfl, rfl, rfl⟩
    exact ⟨change, hrow, rfl, hnew, rfl⟩
  · rintro ⟨change, hrow, rfl, hnew, rfl⟩
    exact ⟨change, _, ⟨hrow, hnew, rfl⟩, (), _, rfl, rfl, rfl⟩

/-- A transition writes the cells of its two statuses only. -/
theorem transitionChange_agree {i : ℕ} {new : ChangeStatus} {actor : AuditActor} {now : Time}
    {reason : String} {s s' : Db} {old : ChangeStatus}
    (h : (transitionChange i new actor now reason).run s = .ok (old, s')) {c : Cell}
    (hc : c ∉ [.audit, .statusEvents, .changes, .changeStatus new, .changeStatus old]) :
    Cells.agree c s s' := by
  obtain ⟨change, hrow, hold, hnew, rfl⟩ := transitionChange_ok.1 h
  simp only [List.mem_cons, List.not_mem_nil, or_false, not_or] at hc
  refine Cells.agree_trans (agree_of_status hrow hold rfl
    (applyTransition_evolves (ne_draft_of_allowed hnew) now reason)
    (applyTransition_approvalRequest new now reason) (applyTransition_dossier new now reason)
    (applyTransition_retro new now reason) hc.2.2.1 hc.2.2.2.2 hc.2.2.2.1) ?_
  exact Rel.audit.frame _ _ c (.insert (fun _ => trivial) _ _) (by simp [hc.1, hc.2.1])

/-- Every cell of the changes table. -/
@[reducible] def changeCells : List Cell :=
  [.changes, .changeStatus .draft, .changeStatus .pendingApproval, .changeStatus .approved,
    .changeStatus .scheduled, .changeStatus .dispatchable, .changeStatus .running,
    .changeStatus .verificationPending, .changeStatus .verificationFailed,
    .changeStatus .verified, .changeStatus .closed, .changeStatus .rejected,
    .changeStatus .canceled, .changeStatus .expired]

/-- Save columns of a change, the status among them, whatever the row holds. -/
def overwriteChange (i : ℕ) (f : ChangeRecord → ChangeRecord)
    (hevolves : ∀ row : ChangeRecord, row.Evolves (f row))
    (hlink : ∀ row, (f row).approvalRequest = row.approvalRequest)
    (hdossier : ∀ row, (f row).dossier = row.dossier)
    (hretro : ∀ row, (f row).retro = row.retro) : Service changeCells Unit :=
  Tx.write (fun s => ((), { s with changes := s.changes.modify i f })) <| by
    intro s c hc
    have hrefl := Cells.agree_refl c s
    cases c with
    | changes => simp at hc
    | changeStatus st => cases st <;> simp at hc
    | changeApproval =>
      intro j a
      simp only [Db.ApprovalOf, Table.get?_modify]
      split_ifs with h
      · cases s.changes.get? j <;> simp [hlink]
      · exact Iff.rfl
    | changeDossier => exact fun j => (Table.map_get?_modify hdossier _ _ j).symm
    | changeRetro => exact fun j => (Table.map_get?_modify hretro _ _ j).symm
    | changeIdentity => exact .modify ChangeRecord.Evolves.refl hevolves _ i
    | _ => exact hrefl

theorem overwriteChange_ok {i : ℕ} {f : ChangeRecord → ChangeRecord} {hevolves hlink hdossier hretro}
    {s s' : Db} {u : Unit} :
    (overwriteChange i f hevolves hlink hdossier hretro).run s = .ok (u, s') ↔
      s' = { s with changes := s.changes.modify i f } :=
  Tx.write_ok.trans (and_iff_right rfl)

/-- `transition_change` on a change object loaded outside any transaction: the move
is checked against the object, and the row is overwritten whatever it holds now. -/
def transitionStaleChange (name : TxName) (change : Loaded ChangeRecord) (new : ChangeStatus)
    (actor : AuditActor) (now : Time) (terminalReason : String := "")
    (hnew : new ≠ .draft := by decide) : Handler (.audit :: .statusEvents :: changeCells) Unit := do
  Prog.read <| ensure (new ∈ change.row.status.allowed) <| .transition "invalid_state_transition"
    s!"Invalid change transition: '{change.row.status.value}' -> '{new.value}'."
  Prog.atomic name (overwriteChange change.id (applyTransition new now terminalReason)
    (applyTransition_evolves hnew now terminalReason)
    (applyTransition_approvalRequest new now terminalReason)
    (applyTransition_dossier new now terminalReason)
    (applyTransition_retro new now terminalReason))
  Prog.atomic .service
    (emitEvent (statusChanged change.row.organization actor change.id change.row.status new))

end RunbookPlatform
