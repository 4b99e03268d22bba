import RunbookPlatform.Lifecycle.Pending

/-!
# Every pending change waits for a request

All requests move pending changes as `PendingMove` says, and so a pending change waits for a
pending request in every interleaving in which no window voids an approval.

## Main definitions

- `Waits` — every pending change is linked to a pending request
- `NothingVoided` — no window voids an approval

## Main results

- `Op.pendingMoves` — all requests follow `PendingMove`
- `pending_change_waits` — in these runs a pending change waits for a pending request
-/

namespace RunbookPlatform

open Transactional

set_option synthInstance.maxSize 1000

namespace PendingMove

variable {s : Db}

-- ════════════════════════════════════════════════════════════════════════
-- Handlers
-- ════════════════════════════════════════════════════════════════════════

/-- A change object that was loaded before is saved with another status. -/
theorem transitionStaleChange {H : List Cell} (name : TxName) (change : Loaded ChangeRecord)
    (new : ChangeStatus) (actor : AuditActor) (now : Time) (reason : String)
    (hnew : new ≠ .pendingApproval) {hdraft : new ≠ .draft} :
    (transitionStaleChange name change new actor now reason hdraft).Follows H PendingMove s := by
  refine .read refl fun s1 _ _ _ => .bind (.atomic fun s2 _ u s3 h => ?_) fun _ s2 => atomic _ _ s2 (by decide)
  have hsame : SameOn [.changeApproval, .approvals] s2 s3 := Tx.sameOn h _ (by decide)
  have happrovals : s2.approvals = s3.approvals := hsame .approvals (by decide)
  obtain rfl := overwriteChange_ok.1 h
  refine .foreign (fun i hi => ?_) (hsame.mono (by decide)) fun a r hr _ _ => happrovals ▸ hr
  obtain ⟨row, hrow, hstatus⟩ := hi
  rw [Table.get?_modify] at hrow
  split_ifs at hrow with hi
  · obtain ⟨old, -, rfl⟩ := Option.map_eq_some_iff.1 hrow
    exact absurd hstatus hnew
  · exact ⟨row, hrow, hstatus⟩

/-- `bind_execution`, with the expiry after a rejected bind. -/
theorem bindExecution (env : Env) (req : BindRequest) :
    (bindExecution env req).Follows historyCells PendingMove s := by
  refine .tryCatch (atomic _ _ s (by decide)) fun e s1 => ?_
  dsimp only
  split
  · refine .bind (.tryCatch (.widen (.read refl fun s2 row _ _ => .read refl fun s3 now _ _ => ?_))
      fun _ _ => .pure _) fun _ _ => .fail _
    split
    · exact transitionStaleChange _ _ _ _ _ _ (by decide)
    · exact .pure _
  · exact .fail _

/-- The claim endpoint. -/
theorem claimNext (env : Env) (runnerId : String) (registered : Bool) (token : String)
    (nonce : ℕ → String) :
    (claimNext env runnerId registered token nonce).Follows historyCells PendingMove s := by
  refine .bind (.tryCatch (.widen (frame (promoteDueScheduledChanges env nonce) s (by decide))) fun _ _ => .pure _)
    fun _ s1 => .read refl fun s2 runner _ _ =>
      .bind (.widen (frame (claimNextExecution env runnerId runner token) s2 (by decide))) fun result s3 => ?_
  split
  · refine .widen (.read refl fun s4 found _ _ => ?_)
    split
    · exact .pure _
    · split
      · refine .read refl fun s5 now _ _ => .read refl fun s6 change _ _ => ?_
        split
        · split
          · exact .tryCatch (.widen (transitionStaleChange _ _ _ _ _ _ (by decide))) fun _ _ => .pure _
          · exact .pure _
        · split
          · exact .tryCatch (.widen (frame (enforceEmergencyExpiryForChange _ now) s6 (by decide)))
              fun _ _ => .pure _
          · exact .pure _
      · exact .pure _
  · exact .pure _

/-- `request_exception`. -/
theorem requestException (env : Env) (req : ExceptionRequest) (actor : AuditActor) :
    (requestException env req actor).Follows historyCells PendingMove s :=
  .read refl fun _ (t, expiresAt) _ _ => .bind (.atomic fun s2 _ u s3 h =>
    (Shrinks.requestExceptionTx env req t expiresAt s2 u s3 h).move)
      fun _ s3 => .read refl fun s4 _ _ _ => atomic _ _ s4 (by decide)

/-- `approve_exception`. -/
theorem approveException (e : ℕ) (actor : AuditActor) (user : Option String) :
    (approveException e actor user).Follows historyCells PendingMove s :=
  .read refl fun s1 loaded _ _ => .bind (.widen (frame (assertExceptionApproverAllowed _ _ _) s1 (by decide)))
    fun _ s2 => .bind (.atomic fun s3 _ u s4 h => approveExceptionTx h) fun row _ =>
      .read refl fun s5 _ _ _ => atomic _ _ s5 (by decide)

/-- `reject_exception`. -/
theorem rejectException (e : ℕ) (actor : AuditActor) (user : Option String) :
    (rejectException e actor user).Follows historyCells PendingMove s :=
  .bind (.atomic fun s3 _ u s4 h => rejectExceptionTx h) fun row s1 => atomic _ _ s1 (by decide)

/-- `ExecutionStepStartView`. -/
theorem startStep (env : Env) (execution step : ℕ) (call : RunnerCall) :
    (startStep env execution step call).Follows historyCells PendingMove s := by
  refine .bind (.widen (frame (loadReadyExecution env execution call) s (by decide))) fun e s1 =>
    .read refl fun s2 st _ _ => .read refl fun s3 waiting _ _ => ?_
  split
  · exact .bind (.widen (getApprovalStatus env _)) fun _ _ => .pure _
  · exact .read refl fun s4 now _ _ => .read refl fun s5 evaluated _ _ =>
      .atomic fun s6 _ u s7 h => (Shrinks.startStepTx env _ step call _ _ s6 u s7 h).move

/-- `ApprovalStatusView`. -/
theorem pollApproval (env : Env) (execution step : ℕ) (call : RunnerCall) :
    (pollApproval env execution step call).Follows historyCells PendingMove s := by
  refine .bind (.widen (frame (loadReadyExecution env execution call) s (by decide))) fun e s1 =>
    .read refl fun s2 _ _ _ => .read refl fun s3 st _ _ => ?_
  split
  · exact .pure _
  · exact .pure _
  · exact .read refl fun s4 found _ _ => .read refl fun s5 (a, r) _ _ =>
      .atomic fun s6 _ u s7 h => pollApprovalTx env execution step call ⟨a, r⟩ h
  · exact .fail _

/-- `decide_approval`. -/
theorem decideApproval (env : Env) (a : ℕ) (decision : HumanDecision) (notes : String)
    (actor : AuditActor) (nonce : String) :
    (decideApproval env a decision notes actor nonce).Follows historyCells PendingMove s := by
  refine .bind (.atomic fun s1 _ u s2 h => decideApprovalTx env a decision notes actor nonce h)
    fun severe s2 => ?_
  split
  · exact .query _ refl
  · exact .pure _

end PendingMove

/-- **Every request** moves pending changes and their requests together. -/
theorem Op.pendingMoves (env : Env) (op : Op) (s : Db) :
    (op.prog env).Follows historyCells PendingMove s := by
  cases op with
  | submitChange c actor nonce =>
    exact .bind (.atomic fun s1 _ u s2 h => PendingMove.submitChangeRecord env c actor nonce h)
      fun _ _ => .pure _
  | saveWindow c req actor =>
    exact .read PendingMove.refl fun s1 row _ _ => .bind (.read PendingMove.refl fun s2 _ _ _ =>
      .read PendingMove.refl fun s3 now _ _ => .atomic fun s4 _ u s5 h =>
        PendingMove.saveChangeWindow h) fun _ _ => .pure _
  | bindExecution req => exact PendingMove.bindExecution env req
  | requestException req actor => exact PendingMove.requestException env req actor
  | approveException e actor user => exact PendingMove.approveException e actor user
  | rejectException e actor user => exact PendingMove.rejectException e actor user
  | claimNext runnerId registered token nonce =>
    exact PendingMove.claimNext env runnerId registered token nonce
  | startStep execution step call => exact PendingMove.startStep env execution step call
  | pollApproval execution step call => exact PendingMove.pollApproval env execution step call
  | readApproval a =>
    exact .read PendingMove.refl fun s1 r _ _ =>
      .bind (PendingMove.getApprovalStatus env _) fun _ _ => .pure _
  | decideApproval a decision notes actor nonce =>
    exact PendingMove.decideApproval env a decision notes actor nonce
  | recoverExpiredApprovals batchSize =>
    exact .read PendingMove.refl fun s1 now _ _ => .read PendingMove.refl fun s2 overdue _ _ =>
      .forEach (fun a _ => .atomic fun s3 _ u s4 h =>
        PendingMove.recoverExpiredApproval env a.id now h) overdue s2
  | _ =>
    exact Op.follows_of_frame (C := pendingCells) (fun _ _ _ => PendingMove.quiet) _
      (by dsimp only [Op.cells]; decide) s

-- ════════════════════════════════════════════════════════════════════════
-- The invariant
-- ════════════════════════════════════════════════════════════════════════

/-- Every pending change is linked to a pending request. -/
def Waits (s : Db) : Prop :=
  ∀ c row, s.changes.get? c = some row → row.status = .pendingApproval →
    ∃ a r, row.approvalRequest = some a ∧ s.approvals.get? a = some r ∧ r.status = .pending

/-- The request that a change is linked to is about this change. -/
def LinksOwnRequest (s : Db) : Prop :=
  ∀ c a, s.ApprovalOf c a → ∃ r, s.approvals.get? a = some r ∧ r.subjectType = .changeRecord ∧
    r.subjectId = c

/-- `Waits`, by the cells of pending changes. -/
def WaitsFor (s : Db) : Prop :=
  ∀ c, s.ChangeIn .pendingApproval c → ∃ a r, s.ApprovalOf c a ∧ s.approvals.get? a = some r ∧
    r.status = .pending

theorem WaitsFor.waits {s : Db} (h : WaitsFor s) : Waits s := by
  intro c row hrow hstatus
  obtain ⟨a, r, ⟨row', hrow', hlink⟩, hr, hopen⟩ := h c ⟨row, hrow, hstatus⟩
  rw [hrow] at hrow'
  cases hrow'
  exact ⟨a, r, hlink, hr, hopen⟩

/-- No window voids an approval. -/
def NothingVoided : Admission := fun n s => ¬Voids n s

namespace LinksOwnRequest

variable {n : TxName} {s s' : Db}

/-- Links stay right when the requests keep what they are about. -/
theorem of_same (h : LinksOwnRequest s) (hsame : SameOn [.changeApproval] s s')
    (hhistory : SameOn historyCells s s') : LinksOwnRequest s' := by
  intro c a hlink
  obtain ⟨r, hr, hsubject, hid⟩ := h c a ((hsame .changeApproval (by decide) c a).2 hlink)
  obtain ⟨r', hr', hevolves⟩ := hhistory .approvalHistory (by decide) a r hr
  have hidentity := hevolves.identity
  simp only [ApprovalRequest.identity, Prod.mk.injEq] at hidentity
  exact ⟨r', hr', hidentity.1.trans hsubject, hidentity.2.1.trans hid⟩

/-- A submission links its change to the new request; the others keep theirs. -/
theorem submit (h : LinksOwnRequest s) {c a : ℕ} {r : ApprovalRequest}
    (hnew : s'.approvals.get? a = some r) (hsubject : r.subjectType = .changeRecord)
    (hid : r.subjectId = c)
    (hlink : ∀ i b, s'.ApprovalOf i b ↔ if i = c then b = a else s.ApprovalOf i b)
    (hkept : ∀ b r, s.approvals.get? b = some r → s'.approvals.get? b = some r) :
    LinksOwnRequest s' := by
  intro i b hi
  rw [hlink] at hi
  split_ifs at hi with hc
  · subst hi hc
    exact ⟨r, hnew, hsubject, hid⟩
  · obtain ⟨r', hr', hsubject', hid'⟩ := h i b hi
    exact ⟨r', hkept b r' hr', hsubject', hid'⟩

end LinksOwnRequest

/-- The invariants of pending changes and the ledger. -/
structure PendingInvariant (s : Db) : Prop where
  ledger : LedgerInvariant s
  links : LinksOwnRequest s
  waits : WaitsFor s

namespace PendingInvariant

variable {n : TxName} {s s' : Db}

theorem initial (reference : Reference) (now : Time) :
    PendingInvariant (.initial reference now) :=
  ⟨.initial reference now, by simp [LinksOwnRequest, Db.ApprovalOf, Db.initial],
    by simp [WaitsFor, Db.ChangeIn, Db.initial]⟩

/-- The request of a change is not the request of an exception. -/
theorem not_linked_exception (h : PendingInvariant s) {c a e : ℕ} {exc : ChangeException}
    (hlink : s.ApprovalOf c a) (hexc : s.exceptions.get? e = some exc) :
    exc.approvalRequest ≠ some a := by
  intro hrequest
  obtain ⟨r, hr, hsubject, -⟩ := h.links c a hlink
  obtain ⟨r', hr', hsubject', -⟩ := h.ledger.linked.link e exc a hexc hrequest
  rw [hr] at hr'
  cases hr'
  rw [hsubject] at hsubject'
  cases hsubject'

/-- **A step that voids no approval** leaves every pending change a pending request. -/
theorem waitsFor (h : PendingInvariant s) (hmove : PendingMove n s s') (hvoids : ¬Voids n s) :
    WaitsFor s' := by
  cases hmove with
  | foreign hpending hsame hkept =>
    intro c hc
    obtain ⟨a, r, hlink, hr, hopen⟩ := h.waits c (hpending c hc)
    obtain ⟨r', hr', hsubject, -⟩ := h.links c a hlink
    rw [hr] at hr'
    cases hr'
    exact ⟨a, r, (hsame .changeApproval (by decide) c a).1 hlink,
      hkept a r hr hsubject fun e exc => h.not_linked_exception hlink, hopen⟩
  | submit c a r hnew hopen hsubject hid hpending hlink hkept =>
    intro i hi
    by_cases hc : i = c
    · exact ⟨a, r, (hlink i a).2 (by rw [if_pos hc]), hnew, hopen⟩
    · obtain ⟨b, r', hlink', hr', hopen'⟩ := h.waits i ((hpending i hi).resolve_left hc)
      exact ⟨b, r', (hlink i b).2 (by rwa [if_neg hc]), hkept b r' hr', hopen'⟩
  | decide c a hlink hpending hsame hkept =>
    intro i hi
    obtain ⟨hne, hold⟩ := hpending i hi
    obtain ⟨b, r, hlink', hr, hopen⟩ := h.waits i hold
    -- two changes are not linked to one request
    have hb : b ≠ a := by
      rintro rfl
      obtain ⟨r1, hr1, -, hid1⟩ := h.links c b hlink
      obtain ⟨r2, hr2, -, hid2⟩ := h.links i b hlink'
      rw [hr1] at hr2
      cases hr2
      exact hne (hid2.symm.trans hid1)
    exact ⟨b, r, (hsame .changeApproval (by decide) i b).1 hlink', (hkept b hb).trans hr, hopen⟩
  | restate a r hbefore hopen hdecided =>
    obtain ⟨i, d, hd, rfl⟩ := hdecided
    obtain ⟨r', hr', -, hdone⟩ := h.ledger.balanced.request i d hd
    rw [hbefore] at hr'
    cases hr'
    exact absurd hopen hdone
  | void hvoid => exact absurd hvoid hvoids

theorem linksOwnRequest (h : PendingInvariant s) (hmove : PendingMove n s s')
    (hhistory : SameOn historyCells s s') (hvoids : ¬Voids n s) : LinksOwnRequest s' := by
  cases hmove with
  | foreign _ hsame _ => exact h.links.of_same hsame hhistory
  | submit c a r hnew _ hsubject hid _ hlink hkept =>
    exact h.links.submit hnew hsubject hid hlink hkept
  | decide _ _ _ _ hsame _ => exact h.links.of_same hsame hhistory
  | restate a r hbefore hopen hdecided =>
    obtain ⟨i, d, hd, rfl⟩ := hdecided
    obtain ⟨r', hr', -, hdone⟩ := h.ledger.balanced.request i d hd
    rw [hbefore] at hr'
    cases hr'
    exact absurd hopen hdone
  | void hvoid => exact absurd hvoid hvoids

end PendingInvariant

/-- **A pending change waits** for a pending request, in every interleaving in which no window
voids an approval. -/
theorem pending_change_waits {env : Env} {s : Db} (h : Interleaved env NothingVoided s) :
    Waits s := by
  suffices PendingInvariant s from this.waits.waits
  refine h.invariant (I := PendingInvariant)
    (fun op s => ((op.ledgerMoves env s).and (op.pendingMoves env s)).and (op.history env s))
    .initial ?_
  rintro n s s' ⟨⟨hledger, hmove⟩, hhistory⟩ hadmitted hinv
  exact ⟨hinv.ledger.move hledger, hinv.linksOwnRequest hmove hhistory hadmitted,
    hinv.waitsFor hmove hadmitted⟩

/-- A change that is approved for later and gets another window. -/
def voidedRun : Db :=
  runOps .sample
    [.createChange { ChangeRequest.sample with scheduledFor := some 100 } .sample,
      .submitChange 0 .sample "nonce", .decideApproval 0 .approved "" .sample "nonce",
      .saveWindow 0 { startsAt := 50, endsAt := 150 } .sample]
    (.initial (.sample { OperationProfile.sample with requiresApproval := true }) 0)

/-- A new window leaves the change pending, and its request approved. -/
theorem voided_change_waits_for_nothing :
    ¬∀ (env : Env) (s : Db), Interleaved env anyAdmission s → Waits s := by
  intro h
  obtain ⟨hpending, hdecided⟩ : (voidedRun.changes.get? 0).any
        (fun row => row.status = .pendingApproval && row.approvalRequest = some 0) = true ∧
      (voidedRun.approvals.get? 0).any (·.status = .approved) = true := by
    decide +kernel
  obtain ⟨row, hrow, hstatus⟩ := (Option.any_eq_true _ _).1 hpending
  obtain ⟨r, hr, happroved⟩ := (Option.any_eq_true _ _).1 hdecided
  simp only [Bool.and_eq_true, decide_eq_true_eq] at hstatus happroved
  obtain ⟨a, r', hlink, hr', hopen⟩ :=
    h .sample voidedRun (Reachable.sample _ _).interleaved 0 row hrow hstatus.1
  rw [hstatus.2, Option.some.injEq] at hlink
  subst hlink
  rw [hr] at hr'
  cases hr'
  rw [happroved] at hopen
  cases hopen

/-- A change that was submitted for approval. -/
def submittedRun : Db :=
  runOps .sample [.createChange .sample .sample, .submitChange 0 .sample "nonce"]
    (.initial (.sample { OperationProfile.sample with requiresApproval := true }) 0)

/-- The transaction saves no window. -/
def TxName.savesNoWindow : TxName → Bool
  | .saveWindow _ => false
  | _ => true

theorem pending_change_waits_submitted : Waits submittedRun := by
  have hadmitted : ∀ n s, TxName.savesNoWindow n = true → NothingVoided n s := by
    rintro n s hn ⟨c, row, profile, rfl, -⟩
    cases hn
  have hinitial : Reachable .sample NothingVoided (.initial (.sample
    { OperationProfile.sample with requiresApproval := true }) 0) := .initial _ _
  have hcreated := hinitial.request (.createChange .sample .sample)
    (meets_of_names hadmitted (by decide))
  exact pending_change_waits (hcreated.request (.submitChange 0 .sample "nonce")
    (meets_of_names hadmitted (by decide))).interleaved

end RunbookPlatform
