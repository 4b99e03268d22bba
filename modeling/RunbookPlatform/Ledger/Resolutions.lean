import RunbookPlatform.Ledger.Steps

/-!
# Transactions that resolve requests

A timeout, a decision through the request, and a decision through its exception: each
resolves a request and writes its decision in one transaction.

## Main results

- `LedgerSteps.resolveTimeout`, `LedgerSteps.recoverExpiredApproval` — timeouts
- `LedgerSteps.approveExceptionTx`, `LedgerSteps.rejectExceptionTx` — decisions on exceptions
- `LedgerSteps.decideApprovalTx` — decisions on requests
-/

namespace RunbookPlatform

open Transactional

set_option synthInstance.maxSize 1000

/-- A resolution starts as well in a state with the same requests and decisions. -/
theorem Resolved.of_same {a : ℕ} {r : ApprovalRequest} {d : ApprovalDecision} {s s1 s' : Db}
    (h : Resolved a r d s1 s') (hsame : SameOn [.clock, .approvals, .decisions] s s1) :
    Resolved a r d s s' := by
  have hclock : s.now = s1.now := hsame .clock (by decide)
  have happrovals : s.approvals = s1.approvals := hsame .approvals (by decide)
  have hdecisions : s.decisions = s1.decisions := hsame .decisions (by decide)
  exact ⟨happrovals ▸ h.before, h.pending, h.request, h.final, happrovals ▸ h.approvals,
    hdecisions ▸ h.decisions, hclock.trans h.clock⟩

namespace LedgerSteps

variable {lapses : ℕ → ChangeException → Prop} {s s' : Db}

/-- A pending request gets its status and its only decision. -/
theorem resolved_of_insertUnique {W : List Cell} {hW : Within [Cell.decisions] W} {a i : ℕ}
    {r : ApprovalRequest} {d : ApprovalDecision} {now : Time} {clash : ApprovalDecision → Bool}
    {s1 : Db} {u : Unit} (hbefore : s.approvals.get? a = some r) (hpending : r.status = .pending)
    (hrequest : d.approvalRequest = a) (hfinal : d.decision ≠ .pending)
    (hresolve : (resolveRequest a d.decision now).run s = .ok (u, s1))
    (hinsert : (insertUnique (W := W) Rel.decisions clash d).run s1 = .ok (i, s')) :
    Resolved a r d s s' ∧ s'.exceptions = s.exceptions := by
  rw [resolveRequest, updateRow_ok] at hresolve
  subst hresolve
  obtain ⟨-, -, rfl⟩ := insertUnique_ok.1 hinsert
  exact ⟨⟨hbefore, hpending, hrequest, hfinal, ⟨now, rfl⟩, rfl, rfl⟩, rfl⟩

-- ════════════════════════════════════════════════════════════════════════
-- Timeouts
-- ════════════════════════════════════════════════════════════════════════

/-- A pending request times out: it gets its decision, unless it has one. -/
theorem timeOut {a organization : ℕ} {now : Time} {r : ApprovalRequest} {s1 : Db} {u : Unit}
    {created : Bool} (hbefore : s.approvals.get? a = some r) (hpending : r.status = .pending)
    (hsubject : r.subjectType = .changeException → r.expiresAt ≠ none)
    (hresolve : (resolveRequest a .timedOut now).run s = .ok (u, s1))
    (hdecision : (getOrCreateTimeoutDecision a organization now).run s1 = .ok (created, s')) :
    LedgerSteps lapses s s' := by
  have h1 : SameOn [.clock, .decisions, .exceptions] s s1 := Tx.sameOn hresolve _ (by decide)
  have happrovals : s1.approvals = s.approvals.modify a (resolveApproval .timedOut now) := by
    rw [resolveRequest, updateRow_ok] at hresolve
    rw [hresolve]
    rfl
  simp only [getOrCreateTimeoutDecision, Tx.bind_ok, Tx.lift_query_ok, select_ok] at hdecision
  obtain ⟨exists?, _, ⟨hexists, rfl⟩, h⟩ := hdecision
  split_ifs at h with hdecided
  · -- the decision is there
    simp only [Tx.run_pure, Except.ok.injEq, Prod.mk.injEq] at h
    obtain ⟨-, rfl⟩ := h
    rw [hdecided, Option.isSome_iff_exists] at hexists
    obtain ⟨⟨i, d⟩, hfound⟩ := hexists
    obtain ⟨hd, hrequest⟩ := Table.find?_some hfound
    have hdecisions : s.decisions = s1.decisions := h1 .decisions (by decide)
    exact .single (.restate a r now hbefore hpending
      ⟨i, d, hdecisions ▸ hd, by simpa using hrequest⟩ happrovals h1)
  · simp only [Tx.bind_ok, insertRow_ok, Tx.run_lift, Tx.run_pure, Except.ok.injEq,
      Prod.mk.injEq] at h
    obtain ⟨i, s2, ⟨-, rfl⟩, _, s3, hemit, -, rfl⟩ := h
    have hdecisions : s.decisions = s1.decisions := h1 .decisions (by decide)
    have hexceptions : s.exceptions = s1.exceptions := h1 .exceptions (by decide)
    refine (Relation.ReflTransGen.single (.resolve a r (timeoutDecision a now) ?_ hsubject ?_ ?_)).tail
      (.quiet (Tx.sameOn hemit _ (by decide)))
    · refine ⟨hbefore, hpending, rfl, by simp [timeoutDecision], ⟨now, happrovals⟩, ?_, h1 .clock (by decide)⟩
      rw [hdecisions]
      rfl
    · rintro ⟨⟩
    · exact hexceptions.symm

/-- The transaction of a reader who found the deadline over. -/
theorem resolveTimeout (env : Env) (a : ℕ) (now : Time)
    (hdeadline : ∀ r, s.approvals.get? a = some r → r.expiresAt ≠ none) :
    (resolveTimeout env a now).FollowsFrom (LedgerSteps lapses) s := by
  refine .query fun r hr => ?_
  rw [lookup_ok] at hr
  split
  · exact (Tx.Follows.pure r).from s
  · rename_i hpending
    rw [ne_eq, not_not] at hpending
    intro r' s' h
    simp only [Tx.bind_ok, Tx.run_widen] at h
    obtain ⟨_, s1, hresolve, created, s2, hdecision, h⟩ := h
    refine (timeOut hr hpending (fun _ => hdeadline r hr) hresolve hdecision).trans ?_
    have hrest : (do
        if r.subjectType = .changeRecord then
          (timeOutChangeApproval env a systemActor).widen
        pure (resolveApproval .timedOut now r) : Service approvalStatusCells ApprovalRequest).Follows
          (LedgerSteps lapses) := by
      dsimp only
      split
      · exact .bind (.widen (frame _ (by decide))) fun _ => .pure _
      · exact .bind (.pure _) fun _ => .pure _
    exact hrest _ _ _ h

/-- The object is one that was loaded from the request's row. -/
def IsLoaded (approval : Loaded ApprovalRequest) (s : Db) : Prop :=
  ∃ r, s.approvals.get? approval.id = some r ∧ r.identity = approval.row.identity

theorem IsLoaded.later {approval : Loaded ApprovalRequest} (h : IsLoaded approval s)
    {H : List Cell} (hH : Cell.approvalHistory ∈ H) (hsame : SameOn H s s') :
    IsLoaded approval s' := by
  obtain ⟨r, hr, hid⟩ := h
  obtain ⟨r', hr', hevolves⟩ := hsame .approvalHistory hH _ _ hr
  exact ⟨r', hr', hevolves.identity.trans hid⟩

/-- `get_approval_status` resolves a request that has a deadline. -/
theorem getApprovalStatus (env : Env) {approval : Loaded ApprovalRequest}
    {R : TxName → Db → Db → Prop} (hR : ∀ n s s', (∀ L, LedgerSteps L s s') → R n s s')
    (hloaded : IsLoaded approval s) :
    (getApprovalStatus env approval).Follows historyCells R s := by
  refine .read (fun _ => hR _ _ _ fun _ => .refl) fun s1 now h1 _ => ?_
  split
  · rename_i hover
    refine .atomic fun s2 h2 r s3 h3 => hR _ _ _ fun L => ?_
    refine resolveTimeout env approval.id now (fun r hr => ?_) r s3 h3
    obtain ⟨r', hr', hid⟩ := hloaded.later (by decide) (h1.trans h2)
    rw [hr] at hr'
    cases hr'
    have hexpires : r.expiresAt = approval.row.expiresAt := congrArg (·.2.2.2) hid
    rw [hexpires]
    intro hnone
    simp [ApprovalRequest.isOverdue, hnone] at hover
  · exact .pure _

theorem timeOutSubject (env : Env) (a : ℕ) (r : ApprovalRequest) (now : Time) :
    (timeOutSubject env a r now).Follows (LedgerSteps lapses) := by
  unfold RunbookPlatform.timeOutSubject
  split
  · exact .widen (frame _ (by decide))
  · split
    · exact .bind (.widen (frame _ (by decide))) fun _ => .pure _
    · exact .pure _

theorem overdue_deadline {r : ApprovalRequest} {now : Time} (h : r.isOverdue now = true) :
    r.status = .pending ∧ r.expiresAt ≠ none := by
  simp only [ApprovalRequest.isOverdue, Bool.and_eq_true, decide_eq_true_eq] at h
  refine ⟨h.1, fun hnone => ?_⟩
  simp [hnone] at h

theorem recoverExpiredApproval (env : Env) (a : ℕ) (now : Time) :
    (recoverExpiredApproval env a now).Follows (LedgerSteps lapses) := by
  intro s u s' h
  simp only [RunbookPlatform.recoverExpiredApproval, Tx.bind_ok, Tx.lift_query_ok, select_ok] at h
  obtain ⟨found, _, ⟨hfound, rfl⟩, h⟩ := h
  cases found with
  | none => exact (Tx.Follows.pure _) _ _ _ h
  | some r =>
    obtain ⟨hr, hover⟩ := Option.filter_eq_some_iff.1 hfound
    obtain ⟨hpending, hdeadline⟩ := overdue_deadline hover
    simp only [Tx.bind_ok, Tx.run_lift, Tx.run_widen] at h
    obtain ⟨_, s1, hresolve, created, s2, hdecision, h⟩ := h
    refine (timeOut hr hpending (fun _ => hdeadline) hresolve hdecision).trans ?_
    split_ifs at h
    · exact (Tx.Follows.bind (.lift (frame _ (by decide))) fun _ => timeOutSubject env a r now) _ _ _ h
    · exact (Tx.Follows.pure _) _ _ _ h

/-- The timeout that a decision finds. -/
theorem decideOverdue (env : Env) {a : ℕ} {r : ApprovalRequest} {now : Time}
    (hbefore : s.approvals.get? a = some r) (hover : r.isOverdue now = true) :
    (decideOverdue env a r now).FollowsFrom (LedgerSteps lapses) s := by
  obtain ⟨hpending, hdeadline⟩ := overdue_deadline hover
  intro u s' h
  simp only [RunbookPlatform.decideOverdue, Tx.bind_ok, Tx.run_lift] at h
  obtain ⟨_, s1, hresolve, i, s2, hinsert, _, s3, hemit, h⟩ := h
  obtain ⟨hresolved, hexceptions⟩ :=
    resolved_of_insertUnique (d := timeoutDecision a now) hbefore hpending rfl nofun hresolve
      hinsert
  have hrest : (do
      emitApprovalDecision r.organization i .timedOut systemActor
      if r.subjectType = .changeRecord then
        (timeOutChangeApproval env a systemActor).widen
      : Service approvalStatusCells Unit).Follows (LedgerSteps lapses) := by
    refine .bind (.lift (frame _ (by decide))) fun _ => ?_
    split
    · exact .widen (frame _ (by decide))
    · exact .pure _
  refine (Relation.ReflTransGen.single (.resolve a r (timeoutDecision a now) hresolved
    (fun _ => hdeadline) nofun hexceptions)).trans (hrest s2 u s' ?_)
  simp only [Tx.bind_ok, Tx.run_lift]
  exact ⟨_, s3, hemit, h⟩

-- ════════════════════════════════════════════════════════════════════════
-- Decisions on exceptions
-- ════════════════════════════════════════════════════════════════════════

/-- What `lockPendingException` leaves: the exception is still pending. -/
structure LockedPending (e : ℕ) (exc : ChangeException) (s s' : Db) : Prop where
  row : s'.exceptions.get? e = some exc
  pending : exc.status = .pendingApproval
  link : ∀ old, s.exceptions.get? e = some old → exc.approvalRequest = old.approvalRequest
  same : SameOn [.clock, .approvals, .decisions] s s'

theorem lockPendingException {e : ℕ} {verb detail : String} {exc : ChangeException}
    (hlapses : ∀ old, s.exceptions.get? e = some old →
      ∀ i x, overdueOf old.changeRecord s.now i x → lapses i x)
    (h : (lockPendingException e verb detail).run s = .ok (exc, s')) :
    LedgerSteps lapses s s' ∧ LockedPending e exc s s' := by
  have hsame : SameOn [.clock, .approvals, .decisions] s s' := Tx.sameOn h _ (by decide)
  simp only [RunbookPlatform.lockPendingException, Tx.bind_ok, Tx.lift_query_ok, lookup_ok,
    Tx.run_widen, sweepExceptions_ok, ensure_ok, Tx.run_pure, Except.ok.injEq, Prod.mk.injEq] at h
  obtain ⟨old, _, ⟨hold, rfl⟩, _, s1, hexpire, new, _, ⟨hnew, rfl⟩, _, _, ⟨-, rfl⟩, _, _,
    ⟨hpending, rfl⟩, rfl, rfl⟩ := h
  have hsteps : LedgerSteps lapses s s1 := by
    have hfollows : (expireExceptions old.changeRecord s.now).Follows historyCells
        (fun _ => LedgerSteps lapses) s :=
      expireExceptions_follows (by decide) (by decide) (fun _ _ _ => quiet)
        fun i s2 u s3 hover hsave => lapseException_ledger hsave
          fun x hx => hlapses old hold i x (hover x hx)
    exact (Tx.FollowsFrom.ofProg hfollows) _ _ hexpire
  refine ⟨hsteps, ⟨hnew, hpending, fun old' hold' => ?_, hsame⟩⟩
  obtain ⟨exc', hexc', hlink⟩ := hsteps.link hold'
  rw [hnew] at hexc'
  cases hexc'
  exact hlink

/-- An exception is decided directly, and its request with it. -/
theorem settleWithRequest {e : ℕ} {exc : ChangeException} {f : ChangeException → ChangeException}
    {hid hstatus} {decision : ApprovalStatus} {actor : AuditActor} {user : Option String}
    {now : Time} {s1 : Db} {u u' : Unit} (hrow : s.exceptions.get? e = some exc)
    (hpending : exc.status = .pendingApproval)
    (hsave : (settleException e f hid hstatus).run s = .ok (u, s1))
    (hresolve : (resolveLinkedApproval exc.approvalRequest decision actor user now).run s1 =
      .ok (u', s')) (hlink : ∀ x, (f x).approvalRequest = x.approvalRequest)
    (hfinal : decision ≠ .pending) : LedgerSteps lapses s s' := by
  have hsame : SameOn [.clock, .approvals, .decisions] s s1 := Tx.sameOn hsave _ (by decide)
  have hafter : exc.Settles (f exc) := ⟨hstatus exc, hlink exc⟩
  have hreplaced : s.exceptions.Replaced e exc (f exc) s1.exceptions := by
    rw [settleException_ok.1 hsave]
    exact .modify hrow f
  have happrovals : s.approvals = s1.approvals := hsame .approvals (by decide)
  cases hrequest : exc.approvalRequest with
  | none =>
    rw [hrequest] at hresolve
    obtain ⟨-, rfl⟩ : u' = () ∧ s1 = s' := by
      simpa [resolveLinkedApproval] using hresolve
    refine .single (.decideAlone e exc (f exc) hpending (fun a r ha => ?_) hreplaced hafter hsame)
    rw [hrequest] at ha
    cases ha
  | some a =>
    rw [hrequest] at hresolve
    simp only [resolveLinkedApproval, Tx.bind_ok, Tx.lift_query_ok, lookup_ok] at hresolve
    obtain ⟨r, _, ⟨hr, rfl⟩, h⟩ := hresolve
    split_ifs at h with hopen
    · simp only [Tx.bind_ok, Tx.run_lift, Tx.run_pure, Except.ok.injEq, Prod.mk.injEq] at h
      obtain ⟨_, s2, hresolve, i, s3, hinsert, -, rfl⟩ := h
      obtain ⟨hresolved, hexceptions⟩ :=
        resolved_of_insertUnique hr hopen (by rfl) hfinal hresolve hinsert
      exact .single (.decide e exc (f exc) a r _ hpending hrequest (hresolved.of_same hsame)
        (hexceptions ▸ hreplaced) hafter)
    · obtain ⟨-, rfl⟩ : u' = () ∧ s1 = s' := by
        simpa using h
      refine .single (.decideAlone e exc (f exc) hpending (fun a' r' ha' hr' => ?_) hreplaced
        hafter hsame)
      rw [hrequest] at ha'
      cases ha'
      rw [happrovals, hr] at hr'
      cases hr'
      exact hopen

theorem requireRetroReview (exc : ChangeException) :
    (requireRetroReview exc).Follows (LedgerSteps lapses) := frame _ (by decide)

/-- `approve_exception`. -/
theorem approveExceptionTx (e : ℕ) (actor : AuditActor) (user : Option String)
    (hlapses : ∀ old, s.exceptions.get? e = some old →
      ∀ i x, overdueOf old.changeRecord s.now i x → lapses i x) :
    (approveExceptionTx e actor user).FollowsFrom (LedgerSteps lapses) s := by
  intro exc s' h
  simp only [RunbookPlatform.approveExceptionTx, Tx.bind_ok, Tx.run_widen, Tx.run_lift,
    Tx.lift_query_ok, Tx.run_pure, Except.ok.injEq, Prod.mk.injEq] at h
  obtain ⟨row, s1, hlock, now, _, ⟨-, rfl⟩, _, s2, hsave, _, s3, hresolve, _, s4, hrequire, rfl,
    rfl⟩ := h
  obtain ⟨hsteps, hlocked⟩ := lockPendingException hlapses hlock
  have hdecided : LedgerSteps lapses s1 s3 :=
    settleWithRequest hlocked.row hlocked.pending hsave hresolve (fun _ => rfl) (by simp)
  exact (hsteps.trans hdecided).trans (requireRetroReview row _ _ _ hrequire)

/-- `reject_exception`. -/
theorem rejectExceptionTx (e : ℕ) (actor : AuditActor) (user : Option String)
    (hlapses : ∀ old, s.exceptions.get? e = some old →
      ∀ i x, overdueOf old.changeRecord s.now i x → lapses i x) :
    (rejectExceptionTx e actor user).FollowsFrom (LedgerSteps lapses) s := by
  intro exc s' h
  simp only [RunbookPlatform.rejectExceptionTx, Tx.bind_ok, Tx.run_widen, Tx.run_lift,
    Tx.lift_query_ok, Tx.run_pure, Except.ok.injEq, Prod.mk.injEq] at h
  obtain ⟨row, s1, hlock, now, _, ⟨-, rfl⟩, _, s2, hsave, _, s3, hresolve, rfl, rfl⟩ := h
  obtain ⟨hsteps, hlocked⟩ := lockPendingException hlapses hlock
  exact hsteps.trans
    (settleWithRequest hlocked.row hlocked.pending hsave hresolve (fun _ => rfl) (by simp))

-- ════════════════════════════════════════════════════════════════════════
-- Decisions on requests
-- ════════════════════════════════════════════════════════════════════════

/-- What a decision on a request does to its exception. -/
structure DecidedException (a e : ℕ) (exc exc' : ChangeException) (s s' : Db) : Prop where
  pending : exc.status = .pendingApproval
  link : exc.approvalRequest = some a
  replaced : s.exceptions.Replaced e exc exc' s'.exceptions
  after : exc.Settles exc'
  same : SameOn [.clock, .approvals, .decisions] s s'

/-- The save of a decided exception, between writes to other tables. -/
theorem decidedException_of_settle {a e : ℕ} {exc : ChangeException}
    {f : ChangeException → ChangeException} {hid hstatus} {s1 s2 : Db} {u : Unit}
    (hrow : s.exceptions.get? e = some exc) (hpending : exc.status = .pendingApproval)
    (hrequest : exc.approvalRequest = some a) (h1 : SameOn ledgerCells s s1)
    (hsave : (settleException e f hid hstatus).run s1 = .ok (u, s2))
    (h2 : SameOn ledgerCells s2 s') (hlink : ∀ x, (f x).approvalRequest = x.approvalRequest) :
    DecidedException a e exc (f exc) s s' := by
  have hsave' : SameOn [.clock, .approvals, .decisions] s1 s2 := Tx.sameOn hsave _ (by decide)
  have hexceptions : s'.exceptions = s.exceptions.modify e f := by
    have h1' : s.exceptions = s1.exceptions := h1 .exceptions (by decide)
    have h2' : s2.exceptions = s'.exceptions := h2 .exceptions (by decide)
    rw [← h2', settleException_ok.1 hsave, h1']
  refine ⟨hpending, hrequest, hexceptions ▸ .modify hrow f, ⟨hstatus exc, hlink exc⟩, ?_⟩
  exact ((h1.mono (by decide)).trans hsave').trans (h2.mono (by decide))

theorem applyExceptionApprovalDecision {a organization : ℕ} {decision : HumanDecision}
    {actor : AuditActor} {user : Option String} {severe : Option (Loaded ChangeException)}
    (hlapses : ∀ e exc, exceptionOf? a organization s = some (e, exc) →
      ∀ i x, overdueOf exc.changeRecord s.now i x → lapses i x)
    (h : (applyExceptionApprovalDecision a organization decision actor user).run s =
      .ok (severe, s')) :
    ∃ e exc exc' s1, LedgerSteps lapses s s1 ∧ SameOn [.clock, .approvals, .decisions] s s1 ∧
      DecidedException a e exc exc' s1 s' := by
  simp only [RunbookPlatform.applyExceptionApprovalDecision, Tx.bind_ok, Tx.lift_query_ok,
    select_ok, expect_ok, Tx.run_widen] at h
  obtain ⟨found, _, ⟨hfound, rfl⟩, ⟨e, old⟩, _, ⟨rfl, rfl⟩, exc, s1, hlock, now, _, ⟨-, rfl⟩, h⟩ := h
  obtain ⟨hold, htest⟩ := Table.find?_some hfound
  simp only [Bool.and_eq_true, decide_eq_true_eq] at htest
  have hover : ∀ old', s.exceptions.get? e = some old' →
      ∀ i x, overdueOf old'.changeRecord s.now i x → lapses i x := by
    intro old' hold'
    rw [hold] at hold'
    cases hold'
    exact hlapses e old hfound
  obtain ⟨hsteps, hlocked⟩ := lockPendingException hover hlock
  have hrequest : exc.approvalRequest = some a := (hlocked.link old hold).trans htest.1
  cases decision with
  | approved =>
    simp only [Tx.bind_ok, Tx.run_widen, Tx.run_lift, Tx.run_pure, Except.ok.injEq,
      Prod.mk.injEq] at h
    obtain ⟨_, s2, hassert, _, s3, hsave, _, s4, hrequire, _, s5, hemit, -, rfl⟩ := h
    exact ⟨e, exc, _, s1, hsteps, hlocked.same, decidedException_of_settle hlocked.row
      hlocked.pending hrequest (Tx.sameOn hassert _ (by decide)) hsave
      ((Tx.sameOn hrequire _ (by decide)).trans (Tx.sameOn hemit _ (by decide))) fun _ => rfl⟩
  | rejected =>
    simp only [Tx.bind_ok, Tx.run_lift, Tx.run_pure, Except.ok.injEq, Prod.mk.injEq] at h
    obtain ⟨_, s2, hsave, _, s3, hemit, -, rfl⟩ := h
    exact ⟨e, exc, _, s1, hsteps, hlocked.same, decidedException_of_settle hlocked.row
      hlocked.pending hrequest (.refl _ _) hsave (Tx.sameOn hemit _ (by decide)) fun _ => rfl⟩

/-- A decision on a change dispatches it when nothing delays it. -/
theorem handleChangeApprovalDecision (env : Env) {a : ℕ} (decision : HumanDecision)
    (actor : AuditActor) (nonce : String)
    (hlapses : ∀ c row, changeOfApproval? a s = some (c, row) → decision = .approved →
      (∀ t ∈ row.scheduledFor, t ≤ s.now) → ∀ i x, overdueOf c s.now i x → lapses i x) :
    (handleChangeApprovalDecision env a decision actor nonce).FollowsFrom (LedgerSteps lapses) s := by
  refine .query fun c hc => .query fun now hnow => ?_
  cases decision with
  | rejected => exact (Tx.Follows.bind (.lift (frame _ (by decide))) fun _ => .pure _).from s
  | approved =>
    simp only [undecidedChange, Query.bind_ok, select_ok, expect_ok, ensure_ok] at hc
    obtain ⟨found, hfound, ⟨i, row⟩, rfl, -, -, -, -, hi⟩ := hc
    cases hi
    obtain ⟨hrow, -⟩ := Table.find?_some hfound
    refine .bind (.lift ((frame _ (by decide)).from s)) fun old s1 hmove h1 => .lift ?_
    have hclock : s.now = s1.now := h1.clock
    rw [Tx.run_lift] at hmove
    have hsame : SameOn [.changeIdentity] s s1 := Tx.sameOn hmove _ (by decide)
    refine scheduleOrMakeDispatchable env actor nonce fun hdue j x hover => ?_
    obtain ⟨row1, hrow1, hevolves⟩ := hsame .changeIdentity (by decide) _ row hrow
    refine hlapses i row hfound rfl (fun t ht => ?_) j x (hclock ▸ hover)
    rw [hclock]
    exact hdue row1 hrow1 t (hevolves.scheduledFor ▸ ht)

/-- The end of a decision on a request about something other than an exception: the request
is resolved in time. -/
theorem resolveInTime {W : List Cell} {hW : Within [Cell.decisions] W} {a i : ℕ}
    {r : ApprovalRequest} {d : ApprovalDecision} {now : Time} {clash : ApprovalDecision → Bool}
    {s1 : Db} {u : Unit} (hbefore : s.approvals.get? a = some r) (hpending : r.status = .pending)
    (hopen : r.isOverdue s.now = false) (hsubject : r.subjectType ≠ .changeException)
    (hrequest : d.approvalRequest = a) (hfinal : d.decision ≠ .pending)
    (hresolve : (resolveRequest a d.decision now).run s = .ok (u, s1))
    (hinsert : (insertUnique (W := W) Rel.decisions clash d).run s1 = .ok (i, s')) :
    LedgerSteps lapses s s' := by
  obtain ⟨hresolved, hexceptions⟩ :=
    resolved_of_insertUnique hbefore hpending hrequest hfinal hresolve hinsert
  refine .single (.resolve a r d hresolved (fun h => absurd h hsubject) (fun _ t ht => ?_)
    hexceptions)
  simp only [ApprovalRequest.isOverdue, hpending, decide_true, Bool.true_and, Option.mem_def] at hopen ht
  simpa [ht] using hopen

/-- `decide_approval`. -/
theorem decideApprovalTx (env : Env) (a : ℕ) (decision : HumanDecision) (notes : String)
    (actor : AuditActor) (nonce : String)
    (hlapses : ∀ c, Expires s (.decideApproval a decision) c →
      ∀ i x, overdueOf c s.now i x → lapses i x) :
    (decideApprovalTx env a decision notes actor nonce).FollowsFrom (LedgerSteps lapses) s := by
  refine .query fun r hr => .query fun now hnow => ?_
  rw [lookup_ok] at hr
  rw [timezoneNow, select_ok] at hnow
  subst hnow
  split
  · rename_i hover
    exact .bind (.widen (decideOverdue env hr hover)) fun _ s1 _ _ => (Tx.Follows.pure _).from s1
  · rename_i hopen
    rw [Bool.not_eq_true] at hopen
    refine .query fun _ hpending => ?_
    rw [ensure_ok] at hpending
    intro severe s' h
    simp only [Tx.bind_ok, Tx.run_lift, Tx.run_pure, Except.ok.injEq, Prod.mk.injEq] at h
    obtain ⟨severe, s1, hexc, _, s2, hresolve, i, s3, hinsert, _, s4, hemit, _, s5, hchange, rfl,
      rfl⟩ := h
    have hfinal : decision.status ≠ .pending := by cases decision <;> simp [HumanDecision.status]
    have h4 : LedgerSteps lapses s3 s4 := quiet (Tx.sameOn hemit _ (by decide))
    have h13 : SameOn [.clock, .changes] s1 s3 :=
      (Tx.sameOn hresolve _ (by decide)).trans (insertUnique_follows Rel.decisions _ _ (by decide) _ _ _ hinsert)
    have h34 : SameOn [.clock, .changes] s3 s4 := Tx.sameOn hemit _ (by decide)
    unfold decideException at hexc
    unfold decideChange at hchange
    by_cases hsubject : r.subjectType = .changeException
    · rw [if_pos hsubject, Tx.run_widen] at hexc
      rw [if_neg (by simp [hsubject])] at hchange
      obtain ⟨e, exc, exc', s0, hsteps, hsame0, hdecided⟩ := applyExceptionApprovalDecision
        (fun e exc hexc => hlapses _ (.decideRequest a decision r e exc hr hopen hsubject hexc)) hexc
      have h01 : s0.approvals = s1.approvals := hdecided.same .approvals (by decide)
      have h0 : s.approvals = s0.approvals := hsame0 .approvals (by decide)
      obtain ⟨hresolved, hexceptions⟩ := resolved_of_insertUnique (h01 ▸ h0 ▸ hr) hpending (by rfl)
        hfinal hresolve hinsert
      have h03 : LedgerSteps lapses s0 s3 := .single (.decide e exc exc' a r _ hdecided.pending
        hdecided.link (hresolved.of_same hdecided.same) (hexceptions ▸ hdecided.replaced)
        hdecided.after)
      exact ((hsteps.trans h03).trans h4).trans ((Tx.Follows.pure ()) _ _ _ hchange)
    · rw [if_neg hsubject] at hexc
      simp only [Tx.run_pure, Except.ok.injEq, Prod.mk.injEq] at hexc
      obtain ⟨-, rfl⟩ := hexc
      have h03 : LedgerSteps lapses s s3 :=
        resolveInTime hr hpending hopen hsubject (by rfl) hfinal hresolve hinsert
      refine (h03.trans h4).trans ?_
      split_ifs at hchange with hrecord
      · have hclock : s.now = s4.now := (h13.trans h34) .clock (by decide)
        have hchanges : s.changes = s4.changes := (h13.trans h34) .changes (by decide)
        refine handleChangeApprovalDecision env decision actor nonce
          (fun c row hc happroved hdue j x hover => ?_) _ _ hchange
        subst happroved
        rw [changeOfApproval?, ← hchanges] at hc
        exact hlapses c (.approve a r c row hr hopen hrecord hc (hclock ▸ hdue)) j x (hclock ▸ hover)
      · exact (Tx.Follows.pure ()) _ _ _ hchange

end LedgerSteps

end RunbookPlatform
