import RunbookPlatform.Served

/-!
# What is decided about exceptions

Every transaction of the platform, seen from what exceptions say apart from their expiry. An
exception is approved by the commits of two requests only, and both have looked at who
approves.

## Main definitions

- `Approves` — the commits that approve an exception, with the user
- `OutcomeMove` — the effects of a commit

## Main results

- `Op.outcomeMoves` — every request follows `OutcomeMove`
-/

namespace RunbookPlatform

open Transactional

set_option synthInstance.maxSize 1000

/-- The exception `i` stays as it is, or expires. -/
def SameOutcome (i : ℕ) (s s' : Db) : Prop :=
  s'.exceptions.get? i = s.exceptions.get? i ∨ ∃ old new : ChangeException,
    s.exceptions.get? i = some old ∧ s'.exceptions.get? i = some new ∧
      new = { old with status := .expired }

theorem sameOutcome_of_cell {s s' : Db} (h : SameOn [.exceptionOutcome] s s') (i : ℕ) :
    SameOutcome i s s' :=
  h .exceptionOutcome (by decide) i

/-- An exception that has not expired is as it was. -/
theorem SameOutcome.row {i : ℕ} {s s' : Db} {exc : ChangeException} (h : SameOutcome i s s')
    (hrow : s'.exceptions.get? i = some exc) (hstatus : exc.status ≠ .expired) :
    s.exceptions.get? i = some exc := by
  rcases h with h | ⟨old, new, -, hnew, rfl⟩
  · rw [← h, hrow]
  · rw [hrow] at hnew
    cases hnew
    exact absurd rfl hstatus

/-- The commit `n` of the request `op` approves, from `s`, the exception `i` for `user`. -/
inductive Approves (s : Db) : Op → TxName → ℕ → Option String → Prop where
  | direct (i : ℕ) (actor : AuditActor) (user : Option String) :
      Approves s (.approveException i actor user) (.decideException i) i user
  | linked (a : ℕ) (notes : String) (actor : AuditActor) (nonce : String) (r : ApprovalRequest)
      (i : ℕ) (exc : ChangeException) (hrequest : s.approvals.get? a = some r)
      (hexc : exceptionOf? a r.organization s = some (i, exc)) :
      Approves s (.decideApproval a .approved notes actor nonce) (.decideApproval a .approved) i
        actor.userId?

/-- What the commit `n` of the request `op` does to exceptions. When the request runs `alone`,
an approver of a severe exception is an admin. -/
inductive OutcomeMove (alone : Prop) (op : Op) (n : TxName) (s s' : Db) : Prop where
  | other (hsame : ∀ i, SameOutcome i s s')
  | request (i : ℕ) (exc : ChangeException) (hpending : exc.status = .pendingApproval)
      (hfree : s.exceptions.get? i = none) (hafter : s'.exceptions.get? i = some exc)
      (hothers : ∀ j, j ≠ i → SameOutcome j s s')
  | approve (i : ℕ) (exc : ChangeException) (user : Option String) (now : Time)
      (happroves : Approves s op n i user) (hexc : s.exceptions.get? i = some exc)
      (hpending : exc.status = .pendingApproval)
      (hself : ∀ u ∈ user, exc.requestedBy ≠ some u)
      (hadmin : alone → exc.exceptionType.isSevere = true → ∀ u ∈ user,
        isOrganizationAdmin exc.organization u s = true)
      (hafter : s'.exceptions.get? i = some (approveExceptionRow user now exc))
      (hothers : ∀ j, j ≠ i → SameOutcome j s s')
  | decline (i : ℕ) (exc exc' : ChangeException) (hexc : s.exceptions.get? i = some exc)
      (hafter : s'.exceptions.get? i = some exc') (hstatus : exc'.status ≠ .approved)
      (hothers : ∀ j, j ≠ i → SameOutcome j s s')

namespace OutcomeMove

variable {alone : Prop} {op : Op} {n : TxName} {s s' : Db} {H : List Cell}

theorem refl (s : Db) : OutcomeMove alone op n s s := .other fun _ => .inl rfl

theorem quiet (h : SameOn [.exceptionOutcome] s s') : OutcomeMove alone op n s s' :=
  .other (sameOutcome_of_cell h)

/-- **Frame rule**. -/
theorem frame {W : List Cell} {α : Type} (p : Handler W α) (s : Db)
    (hdisj : ∀ c ∈ [Cell.exceptionOutcome], c ∉ W) :
    p.Follows H (OutcomeMove alone op) s :=
  Prog.Follows.frame hdisj (fun _ _ _ => quiet) p s

/-- Between two parts that decide nothing, one exception is saved. -/
theorem saved {i : ℕ} {f : ChangeException → ChangeException} {s1 s2 : Db}
    (h1 : SameOn [.exceptionOutcome] s s1) {hid hstatus} {u : Unit}
    (hsave : (settleException i f hid hstatus).run s1 = .ok (u, s2))
    (h2 : SameOn [.exceptions] s2 s') :
    (∀ exc, s1.exceptions.get? i = some exc → s'.exceptions.get? i = some (f exc)) ∧
      ∀ j, j ≠ i → SameOutcome j s s' := by
  have hrows : s2.exceptions = s'.exceptions := h2 .exceptions (by decide)
  rw [settleException_ok] at hsave
  subst hsave
  refine ⟨fun exc hexc => by simp [← hrows, hexc], fun j hj => ?_⟩
  have hj1 : s'.exceptions.get? j = s1.exceptions.get? j := by
    rw [← hrows]
    exact Table.get?_modify_of_ne hj _ f
  unfold SameOutcome
  rw [hj1]
  exact sameOutcome_of_cell h1 j

/-- A part that leaves the exceptions alone may follow. -/
theorem congr {s1 : Db} (h : OutcomeMove alone op n s s1) (hsame : SameOn [.exceptions] s1 s') :
    OutcomeMove alone op n s s' := by
  have hrows : s1.exceptions = s'.exceptions := hsame .exceptions (by decide)
  cases h with
  | other h => exact .other (by simpa only [SameOutcome, hrows] using h)
  | request i exc hpending hfree hafter hothers =>
    exact .request i exc hpending hfree (hrows ▸ hafter)
      (by simpa only [SameOutcome, hrows] using hothers)
  | approve i exc user now happroves hexc hpending hself hadmin hafter hothers =>
    exact .approve i exc user now happroves hexc hpending hself hadmin (hrows ▸ hafter)
      (by simpa only [SameOutcome, hrows] using hothers)
  | decline i exc exc' hexc hafter hstatus hothers =>
    exact .decline i exc exc' hexc (hrows ▸ hafter) hstatus
      (by simpa only [SameOutcome, hrows] using hothers)

/-- `request_exception`. -/
theorem requestExceptionTx {env : Env} {req : ExceptionRequest} {t : ExceptionType}
    {expiresAt : Time} {i : ℕ} (h : (requestExceptionTx env req t expiresAt).run s = .ok (i, s')) :
    OutcomeMove alone op n s s' := by
  simp only [RunbookPlatform.requestExceptionTx, Tx.bind_ok, Tx.lift_query_ok, insertException,
    Tx.run_pure, Except.ok.injEq, Prod.mk.injEq] at h
  obtain ⟨now, _, ⟨-, rfl⟩, row, _, ⟨-, rfl⟩, _, _, ⟨-, rfl⟩, _, _, ⟨-, rfl⟩, e, s1, hexc, a, s2,
    hrequest, _, s3, hlink, -, rfl⟩ := h
  obtain ⟨rfl, rfl⟩ := createException_ok.1 hexc
  obtain ⟨rfl, rfl⟩ := insertRow_ok.1 hrequest
  obtain rfl := updateRow_ok.1 hlink
  refine .request s.exceptions.next
    { organization := row.organization
      changeRecord := req.change
      exceptionType := t
      status := .pendingApproval
      reason := strip req.reason
      scopeJson := req.scopeJson
      requestedBy := req.requestedBy
      requestedAt := now
      approvalRequest := some s.approvals.next
      expiresAt } rfl (by simp) (by simp) fun j hj => .inl ?_
  simp [Table.get?_insert, hj]

/-- A locked exception is pending, as it was before. -/
theorem lockPendingException {i : ℕ} {verb detail : String} {exc : ChangeException}
    (h : (lockPendingException i verb detail).run s = .ok (exc, s')) :
    SameOn [.exceptionOutcome] s s' ∧ s.exceptions.get? i = some exc ∧
      s'.exceptions.get? i = some exc ∧ exc.status = .pendingApproval := by
  have hsame : SameOn [.exceptionOutcome] s s' := Tx.sameOn h _ (by decide)
  simp only [RunbookPlatform.lockPendingException, Tx.bind_ok, Tx.lift_query_ok, lookup_ok,
    ensure_ok, Tx.run_pure, Except.ok.injEq, Prod.mk.injEq] at h
  obtain ⟨old, _, ⟨-, rfl⟩, _, s1, -, new, _, ⟨hnew, rfl⟩, _, _, ⟨-, rfl⟩, _, _, ⟨hpending, rfl⟩,
    rfl, rfl⟩ := h
  refine ⟨hsame, (sameOutcome_of_cell hsame i).row hnew ?_, hnew, hpending⟩
  simp [hpending]

/-- The approver is not the requester. -/
theorem not_requester {user requester : Option String}
    (h : ¬(user.isSome = true ∧ user = requester)) : ∀ u ∈ user, requester ≠ some u := by
  rintro u hu rfl
  cases hu
  exact h ⟨rfl, rfl⟩

/-- `approve_exception`, after its checks. -/
theorem approveExceptionTx {i : ℕ} {actor : AuditActor} {user : Option String}
    {exc : ChangeException}
    (hself : ∀ old, s.exceptions.get? i = some old → ∀ u ∈ user, old.requestedBy ≠ some u)
    (hadmin : ∀ old, s.exceptions.get? i = some old → alone →
      old.exceptionType.isSevere = true → ∀ u ∈ user,
        isOrganizationAdmin old.organization u s = true)
    (h : (approveExceptionTx i actor user).run s = .ok (exc, s')) :
    OutcomeMove alone (.approveException i actor user) (.decideException i) s s' := by
  simp only [RunbookPlatform.approveExceptionTx, Tx.bind_ok, Tx.run_widen, Tx.run_lift,
    Tx.lift_query_ok, Tx.run_pure, Except.ok.injEq, Prod.mk.injEq] at h
  obtain ⟨row, s1, hlock, now, _, ⟨-, rfl⟩, _, s2, hsave, _, s3, hresolve, _, s4, hrequire, rfl,
    rfl⟩ := h
  obtain ⟨hsame, hold, hrow, hpending⟩ := lockPendingException hlock
  obtain ⟨hafter, hothers⟩ := saved hsame hsave ((Tx.sameOn hresolve _ (by decide)).trans (Tx.sameOn hrequire _ (by decide)))
  exact .approve i row user now (.direct i actor user) hold hpending (hself row hold)
    (hadmin row hold) (hafter row hrow) hothers

/-- `reject_exception`. -/
theorem rejectExceptionTx {i : ℕ} {actor : AuditActor} {user : Option String}
    {exc : ChangeException} (h : (rejectExceptionTx i actor user).run s = .ok (exc, s')) :
    OutcomeMove alone op n s s' := by
  simp only [RunbookPlatform.rejectExceptionTx, Tx.bind_ok, Tx.run_widen, Tx.run_lift,
    Tx.lift_query_ok, Tx.run_pure, Except.ok.injEq, Prod.mk.injEq] at h
  obtain ⟨row, s1, hlock, now, _, ⟨-, rfl⟩, _, s2, hsave, _, s3, hresolve, -, rfl⟩ := h
  obtain ⟨hsame, hold, hrow, -⟩ := lockPendingException hlock
  obtain ⟨hafter, hothers⟩ := saved hsame hsave (Tx.sameOn hresolve _ (by decide))
  exact .decline i row _ hold (hafter row hrow) (by simp) hothers

/-- What `_assert_exception_approver_allowed` has checked, inside a transaction. -/
theorem assertExceptionApproverAllowed {i : ℕ} {exc : ChangeException} {actor : AuditActor}
    {user : Option String} {u : Unit}
    (h : (Tx.ofProg (assertExceptionApproverAllowed ⟨i, exc⟩ actor user)).run s = .ok (u, s')) :
    (∀ v ∈ user, exc.requestedBy ≠ some v) ∧ (exc.exceptionType.isSevere = true →
      ∀ v ∈ user, isOrganizationAdmin exc.organization v s = true) := by
  rw [Tx.ofProg_ok, RunbookPlatform.assertExceptionApproverAllowed] at h
  split_ifs at h with hself
  · rw [Prog.exec_bind, Prog.exec_atomic] at h
    split at h
    · simp [Prog.exec_bind] at h
    · cases h
  · rw [Prog.exec_read] at h
    simp only [Prod.mk.injEq, Query.bind_ok, select_ok, ensure_ok, exists_eq_left'] at h
    refine ⟨not_requester hself, fun hsevere v hv => ?_⟩
    exact (Option.all_eq_true _ _).1 (h.1 hsevere) v hv

/-- The exception of a decided request. -/
theorem applyExceptionApprovalDecision {a : ℕ} {decision : HumanDecision}
    {notes nonce : String} {actor : AuditActor} {found : Option (Loaded ChangeException)}
    {r : ApprovalRequest} (hrequest : s.approvals.get? a = some r)
    (h : (applyExceptionApprovalDecision a r.organization decision actor actor.userId?).run s =
      .ok (found, s')) :
    OutcomeMove alone (.decideApproval a decision notes actor nonce) (.decideApproval a decision)
      s s' := by
  simp only [RunbookPlatform.applyExceptionApprovalDecision, Tx.bind_ok, Tx.lift_query_ok,
    select_ok, expect_ok, Tx.run_widen] at h
  obtain ⟨_, _, ⟨rfl, rfl⟩, ⟨i, exc⟩, _, ⟨hfound, rfl⟩, row, s1, hlock, now, _, ⟨-, rfl⟩, h⟩ := h
  obtain ⟨hsame, hold, hrow, hpending⟩ := lockPendingException hlock
  cases decision with
  | approved =>
    simp only [Tx.bind_ok, Tx.run_widen, Tx.run_lift, Tx.run_pure, Except.ok.injEq,
      Prod.mk.injEq] at h
    obtain ⟨_, s2, hallowed, _, s3, hsave, _, s4, hrequire, _, s5, hemit, -, rfl⟩ := h
    have h2 : SameOn [.exceptions, .reference, .exceptionOutcome] s1 s2 := Tx.sameOn hallowed _ (by decide)
    have hrows : s1.exceptions = s2.exceptions := h2 .exceptions (by decide)
    have hreference : s.reference = s1.reference := (Tx.sameOn hlock _ (by decide) : SameOn [.reference] s s1) .reference (by decide)
    obtain ⟨hself, hadmin⟩ := assertExceptionApproverAllowed hallowed
    obtain ⟨hafter, hothers⟩ := saved (hsame.trans (h2.mono (by decide))) hsave
      ((Tx.sameOn hrequire _ (by decide)).trans (Tx.sameOn hemit _ (by decide)))
    refine .approve i row _ now (.linked a notes actor nonce r i exc hrequest hfound) hold hpending
      hself (fun _ hsevere u hu => ?_) (hafter row (hrows ▸ hrow)) hothers
    have := hadmin hsevere u hu
    unfold isOrganizationAdmin at this ⊢
    rwa [hreference]
  | rejected =>
    simp only [Tx.bind_ok, Tx.run_lift, Tx.run_pure, Except.ok.injEq, Prod.mk.injEq] at h
    obtain ⟨_, s3, hsave, _, s5, hemit, -, rfl⟩ := h
    obtain ⟨hafter, hothers⟩ := saved hsame hsave (Tx.sameOn hemit _ (by decide))
    exact .decline i row _ hold (hafter row hrow) (by simp) hothers

/-- `approve_exception`: the approver is checked before the transaction. -/
theorem approveException {i : ℕ} {actor : AuditActor} {user : Option String}
    (hhistory : Cell.exceptionHistory ∈ H) (halone : alone → Cell.reference ∈ H) :
    (approveException i actor user).Follows H (OutcomeMove alone (.approveException i actor user))
      s := by
  refine .read refl fun s1 loaded h1 hloaded => ?_
  rw [lookup_ok] at hloaded
  unfold RunbookPlatform.assertExceptionApproverAllowed
  split_ifs with hself
  · -- the requester: nothing follows the audit event
    refine fun s2 _ => ⟨fun _ s3 h => ⟨quiet ?_, trivial⟩, fun _ _ => trivial⟩
    rw [Tx.run_widen, Tx.run_widen] at h
    exact Tx.sameOn h _ (by decide)
  · refine fun s2 h2 => ⟨fun _ s3 hcheck => ?_, fun _ _ => trivial⟩
    obtain ⟨hadmin, rfl⟩ := Tx.read_ok.1 hcheck
    simp only [Query.bind_ok, select_ok, ensure_ok, exists_eq_left'] at hadmin
    refine ⟨refl _, Prog.Follows.bind (p := Prog.atomic _ _) (.atomic fun s3 h3 exc s4 h => ?_)
      fun row s4 => .read refl fun _ _ _ _ => .atomic fun _ _ _ _ h => quiet (Tx.sameOn h _ (by decide))⟩
    -- the exception that was checked is the one that is approved
    have hidentity : ∀ old, s3.exceptions.get? i = some old →
        old.requestedBy = loaded.requestedBy ∧ old.exceptionType = loaded.exceptionType ∧
          old.organization = loaded.organization := by
      intro old hold
      obtain ⟨later, hlater, hevolves⟩ := (h2.trans h3) .exceptionHistory hhistory i loaded hloaded
      rw [hold] at hlater
      cases hlater
      have hid := hevolves.identity
      simp only [ChangeException.identity, Prod.mk.injEq] at hid
      exact ⟨hid.2.2.2.2, hid.2.2.1, hid.1⟩
    refine approveExceptionTx (fun old hold u hu => ?_) (fun old hold halone' hsevere u hu => ?_) h
    · rw [(hidentity old hold).1]
      exact not_requester hself u hu
    · obtain ⟨-, htype, horganization⟩ := hidentity old hold
      have hreference : s2.reference = s3.reference := h3 .reference (halone halone')
      have hok := (Option.all_eq_true _ _).1 (hadmin (htype ▸ hsevere)) u hu
      unfold isOrganizationAdmin at hok ⊢
      rwa [← hreference, horganization]

/-- `decide_approval`. -/
theorem decideApprovalTx {env : Env} {a : ℕ} {decision : HumanDecision} {notes : String}
    {actor : AuditActor} {nonce : String} {found : Option (Loaded ChangeException)}
    (h : (decideApprovalTx env a decision notes actor nonce).run s = .ok (found, s')) :
    OutcomeMove alone (.decideApproval a decision notes actor nonce) (.decideApproval a decision)
      s s' := by
  simp only [RunbookPlatform.decideApprovalTx, Tx.bind_ok, Tx.lift_query_ok, lookup_ok] at h
  obtain ⟨r, _, ⟨hr, rfl⟩, now, _, ⟨-, rfl⟩, h⟩ := h
  split at h
  · simp only [Tx.bind_ok, Tx.run_widen, Tx.run_pure, Except.ok.injEq, Prod.mk.injEq] at h
    obtain ⟨_, s1, hover, -, rfl⟩ := h
    exact quiet (Tx.sameOn hover _ (by decide))
  · simp only [Tx.bind_ok, Tx.lift_query_ok, Tx.run_lift, Tx.run_pure, Except.ok.injEq,
      Prod.mk.injEq] at h
    obtain ⟨_, _, ⟨-, rfl⟩, severe, s1, hexception, _, s2, hresolve, row, s3, hdecision, _, s4,
      hemit, _, s5, hchange, -, rfl⟩ := h
    have h14 : SameOn [.exceptions, .exceptionOutcome] s1 s4 :=
      ((Tx.sameOn hresolve _ (by decide)).trans (insertUnique_follows Rel.decisions _ _ (by decide) _ _ _
        hdecision)).trans (Tx.sameOn hemit _ (by decide))
    by_cases hsubject : r.subjectType = .changeException
    · -- a request about an exception decides no change
      obtain rfl : s4 = s5 := by simpa [decideChange, hsubject] using hchange
      rw [decideException, if_pos hsubject, Tx.run_widen] at hexception
      exact (applyExceptionApprovalDecision hr hexception).congr (h14.mono (by decide))
    · rw [decideException, if_neg hsubject] at hexception
      obtain ⟨-, rfl⟩ : _ ∧ s = s1 := by simpa using hexception
      refine quiet ((h14.mono (by decide)).trans ?_)
      unfold decideChange at hchange
      split at hchange
      · rw [Tx.run_widen] at hchange
        exact Tx.sameOn hchange _ (by decide)
      · obtain rfl : s4 = s5 := by simpa using hchange
        exact .refl _ _

end OutcomeMove

/-- **Every request** decides about exceptions as `OutcomeMove` says. -/
theorem Op.outcomeMoves {alone : Prop} {H : List Cell} (env : Env) (op : Op)
    (hhistory : Cell.exceptionHistory ∈ H) (halone : alone → Cell.reference ∈ H) (s : Db) :
    (op.prog env).Follows H (OutcomeMove alone op) s := by
  cases op with
  | requestException req actor =>
    exact .read OutcomeMove.refl fun _ _ _ _ => .bind (.atomic fun _ _ _ _ h =>
      OutcomeMove.requestExceptionTx h) fun _ _ => .read OutcomeMove.refl fun _ _ _ _ =>
        .atomic fun _ _ _ _ h => OutcomeMove.quiet (Tx.sameOn h _ (by decide))
  | approveException i actor user =>
    exact OutcomeMove.approveException hhistory halone
  | rejectException i actor user =>
    exact .bind (.atomic fun _ _ _ _ h => OutcomeMove.rejectExceptionTx h) fun _ _ =>
      .atomic fun _ _ _ _ h => OutcomeMove.quiet (Tx.sameOn h _ (by decide))
  | resolveException i actor note =>
    refine .read OutcomeMove.refl fun _ _ _ _ => .read OutcomeMove.refl fun _ _ _ _ =>
      .read OutcomeMove.refl fun _ _ _ _ => .bind (.atomic fun s1 _ u s2 h => ?_) fun _ _ =>
        .atomic fun _ _ _ _ h => OutcomeMove.quiet (Tx.sameOn h _ (by decide))
    obtain ⟨hafter, hothers⟩ := OutcomeMove.saved (.refl _ _) h (.refl _ _)
    cases hexc : s1.exceptions.get? i with
    | none =>
      obtain rfl := settleException_ok.1 h
      rw [Table.modify_of_none hexc]
      exact OutcomeMove.refl s1
    | some exc => exact .decline i exc _ hexc (hafter exc hexc) nofun hothers
  | decideApproval a decision notes actor nonce =>
    refine .bind (.atomic fun _ _ _ _ h => OutcomeMove.decideApprovalTx h) fun found _ => ?_
    split
    · exact .query _ OutcomeMove.refl
    · exact .pure _
  | _ =>
    refine Prog.Follows.frame (C := [.exceptionOutcome]) ?_ (fun _ _ _ => OutcomeMove.quiet) _ s
    dsimp only [Op.cells]
    decide

end RunbookPlatform
