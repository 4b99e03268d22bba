import RunbookPlatform.Locks.Steps

/-!
# Lock steps of requests

Which changes each transaction may take out of their dispatch without a release of their
locks, computed from the state the transaction starts in, and the proof that all requests
follow the lock steps.

## Main definitions

- `claimExpires` — the executions whose dispatch a claim expires
- `timedOutExecution?` — the execution that a recovered approval fails
- `LeavesLocked` — the changes that may leave their dispatch early

## Main results

- `Op.lockSteps` — every transaction of every request is a sequence of lock steps
-/

namespace RunbookPlatform

open Transactional

set_option synthInstance.maxSize 1000

-- ════════════════════════════════════════════════════════════════════════
-- The scan of a claim
-- ════════════════════════════════════════════════════════════════════════

/-- The execution is reserved for a change, is not bound, and its dispatch token is over. -/
def dispatchOver (now : Time) (s : Db) (execution : ℕ) : Bool :=
  (bindingOf? execution s).any fun (_, binding) =>
    binding.boundAt.isNone && decide (binding.dispatchTokenExpiresAt ≤ now)

/-- The queued executions that a claim may take, oldest first. -/
def queueOf (p : Execution → Bool) (excluded : List ℕ) (s : Db) : List ℕ :=
  s.executions.keys fun i e => e.status = .queued && p e && !excluded.contains i

/-- The execution does not fit the runner that claims. -/
def refuses (eligible : Loaded Execution → Read Bool) (s : Db) (execution : ℕ) : Bool :=
  (s.executions.get? execution).any fun e =>
    match eligible ⟨execution, e⟩ s with
    | .ok false => true
    | _ => false

/-- The executions that a scan of the queue expires: those that are over, up to the first one
that is alive and fits. -/
def scanExpires (ended refused : ℕ → Bool) : List ℕ → List ℕ
  | [] => []
  | i :: queue =>
    if ended i then i :: scanExpires ended refused queue
    else if refused i then scanExpires ended refused queue
    else []

/-- The executions whose dispatch the claim of a runner expires. -/
def claimExpires (runner : Option Runner) (s : Db) : List ℕ :=
  match runner with
  | none =>
    scanExpires (dispatchOver s.now s) (refuses (fun _ => pure true) s)
      ((queueOf (fun _ => true) [] s).take 50)
  | some runner =>
    match s.reference.pools.get? runner.pool with
    | none => []
    | some pool =>
      scanExpires (dispatchOver s.now s) (refuses (candidateFits pool) s)
        ((queueOf (·.organization = runner.organization) [] s).take 50)

/-- The head of the queue is what a claim looks at next. -/
theorem oldestQueued?_some {p : Execution → Bool} {excluded : List ℕ} {s : Db} {i : ℕ}
    {e : Execution} (h : oldestQueued? p excluded s = some (i, e)) :
    s.executions.get? i = some e ∧ e.status = .queued ∧
      ∃ queue, queueOf p excluded s = i :: queue := by
  obtain ⟨he, hp⟩ := Table.find?_some h
  simp only [Bool.and_eq_true, decide_eq_true_eq] at hp
  refine ⟨he, hp.1.1, ?_⟩
  simp only [oldestQueued?, Table.find?, Option.bind_eq_some_iff, Option.map_eq_some_iff,
    Prod.mk.injEq] at h
  obtain ⟨j, hj, row, -, rfl, -⟩ := h
  obtain ⟨queue, hqueue⟩ := List.head?_eq_some_iff.1 hj
  exact ⟨queue, hqueue⟩

/-- What the expiry of an unbound dispatch does. -/
inductive UnboundExpiry (leaves : ℕ → Prop) (execution : ℕ) (now : Time) (s : Db) :
    Bool → Db → Prop where
  | alive : UnboundExpiry leaves execution now s false s
  | ended {s' : Db} (i : ℕ) (binding : ChangeExecutionBinding)
      (hbinding : bindingOf? execution s = some (i, binding))
      (hover : dispatchOver now s execution = true)
      (hsteps : leaves binding.changeRecord → LockSteps leaves s s')
      (hsame : SameOn [.bindings, .reference] s s')
      (hnext : s'.executions.next = s.executions.next)
      (hexpired : ∀ e, s'.executions.get? execution = some e → e.status ≠ .queued)
      (hothers : ∀ j, j ≠ execution → s'.executions.get? j = s.executions.get? j) :
      UnboundExpiry leaves execution now s true s'

theorem expireUnboundDispatchForExecution_ok {leaves : ℕ → Prop} {execution : ℕ} {now : Time}
    {s s' : Db} {expired : Bool}
    (h : (expireUnboundDispatchForExecution execution now).run s = .ok (expired, s')) :
    UnboundExpiry leaves execution now s expired s' := by
  have hsame : SameOn [.bindings, .reference] s s' := Tx.sameOn h _ (by decide)
  simp only [expireUnboundDispatchForExecution, Tx.bind_ok, Tx.lift_query_ok, select_ok] at h
  obtain ⟨found, _, ⟨hfound, rfl⟩, h⟩ := h
  rcases found with - | ⟨i, binding⟩
  · obtain ⟨rfl, rfl⟩ : false = expired ∧ s = s' := by simpa using h
    exact .alive
  · dsimp only at h
    split_ifs at h with hover
    · obtain ⟨rfl, rfl⟩ : false = expired ∧ s = s' := by simpa using h
      exact .alive
    · simp only [not_or, not_lt] at hover
      simp only [Tx.bind_ok, Tx.run_lift, Tx.lift_query_ok, lookup_ok] at h
      obtain ⟨_, s1, hexpire, e, _, ⟨he, rfl⟩, h⟩ := h
      have h1 : s.executions = s1.executions := Tx.frame _ hexpire .executions (by decide)
      have hover' : dispatchOver now s execution = true := by
        simp [dispatchOver, hfound, Option.not_isSome_iff_eq_none.1 hover.1, hover.2]
      have hleave : leaves binding.changeRecord → LockSteps leaves s s1 := fun hleaves =>
        LockSteps.expireDispatchableChange hleaves now _ _ _ _ hexpire
      split_ifs at h with hstatus
      · simp only [Tx.bind_ok, Tx.run_lift, Tx.run_pure, Except.ok.injEq, Prod.mk.injEq] at h
        obtain ⟨_, s2, hmove, _, s3, hemit, rfl, rfl⟩ := h
        have h12 : SameOn lockCells s1 s2 := moveExecution_follows _ _ _ _ _ (by decide) _ _ _ hmove
        have h23 : s2.executions = s3.executions := Tx.frame _ hemit .executions (by decide)
        obtain rfl := moveExecution_ok.1 hmove
        refine .ended i binding hfound hover' (fun hleaves => (hleave hleaves).trans
          (LockSteps.quiet (h12.trans (Tx.sameOn hemit _ (by decide))))) hsame ?_ ?_ fun j hj => ?_
        · rw [← h23, h1]
          simp
        · intro e' he' hqueued
          rw [← h23] at he'
          simp only [Table.get?_modify_self, he, Option.map_some, Option.some.injEq] at he'
          rw [if_pos (by simpa using hstatus)] at he'
          rw [← he'] at hqueued
          cases hqueued
        · rw [← h23, h1]
          exact Table.get?_modify_of_ne hj _ _
      · obtain ⟨rfl, rfl⟩ : true = expired ∧ s1 = s' := by simpa using h
        refine .ended i binding hfound hover' hleave hsame (by rw [h1]) ?_ fun j _ => by rw [h1]
        intro e' he' hqueued
        rw [he] at he'
        cases he'
        exact hstatus (.inl hqueued)

theorem expireUnboundChangeDispatchIfNeeded_ok {leaves : ℕ → Prop} {execution : ℕ} {now : Time}
    {s s' : Db} {expired : Bool}
    (h : (expireUnboundChangeDispatchIfNeeded execution now).run s = .ok (expired, s')) :
    UnboundExpiry leaves execution now s expired s' := by
  rcases Tx.savepoint_ok.1 h with h | ⟨e, -, h⟩
  · exact expireUnboundDispatchForExecution_ok h
  · obtain ⟨rfl, rfl⟩ : false = expired ∧ s = s' := by simpa using h
    exact .alive

/-- **The scan** expires the dispatches that it finds over in the state it starts from. -/
theorem claimScan_lockSteps {leaves : ℕ → Prop} {p : Execution → Bool}
    {eligible : Loaded Execution → Read Bool} {now : Time} {s0 : Db}
    (heligible : ∀ s, SameOn [.bindings, .reference] s0 s → ∀ e, eligible e s = eligible e s0)
    {n : ℕ} {excluded : List ℕ} {s s' : Db} {found : Option (Loaded Execution)}
    (hsame : SameOn [.bindings, .reference] s0 s)
    (hrows : ∀ i ∈ queueOf p excluded s, s.executions.get? i = s0.executions.get? i)
    (hleaves : ∀ i ∈ scanExpires (dispatchOver now s0) (refuses eligible s0)
        ((queueOf p excluded s).take n),
      ∀ j binding, bindingOf? i s0 = some (j, binding) → leaves binding.changeRecord)
    (h : (claimScan p eligible now n excluded).run s = .ok (found, s')) : LockSteps leaves s s' := by
  induction n generalizing s excluded with
  | zero =>
    obtain ⟨-, rfl⟩ : none = found ∧ s = s' := by simpa [claimScan] using h
    exact .refl
  | succ n ih =>
    simp only [claimScan, Tx.bind_ok, Tx.lift_query_ok, select_ok] at h
    obtain ⟨first, _, ⟨hfirst, rfl⟩, h⟩ := h
    rcases first with - | ⟨i, e⟩
    · obtain ⟨-, rfl⟩ : none = found ∧ s = s' := by simpa using h
      exact .refl
    obtain ⟨he, hqueued, queue, hqueue⟩ := oldestQueued?_some hfirst
    have hbindings : s0.bindings = s.bindings := hsame .bindings (by decide)
    rw [hqueue, List.take_succ_cons, scanExpires] at hleaves
    rw [hqueue] at hrows
    simp only [Tx.bind_ok] at h
    obtain ⟨expired, s1, hexpiry, h⟩ := h
    have hunbound : UnboundExpiry leaves i now s expired s1 :=
      expireUnboundChangeDispatchIfNeeded_ok hexpiry
    cases hunbound with
    | ended j binding hbinding hover hsteps hsame1 hnext hexpired hothers =>
      rw [bindingOf?, ← hbindings] at hbinding
      have hover0 : dispatchOver now s0 i = true := by
        rw [dispatchOver, bindingOf?, hbindings]
        exact hover
      rw [if_pos hover0] at hleaves
      have htail : queueOf p excluded s1 = queue := by
        refine Table.keys_eq_tail hqueue hnext ?_ fun j hj => by rw [hothers j hj]
        cases hrow : s1.executions.get? i with
        | none => rfl
        | some row => simp [hexpired row hrow]
      have hnodup : i ∉ queue := by
        have hnodup : (queueOf p excluded s).Nodup := List.nodup_range.filter _
        rw [hqueue] at hnodup
        exact (List.nodup_cons.1 hnodup).1
      refine (hsteps (hleaves i List.mem_cons_self j binding hbinding)).trans
        (ih (hsame.trans hsame1) (fun k hk => ?_) (fun k hk => ?_) h)
      · rw [htail] at hk
        have hne : k ≠ i := fun hki => hnodup (hki ▸ hk)
        exact (hothers k hne).trans (hrows k (List.mem_cons_of_mem i hk))
      · rw [htail] at hk
        exact hleaves k (List.mem_cons_of_mem i hk)
    | alive =>
      simp only [Bool.false_eq_true, if_false, Tx.bind_ok, Tx.lift_query_ok] at h
      obtain ⟨fits, _, ⟨hfits, rfl⟩, h⟩ := h
      cases fits with
      | true =>
        obtain ⟨-, rfl⟩ : some ⟨i, e⟩ = found ∧ s = s' := by simpa using h
        exact .refl
      | false =>
        have hrefused : refuses eligible s0 i = true := by
          have hrow := hrows i List.mem_cons_self
          rw [he] at hrow
          rw [heligible s hsame] at hfits
          simp [refuses, ← hrow, hfits]
        have htail : queueOf p (i :: excluded) s = queue := by
          refine Table.keys_eq_tail hqueue rfl ?_ fun j hj => ?_
          · simp [he]
          · cases s.executions.get? j with
            | none => rfl
            | some row => simp [hj]
        refine ih hsame (fun k hk => ?_) (fun k hk => ?_) h
        · rw [htail] at hk
          exact hrows k (List.mem_cons_of_mem i hk)
        · rw [htail] at hk
          refine hleaves k ?_
          rw [if_pos hrefused]
          split_ifs
          · exact List.mem_cons_of_mem i hk
          · exact hk

-- ════════════════════════════════════════════════════════════════════════
-- Whose changes leave
-- ════════════════════════════════════════════════════════════════════════

/-- The execution that the recovery of an approval fails. -/
def timedOutExecution? (approval : ℕ) (now : Time) (s : Db) : Option ℕ :=
  match (s.approvals.get? approval).filter (·.isOverdue now) with
  | none => none
  | some request =>
    match request.execution, request.step with
    | some execution, some step =>
      if request.subjectType ≠ .changeRecord ∧ blockedByTimeout execution step s = true ∧
          s.decisions.find? (fun _ d => d.approvalRequest = approval) = none then
        some execution
      else none
    | _, _ => none

/-- Execution `e` is reserved for change `c`. -/
def ReservedFor (s : Db) (e c : ℕ) : Prop :=
  ∃ i binding, bindingOf? e s = some (i, binding) ∧ binding.changeRecord = c

/-- The transaction `n`, from `s`, may take change `c` out of its dispatch or its execution
without a release of its locks. -/
inductive LeavesLocked (s : Db) : TxName → ℕ → Prop where
  | claim (runner : Option Runner) (e c : ℕ) (he : e ∈ claimExpires runner s)
      (hc : ReservedFor s e c) : LeavesLocked s (.claim runner) c
  | serializeClaim (c : ℕ) : LeavesLocked s (.serializeClaim c) c
  | rejectBind (c : ℕ) : LeavesLocked s (.rejectBind c) c
  | completionHook (c : ℕ) : LeavesLocked s (.completionHook c) c
  | recoverApproval (approval : ℕ) (now : Time) (e c : ℕ)
      (he : timedOutExecution? approval now s = some e) (hc : ReservedFor s e c) :
      LeavesLocked s (.recoverApproval approval now) c

-- ════════════════════════════════════════════════════════════════════════
-- The recovery of an approval
-- ════════════════════════════════════════════════════════════════════════

/-- The cells of changes and of what belongs to them. -/
@[reducible] def subjectCells : List Cell :=
  [.clock, .reference, .changes, .changeStatus .dispatchable, .changeStatus .running,
    .changeStatus .closed, .changeTargets, .bindings, .targetLocks, .sessions, .sessionRows,
    .retroReviews, .changeIdentity]

/-- What the recovery of an approval does to changes. -/
inductive Recovers (env : Env) (approval : ℕ) (now : Time) (s s' : Db) : Prop where
  | quiet (hsame : SameOn subjectCells s s')
  /-- The request is about a change, and times out with it. -/
  | change (s1 : Db) (hsame : SameOn subjectCells s s1)
      (hrun : ∃ u, (timeOutChangeApproval env approval systemActor).run s1 = .ok (u, s'))
  /-- The request is about a step, and the change of the failed execution is settled. -/
  | execution (e c : ℕ) (s1 : Db) (he : timedOutExecution? approval now s = some e)
      (hc : ReservedFor s e c) (hsame : SameOn subjectCells s s1)
      (hrun : ∃ u, (settleBoundChange env c .failed).run s1 = .ok (u, s'))

/-- The execution of a timed-out approval is failed, and the change settled that is reserved
for it. -/
theorem failExecutionForApprovalTimeout_ok {env : Env} {execution step : ℕ} {now : Time}
    {s s' : Db} {failed : Bool}
    (h : (failExecutionForApprovalTimeout env execution step now).run s = .ok (failed, s')) :
    SameOn subjectCells s s' ∨ blockedByTimeout execution step s = true ∧
      ∃ c s1 u, ReservedFor s execution c ∧ SameOn subjectCells s s1 ∧
        (settleBoundChange env c .failed).run s1 = .ok (u, s') := by
  simp only [failExecutionForApprovalTimeout, Tx.bind_ok, Tx.lift_query_ok, lookup_ok,
    select_ok, expect_ok] at h
  obtain ⟨e, _, ⟨he, rfl⟩, found, _, ⟨rfl, rfl⟩, st, _, ⟨hst, rfl⟩, h⟩ := h
  split at h
  · obtain ⟨-, rfl⟩ : _ ∧ s = s' := by simpa using h
    exact .inl (.refl _ _)
  · rename_i hstatus
    simp only [not_or, Bool.not_eq_false, ne_eq, not_not] at hstatus
    obtain ⟨hrow, hown⟩ := Option.filter_eq_some_iff.1 hst
    have hblocked : blockedByTimeout execution step s = true := by
      simp [blockedByTimeout, he, hstatus.1, hrow, hstatus.2, by simpa using hown]
    simp only [Tx.bind_ok, Tx.run_lift, Tx.run_pure, Except.ok.injEq, Prod.mk.injEq] at h
    obtain ⟨_, s1, hstep, _, s2, hmove, _, s3, hemit1, _, s4, hemit2, _, s5, hemit3, _, s6, hhook, -,
      rfl⟩ := h
    have h15 : SameOn subjectCells s s5 :=
      ((((Tx.sameOn hstep _ (by decide)).trans (moveExecution_follows _ _ _ _ _ (by decide) _ _ _ hmove)).trans
        (Tx.sameOn hemit1 _ (by decide))).trans (Tx.sameOn hemit2 _ (by decide))).trans (Tx.sameOn hemit3 _ (by decide))
    rcases Tx.savepoint_ok.1 hhook with hhook | ⟨_, -, hhook⟩
    · rw [Tx.run_widen, Tx.ofProg_ok, handleBoundExecutionCompleted, Prog.exec_bind,
        Prog.exec_read] at hhook
      simp only [select] at hhook
      cases hbinding : bindingOf? execution s5 with
      | none =>
        simp only [hbinding, Prog.exec_pure, Prod.mk.injEq] at hhook
        exact .inl (hhook.2 ▸ h15)
      | some found =>
        obtain ⟨i, binding⟩ := found
        simp only [hbinding, Prog.exec_atomic] at hhook
        split at hhook
        · rename_i u s7 hsettle
          simp only [Prod.mk.injEq] at hhook
          have hbindings : s.bindings = s5.bindings := h15 .bindings (by decide)
          have hreserved : ReservedFor s execution binding.changeRecord := by
            refine ⟨i, binding, ?_, rfl⟩
            rw [bindingOf?, hbindings]
            exact hbinding
          exact .inr ⟨hblocked, _, s5, u, hreserved, h15, hhook.2 ▸ hsettle⟩
        · simp at hhook
    · obtain rfl : s5 = s6 := by simpa using hhook
      exact .inl h15

/-- `_recover_expired_approval`. -/
theorem recoverExpiredApproval_recovers {env : Env} {approval : ℕ} {now : Time} {s s' : Db}
    {u : Unit} (h : (recoverExpiredApproval env approval now).run s = .ok (u, s')) :
    Recovers env approval now s s' := by
  simp only [recoverExpiredApproval, Tx.bind_ok, Tx.lift_query_ok, select_ok] at h
  obtain ⟨found, _, ⟨hfound, rfl⟩, h⟩ := h
  cases found with
  | none =>
    obtain rfl : s = s' := by simpa using h
    exact .quiet (.refl _ _)
  | some r =>
    simp only [Tx.bind_ok, Tx.run_lift, Tx.run_widen] at h
    obtain ⟨_, s1, hresolve, created, s2, hdecision, h⟩ := h
    have h1 : SameOn [.decisions] s s1 := Tx.sameOn hresolve _ (by decide)
    have h2 : SameOn (.steps :: .executions :: subjectCells) s s2 :=
      (Tx.sameOn hresolve _ (by decide)).trans (Tx.sameOn hdecision _ (by decide))
    cases created with
    | false =>
      obtain rfl : s2 = s' := by simpa using h
      exact .quiet (h2.mono (by decide))
    | true =>
      have hnone : s.decisions.find? (fun _ d => d.approvalRequest = approval) = none := by
        have hdecisions : s.decisions = s1.decisions := h1 .decisions (by decide)
        simp only [getOrCreateTimeoutDecision, Tx.bind_ok, Tx.lift_query_ok, select_ok] at hdecision
        obtain ⟨existing, _, ⟨hexists, rfl⟩, hdecision⟩ := hdecision
        split_ifs at hdecision with hdecided
        · simp at hdecision
        · rw [hdecisions]
          simpa [hdecided] using hexists
      rw [if_pos rfl] at h
      simp only [Tx.bind_ok, Tx.run_lift] at h
      obtain ⟨_, s3, hemit, h⟩ := h
      have h3 : SameOn (.steps :: .executions :: subjectCells) s s3 :=
        h2.trans (Tx.sameOn hemit _ (by decide))
      unfold timeOutSubject at h
      split_ifs at h with hsubject
      · rw [Tx.run_widen] at h
        exact .change s3 (h3.mono (by decide)) ⟨_, h⟩
      · split at h
        · rename_i execution step hexecution hstep
          simp only [Tx.bind_ok, Tx.run_widen, Tx.run_pure, Except.ok.injEq, Prod.mk.injEq] at h
          obtain ⟨_, s4, hfail, -, rfl⟩ := h
          have hexecutions : s.executions = s3.executions := h3 .executions (by decide)
          have hsteps : s.steps = s3.steps := h3 .steps (by decide)
          have hbindings : s.bindings = s3.bindings := h3 .bindings (by decide)
          rcases failExecutionForApprovalTimeout_ok hfail with
            hsame | ⟨hblocked, c, s5, u, hreserved, hsame, hrun⟩
          · exact .quiet ((h3.mono (by decide)).trans hsame)
          · refine .execution execution c s5 ?_ ?_ ((h3.mono (by decide)).trans hsame) ⟨u, hrun⟩
            · rw [blockedByTimeout, ← hexecutions, ← hsteps] at hblocked
              simp [timedOutExecution?, hfound, hexecution, hstep, hsubject, blockedByTimeout,
                hblocked, hnone]
            · obtain ⟨i, binding, hbinding, hc⟩ := hreserved
              rw [bindingOf?, ← hbindings] at hbinding
              exact ⟨i, binding, hbinding, hc⟩
        · obtain rfl : s3 = s' := by simpa using h
          exact .quiet (h3.mono (by decide))

namespace LockSteps

variable {leaves : ℕ → Prop} {s s' : Db}

theorem candidateFits_same {pool : RunnerPool} {s s' : Db}
    (h : SameOn [.bindings, .reference] s s') (e : Loaded Execution) :
    candidateFits pool e s' = candidateFits pool e s := by
  have hbindings : s.bindings = s'.bindings := h .bindings (by decide)
  have hreference : s.reference = s'.reference := h .reference (by decide)
  have hrouted : executionEligibleForPool e pool s' = executionEligibleForPool e pool s := by
    unfold executionEligibleForPool bindingOf?
    rw [hbindings, hreference]
  unfold candidateFits
  simp only [Query.bind_apply, select, hrouted]
  split <;> try rfl
  split_ifs <;> rfl

/-- The scan of a claim, from the state the claim starts in. -/
theorem claimScan {runner : Option Runner} {p : Execution → Bool}
    {eligible : Loaded Execution → Read Bool}
    (heligible : ∀ s1, SameOn [.bindings, .reference] s s1 → ∀ e, eligible e s1 = eligible e s)
    (hclaim : claimExpires runner s =
      scanExpires (dispatchOver s.now s) (refuses eligible s) ((queueOf p [] s).take 50)) :
    (claimScan p eligible s.now 50 []).FollowsFrom (LockSteps (LeavesLocked s (.claim runner))) s := by
  intro found s' h
  refine claimScan_lockSteps heligible (.refl _ s) (fun _ _ => rfl) (fun i hi j binding hb => ?_) h
  exact .claim runner i _ (hclaim ▸ hi) ⟨j, binding, hb, rfl⟩

/-- `schedule_execution_claim`. -/
theorem scheduleExecutionClaim (env : Env) (runnerId : String) (runner : Runner) (token : String) :
    (scheduleExecutionClaim env runnerId runner token).FollowsFrom
      (LockSteps (LeavesLocked s (.claim (some runner)))) s := by
  unfold RunbookPlatform.scheduleExecutionClaim
  split
  · exact (Tx.Follows.pure _).from s
  · refine .query fun _ _ => .query fun pool hpool => ?_
    rw [lookup_ok] at hpool
    split
    · exact (Tx.Follows.pure _).from s
    · refine .query fun _ _ => .query fun room _ => ?_
      split
      · refine .query fun now hnow => ?_
        rw [timezoneNow, select_ok] at hnow
        subst hnow
        refine .bind (.widen (claimScan (fun _ h e => candidateFits_same h e) ?_))
          fun found s1 _ _ => Tx.Follows.from ?_ s1
        · rw [claimExpires, hpool]
        · split
          · exact .pure _
          · refine .bind (.bind ?_ fun _ => .bind ?_ fun _ => .pure _) fun _ => .pure _
            · exact of_sameOn (moveExecution_follows _ _ _ _ _ (by decide))
            · exact of_sameOn (insertUnique_follows Rel.leases _ _ (by decide))
      · exact (Tx.Follows.pure _).from s

/-- The claim of an unregistered runner. -/
theorem claimUnregistered (env : Env) (runnerId token : String) :
    (claimUnregistered env runnerId token).FollowsFrom
      (LockSteps (LeavesLocked s (.claim none))) s := by
  refine .query fun now hnow => ?_
  rw [timezoneNow, select_ok] at hnow
  subst hnow
  refine .bind (.widen (claimScan (fun _ _ _ => rfl) rfl)) fun queued s1 _ _ =>
    Tx.Follows.from ?_ s1
  split
  · exact .bind (of_sameOn (moveExecution_follows _ _ _ _ _ (by decide))) fun _ => .bind (.lift (frame _ (by decide)))
      fun _ => .pure _
  · refine .bind (.query _) fun stale => ?_
    split
    · exact .bind (.lift (frame _ (by decide))) fun _ => .bind (.lift (frame _ (by decide))) fun _ => .pure _
    · exact .pure _

/-- `_recover_expired_approval`. -/
theorem recoverExpiredApproval (env : Env) (approval : ℕ) (now : Time) :
    (recoverExpiredApproval env approval now).FollowsFrom
      (LockSteps (LeavesLocked s (.recoverApproval approval now))) s := by
  intro u s' h
  cases recoverExpiredApproval_recovers h with
  | quiet hsame => exact quiet (hsame.mono (by decide))
  | change s1 hsame hrun =>
    obtain ⟨_, hrun⟩ := hrun
    exact (quiet (hsame.mono (by decide))).trans (frame _ (by decide) _ _ _ hrun)
  | execution e c s1 he hc hsame hrun =>
    obtain ⟨_, hrun⟩ := hrun
    exact (quiet (hsame.mono (by decide))).trans
      (settleBoundChange env (.recoverApproval approval now e c he hc) _ _ _ _ hrun)

end LockSteps

-- ════════════════════════════════════════════════════════════════════════
-- Handlers
-- ════════════════════════════════════════════════════════════════════════

/-- What the transaction `n` does to target locks. -/
def LockMove (n : TxName) (s s' : Db) : Prop := LockSteps (LeavesLocked s n) s s'

namespace LockMove

variable {s : Db}

theorem quiet {n : TxName} {s s' : Db} (h : SameOn lockCells s s') : LockMove n s s' :=
  LockSteps.quiet h

theorem refl {n : TxName} (s : Db) : LockMove n s s := Relation.ReflTransGen.refl

/-- **Frame rule** for handlers. -/
theorem frame {W : List Cell} {α : Type} (p : Handler W α) (s : Db)
    (hdisj : ∀ c ∈ lockCells, c ∉ W) : p.Follows historyCells LockMove s :=
  .frame hdisj (fun _ _ _ => quiet) p s

/-- An atomic block whose transaction is a sequence of lock steps, whoever leaves. -/
theorem atomic {V W : List Cell} [Within V W] {α : Type} {n : TxName} {t : Service V α}
    (h : ∀ s1, t.FollowsFrom (LockSteps (LeavesLocked s1 n)) s1) :
    (Prog.atomic n t : Handler W α).Follows historyCells LockMove s :=
  .atomic fun s1 _ a s' hrun => h s1 a s' hrun

/-- The settlement of a bound change after its execution. -/
theorem handleBoundExecutionCompleted (env : Env) (execution : ℕ) (status : ExecutionStatus) :
    (handleBoundExecutionCompleted env execution status).Follows historyCells LockMove s := by
  refine .read refl fun s1 found _ _ => ?_
  split
  · exact .pure _
  · exact atomic fun s2 => (LockSteps.settleBoundChange env (.completionHook _) status).from s2

/-- A change object that was loaded before is saved as expired. -/
theorem expireStaleChange {name : TxName} (change : Loaded ChangeRecord) (actor : AuditActor)
    (now : Time) (reason : String) (hname : ∀ s, LeavesLocked s name change.id) :
    (transitionStaleChange name change .expired actor now reason).Follows historyCells LockMove s :=
  LockSteps.transitionStaleChange (R := LockMove) name change actor now reason
    (fun _ _ _ => quiet) (fun s _ h => h _ (hname s)) _

/-- `bind_execution`, with the expiry after a rejected bind. -/
theorem bindExecution (env : Env) (req : BindRequest) :
    (bindExecution env req).Follows historyCells LockMove s := by
  refine .tryCatch (atomic fun s1 => (LockSteps.bindExecutionTx env req).from s1) fun e s1 => ?_
  dsimp only
  split
  · refine .bind (.tryCatch (.widen (.read refl fun s2 row _ _ => .read refl fun s3 now _ _ => ?_))
      fun _ _ => .pure _) fun _ _ => .fail _
    split
    · exact expireStaleChange _ _ now _ fun _ => .rejectBind _
    · exact .pure _
  · exact .fail _

/-- The claim endpoint. -/
theorem claimNext (env : Env) (runnerId : String) (registered : Bool) (token : String)
    (nonce : ℕ → String) :
    (claimNext env runnerId registered token nonce).Follows historyCells LockMove s := by
  have hpromote : ∀ s, (promoteDueScheduledChanges env nonce).Follows historyCells LockMove s :=
    fun s => .read refl fun s1 now _ _ => .read refl fun s2 due _ _ =>
      .forEach (fun c s3 => .tryCatch (atomic fun s4 =>
        (LockSteps.promoteScheduledChange nofun env c.id now _).from s4) fun _ _ => .pure _) due s2
  have hclaim : ∀ runner s, (claimNextExecution env runnerId runner token).Follows historyCells
      LockMove s := by
    intro runner s
    unfold claimNextExecution
    split
    · refine .bind (atomic fun s1 => LockSteps.scheduleExecutionClaim env _ _ _) fun result s1 => ?_
      split
      · exact .read refl fun s2 e _ _ => .bind (atomic fun s3 => (LockSteps.frame _ (by decide)).from s3)
          fun _ _ => .pure _
      · exact .pure _
    · exact atomic fun s1 => LockSteps.claimUnregistered env _ _
  refine .bind (.tryCatch (.widen (hpromote s)) fun _ _ => .pure _) fun _ s1 =>
    .read refl fun s2 runner _ _ => .bind (.widen (hclaim runner s2)) fun result s3 => ?_
  split
  · refine .widen (.read refl fun s4 found _ _ => ?_)
    split
    · exact .pure _
    · split
      · refine .read refl fun s5 now _ _ => .read refl fun s6 change _ _ => ?_
        split
        · split
          · exact .tryCatch (.widen (expireStaleChange _ _ now _ fun _ => .serializeClaim _))
              fun _ _ => .pure _
          · exact .pure _
        · split
          · exact .tryCatch (.widen (frame (enforceEmergencyExpiryForChange _ now) s6 (by decide)))
              fun _ _ => .pure _
          · exact .pure _
      · exact .pure _
  · exact .pure _

/-- `ExecutionCompleteView`. -/
theorem completeByRunner (env : Env) (execution : ℕ) (call : RunnerCall)
    (outcome : ExecutionStatus) :
    (completeByRunner env execution call outcome).Follows historyCells LockMove s := by
  refine .bind (.widen (frame (loadReadyExecution env execution call) s (by decide))) fun e s1 => .widen <|
    .bind (atomic fun s2 => (LockSteps.frame _ (by decide)).from s2) fun _ s2 =>
    .bind (atomic fun s3 => (LockSteps.frame _ (by decide)).from s3) fun _ s3 =>
    .tryCatch (.widen (handleBoundExecutionCompleted env _ _)) fun _ s4 =>
    .read refl fun s5 bound _ _ => ?_
  split
  · exact .fail _
  · exact .pure _

/-- `recover_stuck_executions`. -/
theorem recoverStuckExecutions (env : Env) (threshold : ℕ) :
    (recoverStuckExecutions env threshold).Follows historyCells LockMove s := by
  refine .read refl fun s1 now _ _ => .read refl fun s2 candidates _ _ => .forEach (fun e s3 =>
    .bind (atomic fun s4 => (LockSteps.frame _ (by decide)).from s4) fun recovered s4 => ?_) candidates s2
  split
  · exact .bind (atomic fun s5 => (LockSteps.frame _ (by decide)).from s5) fun _ _ =>
      .tryCatch (.widen (handleBoundExecutionCompleted env _ _)) fun _ _ => .pure _
  · exact .pure _

end LockMove

/-- **Every request** moves target locks by lock steps. -/
theorem Op.lockMoves (env : Env) (op : Op) (s : Db) :
    (op.prog env).Follows historyCells LockMove s := by
  have hserve : ∀ {W : List Cell} {α : Type} {t : Service W α} {n : TxName},
      (∀ leaves : ℕ → Prop, (∀ c, ¬leaves c) → t.Follows (LockSteps leaves)) →
        (∀ s c, ¬LeavesLocked s n c) → (serve t n).Follows historyCells LockMove s := fun h hn =>
    .bind (LockMove.atomic fun s1 => (h _ (hn s1)).from s1) fun _ _ => .pure _
  cases op with
  | createChange req actor =>
    exact .bind (.read LockMove.refl fun _ profile _ _ => LockMove.atomic fun s1 =>
      (LockSteps.insertChangeRecord env req profile actor).from s1) fun _ _ => .pure _
  | submitChange c actor nonce =>
    exact hserve (fun _ h => LockSteps.submitChangeRecord h env c actor nonce) nofun
  | dispatch c actor nonce =>
    exact hserve (fun _ h => LockSteps.makeDispatchable h env c actor nonce) nofun
  | bindExecution req => exact LockMove.bindExecution env req
  | reportAccepted req => exact hserve (fun _ _ => LockSteps.recordExecutionAccepted req) nofun
  | reportStarted req => exact hserve (fun _ _ => LockSteps.recordExecutionStarted req) nofun
  | reportFinished req => exact hserve (fun _ _ => LockSteps.recordExecutionFinished req) nofun
  | closeChange req actor =>
    exact .read LockMove.refl fun _ outcome _ _ => .read LockMove.refl fun _ _ _ _ =>
      LockMove.atomic fun s1 => (LockSteps.closeChangeTx req outcome actor).from s1
  | claimNext runnerId registered token nonce =>
    exact LockMove.claimNext env runnerId registered token nonce
  | completeExecution execution call outcome =>
    exact LockMove.completeByRunner env execution call outcome
  | decideApproval a decision notes actor nonce =>
    refine .bind (LockMove.atomic fun s1 =>
      (LockSteps.decideApprovalTx nofun env a decision notes actor nonce).from s1) fun severe s1 => ?_
    split
    · exact .query _ LockMove.refl
    · exact .pure _
  | recoverStuckExecutions threshold => exact LockMove.recoverStuckExecutions env threshold
  | recoverExpiredApprovals batchSize =>
    exact .read LockMove.refl fun _ now _ _ => .read LockMove.refl fun s1 overdue _ _ =>
      .forEach (fun a _ => LockMove.atomic fun s2 => LockSteps.recoverExpiredApproval env a.id now)
        overdue s1
  | _ =>
    exact Op.follows_of_frame (C := lockCells) (fun _ _ _ => LockMove.quiet) _
      (by dsimp only [Op.cells]; decide) s

end RunbookPlatform
