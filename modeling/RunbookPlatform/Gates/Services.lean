import RunbookPlatform.Gates.Steps
import RunbookPlatform.Emergency.Scope
import RunbookPlatform.Ledger.Steps

/-!
# The services that start steps

A step is started by the transition to `RUNNING`, which two requests make: a step start, when the
policies approve the step or a breakglass session covers its gate, and an approval poll, when the
request of the step is approved.

## Main definitions

- `StepApproved`, `BreakglassCovers` — the two ways in which the gate of a step is open
- `StartsStep`, `StartsApproved` — a transaction may start a step of an execution

## Main results

- `StepsMove.startStepTx`, `StepsMove.pollApprovalTx` — they start the step they are about, and a
  step that requires approval only when its gate is open
-/

namespace RunbookPlatform

open Transactional

set_option synthInstance.maxSize 1000

/-- The session lets an execution of the change go on with all its targets, at the instant. -/
structure BreakglassSession.LetsRun (env : Env) (session : BreakglassSession) (change : ℕ)
    (targetIds : List ℕ) (now : Time) : Prop where
  change : session.changeRecord = change
  active : session.status = .active
  unexpired : now < session.expiresAt
  gate : .str "policy_override" ∈ scopeItems session.scopeJson "gate_types"
  action : .str "continue_running" ∈ scopeItems session.scopeJson "allowed_actions"
  targets : ∀ t ∈ targetIds, idText t ∈ (scopeItems session.scopeJson "target_ids").map (pyStr env)

/-- The step has an approved request. -/
def StepApproved (i : ℕ) (s : Db) : Prop :=
  ∃ a request, s.approvals.get? a = some request ∧ request.step = some i ∧
    request.status = .approved

/-- A breakglass session covers the gates of the execution. -/
def BreakglassCovers (env : Env) (e : ℕ) (s : Db) : Prop :=
  ∃ j b, bindingOf? e s = some (j, b) ∧ ∃ k session, s.sessions.get? k = some session ∧
    session.LetsRun env b.changeRecord ((targetsOf b.changeRecord s).map (·.id)) s.now

/-- In `s`, step `i` of the execution may be started: its gate is open if it has one. -/
def StartsStep (env : Env) (e i : ℕ) (s : Db) (j : ℕ) : Prop :=
  j = i ∧ ∃ step, s.steps.get? i = some step ∧ step.execution = e ∧
    (step.requiresApproval = true → StepApproved i s ∨ BreakglassCovers env e s)

/-- In `s`, step `i` of the execution may be started: its request is approved. -/
def StartsApproved (e i : ℕ) (s : Db) (j : ℕ) : Prop :=
  j = i ∧ (∃ step, s.steps.get? i = some step ∧ step.execution = e) ∧ StepApproved i s

variable {env : Env} {s s' : Db} {P : ℕ → Prop}

theorem BreakglassCovers.before {e : ℕ} (h : BreakglassCovers env e s')
    (hsame : SameOn [.bindings, .sessions, .changeTargets, .clock] s s') :
    BreakglassCovers env e s := by
  obtain ⟨j, b, hb, k, session, hsession, hlets⟩ := h
  have hbindings : s.bindings = s'.bindings := hsame .bindings (by simp)
  have hsessions : s.sessions = s'.sessions := hsame .sessions (by simp)
  have htargets : s.changeTargets = s'.changeTargets := hsame .changeTargets (by simp)
  have hclock : s.now = s'.now := hsame .clock (by simp)
  refine ⟨j, b, by rwa [bindingOf?, hbindings], k, session, hsessions ▸ hsession, ?_⟩
  rwa [targetsOf, htargets, hclock]

/-- The gate is open by a session that covers it, as the database was before. -/
theorem breakglassExecutionGate_allowed {e : ℕ}
    (h : (breakglassExecutionGate env e).run s = .ok (.allowed, s')) : BreakglassCovers env e s := by
  simp only [breakglassExecutionGate, Tx.bind_ok, Tx.lift_query_ok, select_ok] at h
  obtain ⟨found, _, ⟨hfound, rfl⟩, h⟩ := h
  rcases found with - | ⟨j, b⟩
  · simp at h
  simp only [Tx.bind_ok, Tx.lift_query_ok, select_ok] at h
  obtain ⟨active, _, ⟨-, rfl⟩, h⟩ := h
  split_ifs at h
  · simp only [Tx.bind_ok, Tx.lift_query_ok, select_ok] at h
    obtain ⟨u, s1, hsweep, hdecision, rfl⟩ := h
    have hsame : SameOn [.changeTargets, .clock] s s1 := Tx.sameOn hsweep _ (by decide)
    have htargets : s.changeTargets = s1.changeTargets := hsame .changeTargets (by simp)
    rw [sweepSessions_ok, Tx.ofProg_ok] at hsweep
    unfold breakglassDecision at hdecision
    split at hdecision
    · cases hdecision
    · rename_i k session hsession
      split at hdecision
      · rename_i u hcovers
        obtain ⟨hrow, htest⟩ := Table.find?_some hsession
        simp only [Bool.and_eq_true, decide_eq_true_eq] at htest
        obtain ⟨hgate, haction, htarget⟩ := scopeCovers_ok hcovers
        obtain ⟨old, hold, ⟨hfresh, rfl⟩ | ⟨-, rfl⟩⟩ := expireBreakglassSessions_exec hsweep hrow
        · refine ⟨j, b, hfound, k, _, hold, htest.1, htest.2, ?_, hgate, haction, ?_⟩
          · refine Nat.lt_of_not_le fun hover => hfresh ⟨htest.2, hover, ?_⟩
            rintro c ⟨⟩
            exact htest.1.symm
          · rwa [targetsOf, htargets]
        · cases htest.2
      · cases hdecision
  · simp at h

namespace StepsMove

-- ════════════════════════════════════════════════════════════════════════
-- Services that start no step
-- ════════════════════════════════════════════════════════════════════════

/-- A reservation creates the steps of a new execution. -/
theorem reserveExecution (row : ChangeRecord) (workflow : Workflow)
    (check : DispatchEligibilityCheck) (actor : AuditActor) :
    (reserveExecution env row workflow check actor).Follows (StepsMove P) := by
  refine .bind (.ofProg (H := []) fun s => .read (fun _ => .refl _) fun _ _ _ _ =>
    .atomic fun s1 _ i s2 h => insertExecutionRows _ _ _ _ s1 i s2 h) fun execution => ?_
  dsimp only
  split
  · refine .bind (.lift fun _ u s' h => ?_) fun _ => .pure _
    obtain rfl := updateExecution_ok.1 h
    exact .of_same rfl (Table.next_modify _ _ _).ge
  · exact .pure _

/-- So do all requests that reserve an execution. -/
theorem reserves : Reserves env (StepsMove P) where
  quiet _ _ := of_sameOn
  reserve := reserveExecution

/-- A request for approval leaves the step waiting. -/
theorem requestStepApproval (execution step : ℕ) (runnerId claimToken : String)
    (policyDriven : Bool) :
    (requestStepApproval execution step runnerId claimToken policyDriven).Follows
      (StepsMove P) := by
  refine .bind (.query _) fun e => .bind (.query _) fun st => .bind (.query _) fun _ =>
    .bind (.query _) fun _ => .bind (.query _) fun existing => ?_
  split
  · exact .pure _
  · refine .bind (.query _) fun _ => .bind (.query _) fun _ => .bind (.query _) fun now =>
      .bind (.lift (restStep (fun _ => rfl) rfl)) fun _ => .bind (.query _) fun timeoutSeconds =>
      .bind ((insertUnique_follows _ _ _ (by decide)).mono fun _ _ => of_sameOn) fun _ =>
      .bind (.lift (quiet _ (by decide))) fun _ => .bind (.lift (quiet _ (by decide))) fun _ => .pure _

theorem recoverStuckExecution (execution : ℕ) (staleBefore : Time) :
    (recoverStuckExecution execution staleBefore).Follows (StepsMove P) := by
  refine .bind (.query _) fun found => ?_
  split
  · exact .pure _
  · refine .bind (.query _) fun now => .bind ?_ fun _ =>
      .bind (.lift (moveSteps (fun _ => rfl) rfl)) fun _ => .bind (.lift (quiet _ (by decide))) fun _ => .pure _
    intro s u s' h
    obtain rfl := moveExecution_ok.1 h
    exact .of_same rfl (Table.next_modify _ _ _).ge

theorem failExecutionForApprovalTimeout (execution step : ℕ) (now : Time) :
    (failExecutionForApprovalTimeout env execution step now).Follows (StepsMove P) := by
  refine .bind (.query _) fun e => .bind (.query _) fun found => .bind (.query _) fun st => ?_
  split
  · exact .pure _
  · refine .bind (.lift (restStep (fun _ => rfl) rfl)) fun _ => .bind ?_ fun _ =>
      .bind (.lift (quiet _ (by decide))) fun _ => .bind (.lift (quiet _ (by decide))) fun _ =>
      .bind (.lift (quiet _ (by decide))) fun _ =>
      .bind (.savepoint (.widen (quiet _ (by decide))) fun _ => .pure _) fun _ => .pure _
    intro s u s' h
    obtain rfl := moveExecution_ok.1 h
    exact .of_same rfl (Table.next_modify _ _ _).ge

theorem recoverExpiredApproval (approval : ℕ) (now : Time) :
    (recoverExpiredApproval env approval now).Follows (StepsMove P) := by
  refine .bind (.query _) fun found => ?_
  split
  · exact .pure _
  · refine .bind (.lift (quiet _ (by decide))) fun _ => .bind (.widen (quiet _ (by decide))) fun created => ?_
    split
    · refine .bind (.lift (quiet _ (by decide))) fun _ => ?_
      unfold timeOutSubject
      split
      · exact .widen (quiet _ (by decide))
      · split
        · exact .bind (.widen (failExecutionForApprovalTimeout _ _ now)) fun _ => .pure _
        · exact .pure _
    · exact .pure _

-- ════════════════════════════════════════════════════════════════════════
-- Transitions of one step
-- ════════════════════════════════════════════════════════════════════════

theorem position_apply (update : StepUpdate) (now : Time) (step : ExecutionStep) :
    (update.apply now step).position = step.position := by
  unfold StepUpdate.apply
  dsimp only
  split_ifs <;> rfl

/-- **The transition** of a step of the execution starts it only when the caller may. -/
theorem updateExecutionStep (execution step : ℕ) (call : RunnerCall) (update : StepUpdate)
    (allowRunning : Bool) :
    (updateExecutionStep execution step call update allowRunning).FollowsFrom
      (StepsMove fun j => j = step ∧ allowRunning = true ∧
        ∃ row, s.steps.get? step = some row ∧ row.execution = execution) s := by
  refine .query fun e _ => .query fun _ _ => .query fun found hfound => .query fun row hrow =>
    .query fun _ hallowed => .query fun now _ => .bind (.lift ?_) fun _ s1 _ _ => Tx.Follows.from ?_ s1
  · rw [select_ok] at hfound
    rw [expect_ok] at hrow
    subst hfound
    obtain ⟨hget, hexecution⟩ := Option.filter_eq_some_iff.1 hrow
    rw [ensure_ok] at hallowed
    intro u s' h
    refine moveStep (position_apply update now) (fun hstarted row' hrow' => ?_) h
    rw [hget] at hrow'
    cases hrow'
    cases allowRunning with
    | true => exact .inr ⟨rfl, rfl, row, hget, of_decide_eq_true hexecution⟩
    | false =>
      -- what is not started by the transition runs before it
      refine .inl ?_
      revert hallowed hstarted
      cases row.status <;> cases update.newStatus <;>
        simp [StepStatus.transitions, StepStatus.isStarted]
  · dsimp only
    split
    · refine .bind (fun _ u s' h => ?_) fun _ => .lift (quiet _ (by decide))
      obtain rfl := moveExecution_ok.1 h
      exact .of_same rfl (Table.next_modify _ _ _).ge
    · exact .lift (quiet _ (by decide))

/-- A transition that may not start the step. -/
theorem reportStep (execution step : ℕ) (call : RunnerCall) (update : StepUpdate) :
    (RunbookPlatform.updateExecutionStep execution step call update false).Follows (StepsMove P) :=
  fun _ u s' h => (updateExecutionStep execution step call update false u s' h).mono
    fun _ hj => absurd hj.2.1 Bool.false_ne_true

/-- The start of the step, after transactions that leave the steps alone. -/
theorem runStep {s1 : Db} (execution step : ℕ) (call : RunnerCall) (hsteps : s.steps = s1.steps)
    (hP : ∀ row, s.steps.get? step = some row → row.execution = execution → P step) :
    (RunbookPlatform.updateExecutionStep execution step call { newStatus := .running }
      true).FollowsFrom (StepsMove P) s1 := by
  refine fun u s' h => (updateExecutionStep execution step call _ true u s' h).mono ?_
  rintro j ⟨rfl, -, row, hrow, hexecution⟩
  exact hP row (hsteps ▸ hrow) hexecution

-- ════════════════════════════════════════════════════════════════════════
-- Step starts and approval polls
-- ════════════════════════════════════════════════════════════════════════

/-- **A step start** starts the step when policies approve it, which never happens to one that
requires approval, or when a breakglass session covers its gate. -/
theorem startStepTx (execution : Loaded Execution) {step : ℕ} {call : RunnerCall}
    {evaluated : Except Err Evaluated} {evaluatedAt : Time}
    (hfloor : ∀ row found, s.steps.get? step = some row → row.requiresApproval = true →
      evaluated = .ok found → found.effectiveOutcome ≠ .autoApprove) :
    (startStepTx env execution step call evaluated evaluatedAt).FollowsFrom
      (StepsMove (StartsStep env execution.id step s)) s := by
  rcases evaluated with e | found
  · exact (Tx.Follows.widen (reportStep _ _ _ _)).from s
  refine .bind ((Tx.Follows.widen (quiet _ (by decide))).from s) fun _ s1 hpersist _ => ?_
  rw [Tx.run_widen] at hpersist
  have h1 : SameOn [.steps, .bindings, .sessions, .changeTargets, .clock] s s1 :=
    Tx.sameOn hpersist _ (by decide)
  have hsteps1 : s.steps = s1.steps := h1 .steps (by simp)
  unfold applyEvaluation
  split
  · exact (Tx.Follows.widen (reportStep _ _ _ _)).from s1
  have hgate : ∀ {β : Type} (f : BreakglassDecision → Service startTxCells β),
      (∀ s2, s.steps = s2.steps → BreakglassCovers env execution.id s →
        (f .allowed).FollowsFrom (StepsMove (StartsStep env execution.id step s)) s2) →
      (f .refused).Follows (StepsMove (StartsStep env execution.id step s)) →
      (f .closed).Follows (StepsMove (StartsStep env execution.id step s)) →
        ((breakglassExecutionGate env execution.id).widen >>= f).FollowsFrom
          (StepsMove (StartsStep env execution.id step s)) s1 := by
    intro β f hallowed hrefused hclosed
    refine .bind ((Tx.Follows.widen (quiet _ (by decide))).from s1) fun decision s2 hdecision _ => ?_
    rw [Tx.run_widen] at hdecision
    have h2 : SameOn [.steps] s1 s2 := Tx.sameOn hdecision _ (by decide)
    cases decision with
    | allowed =>
      refine hallowed s2 (hsteps1.trans (h2 .steps (by simp))) ?_
      exact (breakglassExecutionGate_allowed hdecision).before (h1.mono (by decide))
    | refused => exact hrefused.from s2
    | closed => exact hclosed.from s2
  split
  · rename_i hauto
    refine .widen (runStep _ _ call hsteps1 fun row hrow hexecution =>
      ⟨rfl, row, hrow, hexecution, fun hrequires => ?_⟩)
    exact absurd hauto (hfloor row found hrow hrequires rfl)
  · exact hgate _ (fun s2 hsteps2 hcovers => .widen (runStep _ _ call hsteps2
      fun row hrow hexecution => ⟨rfl, row, hrow, hexecution, fun _ => .inr hcovers⟩)) (.pure _)
      (.bind (.widen (requestStepApproval _ _ _ _ _)) fun _ => .pure _)
  · exact hgate _ (fun s2 hsteps2 hcovers => .widen (runStep _ _ call hsteps2
      fun row hrow hexecution => ⟨rfl, row, hrow, hexecution, fun _ => .inr hcovers⟩)) (.pure _)
      (.widen (reportStep _ _ _ _))

/-- The status that a request is read with, unless it is pending, is that of its row. -/
theorem getApprovalStatus_approved {approval : Loaded ApprovalRequest} {request : ApprovalRequest}
    (hloaded : ∃ row, s.approvals.get? approval.id = some row ∧ approval.row.Evolves row)
    (h : (getApprovalStatus env approval).exec s = (.ok request, s'))
    (happroved : request.status = .approved) :
    ∃ row, s.approvals.get? approval.id = some row ∧ row.step = approval.row.step ∧
      row.status = .approved := by
  obtain ⟨later, hlater, hevolves⟩ := hloaded
  have hstep : later.step = approval.row.step := congrArg (·.2.2.1) hevolves.identity
  rw [RunbookPlatform.getApprovalStatus, Prog.exec_bind, Prog.exec_read] at h
  simp only [timezoneNow, select] at h
  split at h
  · rename_i hover
    rw [Prog.exec_atomic_ok] at h
    simp only [resolveTimeout, Tx.bind_ok, Tx.lift_query_ok, lookup_ok] at h
    obtain ⟨row, _, ⟨hrow, rfl⟩, h⟩ := h
    by_cases hpending : row.status = .pending
    · -- the request has timed out
      have hresolved : request = resolveApproval .timedOut s.now row := by
        rw [if_neg (not_not.2 hpending)] at h
        split_ifs at h
        all_goals
          simp only [Tx.bind_ok, Tx.run_pure, Except.ok.injEq, Prod.mk.injEq] at h
        · obtain ⟨_, _, -, _, _, -, _, _, -, hrequest, -⟩ := h
          exact hrequest.symm
        · obtain ⟨_, _, -, _, _, -, hrequest, -⟩ := h
          exact hrequest.symm
      rw [hresolved, resolveApproval_of_pending hpending] at happroved
      cases happroved
    · rw [if_pos hpending] at h
      simp only [Tx.run_pure, Except.ok.injEq, Prod.mk.injEq] at h
      rw [hlater] at hrow
      cases hrow
      exact ⟨later, hlater, hstep, h.1 ▸ happroved⟩
  · simp only [Prog.exec_pure, Prod.mk.injEq, Except.ok.injEq] at h
    obtain ⟨rfl, -⟩ := h
    exact ⟨later, hlater, hstep, (hevolves.decided (by simp [happroved])).trans happroved⟩

/-- **An approval poll** starts the step when its request is approved. -/
theorem pollApprovalTx {execution step : ℕ} {call : RunnerCall} (approval : Loaded ApprovalRequest)
    (hloaded : ∃ row, s.approvals.get? approval.id = some row ∧ approval.row.Evolves row)
    (hstep : approval.row.step = some step) :
    (pollApprovalTx env execution step call approval).FollowsFrom
      (StepsMove (StartsApproved execution step s)) s := by
  refine .bind ((Tx.Follows.widen (quiet _ (by decide))).from s) fun request s1 hstatus _ => ?_
  rw [Tx.run_widen] at hstatus
  have h1 : SameOn [.steps] s s1 := Tx.sameOn hstatus _ (by decide)
  rw [Tx.ofProg_ok] at hstatus
  split
  · exact (Tx.Follows.pure _).from s1
  · rename_i happroved
    refine .bind ((Tx.Follows.widen (quiet _ (by decide))).from s1) fun decision s2 hdecision _ => ?_
    rw [Tx.run_widen] at hdecision
    have h2 : SameOn [.steps] s s2 := h1.trans (Tx.sameOn hdecision _ (by decide))
    split
    · exact (Tx.Follows.pure _).from s2
    · refine .widen (runStep _ _ call (h2 .steps (by simp)) fun row hrow hexecution =>
        ⟨rfl, ⟨row, hrow, hexecution⟩, ?_⟩)
      obtain ⟨later, hlater, hlink, hlaterApproved⟩ :=
        getApprovalStatus_approved hloaded hstatus happroved
      exact ⟨approval.id, later, hlater, hlink.trans hstep, hlaterApproved⟩
  · exact (Tx.Follows.widen (reportStep _ _ _ _)).from s1
  · exact (Tx.Follows.widen (reportStep _ _ _ _)).from s1


end StepsMove

end RunbookPlatform
