import RunbookPlatform.Work.Requests
import RunbookPlatform.Work.Reservations

/-!
# Routing of executions

A dispatch records the pool that its execution is for. Registered runners claim for their
pool and respect the record; a runner of the shared token belongs to no pool, takes what is
queued and clears the record.

## Main definitions

- `Execution.route` — the organization, the pool key and the claim of an execution
- `RouteChange` — what a transaction can do to them

## Main results

- `KeepsRoutes.reserves`, `KeepsRoutes.updateExecutionStep`, `KeepsRoutes.recoverStuckExecution` and the others —
  services other than claims keep all routes
-/

namespace RunbookPlatform

open Transactional

set_option synthInstance.maxSize 1000

/-- What routing is about: the organization of an execution, its pool and its claim. -/
def Execution.route (e : Execution) : ℕ × String × String × Option String :=
  (e.organization, e.runnerPoolKey, e.claim)

/-- An execution may become `later`: its route stays. -/
def Execution.SameRoute (e later : Execution) : Prop := later.route = e.route

theorem Execution.SameRoute.refl (e : Execution) : e.SameRoute e := rfl

theorem Execution.SameRoute.trans {a b c : Execution} (h1 : a.SameRoute b) (h2 : b.SameRoute c) :
    a.SameRoute c :=
  Eq.trans h2 h1

/-- Executions keep their routes. -/
def KeepsRoutes (s s' : Db) : Prop :=
  Table.Evolves Execution.SameRoute s.executions s'.executions

instance : IsPreorder Db KeepsRoutes where
  refl s := .refl Execution.SameRoute.refl s.executions
  trans _ _ _ := Table.Evolves.trans (R := Execution.SameRoute) fun _ _ _ => .trans

/-- An execution of a dispatch that is for a pool. -/
def Db.RoutedTo (s : Db) (i : ℕ) (key : String) : Prop :=
  (bindingOf? i s).isSome ∧ key ≠ "" ∧ ∃ e, s.executions.get? i = some e ∧ e.runnerPoolKey = key

/-- What the transaction `n` does to the route of execution `i`: nothing, the claim of a
registered runner of its organization and, if it is routed, of its pool, or the claim of a
runner of the shared token, which clears the pool. -/
inductive RouteChange (n : TxName) (s : Db) (i : ℕ) (e e' : Execution) : Prop where
  | kept (hroute : e'.route = e.route)
  | registered (runner : Runner) (pool : RunnerPool) (hn : n = .claim (some runner))
      (hpool : s.reference.pools.get? runner.pool = some pool)
      (horganization : e.organization = runner.organization)
      (hkept : e'.organization = e.organization) (hkey : e'.runnerPoolKey = pool.key)
      (hrouted : ∀ key, s.RoutedTo i key → key = pool.key)
  | shared (hn : n = .claim none) (hkept : e'.organization = e.organization)
      (hkey : e'.runnerPoolKey = "")

/-- What the transaction `n` does to the routes of all executions. -/
def Routes (n : TxName) (s s' : Db) : Prop :=
  ∀ i e, s.executions.get? i = some e →
    ∃ e', s'.executions.get? i = some e' ∧ RouteChange n s i e e'

namespace KeepsRoutes

variable {env : Env} {V W : List Cell} {α : Type} {s s' s1 : Db}

theorem routes {n : TxName} (h : KeepsRoutes s s') : Routes n s s' := fun i e he => by
  obtain ⟨e', he', hroute⟩ := h i e he
  exact ⟨e', he', .kept hroute⟩

theorem of_executions (h : s.executions = s'.executions) : KeepsRoutes s s' := by
  rw [KeepsRoutes, h]
  exact .refl Execution.SameRoute.refl _

theorem of_sameOn (h : SameOn [.executions] s s') : KeepsRoutes s s' :=
  of_executions (h .executions (by simp))

/-- **Frame rule**: a transaction that writes no execution keeps the routes. -/
theorem frame (t : Service W α) (hdisj : ∀ c ∈ [Cell.executions], c ∉ W) :
    t.Follows KeepsRoutes :=
  (Tx.Follows.sameOn t hdisj).mono fun _ _ => of_sameOn

/-- An update of an execution that keeps its route. -/
theorem updateExecution {i : ℕ} {f : Execution → Execution} {h}
    (hf : ∀ e, (f e).route = e.route) : (updateExecution i f h).Follows KeepsRoutes := by
  intro s u s' hrun
  obtain rfl := updateExecution_ok.1 hrun
  exact .modify Execution.SameRoute.refl hf _ i

/-- A move of an execution that keeps its route. -/
theorem moveExecution {i : ℕ} {sources : List ExecutionStatus} {new : ExecutionStatus}
    {f : Execution → Execution} {hW} (hf : ∀ e, (f e).route = e.route) :
    (moveExecution (W := W) i sources new f hW).Follows KeepsRoutes := by
  intro s u s' hrun
  obtain rfl := moveExecution_ok.1 hrun
  refine .modify Execution.SameRoute.refl (fun e => ?_) _ i
  split_ifs
  · exact hf e
  · rfl

-- ════════════════════════════════════════════════════════════════════════
-- Dispatches
-- ════════════════════════════════════════════════════════════════════════

/-- New executions are added, and the old ones are as they were. -/
theorem insertExecutionRows (workflowId : ℕ) (workflow : Workflow) (mode : ExecutionMode)
    (actor : AuditActor) :
    (insertExecutionRows env workflowId workflow mode actor).Follows KeepsRoutes := by
  intro s i s' h
  obtain ⟨e, -, -, hexecutions, -⟩ := WorkSteps.insertExecutionRows_ok h
  rw [KeepsRoutes, hexecutions]
  exact .insert Execution.SameRoute.refl _ e

/-- The pool is recorded in an execution that is new. -/
theorem reserveExecution (row : ChangeRecord) (workflow : Workflow)
    (check : DispatchEligibilityCheck) (actor : AuditActor) :
    (reserveExecution env row workflow check actor).Follows KeepsRoutes := by
  intro s i s' h
  simp only [RunbookPlatform.reserveExecution, Tx.bind_ok, Tx.ofProg_ok, createExecution,
    Prog.exec_bind, Prog.exec_read, Prog.exec_atomic] at h
  obtain ⟨execution, s1, hcreate, h⟩ := h
  split at hcreate
  · rename_i hcheck
    simp only [Prod.mk.injEq] at hcheck
    obtain ⟨-, rfl⟩ := hcheck
    split at hcreate
    · rename_i j s3 hrows
      simp only [Prod.mk.injEq, Except.ok.injEq] at hcreate
      obtain ⟨rfl, rfl⟩ := hcreate
      obtain ⟨e, -, rfl, hexecutions, -⟩ := WorkSteps.insertExecutionRows_ok hrows
      have hnew : KeepsRoutes s s3 := by
        rw [KeepsRoutes, hexecutions]
        exact .insert Execution.SameRoute.refl _ e
      split_ifs at h
      · simp only [Tx.bind_ok, Tx.run_lift, Tx.run_pure, Except.ok.injEq, Prod.mk.injEq] at h
        obtain ⟨_, s2, hpool, rfl, rfl⟩ := h
        obtain rfl := updateExecution_ok.1 hpool
        intro k old hold
        obtain ⟨later, hlater, hroute⟩ := hnew k old hold
        have hk : k ≠ s.executions.next := Nat.ne_of_lt (Table.lt_next hold)
        exact ⟨later, by rw [Table.get?_modify_of_ne hk, hlater], hroute⟩
      · simp only [Tx.run_pure, Except.ok.injEq, Prod.mk.injEq] at h
        exact h.2 ▸ hnew
    · simp at hcreate
  · simp at hcreate

/-- So all requests that reserve an execution keep the routes. -/
theorem reserves : Reserves env KeepsRoutes where
  quiet _ _ h := of_sameOn (h.mono (by decide))
  reserve := reserveExecution

-- ════════════════════════════════════════════════════════════════════════
-- The life of an execution
-- ════════════════════════════════════════════════════════════════════════

theorem expireUnboundDispatchForExecution (execution : ℕ) (now : Time) :
    (expireUnboundDispatchForExecution execution now).Follows KeepsRoutes := by
  refine .bind (.query _) fun found => ?_
  split
  · exact .pure _
  · split
    · exact .pure _
    · refine .bind (.lift (frame _ (by decide))) fun _ => .bind (.query _) fun e => ?_
      dsimp only
      split
      · exact .bind (moveExecution fun _ => rfl) fun _ => .bind (.lift (frame _ (by decide))) fun _ => .pure _
      · exact .pure _

theorem updateExecutionStep (execution step : ℕ) (call : RunnerCall) (update : StepUpdate)
    (allowRunning : Bool) :
    (updateExecutionStep execution step call update allowRunning).Follows KeepsRoutes := by
  refine .bind (.query _) fun e => .bind (.query _) fun _ => .bind (.query _) fun found =>
    .bind (.query _) fun row => .bind (.query _) fun _ => .bind (.query _) fun now =>
    .bind (.lift (frame _ (by decide))) fun _ => ?_
  dsimp only
  split
  · exact .bind (moveExecution fun _ => rfl) fun _ => .lift (frame _ (by decide))
  · exact .lift (frame _ (by decide))

theorem applyEvaluation (execution step : ℕ) (call : RunnerCall) (found : Evaluated) :
    (applyEvaluation env execution step call found).Follows KeepsRoutes := by
  have hrun : (runStep execution step call).Follows KeepsRoutes :=
    .widen (updateExecutionStep _ _ _ _ _)
  have hblock : ∀ message kind,
      (blockStep execution step call message kind).Follows KeepsRoutes :=
    fun _ _ => .widen (updateExecutionStep _ _ _ _ _)
  unfold RunbookPlatform.applyEvaluation
  split
  · exact hblock _ _
  · split
    · exact hrun
    · refine .bind (.widen (frame _ (by decide))) fun decision => ?_
      split
      · exact hrun
      · exact .pure _
      · exact .bind (.widen (frame _ (by decide))) fun _ => .pure _
    · refine .bind (.widen (frame _ (by decide))) fun decision => ?_
      split
      · exact hrun
      · exact .pure _
      · exact hblock _ _

theorem startStepTx (execution : Loaded Execution) (step : ℕ) (call : RunnerCall)
    (evaluated : Except Err Evaluated) (evaluatedAt : Time) :
    (startStepTx env execution step call evaluated evaluatedAt).Follows KeepsRoutes := by
  cases evaluated with
  | ok found => exact .bind (.widen (frame _ (by decide))) fun _ => applyEvaluation _ step call found
  | error e => exact .widen (updateExecutionStep _ step call _ false)

theorem pollApprovalTx (execution step : ℕ) (call : RunnerCall)
    (approval : Loaded ApprovalRequest) :
    (pollApprovalTx env execution step call approval).Follows KeepsRoutes := by
  refine .bind (.widen (frame _ (by decide))) fun request => ?_
  split
  · exact .pure _
  · refine .bind (.widen (frame _ (by decide))) fun decision => ?_
    split
    · exact .pure _
    · exact .widen (updateExecutionStep _ step call _ true)
  · exact .widen (updateExecutionStep _ step call _ false)
  · exact .widen (updateExecutionStep _ step call _ false)

theorem cancelExecution (execution : ℕ) (actor : AuditActor) :
    (cancelExecution execution actor).Follows KeepsRoutes := by
  refine .bind (.query _) fun e => ?_
  split
  · exact .bind (moveExecution fun _ => rfl) fun _ => .lift (frame _ (by decide))
  · split
    · exact .bind (.query _) fun now =>
        .bind (.lift (updateExecution fun _ => rfl)) fun _ => .lift (frame _ (by decide))
    · exact .query _

theorem completeExecutionTx (execution : ℕ) (call : RunnerCall) (outcome : ExecutionStatus) :
    (completeExecutionTx env execution call outcome).Follows KeepsRoutes := by
  refine .bind (.query _) fun e => .bind (.query _) fun _ => .bind (.query _) fun _ =>
    .bind (.query _) fun _ => .bind (.widen (frame _ (by decide))) fun _ => .bind (.query _) fun now =>
    .bind ?_ fun _ => .lift (frame _ (by decide))
  unfold endExecution
  split
  all_goals exact moveExecution fun _ => rfl

theorem recoverStuckExecution (execution : ℕ) (staleBefore : Time) :
    (recoverStuckExecution execution staleBefore).Follows KeepsRoutes := by
  refine .bind (.query _) fun found => ?_
  split
  · exact .pure _
  · exact .bind (.query _) fun now => .bind (moveExecution fun _ => rfl) fun _ => .bind (.lift (frame _ (by decide))) fun _ =>
      .bind (.lift (frame _ (by decide))) fun _ => .pure _

theorem failExecutionForApprovalTimeout (execution step : ℕ) (now : Time) :
    (failExecutionForApprovalTimeout env execution step now).Follows KeepsRoutes := by
  refine .bind (.query _) fun e => .bind (.query _) fun found => .bind (.query _) fun st => ?_
  split
  · exact .pure _
  · exact .bind (.lift (frame _ (by decide))) fun _ => .bind (moveExecution fun _ => rfl) fun _ =>
      .bind (.lift (frame _ (by decide))) fun _ => .bind (.lift (frame _ (by decide))) fun _ =>
      .bind (.lift (frame _ (by decide))) fun _ =>
      .bind (.savepoint (.widen (frame _ (by decide))) fun _ => .pure _) fun _ => .pure _

theorem recoverExpiredApproval (approval : ℕ) (now : Time) :
    (recoverExpiredApproval env approval now).Follows KeepsRoutes := by
  refine .bind (.query _) fun found => ?_
  split
  · exact .pure _
  · refine .bind (.lift (frame _ (by decide))) fun _ => .bind (.widen (frame _ (by decide))) fun created => ?_
    split
    · refine .bind (.lift (frame _ (by decide))) fun _ => ?_
      unfold timeOutSubject
      split
      · exact .widen (frame _ (by decide))
      · split
        · exact .bind (.widen (failExecutionForApprovalTimeout _ _ now)) fun _ => .pure _
        · exact .pure _
    · exact .pure _

theorem claimScan (p : Execution → Bool) (eligible : Loaded Execution → Read Bool) (now : Time) :
    ∀ (n : ℕ) (excluded : List ℕ), (claimScan p eligible now n excluded).Follows KeepsRoutes
  | 0, _ => .pure _
  | n + 1, excluded => by
    refine .bind (.query _) fun first => ?_
    split
    · exact .pure _
    · refine .bind (.savepoint (expireUnboundDispatchForExecution _ now) fun _ => .pure _)
        fun expired => ?_
      split
      · exact claimScan p eligible now n _
      · refine .bind (.query _) fun fits => ?_
        split
        · exact .pure _
        · exact claimScan p eligible now n _

end KeepsRoutes

end RunbookPlatform
