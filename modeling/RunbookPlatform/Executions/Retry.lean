import RunbookPlatform.System

/-!
# The repeated completion

`complete_execution` commits the end of an execution first, then reports it, releases the
lease and settles the bound change. A failure of the settlement is raised again, for the
runner to repeat the call. Here a failure may be raised at any of these places.

## Main definitions

- `CompletionPlace` — where a failure is raised
- `completeExecutionFailing` — `complete_execution` with a failure
- `CompletionRetryable` — the call left everything as it was, or can be repeated
- `completable` — what the guards of the transaction ask for

## Main results

- `exec_completeExecutionFailing_none` — without a failure the call is `complete_execution`
- `completion_retryable_iff` — what has been committed cannot be repeated
-/

namespace RunbookPlatform

open Transactional

set_option synthInstance.maxSize 1000

/-- The places inside `complete_execution` where a failure is raised. -/
inductive CompletionPlace where
  /-- The transaction, up to its last statement. -/
  | transaction
  /-- The stream events, the integration and the counter that follow the commit. -/
  | reports
  /-- The release of the lease. -/
  | lease
  /-- `handle_bound_execution_completed`. -/
  | hook
  deriving DecidableEq

/-- A failure and its place. -/
structure CompletionFailure where
  place : CompletionPlace
  error : Err

/-- The failure of a place, if it is there. -/
def raiseAt (failure : Option CompletionFailure) (place : CompletionPlace) : Read Unit :=
  match failure with
  | none => pure ()
  | some f => if f.place = place then raise f.error else pure ()

/-- The cells of what follows the commit. -/
@[reducible] def settleCells : List Cell := .leases :: completionCells

/-- The release of the lease, whose failure is only logged. -/
def releaseLease (execution : ℕ) (outcome : ExecutionStatus)
    (failure : Option CompletionFailure) : Handler settleCells Unit :=
  (Prog.atomic .service (do
    (endActiveLease execution .released outcome.value)
    raiseAt failure .lease : Service [.leases] Unit)).tryCatch fun _ => pure ()

/-- `handle_bound_execution_completed` with a failure; its transaction is taken back. -/
def handleBoundExecutionFailing (env : Env) (execution : ℕ) (outcome : ExecutionStatus)
    (failure : Option CompletionFailure) : Handler settleCells Unit := do
  match ← Prog.read (select (bindingOf? execution)) with
  | none => Prog.read (raiseAt failure .hook)
  | some (_, binding) =>
    Prog.atomic (.completionHook binding.changeRecord) (do
      settleBoundChange env binding.changeRecord outcome
      raiseAt failure .hook : Service completionCells Unit)

/-- What follows the commit. -/
def settleCompletion (env : Env) (execution : ℕ) (outcome : ExecutionStatus)
    (failure : Option CompletionFailure) : Handler settleCells Unit := do
  Prog.read (raiseAt failure .reports)
  releaseLease execution outcome failure
  (handleBoundExecutionFailing env execution outcome failure).tryCatch fun e => do
    let bound ← Prog.read (select fun s => (bindingOf? execution s).isSome)
    if bound then Prog.fail e

/-- `complete_execution` with a failure. -/
def completeExecutionFailing (env : Env) (execution : ℕ) (call : RunnerCall)
    (outcome : ExecutionStatus) (failure : Option CompletionFailure) :
    Handler completeHandlerCells Unit := do
  Prog.atomic (.completeExecution execution outcome) (do
    completeExecutionTx env execution call outcome
    raiseAt failure .transaction : Service completeCells Unit)
  (settleCompletion env execution outcome failure).widen

/-- The execution, its leases and its change. -/
def completionView (execution : ℕ) (s : Db) :
    Option Execution × List (Loaded ExecutionLease) × Option ChangeRecord :=
  (s.executions.get? execution, rowsWhere s.leases (·.execution = execution),
    (bindingOf? execution s).bind fun b => s.changes.get? b.2.changeRecord)

/-- The status of an execution. -/
def executionStatusOf (execution : ℕ) (s : Db) : Option ExecutionStatus :=
  (s.executions.get? execution).map Execution.status

/-- A call that failed so had no effect on the execution, its lease and its change; or the
same call succeeds in some state in which the execution has the status it was left with, and
gets them to where one successful call would have got them. -/
def CompletionRetryable (env : Env) (execution : ℕ) (call : RunnerCall)
    (outcome : ExecutionStatus) (failure : CompletionFailure) (s : Db) : Prop :=
  let left := ((completeExecutionFailing env execution call outcome failure).exec s).2
  completionView execution left = completionView execution s ∨
    ∃ later reached, executionStatusOf execution later = executionStatusOf execution left ∧
      (completeExecution env execution call outcome).exec later = (.ok (), reached) ∧
      completionView execution reached =
        completionView execution ((completeExecution env execution call outcome).exec s).2

/-- What the transaction of `complete_execution` asks for: the runner holds the active
execution, the outcome is an end of it, and the binding is ready. -/
def completable (env : Env) (execution : ℕ) (call : RunnerCall) (outcome : ExecutionStatus)
    (s : Db) : Bool :=
  (s.executions.get? execution).any fun e =>
    decide (e.claimedByRunnerId = call.runnerId) &&
    decide (claimTokenText e = call.claimToken) &&
    decide (e.status = .claimed ∨ e.status = .running) && outcome.isTerminal &&
    ((bindingReadyTx env ⟨execution, e⟩ call.runnerId call.claimToken).run s).isOk


variable {env : Env} {execution : ℕ} {call : RunnerCall} {outcome : ExecutionStatus}
  {failure : CompletionFailure} {s s' : Db}

-- ════════════════════════════════════════════════════════════════════════
-- No failure
-- ════════════════════════════════════════════════════════════════════════

/-- A transaction that no failure follows. -/
theorem run_bind_raiseAt_none {V : List Cell} (t : Service V Unit) (place : CompletionPlace)
    (s : Db) : (t >>= fun _ => liftM (raiseAt none place) : Service V Unit).run s = t.run s := by
  rw [Tx.run_bind]
  rcases t.run s with e | ⟨⟨⟩, s1⟩
  · rfl
  · exact Tx.lift_query_ok.2 ⟨rfl, rfl⟩

/-- The release of a lease is one write. -/
theorem endActiveLease_run (execution : ℕ) (status : LeaseStatus) (releaseReason : String)
    (s : Db) : ∃ s', (endActiveLease execution status releaseReason).run s = .ok ((), s') := by
  exact ⟨_, Tx.bind_ok.2 ⟨s.now, s, Tx.lift_query_ok.2 ⟨rfl, rfl⟩, updateRows_ok.2 rfl⟩⟩

theorem exec_releaseLease_none (s : Db) : (releaseLease execution outcome none).exec s =
    (Prog.atomic .service (endActiveLease execution .released outcome.value) :
      Handler settleCells Unit).exec s := by
  obtain ⟨s1, hlease⟩ := endActiveLease_run execution .released outcome.value s
  rw [releaseLease, Prog.exec_tryCatch, Prog.exec_atomic, Prog.exec_atomic,
    run_bind_raiseAt_none, hlease]

theorem exec_handleBoundExecutionFailing_none (s : Db) :
    (handleBoundExecutionFailing env execution outcome none).exec s =
      (handleBoundExecutionCompleted env execution outcome).exec s := by
  rw [handleBoundExecutionFailing, handleBoundExecutionCompleted, Prog.exec_bind, Prog.exec_bind,
    Prog.exec_read, Prog.exec_read]
  simp only [select]
  rcases bindingOf? execution s with _ | ⟨b, binding⟩
  · simp only [Prog.exec_read, Prog.exec_pure]
    rfl
  · simp only [Prog.exec_atomic]
    rw [run_bind_raiseAt_none]

/-- **Without a failure** the call is `complete_execution`. -/
theorem exec_completeExecutionFailing_none :
    (completeExecutionFailing env execution call outcome none).exec s =
      (completeExecution env execution call outcome).exec s := by
  rw [completeExecutionFailing, completeExecution, Prog.exec_bind, Prog.exec_bind,
    Prog.exec_atomic, Prog.exec_atomic, run_bind_raiseAt_none]
  rcases (completeExecutionTx env execution call outcome).run s with e | ⟨⟨⟩, s1⟩
  · rfl
  · have hreports : raiseAt none .reports s1 = .ok () := rfl
    simp only [Prog.exec_widen]
    rw [settleCompletion, Prog.exec_bind, Prog.exec_read, hreports]
    dsimp only
    rw [Prog.exec_bind, Prog.exec_bind, exec_releaseLease_none, Prog.exec_atomic, Prog.exec_atomic]
    obtain ⟨s2, hlease⟩ := endActiveLease_run execution .released outcome.value s1
    rw [hlease]
    simp only [Prog.exec_tryCatch, exec_handleBoundExecutionFailing_none, Prog.exec_widen]
    rcases (handleBoundExecutionCompleted env execution outcome).exec s2 with ⟨e | u, s3⟩
    · simp only [Prog.exec_bind, Prog.exec_read, select]
      split_ifs <;> rfl
    · rfl

-- ════════════════════════════════════════════════════════════════════════
-- The transaction
-- ════════════════════════════════════════════════════════════════════════

/-- The save of an end, from the row's side. -/
theorem endExecution_moves {now : Time} {e : Execution} (hrow : s.executions.get? execution = some e)
    (hactive : e.status = .claimed ∨ e.status = .running) (hterminal : outcome.isTerminal = true) :
    ∃ s', (endExecution execution outcome now).run s = .ok ((), s') ∧
      executionStatusOf execution s' = some outcome := by
  cases outcome with
  | succeeded | failed | cancelled =>
    refine ⟨_, rfl, ?_⟩
    simp [executionStatusOf, hrow, hactive]
  | _ => cases hterminal

/-- What the guards ask for. -/
theorem completable_iff : completable env execution call outcome s = true ↔
    ∃ e, s.executions.get? execution = some e ∧ e.claimedByRunnerId = call.runnerId ∧
      claimTokenText e = call.claimToken ∧ (e.status = .claimed ∨ e.status = .running) ∧
      outcome.isTerminal = true ∧
      ((bindingReadyTx env ⟨execution, e⟩ call.runnerId call.claimToken).run s).isOk = true := by
  simp only [completable, Option.any_eq_true, Bool.and_eq_true, decide_eq_true_eq, and_assoc]

/-- **The transaction commits** what its guards let through, and the execution is over. -/
theorem completeExecutionTx_commits (h : completable env execution call outcome s = true) :
    outcome.isTerminal = true ∧
      ∃ s', (completeExecutionTx env execution call outcome).run s = .ok ((), s') ∧
        executionStatusOf execution s' = some outcome := by
  obtain ⟨e, hrow, howner, htoken, hactive, hterminal, hready⟩ := completable_iff.1 h
  have hvalid : validateRunnerOwnership e call.runnerId call.claimToken s = .ok () :=
    Query.bind_ok.2 ⟨(), ensure_ok.2 howner, ensure_ok.2 htoken⟩
  cases hbinding : (bindingReadyTx env ⟨execution, e⟩ call.runnerId call.claimToken).run s with
  | error e' =>
    rw [hbinding] at hready
    cases hready
  | ok r =>
    obtain ⟨u, s1⟩ := r
    have hsame : s.executions = s1.executions := Tx.frame _ hbinding .executions (by decide)
    obtain ⟨s2, hend, hstatus⟩ : ∃ s2, (endExecution execution outcome s1.now).run s1 =
        .ok ((), s2) ∧ executionStatusOf execution s2 = some outcome :=
      endExecution_moves (hsame ▸ hrow) hactive hterminal
    have hnow : timezoneNow s1 = .ok s1.now := rfl
    let event : AuditEvent :=
      { organization := e.organization, actor := runnerActor call.runnerId
        eventType := completionEventType outcome, objectType := .execution
        objectId := execution, previousStatus := e.status.value, newStatus := outcome.value }
    refine ⟨hterminal, { s2 with audit := s2.audit.insert event }, ?_, hstatus⟩
    rw [completeExecutionTx, Tx.run_query_bind (lookup_ok.2 hrow), Tx.run_query_bind hvalid,
      Tx.run_query_bind ((ensure_ok (u := ())).2 hactive),
      Tx.run_query_bind ((ensure_ok (u := ())).2 hterminal), Tx.run_bind, Tx.run_widen, hbinding]
    dsimp only
    rw [Tx.run_query_bind hnow, Tx.run_bind, hend]
    rfl

/-- What its guards refuse does not commit. -/
theorem completable_of_commit {u : Unit}
    (h : (completeExecutionTx env execution call outcome).run s = .ok (u, s')) :
    completable env execution call outcome s = true := by
  simp only [completeExecutionTx, Tx.bind_ok, Tx.lift_query_ok, lookup_ok,
    validateRunnerOwnership, Query.bind_ok, ensure_ok] at h
  obtain ⟨e, _, ⟨hrow, rfl⟩, _, _, ⟨⟨_, howner, htoken⟩, rfl⟩, _, _, ⟨hactive, rfl⟩, _, _,
    ⟨hterminal, rfl⟩, _, s1, hbinding, -⟩ := h
  rw [Tx.run_widen] at hbinding
  refine completable_iff.2 ⟨e, hrow, howner, htoken, hactive, hterminal, ?_⟩
  rw [hbinding]
  rfl

-- ════════════════════════════════════════════════════════════════════════
-- The call
-- ════════════════════════════════════════════════════════════════════════

/-- What follows the commit leaves the executions alone. -/
theorem settleCompletion_executions (failure : Option CompletionFailure) (s : Db) :
    executionStatusOf execution ((settleCompletion env execution outcome failure).exec s).2 =
      executionStatusOf execution s := by
  have hsame : s.executions = ((settleCompletion env execution outcome failure).exec s).2.executions :=
    Prog.exec_frame (settleCompletion env execution outcome failure) s
      (c := Cell.executions) (by decide)
  rw [executionStatusOf, executionStatusOf, ← hsame]

/-- A call that does not commit leaves everything as it was. -/
theorem completeExecutionFailing_refused (h : failure.place = .transaction ∨
      ¬completable env execution call outcome s = true) :
    ((completeExecutionFailing env execution call outcome failure).exec s).2 = s := by
  have hrefused : ∃ e, (completeExecutionTx env execution call outcome >>= fun _ =>
      liftM (raiseAt failure .transaction) : Service completeCells Unit).run s = .error e := by
    rw [Tx.run_bind]
    cases hrun : (completeExecutionTx env execution call outcome).run s with
    | error e => exact ⟨e, rfl⟩
    | ok r =>
      obtain ⟨u, s1⟩ := r
      have hplace : failure.place = .transaction :=
        h.resolve_right (not_not.2 (completable_of_commit hrun))
      have hraise : raiseAt failure .transaction s1 = .error failure.error := by
        simp [raiseAt, hplace]
      refine ⟨failure.error, ?_⟩
      simp only [liftM, monadLift, MonadLift.monadLift, Tx.read, hraise]
  obtain ⟨e, hrefused⟩ := hrefused
  rw [completeExecutionFailing, Prog.exec_bind, Prog.exec_atomic, hrefused]

/-- A call that commits leaves an execution that is over. -/
theorem completeExecutionFailing_committed (hplace : failure.place ≠ .transaction)
    (h : completable env execution call outcome s = true) :
    executionStatusOf execution
      ((completeExecutionFailing env execution call outcome failure).exec s).2 = some outcome := by
  obtain ⟨-, s1, hrun, hstatus⟩ := completeExecutionTx_commits h
  have hpass : raiseAt failure .transaction s1 = .ok () := by simp [raiseAt, hplace]
  rw [completeExecutionFailing, Prog.exec_bind, Prog.exec_atomic, Tx.run_bind, hrun]
  dsimp only
  rw [Tx.lift_query_ok.2 ⟨hpass, rfl⟩]
  dsimp only
  rw [Prog.exec_widen, settleCompletion_executions, hstatus]

/-- The guards let through active executions only. -/
theorem completable_active (h : completable env execution call outcome s = true) :
    ∃ status, executionStatusOf execution s = some status ∧ status.isTerminal = false := by
  obtain ⟨e, hrow, -, -, hactive, -⟩ := completable_iff.1 h
  refine ⟨e.status, by rw [executionStatusOf, hrow, Option.map_some], ?_⟩
  rcases hactive with hclaimed | hrunning
  · rw [hclaimed]
    rfl
  · rw [hrunning]
    rfl

/-- **What has been committed** cannot be repeated. -/
theorem not_retryable_of_committed (hplace : failure.place ≠ .transaction)
    (h : completable env execution call outcome s = true) :
    ¬CompletionRetryable env execution call outcome failure s := by
  have hover := completeExecutionFailing_committed hplace h
  obtain ⟨hterminal, -⟩ := completeExecutionTx_commits h
  rintro (hsame | ⟨later, reached, hlater, hretry, -⟩)
  · obtain ⟨status, hstatus, hactive⟩ := completable_active h
    have hrow := congrArg (fun view => view.1.map Execution.status) hsame
    have hunchanged : some outcome = some status := hover.symm.trans (hrow.trans hstatus)
    rw [← Option.some.inj hunchanged, hterminal] at hactive
    cases hactive
  · obtain ⟨_, s1, hcommit, -⟩ := Prog.exec_bind_ok.1 hretry
    obtain ⟨status, hstatus, hactive⟩ :=
      completable_active (completable_of_commit (Prog.exec_atomic_ok.1 hcommit))
    rw [hlater, hover, Option.some.injEq] at hstatus
    rw [← hstatus, hterminal] at hactive
    cases hactive

/-- **A completion can be repeated** exactly when it failed before its commit. -/
theorem completion_retryable_iff (env : Env) (execution : ℕ) (call : RunnerCall)
    (outcome : ExecutionStatus) (failure : CompletionFailure) (s : Db) :
    CompletionRetryable env execution call outcome failure s ↔
      failure.place = .transaction ∨ completable env execution call outcome s = false := by
  constructor
  · intro hretry
    by_contra hcommit
    obtain ⟨hplace, hcompletable⟩ := not_or.1 hcommit
    exact not_retryable_of_committed hplace (by simpa using hcompletable) hretry
  · intro hrefused
    refine .inl ?_
    rw [completeExecutionFailing_refused (hrefused.imp_right (by simp))]

/-- A change-bound execution that runs. -/
def boundExecution : Db := runOps .sample boundOps (.initial (.sample .sample) 0)

/-- Once the settlement of the change has failed, the runner's next call is refused. -/
theorem completion_not_retryable : ¬∀ (env : Env) (execution : ℕ) (call : RunnerCall)
    (outcome : ExecutionStatus) (failure : CompletionFailure) (s : Db),
    CompletionRetryable env execution call outcome failure s := by
  intro h
  have hcompletable : completable .sample 0 .sample .succeeded boundExecution = true := by
    decide +kernel
  exact not_retryable_of_committed (by decide) hcompletable
    (h .sample 0 .sample .succeeded ⟨.hook, .uncaught "OperationalError"⟩ boundExecution)

end RunbookPlatform
