import RunbookPlatform.Work.Services
import RunbookPlatform.Served

/-!
# Work steps of requests

All requests follow the work steps. A request that runs alone does so with what it read
before its transactions; the sweep of the watchdog ends an execution in one transaction and
settles its change in another, so it follows them only as a whole.

## Main definitions

- `KeepsWork` — no cancellation ends the execution of a change in dispatch
- `WorkMove` — what a transaction does

## Main results

- `Op.workMoves` — every transaction of every request is a sequence of work steps
- `WorkSteps.recoverStuckExecutions` — so is the sweep of the watchdog, as a whole
-/

namespace RunbookPlatform

open Transactional

set_option synthInstance.maxSize 1000

/-- A cancellation does not end the queued execution of a change in dispatch. -/
def KeepsWork : Admission
  | .cancelExecution e, s => s.ExecutionIn .queued e →
    ∀ c, ReservedFor s e c → ¬s.ChangeIn .dispatchable c
  | _, _ => True

/-- What the transaction `n` of the request `op` does to executions and bindings. -/
def WorkMove (env : Env) (alone : Prop) (op : Op) (n : TxName) (s s' : Db) : Prop :=
  (alone → KeepsWork n s) → WorkSteps env op alone s s'

namespace WorkMove

variable {env : Env} {op : Op} {alone : Prop} {H W : List Cell} {α β : Type} {s : Db}

theorem refl {n : TxName} (s : Db) : WorkMove env alone op n s s := fun _ =>
  Relation.ReflTransGen.refl

theorem quiet {n : TxName} {s s' : Db} (h : SameOn workCells s s') :
    WorkMove env alone op n s s' := fun _ => WorkSteps.quiet h

/-- **Frame rule** for handlers. -/
theorem frame (p : Handler W α) (s : Db) (hdisj : ∀ c ∈ workCells, c ∉ W) :
    p.Follows H (WorkMove env alone op) s :=
  .frame hdisj (fun _ _ _ => quiet) p s

/-- An atomic block whose transaction is a sequence of work steps. -/
theorem atomic {V W : List Cell} [Within V W] {n : TxName} {t : Service V α}
    (h : t.Follows (WorkSteps env op alone)) :
    (Prog.atomic n t : Handler W α).Follows H (WorkMove env alone op) s :=
  .atomic fun s1 _ a s' hrun _ => h s1 a s' hrun

/-- **The guard of the internal endpoints**: alone, what follows it finds the execution not
reserved, or its change running. -/
theorem loadReady {execution : ℕ} {call : RunnerCall} [Within sweepCells W]
    {f : Execution → Handler W β}
    (hH : alone → Cell.bindings ∈ H ∧ Cell.changeStatus .running ∈ H)
    (hdisj : ∀ c ∈ H, c ∉ W)
    (hf : ∀ e s1, (alone → AtWork s1 execution) → (f e).Follows H (WorkMove env alone op) s1) :
    ((loadReadyExecution env execution call).widen >>= f).Follows H (WorkMove env alone op) s := by
  have hkept : ∀ {s1}, alone → SameOn H s s1 → SameOn [.bindings, .changeStatus .running] s s1 :=
    fun hseq h => h.mono (by simpa using hH hseq)
  by_cases hready : alone → AtWork s execution
  · exact .bindLater hdisj (.widen (frame _ s (by decide))) fun e s1 h1 =>
      hf e s1 fun hseq => (hready hseq).congr (hkept hseq h1)
  · simp only [Classical.not_imp] at hready
    obtain ⟨hseq, hready⟩ := hready
    -- the execution is not ready, and the guard fails before anything is written
    intro s1 h1
    refine ⟨fun e s' he => ?_, fun _ _ => trivial⟩
    rw [Tx.run_widen, Tx.read_ok] at he
    obtain ⟨-, rfl⟩ := he
    refine ⟨refl s1, fun s2 h2 => ⟨fun change s' hcheck => ?_, fun _ _ => trivial⟩⟩
    rw [Tx.run_widen, Tx.read_ok] at hcheck
    have hsame := hkept hseq (h1.trans h2)
    have hback : SameOn [.bindings, .changeStatus .running] s2 s := by
      intro c hc
      simp only [List.mem_cons, List.not_mem_nil, or_false] at hc
      rcases hc with rfl | rfl
      · exact (hsame .bindings (by simp)).symm
      · exact fun c => (hsame (.changeStatus .running) (by simp) c).symm
    exact absurd ((WorkSteps.checkBindingReady_atWork hcheck.1).congr hback) hready

/-- The hook after an execution. -/
theorem handleBoundExecutionCompleted (execution : ℕ) (status : ExecutionStatus) :
    (handleBoundExecutionCompleted env execution status).Follows H (WorkMove env alone op) s := by
  refine .read refl fun s1 found _ _ => ?_
  split
  · exact .pure _
  · exact atomic (WorkSteps.settleBoundChange env _ status)

/-- A change object that was loaded before is saved as expired. -/
theorem expireStaleChange (name : TxName) (change : Loaded ChangeRecord) (actor : AuditActor)
    (now : Time) (reason : String) :
    (transitionStaleChange name change .expired actor now reason).Follows H
      (WorkMove env alone op) s :=
  (WorkSteps.transitionStaleChange name change actor now reason s).mono fun _ _ _ h _ => h

theorem bindExecution (req : BindRequest) :
    (bindExecution env req).Follows H (WorkMove env alone (.bindExecution req)) s := by
  refine .tryCatch (atomic (WorkSteps.bindExecutionTx rfl)) fun e s1 => ?_
  dsimp only
  split
  · refine .bind (.tryCatch (.widen (.read refl fun s2 row _ _ => .read refl fun s3 now _ _ => ?_))
      fun _ _ => .pure _) fun _ _ => .fail _
    split
    · exact expireStaleChange _ _ _ now _
    · exact .pure _
  · exact .fail _

theorem claimNext (runnerId : String) (registered : Bool) (token : String) (nonce : ℕ → String) :
    (claimNext env runnerId registered token nonce).Follows H
      (WorkMove env alone (.claimNext runnerId registered token nonce)) s := by
  have hgrants : (Op.claimNext runnerId registered token nonce).Grants runnerId token := ⟨rfl, rfl⟩
  have hpromote : ∀ s, (promoteDueScheduledChanges env nonce).Follows H
      (WorkMove env alone (.claimNext runnerId registered token nonce)) s :=
    fun s => .read refl fun s1 now _ _ => .read refl fun s2 due _ _ =>
      .forEach (fun c s3 => .tryCatch (atomic (WorkSteps.promoteScheduledChange c.id now _))
        fun _ _ => .pure _) due s2
  have hclaim : ∀ runner s, (claimNextExecution env runnerId runner token).Follows H
      (WorkMove env alone (.claimNext runnerId registered token nonce)) s := by
    intro runner s
    unfold claimNextExecution
    split
    · refine .bind (atomic (WorkSteps.scheduleExecutionClaim hgrants _)) fun result s1 => ?_
      split
      · exact .read refl fun s2 e _ _ => .bind (atomic (WorkSteps.frame _ (by decide))) fun _ _ => .pure _
      · exact .pure _
    · exact atomic (WorkSteps.claimUnregistered hgrants)
  refine .bind (.tryCatch (.widen (hpromote s)) fun _ _ => .pure _) fun _ s1 =>
    .read refl fun s2 runner _ _ => .bind (.widen (hclaim runner s2)) fun result s3 => ?_
  split
  · refine .widen (.read refl fun s4 found _ _ => ?_)
    split
    · exact .pure _
    · split
      · refine .read refl fun s5 now _ _ => .read refl fun s6 change _ _ => ?_
        split
        · split
          · exact .tryCatch (.widen (expireStaleChange _ _ _ now _)) fun _ _ => .pure _
          · exact .pure _
        · split
          · exact .tryCatch (.widen (frame (enforceEmergencyExpiryForChange _ now) s6 (by decide)))
              fun _ _ => .pure _
          · exact .pure _
      · exact .pure _
  · exact .pure _

theorem heartbeatExecution (execution : ℕ) (call : RunnerCall) :
    (heartbeatExecution execution call).Follows H (WorkMove env alone op) s := by
  refine .read refl fun s1 e _ _ => .bind (.query _ refl) fun _ s2 =>
    .bind (.widen (frame (enforceEmergencyExpiryForExecution execution) s2 (by decide))) fun _ s3 =>
    .read refl fun s4 now _ _ => .atomic fun s5 _ u s' h _ => ?_
  have hsame : SameOn dispatchStateCells s5 s' := Tx.sameOn h _ (by decide)
  obtain rfl := updateExecution_ok.1 h
  exact .single (.save execution (.modify fun _ _ => .inr ⟨rfl, rfl⟩) (.of_sameOn hsame))

theorem startStep (execution step : ℕ) (call : RunnerCall)
    (hH : alone → Cell.bindings ∈ H ∧ Cell.changeStatus .running ∈ H)
    (hdisj : ∀ c ∈ H, c ∉ startCells) :
    (startStep env execution step call).Follows H (WorkMove env alone op) s := by
  have hkept : ∀ {s s1 : Db}, SameOn H s s1 → (alone → AtWork s execution) → alone →
      AtWork s1 execution := fun h hready hseq =>
    (hready hseq).congr (h.mono (by simpa using hH hseq))
  refine loadReady hH hdisj fun e s1 hready => .read refl fun s2 st h2 _ =>
    .read refl fun s3 waiting h3 _ => ?_
  split
  · exact .bind (.widen (frame (getApprovalStatus env _) s3 (by decide))) fun _ _ => .pure _
  · exact .read refl fun s4 now h4 _ => .read refl fun s5 evaluated h5 _ =>
      .atomic fun s6 h6 u s' h _ => WorkSteps.startStepTx step call _ now
        (hkept ((((h2.trans h3).trans h4).trans h5).trans h6) hready) u s' h

theorem pollApproval (execution step : ℕ) (call : RunnerCall)
    (hH : alone → Cell.bindings ∈ H ∧ Cell.changeStatus .running ∈ H)
    (hdisj : ∀ c ∈ H, c ∉ pollCells) :
    (pollApproval env execution step call).Follows H (WorkMove env alone op) s := by
  have hkept : ∀ {s s1 : Db}, SameOn H s s1 → (alone → AtWork s execution) → alone →
      AtWork s1 execution := fun h hready hseq =>
    (hready hseq).congr (h.mono (by simpa using hH hseq))
  refine loadReady hH hdisj fun e s1 hready => .read refl fun s2 _ h2 _ =>
    .read refl fun s3 st h3 _ => ?_
  split
  · exact .pure _
  · exact .pure _
  · exact .read refl fun s4 found h4 _ => .read refl fun s5 (id, request) h5 _ =>
      .atomic fun s6 h6 u s' h _ => WorkSteps.pollApprovalTx step call _
        (hkept ((((h2.trans h3).trans h4).trans h5).trans h6) hready) u s' h
  · exact .fail _

theorem updateStep (execution step : ℕ) (call : RunnerCall) (update : StepUpdate)
    (hH : alone → Cell.bindings ∈ H ∧ Cell.changeStatus .running ∈ H)
    (hdisj : ∀ c ∈ H, c ∉ updateStepCells) :
    (updateStep env execution step call update).Follows H (WorkMove env alone op) s :=
  loadReady hH hdisj fun e s1 hready => .atomic fun s2 h2 u s' h _ =>
    WorkSteps.updateExecutionStep step call update false
      (fun hseq => (hready hseq).congr (h2.mono (by simpa using hH hseq))) u s' h

theorem completeByRunner (execution : ℕ) (call : RunnerCall) (outcome : ExecutionStatus) :
    (completeByRunner env execution call outcome).Follows H (WorkMove env alone op) s := by
  refine .bind (.widen (frame (loadReadyExecution env execution call) s (by decide))) fun e s1 => .widen <|
    .bind (atomic (WorkSteps.completeExecutionTx execution call outcome)) fun _ s2 =>
    .bind (atomic (WorkSteps.frame _ (by decide))) fun _ s3 =>
    .tryCatch (.widen (handleBoundExecutionCompleted _ _)) fun _ s4 =>
    .read refl fun s5 bound _ _ => ?_
  split
  · exact .fail _
  · exact .pure _

/-- The sweep of the watchdog, among other requests. -/
theorem recoverStuckExecutions (threshold : ℕ) (hseq : ¬alone) :
    (recoverStuckExecutions env threshold).Follows H (WorkMove env alone op) s := by
  refine .read refl fun s1 now _ _ => .read refl fun s2 candidates _ _ => .forEach (fun e s3 =>
    .bind (atomic ?_) fun recovered s4 => ?_) candidates s2
  · refine .bind (.query _) fun found => ?_
    split
    · exact .pure _
    · refine .bind (.query _) fun now => .bind (fun s u s' h => ?_) fun _ =>
        .bind (.lift (WorkSteps.frame _ (by decide))) fun _ => .bind (.lift (WorkSteps.frame _ (by decide))) fun _ =>
        .pure _
      obtain ⟨hrow, hfalls⟩ := WorkSteps.moveExecution_ends rfl h
      exact .single (.finish _ (fun h => absurd h hseq) hrow hfalls)
  · split
    · exact .bind (atomic (WorkSteps.frame _ (by decide))) fun _ _ =>
        .tryCatch (.widen (handleBoundExecutionCompleted _ _)) fun _ _ => .pure _
    · exact .pure _

end WorkMove

/-- One candidate of the sweep, as a whole: its execution fails and a change that is still in
dispatch expires. -/
theorem WorkSteps.recoverCandidate {env : Env} {op : Op} {alone : Prop} (staleBefore : Time)
    (execution : ℕ) (s : Db) :
    (recoverCandidate env staleBefore execution).Runs (WorkSteps env op alone) s := by
  unfold Prog.Runs RunbookPlatform.recoverCandidate
  rw [Prog.exec_bind, Prog.exec_atomic]
  cases hrecover : (recoverStuckExecution execution staleBefore).run s with
  | error e => exact .refl
  | ok r =>
    obtain ⟨recovered, s1⟩ := r
    simp only [recoverStuckExecution, Tx.bind_ok, Tx.lift_query_ok, select_ok] at hrecover
    obtain ⟨found, _, ⟨-, rfl⟩, hrecover⟩ := hrecover
    split at hrecover
    · obtain ⟨rfl, rfl⟩ : false = recovered ∧ s = s1 := by simpa using hrecover
      exact .refl
    · simp only [Tx.bind_ok, Tx.lift_query_ok, Tx.run_lift, Tx.run_pure, Except.ok.injEq,
        Prod.mk.injEq] at hrecover
      obtain ⟨now, _, ⟨-, rfl⟩, _, s2, hmove, _, s3, hsteps, _, s4, hemit, rfl, rfl⟩ := hrecover
      obtain ⟨hrow, hfalls⟩ := moveExecution_ends rfl hmove
      have h24 : SameOn workCells s2 s4 := (Tx.sameOn hsteps _ (by decide)).trans (Tx.sameOn hemit _ (by decide))
      simp only [if_true, Prog.exec_bind, Prog.exec_atomic]
      cases hlease : (endActiveLease execution .expired "heartbeat_timeout").run s4 with
      | error e =>
        simp only [endActiveLease, updateRows, Tx.run_bind] at hlease
        cases hlease
      | ok r =>
        obtain ⟨u, s5⟩ := r
        have h25 : SameOn workCells s2 s5 := h24.trans (Tx.sameOn hlease _ (by decide))
        obtain ⟨r, s6, hexec, hexecutions, hfalls', hsettled, -⟩ :=
          handleBoundExecutionCompleted_exec env execution .failed s5
        have hfalls25 : Falls s s5 := hfalls.trans (.of_sameOn (h25.mono (by simp)))
        have hend : WorkSteps env op alone s s6 := by
          refine .single (.finish execution (fun _ c hc => hsettled c ?_) ?_
            (hfalls25.trans hfalls'))
          · exact hfalls25.reservedFor.2 hc
          · have hsame : s2.executions = s5.executions := h25 .executions (by simp)
            rw [← hexecutions, ← hsame]
            exact hrow
        simp only [Prog.exec_tryCatch, Prog.exec_widen, hexec]
        cases r <;> exact hend

theorem WorkSteps.recoverStuckExecutions {env : Env} {op : Op} {alone : Prop} (threshold : ℕ)
    (s : Db) : (recoverStuckExecutions env threshold).Runs (WorkSteps env op alone) s := by
  refine .read fun now hnow => .read fun es hes => ?_
  clear hnow hes
  induction es generalizing s with
  | nil => exact .pure _
  | cons e es ih => exact .bind (WorkSteps.recoverCandidate _ e.id s) fun _ s1 => ih s1

/-- **Every request** moves executions and bindings by work steps; a request that runs alone
does so with what it read before its transactions, except for the sweep of the watchdog. -/
theorem Op.workMoves {env : Env} {alone : Prop} {H : List Cell} (op : Op) (s : Db)
    (hH : alone → Cell.bindings ∈ H ∧ Cell.changeStatus .running ∈ H)
    (hdisj : ∀ c ∈ H, c ∉ startCells ∧ c ∉ pollCells ∧ c ∉ updateStepCells)
    (hsweep : alone → ∀ threshold, op ≠ .recoverStuckExecutions threshold) :
    (op.prog env).Follows H (WorkMove env alone op) s := by
  have hserve : ∀ {W : List Cell} {α : Type} {t : Service W α} {n : TxName},
      t.Follows (WorkSteps env op alone) → (serve t n).Follows H (WorkMove env alone op) s :=
    fun h => .bind (WorkMove.atomic h) fun _ _ => .pure _
  cases op with
  | submitChange c actor nonce => exact hserve (WorkSteps.submitChangeRecord c actor nonce)
  | dispatch c actor nonce => exact hserve (WorkSteps.makeDispatchable c actor nonce)
  | bindExecution req => exact WorkMove.bindExecution req
  | reportAccepted req => exact hserve (WorkSteps.recordExecutionAccepted req)
  | reportStarted req => exact hserve (WorkSteps.recordExecutionStarted req)
  | reportFinished req => exact hserve (WorkSteps.recordExecutionFinished req)
  | closeChange req actor =>
    exact .read WorkMove.refl fun _ outcome _ _ => .read WorkMove.refl fun _ _ _ _ =>
      WorkMove.atomic (WorkSteps.closeChangeTx req outcome actor)
  | createExecution workflow mode actor =>
    exact .read WorkMove.refl fun _ row _ _ => .bind (.read WorkMove.refl fun _ _ _ _ =>
      WorkMove.atomic (WorkSteps.insertExecutionRows _ _ _ _)) fun _ _ => .pure _
  | cancelExecution execution actor =>
    exact .bind (.atomic fun s1 _ u s' h hkeeps =>
      WorkSteps.cancelExecution execution actor hkeeps u s' h) fun _ _ => .pure _
  | claimNext runnerId registered token nonce =>
    exact WorkMove.claimNext runnerId registered token nonce
  | heartbeat execution call => exact WorkMove.heartbeatExecution execution call
  | startStep execution step call =>
    exact WorkMove.startStep execution step call hH fun c hc => (hdisj c hc).1
  | pollApproval execution step call =>
    exact WorkMove.pollApproval execution step call hH fun c hc => (hdisj c hc).2.1
  | updateStep execution step call update =>
    exact WorkMove.updateStep execution step call update hH fun c hc => (hdisj c hc).2.2
  | completeExecution execution call outcome =>
    exact WorkMove.completeByRunner execution call outcome
  | decideApproval a decision notes actor nonce =>
    refine .bind (WorkMove.atomic (WorkSteps.decideApprovalTx a decision notes actor nonce))
      fun severe s1 => ?_
    split
    · exact .query _ WorkMove.refl
    · exact .pure _
  | recoverStuckExecutions threshold =>
    exact WorkMove.recoverStuckExecutions threshold fun hseq => hsweep hseq threshold rfl
  | recoverExpiredApprovals batchSize =>
    exact .read WorkMove.refl fun _ now _ _ => .read WorkMove.refl fun s1 overdue _ _ =>
      .forEach (fun a _ => WorkMove.atomic (WorkSteps.recoverExpiredApproval a.id now)) overdue s1
  | _ =>
    exact Prog.Follows.frame (C := workCells) (by dsimp only [Op.cells]; decide)
      (fun _ _ _ => WorkMove.quiet) _ s

/-- Every commit of an interleaved run is a sequence of work steps. -/
theorem Op.interleavedWorkMoves {env : Env} (op : Op) (s : Db) :
    (op.prog env).Follows historyCells (WorkMove env False op) s :=
  op.workMoves s nofun (by decide) nofun

end RunbookPlatform
