import RunbookPlatform.Lifecycle.Trail

/-!
# The trail of every request

Each service that writes the status of a change does it by a transition or by an
invalidation, and so every request, run to its end, leaves a trail.

## Main results

- `Op.statusTrail` — the trail of a request
-/

namespace RunbookPlatform

open Transactional

set_option synthInstance.maxSize 1000

namespace StatusTrail

-- ════════════════════════════════════════════════════════════════════════
-- Submission, approval and dispatch
-- ════════════════════════════════════════════════════════════════════════

theorem makeDispatchable (env : Env) (c : ℕ) (actor : AuditActor) (nonce : String) :
    (makeDispatchable env c actor nonce).Follows StatusTrail :=
  .bind (.query _) fun _ => .bind (.query _) fun now => .bind (.lift (frame _ (by decide))) fun _ =>
    .bind (.query _) fun _ => .bind (.query _) fun _ => .bind (.query _) fun _ =>
    .bind (.query _) fun _ => .bind (.lift (frame _ (by decide))) fun _ => .bind (.lift (frame _ (by decide))) fun _ =>
    .bind (.lift (frame _ (by decide))) fun _ => .bind (.lift (transitionChange_trail c _ actor now _)) fun _ =>
    .lift (frame _ (by decide))

theorem scheduleOrMakeDispatchable (env : Env) (c : ℕ) (actor : AuditActor) (nonce : String) :
    (scheduleOrMakeDispatchable env c actor nonce).Follows StatusTrail := by
  refine .bind (.query _) fun row => .bind (.query _) fun _ => .bind (.query _) fun _ =>
    .bind (.query _) fun now => ?_
  split
  · exact .bind (.lift (transitionChange_trail c _ actor now _)) fun _ => .pure _
  · exact .lift (makeDispatchable env c actor nonce)

theorem submitChangeRecord (env : Env) (c : ℕ) (actor : AuditActor) (nonce : String) :
    (submitChangeRecord env c actor nonce).Follows StatusTrail := by
  refine .bind (.query _) fun row => .bind (.query _) fun (profile, frozen) =>
    .bind (.lift (frame _ (by decide))) fun _ => ?_
  dsimp only
  split
  · exact .bind (.lift (frame _ (by decide))) fun _ => .bind (.lift (transitionChange_trail c _ actor _ _))
      fun _ => .bind (.lift (frame _ (by decide))) fun _ => .lift (frame _ (by decide))
  · exact .bind (.lift (transitionChange_trail c _ actor _ _)) fun _ => .bind (.lift (frame _ (by decide)))
      fun _ => .lift (scheduleOrMakeDispatchable env c actor nonce)

theorem promoteScheduledChange (env : Env) (c : ℕ) (now : Time) (nonce : String) :
    (promoteScheduledChange env c now nonce).Follows StatusTrail := by
  refine .bind (.query _) fun row => ?_
  split
  · exact makeDispatchable env c changeService nonce
  · exact .pure _

theorem handleChangeApprovalDecision (env : Env) (request : ℕ) (decision : HumanDecision)
    (actor : AuditActor) (nonce : String) :
    (handleChangeApprovalDecision env request decision actor nonce).Follows StatusTrail := by
  refine .bind (.query _) fun c => .bind (.query _) fun now => ?_
  cases decision with
  | approved =>
    exact .bind (.lift (transitionChange_trail c _ actor now _)) fun _ =>
      .lift (scheduleOrMakeDispatchable env c actor nonce)
  | rejected => exact .bind (.lift (transitionChange_trail c _ actor now _)) fun _ => .pure _

theorem timeOutChangeApproval (env : Env) (request : ℕ) (actor : AuditActor) :
    (timeOutChangeApproval env request actor).Follows StatusTrail := by
  have hbody : (do
      let change ← undecidedChange env request .timedOut
      let now ← timezoneNow
      let _ ← transitionChange change .expired actor now "approval_timed_out"
      : Service (transitionCells .expired) Unit).Follows StatusTrail :=
    .bind (.query _) fun c => .bind (.query _) fun now =>
      .bind (transitionChange_trail c _ actor now _) fun _ => .pure _
  exact hbody

theorem resolveTimeout (env : Env) (approval : ℕ) (now : Time) :
    (resolveTimeout env approval now).Follows StatusTrail := by
  refine .bind (.query _) fun r => ?_
  split
  · exact .pure _
  · refine .bind (.widen (frame _ (by decide))) fun _ => .bind (.widen (frame _ (by decide))) fun _ => ?_
    dsimp only
    split
    · exact .bind (.widen (timeOutChangeApproval env approval _)) fun _ => .pure _
    · exact .bind (.pure _) fun _ => .pure _

theorem getApprovalStatus {H : List Cell} (env : Env) (approval : Loaded ApprovalRequest) (s : Db) :
    (getApprovalStatus env approval).Follows H (fun _ => StatusTrail) s := by
  refine .read (fun s1 => refl_of StatusTrail s1) fun s1 now _ _ => ?_
  split
  · exact .atomic fun s2 _ r s3 h => resolveTimeout env approval.id now s2 r s3 h
  · exact .pure _

theorem decideOverdue (env : Env) (approval : ℕ) (r : ApprovalRequest) (now : Time) :
    (decideOverdue env approval r now).Follows StatusTrail := by
  refine .bind (.lift (frame _ (by decide))) fun _ => .bind ?_ fun _ => .bind (.lift (frame _ (by decide))) fun _ => ?_
  · exact (insertUnique_follows Rel.decisions _ _ (by decide) (C := statusCells)).mono fun _ _ => of_sameOn
  · split
    · exact .widen (timeOutChangeApproval env approval _)
    · exact .pure _

theorem decideApprovalTx (env : Env) (approval : ℕ) (decision : HumanDecision) (notes : String)
    (actor : AuditActor) (nonce : String) :
    (decideApprovalTx env approval decision notes actor nonce).Follows StatusTrail := by
  refine .bind (.query _) fun request => .bind (.query _) fun now => ?_
  split
  · exact .bind (.widen (decideOverdue env approval request now)) fun _ => .pure _
  · refine .bind (.query _) fun _ => .bind ?_ fun severe => .bind (.lift (frame _ (by decide))) fun _ =>
      .bind ?_ fun row => .bind (.lift (frame _ (by decide))) fun _ => .bind ?_ fun _ => .pure severe
    · unfold decideException
      split
      · exact .widen (frame _ (by decide))
      · exact .pure _
    · exact (insertUnique_follows Rel.decisions _ _ (by decide) (C := statusCells)).mono fun _ _ => of_sameOn
    · unfold decideChange
      split
      · exact .widen (handleChangeApprovalDecision env approval decision actor nonce)
      · exact .pure _

-- ════════════════════════════════════════════════════════════════════════
-- Creation and windows
-- ════════════════════════════════════════════════════════════════════════

theorem insertChangeRecord (env : Env) (req : ChangeRequest) (profile : ℕ) (actor : AuditActor) :
    (insertChangeRecord env req profile actor).Follows StatusTrail :=
  .bind (.query _) fun _ => .bind (.lift (insertChange_trail _ _ _)) fun _ =>
    .bind (.lift (frame _ (by decide))) fun _ => .bind (.lift (frame _ (by decide))) fun _ => .pure _

theorem saveChangeWindow (c : ℕ) (req : WindowRequest) (actor : AuditActor) (now : Time) (s : Db) :
    (saveChangeWindow c req actor now).FollowsFrom StatusTrail s := by
  refine .query fun row hrow => .query fun _ _ => .bind (.widen ?_) fun _ s1 _ _ =>
    Tx.Follows.from (.bind (.widen (frame _ (by decide))) fun _ => .bind (.lift (frame _ (by decide))) fun _ => .pure _) s1
  rw [lookup_ok] at hrow
  unfold voidApproval
  split
  · rename_i hstatus
    refine .query fun profile _ => ?_
    split
    · exact invalidateChangeApproval_trail hrow hstatus
    · exact (Tx.Follows.pure _).from s
  · exact (Tx.Follows.pure _).from s

-- ════════════════════════════════════════════════════════════════════════
-- Verification, closure and the end of an execution
-- ════════════════════════════════════════════════════════════════════════

theorem recomputeVerificationState (c : ℕ) (actor : AuditActor) :
    (recomputeVerificationState c actor).Follows StatusTrail := by
  have hmove : ∀ (row : ChangeRecord) (status : PlanStatus) (now : Time), (do
      if row.status = .verificationPending then
        if status = .failed then
          let _ ← transitionChange c .verificationFailed actor now
        else if status = .satisfied then
          let _ ← transitionChange c .verified actor now
      : Service recomputeCells Unit).Follows StatusTrail := by
    intro row status now
    split
    · split
      · exact .bind (.lift (transitionChange_trail c _ actor now _)) fun _ => .pure _
      · split
        · exact .bind (.lift (transitionChange_trail c _ actor now _)) fun _ => .pure _
        · exact .pure _
    · exact .pure _
  refine .bind (.query _) fun row => .bind (.query _) fun _ => .bind (.query _) fun (id, plan) =>
    .bind (.query _) fun checks => .bind (.query _) fun now => .bind ?_ fun _ => ?_
  · exact (updateRow_follows Rel.plans _ _ _ (by decide) (C := statusCells)).mono fun _ _ => of_sameOn
  · dsimp only
    split
    · exact .bind (.lift (frame _ (by decide))) fun _ =>
        hmove row (recomputedPlanStatus plan (checks.map (·.row))) now
    · exact hmove row (recomputedPlanStatus plan (checks.map (·.row))) now

theorem submitVerificationResultTx (env : Env) (req : ResultRequest) (submittedAt : Time)
    (actor : AuditActor) :
    (submitVerificationResultTx env req submittedAt actor).Follows StatusTrail := by
  refine .bind (.query _) fun change => .bind (.query _) fun profile => .bind (.query _) fun now =>
    .bind (.widen (frame _ (by decide))) fun _ => .bind (.query _) fun found => .bind (.query _)
    fun (plan, planRow) => .bind (.query _) fun checks => .bind (.query _) fun check =>
    .bind (.query _) fun artifact => .bind (.query _) fun errors => .bind (.query _) fun _ =>
    .bind ?_ fun result => ?_
  · exact (insertRow_follows Rel.results _ (by decide) (C := statusCells)).mono fun _ _ => of_sameOn
  · split
    · exact .bind (.lift (frame _ (by decide))) fun _ => .bind (.lift (frame _ (by decide))) fun _ =>
        .bind (.lift (recomputeVerificationState _ actor)) fun _ => .pure _
    · exact .bind (.lift (frame _ (by decide))) fun _ => .pure _

theorem closeChangeTx (req : CloseRequest) (outcome : ClosureOutcome) (actor : AuditActor) :
    (closeChangeTx req outcome actor).Follows StatusTrail := by
  refine .bind (.query _) fun row => .bind (.widen (frame _ (by decide))) fun _ =>
    .bind (.query _) fun _ => .bind (.query _) fun _ => .bind (.query _) fun _ =>
    .bind (.query _) fun _ => .bind (.query _) fun (plan, _) => .bind (.query _) fun checks =>
    .bind (.query _) fun _ => .bind (.query _) fun now => .bind (.lift (frame _ (by decide))) fun locks =>
    .bind (.widen (frame _ (by decide))) fun _ => .bind ?_ fun _ =>
    .bind (.lift (transitionChange_trail _ _ actor now _)) fun _ => .lift (frame _ (by decide))
  exact (insertUnique_follows Rel.closures _ _ (by decide) (C := statusCells)).mono fun _ _ => of_sameOn

theorem expireDispatchableChange (c : ℕ) (now : Time) (reason : String) :
    (expireDispatchableChange c now reason).Follows StatusTrail := by
  have hbody : (do
      let row ← lookup Db.changes "ChangeRecord" c
      if row.status = .dispatchable then
        let _ ← transitionChange c .expired changeService now reason
      : Service (transitionCells .expired) Unit).Follows StatusTrail := by
    refine .bind (.query _) fun row => ?_
    split
    · exact .bind (transitionChange_trail c _ _ now _) fun _ => .pure _
    · exact .pure _
  exact hbody

theorem settleBoundChange (env : Env) (c : ℕ) (status : ExecutionStatus) :
    (settleBoundChange env c status).Follows StatusTrail := by
  have hclose : ∀ (now : Time) (reason : String),
      (do let _ ← transitionChange c .closed changeService now reason
        : Service completionCells Unit).Follows StatusTrail :=
    fun now reason => .bind (.lift (transitionChange_trail c _ _ now _)) fun _ => .pure _
  refine .bind (.query _) fun row => ?_
  split
  · exact .bind (.query _) fun now => .lift (expireDispatchableChange c now _)
  · split
    · refine .bind (.query _) fun now => .bind (.query _) fun intact => ?_
      split
      · exact hclose _ _
      · refine .bind (.query _) fun profile => .bind (.widen (frame _ (by decide))) fun _ => ?_
        split
        · split
          · exact .bind (.lift (transitionChange_trail c _ _ now _)) fun _ =>
              .lift (recomputeVerificationState c _)
          · exact hclose _ _
        · exact hclose _ _
    · exact .pure _

theorem handleBoundExecutionCompleted {H : List Cell} (env : Env) (execution : ℕ)
    (status : ExecutionStatus) (s : Db) :
    (handleBoundExecutionCompleted env execution status).Follows H (fun _ => StatusTrail) s := by
  refine .read (fun s1 => refl_of StatusTrail s1) fun s1 found _ _ => ?_
  split
  · exact .pure _
  · exact .atomic fun s2 _ u s3 h => settleBoundChange env _ status s2 u s3 h

-- ════════════════════════════════════════════════════════════════════════
-- Claims, binds and timeouts
-- ════════════════════════════════════════════════════════════════════════

theorem expireUnboundDispatchForExecution (execution : ℕ) (now : Time) :
    (expireUnboundDispatchForExecution execution now).Follows StatusTrail := by
  refine .bind (.query _) fun found => ?_
  split
  · exact .pure _
  · split
    · exact .pure _
    · refine .bind (.lift (expireDispatchableChange _ now _)) fun _ => .bind (.query _) fun e => ?_
      dsimp only
      split
      · refine .bind ?_ fun _ => .bind (.lift (frame _ (by decide))) fun _ => .pure _
        exact (moveExecution_follows _ _ _ _ _ (by decide) (C := statusCells)).mono fun _ _ => of_sameOn
      · exact .pure _

theorem claimScan (p : Execution → Bool) (eligible : Loaded Execution → Read Bool) (now : Time)
    (n : ℕ) (excluded : List ℕ) : (claimScan p eligible now n excluded).Follows StatusTrail := by
  induction n generalizing excluded with
  | zero => exact .pure _
  | succ n ih =>
    refine .bind (.query _) fun found => ?_
    split
    · exact .pure _
    · rename_i i e
      refine .bind (.savepoint (expireUnboundDispatchForExecution i now) fun _ => .pure _)
        fun expired => ?_
      split
      · exact ih _
      · refine .bind (.query _) fun fits => ?_
        split
        · exact .pure _
        · exact ih _

theorem scheduleExecutionClaim (env : Env) (runnerId : String) (runner : Runner) (token : String) :
    (scheduleExecutionClaim env runnerId runner token).Follows StatusTrail := by
  unfold RunbookPlatform.scheduleExecutionClaim
  split
  · exact .pure _
  · refine .bind (.query _) fun _ => .bind (.query _) fun pool => ?_
    split
    · exact .pure _
    · refine .bind (.query _) fun _ => .bind (.query _) fun room => ?_
      split
      · refine .bind (.query _) fun now => .bind (.widen (claimScan _ _ now 50 [])) fun found => ?_
        split
        · exact .pure _
        · refine .bind (.bind ?_ fun _ => .bind ?_ fun _ => .pure _) fun _ => .pure _
          · exact (moveExecution_follows _ _ _ _ _ (by decide) (C := statusCells)).mono fun _ _ => of_sameOn
          · exact (insertUnique_follows Rel.leases _ _ (by decide) (C := statusCells)).mono
              fun _ _ => of_sameOn
      · exact .pure _

theorem claimUnregistered (env : Env) (runnerId token : String) :
    (claimUnregistered env runnerId token).Follows StatusTrail := by
  refine .bind (.query _) fun now => .bind (.widen (claimScan _ _ now 50 [])) fun queued => ?_
  split
  · refine .bind ?_ fun _ => .bind (.lift (frame _ (by decide))) fun _ => .pure _
    exact (moveExecution_follows _ _ _ _ _ (by decide) (C := statusCells)).mono fun _ _ => of_sameOn
  · refine .bind (.query _) fun stale => ?_
    split
    · exact .bind (.lift (frame _ (by decide))) fun _ => .bind (.lift (frame _ (by decide))) fun _ => .pure _
    · exact .pure _

theorem claimNextExecution {H : List Cell} (env : Env) (runnerId : String) (runner : Option Runner)
    (token : String) (s : Db) :
    (claimNextExecution env runnerId runner token).Follows H (fun _ => StatusTrail) s := by
  unfold RunbookPlatform.claimNextExecution
  split
  · refine .bind (.atomic fun s1 _ a s2 h => scheduleExecutionClaim env _ _ _ s1 a s2 h)
      fun result s1 => ?_
    split
    · refine .read (fun s1 => refl_of StatusTrail s1) fun s2 e _ _ => .bind (.atomic ?_)
        fun _ _ => .pure _
      exact fun s3 _ u s4 h => of_sameOn (Tx.sameOn h _ (by decide))
    · exact .pure _
  · exact .atomic fun s1 _ a s2 h => claimUnregistered env _ _ s1 a s2 h

theorem failExecutionForApprovalTimeout (env : Env) (execution step : ℕ) (now : Time) :
    (failExecutionForApprovalTimeout env execution step now).Follows StatusTrail := by
  refine .bind (.query _) fun e => .bind (.query _) fun _ => .bind (.query _) fun st => ?_
  split
  · exact .pure _
  · refine .bind (.lift (frame _ (by decide))) fun _ => .bind ?_ fun _ => .bind (.lift (frame _ (by decide))) fun _ =>
      .bind (.lift (frame _ (by decide))) fun _ => .bind (.lift (frame _ (by decide))) fun _ =>
      .bind (.savepoint (.widen (.ofProg (H := []) (handleBoundExecutionCompleted env execution _)))
        fun _ => .pure _) fun _ => .pure _
    exact (moveExecution_follows _ _ _ _ _ (by decide) (C := statusCells)).mono fun _ _ => of_sameOn

theorem timeOutSubject (env : Env) (approval : ℕ) (r : ApprovalRequest) (now : Time) :
    (timeOutSubject env approval r now).Follows StatusTrail := by
  unfold RunbookPlatform.timeOutSubject
  split
  · exact .widen (timeOutChangeApproval env approval _)
  · split
    · exact .bind (.widen (failExecutionForApprovalTimeout env _ _ now)) fun _ => .pure _
    · exact .pure _

theorem recoverExpiredApproval (env : Env) (approval : ℕ) (now : Time) :
    (recoverExpiredApproval env approval now).Follows StatusTrail := by
  refine .bind (.query _) fun found => ?_
  split
  · exact .pure _
  · refine .bind (.lift (frame _ (by decide))) fun _ => .bind (.widen (frame _ (by decide))) fun created => ?_
    split
    · exact .bind (.lift (frame _ (by decide))) fun _ => timeOutSubject env approval _ now
    · exact .pure _

theorem pollApprovalTx (env : Env) (execution step : ℕ) (call : RunnerCall)
    (approval : Loaded ApprovalRequest) :
    (pollApprovalTx env execution step call approval).Follows StatusTrail := by
  refine .bind (.widen (.ofProg (H := []) (getApprovalStatus env approval))) fun request => ?_
  split
  · exact .pure _
  · refine .bind (.widen (frame _ (by decide))) fun gate => ?_
    split
    · exact .pure _
    · exact .widen (frame _ (by decide))
  · exact .widen (frame _ (by decide))
  · exact .widen (frame _ (by decide))

theorem bindExecutionTx (env : Env) (req : BindRequest) :
    (bindExecutionTx env req).Follows StatusTrail := by
  refine .bind (.query _) fun _ => .bind (.query _) fun row => .bind (.query _) fun _ =>
    .bind (.query _) fun (id, binding) => .bind (.query _) fun _ => .bind (.query _) fun _ =>
    .bind (.query _) fun e => .bind (.query _) fun _ => .bind (.query _) fun _ =>
    .bind (.query _) fun now => ?_
  split
  · exact .lift (frame _ (by decide))
  · refine .bind (.query _) fun _ => .bind (.query _) fun _ => .bind (.lift (frame _ (by decide))) fun _ =>
      .bind (.query _) fun _ => .bind (.query _) fun _ => .bind (.query _) fun _ =>
      .bind (.query _) fun _ => .bind ?_ fun _ =>
      .bind (.lift (transitionChange_trail _ _ _ now _)) fun _ => .lift (frame _ (by decide))
    exact (updateRow_follows Rel.bindings _ _ _ (by decide) (C := statusCells)).mono fun _ _ => of_sameOn

-- ════════════════════════════════════════════════════════════════════════
-- Handlers
-- ════════════════════════════════════════════════════════════════════════

/-- **Frame rule** for handlers. -/
theorem frameHandler {H W : List Cell} {α : Type} (p : Handler W α) (s : Db)
    (hdisj : ∀ c ∈ statusCells, c ∉ W) :
    p.Follows H (fun _ => StatusTrail) s :=
  .frame hdisj (fun _ _ _ => of_sameOn) p s

/-- An atomic block leaves the trail of its transaction. -/
theorem atomic {H V W : List Cell} [Within V W] {α : Type} {n : TxName} {t : Service V α} {s : Db}
    (ht : t.Follows StatusTrail) :
    (Prog.atomic n t : Handler W α).Follows H (fun _ => StatusTrail) s :=
  .atomic fun s1 _ a s2 h => ht s1 a s2 h

theorem promoteDueScheduledChanges {H : List Cell} (env : Env) (nonce : ℕ → String) (s : Db) :
    (promoteDueScheduledChanges env nonce).Follows H (fun _ => StatusTrail) s :=
  .read (refl_of StatusTrail) fun _ now _ _ => .read (refl_of StatusTrail) fun s2 due _ _ =>
    .forEach (fun c _ => .tryCatch (atomic (promoteScheduledChange env c.id now _))
      fun _ _ => .pure _) due s2

/-- The expiry that follows a rejected bind acts on the row it has just read. -/
theorem bindExecution (env : Env) (req : BindRequest) (s : Db) :
    (bindExecution env req).Runs StatusTrail s := by
  refine .tryCatch (atomic (H := []) (bindExecutionTx env req)).runs fun e s1 => ?_
  have hexpire : (expireAfterBindRejection req.change e.mark).Runs StatusTrail s1 := by
    refine .read fun row hrow => .read fun now _ => ?_
    rw [lookup_ok] at hrow
    split
    · exact transitionStaleChange_trail hrow
    · exact .pure _
  dsimp only
  split
  · exact .bind (.tryCatch (.widen hexpire) fun _ _ => .pure _) fun _ _ => .fail _
  · exact .fail _

/-- The response of a claim acts on the row it has just read. -/
theorem serializeClaimedExecution (execution : ℕ) (s : Db) :
    (serializeClaimedExecution execution).Runs StatusTrail s := by
  refine .read fun found _ => ?_
  split
  · exact .pure _
  · split
    · refine .read fun now _ => .read fun change hchange => ?_
      rw [lookup_ok] at hchange
      split
      · split
        · exact .tryCatch (.widen (transitionStaleChange_trail hchange)) fun _ _ => .pure _
        · exact .pure _
      · split
        · exact .tryCatch (.widen (frameHandler (H := []) _ _ (by decide)).runs) fun _ _ => .pure _
        · exact .pure _
    · exact .pure _

theorem claimNext (env : Env) (runnerId : String) (registered : Bool) (token : String)
    (nonce : ℕ → String) (s : Db) :
    (claimNext env runnerId registered token nonce).Runs StatusTrail s := by
  refine .bind (.tryCatch (.widen (promoteDueScheduledChanges (H := []) env nonce s).runs)
    fun _ _ => .pure _) fun _ s1 => .read fun runner _ =>
      .bind (.widen (claimNextExecution (H := []) env _ _ _ s1).runs) fun result s2 => ?_
  split
  · exact .widen (serializeClaimedExecution _ s2)
  · exact .pure _

theorem submitVerificationResult {H : List Cell} (env : Env) (req : ResultRequest)
    (actor : AuditActor) (s : Db) :
    (submitVerificationResult env req actor).Follows H (fun _ => StatusTrail) s :=
  .read (refl_of StatusTrail) fun _ _ _ _ => .read (refl_of StatusTrail) fun _ _ _ _ =>
    atomic (submitVerificationResultTx env req _ actor)

theorem startStep {H : List Cell} (env : Env) (execution step : ℕ) (call : RunnerCall) (s : Db) :
    (startStep env execution step call).Follows H (fun _ => StatusTrail) s := by
  refine .bind (.widen (frameHandler _ _ (by decide))) fun e s1 => .read (refl_of StatusTrail) fun s2 st _ _ =>
    .read (refl_of StatusTrail) fun s3 waiting _ _ => ?_
  split
  · exact .bind (.widen (getApprovalStatus env _ _)) fun _ _ => .pure _
  · exact .read (refl_of StatusTrail) fun s4 now _ _ => .read (refl_of StatusTrail)
      fun s5 evaluated _ _ => atomic (frame _ (by decide))

theorem pollApproval {H : List Cell} (env : Env) (execution step : ℕ) (call : RunnerCall)
    (s : Db) : (pollApproval env execution step call).Follows H (fun _ => StatusTrail) s := by
  refine .bind (.widen (frameHandler _ _ (by decide))) fun e s1 => .read (refl_of StatusTrail) fun s2 _ _ _ =>
    .read (refl_of StatusTrail) fun s3 st _ _ => ?_
  split
  · exact .pure _
  · exact .pure _
  · exact .read (refl_of StatusTrail) fun _ found _ _ => .read (refl_of StatusTrail)
      fun _ (a, r) _ _ => atomic (pollApprovalTx env execution step call ⟨a, r⟩)
  · exact .fail _

theorem completeByRunner {H : List Cell} (env : Env) (execution : ℕ) (call : RunnerCall)
    (outcome : ExecutionStatus) (s : Db) :
    (completeByRunner env execution call outcome).Follows H (fun _ => StatusTrail) s := by
  refine .bind (.widen (frameHandler _ _ (by decide))) fun e s1 => .widen (.bind (atomic (frame _ (by decide))) fun _ s2 =>
    .bind (atomic (frame _ (by decide))) fun _ s3 =>
    .tryCatch (.widen (handleBoundExecutionCompleted env _ _ _)) fun _ s4 =>
    .read (refl_of StatusTrail) fun s5 bound _ _ => ?_)
  split
  · exact .fail _
  · exact .pure _

theorem recoverStuckExecutions {H : List Cell} (env : Env) (threshold : ℕ) (s : Db) :
    (recoverStuckExecutions env threshold).Follows H (fun _ => StatusTrail) s := by
  refine .read (refl_of StatusTrail) fun s1 now _ _ => .read (refl_of StatusTrail)
    fun s2 candidates _ _ => .forEach (fun e s3 => .bind (atomic (frame _ (by decide))) fun recovered s4 => ?_)
      candidates s2
  split
  · exact .bind (atomic (frame _ (by decide))) fun _ _ =>
      .tryCatch (.widen (handleBoundExecutionCompleted env _ _ _)) fun _ _ => .pure _
  · exact .pure _

end StatusTrail

/-- **Every request** leaves a trail, from any state. -/
theorem Op.statusTrail (env : Env) (op : Op) (s : Db) : (op.prog env).Runs StatusTrail s := by
  have hserve : ∀ {W : List Cell} {α : Type} {t : Service W α} {n : TxName},
      t.Follows StatusTrail → (serve t n).Runs StatusTrail s := fun h =>
    .bind (StatusTrail.atomic (H := []) h).runs fun _ _ => .pure _
  have hrespond : ∀ {W : List Cell} {α : Type} {p : Handler W α},
      p.Follows [] (fun _ => StatusTrail) s → (respond p).Runs StatusTrail s := fun h =>
    .bind h.runs fun _ _ => .pure _
  cases op with
  | createChange req actor =>
    exact hrespond (.read (refl_of StatusTrail) fun _ profile _ _ =>
      StatusTrail.atomic (StatusTrail.insertChangeRecord env req profile actor))
  | submitChange c actor nonce => exact hserve (StatusTrail.submitChangeRecord env c actor nonce)
  | saveWindow c req actor =>
    refine .read fun row _ => .bind (Prog.Follows.runs (H := []) ?_) fun _ _ => .pure _
    exact .read (refl_of StatusTrail) fun _ _ _ _ => .read (refl_of StatusTrail) fun _ now _ _ =>
      StatusTrail.atomic fun s1 => StatusTrail.saveChangeWindow c req actor now s1
  | dispatch c actor nonce => exact hserve (StatusTrail.makeDispatchable env c actor nonce)
  | bindExecution req => exact StatusTrail.bindExecution env req s
  | submitRunnerResult req =>
    exact hrespond (.read (refl_of StatusTrail) fun _ _ _ _ =>
      StatusTrail.submitVerificationResult env _ _ _)
  | submitUserResult user req =>
    exact hrespond (StatusTrail.submitVerificationResult env _ _ s)
  | closeChange req actor =>
    exact .read fun outcome _ => .read fun _ _ => (StatusTrail.atomic (H := [])
      (StatusTrail.closeChangeTx req outcome actor)).runs
  | claimNext runnerId registered token nonce =>
    exact StatusTrail.claimNext env runnerId registered token nonce s
  | startStep execution step call =>
    exact (StatusTrail.startStep (H := []) env execution step call s).runs
  | pollApproval execution step call =>
    exact (StatusTrail.pollApproval (H := []) env execution step call s).runs
  | completeExecution execution call outcome =>
    exact (StatusTrail.completeByRunner (H := []) env execution call outcome s).runs
  | readApproval a =>
    exact .read fun r _ => .bind (StatusTrail.getApprovalStatus (H := []) env _ s).runs
      fun _ _ => .pure _
  | decideApproval a decision notes actor nonce =>
    refine .bind (StatusTrail.atomic (H := [])
      (StatusTrail.decideApprovalTx env a decision notes actor nonce)).runs fun severe s1 => ?_
    split
    · exact (Prog.Follows.query (H := []) _ (refl_of StatusTrail)).runs
    · exact .pure _
  | recoverStuckExecutions threshold =>
    exact (StatusTrail.recoverStuckExecutions (H := []) env threshold s).runs
  | recoverExpiredApprovals batchSize =>
    exact .read fun now _ => .read fun overdue _ => (Prog.Follows.forEach (H := []) (fun a _ =>
      StatusTrail.atomic (StatusTrail.recoverExpiredApproval env a.id now)) overdue s).runs
  | _ =>
    exact (Op.follows_of_frame (R := fun _ => StatusTrail) (C := statusCells)
      (fun _ _ _ => StatusTrail.of_sameOn) _ (by dsimp only [Op.cells]; decide) s).runs

-- ════════════════════════════════════════════════════════════════════════
-- One state machine
-- ════════════════════════════════════════════════════════════════════════

/-- **One state machine.** The events that a request adds lead each change from its old status
to its new one along the transition table, up to invalidations of an approval; and a status
without outgoing edges is not left. -/
theorem one_state_machine (env : Env) (op : Op) (s : Db) :
    StatusTrail s ((op.prog env).exec s).2 ∧
      ∀ c st, s.statusOf c = some st → st.allowed = [] →
        ((op.prog env).exec s).2.statusOf c = some st :=
  ⟨op.statusTrail env s, fun _ _ hst hfinal => (op.statusTrail env s).finished hst hfinal⟩

/-- A change that was approved for later. -/
def scheduledRun : Db :=
  runOps .sample
    [.createChange { ChangeRequest.sample with scheduledFor := some 100 } .sample,
      .submitChange 0 .sample "nonce", .decideApproval 0 .approved "" .sample "nonce"]
    (.initial (.sample { OperationProfile.sample with requiresApproval := true }) 0)

/-- The table has no way back from `SCHEDULED`. -/
theorem not_pendingApproval_of_scheduled {st : ChangeStatus}
    (h : Relation.ReflTransGen (fun old new : ChangeStatus => new ∈ old.allowed) .scheduled st) :
    st ∉ [ChangeStatus.draft, .pendingApproval, .approved] := by
  induction h with
  | refl => decide
  | @tail mid st _ hallowed ih => cases mid <;> cases st <;> simp [ChangeStatus.allowed] at ih hallowed ⊢

/-- A new window takes a scheduled change back to `PENDING_APPROVAL`, which the table does not
allow. -/
theorem window_leaves_table :
    ¬∀ (env : Env) (s : Db) (op : Op), Reachable env anyAdmission s → ∀ c old new,
      s.statusOf c = some old → ((op.prog env).exec s).2.statusOf c = some new →
        Relation.ReflTransGen (fun old new : ChangeStatus => new ∈ old.allowed) old new := by
  intro h
  have hsteps := h .sample scheduledRun (.saveWindow 0 { startsAt := 50, endsAt := 150 } .sample)
    (Reachable.sample _ _) 0 .scheduled .pendingApproval (by decide +kernel) (by decide +kernel)
  simpa using not_pendingApproval_of_scheduled hsteps

end RunbookPlatform
