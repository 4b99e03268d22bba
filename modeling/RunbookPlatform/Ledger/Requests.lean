import RunbookPlatform.Ledger.Resolutions

/-!
# The ledger in every request

Every transaction of every request is a sequence of ledger steps, in which only exceptions
that the transaction finds over may lapse.

## Main definitions

- `LedgerMove` — what a transaction does to the ledger, by its name

## Main results

- `Op.ledgerMoves` — all requests follow `LedgerMove`
-/

namespace RunbookPlatform

open Transactional

set_option synthInstance.maxSize 1000

/-- What the transaction `n` does to the ledger. -/
inductive LedgerMove (n : TxName) (s s' : Db) : Prop where
  /-- The ledger stays; the clock may go on. -/
  | other (hsame : SameOn [.approvals, .decisions, .exceptions] s s')
  | steps (h : LedgerSteps (lapses n s) s s')

namespace LedgerSteps

variable {lapses : ℕ → ChangeException → Prop} {s : Db}

theorem freezeRequest_profile {env : Env} {c : ℕ} {row : ChangeRecord} {actor : AuditActor}
    {profile : OperationProfile} {frozen : FrozenRequest}
    (h : freezeRequest env c row actor s = .ok (profile, frozen)) :
    s.reference.profiles.get? row.operationProfile = some profile := by
  simp only [freezeRequest, Query.bind_ok, ensure_ok, lookup_ok, select_ok, Query.pure_apply,
    Except.ok.injEq, Prod.mk.injEq] at h
  obtain ⟨-, -, profile', hprofile, -, -, workflow, -, -, -, -, -, -, -, -, -, -, -, targets, -,
    -, -, -, -, now, -, rfl, -⟩ := h
  exact hprofile

/-- `submit_change_record`. -/
theorem submitChangeRecord (env : Env) (c : ℕ) (actor : AuditActor) (nonce : String)
    (hlapses : Expires s (.submitChange c) c → ∀ i x, overdueOf c s.now i x → lapses i x) :
    (submitChangeRecord env c actor nonce).FollowsFrom (LedgerSteps lapses) s := by
  refine .query fun row hrow => .query fun (profile, frozen) hfrozen =>
    .bind (.lift ((frame _ (by decide)).from s)) fun _ s1 hemit h1 => ?_
  rw [lookup_ok] at hrow
  rw [Tx.run_lift] at hemit
  dsimp only
  split
  · exact (Tx.Follows.bind (.lift (createChangeApprovalRequest _ _ _)) fun _ =>
      .bind (.lift (frame _ (by decide))) fun _ => .bind (.lift (frame _ (by decide))) fun _ => .lift (frame _ (by decide))).from s1
  · rename_i hfree
    refine .bind (.lift ((frame _ (by decide)).from s1)) fun old s2 hmove h2 =>
      .bind (.lift ((frame _ (by decide)).from s2)) fun _ s3 hupdate h3 => .lift ?_
    rw [Tx.run_lift] at hmove hupdate
    have hclock : s.now = s3.now := (h1.clock.trans h2.clock).trans h3.clock
    have hsame : SameOn [.changeIdentity] s s3 :=
      ((Tx.sameOn hemit _ (by decide)).trans (Tx.sameOn hmove _ (by decide))).trans (Tx.sameOn hupdate _ (by decide))
    obtain ⟨row3, hrow3, hevolves⟩ := hsame .changeIdentity (by decide) _ row hrow
    refine scheduleOrMakeDispatchable env actor nonce fun hdue i x hover => ?_
    refine hlapses (.submitChange c row profile hrow (freezeRequest_profile hfrozen)
      (by simpa using hfree) fun t ht => ?_) i x (hclock ▸ hover)
    rw [hclock]
    exact hdue row3 hrow3 t (hevolves.scheduledFor ▸ ht)

/-- One change of `promote_due_scheduled_changes`. -/
theorem promoteScheduledChange (env : Env) (c : ℕ) (now : Time) (nonce : String)
    (hlapses : Expires s (.promote c now) c → ∀ i x, overdueOf c s.now i x → lapses i x) :
    (promoteScheduledChange env c now nonce).FollowsFrom (LedgerSteps lapses) s := by
  refine .query fun row hrow => ?_
  rw [lookup_ok] at hrow
  split
  · rename_i hdue
    obtain ⟨hscheduled, hdue⟩ := hdue
    rw [Option.any_eq_true] at hdue
    obtain ⟨t, ht, hle⟩ := hdue
    exact makeDispatchable env changeService nonce
      (hlapses (.promote c now row hrow hscheduled ⟨t, ht, by simpa using hle⟩))
  · exact (Tx.Follows.pure _).from s

/-- `submit_verification_result`. -/
theorem submitVerificationResultTx (env : Env) (req : ResultRequest) (submittedAt : Time)
    (actor : AuditActor)
    (hlapses : ∀ i x, overdueOf req.change s.now i x → lapses i x) :
    (submitVerificationResultTx env req submittedAt actor).FollowsFrom (LedgerSteps lapses) s := by
  refine .query fun change _ => .query fun profile _ => .query fun now hnow => ?_
  rw [timezoneNow, select_ok] at hnow
  subst hnow
  refine .bind (.widen (sweepEmergency hlapses)) fun _ s1 _ _ => Tx.Follows.from ?_ s1
  refine .bind (.query _) fun found => .bind (.query _) fun (plan, planRow) => .bind (.query _)
    fun checks => .bind (.query _) fun check => .bind (.query _) fun artifact => .bind (.query _)
    fun errors => .bind (.query _) fun _ => .bind (of_sameOn (insertRow_follows _ _ (by decide))) fun result => ?_
  split
  · exact .bind (.lift (frame _ (by decide))) fun _ => .bind (.lift (frame _ (by decide))) fun _ =>
      .bind (.lift (frame _ (by decide))) fun _ => .pure _
  · exact .bind (.lift (frame _ (by decide))) fun _ => .pure _

/-- `close_change`. -/
theorem closeChangeTx (req : CloseRequest) (outcome : ClosureOutcome) (actor : AuditActor)
    (hlapses : ∀ i x, overdueOf req.change s.now i x → lapses i x) :
    (closeChangeTx req outcome actor).FollowsFrom (LedgerSteps lapses) s := by
  refine .query fun row _ => .bind (.widen (sweepEmergency hlapses)) fun _ s1 _ _ =>
    Tx.Follows.from ?_ s1
  exact .bind (.query _) fun _ => .bind (.query _) fun _ => .bind (.query _) fun _ =>
    .bind (.query _) fun _ => .bind (.query _) fun (plan, _) => .bind (.query _) fun checks =>
    .bind (.query _) fun _ => .bind (.query _) fun now => .bind (.lift (frame _ (by decide))) fun locks =>
    .bind (.widen (frame _ (by decide))) fun _ => .bind (of_sameOn (insertUnique_follows _ _ _ (by decide))) fun _ =>
    .bind (.lift (frame _ (by decide))) fun _ => .lift (frame _ (by decide))

/-- A new exception comes with the request about it. -/
theorem insertException (exc : ChangeException) (hstatus : exc.status = .pendingApproval)
    (hkept : ∀ i x, ¬lapses i x) : (insertException exc).Follows (LedgerSteps lapses) := by
  intro s e s' h
  have hsame : SameOn [.clock, .decisions] s s' := Tx.sameOn h _ (by decide)
  simp only [RunbookPlatform.insertException, Tx.bind_ok, Tx.run_pure, Except.ok.injEq,
    Prod.mk.injEq] at h
  obtain ⟨e, s1, hexc, a, s2, hrequest, _, s3, hlink, rfl, rfl⟩ := h
  obtain ⟨rfl, rfl⟩ := createException_ok.1 hexc
  obtain ⟨rfl, rfl⟩ := insertRow_ok.1 hrequest
  obtain rfl := updateRow_ok.1 hlink
  refine .single (.request { exc with approvalRequest := some s.approvals.next } _ hstatus rfl rfl
    rfl rfl rfl (fun i => hkept i _) ?_ rfl hsame)
  exact Table.modify_insert_next _ _ _

/-- `request_exception`. -/
theorem requestExceptionTx (env : Env) (req : ExceptionRequest) (t : ExceptionType)
    (expiresAt : Time) (hkept : ∀ i x, ¬lapses i x) :
    (requestExceptionTx env req t expiresAt).Follows (LedgerSteps lapses) :=
  .bind (.query _) fun _ => .bind (.query _) fun _ => .bind (.query _) fun _ =>
    .bind (.query _) fun _ => insertException _ rfl hkept

/-- A ready change is the one that the execution is bound to. -/
theorem checkBindingReady_ok {execution : Loaded Execution} {runnerId claimToken : String} {c : ℕ}
    (h : checkBindingReady execution runnerId claimToken s = .ok (some c)) :
    ∃ i binding, bindingOf? execution.id s = some (i, binding) ∧ binding.changeRecord = c := by
  simp only [checkBindingReady, Query.bind_ok, select_ok] at h
  obtain ⟨found, hfound, h⟩ := h
  rcases found with - | ⟨i, binding⟩
  · simp at h
  · simp only [Query.bind_ok, Query.pure_apply, Except.ok.injEq, Option.some.injEq] at h
    obtain ⟨-, -, -, -, -, -, -, -, -, -, hc⟩ := h
    exact ⟨i, binding, hfound, hc⟩

/-- The expiry of a ready change, inside a transaction. -/
theorem bindingReadyTx (env : Env) (execution : Loaded Execution)
    (runnerId claimToken : String)
    (hlapses : ∀ i binding, bindingOf? execution.id s = some (i, binding) →
      ∀ e x, overdueOf binding.changeRecord s.now e x → lapses e x) :
    (bindingReadyTx env execution runnerId claimToken).FollowsFrom (LedgerSteps lapses) s := by
  refine Tx.FollowsFrom.ofProg (H := .clock :: .bindings :: historyCells)
    (p := RunbookPlatform.assertExecutionChangeBindingReady env execution runnerId claimToken)
    (.read (fun _ => .refl) fun s1 ready h1 hready => ?_)
  cases ready with
  | none => exact .pure _
  | some c =>
    refine .read (fun _ => .refl) fun s2 now h2 hnow => ?_
    rw [timezoneNow, select_ok] at hnow
    subst hnow
    have hclock : s.now = s2.now := (h1.trans h2) .clock (by decide)
    obtain ⟨i, binding, hbinding, rfl⟩ := checkBindingReady_ok hready
    have hbindings : s.bindings = s1.bindings := h1 .bindings (by decide)
    refine .bind (enforceEmergencyExpiryForChange_follows (by decide) (by decide)
      (fun _ _ _ => quiet) fun e s3 u s4 hover hsave => ?_) fun _ _ => .query _ fun _ => .refl
    refine lapseException_ledger hsave fun exc hexc => ?_
    refine hlapses i binding ?_ e exc (hclock ▸ hover exc hexc)
    rw [bindingOf?, hbindings]
    exact hbinding

/-- `complete_execution`. -/
theorem completeExecutionTx (env : Env) (execution : ℕ) (call : RunnerCall)
    (outcome : ExecutionStatus)
    (hlapses : ∀ i binding, bindingOf? execution s = some (i, binding) →
      ∀ e x, overdueOf binding.changeRecord s.now e x → lapses e x) :
    (completeExecutionTx env execution call outcome).FollowsFrom (LedgerSteps lapses) s := by
  refine .query fun e _ => .query fun _ _ => .query fun _ _ => .query fun _ _ =>
    .bind (.widen (bindingReadyTx env ⟨execution, e⟩ _ _ hlapses)) fun _ s1 _ _ =>
      Tx.Follows.from ?_ s1
  refine .bind (.query _) fun now => .bind ?_ fun _ => .lift (frame _ (by decide))
  cases outcome <;> exact of_sameOn (moveExecution_follows _ _ _ _ (by decide) (by decide))

end LedgerSteps

-- ════════════════════════════════════════════════════════════════════════
-- Handlers
-- ════════════════════════════════════════════════════════════════════════

namespace LedgerMove

variable {s : Db}

theorem quiet {n : TxName} {s s' : Db} (h : SameOn ledgerCells s s') : LedgerMove n s s' :=
  .other (h.mono (by decide))

theorem refl {n : TxName} (s : Db) : LedgerMove n s s := .steps .refl

/-- **Frame rule** for handlers. -/
theorem frame {W : List Cell} {α : Type} (p : Handler W α)
    (hdisj : ∀ c ∈ [Cell.approvals, .decisions, .exceptions], c ∉ W) :
    p.Follows historyCells LedgerMove s :=
  .frame hdisj (fun _ _ _ => .other) p s

/-- **Frame rule** for atomic blocks. -/
theorem atomic {V W : List Cell} [Within V W] {α : Type} (n : TxName) (t : Service V α)
    (hdisj : ∀ c ∈ [Cell.approvals, .decisions, .exceptions], c ∉ V) :
    (Prog.atomic n t : Handler W α).Follows historyCells LedgerMove s :=
  .atomic fun _ _ _ _ h => .other (Tx.sameOn h _ hdisj)

/-- Outside a transaction, each exception is expired by a transaction of its own. -/
theorem enforceEmergencyExpiryForChange (c : ℕ) (now : Time) :
    (enforceEmergencyExpiryForChange c now).Follows historyCells LedgerMove s :=
  enforceEmergencyExpiryForChange_follows (by decide) (by decide) (fun _ _ _ => quiet)
    fun _ _ _ _ _ h => .steps (lapseException_ledger h fun _ _ => .inl rfl)

theorem assertExecutionChangeBindingReady (env : Env) (execution : Loaded Execution)
    (runnerId claimToken : String) :
    (assertExecutionChangeBindingReady env execution runnerId claimToken).Follows historyCells
      LedgerMove s := by
  refine .read refl fun s1 ready _ _ => ?_
  cases ready with
  | none => exact .pure _
  | some c =>
    exact .read refl fun s2 now _ _ => .bind (enforceEmergencyExpiryForChange c now) fun _ _ =>
      .query _ refl

theorem loadReadyExecution (env : Env) (execution : ℕ) (call : RunnerCall) :
    (loadReadyExecution env execution call).Follows historyCells LedgerMove s :=
  .read refl fun _ _ _ _ => .bind (assertExecutionChangeBindingReady _ _ _ _) fun _ _ => .pure _

/-- `heartbeat_execution`. -/
theorem heartbeatExecution (execution : ℕ) (call : RunnerCall) :
    (heartbeatExecution execution call).Follows historyCells LedgerMove s := by
  refine .read refl fun s1 e _ _ => .read refl fun s2 _ _ _ => .bind (.widen ?_) fun _ s3 =>
    .read refl fun s4 now _ _ => atomic _ _ (by decide)
  refine .read refl fun s3 now _ _ => .read refl fun s4 found _ _ => ?_
  split
  · exact enforceEmergencyExpiryForChange _ _
  · exact .pure _

theorem runDispatchPreflight (env : Env) (c : ℕ) (actor : Option AuditActor) :
    (runDispatchPreflight env c actor).Follows historyCells LedgerMove s :=
  .read refl fun _ _ _ _ => .bind (.widen (enforceEmergencyExpiryForChange _ _)) fun _ _ =>
    .widen (frame _ (by decide))

/-- `promote_due_scheduled_changes`. -/
theorem promoteDueScheduledChanges (env : Env) (nonce : ℕ → String) :
    (promoteDueScheduledChanges env nonce).Follows historyCells LedgerMove s := by
  refine .read refl fun _ now _ _ => .read refl fun s2 due _ _ => .forEach (fun c s3 => ?_) due s2
  refine .tryCatch (.atomic fun s4 _ u s5 h => .steps ?_) fun _ _ => .pure _
  exact LedgerSteps.promoteScheduledChange env c.id now _
    (fun hexpires i x hover => .inr ⟨c.id, hexpires, hover⟩) u s5 h

/-- The claim endpoint. -/
theorem claimNext (env : Env) (runnerId : String) (registered : Bool) (token : String)
    (nonce : ℕ → String) :
    (claimNext env runnerId registered token nonce).Follows historyCells LedgerMove s := by
  refine .bind (.tryCatch (.widen (promoteDueScheduledChanges env nonce)) fun _ _ => .pure _)
    fun _ s1 => .read refl fun s2 runner _ _ => .bind (.widen (frame _ (by decide))) fun result s3 => ?_
  split
  · refine .widen (.read refl fun s4 found _ _ => ?_)
    split
    · exact .pure _
    · split
      · refine .read refl fun s5 now _ _ => .read refl fun s6 change _ _ => ?_
        split
        · split
          · exact .tryCatch (.widen (frame _ (by decide))) fun _ _ => .pure _
          · exact .pure _
        · split
          · exact .tryCatch (.widen (enforceEmergencyExpiryForChange _ _)) fun _ _ => .pure _
          · exact .pure _
      · exact .pure _
  · exact .pure _

/-- `submit_verification_result`. -/
theorem submitVerificationResult (env : Env) (req : ResultRequest) (actor : AuditActor) :
    (submitVerificationResult env req actor).Follows historyCells LedgerMove s := by
  refine .read refl fun _ _ _ _ => .read refl fun _ now _ _ => .atomic fun s3 _ u s4 h => .steps ?_
  exact LedgerSteps.submitVerificationResultTx env req _ actor
    (fun i x hover => .inr ⟨req.change, .submitResult req.change, hover⟩) u s4 h

/-- `close_change`. -/
theorem closeChange (req : CloseRequest) (actor : AuditActor) :
    (closeChange req actor).Follows historyCells LedgerMove s := by
  refine .read refl fun _ outcome _ _ => .read refl fun _ _ _ _ =>
    .atomic fun s3 _ u s4 h => .steps ?_
  exact LedgerSteps.closeChangeTx req outcome actor
    (fun i x hover => .inr ⟨req.change, .closeChange req.change, hover⟩) u s4 h

/-- `request_exception`: the new exception is not touched again. -/
theorem requestException (env : Env) (req : ExceptionRequest) (actor : AuditActor) :
    (requestException env req actor).Follows historyCells LedgerMove s := by
  refine .read refl fun _ (t, expiresAt) _ _ => .bind (.atomic fun s2 _ u s3 h => .steps ?_)
    fun _ s3 => .read refl fun _ _ _ _ => atomic _ _ (by decide)
  refine LedgerSteps.requestExceptionTx env req t expiresAt (fun i x hlapses => ?_) s2 u s3 h
  rcases hlapses with hname | ⟨c, hexpires, -⟩
  · cases hname
  · cases hexpires

/-- `approve_exception`. -/
theorem approveException (e : ℕ) (actor : AuditActor) (user : Option String) :
    (approveException e actor user).Follows historyCells LedgerMove s := by
  refine .read refl fun _ loaded _ _ => .bind (.widen (frame _ (by decide))) fun _ s2 =>
    .bind (.atomic fun s3 _ u s4 h => .steps ?_) fun row _ => .read refl fun _ _ _ _ =>
      atomic _ _ (by decide)
  exact LedgerSteps.approveExceptionTx e actor user
    (fun old hold i x hover => .inr ⟨_, .decideException e old hold, hover⟩) u s4 h

/-- `reject_exception`. -/
theorem rejectException (e : ℕ) (actor : AuditActor) (user : Option String) :
    (rejectException e actor user).Follows historyCells LedgerMove s := by
  refine .bind (.atomic fun s3 _ u s4 h => .steps ?_) fun row _ => atomic _ _ (by decide)
  exact LedgerSteps.rejectExceptionTx e actor user
    (fun old hold i x hover => .inr ⟨_, .decideException e old hold, hover⟩) u s4 h

/-- `resolve_exception`: what was approved is not pending again. -/
theorem resolveException (e : ℕ) (actor : AuditActor) (note : String) :
    (resolveException e actor note).Follows historyCells LedgerMove s := by
  refine .read refl fun s1 row _ hrow => .read refl fun s2 _ h2 happroved =>
    .read refl fun s3 now h3 _ => .bind (.atomic fun s4 h4 u s5 hsave => .steps ?_) fun _ _ =>
      atomic _ _ (by decide)
  rw [lookup_ok] at hrow
  rw [ensure_ok] at happroved
  refine settleException_ledger hsave (fun _ => rfl) fun exc hexc hpending => ?_
  obtain ⟨later, hlater, hevolves⟩ :=
    ((h2.trans h3).trans h4) .exceptionHistory (by decide) e row hrow
  rw [hexc] at hlater
  cases hlater
  exact absurd hpending (hevolves.decided (by simp [happroved]))

/-- `update_execution_step`, wherever it is called. -/
theorem updateExecutionStep (execution step : ℕ) (call : RunnerCall) (update : StepUpdate)
    (allowRunning : Bool) {L : ℕ → ChangeException → Prop} :
    (updateExecutionStep execution step call update allowRunning).Follows (LedgerSteps L) :=
  LedgerSteps.frame _ (by decide)

theorem applyEvaluation (env : Env) (execution step : ℕ) (call : RunnerCall) (found : Evaluated)
    {L : ℕ → ChangeException → Prop} :
    (applyEvaluation env execution step call found).Follows (LedgerSteps L) := by
  unfold RunbookPlatform.applyEvaluation
  split
  · exact .widen (updateExecutionStep _ _ _ _ _)
  · split
    · exact .widen (updateExecutionStep _ _ _ _ _)
    · refine .bind (.widen (LedgerSteps.frame _ (by decide))) fun gate => ?_
      cases gate with
      | allowed => exact .widen (updateExecutionStep _ _ _ _ _)
      | refused => exact .pure _
      | closed => exact .bind (.widen (LedgerSteps.requestStepApproval _ _ _ _ _)) fun _ => .pure _
    · refine .bind (.widen (LedgerSteps.frame _ (by decide))) fun gate => ?_
      cases gate with
      | allowed => exact .widen (updateExecutionStep _ _ _ _ _)
      | refused => exact .pure _
      | closed => exact .widen (updateExecutionStep _ _ _ _ _)

theorem startStepTx (env : Env) (execution : Loaded Execution) (step : ℕ) (call : RunnerCall)
    (evaluated : Except Err Evaluated) (evaluatedAt : Time) {L : ℕ → ChangeException → Prop} :
    (startStepTx env execution step call evaluated evaluatedAt).Follows (LedgerSteps L) := by
  cases evaluated with
  | ok found =>
    exact .bind (.widen (LedgerSteps.frame _ (by decide))) fun _ => applyEvaluation _ _ _ _ _
  | error e => exact .widen (updateExecutionStep _ _ _ _ _)

/-- The request that a lookup of the step found. -/
theorem isLoaded_of_approvalOf {step a : ℕ} {r : ApprovalRequest}
    (h : approvalOf? step s = some (a, r)) : LedgerSteps.IsLoaded ⟨a, r⟩ s :=
  ⟨r, (Table.find?_some h).1, rfl⟩

/-- `ExecutionStepStartView`. -/
theorem startStep (env : Env) (execution step : ℕ) (call : RunnerCall) :
    (startStep env execution step call).Follows historyCells LedgerMove s := by
  refine .bind (.widen (loadReadyExecution env execution call)) fun e s1 =>
    .read refl fun s2 st _ _ => .read refl fun s3 waiting _ hwaiting => ?_
  rw [select_ok] at hwaiting
  split
  · exact .bind (.widen (LedgerSteps.getApprovalStatus env (fun _ _ _ h => .steps (h _))
      (isLoaded_of_approvalOf hwaiting))) fun _ _ => .pure _
  · exact .read refl fun s4 now _ _ => .read refl fun s5 evaluated _ _ =>
      .atomic fun s6 _ u s7 h => .steps (startStepTx _ _ _ _ _ _ s6 u s7 h)

/-- The transaction of an approval poll. -/
theorem pollApprovalTx (env : Env) (execution step : ℕ) (call : RunnerCall)
    {approval : Loaded ApprovalRequest} (hloaded : LedgerSteps.IsLoaded approval s)
    {L : ℕ → ChangeException → Prop} :
    (pollApprovalTx env execution step call approval).FollowsFrom (LedgerSteps L) s := by
  refine .bind (.widen (.ofProg (LedgerSteps.getApprovalStatus env (fun _ _ _ h => h L) hloaded)))
    fun request s1 _ _ => Tx.Follows.from ?_ s1
  split
  · exact .pure _
  · refine .bind (.widen (LedgerSteps.frame _ (by decide))) fun gate => ?_
    split
    · exact .pure _
    · exact .widen (updateExecutionStep _ _ _ _ _)
  · exact .widen (updateExecutionStep _ _ _ _ _)
  · exact .widen (updateExecutionStep _ _ _ _ _)

/-- `ApprovalStatusView`. -/
theorem pollApproval (env : Env) (execution step : ℕ) (call : RunnerCall) :
    (pollApproval env execution step call).Follows historyCells LedgerMove s := by
  refine .bind (.widen (loadReadyExecution env execution call)) fun e s1 =>
    .read refl fun s2 _ _ _ => .read refl fun s3 st _ _ => ?_
  split
  · exact .pure _
  · exact .pure _
  · refine .read refl fun s4 found _ hfound => .read refl fun s5 (a, r) h5 hexpect =>
      .atomic fun s6 h6 u s7 h => .steps ?_
    rw [select_ok] at hfound
    rw [expect_ok] at hexpect
    subst hexpect
    have hloaded : LedgerSteps.IsLoaded ⟨a, r⟩ s6 :=
      (isLoaded_of_approvalOf hfound).later (by decide) (h5.trans h6)
    exact pollApprovalTx env execution step call hloaded u s7 h
  · exact .fail _

/-- `ExecutionCompleteView`. -/
theorem completeByRunner (env : Env) (execution : ℕ) (call : RunnerCall)
    (outcome : ExecutionStatus) :
    (completeByRunner env execution call outcome).Follows historyCells LedgerMove s := by
  refine .bind (.widen (loadReadyExecution env execution call)) fun e s1 =>
    .widen (.bind (.atomic fun s2 _ u s3 h => .steps ?_) fun _ s3 => .bind (atomic _ _ (by decide)) fun _ s4 =>
      .tryCatch (.widen (frame _ (by decide))) fun _ s5 => .read refl fun s6 bound _ _ => ?_)
  · exact LedgerSteps.completeExecutionTx env execution call outcome
      (fun i binding hbinding e x hover =>
        .inr ⟨_, .completeExecution execution i binding outcome hbinding, hover⟩) u s3 h
  · split
    · exact .fail _
    · exact .pure _

/-- `get_approval_status`, of a request that the endpoint loads. -/
theorem readApproval (env : Env) (a : ℕ) :
    (readApproval env a).Follows historyCells LedgerMove s := by
  refine .read refl fun s1 r _ hr => .bind ?_ fun _ _ => .pure _
  rw [lookup_ok] at hr
  exact LedgerSteps.getApprovalStatus env (fun _ _ _ h => .steps (h _)) ⟨r, hr, rfl⟩

/-- `decide_approval`. -/
theorem decideApproval (env : Env) (a : ℕ) (decision : HumanDecision) (notes : String)
    (actor : AuditActor) (nonce : String) :
    (decideApproval env a decision notes actor nonce).Follows historyCells LedgerMove s := by
  refine .bind (.atomic fun s1 _ u s2 h => .steps ?_) fun severe s2 => ?_
  · exact LedgerSteps.decideApprovalTx env a decision notes actor nonce
      (fun c hexpires i x hover => .inr ⟨c, hexpires, hover⟩) u s2 h
  · split
    · exact .query _ refl
    · exact .pure _

/-- `recover_expired_approvals`. -/
theorem recoverExpiredApprovals (env : Env) (batchSize : ℕ) :
    (recoverExpiredApprovals env batchSize).Follows historyCells LedgerMove s :=
  .read refl fun _ now _ _ => .read refl fun s1 overdue _ _ =>
    .forEach (fun a _ => .atomic fun s2 _ u s3 h =>
      .steps (LedgerSteps.recoverExpiredApproval env a.id now s2 u s3 h)) overdue s1

/-- The upload endpoints. -/
theorem createFromRunnerUpload (env : Env) (req : UploadRequest) (call : RunnerCall) :
    (createFromRunnerUpload env req call).Follows historyCells LedgerMove s := by
  refine .read refl fun s1 e _ _ => ?_
  have hrest : ∀ s2, (do
      Prog.read (validateRunnerOwnership e call.runnerId call.claimToken)
      (RunbookPlatform.assertExecutionChangeBindingReady env ⟨req.execution, e⟩ call.runnerId
        call.claimToken).widen
      let kind ← Prog.read (checkUpload env req e)
      Prog.atomic .service (insertArtifact env req call e.organization kind)
      : Handler (.artifacts :: sweepCells) Unit).Follows historyCells LedgerMove s2 :=
    fun s2 => .read refl fun _ _ _ _ => .bind (.widen (assertExecutionChangeBindingReady _ _ _ _))
      fun _ _ => .read refl fun _ _ _ _ => atomic _ _ (by decide)
  dsimp only
  split
  · exact .read refl fun _ _ _ _ => hrest _
  · exact hrest _

end LedgerMove

/-- **Every request** moves the ledger by steps in which only exceptions that are over lapse. -/
theorem Op.ledgerMoves (env : Env) (op : Op) (s : Db) :
    (op.prog env).Follows historyCells LedgerMove s := by
  have hserve : ∀ {W : List Cell} {α : Type} {t : Service W α} {n : TxName},
      (∀ s, t.FollowsFrom (LedgerSteps (lapses n s)) s) →
        (serve t n).Follows historyCells LedgerMove s := fun h =>
    .bind (.atomic fun s1 _ u s2 hrun => .steps (h s1 u s2 hrun)) fun _ _ => .pure _
  have hrespond : ∀ {W : List Cell} {α : Type} {p : Handler W α},
      p.Follows historyCells LedgerMove s → (respond p).Follows historyCells LedgerMove s :=
    fun h => .bind h fun _ _ => .pure _
  cases op with
  | submitChange c actor nonce =>
    exact hserve fun s1 => LedgerSteps.submitChangeRecord env c actor nonce
      fun hexpires i x hover => .inr ⟨c, hexpires, hover⟩
  | runPreflight c actor => exact hrespond (LedgerMove.runDispatchPreflight env c actor)
  | dispatch c actor nonce =>
    exact hserve fun s1 => LedgerSteps.makeDispatchable env actor nonce
      fun i x hover => .inr ⟨c, .dispatch c, hover⟩
  | submitRunnerResult req =>
    exact hrespond (.read LedgerMove.refl fun _ _ _ _ =>
      LedgerMove.submitVerificationResult env _ _)
  | submitUserResult user req => exact hrespond (LedgerMove.submitVerificationResult env _ _)
  | closeChange req actor => exact LedgerMove.closeChange req actor
  | requestException req actor => exact LedgerMove.requestException env req actor
  | approveException e actor user => exact LedgerMove.approveException e actor user
  | rejectException e actor user => exact LedgerMove.rejectException e actor user
  | resolveException e actor note => exact LedgerMove.resolveException e actor note
  | claimNext runnerId registered token nonce =>
    exact LedgerMove.claimNext env runnerId registered token nonce
  | heartbeat execution call => exact LedgerMove.heartbeatExecution execution call
  | startStep execution step call => exact LedgerMove.startStep env execution step call
  | pollApproval execution step call => exact LedgerMove.pollApproval env execution step call
  | updateStep execution step call update =>
    exact .bind (.widen (LedgerMove.loadReadyExecution env execution call)) fun _ _ =>
      LedgerMove.atomic _ _ (by decide)
  | completeExecution execution call outcome =>
    exact LedgerMove.completeByRunner env execution call outcome
  | uploadArtifact req call => exact LedgerMove.createFromRunnerUpload env req call
  | readApproval a => exact LedgerMove.readApproval env a
  | decideApproval a decision notes actor nonce =>
    exact LedgerMove.decideApproval env a decision notes actor nonce
  | recoverExpiredApprovals batchSize => exact LedgerMove.recoverExpiredApprovals env batchSize
  | _ =>
    exact Op.follows_of_frame (C := [.approvals, .decisions, .exceptions])
      (fun _ _ _ => .other) _ (by dsimp only [Op.cells]; decide) s

end RunbookPlatform
