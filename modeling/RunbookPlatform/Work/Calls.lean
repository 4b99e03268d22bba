import RunbookPlatform.Work.Requests

/-!
# What the calls of a runner touch

A call about an execution carries the runner's id and its claim token. Its transactions touch
that execution and its steps only, and, heartbeats apart, only after they have compared both
with the columns of the execution.

## Main definitions

- `Op.call?` — the execution and the identity that a request carries
- `Db.OwnedBy`, `OnlyTouches` — who may touch an execution, and what that leaves alone
- `CallMove` — what a transaction of a call does

## Main results

- `Op.callMoves` — every transaction of a call
-/

namespace RunbookPlatform

open Transactional

set_option synthInstance.maxSize 1000

/-- The execution that a call is about, and the identity it carries. -/
def Op.call? : Op → Option (ℕ × RunnerCall)
  | .heartbeat execution call => some (execution, call)
  | .startStep execution _ call => some (execution, call)
  | .pollApproval execution _ call => some (execution, call)
  | .updateStep execution _ call _ => some (execution, call)
  | .completeExecution execution call _ => some (execution, call)
  | _ => none

/-- The transaction moves a step of an execution. -/
def TxName.movesStep : TxName → Bool
  | .startStep _ _ | .pollStep _ | .updateStep _ => true
  | _ => false

/-- The caller holds the claim of the execution, as `_validate_runner_ownership` sees it. -/
def Db.OwnedBy (s : Db) (execution : ℕ) (call : RunnerCall) : Prop :=
  ∃ e, s.executions.get? execution = some e ∧ e.claimedByRunnerId = call.runnerId ∧
    claimTokenText e = call.claimToken

/-- A runner is at work on the execution. -/
def Db.Active (s : Db) (execution : ℕ) : Prop :=
  ∃ e, s.executions.get? execution = some e ∧ e.status.isActive

/-- Other executions and their steps stay as they are. -/
structure OnlyTouches (execution : ℕ) (s s' : Db) : Prop where
  executions : ∀ j, j ≠ execution → s'.executions.get? j = s.executions.get? j
  steps : ∀ k st, s.steps.get? k = some st → st.execution ≠ execution → s'.steps.get? k = some st

/-- Executions and steps stay as they are. -/
def Untouched (s s' : Db) : Prop := s.executions = s'.executions ∧ s.steps = s'.steps

theorem Untouched.of_sameOn {s s' : Db} (h : SameOn [.executions, .steps] s s') :
    Untouched s s' :=
  ⟨h .executions (by simp), h .steps (by simp)⟩

theorem Untouched.onlyTouches {s s' : Db} (h : Untouched s s') (execution : ℕ) :
    OnlyTouches execution s s' :=
  ⟨fun j _ => by rw [h.1], fun k st hst _ => h.2 ▸ hst⟩

theorem OnlyTouches.trans {execution : ℕ} {s t u : Db} (h1 : OnlyTouches execution s t)
    (h2 : OnlyTouches execution t u) : OnlyTouches execution s u :=
  ⟨fun j hj => (h2.executions j hj).trans (h1.executions j hj),
    fun k st hst hne => h2.steps k st (h1.steps k st hst hne) hne⟩

/-- Nothing is touched, or the execution is, by its owner. -/
def Touches (execution : ℕ) (call : RunnerCall) (s s' : Db) : Prop :=
  Untouched s s' ∨ s.OwnedBy execution call ∧ OnlyTouches execution s s'

instance (execution : ℕ) (call : RunnerCall) : IsPreorder Db (Touches execution call) where
  refl s := .inl ⟨rfl, rfl⟩
  trans s t u h1 h2 := by
    rcases h1 with h1 | ⟨hown, h1⟩
    · rcases h2 with h2 | ⟨hown, h2⟩
      · exact .inl ⟨h1.1.trans h2.1, h1.2.trans h2.2⟩
      · refine .inr ⟨?_, (h1.onlyTouches execution).trans h2⟩
        unfold Db.OwnedBy
        rw [h1.1]
        exact hown
    · refine .inr ⟨hown, h1.trans ?_⟩
      exact h2.elim (fun h => h.onlyTouches execution) (·.2)

namespace Touches

variable {execution : ℕ} {call : RunnerCall} {V W : List Cell} {α : Type}

theorem of_sameOn {t : Service W α} (h : t.Follows (SameOn [.executions, .steps])) :
    t.Follows (Touches execution call) :=
  h.mono fun _ _ h => .inl (.of_sameOn h)

/-- **Frame rule**: a transaction that writes neither executions nor steps. -/
theorem frame (t : Service W α) (hdisj : ∀ c ∈ [Cell.executions, .steps], c ∉ W) :
    t.Follows (Touches execution call) :=
  of_sameOn (.sameOn t hdisj)

theorem ownedBy_of_validate {e : Execution} {s : Db} {u : Unit}
    (he : s.executions.get? execution = some e)
    (h : validateRunnerOwnership e call.runnerId call.claimToken s = .ok u) :
    s.OwnedBy execution call := by
  simp only [validateRunnerOwnership, Query.bind_ok, ensure_ok] at h
  obtain ⟨_, hrunner, htoken⟩ := h
  exact ⟨e, he, hrunner, htoken⟩

/-- A move of one step of the execution. -/
theorem onlyTouches_modifyStep {s : Db} {step : ℕ} {st : ExecutionStep}
    (hst : s.steps.get? step = some st) (hown : st.execution = execution)
    (f : ExecutionStep → ExecutionStep) :
    OnlyTouches execution s { s with steps := s.steps.modify step f } := by
  refine ⟨fun _ _ => rfl, fun k row hrow hne => ?_⟩
  have hk : k ≠ step := by
    rintro rfl
    rw [hst] at hrow
    cases hrow
    exact hne hown
  exact (Table.get?_modify_of_ne hk _ _).trans hrow

theorem updateExecutionStep (step : ℕ) (update : StepUpdate) (allowRunning : Bool) :
    (updateExecutionStep execution step call update allowRunning).Follows
      (Touches execution call) := by
  intro s u s' h
  simp only [RunbookPlatform.updateExecutionStep, Tx.bind_ok, Tx.lift_query_ok, Tx.run_lift,
    lookup_ok, select_ok, expect_ok, moveStep_ok] at h
  obtain ⟨e, _, ⟨he, rfl⟩, _, _, ⟨hvalid, rfl⟩, found, _, ⟨rfl, rfl⟩, row, _, ⟨hfound, rfl⟩, _, _,
    ⟨-, rfl⟩, now, _, ⟨-, rfl⟩, _, s1, rfl, h⟩ := h
  obtain ⟨hrow, hown⟩ := Option.filter_eq_some_iff.1 hfound
  have h1 := onlyTouches_modifyStep hrow (by simpa using hown)
    (stepMove [.pending, .waitingForApproval, .running] update.newStatus (update.apply now))
  refine .inr ⟨ownedBy_of_validate he hvalid, h1.trans ?_⟩
  split_ifs at h
  · simp only [Tx.bind_ok, Tx.run_lift, moveExecution_ok] at h
    obtain ⟨_, s2, rfl, hemit⟩ := h
    have h2 : SameOn [.executions, .steps] _ s' := Tx.sameOn hemit _ (by decide)
    refine OnlyTouches.trans ?_ ((Untouched.of_sameOn h2).onlyTouches execution)
    exact ⟨fun j hj => Table.get?_modify_of_ne hj _ _, fun _ _ hst _ => hst⟩
  · rw [Tx.run_lift] at h
    exact (Untouched.of_sameOn (Tx.sameOn h _ (by decide))).onlyTouches execution

theorem requestStepApproval (step : ℕ) (policyDriven : Bool) :
    (requestStepApproval execution step call.runnerId call.claimToken policyDriven).Follows
      (Touches execution call) := by
  intro s r s' h
  simp only [RunbookPlatform.requestStepApproval, Tx.bind_ok, Tx.lift_query_ok, lookup_ok,
    ensure_ok, select_ok] at h
  obtain ⟨e, _, ⟨he, rfl⟩, st, _, ⟨hst, rfl⟩, _, _, ⟨hown, rfl⟩, _, _, ⟨hvalid, rfl⟩, existing, _,
    ⟨-, rfl⟩, h⟩ := h
  refine .inr ⟨ownedBy_of_validate he hvalid, ?_⟩
  split at h
  · simp only [Tx.run_pure, Except.ok.injEq, Prod.mk.injEq] at h
    exact h.2 ▸ Untouched.onlyTouches ⟨rfl, rfl⟩ execution
  · simp only [Tx.bind_ok, Tx.lift_query_ok, Tx.run_lift, moveStep_ok, Tx.run_pure,
      Except.ok.injEq, Prod.mk.injEq] at h
    obtain ⟨_, _, ⟨-, rfl⟩, _, _, ⟨-, rfl⟩, now, _, ⟨-, rfl⟩, _, s1, rfl, timeout, _, ⟨-, rfl⟩,
      request, s2, hinsert, _, s3, hemit1, _, s4, hemit2, -, rfl⟩ := h
    have h2 : SameOn [.executions, .steps] _ s4 :=
      ((insertUnique_follows Rel.approvals _ _ (by decide) _ _ _ hinsert).trans
        (Tx.sameOn hemit1 _ (by decide))).trans (Tx.sameOn hemit2 _ (by decide))
    exact (onlyTouches_modifyStep hst hown _).trans
      ((Untouched.of_sameOn h2).onlyTouches execution)

theorem startStepTx {env : Env} {e : Execution} (step : ℕ) (evaluated : Except Err Evaluated)
    (evaluatedAt : Time) :
    (startStepTx env ⟨execution, e⟩ step call evaluated evaluatedAt).Follows
      (Touches execution call) := by
  have hrun : (runStep execution step call).Follows (Touches execution call) :=
    .widen (updateExecutionStep step _ true)
  have hblock : ∀ message kind,
      (blockStep execution step call message kind).Follows (Touches execution call) :=
    fun _ _ => .widen (updateExecutionStep step _ false)
  cases evaluated with
  | ok found =>
    refine .bind (.widen (frame _ (by decide))) fun _ => ?_
    unfold applyEvaluation
    split
    · exact hblock _ _
    · split
      · exact hrun
      · refine .bind (.widen (frame _ (by decide))) fun decision => ?_
        split
        · exact hrun
        · exact .pure _
        · exact .bind (.widen (requestStepApproval step true)) fun _ => .pure _
      · refine .bind (.widen (frame _ (by decide))) fun decision => ?_
        split
        · exact hrun
        · exact .pure _
        · exact hblock _ _
  | error e => exact hblock _ _

theorem pollApprovalTx {env : Env} (step : ℕ) (approval : Loaded ApprovalRequest) :
    (pollApprovalTx env execution step call approval).Follows (Touches execution call) := by
  refine .bind (.widen (frame _ (by decide))) fun request => ?_
  split
  · exact .pure _
  · refine .bind (.widen (frame _ (by decide))) fun decision => ?_
    split
    · exact .pure _
    · exact .widen (updateExecutionStep step _ true)
  · exact .widen (updateExecutionStep step _ false)
  · exact .widen (updateExecutionStep step _ false)

/-- A completion finds the execution active. -/
theorem completeExecutionTx {env : Env} {outcome : ExecutionStatus} {s s' : Db} {u : Unit}
    (h : (completeExecutionTx env execution call outcome).run s = .ok (u, s')) :
    s.OwnedBy execution call ∧ s.Active execution ∧ OnlyTouches execution s s' := by
  simp only [RunbookPlatform.completeExecutionTx, Tx.bind_ok, Tx.lift_query_ok, lookup_ok,
    ensure_ok, Tx.run_widen, Tx.run_lift] at h
  obtain ⟨e, _, ⟨he, rfl⟩, _, _, ⟨hvalid, rfl⟩, _, _, ⟨hstatus, rfl⟩, _, _, ⟨-, rfl⟩, _, s1, hguard,
    now, _, ⟨-, rfl⟩, _, s2, hend, hemit⟩ := h
  have h1 : SameOn [.executions, .steps] s s1 := Tx.sameOn hguard _ (by decide)
  have h3 : SameOn [.executions, .steps] s2 s' := Tx.sameOn hemit _ (by decide)
  refine ⟨ownedBy_of_validate he hvalid, ⟨e, he, ?_⟩, ?_⟩
  · rcases hstatus with hstatus | hstatus <;> rw [hstatus] <;> rfl
  · refine (((Untouched.of_sameOn h1).onlyTouches execution).trans ?_).trans
      ((Untouched.of_sameOn h3).onlyTouches execution)
    unfold endExecution at hend
    split at hend
    all_goals
      obtain rfl := moveExecution_ok.1 hend
      exact ⟨fun j hj => Table.get?_modify_of_ne hj _ _, fun _ _ hst _ => hst⟩

end Touches

/-- What the transaction `n` of `op`, a call about `execution`, does to executions and steps. -/
inductive CallMove (op : Op) (execution : ℕ) (call : RunnerCall) (n : TxName) (s s' : Db) :
    Prop where
  | untouched (h : Untouched s s')
  /-- The view has checked the caller on the object it loaded. -/
  | heartbeat (hop : op = .heartbeat execution call) (hn : n = .heartbeat execution)
      (hsteps : s.steps = s'.steps)
      (h : OnlyTouches execution s s')
  | step (hn : n.movesStep = true) (hown : s.OwnedBy execution call)
      (h : OnlyTouches execution s s')
  | complete (outcome : ExecutionStatus) (hn : n = .completeExecution execution outcome)
      (hown : s.OwnedBy execution call) (hactive : s.Active execution)
      (h : OnlyTouches execution s s')

namespace CallMove

variable {env : Env} {op : Op} {execution : ℕ} {call : RunnerCall} {H W : List Cell} {α : Type}
  {s : Db}

theorem refl {n : TxName} (s : Db) : CallMove op execution call n s s := .untouched ⟨rfl, rfl⟩

/-- **Frame rule** for handlers. -/
theorem frame (p : Handler W α) (s : Db)
    (hdisj : ∀ c ∈ [Cell.executions, .steps], c ∉ W) :
    p.Follows H (CallMove op execution call) s :=
  .frame hdisj (fun _ _ _ h => .untouched (.of_sameOn h)) p s

/-- An atomic block that moves a step. -/
theorem atomic {V W : List Cell} [Within V W] {n : TxName} {t : Service V α}
    (hn : n.movesStep = true) (h : t.Follows (Touches execution call)) :
    (Prog.atomic n t : Handler W α).Follows H (CallMove op execution call) s :=
  .atomic fun s1 _ a s' hrun => by
    rcases h s1 a s' hrun with h | ⟨hown, h⟩
    · exact .untouched h
    · exact .step hn hown h

end CallMove

/-- **Every transaction of a call** leaves executions and steps alone, or touches the ones it
names, after it has compared the caller with the columns of the execution, or is the save of
a heartbeat. -/
theorem Op.callMoves {env : Env} {H : List Cell} {op : Op} {execution : ℕ} {call : RunnerCall}
    (hop : op.call? = some (execution, call)) (s : Db) :
    (op.prog env).Follows H (CallMove op execution call) s := by
  cases op with
  | heartbeat i c =>
    obtain ⟨rfl, rfl⟩ : i = execution ∧ c = call := by simpa [Op.call?] using hop
    refine .read CallMove.refl fun s1 e _ _ => .bind (.query _ CallMove.refl) fun _ s2 =>
      .bind (.widen (CallMove.frame (enforceEmergencyExpiryForExecution i) s2 (by decide))) fun _ s3 =>
      .read CallMove.refl fun s4 now _ _ => .atomic fun s5 _ u s' h => ?_
    have hsteps : s5.steps = s'.steps := Tx.frame _ h .steps (by decide)
    obtain rfl := updateExecution_ok.1 h
    exact .heartbeat rfl rfl hsteps
      ⟨fun j hj => Table.get?_modify_of_ne hj _ _, fun _ _ hst _ => hst⟩
  | startStep i step c =>
    obtain ⟨rfl, rfl⟩ : i = execution ∧ c = call := by simpa [Op.call?] using hop
    refine .bind (.widen (CallMove.frame (loadReadyExecution env i c) s (by decide))) fun e s1 =>
      .read CallMove.refl fun s2 st _ _ => .read CallMove.refl fun s3 waiting _ _ => ?_
    split
    · exact .bind (.widen (CallMove.frame (getApprovalStatus env _) s3 (by decide))) fun _ _ => .pure _
    · exact .read CallMove.refl fun s4 now _ _ => .read CallMove.refl fun s5 evaluated _ _ =>
        CallMove.atomic rfl (Touches.startStepTx step evaluated now)
  | pollApproval i step c =>
    obtain ⟨rfl, rfl⟩ : i = execution ∧ c = call := by simpa [Op.call?] using hop
    refine .bind (.widen (CallMove.frame (loadReadyExecution env i c) s (by decide))) fun e s1 =>
      .read CallMove.refl fun s2 _ _ _ => .read CallMove.refl fun s3 st _ _ => ?_
    split
    · exact .pure _
    · exact .pure _
    · exact .read CallMove.refl fun s4 found _ _ => .read CallMove.refl fun s5 (id, request) _ _ =>
        CallMove.atomic rfl (Touches.pollApprovalTx step ⟨id, request⟩)
    · exact .fail _
  | updateStep i step c update =>
    obtain ⟨rfl, rfl⟩ : i = execution ∧ c = call := by simpa [Op.call?] using hop
    exact .bind (.widen (CallMove.frame (loadReadyExecution env i c) s (by decide))) fun e s1 =>
      CallMove.atomic rfl (Touches.updateExecutionStep step update false)
  | completeExecution i c outcome =>
    obtain ⟨rfl, rfl⟩ : i = execution ∧ c = call := by simpa [Op.call?] using hop
    refine .bind (.widen (CallMove.frame (loadReadyExecution env i c) s (by decide))) fun e s1 => .widen <|
      .bind (.atomic fun s2 _ u s' h => ?_) fun _ s3 =>
      .bind (.atomic fun s3 _ u s' h => .untouched (.of_sameOn (Tx.sameOn h _ (by decide)))) fun _ s4 =>
      .tryCatch (.widen (CallMove.frame (handleBoundExecutionCompleted env i outcome) s4 (by decide)))
        fun _ s5 => .read CallMove.refl fun s6 bound _ _ => ?_
    · obtain ⟨hown, hactive, htouches⟩ := Touches.completeExecutionTx h
      exact .complete outcome rfl hown hactive htouches
    · split
      · exact .fail _
      · exact .pure _
  | _ => simp [Op.call?] at hop

end RunbookPlatform
