import RunbookPlatform.Gates.Services

/-!
# Steps in every request

Every transaction of every request moves the steps, and only step starts and approval polls
start one: the step that they are about, when its gate is open.

## Main definitions

- `MayStart` — the steps that a request may start

## Main results

- `Op.stepsMoves` — all requests follow `StepsMove` for those steps
- `Serving.stepsPlaced` — in every run, each position of an execution is that of one step
-/

namespace RunbookPlatform

open Transactional

set_option synthInstance.maxSize 1000

/-- The request may start step `j` in `s`. -/
inductive MayStart (env : Env) (s : Db) (j : ℕ) : Op → Prop where
  | start (e i : ℕ) (call : RunnerCall) (h : StartsStep env e i s j) :
    MayStart env s j (.startStep e i call)
  | poll (e i : ℕ) (call : RunnerCall) (h : StartsApproved e i s j) :
    MayStart env s j (.pollApproval e i call)

namespace StepsMove

variable {env : Env} {H V W : List Cell} {α : Type} {s : Db} {P : Db → ℕ → Prop}

/-- **Frame rule** for handlers. -/
theorem handler (p : Handler W α) (s : Db)
    (hdisj : ∀ c ∈ [Cell.executions, .steps], c ∉ W) :
    p.Follows H (fun _ s s' => StepsMove (P s) s s') s :=
  .frame hdisj (fun _ _ _ => of_sameOn) p s

/-- A handler that writes no step, and routes executions. -/
theorem routed {p : Handler W α} (hp : p.Follows H Routes s)
    (hdisj : ∀ c ∈ [Cell.steps], c ∉ W) :
    p.Follows H (fun _ s s' => StepsMove (P s) s s') s := by
  have hsteps : p.Follows H (fun _ => SameOn [.steps]) s := .frame hdisj (fun _ _ _ h => h) p s
  refine (hp.and hsteps).mono ?_
  rintro n s1 s2 ⟨hroutes, hsame⟩
  refine of_routes (fun i e he => ?_) (hsame .steps (by simp))
  obtain ⟨e', he', -⟩ := hroutes i e he
  exact ⟨e', he'⟩

/-- An atomic block that starts no step. -/
theorem atomic [Within V W] {n : TxName} {t : Service V α} (h : t.Follows StepsRest) :
    (Prog.atomic n t : Handler W α).Follows H (fun _ s s' => StepsMove (P s) s s') s :=
  .atomic fun s1 _ a s' hrun => (h s1 a s' hrun).mono fun _ => False.elim

theorem claimNext (runnerId : String) (registered : Bool) (token : String) (nonce : ℕ → String) :
    (claimNext env runnerId registered token nonce).Follows H
      (fun _ s s' => StepsMove (P s) s s') s := by
  have hpromote : ∀ s, (promoteDueScheduledChanges env nonce).Follows H
      (fun _ s s' => StepsMove (P s) s s') s :=
    fun s => .read (fun _ => .refl _) fun s1 now _ _ => .read (fun _ => .refl _) fun s2 due _ _ =>
      .forEach (fun c s3 => .tryCatch (atomic (reserves.promoteScheduledChange c.id now _))
        fun _ _ => .pure _) due s2
  refine .bind (.tryCatch (.widen (hpromote s)) fun _ _ => .pure _) fun _ s1 =>
    .read (fun _ => .refl _) fun s2 runner _ _ =>
    .bind (.widen (routed (Routes.claimNextExecution runnerId runner token) (by decide))) fun result s3 => ?_
  split
  · exact .widen (routed (Routes.frame _ _ (by decide)) (by decide))
  · exact .pure _

/-- **A step start**: what the policies find of a step depends on what the step keeps. -/
theorem startStep (execution step : ℕ) (call : RunnerCall) :
    (startStep env execution step call).Follows historyCells
      (fun _ s s' => StepsMove (StartsStep env execution step s) s s') s := by
  refine .bind (.widen (handler _ _ (by decide))) fun e s1 => .read (fun _ => .refl _) fun s2 st _ hst =>
    .read (fun _ => .refl _) fun s3 waiting h3 _ => ?_
  split
  · exact .bind (.widen (handler (getApprovalStatus env _) s3 (by decide))) fun _ _ => .pure _
  · refine .read (fun _ => .refl _) fun s4 now h4 _ => .read (fun _ => .refl _)
      fun s5 evaluated h5 hevaluated => .atomic fun s6 h6 _ s7 hrun => ?_
    refine RunbookPlatform.StepsMove.startStepTx ⟨execution, e⟩
      (fun row found hrow hrequires hfound => ?_) _ _ hrun
    simp only [loadStep, Query.bind_ok, select_ok, expect_ok] at hst
    obtain ⟨_, rfl, hst⟩ := hst
    obtain ⟨hget, -⟩ := Option.filter_eq_some_iff.1 hst
    -- the step may have moved since it was read, but it still requires approval
    have hsame := ((h3.trans h4).trans h5).trans h6
    obtain ⟨later, hlater, hevolves⟩ := hsame .stepHistory (by decide) step st hget
    rw [hrow] at hlater
    cases hlater
    have hkept : row.requiresApproval = st.requiresApproval := congrArg (·.2.2.1) hevolves.identity
    rw [select_ok] at hevaluated
    exact evaluateStepPolicy_floor (hkept ▸ hrequires) (hevaluated.trans hfound)

/-- **An approval poll**: the request that it loads is that of the step. -/
theorem pollApproval (execution step : ℕ) (call : RunnerCall) :
    (pollApproval env execution step call).Follows historyCells
      (fun _ s s' => StepsMove (StartsApproved execution step s) s s') s := by
  refine .bind (.widen (handler _ _ (by decide))) fun e s1 => .read (fun _ => .refl _) fun s2 _ _ _ =>
    .read (fun _ => .refl _) fun s3 st _ _ => ?_
  split
  · exact .pure _
  · exact .pure _
  · refine .read (fun _ => .refl _) fun s4 found _ hfound => .read (fun _ => .refl _)
      fun s5 (a, r) h5 hexpect => .atomic fun s6 h6 _ s7 hrun => ?_
    rw [select_ok] at hfound
    rw [expect_ok] at hexpect
    subst hexpect
    obtain ⟨hget, htest⟩ := Table.find?_some hfound
    exact pollApprovalTx ⟨a, r⟩ ((h5.trans h6) .approvalHistory (by decide) a r hget)
      (of_decide_eq_true htest) _ _ hrun
  · exact .fail _

theorem recoverStuckExecutions (threshold : ℕ) :
    (recoverStuckExecutions env threshold).Follows H (fun _ s s' => StepsMove (P s) s s') s := by
  refine .read (fun _ => .refl _) fun s1 now _ _ => .read (fun _ => .refl _)
    fun s2 candidates _ _ => .forEach (fun e s3 =>
      .bind (atomic (recoverStuckExecution _ _)) fun recovered s4 => ?_) candidates s2
  split
  · exact .bind (atomic (quiet _ (by decide))) fun _ s5 =>
      .tryCatch (.widen (handler (handleBoundExecutionCompleted env e.id .failed) s5 (by decide))) fun _ _ =>
        .pure _
  · exact .pure _

end StepsMove

variable {env : Env}

/-- **Every request** moves the steps, and starts those only that it may. -/
theorem Op.stepsMoves (op : Op) (s : Db) :
    (op.prog env).Follows historyCells
      (fun _ s s' => StepsMove (fun j => MayStart env s j op) s s') s := by
  have hserve : ∀ {W : List Cell} {α : Type} {t : Service W α} {n : TxName},
      t.Follows StepsRest → (serve t n).Follows historyCells
        (fun _ s s' => StepsMove (fun j => MayStart env s j op) s s') s :=
    fun h => .bind (StepsMove.atomic h) fun _ _ => .pure _
  cases op with
  | submitChange c actor nonce => exact hserve (StepsMove.reserves.submitChangeRecord c actor nonce)
  | dispatch c actor nonce => exact hserve (StepsMove.reserves.makeDispatchable c actor nonce)
  | createExecution workflow mode actor =>
    exact .read (fun _ => .refl _) fun _ row _ _ => .bind (.read (fun _ => .refl _) fun _ _ _ _ =>
      StepsMove.atomic (StepsMove.insertExecutionRows _ _ _ _)) fun _ _ => .pure _
  | claimNext runnerId registered token nonce =>
    exact StepsMove.claimNext runnerId registered token nonce
  | startStep e i call =>
    refine (StepsMove.startStep e i call).mono fun _ s s' h => h.mono fun j hj => ?_
    exact .start e i call hj
  | pollApproval e i call =>
    refine (StepsMove.pollApproval e i call).mono fun _ s s' h => h.mono fun j hj => ?_
    exact .poll e i call hj
  | updateStep execution step call update =>
    exact .bind (.widen (StepsMove.handler (loadReadyExecution env execution call) s (by decide))) fun _ _ =>
      StepsMove.atomic (StepsMove.reportStep execution step call update)
  | decideApproval a decision notes actor nonce =>
    refine .bind (StepsMove.atomic
      (StepsMove.reserves.decideApprovalTx a decision notes actor nonce)) fun severe s1 => ?_
    split
    · exact .query _ fun _ => .refl _
    · exact .pure _
  | recoverStuckExecutions threshold => exact StepsMove.recoverStuckExecutions threshold
  | recoverExpiredApprovals batchSize =>
    exact .read (fun _ => .refl _) fun _ now _ _ => .read (fun _ => .refl _) fun s1 overdue _ _ =>
      .forEach (fun a _ => StepsMove.atomic (StepsMove.recoverExpiredApproval a.id now)) overdue s1
  | cancelExecution execution actor =>
    exact StepsMove.routed (Op.routes (.cancelExecution execution actor) s)
      (by dsimp only [Op.cells]; decide)
  | heartbeat execution call =>
    exact StepsMove.routed (Op.routes (.heartbeat execution call) s)
      (by dsimp only [Op.cells]; decide)
  | completeExecution execution call outcome =>
    exact StepsMove.routed (Op.routes (.completeExecution execution call outcome) s)
      (by dsimp only [Op.cells]; decide)
  | _ =>
    exact Op.follows_of_frame (C := [.executions, .steps])
      (fun _ _ _ => StepsMove.of_sameOn) _ (by dsimp only [Op.cells]; decide) s

/-- The steps of every run belong to its executions, one for each position, and say of approvals
what their definition says. -/
theorem Serving.stepsPlaced {A : ServedAdmission} {c : ServedConf} (h : Serving env A c) :
    StepsPlaced c.db ∧ ∀ i step, c.db.steps.get? i = some step → step.AsDeclared := by
  refine h.invariant (R := fun op _ s s' => StepsMove (fun j => MayStart env s j op) s s')
    (I := fun s => StepsPlaced s ∧ ∀ i step, s.steps.get? i = some step → step.AsDeclared)
    Op.stepsMoves (fun _ _ => ?_) ?_
  · exact ⟨⟨fun i step hstep => (by cases hstep), fun i j a b ha => (by cases ha)⟩,
      fun i step hstep => (by cases hstep)⟩
  · rintro op n s s' hmoves - ⟨hplaced, hdeclared⟩
    refine ⟨hmoves.placed hplaced, fun i later hlater => ?_⟩
    cases hstep : s.steps.get? i with
    | none => exact (hmoves.created i later hlater hstep).2.2
    | some step =>
      obtain ⟨later', hlater', hmoved⟩ := hmoves.kept i step hstep
      rw [hlater] at hlater'
      cases hlater'
      exact hmoved.asDeclared (hdeclared i step hstep)

end RunbookPlatform
