import RunbookPlatform.Work.Steps

/-!
# The steps of services

The services that reserve, bind, claim, move and end executions, as sequences of work steps.

## Main results

- `WorkSteps.bindExecutionTx` — a bind that is accepted
- `WorkSteps.claimUnregistered` — a claim or a reclaim
- `WorkSteps.failExecutionForApprovalTimeout`, `WorkSteps.recoverCandidate` — an execution
  fails, and a change that is still in dispatch expires with it
-/

namespace RunbookPlatform

open Transactional

set_option synthInstance.maxSize 1000

namespace WorkSteps

variable {env : Env} {op : Op} {alone : Prop} {s s' : Db}

theorem scheduleOrMakeDispatchable (c : ℕ) (actor : AuditActor) (nonce : String) :
    (scheduleOrMakeDispatchable env c actor nonce).Follows (WorkSteps env op alone) := by
  refine .bind (.query _) fun row => .bind (.query _) fun _ => .bind (.query _) fun _ =>
    .bind (.query _) fun now => ?_
  split
  · exact .bind (.lift (transitionAway _ _ _ now _ (by decide))) fun _ => .pure _
  · exact .lift (makeDispatchable c actor nonce)

theorem submitChangeRecord (c : ℕ) (actor : AuditActor) (nonce : String) :
    (submitChangeRecord env c actor nonce).Follows (WorkSteps env op alone) := by
  refine .bind (.query _) fun row => .bind (.query _) fun (profile, frozen) =>
    .bind (.lift (frame _ (by decide))) fun _ => ?_
  dsimp only
  split
  · exact .bind (.lift (frame _ (by decide))) fun _ => .bind (.lift (frame _ (by decide))) fun _ =>
      .bind (.lift (frame _ (by decide))) fun _ => .lift (frame _ (by decide))
  · exact .bind (.lift (frame _ (by decide))) fun _ => .bind (.lift (frame _ (by decide))) fun _ =>
      .lift (scheduleOrMakeDispatchable c actor nonce)

theorem promoteScheduledChange (c : ℕ) (now : Time) (nonce : String) :
    (promoteScheduledChange env c now nonce).Follows (WorkSteps env op alone) := by
  refine .bind (.query _) fun row => ?_
  split
  · exact makeDispatchable c changeService nonce
  · exact .pure _

theorem handleChangeApprovalDecision (request : ℕ) (decision : HumanDecision)
    (actor : AuditActor) (nonce : String) :
    (handleChangeApprovalDecision env request decision actor nonce).Follows
      (WorkSteps env op alone) := by
  refine .bind (.query _) fun c => .bind (.query _) fun now => ?_
  cases decision with
  | approved =>
    exact .bind (.lift (frame _ (by decide))) fun _ => .lift (scheduleOrMakeDispatchable c actor nonce)
  | rejected => exact .bind (.lift (frame _ (by decide))) fun _ => .pure _

theorem decideApprovalTx (approval : ℕ) (decision : HumanDecision) (notes : String)
    (actor : AuditActor) (nonce : String) :
    (decideApprovalTx env approval decision notes actor nonce).Follows
      (WorkSteps env op alone) := by
  refine .bind (.query _) fun request => .bind (.query _) fun now => ?_
  split
  · exact .bind (.widen (frame _ (by decide))) fun _ => .pure _
  · refine .bind (.query _) fun _ => .bind ?_ fun severe => .bind (.lift (frame _ (by decide))) fun _ =>
      .bind (of_sameOn (insertUnique_follows _ _ _ (by decide))) fun row => .bind (.lift (frame _ (by decide))) fun _ =>
      .bind ?_ fun _ => .pure severe
    · unfold decideException
      split
      · exact .widen (frame _ (by decide))
      · exact .pure _
    · unfold decideChange
      split
      · exact .widen (handleChangeApprovalDecision approval decision actor nonce)
      · exact .pure _

-- ════════════════════════════════════════════════════════════════════════
-- Bindings
-- ════════════════════════════════════════════════════════════════════════

/-- A callback stamps the binding it found. -/
private theorem stampBinding {c : ℕ} {runnerId : String} {execution : ℕ} {row : ChangeRecord}
    {id : ℕ} {b : ChangeExecutionBinding} {stamped : Option Time}
    {f : ChangeExecutionBinding → ChangeExecutionBinding}
    (hf : ∀ b, (f b).changeRecord = b.changeRecord ∧ (f b).execution = b.execution ∧
      (f b).boundAt = b.boundAt ∧ (f b).boundByRunnerId = b.boundByRunnerId)
    (hbound : resolveBoundBinding c runnerId execution s = .ok (row, id, b)) :
    (stampBinding id stamped f).FollowsFrom (WorkSteps env op alone) s := by
  intro u s' h
  unfold RunbookPlatform.stampBinding at h
  split_ifs at h
  · have hsame : SameOn [.executions, .changeStatus .dispatchable, .changeStatus .running] s s' :=
      updateRow_follows Rel.bindings _ _ _ (by decide) _ _ _ h
    simp only [resolveBoundBinding, Query.bind_ok, select_ok, expect_ok, ensure_ok,
      Query.pure_apply, Except.ok.injEq, Prod.mk.injEq] at hbound
    obtain ⟨_, -, _, -, found, hfound, ⟨i, b'⟩, rfl, _, -, _, -, _, -, -, rfl, rfl⟩ := hbound
    obtain ⟨hb, -⟩ := Table.find?_some hfound
    obtain rfl := updateRow_ok.1 h
    exact .single (.callback i b' (f b') (.modify hb f) (hf b') hsame)
  · exact (Tx.Follows.pure _) _ _ _ h

theorem recordExecutionAccepted (req : CallbackRequest) :
    (recordExecutionAccepted req).Follows (WorkSteps env op alone) := by
  intro s
  refine Tx.FollowsFrom.query (s := s) fun clock _ => .query fun ⟨row, id, b⟩ hbound => ?_
  exact .bind (.lift (stampBinding (fun _ => ⟨rfl, rfl, rfl, rfl⟩) hbound)) fun _ s1 _ _ =>
    (Tx.Follows.lift (frame _ (by decide))).from s1

theorem recordExecutionStarted (req : CallbackRequest) :
    (recordExecutionStarted req).Follows (WorkSteps env op alone) := by
  intro s
  refine Tx.FollowsFrom.query (s := s) fun clock _ => .query fun ⟨row, id, b⟩ hbound => ?_
  exact .bind (.lift (stampBinding (fun _ => ⟨rfl, rfl, rfl, rfl⟩) hbound)) fun _ s1 _ _ =>
    (Tx.Follows.lift (frame _ (by decide))).from s1

theorem recordExecutionFinished (req : CallbackRequest) :
    (recordExecutionFinished req).Follows (WorkSteps env op alone) := by
  intro s
  refine Tx.FollowsFrom.query (s := s) fun clock _ => .query fun ⟨row, id, b⟩ hbound => ?_
  exact .bind (.lift (stampBinding (fun _ => ⟨rfl, rfl, rfl, rfl⟩) hbound)) fun _ s1 _ _ =>
    Tx.Follows.from (.bind (.lift (frame _ (by decide))) fun _ => .bind (.lift (frame _ (by decide))) fun _ =>
      .lift (frame _ (by decide))) s1

/-- Whether a token verifies does not depend on the state. -/
theorem verifyDispatchToken_congr (b : ChangeExecutionBinding) (token : String) (s s' : Db) :
    verifyDispatchToken env b token s = verifyDispatchToken env b token s' := by
  unfold verifyDispatchToken generateDispatchToken
  dsimp only
  split_ifs
  · rfl
  · simp only [Query.bind_apply, ensure, require]
    split_ifs <;> rfl

/-- What `bind_execution` does: a retry changes nothing here; a first bind is accepted, binds
the binding of the change and moves the change to `RUNNING`. -/
theorem bindExecutionTx_ok {req : BindRequest} {u : Unit}
    (h : (RunbookPlatform.bindExecutionTx env req).run s = .ok (u, s')) :
    SameOn workCells s s' ∨ ∃ id b e, bindingOfChange? req.change s = some (id, b) ∧
      req.Accepted env s b e ∧ b.boundAt = none ∧ s.ChangeIn .dispatchable b.changeRecord ∧
      s.bindings.Replaced id b
        { b with boundAt := some s.now, boundByRunnerId := req.runnerId } s'.bindings ∧
      Moved b.changeRecord .running s s' ∧ s.executions = s'.executions := by
  simp only [RunbookPlatform.bindExecutionTx, Tx.bind_ok, Tx.lift_query_ok, select_ok, expect_ok,
    ensure_ok, timezoneNow] at h
  obtain ⟨_, _, ⟨rfl, rfl⟩, row, _, ⟨hrow, rfl⟩, _, _, ⟨rfl, rfl⟩, ⟨id, b⟩, _, ⟨hfound, rfl⟩, _, _,
    ⟨hexecution, rfl⟩, _, _, ⟨rfl, rfl⟩, e, _, ⟨he, rfl⟩, _, _, ⟨howner, rfl⟩, _, _,
    ⟨htoken, rfl⟩, now, _, ⟨rfl, rfl⟩, h⟩ := h
  obtain ⟨hb, hchange⟩ := Table.find?_some hfound
  have hchange : b.changeRecord = req.change := by simpa using hchange
  split_ifs at h with hbound
  · rw [Tx.run_lift] at h
    exact .inl (Tx.sameOn h _ (by decide))
  · simp only [activateBinding, Tx.bind_ok, Tx.lift_query_ok, Tx.run_lift, ensure_ok,
      updateRow_ok] at h
    obtain ⟨_, _, ⟨hdispatchable, rfl⟩, _, _, ⟨-, rfl⟩, _, s1, hplan, _, _, ⟨-, rfl⟩, _, _,
      ⟨halive, rfl⟩, verified, _, ⟨hverified, rfl⟩, _, _, ⟨htrue, rfl⟩, _, s2, hs2, old, s3, hmove,
      hemit⟩ := h
    have hsame1 : SameOn (.changes :: workCells) s s1 := Tx.sameOn hplan _ (by decide)
    have hchanges : s.changes = s1.changes := hsame1 .changes (by simp)
    have hbindings : s.bindings = s1.bindings := hsame1 .bindings (by simp)
    have hexecutions : s.executions = s1.executions := hsame1 .executions (by simp)
    have h2 : SameOn (.changes :: .executions :: [.bindings]) s3 s' := Tx.sameOn hemit _ (by decide)
    have hs23 : s2.bindings = s3.bindings := Tx.frame _ hmove .bindings (by decide)
    have h23 : s2.executions = s3.executions := Tx.frame _ hmove .executions (by decide)
    have hbindings3 : s3.bindings = s'.bindings := h2 .bindings (by simp)
    have hchanges3 : s3.changes = s'.changes := h2 .changes (by simp)
    have hexecutions3 : s3.executions = s'.executions := h2 .executions (by simp)
    obtain ⟨-, -, hmoved⟩ := transitionChange_moved hmove
    subst hs2 htrue
    refine .inr ⟨id, b, e, hfound, ⟨hchange, hexecution, he, howner, htoken, halive, ?_⟩,
      by simpa using hbound, ⟨row, hchange ▸ hrow, hdispatchable⟩, ?_, ?_, ?_⟩
    · rw [verifyDispatchToken_congr b req.dispatchToken s s1]
      exact hverified
    · rw [← hbindings3, ← hs23, hbindings]
      exact .modify (hbindings ▸ hb) fun b =>
        { b with boundAt := some s.now, boundByRunnerId := req.runnerId }
    · rw [hchange]
      refine ⟨?_, fun st i hi => ?_⟩
      · obtain ⟨row', hrow', hst⟩ := hmoved.became
        exact ⟨row', hchanges3 ▸ hrow', hst⟩
      · have hothers := hmoved.others st i hi
        simp only [Db.ChangeIn, hchanges3, hchanges] at hothers ⊢
        exact hothers
    · exact (hexecutions.trans h23).trans hexecutions3

theorem bindExecutionTx {req : BindRequest} (hop : op = .bindExecution req) :
    (bindExecutionTx env req).Follows (WorkSteps env op alone) := by
  intro s u s' h
  rcases bindExecutionTx_ok h with hsame | ⟨id, b, e, -, haccepted, hunbound, hdispatchable,
    hbindings, hmoved, hexecutions⟩
  · exact quiet hsame
  · exact .single (.bind req id b e hop haccepted hunbound hdispatchable hbindings hmoved
      hexecutions)

-- ════════════════════════════════════════════════════════════════════════
-- Claims
-- ════════════════════════════════════════════════════════════════════════

/-- A move of an execution changes its row as `P` says, and no change. -/
theorem moveExecution_edited {W : List Cell} {P : Execution → Execution → Prop} {i : ℕ}
    {sources : List ExecutionStatus} {new : ExecutionStatus} {f : Execution → Execution} {hW}
    {u : Unit} (h : (moveExecution (W := W) i sources new f hW).run s = .ok (u, s'))
    (hP : ∀ e, e.status ∈ sources → P e { f e with status := new }) :
    s.executions.Edited i P s'.executions ∧ Falls s s' := by
  have hsame : SameOn dispatchStateCells s s' :=
    moveExecution_follows _ _ _ _ _ (by simp) _ _ _ h
  obtain rfl := moveExecution_ok.1 h
  refine ⟨.modify fun e _ => ?_, .of_sameOn hsame⟩
  split_ifs with hsource
  · exact .inr (hP e hsource)
  · exact .inl rfl

theorem expireUnboundDispatchForExecution (execution : ℕ) (now : Time) :
    (expireUnboundDispatchForExecution execution now).Follows (WorkSteps env op alone) := by
  intro s expired s' h
  simp only [RunbookPlatform.expireUnboundDispatchForExecution, Tx.bind_ok, Tx.lift_query_ok,
    select_ok] at h
  obtain ⟨found, _, ⟨hfound, rfl⟩, h⟩ := h
  rcases found with - | ⟨i, binding⟩
  · exact (Tx.Follows.pure _) _ _ _ h
  · dsimp only at h
    split_ifs at h with halive
    · exact (Tx.Follows.pure _) _ _ _ h
    · simp only [Tx.bind_ok, Tx.run_lift, Tx.lift_query_ok, lookup_ok] at h
      obtain ⟨_, s1, hexpire, e, _, ⟨-, rfl⟩, h⟩ := h
      obtain ⟨hfalls, hexpired⟩ := expireDispatchableChange_falls hexpire
      refine (falls (Tx.frame _ hexpire .executions (by decide)) hfalls).trans ?_
      split_ifs at h
      · simp only [Tx.bind_ok, Tx.run_lift, Tx.run_pure, Except.ok.injEq, Prod.mk.injEq] at h
        obtain ⟨_, s2, hmove, _, s3, hemit, -, rfl⟩ := h
        obtain ⟨hrow, hcancelled⟩ := moveExecution_edited (P := fun e e' =>
          e.status.isTerminal = false ∧ e'.status.isTerminal ∧ e'.claim = e.claim) hmove
          (fun e he => ⟨by revert he; cases e.status <;> simp [ExecutionStatus.isTerminal], rfl, rfl⟩)
        refine (Relation.ReflTransGen.single (.finish execution (fun _ c hc hd => ?_) hrow hcancelled)).trans
          (quiet (Tx.sameOn hemit _ (by decide)))
        obtain ⟨j, b, hb, rfl⟩ := hfalls.reservedFor.1 hc
        rw [hfound] at hb
        cases hb
        exact hexpired (hcancelled.dispatchable _ hd)
      · exact (Tx.Follows.pure _) _ _ _ h

theorem claimScan (p : Execution → Bool) (eligible : Loaded Execution → Read Bool) (now : Time) :
    ∀ (n : ℕ) (excluded : List ℕ),
      (claimScan p eligible now n excluded).Follows (WorkSteps env op alone)
  | 0, _ => .pure _
  | n + 1, excluded => by
    refine .bind (.query _) fun first => ?_
    split
    · exact .pure _
    · refine .bind (.savepoint (expireUnboundDispatchForExecution _ now) fun _ => .pure _)
        fun expired => ?_
      split
      · exact claimScan p eligible now n _
      · refine .bind (.query _) fun fits => ?_
        split
        · exact .pure _
        · exact claimScan p eligible now n _

/-- A queued execution is claimed. -/
private theorem grantClaim {runnerId token poolKey : String} (hop : op.Grants runnerId token)
    (i : ℕ) (now : Time) :
    (moveExecution (W := claimCells) i [.queued] .claimed
      (claimColumns runnerId token poolKey now)).Follows (WorkSteps env op alone) := by
  intro s u s' h
  obtain ⟨hrow, hfalls⟩ := moveExecution_edited (P := fun e e' => e.status = .queued ∧
    e'.status = .claimed ∧ e'.claim = (runnerId, some token)) h
    (fun e he => ⟨List.mem_singleton.1 he, rfl, rfl⟩)
  exact .single (.claim i runnerId token hop hrow hfalls)

theorem scheduleExecutionClaim {runnerId token : String} (hop : op.Grants runnerId token)
    (runner : Runner) :
    (scheduleExecutionClaim env runnerId runner token).Follows (WorkSteps env op alone) := by
  unfold RunbookPlatform.scheduleExecutionClaim
  split
  · exact .pure _
  · refine .bind (.query _) fun _ => .bind (.query _) fun pool => ?_
    split
    · exact .pure _
    · refine .bind (.query _) fun _ => .bind (.query _) fun room => ?_
      split
      · refine .bind (.query _) fun now => .bind (.widen (claimScan _ _ now _ _)) fun found => ?_
        split
        · exact .pure _
        · exact .bind (.bind (grantClaim hop _ now) fun _ =>
            .bind (of_sameOn (insertUnique_follows Rel.leases _ _ (by decide))) fun _ => .pure _)
            fun _ => .pure _
      · exact .pure _

/-- A stale execution that a claim takes over is active, and not reserved for a change. -/
private theorem staleWaiting?_some {staleBefore : Time} {s : Db} {e : Loaded Execution}
    (h : staleWaiting? staleBefore s = some e) :
    s.executions.get? e.id = some e.row ∧ reclaimable staleBefore s e.id e.row = true := by
  unfold staleWaiting? at h
  have hlist : ∀ l ∈ (s.executions.keys (reclaimable staleBefore s)).filterMap fun i =>
      (s.executions.get? i).map fun e => (⟨i, e⟩ : Loaded Execution),
      s.executions.get? l.id = some l.row ∧ reclaimable staleBefore s l.id l.row = true := by
    intro l hl
    simp only [List.mem_filterMap, Option.map_eq_some_iff, Table.mem_keys] at hl
    obtain ⟨i, ⟨row, hrow, hp⟩, row', hrow', rfl⟩ := hl
    rw [hrow] at hrow'
    cases hrow'
    exact ⟨hrow, hp⟩
  refine hlist e ((mem_of_foldl_choice (fun best l => ?_) _ h).resolve_left nofun)
  cases best with
  | none => exact .inl rfl
  | some b =>
    dsimp only
    split_ifs
    · exact .inl rfl
    · exact .inr rfl

theorem claimUnregistered {runnerId token : String} (hop : op.Grants runnerId token) :
    (claimUnregistered env runnerId token).Follows (WorkSteps env op alone) := by
  refine .bind (.query _) fun now => .bind (.widen (claimScan _ _ now _ _)) fun queued => ?_
  split
  · exact .bind (grantClaim hop _ now) fun _ => .bind (.lift (frame _ (by decide))) fun _ => .pure _
  · intro s1
    refine Tx.FollowsFrom.query (s := s1) fun stale hstale => ?_
    split
    · rename_i e
      obtain ⟨he, hreclaimable⟩ := staleWaiting?_some (select_ok.1 hstale)
      simp only [reclaimable, Execution.isStuck, Bool.and_eq_true, Option.isNone_iff_eq_none]
        at hreclaimable
      refine .bind (.lift fun u s2 h => ?_) fun _ s2 _ _ =>
        Tx.Follows.from (.bind (.lift (frame _ (by decide))) fun _ => .pure _) s2
      have hsame : SameOn dispatchStateCells s1 s2 := Tx.sameOn h _ (by decide)
      obtain rfl := updateExecution_ok.1 h
      refine .single (.reclaim e.id runnerId token hop hreclaimable.2
        (.modify fun row hrow => .inr ⟨?_, rfl, rfl⟩) (.of_sameOn hsame))
      rw [he] at hrow
      cases hrow
      exact hreclaimable.1.1.1.1
    · exact (Tx.Follows.pure _).from s1

-- ════════════════════════════════════════════════════════════════════════
-- Steps of executions
-- ════════════════════════════════════════════════════════════════════════

/-- A step that starts also starts its execution, when that is claimed. -/
theorem updateExecutionStep {execution : ℕ} (step : ℕ) (call : RunnerCall) (update : StepUpdate)
    (allowRunning : Bool) (hready : alone → AtWork s execution) :
    (updateExecutionStep execution step call update allowRunning).FollowsFrom
      (WorkSteps env op alone) s := by
  intro u s' h
  simp only [RunbookPlatform.updateExecutionStep, Tx.bind_ok, Tx.lift_query_ok, Tx.run_lift] at h
  obtain ⟨e, _, ⟨-, rfl⟩, _, _, ⟨-, rfl⟩, found, _, ⟨-, rfl⟩, row, _, ⟨-, rfl⟩, _, _, ⟨-, rfl⟩, now,
    _, ⟨-, rfl⟩, _, s1, hstep, h⟩ := h
  have h1 : SameOn workCells s s1 := Tx.sameOn hstep _ (by decide)
  refine (quiet h1).trans ?_
  split_ifs at h
  · simp only [Tx.bind_ok, Tx.run_lift] at h
    obtain ⟨_, s2, hmove, hemit⟩ := h
    obtain ⟨hrow, hfalls⟩ := moveExecution_edited (P := fun e e' => e.status = .claimed ∧
      e'.status = .running ∧ e'.claim = e.claim) hmove
      (fun e he => ⟨List.mem_singleton.1 he, rfl, rfl⟩)
    exact (Relation.ReflTransGen.single (.start execution
      (fun hseq => (hready hseq).congr (h1.mono (by simp))) hrow hfalls)).trans
      (quiet (Tx.sameOn hemit _ (by decide)))
  · rw [Tx.run_lift] at h
    exact quiet (Tx.sameOn h _ (by decide))

/-- What is not about the work leaves executions ready. -/
private theorem ready_of_sameOn {execution : ℕ} {s1 : Db} (h : SameOn workCells s s1)
    (hready : alone → AtWork s execution) (hseq : alone) : AtWork s1 execution :=
  (hready hseq).congr (h.mono (by simp))

theorem applyEvaluation {execution : ℕ} (step : ℕ) (call : RunnerCall) (found : Evaluated)
    (hready : alone → AtWork s execution) :
    (applyEvaluation env execution step call found).FollowsFrom (WorkSteps env op alone) s := by
  have hrun : ∀ s1, SameOn workCells s s1 →
      (runStep execution step call).FollowsFrom (WorkSteps env op alone) s1 := fun s1 h1 =>
    .widen (updateExecutionStep step call _ true (ready_of_sameOn h1 hready))
  have hblock : ∀ s1 message kind, SameOn workCells s s1 →
      (blockStep execution step call message kind).FollowsFrom (WorkSteps env op alone) s1 :=
    fun s1 _ _ h1 => .widen (updateExecutionStep step call _ false (ready_of_sameOn h1 hready))
  have hgate : ∀ s1 decision, ((breakglassExecutionGate env execution).widen :
      Service startTxCells _).run s = .ok (decision, s1) → SameOn workCells s s1 := by
    intro s1 decision h
    rw [Tx.run_widen] at h
    exact Tx.sameOn h _ (by decide)
  unfold RunbookPlatform.applyEvaluation
  split
  · exact hblock s _ _ (.refl _ s)
  · split
    · exact hrun s (.refl _ s)
    · refine .bind ((Tx.Follows.widen (frame _ (by decide))).from s) fun decision s1 h1 _ => ?_
      have hsame := hgate s1 decision h1
      split
      · exact hrun s1 hsame
      · exact (Tx.Follows.pure _).from s1
      · exact Tx.Follows.from (.bind (.widen (frame _ (by decide))) fun _ => .pure _) s1
    · refine .bind ((Tx.Follows.widen (frame _ (by decide))).from s) fun decision s1 h1 _ => ?_
      have hsame := hgate s1 decision h1
      split
      · exact hrun s1 hsame
      · exact (Tx.Follows.pure _).from s1
      · exact hblock s1 _ _ hsame

theorem startStepTx {execution : Loaded Execution} (step : ℕ) (call : RunnerCall)
    (evaluated : Except Err Evaluated) (evaluatedAt : Time)
    (hready : alone → AtWork s execution.id) :
    (startStepTx env execution step call evaluated evaluatedAt).FollowsFrom
      (WorkSteps env op alone) s := by
  cases evaluated with
  | ok found =>
    refine .bind ((Tx.Follows.widen (frame _ (by decide))).from s) fun _ s1 h1 _ => ?_
    rw [Tx.run_widen] at h1
    exact applyEvaluation step call found (ready_of_sameOn (Tx.sameOn h1 _ (by decide)) hready)
  | error e => exact .widen (updateExecutionStep step call _ false hready)

theorem pollApprovalTx {execution : ℕ} (step : ℕ) (call : RunnerCall)
    (approval : Loaded ApprovalRequest) (hready : alone → AtWork s execution) :
    (pollApprovalTx env execution step call approval).FollowsFrom (WorkSteps env op alone) s := by
  refine .bind ((Tx.Follows.widen (frame _ (by decide))).from s) fun request s1 h1 _ => ?_
  rw [Tx.run_widen] at h1
  have hsame : SameOn workCells s s1 := Tx.sameOn h1 _ (by decide)
  split
  · exact (Tx.Follows.pure _).from s1
  · refine .bind ((Tx.Follows.widen (frame _ (by decide))).from s1) fun decision s2 h2 _ => ?_
    rw [Tx.run_widen] at h2
    have hsame2 : SameOn workCells s s2 := hsame.trans (Tx.sameOn h2 _ (by decide))
    split
    · exact (Tx.Follows.pure _).from s2
    · exact .widen (updateExecutionStep step call _ true (ready_of_sameOn hsame2 hready))
  · exact .widen (updateExecutionStep step call _ false (ready_of_sameOn hsame hready))
  · exact .widen (updateExecutionStep step call _ false (ready_of_sameOn hsame hready))

-- ════════════════════════════════════════════════════════════════════════
-- The end of an execution
-- ════════════════════════════════════════════════════════════════════════

/-- What the end of an execution does to its row. -/
abbrev Ends (e e' : Execution) : Prop :=
  e.status.isTerminal = false ∧ e'.status.isTerminal ∧ e'.claim = e.claim

/-- A cancellation ends a queued execution; alone, it must not strand a change. -/
theorem cancelExecution (execution : ℕ) (actor : AuditActor)
    (hstranded : alone → s.ExecutionIn .queued execution →
      ∀ c, ReservedFor s execution c → ¬s.ChangeIn .dispatchable c) :
    (cancelExecution execution actor).FollowsFrom (WorkSteps env op alone) s := by
  refine .query fun e he => ?_
  rw [lookup_ok] at he
  split
  · rename_i hqueued
    refine .bind (fun u s1 h => ?_) fun _ s1 _ _ => (Tx.Follows.lift (frame _ (by decide))).from s1
    obtain ⟨hrow, hfalls⟩ := moveExecution_edited (P := Ends) h (fun e he => by
      rw [List.mem_singleton] at he
      exact ⟨by rw [he]; rfl, rfl, rfl⟩)
    exact .single (.finish execution (fun hseq c hc hd =>
      hstranded hseq ⟨e, he, hqueued⟩ c hc (hfalls.dispatchable c hd)) hrow hfalls)
  · split
    · refine .query fun now _ => .bind (.lift fun u s1 h => ?_) fun _ s1 _ _ =>
        (Tx.Follows.lift (frame _ (by decide))).from s1
      have hsame : SameOn dispatchStateCells s s1 := Tx.sameOn h _ (by decide)
      obtain rfl := updateExecution_ok.1 h
      exact .single (.save execution (.modify fun _ _ => .inr ⟨rfl, rfl⟩) (.of_sameOn hsame))
    · exact (Tx.Follows.query _).from s

/-- The moves that end an active execution. -/
theorem moveExecution_ends {W : List Cell} {i : ℕ} {new : ExecutionStatus} {now : Time} {hW}
    {u : Unit} (hnew : new.isTerminal)
    (h : (moveExecution (W := W) i [.claimed, .running] new (finishExecution now) hW).run s =
      .ok (u, s')) : s.executions.Edited i Ends s'.executions ∧ Falls s s' := by
  refine moveExecution_edited h fun e he => ⟨?_, hnew, rfl⟩
  revert he
  cases e.status <;> simp [ExecutionStatus.isTerminal]

/-- The binding of an execution that passes the guard is bound, and its change is running. -/
theorem checkBindingReady_atWork {execution : Loaded Execution} {runnerId claimToken : String}
    {change : Option ℕ} (h : checkBindingReady execution runnerId claimToken s = .ok change) :
    AtWork s execution.id := by
  rintro c ⟨i, b, hb, rfl⟩
  simp only [checkBindingReady, Query.bind_ok, select_ok] at h
  obtain ⟨found, hfound, h⟩ := h
  rw [hb] at hfound
  subst hfound
  simp only [Query.bind_ok, lookup_ok, ensure_ok] at h
  obtain ⟨row, hrow, _, ⟨-, hrunning⟩, -⟩ := h
  exact ⟨row, hrow, hrunning⟩

theorem completeExecutionTx (execution : ℕ) (call : RunnerCall) (outcome : ExecutionStatus) :
    (completeExecutionTx env execution call outcome).Follows (WorkSteps env op alone) := by
  intro s
  refine Tx.FollowsFrom.query (s := s) fun e _ => .query fun _ _ => .query fun _ _ =>
    .query fun _ houtcome => .bind ((Tx.Follows.widen (frame _ (by decide))).from s) fun _ s1 h1 _ =>
    .query fun now _ => .bind (fun u s2 h2 => ?_) fun _ s2 _ _ => (Tx.Follows.lift (frame _ (by decide))).from s2
  rw [Tx.run_widen] at h1
  have hsame : SameOn workCells s s1 := Tx.sameOn h1 _ (by decide)
  replace h1 : (Tx.ofProg (assertExecutionChangeBindingReady env ⟨execution, e⟩ call.runnerId
    call.claimToken)).run s = .ok (_, s1) := h1
  rw [Tx.ofProg_ok, assertExecutionChangeBindingReady, Prog.exec_bind, Prog.exec_read] at h1
  have hready : AtWork s execution := by
    cases hcheck : checkBindingReady ⟨execution, e⟩ call.runnerId call.claimToken s with
    | error err => simp [hcheck] at h1
    | ok change => exact checkBindingReady_atWork hcheck
  have hready1 : AtWork s1 execution := hready.congr (hsame.mono (by simp))
  have hend : s1.executions.Edited execution Ends s2.executions ∧ Falls s1 s2 := by
    unfold endExecution at h2
    split at h2 <;> exact moveExecution_ends rfl h2
  exact .single (.finish execution (fun _ c hc hd =>
    hready1.not_dispatchable hc (hend.2.dispatchable c hd)) hend.1 hend.2)

/-- The hook after an execution: its change is not in dispatch any more, even if the hook
fails. -/
theorem handleBoundExecutionCompleted_exec (env : Env) (execution : ℕ)
    (status : ExecutionStatus) (s : Db) :
    ∃ r s', (handleBoundExecutionCompleted env execution status).exec s = (r, s') ∧
      s.executions = s'.executions ∧ Falls s s' ∧
      (∀ c, ReservedFor s execution c → ¬s'.ChangeIn .dispatchable c) ∧
      (∀ e, r = .error e → s = s') := by
  rw [handleBoundExecutionCompleted, Prog.exec_bind, Prog.exec_read]
  simp only [select]
  cases hfound : bindingOf? execution s with
  | none =>
    refine ⟨.ok (), s, rfl, rfl, .of_sameOn (.refl _ s), ?_, by simp⟩
    rintro c ⟨i, b, hb, -⟩
    rw [hfound] at hb
    cases hb
  | some found =>
    obtain ⟨i, b⟩ := found
    simp only [Prog.exec_atomic]
    have hreserved : ∀ c, ReservedFor s execution c → c = b.changeRecord := by
      rintro c ⟨j, b', hb, rfl⟩
      rw [hfound] at hb
      cases hb
      rfl
    have settles : ∀ {c}, s.ChangeIn .dispatchable c →
        ∃ s', (RunbookPlatform.settleBoundChange env c status).run s = .ok ((), s') ∧
          ¬s'.ChangeIn .dispatchable c := settleBoundChange_dispatchable env
    cases hsettle : (RunbookPlatform.settleBoundChange env b.changeRecord status).run s with
    | ok r =>
      obtain ⟨u, s'⟩ := r
      have hfalls := settleBoundChange_falls env _ _ _ _ _ hsettle
      refine ⟨.ok u, s', rfl, Tx.frame _ hsettle .executions (by decide), hfalls, ?_, by simp⟩
      intro c hc hd
      obtain rfl := hreserved c hc
      obtain ⟨s1, hrun, hnot⟩ := settles (hfalls.dispatchable _ hd)
      rw [hsettle] at hrun
      cases hrun
      exact hnot hd
    | error e =>
      refine ⟨.error e, s, rfl, rfl, .of_sameOn (.refl _ s), fun c hc hd => ?_, fun _ _ => rfl⟩
      obtain rfl := hreserved c hc
      obtain ⟨s1, hrun, -⟩ := settles hd
      rw [hsettle] at hrun
      cases hrun

theorem failExecutionForApprovalTimeout (execution step : ℕ) (now : Time) :
    (failExecutionForApprovalTimeout env execution step now).Follows
      (WorkSteps env op alone) := by
  intro s
  refine Tx.FollowsFrom.query (s := s) fun e _ => .query fun found _ => .query fun st _ => ?_
  split
  · exact (Tx.Follows.pure _).from s
  · intro r s' h
    simp only [Tx.bind_ok, Tx.run_lift, Tx.run_pure, Except.ok.injEq, Prod.mk.injEq] at h
    obtain ⟨_, s1, hstep, _, s2, hmove, _, s3, hemit1, _, s4, hemit2, _, s5, hemit3, _, s6, hhook, -,
      rfl⟩ := h
    have h01 : SameOn workCells s s1 := Tx.sameOn hstep _ (by decide)
    obtain ⟨hrow, hfalls⟩ := moveExecution_ends rfl hmove
    have h25 : SameOn workCells s2 s5 :=
      ((Tx.sameOn hemit1 _ (by decide)).trans (Tx.sameOn hemit2 _ (by decide))).trans (Tx.sameOn hemit3 _ (by decide))
    obtain ⟨r, t, hexec, hexecutions, hfalls', hsettled, herror⟩ :=
      handleBoundExecutionCompleted_exec env execution .failed s5
    have hst : t = s6 := by
      rcases Tx.savepoint_ok.1 hhook with hhook | ⟨e, hfailed, hpure⟩
      · rw [Tx.run_widen, Tx.ofProg_ok, hexec] at hhook
        cases hhook
        rfl
      · obtain ⟨-, rfl⟩ : () = () ∧ s5 = s6 := by simpa using hpure
        cases r with
        | error e => exact (herror e rfl).symm
        | ok u =>
          have hok := Tx.ofProg_ok.2 hexec
          rw [Tx.run_widen, hok] at hfailed
          cases hfailed
    subst hst
    have hfalls25 : Falls s2 s5 := .of_sameOn (h25.mono (by simp))
    have h16 : Falls s1 t := (hfalls.trans hfalls25).trans hfalls'
    have hexecutions2 : s2.executions = s5.executions := h25 .executions (by simp)
    refine (quiet h01).tail (.finish execution (fun _ c hc => hsettled c ?_) ?_ h16)
    · exact (hfalls.trans hfalls25).reservedFor.2 hc
    · rw [← hexecutions, ← hexecutions2]
      exact hrow

theorem recoverExpiredApproval (approval : ℕ) (now : Time) :
    (recoverExpiredApproval env approval now).Follows (WorkSteps env op alone) := by
  refine .bind (.query _) fun found => ?_
  split
  · exact .pure _
  · refine .bind (.lift (frame _ (by decide))) fun _ => .bind (.widen (frame _ (by decide))) fun created => ?_
    split
    · refine .bind (.lift (frame _ (by decide))) fun _ => ?_
      unfold timeOutSubject
      split
      · exact .widen (frame _ (by decide))
      · split
        · exact .bind (.widen (failExecutionForApprovalTimeout _ _ now)) fun _ => .pure _
        · exact .pure _
    · exact .pure _

end WorkSteps

end RunbookPlatform
