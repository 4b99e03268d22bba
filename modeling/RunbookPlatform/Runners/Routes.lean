import RunbookPlatform.Runners.Routing
import RunbookPlatform.Work.Bindings

/-!
# Claims respect the routing

Every request changes the routes of executions by claims only. A registered runner takes what
is for its pool and its organization; what a runner of the shared token takes is for no pool
any more.

## Main definitions

- `NoSharedToken` — no runner of the shared token claims

## Main results

- `Op.routes` — every commit of every request changes routes by claims only
- `claims_respect_routing` — the claims of registered runners respect the routing of a dispatch
-/

namespace RunbookPlatform

open Transactional

set_option synthInstance.maxSize 1000

-- ════════════════════════════════════════════════════════════════════════
-- Claims
-- ════════════════════════════════════════════════════════════════════════

variable {env : Env} {s s' : Db}

/-- What the scan has checked of the candidate it found. -/
theorem claimScan_found {p : Execution → Bool} {eligible : Loaded Execution → Read Bool}
    {now : Time} {n : ℕ} {excluded : List ℕ} {e : Loaded Execution}
    (h : (claimScan p eligible now n excluded).run s = .ok (some e, s')) :
    p e.row = true ∧ (∀ old, s.executions.get? e.id = some old → e.row.route = old.route) ∧
      ∃ s1, SameOn [.bindings, .reference] s s1 ∧ eligible e s1 = .ok true := by
  induction n generalizing s excluded with
  | zero => simp [claimScan] at h
  | succ n ih =>
    simp only [claimScan, Tx.bind_ok, Tx.lift_query_ok, select_ok] at h
    obtain ⟨first, _, ⟨hfirst, rfl⟩, h⟩ := h
    have hlater : ∀ {s1 excluded'}, KeepsRoutes s s1 → SameOn [.bindings, .reference] s s1 →
        (claimScan p eligible now n excluded').run s1 = .ok (some e, s') →
        p e.row = true ∧ (∀ old, s.executions.get? e.id = some old → e.row.route = old.route) ∧
          ∃ s2, SameOn [.bindings, .reference] s s2 ∧ eligible e s2 = .ok true := by
      intro s1 excluded' hkeeps hsame hrest
      obtain ⟨hp, hroute, s2, hsame2, hfits⟩ := ih hrest
      refine ⟨hp, fun old hold => ?_, s2, hsame.trans hsame2, hfits⟩
      obtain ⟨mid, hmid, hkept⟩ := hkeeps _ old hold
      exact (hroute mid hmid).trans hkept
    rcases first with - | ⟨i, row⟩
    · simp at h
    simp only [Tx.bind_ok] at h
    obtain ⟨expired, s1, hexpiry, h⟩ := h
    have hkeeps : KeepsRoutes s s1 := Tx.Follows.savepoint
      (KeepsRoutes.expireUnboundDispatchForExecution i now) (fun _ => .pure _) _ _ _ hexpiry
    have hsame : SameOn [.bindings, .reference] s s1 := Tx.sameOn hexpiry _ (by decide)
    split_ifs at h
    · exact hlater hkeeps hsame h
    · simp only [Tx.bind_ok, Tx.lift_query_ok] at h
      obtain ⟨fits, _, ⟨hfits, rfl⟩, h⟩ := h
      split_ifs at h with hfit
      · obtain ⟨rfl, rfl⟩ : (⟨i, row⟩ : Loaded Execution) = e ∧ s1 = s' := by simpa using h
        obtain ⟨hrow, htest⟩ := Table.find?_some hfirst
        simp only [Bool.and_eq_true] at htest
        refine ⟨htest.1.2, fun old hold => ?_, s1, hsame, hfit ▸ hfits⟩
        rw [hrow] at hold
        cases hold
        rfl
      · exact hlater hkeeps hsame h

/-- A claim changes the route of the execution it takes, and of no other. -/
theorem Routes.of_claimed {n : TxName} {s1 : Db} {i : ℕ} {key : String} {f : Execution → Execution}
    (hkeeps : KeepsRoutes s s1) (hmove : s'.executions = s1.executions.modify i f)
    (hf : ∀ e, f e = e ∨ (f e).organization = e.organization ∧ (f e).runnerPoolKey = key)
    (hchange : ∀ e e', s.executions.get? i = some e → e'.organization = e.organization →
      e'.runnerPoolKey = key → RouteChange n s i e e') : Routes n s s' := by
  intro j e he
  obtain ⟨mid, hmid, hroute⟩ := hkeeps j e he
  by_cases hj : j = i
  · subst hj
    refine ⟨f mid, by rw [hmove, Table.get?_modify_self, hmid, Option.map_some], ?_⟩
    obtain hsame | ⟨horganization, hkey⟩ := hf mid
    · exact .kept ((congrArg Execution.route hsame).trans hroute)
    · exact hchange e (f mid) he (horganization.trans (congrArg Prod.fst hroute)) hkey
  · exact ⟨mid, by rw [hmove, Table.get?_modify_of_ne hj, hmid], .kept hroute⟩

/-- The columns of a claim, saved in a queued execution. -/
theorem claimColumns_route {sources : List ExecutionStatus} {new : ExecutionStatus}
    (runnerId token key : String) (now : Time) (e : Execution) :
    let later := if e.status ∈ sources then
      { claimColumns runnerId token key now e with status := new } else e
    later = e ∨ later.organization = e.organization ∧ later.runnerPoolKey = key := by
  dsimp only
  split_ifs
  · exact .inr ⟨rfl, rfl⟩
  · exact .inl rfl

/-- A candidate that fits a pool is for that pool, if it is for any. -/
theorem candidateFits_routed {pool : RunnerPool} {e : Loaded Execution}
    (h : candidateFits pool e s = .ok true) (hbound : (bindingOf? e.id s).isSome)
    (hkey : e.row.runnerPoolKey ≠ "") : e.row.runnerPoolKey = pool.key := by
  simp only [candidateFits, Query.bind_ok, select_ok] at h
  obtain ⟨routed, hrouted, h⟩ := h
  cases routed with
  | false => simp at h
  | true =>
    rw [executionEligibleForPool, if_pos hbound, Bool.or_eq_true, decide_eq_true_eq,
      decide_eq_true_eq] at hrouted
    exact hrouted.resolve_left hkey

/-- `schedule_execution_claim`: a runner takes what is for its pool and its organization. -/
theorem scheduleExecutionClaim_routes {runnerId token : String} {runner : Runner}
    {result : ClaimResult}
    (h : (scheduleExecutionClaim env runnerId runner token).run s = .ok (result, s')) :
    Routes (.claim (some runner)) s s' := by
  have hrefl : KeepsRoutes s s := refl_of KeepsRoutes s
  unfold scheduleExecutionClaim at h
  split_ifs at h with hdraining
  · simp only [Tx.run_pure, Except.ok.injEq, Prod.mk.injEq] at h
    exact h.2 ▸ hrefl.routes
  simp only [Tx.bind_ok, Tx.lift_query_ok, lookup_ok] at h
  obtain ⟨_, _, ⟨-, rfl⟩, pool, _, ⟨hpool, rfl⟩, h⟩ := h
  split_ifs at h with hpoolDraining
  · simp only [Tx.run_pure, Except.ok.injEq, Prod.mk.injEq] at h
    exact h.2 ▸ hrefl.routes
  simp only [Tx.bind_ok, Tx.lift_query_ok] at h
  obtain ⟨_, _, ⟨-, rfl⟩, room, _, ⟨-, rfl⟩, h⟩ := h
  split_ifs at h with hroom
  · simp only [Tx.bind_ok, Tx.lift_query_ok, Tx.run_widen] at h
    obtain ⟨now, _, ⟨-, rfl⟩, found, s1, hscan, h⟩ := h
    have hkeeps : KeepsRoutes s s1 := KeepsRoutes.claimScan _ _ _ _ _ _ _ _ hscan
    rcases found with - | e
    · simp only [Tx.run_pure, Except.ok.injEq, Prod.mk.injEq] at h
      exact h.2 ▸ hkeeps.routes
    obtain ⟨horganization, hroute, s2, hsame, hfits⟩ := claimScan_found hscan
    simp only [grantLease, Tx.bind_ok, moveExecution_ok, Tx.run_pure, Except.ok.injEq,
      Prod.mk.injEq] at h
    obtain ⟨_, s3, ⟨_, s4, hmove, _, s5, hlease, -, rfl⟩, -, rfl⟩ := h
    have hlast : s4.executions = s5.executions :=
      insertUnique_follows (C := [.executions]) Rel.leases _ _ (by decide) _ _ _ hlease .executions
        (by simp)
    refine .of_claimed hkeeps (by rw [← hlast, hmove])
      (claimColumns_route runnerId token pool.key now) fun old new hold horg hkey => ?_
    have hold' := hroute old hold
    refine .registered runner pool rfl hpool ?_ horg hkey fun key hkeyed => ?_
    · have hsameOrg : e.row.organization = old.organization := congrArg Prod.fst hold'
      exact hsameOrg ▸ of_decide_eq_true horganization
    · obtain ⟨hbound, hne, row, hrow, rfl⟩ := hkeyed
      rw [hold] at hrow
      cases hrow
      have hbindings : s.bindings = s2.bindings := hsame .bindings (by simp)
      have hpoolKey : e.row.runnerPoolKey = old.runnerPoolKey := congrArg (·.2.1) hold'
      rw [← hpoolKey] at hne ⊢
      exact candidateFits_routed hfits (by rwa [bindingOf?, ← hbindings]) hne
  · simp only [Tx.run_pure, Except.ok.injEq, Prod.mk.injEq] at h
    exact h.2 ▸ hrefl.routes

/-- The claim of a runner of the shared token clears the pool of what it takes. -/
theorem claimUnregistered_routes {runnerId token : String} {result : ClaimResult}
    (h : (claimUnregistered env runnerId token).run s = .ok (result, s')) :
    Routes (.claim none) s s' := by
  simp only [claimUnregistered, Tx.bind_ok, Tx.lift_query_ok, Tx.run_widen] at h
  obtain ⟨now, _, ⟨-, rfl⟩, queued, s1, hscan, h⟩ := h
  have hkeeps : KeepsRoutes s s1 := KeepsRoutes.claimScan _ _ _ _ _ _ _ _ hscan
  have hshared : ∀ i e e', s.executions.get? i = some e → e'.organization = e.organization →
      e'.runnerPoolKey = "" → RouteChange (.claim none) s i e e' :=
    fun _ _ _ _ horg hkey => .shared rfl horg hkey
  rcases queued with - | e
  · simp only [Tx.bind_ok, Tx.lift_query_ok] at h
    obtain ⟨stale, _, ⟨-, rfl⟩, h⟩ := h
    rcases stale with - | e
    · simp only [Tx.run_pure, Except.ok.injEq, Prod.mk.injEq] at h
      exact h.2 ▸ hkeeps.routes
    · simp only [Tx.bind_ok, Tx.run_lift, Tx.run_pure, Except.ok.injEq, Prod.mk.injEq] at h
      obtain ⟨_, s2, hsave, _, s3, hemit, -, rfl⟩ := h
      have hlast : s2.executions = s3.executions := Tx.frame _ hemit .executions (by decide)
      obtain rfl := updateExecution_ok.1 hsave
      exact .of_claimed (f := claimColumns runnerId token "" now) hkeeps hlast.symm
        (fun _ => .inr ⟨rfl, rfl⟩) (hshared _)
  · simp only [Tx.bind_ok, Tx.run_lift, moveExecution_ok, Tx.run_pure, Except.ok.injEq,
      Prod.mk.injEq] at h
    obtain ⟨_, s2, hmove, _, s3, hemit, -, rfl⟩ := h
    have hlast : s2.executions = s3.executions := Tx.frame _ hemit .executions (by decide)
    exact .of_claimed hkeeps (by rw [← hlast, hmove]) (claimColumns_route runnerId token "" now)
      (hshared _)

-- ════════════════════════════════════════════════════════════════════════
-- Requests
-- ════════════════════════════════════════════════════════════════════════

namespace Routes

variable {H W : List Cell} {α : Type}

theorem refl {n : TxName} (s : Db) : Routes n s s := (refl_of KeepsRoutes s).routes

/-- **Frame rule** for handlers. -/
theorem frame (p : Handler W α) (s : Db) (hdisj : ∀ c ∈ [Cell.executions], c ∉ W) :
    p.Follows H Routes s :=
  .frame hdisj (fun _ _ _ h => (KeepsRoutes.of_sameOn h).routes) p s

/-- An atomic block that keeps the routes. -/
theorem atomic {V W : List Cell} [Within V W] {n : TxName} {t : Service V α}
    (h : t.Follows KeepsRoutes) : (Prog.atomic n t : Handler W α).Follows H Routes s :=
  .atomic fun s1 _ a s' hrun => (h s1 a s' hrun).routes

theorem claimNextExecution (runnerId : String) (runner : Option Runner) (token : String) :
    (claimNextExecution env runnerId runner token).Follows H Routes s := by
  unfold RunbookPlatform.claimNextExecution
  split
  · refine .bind (.atomic fun _ _ _ _ h => scheduleExecutionClaim_routes h) fun result s1 => ?_
    split
    · exact .read refl fun s2 e _ _ => .bind (atomic (KeepsRoutes.frame _ (by decide))) fun _ _ => .pure _
    · exact .pure _
  · exact .atomic fun _ _ _ _ h => claimUnregistered_routes h

theorem claimNext (runnerId : String) (registered : Bool) (token : String) (nonce : ℕ → String) :
    (claimNext env runnerId registered token nonce).Follows H Routes s := by
  have hpromote : ∀ s, (promoteDueScheduledChanges env nonce).Follows H Routes s :=
    fun s => .read refl fun s1 now _ _ => .read refl fun s2 due _ _ =>
      .forEach (fun c s3 => .tryCatch (atomic (KeepsRoutes.reserves.promoteScheduledChange c.id now _))
        fun _ _ => .pure _) due s2
  refine .bind (.tryCatch (.widen (hpromote s)) fun _ _ => .pure _) fun _ s1 =>
    .read refl fun s2 runner _ _ => .bind (.widen (claimNextExecution runnerId runner token))
      fun result s3 => ?_
  split
  · exact .widen (frame _ _ (by decide))
  · exact .pure _

theorem heartbeatExecution (execution : ℕ) (call : RunnerCall) :
    (heartbeatExecution execution call).Follows H Routes s :=
  .read refl fun s1 e _ _ => .bind (.query _ refl) fun _ s2 =>
    .bind (.widen (frame (enforceEmergencyExpiryForExecution execution) s2 (by decide))) fun _ s3 =>
    .read refl fun s4 now _ _ => atomic (KeepsRoutes.updateExecution fun _ => rfl)

theorem startStep (execution step : ℕ) (call : RunnerCall) :
    (startStep env execution step call).Follows H Routes s := by
  refine .bind (.widen (frame _ _ (by decide))) fun e s1 => .read refl fun s2 st _ _ =>
    .read refl fun s3 waiting _ _ => ?_
  split
  · exact .bind (.widen (frame (getApprovalStatus env _) s3 (by decide))) fun _ _ => .pure _
  · exact .read refl fun s4 now _ _ => .read refl fun s5 evaluated _ _ =>
      atomic (KeepsRoutes.startStepTx _ step call _ now)

theorem pollApproval (execution step : ℕ) (call : RunnerCall) :
    (pollApproval env execution step call).Follows H Routes s := by
  refine .bind (.widen (frame _ _ (by decide))) fun e s1 => .read refl fun s2 _ _ _ =>
    .read refl fun s3 st _ _ => ?_
  split
  · exact .pure _
  · exact .pure _
  · exact .read refl fun s4 found _ _ => .read refl fun s5 (id, request) _ _ =>
      atomic (KeepsRoutes.pollApprovalTx execution step call _)
  · exact .fail _

theorem completeByRunner (execution : ℕ) (call : RunnerCall) (outcome : ExecutionStatus) :
    (completeByRunner env execution call outcome).Follows H Routes s := by
  refine .bind (.widen (frame (loadReadyExecution env execution call) s (by decide))) fun e s1 => .widen <|
    .bind (atomic (KeepsRoutes.completeExecutionTx execution call outcome)) fun _ s2 =>
    .bind (atomic (KeepsRoutes.frame _ (by decide))) fun _ s3 =>
    .tryCatch (.widen (frame (handleBoundExecutionCompleted env execution outcome) s3 (by decide))) fun _ s4 =>
    .read refl fun s5 bound _ _ => ?_
  split
  · exact .fail _
  · exact .pure _

theorem recoverStuckExecutions (threshold : ℕ) :
    (recoverStuckExecutions env threshold).Follows H Routes s := by
  refine .read refl fun s1 now _ _ => .read refl fun s2 candidates _ _ => .forEach (fun e s3 =>
    .bind (atomic (KeepsRoutes.recoverStuckExecution _ _)) fun recovered s4 => ?_) candidates s2
  split
  · exact .bind (atomic (KeepsRoutes.frame _ (by decide))) fun _ s5 =>
      .tryCatch (.widen (frame (handleBoundExecutionCompleted env e.id .failed) s5 (by decide))) fun _ _ =>
        .pure _
  · exact .pure _

end Routes

/-- **Every request** changes routes by claims only. -/
theorem Op.routes (op : Op) (s : Db) : (op.prog env).Follows historyCells Routes s := by
  have hserve : ∀ {W : List Cell} {α : Type} {t : Service W α} {n : TxName},
      t.Follows KeepsRoutes → (serve t n).Follows historyCells Routes s :=
    fun h => .bind (Routes.atomic h) fun _ _ => .pure _
  cases op with
  | submitChange c actor nonce => exact hserve (KeepsRoutes.reserves.submitChangeRecord c actor nonce)
  | dispatch c actor nonce => exact hserve (KeepsRoutes.reserves.makeDispatchable c actor nonce)
  | createExecution workflow mode actor =>
    exact .read Routes.refl fun _ row _ _ => .bind (.read Routes.refl fun _ _ _ _ =>
      Routes.atomic (KeepsRoutes.insertExecutionRows _ _ _ _)) fun _ _ => .pure _
  | cancelExecution execution actor => exact hserve (KeepsRoutes.cancelExecution execution actor)
  | claimNext runnerId registered token nonce =>
    exact Routes.claimNext runnerId registered token nonce
  | heartbeat execution call => exact Routes.heartbeatExecution execution call
  | startStep execution step call => exact Routes.startStep execution step call
  | pollApproval execution step call => exact Routes.pollApproval execution step call
  | updateStep execution step call update =>
    exact .bind (.widen (Routes.frame (loadReadyExecution env execution call) s (by decide))) fun _ _ =>
      Routes.atomic (KeepsRoutes.updateExecutionStep execution step call update false)
  | completeExecution execution call outcome =>
    exact Routes.completeByRunner execution call outcome
  | decideApproval a decision notes actor nonce =>
    refine .bind (Routes.atomic (KeepsRoutes.reserves.decideApprovalTx a decision notes actor nonce))
      fun severe s1 => ?_
    split
    · exact .query _ Routes.refl
    · exact .pure _
  | recoverStuckExecutions threshold => exact Routes.recoverStuckExecutions threshold
  | recoverExpiredApprovals batchSize =>
    exact .read Routes.refl fun _ now _ _ => .read Routes.refl fun s1 overdue _ _ =>
      .forEach (fun a _ => Routes.atomic (KeepsRoutes.recoverExpiredApproval a.id now)) overdue s1
  | _ =>
    exact Op.follows_of_frame (C := [.executions])
      (fun _ _ _ h => (KeepsRoutes.of_sameOn h).routes) _ (by dsimp only [Op.cells]; decide) s

-- ════════════════════════════════════════════════════════════════════════
-- Runs
-- ════════════════════════════════════════════════════════════════════════

/-- No runner of the shared token claims. -/
def NoSharedToken : ServedAdmission := fun _ n _ => n ≠ .claim none

/-- A commit other than a claim with the shared token keeps the pool of a dispatch. -/
theorem Routes.routedTo {n : TxName} {i : ℕ} {key : String} (h : Routes n s s')
    (hbindings : BindingsKept s s') (hn : n ≠ .claim none) (hrouted : s.RoutedTo i key) :
    s'.RoutedTo i key := by
  obtain ⟨hbound, hne, e, he, rfl⟩ := id hrouted
  obtain ⟨e', he', hchange⟩ := h i e he
  refine ⟨?_, hne, e', he', ?_⟩
  · obtain ⟨⟨j, b⟩, hb⟩ := Option.isSome_iff_exists.1 hbound
    obtain ⟨hrow, hexecution⟩ := Table.find?_some hb
    obtain ⟨b', hb', -, hsame, -⟩ := hbindings j b hrow
    by_contra hnone
    rw [Option.not_isSome_iff_eq_none, bindingOf?, Table.find?_none] at hnone
    have hfalse := hnone j b' hb'
    rw [hsame] at hfalse
    exact absurd hexecution (by simpa using hfalse)
  · cases hchange with
    | kept hroute => exact congrArg (·.2.1) hroute
    | registered runner pool _ _ _ _ hkey hpool => exact hkey.trans (hpool _ hrouted).symm
    | shared hshared => exact absurd hshared hn

/-- **Claims respect the routing** in every interleaving. A commit changes the routes of
executions by claims only: a registered runner takes what is for its pool and its
organization, and a runner of the shared token clears the pool of what it takes. So the pool
of a dispatch is kept while no such runner claims. -/
theorem claims_respect_routing {A : ServedAdmission} {c : ServedConf} (h : Serving env A c) :
    (∀ c', ServedStep env A c c' → c'.db = c.db ∨ ∃ op n, A op n c.db ∧ Routes n c.db c'.db) ∧
      ∀ i key, c.db.RoutedTo i key →
        ∀ c', Relation.ReflTransGen (ServedStep env NoSharedToken) c c' → c'.db.RoutedTo i key := by
  refine ⟨fun c' hs => ?_, fun i key hrouted c' hrun => ?_⟩
  · refine (h.cases (R := fun _ => Routes) Op.routes hs).imp_right ?_
    rintro ⟨op, n, hroutes, hadmitted⟩
    exact ⟨op, n, hadmitted, hroutes⟩
  · refine h.stays (R := fun op n s s' => WorkMove env False op n s s' ∧ Routes n s s')
      (I := fun s => s.RoutedTo i key) (fun op s => (op.interleavedWorkMoves s).and (op.routes s))
      ?_ hrun hrouted
    rintro op n s s' ⟨hwork, hroutes⟩ hn
    exact hroutes.routedTo (hwork nofun).bindingsKept hn

/-- A change has been dispatched for the pool of its target. -/
def routedRun : Db :=
  runOps .sample [.createChange .sample .sample, .submitChange 0 .sample "nonce"]
    (.initial (.sample .sample) 0)

/-- The transaction is no claim with the shared token. -/
def TxName.isPooled : TxName → Bool
  | .claim none => false
  | _ => true

/-- A claim of the runner `runnerId`. -/
def claimBy (runnerId : String) (registered : Bool) : Op :=
  .claimNext runnerId registered "token" fun _ => "nonce"

/-- The dispatch is for the pool, its runner claims with a record, and a runner of the shared
token leaves no pool. -/
theorem routedRun_checked : ((bindingOf? 0 routedRun).isSome &&
    (routedRun.executions.get? 0).any (·.runnerPoolKey = "pool") &&
    (((claimBy "runner" true).prog .sample).commits routedRun).all (·.name.isPooled) &&
    ((((claimBy "legacy" false).prog .sample).exec routedRun).2.executions.get? 0).all
      (·.runnerPoolKey = "")) = true := by
  decide +kernel

theorem routedRun_routed : routedRun.RoutedTo 0 "pool" := by
  have hchecked := routedRun_checked
  simp only [Bool.and_eq_true] at hchecked
  obtain ⟨⟨⟨hbound, hkey⟩, -⟩, -⟩ := hchecked
  obtain ⟨e, he, hkey⟩ := (Option.any_eq_true _ _).1 hkey
  exact ⟨hbound, by decide, e, he, of_decide_eq_true hkey⟩

/-- The runner of the pool claims the dispatch, which is still for its pool then. -/
theorem claims_respect_routing_claimed :
    (((claimBy "runner" true).prog .sample).exec routedRun).2.RoutedTo 0 "pool" := by
  have hserving : Serving .sample anyServed ⟨routedRun, []⟩ := (Serving.initial _ 0).runOps _
  have hrouted := routedRun_routed
  have hchecked := routedRun_checked
  simp only [Bool.and_eq_true] at hchecked
  generalize routedRun = s at *
  have hadmitted : ∀ n s, TxName.isPooled n = true → NoSharedToken (claimBy "runner" true) n s := by
    rintro n s hn rfl
    cases hn
  have hrun : Relation.ReflTransGen (ServedStep .sample NoSharedToken) ⟨s, []⟩
      ⟨(((claimBy "runner" true).prog .sample).exec s).2, []⟩ :=
    ServedStep.exec _ (meets_of_names hadmitted hchecked.1.2)
  generalize (((claimBy "runner" true).prog .sample).exec s).2 = s' at hrun ⊢
  exact (claims_respect_routing hserving).2 0 "pool" hrouted _ hrun

/-- A runner of the shared token takes a dispatch that is for a pool, and clears the pool. -/
theorem shared_token_ignores_routing :
    ¬∀ (env : Env) (s : Db) (op : Op), Reachable env anyAdmission s → ∀ i key, s.RoutedTo i key →
      ((op.prog env).exec s).2.RoutedTo i key := by
  intro h
  obtain ⟨-, hne, e, he, hkey⟩ := h .sample routedRun (claimBy "legacy" false)
    (Reachable.sample _ _) 0 "pool" routedRun_routed
  have hcleared := routedRun_checked
  rw [Bool.and_eq_true, he, Option.all_some, decide_eq_true_eq, hkey] at hcleared
  exact hne hcleared.2

end RunbookPlatform
