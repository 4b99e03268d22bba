import RunbookPlatform.Locks.Runs

/-!
# What happens to executions and their bindings

Every transaction of the platform, seen from the executions: who holds them, for which
change they are reserved, and whether that change is in dispatch or running. A transaction is
a sequence of the steps of `WorkStep`. They are indexed by the request that makes them, and by
whether it runs alone: only then does what it read before its transaction still hold in it.

## Main definitions

- `Execution.claim`, `AtWork` — who holds an execution, and when it may start
- `BindRequest.Accepted` — the request binds the execution it names
- `WorkStep`, `WorkSteps` — the steps

## Main results

- `WorkSteps.makeDispatchable`, `WorkSteps.bindExecutionTx` — the life of a binding
- `WorkSteps.claimScan`, `WorkSteps.failExecutionForApprovalTimeout` — executions that end
  together with the dispatch of their change
-/

namespace RunbookPlatform

open Transactional

set_option synthInstance.maxSize 1000

/-- The runner that holds the execution, and its token. -/
def Execution.claim (e : Execution) : String × Option String :=
  (e.claimedByRunnerId, e.claimToken)

/-- If the execution is reserved for a change, the change is running. -/
def AtWork (s : Db) (i : ℕ) : Prop := ∀ c, ReservedFor s i c → s.ChangeIn .running c

/-- The request grants the execution it claims to a runner, with a token. -/
def Op.Grants : Op → String → String → Prop
  | .claimNext runnerId _ token _, r, t => runnerId = r ∧ token = t
  | _, _, _ => False

/-- The request comes from the owner of the claim of the execution, and carries the live token
of the dispatch that `b` stands for. -/
structure BindRequest.Accepted (env : Env) (req : BindRequest) (s : Db)
    (b : ChangeExecutionBinding) (e : Execution) : Prop where
  change : b.changeRecord = req.change
  execution : b.execution = req.execution
  row : s.executions.get? req.execution = some e
  owner : e.claimedByRunnerId = req.runnerId
  token : claimTokenText e = req.claimToken
  alive : s.now < b.dispatchTokenExpiresAt
  verified : verifyDispatchToken env b req.dispatchToken s = .ok true

/-- Bindings stay, and no change goes to dispatch or starts to run. -/
structure Falls (s s' : Db) : Prop where
  bindings : s.bindings = s'.bindings
  dispatchable : ∀ c, s'.ChangeIn .dispatchable c → s.ChangeIn .dispatchable c
  running : ∀ c, s'.ChangeIn .running c → s.ChangeIn .running c

/-- The cells of changes that the work depends on. -/
@[reducible] def dispatchStateCells : List Cell :=
  [.bindings, .changeStatus .dispatchable, .changeStatus .running]

/-- The cells that the work is about. -/
@[reducible] def workCells : List Cell := .executions :: dispatchStateCells

namespace Falls

theorem of_sameOn {s s' : Db} (h : SameOn dispatchStateCells s s') : Falls s s' :=
  ⟨h .bindings (by simp), fun c => (h (.changeStatus .dispatchable) (by simp) c).2,
    fun c => (h (.changeStatus .running) (by simp) c).2⟩

theorem trans {s t u : Db} (h1 : Falls s t) (h2 : Falls t u) : Falls s u :=
  ⟨h1.bindings.trans h2.bindings, fun c h => h1.dispatchable c (h2.dispatchable c h),
    fun c h => h1.running c (h2.running c h)⟩

/-- A change that moves anywhere else leaves dispatch and work. -/
theorem of_moved {s s' : Db} {c : ℕ} {new : ChangeStatus} (h : Moved c new s s')
    (hnew : new ≠ .dispatchable ∧ new ≠ .running) (hbindings : s.bindings = s'.bindings) :
    Falls s s' := by
  refine ⟨hbindings, fun i hi => ?_, fun i hi => ?_⟩
  · rcases h.iff.1 hi with ⟨-, rfl⟩ | ⟨-, hi⟩
    · exact absurd rfl hnew.1
    · exact hi
  · rcases h.iff.1 hi with ⟨-, rfl⟩ | ⟨-, hi⟩
    · exact absurd rfl hnew.2
    · exact hi

/-- What execution is reserved for which change is a matter of the bindings. -/
theorem reservedFor {s s' : Db} (h : Falls s s') {i c : ℕ} :
    ReservedFor s' i c ↔ ReservedFor s i c := by
  simp only [ReservedFor, bindingOf?, h.bindings]

end Falls

theorem AtWork.congr {s s' : Db} (h : SameOn [.bindings, .changeStatus .running] s s') {i : ℕ}
    (hi : AtWork s i) : AtWork s' i := by
  have hbindings : s.bindings = s'.bindings := h .bindings (by simp)
  rintro c ⟨j, b, hb, hc⟩
  refine (h (.changeStatus .running) (by simp) c).1 (hi c ⟨j, b, ?_, hc⟩)
  rw [bindingOf?, hbindings]
  exact hb

/-- A change that runs is not in dispatch any more. -/
theorem AtWork.not_dispatchable {s : Db} {i c : ℕ} (h : AtWork s i) (hc : ReservedFor s i c) :
    ¬s.ChangeIn .dispatchable c := fun hd => by
  have hst := (h c hc).unique hd
  cases hst

-- ════════════════════════════════════════════════════════════════════════
-- The steps
-- ════════════════════════════════════════════════════════════════════════

/-- One step in the life of executions and bindings, made by the request `op`. -/
inductive WorkStep (env : Env) (op : Op) (alone : Prop) (s s' : Db) : Prop where
  | quiet (hexecutions : s.executions = s'.executions) (hfalls : Falls s s')
  | create (e : Execution) (hqueued : e.status = .queued) (hfree : e.claimedByRunnerId = "")
      (hexecutions : s'.executions = s.executions.insert e) (hfalls : Falls s s')
  /-- Other columns of an execution are saved. -/
  | save (i : ℕ)
      (hrow : s.executions.Edited i (fun e e' => e'.status = e.status ∧ e'.claim = e.claim)
        s'.executions) (hfalls : Falls s s')
  | start (i : ℕ) (hready : alone → AtWork s i)
      (hrow : s.executions.Edited i (fun e e' => e.status = .claimed ∧ e'.status = .running ∧
        e'.claim = e.claim) s'.executions) (hfalls : Falls s s')
  | claim (i : ℕ) (r t : String) (hop : op.Grants r t)
      (hrow : s.executions.Edited i (fun e e' => e.status = .queued ∧ e'.status = .claimed ∧
        e'.claim = (r, some t)) s'.executions) (hfalls : Falls s s')
  /-- A stale execution that no change has reserved gets a new owner. -/
  | reclaim (i : ℕ) (r t : String) (hop : op.Grants r t) (hfree : bindingOf? i s = none)
      (hrow : s.executions.Edited i (fun e e' => e.status.isActive ∧ e'.status = e.status ∧
        e'.claim = (r, some t)) s'.executions) (hfalls : Falls s s')
  /-- An execution is over. Alone, that settles a change in dispatch. -/
  | finish (i : ℕ) (hsettled : alone → ∀ c, ReservedFor s i c → ¬s'.ChangeIn .dispatchable c)
      (hrow : s.executions.Edited i (fun e e' => e.status.isTerminal = false ∧
        e'.status.isTerminal ∧ e'.claim = e.claim) s'.executions) (hfalls : Falls s s')
  | reserve (b : ChangeExecutionBinding) (hqueued : s.ExecutionIn .queued b.execution)
      (hunbound : b.boundAt = none)
      (hfresh : ∀ j b', s.bindings.get? j = some b' →
        b'.changeRecord ≠ b.changeRecord ∧ b'.execution ≠ b.execution)
      (hbindings : s'.bindings = s.bindings.insert b)
      (hmoved : Moved b.changeRecord .dispatchable s s') (hexecutions : s.executions = s'.executions)
  | bind (req : BindRequest) (id : ℕ) (b : ChangeExecutionBinding) (e : Execution)
      (hop : op = .bindExecution req) (haccepted : req.Accepted env s b e)
      (hunbound : b.boundAt = none) (hdispatchable : s.ChangeIn .dispatchable b.changeRecord)
      (hbindings : s.bindings.Replaced id b
        { b with boundAt := some s.now, boundByRunnerId := req.runnerId } s'.bindings)
      (hmoved : Moved b.changeRecord .running s s') (hexecutions : s.executions = s'.executions)
  /-- A runner reports about a bound execution. -/
  | callback (id : ℕ) (b b' : ChangeExecutionBinding)
      (hbindings : s.bindings.Replaced id b b' s'.bindings)
      (hkept : b'.changeRecord = b.changeRecord ∧ b'.execution = b.execution ∧
        b'.boundAt = b.boundAt ∧ b'.boundByRunnerId = b.boundByRunnerId)
      (hsame : SameOn [.executions, .changeStatus .dispatchable, .changeStatus .running] s s')

/-- A sequence of steps. -/
def WorkSteps (env : Env) (op : Op) (alone : Prop) : Db → Db → Prop :=
  Relation.ReflTransGen (WorkStep env op alone)

instance (env : Env) (op : Op) (alone : Prop) : IsPreorder Db (WorkSteps env op alone) where
  refl _ := .refl
  trans _ _ _ := .trans

namespace WorkSteps

variable {env : Env} {op : Op} {alone : Prop} {V W : List Cell} {α : Type} {s s' : Db}

theorem falls (hexecutions : s.executions = s'.executions) (h : Falls s s') :
    WorkSteps env op alone s s' :=
  .single (.quiet hexecutions h)

theorem quiet (h : SameOn workCells s s') : WorkSteps env op alone s s' :=
  falls (h .executions (by simp)) (.of_sameOn (h.mono (by simp)))

theorem of_sameOn {t : Service W α} (h : t.Follows (SameOn workCells)) :
    t.Follows (WorkSteps env op alone) :=
  h.mono fun _ _ => quiet

/-- **Frame rule**: a transaction that writes none of the cells is quiet. -/
theorem frame (t : Service W α) (hdisj : ∀ c ∈ workCells, c ∉ W) :
    t.Follows (WorkSteps env op alone) :=
  of_sameOn (.sameOn t hdisj)

-- ════════════════════════════════════════════════════════════════════════
-- Changes
-- ════════════════════════════════════════════════════════════════════════

/-- A change moves, and not to dispatch or to work. -/
theorem transitionChange_falls {c : ℕ} {new old : ChangeStatus} {actor : AuditActor} {now : Time}
    {reason : String} (hnew : new ≠ .dispatchable ∧ new ≠ .running)
    (h : (transitionChange c new actor now reason).run s = .ok (old, s')) : Falls s s' :=
  .of_moved (transitionChange_moved h).2.2 hnew
    (Tx.frame _ h .bindings (by cases new <;> simp [transitionCells]))

theorem transitionAway (c : ℕ) (new : ChangeStatus) (actor : AuditActor) (now : Time)
    (reason : String) (hnew : new ≠ .dispatchable ∧ new ≠ .running) :
    (transitionChange c new actor now reason).Follows (WorkSteps env op alone) := fun _ _ _ h =>
  falls (Tx.frame _ h .executions (by cases new <;> simp [transitionCells]))
    (transitionChange_falls hnew h)

theorem expireDispatchableChange_falls {c : ℕ} {now : Time} {reason : String} {u : Unit}
    (h : (expireDispatchableChange c now reason).run s = .ok (u, s')) :
    Falls s s' ∧ ¬s'.ChangeIn .dispatchable c := by
  have hbindings : s.bindings = s'.bindings := Tx.frame _ h .bindings (by decide)
  simp only [expireDispatchableChange, Tx.run_narrow, Tx.bind_ok, Tx.lift_query_ok,
    lookup_ok] at h
  obtain ⟨row, _, ⟨hrow, rfl⟩, h⟩ := h
  split_ifs at h with hstatus
  · simp only [Tx.bind_ok, Tx.run_pure, Except.ok.injEq, Prod.mk.injEq] at h
    obtain ⟨old, _, hmove, -, rfl⟩ := h
    obtain ⟨-, -, hmoved⟩ := transitionChange_moved hmove
    refine ⟨.of_moved hmoved (by decide) hbindings, fun hd => ?_⟩
    exact absurd (hmoved.became.unique hd) (by decide)
  · obtain ⟨-, rfl⟩ : u = () ∧ s = s' := by simpa using h
    refine ⟨.of_sameOn (.refl _ _), ?_⟩
    rintro ⟨row', hrow', hd⟩
    rw [hrow] at hrow'
    cases hrow'
    exact hstatus hd

/-- The hook after an execution always settles a change that is still in dispatch. -/
theorem settleBoundChange_dispatchable (env : Env) {c : ℕ} {status : ExecutionStatus}
    (hc : s.ChangeIn .dispatchable c) :
    ∃ s', (settleBoundChange env c status).run s = .ok ((), s') ∧
      ¬s'.ChangeIn .dispatchable c := by
  obtain ⟨row, hrow, hstatus⟩ := hc
  obtain ⟨s', hmove⟩ : ∃ s', (transitionChange c .expired changeService s.now
      "execution_failed_before_binding").run s = .ok (.dispatchable, s') :=
    ⟨_, transitionChange_ok.2 ⟨row, hrow, hstatus, by decide, rfl⟩⟩
  have hexpire : (expireDispatchableChange c s.now "execution_failed_before_binding").run s =
      .ok ((), s') := by
    simp only [expireDispatchableChange, Tx.run_narrow, Tx.bind_ok, Tx.lift_query_ok, lookup_ok]
    refine ⟨row, s, ⟨hrow, rfl⟩, ?_⟩
    rw [if_pos hstatus, Tx.bind_ok]
    exact ⟨.dispatchable, s', hmove, rfl⟩
  refine ⟨s', ?_, (expireDispatchableChange_falls hexpire).2⟩
  simp only [settleBoundChange, Tx.bind_ok, Tx.lift_query_ok, lookup_ok]
  refine ⟨row, s, ⟨hrow, rfl⟩, ?_⟩
  rw [if_pos hstatus]
  simp only [Tx.bind_ok, Tx.lift_query_ok, timezoneNow, select_ok, Tx.run_lift]
  exact ⟨s.now, s, ⟨rfl, rfl⟩, hexpire⟩

/-- Whatever the hook does, no change goes to dispatch or to work. -/
theorem settleBoundChange_falls (env : Env) (c : ℕ) (status : ExecutionStatus) :
    (settleBoundChange env c status).Follows Falls := by
  have hpre : IsPreorder Db Falls :=
    { refl := fun _ => .of_sameOn (.refl _ _), trans := fun _ _ _ => .trans }
  have hframe : ∀ {W : List Cell} {α : Type} (t : Service W α),
      (∀ c ∈ dispatchStateCells, c ∉ W) → t.Follows Falls := fun t hdisj =>
    (Tx.Follows.sameOn t hdisj).mono fun _ _ => Falls.of_sameOn
  have haway : ∀ (new : ChangeStatus) (now : Time) (reason : String),
      new ≠ .dispatchable ∧ new ≠ .running →
        (transitionChange c new changeService now reason).Follows Falls :=
    fun _ _ _ hnew _ _ _ h => transitionChange_falls hnew h
  refine .bind (.query _) fun row => ?_
  split
  · exact .bind (.query _) fun now => .lift fun _ _ _ h => (expireDispatchableChange_falls h).1
  · split
    · refine .bind (.query _) fun now => .bind (.query _) fun intact => ?_
      split
      · exact .bind (.lift (haway _ now _ (by decide))) fun _ => .pure _
      · refine .bind (.query _) fun profile => .bind (.widen (hframe _ (by decide))) fun _ => ?_
        split
        · split
          · exact .bind (.lift (haway _ now _ (by decide))) fun _ =>
              .lift (hframe _ (by decide))
          · exact .bind (.lift (haway _ now _ (by decide))) fun _ => .pure _
        · exact .bind (.lift (haway _ now _ (by decide))) fun _ => .pure _
    · exact .pure _

theorem settleBoundChange (env : Env) (c : ℕ) (status : ExecutionStatus) {env' : Env} :
    (settleBoundChange env c status).Follows (WorkSteps env' op alone) := fun s u s' h =>
  falls (Tx.frame _ h .executions (by decide)) (settleBoundChange_falls env c status s u s' h)

theorem closeChangeTx (req : CloseRequest) (outcome : ClosureOutcome) (actor : AuditActor) :
    (closeChangeTx req outcome actor).Follows (WorkSteps env op alone) := by
  refine .bind (.query _) fun row => .bind (.widen (frame _ (by decide)))
    fun _ => .bind (.query _) fun closed => .bind (.query _) fun _ => .bind (.query _) fun _ =>
    .bind (.query _) fun found => .bind (.query _) fun plan => .bind (.query _) fun checks =>
    .bind (.query _) fun _ => .bind (.query _) fun now => .bind (.lift (frame _ (by decide))) fun _ =>
    .bind (.widen (frame _ (by decide))) fun _ => .bind (of_sameOn (insertUnique_follows Rel.closures _ _ (by decide)))
    fun _ => .bind (.lift (transitionAway _ _ _ now _ (by decide))) fun _ => .lift (frame _ (by decide))

theorem transitionStaleChange {H : List Cell} (name : TxName) (change : Loaded ChangeRecord)
    (actor : AuditActor) (now : Time) (reason : String) (s : Db) :
    (transitionStaleChange name change .expired actor now reason).Follows H
      (fun _ => WorkSteps env op alone) s := by
  refine .read (fun s1 => refl_of _ s1) fun s1 _ _ _ => ?_
  refine .bind (.atomic fun s2 _ _ s' h => ?_) fun _ s2 => ?_
  · have hexecutions : s2.executions = s'.executions := Tx.frame _ h .executions (by decide)
    have hbindings : s2.bindings = s'.bindings := Tx.frame _ h .bindings (by decide)
    obtain rfl := overwriteChange_ok.1 h
    have hstays : ∀ st i, st ≠ .expired → Db.ChangeIn
        { s2 with changes := s2.changes.modify change.id (applyTransition .expired now reason) }
        st i → s2.ChangeIn st i := by
      rintro st i hst ⟨row, hrow, rfl⟩
      by_cases hi : i = change.id
      · subst hi
        simp only [Table.get?_modify_self, Option.map_eq_some_iff] at hrow
        obtain ⟨old, -, rfl⟩ := hrow
        exact absurd (applyTransition_status _ _ _ _) hst
      · rw [Table.get?_modify_of_ne hi] at hrow
        exact ⟨row, hrow, rfl⟩
    exact falls hexecutions ⟨hbindings, fun i => hstays _ i (by decide), fun i => hstays _ i (by decide)⟩
  · exact .atomic fun s3 _ _ s' h => quiet (Tx.sameOn h _ (by decide))

-- ════════════════════════════════════════════════════════════════════════
-- Dispatch
-- ════════════════════════════════════════════════════════════════════════

theorem insertSteps : ∀ rows, (insertSteps rows).Follows (SameOn workCells)
  | [] => .pure _
  | _ :: rows => .bind (insertRow_follows Rel.steps _ (by decide)) fun _ => insertSteps rows

/-- The rows of a new execution: it is queued, and nobody holds it. -/
theorem insertExecutionRows_ok {workflowId : ℕ} {workflow : Workflow} {mode : ExecutionMode}
    {actor : AuditActor} {i : ℕ}
    (h : (insertExecutionRows env workflowId workflow mode actor).run s = .ok (i, s')) :
    ∃ e : Execution, (e.status = .queued ∧ e.claimedByRunnerId = "") ∧ i = s.executions.next ∧
      s'.executions = s.executions.insert e ∧ SameOn dispatchStateCells s s' := by
  have hsame : SameOn dispatchStateCells s s' := Tx.sameOn h _ (by decide)
  simp only [insertExecutionRows, Tx.bind_ok, Tx.run_lift, insertExecution_ok,
    Tx.lift_query_ok] at h
  obtain ⟨_, s1, ⟨rfl, rfl⟩, steps, _, ⟨-, rfl⟩, h⟩ := h
  split at h
  · simp at h
  · simp only [Tx.bind_ok, Tx.run_lift, Tx.lift_query_ok, Tx.run_pure, Except.ok.injEq,
      Prod.mk.injEq] at h
    obtain ⟨_, _, ⟨-, rfl⟩, _, s2, hrows, _, s3, hemit, rfl, rfl⟩ := h
    have h23 : s2.executions = s3.executions := Tx.frame _ hemit .executions (by decide)
    have hexecutions := insertSteps _ _ _ _ hrows .executions (by simp)
    refine ⟨_, ?_, rfl, (hexecutions.trans h23).symm, hsame⟩
    exact ⟨rfl, rfl⟩

theorem insertExecutionRows (workflowId : ℕ) (workflow : Workflow) (mode : ExecutionMode)
    (actor : AuditActor) {env' : Env} :
    (insertExecutionRows env' workflowId workflow mode actor).Follows (WorkSteps env op alone) := by
  intro s i s' h
  obtain ⟨e, ⟨hqueued, hfree⟩, -, hexecutions, hsame⟩ := insertExecutionRows_ok h
  exact .single (.create e hqueued hfree hexecutions (.of_sameOn hsame))

/-- The execution of a dispatch is queued. -/
theorem reserveExecution_ok {row : ChangeRecord} {workflow : Workflow}
    {check : DispatchEligibilityCheck} {actor : AuditActor} {i : ℕ}
    (h : (reserveExecution env row workflow check actor).run s = .ok (i, s')) :
    WorkSteps env op alone s s' ∧ s'.ExecutionIn .queued i := by
  simp only [reserveExecution, Tx.bind_ok, Tx.ofProg_ok, createExecution, Prog.exec_bind,
    Prog.exec_read, Prog.exec_atomic] at h
  obtain ⟨execution, s1, hcreate, h⟩ := h
  split at hcreate
  · rename_i hcheck
    simp only [Prod.mk.injEq] at hcheck
    obtain ⟨-, rfl⟩ := hcheck
    split at hcreate
    · rename_i j s3 hrows
      simp only [Prod.mk.injEq, Except.ok.injEq] at hcreate
      obtain ⟨rfl, rfl⟩ := hcreate
      have hsteps : WorkSteps env op alone s s3 := insertExecutionRows _ _ _ _ _ _ _ hrows
      obtain ⟨e, ⟨hqueued, -⟩, rfl, hexecutions, -⟩ := insertExecutionRows_ok hrows
      have hrow : s3.executions.get? s.executions.next = some e := by
        rw [hexecutions, Table.get?_insert_next]
      split_ifs at h
      · simp only [Tx.bind_ok, Tx.run_lift, Tx.run_pure, Except.ok.injEq, Prod.mk.injEq] at h
        obtain ⟨_, s2, hpool, rfl, rfl⟩ := h
        have hsame : SameOn dispatchStateCells s3 s2 := Tx.sameOn hpool _ (by decide)
        obtain rfl := updateExecution_ok.1 hpool
        refine ⟨hsteps.tail (.save _ (.modify fun _ _ => .inr ⟨rfl, rfl⟩) (.of_sameOn hsame)), ?_⟩
        exact ⟨{ e with runnerPoolKey := check.runnerPoolKey }, by simp [hrow], hqueued⟩
      · simp only [Tx.run_pure, Except.ok.injEq, Prod.mk.injEq] at h
        obtain ⟨rfl, rfl⟩ := h
        exact ⟨hsteps, e, hrow, hqueued⟩
    · simp at hcreate
  · simp at hcreate

theorem makeDispatchable (c : ℕ) (actor : AuditActor) (nonce : String) :
    (makeDispatchable env c actor nonce).Follows (WorkSteps env op alone) := by
  intro s u s' h
  simp only [RunbookPlatform.makeDispatchable, Tx.bind_ok, Tx.lift_query_ok, lookup_ok,
    Tx.run_lift] at h
  obtain ⟨row, _, ⟨hrow, rfl⟩, now, _, ⟨-, rfl⟩, check, s1, hgates, profile, _, ⟨-, rfl⟩, workflow,
    _, ⟨-, rfl⟩, _, _, ⟨-, rfl⟩, _, _, ⟨-, rfl⟩, execution, s2, hexec, _, s3, hlocks, binding, s4,
    hbinding, old, s5, hmove, hemit⟩ := h
  obtain ⟨hreserve, hqueued⟩ : WorkSteps env op alone s1 s2 ∧ s2.ExecutionIn .queued execution :=
    reserveExecution_ok hexec
  obtain ⟨hfree, b, hs4, hchange, hexecution, hunbound, -⟩ := reserveBinding_ok hbinding
  obtain ⟨-, -, hmoved⟩ := transitionChange_moved hmove
  have h23 : SameOn (.changes :: workCells) s2 s3 := Tx.sameOn hlocks _ (by decide)
  have hchanges : s3.changes = s4.changes := Tx.frame _ hbinding .changes (by decide)
  have h35 : s3.executions = s5.executions :=
    (Tx.frame _ hbinding .executions (by decide)).trans (Tx.frame _ hmove .executions (by decide))
  have h45 : s4.bindings = s5.bindings := Tx.frame _ hmove .bindings (by decide)
  have hexecutions : s2.executions = s3.executions := h23 .executions (by simp)
  refine (((quiet (Tx.sameOn hgates _ (by decide))).trans hreserve).trans (quiet (h23.mono (by simp)))).tail
    (.reserve b ?_ hunbound ?_ ?_ ?_ h35) |>.tail (.quiet ?_ ?_)
  · rw [hexecution, Db.ExecutionIn, ← hexecutions]
    exact hqueued
  · rw [hchange, hexecution]
    exact hfree
  · rw [← h45, hs4]
  · rw [hchange]
    refine ⟨hmoved.became, fun st i hi => (hmoved.others st i hi).trans ?_⟩
    simp only [Db.ChangeIn, hchanges]
  · exact Tx.frame _ hemit .executions (by decide)
  · exact .of_sameOn (Tx.sameOn hemit _ (by decide))

end WorkSteps

end RunbookPlatform
