import RunbookPlatform.Locks.Runs

/-!
# The queue

`schedule_execution_claim` looks at the queued executions of the organization, oldest first,
and takes the first one that the runner may have. It looks at fifty of them at most.

## Main definitions

- `Eligible` — the runner may have the execution
- `ReadyToClaim` — the runner is active and has free capacity
- `QueueAt` — the scan of the queue, on its way

## Main results

- `schedule_takes_oldest_iff` — when the oldest eligible execution is taken
-/

namespace RunbookPlatform

open Transactional

set_option synthInstance.maxSize 1000

-- ════════════════════════════════════════════════════════════════════════
-- What the scan looks at
-- ════════════════════════════════════════════════════════════════════════

/-- Whether the execution is routed to the pool and has its capabilities. -/
def fitsPool (pool : RunnerPool) (s : Db) (i : ℕ) : Option (Except Err Bool) :=
  (s.executions.get? i).map fun e => candidateFits pool ⟨i, e⟩ s

/-- A runner of the pool may have the execution: the dispatch is not over, and the execution is
routed to the pool, which has the capabilities that are required. -/
def Eligible (pool : RunnerPool) (s : Db) (i : ℕ) : Prop :=
  dispatchOver s.now s i = false ∧ fitsPool pool s i = some (.ok true)

/-- The dispatch is over, or the capabilities that are required can be read. -/
def Readable (pool : RunnerPool) (s : Db) (i : ℕ) : Prop :=
  dispatchOver s.now s i = true ∨ ∃ fits, fitsPool pool s i = some (.ok fits)

/-- The runner is active and has free capacity. -/
structure ReadyToClaim (env : Env) (runnerId : String) (runner : Runner) (pool : RunnerPool)
    (s : Db) : Prop where
  active : runner.status = .active ∨ runner.status = .registered
  stored : s.reference.pools.get? runner.pool = some pool
  poolActive : pool.status = .active
  capacity : hasCapacity env runnerId runner pool s = true

/-- What the database promises of queued executions: bindings reference their changes, and only
an execution that was claimed has a lease. -/
structure QueueSound (s : Db) : Prop where
  changes : ∀ j binding, s.bindings.get? j = some binding →
    binding.changeRecord < s.changes.next
  leases : ∀ i e, s.executions.get? i = some e → e.status = .queued →
    ∀ j lease, s.leases.get? j = some lease → lease.execution ≠ i

variable {p : Execution → Bool} {now : Time} {s0 s s' : Db} {i n : ℕ} {excluded queue : List ℕ}
  {e : Execution} {eligible : Loaded Execution → Read Bool}

theorem oldestQueued?_of_queue (hqueue : queueOf p excluded s = i :: queue)
    (he : s.executions.get? i = some e) : oldestQueued? p excluded s = some (i, e) := by
  rw [oldestQueued?, Table.find?]
  rw [queueOf] at hqueue
  rw [hqueue, List.head?_cons, Option.bind_some, he, Option.map_some]

theorem mem_queueOf : i ∈ queueOf p excluded s ↔
    ∃ e, s.executions.get? i = some e ∧ e.status = .queued ∧ p e = true ∧ i ∉ excluded := by
  rw [queueOf, Table.mem_keys]
  simp only [Bool.and_eq_true, decide_eq_true_eq, Bool.not_eq_true', List.contains_eq_mem,
    decide_eq_false_iff_not, and_assoc]

/-- A dispatch that is not over is left alone. -/
theorem expireUnbound_alive (hover : dispatchOver now s i = false) :
    (expireUnboundChangeDispatchIfNeeded i now).run s = .ok (false, s) := by
  refine Tx.savepoint_ok.2 (.inl ?_)
  simp only [expireUnboundDispatchForExecution, Tx.bind_ok, Tx.lift_query_ok, select_ok]
  refine ⟨_, s, ⟨rfl, rfl⟩, ?_⟩
  cases hbinding : bindingOf? i s with
  | none => rfl
  | some found =>
    obtain ⟨j, binding⟩ := found
    dsimp only
    rw [if_pos]
    · rfl
    · rw [dispatchOver, hbinding, Option.any_some, Bool.and_eq_false_iff] at hover
      obtain hbound | htoken := hover
      · exact .inl (by simpa using hbound)
      · exact .inr (not_le.1 (of_decide_eq_false htoken))

/-- The expiry of a stored change that is dispatchable succeeds. -/
theorem expireDispatchableChange_succeeds (now : Time) {c : ℕ} {change : ChangeRecord}
    (hchange : s.changes.get? c = some change) :
    ∃ s', (expireDispatchableChange c now).run s = .ok ((), s') ∧
      s'.changes.next = s.changes.next := by
  simp only [expireDispatchableChange, Tx.run_narrow, Tx.bind_ok, Tx.lift_query_ok, lookup_ok]
  by_cases hdispatchable : change.status = .dispatchable
  · obtain ⟨s', hmove, hnext⟩ : ∃ s', (transitionChange c .expired changeService now
        "dispatch_token_expired").run s = .ok (.dispatchable, s') ∧
          s'.changes.next = s.changes.next :=
      ⟨_, transitionChange_ok.2 ⟨change, hchange, hdispatchable, by decide, rfl⟩,
        Table.next_modify _ _ _⟩
    refine ⟨s', ⟨change, s, ⟨hchange, rfl⟩, ?_⟩, hnext⟩
    rw [if_pos hdispatchable]
    exact Tx.bind_ok.2 ⟨_, _, hmove, rfl⟩
  · refine ⟨s, ⟨change, s, ⟨hchange, rfl⟩, ?_⟩, rfl⟩
    rw [if_neg hdispatchable]
    rfl

/-- A dispatch that is over is expired. -/
theorem expireUnbound_over (hover : dispatchOver now s i = true) (he : s.executions.get? i = some e)
    (hchanges : ∀ j binding, s.bindings.get? j = some binding → binding.changeRecord < s.changes.next) :
    ∃ s', (expireUnboundChangeDispatchIfNeeded i now).run s = .ok (true, s') ∧
      s'.changes.next = s.changes.next := by
  rw [dispatchOver, Option.any_eq_true] at hover
  obtain ⟨⟨j, binding⟩, hbinding, hended⟩ := hover
  simp only [Bool.and_eq_true, Option.isNone_iff_eq_none, decide_eq_true_eq] at hended
  obtain ⟨hstored, -⟩ := Table.find?_some hbinding
  obtain ⟨change, hchange⟩ := Option.isSome_iff_exists.1
    (Table.get?_isSome_iff.2 (hchanges j binding hstored))
  obtain ⟨s1, hexpire, hnext⟩ := expireDispatchableChange_succeeds now hchange
  have hexecutions : s.executions = s1.executions := Tx.frame _ hexpire .executions (by decide)
  have hrun : ∃ s', (expireUnboundDispatchForExecution i now).run s = .ok (true, s') ∧
      s'.changes.next = s.changes.next := by
    simp only [expireUnboundDispatchForExecution, Tx.bind_ok, Tx.lift_query_ok, select_ok]
    obtain ⟨s2, hcancel, hnext2⟩ : ∃ s2, (if e.status = .queued ∨ e.status = .claimed then do
          moveExecution (W := unboundExpiryCells) i [.queued, .claimed] .cancelled
            fun e => { e with finishedAt := some now, startedAt := e.startedAt.or (some now) }
          emit e.organization changeService "execution.cancelled" .execution i
            e.status.value ExecutionStatus.cancelled.value
          pure true
        else pure true : Service unboundExpiryCells Bool).run s1 = .ok (true, s2) ∧
          s2.changes.next = s1.changes.next := by
      split_ifs with hstatus
      · simp only [Tx.bind_ok, Tx.run_lift, moveExecution_ok, emit_ok, Tx.run_pure, Except.ok.injEq,
          Prod.mk.injEq, true_and]
        exact ⟨_, ⟨(), _, rfl, (), _, rfl, rfl⟩, rfl⟩
      · exact ⟨s1, rfl, rfl⟩
    refine ⟨s2, ⟨_, s, ⟨hbinding, rfl⟩, ?_⟩, hnext2.trans hnext⟩
    dsimp only
    rw [if_neg (by simp [hended.1, hended.2])]
    refine Tx.bind_ok.2 ⟨(), s1, hexpire, Tx.bind_ok.2 ⟨e, s1, ?_, ?_⟩⟩
    · exact Tx.lift_query_ok.2 ⟨lookup_ok.2 (hexecutions ▸ he), rfl⟩
    · split_ifs at hcancel ⊢ <;> exact hcancel
  obtain ⟨s', hrun, hnext'⟩ := hrun
  exact ⟨s', Tx.savepoint_ok.2 (.inl hrun), hnext'⟩

-- ════════════════════════════════════════════════════════════════════════
-- The scan, on its way
-- ════════════════════════════════════════════════════════════════════════

/-- The scan, which started in `s0`, has `queue` before it. -/
structure QueueAt (p : Execution → Bool) (s0 s : Db) (excluded queue : List ℕ) : Prop where
  same : SameOn [.bindings, .reference, .leases] s0 s
  eq : queueOf p excluded s = queue
  rows : ∀ i ∈ queue, s.executions.get? i = s0.executions.get? i

theorem QueueAt.start (p : Execution → Bool) (s : Db) : QueueAt p s s [] (queueOf p [] s) where
  same := .refl _ s
  eq := rfl
  rows _ _ := rfl

namespace QueueAt

theorem head (h : QueueAt p s0 s excluded (i :: queue)) : ∃ e, s.executions.get? i = some e ∧
    s0.executions.get? i = some e ∧ e.status = .queued ∧
      oldestQueued? p excluded s = some (i, e) := by
  obtain ⟨e, he, hqueued, -⟩ := mem_queueOf.1 (h.eq ▸ List.mem_cons_self)
  exact ⟨e, he, (h.rows i List.mem_cons_self).symm.trans he, hqueued,
    oldestQueued?_of_queue h.eq he⟩

theorem nodup (h : QueueAt p s0 s excluded (i :: queue)) : i ∉ queue := by
  have hnodup : (queueOf p excluded s).Nodup := Table.nodup_keys _ _
  rw [h.eq] at hnodup
  exact (List.nodup_cons.1 hnodup).1

theorem dispatchOver_eq (h : QueueAt p s0 s excluded queue) (i : ℕ) :
    dispatchOver now s i = dispatchOver now s0 i := by
  have hbindings : s0.bindings = s.bindings := h.same .bindings (by decide)
  rw [dispatchOver, dispatchOver, bindingOf?, bindingOf?, hbindings]

/-- The scan goes on after an execution whose dispatch is expired. -/
theorem expired (h : QueueAt p s0 s excluded (i :: queue))
    (hrun : (expireUnboundChangeDispatchIfNeeded i now).run s = .ok (true, s')) :
    QueueAt p s0 s' excluded queue ∧ dispatchOver now s0 i = true := by
  have hunbound : UnboundExpiry (fun _ => True) i now s true s' :=
    expireUnboundChangeDispatchIfNeeded_ok hrun
  cases hunbound with
  | ended j binding hbinding hover hsteps hsame hlength hexpired hothers =>
    refine ⟨⟨h.same.trans (Tx.sameOn hrun _ (by decide)), ?_, fun k hk => ?_⟩,
      (h.dispatchOver_eq i).symm.trans hover⟩
    · refine Table.keys_eq_tail h.eq hlength ?_ fun j hj => by rw [hothers j hj]
      cases hrow : s'.executions.get? i with
      | none => rfl
      | some row => simp [hexpired row hrow]
    · have hne : k ≠ i := fun hki => h.nodup (hki ▸ hk)
      exact (hothers k hne).trans (h.rows k (List.mem_cons_of_mem i hk))

/-- The scan goes on after an execution that it excludes. -/
theorem refused (h : QueueAt p s0 s excluded (i :: queue)) : QueueAt p s0 s (i :: excluded) queue where
  same := h.same
  eq := by
    obtain ⟨e, he, -⟩ := h.head
    refine Table.keys_eq_tail h.eq rfl (by simp [he]) fun j hj => ?_
    cases s.executions.get? j with
    | none => rfl
    | some row => simp [hj]
  rows k hk := h.rows k (List.mem_cons_of_mem i hk)

end QueueAt

/-- The capabilities and the pools are what they were when the scan started. -/
theorem candidateFits_sameOn (h : SameOn [.bindings, .reference, .leases] s0 s) (pool : RunnerPool)
    (e : Loaded Execution) : candidateFits pool e s = candidateFits pool e s0 :=
  LockSteps.candidateFits_same (h.mono (by decide)) e

variable {env : Env} {runnerId token : String} {runner : Runner} {pool : RunnerPool}
  {before after : List ℕ} {target : ℕ} {found : Option (Loaded Execution)}

theorem fitsPool_eq (h : QueueAt p s0 s excluded (i :: queue)) (he : s.executions.get? i = some e) :
    fitsPool pool s0 i = some (candidateFits pool ⟨i, e⟩ s) := by
  rw [fitsPool, ← h.rows i List.mem_cons_self, he, candidateFits_sameOn h.same]
  rfl

/-- **What the scan passes over**: where it takes the target, it could read what was before it,
and looked at no more than it may. -/
theorem claimScan_takes (h : QueueAt p s0 s excluded (before ++ target :: after))
    (hrun : (claimScan p (candidateFits pool) s0.now n excluded).run s = .ok (found, s'))
    (hfound : found.map (·.id) = some target) :
    before.length < n ∧ ∀ i ∈ before, Readable pool s0 i := by
  induction n generalizing s excluded before with
  | zero =>
    obtain ⟨rfl, -⟩ : none = found ∧ s = s' := by simpa [claimScan] using hrun
    cases hfound
  | succ n ih =>
    cases before with
    | nil => exact ⟨Nat.succ_pos n, fun i hi => absurd hi List.not_mem_nil⟩
    | cons i before =>
      obtain ⟨e, he, -, -, hfirst⟩ := h.head
      simp only [claimScan, Tx.bind_ok, Tx.lift_query_ok, select_ok] at hrun
      obtain ⟨first, _, ⟨rfl, rfl⟩, hrun⟩ := hrun
      simp only [hfirst, Tx.bind_ok] at hrun
      obtain ⟨expired, s1, hexpiry, hrun⟩ := hrun
      cases expired with
      | true =>
        obtain ⟨hrest, hover⟩ := QueueAt.expired h hexpiry
        obtain ⟨hlength, hreadable⟩ := ih hrest hrun
        refine ⟨Nat.succ_lt_succ hlength, fun k hk => ?_⟩
        obtain rfl | hk := List.mem_cons.1 hk
        · exact .inl hover
        · exact hreadable k hk
      | false =>
        have halive : s = s1 := by
          have hunbound : UnboundExpiry (fun _ => True) i s0.now s false s1 :=
            expireUnboundChangeDispatchIfNeeded_ok hexpiry
          cases hunbound
          rfl
        subst halive
        simp only [Bool.false_eq_true, if_false, Tx.bind_ok, Tx.lift_query_ok] at hrun
        obtain ⟨fits, _, ⟨hfits, rfl⟩, hrun⟩ := hrun
        have hread : fitsPool pool s0 i = some (.ok fits) := hfits ▸ fitsPool_eq h he
        cases fits with
        | true =>
          obtain ⟨rfl, -⟩ : some ⟨i, e⟩ = found ∧ s = s' := by simpa using hrun
          obtain rfl : i = target := Option.some.inj hfound
          exact absurd (List.mem_append_right _ List.mem_cons_self) h.nodup
        | false =>
          obtain ⟨hlength, hreadable⟩ := ih h.refused hrun
          refine ⟨Nat.succ_lt_succ hlength, fun k hk => ?_⟩
          obtain rfl | hk := List.mem_cons.1 hk
          · exact .inr ⟨false, hread⟩
          · exact hreadable k hk

/-- **What the scan takes**: where no more than it looks at is before the target, which is the
first that is eligible, it takes the target. -/
theorem claimScan_reaches (hsound : QueueSound s0)
    (h : QueueAt p s0 s excluded (before ++ target :: after))
    (hnext : s.changes.next = s0.changes.next) (htarget : Eligible pool s0 target)
    (hnone : ∀ i ∈ before, ¬Eligible pool s0 i) (hlength : before.length < n)
    (hreadable : ∀ i ∈ before, Readable pool s0 i) :
    ∃ e s', (claimScan p (candidateFits pool) s0.now n excluded).run s = .ok (some ⟨target, e⟩, s') ∧
      SameOn [.bindings, .reference, .leases] s0 s' := by
  induction before generalizing s excluded n with
  | nil =>
    obtain ⟨n, rfl⟩ := Nat.exists_eq_succ_of_ne_zero (Nat.ne_of_gt hlength)
    obtain ⟨e, he, -, -, hfirst⟩ := h.head
    have halive : dispatchOver s0.now s target = false := (h.dispatchOver_eq target).trans htarget.1
    have hfits : candidateFits pool ⟨target, e⟩ s = .ok true :=
      Option.some.inj ((fitsPool_eq h he).symm.trans htarget.2)
    refine ⟨e, s, ?_, h.same⟩
    rw [claimScan, Tx.run_query_bind (select_ok.2 hfirst)]
    dsimp only
    rw [Tx.run_bind, expireUnbound_alive halive]
    dsimp only
    rw [if_neg Bool.false_ne_true, Tx.run_query_bind hfits]
    rfl
  | cons i before ih =>
    obtain ⟨n, rfl⟩ := Nat.exists_eq_succ_of_ne_zero (Nat.ne_of_gt (Nat.zero_lt_of_lt hlength))
    obtain ⟨e, he, -, -, hfirst⟩ := h.head
    have hlength' : before.length < n := Nat.lt_of_succ_lt_succ hlength
    have hnone' : ∀ k ∈ before, ¬Eligible pool s0 k := fun k hk => hnone k (List.mem_cons_of_mem i hk)
    have hreadable' : ∀ k ∈ before, Readable pool s0 k :=
      fun k hk => hreadable k (List.mem_cons_of_mem i hk)
    rw [claimScan, Tx.run_query_bind (select_ok.2 hfirst)]
    dsimp only
    cases hover : dispatchOver s0.now s0 i with
    | true =>
      have hbindings : s0.bindings = s.bindings := h.same .bindings (by decide)
      obtain ⟨s1, hexpiry, hnext1⟩ := expireUnbound_over ((h.dispatchOver_eq i).trans hover) he
        (by rw [← hbindings, hnext]; exact hsound.changes)
      obtain ⟨e', s', hrun, hsame⟩ := ih (QueueAt.expired h hexpiry).1 (hnext1.trans hnext) hnone'
        hlength' hreadable'
      refine ⟨e', s', ?_, hsame⟩
      rw [Tx.run_bind, hexpiry]
      exact hrun
    | false =>
      have hfits : candidateFits pool ⟨i, e⟩ s = .ok false := by
        obtain hended | ⟨fits, hfits⟩ := hreadable i List.mem_cons_self
        · exact absurd hended (by simp [hover])
        · cases fits with
          | true => exact absurd ⟨hover, hfits⟩ (hnone i List.mem_cons_self)
          | false => exact Option.some.inj ((fitsPool_eq h he).symm.trans hfits)
      obtain ⟨e', s', hrun, hsame⟩ := ih h.refused hnext hnone' hlength' hreadable'
      refine ⟨e', s', ?_, hsame⟩
      rw [Tx.run_bind, expireUnbound_alive ((h.dispatchOver_eq i).trans hover)]
      dsimp only
      rw [if_neg Bool.false_ne_true, Tx.run_query_bind hfits]
      exact hrun

-- ════════════════════════════════════════════════════════════════════════
-- The claim
-- ════════════════════════════════════════════════════════════════════════

/-- The claim of an execution that was never leased succeeds. -/
theorem grantLease_succeeds (runnerId token : String) (runner : Runner) (pool : RunnerPool) (now : Time)
    (hfree : ∀ j lease, s.leases.get? j = some lease → lease.execution ≠ i) :
    ∃ s', (grantLease runnerId runner pool i token now).run s = .ok ((), s') := by
  simp only [grantLease, Tx.bind_ok, moveExecution_ok, insertUnique_ok, Tx.run_pure, Except.ok.injEq,
    Prod.mk.injEq, true_and]
  exact ⟨_, (), _, rfl, _, _,
    ⟨fun j lease hlease => decide_eq_false (hfree j lease hlease), rfl, rfl⟩, rfl⟩

/-- A claim that takes an execution found it. -/
theorem scheduleExecutionClaim_claimed (hready : ReadyToClaim env runnerId runner pool s)
    (h : (scheduleExecutionClaim env runnerId runner token).run s = .ok (.claimed target, s')) :
    ∃ found s1, (claimScan (·.organization = runner.organization) (candidateFits pool) s.now 50
      []).run s = .ok (found, s1) ∧ found.map (·.id) = some target := by
  have hdraining : runner.status ≠ .draining := by
    obtain hstatus | hstatus := hready.active <;> rw [hstatus] <;> decide
  rw [scheduleExecutionClaim, if_neg hdraining] at h
  simp only [Tx.bind_ok, Tx.lift_query_ok, ensure_ok, lookup_ok] at h
  obtain ⟨_, _, ⟨-, rfl⟩, row, _, ⟨hrow, rfl⟩, h⟩ := h
  obtain rfl := Option.some.inj (hready.stored.symm.trans hrow)
  rw [if_neg (by rw [hready.poolActive]; decide)] at h
  simp only [Tx.bind_ok, Tx.lift_query_ok, ensure_ok, select_ok] at h
  obtain ⟨_, _, ⟨-, rfl⟩, _, _, ⟨hroom, rfl⟩, h⟩ := h
  rw [hready.capacity] at hroom
  subst hroom
  simp only [if_true, Tx.bind_ok, Tx.lift_query_ok, Tx.run_widen, timezoneNow, select_ok] at h
  obtain ⟨_, _, ⟨rfl, rfl⟩, found, s1, hscan, h⟩ := h
  refine ⟨found, s1, hscan, ?_⟩
  cases found with
  | none => simp at h
  | some e =>
    simp only [Tx.bind_ok, Tx.run_pure, Except.ok.injEq, Prod.mk.injEq, ClaimResult.claimed.injEq] at h
    obtain ⟨_, _, -, rfl, -⟩ := h
    rfl

/-- A claim takes what its scan finds, when it was never leased. -/
theorem scheduleExecutionClaim_of_scan (hready : ReadyToClaim env runnerId runner pool s)
    (hscan : (claimScan (·.organization = runner.organization) (candidateFits pool) s.now 50
      []).run s = .ok (some ⟨target, e⟩, s'))
    (hfree : ∀ j lease, s'.leases.get? j = some lease → lease.execution ≠ target) :
    ∃ s'', (scheduleExecutionClaim env runnerId runner token).run s = .ok (.claimed target, s'') := by
  have hdraining : runner.status ≠ .draining := by
    obtain hstatus | hstatus := hready.active <;> rw [hstatus] <;> decide
  obtain ⟨s'', hgrant⟩ := grantLease_succeeds runnerId token runner pool s.now hfree
  refine ⟨s'', ?_⟩
  rw [scheduleExecutionClaim, if_neg hdraining, Tx.run_query_bind (ensure_ok (u := ()) |>.2 hready.active),
    Tx.run_query_bind (lookup_ok.2 hready.stored), if_neg (by rw [hready.poolActive]; decide),
    Tx.run_query_bind (ensure_ok (u := ()) |>.2 hready.poolActive),
    Tx.run_query_bind (select_ok.2 hready.capacity), if_pos rfl,
    Tx.run_query_bind (show timezoneNow s = .ok s.now from rfl), Tx.run_bind, Tx.run_widen, hscan]
  dsimp only
  rw [Tx.run_bind, hgrant]
  rfl

/-- **The oldest eligible execution is taken** exactly when fewer than fifty queued executions
of the organization are before it, and what they require can be read. -/
theorem schedule_takes_oldest_iff (env : Env) (runnerId token : String) (runner : Runner)
    (hsound : QueueSound s) (hready : ReadyToClaim env runnerId runner pool s)
    (hqueue : queueOf (·.organization = runner.organization) [] s = before ++ target :: after)
    (htarget : Eligible pool s target) (hnone : ∀ i ∈ before, ¬Eligible pool s i) :
    (∃ s', (scheduleExecutionClaim env runnerId runner token).run s = .ok (.claimed target, s')) ↔
      before.length < 50 ∧ ∀ i ∈ before, Readable pool s i := by
  have hstart : QueueAt (·.organization = runner.organization) s s [] (before ++ target :: after) :=
    hqueue ▸ .start _ s
  constructor
  · rintro ⟨s', h⟩
    obtain ⟨found, s1, hscan, hfound⟩ := scheduleExecutionClaim_claimed hready h
    exact claimScan_takes hstart hscan hfound
  · rintro ⟨hlength, hreadable⟩
    obtain ⟨e, s', hscan, hsame⟩ := claimScan_reaches hsound hstart rfl htarget hnone hlength hreadable
    refine scheduleExecutionClaim_of_scan hready hscan fun j lease hlease => ?_
    have hleases : s.leases = s'.leases := hsame .leases (by decide)
    obtain ⟨row, hrow, hqueued, -⟩ := mem_queueOf.1
      (hqueue ▸ List.mem_append_right before List.mem_cons_self)
    exact hsound.leases target row hrow hqueued j lease (hleases ▸ hlease)

/-- A queued execution that requires `capabilities`. -/
def requiring (capabilities : List Json) : Execution where
  organization := 0
  workflow := 0
  workflowVersion := 1
  workflowSnapshot := .obj [("requiredCapabilities", .arr capabilities)]

/-- The pool of the runner has no capabilities. -/
def plainPool : RunnerPool := { organization := 0, key := "prod" }

/-- An execution that requires nothing, behind `n` that require a capability. -/
def Db.behind (n : ℕ) : Db where
  reference := { pools := ⟨[plainPool]⟩ }
  executions := ⟨List.replicate n (requiring [.str "gpu"]) ++ [requiring []]⟩

theorem get?_behind {n i : ℕ} : (Db.behind n).executions.get? i =
    if i < n then some (requiring [.str "gpu"]) else if i = n then some (requiring []) else none := by
  rw [Table.get?, Db.behind]
  dsimp only
  split_ifs with hlt heq
  · rw [List.getElem?_append_left (by simpa using hlt), List.getElem?_replicate, if_pos hlt]
  · subst heq
    simp
  · rw [List.getElem?_eq_none_iff]
    simp
    omega

theorem queueOf_behind (n : ℕ) :
    queueOf (·.organization = 0) [] (.behind n) = List.range n ++ n :: [] := by
  have hnext : (Db.behind n).executions.next = n + 1 := by
    simp [Db.behind, Table.next]
  rw [queueOf, Table.keys, hnext, ← List.range_succ, List.filter_eq_self]
  intro i hi
  rw [get?_behind]
  split_ifs with hlt heq
  · rfl
  · rfl
  · have := List.mem_range.1 hi
    omega

theorem eligible_behind (n : ℕ) : Eligible plainPool (.behind n) n := by
  refine ⟨rfl, ?_⟩
  rw [fitsPool, get?_behind, if_neg (lt_irrefl n), if_pos rfl]
  rfl

theorem fitsPool_behind {n i : ℕ} (h : i < n) : fitsPool plainPool (.behind n) i = some (.ok false) := by
  rw [fitsPool, get?_behind, if_pos h]
  rfl

theorem not_eligible_behind {n i : ℕ} (h : i ∈ List.range n) : ¬Eligible plainPool (.behind n) i := by
  rintro ⟨-, hfits⟩
  rw [fitsPool_behind (List.mem_range.1 h)] at hfits
  cases hfits

theorem queueSound_behind (n : ℕ) : QueueSound (.behind n) where
  changes j binding h := by cases h
  leases i e _ _ j lease h := by cases h

/-- The runner of the pool. -/
def plainRunner : Runner := { organization := 0, pool := 0, status := .active }

theorem readyToClaim_behind (n : ℕ) : ReadyToClaim .sample "runner" plainRunner plainPool (.behind n) where
  active := .inl rfl
  stored := rfl
  poolActive := rfl
  capacity := rfl

/-- The execution behind one that requires a capability is taken. -/
theorem schedule_takes_oldest_behind_one : ∃ s',
    (scheduleExecutionClaim .sample "runner" plainRunner "token").run (.behind 1) =
      .ok (.claimed 1, s') :=
  (schedule_takes_oldest_iff .sample "runner" "token" plainRunner (queueSound_behind 1)
    (readyToClaim_behind 1) (queueOf_behind 1) (eligible_behind 1)
    fun _ => not_eligible_behind).2
    ⟨by decide, fun _ hi => .inr ⟨false, fitsPool_behind (List.mem_range.1 hi)⟩⟩

/-- The execution behind fifty that require a capability is never taken. -/
theorem starved_behind_fifty : ¬∀ (env : Env) (runnerId token : String) (runner : Runner)
    (pool : RunnerPool) (s : Db) (before after : List ℕ) (target : ℕ), QueueSound s →
      ReadyToClaim env runnerId runner pool s →
      queueOf (·.organization = runner.organization) [] s = before ++ target :: after →
      Eligible pool s target → (∀ i ∈ before, ¬Eligible pool s i) →
      ∃ s', (scheduleExecutionClaim env runnerId runner token).run s = .ok (.claimed target, s') := by
  intro h
  obtain ⟨s', hrun⟩ := h .sample "runner" "token" plainRunner plainPool (.behind 50) (List.range 50)
    [] 50 (queueSound_behind 50) (readyToClaim_behind 50) (queueOf_behind 50) (eligible_behind 50)
    fun _ => not_eligible_behind
  obtain ⟨found, s1, hscan, hfound⟩ := scheduleExecutionClaim_claimed (readyToClaim_behind 50) hrun
  have hstart : QueueAt (·.organization = plainRunner.organization) (.behind 50) (.behind 50) []
      (List.range 50 ++ 50 :: []) := queueOf_behind 50 ▸ .start _ _
  have hlength := (claimScan_takes hstart hscan hfound).1
  rw [List.length_range] at hlength
  exact absurd hlength (by decide)

end RunbookPlatform
