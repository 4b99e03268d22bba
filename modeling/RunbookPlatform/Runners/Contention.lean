import RunbookPlatform.System

/-!
# Claims that overlap

`schedule_execution_claim` statement by statement, for any number of claims at once. A claim
locks the row of its pool until it commits, and counts leases that others have committed. The
lock serializes the claims of one pool; nothing serializes the claims of two pools of one
organization.

## Main definitions

- `ClaimPhase`, `Claim`, `Contention` — the claims in progress over the committed database
- `Contention.step?` — the next statement of a claim, and what happens around claims
- `Contending` — the states of overlapping claims
- `Contention.Overtaken` — a lease of the organization was committed after a claim counted

## Main results

- `lease_limits` — one lease a runner and the limit of the pool always, and the limit of the
  organization when no claim commits that was overtaken
-/

namespace RunbookPlatform

open Transactional

/-- The statement that a claim executes next, with what its local variables hold. -/
inductive ClaimPhase where
  /-- `RunnerPool.objects.select_for_update()`. -/
  | lockPool
  /-- The three counts of active leases. -/
  | countRunner (pool : RunnerPool)
  | countPool (pool : RunnerPool)
  | countOrganization (pool : RunnerPool)
  /-- The search for a queued execution. `seen` is the number of leases there were when those of
  the organization were counted, here and in the next two phases. -/
  | findExecution (pool : RunnerPool) (seen : ℕ)
  /-- `ExecutionLease.objects.create(...)`, with the row of the execution locked. -/
  | createLease (pool : RunnerPool) (execution seen : ℕ)
  | commit (pool : RunnerPool) (lease : ExecutionLease) (seen : ℕ)
  /-- The claim has committed or rolled back. -/
  | finished

/-- A call of `schedule_execution_claim`. -/
structure Claim where
  runnerId : String
  runner : Runner
  token : String
  phase : ClaimPhase

/-- The claim holds the lock of its pool's row. -/
def Claim.holdsPool (claim : Claim) : Bool :=
  match claim.phase with
  | .lockPool | .finished => false
  | _ => true

/-- The claim holds the lock of an execution's row. -/
def Claim.holdsExecution (claim : Claim) (execution : ℕ) : Bool :=
  match claim.phase with
  | .createLease _ e _ => e = execution
  | .commit _ lease _ => lease.execution = execution
  | _ => false

/-- The committed database, and the claims over it. -/
structure Contention where
  db : Db
  claims : Table Claim := .empty

/-- What happens next. -/
inductive ClaimEvent where
  /-- A registered runner calls the endpoint. -/
  | arrive (runnerId token : String)
  /-- A claim executes its next statement. -/
  | advance (claim : ℕ)
  /-- The process or the connection of a claim dies. -/
  | rollback (claim : ℕ)
  /-- An execution is queued. -/
  | enqueue (execution : Execution)
  /-- A lease ends, with its execution or by the watchdog. -/
  | endLease (lease : ℕ) (expired : Bool)

/-- The columns that the end of a lease saves. -/
def endedLease (expired : Bool) (lease : ExecutionLease) : ExecutionLease :=
  if lease.status = .active then { lease with status := if expired then .expired else .released }
  else lease

namespace Contention

/-- Claim `i` goes on with `phase`. -/
def goOn (s : Contention) (i : ℕ) (phase : ClaimPhase) : Contention :=
  { s with claims := s.claims.modify i fun claim => { claim with phase } }

/-- Another claim holds the lock of the pool. -/
def poolLocked (s : Contention) (i pool : ℕ) : Bool :=
  (s.claims.find? fun j claim =>
    j ≠ i && claim.holdsPool && claim.runner.pool = pool).isSome

/-- Another claim holds the lock of the execution. -/
def executionLocked (s : Contention) (i execution : ℕ) : Bool :=
  (s.claims.find? fun j claim => j ≠ i && claim.holdsExecution execution).isSome

/-- The candidate for a claim: the oldest queued execution that no other claim has locked and
that the pool can take. The search stops at one whose requirements are malformed. What it expires
on its way is left out, since no lease is among it. -/
def candidate? (s : Contention) (i : ℕ) (runner : Runner) (pool : RunnerPool) :
    Option (Loaded Execution) :=
  (s.db.executions.find? fun e execution =>
    execution.status = .queued && execution.organization = runner.organization &&
      !s.executionLocked i e &&
        match candidateFits pool ⟨e, execution⟩ s.db with
        | .ok fits => fits
        | .error _ => true).map fun (e, execution) => ⟨e, execution⟩

/-- The lease that a claim creates. -/
def newLease (s : Contention) (claim : Claim) (execution : ℕ) : ExecutionLease where
  execution := execution
  organization := claim.runner.organization
  runner := claim.runnerId
  pool := claim.runner.pool
  claimedAt := s.db.now
  lastHeartbeatAt := some s.db.now

/-- The next statement of claim `i`. There is none while it waits for a lock, or is over. -/
def advance? (env : Env) (s : Contention) (i : ℕ) (claim : Claim) : Option Contention :=
  match claim.phase with
  | .lockPool =>
    if claim.runner.status ≠ .active ∧ claim.runner.status ≠ .registered then
      some (s.goOn i .finished)
    else if s.poolLocked i claim.runner.pool then none
    else
      match s.db.reference.pools.get? claim.runner.pool with
      | none => some (s.goOn i .finished)
      | some pool =>
        if pool.status = .active then some (s.goOn i (.countRunner pool))
        else some (s.goOn i .finished)
  | .countRunner pool =>
    if 1 ≤ activeLeases (·.runner = claim.runnerId) s.db then some (s.goOn i .finished)
    else some (s.goOn i (.countPool pool))
  | .countPool pool =>
    if pool.maxConcurrentExecutions ≤ activeLeases (·.pool = claim.runner.pool) s.db then
      some (s.goOn i .finished)
    else some (s.goOn i (.countOrganization pool))
  | .countOrganization pool =>
    if env.runnerOrgMaxConcurrent ≤
        activeLeases (·.organization = claim.runner.organization) s.db then
      some (s.goOn i .finished)
    else some (s.goOn i (.findExecution pool s.db.leases.next))
  | .findExecution pool seen =>
    match s.candidate? i claim.runner pool with
    | none => some (s.goOn i .finished)
    | some execution =>
      match candidateFits pool execution s.db with
      | .ok _ => some (s.goOn i (.createLease pool execution.id seen))
      | .error _ => some (s.goOn i .finished)
  | .createLease pool execution seen =>
    -- the execution has one lease at most
    if (s.db.leases.find? fun _ lease => lease.execution = execution).isSome then
      some (s.goOn i .finished)
    else some (s.goOn i (.commit pool (s.newLease claim execution) seen))
  | .commit pool lease _ =>
    let s' := s.goOn i .finished
    some { s' with db := { s.db with
      executions := s.db.executions.modify lease.execution fun e =>
        { claimColumns claim.runnerId claim.token pool.key s.db.now e with status := .claimed }
      leases := s.db.leases.insert lease } }
  | .finished => none

/-- The state after an event, if it can happen. -/
def step? (env : Env) (s : Contention) : ClaimEvent → Option Contention
  | .arrive runnerId token =>
    (runnerOf? runnerId s.db).map fun runner =>
      { s with claims := s.claims.insert { runnerId, runner, token, phase := .lockPool } }
  | .advance i => (s.claims.get? i).bind (s.advance? env i)
  | .rollback i => some (s.goOn i .finished)
  | .enqueue execution =>
    some { s with db := { s.db with
      executions := s.db.executions.insert { execution with status := .queued } } }
  | .endLease k expired =>
    some { s with db := { s.db with leases := s.db.leases.modify k (endedLease expired) } }

end Contention

/-- The states of overlapping claims, from a database without leases, in which every event is
admitted by `A`. -/
inductive Contending (env : Env) (A : Contention → ClaimEvent → Prop) : Contention → Prop where
  | start (db : Db) (hleases : db.leases = .empty) : Contending env A { db }
  | step {s s' : Contention} {event : ClaimEvent} (h : Contending env A s) (hadmitted : A s event)
      (hstep : s.step? env event = some s') : Contending env A s'

/-- A lease of the organization was committed after the claim counted them. The lock keeps the
claims of its own pool from that, so it is a lease of another pool. -/
def Contention.Overtaken (s : Contention) (organization seen : ℕ) : Prop :=
  ∃ k lease, s.db.leases.get? k = some lease ∧ seen ≤ k ∧ lease.organization = organization

/-- No claim commits that was overtaken. -/
def neverOvertaken (s : Contention) (event : ClaimEvent) : Prop :=
  ∀ i claim pool lease seen, event = .advance i → s.claims.get? i = some claim →
    claim.phase = .commit pool lease seen → ¬s.Overtaken claim.runner.organization seen

-- ════════════════════════════════════════════════════════════════════════
-- Counting leases
-- ════════════════════════════════════════════════════════════════════════

variable {db : Db} {p : ExecutionLease → Bool}

theorem activeLeases_eq : activeLeases p db =
    (db.leases.log fun lease => lease.status = .active && p lease).length := by
  rw [activeLeases, rowsWhere, ← Table.length_keys]
  have hids : ∀ is : List ℕ, (∀ i ∈ is, (db.leases.get? i).isSome) →
      (is.filterMap fun i => (db.leases.get? i).map fun row => (⟨i, row⟩ : Loaded ExecutionLease)).length
        = is.length := by
    intro is his
    induction is with
    | nil => rfl
    | cons i is ih =>
      obtain ⟨row, hrow⟩ := Option.isSome_iff_exists.1 (his i List.mem_cons_self)
      rw [List.filterMap_cons, hrow, Option.map_some, List.length_cons, List.length_cons,
        ih fun j hj => his j (List.mem_cons_of_mem _ hj)]
  refine hids _ fun i hi => ?_
  obtain ⟨row, hrow, -⟩ := Table.mem_keys.1 hi
  rw [hrow]
  rfl

/-- A new lease counts once. -/
theorem activeLeases_insert (lease : ExecutionLease) (executions : Table Execution)
    (hactive : lease.status = .active) :
    activeLeases p { db with executions, leases := db.leases.insert lease } =
      activeLeases p db + if p lease then 1 else 0 := by
  rw [activeLeases_eq, activeLeases_eq, Table.log_insert]
  by_cases hp : p lease = true
  · simp [hactive, hp]
  · simp [hactive, hp]

@[simp] theorem endedLease_organization (expired : Bool) (lease : ExecutionLease) :
    (endedLease expired lease).organization = lease.organization := by
  unfold endedLease
  split_ifs <;> rfl

/-- The end of a lease adds none. -/
theorem activeLeases_end_le (k : ℕ) (expired : Bool) :
    activeLeases p { db with leases := db.leases.modify k (endedLease expired) } ≤
      activeLeases p db := by
  rw [activeLeases_eq, activeLeases_eq]
  refine Table.length_log_modify_le (fun lease h => ?_) db.leases k
  rw [endedLease] at h
  split_ifs at h with hactive
  all_goals first
    | exact h
    | simp at h

-- ════════════════════════════════════════════════════════════════════════
-- What a claim knows
-- ════════════════════════════════════════════════════════════════════════

namespace ClaimPhase

/-- The pool that a claim has locked. -/
def pool? : ClaimPhase → Option RunnerPool
  | .lockPool | .finished => none
  | .countRunner pool | .countPool pool | .countOrganization pool | .findExecution pool _
  | .createLease pool _ _ | .commit pool _ _ => some pool

/-- The claim has counted the leases of its runner. -/
def countedRunner : ClaimPhase → Bool
  | .lockPool | .finished | .countRunner _ => false
  | _ => true

/-- The claim has counted the leases of its pool. -/
def countedPool : ClaimPhase → Bool
  | .lockPool | .finished | .countRunner _ | .countPool _ => false
  | _ => true

/-- How many leases there were when those of the organization were counted. -/
def seen? : ClaimPhase → Option ℕ
  | .findExecution _ seen | .createLease _ _ seen | .commit _ _ seen => some seen
  | _ => none

end ClaimPhase

/-- What a claim has found out still holds, as far as the lock keeps others from changing it. -/
structure Claim.Informed (env : Env) (db : Db) (claim : Claim) : Prop where
  runner : runnerOf? claim.runnerId db = some claim.runner
  pool : ∀ pool ∈ claim.phase.pool?, db.reference.pools.get? claim.runner.pool = some pool
  runnerFree : claim.phase.countedRunner = true → activeLeases (·.runner = claim.runnerId) db = 0
  poolFree : claim.phase.countedPool = true → ∀ pool ∈ claim.phase.pool?,
    activeLeases (·.pool = claim.runner.pool) db < pool.maxConcurrentExecutions
  seen : ∀ seen ∈ claim.phase.seen?, seen ≤ db.leases.next
  organizationFree : ∀ seen ∈ claim.phase.seen?,
    (∀ k lease, db.leases.get? k = some lease → seen ≤ k →
      lease.organization ≠ claim.runner.organization) →
      activeLeases (·.organization = claim.runner.organization) db < env.runnerOrgMaxConcurrent
  lease : ∀ pool lease seen, claim.phase = .commit pool lease seen → lease.status = .active ∧
    lease.runner = claim.runnerId ∧ lease.pool = claim.runner.pool ∧
      lease.organization = claim.runner.organization

/-- A runner has one active lease at most. -/
def RunnerLimit (db : Db) : Prop :=
  ∀ runnerId, activeLeases (·.runner = runnerId) db ≤ 1

/-- A pool has no more active leases than its limit. -/
def PoolLimit (db : Db) : Prop :=
  ∀ i pool, db.reference.pools.get? i = some pool →
    activeLeases (·.pool = i) db ≤ pool.maxConcurrentExecutions

/-- An organization has no more active leases than the limit. -/
def OrganizationLimit (env : Env) (db : Db) : Prop :=
  ∀ organization, activeLeases (·.organization = organization) db ≤ env.runnerOrgMaxConcurrent

/-- The invariant of overlapping claims. -/
structure Serialized (env : Env) (s : Contention) : Prop where
  informed : ∀ i claim, s.claims.get? i = some claim → claim.Informed env s.db
  alone : ∀ i j claim other, s.claims.get? i = some claim → s.claims.get? j = some other →
    claim.holdsPool = true → other.holdsPool = true → claim.runner.pool = other.runner.pool → i = j
  runnerLimit : RunnerLimit s.db
  poolLimit : PoolLimit s.db

theorem Claim.holdsPool_of_countedRunner {claim : Claim} (h : claim.phase.countedRunner = true) :
    claim.holdsPool = true := by
  unfold Claim.holdsPool
  cases hphase : claim.phase <;> simp_all [ClaimPhase.countedRunner]

theorem Claim.holdsPool_of_countedPool {claim : Claim} (h : claim.phase.countedPool = true) :
    claim.holdsPool = true := by
  unfold Claim.holdsPool
  cases hphase : claim.phase <;> simp_all [ClaimPhase.countedPool]

namespace Claim.Informed

variable {env : Env} {claim : Claim}

/-- The lease of another runner and another pool tells a claim nothing about its own, and may
only overtake its count for the organization. -/
theorem insert (h : claim.Informed env db) (lease : ExecutionLease) (executions : Table Execution)
    (hactive : lease.status = .active)
    (hrunner : claim.phase.countedRunner = true → lease.runner ≠ claim.runnerId)
    (hpool : claim.phase.countedPool = true → lease.pool ≠ claim.runner.pool) :
    claim.Informed env { db with executions, leases := db.leases.insert lease } where
  runner := h.runner
  pool := h.pool
  runnerFree hcounted := by
    rw [activeLeases_insert lease executions hactive, h.runnerFree hcounted]
    simp [hrunner hcounted]
  poolFree hcounted pool hlocked := by
    have hfree := h.poolFree hcounted pool hlocked
    rw [activeLeases_insert lease executions hactive]
    simpa [hpool hcounted] using hfree
  seen n hn := by
    have hle := h.seen n hn
    rw [Table.next_insert]
    omega
  organizationFree n hn hothers := by
    have hne := hothers db.leases.next lease (Table.get?_insert_next _ _) (h.seen n hn)
    have hfree := h.organizationFree n hn fun k old hold hk =>
      hothers k old (Table.get?_insert_of_some lease hold) hk
    rw [activeLeases_insert lease executions hactive]
    simpa [hne] using hfree
  lease := h.lease

/-- A lease that ends makes room. -/
theorem endLease (h : claim.Informed env db) (k : ℕ) (expired : Bool) :
    claim.Informed env { db with leases := db.leases.modify k (endedLease expired) } where
  runner := h.runner
  pool := h.pool
  runnerFree hcounted := by
    have hle : activeLeases (·.runner = claim.runnerId)
          { db with leases := db.leases.modify k (endedLease expired) } ≤
        activeLeases (·.runner = claim.runnerId) db :=
      activeLeases_end_le k expired
    rw [h.runnerFree hcounted] at hle
    exact Nat.le_zero.1 hle
  poolFree hcounted pool hlocked :=
    (activeLeases_end_le k expired).trans_lt (h.poolFree hcounted pool hlocked)
  seen n hn := by
    rw [Table.next_modify]
    exact h.seen n hn
  organizationFree n hn hothers := by
    refine (activeLeases_end_le k expired).trans_lt (h.organizationFree n hn fun j old hold hj => ?_)
    by_cases hjk : j = k
    · have hended := hothers j (endedLease expired old) (by simp [← hjk, hold]) hj
      rwa [endedLease_organization] at hended
    · exact hothers j old (by rw [Table.get?_modify_of_ne hjk, hold]) hj
  lease := h.lease

end Claim.Informed

namespace Serialized

variable {env : Env} {s s' : Contention}

/-- **A statement that only reads** keeps the invariant, when the claim goes on informed, and
takes the lock only when it is free. -/
theorem goOn (h : Serialized env s) {i : ℕ} {claim : Claim} (hi : s.claims.get? i = some claim)
    {phase : ClaimPhase} (hinformed : ({ claim with phase } : Claim).Informed env s.db)
    (hlock : ({ claim with phase } : Claim).holdsPool = true →
      claim.holdsPool = true ∨ s.poolLocked i claim.runner.pool = false) :
    Serialized env (s.goOn i phase) := by
  have hcases : ∀ j other, (s.goOn i phase).claims.get? j = some other →
      j = i ∧ other = { claim with phase } ∨ j ≠ i ∧ s.claims.get? j = some other := by
    intro j other hj
    rw [Contention.goOn, Table.get?_modify] at hj
    split_ifs at hj with hij
    · rw [hij, hi, Option.map_some, Option.some.injEq] at hj
      exact .inl ⟨hij, hj.symm⟩
    · exact .inr ⟨hij, hj⟩
  have hfree : ∀ j other, j ≠ i → s.claims.get? j = some other → other.holdsPool = true →
      ({ claim with phase } : Claim).holdsPool = true → other.runner.pool ≠ claim.runner.pool := by
    intro j other hij hj hother hholds hpool
    rcases hlock hholds with hold | hunlocked
    · exact hij (h.alone j i other claim hj hi hother hold hpool)
    · rw [Contention.poolLocked, Option.isSome_eq_false_iff, Option.isNone_iff_eq_none] at hunlocked
      have hnone := Table.find?_none.1 hunlocked j other hj
      simp [hij, hother, hpool] at hnone
  refine ⟨fun j other hj => ?_, fun j k other other' hj hk hother hother' hpool => ?_, h.runnerLimit,
    h.poolLimit⟩
  · rcases hcases j other hj with ⟨-, rfl⟩ | ⟨-, hj⟩
    · exact hinformed
    · exact h.informed j other hj
  · rcases hcases j other hj with ⟨hji, rfl⟩ | ⟨hji, hold⟩
    · rcases hcases k other' hk with ⟨hki, -⟩ | ⟨hki, hold'⟩
      · rw [hji, hki]
      · exact absurd hpool.symm (hfree k other' hki hold' hother' hother)
    · rcases hcases k other' hk with ⟨-, rfl⟩ | ⟨-, hold'⟩
      · exact absurd hpool (hfree j other hji hold hother hother')
      · exact h.alone j k other other' hold hold' hother hother' hpool

/-- A claim that is over knows nothing and holds nothing. -/
theorem finish (h : Serialized env s) (i : ℕ) : Serialized env (s.goOn i .finished) := by
  cases hi : s.claims.get? i with
  | none =>
    have hsame : s.goOn i .finished = s := by
      rw [Contention.goOn, Table.modify_of_none hi]
    rwa [hsame]
  | some claim =>
    refine h.goOn hi ⟨(h.informed i claim hi).runner, ?_, nofun, nofun, ?_, ?_, nofun⟩ nofun
    · simp [ClaimPhase.pool?]
    · simp [ClaimPhase.seen?]
    · simp [ClaimPhase.seen?]

/-- **A claim commits its lease.** The lock keeps the claims of its pool, and so the others of
its runner, from counting meanwhile. -/
theorem commit (h : Serialized env s) {i : ℕ} {claim : Claim} (hi : s.claims.get? i = some claim)
    {pool : RunnerPool} {lease : ExecutionLease} {seen : ℕ}
    (hphase : claim.phase = .commit pool lease seen) (executions : Table Execution) :
    Serialized env { s.goOn i .finished with
      db := { s.db with executions, leases := s.db.leases.insert lease } } := by
  have hinformed := h.informed i claim hi
  obtain ⟨hactive, hrunner, hpool, -⟩ := hinformed.lease pool lease seen hphase
  have hlocked : claim.phase.pool? = some pool := by rw [hphase]; rfl
  have hcountedRunner : claim.phase.countedRunner = true := by rw [hphase]; rfl
  have hcountedPool : claim.phase.countedPool = true := by rw [hphase]; rfl
  have hfinished := h.finish i
  refine ⟨fun j other hj => ?_, hfinished.alone, fun runnerId => ?_, fun k pool' hk => ?_⟩
  · have hother := hfinished.informed j other hj
    have hapart : other.holdsPool = true → other.runner.pool ≠ claim.runner.pool := by
      intro hholds hsame
      by_cases hji : j = i
      · subst hji
        rw [Contention.goOn, Table.get?_modify_self, hi, Option.map_some, Option.some.injEq] at hj
        subst hj
        simp [Claim.holdsPool] at hholds
      · rw [Contention.goOn, Table.get?_modify_of_ne hji] at hj
        exact hji (h.alone j i other claim hj hi hholds
          (Claim.holdsPool_of_countedRunner hcountedRunner) hsame)
    refine hother.insert lease executions hactive (fun hcounted hsame => ?_) fun hcounted hsame => ?_
    · -- one runner has one pool
      have hrunners := hother.runner
      rw [← hsame, hrunner] at hrunners
      have heq := Option.some.inj (hinformed.runner.symm.trans hrunners)
      exact hapart (Claim.holdsPool_of_countedRunner hcounted) (by rw [heq])
    · exact hapart (Claim.holdsPool_of_countedPool hcounted) (by rw [← hsame, hpool])
  · rw [activeLeases_insert lease executions hactive]
    by_cases hsame : lease.runner = runnerId
    · have hnone := hinformed.runnerFree hcountedRunner
      rw [← hrunner, hsame] at hnone
      simp [hnone, hsame]
    · simpa [hsame] using h.runnerLimit runnerId
  · rw [activeLeases_insert lease executions hactive]
    by_cases hsame : lease.pool = k
    · have hfree := hinformed.poolFree hcountedPool pool hlocked
      have hread := hinformed.pool pool hlocked
      rw [← hpool, hsame] at hfree hread
      obtain rfl := Option.some.inj (hread.symm.trans hk)
      rw [if_pos (by simp [hsame])]
      exact hfree
    · simpa [hsame] using h.poolLimit k pool' hk

/-- A lease ends. -/
theorem endLease (h : Serialized env s) (k : ℕ) (expired : Bool) :
    Serialized env
      { s with db := { s.db with leases := s.db.leases.modify k (endedLease expired) } } where
  informed i claim hi := (h.informed i claim hi).endLease k expired
  alone := h.alone
  runnerLimit runnerId := (activeLeases_end_le k expired).trans (h.runnerLimit runnerId)
  poolLimit i pool hi := (activeLeases_end_le k expired).trans (h.poolLimit i pool hi)

/-- An execution is queued. -/
theorem enqueue (h : Serialized env s) (executions : Table Execution) :
    Serialized env { s with db := { s.db with executions } } where
  informed i claim hi :=
    have hinformed := h.informed i claim hi
    ⟨hinformed.runner, hinformed.pool, hinformed.runnerFree, hinformed.poolFree, hinformed.seen,
      hinformed.organizationFree, hinformed.lease⟩
  alone := h.alone
  runnerLimit := h.runnerLimit
  poolLimit := h.poolLimit

/-- A claim starts without a lock. -/
theorem arrive (h : Serialized env s) {runnerId token : String} {runner : Runner}
    (hrunner : runnerOf? runnerId s.db = some runner) :
    Serialized env
      { s with claims := s.claims.insert { runnerId, runner, token, phase := .lockPool } } := by
  have hcases : ∀ j other, (s.claims.insert { runnerId, runner, token, phase := .lockPool }).get? j
      = some other → other = { runnerId, runner, token, phase := .lockPool } ∨
        s.claims.get? j = some other := by
    intro j other hj
    rw [Table.get?_insert] at hj
    split_ifs at hj
    · exact .inl (Option.some.inj hj).symm
    · exact .inr hj
  refine ⟨fun j other hj => ?_, fun j k other other' hj hk hother hother' hpool => ?_,
    h.runnerLimit, h.poolLimit⟩
  · rcases hcases j other hj with rfl | hold
    · exact ⟨hrunner, by simp [ClaimPhase.pool?], nofun, nofun, by simp [ClaimPhase.seen?],
        by simp [ClaimPhase.seen?], nofun⟩
    · exact h.informed j other hold
  · rcases hcases j other hj with rfl | hold
    · simp [Claim.holdsPool] at hother
    rcases hcases k other' hk with rfl | hold'
    · simp [Claim.holdsPool] at hother'
    exact h.alone j k other other' hold hold' hother hother' hpool

/-- **The statements of a claim**, one by one. -/
theorem advance (h : Serialized env s) {i : ℕ} {claim : Claim} (hi : s.claims.get? i = some claim)
    (hstep : s.advance? env i claim = some s') : Serialized env s' := by
  have hinformed := h.informed i claim hi
  obtain ⟨hrunner, hpool, hrunnerFree, hpoolFree, hseen, horganizationFree, hlease⟩ := hinformed
  cases hphase : claim.phase with
  | lockPool =>
    simp only [Contention.advance?, hphase] at hstep
    split_ifs at hstep with hstatus hlocked
    · exact Option.some.inj hstep ▸ h.finish i
    split at hstep
    · exact Option.some.inj hstep ▸ h.finish i
    · rename_i pool hread
      split_ifs at hstep
      · refine Option.some.inj hstep ▸ h.goOn hi ⟨hrunner, ?_, nofun, nofun, by simp [ClaimPhase.seen?],
          by simp [ClaimPhase.seen?], nofun⟩ fun _ => .inr (by simpa using hlocked)
        simpa [ClaimPhase.pool?] using hread
      · exact Option.some.inj hstep ▸ h.finish i
  | countRunner pool =>
    rw [hphase] at hpool
    simp only [Contention.advance?, hphase] at hstep
    split_ifs at hstep with hcount
    · exact Option.some.inj hstep ▸ h.finish i
    · exact Option.some.inj hstep ▸ h.goOn hi ⟨hrunner, hpool, fun _ => by simpa using hcount, nofun,
        by simp [ClaimPhase.seen?], by simp [ClaimPhase.seen?], nofun⟩
          fun _ => .inl (by simp [Claim.holdsPool, hphase])
  | countPool pool =>
    rw [hphase] at hpool hrunnerFree
    simp only [Contention.advance?, hphase] at hstep
    split_ifs at hstep with hcount
    · exact Option.some.inj hstep ▸ h.finish i
    · refine Option.some.inj hstep ▸ h.goOn hi ⟨hrunner, hpool, hrunnerFree, fun _ => ?_,
        by simp [ClaimPhase.seen?], by simp [ClaimPhase.seen?], nofun⟩
          fun _ => .inl (by simp [Claim.holdsPool, hphase])
      simpa [ClaimPhase.pool?] using hcount
  | countOrganization pool =>
    rw [hphase] at hpool hrunnerFree hpoolFree
    simp only [Contention.advance?, hphase] at hstep
    split_ifs at hstep with hcount
    · exact Option.some.inj hstep ▸ h.finish i
    · refine Option.some.inj hstep ▸ h.goOn hi ⟨hrunner, hpool, hrunnerFree, hpoolFree,
        by simp [ClaimPhase.seen?], fun _ _ _ => by simpa using hcount, nofun⟩
          fun _ => .inl (by simp [Claim.holdsPool, hphase])
  | findExecution pool seen =>
    rw [hphase] at hpool hrunnerFree hpoolFree hseen horganizationFree
    simp only [Contention.advance?, hphase] at hstep
    split at hstep
    · exact Option.some.inj hstep ▸ h.finish i
    split at hstep
    · exact Option.some.inj hstep ▸ h.goOn hi ⟨hrunner, hpool, hrunnerFree, hpoolFree, hseen,
        horganizationFree, nofun⟩ fun _ => .inl (by simp [Claim.holdsPool, hphase])
    · exact Option.some.inj hstep ▸ h.finish i
  | createLease pool execution seen =>
    rw [hphase] at hpool hrunnerFree hpoolFree hseen horganizationFree
    simp only [Contention.advance?, hphase] at hstep
    split_ifs at hstep
    · exact Option.some.inj hstep ▸ h.finish i
    · refine Option.some.inj hstep ▸ h.goOn hi ⟨hrunner, hpool, hrunnerFree, hpoolFree, hseen,
        horganizationFree, fun pool' lease seen' hcommit => ?_⟩
          fun _ => .inl (by simp [Claim.holdsPool, hphase])
      obtain ⟨-, rfl, -⟩ := ClaimPhase.commit.inj hcommit
      exact ⟨rfl, rfl, rfl, rfl⟩
  | commit pool lease seen =>
    simp only [Contention.advance?, hphase] at hstep
    exact Option.some.inj hstep ▸ h.commit hi hphase _
  | finished => simp [Contention.advance?, hphase] at hstep

/-- **The invariant is kept by every event.** -/
theorem step (h : Serialized env s) {event : ClaimEvent} (hstep : s.step? env event = some s') :
    Serialized env s' := by
  cases event with
  | arrive runnerId token =>
    obtain ⟨runner, hrunner, rfl⟩ := Option.map_eq_some_iff.1 hstep
    exact h.arrive hrunner
  | advance i =>
    obtain ⟨claim, hi, hadvance⟩ := Option.bind_eq_some_iff.1 hstep
    exact h.advance hi hadvance
  | rollback i => exact Option.some.inj hstep ▸ h.finish i
  | enqueue execution => exact Option.some.inj hstep ▸ h.enqueue _
  | endLease k expired => exact Option.some.inj hstep ▸ h.endLease k expired

end Serialized

variable {env : Env} {s s' : Contention} {A : Contention → ClaimEvent → Prop}

/-- **The invariant holds in every state of overlapping claims.** -/
theorem Contending.serialized (h : Contending env A s) : Serialized env s := by
  induction h with
  | start db hleases =>
    have hnone : ∀ p, activeLeases p db = 0 := by
      intro p
      rw [activeLeases_eq, hleases]
      simp [Table.log, Table.empty]
    exact ⟨fun i claim hi => by simp at hi, fun i j claim other hi => by simp at hi,
      fun _ => by simp [hnone], fun _ _ _ => by simp [hnone]⟩
  | step _ _ hstep ih => exact ih.step hstep

-- ════════════════════════════════════════════════════════════════════════
-- The limit of the organization
-- ════════════════════════════════════════════════════════════════════════

/-- A statement other than the commit leaves the database. -/
theorem Contention.advance?_db {i : ℕ} {claim : Claim} (h : s.advance? env i claim = some s') :
    s'.db = s.db ∨ ∃ pool lease seen executions, claim.phase = .commit pool lease seen ∧
      s'.db = { s.db with executions, leases := s.db.leases.insert lease } := by
  cases hphase : claim.phase with
  | commit pool lease seen =>
    simp only [advance?, hphase, Option.some.injEq] at h
    exact .inr ⟨pool, lease, seen, _, rfl, by rw [← h]⟩
  | lockPool =>
    simp only [advance?, hphase] at h
    split_ifs at h
    · exact .inl (Option.some.inj h ▸ rfl)
    split at h
    · exact .inl (Option.some.inj h ▸ rfl)
    · split_ifs at h
      all_goals exact .inl (Option.some.inj h ▸ rfl)
  | findExecution pool seen =>
    simp only [advance?, hphase] at h
    split at h
    · exact .inl (Option.some.inj h ▸ rfl)
    · split at h
      all_goals exact .inl (Option.some.inj h ▸ rfl)
  | finished => simp [advance?, hphase] at h
  | countRunner pool | countPool pool | countOrganization pool | createLease pool execution seen =>
    simp only [advance?, hphase] at h
    split_ifs at h
    all_goals exact .inl (Option.some.inj h ▸ rfl)

/-- **A claim that was not overtaken** keeps the limit of the organization. -/
theorem OrganizationLimit.step (h : OrganizationLimit env s.db) (hserialized : Serialized env s)
    {event : ClaimEvent} (hadmitted : neverOvertaken s event)
    (hstep : s.step? env event = some s') : OrganizationLimit env s'.db := by
  cases event with
  | arrive runnerId token =>
    obtain ⟨runner, -, rfl⟩ := Option.map_eq_some_iff.1 hstep
    exact h
  | advance i =>
    obtain ⟨claim, hi, hadvance⟩ := Option.bind_eq_some_iff.1 hstep
    rcases Contention.advance?_db hadvance with hdb | ⟨pool, lease, seen, executions, hphase, hdb⟩
    · rwa [hdb]
    have hinformed := hserialized.informed i claim hi
    obtain ⟨hactive, -, -, horganization⟩ := hinformed.lease pool lease seen hphase
    have hfree := hinformed.organizationFree seen (by rw [hphase]; rfl) fun k old hold hk hsame =>
      hadmitted i claim pool lease seen rfl hi hphase ⟨k, old, hold, hk, hsame⟩
    intro organization
    rw [hdb, activeLeases_insert lease executions hactive]
    by_cases hsame : lease.organization = organization
    · rw [← horganization, hsame] at hfree
      rw [if_pos (by simp [hsame])]
      exact hfree
    · simpa [hsame] using h organization
  | rollback i => exact Option.some.inj hstep ▸ h
  | enqueue execution => exact Option.some.inj hstep ▸ h
  | endLease k expired =>
    refine Option.some.inj hstep ▸ fun organization => ?_
    exact (activeLeases_end_le k expired).trans (h organization)

/-- **One active lease a runner, and the limit of each pool, in every state of overlapping
claims; and the limit of the organization, when no claim commits after another pool's claim has
committed a lease of the organization that it has not counted.** -/
theorem lease_limits (env : Env) :
    (∀ s, Contending env (fun _ _ => True) s → RunnerLimit s.db ∧ PoolLimit s.db) ∧
      ∀ s, Contending env neverOvertaken s → OrganizationLimit env s.db := by
  constructor
  · intro s h
    exact ⟨h.serialized.runnerLimit, h.serialized.poolLimit⟩
  · intro s h
    induction h with
    | start db hleases =>
      intro organization
      rw [activeLeases_eq, hleases]
      simp [Table.log, Table.empty]
    | step hbefore hadmitted hstep ih => exact ih.step hbefore.serialized hadmitted hstep

/-- The state after a list of events, each of which happens in a state that `admits`. -/
def Contention.runEvents (env : Env) (admits : Contention → Bool) (s : Contention)
    (events : List ClaimEvent) : Option Contention :=
  events.foldlM (fun s event => if admits s then s.step? env event else none) s

theorem Contending.runEvents {admits : Contention → Bool}
    (hA : ∀ s event, admits s = true → A s event) (events : List ClaimEvent)
    (h : Contending env A s) (hrun : s.runEvents env admits events = some s') :
    Contending env A s' := by
  induction events generalizing s with
  | nil =>
    obtain rfl : s = s' := by simpa [Contention.runEvents] using hrun
    exact h
  | cons event events ih =>
    obtain ⟨s1, hstep, hrest⟩ := Option.bind_eq_some_iff.1 hrun
    simp only at hstep
    split_ifs at hstep with hadmits
    exact ih (h.step (hA s event hadmits) hstep) hrest

/-- One organization with six pools of one runner each. -/
def Db.sixPools : Db where
  reference := { Reference.sample with
    pools := ⟨(List.range 6).map fun i => { organization := 0, key := idText i }⟩
    runners := (List.range 6).map fun i =>
      (idText i, { organization := 0, pool := i, status := .active }) }

/-- There are executions for the six runners, and all of them claim. -/
def claimsArrive : List ClaimEvent :=
  List.replicate 6 (.enqueue
    { organization := 0, workflow := 0, workflowVersion := 1, workflowSnapshot := .obj [] }) ++
    (List.range 6).map fun i => .arrive (idText i) "token"

/-- All of them count before the first one commits. -/
def claimsOverlap : List ClaimEvent :=
  claimsArrive ++ (List.range 6).flatMap (fun i => List.replicate 4 (.advance i)) ++
    (List.range 6).flatMap fun i => List.replicate 3 (.advance i)

/-- Six runners of six pools get six leases, and the limit of the organization is five. -/
theorem organization_limit_exceeded :
    ¬∀ (env : Env) (s : Contention), Contending env (fun _ _ => True) s →
      RunnerLimit s.db ∧ PoolLimit s.db ∧ OrganizationLimit env s.db := by
  intro h
  have hrun : ((⟨.sixPools, .empty⟩ : Contention).runEvents .sample (fun _ => true)
      claimsOverlap).any (fun s => activeLeases (·.organization = 0) s.db = 6) = true := by
    decide
  obtain ⟨s, hs, hcount⟩ := (Option.any_eq_true _ _).1 hrun
  have hcontending : Contending .sample (fun _ _ => True) s :=
    (Contending.start _ rfl).runEvents (fun _ _ _ => trivial) claimsOverlap hs
  have hlimit := (h .sample s hcontending).2.2 0
  rw [decide_eq_true_eq] at hcount
  rw [hcount] at hlimit
  simp [Env.sample] at hlimit

/-- A claim that runs alone gets its lease within the limits. -/
theorem lease_limits_alone :
    ∃ s, Contending .sample neverOvertaken s ∧ activeLeases (fun _ => true) s.db = 1 ∧
      (RunnerLimit s.db ∧ PoolLimit s.db) ∧ OrganizationLimit .sample s.db := by
  have hrun : ((⟨.sixPools, .empty⟩ : Contention).runEvents .sample (·.db.leases.rows.isEmpty)
      (claimsArrive ++ List.replicate 7 (.advance 0))).any
        (fun s => activeLeases (fun _ => true) s.db = 1) = true := by
    decide
  obtain ⟨s, hs, hcount⟩ := (Option.any_eq_true _ _).1 hrun
  have hfresh : ∀ (s : Contention) (event : ClaimEvent), s.db.leases.rows.isEmpty = true →
      neverOvertaken s event := by
    intro s event hempty i claim pool lease seen _ _ _ ⟨k, old, hold, _⟩
    rw [List.isEmpty_iff] at hempty
    simp [Table.get?, hempty] at hold
  have hcontending : Contending .sample neverOvertaken s :=
    (Contending.start _ rfl).runEvents hfresh _ hs
  have hany : Contending .sample (fun _ _ => True) s :=
    (Contending.start _ rfl).runEvents (fun _ _ _ => trivial) _ hs
  exact ⟨s, hcontending, of_decide_eq_true hcount, (lease_limits .sample).1 s hany,
    (lease_limits .sample).2 s hcontending⟩

-- ════════════════════════════════════════════════════════════════════════
-- A claim that runs alone
-- ════════════════════════════════════════════════════════════════════════

/-- The three counts let a claim pass exactly when there is capacity for it. -/
theorem hasCapacity_iff {runnerId : String} {runner : Runner} {pool : RunnerPool} {db : Db} :
    hasCapacity env runnerId runner pool db = true ↔
      ¬1 ≤ activeLeases (·.runner = runnerId) db ∧
        ¬pool.maxConcurrentExecutions ≤ activeLeases (·.pool = runner.pool) db ∧
          ¬env.runnerOrgMaxConcurrent ≤ activeLeases (·.organization = runner.organization) db := by
  simp only [hasCapacity, Bool.and_eq_true, decide_eq_true_eq, Nat.not_le]
  tauto

/-- **The statements that create a lease and commit it** write what `grantLease` writes. -/
theorem grantLease_advance {i : ℕ} {claim : Claim} {pool : RunnerPool} {execution seen : ℕ}
    {e : Execution} {db' : Db} (hi : s.claims.get? i = some claim)
    (he : s.db.executions.get? execution = some e) (hqueued : e.status = .queued)
    (h : (grantLease claim.runnerId claim.runner pool execution claim.token s.db.now).run s.db =
      .ok ((), db')) :
    ∃ s1 claim1 s2, s.advance? env i { claim with phase := .createLease pool execution seen } =
      some s1 ∧ s1.claims.get? i = some claim1 ∧ s1.advance? env i claim1 = some s2 ∧
        s2.db = db' := by
  simp only [grantLease, Tx.bind_ok, moveExecution_ok, insertUnique_ok, Tx.run_pure,
    Except.ok.injEq, Prod.mk.injEq] at h
  obtain ⟨_, _, rfl, _, _, ⟨hfree, -, rfl⟩, -, rfl⟩ := h
  have hnone : (s.db.leases.find? fun _ lease => lease.execution = execution) = none :=
    Table.find?_none.2 hfree
  have hadvance : s.advance? env i { claim with phase := .createLease pool execution seen } =
      some (s.goOn i (.commit pool (s.newLease claim execution) seen)) := by
    simp only [Contention.advance?, hnone]
    rfl
  refine ⟨_, { claim with phase := .commit pool (s.newLease claim execution) seen }, _, hadvance,
    by simp [Contention.goOn, hi], rfl, ?_⟩
  have hmove : (s.db.executions.modify execution fun e =>
      if e.status ∈ [ExecutionStatus.queued] then
        { claimColumns claim.runnerId claim.token pool.key s.db.now e with status := .claimed }
      else e) = s.db.executions.modify execution fun e =>
        { claimColumns claim.runnerId claim.token pool.key s.db.now e with status := .claimed } :=
    Table.modify_congr he (by simp [hqueued])
  simp only [Contention.goOn, Rel.leases, Contention.newLease, hmove]

end RunbookPlatform
