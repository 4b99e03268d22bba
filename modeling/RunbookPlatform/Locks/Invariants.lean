import RunbookPlatform.Locks.Runs

/-!
# Invariants of target locks

Active locks belong to changes that are dispatched or running, as long as no change leaves
these statuses with its locks. And a change that is running holds its targets until the end of
its execution is reported, so two of them share none.

## Main definitions

- `Db.LocksOnLive` — active locks belong to live changes
- `Db.HoldsTargets` — unfinished bindings of live changes hold their targets
- `NoLockLeft` — no change leaves its dispatch with a lock

## Main results

- `locks_on_live_changes` — in these runs, active locks belong to live changes
- `running_changes_hold_targets` — mutual exclusion of running changes
-/

namespace RunbookPlatform

open Transactional

namespace Db

/-- The change is dispatched or running. -/
def Live (s : Db) (c : ℕ) : Prop := s.ChangeIn .dispatchable c ∨ s.ChangeIn .running c

/-- Every active lock belongs to a live change. -/
def LocksOnLive (s : Db) : Prop := ∀ i l, s.ActiveLock i l → s.Live l.changeRecord

/-- Every target of the change is locked for it. -/
def Holding (s : Db) (c : ℕ) : Prop :=
  ∃ row, s.changes.get? c = some row ∧ ∀ k t, s.changeTargets.get? k = some t →
    t.changeRecord = c → ∃ i l, s.ActiveLock i l ∧ l.Holds c row.organization k t

/-- A live change holds its targets while its execution is not reported finished. -/
def HoldsTargets (s : Db) : Prop :=
  ∀ i b, s.bindings.get? i = some b → b.executionFinishedAt = none → s.Live b.changeRecord →
    s.Holding b.changeRecord

/-- A change has at most one binding. -/
def UniqueBindings (s : Db) : Prop :=
  ∀ i b j b', s.bindings.get? i = some b → s.bindings.get? j = some b' →
    b.changeRecord = b'.changeRecord → i = j

variable {s s' : Db} {c : ℕ}

theorem Live.congr (h : SameOn [.changeStatus .dispatchable, .changeStatus .running] s s') :
    s'.Live c ↔ s.Live c :=
  or_congr (h (.changeStatus .dispatchable) (by decide) c).symm
    (h (.changeStatus .running) (by decide) c).symm

/-- A change without a move is as live as before. -/
theorem Live.of_others (h : ∀ st, s'.ChangeIn st c ↔ s.ChangeIn st c) : s'.Live c ↔ s.Live c :=
  or_congr (h .dispatchable) (h .running)

/-- A change goes on holding its targets while it keeps its locks. -/
theorem Holding.later (h : s.Holding c) (hsame : SameOn [.changeIdentity] s s')
    (htargets : ∀ k t, s'.changeTargets.get? k = some t → t.changeRecord = c →
      s.changeTargets.get? k = some t)
    (hlocks : ∀ i l, l.changeRecord = c → s.ActiveLock i l → s'.ActiveLock i l) : s'.Holding c := by
  obtain ⟨row, hrow, hholds⟩ := h
  obtain ⟨row', hrow', hevolves⟩ := hsame .changeIdentity (by decide) c row hrow
  refine ⟨row', hrow', fun k t ht hc => ?_⟩
  obtain ⟨i, l, hl, hlock⟩ := hholds k t (htargets k t ht hc) hc
  exact ⟨i, l, hlocks i l hlock.change hl, hevolves.organization ▸ hlock⟩

end Db

/-- Active locks are for live changes, and none of them is for a change that leaves. -/
def Settled (leaves : ℕ → Prop) (s : Db) : Prop :=
  s.LocksOnLive ∧ ∀ i l, s.ActiveLock i l → ¬leaves l.changeRecord

-- ════════════════════════════════════════════════════════════════════════
-- What steps preserve
-- ════════════════════════════════════════════════════════════════════════

namespace LockStep

variable {leaves : ℕ → Prop} {s s' : Db}

/-- **A step** in which no change leaves with a lock keeps locks on live changes. -/
theorem settled (h : LockStep leaves s s') (hs : Settled leaves s) : Settled leaves s' := by
  obtain ⟨hlive, hkept⟩ := hs
  -- the locks and the statuses of their changes stay
  have hsame : SameOn [.changeStatus .dispatchable, .changeStatus .running, .targetLocks] s s' →
      Settled leaves s' := by
    intro hsame
    have hactive := fun i l => Db.activeLock_congr (i := i) (l := l)
      (hsame .targetLocks (by decide))
    exact ⟨fun i l hl => (Db.Live.congr (hsame.mono (by decide))).2 (hlive i l ((hactive i l).1 hl)),
      fun i l hl => hkept i l ((hactive i l).1 hl)⟩
  -- the locks of one change are released, and the other changes stay
  have hrelease : ∀ c, Released c s s' →
      (∀ i, i ≠ c → (s'.Live i ↔ s.Live i)) → Settled leaves s' := by
    intro c hreleased hothers
    refine ⟨fun i l hl => ?_, fun i l hl => hkept i l ((hreleased i l).1 hl).1⟩
    obtain ⟨hl, hne⟩ := (hreleased i l).1 hl
    exact (hothers _ hne).2 (hlive i l hl)
  cases h with
  | quiet h => exact hsame (h.mono (by decide))
  | addTarget t hdraft htargets h => exact hsame (h.mono (by decide))
  | callback id b b' hbindings hb' h => exact hsame (h.mono (by decide))
  | reserve c hfree h =>
    obtain ⟨row, -, hlocked⟩ := h.locked
    refine ⟨fun i l hl => ?_, fun i l hl => ?_⟩
    · by_cases hc : l.changeRecord = c
      · exact .inl (hc ▸ h.moved.became)
      · exact (Db.Live.of_others fun st => h.moved.others st _ hc).2
          (hlive i l ((hlocked.new i l hl).resolve_right hc))
    · rcases hlocked.new i l hl with hl | hc
      · exact hkept i l hl
      · exact hc ▸ hfree
  | bind id b b' hbindings hb' hdispatchable hmoved h =>
    have hactive := fun i l => Db.activeLock_congr (i := i) (l := l) (h .targetLocks (by decide))
    refine ⟨fun i l hl => ?_, fun i l hl => hkept i l ((hactive i l).1 hl)⟩
    by_cases hc : l.changeRecord = b.changeRecord
    · exact .inr (hc ▸ hmoved.became)
    · exact (Db.Live.of_others fun st => hmoved.others st _ hc).2 (hlive i l ((hactive i l).1 hl))
  | leave c hc hdispatchable hrunning hothers h =>
    have hactive := fun i l => Db.activeLock_congr (i := i) (l := l) (h .targetLocks (by decide))
    refine ⟨fun i l hl => ?_, fun i l hl => hkept i l ((hactive i l).1 hl)⟩
    have hne : l.changeRecord ≠ c := fun hlc => hkept i l ((hactive i l).1 hl) (hlc ▸ hc)
    exact (Db.Live.of_others fun st => hothers st _ hne).2 (hlive i l ((hactive i l).1 hl))
  | finish id b b' hbindings hbound hb' hreleased h =>
    exact hrelease _ hreleased fun i _ => Db.Live.congr (h.mono (by decide))
  | close c hreleased hmoved h =>
    exact hrelease c hreleased fun i hi => Db.Live.of_others fun st => hmoved.others st i hi

/-- What mutual exclusion rests on. -/
structure Exclusive (s : Db) : Prop where
  locks : s.UniqueLocks
  bindings : s.UniqueBindings
  holds : s.HoldsTargets

/-- Released locks stay unique. -/
theorem uniqueLocks_of_active (hunique : s.UniqueLocks)
    (h : ∀ i l, s'.ActiveLock i l → s.ActiveLock i l) : s'.UniqueLocks :=
  fun i l j m hl hm => hunique i l j m (h i l hl) (h j m hm)

/-- A binding that is rewritten stays the only one of its change. -/
theorem uniqueBindings_of_replaced {id : ℕ} {b b' : ChangeExecutionBinding}
    (hunique : s.UniqueBindings) (h : s.bindings.Replaced id b b' s'.bindings)
    (hchange : b'.changeRecord = b.changeRecord) : s'.UniqueBindings := by
  have hold : ∀ i r, s'.bindings.get? i = some r → ∃ r', s.bindings.get? i = some r' ∧
      r'.changeRecord = r.changeRecord := by
    intro i r hr
    rcases h.cases hr with ⟨rfl, rfl⟩ | ⟨-, hr⟩
    · exact ⟨b, h.before, hchange.symm⟩
    · exact ⟨r, hr, rfl⟩
  intro i r j r' hr hr' hsame
  obtain ⟨r1, hr1, h1⟩ := hold i r hr
  obtain ⟨r2, hr2, h2⟩ := hold j r' hr'
  exact hunique i r1 j r2 hr1 hr2 (h1.trans (hsame.trans h2.symm))

/-- A change that held its targets keeps them when its locks and its targets stay. -/
theorem holds_of_kept (hholds : s.HoldsTargets) (hsame : SameOn [.changeIdentity, .changeTargets] s s')
    (h : ∀ i r, s'.bindings.get? i = some r → r.executionFinishedAt = none →
      s'.Live r.changeRecord → (∃ j r0, s.bindings.get? j = some r0 ∧
        r0.changeRecord = r.changeRecord ∧ r0.executionFinishedAt = none) ∧
          s.Live r.changeRecord ∧
          ∀ i l, l.changeRecord = r.changeRecord → s.ActiveLock i l → s'.ActiveLock i l) :
    s'.HoldsTargets := by
  intro i r hr hopen hlive
  obtain ⟨⟨j, r0, hr0, hchange, hopen0⟩, hlive0, hlocks⟩ := h i r hr hopen hlive
  have htargets : s.changeTargets = s'.changeTargets := hsame .changeTargets (by decide)
  have hholding := hholds j r0 hr0 hopen0 (hchange ▸ hlive0)
  rw [hchange] at hholding
  exact hholding.later (hsame.mono (by decide)) (fun k t ht _ => htargets ▸ ht) hlocks

/-- The bindings of a state in which only one was rewritten, open as before. -/
theorem binding_of_replaced {id : ℕ} {b b' r : ChangeExecutionBinding} {i : ℕ}
    (h : s.bindings.Replaced id b b' s'.bindings)
    (hb' : b'.changeRecord = b.changeRecord ∧ b'.executionFinishedAt = b.executionFinishedAt)
    (hr : s'.bindings.get? i = some r) (hopen : r.executionFinishedAt = none) :
    ∃ j r0, s.bindings.get? j = some r0 ∧ r0.changeRecord = r.changeRecord ∧
      r0.executionFinishedAt = none := by
  rcases h.cases hr with ⟨rfl, rfl⟩ | ⟨-, hr⟩
  · exact ⟨i, b, h.before, hb'.1.symm, hb'.2 ▸ hopen⟩
  · exact ⟨i, r, hr, rfl, hopen⟩

/-- The bindings stay, and the locks of every change that is still live. -/
theorem exclusive_of_bindings (h : Exclusive s) (hsame : SameOn [.changeIdentity, .changeTargets,
      .bindings] s s') (hlocks : ∀ i l, s'.ActiveLock i l → s.ActiveLock i l)
    (hlive : ∀ c, s'.Live c → s.Live c ∧
      ∀ i l, l.changeRecord = c → s.ActiveLock i l → s'.ActiveLock i l) : Exclusive s' := by
  have hbindings : s.bindings = s'.bindings := hsame .bindings (by decide)
  refine ⟨uniqueLocks_of_active h.locks hlocks, ?_, ?_⟩
  · intro i b j b' hb hb'
    exact h.bindings i b j b' (hbindings ▸ hb) (hbindings ▸ hb')
  · refine holds_of_kept h.holds (hsame.mono (by decide)) fun i r hr hopen hl => ?_
    exact ⟨⟨i, r, hbindings ▸ hr, rfl, hopen⟩, hlive _ hl⟩

/-- **A step** keeps running changes apart. -/
theorem exclusive (h : LockStep leaves s s') (hs : Exclusive s) : Exclusive s' := by
  cases h with
  | quiet hsame =>
    have hactive := fun i l => Db.activeLock_congr (i := i) (l := l)
      (hsame .targetLocks (by decide))
    exact exclusive_of_bindings hs (hsame.mono (by decide)) (fun i l => (hactive i l).1) fun c hc =>
      ⟨(Db.Live.congr (hsame.mono (by decide))).1 hc, fun i l _ => (hactive i l).2⟩
  | addTarget t hdraft htargets hsame =>
    have hactive := fun i l => Db.activeLock_congr (i := i) (l := l)
      (hsame .targetLocks (by decide))
    have hbindings : s.bindings = s'.bindings := hsame .bindings (by decide)
    refine ⟨uniqueLocks_of_active hs.locks fun i l => (hactive i l).1, ?_, ?_⟩
    · intro i b j b' hb hb'
      exact hs.bindings i b j b' (hbindings ▸ hb) (hbindings ▸ hb')
    · intro i b hb hopen hlive
      have hlive0 : s.Live b.changeRecord := (Db.Live.congr (hsame.mono (by decide))).1 hlive
      refine (hs.holds i b (hbindings ▸ hb) hopen hlive0).later (hsame.mono (by decide))
        (fun k t' ht' hc => ?_) fun i l _ => (hactive i l).2
      rw [htargets, Table.get?_insert] at ht'
      split_ifs at ht'
      · -- the change of the new target is a draft
        cases ht'
        rcases hlive0 with hl | hl
        · cases hdraft.unique (hc ▸ hl)
        · cases hdraft.unique (hc ▸ hl)
      · exact ht'
  | callback id b b' hbindings hb' hsame =>
    have hactive := fun i l => Db.activeLock_congr (i := i) (l := l)
      (hsame .targetLocks (by decide))
    refine ⟨uniqueLocks_of_active hs.locks fun i l => (hactive i l).1,
      uniqueBindings_of_replaced hs.bindings hbindings hb'.1, ?_⟩
    refine holds_of_kept hs.holds (hsame.mono (by decide)) fun i r hr hopen hl => ?_
    exact ⟨binding_of_replaced hbindings ⟨hb'.1, hb'.2.2⟩ hr hopen,
      (Db.Live.congr (hsame.mono (by decide))).1 hl, fun i l _ => (hactive i l).2⟩
  | reserve c _ h =>
    obtain ⟨row, hrow, hlocked⟩ := h.locked
    obtain ⟨b, hb, -, hbindings⟩ := h.bindings
    have htargets : s.changeTargets = s'.changeTargets := h.same .changeTargets (by decide)
    refine ⟨hlocked.unique hs.locks, ?_, ?_⟩
    · intro i r j r' hr hr' hsame
      rw [hbindings, Table.get?_insert] at hr hr'
      split_ifs at hr hr' with hi hj
      · exact hi.trans hj.symm
      · cases hr
        exact absurd (hsame.symm.trans hb) (h.unbound j r' hr')
      · cases hr'
        exact absurd (hsame.trans hb) (h.unbound i r hr)
      · exact hs.bindings i r j r' hr hr' hsame
    · intro i r hr hopen hlive
      rw [hbindings, Table.get?_insert] at hr
      split_ifs at hr
      · cases hr
        obtain ⟨row', hrow', hevolves⟩ := h.same .changeIdentity (by decide) c row hrow
        refine ⟨row', by rw [hb, hrow'], fun k t ht hc => ?_⟩
        obtain ⟨j, l, hl, hholds⟩ :=
          hlocked.covers k t (htargets ▸ ht) ⟨t, htargets ▸ ht, hc.trans hb⟩
        exact ⟨j, l, hl, by rw [hb, hevolves.organization]; exact hholds⟩
      · have hne := h.unbound i r hr
        exact (hs.holds i r hr hopen ((Db.Live.of_others fun st => h.moved.others st _ hne).1
          hlive)).later (h.same.mono (by decide)) (fun k t ht _ => htargets ▸ ht)
            fun i l _ => hlocked.kept i l
  | bind id b b' hbindings hb' hdispatchable hmoved hsame =>
    have hactive := fun i l => Db.activeLock_congr (i := i) (l := l)
      (hsame .targetLocks (by decide))
    refine ⟨uniqueLocks_of_active hs.locks fun i l => (hactive i l).1,
      uniqueBindings_of_replaced hs.bindings hbindings hb'.1, ?_⟩
    refine holds_of_kept hs.holds (hsame.mono (by decide)) fun i r hr hopen hl => ?_
    refine ⟨binding_of_replaced hbindings hb' hr hopen, ?_, fun i l _ => (hactive i l).2⟩
    by_cases hc : r.changeRecord = b.changeRecord
    · exact .inl (hc ▸ hdispatchable)
    · exact (Db.Live.of_others fun st => hmoved.others st _ hc).1 hl
  | leave c hc hdispatchable hrunning hothers hsame =>
    have hactive := fun i l => Db.activeLock_congr (i := i) (l := l)
      (hsame .targetLocks (by decide))
    refine exclusive_of_bindings hs (hsame.mono (by decide)) (fun i l => (hactive i l).1)
      fun i hi => ⟨?_, fun i l _ => (hactive i l).2⟩
    have hne : i ≠ c := by
      rintro rfl
      exact hi.elim hdispatchable hrunning
    exact (Db.Live.of_others fun st => hothers st i hne).1 hi
  | finish id b b' hbindings hbound hb' hreleased hsame =>
    refine ⟨uniqueLocks_of_active hs.locks fun i l hl => ((hreleased i l).1 hl).1,
      uniqueBindings_of_replaced hs.bindings hbindings hb'.1, ?_⟩
    refine holds_of_kept hs.holds (hsame.mono (by decide)) fun i r hr hopen hl => ?_
    rcases hbindings.cases hr with ⟨rfl, rfl⟩ | ⟨hi, hr⟩
    · rw [hopen] at hb'
      simp at hb'
    · -- no other binding is for the change whose locks go
      have hne : r.changeRecord ≠ b.changeRecord :=
        fun hc => hi (hs.bindings i r id b hr hbindings.before hc)
      exact ⟨⟨i, r, hr, rfl, hopen⟩, (Db.Live.congr (hsame.mono (by decide))).1 hl,
        fun j l hlc hactive => (hreleased j l).2 ⟨hactive, hlc ▸ hne⟩⟩
  | close c hreleased hmoved hsame =>
    refine exclusive_of_bindings hs hsame (fun i l hl => ((hreleased i l).1 hl).1) fun i hi => ?_
    have hne : i ≠ c := by
      rintro rfl
      rcases hi with hi | hi
      · cases hmoved.became.unique hi
      · cases hmoved.became.unique hi
    exact ⟨(Db.Live.of_others fun st => hmoved.others st i hne).1 hi,
      fun j l hlc hactive => (hreleased j l).2 ⟨hactive, hlc ▸ hne⟩⟩

end LockStep

-- ════════════════════════════════════════════════════════════════════════
-- Runs
-- ════════════════════════════════════════════════════════════════════════

namespace LockSteps

variable {leaves : ℕ → Prop} {s s' : Db}

theorem settled (h : LockSteps leaves s s') (hs : Settled leaves s) : Settled leaves s' := by
  induction h with
  | refl => exact hs
  | tail _ hstep ih => exact hstep.settled ih

theorem exclusive (h : LockSteps leaves s s') (hs : LockStep.Exclusive s) :
    LockStep.Exclusive s' := by
  induction h with
  | refl => exact hs
  | tail _ hstep ih => exact hstep.exclusive ih

end LockSteps

/-- No change leaves its dispatch, or its execution, with a lock. -/
def NoLockLeft : Admission := fun n s =>
  ∀ c, LeavesLocked s n c → ∀ i l, s.ActiveLock i l → l.changeRecord ≠ c

/-- **No leaked lock**: in every interleaving in which no change leaves its dispatch or its
execution with a lock, every active lock belongs to a change that is dispatched or running. -/
theorem locks_on_live_changes {env : Env} {s : Db} (h : Interleaved env NoLockLeft s) :
    ∀ i l, s.targetLocks.get? i = some l → l.status = .active →
      ∃ row, s.changes.get? l.changeRecord = some row ∧
        (row.status = .dispatchable ∨ row.status = .running) := by
  have hlive : s.LocksOnLive := by
    refine h.invariant (I := Db.LocksOnLive) (Op.lockMoves env)
      (fun reference now => by simp [Db.LocksOnLive, Db.ActiveLock, Db.initial]) ?_
    intro n s s' hmove hadmitted hlive
    exact (LockSteps.settled hmove
      ⟨hlive, fun i l hl hleaves => hadmitted _ hleaves i l hl rfl⟩).1
  intro i l hl hactive
  rcases hlive i l ⟨hl, hactive⟩ with ⟨row, hrow, hstatus⟩ | ⟨row, hrow, hstatus⟩
  · exact ⟨row, hrow, .inl hstatus⟩
  · exact ⟨row, hrow, .inr hstatus⟩

/-- A change is dispatched, and its dispatch token expires before a runner claims it. -/
def expiredRun : Db :=
  runOps .sample
    [.createChange .sample .sample, .submitChange 0 .sample "nonce", .tick 1000000000,
      .claimNext "runner" true "token" fun _ => "nonce"]
    (.initial (.sample .sample) 0)

/-- The claim expires the change, and its lock stays. -/
theorem lock_outlives_change :
    ¬∀ (env : Env) (s : Db), Interleaved env anyAdmission s →
      ∀ i l, s.targetLocks.get? i = some l → l.status = .active →
        ∃ row, s.changes.get? l.changeRecord = some row ∧
          (row.status = .dispatchable ∨ row.status = .running) := by
  intro h
  obtain ⟨hlock, hexpired⟩ : (expiredRun.targetLocks.get? 0).any
        (fun l => l.status = .active && l.changeRecord = 0) = true ∧
      (expiredRun.changes.get? 0).any (·.status = .expired) = true := by
    decide +kernel
  obtain ⟨l, hl, hactive⟩ := (Option.any_eq_true _ _).1 hlock
  obtain ⟨row, hrow, hstatus⟩ := (Option.any_eq_true _ _).1 hexpired
  simp only [Bool.and_eq_true, decide_eq_true_eq] at hactive hstatus
  obtain ⟨row', hrow', hlive⟩ := h .sample expiredRun (Reachable.sample _ _).interleaved 0 l hl hactive.1
  rw [hactive.2, hrow] at hrow'
  cases hrow'
  simp [hstatus] at hlive

/-- A change that was dispatched. -/
def dispatchedRun : Db :=
  runOps .sample [.createChange .sample .sample, .submitChange 0 .sample "nonce"]
    (.initial (.sample .sample) 0)

/-- The transaction creates or submits a change. -/
def TxName.precedesDispatch : TxName → Bool
  | .service | .submitChange _ => true
  | _ => false

theorem locks_on_live_changes_dispatched :
    ∃ l, dispatchedRun.targetLocks.get? 0 = some l ∧ l.status = .active ∧
      ∃ row, dispatchedRun.changes.get? l.changeRecord = some row ∧
        (row.status = .dispatchable ∨ row.status = .running) := by
  have hadmitted : ∀ n s, TxName.precedesDispatch n = true → NoLockLeft n s := by
    intro n s hn c hleaves
    cases hleaves <;> cases hn
  have hinitial : Reachable .sample NoLockLeft (.initial (.sample .sample) 0) := .initial _ _
  have hcreated := hinitial.request (.createChange .sample .sample)
    (meets_of_names hadmitted (by decide))
  have hdispatched : Reachable .sample NoLockLeft dispatchedRun := by
    -- rewritten, as the kernel would run both sides to compare them
    rw [dispatchedRun, runOps, runOps, runOps]
    exact hcreated.request (.submitChange 0 .sample "nonce")
      (meets_of_names hadmitted (by decide +kernel))
  obtain ⟨l, hl, hactive⟩ := (Option.any_eq_true _ _).1 (by decide +kernel :
    (dispatchedRun.targetLocks.get? 0).any (·.status = .active) = true)
  rw [decide_eq_true_eq] at hactive
  exact ⟨l, hl, hactive, locks_on_live_changes hdispatched.interleaved 0 l hl hactive⟩

theorem exclusive_of_interleaved {env : Env} {A : Admission} {s : Db} (h : Interleaved env A s) :
    LockStep.Exclusive s := by
  refine h.invariant (I := LockStep.Exclusive) (Op.lockMoves env) (fun reference now => ?_)
    fun n s s' hmove _ hs => LockSteps.exclusive hmove hs
  constructor <;> simp [Db.UniqueLocks, Db.UniqueBindings, Db.HoldsTargets, Db.ActiveLock, Db.initial]

/-- The execution of change `c` runs, and its end has not been reported. -/
def Unfinished (s : Db) (c : ℕ) : Prop :=
  ∃ row, s.changes.get? c = some row ∧ row.status = .running ∧
    ∃ i b, s.bindings.get? i = some b ∧ b.changeRecord = c ∧ b.executionFinishedAt = none

/-- **Mutual exclusion**: in every interleaving, a running change whose execution has not been
reported finished has an active lock on each of its targets, and two such changes of one
organization have no target in common. -/
theorem running_changes_hold_targets {env : Env} {s : Db} (h : Interleaved env anyAdmission s) :
    (∀ c, Unfinished s c → ∀ k t, s.changeTargets.get? k = some t → t.changeRecord = c →
      ∃ i l, s.targetLocks.get? i = some l ∧ l.status = .active ∧ l.changeRecord = c ∧
        l.changeTarget = k ∧ l.targetType = t.targetType ∧
        l.normalizedIdentifier = t.normalizedIdentifier) ∧
    (∀ c row c' row', Unfinished s c → Unfinished s c' → s.changes.get? c = some row →
      s.changes.get? c' = some row' → row.organization = row'.organization → c ≠ c' →
        ∀ k t k' t', s.changeTargets.get? k = some t → t.changeRecord = c →
          s.changeTargets.get? k' = some t' → t'.changeRecord = c' →
            ¬(t.targetType = t'.targetType ∧ t.normalizedIdentifier = t'.normalizedIdentifier)) := by
  obtain ⟨hlocks, -, hholds⟩ := exclusive_of_interleaved h
  have hheld : ∀ c, Unfinished s c → s.Holding c := by
    rintro c ⟨row, hrow, hrunning, i, b, hb, rfl, hopen⟩
    exact hholds i b hb hopen (.inr ⟨row, hrow, hrunning⟩)
  refine ⟨fun c hc k t ht htc => ?_, ?_⟩
  · obtain ⟨row, -, hcovers⟩ := hheld c hc
    obtain ⟨i, l, hl, hlock⟩ := hcovers k t ht htc
    exact ⟨i, l, hl.1, hl.2, hlock.change, hlock.target, hlock.targetType,
      hlock.normalizedIdentifier⟩
  · rintro c row c' row' hc hc' hrow hrow' horganization hne k t k' t' ht htc ht' htc' ⟨htype, hident⟩
    obtain ⟨r, hr, hcovers⟩ := hheld c hc
    obtain ⟨r', hr', hcovers'⟩ := hheld c' hc'
    rw [hrow] at hr
    cases hr
    rw [hrow'] at hr'
    cases hr'
    obtain ⟨i, l, hl, hlock⟩ := hcovers k t ht htc
    obtain ⟨j, m, hm, hlock'⟩ := hcovers' k' t' ht' htc'
    -- the two locks would be one
    have hij : i = j := by
      refine hlocks i l j m hl hm ?_ ?_ ?_
      · rw [hlock.organization, hlock'.organization, horganization]
      · rw [hlock.targetType, hlock'.targetType, htype]
      · rw [hlock.normalizedIdentifier, hlock'.normalizedIdentifier, hident]
    subst hij
    obtain rfl : l = m := Option.some.inj (hl.1.symm.trans hm.1)
    exact hne (hlock.change.symm.trans hlock'.change)

/-- The runner reports the bound execution finished. -/
def finishedRun : Db :=
  runOps .sample (boundOps ++ [.reportFinished .sample]) (.initial (.sample .sample) 0)

/-- The report releases the locks while the execution is not over. -/
theorem running_change_without_lock :
    ¬∀ (env : Env) (s : Db), Interleaved env anyAdmission s → ∀ c row i b e,
      s.changes.get? c = some row → row.status = .running →
        s.bindings.get? i = some b → b.changeRecord = c →
          s.executions.get? b.execution = some e → e.status.isTerminal = false →
            ∀ k t, s.changeTargets.get? k = some t → t.changeRecord = c →
              ∃ j l, s.targetLocks.get? j = some l ∧ l.status = .active ∧ l.changeTarget = k := by
  intro h
  obtain ⟨hchange, hbinding, hexecution, htarget, hlocks⟩ :
      (finishedRun.changes.get? 0).any (·.status = .running) = true ∧
      (finishedRun.bindings.get? 0).any (fun b => b.changeRecord = 0 && b.execution = 0) = true ∧
      (finishedRun.executions.get? 0).any (·.status.isTerminal = false) = true ∧
      (finishedRun.changeTargets.get? 0).any (·.changeRecord = 0) = true ∧
      finishedRun.targetLocks.rows.all (·.status ≠ .active) = true := by
    decide +kernel
  obtain ⟨row, hrow, hrunning⟩ := (Option.any_eq_true _ _).1 hchange
  obtain ⟨b, hb, hbound⟩ := (Option.any_eq_true _ _).1 hbinding
  obtain ⟨e, he, hopen⟩ := (Option.any_eq_true _ _).1 hexecution
  obtain ⟨t, ht, htc⟩ := (Option.any_eq_true _ _).1 htarget
  simp only [Bool.and_eq_true, decide_eq_true_eq] at hrunning hbound hopen htc
  obtain ⟨j, l, hl, hactive, -⟩ := h .sample finishedRun (Reachable.sample _ _).interleaved 0 row 0 b e
    hrow hrunning hb hbound.1 (by rw [hbound.2, he]) hopen 0 t ht htc
  have hreleased := List.all_eq_true.1 hlocks l (List.mem_of_getElem? hl)
  simp [hactive] at hreleased

/-- The bound execution runs, and holds its target. -/
def boundRun : Db := runOps .sample boundOps (.initial (.sample .sample) 0)

theorem running_changes_hold_targets_bound : ∃ i l, boundRun.targetLocks.get? i = some l ∧
    l.status = .active ∧ l.changeRecord = 0 ∧ l.changeTarget = 0 := by
  obtain ⟨hchange, hbinding, htarget⟩ :
      (boundRun.changes.get? 0).any (·.status = .running) = true ∧
      (boundRun.bindings.get? 0).any
        (fun b => b.changeRecord = 0 && b.executionFinishedAt = none) = true ∧
      (boundRun.changeTargets.get? 0).any (·.changeRecord = 0) = true := by
    decide +kernel
  obtain ⟨row, hrow, hrunning⟩ := (Option.any_eq_true _ _).1 hchange
  obtain ⟨b, hb, hopen⟩ := (Option.any_eq_true _ _).1 hbinding
  obtain ⟨t, ht, htc⟩ := (Option.any_eq_true _ _).1 htarget
  simp only [Bool.and_eq_true, decide_eq_true_eq] at hrunning hopen htc
  obtain ⟨i, l, hl, hactive, hc, hk, -⟩ :=
    (running_changes_hold_targets (Reachable.sample .sample boundOps).interleaved).1 0
      ⟨row, hrow, hrunning, 0, b, hb, hopen⟩ 0 t ht htc
  exact ⟨i, l, hl, hactive, hc, hk⟩

end RunbookPlatform
