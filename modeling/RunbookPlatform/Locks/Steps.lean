import RunbookPlatform.System

/-!
# What happens to target locks

Every transaction of the platform, seen from the target locks: it is a sequence of the few
steps of `LockStep`, most of them `quiet`. The invariants of locks need no other knowledge
of the services.

## Main definitions

- `Db.ActiveLock`, `Db.UniqueLocks` — the active locks, and the constraint on them
- `LockStep` — the steps, with the changes that may leave their dispatch early

## Main results

- `makeDispatchable_reserved` — a dispatch locks all targets of its change
- `releaseActiveTargetLocks_active` — a release takes all locks of a change
-/

namespace RunbookPlatform

open Transactional

set_option synthInstance.maxSize 1000

namespace Db

/-- `l` is the active lock with key `i`. -/
def ActiveLock (s : Db) (i : ℕ) (l : TargetLock) : Prop :=
  s.targetLocks.get? i = some l ∧ l.status = .active

/-- `targetlock_one_active_per_target`: at most one active lock for each organization, target
type and normalized identifier. -/
def UniqueLocks (s : Db) : Prop :=
  ∀ i l j m, s.ActiveLock i l → s.ActiveLock j m → l.organization = m.organization →
    l.targetType = m.targetType → l.normalizedIdentifier = m.normalizedIdentifier → i = j

theorem ChangeIn.unique {s : Db} {st st' : ChangeStatus} {c : ℕ} (h : s.ChangeIn st c)
    (h' : s.ChangeIn st' c) : st = st' := by
  obtain ⟨row, hrow, rfl⟩ := h
  obtain ⟨row', hrow', rfl⟩ := h'
  rw [hrow] at hrow'
  cases hrow'
  rfl

/-- Active locks are a matter of the lock table. -/
theorem activeLock_congr {s s' : Db} (h : Cells.agree Cell.targetLocks s s') {i : ℕ}
    {l : TargetLock} : s'.ActiveLock i l ↔ s.ActiveLock i l := by
  have htable : s.targetLocks = s'.targetLocks := h
  simp only [ActiveLock, htable]

end Db

/-- The lock holds target `k` of change `c` for an organization. -/
structure TargetLock.Holds (l : TargetLock) (c organization k : ℕ) (t : ChangeTarget) :
    Prop where
  change : l.changeRecord = c
  organization : l.organization = organization
  target : l.changeTarget = k
  targetType : l.targetType = t.targetType
  normalizedIdentifier : l.normalizedIdentifier = t.normalizedIdentifier

/-- The cells that the life of locks is about. -/
@[reducible] def lockCells : List Cell :=
  [.changeIdentity, .changeStatus .dispatchable, .changeStatus .running, .changeTargets,
    .bindings, .targetLocks]

-- ════════════════════════════════════════════════════════════════════════
-- Release
-- ════════════════════════════════════════════════════════════════════════

/-- The active locks of change `c` are gone, and no others. -/
def Released (c : ℕ) (s s' : Db) : Prop :=
  ∀ i l, s'.ActiveLock i l ↔ s.ActiveLock i l ∧ l.changeRecord ≠ c

/-- The loop of a release: the locks it goes through are not active any more. -/
private theorem releaseLoop_active {organization : ℕ} {now : Time} {actor : AuditActor}
    {reason : String} (locks : List (Loaded TargetLock)) {s s' : Db} {u : Unit}
    (h : (Tx.forEach (fun lock : Loaded TargetLock => (do
      updateRow Rel.targetLocks lock.id fun l =>
        { l with status := .released, releasedAt := some now, releaseReason := reason }
      emit organization actor "target_lock.released" .targetLock lock.id :
        Service [.targetLocks, .audit] Unit)) locks).run s = .ok (u, s')) (i : ℕ) (l : TargetLock) :
    s'.ActiveLock i l ↔ s.ActiveLock i l ∧ i ∉ locks.map (·.id) := by
  induction locks generalizing s with
  | nil =>
    simp only [Tx.forEach, Tx.run_pure, Except.ok.injEq, Prod.mk.injEq] at h
    obtain ⟨-, rfl⟩ := h
    simp
  | cons lock locks ih =>
    simp only [Tx.forEach, Tx.bind_ok, updateRow_ok, Tx.run_lift, emit_ok] at h
    obtain ⟨_, s2, ⟨_, _, rfl, rfl⟩, h⟩ := h
    rw [ih h]
    simp only [Db.ActiveLock, Rel.targetLocks_get, Rel.targetLocks_set, Table.get?_modify,
      List.map_cons, List.mem_cons, not_or]
    by_cases hi : i = lock.id
    · subst hi
      simp only [if_true, Option.map_eq_some_iff, not_true, false_and, and_false, iff_false]
      rintro ⟨⟨⟨r, -, rfl⟩, hactive⟩, -⟩
      cases hactive
    · simp only [hi, if_false, not_false_eq_true, true_and]

theorem releaseActiveTargetLocks_active {c organization : ℕ} {now : Time} {actor : AuditActor}
    {reason : String} {s s' : Db} {n : ℕ}
    (h : (releaseActiveTargetLocks c organization now actor reason).run s = .ok (n, s')) :
    Released c s s' := by
  simp only [releaseActiveTargetLocks, Tx.bind_ok, Tx.lift_query_ok, select_ok, Tx.run_pure,
    Except.ok.injEq, Prod.mk.injEq] at h
  obtain ⟨_, _, ⟨rfl, rfl⟩, _, _, hloop, -, rfl⟩ := h
  intro i l
  rw [releaseLoop_active _ hloop]
  refine and_congr_right fun hactive => not_congr ?_
  simp only [List.mem_map]
  constructor
  · rintro ⟨⟨j, row⟩, hmem, rfl⟩
    obtain ⟨hrow, hp⟩ := mem_rowsWhere.1 hmem
    rw [hactive.1] at hrow
    cases hrow
    exact (by simpa using hp : l.changeRecord = c ∧ _).1
  · intro hc
    exact ⟨⟨i, l⟩, mem_rowsWhere.2 ⟨hactive.1, by simp [hc, hactive.2]⟩, rfl⟩

-- ════════════════════════════════════════════════════════════════════════
-- Dispatch
-- ════════════════════════════════════════════════════════════════════════

/-- Targets of change `c` were locked for an organization: `done` tells which. -/
structure Locked (c organization : ℕ) (done : ℕ → Prop) (s s' : Db) : Prop where
  kept : ∀ i l, s.ActiveLock i l → s'.ActiveLock i l
  new : ∀ i l, s'.ActiveLock i l → s.ActiveLock i l ∨ l.changeRecord = c
  covers : ∀ k t, s.changeTargets.get? k = some t → done k →
    ∃ i l, s'.ActiveLock i l ∧ l.Holds c organization k t
  unique : s.UniqueLocks → s'.UniqueLocks

/-- What was locked stays locked while the lock table does not change. -/
theorem Locked.congr {c organization : ℕ} {done : ℕ → Prop} {s s1 s' : Db}
    (h : Locked c organization done s s1) (hsame : Cells.agree Cell.targetLocks s1 s') :
    Locked c organization done s s' := by
  have hactive := fun i l => Db.activeLock_congr (i := i) (l := l) hsame
  refine ⟨fun i l hl => (hactive i l).2 (h.kept i l hl),
    fun i l hl => h.new i l ((hactive i l).1 hl), fun k t ht hk => ?_, fun hu => ?_⟩
  · obtain ⟨i, l, hl, hholds⟩ := h.covers k t ht hk
    exact ⟨i, l, (hactive i l).2 hl, hholds⟩
  · intro i l j m hl hm
    exact h.unique hu i l j m ((hactive i l).1 hl) ((hactive j m).1 hm)

private theorem acquireTargetLock_locked {c organization execution : ℕ}
    {target : Loaded ChangeTarget} {now : Time} {s s' : Db} {n : ℕ}
    (hrow : s.changeTargets.get? target.id = some target.row)
    (h : (acquireTargetLock c organization execution target now).run s = .ok (n, s')) :
    Locked c organization (· = target.id) s s' := by
  rcases Tx.savepoint_ok.1 h with h | ⟨e, -, h⟩
  · obtain ⟨hfree, -, rfl⟩ := insertUnique_ok.1 h
    simp only [Rel.targetLocks_get] at hfree
    refine ⟨fun i l hl => ?_, fun i l hl => ?_, fun k t ht hk => ?_, fun hunique => ?_⟩
    · exact ⟨Table.get?_insert_of_some _ hl.1, hl.2⟩
    · simp only [Db.ActiveLock, Rel.targetLocks_set, Table.get?_insert] at hl
      split_ifs at hl with hi
      · cases hl.1
        exact .inr rfl
      · exact .inl hl
    · subst hk
      rw [hrow] at ht
      cases ht
      exact ⟨s.targetLocks.next, _, ⟨Table.get?_insert_next _ _, rfl⟩, rfl, rfl, rfl, rfl, rfl⟩
    · intro i l j m hl hm horg htype hident
      simp only [Db.ActiveLock, Rel.targetLocks_set, Rel.targetLocks_get, Table.get?_insert]
        at hl hm
      -- a lock that was there differs from the new one in organization, type or identifier
      have hclash : ∀ k r, s.targetLocks.get? k = some r → r.status = .active →
          r.organization = organization → r.targetType = target.row.targetType →
          r.normalizedIdentifier = target.row.normalizedIdentifier → False := by
        intro k r hr h1 h2 h3 h4
        have hno := hfree k r hr
        simp [lockClash, h1, h2, h3, h4] at hno
      split_ifs at hl hm with hi hj
      · exact hi.trans hj.symm
      · cases hl.1
        exact (hclash j m hm.1 hm.2 horg.symm htype.symm hident.symm).elim
      · rename_i hj
        cases hm.1
        exact (hclash i l hl.1 hl.2 horg htype hident).elim
      · exact hunique i l j m hl hm horg htype hident
  · simp at h

private theorem acquireLoop_locked {c organization execution : ℕ} {now : Time}
    (targets : List (Loaded ChangeTarget)) {s s' : Db} {locks : List ℕ}
    (hrows : ∀ t ∈ targets, s.changeTargets.get? t.id = some t.row)
    (h : (Tx.collect (fun t => (liftM (acquireTargetLock c organization execution t now) :
      Service [.targetLocks, .audit] ℕ)) targets).run s = .ok (locks, s')) :
    Locked c organization (· ∈ targets.map (·.id)) s s' := by
  induction targets generalizing s locks with
  | nil =>
    simp only [Tx.collect, Tx.run_pure, Except.ok.injEq, Prod.mk.injEq] at h
    obtain ⟨-, rfl⟩ := h
    exact ⟨fun _ _ h => h, fun _ _ h => .inl h, by simp, id⟩
  | cons target targets ih =>
    simp only [Tx.collect, Tx.bind_ok, Tx.run_lift, Tx.run_pure, Except.ok.injEq,
      Prod.mk.injEq] at h
    obtain ⟨_, s1, h1, _, _, h2, -, rfl⟩ := h
    have hsame : s.changeTargets = s1.changeTargets := Tx.frame _ h1 .changeTargets (by decide)
    have first := acquireTargetLock_locked (hrows target (by simp)) h1
    have rest := ih (fun t ht => hsame ▸ hrows t (List.mem_cons_of_mem _ ht)) h2
    refine ⟨fun i l hl => rest.kept i l (first.kept i l hl), fun i l hl => ?_,
      fun k t ht hk => ?_, fun hu => rest.unique (first.unique hu)⟩
    · exact (rest.new i l hl).elim (first.new i l) .inr
    · rcases List.mem_cons.1 hk with rfl | hk
      · obtain ⟨i, l, hl, hholds⟩ := first.covers _ t ht rfl
        exact ⟨i, l, rest.kept i l hl, hholds⟩
      · exact rest.covers k t (hsame ▸ ht) hk

theorem acquireTargetLocksForDispatch_locked {c organization execution : ℕ} {now : Time}
    {actor : AuditActor} {s s' : Db} {u : Unit}
    (h : (acquireTargetLocksForDispatch c organization execution now actor).run s = .ok (u, s')) :
    Locked c organization (fun k => ∃ t, s.changeTargets.get? k = some t ∧ t.changeRecord = c)
      s s' := by
  simp only [acquireTargetLocksForDispatch, Tx.bind_ok, Tx.lift_query_ok, select_ok,
    Tx.run_widen] at h
  obtain ⟨_, s0, ⟨rfl, rfl⟩, locks, s1, hloop, hemit⟩ := h
  have hsame : Cells.agree Cell.targetLocks s1 s' := Tx.frame _ hemit .targetLocks (by decide)
  have hlocked := acquireLoop_locked _ (fun t ht => (mem_targetsOf.1 ht).1) hloop
  refine Locked.congr ⟨hlocked.kept, hlocked.new, fun k t ht hk => ?_, hlocked.unique⟩ hsame
  obtain ⟨t', ht', hc⟩ := hk
  rw [ht] at ht'
  cases ht'
  exact hlocked.covers k t ht (List.mem_map.2 ⟨⟨k, t⟩, mem_targetsOf.2 ⟨ht, hc⟩, rfl⟩)

/-- The new binding of a dispatch: it is not bound, and its change had none before. -/
theorem reserveBinding_ok {env : Env} {c : ℕ} {row : ChangeRecord} {profile : OperationProfile}
    {execution : ℕ} {now : Time} {nonce : String} {s s' : Db} {n : ℕ}
    (h : (reserveBinding env c row profile execution now nonce).run s = .ok (n, s')) :
    (∀ i b, s.bindings.get? i = some b → b.changeRecord ≠ c ∧ b.execution ≠ execution) ∧
      ∃ b : ChangeExecutionBinding, s' = { s with bindings := s.bindings.insert b } ∧
        b.changeRecord = c ∧ b.execution = execution ∧ b.boundAt = none ∧
        b.executionFinishedAt = none := by
  simp only [reserveBinding, Tx.bind_ok, insertUnique_ok, Tx.lift_query_ok, updateRow_ok,
    Tx.run_pure, Except.ok.injEq, Prod.mk.injEq] at h
  obtain ⟨_, _, ⟨hfree, rfl, rfl⟩, token, _, ⟨-, rfl⟩, _, _, rfl, -, rfl⟩ := h
  simp only [Rel.bindings_get, Rel.bindings_set, Table.modify_insert_next, Bool.or_eq_false_iff,
    decide_eq_false_iff_not] at hfree ⊢
  exact ⟨hfree, _, rfl, rfl, rfl, rfl, rfl⟩

/-- The status of change `c` became `new`, and no other status changed. -/
structure Moved (c : ℕ) (new : ChangeStatus) (s s' : Db) : Prop where
  became : s'.ChangeIn new c
  others : ∀ st i, i ≠ c → (s'.ChangeIn st i ↔ s.ChangeIn st i)

theorem Moved.iff {c : ℕ} {new : ChangeStatus} {s s' : Db} (h : Moved c new s s')
    {st : ChangeStatus} {i : ℕ} :
    s'.ChangeIn st i ↔ (i = c ∧ st = new) ∨ (i ≠ c ∧ s.ChangeIn st i) := by
  by_cases hi : i = c
  · subst hi
    simp only [true_and, ne_eq, not_true, false_and, or_false]
    exact ⟨fun h' => h'.unique h.became, fun h' => h' ▸ h.became⟩
  · simp [hi, h.others st i hi]

theorem moved_of_modify {s : Db} {c : ℕ} {row : ChangeRecord} {new : ChangeStatus}
    {f : ChangeRecord → ChangeRecord} (hrow : s.changes.get? c = some row)
    (hf : (f row).status = new) : Moved c new s { s with changes := s.changes.modify c f } := by
  refine ⟨⟨f row, by simp [hrow], hf⟩, fun st i hi => ?_⟩
  simp [Db.ChangeIn, Table.get?_modify_of_ne hi]

theorem transitionChange_moved {c : ℕ} {new old : ChangeStatus} {actor : AuditActor} {now : Time}
    {reason : String} {s s' : Db}
    (h : (transitionChange c new actor now reason).run s = .ok (old, s')) :
    s.ChangeIn old c ∧ new ∈ old.allowed ∧ Moved c new s s' := by
  obtain ⟨row, hrow, hold, hnew, rfl⟩ := transitionChange_ok.1 h
  have hmoved := moved_of_modify hrow (applyTransition_status new now reason row)
  exact ⟨⟨row, hrow, hold⟩, hnew, ⟨hmoved.became, hmoved.others⟩⟩

/-- Change `c` was dispatched. -/
structure Reserved (c : ℕ) (s s' : Db) : Prop where
  /-- The change was approved or scheduled. -/
  waiting : s.ChangeIn .approved c ∨ s.ChangeIn .scheduled c
  moved : Moved c .dispatchable s s'
  unbound : ∀ i b, s.bindings.get? i = some b → b.changeRecord ≠ c
  bindings : ∃ b : ChangeExecutionBinding, b.changeRecord = c ∧ b.boundAt = none ∧
    s'.bindings = s.bindings.insert b
  locked : ∃ row, s.changes.get? c = some row ∧
    Locked c row.organization (fun k => ∃ t, s.changeTargets.get? k = some t ∧ t.changeRecord = c)
      s s'
  same : SameOn [.changeIdentity, .changeTargets] s s'

/-- **Dispatch**: it locks every target of the change, creates its only binding and moves it
to `DISPATCHABLE`. -/
theorem makeDispatchable_reserved {env : Env} {c : ℕ} {actor : AuditActor} {nonce : String}
    {s s' : Db} {u : Unit} (h : (makeDispatchable env c actor nonce).run s = .ok (u, s')) :
    ∃ s1 s2, SameOn lockCells s s1 ∧ Reserved c s1 s2 ∧ SameOn lockCells s2 s' := by
  simp only [makeDispatchable, Tx.bind_ok, Tx.lift_query_ok, lookup_ok, Tx.run_lift] at h
  obtain ⟨row, _, ⟨hrow, rfl⟩, now, _, ⟨-, rfl⟩, check, s1, hgates, profile, _, ⟨-, rfl⟩, workflow,
    _, ⟨-, rfl⟩, _, _, ⟨-, rfl⟩, _, _, ⟨-, rfl⟩, execution, s2, hexec, _, s3, hlocks, binding, s4,
    hbinding, old, s5, hmove, hemit⟩ := h
  obtain ⟨hfree, b, hs4, hchange, -, hunbound, -⟩ := reserveBinding_ok hbinding
  obtain ⟨hold, hnew, hmoved⟩ := transitionChange_moved hmove
  have h12 : SameOn lockCells s s2 := (Tx.sameOn hgates _ (by decide)).trans (Tx.sameOn hexec _ (by decide))
  have hchanges : s2.changes = s4.changes :=
    (Tx.frame _ hlocks .changes (by decide)).trans (Tx.frame _ hbinding .changes (by decide))
  have hstatus : ∀ st i, s4.ChangeIn st i ↔ s2.ChangeIn st i := by simp [Db.ChangeIn, hchanges]
  have h25 : SameOn [.changeIdentity, .changeTargets] s2 s5 :=
    ((Tx.sameOn hlocks _ (by decide)).trans (Tx.sameOn hbinding _ (by decide))).trans (Tx.sameOn hmove _ (by decide))
  have h23 : s2.bindings = s3.bindings := Tx.frame _ hlocks .bindings (by decide)
  have h45 : s4.bindings = s5.bindings := Tx.frame _ hmove .bindings (by decide)
  have h35 : s3.targetLocks = s5.targetLocks :=
    (Tx.frame _ hbinding .targetLocks (by decide)).trans
      (Tx.frame _ hmove .targetLocks (by decide))
  obtain ⟨row2, hrow2, hsame⟩ := h12 .changeIdentity (by decide) c row hrow
  refine ⟨s2, s5, h12, ⟨?_, ?_, ?_, ?_, ?_, h25⟩, Tx.sameOn hemit _ (by decide)⟩
  · have hwaiting : old = .approved ∨ old = .scheduled := by
      cases old <;> simp [ChangeStatus.allowed] at hnew ⊢
    rcases hwaiting with rfl | rfl
    · exact .inl ((hstatus _ _).1 hold)
    · exact .inr ((hstatus _ _).1 hold)
  · exact ⟨hmoved.became, fun st i hi => (hmoved.others st i hi).trans (hstatus st i)⟩
  · exact fun i b hb => (hfree i b (h23 ▸ hb)).1
  · exact ⟨b, hchange, hunbound, by rw [← h45, hs4, h23]⟩
  · refine ⟨row2, hrow2, ?_⟩
    rw [hsame.organization]
    exact (acquireTargetLocksForDispatch_locked hlocks).congr h35

-- ════════════════════════════════════════════════════════════════════════
-- The steps
-- ════════════════════════════════════════════════════════════════════════

/-- One step in the life of target locks. The changes in `leaves` may go on from their
dispatch, or from their execution, without a release of their locks. -/
inductive LockStep (leaves : ℕ → Prop) (s s' : Db) : Prop where
  | quiet (hsame : SameOn lockCells s s')
  /-- A new change gets a target. -/
  | addTarget (t : ChangeTarget) (hdraft : s.ChangeIn .draft t.changeRecord)
      (htargets : s'.changeTargets = s.changeTargets.insert t)
      (hsame : SameOn [.changeIdentity, .changeStatus .dispatchable, .changeStatus .running,
        .bindings, .targetLocks] s s')
  /-- A runner reports about a bound execution. -/
  | callback (id : ℕ) (b b' : ChangeExecutionBinding)
      (hbindings : s.bindings.Replaced id b b' s'.bindings)
      (hb' : b'.changeRecord = b.changeRecord ∧ b'.boundAt = b.boundAt ∧
        b'.executionFinishedAt = b.executionFinishedAt)
      (hsame : SameOn [.changeIdentity, .changeStatus .dispatchable, .changeStatus .running,
        .changeTargets, .targetLocks] s s')
  | reserve (c : ℕ) (hkept : ¬leaves c) (h : Reserved c s s')
  /-- The first bind of a dispatch. -/
  | bind (id : ℕ) (b b' : ChangeExecutionBinding)
      (hbindings : s.bindings.Replaced id b b' s'.bindings)
      (hb' : b'.changeRecord = b.changeRecord ∧ b'.executionFinishedAt = b.executionFinishedAt)
      (hdispatchable : s.ChangeIn .dispatchable b.changeRecord)
      (hmoved : Moved b.changeRecord .running s s')
      (hsame : SameOn [.changeIdentity, .changeTargets, .targetLocks] s s')
  /-- A change leaves `DISPATCHABLE` or `RUNNING`, and keeps its locks. -/
  | leave (c : ℕ) (hc : leaves c) (hdispatchable : ¬s'.ChangeIn .dispatchable c)
      (hrunning : ¬s'.ChangeIn .running c)
      (hothers : ∀ st i, i ≠ c → (s'.ChangeIn st i ↔ s.ChangeIn st i))
      (hsame : SameOn [.changeIdentity, .changeTargets, .bindings, .targetLocks] s s')
  /-- The execution of a bound change is reported finished. -/
  | finish (id : ℕ) (b b' : ChangeExecutionBinding)
      (hbindings : s.bindings.Replaced id b b' s'.bindings) (hbound : b.boundAt.isSome)
      (hb' : b'.changeRecord = b.changeRecord ∧ b'.boundAt = b.boundAt ∧
        b'.executionFinishedAt.isSome)
      (hreleased : Released b.changeRecord s s')
      (hsame : SameOn [.changeIdentity, .changeStatus .dispatchable, .changeStatus .running,
        .changeTargets] s s')
  | close (c : ℕ) (hreleased : Released c s s') (hmoved : Moved c .closed s s')
      (hsame : SameOn [.changeIdentity, .changeTargets, .bindings] s s')

/-- A sequence of steps. -/
def LockSteps (leaves : ℕ → Prop) : Db → Db → Prop := Relation.ReflTransGen (LockStep leaves)

instance (leaves : ℕ → Prop) : IsPreorder Db (LockSteps leaves) where
  refl _ := .refl
  trans _ _ _ := .trans

namespace LockSteps

variable {leaves : ℕ → Prop} {V W : List Cell} {α : Type}

theorem quiet {s s' : Db} (h : SameOn lockCells s s') : LockSteps leaves s s' :=
  .single (.quiet h)

theorem of_sameOn {t : Service W α} (h : t.Follows (SameOn lockCells)) :
    t.Follows (LockSteps leaves) :=
  h.mono fun _ _ => quiet

/-- **Frame rule**: a transaction that writes none of the cells is quiet. -/
theorem frame (t : Service W α) (hdisj : ∀ c ∈ lockCells, c ∉ W) :
    t.Follows (LockSteps leaves) :=
  of_sameOn (.sameOn t hdisj)

theorem makeDispatchable (hnone : ∀ c, ¬leaves c) (env : Env) (c : ℕ) (actor : AuditActor)
    (nonce : String) : (makeDispatchable env c actor nonce).Follows (LockSteps leaves) := by
  intro s u s' h
  obtain ⟨s1, s2, h1, hreserved, h2⟩ := makeDispatchable_reserved h
  exact (quiet h1).tail (.reserve c (hnone c) hreserved) |>.tail (.quiet h2)

theorem scheduleOrMakeDispatchable (hnone : ∀ c, ¬leaves c) (env : Env) (c : ℕ)
    (actor : AuditActor) (nonce : String) :
    (scheduleOrMakeDispatchable env c actor nonce).Follows (LockSteps leaves) := by
  refine .bind (.query _) fun row => .bind (.query _) fun _ => .bind (.query _) fun _ =>
    .bind (.query _) fun now => ?_
  split
  · exact .bind (.lift (frame _ (by decide))) fun _ => .pure _
  · exact .lift (makeDispatchable hnone env c actor nonce)

theorem submitChangeRecord (hnone : ∀ c, ¬leaves c) (env : Env) (c : ℕ) (actor : AuditActor)
    (nonce : String) : (submitChangeRecord env c actor nonce).Follows (LockSteps leaves) := by
  refine .bind (.query _) fun row => .bind (.query _) fun (profile, frozen) =>
    .bind (.lift (frame _ (by decide))) fun _ => ?_
  dsimp only
  split
  · exact .bind (.lift (frame _ (by decide))) fun _ => .bind (.lift (frame _ (by decide))) fun _ =>
      .bind (.lift (frame _ (by decide))) fun _ => .lift (frame _ (by decide))
  · exact .bind (.lift (frame _ (by decide))) fun _ => .bind (.lift (frame _ (by decide))) fun _ =>
      .lift (scheduleOrMakeDispatchable hnone env c actor nonce)

theorem promoteScheduledChange (hnone : ∀ c, ¬leaves c) (env : Env) (c : ℕ) (now : Time)
    (nonce : String) : (promoteScheduledChange env c now nonce).Follows (LockSteps leaves) := by
  refine .bind (.query _) fun row => ?_
  split
  · exact makeDispatchable hnone env c changeService nonce
  · exact .pure _

theorem handleChangeApprovalDecision (hnone : ∀ c, ¬leaves c) (env : Env) (request : ℕ)
    (decision : HumanDecision) (actor : AuditActor) (nonce : String) :
    (handleChangeApprovalDecision env request decision actor nonce).Follows
      (LockSteps leaves) := by
  refine .bind (.query _) fun c => .bind (.query _) fun now => ?_
  cases decision with
  | approved =>
    exact .bind (.lift (frame _ (by decide))) fun _ => .lift (scheduleOrMakeDispatchable hnone env c actor nonce)
  | rejected => exact .bind (.lift (frame _ (by decide))) fun _ => .pure _

theorem decideApprovalTx (hnone : ∀ c, ¬leaves c) (env : Env) (approval : ℕ)
    (decision : HumanDecision) (notes : String) (actor : AuditActor) (nonce : String) :
    (decideApprovalTx env approval decision notes actor nonce).Follows (LockSteps leaves) := by
  refine .bind (.query _) fun request => .bind (.query _) fun now => ?_
  split
  · exact .bind (.widen (frame _ (by decide))) fun _ => .pure _
  · refine .bind (.query _) fun _ => .bind ?_ fun severe => .bind (.lift (frame _ (by decide))) fun _ =>
      .bind (of_sameOn (insertUnique_follows _ _ _ (by decide))) fun row => .bind (.lift (frame _ (by decide))) fun _ => .bind ?_ fun _ => .pure severe
    · unfold decideException
      split
      · exact .widen (frame _ (by decide))
      · exact .pure _
    · unfold decideChange
      split
      · exact .widen (handleChangeApprovalDecision hnone env approval decision actor nonce)
      · exact .pure _

private theorem insertTargets (env : Env) {c : ℕ} (organization : ℕ) (targets : List TargetInput)
    {position : ℕ} {s s' : Db} {u : Unit} (hdraft : s.ChangeIn .draft c)
    (h : (insertTargets env c organization position targets).run s = .ok (u, s')) :
    LockSteps leaves s s' := by
  induction targets generalizing position s with
  | nil =>
    simp only [RunbookPlatform.insertTargets, Tx.run_pure, Except.ok.injEq, Prod.mk.injEq] at h
    obtain ⟨-, rfl⟩ := h
    exact .refl
  | cons t targets ih =>
    simp only [RunbookPlatform.insertTargets, Tx.bind_ok, insertRow_ok] at h
    obtain ⟨_, s1, ⟨-, rfl⟩, h⟩ := h
    refine .head (.addTarget _ hdraft rfl ?_) (ih (by exact hdraft) h)
    exact fun c hc => Rel.changeTargets.frame _ _ c (.insert (fun _ => trivial) _ _)
      (by revert c; decide)

theorem insertChangeRecord (env : Env) (req : ChangeRequest) (profile : ℕ) (actor : AuditActor) :
    (insertChangeRecord env req profile actor).Follows (LockSteps leaves) := by
  intro s c s' h
  simp only [RunbookPlatform.insertChangeRecord, Tx.bind_ok, Tx.lift_query_ok, Tx.run_lift,
    Tx.run_pure, Except.ok.injEq, Prod.mk.injEq] at h
  obtain ⟨now, _, ⟨-, rfl⟩, c, s1, hinsert, _, s2, htargets, _, s3, hemit, -, rfl⟩ := h
  have hdraft : s1.ChangeIn .draft c := by
    obtain ⟨rfl, rfl⟩ := insertChange_ok.1 hinsert
    exact ⟨_, Table.get?_insert_next _ _, rfl⟩
  exact ((quiet (Tx.sameOn hinsert _ (by decide))).trans (insertTargets env _ _ hdraft htargets)).trans
    (quiet (Tx.sameOn hemit _ (by decide)))

private theorem stampBinding_ok {id : ℕ} {stamped : Option Time} {b : ChangeExecutionBinding}
    {f : ChangeExecutionBinding → ChangeExecutionBinding} {s s' : Db} {u : Unit}
    (hb : s.bindings.get? id = some b) (h : (stampBinding id stamped f).run s = .ok (u, s')) :
    s.bindings.Replaced id b (if stamped = none then f b else b) s'.bindings := by
  unfold stampBinding at h
  split_ifs at h ⊢
  · rw [updateRow_ok.1 h]
    exact .modify hb f
  · simp only [Tx.run_pure, Except.ok.injEq, Prod.mk.injEq] at h
    obtain ⟨-, rfl⟩ := h
    exact .refl hb

private theorem resolveBoundBinding_ok {c : ℕ} {runnerId : String} {execution : ℕ} {s : Db}
    {row : ChangeRecord} {id : ℕ} {b : ChangeExecutionBinding}
    (h : resolveBoundBinding c runnerId execution s = .ok (row, id, b)) :
    s.bindings.get? id = some b ∧ b.changeRecord = c ∧ b.boundAt.isSome := by
  simp only [resolveBoundBinding, Query.bind_ok, select_ok, expect_ok, ensure_ok,
    Query.pure_apply, Except.ok.injEq, Prod.mk.injEq] at h
  obtain ⟨_, -, _, -, found, hfound, ⟨i, b⟩, rfl, _, -, _, hbound, _, -, -, rfl, rfl⟩ := h
  obtain ⟨hb, hc⟩ := Table.find?_some hfound
  exact ⟨hb, by simpa using hc, hbound⟩

theorem recordExecutionAccepted (req : CallbackRequest) :
    (recordExecutionAccepted req).Follows (LockSteps leaves) := by
  intro s u s' h
  simp only [RunbookPlatform.recordExecutionAccepted, Tx.bind_ok, Tx.lift_query_ok,
    Tx.run_lift] at h
  obtain ⟨clock, _, ⟨-, rfl⟩, ⟨row, id, b⟩, _, ⟨hbound, rfl⟩, _, s1, hstamp, hemit⟩ := h
  have hreplaced := stampBinding_ok (resolveBoundBinding_ok hbound).1 hstamp
  refine (Relation.ReflTransGen.single (.callback id b _ hreplaced ?_ (Tx.sameOn hstamp _ (by decide)))).trans
    (quiet (Tx.sameOn hemit _ (by decide)))
  split_ifs <;> exact ⟨rfl, rfl, rfl⟩

theorem recordExecutionStarted (req : CallbackRequest) :
    (recordExecutionStarted req).Follows (LockSteps leaves) := by
  intro s u s' h
  simp only [RunbookPlatform.recordExecutionStarted, Tx.bind_ok, Tx.lift_query_ok,
    Tx.run_lift] at h
  obtain ⟨clock, _, ⟨-, rfl⟩, ⟨row, id, b⟩, _, ⟨hbound, rfl⟩, _, s1, hstamp, hemit⟩ := h
  have hreplaced := stampBinding_ok (resolveBoundBinding_ok hbound).1 hstamp
  refine (Relation.ReflTransGen.single (.callback id b _ hreplaced ?_ (Tx.sameOn hstamp _ (by decide)))).trans
    (quiet (Tx.sameOn hemit _ (by decide)))
  split_ifs <;> exact ⟨rfl, rfl, rfl⟩

theorem recordExecutionFinished (req : CallbackRequest) :
    (recordExecutionFinished req).Follows (LockSteps leaves) := by
  intro s u s' h
  simp only [RunbookPlatform.recordExecutionFinished, Tx.bind_ok, Tx.lift_query_ok,
    Tx.run_lift] at h
  obtain ⟨clock, _, ⟨-, rfl⟩, ⟨row, id, b⟩, _, ⟨hbound, rfl⟩, _, s1, hstamp, _, s2, hrelease, _,
    s3, hwindow, hemit⟩ := h
  obtain ⟨hb, hchange, hbound⟩ := resolveBoundBinding_ok hbound
  have hreplaced := stampBinding_ok hb hstamp
  have hbindings : s1.bindings = s2.bindings := Tx.frame _ hrelease .bindings (by decide)
  have hlocks : Cells.agree Cell.targetLocks s s1 := Tx.frame _ hstamp .targetLocks (by decide)
  have hreleased : Released b.changeRecord s s2 := by
    intro i l
    rw [hchange, releaseActiveTargetLocks_active hrelease i l, Db.activeLock_congr hlocks]
  refine (Relation.ReflTransGen.single (.finish id b _ (hbindings ▸ hreplaced) hbound ?_ hreleased
    ((Tx.sameOn hstamp _ (by decide)).trans (Tx.sameOn hrelease _ (by decide))))).trans
      (quiet ((Tx.sameOn hwindow _ (by decide)).trans (Tx.sameOn hemit _ (by decide))))
  split_ifs with hfinished
  · exact ⟨rfl, rfl, rfl⟩
  · exact ⟨rfl, rfl, Option.isSome_iff_ne_none.2 hfinished⟩

theorem closeChangeTx (req : CloseRequest) (outcome : ClosureOutcome) (actor : AuditActor) :
    (closeChangeTx req outcome actor).Follows (LockSteps leaves) := by
  intro s u s' h
  simp only [RunbookPlatform.closeChangeTx, Tx.bind_ok, Tx.lift_query_ok, Tx.run_lift,
    Tx.run_widen, lookup_ok] at h
  obtain ⟨row, _, ⟨-, rfl⟩, _, s1, hexpiry, closed, _, ⟨-, rfl⟩, _, _,
    ⟨-, rfl⟩, _, _, ⟨-, rfl⟩, found, _, ⟨-, rfl⟩, plan, _, ⟨-, rfl⟩, checks, _, ⟨-, rfl⟩, _, _,
    ⟨-, rfl⟩, now, _, ⟨-, rfl⟩, n, s2, hrelease, _, s3, hsessions, closure, s4, hclosure, old, s5,
    hmove, hemit⟩ := h
  have h14 : SameOn (.changes :: [.changeIdentity, .changeTargets, .bindings]) s1 s4 :=
    ((Tx.sameOn hrelease _ (by decide)).trans (Tx.sameOn hsessions _ (by decide))).trans
      (insertUnique_follows _ _ _ (by decide) _ _ _ hclosure)
  have h25 : SameOn [.targetLocks] s2 s5 :=
    ((Tx.sameOn hsessions _ (by decide)).trans
      (insertUnique_follows _ _ _ (by decide) _ _ _ hclosure)).trans (Tx.sameOn hmove _ (by decide))
  obtain ⟨-, -, hmoved⟩ := transitionChange_moved hmove
  refine (quiet (Tx.sameOn hexpiry _ (by decide))).tail (.close req.change ?_ ?_ ?_) |>.tail
    (.quiet (Tx.sameOn hemit _ (by decide)))
  · intro i l
    rw [Db.activeLock_congr (h25 .targetLocks (by simp)),
      releaseActiveTargetLocks_active hrelease i l]
  · have hchanges : s1.changes = s4.changes := h14 .changes (by simp)
    refine ⟨hmoved.became, fun st i hi => (hmoved.others st i hi).trans ?_⟩
    simp only [Db.ChangeIn, hchanges]
  · exact (h14.mono (by simp)).trans (Tx.sameOn hmove _ (by decide))

/-- A change moved in the course of a transaction. -/
private theorem leave_of_transition {c : ℕ} (hc : leaves c) {new old : ChangeStatus}
    (hnew : new ≠ .dispatchable ∧ new ≠ .running) {actor : AuditActor} {now : Time}
    {reason : String} {s s' : Db}
    (h : (transitionChange c new actor now reason).run s = .ok (old, s')) :
    LockSteps leaves s s' := by
  obtain ⟨-, -, hmoved⟩ := transitionChange_moved h
  refine .single (.leave c hc (fun hd => hnew.1 (hmoved.became.unique hd))
    (fun hr => hnew.2 (hmoved.became.unique hr)) hmoved.others ?_)
  intro c hc
  refine transitionChange_agree h ?_
  revert c
  simp

theorem expireDispatchableChange {c : ℕ} (hc : leaves c) (now : Time) (reason : String) :
    (expireDispatchableChange c now reason).Follows (LockSteps leaves) := by
  intro s u s' h
  simp only [RunbookPlatform.expireDispatchableChange, Tx.run_narrow, Tx.bind_ok,
    Tx.lift_query_ok] at h
  obtain ⟨row, _, ⟨-, rfl⟩, h⟩ := h
  split_ifs at h
  · simp only [Tx.bind_ok, Tx.run_pure, Except.ok.injEq, Prod.mk.injEq] at h
    obtain ⟨old, _, hmove, -, rfl⟩ := h
    exact leave_of_transition hc (by decide) hmove
  · simp only [Tx.run_pure, Except.ok.injEq, Prod.mk.injEq] at h
    obtain ⟨-, rfl⟩ := h
    exact .refl

private theorem transitionAway {c : ℕ} (hc : leaves c) (new : ChangeStatus)
    (actor : AuditActor) (now : Time) (reason : String)
    (hnew : new ≠ .dispatchable ∧ new ≠ .running) :
    (transitionChange c new actor now reason).Follows (LockSteps leaves) :=
  fun _ _ _ h => leave_of_transition hc hnew h

theorem settleBoundChange (env : Env) {c : ℕ} (hc : leaves c) (status : ExecutionStatus) :
    (settleBoundChange env c status).Follows (LockSteps leaves) := by
  refine .bind (.query _) fun row => ?_
  split
  · exact .bind (.query _) fun now => .lift (expireDispatchableChange hc now _)
  · split
    · refine .bind (.query _) fun now => .bind (.query _) fun intact => ?_
      split
      · exact .bind (.lift (transitionAway hc _ _ now _ (by decide))) fun _ => .pure _
      · refine .bind (.query _) fun profile => .bind (.widen (frame _ (by decide))) fun _ => ?_
        split
        · split
          · exact .bind (.lift (transitionAway hc _ _ now _ (by decide))) fun _ => .lift (frame _ (by decide))
          · exact .bind (.lift (transitionAway hc _ _ now _ (by decide))) fun _ => .pure _
        · exact .bind (.lift (transitionAway hc _ _ now _ (by decide))) fun _ => .pure _
    · exact .pure _

private theorem activateBinding {env : Env} {req : BindRequest} {row : ChangeRecord} {id : ℕ}
    {b : ChangeExecutionBinding} {now : Time} {s s' : Db} {u : Unit}
    (hrow : s.changes.get? req.change = some row) (hb : s.bindings.get? id = some b)
    (hchange : b.changeRecord = req.change)
    (h : (activateBinding env req row id b now).run s = .ok (u, s')) : LockSteps leaves s s' := by
  simp only [RunbookPlatform.activateBinding, Tx.bind_ok, Tx.lift_query_ok, Tx.run_lift,
    ensure_ok, updateRow_ok] at h
  obtain ⟨_, _, ⟨hdispatchable, rfl⟩, _, _, ⟨-, rfl⟩, _, s1, hplan, _, _, ⟨-, rfl⟩, _, _, ⟨-, rfl⟩,
    _, _, ⟨-, rfl⟩, _, _, ⟨-, rfl⟩, _, s2, hs2, old, s3, hmove, hemit⟩ := h
  have hsame1 : SameOn (.changes :: .bindings :: lockCells) s s1 := Tx.sameOn hplan _ (by decide)
  have hchanges : s.changes = s1.changes := hsame1 .changes (by simp)
  have hbindings : s.bindings = s1.bindings := hsame1 .bindings (by simp)
  obtain ⟨-, -, hmoved⟩ := transitionChange_moved hmove
  have hb1 : s1.bindings.get? id = some b := hbindings ▸ hb
  have hs23 : s2.bindings = s3.bindings := Tx.frame _ hmove .bindings (by decide)
  subst hs2
  have hreplaced : s1.bindings.Replaced id b
      { b with boundAt := some now, boundByRunnerId := req.runnerId } s3.bindings :=
    hs23 ▸ Table.Replaced.modify hb1 fun b =>
      { b with boundAt := some now, boundByRunnerId := req.runnerId }
  refine (quiet (hsame1.mono (by simp))).tail (.bind id b _ hreplaced ⟨rfl, rfl⟩ ?_ ?_ ?_)
    |>.tail (.quiet (Tx.sameOn hemit _ (by decide)))
  · exact ⟨row, by rw [hchange, ← hchanges, hrow], hdispatchable⟩
  · exact hchange ▸ ⟨hmoved.became, hmoved.others⟩
  · refine SameOn.trans ?_ (Tx.sameOn hmove _ (by decide))
    exact fun c hc => Rel.bindings.frame _ _ c (.modify (fun _ => trivial) (fun _ => trivial) _ id)
      (by revert c; decide)

theorem bindExecutionTx (env : Env) (req : BindRequest) :
    (bindExecutionTx env req).Follows (LockSteps leaves) := by
  intro s u s' h
  simp only [RunbookPlatform.bindExecutionTx, Tx.bind_ok, Tx.lift_query_ok, select_ok, expect_ok]
    at h
  obtain ⟨_, _, ⟨rfl, rfl⟩, row, _, ⟨hrow, rfl⟩, _, _, ⟨rfl, rfl⟩, ⟨id, b⟩, _, ⟨hfound, rfl⟩, _, _,
    ⟨-, rfl⟩, _, _, ⟨rfl, rfl⟩, e, _, ⟨-, rfl⟩, _, _, ⟨-, rfl⟩, _, _, ⟨-, rfl⟩, now, _, ⟨-, rfl⟩,
    h⟩ := h
  obtain ⟨hb, hchange⟩ := Table.find?_some hfound
  split_ifs at h
  · rw [Tx.run_lift] at h
    exact quiet (Tx.sameOn h _ (by decide))
  · exact activateBinding hrow hb (by simpa using hchange) h

theorem transitionStaleChange {H : List Cell} {R : TxName → Db → Db → Prop} (name : TxName)
    (change : Loaded ChangeRecord) (actor : AuditActor) (now : Time) (reason : String)
    (hquiet : ∀ n s s', SameOn lockCells s s' → R n s s')
    (hmove : ∀ s s', (∀ leaves : ℕ → Prop, leaves change.id → LockSteps leaves s s') → R name s s')
    (s : Db) :
    (transitionStaleChange name change .expired actor now reason).Follows H R s := by
  refine .read (fun s1 => hquiet _ _ _ (SameOn.refl _ _)) fun s1 _ _ _ => ?_
  refine .bind (.atomic fun s2 _ _ s' h => hmove s2 s' fun leaves hleaves => ?_) fun _ s2 => ?_
  · obtain rfl := overwriteChange_ok.1 h
    have hleft : ∀ st, st ≠ .expired → ¬Db.ChangeIn
        { s2 with changes := s2.changes.modify change.id (applyTransition .expired now reason) }
        st change.id := by
      rintro st hst ⟨row, hrow, rfl⟩
      simp only [Table.get?_modify_self, Option.map_eq_some_iff] at hrow
      obtain ⟨old, -, rfl⟩ := hrow
      exact hst (applyTransition_status _ _ _ _)
    refine .single <| .leave change.id hleaves (hleft _ (by simp)) (hleft _ (by simp)) (fun st i hi => ?_)
      (Tx.sameOn h _ (by decide))
    simp [Db.ChangeIn, Table.get?_modify_of_ne hi]
  · exact .atomic fun s3 _ _ s' h => hquiet _ _ _ (Tx.sameOn h _ (by decide))

end LockSteps

end RunbookPlatform
