import RunbookPlatform.Lifecycle.Services
import RunbookPlatform.Ledger.Agreement
import RunbookPlatform.Locks.Runs

/-!
# The sweep of expired approvals

The watchdog resolves the overdue requests in the order of their deadlines, each in a
transaction of its own; the first one that fails ends the sweep, and stays the first one of
every later sweep.

## Main definitions

- `overdueRequests` — the requests of a sweep, in its order
- `Resolvable` — the guards of what a timeout does to the subject of a request
- `TimedOut` — the request is resolved, with its effects on its subject
- `SweepComplete` — the sweep resolves whatever can be resolved

## Main results

- `recoverExpiredApproval_ok` — when one request can be resolved
- `timedOut_of_recovered`, `Resolvable.other` — what that does to it and to the others
- `sweep_complete_iff` — the sweep is complete exactly when what can be resolved is within the
  batch and has nothing unresolvable before it
-/

namespace RunbookPlatform

open Transactional

set_option synthInstance.maxSize 1000

variable {env : Env} {s s' : Db} {a : ℕ} {now : Time} {r : ApprovalRequest}

/-- The requests that are overdue, in the order of their deadlines. -/
def overdueRequests (now : Time) (s : Db) : List (Loaded ApprovalRequest) :=
  (rowsWhere s.approvals (·.isOverdue now)).foldr insertByDeadline []

/-- The guards of what the timeout of the request does to its subject. -/
def Resolvable (env : Env) (s : Db) (request : Loaded ApprovalRequest) : Prop :=
  if request.row.subjectType = .changeRecord then
    ∃ change, undecidedChange env request.id .timedOut s = .ok change
  else
    ∀ e st, request.row.execution = some e → request.row.step = some st →
      (∃ execution, s.executions.get? e = some execution) ∧
        ∃ step, s.steps.get? st = some step ∧ step.execution = e

/-- The request is resolved as timed out; its change is expired, and no active execution waits
for its step. -/
structure TimedOut (s : Db) (request : Loaded ApprovalRequest) : Prop where
  status : ∃ row, s.approvals.get? request.id = some row ∧ row.status = .timedOut
  decision : ∃ i d, s.decisions.get? i = some d ∧ d.approvalRequest = request.id ∧
    d.decision = .timedOut
  change : request.row.subjectType = .changeRecord →
    ∃ c, s.ApprovalOf c request.id ∧ s.ChangeIn .expired c
  step : request.row.subjectType ≠ .changeRecord →
    ∀ e st, request.row.execution = some e → request.row.step = some st →
      blockedByTimeout e st s = false

/-- The sweep, running alone, resolves every overdue request that can be resolved. -/
def SweepComplete (env : Env) (batchSize : ℕ) (s : Db) : Prop :=
  ∀ request ∈ overdueRequests s.now s,
    (recoverExpiredApproval env request.id s.now).Succeeds s →
      TimedOut ((recoverExpiredApprovals env batchSize).exec s).2 request

-- ════════════════════════════════════════════════════════════════════════
-- One request
-- ════════════════════════════════════════════════════════════════════════

/-- The state in which the timeout of request `a` looks at its subject. -/
def recordTimeout (a : ℕ) (r : ApprovalRequest) (now : Time) (s : Db) : Db :=
  { s with
    approvals := s.approvals.modify a (resolveApproval .timedOut now)
    decisions := s.decisions.insert (timeoutDecision a now)
    audit := (s.audit.insert
      { organization := r.organization
        actor := systemActor
        eventType := "approval." ++ ApprovalStatus.timedOut.value
        objectType := .approvalDecision
        objectId := s.decisions.next
        previousStatus := ""
        newStatus := "" }).insert
      { organization := r.organization
        actor := systemActor
        eventType := "approval.timeout"
        objectType := .approvalRequest
        objectId := a
        previousStatus := ""
        newStatus := "" } }

/-- No decision is stored for the request. -/
def Undecided (s : Db) (a : ℕ) : Prop := ∀ i d, s.decisions.get? i = some d → d.approvalRequest ≠ a

theorem undecided_of_overdue (hinv : LedgerInvariant s) (hr : s.approvals.get? a = some r)
    (hover : r.isOverdue now = true) : Undecided s a := by
  rintro i d hd rfl
  obtain ⟨r', hr', -, hdone⟩ := hinv.balanced.request i d hd
  rw [hr, Option.some.injEq] at hr'
  subst hr'
  simp only [ApprovalRequest.isOverdue, Bool.and_eq_true, decide_eq_true_eq] at hover
  exact hdone hover.1

/-- Without a decision, one is made. -/
theorem getOrCreateTimeoutDecision_ok {organization : ℕ} {created : Bool}
    (hundecided : Undecided s a) :
    (getOrCreateTimeoutDecision a organization now).run s = .ok (created, s') ↔
      created = true ∧ s' = { s with
        decisions := s.decisions.insert (timeoutDecision a now)
        audit := s.audit.insert
          { organization
            actor := systemActor
            eventType := "approval." ++ ApprovalStatus.timedOut.value
            objectType := .approvalDecision
            objectId := s.decisions.next
            previousStatus := ""
            newStatus := "" } } := by
  have hnone : (s.decisions.find? fun _ d => d.approvalRequest = a).isSome = false := by
    rw [Table.find?_none.2 fun i d hd => by simpa using hundecided i d hd]
    rfl
  have hrun : (getOrCreateTimeoutDecision a organization now).run s =
      (do
        let decision ← insertRow Rel.decisions (timeoutDecision a now)
        emitApprovalDecision organization decision .timedOut systemActor
        pure true : Service [.decisions, .audit] Bool).run s := by
    rw [getOrCreateTimeoutDecision, Tx.run_query_bind (select_ok.2 hnone), if_neg (by simp)]
  rw [hrun]
  simp only [Tx.bind_ok, insertRow_ok, emitApprovalDecision, Tx.run_lift, emit_ok, Tx.run_pure,
    Except.ok.injEq, Prod.mk.injEq, Rel.decisions_get, Rel.decisions_set]
  constructor
  · rintro ⟨_, _, ⟨rfl, rfl⟩, _, _, rfl, rfl, rfl⟩
    exact ⟨rfl, rfl⟩
  · rintro ⟨rfl, rfl⟩
    exact ⟨_, _, ⟨rfl, rfl⟩, (), _, rfl, rfl, rfl⟩

/-- The recovery of an overdue request is what its timeout does to its subject. -/
theorem recoverExpiredApproval_run (hr : s.approvals.get? a = some r)
    (hover : r.isOverdue now = true) (hundecided : Undecided s a) {u : Unit} :
    (recoverExpiredApproval env a now).run s = .ok (u, s') ↔
      (timeOutSubject env a r now).run (recordTimeout a r now s) = .ok (u, s') := by
  have hfound : (s.approvals.get? a).filter (·.isOverdue now) = some r := by
    rw [hr, Option.filter_some, if_pos hover]
  have hresolved : Undecided
      { s with approvals := s.approvals.modify a (resolveApproval .timedOut now) } a := hundecided
  rw [recoverExpiredApproval, Tx.run_query_bind (select_ok.2 hfound)]
  simp only [Tx.bind_ok, Tx.run_lift, resolveRequest, updateRow_ok, Tx.run_widen, Rel.approvals_get,
    Rel.approvals_set]
  constructor
  · rintro ⟨_, s1, rfl, created, s2, hdecision, h⟩
    obtain ⟨rfl, rfl⟩ := (getOrCreateTimeoutDecision_ok hresolved).1 hdecision
    simp only [if_true, Tx.bind_ok, Tx.run_lift, emit_ok] at h
    obtain ⟨_, s3, rfl, h⟩ := h
    exact h
  · intro h
    refine ⟨(), _, rfl, true, _, (getOrCreateTimeoutDecision_ok hresolved).2 ⟨rfl, rfl⟩, ?_⟩
    simp only [if_true, Tx.bind_ok, Tx.run_lift, emit_ok]
    exact ⟨(), _, rfl, h⟩

-- ════════════════════════════════════════════════════════════════════════
-- The subject of a request
-- ════════════════════════════════════════════════════════════════════════

/-- A change that waits for the request expires. -/
theorem timeOutChangeApproval_ok {actor : AuditActor} {u : Unit} :
    (timeOutChangeApproval env a actor).run s = .ok (u, s') ↔
      ∃ c, undecidedChange env a .timedOut s = .ok c ∧
        ∃ old, (transitionChange c .expired actor s.now "approval_timed_out").run s =
          .ok (old, s') := by
  simp only [timeOutChangeApproval, Tx.run_narrow, Tx.bind_ok, Tx.lift_query_ok, timezoneNow,
    select_ok, Tx.run_pure, Except.ok.injEq, Prod.mk.injEq]
  constructor
  · rintro ⟨c, _, ⟨hc, rfl⟩, _, _, ⟨rfl, rfl⟩, old, _, hmove, -, rfl⟩
    exact ⟨c, hc, old, hmove⟩
  · rintro ⟨c, hc, old, hmove⟩
    exact ⟨c, s, ⟨hc, rfl⟩, s.now, s, ⟨rfl, rfl⟩, old, s', hmove, trivial, rfl⟩

/-- The change of an undecided request can expire. -/
theorem timeOutChangeApproval_succeeds {c : ℕ} (hc : undecidedChange env a .timedOut s = .ok c)
    (actor : AuditActor) : (timeOutChangeApproval env a actor).Succeeds s := by
  obtain ⟨row, hrow, -, hpending⟩ := undecidedChange_ok hc
  have hallowed : ChangeStatus.expired ∈ row.status.allowed := by
    rw [hpending]
    decide
  exact .of_run (timeOutChangeApproval_ok (u := ()).2
    ⟨c, hc, _, transitionChange_ok.2 ⟨row, hrow, rfl, hallowed, rfl⟩⟩)

/-- Steps stop waiting and executions stop being active; nothing else happens to either. -/
structure StopsWaiting (s s' : Db) : Prop where
  steps : s.steps.Moves (fun old new => new.execution = old.execution ∧
    (new.status = .waitingForApproval → old.status = .waitingForApproval)) s'.steps
  executions : s.executions.Moves
    (fun old new => new.status.isActive = true → old.status.isActive = true) s'.executions

/-- The execution of an existing step can fail. -/
theorem failExecutionForApprovalTimeout_succeeds {e st : ℕ}
    (he : ∃ execution, s.executions.get? e = some execution)
    (hst : ∃ step, s.steps.get? st = some step ∧ step.execution = e) :
    (failExecutionForApprovalTimeout env e st now).Succeeds s := by
  obtain ⟨execution, he⟩ := he
  obtain ⟨step, hst, hown⟩ := hst
  have hfound : (s.steps.get? st).filter (·.execution = e) = some step := by
    rw [hst, Option.filter_some, if_pos (by simpa using hown)]
  refine .query (lookup_ok.2 he) (.query (select_ok.2 hfound) (.query (expect_ok.2 rfl) ?_))
  split
  · exact .of_run (Tx.run_pure _ _)
  · -- the rest of the transaction is writes
    iterate 5 refine .bind ⟨_, rfl⟩ fun _ _ _ => ?_
    exact .bind (.savepoint fun _ => .of_run (Tx.run_pure _ _)) fun _ _ _ =>
      .of_run (Tx.run_pure _ _)

/-- Afterwards no active execution waits for the step. -/
theorem failExecutionForApprovalTimeout_stops {e st : ℕ} {failed : Bool}
    (h : (failExecutionForApprovalTimeout env e st now).run s = .ok (failed, s')) :
    StopsWaiting s s' ∧ blockedByTimeout e st s' = false := by
  simp only [failExecutionForApprovalTimeout, Tx.bind_ok, Tx.lift_query_ok, lookup_ok, select_ok,
    expect_ok] at h
  obtain ⟨execution, _, ⟨he, rfl⟩, found, _, ⟨rfl, rfl⟩, step, _, ⟨hst, rfl⟩, h⟩ := h
  obtain ⟨hrow, -⟩ := Option.filter_eq_some_iff.1 hst
  split at h
  · rename_i hstatus
    obtain ⟨-, rfl⟩ : _ ∧ s = s' := by simpa using h
    refine ⟨⟨.refl _, .refl _⟩, ?_⟩
    rcases hstatus with hactive | hwaiting
    · simp [blockedByTimeout, he, hactive]
    · simp [blockedByTimeout, hrow, hwaiting]
  · simp only [Tx.bind_ok, Tx.run_lift, Tx.run_pure, Except.ok.injEq, Prod.mk.injEq] at h
    obtain ⟨_, s1, hstep, _, s2, hmove, _, s3, hemit1, _, s4, hemit2, _, s5, hemit3, _, s6, hhook, -,
      rfl⟩ := h
    obtain rfl := moveStep_ok.1 hstep
    obtain rfl := moveExecution_ok.1 hmove
    have hsame : SameOn [.steps, .executions] s5 s6 := by
      rcases Tx.savepoint_ok.1 hhook with hhook | ⟨_, -, hhook⟩
      · rw [Tx.run_widen] at hhook
        exact Tx.sameOn hhook _ (by decide)
      · obtain rfl : s5 = s6 := by simpa using hhook
        exact .refl _ _
    have hrest := (((Tx.sameOn hemit1 [.steps, .executions] (by decide)).trans (Tx.sameOn hemit2 _ (by decide))).trans
      (Tx.sameOn hemit3 _ (by decide))).trans hsame
    have hsteps : s.steps.modify st _ = s6.steps := hrest .steps (by decide)
    have hexecutions : s.executions.modify e _ = s6.executions := hrest .executions (by decide)
    refine ⟨⟨?_, ?_⟩, ?_⟩
    · rw [← hsteps]
      refine .modify (fun row => ?_) _ _
      unfold stepMove
      split_ifs <;> simp [failStep]
    · rw [← hexecutions]
      refine .modify (fun row hactive => ?_) _ _
      split_ifs at hactive
      · cases hactive
      · exact hactive
    · rw [blockedByTimeout, ← hexecutions, Table.get?_modify_self, he, Option.map_some,
        Option.any_some]
      split_ifs with hsources
      · rfl
      · have hidle : execution.status.isActive = false := by
          cases hstatus : execution.status <;> simp [hstatus] at hsources ⊢ <;> rfl
        rw [hidle, Bool.false_and]

-- ════════════════════════════════════════════════════════════════════════
-- What a decision reads
-- ════════════════════════════════════════════════════════════════════════

/-- What a decision about another request leaves of the change that waits for `a`. -/
structure KeepsSubject (a : ℕ) (s s' : Db) : Prop where
  reference : s.reference = s'.reference
  targets : s.changeTargets = s'.changeTargets
  dossier : ∀ c,
    (s.changes.get? c).map ChangeRecord.dossier = (s'.changes.get? c).map ChangeRecord.dossier
  link : ∀ c, s.ApprovalOf c a ↔ s'.ApprovalOf c a
  pending : ∀ c, s.ApprovalOf c a →
    (s.ChangeIn .pendingApproval c ↔ s'.ChangeIn .pendingApproval c)

namespace KeepsSubject

theorem symm (h : KeepsSubject a s s') : KeepsSubject a s' s where
  reference := h.reference.symm
  targets := h.targets.symm
  dossier c := (h.dossier c).symm
  link c := (h.link c).symm
  pending c hc := (h.pending c ((h.link c).2 hc)).symm

/-- The linked change is found under the same key. -/
theorem changeOfApproval {c : ℕ} {row : ChangeRecord} (h : KeepsSubject a s s')
    (hfound : changeOfApproval? a s = some (c, row)) :
    ∃ row', changeOfApproval? a s' = some (c, row') := by
  have hexists : ∀ i, i < s.changes.next ↔ i < s'.changes.next := fun i => by
    rw [← Table.get?_isSome_iff, ← Table.get?_isSome_iff]
    simpa using congrArg (·.isSome = true) (h.dossier i)
  have hnext : s.changes.next = s'.changes.next :=
    Nat.le_antisymm (Nat.le_of_not_lt fun hlt => Nat.lt_irrefl _ ((hexists _).1 hlt))
      (Nat.le_of_not_lt fun hlt => Nat.lt_irrefl _ ((hexists _).2 hlt))
  refine Table.find?_key hnext (fun i => ?_) hfound
  rw [Bool.eq_iff_iff]
  simpa [Option.any_eq_true, Db.ApprovalOf] using h.link i

/-- The guards of the timeout give the same answer. -/
theorem undecidedChange {decision : ApprovalStatus} {c : ℕ} (h : KeepsSubject a s s')
    (hc : undecidedChange env a decision s = .ok c) : undecidedChange env a decision s' = .ok c := by
  simp only [RunbookPlatform.undecidedChange, Query.bind_ok, select_ok, expect_ok, ensure_ok] at hc ⊢
  obtain ⟨found, hfound, ⟨i, row⟩, rfl, _, hstatus, _, hintact, hi⟩ := hc
  cases hi
  obtain ⟨row', hfound'⟩ := h.changeOfApproval hfound
  obtain ⟨hrow, hlink⟩ := Table.find?_some hfound
  obtain ⟨hrow', hlink'⟩ := Table.find?_some hfound'
  obtain ⟨row'', hrow'', hstatus'⟩ :=
    (h.pending i ⟨row, hrow, by simpa using hlink⟩).1 ⟨row, hrow, hstatus⟩
  rw [hrow', Option.some.injEq] at hrow''
  subst hrow''
  have hdossier := h.dossier i
  rw [hrow, hrow', Option.map_some, Option.map_some, Option.some.injEq] at hdossier
  have hsame : SameOn [.changeTargets, .reference] s s' := by
    simpa [SameOn] using ⟨h.targets, h.reference⟩
  have hintact' := validateRequestIntegrity_of_dossier hrow hrow' hdossier
    (hstatus.trans_ne (by decide)) (hstatus'.trans_ne (by decide)) hsame hintact
  exact ⟨_, hfound', (i, row'), rfl, (), hstatus', (), hintact', rfl⟩

theorem of_sameOn
    (h : SameOn [.reference, .changeTargets, .changeDossier, .changeApproval] s s')
    (hpending : ∀ c, s.ApprovalOf c a →
      (s.ChangeIn .pendingApproval c ↔ s'.ChangeIn .pendingApproval c)) : KeepsSubject a s s' where
  reference := h .reference (by decide)
  targets := h .changeTargets (by decide)
  dossier := h .changeDossier (by decide)
  link c := h .changeApproval (by decide) c a
  pending := hpending

end KeepsSubject

-- ════════════════════════════════════════════════════════════════════════
-- What a recovery does
-- ════════════════════════════════════════════════════════════════════════

/-- What the timeout of request `a` did: to its subject, and to those of others. -/
structure SubjectTimedOut (a : ℕ) (r : ApprovalRequest) (s s' : Db) : Prop where
  same : SameOn [.clock, .approvals, .decisions] s s'
  others : ∀ b, b ≠ a → KeepsSubject b s s'
  stops : StopsWaiting s s'
  change : r.subjectType = .changeRecord → ∃ c, s'.ApprovalOf c a ∧ s'.ChangeIn .expired c
  step : r.subjectType ≠ .changeRecord → ∀ e st, r.execution = some e → r.step = some st →
    blockedByTimeout e st s' = false

theorem timeOutSubject_timesOut {u : Unit} (h : (timeOutSubject env a r now).run s = .ok (u, s')) :
    SubjectTimedOut a r s s' := by
  unfold timeOutSubject at h
  split_ifs at h with hsubject
  · rw [Tx.run_widen] at h
    have hsame : SameOn [.clock, .approvals, .decisions, .reference, .changeTargets, .changeDossier,
      .changeApproval, .steps, .executions] s s' := Tx.sameOn h _ (by decide)
    obtain ⟨c, hc, old, hmove⟩ := timeOutChangeApproval_ok.1 h
    obtain ⟨row, hrow, hlink, -⟩ := undecidedChange_ok hc
    obtain ⟨-, -, hmoved⟩ := transitionChange_moved hmove
    have hlinked : s.ApprovalOf c a := ⟨row, hrow, hlink⟩
    have hsteps : s.steps = s'.steps := hsame .steps (by decide)
    have hexecutions : s.executions = s'.executions := hsame .executions (by decide)
    refine ⟨hsame.mono (by decide), fun b hb => .of_sameOn (hsame.mono (by decide)) fun i hi => ?_,
      ⟨hsteps ▸ .refl _, hexecutions ▸ .refl _⟩,
      fun _ => ⟨c, (hsame .changeApproval (by decide) c a).1 hlinked, ?_⟩, fun hne => absurd hsubject hne⟩
    · have hne : i ≠ c := by
        rintro rfl
        obtain ⟨row', hrow', hlink'⟩ := hi
        rw [hrow, Option.some.injEq] at hrow'
        subst hrow'
        rw [hlink, Option.some.injEq] at hlink'
        exact hb hlink'.symm
      exact (hmoved.others _ i hne).symm
    · exact hmoved.became
  · split at h
    · rename_i e st he hst
      simp only [Tx.bind_ok, Tx.run_widen, Tx.run_pure, Except.ok.injEq, Prod.mk.injEq] at h
      obtain ⟨_, s', hfail, -, rfl⟩ := h
      have hsame : SameOn [.clock, .approvals, .decisions, .reference, .changeTargets, .changeDossier,
        .changeApproval, .changeStatus .pendingApproval] s s' := Tx.sameOn hfail _ (by decide)
      obtain ⟨hstops, hblocked⟩ := failExecutionForApprovalTimeout_stops hfail
      refine ⟨hsame.mono (by decide), fun b _ => .of_sameOn (hsame.mono (by decide)) fun i _ =>
        hsame (.changeStatus .pendingApproval) (by decide) i, hstops, fun heq => absurd heq hsubject,
        fun _ e' st' he' hst' => ?_⟩
      cases he.symm.trans he'
      cases hst.symm.trans hst'
      exact hblocked
    · rename_i hnone
      obtain rfl : s = s' := by simpa using h
      exact ⟨.refl _ _, fun b _ => .of_sameOn (.refl _ _) fun _ _ => .rfl, ⟨.refl _, .refl _⟩,
        fun heq => absurd heq hsubject, fun _ e st he hst => absurd hst (hnone e st he)⟩

/-- A request that the sweep will find. -/
structure Overdue (now : Time) (s : Db) (request : Loaded ApprovalRequest) : Prop where
  row : s.approvals.get? request.id = some request.row
  overdue : request.row.isOverdue now = true
  undecided : Undecided s request.id

/-- A request can be resolved exactly when the guards of its subject hold. -/
theorem recoverExpiredApproval_succeeds {request : Loaded ApprovalRequest}
    (h : Overdue now s request) :
    (recoverExpiredApproval env request.id now).Succeeds s ↔ Resolvable env s request := by
  obtain ⟨a, r⟩ := request
  have hkeeps : KeepsSubject a s (recordTimeout a r now s) :=
    ⟨rfl, rfl, fun _ => rfl, fun _ => .rfl, fun _ _ => .rfl⟩
  have hrun : (recoverExpiredApproval env a now).Succeeds s ↔
      (timeOutSubject env a r now).Succeeds (recordTimeout a r now s) :=
    ⟨fun ⟨_, hok⟩ => ⟨_, (recoverExpiredApproval_run h.row h.overdue h.undecided).1 hok⟩,
      fun ⟨_, hok⟩ => ⟨_, (recoverExpiredApproval_run h.row h.overdue h.undecided).2 hok⟩⟩
  rw [hrun, Resolvable]
  unfold timeOutSubject
  split_ifs with hsubject
  · constructor
    · rintro ⟨⟨_, s'⟩, hok⟩
      rw [Tx.run_widen] at hok
      obtain ⟨c, hc, -⟩ := timeOutChangeApproval_ok.1 hok
      exact ⟨c, hkeeps.symm.undecidedChange hc⟩
    · rintro ⟨c, hc⟩
      exact timeOutChangeApproval_succeeds (hkeeps.undecidedChange hc) systemActor
  · constructor
    · rintro ⟨⟨_, s'⟩, hok⟩ e st he hst
      rw [he, hst] at hok
      simp only [failExecutionForApprovalTimeout, Tx.bind_ok, Tx.run_widen, Tx.lift_query_ok,
        lookup_ok, select_ok, expect_ok] at hok
      obtain ⟨_, _, ⟨execution, _, ⟨hexecution, rfl⟩, _, _, ⟨rfl, rfl⟩, step, _, ⟨hstep, rfl⟩, -⟩,
        -⟩ := hok
      obtain ⟨hrow, hown⟩ := Option.filter_eq_some_iff.1 hstep
      exact ⟨⟨execution, hexecution⟩, step, hrow, by simpa using hown⟩
    · intro hguards
      split
      · rename_i e st he hst
        obtain ⟨hexecution, hstep⟩ := hguards e st he hst
        exact .bind (failExecutionForApprovalTimeout_succeeds hexecution hstep) fun _ _ _ =>
          .of_run (Tx.run_pure _ _)
      · exact .of_run (Tx.run_pure _ _)

/-- What the recovery of a request did to the others. -/
structure Recovered (request : Loaded ApprovalRequest) (now : Time) (s s' : Db) : Prop where
  approvals : s'.approvals = s.approvals.modify request.id (resolveApproval .timedOut now)
  decisions : s'.decisions = s.decisions.insert (timeoutDecision request.id now)
  others : ∀ b, b ≠ request.id → KeepsSubject b s s'
  stops : StopsWaiting s s'

theorem recoverExpiredApproval_recovered {request : Loaded ApprovalRequest} {u : Unit}
    (h : Overdue now s request)
    (hrun : (recoverExpiredApproval env request.id now).run s = .ok (u, s')) :
    Recovered request now s s' ∧ StatusTrail s s' ∧ TimedOut s' request := by
  have htrail := StatusTrail.recoverExpiredApproval env request.id now _ _ _ hrun
  rw [recoverExpiredApproval_run h.row h.overdue h.undecided] at hrun
  have hsubject := timeOutSubject_timesOut hrun
  have happrovals : s.approvals.modify request.id (resolveApproval .timedOut now) = s'.approvals :=
    hsubject.same .approvals (by decide)
  have hdecisions : s.decisions.insert (timeoutDecision request.id now) = s'.decisions :=
    hsubject.same .decisions (by decide)
  have hstatus : (resolveApproval .timedOut now request.row).status = .timedOut := by
    rw [resolveApproval, if_pos (LedgerSteps.overdue_deadline h.overdue).1]
  have hrow : s'.approvals.get? request.id = some (resolveApproval .timedOut now request.row) := by
    rw [← happrovals, Table.get?_modify_self, h.row, Option.map_some]
  have hdecision : s'.decisions.get? s.decisions.next = some (timeoutDecision request.id now) := by
    rw [← hdecisions, Table.get?_insert_next]
  exact ⟨⟨happrovals.symm, hdecisions.symm,
      fun b hb => ⟨(hsubject.others b hb).reference, (hsubject.others b hb).targets,
        (hsubject.others b hb).dossier, (hsubject.others b hb).link, (hsubject.others b hb).pending⟩,
      ⟨hsubject.stops.steps, hsubject.stops.executions⟩⟩,
    htrail, ⟨⟨_, hrow, hstatus⟩, ⟨_, _, hdecision, rfl, rfl⟩, hsubject.change, hsubject.step⟩⟩

namespace StopsWaiting

theorem blockedByTimeout (h : StopsWaiting s s') {e st : ℕ} (hold : blockedByTimeout e st s = false) :
    blockedByTimeout e st s' = false := by
  by_contra hblocked
  simp only [RunbookPlatform.blockedByTimeout, Bool.not_eq_false, Bool.and_eq_true,
    Option.any_eq_true, decide_eq_true_eq] at hblocked
  obtain ⟨⟨execution', hexecution', hactive⟩, step', hstep', hown, hwaiting⟩ := hblocked
  obtain ⟨execution, hexecution, hwas⟩ := h.executions.of_new (fun _ => id) hexecution'
  obtain ⟨step, hstep, hsame, hwaited⟩ := h.steps.of_new (fun _ => ⟨rfl, id⟩) hstep'
  simp [RunbookPlatform.blockedByTimeout, hexecution, hwas hactive, hstep, hwaited hwaiting,
    ← hsame, hown] at hold

theorem execution (h : StopsWaiting s s') (e : ℕ) :
    (∃ execution, s.executions.get? e = some execution) ↔
      ∃ execution, s'.executions.get? e = some execution := by
  rcases h.executions e with hsame | ⟨old, new, hold, hnew, -⟩
  · rw [hsame]
  · exact ⟨fun _ => ⟨new, hnew⟩, fun _ => ⟨old, hold⟩⟩

theorem step (h : StopsWaiting s s') (st e : ℕ) :
    (∃ step, s.steps.get? st = some step ∧ step.execution = e) ↔
      ∃ step, s'.steps.get? st = some step ∧ step.execution = e := by
  rcases h.steps st with hsame | ⟨old, new, hold, hnew, hown, -⟩
  · rw [hsame]
  · simp [hold, hnew, hown]

end StopsWaiting

namespace Recovered

variable {request other : Loaded ApprovalRequest}

theorem overdue (h : Recovered request now s s') (hne : other.id ≠ request.id)
    (hother : Overdue now s other) : Overdue now s' other where
  row := by rw [h.approvals, Table.get?_modify_of_ne hne, hother.row]
  overdue := hother.overdue
  undecided := by
    intro i d hd
    rw [h.decisions, Table.get?_insert] at hd
    split_ifs at hd
    · cases hd
      exact hne.symm
    · exact hother.undecided i d hd

theorem resolvable (h : Recovered request now s s') (hne : other.id ≠ request.id) :
    Resolvable env s other ↔ Resolvable env s' other := by
  unfold Resolvable
  split
  · exact ⟨fun ⟨c, hc⟩ => ⟨c, (h.others _ hne).undecidedChange hc⟩,
      fun ⟨c, hc⟩ => ⟨c, (h.others _ hne).symm.undecidedChange hc⟩⟩
  · simp only [h.stops.execution, h.stops.step]

theorem timedOut (h : Recovered request now s s') (htrail : StatusTrail s s')
    (hne : other.id ≠ request.id) (hother : TimedOut s other) : TimedOut s' other where
  status := by rw [h.approvals, Table.get?_modify_of_ne hne]; exact hother.status
  decision := by
    obtain ⟨i, d, hd, hdecides⟩ := hother.decision
    exact ⟨i, d, h.decisions ▸ Table.get?_insert_of_some _ hd, hdecides⟩
  change hsubject := by
    obtain ⟨c, hlink, hexpired⟩ := hother.change hsubject
    exact ⟨c, ((h.others _ hne).link c).1 hlink,
      Db.statusOf_eq_some.1 (htrail.finished (Db.statusOf_eq_some.2 hexpired) rfl)⟩
  step hsubject e st he hst := h.stops.blockedByTimeout (hother.step hsubject e st he hst)

end Recovered

-- ════════════════════════════════════════════════════════════════════════
-- The sweep
-- ════════════════════════════════════════════════════════════════════════

/-- What is overdue is not timed out yet. -/
theorem Overdue.not_timedOut {request : Loaded ApprovalRequest} (h : Overdue now s request) :
    ¬TimedOut s request := by
  rintro ⟨⟨row, hrow, hstatus⟩, -⟩
  rw [h.row, Option.some.injEq] at hrow
  subst hrow
  rw [(LedgerSteps.overdue_deadline h.overdue).1] at hstatus
  cases hstatus

/-- There is one row for each id. -/
theorem Overdue.unique {request other : Loaded ApprovalRequest} (h : Overdue now s request)
    (hother : Overdue now s other) (hid : request.id = other.id) : request = other := by
  obtain ⟨i, row⟩ := request
  obtain ⟨j, row'⟩ := other
  obtain rfl : i = j := hid
  have hrow := h.row.symm.trans hother.row
  rw [Option.some.injEq] at hrow
  exact congrArg (Loaded.mk i) hrow

/-- The loop over the requests of a sweep. -/
def recoverAll (env : Env) (now : Time) (requests : List (Loaded ApprovalRequest)) :
    Handler recoverApprovalCells Unit :=
  Prog.forEach (fun a =>
    Prog.atomic (.recoverApproval a.id now) (recoverExpiredApproval env a.id now)) requests

/-- The first request either fails, and ends the loop, or is recovered before the rest. -/
theorem recoverAll_cons {request : Loaded ApprovalRequest} (env : Env)
    (requests : List (Loaded ApprovalRequest)) (h : Overdue now s request) :
    (¬Resolvable env s request ∧ ((recoverAll env now (request :: requests)).exec s).2 = s) ∨
      Resolvable env s request ∧ ∃ s1, Recovered request now s s1 ∧ StatusTrail s s1 ∧
        TimedOut s1 request ∧ ((recoverAll env now (request :: requests)).exec s).2 =
          ((recoverAll env now requests).exec s1).2 := by
  rw [← recoverExpiredApproval_succeeds h, recoverAll, Prog.forEach, Prog.exec_bind,
    Prog.exec_atomic]
  cases hrun : (recoverExpiredApproval env request.id now).run s with
  | error e => exact .inl ⟨by simp [Tx.Succeeds, hrun], rfl⟩
  | ok result =>
    obtain ⟨u, s1⟩ := result
    obtain ⟨hrecovered, htrail, hdone⟩ := recoverExpiredApproval_recovered h hrun
    exact .inr ⟨⟨_, hrun⟩, s1, hrecovered, htrail, hdone, rfl⟩

/-- What is timed out stays so. -/
theorem recoverAll_keeps {requests : List (Loaded ApprovalRequest)} {request : Loaded ApprovalRequest}
    (hnodup : (requests.map (·.id)).Nodup) (hall : ∀ r ∈ requests, Overdue now s r)
    (hne : ∀ r ∈ requests, request.id ≠ r.id) (h : TimedOut s request) :
    TimedOut ((recoverAll env now requests).exec s).2 request := by
  induction requests generalizing s with
  | nil => exact h
  | cons r rest ih =>
    rw [List.map_cons, List.nodup_cons] at hnodup
    rcases recoverAll_cons env rest (hall r List.mem_cons_self) with
      ⟨-, hexec⟩ | ⟨-, s1, hrecovered, htrail, -, hexec⟩
    · rw [hexec]
      exact h
    · rw [hexec]
      refine ih hnodup.2 (fun q hq => ?_) (fun q hq => hne q (List.mem_cons_of_mem r hq))
        (hrecovered.timedOut htrail (hne r List.mem_cons_self) h)
      exact hrecovered.overdue (fun heq => hnodup.1 (heq ▸ List.mem_map_of_mem hq))
        (hall q (List.mem_cons_of_mem r hq))

/-- The requests before `request` and itself, all of them resolvable. -/
def Reached (env : Env) (s : Db) (requests : List (Loaded ApprovalRequest))
    (request : Loaded ApprovalRequest) : Prop :=
  ∃ before after, requests = before ++ request :: after ∧ Resolvable env s request ∧
    ∀ r ∈ before, Resolvable env s r

/-- **The loop resolves what it reaches**: the requests with nothing unresolvable up to them. -/
theorem recoverAll_timedOut_iff {requests : List (Loaded ApprovalRequest)}
    {request : Loaded ApprovalRequest} (hnodup : (requests.map (·.id)).Nodup)
    (hall : ∀ r ∈ requests, Overdue now s r) (h : Overdue now s request) :
    TimedOut ((recoverAll env now requests).exec s).2 request ↔ Reached env s requests request := by
  induction requests generalizing s with
  | nil => exact ⟨fun hdone => absurd hdone h.not_timedOut, by rintro ⟨_ | _, _, ⟨⟩, -⟩⟩
  | cons r rest ih =>
    rw [List.map_cons, List.nodup_cons] at hnodup
    have hdistinct : ∀ q ∈ rest, q.id ≠ r.id := fun q hq heq =>
      hnodup.1 (heq ▸ List.mem_map_of_mem hq)
    rcases recoverAll_cons env rest (hall r List.mem_cons_self) with
      ⟨hstuck, hexec⟩ | ⟨hresolvable, s1, hrecovered, htrail, hdone, hexec⟩
    · -- the loop ends here
      rw [hexec]
      refine ⟨fun hdone => absurd hdone h.not_timedOut, ?_⟩
      rintro ⟨before, after, heq, hrequest, hbefore⟩
      cases before with
      | nil =>
        rw [List.nil_append, List.cons.injEq] at heq
        exact absurd (heq.1 ▸ hrequest) hstuck
      | cons b before =>
        rw [List.cons_append, List.cons.injEq] at heq
        exact absurd (hbefore r (heq.1 ▸ List.mem_cons_self)) hstuck
    · rw [hexec]
      have hrest : ∀ q ∈ rest, Overdue now s1 q := fun q hq =>
        hrecovered.overdue (hdistinct q hq) (hall q (List.mem_cons_of_mem r hq))
      by_cases hsame : request.id = r.id
      · have heq : request = r := h.unique (hall r List.mem_cons_self) hsame
        subst heq
        exact ⟨fun _ => ⟨[], rest, rfl, hresolvable, nofun⟩, fun _ =>
          recoverAll_keeps hnodup.2 hrest (fun q hq => (hdistinct q hq).symm) hdone⟩
      · rw [ih hnodup.2 hrest (hrecovered.overdue hsame h)]
        constructor
        · rintro ⟨before, after, rfl, hrequest, hbefore⟩
          refine ⟨r :: before, after, rfl, (hrecovered.resolvable hsame).2 hrequest, fun q hq => ?_⟩
          rcases List.mem_cons.1 hq with rfl | hq
          · exact hresolvable
          · exact (hrecovered.resolvable (hdistinct q (List.mem_append_left _ hq))).2 (hbefore q hq)
        · rintro ⟨before, after, heq, hrequest, hbefore⟩
          cases before with
          | nil =>
            rw [List.nil_append, List.cons.injEq] at heq
            exact absurd (congrArg (·.id) heq.1.symm) hsame
          | cons b before =>
            rw [List.cons_append, List.cons.injEq] at heq
            obtain ⟨rfl, rfl⟩ := heq
            exact ⟨before, after, rfl, (hrecovered.resolvable hsame).1 hrequest, fun q hq =>
              (hrecovered.resolvable (hdistinct q (List.mem_append_left _ hq))).1
                (hbefore q (List.mem_cons_of_mem r hq))⟩

theorem insertByDeadline_perm (a : Loaded ApprovalRequest) (as : List (Loaded ApprovalRequest)) :
    (insertByDeadline a as).Perm (a :: as) := by
  induction as with
  | nil => exact .refl _
  | cons b bs ih =>
    rw [insertByDeadline]
    split_ifs
    · exact .refl _
    · exact (ih.cons b).trans (.swap a b bs)

theorem overdueRequests_perm (now : Time) (s : Db) :
    (overdueRequests now s).Perm (rowsWhere s.approvals (·.isOverdue now)) := by
  unfold overdueRequests
  induction rowsWhere s.approvals (·.isOverdue now) with
  | nil => exact .refl _
  | cons a as ih => exact (insertByDeadline_perm a _).trans (ih.cons a)

theorem nodup_overdueRequests (now : Time) (s : Db) :
    ((overdueRequests now s).map (·.id)).Nodup :=
  ((overdueRequests_perm now s).map _).nodup_iff.2 (nodup_rowsWhere _ _)

/-- What the sweep finds is overdue. -/
theorem overdue_of_mem (hinv : LedgerInvariant s) {request : Loaded ApprovalRequest}
    (h : request ∈ overdueRequests now s) : Overdue now s request := by
  obtain ⟨hrow, hover⟩ := mem_rowsWhere.1 ((overdueRequests_perm now s).mem_iff.1 h)
  exact ⟨hrow, hover, undecided_of_overdue hinv hrow hover⟩

/-- The sweep is the loop over one batch. -/
theorem recoverExpiredApprovals_exec (batchSize : ℕ) :
    ((recoverExpiredApprovals env batchSize).exec s).2 =
      ((recoverAll env s.now ((overdueRequests s.now s).take batchSize)).exec s).2 := by
  rw [recoverExpiredApprovals, Prog.exec_bind, Prog.exec_read]
  rfl

/-- What is reached within a batch. -/
theorem reached_take_iff {requests : List (Loaded ApprovalRequest)} {n : ℕ}
    {request : Loaded ApprovalRequest} :
    Reached env s (requests.take n) request ↔
      ∃ before after, requests = before ++ request :: after ∧ before.length < n ∧
        Resolvable env s request ∧ ∀ r ∈ before, Resolvable env s r := by
  constructor
  · rintro ⟨before, after, htake, hresolvable⟩
    refine ⟨before, after ++ requests.drop n, ?_, ?_, hresolvable⟩
    · rw [← List.cons_append, ← List.append_assoc, ← htake, List.take_append_drop]
    · have hlength := congrArg List.length htake
      simp only [List.length_take, List.length_append, List.length_cons] at hlength
      omega
  · rintro ⟨before, after, rfl, hlength, hresolvable⟩
    obtain ⟨k, rfl⟩ := Nat.exists_eq_add_of_lt hlength
    refine ⟨before, after.take k, ?_, hresolvable⟩
    rw [Nat.add_assoc, List.take_length_add_append, List.take_succ_cons]

/-- **The sweep is complete** exactly when each request that can be resolved is within the batch
and follows only such requests. -/
theorem sweep_complete_iff {A : Admission} (h : Interleaved env A s) (batchSize : ℕ) :
    SweepComplete env batchSize s ↔
      ∀ request ∈ overdueRequests s.now s, Resolvable env s request →
        ∃ before after, overdueRequests s.now s = before ++ request :: after ∧
          before.length < batchSize ∧ ∀ r ∈ before, Resolvable env s r := by
  have hall : ∀ r ∈ overdueRequests s.now s, Overdue s.now s r := fun r hr =>
    overdue_of_mem (LedgerInvariant.interleaved h) hr
  have hnodup := (nodup_overdueRequests s.now s).sublist
    ((List.take_sublist batchSize (overdueRequests s.now s)).map _)
  refine forall₂_congr fun request hrequest => ?_
  refine (imp_congr_left (recoverExpiredApproval_succeeds (hall request hrequest))).trans ?_
  refine imp_congr_right fun hresolvable => ?_
  rw [recoverExpiredApprovals_exec, recoverAll_timedOut_iff hnodup
    (fun r hr => hall r (List.mem_of_mem_take hr)) (hall request hrequest), reached_take_iff]
  simp only [hresolvable, true_and]

/-- A sweep that fails on its first request does nothing, and so do all later ones. -/
theorem sweeps_stuck {A : Admission} {first : Loaded ApprovalRequest}
    {rest : List (Loaded ApprovalRequest)} (h : Interleaved env A s)
    (hoverdue : overdueRequests s.now s = first :: rest) (hstuck : ¬Resolvable env s first)
    (batchSize sweeps : ℕ) :
    runOps env (List.replicate sweeps (.recoverExpiredApprovals batchSize)) s = s := by
  have hone : ((recoverExpiredApprovals env batchSize).exec s).2 = s := by
    rw [recoverExpiredApprovals_exec, hoverdue]
    cases batchSize with
    | zero => rfl
    | succ n =>
      rw [List.take_succ_cons]
      rcases recoverAll_cons env _ (overdue_of_mem (LedgerInvariant.interleaved h)
        (hoverdue ▸ List.mem_cons_self)) with ⟨-, hexec⟩ | ⟨hresolvable, -⟩
      · exact hexec
      · exact absurd hresolvable hstuck
  induction sweeps with
  | zero => rfl
  | succ k ih =>
    rw [List.replicate_succ, runOps]
    have hexec : (((Op.recoverExpiredApprovals batchSize).prog env).exec s).2 = s := hone
    rw [hexec, ih]

-- ════════════════════════════════════════════════════════════════════════
-- A renamed profile
-- ════════════════════════════════════════════════════════════════════════

/-- Two profiles whose changes wait for an approval of ten seconds. -/
def approvedReference : Reference :=
  { Reference.sample with
    profiles := ⟨[
      { OperationProfile.sample with requiresApproval := true, approvalTtlSeconds := some 10 },
      { OperationProfile.sample with
        key := "reload", name := "Reload", requiresApproval := true, approvalTtlSeconds := some 10 }]⟩ }

/-- A change of each profile is submitted, and nobody decides about them. -/
def undecidedOps : List Op :=
  [.createChange .sample .sample, .submitChange 0 .sample "nonce",
    .createChange { ChangeRequest.sample with operationProfileKey := "reload" } .sample,
    .submitChange 1 .sample "nonce", .tick (seconds 20)]

/-- Both requests are overdue. -/
def undecidedRun : Db := runOps .sample undecidedOps (.initial approvedReference 0)

/-- Meanwhile the first profile got a new name. -/
def renamedRun : Db :=
  runOps .sample [.editReference { approvedReference with
    profiles := approvedReference.profiles.modify 0 fun profile =>
      { profile with name := "Restart a host" } }] undecidedRun

/-- Whether request `a` is overdue and can be resolved alone. -/
def resolvableAlone (a : ℕ) (s : Db) : Bool :=
  (s.approvals.get? a).any (·.isOverdue s.now) &&
    ((recoverExpiredApproval .sample a s.now).run s).toOption.isSome

theorem mem_of_resolvableAlone (h : resolvableAlone a s = true) :
    ∃ row, ⟨a, row⟩ ∈ overdueRequests s.now s ∧
      (recoverExpiredApproval .sample a s.now).Succeeds s := by
  rw [resolvableAlone, Bool.and_eq_true, Option.any_eq_true] at h
  obtain ⟨⟨row, hrow, hover⟩, hok⟩ := h
  refine ⟨row, (overdueRequests_perm _ _).mem_iff.2 (mem_rowsWhere.2 ⟨hrow, hover⟩), ?_⟩
  cases hrun : (recoverExpiredApproval .sample a s.now).run s with
  | ok result => exact ⟨result, hrun⟩
  | error e => simp [hrun, Except.toOption] at hok

/-- Without the new name the sweep resolves both. -/
theorem sweep_complete_undecided : SweepComplete .sample 100 undecidedRun := by
  have hreach : Interleaved .sample anyAdmission undecidedRun :=
    ((Reachable.initial _ _).runOps undecidedOps).interleaved
  have hids : (overdueRequests undecidedRun.now undecidedRun).map (·.id) = [0, 1] := by
    decide
  have hresolvable : ∀ r ∈ overdueRequests undecidedRun.now undecidedRun,
      Resolvable .sample undecidedRun r := by
    intro r hr
    have hid : r.id ∈ [0, 1] := hids ▸ List.mem_map_of_mem hr
    have halone : ∀ a ∈ [0, 1], resolvableAlone a undecidedRun = true := by decide +kernel
    obtain ⟨-, -, hok⟩ := mem_of_resolvableAlone (halone r.id hid)
    exact (recoverExpiredApproval_succeeds
      (overdue_of_mem (LedgerInvariant.interleaved hreach) hr)).1 hok
  refine (sweep_complete_iff hreach 100).2 fun r hr _ => ?_
  obtain ⟨before, after, heq⟩ := List.append_of_mem hr
  refine ⟨before, after, heq, ?_, fun q hq => hresolvable q (heq ▸ List.mem_append_left _ hq)⟩
  have hlength := congrArg List.length hids
  rw [List.length_map, heq, List.length_append, List.length_cons] at hlength
  simp only [List.length_cons, List.length_nil] at hlength
  omega

/-- The change of the renamed profile fails its integrity check, and the other one is never
timed out. -/
theorem renamed_profile_stops_sweep :
    Interleaved .sample anyAdmission renamedRun ∧ ¬SweepComplete .sample 100 renamedRun := by
  refine ⟨(((Reachable.initial _ _).runOps _).runOps _).interleaved, fun h => ?_⟩
  obtain ⟨row, hmem, hok⟩ := mem_of_resolvableAlone (a := 1) (s := renamedRun) (by decide +kernel)
  obtain ⟨⟨row', hrow', hstatus⟩, -⟩ := h _ hmem hok
  have hpending : ((((recoverExpiredApprovals .sample 100).exec renamedRun).2.approvals.get? 1).map
      (·.status)) = some .pending := by decide +kernel
  rw [hrow', Option.map_some, hstatus, Option.some.injEq] at hpending
  cases hpending

end RunbookPlatform
