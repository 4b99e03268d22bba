import RunbookPlatform.System

/-!
# What happens to approvals and exceptions

Approval requests, their decisions and the exceptions that some of them are about form a
ledger. Every transaction of the platform, seen from the ledger, is a sequence of the few
steps of `LedgerStep`. An exception can leave `PENDING_APPROVAL` without a word to its
request in one of them only, `lapse`.

## Main definitions

- `Resolved` — a pending request gets its final status and its decision
- `LedgerStep`, `LedgerSteps` — the steps, with the pending exceptions that may lapse
- `Expires`, `lapses` — whose exceptions a transaction expires on its way

## Main results

- `LedgerSteps.resolveTimeout`, `LedgerSteps.recoverExpiredApproval`,
  `LedgerSteps.decideApprovalTx`, `LedgerSteps.approveExceptionTx` — the transactions that
  resolve requests
-/

namespace RunbookPlatform

open Transactional

set_option synthInstance.maxSize 1000

/-- The tables of the ledger, and the clock that its deadlines are compared with. -/
@[reducible] def ledgerCells : List Cell := [.clock, .approvals, .decisions, .exceptions]

/-- Request `a`, which was `r`, is resolved by the decision `d`. -/
structure Resolved (a : ℕ) (r : ApprovalRequest) (d : ApprovalDecision) (s s' : Db) : Prop where
  before : s.approvals.get? a = some r
  pending : r.status = .pending
  request : d.approvalRequest = a
  final : d.decision ≠ .pending
  approvals : ∃ now, s'.approvals = s.approvals.modify a (resolveApproval d.decision now)
  decisions : s'.decisions = s.decisions.insert d
  clock : s.now = s'.now

/-- The columns of a decided request. -/
theorem resolveApproval_of_pending {r : ApprovalRequest} (h : r.status = .pending)
    (status : ApprovalStatus) (now : Time) :
    resolveApproval status now r = { r with status, resolvedAt := some now } := by
  unfold resolveApproval
  rw [if_pos h]

/-- Only the resolved request changes. -/
theorem Resolved.replaced {a : ℕ} {r : ApprovalRequest} {d : ApprovalDecision} {s s' : Db}
    (h : Resolved a r d s s') : ∃ r', s.approvals.Replaced a r r' s'.approvals ∧
      r'.status = d.decision ∧ r'.identity = r.identity := by
  obtain ⟨now, happrovals⟩ := h.approvals
  have hafter := resolveApproval_of_pending h.pending d.decision now
  refine ⟨resolveApproval d.decision now r, happrovals ▸ .modify h.before _, ?_, ?_⟩
  · rw [hafter]
  · rw [hafter]
    rfl

/-- An exception becomes `later`, which is not pending and has the same request. -/
structure ChangeException.Settles (exc later : ChangeException) : Prop where
  status : later.status ≠ .pendingApproval
  link : later.approvalRequest = exc.approvalRequest

/-- One step of the ledger. The exceptions in `lapses` may leave `PENDING_APPROVAL` while
their requests stay as they are. -/
inductive LedgerStep (lapses : ℕ → ChangeException → Prop) (s s' : Db) : Prop where
  | quiet (hsame : SameOn ledgerCells s s')
  /-- A request about a change or a step. -/
  | ask (r : ApprovalRequest) (hpending : r.status = .pending)
      (hsubject : r.subjectType ≠ .changeException)
      (happrovals : s'.approvals = s.approvals.insert r)
      (hsame : SameOn [.clock, .decisions, .exceptions] s s')
  /-- An exception, with the request about it. -/
  | request (exc : ChangeException) (r : ApprovalRequest)
      (hstatus : exc.status = .pendingApproval) (hlink : exc.approvalRequest = some s.approvals.next)
      (hpending : r.status = .pending) (hsubject : r.subjectType = .changeException)
      (hid : r.subjectId = s.exceptions.next) (hopen : r.expiresAt = none)
      (hkept : ∀ e, ¬lapses e exc)
      (hexceptions : s'.exceptions = s.exceptions.insert exc)
      (happrovals : s'.approvals = s.approvals.insert r)
      (hsame : SameOn [.clock, .decisions] s s')
  /-- A request that is about a change or a step, or that has a deadline. -/
  | resolve (a : ℕ) (r : ApprovalRequest) (d : ApprovalDecision) (h : Resolved a r d s s')
      (hsubject : r.subjectType = .changeException → r.expiresAt ≠ none)
      (honTime : d.decision = .approved → ∀ t ∈ r.expiresAt, s.now < t)
      (hexceptions : s'.exceptions = s.exceptions)
  /-- A request that has a decision gets its final status. -/
  | restate (a : ℕ) (r : ApprovalRequest) (now : Time) (hbefore : s.approvals.get? a = some r)
      (hpending : r.status = .pending)
      (hdecided : ∃ i d, s.decisions.get? i = some d ∧ d.approvalRequest = a)
      (happrovals : s'.approvals = s.approvals.modify a (resolveApproval .timedOut now))
      (hsame : SameOn [.clock, .decisions, .exceptions] s s')
  /-- An exception is decided together with its request. -/
  | decide (e : ℕ) (exc exc' : ChangeException) (a : ℕ) (r : ApprovalRequest)
      (d : ApprovalDecision) (hstatus : exc.status = .pendingApproval)
      (hlink : exc.approvalRequest = some a) (h : Resolved a r d s s')
      (hexceptions : s.exceptions.Replaced e exc exc' s'.exceptions) (hafter : exc.Settles exc')
  /-- An exception is decided whose request is not pending. -/
  | decideAlone (e : ℕ) (exc exc' : ChangeException) (hstatus : exc.status = .pendingApproval)
      (hlink : ∀ a r, exc.approvalRequest = some a → s.approvals.get? a = some r →
        r.status ≠ .pending)
      (hexceptions : s.exceptions.Replaced e exc exc' s'.exceptions) (hafter : exc.Settles exc')
      (hsame : SameOn [.clock, .approvals, .decisions] s s')
  /-- A decided exception goes on. -/
  | settle (e : ℕ) (exc exc' : ChangeException) (hstatus : exc.status ≠ .pendingApproval)
      (hexceptions : s.exceptions.Replaced e exc exc' s'.exceptions) (hafter : exc.Settles exc')
      (hsame : SameOn [.clock, .approvals, .decisions] s s')
  | lapse (e : ℕ) (exc exc' : ChangeException) (hstatus : exc.status = .pendingApproval)
      (hlapses : lapses e exc) (hexceptions : s.exceptions.Replaced e exc exc' s'.exceptions)
      (hafter : exc.Settles exc')
      (hsame : SameOn [.clock, .approvals, .decisions] s s')

/-- A sequence of steps. -/
def LedgerSteps (lapses : ℕ → ChangeException → Prop) : Db → Db → Prop :=
  Relation.ReflTransGen (LedgerStep lapses)

instance (lapses : ℕ → ChangeException → Prop) : IsPreorder Db (LedgerSteps lapses) where
  refl _ := .refl
  trans _ _ _ := .trans

section LedgerStep

variable {lapses : ℕ → ChangeException → Prop} {s s' : Db}

/-- No step moves the clock. -/
theorem LedgerStep.clock (h : LedgerStep lapses s s') : s.now = s'.now := by
  cases h with
  | quiet hsame => exact hsame .clock (by decide)
  | ask _ _ _ _ hsame => exact hsame .clock (by decide)
  | request _ _ _ _ _ _ _ _ _ _ _ hsame => exact hsame .clock (by decide)
  | resolve _ _ _ h => exact h.clock
  | restate _ _ _ _ _ _ _ hsame => exact hsame .clock (by decide)
  | decide _ _ _ _ _ _ _ _ h _ _ => exact h.clock
  | decideAlone _ _ _ _ _ _ _ hsame => exact hsame .clock (by decide)
  | settle _ _ _ _ _ _ hsame => exact hsame .clock (by decide)
  | lapse _ _ _ _ _ _ _ hsame => exact hsame .clock (by decide)

/-- What a step leaves of an exception: it is the same, or it is no longer pending. -/
structure ChangeException.Follows (exc later : ChangeException) : Prop where
  link : later.approvalRequest = exc.approvalRequest
  settled : later = exc ∨ later.status ≠ .pendingApproval

theorem ChangeException.Follows.refl (exc : ChangeException) : exc.Follows exc := ⟨rfl, .inl rfl⟩

theorem ChangeException.Settles.follows {exc later : ChangeException} (h : exc.Settles later) :
    exc.Follows later :=
  ⟨h.link, .inr h.status⟩

/-- Exceptions that are there. -/
theorem LedgerStep.exceptions (h : LedgerStep lapses s s') :
    s.exceptions.Evolves ChangeException.Follows s'.exceptions := by
  have hframe : ∀ {C : List Cell}, SameOn C s s' → .exceptions ∈ C →
      s.exceptions.Evolves ChangeException.Follows s'.exceptions := by
    intro C hsame hC
    have htable : s.exceptions = s'.exceptions := hsame .exceptions hC
    exact htable ▸ .refl .refl _
  have hreplaced : ∀ {i old new}, s.exceptions.Replaced i old new s'.exceptions →
      old.Settles new → s.exceptions.Evolves ChangeException.Follows s'.exceptions :=
    fun h hafter => h.evolves .refl hafter.follows
  cases h with
  | quiet hsame => exact hframe hsame (by decide)
  | ask _ _ _ _ hsame => exact hframe hsame (by decide)
  | request _ _ _ _ _ _ _ _ _ hexceptions _ _ => exact hexceptions ▸ .insert .refl _ _
  | resolve _ _ _ _ _ _ hexceptions => exact hexceptions ▸ .refl .refl _
  | restate _ _ _ _ _ _ _ hsame => exact hframe hsame (by decide)
  | decide _ _ _ _ _ _ _ _ _ hexceptions hafter => exact hreplaced hexceptions hafter
  | decideAlone _ _ _ _ _ hexceptions hafter _ => exact hreplaced hexceptions hafter
  | settle _ _ _ _ hexceptions hafter _ => exact hreplaced hexceptions hafter
  | lapse _ _ _ _ _ hexceptions hafter _ => exact hreplaced hexceptions hafter

/-- A new exception does not lapse at once. -/
theorem LedgerStep.newException (h : LedgerStep lapses s s') {e : ℕ} {exc : ChangeException}
    (hnone : s.exceptions.get? e = none) (hexc : s'.exceptions.get? e = some exc) :
    ∀ i, ¬lapses i exc := by
  have hframe : ∀ {C : List Cell}, SameOn C s s' → .exceptions ∈ C → False := by
    intro C hsame hC
    have htable : s.exceptions = s'.exceptions := hsame .exceptions hC
    rw [htable, hexc] at hnone
    cases hnone
  have hreplaced : ∀ {i old new}, s.exceptions.Replaced i old new s'.exceptions → False := by
    intro i old new h
    rcases h.cases hexc with ⟨rfl, -⟩ | ⟨-, hold⟩
    · rw [h.before] at hnone
      cases hnone
    · rw [hold] at hnone
      cases hnone
  cases h with
  | quiet hsame => exact (hframe hsame (by decide)).elim
  | ask _ _ _ _ hsame => exact (hframe hsame (by decide)).elim
  | request exc' _ _ _ _ _ _ _ hkept hexceptions _ _ =>
    rw [hexceptions, Table.get?_insert] at hexc
    split_ifs at hexc
    · cases hexc
      exact hkept
    · rw [hexc] at hnone
      cases hnone
  | resolve _ _ _ _ _ _ hexceptions =>
    rw [hexceptions, hnone] at hexc
    cases hexc
  | restate _ _ _ _ _ _ _ hsame => exact (hframe hsame (by decide)).elim
  | decide _ _ _ _ _ _ _ _ _ hexceptions _ => exact (hreplaced hexceptions).elim
  | decideAlone _ _ _ _ _ hexceptions _ _ => exact (hreplaced hexceptions).elim
  | settle _ _ _ _ hexceptions _ _ => exact (hreplaced hexceptions).elim
  | lapse _ _ _ _ _ hexceptions _ _ => exact (hreplaced hexceptions).elim

end LedgerStep

namespace LedgerSteps

variable {lapses : ℕ → ChangeException → Prop} {V W : List Cell} {α : Type}

theorem clock {s s' : Db} (h : LedgerSteps lapses s s') : s.now = s'.now := by
  induction h with
  | refl => rfl
  | tail _ hs ih => exact ih.trans hs.clock

/-- An exception keeps its request. -/
theorem link {s s' : Db} (h : LedgerSteps lapses s s') {e : ℕ} {exc : ChangeException}
    (hexc : s.exceptions.get? e = some exc) :
    ∃ exc', s'.exceptions.get? e = some exc' ∧ exc'.approvalRequest = exc.approvalRequest := by
  induction h with
  | refl => exact ⟨exc, hexc, rfl⟩
  | tail _ hs ih =>
    obtain ⟨exc1, hexc1, hlink1⟩ := ih
    obtain ⟨exc2, hexc2, hfollows⟩ := hs.exceptions e exc1 hexc1
    exact ⟨exc2, hexc2, hfollows.link.trans hlink1⟩

theorem quiet {s s' : Db} (h : SameOn ledgerCells s s') : LedgerSteps lapses s s' :=
  .single (.quiet h)

theorem of_sameOn {t : Service W α} (h : t.Follows (SameOn ledgerCells)) :
    t.Follows (LedgerSteps lapses) :=
  h.mono fun _ _ => quiet

/-- **Frame rule**: a transaction that writes none of the cells is quiet. -/
theorem frame (t : Service W α) (hdisj : ∀ c ∈ ledgerCells, c ∉ W) :
    t.Follows (LedgerSteps lapses) :=
  of_sameOn (.sameOn t hdisj)

end LedgerSteps

-- ════════════════════════════════════════════════════════════════════════
-- Expiry of exceptions
-- ════════════════════════════════════════════════════════════════════════

/-- An exception of change `c` is over at `now`. -/
def overdueOf (c : ℕ) (now : Time) (_ : ℕ) (exc : ChangeException) : Prop :=
  exc.changeRecord = c ∧ exc.expiresAt ≤ now

/-- From `s`, the transaction `n` expires the exceptions of change `c` before it does what it
is for. -/
inductive Expires (s : Db) : TxName → ℕ → Prop where
  | dispatch (c : ℕ) : Expires s (.dispatch c) c
  | submitResult (c : ℕ) : Expires s (.submitResult c) c
  | closeChange (c : ℕ) : Expires s (.closeChange c) c
  /-- A submission that needs no approval and is not scheduled goes on to dispatch. -/
  | submitChange (c : ℕ) (row : ChangeRecord) (profile : OperationProfile)
      (hrow : s.changes.get? c = some row)
      (hprofile : s.reference.profiles.get? row.operationProfile = some profile)
      (hfree : profile.requiresApproval = false) (hdue : ∀ t ∈ row.scheduledFor, t ≤ s.now) :
      Expires s (.submitChange c) c
  | promote (c : ℕ) (now : Time) (row : ChangeRecord) (hrow : s.changes.get? c = some row)
      (hscheduled : row.status = .scheduled) (hdue : ∃ t ∈ row.scheduledFor, t ≤ now) :
      Expires s (.promote c now) c
  | completeExecution (e i : ℕ) (binding : ChangeExecutionBinding) (outcome : ExecutionStatus)
      (hbinding : bindingOf? e s = some (i, binding)) :
      Expires s (.completeExecution e outcome) binding.changeRecord
  | decideException (e : ℕ) (exc : ChangeException) (hexc : s.exceptions.get? e = some exc) :
      Expires s (.decideException e) exc.changeRecord
  /-- A decision on the request of an exception. -/
  | decideRequest (a : ℕ) (decision : HumanDecision) (r : ApprovalRequest) (e : ℕ)
      (exc : ChangeException) (hrequest : s.approvals.get? a = some r)
      (hopen : r.isOverdue s.now = false) (hsubject : r.subjectType = .changeException)
      (hexc : exceptionOf? a r.organization s = some (e, exc)) :
      Expires s (.decideApproval a decision) exc.changeRecord
  /-- An approved change that is not scheduled goes on to dispatch. -/
  | approve (a : ℕ) (r : ApprovalRequest) (c : ℕ) (row : ChangeRecord)
      (hrequest : s.approvals.get? a = some r) (hopen : r.isOverdue s.now = false)
      (hsubject : r.subjectType = .changeRecord) (hchange : changeOfApproval? a s = some (c, row))
      (hdue : ∀ t ∈ row.scheduledFor, t ≤ s.now) : Expires s (.decideApproval a .approved) c

/-- Whether the transaction `n`, from `s`, expires the exception `exc` with key `e`. -/
def lapses (n : TxName) (s : Db) (e : ℕ) (exc : ChangeException) : Prop :=
  n = .expireException e ∨ ∃ c, Expires s n c ∧ overdueOf c s.now e exc

theorem ChangeException.Evolves.overdueOf {exc later : ChangeException} (h : exc.Evolves later)
    {c : ℕ} {now : Time} {e : ℕ} (hover : overdueOf c now e exc) :
    RunbookPlatform.overdueOf c now e later := by
  have hid := h.identity
  simp only [ChangeException.identity, Prod.mk.injEq] at hid
  obtain ⟨-, hchange, -, hexpires, -⟩ := hid
  exact ⟨hchange.trans hover.1, hexpires ▸ hover.2⟩

/-- Saving a status other than pending: the exception settles or lapses. -/
theorem settled_ledger {lapses : ℕ → ChangeException → Prop} {e : ℕ}
    {f : ChangeException → ChangeException} {s s' : Db}
    (h : s' = { s with exceptions := s.exceptions.modify e f })
    (hsame : SameOn [.clock, .approvals, .decisions] s s')
    (hstatus : ∀ exc, (f exc).status ≠ .pendingApproval)
    (hlink : ∀ exc, (f exc).approvalRequest = exc.approvalRequest)
    (hlapses : ∀ exc, s.exceptions.get? e = some exc → exc.status = .pendingApproval →
      lapses e exc) : LedgerSteps lapses s s' := by
  subst h
  cases hexc : s.exceptions.get? e with
  | none =>
    rw [Table.modify_of_none hexc]
    exact .refl
  | some exc =>
    have hreplaced := Table.Replaced.modify hexc f
    by_cases hpending : exc.status = .pendingApproval
    · exact .single (.lapse e exc (f exc) hpending (hlapses exc hexc hpending) hreplaced
        ⟨hstatus exc, hlink exc⟩ hsame)
    · exact .single (.settle e exc (f exc) hpending hreplaced ⟨hstatus exc, hlink exc⟩ hsame)

theorem settleException_ledger {lapses : ℕ → ChangeException → Prop} {e : ℕ}
    {f : ChangeException → ChangeException} {hid hstatus} {s s' : Db} {u : Unit}
    (h : (settleException e f hid hstatus).run s = .ok (u, s'))
    (hlink : ∀ exc, (f exc).approvalRequest = exc.approvalRequest)
    (hlapses : ∀ exc, s.exceptions.get? e = some exc → exc.status = .pendingApproval →
      lapses e exc) : LedgerSteps lapses s s' :=
  settled_ledger (settleException_ok.1 h) (Tx.sameOn h _ (by decide)) hstatus hlink hlapses

theorem lapseException_ledger {lapses : ℕ → ChangeException → Prop} {e : ℕ} {s s' : Db} {u : Unit}
    (h : (lapseException e).run s = .ok (u, s'))
    (hlapses : ∀ exc, s.exceptions.get? e = some exc → lapses e exc) : LedgerSteps lapses s s' :=
  settled_ledger (lapseException_ok.1 h) (Tx.sameOn h _ (by decide)) (by rintro _ ⟨⟩)
    (fun _ => rfl) fun exc hexc _ => hlapses exc hexc

section Expiry

variable {R : TxName → Db → Db → Prop} {H : List Cell} {c : ℕ} {now : Time} {s : Db}

/-- **Expiry**: the exceptions that the sweep saves as expired are of the change and over. -/
theorem expireExceptions_follows (hH : Cell.exceptionHistory ∈ H)
    (hdisj : ∀ c ∈ H, c ∉ [.exceptions, .exceptionEnds, .audit])
    (hquiet : ∀ n s s', SameOn ledgerCells s s' → R n s s')
    (hsave : ∀ e s u s', (∀ exc, s.exceptions.get? e = some exc → overdueOf c now e exc) →
      (lapseException e).run s = .ok (u, s') →
        R (.expireException e) s s') :
    (expireExceptions c now).Follows H R s := by
  refine .read (fun s1 => hquiet _ _ _ (.refl _ _)) fun s1 toExpire _ hread => ?_
  refine .forEachLater hdisj _ _ fun ⟨e, exc⟩ hexc s2 h2 => ?_
  refine .bind (.atomic fun s3 h3 u s4 h4 => hsave e s3 u s4 (fun exc' hexc' => ?_) h4) fun _ s3 =>
    .atomic fun s4 _ u s5 h5 => hquiet _ _ _ (Tx.sameOn h5 _ (by decide))
  rw [select_ok] at hread
  subst hread
  obtain ⟨hrow, htest⟩ := mem_rowsWhere.1 hexc
  simp only [Bool.and_eq_true, decide_eq_true_eq] at htest
  -- the row may have changed since it was found, but not its change and its deadline
  obtain ⟨later, hlater, hevolves⟩ := (h2.trans h3) .exceptionHistory hH e exc hrow
  rw [hexc'] at hlater
  cases hlater
  exact hevolves.overdueOf ⟨htest.1.1, htest.2⟩

/-- The expiry of a change's emergency state. -/
theorem enforceEmergencyExpiryForChange_follows (hH : Cell.exceptionHistory ∈ H)
    (hdisj : ∀ c ∈ H, c ∉ sweepCells)
    (hquiet : ∀ n s s', SameOn ledgerCells s s' → R n s s')
    (hsave : ∀ e s u s', (∀ exc, s.exceptions.get? e = some exc → overdueOf c now e exc) →
      (lapseException e).run s = .ok (u, s') →
        R (.expireException e) s s') :
    (enforceEmergencyExpiryForChange c now).Follows H R s := by
  refine .bind (.widen (expireExceptions_follows hH (fun c hc hmem => hdisj c hc ?_) hquiet hsave))
    fun _ s1 => .widen (.frame (C := ledgerCells) (by decide) hquiet _ _)
  revert hmem
  simp only [List.mem_cons, List.not_mem_nil, or_false]
  rintro (rfl | rfl | rfl) <;> simp

end Expiry

namespace LedgerSteps

variable {lapses : ℕ → ChangeException → Prop} {c : ℕ} {s : Db}

-- ════════════════════════════════════════════════════════════════════════
-- Dispatch
-- ════════════════════════════════════════════════════════════════════════

/-- An expiry inside a transaction. -/
theorem sweepEmergency (hlapses : ∀ e exc, overdueOf c s.now e exc → lapses e exc) :
    (sweepEmergency c).FollowsFrom (LedgerSteps lapses) s := by
  intro u s' h
  refine Tx.FollowsFrom.ofProg (H := historyCells) (enforceEmergencyExpiryForChange_follows
    (by decide) (by decide) (fun _ _ _ => quiet) fun e s1 u s2 hexc h => ?_) u s'
    (sweepEmergency_ok.1 h)
  exact lapseException_ledger h fun exc hrow => hlapses e exc (hexc exc hrow)

theorem freshOrNewPreflight (env : Env) (now : Time) (actor : AuditActor)
    (hlapses : ∀ e exc, overdueOf c s.now e exc → lapses e exc) :
    (freshOrNewPreflight env c now actor).FollowsFrom (LedgerSteps lapses) s := by
  refine .query fun fresh _ => ?_
  cases fresh with
  | some check => exact (Tx.Follows.pure check).from s
  | none =>
    -- the preflight reads the clock again, which stands still during the transaction
    refine Tx.FollowsFrom.ofProg (H := .clock :: historyCells)
      (p := RunbookPlatform.runDispatchPreflight env c (some actor))
      (.read (fun _ => .refl) fun s1 t h1 ht => ?_)
    have hnow : s.now = s1.now := h1 .clock (by decide)
    rw [timezoneNow, select_ok] at ht
    subst ht
    refine .bind (.widen (enforceEmergencyExpiryForChange_follows (by decide) (by decide)
      (fun _ _ _ => quiet) fun e s2 u s3 hexc h => ?_)) fun _ s2 =>
        .widen (.frame (C := ledgerCells) (by decide) (fun _ _ _ => quiet) _ _)
    exact lapseException_ledger h fun exc hrow => hlapses e exc (hnow ▸ hexc exc hrow)

theorem passDispatchGates (env : Env) (row : ChangeRecord) (now : Time) (actor : AuditActor)
    (hnow : s.now = now) (hlapses : ∀ e exc, overdueOf c s.now e exc → lapses e exc) :
    (passDispatchGates env c row now actor).FollowsFrom (LedgerSteps lapses) s := by
  subst hnow
  refine .query fun _ _ => .bind (.widen (sweepEmergency hlapses)) fun _ s1 _ h1 =>
    .query fun _ _ => .query fun _ _ => .bind (.lift ((frame _ (by decide)).from s1)) fun _ s2 _ h2 => ?_
  have hclock : s.now = s2.now := h1.clock.trans h2.clock
  refine .lift (.bind (freshOrNewPreflight env s.now actor ?_) fun check s3 _ _ =>
    .query fun _ _ => (Tx.Follows.pure _).from s3)
  exact hclock ▸ hlapses

/-- A dispatch expires the exceptions of its change. -/
theorem makeDispatchable (env : Env) (actor : AuditActor) (nonce : String)
    (hlapses : ∀ e exc, overdueOf c s.now e exc → lapses e exc) :
    (makeDispatchable env c actor nonce).FollowsFrom (LedgerSteps lapses) s := by
  refine .query fun row _ => .query fun now hnow => ?_
  rw [timezoneNow, select_ok] at hnow
  refine .bind (.lift (passDispatchGates env row now actor hnow hlapses)) fun check s1 _ _ =>
    Tx.Follows.from ?_ s1
  exact .bind (.query _) fun _ => .bind (.query _) fun _ => .bind (.query _) fun _ =>
    .bind (.query _) fun _ => .bind (.lift (frame _ (by decide))) fun _ => .bind (.lift (frame _ (by decide))) fun _ =>
    .bind (.lift (frame _ (by decide))) fun _ => .bind (.lift (frame _ (by decide))) fun _ => .lift (frame _ (by decide))

/-- An approved change that is not due later is dispatched. -/
theorem scheduleOrMakeDispatchable (env : Env) (actor : AuditActor) (nonce : String)
    (hlapses : (∀ row, s.changes.get? c = some row → ∀ t ∈ row.scheduledFor, t ≤ s.now) →
      ∀ e exc, overdueOf c s.now e exc → lapses e exc) :
    (scheduleOrMakeDispatchable env c actor nonce).FollowsFrom (LedgerSteps lapses) s := by
  refine .query fun row hrow => .query fun _ _ => .query fun _ _ => .query fun now hnow => ?_
  rw [lookup_ok] at hrow
  rw [timezoneNow, select_ok] at hnow
  subst hnow
  split
  · exact (Tx.Follows.bind (.lift (frame _ (by decide))) fun _ => .pure _).from s
  · rename_i hdue
    refine .lift (makeDispatchable env actor nonce (hlapses fun row' hrow' t ht => ?_))
    rw [hrow] at hrow'
    cases hrow'
    simp only [Option.mem_def] at ht
    simpa [ht] using hdue

/-- A new request is about a change. -/
theorem createChangeApprovalRequest (organization : ℕ) (ttlSeconds : Option ℕ)
    (actor : AuditActor) :
    (createChangeApprovalRequest c organization ttlSeconds actor).Follows (LedgerSteps lapses) := by
  intro s a s' h
  simp only [RunbookPlatform.createChangeApprovalRequest, Tx.bind_ok, Tx.lift_query_ok,
    Tx.run_lift, Tx.run_pure, Except.ok.injEq, Prod.mk.injEq] at h
  obtain ⟨now, _, ⟨-, rfl⟩, id, s1, hinsert, _, s2, hemit, -, rfl⟩ := h
  have hsame : SameOn [.clock, .decisions, .exceptions] s s1 := Tx.sameOn hinsert _ (by decide)
  obtain ⟨-, rfl⟩ := insertRow_ok.1 hinsert
  exact (Relation.ReflTransGen.single (.ask _ rfl (by simp) rfl hsame)).tail
    (.quiet (Tx.sameOn hemit _ (by decide)))

/-- A new request is about a step. -/
theorem requestStepApproval (execution step : ℕ) (runnerId claimToken : String)
    (policyDriven : Bool) :
    (requestStepApproval execution step runnerId claimToken policyDriven).Follows
      (LedgerSteps lapses) := by
  refine .bind (.query _) fun e => .bind (.query _) fun st => .bind (.query _) fun _ =>
    .bind (.query _) fun _ => .bind (.query _) fun existing => ?_
  split
  · exact .pure _
  · refine .bind (.query _) fun _ => .bind (.query _) fun _ => .bind (.query _) fun now =>
      .bind (.lift (frame _ (by decide))) fun _ => .bind (.query _) fun timeoutSeconds => .bind ?_ fun _ =>
      .bind (.lift (frame _ (by decide))) fun _ => .bind (.lift (frame _ (by decide))) fun _ => .pure _
    intro s1 a s2 h
    have hsame : SameOn [.clock, .decisions, .exceptions] s1 s2 := Tx.sameOn h _ (by decide)
    obtain ⟨-, -, rfl⟩ := insertUnique_ok.1 h
    exact .single (.ask _ rfl (by simp) rfl hsame)

end LedgerSteps

end RunbookPlatform
