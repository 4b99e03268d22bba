import RunbookPlatform.Ledger.Requests

/-!
# The approval ledger in every run

A request and its decision are written in one transaction, and so are an exception and
its request, whichever of the paths decides. The invariants below survive every
interleaving. The agreement of an exception with its request survives as well, as long
as no pending exception lapses.

## Main definitions

- `Balanced`, `Linked` — requests and decisions; exceptions and requests
- `ExceptionsAgree` — a request is pending exactly when its exception is
- `NothingLapses` — no commit expires a pending exception

## Main results

- `approval_ledger` — one decision for each resolved request, final, and in time
- `exceptions_agree` — the agreement in runs where nothing lapses
-/

namespace RunbookPlatform

open Transactional

/-- Requests and decisions match: a decision is about a request with that status, and each
request that is not pending has exactly one. -/
structure Balanced (s : Db) : Prop where
  request : ∀ i d, s.decisions.get? i = some d → ∃ r,
    s.approvals.get? d.approvalRequest = some r ∧ r.status = d.decision ∧ r.status ≠ .pending
  decided : ∀ a r, s.approvals.get? a = some r → r.status ≠ .pending →
    ∃ i d, s.decisions.get? i = some d ∧ d.approvalRequest = a
  unique : ∀ i j d d', s.decisions.get? i = some d → s.decisions.get? j = some d' →
    d.approvalRequest = d'.approvalRequest → i = j

/-- The request of an exception is about it and has no deadline. -/
structure Linked (s : Db) : Prop where
  link : ∀ e exc a, s.exceptions.get? e = some exc → exc.approvalRequest = some a → ∃ r,
    s.approvals.get? a = some r ∧ r.subjectType = .changeException ∧ r.subjectId = e
  untimed : ∀ a r, s.approvals.get? a = some r → r.subjectType = .changeException →
    r.expiresAt = none

-- ════════════════════════════════════════════════════════════════════════
-- What a step does to the requests
-- ════════════════════════════════════════════════════════════════════════

/-- A step, seen from the requests and decisions. -/
inductive RequestEffect (s s' : Db) : Prop where
  | same (hsame : SameOn [.approvals, .decisions] s s')
  | opened (r : ApprovalRequest) (hpending : r.status = .pending)
      (huntimed : r.subjectType = .changeException → r.expiresAt = none)
      (happrovals : s'.approvals = s.approvals.insert r) (hsame : SameOn [.decisions] s s')
  | resolved (a : ℕ) (r : ApprovalRequest) (d : ApprovalDecision) (h : Resolved a r d s s')
      (honTime : d.decision = .approved → ∀ t ∈ r.expiresAt, s.now < t)
  /-- The request has a decision, but no final status. -/
  | restated (a : ℕ) (r : ApprovalRequest) (now : Time) (hbefore : s.approvals.get? a = some r)
      (hpending : r.status = .pending)
      (hdecided : ∃ i d, s.decisions.get? i = some d ∧ d.approvalRequest = a)
      (happrovals : s'.approvals = s.approvals.modify a (resolveApproval .timedOut now))
      (hsame : SameOn [.decisions] s s')

/-- Each step has one of these effects; the request of an exception has no deadline to miss. -/
theorem LedgerStep.requestEffect {lapses : ℕ → ChangeException → Prop} {s s' : Db}
    (h : LedgerStep lapses s s') (hlinked : Linked s) : RequestEffect s s' := by
  cases h with
  | quiet hsame => exact .same (hsame.mono (by decide))
  | ask r hpending hsubject happrovals hsame =>
    exact .opened r hpending (fun h => absurd h hsubject) happrovals (hsame.mono (by decide))
  | request _ r _ _ hpending _ _ hopen _ _ happrovals hsame =>
    exact .opened r hpending (fun _ => hopen) happrovals (hsame.mono (by decide))
  | resolve a r d h _ honTime _ => exact .resolved a r d h honTime
  | restate a r now hbefore hpending hdecided happrovals hsame =>
    exact .restated a r now hbefore hpending hdecided happrovals (hsame.mono (by decide))
  | decide e exc exc' a r d _ hlink h hexceptions _ =>
    refine .resolved a r d h fun _ t ht => ?_
    obtain ⟨r1, hr1, hsubject, -⟩ := hlinked.link e exc a hexceptions.before hlink
    rw [h.before] at hr1
    cases hr1
    rw [hlinked.untimed a r h.before hsubject] at ht
    cases ht
  | decideAlone _ _ _ _ _ _ _ hsame => exact .same (hsame.mono (by decide))
  | settle _ _ _ _ _ _ hsame => exact .same (hsame.mono (by decide))
  | lapse _ _ _ _ _ _ _ hsame => exact .same (hsame.mono (by decide))

namespace RequestEffect

variable {s s' : Db}

/-- Requests that are there keep their identity, and their status once decided. -/
theorem approvals (h : RequestEffect s s') :
    s.approvals.Evolves ApprovalRequest.Evolves s'.approvals := by
  cases h with
  | same hsame =>
    have htable : s.approvals = s'.approvals := hsame .approvals (by decide)
    exact htable ▸ .refl .refl _
  | opened r _ _ happrovals _ => exact happrovals ▸ .insert .refl _ _
  | resolved _ _ _ h _ =>
    obtain ⟨now, happrovals⟩ := h.approvals
    exact happrovals ▸ .modify .refl (resolveApproval_evolves _ _) _ _
  | restated _ _ _ _ _ _ happrovals _ =>
    exact happrovals ▸ .modify .refl (resolveApproval_evolves _ _) _ _

/-- Where a request comes from: it was there, or it is new and pending, and has no deadline
if it is about an exception. -/
theorem request_cases (h : RequestEffect s s') {a : ℕ} {r' : ApprovalRequest}
    (hr' : s'.approvals.get? a = some r') :
    (∃ r, s.approvals.get? a = some r ∧ r.Evolves r') ∨
      r'.status = .pending ∧ (r'.subjectType = .changeException → r'.expiresAt = none) := by
  have hmodify : ∀ {b now status}, s'.approvals = s.approvals.modify b (resolveApproval status now) →
      ∃ r, s.approvals.get? a = some r ∧ r.Evolves r' := by
    intro b now status happrovals
    rw [happrovals, Table.get?_modify] at hr'
    split_ifs at hr' with hab
    · obtain ⟨r, hr, rfl⟩ := Option.map_eq_some_iff.1 hr'
      exact ⟨r, hr, resolveApproval_evolves _ _ r⟩
    · exact ⟨r', hr', .refl r'⟩
  cases h with
  | same hsame =>
    have htable : s.approvals = s'.approvals := hsame .approvals (by decide)
    exact .inl ⟨r', htable ▸ hr', .refl r'⟩
  | opened r hpending huntimed happrovals _ =>
    rw [happrovals, Table.get?_insert] at hr'
    split_ifs at hr' with ha
    · cases hr'
      exact .inr ⟨hpending, huntimed⟩
    · exact .inl ⟨r', hr', .refl r'⟩
  | resolved _ _ _ h _ => exact .inl (hmodify h.approvals.choose_spec)
  | restated _ _ _ _ _ _ happrovals _ => exact .inl (hmodify happrovals)

/-- A request that becomes approved does so before its deadline. -/
theorem onTime (h : RequestEffect s s') {a : ℕ} {r' : ApprovalRequest}
    (hr' : s'.approvals.get? a = some r') (happroved : r'.status = .approved) :
    (∃ r, s.approvals.get? a = some r ∧ r.status = .approved ∧ r.expiresAt = r'.expiresAt) ∨
      ∀ t ∈ r'.expiresAt, s.now < t := by
  have hkept : s.approvals.get? a = some r' →
      ∃ r, s.approvals.get? a = some r ∧ r.status = .approved ∧ r.expiresAt = r'.expiresAt :=
    fun hr => ⟨r', hr, happroved, rfl⟩
  cases h with
  | same hsame =>
    have htable : s.approvals = s'.approvals := hsame .approvals (by decide)
    exact .inl (hkept (htable ▸ hr'))
  | opened r hpending _ happrovals _ =>
    rw [happrovals, Table.get?_insert] at hr'
    split_ifs at hr' with ha
    · cases hr'
      rw [hpending] at happroved
      cases happroved
    · exact .inl (hkept hr')
  | resolved b r d h honTime =>
    obtain ⟨r1, hreplaced, hstatus, hid⟩ := h.replaced
    rcases hreplaced.cases hr' with ⟨rfl, rfl⟩ | ⟨-, hr⟩
    · have hexpires : r'.expiresAt = r.expiresAt := congrArg (·.2.2.2) hid
      rw [hexpires]
      exact .inr (honTime (hstatus.symm.trans happroved))
    · exact .inl (hkept hr)
  | restated b r now hbefore hpending _ happrovals _ =>
    rw [happrovals, Table.get?_modify] at hr'
    split_ifs at hr' with hab
    · subst hab
      rw [hbefore, Option.map_some, resolveApproval_of_pending hpending] at hr'
      cases hr'
      cases happroved
    · exact .inl (hkept hr')

/-- **Requests and decisions go on matching.** -/
theorem balanced (h : RequestEffect s s') (hinv : Balanced s) : Balanced s' := by
  cases h with
  | same hsame =>
    have happrovals : s.approvals = s'.approvals := hsame .approvals (by decide)
    have hdecisions : s.decisions = s'.decisions := hsame .decisions (by decide)
    obtain ⟨hrequest, hdecided, hunique⟩ := hinv
    rw [hdecisions] at hrequest hdecided hunique
    rw [happrovals] at hrequest hdecided
    exact ⟨hrequest, hdecided, hunique⟩
  | opened r hpending _ happrovals hsame =>
    have hdecisions : s.decisions = s'.decisions := hsame .decisions (by decide)
    refine ⟨fun i d hd => ?_, fun a r' hr' hdone => ?_, hdecisions ▸ hinv.unique⟩
    · obtain ⟨r1, hr1, hmatch⟩ := hinv.request i d (hdecisions ▸ hd)
      exact ⟨r1, happrovals ▸ Table.get?_insert_of_some r hr1, hmatch⟩
    · rw [happrovals, Table.get?_insert] at hr'
      split_ifs at hr' with ha
      · cases hr'
        exact absurd hpending hdone
      · exact hdecisions ▸ hinv.decided a r' hr' hdone
  | resolved a r d h _ =>
    have hfree : ∀ i d', s.decisions.get? i = some d' → d'.approvalRequest ≠ a := by
      rintro i d' hd' rfl
      obtain ⟨r1, hr1, -, hdone⟩ := hinv.request i d' hd'
      rw [h.before] at hr1
      cases hr1
      exact hdone h.pending
    obtain ⟨r', hreplaced, hstatus, -⟩ := h.replaced
    refine ⟨fun i d' hd' => ?_, fun b r1 hr1 hdone => ?_, fun i j d1 d2 h1 h2 hsame => ?_⟩
    · rw [h.decisions, Table.get?_insert] at hd'
      split_ifs at hd' with hi
      · cases hd'
        rw [h.request]
        exact ⟨r', hreplaced.after, hstatus, hstatus ▸ h.final⟩
      · obtain ⟨r1, hr1, hmatch⟩ := hinv.request i d' hd'
        exact ⟨r1, (hreplaced.others _ (hfree i d' hd')).trans hr1, hmatch⟩
    · rcases hreplaced.cases hr1 with ⟨rfl, -⟩ | ⟨-, hr⟩
      · exact ⟨s.decisions.next, d, h.decisions ▸ Table.get?_insert_next _ _, h.request⟩
      · obtain ⟨i, d', hd', hrequest⟩ := hinv.decided b r1 hr hdone
        exact ⟨i, d', h.decisions ▸ Table.get?_insert_of_some d hd', hrequest⟩
    · rw [h.decisions, Table.get?_insert] at h1 h2
      split_ifs at h1 h2 with hi hj hj
      · omega
      · cases h1
        exact absurd (hsame.symm.trans h.request) (hfree j d2 h2)
      · cases h2
        exact absurd (hsame.trans h.request) (hfree i d1 h1)
      · exact hinv.unique i j d1 d2 h1 h2 hsame
  | restated a r now hbefore hpending hdecided happrovals hsame =>
    -- a decided request is not pending
    obtain ⟨i, d, hd, rfl⟩ := hdecided
    obtain ⟨r1, hr1, -, hdone⟩ := hinv.request i d hd
    rw [hbefore] at hr1
    cases hr1
    exact absurd hpending hdone

end RequestEffect

-- ════════════════════════════════════════════════════════════════════════
-- What a step does to the exceptions
-- ════════════════════════════════════════════════════════════════════════

/-- A new exception is pending, and so is the request about it. -/
structure Requested (e : ℕ) (exc : ChangeException) (s' : Db) : Prop where
  status : exc.status = .pendingApproval
  request : ∃ a r, exc.approvalRequest = some a ∧ s'.approvals.get? a = some r ∧
    r.status = .pending ∧ r.subjectType = .changeException ∧ r.subjectId = e

section Step

variable {lapses : ℕ → ChangeException → Prop} {s s' : Db}

/-- Where an exception comes from: it was there, or it is new. -/
theorem LedgerStep.exception_cases (h : LedgerStep lapses s s') {e : ℕ} {exc' : ChangeException}
    (hexc' : s'.exceptions.get? e = some exc') :
    (∃ exc, s.exceptions.get? e = some exc ∧ exc.Follows exc') ∨ Requested e exc' s' := by
  cases hexc : s.exceptions.get? e with
  | some exc =>
    obtain ⟨exc1, hexc1, hfollows⟩ := h.exceptions e exc hexc
    rw [hexc'] at hexc1
    cases hexc1
    exact .inl ⟨exc, rfl, hfollows⟩
  | none =>
    have hframe : ∀ {C : List Cell}, SameOn C s s' → .exceptions ∈ C → False := by
      intro C hsame hC
      have htable : s.exceptions = s'.exceptions := hsame .exceptions hC
      rw [htable, hexc'] at hexc
      cases hexc
    have hreplaced : ∀ {i old new}, s.exceptions.Replaced i old new s'.exceptions → False := by
      intro i old new h
      rcases h.cases hexc' with ⟨rfl, -⟩ | ⟨-, hold⟩
      · rw [h.before] at hexc
        cases hexc
      · rw [hold] at hexc
        cases hexc
    cases h with
    | quiet hsame => exact (hframe hsame (by decide)).elim
    | ask _ _ _ _ hsame => exact (hframe hsame (by decide)).elim
    | request new r hstatus hlink hpending hsubject hid _ _ hexceptions happrovals _ =>
      rw [hexceptions, Table.get?_insert] at hexc'
      split_ifs at hexc' with he
      · cases hexc'
        exact .inr ⟨hstatus, s.approvals.next, r, hlink,
          happrovals ▸ Table.get?_insert_next _ _, hpending, hsubject, hid.trans he.symm⟩
      · rw [hexc'] at hexc
        cases hexc
    | resolve _ _ _ _ _ _ hexceptions =>
      rw [hexceptions, hexc] at hexc'
      cases hexc'
    | restate _ _ _ _ _ _ _ hsame => exact (hframe hsame (by decide)).elim
    | decide _ _ _ _ _ _ _ _ _ hexceptions _ => exact (hreplaced hexceptions).elim
    | decideAlone _ _ _ _ _ hexceptions _ _ => exact (hreplaced hexceptions).elim
    | settle _ _ _ _ hexceptions _ _ => exact (hreplaced hexceptions).elim
    | lapse _ _ _ _ _ hexceptions _ _ => exact (hreplaced hexceptions).elim

/-- **Exceptions stay linked to their requests.** -/
theorem LedgerStep.linked (h : LedgerStep lapses s s') (hinv : Linked s) : Linked s' := by
  have heffect := h.requestEffect hinv
  refine ⟨fun e exc' a hexc' hlink => ?_, fun a r' hr' hsubject => ?_⟩
  · rcases h.exception_cases hexc' with ⟨exc, hexc, hfollows⟩ | hnew
    · obtain ⟨r, hr, hsubject, hid⟩ := hinv.link e exc a hexc (hfollows.link ▸ hlink)
      obtain ⟨r', hr', hevolves⟩ := heffect.approvals a r hr
      have hsubject' : r'.subjectType = r.subjectType := congrArg (·.1) hevolves.identity
      have hid' : r'.subjectId = r.subjectId := congrArg (·.2.1) hevolves.identity
      exact ⟨r', hr', hsubject'.trans hsubject, hid'.trans hid⟩
    · obtain ⟨b, r, hrequest, hr, -, hsubject, hid⟩ := hnew.request
      rw [hlink] at hrequest
      cases hrequest
      exact ⟨r, hr, hsubject, hid⟩
  · rcases heffect.request_cases hr' with ⟨r, hr, hevolves⟩ | ⟨-, huntimed⟩
    · have hsubject' : r'.subjectType = r.subjectType := congrArg (·.1) hevolves.identity
      have hexpires : r'.expiresAt = r.expiresAt := congrArg (·.2.2.2) hevolves.identity
      exact hexpires.trans (hinv.untimed a r hr (hsubject'.symm.trans hsubject))
    · exact huntimed hsubject

end Step

-- ════════════════════════════════════════════════════════════════════════
-- The ledger in every run
-- ════════════════════════════════════════════════════════════════════════

/-- The invariants of the ledger. -/
structure LedgerInvariant (s : Db) : Prop where
  balanced : Balanced s
  linked : Linked s

namespace LedgerInvariant

theorem initial (reference : Reference) (now : Time) : LedgerInvariant (.initial reference now) := by
  refine ⟨⟨?_, ?_, ?_⟩, ⟨?_, ?_⟩⟩ <;> simp [Db.initial]

theorem step {lapses : ℕ → ChangeException → Prop} {s s' : Db} (hinv : LedgerInvariant s)
    (h : LedgerStep lapses s s') : LedgerInvariant s' :=
  ⟨(h.requestEffect hinv.linked).balanced hinv.balanced, h.linked hinv.linked⟩

theorem steps {lapses : ℕ → ChangeException → Prop} {s s' : Db} (hinv : LedgerInvariant s)
    (h : LedgerSteps lapses s s') : LedgerInvariant s' := by
  induction h with
  | refl => exact hinv
  | tail _ hs ih => exact ih.step hs

/-- The invariants look at three tables. -/
theorem supports : Supports [.approvals, .decisions, .exceptions] LedgerInvariant := by
  intro s s' hsame ⟨⟨hrequest, hdecided, hunique⟩, ⟨hlink, huntimed⟩⟩
  have happrovals : s.approvals = s'.approvals := hsame .approvals (by decide)
  have hdecisions : s.decisions = s'.decisions := hsame .decisions (by decide)
  have hexceptions : s.exceptions = s'.exceptions := hsame .exceptions (by decide)
  rw [hdecisions] at hrequest hdecided hunique
  rw [hexceptions] at hlink
  rw [happrovals] at hrequest hdecided hlink huntimed
  exact ⟨⟨hrequest, hdecided, hunique⟩, ⟨hlink, huntimed⟩⟩

theorem move {n : TxName} {s s' : Db} (h : LedgerMove n s s') (hinv : LedgerInvariant s) :
    LedgerInvariant s' := by
  cases h with
  | other hsame => exact supports s s' hsame hinv
  | steps h => exact hinv.steps h

/-- **The invariants hold in every interleaving.** -/
theorem interleaved {env : Env} {A : Admission} {s : Db} (h : Interleaved env A s) :
    LedgerInvariant s :=
  h.invariant (Op.ledgerMoves env) initial fun _ _ _ hR _ => move hR

end LedgerInvariant

/-- A request that a transaction approves had not reached its deadline when it started. -/
theorem LedgerSteps.onTime {lapses : ℕ → ChangeException → Prop} {s s' : Db}
    (hinv : LedgerInvariant s) (h : LedgerSteps lapses s s') {a : ℕ} {r' : ApprovalRequest}
    (hr' : s'.approvals.get? a = some r') (happroved : r'.status = .approved) :
    (∃ r, s.approvals.get? a = some r ∧ r.status = .approved ∧ r.expiresAt = r'.expiresAt) ∨
      ∀ t ∈ r'.expiresAt, s.now < t := by
  induction h generalizing r' with
  | refl => exact .inl ⟨r', hr', happroved, rfl⟩
  | tail hsteps hs ih =>
    have hinv1 := hinv.steps hsteps
    rcases (hs.requestEffect hinv1.linked).onTime hr' happroved with ⟨r1, hr1, h1, hexpires⟩ | hopen
    · rw [← hexpires]
      exact ih hr1 h1
    · exact .inr (LedgerSteps.clock hsteps ▸ hopen)

/-- **The approval ledger.** In every interleaving a request is pending exactly when it has no
decision; one that is not has exactly one decision, with its status; it keeps that status;
and it becomes approved only before its deadline. -/
theorem approval_ledger (env : Env) :
    (∀ s, Interleaved env anyAdmission s → ∀ a r, s.approvals.get? a = some r →
      (r.status = .pending ↔ ∀ i d, s.decisions.get? i = some d → d.approvalRequest ≠ a) ∧
      (r.status ≠ .pending → ∃ i d, s.decisions.get? i = some d ∧ d.approvalRequest = a ∧
        d.decision = r.status ∧
        ∀ j d', s.decisions.get? j = some d' → d'.approvalRequest = a → j = i)) ∧
    (∀ c c', Running env anyAdmission c → Relation.ReflTransGen (RunStep env anyAdmission) c c' →
      ∀ a r, c.db.approvals.get? a = some r → r.status ≠ .pending →
        ∃ r', c'.db.approvals.get? a = some r' ∧ r'.status = r.status) ∧
    (∀ c c', Running env anyAdmission c → RunStep env anyAdmission c c' →
      ∀ a r', c'.db.approvals.get? a = some r' → r'.status = .approved →
        (∃ r, c.db.approvals.get? a = some r ∧ r.status = .approved) ∨
          ∀ t ∈ r'.expiresAt, c.db.now < t) := by
  refine ⟨fun s h a r hr => ?_, fun c c' _ hsteps a r hr hdone => ?_, fun c c' h hs a r' hr' ha => ?_⟩
  · obtain ⟨hrequest, hdecided, hunique⟩ := (LedgerInvariant.interleaved h).balanced
    refine ⟨⟨fun hpending i d hd hda => ?_, fun hnone => ?_⟩, fun hdone => ?_⟩
    · subst hda
      obtain ⟨r1, hr1, -, hdone⟩ := hrequest i d hd
      rw [hr] at hr1
      cases hr1
      exact hdone hpending
    · by_contra hdone
      obtain ⟨i, d, hd, hda⟩ := hdecided a r hr hdone
      exact hnone i d hd hda
    · obtain ⟨i, d, hd, rfl⟩ := hdecided a r hr hdone
      obtain ⟨r1, hr1, hstatus, -⟩ := hrequest i d hd
      rw [hr] at hr1
      cases hr1
      exact ⟨i, d, hd, rfl, hstatus.symm, fun j d' hd' hsame => hunique j i d' d hd' hd hsame⟩
  · obtain ⟨r', hr', hevolves⟩ := RunStep.histories hsteps .approvalHistory (by decide) a r hr
    exact ⟨r', hr', hevolves.decided hdone⟩
  · rcases Running.cases (Op.ledgerMoves env) h hs with hdb | ⟨n, hmove, -⟩
    · rw [hdb] at hr'
      exact .inl ⟨r', hr', ha⟩
    · cases hmove with
      | other hsame =>
        have htable : c.db.approvals = c'.db.approvals := hsame .approvals (by decide)
        exact .inl ⟨r', htable ▸ hr', ha⟩
      | steps hsteps =>
        rcases LedgerSteps.onTime (LedgerInvariant.interleaved h.interleaved) hsteps hr' ha with
          ⟨r, hr, happroved, -⟩ | hopen
        · exact .inl ⟨r, hr, happroved⟩
        · exact .inr hopen

/-- A change whose approval a user grants. -/
def approvedRun : Db :=
  runOps .sample
    [.createChange .sample .sample, .submitChange 0 .sample "nonce",
      .decideApproval 0 .approved "" .sample "nonce"]
    (.initial (.sample { OperationProfile.sample with requiresApproval := true }) 0)

theorem approval_ledger_approvedRun : ∃ i d, approvedRun.decisions.get? i = some d ∧
    d.approvalRequest = 0 ∧ d.decision = .approved := by
  have happroved : (approvedRun.approvals.get? 0).any (·.status = .approved) = true := by
    decide +kernel
  obtain ⟨r, hr, hstatus⟩ := (Option.any_eq_true _ _).1 happroved
  rw [decide_eq_true_eq] at hstatus
  obtain ⟨i, d, hd, hda, hdecision, -⟩ :=
    ((approval_ledger .sample).1 approvedRun (Reachable.sample _ _).interleaved 0 r hr).2
      (by simp [hstatus])
  exact ⟨i, d, hd, hda, hdecision.trans hstatus⟩

-- ════════════════════════════════════════════════════════════════════════
-- Exceptions and their requests
-- ════════════════════════════════════════════════════════════════════════

/-- An exception and the request about it are pending together. -/
def ExceptionsAgree (s : Db) : Prop :=
  ∀ e exc, s.exceptions.get? e = some exc → ∃ a r, exc.approvalRequest = some a ∧
    s.approvals.get? a = some r ∧ (r.status = .pending ↔ exc.status = .pendingApproval)

/-- No commit expires an exception that is pending. -/
def NothingLapses : Admission := fun n s =>
  ∀ e exc, s.exceptions.get? e = some exc → exc.status = .pendingApproval → ¬lapses n s e exc

namespace ExceptionsAgree

variable {s s' : Db}

/-- The agreement goes on when exceptions and their requests stay pending or decided. -/
theorem of_rows (hinv : LedgerInvariant s) (h : ExceptionsAgree s)
    (hexceptions : ∀ e exc', s'.exceptions.get? e = some exc' → ∃ exc,
      s.exceptions.get? e = some exc ∧ exc'.approvalRequest = exc.approvalRequest ∧
        (exc'.status = .pendingApproval ↔ exc.status = .pendingApproval))
    (happrovals : ∀ a r, s.approvals.get? a = some r → r.subjectType = .changeException →
      s'.approvals.get? a = some r) : ExceptionsAgree s' := by
  intro e exc' hexc'
  obtain ⟨exc, hexc, hlink, hstatus⟩ := hexceptions e exc' hexc'
  obtain ⟨a, r, hrequest, hr, hagree⟩ := h e exc hexc
  obtain ⟨r1, hr1, hsubject, -⟩ := hinv.linked.link e exc a hexc hrequest
  rw [hr] at hr1
  cases hr1
  exact ⟨a, r, hlink.trans hrequest, happrovals a r hr hsubject, hagree.trans hstatus.symm⟩

/-- Exceptions have different requests. -/
theorem request_inj (hinv : LedgerInvariant s) {e e' a : ℕ} {exc exc' : ChangeException}
    (h : s.exceptions.get? e = some exc) (h' : s.exceptions.get? e' = some exc')
    (hlink : exc.approvalRequest = some a) (hlink' : exc'.approvalRequest = some a) : e = e' := by
  obtain ⟨r, hr, -, hid⟩ := hinv.linked.link e exc a h hlink
  obtain ⟨r', hr', -, hid'⟩ := hinv.linked.link e' exc' a h' hlink'
  rw [hr] at hr'
  cases hr'
  exact hid.symm.trans hid'

/-- **A step in which no pending exception lapses keeps the agreement.** -/
theorem step {lapses : ℕ → ChangeException → Prop} (hinv : LedgerInvariant s)
    (hnone : ∀ e exc, s.exceptions.get? e = some exc → exc.status = .pendingApproval →
      ¬lapses e exc)
    (h : LedgerStep lapses s s') (hagree : ExceptionsAgree s) : ExceptionsAgree s' := by
  have hsameExceptions : s'.exceptions = s.exceptions → ∀ e exc', s'.exceptions.get? e = some exc' →
      ∃ exc, s.exceptions.get? e = some exc ∧ exc'.approvalRequest = exc.approvalRequest ∧
        (exc'.status = .pendingApproval ↔ exc.status = .pendingApproval) :=
    fun htable e exc' hexc' => ⟨exc', htable ▸ hexc', rfl, Iff.rfl⟩
  cases h with
  | quiet hsame =>
    have hexceptions : s.exceptions = s'.exceptions := hsame .exceptions (by decide)
    have happrovals : s.approvals = s'.approvals := hsame .approvals (by decide)
    exact of_rows hinv hagree (hsameExceptions hexceptions.symm) fun a r hr _ => happrovals ▸ hr
  | ask r _ _ happrovals hsame =>
    have hexceptions : s.exceptions = s'.exceptions := hsame .exceptions (by decide)
    exact of_rows hinv hagree (hsameExceptions hexceptions.symm) fun a r' hr' _ =>
      happrovals ▸ Table.get?_insert_of_some r hr'
  | request exc r hstatus hlink hpending _ _ _ _ hexceptions happrovals _ =>
    intro e exc' hexc'
    rw [hexceptions, Table.get?_insert] at hexc'
    split_ifs at hexc' with he
    · cases hexc'
      exact ⟨_, r, hlink, happrovals ▸ Table.get?_insert_next _ _, by simp [hpending, hstatus]⟩
    · obtain ⟨a, r', hrequest, hr', hiff⟩ := hagree e exc' hexc'
      exact ⟨a, r', hrequest, happrovals ▸ Table.get?_insert_of_some r hr', hiff⟩
  | resolve a r d h hsubject _ hexceptions =>
    obtain ⟨r', hreplaced, -⟩ := h.replaced
    refine of_rows hinv hagree (hsameExceptions hexceptions) fun b r1 hr1 hsubject1 => ?_
    -- the request of an exception has no deadline
    have hb : b ≠ a := by
      rintro rfl
      rw [h.before] at hr1
      cases hr1
      exact hsubject hsubject1 (hinv.linked.untimed b r h.before hsubject1)
    exact (hreplaced.others b hb).trans hr1
  | restate a r _ hbefore hpending hdecided _ _ =>
    obtain ⟨i, d, hd, rfl⟩ := hdecided
    obtain ⟨r1, hr1, -, hdone⟩ := hinv.balanced.request i d hd
    rw [hbefore] at hr1
    cases hr1
    exact absurd hpending hdone
  | decide e exc exc' a r d hstatus hlink h hexceptions hafter =>
    obtain ⟨r', hreplaced, hfinal, -⟩ := h.replaced
    intro e1 exc1 hexc1
    rcases hexceptions.cases hexc1 with ⟨rfl, rfl⟩ | ⟨hne, hold⟩
    · refine ⟨a, r', hafter.link.trans hlink, hreplaced.after, ?_⟩
      rw [hfinal]
      exact iff_of_false h.final hafter.status
    · obtain ⟨b, r1, hrequest, hr1, hiff⟩ := hagree e1 exc1 hold
      have hb : b ≠ a := by
        rintro rfl
        exact hne (request_inj hinv hold hexceptions.before hrequest hlink)
      exact ⟨b, r1, hrequest, (hreplaced.others b hb).trans hr1, hiff⟩
  | decideAlone e exc exc' hstatus hlink hexceptions _ _ =>
    -- the request of a pending exception is pending
    obtain ⟨a, r, hrequest, hr, hiff⟩ := hagree e exc hexceptions.before
    exact absurd (hiff.2 hstatus) (hlink a r hrequest hr)
  | settle e exc exc' hstatus hexceptions hafter hsame =>
    have happrovals : s.approvals = s'.approvals := hsame .approvals (by decide)
    refine of_rows hinv hagree (fun e1 exc1 hexc1 => ?_) fun a r hr _ => happrovals ▸ hr
    rcases hexceptions.cases hexc1 with ⟨rfl, rfl⟩ | ⟨-, hold⟩
    · exact ⟨exc, hexceptions.before, hafter.link, iff_of_false hafter.status hstatus⟩
    · exact ⟨exc1, hold, rfl, Iff.rfl⟩
  | lapse e exc exc' hstatus hlapses hexceptions _ _ =>
    exact absurd hlapses (hnone e exc hexceptions.before hstatus)

/-- A sequence of steps: what is pending on the way was pending before, or is new. -/
theorem steps {lapses : ℕ → ChangeException → Prop} (hinv : LedgerInvariant s)
    (hnone : ∀ e exc, s.exceptions.get? e = some exc → exc.status = .pendingApproval →
      ¬lapses e exc)
    (h : LedgerSteps lapses s s') (hagree : ExceptionsAgree s) :
    ExceptionsAgree s' ∧ ∀ e exc, s'.exceptions.get? e = some exc →
      exc.status = .pendingApproval → ¬lapses e exc := by
  induction h with
  | refl => exact ⟨hagree, hnone⟩
  | @tail s1 s2 hsteps hs ih =>
    obtain ⟨hagree1, hnone1⟩ := ih
    refine ⟨step (hinv.steps hsteps) hnone1 hs hagree1, fun e exc2 hexc2 hpending => ?_⟩
    cases hexc1 : s1.exceptions.get? e with
    | none => exact hs.newException hexc1 hexc2 e
    | some exc1 =>
      obtain ⟨exc, hexc, hfollows⟩ := hs.exceptions e exc1 hexc1
      rw [hexc2] at hexc
      cases hexc
      rcases hfollows.settled with rfl | hdone
      · exact hnone1 e exc2 hexc1 hpending
      · exact absurd hpending hdone

end ExceptionsAgree

/-- **Exceptions and requests agree** in every interleaving in which no commit expires a
pending exception. -/
theorem exceptions_agree {env : Env} {s : Db} (h : Interleaved env NothingLapses s) :
    ExceptionsAgree s := by
  suffices LedgerInvariant s ∧ ExceptionsAgree s from this.2
  refine h.invariant (I := fun s => LedgerInvariant s ∧ ExceptionsAgree s) (Op.ledgerMoves env)
    (fun reference now => ⟨.initial reference now, by simp [ExceptionsAgree, Db.initial]⟩) ?_
  intro n s s' hmove hadmitted ⟨hinv, hagree⟩
  refine ⟨hinv.move hmove, ?_⟩
  cases hmove with
  | other hsame =>
    have hexceptions : s.exceptions = s'.exceptions := hsame .exceptions (by decide)
    have happrovals : s.approvals = s'.approvals := hsame .approvals (by decide)
    exact .of_rows hinv hagree (fun e exc' hexc' => ⟨exc', hexceptions ▸ hexc', rfl, Iff.rfl⟩)
      fun a r hr _ => happrovals ▸ hr
  | steps hsteps => exact (ExceptionsAgree.steps hinv hadmitted hsteps hagree).1

/-- A change with an exception, and the preflight that finds the exception over. -/
def lapsedRun : Db :=
  runOps .sample
    [.createChange .sample .sample, .createFreezeRule .sample .sample,
      .requestException .sample .sample, .tick 10, .runPreflight 0 none]
    (.initial (.sample .sample) 0)

/-- An expiry leaves the request of the exception pending. -/
theorem exceptions_disagree :
    ¬∀ (env : Env) (s : Db), Interleaved env anyAdmission s → ExceptionsAgree s := by
  intro h
  have hexpired : (lapsedRun.exceptions.get? 0).any
      (fun exc => exc.status = .expired && exc.approvalRequest = some 0) = true := by decide
  have hpending : (lapsedRun.approvals.get? 0).any (·.status = .pending) = true := by decide
  obtain ⟨exc, hexc, hstatus⟩ := (Option.any_eq_true _ _).1 hexpired
  obtain ⟨r, hr, hopen⟩ := (Option.any_eq_true _ _).1 hpending
  simp only [Bool.and_eq_true, decide_eq_true_eq] at hstatus hopen
  obtain ⟨a, r', hlink, hr', hiff⟩ := h .sample lapsedRun (Reachable.sample _ _).interleaved 0 exc hexc
  rw [hstatus.2, Option.some.injEq] at hlink
  subst hlink
  rw [hr] at hr'
  cases hr'
  have hexc' := hiff.1 hopen
  rw [hstatus.1] at hexc'
  cases hexc'

/-- The change, and the freeze that its exception is about. -/
def frozenRun : Db :=
  runOps .sample [.createChange .sample .sample, .createFreezeRule .sample .sample]
    (.initial (.sample .sample) 0)

theorem exceptions_agree_requested :
    ExceptionsAgree ((Op.requestException .sample .sample).prog .sample |>.exec frozenRun).2 := by
  have hservice : ∀ s, NothingLapses .service s := by
    intro s e exc _ _ hlapses
    rcases hlapses with hname | ⟨c, hexpires, -⟩
    · cases hname
    · cases hexpires
  have hcreated : Reachable .sample NothingLapses frozenRun :=
    ((Reachable.initial _ _).request _ (meets_of_service hservice (by decide))).request _
      (meets_of_service hservice (by decide))
  exact exceptions_agree
    (hcreated.request _ (meets_of_service hservice (by decide))).interleaved

end RunbookPlatform
