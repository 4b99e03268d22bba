import RunbookPlatform.Reviews.Overrides
import RunbookPlatform.Ledger.Agreement

/-!
# Separation of duties

Who approves an exception, and who attests by hand that a change worked, is not who asked for
it.

## Main definitions

- `NoSelfApproval` — no approved exception was approved by its requester
- `Independent` — a user has no other part in a change
- `ResultMove` — what a commit does to verification results

## Main results

- `Op.resultMoves` — every request follows `ResultMove`
- `separation_of_duties`
-/

namespace RunbookPlatform

open Transactional

set_option synthInstance.maxSize 1000

/-- No approved exception was approved by its requester. -/
def NoSelfApproval (s : Db) : Prop :=
  ∀ i exc, s.exceptions.get? i = some exc → exc.status = .approved →
    ∀ u ∈ exc.approvedBy, exc.requestedBy ≠ some u

/-- The user neither requested nor submitted the change, nor decided about its approval. -/
structure Independent (u : String) (change : ChangeRecord) (s : Db) : Prop where
  requester : change.requestedBy ≠ some u
  submitter : change.submittedBy ≠ some u
  approver : ∀ i d a, change.approvalRequest = some a → s.decisions.get? i = some d →
    d.approvalRequest = a → d.decidedByUser ≠ some u

/-- The manual attestation `r`, if it is one and accepted, is from a user who is independent
where its check, or else the profile, requires that. -/
def Attested (r : VerificationResult) (s : Db) : Prop :=
  r.validationStatus = .accepted → ∃ check change profile,
    s.checks.get? r.verificationCheck = some check ∧ s.changes.get? r.changeRecord = some change ∧
      s.reference.profiles.get? change.operationProfile = some profile ∧
        (check.checkType = .manualAttestation →
          ∃ u, r.submittedBy = some u ∧ (checkRequiresIndependentReviewer profile check = true →
            u ∉ disallowedReviewerUserIds change s))

/-- What a commit does to verification results. -/
inductive ResultMove (s s' : Db) : Prop where
  | other (hsame : SameOn [.results] s s')
  | submit (r : VerificationResult) (hattested : Attested r s)
      (hafter : s'.results = s.results.insert r)

variable {env : Env} {s s' : Db}

-- ════════════════════════════════════════════════════════════════════════
-- Attestations
-- ════════════════════════════════════════════════════════════════════════

/-- A reviewer without errors is independent where that is required. -/
theorem validateUserReviewer_ok {change : ChangeRecord} {user : User} {config : Json}
    {independentRequired : Bool}
    (h : validateUserReviewer env change user config independentRequired s = .ok [])
    (hrequired : independentRequired = true) : user.id ∉ disallowedReviewerUserIds change s := by
  intro hdisallowed
  simp only [validateUserReviewer, Query.bind_ok, select_ok, exists_eq_left'] at h
  generalize s.reference.memberships.find? _ = membership at h
  cases membership with
  | none => simp [errorIf, hrequired, hdisallowed] at h
  | some m =>
    dsimp only at h
    split_ifs at h
    · simp [errorIf, hrequired, hdisallowed] at h
    · simp [errorIf, hrequired, hdisallowed] at h

/-- Evidence without errors for a manual attestation is from an allowed user. -/
theorem validateManualAttestationEvidence_ok {req : ResultRequest} {change : ChangeRecord}
    {profile : OperationProfile} {check : VerificationCheck}
    (h : validateManualAttestationEvidence env req change profile check s = .ok []) :
    req.source = .user ∧ ∃ user, req.submittedBy = some user ∧
      (checkRequiresIndependentReviewer profile check = true →
        user.id ∉ disallowedReviewerUserIds change s) := by
  rw [validateManualAttestationEvidence] at h
  cases hsource : req.source with
  | runner | system => simp [hsource] at h
  | user =>
    cases huser : req.submittedBy with
    | none => simp [hsource, huser] at h
    | some user =>
      simp only [hsource, huser, Query.bind_ok, Query.pure_apply, Except.ok.injEq,
        List.append_eq_nil_iff] at h
      obtain ⟨errors, hreviewer, -, rfl⟩ := h
      exact ⟨rfl, user, rfl, validateUserReviewer_ok hreviewer⟩

/-- `submit_verification_result`, seen from the results. -/
theorem submitVerificationResultTx_result {req : ResultRequest} {submittedAt : Time}
    {actor : AuditActor} {i : ℕ}
    (h : (submitVerificationResultTx env req submittedAt actor).run s = .ok (i, s')) :
    ResultMove s s' := by
  simp only [submitVerificationResultTx, Tx.bind_ok, Tx.lift_query_ok, lookup_ok, select_ok,
    expect_ok, ensure_ok, Tx.run_widen] at h
  obtain ⟨change, _, ⟨hchange, rfl⟩, profile, _, ⟨hprofile, rfl⟩, now, _, ⟨-, rfl⟩, _, s1, hsweep,
    _, _, ⟨rfl, rfl⟩, ⟨plan, planRow⟩, _, ⟨hplan, rfl⟩, _, _, ⟨rfl, rfl⟩, check, _, ⟨hcheck, rfl⟩,
    _, _, ⟨rfl, rfl⟩, errors, _, ⟨herrors, rfl⟩, _, _, ⟨-, rfl⟩, result, s2, hinsert, h⟩ := h
  obtain ⟨rfl, rfl⟩ := insertRow_ok.1 hinsert
  have hsame : SameOn [.reference, .changes, .checks, .decisions, .results] s s1 :=
    Tx.sameOn hsweep _ (by decide)
  have hresults : s.results = s1.results := hsame .results (by decide)
  obtain ⟨r, hr⟩ : ∃ r, r = resultRow req change.organization plan check.id
    (req.artifact.bind s1.artifacts.get?) errors submittedAt now := ⟨_, rfl⟩
  rw [← hr] at h
  have hrest : SameOn [.results] (Rel.results.set s1 ((Rel.results.get s1).insert r)) s' := by
    split_ifs at h
    · simp only [Tx.bind_ok, Tx.run_lift, Tx.run_pure, Except.ok.injEq, Prod.mk.injEq] at h
      obtain ⟨_, s3, hemit, _, s4, happly, _, s5, hrecompute, -, rfl⟩ := h
      exact ((Tx.sameOn hemit _ (by decide)).trans (Tx.sameOn happly _ (by decide))).trans (Tx.sameOn hrecompute _ (by decide))
    · simp only [Tx.bind_ok, Tx.run_lift, Tx.run_pure, Except.ok.injEq, Prod.mk.injEq] at h
      obtain ⟨_, s3, hemit, -, rfl⟩ := h
      exact Tx.sameOn hemit _ (by decide)
  have hafter : s1.results.insert r = s'.results := hrest .results (by decide)
  refine .submit r (fun haccepted => ?_) ?_
  · have hnone : errors = [] := by
      by_contra hsome
      simp [hr, resultRow, hsome] at haccepted
    subst hnone
    have hrow := (mem_rowsWhere.1 (List.mem_of_find?_eq_some hcheck)).1
    rw [← show s.checks = s1.checks from hsame .checks (by decide)] at hrow
    refine ⟨check.row, change, profile, hr ▸ hrow, hr ▸ hchange, hprofile, fun hmanual => ?_⟩
    simp only [validateVerificationEvidence, hmanual, Query.bind_ok, Query.pure_apply,
      Except.ok.injEq, List.append_eq_nil_iff] at herrors
    obtain ⟨specific, hspecific, -, rfl⟩ := herrors
    obtain ⟨hsource, user, huser, hindependent⟩ := validateManualAttestationEvidence_ok hspecific
    refine ⟨user.id, by simp [hr, resultRow, hsource, huser], fun hrequired hdisallowed => ?_⟩
    refine hindependent hrequired ?_
    unfold disallowedReviewerUserIds at hdisallowed ⊢
    rwa [← show s.decisions = s1.decisions from hsame .decisions (by decide)]
  · rw [hresults, hafter]

/-- **Every request** adds results as `ResultMove` says. -/
theorem Op.resultMoves (env : Env) (op : Op) (s : Db) :
    (op.prog env).Follows historyCells (fun _ => ResultMove) s := by
  have hsubmit : ∀ (req : ResultRequest) (actor : AuditActor) (s : Db),
      (submitVerificationResult env req actor).Follows historyCells (fun _ => ResultMove) s := by
    intro req actor s
    exact .read (fun s => .other (.refl _ s)) fun _ _ _ _ => .read (fun s => .other (.refl _ s))
      fun _ _ _ _ => .atomic fun _ _ _ _ h => submitVerificationResultTx_result h
  cases op with
  | submitRunnerResult req =>
    exact .bind (.read (fun s => .other (.refl _ s)) fun _ _ _ _ => hsubmit _ _ _)
      fun _ _ => .pure _
  | submitUserResult user req => exact .bind (hsubmit _ _ _) fun _ _ => .pure _
  | _ =>
    refine Prog.Follows.frame (C := [.results]) ?_ (fun _ _ _ => .other) _ s
    dsimp only [Op.cells]
    decide

-- ════════════════════════════════════════════════════════════════════════
-- Approvals
-- ════════════════════════════════════════════════════════════════════════

/-- **A commit** that approves an exception is for a user who did not request it, and who is an
admin if the exception is severe and the request runs alone. -/
theorem OutcomeMove.approved {alone : Prop} {op : Op} {n : TxName} (h : OutcomeMove alone op n s s')
    {i : ℕ} {exc : ChangeException} (hexc : s'.exceptions.get? i = some exc)
    (hstatus : exc.status = .approved) :
    s.exceptions.get? i = some exc ∨ (∀ u ∈ exc.approvedBy, exc.requestedBy ≠ some u) ∧
      (alone → exc.exceptionType.isSevere = true →
        ∀ u ∈ exc.approvedBy, isOrganizationAdmin exc.organization u s = true) := by
  have hkept : SameOutcome i s s' → s.exceptions.get? i = some exc := fun h =>
    h.row hexc (by rw [hstatus]; exact nofun)
  cases h with
  | other h => exact .inl (hkept (h i))
  | request j new hpending _ hafter hothers =>
    by_cases hj : i = j
    · rw [hj, hafter] at hexc
      cases hexc
      rw [hpending] at hstatus
      cases hstatus
    · exact .inl (hkept (hothers i hj))
  | approve j old user now _ _ _ hself hadmin hafter hothers =>
    by_cases hj : i = j
    · rw [hj, hafter] at hexc
      cases hexc
      exact .inr ⟨hself, hadmin⟩
    · exact .inl (hkept (hothers i hj))
  | decline j old new _ hafter hdeclined hothers =>
    by_cases hj : i = j
    · rw [hj, hafter] at hexc
      cases hexc
      exact absurd hstatus hdeclined
    · exact .inl (hkept (hothers i hj))

theorem noSelfApproval {A : ServedAdmission} {c : ServedConf} (h : Serving env A c) :
    NoSelfApproval c.db := by
  refine h.invariant (I := NoSelfApproval) (R := OutcomeMove False)
    (fun op s => op.outcomeMoves env (by decide) False.elim s)
    (by simp [NoSelfApproval, Db.initial]) ?_
  intro op n s s' hmove _ hinv i exc hexc hstatus
  rcases hmove.approved hexc hstatus with hold | ⟨hself, -⟩
  · exact hinv i exc hold hstatus
  · exact hself

/-- The ledger is balanced in every run that names its requests. -/
theorem ledgerInvariant {A : ServedAdmission} {c : ServedConf} (h : Serving env A c) :
    LedgerInvariant c.db :=
  h.invariant (I := LedgerInvariant) (R := fun _ => LedgerMove) (fun op s => op.ledgerMoves env s)
    LedgerInvariant.initial fun _ _ _ _ hR _ => LedgerInvariant.move hR

/-- A user who is not among the disallowed reviewers has no other part in the change. -/
theorem independent_of_allowed (hledger : LedgerInvariant s) {u : String} {change : ChangeRecord}
    (h : u ∉ disallowedReviewerUserIds change s) : Independent u change s := by
  rw [disallowedReviewerUserIds] at h
  simp only [List.mem_append, Option.mem_toList, not_or] at h
  obtain ⟨⟨hrequester, hsubmitter⟩, hdecider⟩ := h
  refine ⟨hrequester, hsubmitter, fun i d a ha hd hda hu => hdecider ?_⟩
  rw [ha, Option.bind_some]
  cases hfound : s.decisions.find? (fun _ d => d.approvalRequest = a) with
  | none =>
    have hnone := Table.find?_none.1 hfound i d hd
    simp [hda] at hnone
  | some found =>
    obtain ⟨j, d'⟩ := found
    obtain ⟨hd', htest⟩ := Table.find?_some hfound
    have hj := hledger.balanced.unique i j d d' hd hd' (hda.trans (of_decide_eq_true htest).symm)
    subst hj
    rw [hd] at hd'
    cases hd'
    exact hu

-- ════════════════════════════════════════════════════════════════════════
-- Runs
-- ════════════════════════════════════════════════════════════════════════

/-- An exception of a severe type that becomes approved from `s` to `s'` is approved by an admin
or owner of its organization. -/
def ApprovedByAdmin (s s' : Db) : Prop :=
  ∀ i exc, s'.exceptions.get? i = some exc → exc.status = .approved →
    exc.exceptionType.isSevere = true → s.exceptions.get? i = some exc ∨
      ∀ u ∈ exc.approvedBy, isOrganizationAdmin exc.organization u s = true

/-- A manual attestation that becomes accepted from `s` to `s'` is from a user, who is independent
of its change if the check, or else the profile, requires that. -/
def AttestedIndependently (s s' : Db) : Prop :=
  ∀ i r, s'.results.get? i = some r → r.validationStatus = .accepted →
    s.results.get? i = some r ∨ ∃ check change profile,
      s.checks.get? r.verificationCheck = some check ∧ s.changes.get? r.changeRecord = some change ∧
        s.reference.profiles.get? change.operationProfile = some profile ∧
          (check.checkType = .manualAttestation → ∃ u, r.submittedBy = some u ∧
            (checkRequiresIndependentReviewer profile check = true → Independent u change s))

/-- **Separation of duties.** In every interleaving no approved exception was approved by its
requester. Every request, whatever happens between its transactions as long as nobody edits
the roles meanwhile, approves severe exceptions for admins and owners only. In every
interleaving a manual attestation is accepted from an independent user only, where
independence is required. -/
theorem separation_of_duties (env : Env) :
    (∀ c, Serving env anyServed c → NoSelfApproval c.db) ∧
    (∀ (op : Op) (s : Db),
      (op.prog env).Follows [.exceptionHistory, .reference] (fun _ => ApprovedByAdmin) s) ∧
    ∀ c c', Serving env anyServed c → ServedStep env anyServed c c' →
      AttestedIndependently c.db c'.db := by
  refine ⟨fun c h => noSelfApproval h, fun op s => ?_, fun c c' h hs i r hr haccepted => ?_⟩
  · have hmoves : (op.prog env).Follows [.exceptionHistory, .reference] (OutcomeMove True op) s :=
      op.outcomeMoves env (by decide) (fun _ => by decide) s
    refine hmoves.mono ?_
    intro n s s' hmove i exc hexc hstatus hsevere
    rcases hmove.approved hexc hstatus with hold | ⟨-, hadmin⟩
    · exact .inl hold
    · exact .inr (hadmin trivial hsevere)
  · rcases h.cases (R := fun _ _ => ResultMove) (fun op s => op.resultMoves env s) hs with
      hdb | ⟨op, n, hmove, -⟩
    · exact .inl (hdb ▸ hr)
    · cases hmove with
      | other hsame =>
        rw [show c.db.results = c'.db.results from hsame .results (by decide)]
        exact .inl hr
      | submit new hattested hafter =>
        rw [hafter, Table.get?_insert] at hr
        split_ifs at hr with hi
        · cases hr
          obtain ⟨check, change, profile, hcheck, hchange, hprofile, hmanual⟩ := hattested haccepted
          refine .inr ⟨check, change, profile, hcheck, hchange, hprofile, fun htype => ?_⟩
          obtain ⟨u, hu, hallowed⟩ := hmanual htype
          exact ⟨u, hu, fun hrequired =>
            independent_of_allowed (ledgerInvariant h) (hallowed hrequired)⟩
        · exact .inl hr

/-- The exception of the overridden change has another approver than its requester. -/
theorem separation_of_duties_overridden : ∃ exc, overriddenRun.exceptions.get? 0 = some exc ∧
    exc.status = .approved ∧ ∀ u ∈ exc.approvedBy, exc.requestedBy ≠ some u := by
  have hrun : (overriddenRun.exceptions.get? 0).any (·.status = .approved) = true := by
    decide +kernel
  obtain ⟨exc, hexc, hstatus⟩ := (Option.any_eq_true _ _).1 hrun
  rw [decide_eq_true_eq] at hstatus
  exact ⟨exc, hexc, hstatus, (separation_of_duties .sample).1 ⟨overriddenRun, []⟩
    ((Serving.initial _ _).runOps _) 0 exc hexc hstatus⟩

end RunbookPlatform
