import RunbookPlatform.Reviews.Requests
import RunbookPlatform.Emergency.Outcomes

/-!
# Approved overrides and their reviews

An approved exception of a severe type owes a review. The service that creates it locks its
rows outside any transaction, where the lock raises, so that only breakglass activations ever
create a review.

## Main definitions

- `Overrides`, `OverridesReviewed` — the exceptions that owe a review, and that all have one
- `ClosedWithReviews` — no change closes before the reviews of its overrides are submitted

## Main results

- `overrides_reviewed` — the overrides are reviewed exactly when there are none
-/

namespace RunbookPlatform

open Transactional

/-- The exception `e` is approved and of a type that requires a retrospective review. -/
structure Overrides (s : Db) (e : ℕ) (exc : ChangeException) : Prop where
  row : s.exceptions.get? e = some exc
  approved : exc.status = .approved
  severe : exc.exceptionType.isSevere = true

/-- Every override has a review. -/
def OverridesReviewed (s : Db) : Prop :=
  ∀ e exc, Overrides s e exc →
    ∃ i r, s.retroReviews.get? i = some r ∧ r.changeException = some e

/-- When `close_change` succeeds, the overrides of the change have reviews that are done. -/
def ClosedWithReviews (s : Db) : Prop :=
  ∀ req outcome actor s' u, (closeChangeTx req outcome actor).run s = .ok (u, s') →
    ∀ e exc, Overrides s e exc → exc.changeRecord = req.change →
      ∃ i r, s.retroReviews.get? i = some r ∧ r.changeException = some e ∧ r.status ≠ .pending

/-- No commit approves an exception of a severe type. -/
def noSevereApproval : ServedAdmission := fun op n s =>
  ∀ e exc user, Approves s op n e user → s.exceptions.get? e = some exc →
    exc.exceptionType.isSevere = false

variable {s s' : Db} {op : Op} {n : TxName}

/-- No review is about an exception. -/
def ReviewsOfSessions (s : Db) : Prop :=
  ∀ i r, s.retroReviews.get? i = some r → r.changeException = none

/-- **A commit** creates reviews of sessions only. -/
theorem ReviewsOfSessions.step (hinv : ReviewsOfSessions s) (h : ReviewMove op n s s') :
    ReviewsOfSessions s' := by
  have hsame : s.retroReviews = s'.retroReviews → ReviewsOfSessions s' := by
    intro htable i r hr
    exact hinv i r (htable ▸ hr)
  cases h with
  | other h => exact hsame (h .retroReviews (by decide))
  | tick _ _ _ h => exact hsame (h .retroReviews (by decide))
  | create _ _ _ h => exact hsame (h .retroReviews (by decide))
  | late _ _ _ h => exact hsame (h .retroReviews (by decide))
  | severe _ _ _ _ h => exact hsame (h .retroReviews (by decide))
  | activate c r _ _ _ _ hexception _ hreviews _ _ =>
    intro i r' hr'
    rw [hreviews, Table.get?_insert] at hr'
    split_ifs at hr' with hi
    · cases hr'
      exact hexception
    · exact hinv i r' hr'
  | submit i r r' _ _ _ _ hexception hreviews _ _ =>
    intro j r1 hr1
    rcases hreviews.cases hr1 with ⟨rfl, rfl⟩ | ⟨-, hold⟩
    · rw [hexception]
      exact hinv j r hreviews.before
    · exact hinv j r1 hold

theorem reviewsOfSessions {env : Env} {A : ServedAdmission} {c : ServedConf}
    (h : Serving env A c) : ReviewsOfSessions c.db :=
  h.invariant (I := ReviewsOfSessions) (Op.reviewMoves env) (by simp [ReviewsOfSessions, Db.initial])
    fun _ _ _ _ hmove _ hinv => hinv.step hmove

/-- **A commit** that approves no severe exception leaves none approved. -/
theorem no_override_step {alone : Prop} (hinv : ∀ e exc, ¬Overrides s e exc)
    (h : OutcomeMove alone op n s s') (hadmitted : noSevereApproval op n s) (e : ℕ)
    (exc : ChangeException) : ¬Overrides s' e exc := by
  rintro ⟨hrow, happroved, hsevere⟩
  have hother : ¬SameOutcome e s s' := fun h =>
    hinv e exc ⟨h.row hrow (by rw [happroved]; exact nofun), happroved, hsevere⟩
  cases h with
  | other hsame => exact hother (hsame e)
  | request i new hpending _ hafter hothers =>
    by_cases hi : e = i
    · subst hi
      rw [hrow] at hafter
      cases hafter
      rw [happroved] at hpending
      cases hpending
    · exact hother (hothers e hi)
  | approve i old user now happroves hexc _ _ _ hafter hothers =>
    by_cases hi : e = i
    · subst hi
      rw [hrow] at hafter
      cases hafter
      exact Bool.false_ne_true ((hadmitted e old user happroves hexc).symm.trans hsevere)
    · exact hother (hothers e hi)
  | decline i old new _ hafter hstatus hothers =>
    by_cases hi : e = i
    · subst hi
      rw [hrow] at hafter
      cases hafter
      exact hstatus happroved
    · exact hother (hothers e hi)

theorem no_override {env : Env} {c : ServedConf} (h : Serving env noSevereApproval c) (e : ℕ)
    (exc : ChangeException) : ¬Overrides c.db e exc := by
  refine h.invariant (R := OutcomeMove False) (I := fun s => ∀ e exc, ¬Overrides s e exc)
    (fun op s => Op.outcomeMoves env op (by decide) False.elim s)
    (fun reference now e exc h => ?_)
    (fun op n s s' hmove hadmitted hinv => no_override_step hinv hmove hadmitted) e exc
  exact absurd h.row (by simp [Db.initial])

/-- **Overrides are reviewed** while no severe exception is approved, and never after one is. -/
theorem overrides_reviewed (env : Env) :
    (∀ c, Serving env noSevereApproval c → OverridesReviewed c.db ∧ ClosedWithReviews c.db) ∧
      ∀ c, Serving env anyServed c →
        (OverridesReviewed c.db ↔ ∀ e exc, ¬Overrides c.db e exc) := by
  refine ⟨fun c h => ⟨fun e exc hexc => ?_, fun _ _ _ _ _ _ e exc hexc => ?_⟩,
    fun c h => ⟨fun hreviewed e exc hexc => ?_, fun hnone e exc hexc => ?_⟩⟩
  · exact absurd hexc (no_override h e exc)
  · exact absurd hexc (no_override h e exc)
  · obtain ⟨i, r, hr, hexception⟩ := hreviewed e exc hexc
    rw [reviewsOfSessions h i r hr] at hexception
    cases hexception
  · exact absurd hexc (hnone e exc)

/-- The change, and the freeze that its requested exception is about. -/
def excusedRun : Db :=
  runOps .sample
    [.createChange .sample .sample, .createFreezeRule .sample .sample,
      .requestException .sample .sample]
    (.initial (.sample .sample) 0)

/-- A run that approves an exception from a freeze. -/
theorem overrides_reviewed_excused : OverridesReviewed
    ((Op.approveException 0 .sample (some "admin")).prog .sample |>.exec excusedRun).2 := by
  have hquiet : ∀ op : Op, (∀ s n e user, ¬Approves s op n e user) → ∀ s,
      (op.prog .sample).Meets (noSevereApproval op) s := fun op hop s =>
    Prog.Meets.of_forall (fun n s e _ user h => absurd h (hop s n e user)) _ s
  have hrequested : Serving .sample noSevereApproval ⟨excusedRun, []⟩ :=
    (((Serving.initial _ _).exec _ (hquiet _ (fun _ _ _ _ h => by cases h) _)).exec _
      (hquiet _ (fun _ _ _ _ h => by cases h) _)).exec _ (hquiet _ (fun _ _ _ _ h => by cases h) _)
  have hfreeze : (((Op.approveException 0 .sample (some "admin")).prog .sample).commits
      excusedRun).all (fun commit => (commit.before.exceptions.get? 0).all
        fun exc => !exc.exceptionType.isSevere) = true := by decide
  refine ((overrides_reviewed .sample).1 _ (hrequested.exec
    (.approveException 0 .sample (some "admin")) fun commit hcommit => ?_)).1
  intro e exc user happroves hexc
  obtain rfl : e = 0 := by
    generalize commit.name = n at happroves
    cases happroves
    rfl
  have hrow := List.all_eq_true.1 hfreeze commit hcommit
  simpa using (Option.all_eq_true _ _).1 hrow exc hexc

/-- A profile whose changes are attested by hand. -/
def OperationProfile.attested : OperationProfile :=
  { OperationProfile.sample with
    verificationRequired := true
    verificationPlanTemplate := .obj [("checks", .arr [.obj
      [("key", .str "works"), ("name", .str "Works"), ("type", .str "manual_attestation")]])] }

/-- The sample organization with an admin. -/
def Reference.attested : Reference :=
  { Reference.sample .attested with
    memberships := ⟨[{ organization := 0, user := "admin", role := .admin }]⟩ }

/-- An exception for the artifact of the first check. -/
def ExceptionRequest.missing : ExceptionRequest where
  change := 0
  exceptionType := "missing_artifact"
  reason := "It is lost."
  scopeJson := .obj [("verification_check_id", .str "0"), ("expected_artifact_kind", .str ""),
    ("replacement_evidence", .str "ticket")]
  expiresAt := some 10
  requestedBy := some "operator"

/-- A change with an approved exception from its verification. -/
def overriddenRun : Db :=
  runOps .sample
    [.createChange .sample .sample, .submitChange 0 .sample "nonce",
      .requestException .missing .sample, .approveException 0 .sample (some "admin")]
    (.initial .attested 0)

/-- The approved override has no review. -/
theorem overrides_not_reviewed :
    ¬∀ (env : Env) (c : ServedConf), Serving env anyServed c → OverridesReviewed c.db := by
  intro h
  have hrun : ((overriddenRun.exceptions.get? 0).any fun exc =>
      exc.status = .approved && exc.exceptionType.isSevere) = true ∧
        overriddenRun.retroReviews.rows = [] := by decide +kernel
  obtain ⟨hexc, hreviews⟩ := hrun
  obtain ⟨exc, hexc, hstatus⟩ := (Option.any_eq_true _ _).1 hexc
  simp only [Bool.and_eq_true, decide_eq_true_eq] at hstatus
  obtain ⟨i, r, hr, -⟩ := h .sample ⟨overriddenRun, []⟩ ((Serving.initial _ _).runOps _) 0 exc
    ⟨hexc, hstatus.1, hstatus.2⟩
  simp [Table.get?, hreviews] at hr

end RunbookPlatform
