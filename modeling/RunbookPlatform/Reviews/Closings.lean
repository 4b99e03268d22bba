import RunbookPlatform.Reviews.Requests
import RunbookPlatform.Emergency.Sessions
import RunbookPlatform.Locks.Runs

/-!
# Closures and reviews

A change closes through `close_change`, which looks at its reviews, or through the settlement
after its execution, which does not.

## Main definitions

- `OwesReview` — a review of the change is not submitted
- `SettlementCloses` — the settlement of a change closes it
- `CloseMove` — the effects of a commit on closed changes

## Main results

- `Op.closeMoves` — every request follows `CloseMove`
-/

namespace RunbookPlatform

open Transactional

set_option synthInstance.maxSize 1000

-- ════════════════════════════════════════════════════════════════════════
-- What is owed
-- ════════════════════════════════════════════════════════════════════════

/-- A review of change `i` is pending. -/
def ReviewPending (i : ℕ) (s : Db) : Prop := ∃ r ∈ s.reviewsOf i, r.status = .pending

/-- A breakglass session of change `i` waits for its review. -/
def SessionUnreviewed (i : ℕ) (s : Db) : Prop :=
  ∃ b session, s.sessions.get? b = some session ∧ session.changeRecord = i ∧
    session.reviewStatus ≠ .submitted

/-- A review of change `i` is not submitted. -/
def OwesReview (i : ℕ) (s : Db) : Prop := ReviewPending i s ∨ SessionUnreviewed i s

/-- The sessions of `s'` are those of `s`, and so are the statuses of their reviews. -/
def SameSessionReviews (s s' : Db) : Prop :=
  ∀ b session', s'.sessions.get? b = some session' → ∃ session, s.sessions.get? b = some session ∧
    session'.changeRecord = session.changeRecord ∧ session'.reviewStatus = session.reviewStatus

variable {s s' : Db} {i : ℕ}

theorem BreakglassSession.changeRecord_of_identity {b b' : BreakglassSession}
    (h : b'.identity = b.identity) : b'.changeRecord = b.changeRecord := by
  simp only [BreakglassSession.identity, Prod.mk.injEq] at h
  exact h.2.1

theorem SessionsEnded.reviews (h : SessionsEnded i s s') : SameSessionReviews s s' := by
  intro b session' hsession'
  obtain ⟨session, hsession, hid, hreview, -⟩ := h b session' hsession'
  exact ⟨session, hsession, BreakglassSession.changeRecord_of_identity hid, hreview⟩

theorem sameSessionReviews_of_table (h : SameOn [.sessions] s s') : SameSessionReviews s s' := by
  have htable : s.sessions = s'.sessions := h .sessions (by decide)
  exact fun b session' hsession' => ⟨session', htable ▸ hsession', rfl, rfl⟩

theorem SameSessionReviews.trans {s1 : Db} (h1 : SameSessionReviews s s1)
    (h2 : SameSessionReviews s1 s') : SameSessionReviews s s' := by
  intro b session' hsession'
  obtain ⟨session1, hsession1, hchange1, hreview1⟩ := h2 b session' hsession'
  obtain ⟨session, hsession, hchange, hreview⟩ := h1 b session1 hsession1
  exact ⟨session, hsession, hchange1.trans hchange, hreview1.trans hreview⟩

/-- A change owes no more than it did. -/
theorem SameSessionReviews.owes (h : SameSessionReviews s s') (hreviews : SameOn [.retroReviews] s s')
    (howes : OwesReview i s') : OwesReview i s := by
  have htable : s.retroReviews = s'.retroReviews := hreviews .retroReviews (by decide)
  rcases howes with ⟨r, hr, hpending⟩ | ⟨b, session', hsession', hchange', hreview'⟩
  · refine .inl ⟨r, ?_, hpending⟩
    rwa [Db.reviewsOf, htable]
  · obtain ⟨session, hsession, hchange, hreview⟩ := h b session' hsession'
    exact .inr ⟨b, session, hsession, hchange ▸ hchange', hreview ▸ hreview'⟩

/-- A closure that nothing blocks finds no pending review. -/
theorem not_pending_of_closureBlockers {reviews : List RetroReview}
    (h : closureBlockers reviews = []) : ∀ r ∈ reviews, r.status ≠ .pending := by
  intro r hr hpending
  have hno := List.filter_eq_nil_iff.1 h r hr
  simp [hpending] at hno

-- ════════════════════════════════════════════════════════════════════════
-- The effects of a commit
-- ════════════════════════════════════════════════════════════════════════

/-- The status of the executions that the request ends. -/
def Op.outcome : Op → ExecutionStatus
  | .completeExecution _ _ outcome => outcome
  | _ => .failed

/-- The commit `n` settles change `i` after its execution. -/
inductive Settles (s : Db) : TxName → ℕ → Prop where
  | hook (i : ℕ) : Settles s (.completionHook i) i
  | recovery (approval : ℕ) (now : Time) (e i : ℕ) (he : timedOutExecution? approval now s = some e)
      (hi : ReservedFor s e i) : Settles s (.recoverApproval approval now) i

/-- The settlement of change `i` closes it: it runs, and its request has changed, or nothing is
left to verify. -/
def SettlementCloses (env : Env) (outcome : ExecutionStatus) (i : ℕ) (s : Db) : Prop :=
  ∃ row, s.changes.get? i = some row ∧ row.status = .running ∧
    (requestIntegrityHolds env i s = .ok false ∨ requestIntegrityHolds env i s = .ok true ∧
      (outcome = .succeeded → ∃ profile, s.reference.profiles.get? row.operationProfile =
        some profile ∧ profile.verificationRequired = false))

/-- No change but `i` was closed. -/
def ClosedAlone (i : ℕ) (s s' : Db) : Prop :=
  ∀ j, s'.ChangeIn .closed j → j = i ∨ s.ChangeIn .closed j

/-- What the commit `n` of the request `op` does to closed changes. -/
inductive CloseMove (env : Env) (op : Op) (n : TxName) (s s' : Db) : Prop where
  | other (hkept : ∀ j, s'.ChangeIn .closed j → s.ChangeIn .closed j)
  | close (i : ℕ) (row : ChangeRecord) (hname : n = .closeChange i)
      (hrow : s.changes.get? i = some row)
      (hallowed : row.retroReviewRequired = true → closureBlockers (s.reviewsOf i) = [])
      (halone : ClosedAlone i s s')
      (hsame : SameOn [.clock, .retroReviews, .sessionRows, .sessionReviews] s s')
  | settle (i : ℕ) (hsettles : Settles s n i) (hcloses : SettlementCloses env op.outcome i s)
      (halone : ClosedAlone i s s') (hreviews : SameOn [.retroReviews] s s')
      (hsessions : SameSessionReviews s s')

namespace CloseMove

variable {env : Env} {op : Op} {n : TxName}

theorem refl (s : Db) : CloseMove env op n s s := .other fun _ => id

theorem quiet (h : SameOn [.changeStatus .closed] s s') : CloseMove env op n s s' :=
  .other fun j => (h (.changeStatus .closed) (by decide) j).2

/-- **Frame rule**. -/
theorem frame {W : List Cell} {α : Type} (p : Handler W α) (s : Db)
    (hdisj : ∀ c ∈ [Cell.changeStatus .closed], c ∉ W) :
    p.Follows historyCells (CloseMove env op) s :=
  Prog.Follows.frame hdisj (fun _ _ _ => quiet) p s

theorem closedAlone_of_moved {s1 s2 : Db} {st : ChangeStatus} (h1 : SameOn [.changeStatus .closed] s s1)
    (hmoved : Moved i st s1 s2) (h2 : SameOn [.changeStatus .closed] s2 s') : ClosedAlone i s s' := by
  intro j hj
  have hj2 := (h2 (.changeStatus .closed) (by decide) j).2 hj
  by_cases hi : j = i
  · exact .inl hi
  · exact .inr ((h1 (.changeStatus .closed) (by decide) j).2 ((hmoved.others _ j hi).1 hj2))

/-- `close_change`. -/
theorem closeChangeTx {req : CloseRequest} {outcome : ClosureOutcome} {actor : AuditActor} {u : Unit}
    (h : (closeChangeTx req outcome actor).run s = .ok (u, s')) :
    CloseMove env op (.closeChange req.change) s s' := by
  have hsame : SameOn [.clock, .retroReviews, .sessionRows, .sessionReviews] s s' := Tx.sameOn h _ (by decide)
  simp only [RunbookPlatform.closeChangeTx, Tx.bind_ok, Tx.lift_query_ok, lookup_ok, select_ok,
    ensure_ok, expect_ok, Tx.run_widen, Tx.run_lift] at h
  obtain ⟨row, _, ⟨hrow, rfl⟩, _, s1, hsweep, _, _, ⟨-, rfl⟩, _, _, ⟨-, rfl⟩, _, _, ⟨hassert, rfl⟩, _,
    _, ⟨-, rfl⟩, plan, _, ⟨-, rfl⟩, checks, _, ⟨-, rfl⟩, _, _, ⟨-, rfl⟩, now, _, ⟨-, rfl⟩, released,
    s2, hrelease, _, s3, hend, closure, s4, hclosure, old, s5, hmove, hemit⟩ := h
  have h1 : SameOn [.retroReviews, .changeStatus .closed] s s1 := Tx.sameOn hsweep _ (by decide)
  have h14 : SameOn [.changeStatus .closed] s1 s4 := ((Tx.sameOn hrelease _ (by decide)).trans
    (Tx.sameOn hend _ (by decide))).trans (insertUnique_follows Rel.closures _ _ (by decide) _ _ _ hclosure)
  obtain ⟨-, -, hmoved⟩ := transitionChange_moved hmove
  refine .close req.change row rfl hrow (fun hrequired => ?_)
    (closedAlone_of_moved ((h1.mono (by decide)).trans h14) hmoved (Tx.sameOn hemit _ (by decide))) hsame
  simp only [assertRetroReviewsAllowClosure, hrequired, if_true, Query.bind_ok, select_ok,
    ensure_ok, exists_eq_left'] at hassert
  have hreviews : s.retroReviews = s1.retroReviews := h1 .retroReviews (by decide)
  rwa [Db.reviewsOf, hreviews]

/-- The settlement of a change that runs. -/
theorem settleRunningChange {row : ChangeRecord} {outcome : ExecutionStatus} {u : Unit}
    (hrow : s.changes.get? i = some row) (hrunning : row.status = .running)
    (h : (settleRunningChange env i row outcome).run s = .ok (u, s')) :
    SameOn [.changeStatus .closed] s s' ∨ SettlementCloses env outcome i s ∧ ClosedAlone i s s' ∧
      SameSessionReviews s s' := by
  simp only [RunbookPlatform.settleRunningChange, Tx.bind_ok, Tx.lift_query_ok] at h
  obtain ⟨now, _, ⟨-, rfl⟩, intact, _, ⟨hintact, rfl⟩, h⟩ := h
  split at h
  · rename_i hfalse
    simp only [Tx.bind_ok, Tx.run_lift, Tx.run_pure, Except.ok.injEq, Prod.mk.injEq] at h
    obtain ⟨old, s1, hmove, -, rfl⟩ := h
    obtain ⟨-, -, hmoved⟩ := transitionChange_moved hmove
    exact .inr ⟨⟨row, hrow, hrunning, .inl (hfalse ▸ hintact)⟩,
      closedAlone_of_moved (.refl _ _) hmoved (.refl _ _),
      sameSessionReviews_of_table (Tx.sameOn hmove _ (by decide))⟩
  · rename_i htrue
    rw [Bool.not_eq_false] at htrue
    subst htrue
    simp only [Tx.bind_ok, Tx.lift_query_ok, lookup_ok, Tx.run_widen] at h
    obtain ⟨profile, _, ⟨hprofile, rfl⟩, _, s1, hend, h⟩ := h
    have h1 : SameOn [.changeStatus .closed] s s1 := Tx.sameOn hend _ (by decide)
    have hclose : ∀ {reason : String} {old : ChangeStatus} {s2 : Db},
        (transitionChange i .closed changeService now reason).run s1 = .ok (old, s2) →
        (outcome = .succeeded → ∃ profile, s.reference.profiles.get? row.operationProfile =
          some profile ∧ profile.verificationRequired = false) →
        SettlementCloses env outcome i s ∧ ClosedAlone i s s2 ∧ SameSessionReviews s s2 := by
      intro reason old s2 hmove hverified
      obtain ⟨-, -, hmoved⟩ := transitionChange_moved hmove
      exact ⟨⟨row, hrow, hrunning, .inr ⟨hintact, hverified⟩⟩,
        closedAlone_of_moved h1 hmoved (.refl _ _), (endSessions_ended hend).reviews.trans
          (sameSessionReviews_of_table (Tx.sameOn hmove _ (by decide)))⟩
    split at h
    · split at h
      · simp only [Tx.bind_ok, Tx.run_lift] at h
        obtain ⟨old, s2, hmove, hrecompute⟩ := h
        exact .inl ((h1.trans (Tx.sameOn hmove _ (by decide))).trans (Tx.sameOn hrecompute _ (by decide)))
      · rename_i hverification
        simp only [Tx.bind_ok, Tx.run_lift, Tx.run_pure, Except.ok.injEq, Prod.mk.injEq] at h
        obtain ⟨old, s2, hmove, -, rfl⟩ := h
        exact .inr (hclose hmove fun _ => ⟨profile, hprofile, by simpa using hverification⟩)
    · rename_i hfailed
      simp only [Tx.bind_ok, Tx.run_lift, Tx.run_pure, Except.ok.injEq, Prod.mk.injEq] at h
      obtain ⟨old, s2, hmove, -, rfl⟩ := h
      exact .inr (hclose hmove fun hsucceeded => absurd hsucceeded hfailed)

/-- The transaction of `handle_bound_execution_completed`. -/
theorem settleBoundChange {outcome : ExecutionStatus} {u : Unit}
    (h : (settleBoundChange env i outcome).run s = .ok (u, s')) :
    SameOn [.changeStatus .closed] s s' ∨ SettlementCloses env outcome i s ∧ ClosedAlone i s s' ∧
      SameSessionReviews s s' := by
  simp only [RunbookPlatform.settleBoundChange, Tx.bind_ok, Tx.lift_query_ok, lookup_ok] at h
  obtain ⟨row, _, ⟨hrow, rfl⟩, h⟩ := h
  split at h
  · simp only [Tx.bind_ok, Tx.lift_query_ok, Tx.run_lift] at h
    obtain ⟨now, _, ⟨-, rfl⟩, hexpire⟩ := h
    exact .inl (Tx.sameOn hexpire _ (by decide))
  · split at h
    · rename_i hrunning
      exact settleRunningChange hrow hrunning h
    · obtain rfl : s = s' := by simpa using h
      exact .inl (.refl _ _)

/-- The settlement of a bound change after its execution. -/
theorem handleBoundExecutionCompleted (execution : ℕ) (s : Db) :
    (handleBoundExecutionCompleted env execution op.outcome).Follows historyCells
      (CloseMove env op) s := by
  refine .read refl fun s1 found _ _ => ?_
  split
  · exact .pure _
  · refine .atomic fun s2 _ u s3 h => ?_
    rcases settleBoundChange h with hsame | ⟨hcloses, halone, hsessions⟩
    · exact quiet hsame
    · exact .settle _ (.hook _) hcloses halone (Tx.sameOn h _ (by decide)) hsessions

/-- `ExecutionCompleteView`. -/
theorem completeByRunner (execution : ℕ) (call : RunnerCall) (outcome : ExecutionStatus) (s : Db) :
    (completeByRunner env execution call outcome).Follows historyCells
      (CloseMove env (.completeExecution execution call outcome)) s := by
  refine .bind (.widen (frame (loadReadyExecution env execution call) s (by decide))) fun e s1 => .widen <|
    .bind (.atomic fun _ _ _ _ h => quiet (Tx.sameOn h _ (by decide))) fun _ s2 =>
    .bind (.atomic fun _ _ _ _ h => quiet (Tx.sameOn h _ (by decide))) fun _ s3 =>
    .tryCatch (.widen (handleBoundExecutionCompleted execution s3)) fun _ s4 =>
    .read refl fun s5 bound _ _ => ?_
  split
  · exact .fail _
  · exact .pure _

/-- `recover_stuck_executions`. -/
theorem recoverStuckExecutions (threshold : ℕ) (s : Db) :
    (recoverStuckExecutions env threshold).Follows historyCells
      (CloseMove env (.recoverStuckExecutions threshold)) s := by
  have hhook : ∀ execution s, (RunbookPlatform.handleBoundExecutionCompleted env execution
      .failed).Follows historyCells (CloseMove env (.recoverStuckExecutions threshold)) s :=
    fun execution s => handleBoundExecutionCompleted execution s
  refine .read refl fun s1 now _ _ => .read refl fun s2 candidates _ _ => .forEach (fun e s3 =>
    .bind (.atomic fun _ _ _ _ h => quiet (Tx.sameOn h _ (by decide))) fun recovered s4 => ?_) candidates s2
  split
  · exact .bind (.atomic fun _ _ _ _ h => quiet (Tx.sameOn h _ (by decide))) fun _ s5 =>
      .tryCatch (.widen (hhook e.id s5)) fun _ _ => .pure _
  · exact .pure _

/-- The settlement depends on the change, its targets and what administrators edit. -/
theorem settlementCloses_congr {outcome : ExecutionStatus}
    (h : SameOn [.changes, .changeTargets, .reference] s s')
    (hcloses : SettlementCloses env outcome i s') : SettlementCloses env outcome i s := by
  have hchanges : s.changes = s'.changes := h .changes (by decide)
  have hreference : s.reference = s'.reference := h .reference (by decide)
  have hintegrity : requestIntegrityHolds env i s = requestIntegrityHolds env i s' := by
    unfold requestIntegrityHolds
    rw [validateRequestIntegrity_congr env i h]
  unfold SettlementCloses
  rw [hchanges, hreference, hintegrity]
  exact hcloses

/-- `_recover_expired_approval`. -/
theorem recoverExpiredApproval {batchSize approval : ℕ} {now : Time} {u : Unit}
    (h : (recoverExpiredApproval env approval now).run s = .ok (u, s')) :
    CloseMove env (.recoverExpiredApprovals batchSize) (.recoverApproval approval now) s s' := by
  cases recoverExpiredApproval_recovers h with
  | quiet hsame => exact quiet (hsame.mono (by decide))
  | change s1 hsame hrun =>
    obtain ⟨_, hrun⟩ := hrun
    exact quiet ((hsame.mono (by decide)).trans (Tx.sameOn hrun _ (by decide)))
  | execution e c s1 he hc hsame hrun =>
    obtain ⟨_, hrun⟩ := hrun
    have hclosed : SameOn [.changeStatus .closed] s s1 := hsame.mono (by decide)
    rcases settleBoundChange hrun with hsame1 | ⟨hcloses, halone, hsessions⟩
    · exact quiet (hclosed.trans hsame1)
    · refine .settle c (.recovery approval now e c he hc)
        (settlementCloses_congr (hsame.mono (by decide)) hcloses) (fun j hj => ?_)
        ((hsame.mono (by decide)).trans (Tx.sameOn hrun _ (by decide)))
        ((sameSessionReviews_of_table (hsame.mono (by decide))).trans hsessions)
      exact (halone j hj).imp_right (hclosed (.changeStatus .closed) (by decide) j).2

/-- A change object that was loaded before is saved as expired. -/
theorem expireStaleChange {name : TxName} (change : Loaded ChangeRecord) (actor : AuditActor)
    (now : Time) (reason : String) (s : Db) :
    (transitionStaleChange name change .expired actor now reason).Follows historyCells
      (CloseMove env op) s := by
  refine .read refl fun s1 _ _ _ => .bind (.atomic fun s2 _ u s3 h => .other fun j hj => ?_)
    fun _ _ => .atomic fun _ _ _ _ h => quiet (Tx.sameOn h _ (by decide))
  obtain rfl := overwriteChange_ok.1 h
  obtain ⟨row, hrow, hclosed⟩ := hj
  rw [Table.get?_modify] at hrow
  split_ifs at hrow
  · obtain ⟨old, -, rfl⟩ := Option.map_eq_some_iff.1 hrow
    cases hclosed
  · exact ⟨row, hrow, hclosed⟩

/-- `bind_execution`, with the expiry after a rejected bind. -/
theorem bindExecution (req : BindRequest) (s : Db) :
    (bindExecution env req).Follows historyCells (CloseMove env op) s := by
  refine .tryCatch (.atomic fun _ _ _ _ h => quiet (Tx.sameOn h _ (by decide))) fun e s1 => ?_
  dsimp only
  split
  · refine .bind (.tryCatch (.widen (.read refl fun s2 row _ _ => .read refl fun s3 now _ _ => ?_))
      fun _ _ => .pure _) fun _ _ => .fail _
    split
    · exact expireStaleChange _ _ now _ s3
    · exact .pure _
  · exact .fail _

/-- The claim endpoint. -/
theorem claimNext (runnerId : String) (registered : Bool) (token : String) (nonce : ℕ → String)
    (s : Db) : (claimNext env runnerId registered token nonce).Follows historyCells
      (CloseMove env op) s := by
  refine .bind (.tryCatch (.widen (frame _ s (by decide))) fun _ _ => .pure _) fun _ s1 =>
    .read refl fun s2 runner _ _ => .bind (.widen (frame _ s2 (by decide))) fun result s3 => ?_
  split
  · refine .widen (.read refl fun s4 found _ _ => ?_)
    split
    · exact .pure _
    · split
      · refine .read refl fun s5 now _ _ => .read refl fun s6 change _ _ => ?_
        split
        · split
          · exact .tryCatch (.widen (expireStaleChange _ _ now _ s6)) fun _ _ => .pure _
          · exact .pure _
        · split
          · exact .tryCatch (.widen (frame (enforceEmergencyExpiryForChange _ now) s6 (by decide)))
              fun _ _ => .pure _
          · exact .pure _
      · exact .pure _
  · exact .pure _

end CloseMove

/-- **Every request** closes changes as `CloseMove` says. -/
theorem Op.closeMoves (env : Env) (op : Op) (s : Db) :
    (op.prog env).Follows historyCells (CloseMove env op) s := by
  cases op with
  | closeChange req actor =>
    exact .read CloseMove.refl fun _ _ _ _ => .read CloseMove.refl fun _ _ _ _ =>
      .atomic fun _ _ _ _ h => CloseMove.closeChangeTx h
  | bindExecution req => exact CloseMove.bindExecution req s
  | claimNext runnerId registered token nonce =>
    exact CloseMove.claimNext runnerId registered token nonce s
  | completeExecution execution call outcome =>
    exact CloseMove.completeByRunner execution call outcome s
  | recoverStuckExecutions threshold => exact CloseMove.recoverStuckExecutions threshold s
  | recoverExpiredApprovals batchSize =>
    exact .read CloseMove.refl fun _ _ _ _ => .read CloseMove.refl fun s1 overdue _ _ =>
      .forEach (fun _ _ => .atomic fun _ _ _ _ h => CloseMove.recoverExpiredApproval h) overdue s1
  | _ =>
    exact Op.follows_of_frame (C := [.changeStatus .closed]) (fun _ _ _ => CloseMove.quiet) _
      (by dsimp only [Op.cells]; decide) s

end RunbookPlatform
