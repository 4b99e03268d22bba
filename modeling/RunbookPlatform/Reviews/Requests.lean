import RunbookPlatform.Reviews.Moves
import RunbookPlatform.Ledger.Resolutions

/-!
# What each request does to retro-reviews

## Main results

- `Op.reviewMoves` — every request follows `ReviewMove`
-/

namespace RunbookPlatform

open Transactional

set_option synthInstance.maxSize 1000

namespace ReviewMove

variable {op : Op} {n : TxName} {s s' : Db}

theorem refl (s : Db) : ReviewMove op n s s := .other (.refl _ _)

/-- **Frame rule**. -/
theorem frame {W : List Cell} {α : Type} (p : Handler W α) (s : Db)
    (hdisj : ∀ c ∈ retroCells, c ∉ W) : p.Follows historyCells (ReviewMove op) s :=
  Prog.Follows.frame hdisj (fun _ _ _ => .other) p s

/-- `advance` of the clock. -/
theorem advanceClock {elapsed : Time} {u : Unit}
    (h : (advanceClock elapsed).run s = .ok (u, s')) : ReviewMove (.tick elapsed) n s s' := by
  have hsame : SameOn [.retroReviews, .changeRetro] s s' := Tx.sameOn h _ (by decide)
  obtain ⟨-, rfl⟩ : u = () ∧ s' = { s with now := s.now + elapsed } := by
    simpa [RunbookPlatform.advanceClock] using Tx.write_ok.1 h
  exact .tick elapsed rfl rfl hsame

/-- `create_change_record`: a new change has no review. -/
theorem insertChangeRecord {env : Env} {req : ChangeRequest} {profile : ℕ} {actor : AuditActor}
    {c : ℕ} (h : (insertChangeRecord env req profile actor).run s = .ok (c, s')) :
    ReviewMove op n s s' := by
  have hsame : SameOn [.clock, .retroReviews] s s' := Tx.sameOn h _ (by decide)
  simp only [RunbookPlatform.insertChangeRecord, Tx.bind_ok, Tx.lift_query_ok, Tx.run_lift,
    insertChange_ok, Tx.run_pure, Except.ok.injEq, Prod.mk.injEq] at h
  obtain ⟨now, _, ⟨-, rfl⟩, change, s1, ⟨rfl, hs1⟩, _, s2, htargets, _, s3, hemit, rfl, rfl⟩ := h
  have hrest : SameOn [.changeRetro] s1 s3 := (Tx.sameOn htargets _ (by decide)).trans (Tx.sameOn hemit _ (by decide))
  refine .create s.changes.next (by simp [Db.retroOf]) (fun j => ?_) hsame
  have hj : s1.retroOf j = s3.retroOf j := hrest .changeRetro (by decide) j
  rw [← hj, hs1]
  by_cases hnew : j = s.changes.next
  · simp [Db.retroOf, hnew, ChangeRecord.retro]
  · simp [Db.retroOf, Table.get?_insert, hnew]

theorem secondsOr_pos (value : Option ℕ) {default : ℕ} (h : 0 < default) :
    0 < seconds (secondsOr value default) := by
  refine Nat.mul_pos ?_ (by decide)
  unfold secondsOr
  split
  · exact h
  · exact h
  · rename_i n hn
    exact Nat.pos_of_ne_zero fun h0 => hn (h0 ▸ rfl)

/-- What `activate_breakglass` has checked. -/
theorem checkBreakglassActivation_ok {env : Env} {req : BreakglassRequest} {now dueAt : Time}
    {row : ChangeRecord} (h : checkBreakglassActivation env req now s = .ok (row, dueAt)) :
    s.changes.get? req.change = some row ∧ row.status ∈ breakglassActivatableStatuses ∧
      now < dueAt := by
  simp only [checkBreakglassActivation, Query.bind_ok, Query.pure_apply, Except.ok.injEq,
    Prod.mk.injEq, lookup_ok, ensure_ok] at h
  obtain ⟨row', hrow, _, hstatus, profile, -, _, -, _, -, _, -, _, -, _, -, _, -, rfl, rfl⟩ := h
  exact ⟨hrow, hstatus, Nat.lt_add_of_pos_right (secondsOr_pos _ (by decide))⟩

/-- `activate_breakglass`: the review's due date is ahead. -/
theorem activateBreakglass {env : Env} {req : BreakglassRequest} {actor : AuditActor} {i : ℕ}
    (h : (activateBreakglass env req actor).run s = .ok (i, s')) :
    ReviewMove op (.activateBreakglass req.change) s s' := by
  have hclock : SameOn [.clock] s s' := Tx.sameOn h _ (by decide)
  simp only [RunbookPlatform.activateBreakglass, Tx.bind_ok, Tx.lift_query_ok, timezoneNow,
    select_ok, Tx.run_widen, Tx.run_lift, insertRow_ok, Tx.run_pure, Except.ok.injEq,
    Prod.mk.injEq] at h
  obtain ⟨now, _, ⟨rfl, rfl⟩, _, s1, hexpire, ⟨row, dueAt⟩, _, ⟨hcheck, rfl⟩, session, s2,
    hsession, _, s3, hretro, review, s4, ⟨-, hs4⟩, _, s5, hemit1, _, s6, hemit2, -, rfl⟩ := h
  obtain ⟨hrow, -, hdue⟩ := checkBreakglassActivation_ok hcheck
  have h01 : SameOn [.retroReviews, .changeRetro] s s1 := Tx.sameOn hexpire _ (by decide)
  have h12 : SameOn [.retroReviews, .changeRetro] s1 s2 :=
    Tx.sameOn hsession _ (by decide)
  have h23 : SameOn [.retroReviews] s2 s3 := Tx.sameOn hretro _ (by decide)
  have h34 : SameOn [.changeRetro] s3 s4 := by
    intro c hc
    obtain rfl := List.mem_singleton.1 hc
    rw [hs4]
    exact fun _ => rfl
  have h46 : SameOn [.retroReviews, .changeRetro] s4 s6 :=
    (Tx.sameOn hemit1 _ (by decide)).trans (Tx.sameOn hemit2 _ (by decide))
  have hreviews : s.retroReviews = s3.retroReviews :=
    ((h01.trans h12).mono (by decide) |>.trans h23) .retroReviews (by decide)
  have hafter : s4.retroReviews = s6.retroReviews := h46 .retroReviews (by decide)
  refine .activate req.change
    { organization := row.organization, changeRecord := req.change,
      breakglassSession := some session, dueAt } rfl rfl rfl hdue rfl ?_ ?_
    ((updateRetro_edited (fun _ => rfl) hretro).congr ((h01.trans h12) .changeRetro (by decide))
      ((h34.trans (h46.mono (by decide))) .changeRetro (by decide))) hclock
  · have hsame : s.retroOf req.change = s1.retroOf req.change := h01 .changeRetro (by decide) _
    rw [hsame, Db.retroOf, hrow]
    exact Option.some_ne_none _
  · rw [← hafter, hs4, hreviews]
    rfl

/-- `_recompute_change_retro_review_status`. -/
theorem recomputeChangeRetroReviewStatus {c : ℕ} {u : Unit} (hsome : s.reviewsOf c ≠ [])
    (h : (recomputeChangeRetroReviewStatus c).run s = .ok (u, s')) :
    RetroEdited c (fun old => (old.1, retroBlockingStatus s.now "" (s.reviewsOf c))) s s' := by
  simp only [RunbookPlatform.recomputeChangeRetroReviewStatus, Tx.bind_ok, Tx.lift_query_ok,
    select_ok, timezoneNow] at h
  obtain ⟨reviews, _, ⟨rfl, rfl⟩, now, _, ⟨rfl, rfl⟩, h⟩ := h
  rw [if_pos (by simpa [Db.reviewsOf] using hsome)] at h
  exact updateRetro_edited (fun _ => rfl) h

/-- `submit_retro_review`: the status is recomputed with the review submitted. -/
theorem submitRetroReviewTx {req : RetroReviewRequest} {disposition : Disposition} {u : Unit}
    (h : (submitRetroReviewTx req disposition).run s = .ok (u, s')) :
    ReviewMove op (.submitReview req.review) s s' := by
  have hclock : SameOn [.clock] s s' := Tx.sameOn h _ (by decide)
  simp only [RunbookPlatform.submitRetroReviewTx, Tx.bind_ok, Tx.lift_query_ok, lookup_ok,
    ensure_ok, timezoneNow, select_ok, updateRow_ok] at h
  obtain ⟨r, _, ⟨hr, rfl⟩, _, _, ⟨hpending, rfl⟩, now, _, ⟨rfl, rfl⟩, _, s1, hs1, h⟩ := h
  obtain ⟨s2, h12, hrecompute⟩ : ∃ s2, SameOn [.clock, .retroReviews, .changeRetro] s1 s2 ∧
      (RunbookPlatform.recomputeChangeRetroReviewStatus r.changeRecord).run s2 = .ok (u, s') := by
    split at h
    · simp only [Tx.bind_ok, Tx.run_widen, Tx.run_lift] at h
      obtain ⟨_, s2, hsession, hrecompute⟩ := h
      exact ⟨s2, Tx.sameOn hsession _ (by decide), hrecompute⟩
    · exact ⟨s1, .refl _ _, h⟩
  have h2 : SameOn [.clock, .retroReviews] s2 s' := Tx.sameOn hrecompute _ (by decide)
  have hreviews : s1.retroReviews = s2.retroReviews := h12 .retroReviews (by decide)
  have hafter : s2.retroReviews = s'.retroReviews := h2 .retroReviews (by decide)
  obtain ⟨r', hreplaced, hstatus, hchange, hexception⟩ : ∃ r' : RetroReview,
      s.retroReviews.Replaced req.review r r' s'.retroReviews ∧ r'.status = .submitted ∧
        r'.changeRecord = r.changeRecord ∧ r'.changeException = r.changeException := by
    rw [← hafter, ← hreviews, hs1]
    exact ⟨_, .modify hr _, rfl, rfl, rfl⟩
  have hof : ∀ c, s2.reviewsOf c = s'.reviewsOf c := fun c => by
    rw [Db.reviewsOf, hafter, Db.reviewsOf]
  have hnow : s.now = s2.now := by
    have h12' : s1.now = s2.now := h12 .clock (by decide)
    rw [← h12', hs1]
    rfl
  have hsome : s2.reviewsOf r.changeRecord ≠ [] := by
    rw [hof]
    exact List.ne_nil_of_mem (Db.mem_reviewsOf.2 ⟨_, hreplaced.after, hchange⟩)
  have hretro := recomputeChangeRetroReviewStatus hsome hrecompute
  rw [hof, ← hnow] at hretro
  refine .submit req.review r r' rfl hpending hstatus hchange hexception hreplaced
    (hretro.congr ?_ ?_) hclock
  · have h1 : Cells.agree Cell.changeRetro s1 s2 := h12 .changeRetro (by decide)
    rw [hs1] at h1
    exact h1
  · exact Cells.agree_refl _ _

/-- `mark_overdue_retro_reviews`. -/
theorem markOverdueRetroReviews :
    (markOverdueRetroReviews).Follows historyCells (ReviewMove op) s := by
  refine .read refl fun _ now _ _ => .read refl fun s2 overdue _ _ =>
    .forEach (fun (review, status) s3 => ?_) overdue s2
  dsimp only
  split
  · refine .bind (.atomic fun s4 _ u s5 h => ?_) fun _ _ =>
      .atomic fun _ _ _ _ h => .other (Tx.sameOn h _ (by decide))
    exact .late _ rfl (updateRetro_edited (fun _ => rfl) h) (Tx.sameOn h _ (by decide))
  · exact .pure _

-- ════════════════════════════════════════════════════════════════════════
-- Approvals of exceptions
-- ════════════════════════════════════════════════════════════════════════

/-- The identity of an exception. -/
theorem exception_of_history {e : ℕ} {exc later : ChangeException}
    (h : SameOn [.exceptionHistory] s s') (hexc : s.exceptions.get? e = some exc)
    (hlater : s'.exceptions.get? e = some later) :
    later.exceptionType = exc.exceptionType ∧ later.changeRecord = exc.changeRecord := by
  obtain ⟨row, hrow, hevolves⟩ := h .exceptionHistory (by decide) e exc hexc
  rw [hlater] at hrow
  cases hrow
  have hid := hevolves.identity
  simp only [ChangeException.identity, Prod.mk.injEq] at hid
  exact ⟨hid.2.2.1, hid.2.1⟩

/-- The mark on the change of a severe exception. -/
theorem requireRetroReview {exc : ChangeException} {u : Unit}
    (h : (requireRetroReview exc).run s = .ok (u, s')) :
    exc.exceptionType.isSevere = true ∧
        RetroEdited exc.changeRecord (fun _ => (true, "pending")) s s' ∨ s' = s := by
  unfold RunbookPlatform.requireRetroReview at h
  split at h
  · rename_i hsevere
    exact .inl ⟨hsevere, updateRetro_edited (fun _ => rfl) h⟩
  · obtain ⟨-, rfl⟩ : u = () ∧ s = s' := by simpa using h
    exact .inr rfl

/-- The exception that `lockPendingException` returns. -/
theorem lockPendingException {e : ℕ} {verb detail : String} {exc : ChangeException}
    (h : (lockPendingException e verb detail).run s = .ok (exc, s')) :
    ∃ old, s.exceptions.get? e = some old ∧ exc.exceptionType = old.exceptionType ∧
      exc.changeRecord = old.changeRecord := by
  have hsame : SameOn [.exceptionHistory] s s' := Tx.sameOn h _ (by decide)
  simp only [RunbookPlatform.lockPendingException, Tx.bind_ok, Tx.lift_query_ok, lookup_ok,
    Tx.run_pure, Except.ok.injEq, Prod.mk.injEq] at h
  obtain ⟨old, _, ⟨hold, rfl⟩, _, s5, -, new, _, ⟨hnew, rfl⟩, _, _, ⟨-, rfl⟩, _, _,
    ⟨-, rfl⟩, rfl, rfl⟩ := h
  exact ⟨old, hold, exception_of_history hsame hold hnew⟩

/-- `approve_exception`. -/
theorem approveExceptionTx {e : ℕ} {actor : AuditActor} {user : Option String}
    {exc : ChangeException} (h : (approveExceptionTx e actor user).run s = .ok (exc, s')) :
    ReviewMove (.approveException e actor user) (.decideException e) s s' := by
  have hsame : SameOn [.clock, .retroReviews] s s' := Tx.sameOn h _ (by decide)
  simp only [RunbookPlatform.approveExceptionTx, Tx.bind_ok, Tx.run_widen, Tx.run_lift,
    Tx.lift_query_ok, Tx.run_pure, Except.ok.injEq, Prod.mk.injEq] at h
  obtain ⟨row, s1, hlock, now, _, ⟨-, rfl⟩, _, s2, hsave, _, s3, hresolve, _, s4, hrequire, rfl,
    rfl⟩ := h
  have h13 : SameOn retroCells s s3 :=
    ((Tx.sameOn hlock _ (by decide)).trans (Tx.sameOn hsave _ (by decide))).trans (Tx.sameOn hresolve _ (by decide))
  obtain ⟨old, hold, htype, hchange⟩ := lockPendingException hlock
  rcases requireRetroReview hrequire with ⟨hsevere, hretro⟩ | rfl
  · rw [hchange] at hretro
    exact .severe e old.changeRecord (.direct e actor user old hold (htype ▸ hsevere))
      (hretro.congr (h13 .changeRetro (by decide)) (Cells.agree_refl _ _)) hsame
  · exact .other h13

/-- `reject_exception`. -/
theorem rejectExceptionTx {e : ℕ} {actor : AuditActor} {user : Option String}
    {exc : ChangeException} (h : (rejectExceptionTx e actor user).run s = .ok (exc, s')) :
    ReviewMove op n s s' := by
  simp only [RunbookPlatform.rejectExceptionTx, Tx.bind_ok, Tx.run_widen, Tx.run_lift,
    Tx.lift_query_ok, Tx.run_pure, Except.ok.injEq, Prod.mk.injEq] at h
  obtain ⟨row, s1, hlock, now, _, ⟨-, rfl⟩, _, s2, hsave, _, s3, hresolve, -, rfl⟩ := h
  exact .other (((Tx.sameOn hlock _ (by decide)).trans (Tx.sameOn hsave _ (by decide))).trans (Tx.sameOn hresolve _ (by decide)))

/-- The exception of a decided request. -/
theorem applyExceptionApprovalDecision {a organization : ℕ} {decision : HumanDecision}
    {actor : AuditActor} {user : Option String} {found : Option (Loaded ChangeException)}
    (h : (applyExceptionApprovalDecision a organization decision actor user).run s =
      .ok (found, s')) :
    SameOn retroCells s s' ∨ decision = .approved ∧ ∃ e exc,
      exceptionOf? a organization s = some (e, exc) ∧ exc.exceptionType.isSevere = true ∧
        RetroEdited exc.changeRecord (fun _ => (true, "pending")) s s' := by
  simp only [RunbookPlatform.applyExceptionApprovalDecision, Tx.bind_ok, Tx.lift_query_ok,
    select_ok, expect_ok, Tx.run_widen] at h
  obtain ⟨_, _, ⟨rfl, rfl⟩, ⟨e, exc⟩, _, ⟨hfound, rfl⟩, row, s1, hlock, now, _, ⟨-, rfl⟩, h⟩ := h
  obtain ⟨old, hold, htype, hchange⟩ := lockPendingException hlock
  obtain ⟨hexc, -⟩ := Table.find?_some hfound
  rw [hexc] at hold
  cases hold
  have h1 : SameOn retroCells s s1 := Tx.sameOn hlock _ (by decide)
  cases decision with
  | approved =>
    simp only [Tx.bind_ok, Tx.run_widen, Tx.run_lift, Tx.run_pure, Except.ok.injEq,
      Prod.mk.injEq] at h
    obtain ⟨_, s2, hallowed, _, s3, hsave, _, s4, hrequire, _, s5, hemit, -, rfl⟩ := h
    have h3 : SameOn retroCells s s3 :=
      (h1.trans (Tx.sameOn hallowed _ (by decide))).trans (Tx.sameOn hsave _ (by decide))
    have h5 : SameOn retroCells s4 s5 := Tx.sameOn hemit _ (by decide)
    rcases requireRetroReview hrequire with ⟨hsevere, hretro⟩ | rfl
    · rw [hchange] at hretro
      exact .inr ⟨rfl, e, exc, hfound, htype ▸ hsevere,
        hretro.congr (h3 .changeRetro (by decide)) (h5 .changeRetro (by decide))⟩
    · exact .inl (h3.trans h5)
  | rejected =>
    simp only [Tx.bind_ok, Tx.run_lift, Tx.run_pure, Except.ok.injEq, Prod.mk.injEq] at h
    obtain ⟨_, s3, hsave, _, s5, hemit, -, rfl⟩ := h
    exact .inl ((h1.trans (Tx.sameOn hsave _ (by decide))).trans (Tx.sameOn hemit _ (by decide)))

/-- `decide_approval`. -/
theorem decideApprovalTx {env : Env} {a : ℕ} {decision : HumanDecision} {notes : String}
    {actor : AuditActor} {nonce : String} {found : Option (Loaded ChangeException)}
    (h : (decideApprovalTx env a decision notes actor nonce).run s = .ok (found, s')) :
    ReviewMove (.decideApproval a decision notes actor nonce) (.decideApproval a decision) s s' := by
  have hsame : SameOn [.clock, .retroReviews] s s' := Tx.sameOn h _ (by decide)
  simp only [RunbookPlatform.decideApprovalTx, Tx.bind_ok, Tx.lift_query_ok, lookup_ok] at h
  obtain ⟨r, _, ⟨hr, rfl⟩, now, _, ⟨-, rfl⟩, h⟩ := h
  split at h
  · simp only [Tx.bind_ok, Tx.run_widen, Tx.run_pure, Except.ok.injEq, Prod.mk.injEq] at h
    obtain ⟨_, s1, hover, -, rfl⟩ := h
    exact .other (Tx.sameOn hover _ (by decide))
  · simp only [Tx.bind_ok, Tx.lift_query_ok, Tx.run_lift, Tx.run_pure, Except.ok.injEq,
      Prod.mk.injEq] at h
    obtain ⟨_, _, ⟨-, rfl⟩, severe, s1, hexception, _, s2, hresolve, row, s3, hdecision, _, s4,
      hemit, _, s5, hchange, -, rfl⟩ := h
    have h15 : SameOn retroCells s1 s5 := by
      refine (((Tx.sameOn hresolve _ (by decide)).trans ?_).trans (Tx.sameOn hemit _ (by decide))).trans ?_
      · exact insertUnique_follows Rel.decisions _ _ (by decide) _ _ _ hdecision
      · unfold decideChange at hchange
        split at hchange
        · rw [Tx.run_widen] at hchange
          exact Tx.sameOn hchange _ (by decide)
        · obtain rfl : s4 = s5 := by simpa using hchange
          exact .refl _ _
    unfold decideException at hexception
    split at hexception
    · rcases applyExceptionApprovalDecision hexception with h1 | ⟨rfl, e, exc, hexc, hsevere, hretro⟩
      · exact .other (h1.trans h15)
      · exact .severe e exc.changeRecord (.linked a notes actor nonce r e exc hr hexc hsevere)
          (hretro.congr (Cells.agree_refl _ _) (h15 .changeRetro (by decide))) hsame
    · obtain ⟨-, rfl⟩ : _ = severe ∧ s = s1 := by simpa using hexception
      exact .other h15

end ReviewMove

/-- **Every request** does to retro-reviews what `ReviewMove` says. -/
theorem Op.reviewMoves (env : Env) (op : Op) (s : Db) :
    (op.prog env).Follows historyCells (ReviewMove op) s := by
  cases op with
  | tick elapsed =>
    exact .bind (.atomic fun _ _ _ _ h => ReviewMove.advanceClock h) fun _ _ => .pure _
  | createChange req actor =>
    exact .bind (.read ReviewMove.refl fun _ _ _ _ =>
      .atomic fun _ _ _ _ h => ReviewMove.insertChangeRecord h) fun _ _ => .pure _
  | approveException e actor user =>
    exact .read ReviewMove.refl fun _ _ _ _ => .bind (.widen (ReviewMove.frame _ _ (by decide))) fun _ _ =>
      .bind (.atomic fun _ _ _ _ h => ReviewMove.approveExceptionTx h) fun _ _ =>
        .read ReviewMove.refl fun _ _ _ _ => .atomic fun _ _ _ _ h => .other (Tx.sameOn h _ (by decide))
  | rejectException e actor user =>
    exact .bind (.atomic fun _ _ _ _ h => ReviewMove.rejectExceptionTx h) fun _ _ =>
      .atomic fun _ _ _ _ h => .other (Tx.sameOn h _ (by decide))
  | activateBreakglass req actor =>
    exact .bind (.atomic fun _ _ _ _ h => ReviewMove.activateBreakglass h) fun _ _ => .pure _
  | submitRetroReview req actor =>
    refine .read ReviewMove.refl fun _ _ _ _ => .read ReviewMove.refl fun _ disposition _ _ =>
      .read ReviewMove.refl fun _ _ _ _ => .read ReviewMove.refl fun _ found _ _ => ?_
    split
    · exact .bind (.atomic fun _ _ _ _ h => .other (Tx.sameOn h _ (by decide))) fun _ _ => .fail _
    · exact .read ReviewMove.refl fun _ _ _ _ =>
        .bind (.atomic fun _ _ _ _ h => ReviewMove.submitRetroReviewTx h) fun _ _ =>
          .atomic fun _ _ _ _ h => .other (Tx.sameOn h _ (by decide))
  | markRetroReviewsOverdue => exact ReviewMove.markOverdueRetroReviews
  | decideApproval a decision notes actor nonce =>
    refine .bind (.atomic fun _ _ _ _ h => ReviewMove.decideApprovalTx h) fun found _ => ?_
    split
    · exact .query _ ReviewMove.refl
    · exact .pure _
  | _ =>
    exact Op.follows_of_frame (C := retroCells) (fun _ _ _ => .other) _
      (by dsimp only [Op.cells]; decide) s

end RunbookPlatform
