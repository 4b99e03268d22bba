import RunbookPlatform.Reviews.Requests

/-!
# The cached status of the retro-reviews

A change keeps the blocking status that its reviews had when it was last written. The
recomputation writes it as it is then; three services write a constant, which is the status
unless it ranks below what is already there.

## Main definitions

- `RetroCached` — the cached status is the recomputed one at a time
- `keepsPriority` — no constant ranks below the status it replaces

## Main results

- `retro_status_cached` — the cached status is the recomputed one when it is written, and
  only time makes it late
-/

namespace RunbookPlatform

open Transactional

-- ════════════════════════════════════════════════════════════════════════
-- The status of a set of reviews
-- ════════════════════════════════════════════════════════════════════════

/-- The status depends on which reviews there are, not on their order. -/
theorem retroBlockingStatus_congr {now : Time} {reviews reviews' : List RetroReview}
    (h : ∀ r, r ∈ reviews' ↔ r ∈ reviews) :
    retroBlockingStatus now "" reviews' = retroBlockingStatus now "" reviews := by
  simp only [retroBlockingStatus_eq, h]

/-- A pending review that is not due makes the status pending, unless another ranks higher. -/
theorem retroBlockingStatus_add_pending {now : Time} {reviews reviews' : List RetroReview}
    {r : RetroReview} (hstatus : r.status = .pending) (hdue : now < r.dueAt)
    (h : ∀ x, x ∈ reviews' ↔ x = r ∨ x ∈ reviews)
    (hlow : retroBlockingStatus now "" reviews = "" ∨
      retroBlockingStatus now "" reviews = "pending") :
    retroBlockingStatus now "" reviews' = "pending" := by
  rw [retroBlockingStatus_eq] at hlow ⊢
  have hfails : r.isControlFailure = false := by simp [RetroReview.isControlFailure, hstatus]
  have hover : r.isOverdue now = false := by
    simp only [RetroReview.isOverdue, Bool.and_eq_false_iff, decide_eq_false_iff_not]
    exact .inr (Nat.not_le.2 hdue)
  split_ifs at hlow with h1 h2 h3
  · simp at hlow
  · simp at hlow
  all_goals
    rw [if_neg, if_neg, if_pos ⟨r, (h r).2 (.inl rfl), hstatus⟩]
    · rintro ⟨x, hx, hx2⟩
      rcases (h x).1 hx with rfl | hx
      · rw [hover] at hx2
        cases hx2
      · exact h2 ⟨x, hx, hx2⟩
    · rintro ⟨x, hx, hx1⟩
      rcases (h x).1 hx with rfl | hx
      · rw [hfails] at hx1
        cases hx1
      · exact h1 ⟨x, hx, hx1⟩

-- ════════════════════════════════════════════════════════════════════════
-- What a commit keeps
-- ════════════════════════════════════════════════════════════════════════

/-- The cached status of change `i` is what its reviews say at time `t`. -/
def RetroCached (t : Time) (s : Db) (i : ℕ) : Prop :=
  ∀ row, s.changes.get? i = some row →
    row.retroReviewBlockingStatus = retroBlockingStatus t "" (s.reviewsOf i)

/-- The change `i` keeps its retro-review columns and its reviews. -/
def SameReviews (i : ℕ) (s s' : Db) : Prop :=
  s'.retroOf i = s.retroOf i ∧ ∀ r, r ∈ s'.reviewsOf i ↔ r ∈ s.reviewsOf i

/-- Every review is about a change that exists. -/
def ReviewsOfChanges (s : Db) : Prop :=
  ∀ i r, s.retroReviews.get? i = some r → s.retroOf r.changeRecord ≠ none

/-- No commit writes a constant over a status that ranks above it: an activation finds no
control failure and nothing overdue, an approved override finds a pending review, and a change
is marked overdue when that is what its reviews say. -/
def keepsPriority : ServedAdmission := fun op n s =>
  (∀ c, n = .activateBreakglass c → retroBlockingStatus s.now "" (s.reviewsOf c) = "" ∨
    retroBlockingStatus s.now "" (s.reviewsOf c) = "pending") ∧
  (∀ e c, ApprovesSevere s op n e c →
    retroBlockingStatus s.now "" (s.reviewsOf c) = "pending") ∧
  ∀ c, n = .markReviewOverdue c → retroBlockingStatus s.now "" (s.reviewsOf c) = "overdue"

variable {s s' : Db} {op : Op} {n : TxName} {t : Time} {i : ℕ}

theorem retroCached_iff :
    RetroCached t s i ↔ ∀ required status, s.retroOf i = some (required, status) →
      status = retroBlockingStatus t "" (s.reviewsOf i) := by
  simp only [RetroCached, Db.retroOf, Option.map_eq_some_iff]
  constructor
  · rintro h required status ⟨row, hrow, hretro⟩
    simp only [ChangeRecord.retro, Prod.mk.injEq] at hretro
    exact hretro.2 ▸ h row hrow
  · intro h row hrow
    exact h row.retroReviewRequired _ ⟨row, hrow, rfl⟩

theorem SameReviews.cached (h : SameReviews i s s') (hcached : RetroCached t s i) :
    RetroCached t s' i := by
  rw [retroCached_iff] at hcached ⊢
  intro required status hretro
  rw [retroBlockingStatus_congr h.2]
  exact hcached required status (h.1 ▸ hretro)

theorem sameReviews_of_table (hretro : s'.retroOf i = s.retroOf i)
    (hreviews : s.retroReviews = s'.retroReviews) : SameReviews i s s' :=
  ⟨hretro, fun r => by simp only [Db.mem_reviewsOf, hreviews]⟩

/-- The columns of a change are written as `f` says, and those of the others kept. -/
theorem RetroEdited.cached {c : ℕ} {f : Bool × String → Bool × String}
    (h : RetroEdited c f s s') (hf : ∀ old, (f old).2 = retroBlockingStatus t "" (s'.reviewsOf c))
    (hothers : ∀ i, i ≠ c → ∀ r, r ∈ s'.reviewsOf i ↔ r ∈ s.reviewsOf i) (i : ℕ) :
    SameReviews i s s' ∨ RetroCached t s' i := by
  by_cases hi : i = c
  · subst hi
    refine .inr (retroCached_iff.2 fun required status hretro => ?_)
    rw [h i, if_pos rfl, Option.map_eq_some_iff] at hretro
    obtain ⟨old, -, hold⟩ := hretro
    rw [← hf old, hold]
  · exact .inl ⟨by rw [h i, if_neg hi], hothers i hi⟩

/-- **A commit** that keeps the priorities leaves each change as it was, or with its status
recomputed. -/
theorem ReviewMove.cached (hinv : ReviewsOfChanges s) (h : ReviewMove op n s s')
    (hadmitted : keepsPriority op n s) (i : ℕ) :
    SameReviews i s s' ∨ RetroCached s'.now s' i := by
  obtain ⟨hactivates, happroves, hlate⟩ := hadmitted
  cases h with
  | other hsame =>
    exact .inl (sameReviews_of_table (hsame .changeRetro (by decide) i).symm
      (hsame .retroReviews (by decide)))
  | tick _ _ _ hsame =>
    exact .inl (sameReviews_of_table (hsame .changeRetro (by decide) i).symm
      (hsame .retroReviews (by decide)))
  | create c hfresh hretro hsame =>
    have hreviews : s.retroReviews = s'.retroReviews := hsame .retroReviews (by decide)
    by_cases hi : i = c
    · subst hi
      -- no review is about the new change
      have hnone : s'.reviewsOf i = [] := List.eq_nil_iff_forall_not_mem.2 fun r hr => by
        obtain ⟨j, hj, rfl⟩ := Db.mem_reviewsOf.1 hr
        exact hinv j r (hreviews ▸ hj) hfresh
      refine .inr (retroCached_iff.2 fun required status hstatus => ?_)
      rw [hretro i, if_pos rfl, Option.some.injEq, Prod.mk.injEq] at hstatus
      rw [hnone, ← hstatus.2]
      rfl
    · exact .inl (sameReviews_of_table (by rw [hretro i, if_neg hi]) hreviews)
  | activate c r hname hchange hstatus hdue _ _ hreviews hretro hsame =>
    have hnow : s.now = s'.now := hsame .clock (by decide)
    have hmem : ∀ j x, x ∈ s'.reviewsOf j ↔ x = r ∧ j = c ∨ x ∈ s.reviewsOf j := by
      intro j x
      simp only [Db.mem_reviewsOf, hreviews, Table.get?_insert]
      constructor
      · rintro ⟨k, hk, rfl⟩
        split_ifs at hk with hlast
        · cases hk
          exact .inl ⟨rfl, hchange⟩
        · exact .inr ⟨k, hk, rfl⟩
      · rintro (⟨rfl, rfl⟩ | ⟨k, hk, rfl⟩)
        · exact ⟨_, if_pos rfl, hchange⟩
        · exact ⟨k, by rw [if_neg (Nat.ne_of_lt (Table.lt_next hk)), hk], rfl⟩
    rw [← hnow]
    refine hretro.cached (fun _ => ?_) (fun j hj x => by simp [hmem, hj]) i
    exact (retroBlockingStatus_add_pending hstatus hdue (by simp [hmem])
      (hactivates c hname)).symm
  | submit k r r' _ hpending hsubmitted hchange _ hreviews hretro hsame =>
    have hnow : s.now = s'.now := hsame .clock (by decide)
    rw [← hnow]
    refine hretro.cached (fun _ => rfl) (fun j hj x => ?_) i
    simp only [Db.mem_reviewsOf]
    constructor
    · rintro ⟨m, hm, rfl⟩
      rcases hreviews.cases hm with ⟨rfl, rfl⟩ | ⟨-, hold⟩
      · exact absurd hchange hj
      · exact ⟨m, hold, rfl⟩
    · rintro ⟨m, hm, rfl⟩
      have hmk : m ≠ k := by
        rintro rfl
        rw [hreviews.before] at hm
        cases hm
        exact hj rfl
      exact ⟨m, (hreviews.others m hmk).trans hm, rfl⟩
  | late c hname hretro hsame =>
    have hnow : s.now = s'.now := hsame .clock (by decide)
    have hreviews : s.retroReviews = s'.retroReviews := hsame .retroReviews (by decide)
    refine hretro.cached (fun _ => ?_) (fun j _ x => by simp only [Db.mem_reviewsOf, hreviews]) i
    rw [← hnow, Db.reviewsOf, ← hreviews]
    exact (hlate c hname).symm
  | severe e c happrove hretro hsame =>
    have hnow : s.now = s'.now := hsame .clock (by decide)
    have hreviews : s.retroReviews = s'.retroReviews := hsame .retroReviews (by decide)
    refine hretro.cached (fun _ => ?_) (fun j _ x => by simp only [Db.mem_reviewsOf, hreviews]) i
    rw [← hnow, Db.reviewsOf, ← hreviews]
    exact (happroves e c happrove).symm

/-- The columns of a change that exists are kept or written, and the change exists. -/
theorem RetroEdited.exists {c : ℕ} {f : Bool × String → Bool × String}
    (h : RetroEdited c f s s') (hi : s.retroOf i ≠ none) : s'.retroOf i ≠ none := by
  rw [h i]
  split_ifs
  · simpa using hi
  · exact hi

/-- **A commit** leaves every review about a change that exists. -/
theorem ReviewsOfChanges.step (hinv : ReviewsOfChanges s) (h : ReviewMove op n s s') :
    ReviewsOfChanges s' := by
  have hkept : (∀ j, s.retroOf j ≠ none → s'.retroOf j ≠ none) →
      s.retroReviews = s'.retroReviews → ReviewsOfChanges s' := by
    intro hretro htable j r hr
    exact hretro _ (hinv j r (htable ▸ hr))
  have hsame : SameOn [.changeRetro] s s' → ∀ j, s.retroOf j ≠ none → s'.retroOf j ≠ none := by
    intro hsame j hj
    have hretro : s.retroOf j = s'.retroOf j := hsame .changeRetro (by decide) j
    rwa [← hretro]
  cases h with
  | other h => exact hkept (hsame (h.mono (by decide))) (h .retroReviews (by decide))
  | tick _ _ _ h => exact hkept (hsame (h.mono (by decide))) (h .retroReviews (by decide))
  | create c _ hretro h =>
    refine hkept (fun j hj => ?_) (h .retroReviews (by decide))
    rw [hretro j]
    split_ifs
    · exact Option.some_ne_none _
    · exact hj
  | late c _ hretro h => exact hkept (fun _ => hretro.exists) (h .retroReviews (by decide))
  | severe _ c _ hretro h => exact hkept (fun _ => hretro.exists) (h .retroReviews (by decide))
  | activate c r _ hchange _ _ _ hexists hreviews hretro _ =>
    intro j x hx
    rw [hreviews, Table.get?_insert] at hx
    split_ifs at hx
    · cases hx
      exact hretro.exists (hchange ▸ hexists)
    · exact hretro.exists (hinv j x hx)
  | submit k r r' _ _ _ hchange _ hreviews hretro _ =>
    intro j x hx
    rcases hreviews.cases hx with ⟨rfl, rfl⟩ | ⟨-, hold⟩
    · rw [hchange]
      exact hretro.exists (hinv j r hreviews.before)
    · exact hretro.exists (hinv j x hold)

/-- The clock only goes on. -/
theorem ReviewMove.clock (h : ReviewMove op n s s') : s.now ≤ s'.now := by
  have hsame : SameOn [.clock] s s' → s.now ≤ s'.now := fun h =>
    Nat.le_of_eq (h .clock (by decide))
  cases h with
  | tick _ _ hnow _ => rw [hnow]; exact Nat.le_add_right _ _
  | other h | create _ _ _ h | late _ _ _ h | severe _ _ _ _ h => exact hsame (h.mono (by decide))
  | activate _ _ _ _ _ _ _ _ _ _ h | submit _ _ _ _ _ _ _ _ _ _ h => exact hsame h

-- ════════════════════════════════════════════════════════════════════════
-- Runs
-- ════════════════════════════════════════════════════════════════════════

theorem reviewsOfChanges {env : Env} {A : ServedAdmission} {c : ServedConf}
    (h : Serving env A c) : ReviewsOfChanges c.db :=
  h.invariant (I := ReviewsOfChanges) (Op.reviewMoves env)
    (by simp [ReviewsOfChanges, Db.initial]) fun _ _ _ _ hmove _ hinv => hinv.step hmove

/-- **The cached status** is the recomputed one as of some time, and as of now whenever a step
writes it or changes a review. -/
theorem retro_status_cached (env : Env) :
    (∀ c, Serving env keepsPriority c → ∀ i, ∃ t ≤ c.db.now, RetroCached t c.db i) ∧
      ∀ c c', Serving env keepsPriority c → ServedStep env keepsPriority c c' →
        ∀ i, SameReviews i c.db c'.db ∨ RetroCached c'.db.now c'.db i := by
  refine ⟨fun c h i => ?_, fun c c' h hs i => ?_⟩
  · suffices ReviewsOfChanges c.db ∧ ∀ i, ∃ t ≤ c.db.now, RetroCached t c.db i from this.2 i
    refine h.invariant (I := fun s => ReviewsOfChanges s ∧ ∀ i, ∃ t ≤ s.now, RetroCached t s i)
      (Op.reviewMoves env) (fun reference now => ⟨by simp [ReviewsOfChanges, Db.initial],
        fun i => ⟨now, Nat.le_refl _, by simp [RetroCached, Db.initial]⟩⟩) ?_
    intro op n s s' hmove hadmitted ⟨hinv, hcached⟩
    refine ⟨hinv.step hmove, fun i => ?_⟩
    rcases hmove.cached hinv hadmitted i with hsame | hnow
    · obtain ⟨t, ht, hold⟩ := hcached i
      exact ⟨t, Nat.le_trans ht hmove.clock, hsame.cached hold⟩
    · exact ⟨s'.now, Nat.le_refl _, hnow⟩
  · rcases h.cases (Op.reviewMoves env) hs with hdb | ⟨op, n, hmove, hadmitted⟩
    · exact .inl (sameReviews_of_table (by rw [hdb]) (by rw [hdb]))
    · exact hmove.cached (reviewsOfChanges h) hadmitted i

/-- A change with a breakglass session and its review. -/
def activatedRun : Db :=
  runOps .sample
    [.createChange .sample .sample, .submitChange 0 .sample "nonce",
      .activateBreakglass .sample .sample]
    (.initial (.sample .sample) 0)

/-- That change after the due date of the review. -/
def overdueRun : Db := runOps .sample [.tick (seconds 86400)] activatedRun

/-- Time makes a review overdue before anything marks its change. -/
theorem retro_status_late : ¬∀ (env : Env) (c : ServedConf), Serving env anyServed c →
    ∀ i, RetroCached c.db.now c.db i := by
  intro h
  have hlate : (overdueRun.changes.get? 0).any (·.retroReviewBlockingStatus ≠
      retroBlockingStatus overdueRun.now "" (overdueRun.reviewsOf 0)) = true := by decide +kernel
  obtain ⟨row, hrow, hstatus⟩ := (Option.any_eq_true _ _).1 hlate
  have hserving : Serving .sample anyServed ⟨overdueRun, []⟩ :=
    ((Serving.initial _ _).runOps _).runOps _
  exact of_decide_eq_true hstatus (h .sample _ hserving 0 row hrow)

/-- The request keeps the priorities from `s`, as far as the names of its commits say. -/
def keepsPriorityFrom (env : Env) (op : Op) (s : Db) : Bool :=
  ((op.prog env).commits s).all fun commit =>
    match commit.name with
    | .activateBreakglass c =>
      retroBlockingStatus commit.before.now "" (commit.before.reviewsOf c) == ""
    | .markReviewOverdue _ => false
    | _ => true

theorem meets_keepsPriority {env : Env} {op : Op} {s : Db}
    (hop : ∀ n s e c, ¬ApprovesSevere s op n e c) (h : keepsPriorityFrom env op s = true) :
    (op.prog env).Meets (keepsPriority op) s := by
  intro commit hcommit
  have hnow := List.all_eq_true.1 h commit hcommit
  refine ⟨fun c hc => .inl ?_, fun e c happroves => absurd happroves (hop _ _ e c), fun c hc => ?_⟩
  · rw [hc] at hnow
    exact eq_of_beq hnow
  · rw [hc] at hnow
    cases hnow

/-- The status of the activated change is cached. -/
theorem retro_status_cached_activated :
    ∃ t ≤ activatedRun.now, RetroCached t activatedRun 0 := by
  have hkeeps : keepsPriorityFrom .sample (.createChange .sample .sample)
        (.initial (.sample .sample) 0) = true ∧
      keepsPriorityFrom .sample (.submitChange 0 .sample "nonce")
        (runOps .sample [.createChange .sample .sample] (.initial (.sample .sample) 0)) = true ∧
      keepsPriorityFrom .sample (.activateBreakglass .sample .sample)
        (runOps .sample [.createChange .sample .sample, .submitChange 0 .sample "nonce"]
          (.initial (.sample .sample) 0)) = true := by decide +kernel
  rw [runOps, runOps, runOps, runOps, runOps] at hkeeps
  have hrun : Serving .sample keepsPriority ⟨activatedRun, []⟩ := by
    rw [activatedRun, runOps, runOps, runOps, runOps]
    exact (((Serving.initial _ _).exec (.createChange .sample .sample)
      (meets_keepsPriority (fun _ _ _ _ h => by cases h) hkeeps.1)).exec
      (.submitChange 0 .sample "nonce")
      (meets_keepsPriority (fun _ _ _ _ h => by cases h) hkeeps.2.1)).exec
      (.activateBreakglass .sample .sample)
      (meets_keepsPriority (fun _ _ _ _ h => by cases h) hkeeps.2.2)
  have hcached := (retro_status_cached .sample).1 _ hrun 0
  dsimp only at hcached
  exact hcached

end RunbookPlatform
