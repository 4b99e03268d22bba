import RunbookPlatform.Reviews.Closings

/-!
# The gate before a closure

A change that closes owes no review, when its settlement is asked for the same as its closure.

## Main definitions

- `closesReviewed` — no settlement closes a change that owes a review, and no closure finds a
  session to review without its pending review

## Main results

- `closures_reviewed` — no change closes that owes a review
-/

namespace RunbookPlatform

open Transactional

/-- A breakglass session of change `i` waits for its review, or will once its expiry is saved. -/
def SessionToReview (i : ℕ) (s : Db) : Prop :=
  ∃ b session, s.sessions.get? b = some session ∧ session.changeRecord = i ∧
    (session.reviewStatus ≠ .submitted ∨ session.status = .active ∧ session.expiresAt ≤ s.now)

/-- No settlement closes a change that owes a review, and `close_change` finds a session to
review only beside a pending review. -/
def closesReviewed (env : Env) : ServedAdmission := fun op n s =>
  (∀ i, n = .closeChange i → SessionToReview i s → ReviewPending i s) ∧
    ∀ i, Settles s n i → SettlementCloses env op.outcome i s → ¬OwesReview i s

/-- A change with a pending review requires reviews. -/
def PendingRequired (s : Db) : Prop :=
  ∀ i r, s.retroReviews.get? i = some r → r.status = .pending →
    ∃ status, s.retroOf r.changeRecord = some (true, status)

variable {env : Env} {op : Op} {n : TxName} {s s' : Db}

/-- A change goes on requiring reviews when its columns are written with what they were, or with
the requirement. -/
theorem RetroEdited.required {c i : ℕ} {f : Bool × String → Bool × String} (h : RetroEdited c f s s')
    (hf : ∀ old : Bool × String, old.1 = true → (f old).1 = true) {status : String}
    (hi : s.retroOf i = some (true, status)) : ∃ status', s'.retroOf i = some (true, status') := by
  rw [h i]
  split_ifs
  · rw [hi, Option.map_some]
    exact ⟨_, congrArg some (Prod.ext (hf (true, status) rfl) rfl)⟩
  · exact ⟨status, hi⟩

/-- **A commit** leaves every change with a pending review requiring it. -/
theorem PendingRequired.step (hinv : PendingRequired s) (h : ReviewMove op n s s') :
    PendingRequired s' := by
  have hkept : s.retroReviews = s'.retroReviews →
      (∀ i status, s.retroOf i = some (true, status) → ∃ status', s'.retroOf i = some (true, status')) →
        PendingRequired s' := by
    intro htable hretro i r hr hpending
    obtain ⟨status, hstatus⟩ := hinv i r (htable ▸ hr) hpending
    exact hretro _ status hstatus
  have hsame : SameOn [.retroReviews, .changeRetro] s s' → PendingRequired s' := by
    intro hsame
    refine hkept (hsame .retroReviews (by decide)) fun i status hstatus => ⟨status, ?_⟩
    have hretro : s.retroOf i = s'.retroOf i := hsame .changeRetro (by decide) i
    rwa [← hretro]
  cases h with
  | other h => exact hsame (h.mono (by decide))
  | tick _ _ _ h => exact hsame h
  | create c hfresh hretro h =>
    refine hkept (h .retroReviews (by decide)) fun i status hstatus => ⟨status, ?_⟩
    rw [hretro i, if_neg fun hi => ?_]
    · exact hstatus
    · rw [hi, hfresh] at hstatus
      cases hstatus
  | late c _ hretro h =>
    exact hkept (h .retroReviews (by decide)) fun i status => hretro.required fun _ h => h
  | severe _ c _ hretro h =>
    exact hkept (h .retroReviews (by decide)) fun i status => hretro.required fun _ _ => rfl
  | activate c r _ hchange _ _ _ hexists hreviews hretro _ =>
    intro i x hx hpending
    rw [hreviews, Table.get?_insert] at hx
    split_ifs at hx
    · cases hx
      obtain ⟨old, hold⟩ := Option.ne_none_iff_exists'.1 hexists
      rw [hretro, if_pos hchange, hchange, hold]
      exact ⟨_, rfl⟩
    · obtain ⟨status, hstatus⟩ := hinv i x hx hpending
      exact hretro.required (fun _ _ => rfl) hstatus
  | submit k r r' _ _ hsubmitted _ _ hreviews hretro _ =>
    intro i x hx hpending
    rcases hreviews.cases hx with ⟨rfl, rfl⟩ | ⟨-, hold⟩
    · rw [hsubmitted] at hpending
      cases hpending
    · obtain ⟨status, hstatus⟩ := hinv i x hold hpending
      exact hretro.required (fun _ h => h) hstatus

theorem pendingRequired {A : ServedAdmission} {c : ServedConf} (h : Serving env A c) :
    PendingRequired c.db :=
  h.invariant (I := PendingRequired) (Op.reviewMoves env) (by simp [PendingRequired, Db.initial])
    fun _ _ _ _ hmove _ hinv => hinv.step hmove

/-- **A commit** that closes a change finds and leaves it without a review to submit. -/
theorem CloseMove.reviewed (hrequired : PendingRequired s) (h : CloseMove env op n s s')
    (hadmitted : closesReviewed env op n s) {i : ℕ} (hclosed : s'.ChangeIn .closed i) :
    s.ChangeIn .closed i ∨ ¬OwesReview i s ∧ ¬OwesReview i s' := by
  cases h with
  | other hkept => exact .inl (hkept i hclosed)
  | settle j hsettles hcloses halone hreviews hsessions =>
    rcases halone i hclosed with rfl | hold
    · have hdone := hadmitted.2 i hsettles hcloses
      exact .inr ⟨hdone, fun howes => hdone (hsessions.owes hreviews howes)⟩
    · exact .inl hold
  | close j row hname hrow hallowed halone hsame =>
    rcases halone i hclosed with rfl | hold
    · -- nothing is pending, or the closure would have been blocked
      have hpending : ¬ReviewPending i s := by
        rintro ⟨r, hr, hpending⟩
        obtain ⟨k, hk, hchange⟩ := Db.mem_reviewsOf.1 hr
        obtain ⟨status, hstatus⟩ := hrequired k r hk hpending
        rw [hchange, Db.retroOf, hrow, Option.map_some, Option.some.injEq] at hstatus
        exact not_pending_of_closureBlockers
          (hallowed (congrArg Prod.fst hstatus)) r hr hpending
      have hsessions : ¬SessionToReview i s := fun h => hpending (hadmitted.1 i hname h)
      refine .inr ⟨?_, ?_⟩
      · rintro (h | ⟨b, session, hsession, hchange, hreview⟩)
        · exact hpending h
        · exact hsessions ⟨b, session, hsession, hchange, .inl hreview⟩
      · rintro (⟨r, hr, h⟩ | ⟨b, session', hsession', hchange', hreview'⟩)
        · have htable : s.retroReviews = s'.retroReviews := hsame .retroReviews (by decide)
          exact hpending ⟨r, by rwa [Db.reviewsOf, htable], h⟩
        · -- the session was there, and its review was not lost by an expiry
          obtain ⟨session, hsession, hchange⟩ : ∃ session, s.sessions.get? b = some session ∧
              session.changeRecord = i := by
            rcases hsame .sessionRows (by decide) b with h | ⟨old, new, hold, hnew, hevolves⟩
            · exact ⟨session', h ▸ hsession', hchange'⟩
            · rw [hsession'] at hnew
              cases hnew
              exact ⟨old, hold, (BreakglassSession.changeRecord_of_identity hevolves.identity) ▸ hchange'⟩
          obtain ⟨later, hlater, hreviewed⟩ := (hsame .sessionReviews (by decide)).2 b session hsession
          rw [hsession'] at hlater
          cases hlater
          have hnow : s.now = s'.now := hsame .clock (by decide)
          by_cases hsubmitted : session.reviewStatus = .submitted
          · rcases hreviewed.submitted hsubmitted with h | ⟨hactive, hover⟩
            · exact hreview' h
            · exact hsessions ⟨b, session, hsession, hchange, .inr ⟨hactive, hnow ▸ hover⟩⟩
          · exact hsessions ⟨b, session, hsession, hchange, .inl hsubmitted⟩
    · exact .inl hold

/-- **A change that closes** owes no review, before and after. -/
theorem closures_reviewed {c c' : ServedConf} (h : Serving env anyServed c)
    (hs : ServedStep env (closesReviewed env) c c') {i : ℕ} (hclosed : c'.db.ChangeIn .closed i) :
    c.db.ChangeIn .closed i ∨ ¬OwesReview i c.db ∧ ¬OwesReview i c'.db := by
  rcases (h.good (Op.closeMoves env)).cases hs with hdb | ⟨⟨op, n⟩, hmove, hadmitted⟩
  · exact .inl (hdb ▸ hclosed)
  · exact hmove.reviewed (pendingRequired h) hadmitted hclosed

/-- A change whose execution runs. -/
def runningRun : Db := runOps .sample boundOps (.initial (.sample .sample) 0)

/-- The same, with a breakglass session. -/
def reviewedRun : Db := runOps .sample [.activateBreakglass .sample .sample] runningRun

theorem serving_running : Serving .sample anyServed ⟨runningRun, []⟩ :=
  (Serving.initial (.sample .sample) 0).runOps boundOps

/-- The report of a failure, up to the settlement of the change. -/
def failing (s : Db) : Prog Db Err (Op × TxName) allCells Unit × Db :=
  ((Op.completeExecution 0 .sample .failed).served .sample).advance 9 s

theorem serving_failing {s : Db} (h : Serving .sample anyServed ⟨s, []⟩) :
    Serving .sample anyServed ⟨(failing s).2, [(failing s).1]⟩ :=
  h.advance (.completeExecution 0 .sample .failed)
    (Prog.Meets.of_forall (fun _ _ => trivial) _ _) 9

/-- The settlement closes a change with a pending review. -/
theorem closure_not_reviewed : ¬∀ (env : Env) (c c' : ServedConf), Serving env anyServed c →
    ServedStep env anyServed c c' → ∀ i, c'.db.ChangeIn .closed i →
      c.db.ChangeIn .closed i ∨ ¬OwesReview i c.db ∧ ¬OwesReview i c'.db := by
  intro h
  have hrun : ((failing reviewedRun).1.next? (failing reviewedRun).2).any (fun (_, s') =>
      (s'.changes.get? 0).any (·.status = .closed)) = true ∧
      ((failing reviewedRun).2.changes.get? 0).all (·.status ≠ .closed) = true ∧
      ((failing reviewedRun).2.retroReviews.get? 0).any
        (fun r => r.changeRecord = 0 && r.status = .pending) = true := by decide +kernel
  obtain ⟨hnext, hopen, hpending⟩ := hrun
  have hserving := serving_failing (serving_running.runOps [.activateBreakglass .sample .sample])
  change Serving .sample anyServed ⟨(failing reviewedRun).2, [(failing reviewedRun).1]⟩ at hserving
  obtain ⟨p, hp⟩ : ∃ p, p = failing reviewedRun := ⟨_, rfl⟩
  rw [← hp] at hnext hopen hpending hserving
  obtain ⟨⟨n, s'⟩, hnext, hclosed⟩ := (Option.any_eq_true _ _).1 hnext
  obtain ⟨row, hrow, hstatus⟩ := (Option.any_eq_true _ _).1 hclosed
  obtain ⟨p', hcommit⟩ : ∃ p', Serves anyServed n.1 n.2 ⟨p.2, [p.1]⟩ ⟨s', [p']⟩ :=
    Conf.Commits.of_next hnext trivial
  rcases h .sample _ _ hserving hcommit.step 0 ⟨row, hrow, of_decide_eq_true hstatus⟩ with
    ⟨old, hold, hclosed⟩ | ⟨hdone, -⟩
  · exact of_decide_eq_true ((Option.all_eq_true _ _).1 hopen old hold) hclosed
  · obtain ⟨r, hr, hreview⟩ := (Option.any_eq_true _ _).1 hpending
    simp only [Bool.and_eq_true, decide_eq_true_eq] at hreview
    exact hdone (.inl ⟨r, Db.mem_reviewsOf.2 ⟨0, hr, hreview.1⟩, hreview.2⟩)

/-- A change without reviews closes when its execution fails. -/
theorem closures_reviewed_running : ∃ s', s'.ChangeIn .closed 0 ∧
    ((failing runningRun).2.ChangeIn .closed 0 ∨ ¬OwesReview 0 (failing runningRun).2 ∧
      ¬OwesReview 0 s') := by
  have hrun : ((failing runningRun).1.next? (failing runningRun).2).any (fun (_, s') =>
      (s'.changes.get? 0).any (·.status = .closed)) = true ∧
      (failing runningRun).2.retroReviews.rows = [] ∧
      (failing runningRun).2.sessions.rows = [] := by decide +kernel
  obtain ⟨hnext, hreviews, hsessions⟩ := hrun
  have hserving := serving_failing serving_running
  obtain ⟨p, hp⟩ : ∃ p, p = failing runningRun := ⟨_, rfl⟩
  rw [← hp] at hnext hreviews hsessions hserving ⊢
  obtain ⟨⟨⟨op, n⟩, s'⟩, hnext, hclosed⟩ := (Option.any_eq_true _ _).1 hnext
  obtain ⟨row, hrow, hstatus⟩ := (Option.any_eq_true _ _).1 hclosed
  have hadmitted : closesReviewed .sample op n p.2 := by
    refine ⟨fun i _ h => ?_, fun i _ _ h => ?_⟩
    · obtain ⟨b, session, hsession, -⟩ := h
      simp [Table.get?, hsessions] at hsession
    · rcases h with ⟨r, hr, -⟩ | ⟨b, session, hsession, -⟩
      · obtain ⟨k, hk, -⟩ := Db.mem_reviewsOf.1 hr
        simp [Table.get?, hreviews] at hk
      · simp [Table.get?, hsessions] at hsession
  obtain ⟨p', hcommit⟩ : ∃ p', Serves (closesReviewed .sample) op n ⟨p.2, [p.1]⟩ ⟨s', [p']⟩ :=
    Conf.Commits.of_next hnext hadmitted
  have hstatus' : s'.ChangeIn .closed 0 := ⟨row, hrow, of_decide_eq_true hstatus⟩
  exact ⟨s', hstatus', closures_reviewed hserving hcommit.step hstatus'⟩

end RunbookPlatform
