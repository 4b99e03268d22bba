import RunbookPlatform.Emergency.Sessions

/-!
# Breakglass sessions by the clock of the server

Many requests expire the sessions of a change on their way. Each of them compares the deadlines
with the clock of the database, except for the breakglass heartbeat, which may bring a time of
its own.

## Main definitions

- `BreakglassSession.Timely` — a session expires, and its review is overdue, only when it is time
- `OnServerTime` — what a request may do to the sessions
- `OnTime` — the states in which what is expired or overdue is so by the clock

## Main results

- `OnServerTime.expireBreakglassSessions` — an expiry is timely at a time that has come
- `Op.onServerTime` — so is every request other than the breakglass heartbeat
-/

namespace RunbookPlatform

open Transactional

set_option synthInstance.maxSize 1000

/-- A session is `later` at the time `now`: what was not expired before is only expired from its
end on, and a review that was not overdue is only overdue from its due date on. -/
structure BreakglassSession.Timely (now : Time) (old : Option BreakglassSession)
    (later : BreakglassSession) : Prop where
  expired : later.status = .expired →
    later.expiresAt ≤ now ∨ ∃ b ∈ old, b.status = .expired ∧ b.expiresAt = later.expiresAt
  overdue : later.reviewStatus = .overdue →
    later.reviewDueAt ≤ now ∨ ∃ b ∈ old, b.reviewStatus = .overdue ∧ b.reviewDueAt = later.reviewDueAt

/-- The clock does not go back, no session expires before its end, and no review is overdue before
its due date. -/
structure OnServerTime (s s' : Db) : Prop where
  clock : s.now ≤ s'.now
  sessions : ∀ i later, s'.sessions.get? i = some later → later.Timely s'.now (s.sessions.get? i)

/-- Whatever is expired or overdue is so by the clock. -/
structure OnTime (s : Db) : Prop where
  expired : ∀ i b, s.sessions.get? i = some b → b.status = .expired → b.expiresAt ≤ s.now
  overdue : ∀ i b, s.sessions.get? i = some b → b.reviewStatus = .overdue → b.reviewDueAt ≤ s.now

/-- The cells that a comparison with the clock is about: the clock, and the deadlines. -/
@[reducible] def deadlineCells : List Cell := [.clock, .sessionRows]

namespace OnServerTime

variable {s s' : Db} {H W : List Cell} {α : Type}

theorem refl (s : Db) : OnServerTime s s :=
  ⟨le_rfl, fun _ later h => ⟨fun hexpired => .inr ⟨later, h, hexpired, rfl⟩,
    fun hoverdue => .inr ⟨later, h, hoverdue, rfl⟩⟩⟩

theorem trans {s1 : Db} (h1 : OnServerTime s s1) (h2 : OnServerTime s1 s') : OnServerTime s s' := by
  refine ⟨h1.clock.trans h2.clock, fun i later hlater => ⟨fun hexpired => ?_, fun hoverdue => ?_⟩⟩
  · rcases (h2.sessions i later hlater).expired hexpired with hover | ⟨b, hb, hexpired, hend⟩
    · exact .inl hover
    · rw [← hend]
      exact ((h1.sessions i b hb).expired hexpired).imp_left fun hover => hover.trans h2.clock
  · rcases (h2.sessions i later hlater).overdue hoverdue with hover | ⟨b, hb, hoverdue, hdue⟩
    · exact .inl hover
    · rw [← hdue]
      exact ((h1.sessions i b hb).overdue hoverdue).imp_left fun hover => hover.trans h2.clock

instance : IsPreorder Db OnServerTime where
  refl := refl
  trans _ _ _ := trans

/-- The states stay on time. -/
theorem onTime (h : OnServerTime s s') (hs : OnTime s) : OnTime s' := by
  refine ⟨fun i b hb hexpired => ?_, fun i b hb hoverdue => ?_⟩
  · rcases (h.sessions i b hb).expired hexpired with hover | ⟨old, hold, hwas, hend⟩
    · exact hover
    · exact hend ▸ (hs.expired i old hold hwas).trans h.clock
  · rcases (h.sessions i b hb).overdue hoverdue with hover | ⟨old, hold, hwas, hdue⟩
    · exact hover
    · exact hdue ▸ (hs.overdue i old hold hwas).trans h.clock

theorem quiet (h : SameOn [.clock, .sessions] s s') : OnServerTime s s' := by
  have hclock : s.now = s'.now := h .clock (by decide)
  have hsessions : s.sessions = s'.sessions := h .sessions (by decide)
  refine ⟨hclock.le, fun i later hlater => ?_⟩
  rw [hsessions, hlater]
  exact ⟨fun hexpired => .inr ⟨later, rfl, hexpired, rfl⟩,
    fun hoverdue => .inr ⟨later, rfl, hoverdue, rfl⟩⟩

/-- The session that is saved becomes what it may at this time. -/
theorem save {i : ℕ} {f : BreakglassSession → BreakglassSession}
    (hf : ∀ b, s.sessions.get? i = some b → (f b).Timely s.now (some b)) :
    OnServerTime s { s with sessions := s.sessions.modify i f } := by
  refine ⟨le_rfl, fun j later hlater => ?_⟩
  by_cases hj : j = i
  · subst hj
    rw [Table.get?_modify, if_pos rfl] at hlater
    obtain ⟨b, hb, rfl⟩ := Option.map_eq_some_iff.1 hlater
    rw [hb]
    exact hf b hb
  · have hsame := hlater
    rw [Table.get?_modify_of_ne hj] at hsame
    exact (refl s).sessions j later hsame

/-- **Frame rule** for transactions. -/
theorem frame (t : Service W α) (hdisj : ∀ c ∈ [Cell.clock, .sessions], c ∉ W) :
    t.Follows OnServerTime :=
  (Tx.Follows.sameOn t hdisj).mono fun _ _ => quiet

theorem of_sameOn {t : Service W α} (h : t.Follows (SameOn [.clock, .sessions])) :
    t.Follows OnServerTime :=
  h.mono fun _ _ => quiet

/-- **Frame rule** for handlers. -/
theorem handler (p : Handler W α) (hdisj : ∀ c ∈ [Cell.clock, .sessions], c ∉ W) :
    p.Follows deadlineCells (fun _ => OnServerTime) s :=
  .frame hdisj (fun _ _ _ => quiet) p s

/-- **Frame rule** for atomic blocks. -/
theorem atomic {V : List Cell} [Within V W] (n : TxName) (t : Service V α)
    (hdisj : ∀ c ∈ [Cell.clock, .sessions], c ∉ V) :
    (Prog.atomic n t : Handler W α).Follows deadlineCells (fun _ => OnServerTime) s :=
  .atomic fun _ _ _ _ h => quiet (Tx.sameOn h _ hdisj)

end OnServerTime

-- ════════════════════════════════════════════════════════════════════════
-- Expiry
-- ════════════════════════════════════════════════════════════════════════

theorem BreakglassSession.Evolves.reviewDueAt {a b : BreakglassSession} (h : a.Evolves b) :
    b.reviewDueAt = a.reviewDueAt := by
  have hid := h.identity
  simp only [BreakglassSession.identity, Prod.mk.injEq] at hid
  exact hid.2.2.2.2

/-- A session that was read before has the same deadlines. -/
theorem deadlines_of_sameOn {s s' : Db} (h : SameOn deadlineCells s s') {i : ℕ}
    {row b : BreakglassSession} (hrow : s.sessions.get? i = some row)
    (hb : s'.sessions.get? i = some b) :
    b.expiresAt = row.expiresAt ∧ b.reviewDueAt = row.reviewDueAt := by
  rcases h .sessionRows (by decide) i with hsame | ⟨old, new, hold, hnew, hevolves⟩
  · rw [hsame, hrow] at hb
    cases hb
    exact ⟨rfl, rfl⟩
  · rw [hrow] at hold
    rw [hb] at hnew
    cases hold
    cases hnew
    exact ⟨hevolves.expiresAt, hevolves.reviewDueAt⟩

/-- What the clock said has come. -/
theorem timezoneNow_le {s : Db} {now : Time} (h : timezoneNow s = .ok now) : now ≤ s.now := by
  rw [timezoneNow, select_ok] at h
  exact h.ge

namespace OnServerTime

variable {s s' : Db} {W : List Cell} {α : Type}

/-- **An expiry** is timely at a time that has come. -/
theorem expireBreakglassSessions (change : Option ℕ) {now : Time} (hnow : now ≤ s.now) :
    (expireBreakglassSessions change now).Follows deadlineCells (fun _ => OnServerTime) s := by
  refine .read refl fun s1 stale h1 hread => .forEachLater (by decide) _ _
    fun ⟨i, row⟩ hmem s2 h2 => .bind (.atomic fun s3 h3 u s4 h4 => ?_) fun _ s3 =>
      atomic _ _ (by decide)
  rw [select_ok] at hread
  subst hread
  obtain ⟨hrow, htest⟩ := mem_rowsWhere.1 hmem
  simp only [Bool.and_eq_true, decide_eq_true_eq] at htest
  obtain rfl := saveSession_ok.1 h4
  have hclock : s.now = s3.now := ((h1.trans h2).trans h3) .clock (by decide)
  refine save fun b hb => ?_
  obtain ⟨hend, hdue⟩ := deadlines_of_sameOn (h2.trans h3) hrow hb
  refine ⟨fun _ => .inl ?_, fun hoverdue => .inl ?_⟩
  · calc b.expiresAt = row.expiresAt := hend
      _ ≤ now := htest.1.2
      _ ≤ s3.now := hclock ▸ hnow
  · have hover : row.reviewDueAt ≤ now := by
      by_contra hnot
      simp [expireSession, hnot] at hoverdue
    calc b.reviewDueAt = row.reviewDueAt := hdue
      _ ≤ now := hover
      _ ≤ s3.now := hclock ▸ hnow

/-- The expiry of a change's emergency state. -/
theorem enforceEmergencyExpiryForChange (c : ℕ) {now : Time} (hnow : now ≤ s.now) :
    (enforceEmergencyExpiryForChange c now).Follows deadlineCells (fun _ => OnServerTime) s := by
  refine .bindLater (by decide) (.widen (handler _ (by decide))) fun _ s1 h1 => .widen ?_
  have hclock : s.now = s1.now := h1 .clock (by decide)
  exact expireBreakglassSessions _ (hclock ▸ hnow)

theorem sweepSessions (c : ℕ) : (sweepSessions c).Follows OnServerTime := fun _ u s' h =>
  Tx.FollowsFrom.ofProg (expireBreakglassSessions (some c) le_rfl) u s' (sweepSessions_ok.1 h)

theorem sweepEmergency (c : ℕ) : (sweepEmergency c).Follows OnServerTime := fun _ u s' h =>
  Tx.FollowsFrom.ofProg (enforceEmergencyExpiryForChange c le_rfl) u s' (sweepEmergency_ok.1 h)

/-- A session that is ended by hand is not expired. -/
theorem endBreakglass (session : Loaded BreakglassSession) (actor : AuditActor) (reason : String)
    (user : Option String) : (endBreakglass session actor reason user).Follows deadlineCells
      (fun _ => OnServerTime) s := by
  refine .read refl fun _ _ _ _ => .read refl fun _ now _ _ =>
    .bind (.atomic fun s3 _ u s4 h => ?_) fun _ _ => atomic _ _ (by decide)
  obtain rfl := saveSession_ok.1 h
  refine save fun b _ => ⟨fun hexpired => ?_, fun hoverdue => .inr ⟨b, rfl, hoverdue, rfl⟩⟩
  cases hexpired

theorem endSessions (c : ℕ) (reason : String) (actor : AuditActor) :
    (endSessions c reason actor).Follows OnServerTime :=
  Tx.Follows.ofProg (p := endActiveBreakglassSessionsForChange c reason actor) fun _ =>
    .read refl fun s1 active _ _ => .forEach (fun session _ =>
      endBreakglass session actor reason none) active s1

-- ════════════════════════════════════════════════════════════════════════
-- Transactions
-- ════════════════════════════════════════════════════════════════════════

variable {env : Env}

theorem freshOrNewPreflight (c : ℕ) (now : Time) (actor : AuditActor) :
    (freshOrNewPreflight env c now actor).Follows OnServerTime := by
  refine .bind (.query _) fun fresh => ?_
  cases fresh with
  | some check => exact .pure _
  | none =>
    exact Tx.Follows.ofProg (p := RunbookPlatform.runDispatchPreflight env c (some actor)) fun _ =>
      .read refl fun _ now _ hnow =>
        .bind (.widen (enforceEmergencyExpiryForChange c (timezoneNow_le hnow))) fun _ _ =>
          .widen (handler _ (by decide))

theorem passDispatchGates (c : ℕ) (row : ChangeRecord) (now : Time) (actor : AuditActor) :
    (passDispatchGates env c row now actor).Follows OnServerTime :=
  .bind (.query _) fun _ => .bind (.widen (sweepEmergency c)) fun _ => .bind (.query _) fun _ =>
    .bind (.query _) fun _ => .bind (.lift (frame _ (by decide))) fun _ =>
    .lift (.bind (freshOrNewPreflight c now actor) fun _ => .bind (.query _) fun _ => .pure _)

theorem makeDispatchable (c : ℕ) (actor : AuditActor) (nonce : String) :
    (makeDispatchable env c actor nonce).Follows OnServerTime :=
  .bind (.query _) fun row => .bind (.query _) fun now =>
    .bind (.lift (passDispatchGates c row now actor)) fun _ =>
    .bind (.query _) fun _ => .bind (.query _) fun _ => .bind (.query _) fun _ =>
    .bind (.query _) fun _ => .bind (.lift (frame _ (by decide))) fun _ =>
    .bind (.lift (frame _ (by decide))) fun _ => .bind (.lift (frame _ (by decide))) fun _ =>
    .bind (.lift (frame _ (by decide))) fun _ => .lift (frame _ (by decide))

theorem scheduleOrMakeDispatchable (c : ℕ) (actor : AuditActor) (nonce : String) :
    (scheduleOrMakeDispatchable env c actor nonce).Follows OnServerTime := by
  refine .bind (.query _) fun row => .bind (.query _) fun _ => .bind (.query _) fun _ =>
    .bind (.query _) fun now => ?_
  split
  · exact .bind (.lift (frame _ (by decide))) fun _ => .pure _
  · exact .lift (makeDispatchable c actor nonce)

theorem submitChangeRecord (c : ℕ) (actor : AuditActor) (nonce : String) :
    (submitChangeRecord env c actor nonce).Follows OnServerTime := by
  refine .bind (.query _) fun row => .bind (.query _) fun (profile, frozen) =>
    .bind (.lift (frame _ (by decide))) fun _ => ?_
  dsimp only
  split
  · exact .bind (.lift (frame _ (by decide))) fun _ => .bind (.lift (frame _ (by decide))) fun _ =>
      .bind (.lift (frame _ (by decide))) fun _ => .lift (frame _ (by decide))
  · exact .bind (.lift (frame _ (by decide))) fun _ => .bind (.lift (frame _ (by decide))) fun _ =>
      .lift (scheduleOrMakeDispatchable c actor nonce)

theorem promoteScheduledChange (c : ℕ) (now : Time) (nonce : String) :
    (promoteScheduledChange env c now nonce).Follows OnServerTime := by
  refine .bind (.query _) fun row => ?_
  split
  · exact makeDispatchable c changeService nonce
  · exact .pure _

theorem decideApprovalTx (a : ℕ) (decision : HumanDecision) (notes : String) (actor : AuditActor)
    (nonce : String) : (decideApprovalTx env a decision notes actor nonce).Follows OnServerTime := by
  refine .bind (.query _) fun request => .bind (.query _) fun now => ?_
  split
  · exact .bind (.widen (frame _ (by decide))) fun _ => .pure _
  · refine .bind (.query _) fun _ => .bind ?_ fun severe => .bind (.lift (frame _ (by decide))) fun _ =>
      .bind (of_sameOn (insertUnique_follows _ _ _ (by decide))) fun row =>
      .bind (.lift (frame _ (by decide))) fun _ => .bind ?_ fun _ => .pure severe
    · unfold decideException
      split
      · exact .widen (frame _ (by decide))
      · exact .pure _
    · unfold decideChange
      split
      · refine .widen (.bind (.query _) fun c => .bind (.query _) fun now => ?_)
        cases decision with
        | approved =>
          exact .bind (.lift (frame _ (by decide))) fun _ =>
            .lift (scheduleOrMakeDispatchable c actor nonce)
        | rejected => exact .bind (.lift (frame _ (by decide))) fun _ => .pure _
      · exact .pure _

theorem submitVerificationResultTx (req : ResultRequest) (submittedAt : Time) (actor : AuditActor) :
    (submitVerificationResultTx env req submittedAt actor).Follows OnServerTime := by
  refine .bind (.query _) fun change => .bind (.query _) fun profile => .bind (.query _) fun now =>
    .bind (.widen (sweepEmergency req.change)) fun _ =>
    .bind (.query _) fun found => .bind (.query _) fun (plan, planRow) => .bind (.query _)
    fun checks => .bind (.query _) fun check => .bind (.query _) fun artifact => .bind (.query _)
    fun errors => .bind (.query _) fun _ =>
    .bind (of_sameOn (insertRow_follows _ _ (by decide))) fun result => ?_
  split
  · exact .bind (.lift (frame _ (by decide))) fun _ => .bind (.lift (frame _ (by decide))) fun _ =>
      .bind (.lift (frame _ (by decide))) fun _ => .pure _
  · exact .bind (.lift (frame _ (by decide))) fun _ => .pure _

theorem closeChangeTx (req : CloseRequest) (outcome : ClosureOutcome) (actor : AuditActor) :
    (closeChangeTx req outcome actor).Follows OnServerTime :=
  .bind (.query _) fun row => .bind (.widen (sweepEmergency req.change)) fun _ =>
    .bind (.query _) fun _ => .bind (.query _) fun _ => .bind (.query _) fun _ =>
    .bind (.query _) fun _ => .bind (.query _) fun (plan, _) => .bind (.query _) fun checks =>
    .bind (.query _) fun _ => .bind (.query _) fun now => .bind (.lift (frame _ (by decide)))
    fun locks => .bind (.widen (endSessions _ _ _)) fun _ =>
    .bind (of_sameOn (insertUnique_follows _ _ _ (by decide))) fun _ =>
    .bind (.lift (frame _ (by decide))) fun _ => .lift (frame _ (by decide))

/-- The completion hook ends sessions; it expires none. -/
theorem settleBoundChange (c : ℕ) (status : ExecutionStatus) :
    (settleBoundChange env c status).Follows OnServerTime := by
  refine .bind (.query _) fun row => ?_
  split
  · exact .bind (.query _) fun now => .lift (frame _ (by decide))
  · split
    · refine .bind (.query _) fun now => .bind (.query _) fun intact => ?_
      split
      · exact .bind (.lift (frame _ (by decide))) fun _ => .pure _
      · refine .bind (.query _) fun profile => .bind (.widen (endSessions _ _ _)) fun _ => ?_
        split
        · split
          · exact .bind (.lift (frame _ (by decide))) fun _ => .lift (frame _ (by decide))
          · exact .bind (.lift (frame _ (by decide))) fun _ => .pure _
        · exact .bind (.lift (frame _ (by decide))) fun _ => .pure _
    · exact .pure _

theorem handleBoundExecutionCompleted (execution : ℕ) (status : ExecutionStatus) :
    (handleBoundExecutionCompleted env execution status).Follows deadlineCells
      (fun _ => OnServerTime) s := by
  refine .read refl fun s1 found _ _ => ?_
  split
  · exact .pure _
  · exact .atomic fun s2 _ u s3 h => settleBoundChange _ _ s2 u s3 h

/-- The guard of the internal endpoints. -/
theorem assertExecutionChangeBindingReady (execution : Loaded Execution)
    (runnerId claimToken : String) :
    (assertExecutionChangeBindingReady env execution runnerId claimToken).Follows deadlineCells
      (fun _ => OnServerTime) s := by
  refine .read refl fun s1 ready _ _ => ?_
  cases ready with
  | none => exact .pure _
  | some c =>
    exact .read refl fun s2 now _ hnow =>
      .bind (enforceEmergencyExpiryForChange c (timezoneNow_le hnow)) fun _ _ => .query _ refl

theorem completeExecutionTx (execution : ℕ) (call : RunnerCall) (outcome : ExecutionStatus) :
    (completeExecutionTx env execution call outcome).Follows OnServerTime := by
  refine .bind (.query _) fun e => .bind (.query _) fun _ => .bind (.query _) fun _ =>
    .bind (.query _) fun _ => .bind (.widen ?_) fun _ => .bind (.query _) fun now => .bind ?_
    fun _ => .lift (frame _ (by decide))
  · exact Tx.Follows.ofProg (p := RunbookPlatform.assertExecutionChangeBindingReady env
      ⟨execution, e⟩ call.runnerId call.claimToken) fun _ => assertExecutionChangeBindingReady _ _ _
  · cases outcome <;> exact of_sameOn (moveExecution_follows _ _ _ _ (by decide) (by decide))

theorem breakglassExecutionGate (execution : ℕ) :
    (breakglassExecutionGate env execution).Follows OnServerTime := by
  refine .bind (.query _) fun found => ?_
  split
  · exact .pure _
  · refine .bind (.query _) fun active => ?_
    split
    · exact .bind (sweepSessions _) fun _ => .query _
    · exact .pure _

theorem applyEvaluation (execution step : ℕ) (call : RunnerCall) (found : Evaluated) :
    (applyEvaluation env execution step call found).Follows OnServerTime := by
  unfold RunbookPlatform.applyEvaluation
  split
  · exact .widen (frame _ (by decide))
  · split
    · exact .widen (frame _ (by decide))
    · refine .bind (.widen (breakglassExecutionGate execution)) fun gate => ?_
      cases gate with
      | allowed => exact .widen (frame _ (by decide))
      | refused => exact .pure _
      | closed => exact .bind (.widen (frame _ (by decide))) fun _ => .pure _
    · refine .bind (.widen (breakglassExecutionGate execution)) fun gate => ?_
      cases gate with
      | allowed => exact .widen (frame _ (by decide))
      | refused => exact .pure _
      | closed => exact .widen (frame _ (by decide))

theorem startStepTx (execution : Loaded Execution) (step : ℕ) (call : RunnerCall)
    (evaluated : Except Err Evaluated) (evaluatedAt : Time) :
    (startStepTx env execution step call evaluated evaluatedAt).Follows OnServerTime := by
  cases evaluated with
  | ok found => exact .bind (.widen (frame _ (by decide))) fun _ => applyEvaluation _ _ _ _
  | error e => exact .widen (frame _ (by decide))

theorem pollApprovalTx (execution step : ℕ) (call : RunnerCall)
    (approval : Loaded ApprovalRequest) :
    (pollApprovalTx env execution step call approval).Follows OnServerTime := by
  refine .bind (.widen (frame _ (by decide))) fun request => ?_
  split
  · exact .pure _
  · refine .bind (.widen (breakglassExecutionGate execution)) fun gate => ?_
    split
    · exact .pure _
    · exact .widen (frame _ (by decide))
  · exact .widen (frame _ (by decide))
  · exact .widen (frame _ (by decide))

/-- A failure by approval timeout settles the change of its execution. -/
theorem failExecutionForApprovalTimeout (execution step : ℕ) (now : Time) :
    (failExecutionForApprovalTimeout env execution step now).Follows OnServerTime := by
  refine .bind (.query _) fun e => .bind (.query _) fun found => .bind (.query _) fun st => ?_
  split
  · exact .pure _
  · exact .bind (.lift (frame _ (by decide))) fun _ =>
      .bind (of_sameOn (moveExecution_follows _ _ _ _ (by decide) (by decide))) fun _ =>
      .bind (.lift (frame _ (by decide))) fun _ => .bind (.lift (frame _ (by decide))) fun _ =>
      .bind (.lift (frame _ (by decide))) fun _ => .bind (.savepoint (.widen (.ofProg fun _ =>
        handleBoundExecutionCompleted _ _)) fun _ => .pure _) fun _ => .pure _

theorem recoverExpiredApproval (a : ℕ) (now : Time) :
    (recoverExpiredApproval env a now).Follows OnServerTime := by
  refine .bind (.query _) fun found => ?_
  split
  · exact .pure _
  · refine .bind (.lift (frame _ (by decide))) fun _ => .bind (.widen (frame _ (by decide)))
      fun created => ?_
    split
    · refine .bind (.lift (frame _ (by decide))) fun _ => ?_
      unfold timeOutSubject
      split
      · exact .widen (frame _ (by decide))
      · split
        · exact .bind (.widen (failExecutionForApprovalTimeout _ _ now)) fun _ => .pure _
        · exact .pure _
    · exact .pure _

/-- A new session is active, and its review is pending. -/
theorem activateBreakglass (req : BreakglassRequest) (actor : AuditActor) :
    (activateBreakglass env req actor).Follows OnServerTime := by
  refine .bind (.query _) fun now => .bind (.widen (sweepSessions req.change)) fun _ =>
    .bind (.query _) fun (row, reviewDueAt) => .bind (.lift ?_) fun session =>
    .bind (.lift (frame _ (by decide))) fun _ =>
    .bind (of_sameOn (insertRow_follows _ _ (by decide))) fun review =>
    .bind (.lift (frame _ (by decide))) fun _ => .bind (.lift (frame _ (by decide))) fun _ => .pure _
  intro s i s' h
  obtain ⟨-, -, rfl⟩ := createSession_ok.1 h
  refine ⟨le_rfl, fun j later hlater => ?_⟩
  rw [Table.get?_insert] at hlater
  split_ifs at hlater with hj
  · cases hlater
    refine ⟨fun hexpired => ?_, fun hoverdue => ?_⟩
    · cases hexpired
    · cases hoverdue
  · exact (refl s).sessions j later hlater

/-- A submitted review is not overdue. -/
theorem submitRetroReviewTx (req : RetroReviewRequest) (disposition : Disposition) :
    (submitRetroReviewTx req disposition).Follows OnServerTime := by
  refine .bind (.query _) fun review => .bind (.query _) fun _ => .bind (.query _) fun now =>
    .bind (of_sameOn (updateRow_follows _ _ _ _ (by decide))) fun _ => ?_
  split
  · refine .bind (.widen fun s u s' h => ?_) fun _ => .lift (frame _ (by decide))
    obtain rfl := saveSession_ok.1 h
    refine save fun b _ => ⟨fun hexpired => .inr ⟨b, rfl, hexpired, rfl⟩, fun hoverdue => ?_⟩
    cases hoverdue
  · exact .lift (frame _ (by decide))

-- ════════════════════════════════════════════════════════════════════════
-- Handlers
-- ════════════════════════════════════════════════════════════════════════

theorem loadReadyExecution (execution : ℕ) (call : RunnerCall) :
    (loadReadyExecution env execution call).Follows deadlineCells (fun _ => OnServerTime) s :=
  .read refl fun _ _ _ _ => .bind (assertExecutionChangeBindingReady _ _ _) fun _ _ => .pure _

theorem runDispatchPreflight (c : ℕ) (actor : Option AuditActor) :
    (runDispatchPreflight env c actor).Follows deadlineCells (fun _ => OnServerTime) s :=
  .read refl fun _ now _ hnow =>
    .bind (.widen (enforceEmergencyExpiryForChange c (timezoneNow_le hnow))) fun _ _ =>
      .widen (handler _ (by decide))

theorem submitVerificationResult (req : ResultRequest) (actor : AuditActor) :
    (submitVerificationResult env req actor).Follows deadlineCells (fun _ => OnServerTime) s :=
  .read refl fun _ _ _ _ => .read refl fun _ _ _ _ => .atomic fun s3 _ u s4 h =>
    submitVerificationResultTx req _ actor s3 u s4 h

theorem closeChange (req : CloseRequest) (actor : AuditActor) :
    (closeChange req actor).Follows deadlineCells (fun _ => OnServerTime) s :=
  .read refl fun _ outcome _ _ => .read refl fun _ _ _ _ => .atomic fun s3 _ u s4 h =>
    closeChangeTx req outcome actor s3 u s4 h

theorem endChangeBreakglass (c : ℕ) (actor : AuditActor) (reason : String) :
    (endChangeBreakglass c actor reason).Follows deadlineCells (fun _ => OnServerTime) s :=
  .read refl fun _ _ _ _ => .read refl fun _ _ _ _ => endBreakglass _ _ _ _

/-- The review of a session is marked overdue when it is due. -/
theorem markBreakglassReviewOverdue :
    markBreakglassReviewOverdue.Follows deadlineCells (fun _ => OnServerTime) s := by
  refine .read refl fun s1 now h1 hnow => .read refl fun s2 overdue h2 hread =>
    .forEachLater (by decide) _ _ fun ⟨i, row⟩ hmem s3 h3 => .bind (.atomic fun s4 h4 u s5 h => ?_)
      fun _ _ => atomic _ _ (by decide)
  rw [select_ok] at hread
  subst hread
  obtain ⟨hrow, htest⟩ := mem_rowsWhere.1 hmem
  simp only [Bool.and_eq_true, decide_eq_true_eq] at htest
  obtain rfl := saveSession_ok.1 h
  have hclock : s1.now = s4.now := ((h2.trans h3).trans h4) .clock (by decide)
  refine save fun b hb => ⟨fun hexpired => .inr ⟨b, rfl, hexpired, rfl⟩, fun _ => .inl ?_⟩
  calc b.reviewDueAt = row.reviewDueAt := (deadlines_of_sameOn (h3.trans h4) hrow hb).2
    _ ≤ now := htest.2
    _ ≤ s4.now := hclock ▸ timezoneNow_le hnow

theorem submitRetroReview (req : RetroReviewRequest) (actor : AuditActor) :
    (submitRetroReview req actor).Follows deadlineCells (fun _ => OnServerTime) s := by
  refine .read refl fun _ review _ _ => .read refl fun _ disposition _ _ =>
    .read refl fun _ _ _ _ => .read refl fun s4 self _ _ => ?_
  split
  · exact .bind (atomic _ _ (by decide)) fun _ _ => .fail _
  · exact .read refl fun _ _ _ _ => .bind (.atomic fun s5 _ u s6 h =>
      submitRetroReviewTx req disposition s5 u s6 h) fun _ _ => atomic _ _ (by decide)

theorem claimNext (runnerId : String) (registered : Bool) (token : String) (nonce : ℕ → String) :
    (claimNext env runnerId registered token nonce).Follows deadlineCells (fun _ => OnServerTime)
      s := by
  have hpromote : ∀ s, (promoteDueScheduledChanges env nonce).Follows deadlineCells
      (fun _ => OnServerTime) s :=
    fun s => .read refl fun _ now _ _ => .read refl fun s2 due _ _ => .forEach (fun c s3 =>
      .tryCatch (.atomic fun s4 _ u s5 h => promoteScheduledChange c.id now _ s4 u s5 h)
        fun _ _ => .pure _) due s2
  refine .bind (.tryCatch (.widen (hpromote s)) fun _ _ => .pure _) fun _ s1 =>
    .read refl fun s2 runner _ _ => .bind (.widen (handler _ (by decide))) fun result s3 => ?_
  split
  · refine .widen (.read refl fun s4 found _ _ => ?_)
    split
    · exact .pure _
    · split
      · refine .read refl fun s5 now _ hnow => .read refl fun s6 change h6 _ => ?_
        have hclock : s5.now = s6.now := h6 .clock (by decide)
        split
        · split
          · exact .tryCatch (.widen (handler _ (by decide))) fun _ _ => .pure _
          · exact .pure _
        · split
          · exact .tryCatch (.widen (enforceEmergencyExpiryForChange _
              (hclock ▸ timezoneNow_le hnow))) fun _ _ => .pure _
          · exact .pure _
      · exact .pure _
  · exact .pure _

theorem heartbeatExecution (execution : ℕ) (call : RunnerCall) :
    (heartbeatExecution execution call).Follows deadlineCells (fun _ => OnServerTime) s := by
  refine .read refl fun s1 e _ _ => .read refl fun s2 _ _ _ => .bind (.widen ?_) fun _ s3 =>
    .read refl fun s4 now _ _ => atomic _ _ (by decide)
  refine .read refl fun s3 now _ hnow => .read refl fun s4 found h4 _ => ?_
  have hclock : s3.now = s4.now := h4 .clock (by decide)
  split
  · exact enforceEmergencyExpiryForChange _ (hclock ▸ timezoneNow_le hnow)
  · exact .pure _

theorem startStep (execution step : ℕ) (call : RunnerCall) :
    (startStep env execution step call).Follows deadlineCells (fun _ => OnServerTime) s := by
  refine .bind (.widen (loadReadyExecution execution call)) fun e s1 =>
    .read refl fun s2 st _ _ => .read refl fun s3 waiting _ _ => ?_
  split
  · exact .bind (.widen (handler _ (by decide))) fun _ _ => .pure _
  · exact .read refl fun s4 now _ _ => .read refl fun s5 evaluated _ _ =>
      .atomic fun s6 _ u s7 h => startStepTx _ _ _ _ _ s6 u s7 h

theorem pollApproval (execution step : ℕ) (call : RunnerCall) :
    (pollApproval env execution step call).Follows deadlineCells (fun _ => OnServerTime) s := by
  refine .bind (.widen (loadReadyExecution execution call)) fun e s1 =>
    .read refl fun s2 _ _ _ => .read refl fun s3 st _ _ => ?_
  split
  · exact .pure _
  · exact .pure _
  · exact .read refl fun s4 found _ _ => .read refl fun s5 (a, r) _ _ =>
      .atomic fun s6 _ u s7 h => pollApprovalTx execution step call ⟨a, r⟩ s6 u s7 h
  · exact .fail _

theorem completeByRunner (execution : ℕ) (call : RunnerCall) (outcome : ExecutionStatus) :
    (completeByRunner env execution call outcome).Follows deadlineCells (fun _ => OnServerTime)
      s := by
  refine .bind (.widen (loadReadyExecution execution call)) fun e s1 => .widen <|
    .bind (.atomic fun s2 _ u s3 h => completeExecutionTx execution call outcome s2 u s3 h)
    fun _ s2 => .bind (atomic _ _ (by decide)) fun _ s3 =>
    .tryCatch (.widen (handleBoundExecutionCompleted _ _)) fun _ s4 =>
    .read refl fun s5 bound _ _ => ?_
  split
  · exact .fail _
  · exact .pure _

theorem recoverStuckExecutions (threshold : ℕ) :
    (recoverStuckExecutions env threshold).Follows deadlineCells (fun _ => OnServerTime) s := by
  refine .read refl fun s1 now _ _ => .read refl fun s2 candidates _ _ => .forEach (fun e s3 =>
    .bind (atomic _ _ (by decide)) fun recovered s4 => ?_) candidates s2
  split
  · exact .bind (atomic _ _ (by decide)) fun _ _ =>
      .tryCatch (.widen (handleBoundExecutionCompleted _ _)) fun _ _ => .pure _
  · exact .pure _

theorem createFromRunnerUpload (req : UploadRequest) (call : RunnerCall) :
    (createFromRunnerUpload env req call).Follows deadlineCells (fun _ => OnServerTime) s := by
  refine .read refl fun s1 e _ _ => ?_
  have hrest : ∀ s2, (do
      Prog.read (validateRunnerOwnership e call.runnerId call.claimToken)
      (RunbookPlatform.assertExecutionChangeBindingReady env ⟨req.execution, e⟩ call.runnerId
        call.claimToken).widen
      let kind ← Prog.read (checkUpload env req e)
      Prog.atomic .service (insertArtifact env req call e.organization kind)
      : Handler (.artifacts :: sweepCells) Unit).Follows deadlineCells (fun _ => OnServerTime) s2 :=
    fun s2 => .read refl fun _ _ _ _ => .bind (.widen (assertExecutionChangeBindingReady _ _ _))
      fun _ _ => .read refl fun _ _ _ _ => atomic _ _ (by decide)
  dsimp only
  split
  · exact .read refl fun _ _ _ _ => hrest _
  · exact hrest _

end OnServerTime

/-- **Every request** other than the breakglass heartbeat lets sessions expire and reviews be
overdue by the clock of the server only. -/
theorem Op.onServerTime (env : Env) (op : Op) (s : Db)
    (hop : ∀ change call session observedAt,
      op ≠ .breakglassHeartbeat change call session observedAt) :
    OnServerTime s ((op.prog env).exec s).2 := by
  have hserve : ∀ {W : List Cell} {α : Type} {t : Service W α} {n : TxName},
      t.Follows OnServerTime → (serve t n).Follows deadlineCells (fun _ => OnServerTime) s :=
    fun h => .bind (.atomic fun s1 _ u s2 hrun => h s1 u s2 hrun) fun _ _ => .pure _
  have hrespond : ∀ {W : List Cell} {α : Type} {p : Handler W α},
      p.Follows deadlineCells (fun _ => OnServerTime) s →
        (respond p).Follows deadlineCells (fun _ => OnServerTime) s :=
    fun h => .bind h fun _ _ => .pure _
  refine Prog.Follows.exec (H := deadlineCells) ?_
  cases op with
  | tick elapsed =>
    refine hserve fun s1 u s2 h => ?_
    obtain ⟨-, rfl⟩ : () = u ∧ { s1 with now := s1.now + elapsed } = s2 := by
      simpa [advanceClock] using h
    exact ⟨Nat.le_add_right _ _, fun i later hlater => ⟨fun hexpired =>
      .inr ⟨later, hlater, hexpired, rfl⟩, fun hoverdue => .inr ⟨later, hlater, hoverdue, rfl⟩⟩⟩
  | submitChange c actor nonce => exact hserve (OnServerTime.submitChangeRecord c actor nonce)
  | runPreflight c actor => exact hrespond (OnServerTime.runDispatchPreflight c actor)
  | dispatch c actor nonce => exact hserve (OnServerTime.makeDispatchable c actor nonce)
  | submitRunnerResult req =>
    exact hrespond (.read OnServerTime.refl fun _ _ _ _ =>
      OnServerTime.submitVerificationResult _ _)
  | submitUserResult user req => exact hrespond (OnServerTime.submitVerificationResult _ _)
  | closeChange req actor => exact OnServerTime.closeChange req actor
  | activateBreakglass req actor => exact hserve (OnServerTime.activateBreakglass req actor)
  | endBreakglass c actor reason => exact OnServerTime.endChangeBreakglass c actor reason
  | breakglassHeartbeat c call session observedAt => exact absurd rfl (hop c call session observedAt)
  | markBreakglassOverdue => exact OnServerTime.markBreakglassReviewOverdue
  | submitRetroReview req actor => exact OnServerTime.submitRetroReview req actor
  | claimNext runnerId registered token nonce =>
    exact OnServerTime.claimNext runnerId registered token nonce
  | heartbeat execution call => exact OnServerTime.heartbeatExecution execution call
  | startStep execution step call => exact OnServerTime.startStep execution step call
  | pollApproval execution step call => exact OnServerTime.pollApproval execution step call
  | updateStep execution step call update =>
    exact .bind (.widen (OnServerTime.loadReadyExecution execution call)) fun _ _ =>
      OnServerTime.atomic _ _ (by decide)
  | completeExecution execution call outcome =>
    exact OnServerTime.completeByRunner execution call outcome
  | uploadArtifact req call => exact OnServerTime.createFromRunnerUpload req call
  | decideApproval a decision notes actor nonce =>
    refine .bind (.atomic fun s1 _ u s2 h =>
      OnServerTime.decideApprovalTx a decision notes actor nonce s1 u s2 h) fun severe s1 => ?_
    split
    · exact .query _ OnServerTime.refl
    · exact .pure _
  | recoverStuckExecutions threshold => exact OnServerTime.recoverStuckExecutions threshold
  | recoverExpiredApprovals batchSize =>
    exact .read OnServerTime.refl fun _ now _ _ => .read OnServerTime.refl fun s1 overdue _ _ =>
      .forEach (fun a _ => .atomic fun s2 _ u s3 h =>
        OnServerTime.recoverExpiredApproval a.id now s2 u s3 h) overdue s1
  | _ => exact OnServerTime.handler _ (by dsimp only [Op.cells]; decide)

end RunbookPlatform
