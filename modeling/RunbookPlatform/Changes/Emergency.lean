import RunbookPlatform.Changes.VerificationPlans

/-!
# Emergency state

Expiry of exceptions and breakglass sessions, and the question whether an active
session covers a gate. The expiry functions read the stale rows and save them one by
one; called inside a transaction, they commit with it (`Tx.ofProg`), and the rows that they
save are still as they were read.

## Main definitions

- `expireExceptions`, `expireBreakglassSessions`, `enforceEmergencyExpiryForChange`
- `findApplicableException`, `assertBreakglassAllows`
- `endBreakglass`, `endActiveBreakglassSessionsForChange`
- `runFresh` — such a program inside a transaction
- `sweepExceptions`, `sweepSessions`, `sweepEmergency`, `endSessions`
-/

namespace RunbookPlatform

open Transactional

/-- Save columns of an exception with a status other than pending. -/
def settleException (i : ℕ) (f : ChangeException → ChangeException)
    (hid : ∀ exc, (f exc).identity = exc.identity := by intro _; rfl)
    (hstatus : ∀ exc, (f exc).status ≠ .pendingApproval := by intro _; exact nofun) :
    Service [.exceptions, .exceptionOutcome, .exceptionEnds] Unit :=
  updateRow Rel.exceptions i f fun exc => ⟨hid exc, fun _ => hstatus exc⟩

theorem settleException_ok {i : ℕ} {f : ChangeException → ChangeException} {hid hstatus}
    {s s' : Db} {u : Unit} :
    (settleException i f hid hstatus).run s = .ok (u, s') ↔
      s' = { s with exceptions := s.exceptions.modify i f } :=
  updateRow_ok

/-- `expire_exceptions`. -/
def expireExceptions (change : ℕ) (now : Time) :
    Handler [.exceptions, .exceptionEnds, .audit] Unit := do
  let toExpire ← Prog.read (select fun s => rowsWhere s.exceptions fun e =>
    e.changeRecord = change && (e.status = .pendingApproval || e.status = .approved) &&
      e.expiresAt ≤ now)
  Prog.forEach (fun exc => do
    Prog.atomic (.expireException exc.id) (lapseException exc.id)
    Prog.atomic .service (emit exc.row.organization (systemActor "expiry-check")
      "change_exception.expired" .changeException exc.id)) toExpire

/-- `find_applicable_exception`. -/
def findApplicableException (change : ℕ) (exceptionType : ExceptionType) (now : Time) :
    Handler [.exceptions, .exceptionEnds, .audit] (Option (Loaded ChangeException)) := do
  expireExceptions change now
  let found ← Prog.read (select fun s => rowsWhere s.exceptions fun e =>
    e.changeRecord = change && e.exceptionType = exceptionType && e.status = .approved &&
      now < e.expiresAt)
  -- the newest approval; among equals the first row
  pure (found.foldl (fun best exc =>
    match best with
    | some b =>
      if b.row.approvedAt.getD 0 < exc.row.approvedAt.getD 0 then some exc else some b
    | none => some exc) none)

/-- The columns a session's expiry saves. -/
def expireSession (now : Time) (reviewDueAt : Time) (session : BreakglassSession) :
    BreakglassSession :=
  { session with
    status := .expired
    endedAt := some now
    endReason := "expired"
    reviewStatus := if reviewDueAt ≤ now then .overdue else .pending }

/-- `expire_breakglass_sessions`, for one change or for all. -/
def expireBreakglassSessions (change : Option ℕ) (now : Time) :
    Handler [.sessions, .sessionEnds, .sessionReviews, .audit] Unit := do
  let stale ← Prog.read (select fun s => rowsWhere s.sessions fun b =>
    b.status = .active && b.expiresAt ≤ now && change.all (· = b.changeRecord))
  Prog.forEach (fun session => do
    Prog.atomic (.expireSession session.id)
      (saveSession (W := [.sessions, .sessionEnds, .sessionReviews]) session.id
        (expireSession now session.row.reviewDueAt))
    Prog.atomic .service (emit session.row.organization (systemActor "expiry-check")
      "breakglass.expired" .breakglassSession session.id)) stale

/-- The cells of an expiry. -/
@[reducible] def sweepCells : List Cell :=
  [.exceptions, .exceptionEnds, .sessions, .sessionEnds, .sessionReviews, .audit]

/-- `enforce_emergency_expiry_for_change`. -/
def enforceEmergencyExpiryForChange (change : ℕ) (now : Time) : Handler sweepCells Unit := do
  expireExceptions change now
  expireBreakglassSessions (some change) now

/-- The binding of an execution, with its key. -/
def bindingOf? (execution : ℕ) (s : Db) : Option (ℕ × ChangeExecutionBinding) :=
  s.bindings.find? fun _ b => b.execution = execution

/-- `enforce_emergency_expiry_for_execution`. -/
def enforceEmergencyExpiryForExecution (execution : ℕ) : Handler sweepCells Unit := do
  let now ← Prog.read timezoneNow
  match ← Prog.read (select (bindingOf? execution)) with
  | some (_, binding) => enforceEmergencyExpiryForChange binding.changeRecord now
  | none => pure ()

/-- The active session of a change, with its key. -/
def activeSession? (change : ℕ) (s : Db) : Option (ℕ × BreakglassSession) :=
  s.sessions.find? fun _ b => b.changeRecord = change && b.status = .active

/-- The elements of a list in a scope, as `scope.get(key, [])`. -/
def scopeItems (scope : Json) (key : String) : List Json :=
  (scope.getD key (.arr [])).items?.getD []

/-- What a session's scope must contain for a gate, an action and targets: the three
checks of `assert_breakglass_allows` after the session is found. -/
def scopeCovers (env : Env) (scope : Json) (gateType action : String) (targetIds : List ℕ) :
    Read Unit := do
  ensure (.str gateType ∈ scopeItems scope "gate_types") <|
    .validation "breakglass_gate_type_not_in_scope"
      s!"Gate type '{gateType}' is not within the breakglass session scope."
  ensure (.str action ∈ scopeItems scope "allowed_actions") <|
    .validation "breakglass_action_not_in_scope"
      s!"Action '{action}' is not within the breakglass session scope."
  let scopedTargets := (scopeItems scope "target_ids").map (pyStr env)
  let outOfScope := Json.sortTexts ((targetIds.map idText).filter (· ∉ scopedTargets))
  ensure (outOfScope = []) <| .validation "breakglass_targets_out_of_scope"
    s!"Target IDs not within breakglass scope: {(Json.ofStrings outOfScope).repr env.reprText}."

/-- `assert_breakglass_allows`. Returns the session. -/
def assertBreakglassAllows (env : Env) (change : ℕ) (gateType action : String)
    (targetIds : List ℕ) (now : Time) :
    Handler [.sessions, .sessionEnds, .sessionReviews, .audit] ℕ := do
  expireBreakglassSessions (some change) now
  Prog.read do
    let found ← select (activeSession? change)
    let (id, session) ← expect found <| .validation "no_active_breakglass_session"
      "No active breakglass session found for this change."
    scopeCovers env session.scopeJson gateType action targetIds
    pure id

/-- `end_breakglass`, on the session object the caller loaded. -/
def endBreakglass (session : Loaded BreakglassSession) (actor : AuditActor)
    (endReason : String) (actorUser : Option String) :
    Handler [.sessions, .sessionEnds, .audit] Unit := do
  Prog.read <| ensure (session.row.status = .active) <| .transition "breakglass_not_active"
    s!"Breakglass session is in status '{session.row.status.value}'; only active sessions can be ended."
  let now ← Prog.read timezoneNow
  Prog.atomic (.endSession session.id)
    (saveSession (W := [.sessions, .sessionEnds]) session.id fun b =>
      { b with status := .ended, endedAt := some now, endReason, endedBy := actorUser })
  Prog.atomic .service (emit session.row.organization actor "breakglass.ended"
    .breakglassSession session.id)

/-- `end_active_breakglass_sessions_for_change`. The sessions are selected active, so
the guard of `end_breakglass` never fails. -/
def endActiveBreakglassSessionsForChange (change : ℕ) (endReason : String)
    (actor : AuditActor) : Handler [.sessions, .sessionEnds, .audit] Unit := do
  let active ← Prog.read (select fun s => rowsWhere s.sessions fun b =>
    b.changeRecord = change && b.status = .active)
  Prog.forEach (fun session => endBreakglass session actor endReason none) active

-- ════════════════════════════════════════════════════════════════════════
-- Inside a transaction
-- ════════════════════════════════════════════════════════════════════════

/-- The cells that a save from a stale object may write. -/
@[reducible] def staleCells : List Cell := [.exceptionEnds, .sessionEnds, .sessionReviews]

/-- A program inside a transaction, where its saves are of rows as they are. -/
def runFresh {V W : List Cell} {α : Type} (p : Handler V α)
    (hp : ∀ s, p.Runs (SameOn staleCells) s)
    (hW : ∀ c ∈ V, c ∈ W ∨ c ∈ staleCells := by decide) : Service W α :=
  (Tx.ofProg p).narrow fun s a s' h c hc => by
    by_cases hstale : c ∈ staleCells
    · have hexec := hp s
      rw [Prog.Runs, Tx.ofProg_ok.1 h] at hexec
      exact hexec c hstale
    · exact Tx.frame _ h c fun hV => (hW c hV).elim hc hstale

@[simp] theorem run_runFresh {V W : List Cell} {α : Type} {p : Handler V α} {hp hW} (s : Db) :
    (runFresh (W := W) p hp hW).run s = (Tx.ofProg p).run s := rfl

theorem sweepCells_fresh : ∀ c ∈ sweepCells,
    c ∈ [Cell.exceptions, .sessions, .audit] ∨ c ∈ staleCells := by
  decide

/-- After a save, its audit event changes nothing else. -/
theorem exec_saveAndEmit {V W : List Cell} [Within V W] [Within [.audit] W] {n m : TxName}
    {t : Service V Unit} {e : Service [.audit] Unit} {s s1 : Db} (ht : t.run s = .ok ((), s1)) {c : Cell}
    (hc : c ≠ .audit) :
    Cells.agree c s1 ((Prog.atomic n t >>= fun _ => Prog.atomic m e : Handler W Unit).exec s).2 := by
  have hemit : (Prog.atomic m e : Handler W Unit).Runs (SameOn [c]) s1 :=
    .atomic fun _ _ h => Tx.sameOn h _ (by simpa using hc)
  rw [Prog.exec_bind, Prog.exec_atomic, ht]
  exact hemit c List.mem_cons_self

/-- In a transaction, only exceptions that are open are expired. -/
theorem expireExceptions_runs (change : ℕ) (now : Time) (s : Db) :
    (expireExceptions change now).Runs (SameOn staleCells) s := by
  refine .read fun toExpire hread => Prog.Runs.forEach_apart Loaded.id
    (fun s1 exc => ∃ e, s1.exceptions.get? exc.id = some e ∧ e.status.isFinal = false)
    ?_ ?_ _ _ ?_ ?_
  · rintro exc s1 ⟨e, he, hopen⟩
    refine .atomicBind fun _ s2 h => ⟨?_, .atomic fun _ _ h => Tx.sameOn h _ (by decide)⟩
    have hrest : SameOn [.sessionEnds, .sessionReviews] s1 s2 := Tx.sameOn h _ (by decide)
    obtain rfl := lapseException_ok.1 h
    intro c hc
    rcases List.mem_cons.1 hc with rfl | hc
    · exact (Table.Replaced.modify he _).evolves (fun _ _ => rfl) fun hfinal => by simp_all
    · exact hrest c hc
  · rintro exc exc' s1 - hne ⟨e, he, hopen⟩
    refine ⟨e, ?_, hopen⟩
    refine (congrArg (·.get? exc'.id) (exec_saveAndEmit (W := [.exceptions, .exceptionEnds, .audit])
      (c := .exceptions) (lapseException_ok.2 rfl) (by decide))).symm.trans ?_
    exact (Table.get?_modify_of_ne hne _ _).trans he
  · rw [select_ok] at hread
    exact hread ▸ nodup_rowsWhere _ _
  · rintro ⟨i, exc⟩ hexc
    rw [select_ok] at hread
    subst hread
    obtain ⟨hrow, htest⟩ := mem_rowsWhere.1 hexc
    simp only [Bool.and_eq_true, Bool.or_eq_true, decide_eq_true_eq] at htest
    refine ⟨exc, hrow, ?_⟩
    rcases htest.1.2 with h | h
    all_goals
      rw [h]
      rfl

/-- In a transaction, only sessions that are active beyond their end are expired. -/
theorem expireBreakglassSessions_runs (change : Option ℕ) (s : Db) :
    (expireBreakglassSessions change s.now).Runs (SameOn staleCells) s := by
  refine .read fun stale hread => Prog.Runs.forEach_apart Loaded.id
    (fun s1 session => s1.now = s.now ∧ ∃ b, s1.sessions.get? session.id = some b ∧
      b.status = .active ∧ b.expiresAt ≤ s.now) ?_ ?_ _ _ ?_ ?_
  · rintro session s1 ⟨hnow, b, hb, hactive, hover⟩
    refine .atomicBind fun _ s2 h => ⟨?_, .atomic fun _ _ h => Tx.sameOn h _ (by decide)⟩
    have hrest : SameOn [.exceptionEnds] s1 s2 := Tx.sameOn h _ (by decide)
    obtain rfl := saveSession_ok.1 h
    have hreplaced := Table.Replaced.modify hb (expireSession s.now session.row.reviewDueAt)
    intro c hc
    simp only [List.mem_cons, List.not_mem_nil, or_false] at hc
    rcases hc with rfl | rfl | rfl
    · exact hrest _ (by simp)
    · exact hreplaced.evolves (fun _ _ => rfl) fun h => absurd hactive h
    · exact ⟨le_rfl, hreplaced.evolves BreakglassSession.Reviewed.refl
        ⟨⟨rfl, by rintro ⟨⟩⟩, fun _ => .inr ⟨hactive, hnow ▸ hover⟩⟩⟩
  · rintro session session' s1 - hne ⟨hnow, b, hb, hover⟩
    refine ⟨?_, b, ?_, hover⟩
    · exact (exec_saveAndEmit (V := [.sessions, .sessionEnds, .sessionReviews])
        (W := [.sessions, .sessionEnds, .sessionReviews, .audit]) (c := .clock)
        (saveSession_ok.2 rfl) (by decide)).symm.trans hnow
    · refine (congrArg (·.get? session'.id) (exec_saveAndEmit
        (V := [.sessions, .sessionEnds, .sessionReviews])
        (W := [.sessions, .sessionEnds, .sessionReviews, .audit]) (c := .sessions)
        (saveSession_ok.2 rfl) (by decide))).symm.trans ?_
      exact (Table.get?_modify_of_ne hne _ _).trans hb
  · rw [select_ok] at hread
    exact hread ▸ nodup_rowsWhere _ _
  · rintro ⟨i, b⟩ hb
    rw [select_ok] at hread
    subst hread
    obtain ⟨hrow, htest⟩ := mem_rowsWhere.1 hb
    simp only [Bool.and_eq_true, decide_eq_true_eq] at htest
    exact ⟨rfl, b, hrow, htest.1⟩

/-- The sessions that are ended in a transaction are active. -/
theorem endActiveBreakglassSessionsForChange_runs (change : ℕ) (endReason : String)
    (actor : AuditActor) (s : Db) :
    (endActiveBreakglassSessionsForChange change endReason actor).Runs (SameOn staleCells) s := by
  refine .read fun active hread => Prog.Runs.forEach_apart Loaded.id
    (fun s1 session => ∃ b, s1.sessions.get? session.id = some b ∧ b.status = .active)
    ?_ ?_ _ _ ?_ ?_
  · rintro session s1 ⟨b, hb, hactive⟩
    refine .read fun _ _ => .read fun now _ => .atomicBind fun _ s2 h =>
      ⟨?_, .atomic fun _ _ h => Tx.sameOn h _ (by decide)⟩
    have hrest : SameOn [.exceptionEnds, .sessionReviews] s1 s2 := Tx.sameOn h _ (by decide)
    obtain rfl := saveSession_ok.1 h
    intro c hc
    simp only [List.mem_cons, List.not_mem_nil, or_false] at hc
    rcases hc with rfl | rfl | rfl
    · exact hrest _ (by simp)
    · exact (Table.Replaced.modify hb _).evolves (fun _ _ => rfl) fun h => absurd hactive h
    · exact hrest _ (by simp)
  · rintro session session' s1 - hne ⟨b, hb, hactive⟩
    refine ⟨b, ?_, hactive⟩
    rw [endBreakglass, Prog.exec_bind, Prog.exec_read]
    cases ensure (session.row.status = .active) _ s1 with
    | error => exact hb
    | ok =>
      dsimp only
      rw [Prog.exec_bind, Prog.exec_read]
      refine (congrArg (·.get? session'.id) (exec_saveAndEmit (V := [.sessions, .sessionEnds])
        (W := [.sessions, .sessionEnds, .audit]) (c := .sessions) (saveSession_ok.2 rfl)
        (by decide))).symm.trans ?_
      exact (Table.get?_modify_of_ne hne _ _).trans hb
  · rw [select_ok] at hread
    exact hread ▸ nodup_rowsWhere _ _
  · rintro ⟨i, b⟩ hb
    rw [select_ok] at hread
    subst hread
    obtain ⟨hrow, htest⟩ := mem_rowsWhere.1 hb
    simp only [Bool.and_eq_true, decide_eq_true_eq] at htest
    exact ⟨b, hrow, htest.2⟩

/-- The expiry of a change's emergency state at the time of the transaction. -/
theorem enforceEmergencyExpiryForChange_runs (change : ℕ) (s : Db) :
    (enforceEmergencyExpiryForChange change s.now).Runs (SameOn staleCells) s := by
  refine .bindFrom (.widen (expireExceptions_runs change s.now s)) fun _ s1 hexec => .widen ?_
  have hclock : s.now = s1.now := by
    have hframe := Prog.exec_frame (c := .clock) (expireExceptions change s.now) s (by decide)
    rw [Prog.exec_lift] at hexec
    rwa [hexec] at hframe
  rw [hclock]
  exact expireBreakglassSessions_runs (some change) s1

/-- `expire_exceptions`, in a transaction. -/
def sweepExceptions (change : ℕ) : Service [.exceptions, .audit] Unit :=
  runFresh (do
    let now ← Prog.read timezoneNow
    expireExceptions change now) fun s => .read fun now _ => expireExceptions_runs change now s

/-- `expire_breakglass_sessions`, in a transaction. -/
def sweepSessions (change : ℕ) : Service [.sessions, .audit] Unit :=
  runFresh (do
    let now ← Prog.read timezoneNow
    expireBreakglassSessions (some change) now) fun s => .read fun now hnow => by
      rw [timezoneNow, select_ok] at hnow
      exact hnow ▸ expireBreakglassSessions_runs (some change) s

/-- `enforce_emergency_expiry_for_change`, in a transaction. -/
def sweepEmergency (change : ℕ) : Service [.exceptions, .sessions, .audit] Unit :=
  runFresh (do
    let now ← Prog.read timezoneNow
    enforceEmergencyExpiryForChange change now) fun s => .read fun now hnow => by
      rw [timezoneNow, select_ok] at hnow
      exact hnow ▸ enforceEmergencyExpiryForChange_runs change s

/-- `end_active_breakglass_sessions_for_change`, in a transaction. -/
def endSessions (change : ℕ) (endReason : String) (actor : AuditActor) :
    Service [.sessions, .audit] Unit :=
  runFresh (endActiveBreakglassSessionsForChange change endReason actor)
    (endActiveBreakglassSessionsForChange_runs change endReason actor)

theorem sweepExceptions_ok {change : ℕ} {s s' : Db} {u : Unit} :
    (sweepExceptions change).run s = .ok (u, s') ↔
      (Tx.ofProg (expireExceptions change s.now)).run s = .ok (u, s') := by
  rw [sweepExceptions, run_runFresh, Tx.ofProg_ok, Tx.ofProg_ok, Prog.exec_bind, Prog.exec_read]
  rfl

theorem sweepSessions_ok {change : ℕ} {s s' : Db} {u : Unit} :
    (sweepSessions change).run s = .ok (u, s') ↔
      (Tx.ofProg (expireBreakglassSessions (some change) s.now)).run s = .ok (u, s') := by
  rw [sweepSessions, run_runFresh, Tx.ofProg_ok, Tx.ofProg_ok, Prog.exec_bind, Prog.exec_read]
  rfl

theorem sweepEmergency_ok {change : ℕ} {s s' : Db} {u : Unit} :
    (sweepEmergency change).run s = .ok (u, s') ↔
      (Tx.ofProg (enforceEmergencyExpiryForChange change s.now)).run s = .ok (u, s') := by
  rw [sweepEmergency, run_runFresh, Tx.ofProg_ok, Tx.ofProg_ok, Prog.exec_bind, Prog.exec_read]
  rfl

theorem endSessions_ok {change : ℕ} {endReason : String} {actor : AuditActor} {s s' : Db}
    {u : Unit} : (endSessions change endReason actor).run s = .ok (u, s') ↔
      (Tx.ofProg (endActiveBreakglassSessionsForChange change endReason actor)).run s =
        .ok (u, s') :=
  Iff.rfl

end RunbookPlatform
