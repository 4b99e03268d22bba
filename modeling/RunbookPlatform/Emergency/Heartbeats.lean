import RunbookPlatform.Emergency.Clock

/-!
# The time of a breakglass heartbeat

A runner that works under a breakglass session reports that it has seen it. It may send the time
of its own clock along, and the platform expires the sessions of the change, and their reviews, as
of that time. The heartbeat is an observation; in which runs it is no more than that is the subject
here.

## Main definitions

- `observeBreakglassHeartbeat`, `heartbeatResponse` — the heartbeat, with what it answers
- `ServerDecides` — the clock of the server decides what a request does and answers
- `Op.ObservedInTime` — the time of a heartbeat agrees with that clock
- `ReachedInTime` — the runs in which all heartbeats come in time

## Main results

- `Reachable.oneActive` — at most one session of a change is active
- `observe_exec`, `observe_rows` — what a heartbeat does to the sessions, and what it answers
- `serverDecides_iff` — the clock decides exactly the requests that come in time
- `server_clock_decides` — it decides throughout the runs in which all of them do
-/

namespace RunbookPlatform

open Transactional

set_option synthInstance.maxSize 1000

-- ════════════════════════════════════════════════════════════════════════
-- The active session of a change
-- ════════════════════════════════════════════════════════════════════════

/-- A change has at most one active session. -/
def OneActive (s : Db) : Prop :=
  ∀ i j b b', s.sessions.get? i = some b → s.sessions.get? j = some b' → b.status = .active →
    b'.status = .active → b.changeRecord = b'.changeRecord → i = j

/-- A change that had at most one active session still has. -/
def KeepsOneActive (s s' : Db) : Prop := OneActive s → OneActive s'

instance : IsPreorder Db KeepsOneActive where
  refl _ := id
  trans _ _ _ h1 h2 := h2 ∘ h1

namespace KeepsOneActive

variable {s s' : Db} {W : List Cell} {α : Type}

theorem of_rows (h : SameOn [.sessionRows] s s') : KeepsOneActive s s' := by
  intro hone i j b b' hb hb' hactive hactive' hchange
  have hback : ∀ i b, s'.sessions.get? i = some b → b.status = .active →
      ∃ old, s.sessions.get? i = some old ∧ old.status = .active ∧
        old.changeRecord = b.changeRecord := by
    intro i b hb hactive
    rcases h .sessionRows (by decide) i with hsame | ⟨old, new, hold, hnew, hevolves⟩
    · exact ⟨b, hsame ▸ hb, hactive, rfl⟩
    · rw [hb] at hnew
      cases hnew
      have hid := hevolves.identity
      simp only [BreakglassSession.identity, Prod.mk.injEq] at hid
      exact ⟨old, hold, hevolves.active hactive, hid.2.1.symm⟩
  obtain ⟨old, hold, hwas, hc⟩ := hback i b hb hactive
  obtain ⟨old', hold', hwas', hc'⟩ := hback j b' hb' hactive'
  exact hone i j old old' hold hold' hwas hwas' (by rw [hc, hc', hchange])

/-- **Frame rule** for transactions. -/
theorem frame (t : Service W α) (hdisj : ∀ c ∈ [Cell.sessionRows], c ∉ W) :
    t.Follows KeepsOneActive :=
  (Tx.Follows.sameOn t hdisj).mono fun _ _ => of_rows

/-- The unique constraint on active sessions. -/
theorem activateBreakglass {env : Env} (req : BreakglassRequest) (actor : AuditActor) :
    (activateBreakglass env req actor).Follows KeepsOneActive := by
  refine .bind (.query _) fun now => .bind (.widen (frame _ (by decide))) fun _ =>
    .bind (.query _) fun (row, reviewDueAt) => .bind (.lift ?_) fun session =>
    .bind (.lift (frame _ (by decide))) fun _ =>
    .bind ((insertRow_follows _ _ (by decide)).mono fun _ _ => of_rows) fun review =>
    .bind (.lift (frame _ (by decide))) fun _ => .bind (.lift (frame _ (by decide))) fun _ => .pure _
  intro s i s' h hone
  obtain ⟨hfree, -, rfl⟩ := createSession_ok.1 h
  have hold : ∀ j b, s.sessions.get? j = some b → b.status = .active →
      b.changeRecord ≠ req.change := by
    intro j b hb hactive hc
    simpa [hactive, hc] using hfree j b hb
  intro j k b b' hb hb' hactive hactive' hchange
  rw [Table.get?_insert] at hb hb'
  split_ifs at hb hb' with hj hk hk
  · rw [hj, hk]
  · cases hb
    exact absurd hchange.symm (hold k b' hb' hactive')
  · cases hb'
    exact absurd hchange (hold j b hb hactive)
  · exact hone j k b b' hb hb' hactive hactive' hchange

end KeepsOneActive

/-- In every run a change has at most one active session. -/
theorem Reachable.oneActive {env : Env} {A : Admission} {s : Db} (h : Reachable env A s) :
    OneActive s := by
  refine h.invariant (R := fun _ => KeepsOneActive) (fun op s => ?_) ?_ fun _ _ _ hkeeps _ => hkeeps
  · cases op with
    | activateBreakglass req actor =>
      exact .bind (.atomic fun s1 _ u s2 h => KeepsOneActive.activateBreakglass req actor s1 u s2 h)
        fun _ _ => .pure _
    | _ =>
      exact Op.follows_of_frame (C := [.sessionRows]) (fun _ _ _ => KeepsOneActive.of_rows) _
        (by dsimp only [Op.cells]; decide) s
  · intro reference now i j b b' hb
    simp [Db.initial, Table.get?, Table.empty] at hb

/-- The active session of a change is the one that is found. -/
theorem OneActive.activeSession? {s : Db} (h : OneActive s) {i : ℕ} {b : BreakglassSession}
    (hb : s.sessions.get? i = some b) (hactive : b.status = .active) :
    activeSession? b.changeRecord s = some (i, b) := by
  cases hfound : RunbookPlatform.activeSession? b.changeRecord s with
  | none =>
    have hnone := Table.find?_none.1 hfound i b hb
    simp [hactive] at hnone
  | some found =>
    obtain ⟨hrow, htest⟩ := Table.find?_some hfound
    simp only [Bool.and_eq_true, decide_eq_true_eq] at htest
    obtain rfl := h found.1 i found.2 b hrow hb htest.2 hactive htest.1
    rw [hrow] at hb
    cases hb
    rfl

-- ════════════════════════════════════════════════════════════════════════
-- The heartbeat
-- ════════════════════════════════════════════════════════════════════════

/-- The checks of `record_breakglass_heartbeat` before the expiry. -/
def heartbeatOwner (change : ℕ) (runnerId claimToken : String) : Read Unit := do
  let found ← select (bindingOfChange? change)
  let (_, binding) ← expect found <| .validation "no_execution_binding"
    "No execution is bound to this change."
  let execution ← lookup Db.executions "Execution" binding.execution
  validateRunnerOwnership execution runnerId claimToken

/-- The cells of a heartbeat. -/
@[reducible] def heartbeatCells : List Cell := [.sessions, .sessionEnds, .sessionReviews, .audit]

theorem heartbeat_event : "breakglass.heartbeat_observed" ∉ statusEventTypes := by
  simp [statusEventTypes]

/-- The end of `record_breakglass_heartbeat`: the active session is saved and returned if it is the
one that the runner names. -/
def observeSession (runnerId : String) (observedSession : ℕ) (now : Time) :
    Option (ℕ × BreakglassSession) → Handler heartbeatCells (Option BreakglassSession)
  | none => pure none
  | some (id, session) =>
    if id = observedSession then do
      Prog.atomic .service (saveSession (W := [.sessions]) id
        (fun b => { b with lastHeartbeatAt := some now }) (List.mem_singleton_self _))
      Prog.atomic .service (emit session.organization (systemActor s!"runner:{runnerId}")
        "breakglass.heartbeat_observed" .breakglassSession id "" "" heartbeat_event)
      pure (some { session with lastHeartbeatAt := some now })
    else pure none

/-- `record_breakglass_heartbeat`, with the session object that it returns. -/
def observeBreakglassHeartbeat (change : ℕ) (runnerId claimToken : String) (observedSession : ℕ)
    (observedAt : Option Time) : Handler heartbeatCells (Option BreakglassSession) := do
  let clock ← Prog.read timezoneNow
  let now := observedAt.getD clock
  Prog.read (heartbeatOwner change runnerId claimToken)
  expireBreakglassSessions (some change) now
  let found ← Prog.read (select (activeSession? change))
  observeSession runnerId observedSession now found

/-- What `ChangeBreakglassHeartbeatView` answers: `status` and `expires_at`. -/
def heartbeatResponse : Option BreakglassSession → String × Option Time
  | none => ("expired", none)
  | some session => (session.status.value, some session.expiresAt)

/-- What follows a program decides on its state. -/
theorem exec_bind_state {W : List Cell} {α β γ : Type} {p : Handler W α} {f : α → Handler W β}
    {g : α → Handler W γ} (h : ∀ a s, ((f a).exec s).2 = ((g a).exec s).2) (s : Db) :
    ((p >>= f).exec s).2 = ((p >>= g).exec s).2 := by
  rw [Prog.exec_bind, Prog.exec_bind]
  rcases p.exec s with ⟨e | a, s1⟩
  · rfl
  · exact h a s1

/-- The session that the heartbeat returns changes nothing of what it does. -/
theorem recordBreakglassHeartbeat_exec (change : ℕ) (runnerId claimToken : String)
    (observedSession : ℕ) (observedAt : Option Time) (s : Db) :
    ((recordBreakglassHeartbeat change runnerId claimToken observedSession observedAt).exec s).2 =
      ((observeBreakglassHeartbeat change runnerId claimToken observedSession observedAt).exec
        s).2 := by
  refine exec_bind_state (fun clock s => exec_bind_state (fun _ s => exec_bind_state (fun _ s =>
    exec_bind_state (fun found s => ?_) s) s) s) s
  rcases found with - | ⟨id, session⟩
  · rfl
  · dsimp only [observeSession]
    split
    · refine exec_bind_state (fun _ s => ?_) s
      rw [Prog.exec_bind]
      rcases Prog.exec _ s with ⟨e | u, s1⟩ <;> rfl
    · rfl

/-- An expiry does not fail. -/
theorem expireBreakglassSessions_total (change : Option ℕ) (now : Time) (s : Db) :
    ∃ s', (expireBreakglassSessions change now).exec s = (.ok (), s') := by
  rw [expireBreakglassSessions, Prog.exec_bind, Prog.exec_read]
  dsimp only [select]
  generalize rowsWhere s.sessions _ = stale
  induction stale generalizing s with
  | nil => exact ⟨s, rfl⟩
  | cons session stale ih =>
    obtain ⟨s', hs'⟩ := ih _
    refine ⟨s', Prog.exec_bind_ok.2 ⟨(), _, Prog.exec_bind_ok.2 ⟨(), _,
      Prog.exec_atomic_ok.2 (saveSession_ok.2 rfl), Prog.exec_atomic_ok.2 (emit_ok.2 rfl)⟩, hs'⟩⟩

section Heartbeat

variable {change : ℕ} {runnerId claimToken : String} {named : ℕ} {observedAt : Option Time}
  {s : Db}

variable (named observedAt) in
theorem observe_refused {e : Err} (howner : heartbeatOwner change runnerId claimToken s = .error e) :
    (observeBreakglassHeartbeat change runnerId claimToken named observedAt).exec s =
      (.error e, s) := by
  rw [observeBreakglassHeartbeat, Prog.exec_bind, Prog.exec_read]
  dsimp only [timezoneNow, select]
  rw [Prog.exec_bind, Prog.exec_read, howner]

variable (named observedAt) in
/-- **A heartbeat** expires the sessions of its change at the time that it brings, and answers the
session that it names if that is active afterwards. -/
theorem observe_exec (howner : heartbeatOwner change runnerId claimToken s = .ok ()) :
    ∃ s1 s', (expireBreakglassSessions (some change) (observedAt.getD s.now)).exec s =
        (.ok (), s1) ∧
      ((∃ b, activeSession? change s1 = some (named, b) ∧
          s'.sessions = s1.sessions.modify named (fun b =>
            { b with lastHeartbeatAt := some (observedAt.getD s.now) }) ∧
          (observeBreakglassHeartbeat change runnerId claimToken named observedAt).exec s =
            (.ok (some { b with lastHeartbeatAt := some (observedAt.getD s.now) }), s')) ∨
        (∀ b, activeSession? change s1 ≠ some (named, b)) ∧ s' = s1 ∧
          (observeBreakglassHeartbeat change runnerId claimToken named observedAt).exec s =
            (.ok none, s')) := by
  obtain ⟨s1, hexpire⟩ := expireBreakglassSessions_total (some change) (observedAt.getD s.now) s
  have hexec : (observeBreakglassHeartbeat change runnerId claimToken named observedAt).exec s =
      (observeSession runnerId named (observedAt.getD s.now) (activeSession? change s1)).exec
        s1 := by
    rw [observeBreakglassHeartbeat, Prog.exec_bind, Prog.exec_read]
    dsimp only [timezoneNow, select]
    rw [Prog.exec_bind, Prog.exec_read, howner]
    dsimp only
    rw [Prog.exec_bind, hexpire]
    dsimp only
    rw [Prog.exec_bind, Prog.exec_read]
    rfl
  cases hfound : activeSession? change s1 with
  | none =>
    rw [hfound] at hexec
    refine ⟨s1, s1, hexpire, .inr ⟨fun b h => ?_, rfl, hexec⟩⟩
    rw [hfound] at h
    cases h
  | some found =>
    obtain ⟨id, session⟩ := found
    rw [hfound, observeSession] at hexec
    split_ifs at hexec with hid
    · subst hid
      refine ⟨s1, _, hexpire, .inl ⟨session, hfound, ?_, hexec.trans (Prog.exec_bind_ok.2 ⟨(), _,
        Prog.exec_atomic_ok.2 (saveSession_ok.2 rfl), Prog.exec_bind_ok.2 ⟨(), _,
          Prog.exec_atomic_ok.2 (emit_ok.2 rfl), rfl⟩⟩)⟩⟩
      rfl
    · refine ⟨s1, s1, hexpire, .inr ⟨fun b h => ?_, rfl, hexec⟩⟩
      rw [hfound] at h
      cases h
      exact hid rfl

/-- What a heartbeat makes of a session: it is expired if it was over at the time that the
heartbeat brings. -/
structure BreakglassSession.Observed (change : ℕ) (observed : Time)
    (session later : BreakglassSession) : Prop where
  expiresAt : later.expiresAt = session.expiresAt
  reviewDueAt : later.reviewDueAt = session.reviewDueAt
  stale : session.StaleAt (some change) observed → later.status = .expired ∧
    later.reviewStatus = if session.reviewDueAt ≤ observed then .overdue else .pending
  fresh : ¬session.StaleAt (some change) observed →
    later.status = session.status ∧ later.reviewStatus = session.reviewStatus

/-- The sessions after a heartbeat. -/
theorem observe_rows (howner : heartbeatOwner change runnerId claimToken s = .ok ()) {i : ℕ}
    {later : BreakglassSession}
    (hlater : ((observeBreakglassHeartbeat change runnerId claimToken named observedAt).exec
      s).2.sessions.get? i = some later) :
    ∃ b, s.sessions.get? i = some b ∧ b.Observed change (observedAt.getD s.now) later := by
  obtain ⟨s1, s', hexpire, hafter⟩ := observe_exec named observedAt howner
  have hexpired : ∀ {b'}, s1.sessions.get? i = some b' →
      ∃ b, s.sessions.get? i = some b ∧ b.Observed change (observedAt.getD s.now) b' := by
    intro b' hb'
    obtain ⟨b, hb, ⟨hfresh, rfl⟩ | ⟨hstale, rfl⟩⟩ := expireBreakglassSessions_exec hexpire hb'
    · exact ⟨b', hb, rfl, rfl, fun h => absurd h hfresh, fun _ => ⟨rfl, rfl⟩⟩
    · exact ⟨b, hb, rfl, rfl, fun _ => ⟨rfl, rfl⟩, fun h => absurd hstale h⟩
  rcases hafter with ⟨session, hfound, hsessions, hexec⟩ | ⟨-, rfl, hexec⟩
  · rw [hexec, hsessions, Table.get?_modify] at hlater
    split_ifs at hlater with hi
    · obtain ⟨b', hb', rfl⟩ := Option.map_eq_some_iff.1 hlater
      obtain ⟨b, hb, hobserved⟩ := hexpired hb'
      exact ⟨b, hb, hobserved.expiresAt, hobserved.reviewDueAt, hobserved.stale, hobserved.fresh⟩
    · exact hexpired hlater
  · rw [hexec] at hlater
    exact hexpired hlater

end Heartbeat

-- ════════════════════════════════════════════════════════════════════════
-- Whose clock decides
-- ════════════════════════════════════════════════════════════════════════

variable {env : Env} {s : Db} {change : ℕ} {runnerId claimToken : String} {named : ℕ}
  {observedAt : Option Time} {α : Type}

/-- The clock of the server decides what the request does to sessions and what it answers: none
expires before its end, no review is overdue before its due date, and a heartbeat answers that a
session is active only before its end. -/
structure ServerDecides (env : Env) (op : Op) (s : Db) : Prop where
  sessions : OnServerTime s ((op.prog env).exec s).2
  answer : ∀ change call named observedAt, op = .breakglassHeartbeat change call named observedAt →
    ∀ session, ((observeBreakglassHeartbeat change call.runnerId call.claimToken named
      observedAt).exec s).1 = .ok session → (heartbeatResponse session).1 = "active" →
        ∀ t ∈ (heartbeatResponse session).2, s.now < t

/-- The time that a heartbeat brings and the clock of the server agree about an active session:
the session is not over by the former alone, its review is not due by the former alone, and if the
heartbeat names the session, it is not over by the latter alone. -/
structure BreakglassSession.Agrees (session : BreakglassSession) (named : Prop)
    (observed now : Time) : Prop where
  ended : session.expiresAt ≤ observed → session.expiresAt ≤ now
  due : session.expiresAt ≤ observed → session.reviewDueAt ≤ observed →
    session.reviewStatus = .overdue ∨ session.reviewDueAt ≤ now
  lasting : named → session.expiresAt ≤ now → session.expiresAt ≤ observed

/-- A breakglass heartbeat of the runner that has the execution comes at a time that agrees with
the clock about the active session of its change. -/
def Op.ObservedInTime : Op → Db → Prop
  | .breakglassHeartbeat change call named observedAt, s =>
    heartbeatOwner change call.runnerId call.claimToken s = .ok () →
      ∀ i b, s.sessions.get? i = some b → b.changeRecord = change → b.status = .active →
        b.Agrees (i = named) (observedAt.getD s.now) s.now
  | _, _ => True

/-- Without a time of its own a heartbeat comes in time. -/
theorem Op.observedInTime_none (change : ℕ) (call : RunnerCall) (named : ℕ) (s : Db) :
    (Op.breakglassHeartbeat change call named none).ObservedInTime s :=
  fun _ _ _ _ _ _ => ⟨id, fun _ => .inr, fun _ => id⟩

/-- A heartbeat moves the clock nowhere. -/
theorem observe_now (change : ℕ) (runnerId claimToken : String) (named : ℕ)
    (observedAt : Option Time) (s : Db) :
    s.now = ((observeBreakglassHeartbeat change runnerId claimToken named observedAt).exec
      s).2.now :=
  Prog.exec_frame (c := .clock) _ s (by decide)

/-- A heartbeat loses no session. -/
theorem exists_later {p : Handler heartbeatCells α} {i : ℕ} {b : BreakglassSession}
    (hb : s.sessions.get? i = some b) :
    ∃ later, (p.exec s).2.sessions.get? i = some later := by
  have hrows : s.sessions.Moves BreakglassSession.Evolves (p.exec s).2.sessions :=
    Prog.exec_frame (c := .sessionRows) p s (by decide)
  rcases hrows i with hsame | ⟨-, new, -, hnew, -⟩
  · exact ⟨b, hsame.trans hb⟩
  · exact ⟨new, hnew⟩

/-- An expiry leaves a change with at most one active session. -/
theorem OneActive.exec (hone : OneActive s) (p : Handler heartbeatCells α) :
    OneActive (p.exec s).2 := by
  refine KeepsOneActive.of_rows (fun c hc => ?_) hone
  rw [List.mem_singleton.1 hc]
  exact Prog.exec_frame (c := .sessionRows) p s (by decide)

/-- A session that is named and not over at the time of the heartbeat is answered. -/
theorem observe_named (hone : OneActive s)
    (howner : heartbeatOwner change runnerId claimToken s = .ok ()) {b : BreakglassSession}
    (hb : s.sessions.get? named = some b) (hchange : b.changeRecord = change)
    (hactive : b.status = .active) (hfresh : ¬b.expiresAt ≤ observedAt.getD s.now) :
    ((observeBreakglassHeartbeat change runnerId claimToken named observedAt).exec s).1 =
      .ok (some { b with lastHeartbeatAt := some (observedAt.getD s.now) }) := by
  obtain ⟨s1, s', hexpire, hafter⟩ := observe_exec named observedAt howner
  have hone1 : OneActive s1 := by
    have hexec := hone.exec (expireBreakglassSessions (some change) (observedAt.getD s.now))
    rwa [hexpire] at hexec
  obtain ⟨b1, hb1⟩ := exists_later
    (p := expireBreakglassSessions (some change) (observedAt.getD s.now)) hb
  rw [hexpire] at hb1
  obtain ⟨old, hold, hcases⟩ := expireBreakglassSessions_exec hexpire hb1
  rw [hb] at hold
  cases hold
  rcases hcases with ⟨-, rfl⟩ | ⟨hstale, -⟩
  · have hfound := hone1.activeSession? hb1 hactive
    rw [hchange] at hfound
    rcases hafter with ⟨session, hsession, -, hexec⟩ | ⟨hnone, -, -⟩
    · rw [hfound] at hsession
      cases hsession
      rw [hexec]
    · exact absurd hfound (hnone b1)
  · exact absurd hstale.2.1 hfresh

/-- The times agree when the clock decides. -/
theorem ServerDecides.observedInTime {call : RunnerCall} (hone : OneActive s)
    (h : ServerDecides env (.breakglassHeartbeat change call named observedAt) s) :
    (Op.breakglassHeartbeat change call named observedAt).ObservedInTime s := by
  intro howner i b hb hchange hactive
  have hsessions : OnServerTime s ((observeBreakglassHeartbeat change call.runnerId call.claimToken
      named observedAt).exec s).2 := by
    rw [← recordBreakglassHeartbeat_exec]
    exact h.sessions
  have hnow := observe_now change call.runnerId call.claimToken named observedAt s
  obtain ⟨later, hlater⟩ := exists_later
    (p := observeBreakglassHeartbeat change call.runnerId call.claimToken named observedAt) hb
  obtain ⟨old, hold, hobserved⟩ := observe_rows howner hlater
  rw [hb] at hold
  cases hold
  have htimely := hsessions.sessions i later hlater
  rw [hb, ← hnow] at htimely
  have hstale (hover : b.expiresAt ≤ observedAt.getD s.now) :
      b.StaleAt (some change) (observedAt.getD s.now) :=
    ⟨hactive, hover, fun c hc => (Option.some.inj hc).symm.trans hchange.symm⟩
  refine ⟨fun hover => ?_, fun hover hdue => ?_, fun hnamed hover => ?_⟩
  · rcases htimely.expired (hobserved.stale (hstale hover)).1 with hpast | ⟨old, hold, hwas, -⟩
    · exact hobserved.expiresAt ▸ hpast
    · rw [Option.mem_some_iff.1 hold, hwas] at hactive
      cases hactive
  · have hoverdue := (hobserved.stale (hstale hover)).2
    rw [if_pos hdue] at hoverdue
    rcases htimely.overdue hoverdue with hpast | ⟨old, hold, hwas, -⟩
    · exact .inr (hobserved.reviewDueAt ▸ hpast)
    · exact .inl (Option.mem_some_iff.1 hold ▸ hwas)
  · by_contra hfresh
    subst hnamed
    have hanswer := observe_named hone howner hb hchange hactive hfresh
    have hbefore := h.answer change call i observedAt rfl _ hanswer
      (by simp [heartbeatResponse, hactive, SessionStatus.value]) b.expiresAt rfl
    exact absurd hover (Nat.not_le.2 hbefore)

/-- The clock decides when the times agree. -/
theorem Op.ObservedInTime.serverDecides {call : RunnerCall}
    (h : (Op.breakglassHeartbeat change call named observedAt).ObservedInTime s) :
    ServerDecides env (.breakglassHeartbeat change call named observedAt) s := by
  cases howner : heartbeatOwner change call.runnerId call.claimToken s with
  | error e =>
    have hexec := observe_refused named observedAt howner
    refine ⟨?_, ?_⟩
    · change OnServerTime s ((recordBreakglassHeartbeat change call.runnerId call.claimToken named
        observedAt).exec s).2
      rw [recordBreakglassHeartbeat_exec, hexec]
      exact .refl s
    · rintro _ _ _ _ ⟨⟩ session hanswer
      rw [hexec] at hanswer
      cases hanswer
  | ok u =>
    refine ⟨?_, ?_⟩
    · change OnServerTime s ((recordBreakglassHeartbeat change call.runnerId call.claimToken named
        observedAt).exec s).2
      rw [recordBreakglassHeartbeat_exec]
      have hnow := observe_now change call.runnerId call.claimToken named observedAt s
      refine ⟨hnow.le, fun i later hlater => ?_⟩
      obtain ⟨b, hb, hobserved⟩ := observe_rows howner hlater
      rw [hb, ← hnow]
      by_cases hstale : b.StaleAt (some change) (observedAt.getD s.now)
      · have hagrees := h howner i b hb (hstale.2.2 change rfl).symm hstale.1
        refine ⟨fun _ => .inl ?_, fun hoverdue => ?_⟩
        · rw [hobserved.expiresAt]
          exact hagrees.ended hstale.2.1
        · rw [(hobserved.stale hstale).2] at hoverdue
          split_ifs at hoverdue with hdue
          rw [hobserved.reviewDueAt]
          rcases hagrees.due hstale.2.1 hdue with hwas | hpast
          · exact .inr ⟨b, rfl, hwas, rfl⟩
          · exact .inl hpast
      · obtain ⟨hstatus, hreview⟩ := hobserved.fresh hstale
        exact ⟨fun hexpired => .inr ⟨b, rfl, hstatus ▸ hexpired, hobserved.expiresAt.symm⟩,
          fun hoverdue => .inr ⟨b, rfl, hreview ▸ hoverdue, hobserved.reviewDueAt.symm⟩⟩
    · rintro _ _ _ _ ⟨⟩ session hanswer hactive t ht
      obtain ⟨s1, s', hexpire, hafter⟩ := observe_exec named observedAt howner
      rcases hafter with ⟨b, hfound, -, hexec⟩ | ⟨-, -, hexec⟩
      · rw [hexec] at hanswer
        cases hanswer
        obtain rfl : b.expiresAt = t := by simpa [heartbeatResponse] using ht
        obtain ⟨hrow, htest⟩ := Table.find?_some hfound
        simp only [Bool.and_eq_true, decide_eq_true_eq] at htest
        obtain ⟨old, hold, ⟨hfresh, rfl⟩ | ⟨-, rfl⟩⟩ := expireBreakglassSessions_exec hexpire hrow
        · by_contra hover
          refine hfresh ⟨htest.2, (h howner named b hold htest.1 htest.2).lasting rfl
            (Nat.not_lt.1 hover), fun c hc => ?_⟩
          exact (Option.some.inj hc).symm.trans htest.1.symm
        · cases htest.2
      · rw [hexec] at hanswer
        cases hanswer
        cases ht

/-- **Exactly** the heartbeats that come in time leave the decision to the clock. -/
theorem serverDecides_iff (hone : OneActive s) (op : Op) :
    ServerDecides env op s ↔ op.ObservedInTime s := by
  by_cases hop : ∃ change call named observedAt,
      op = .breakglassHeartbeat change call named observedAt
  · obtain ⟨change, call, named, observedAt, rfl⟩ := hop
    exact ⟨ServerDecides.observedInTime hone, Op.ObservedInTime.serverDecides⟩
  · have hother : ∀ change call named observedAt,
        op ≠ .breakglassHeartbeat change call named observedAt :=
      fun change call named observedAt h => hop ⟨change, call, named, observedAt, h⟩
    refine iff_of_true ⟨op.onServerTime env s hother, fun change call named observedAt h =>
      absurd h (hother change call named observedAt)⟩ ?_
    cases op with
    | breakglassHeartbeat change call named observedAt =>
      exact absurd rfl (hother change call named observedAt)
    | _ => trivial

/-- The states after sequential runs in which every heartbeat comes in time. -/
inductive ReachedInTime (env : Env) : Db → Prop where
  | initial (reference : Reference) (now : Time) : ReachedInTime env (.initial reference now)
  | request {s : Db} (op : Op) : ReachedInTime env s → op.ObservedInTime s →
      ReachedInTime env ((op.prog env).exec s).2

theorem ReachedInTime.reachable (h : ReachedInTime env s) : Reachable env anyAdmission s := by
  induction h with
  | initial reference now => exact .initial reference now
  | request op _ _ ih => exact .request op ih (Prog.Meets.of_forall (fun _ _ => trivial) _ _)

/-- In such a run what is expired or overdue is so by the clock. -/
theorem ReachedInTime.onTime (h : ReachedInTime env s) : OnTime s := by
  induction h with
  | initial reference now =>
    refine ⟨fun i b hb => ?_, fun i b hb => ?_⟩ <;> simp [Db.initial, Table.get?, Table.empty] at hb
  | request op hs hop ih =>
    exact ((serverDecides_iff hs.reachable.oneActive op).2 hop).sessions.onTime ih

/-- **The clock of the server** decides in every run whose heartbeats come in time: in each state
it reaches, what is expired or overdue is so by the clock, and so is what the next request does and
answers. From any reachable state, it decides a request exactly if that comes in time. -/
theorem server_clock_decides (env : Env) :
    (∀ s, ReachedInTime env s → OnTime s ∧
      ∀ op : Op, op.ObservedInTime s → ServerDecides env op s) ∧
    ∀ s, Reachable env anyAdmission s → ∀ op : Op, ServerDecides env op s ↔ op.ObservedInTime s :=
  ⟨fun _ h => ⟨h.onTime, fun op => (serverDecides_iff h.reachable.oneActive op).2⟩,
    fun _ h op => serverDecides_iff h.oneActive op⟩

/-- A change in dispatch whose execution the runner has claimed, with a breakglass session
until 10. -/
def sessionRun : Db :=
  runOps .sample
    [.createChange .sample .sample, .submitChange 0 .sample "nonce",
      .claimNext "runner" true "token" fun _ => "nonce", .activateBreakglass .sample .sample]
    (.initial (.sample .sample) 0)

/-- A heartbeat of the runner about that session, at the time `observedAt`. -/
def sessionHeartbeat (observedAt : Time) : Op :=
  .breakglassHeartbeat 0 .sample 0 (some observedAt)

/-- The runner has the execution, and the session is active at 0. -/
theorem sessionRun_checked : heartbeatOwner 0 "runner" "token" sessionRun = .ok () ∧
    sessionRun.now = 0 ∧ ∃ b, sessionRun.sessions.rows = [b] ∧ b.changeRecord = 0 ∧
      b.status = .active ∧ b.expiresAt = 10 := by
  have hrun : (heartbeatOwner 0 "runner" "token" sessionRun).isOk = true ∧ sessionRun.now = 0 ∧
      sessionRun.sessions.rows.length = 1 ∧ sessionRun.sessions.rows.all (fun b =>
        b.changeRecord = 0 && b.status = .active && b.expiresAt = 10) = true := by decide +kernel
  obtain ⟨howner, hnow, hlength, hrows⟩ := hrun
  obtain ⟨b, hb⟩ := List.length_eq_one_iff.1 hlength
  rw [hb, List.all_cons, List.all_nil, Bool.and_true] at hrows
  simp only [Bool.and_eq_true, decide_eq_true_eq] at hrows
  obtain ⟨u, howns⟩ := exists_eq_ok howner
  exact ⟨howns, hnow, b, hb, hrows.1.1, hrows.1.2, hrows.2⟩

/-- A heartbeat from the future, at the end of the session, ends it at 0. -/
theorem heartbeat_expires_early : ¬∀ (env : Env) (s : Db), Reachable env anyAdmission s →
    ∀ op : Op, ServerDecides env op s := by
  intro h
  obtain ⟨howner, hnow, b, hrows, hchange, hactive, hend⟩ := sessionRun_checked
  have hb : sessionRun.sessions.get? 0 = some b := by rw [Table.get?, hrows]; rfl
  have hreachable : Reachable .sample anyAdmission sessionRun := Reachable.sample _ _
  have hintime := (h .sample sessionRun hreachable (sessionHeartbeat 10)).observedInTime
    hreachable.oneActive
  have hended := (hintime howner 0 b hb hchange hactive).ended
  rw [hend, hnow] at hended
  exact absurd (hended le_rfl) (by decide)

/-- A heartbeat of a runner whose clock is ahead, but not beyond the end of the session, leaves the
decision to the clock. -/
theorem server_clock_decides_session : OnTime sessionRun ∧
    ServerDecides .sample (sessionHeartbeat 5) sessionRun := by
  have hreached : ReachedInTime .sample sessionRun := by
    -- rewritten, as the kernel would run both sides to compare them
    rw [sessionRun, runOps, runOps, runOps, runOps, runOps]
    exact .request (.activateBreakglass .sample .sample)
      (.request (.claimNext "runner" true "token" fun _ => "nonce")
        (.request (.submitChange 0 .sample "nonce") (.request (.createChange .sample .sample)
          (.initial (.sample .sample) 0) trivial) trivial) trivial) trivial
  obtain ⟨-, hnow, b, hrows, -, -, hend⟩ := sessionRun_checked
  have hdecides := (server_clock_decides .sample).1 sessionRun hreached
  refine ⟨hdecides.1, hdecides.2 (sessionHeartbeat 5) fun _ i later hlater _ _ => ?_⟩
  have hmem := List.mem_of_getElem? hlater
  rw [hrows, List.mem_singleton] at hmem
  subst hmem
  refine ⟨fun hover => ?_, fun hover _ => ?_, fun _ hover => ?_⟩
  · rw [hend] at hover
    exact absurd hover (by decide)
  · rw [hend] at hover
    exact absurd hover (by decide)
  · rw [hend, hnow] at hover
    exact absurd hover (by decide)

end RunbookPlatform
