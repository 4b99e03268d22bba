import RunbookPlatform.System

/-!
# The end of breakglass sessions

## Main definitions

- `SessionsEnded` — what ending the sessions of a change does to all sessions
- `BreakglassSession.StaleAt` — the sessions that an expiry ends

## Main results

- `endSessions_ended` — no session of the change is active afterwards
- `expireBreakglassSessions_exec` — an expiry ends the stale sessions and no other
-/

namespace RunbookPlatform

open Transactional

/-- The sessions are those of `s`, with their reviews as they were, and those of change `c` are
over. -/
def SessionsEnded (c : ℕ) (s s' : Db) : Prop :=
  ∀ i b', s'.sessions.get? i = some b' → ∃ b, s.sessions.get? i = some b ∧
    b'.identity = b.identity ∧ b'.reviewStatus = b.reviewStatus ∧
      (b'.status = .active → b.status = .active ∧ b.changeRecord ≠ c)

/-- The session that `end_breakglass` ends, and no other, is over. -/
theorem endBreakglass_exec {session : Loaded BreakglassSession} {actor : AuditActor}
    {reason : String} {user : Option String} {s s' : Db} {u : Unit}
    (h : (endBreakglass session actor reason user).exec s = (.ok u, s')) :
    s'.sessions = s.sessions.modify session.id fun b =>
      { b with status := .ended, endedAt := some s.now, endReason := reason, endedBy := user } := by
  rw [endBreakglass, Prog.exec_bind, Prog.exec_read] at h
  generalize ensure (session.row.status = .active) _ s = r at h
  cases r with
  | error => simp at h
  | ok =>
    dsimp only at h
    rw [Prog.exec_bind, Prog.exec_read] at h
    refine Eq.symm (Eq.trans ?_ (congrArg (fun r => r.2.sessions) h))
    exact exec_saveAndEmit (V := [.sessions, .sessionEnds]) (W := [.sessions, .sessionEnds, .audit])
      (c := .sessions) (saveSession_ok.2 rfl) (by decide)

/-- The loop over the active sessions: the ones that it goes through are not active any more. -/
private theorem endLoop_ended {reason : String} {actor : AuditActor}
    (sessions : List (Loaded BreakglassSession)) {s s' : Db} {u : Unit}
    (h : (Prog.forEach (fun session => endBreakglass session actor reason none) sessions).exec s =
      (.ok u, s')) (i : ℕ) (b' : BreakglassSession) (hb' : s'.sessions.get? i = some b') :
    ∃ b, s.sessions.get? i = some b ∧ b'.identity = b.identity ∧
      b'.reviewStatus = b.reviewStatus ∧
        (b'.status = .active → b.status = .active ∧ i ∉ sessions.map (·.id)) := by
  induction sessions generalizing s with
  | nil =>
    obtain rfl : s = s' := by simpa [Prog.forEach] using h
    exact ⟨b', hb', rfl, rfl, fun h => ⟨h, by simp⟩⟩
  | cons session sessions ih =>
    rw [Prog.forEach, Prog.exec_bind] at h
    split at h
    · rename_i u1 s1 hfirst
      obtain ⟨b1, hb1, hid, hreview, hactive⟩ := ih h
      rw [endBreakglass_exec hfirst, Table.get?_modify] at hb1
      split_ifs at hb1 with hi
      · obtain ⟨b, hb, rfl⟩ := Option.map_eq_some_iff.1 hb1
        exact ⟨b, hb, hid, hreview, fun h => absurd (hactive h).1 (by simp)⟩
      · refine ⟨b1, hb1, hid, hreview, fun h => ⟨(hactive h).1, ?_⟩⟩
        rw [List.map_cons, List.mem_cons, not_or]
        exact ⟨hi, (hactive h).2⟩
    · simp at h

/-- **Ending the sessions** of a change leaves none of them active. -/
theorem endSessions_ended {c : ℕ} {reason : String} {actor : AuditActor} {s s' : Db} {u : Unit}
    (h : (endSessions c reason actor).run s = .ok (u, s')) : SessionsEnded c s s' := by
  rw [endSessions_ok, Tx.ofProg_ok, endActiveBreakglassSessionsForChange, Prog.exec_bind,
    Prog.exec_read] at h
  intro i b' hb'
  obtain ⟨b, hb, hid, hreview, hactive⟩ := endLoop_ended _ h i b' hb'
  refine ⟨b, hb, hid, hreview, fun h => ⟨(hactive h).1, fun hc => (hactive h).2 ?_⟩⟩
  exact List.mem_map.2 ⟨⟨i, b⟩, mem_rowsWhere.2 ⟨hb, by simp [hc, (hactive h).1]⟩, rfl⟩

-- ════════════════════════════════════════════════════════════════════════
-- Expiry
-- ════════════════════════════════════════════════════════════════════════

/-- A session is active at its end or later, and of the change if one is given. -/
def BreakglassSession.StaleAt (change : Option ℕ) (now : Time) (session : BreakglassSession) :
    Prop :=
  session.status = .active ∧ session.expiresAt ≤ now ∧ ∀ c ∈ change, c = session.changeRecord

/-- The loop over stale sessions: each that it goes through is saved as expired. -/
private theorem expireLoop_exec {now : Time} (sessions : List (Loaded BreakglassSession))
    {s s' : Db} {u : Unit}
    (h : (Prog.forEach (fun session => (do
        Prog.atomic (.expireSession session.id)
          (saveSession (W := [.sessions, .sessionEnds, .sessionReviews]) session.id
            (expireSession now session.row.reviewDueAt))
        Prog.atomic .service (emit session.row.organization (systemActor "expiry-check")
          "breakglass.expired" .breakglassSession session.id) :
        Handler [.sessions, .sessionEnds, .sessionReviews, .audit] Unit)) sessions).exec s =
      (.ok u, s')) {i : ℕ} {b' : BreakglassSession} (hb' : s'.sessions.get? i = some b') :
    ∃ b, s.sessions.get? i = some b ∧ (i ∉ sessions.map (·.id) ∧ b' = b ∨
      ∃ session ∈ sessions, session.id = i ∧ b' = expireSession now session.row.reviewDueAt b) := by
  induction sessions generalizing s with
  | nil =>
    obtain rfl : s = s' := by simpa [Prog.forEach] using h
    exact ⟨b', hb', .inl ⟨by simp, rfl⟩⟩
  | cons session sessions ih =>
    rw [Prog.forEach, Prog.exec_bind] at h
    split at h
    · rename_i u1 s1 hfirst
      have hs1 : s1.sessions = s.sessions.modify session.id
          (expireSession now session.row.reviewDueAt) := by
        refine Eq.symm (Eq.trans ?_ (congrArg (fun r => r.2.sessions) hfirst))
        exact exec_saveAndEmit (V := [.sessions, .sessionEnds, .sessionReviews])
          (W := [.sessions, .sessionEnds, .sessionReviews, .audit]) (c := .sessions)
          (saveSession_ok.2 rfl) (by decide)
      obtain ⟨b1, hb1, hcases⟩ := ih h
      rw [hs1, Table.get?_modify] at hb1
      split_ifs at hb1 with hi
      · obtain ⟨b, hb, rfl⟩ := Option.map_eq_some_iff.1 hb1
        refine ⟨b, hb, .inr ?_⟩
        rcases hcases with ⟨-, rfl⟩ | ⟨later, hlater, hid, rfl⟩
        · exact ⟨session, List.mem_cons_self, hi.symm, rfl⟩
        · exact ⟨later, List.mem_cons_of_mem _ hlater, hid, rfl⟩
      · refine ⟨b1, hb1, ?_⟩
        rcases hcases with ⟨hnot, rfl⟩ | ⟨later, hlater, hid, rfl⟩
        · refine .inl ⟨?_, rfl⟩
          rw [List.map_cons, List.mem_cons, not_or]
          exact ⟨hi, hnot⟩
        · exact .inr ⟨later, List.mem_cons_of_mem _ hlater, hid, rfl⟩
    · simp at h

/-- **An expiry** ends the sessions that are stale, and no other. -/
theorem expireBreakglassSessions_exec {change : Option ℕ} {now : Time} {s s' : Db} {u : Unit}
    (h : (expireBreakglassSessions change now).exec s = (.ok u, s')) {i : ℕ}
    {b' : BreakglassSession} (hb' : s'.sessions.get? i = some b') :
    ∃ b, s.sessions.get? i = some b ∧ (¬b.StaleAt change now ∧ b' = b ∨
      b.StaleAt change now ∧ b' = expireSession now b.reviewDueAt b) := by
  rw [expireBreakglassSessions, Prog.exec_bind, Prog.exec_read] at h
  obtain ⟨b, hb, hcases⟩ := expireLoop_exec _ h hb'
  have hstale : ∀ {row : BreakglassSession},
      ⟨i, row⟩ ∈ rowsWhere s.sessions (fun b =>
        b.status = .active && b.expiresAt ≤ now && change.all (· = b.changeRecord)) ↔
      row = b ∧ b.StaleAt change now := by
    intro row
    rw [mem_rowsWhere, hb, Option.some.injEq, eq_comm]
    refine and_congr_right fun hrow => ?_
    subst hrow
    simp [BreakglassSession.StaleAt, Option.all_eq_true, and_assoc]
  refine ⟨b, hb, ?_⟩
  rcases hcases with ⟨hnot, rfl⟩ | ⟨⟨j, row⟩, hmem, rfl, rfl⟩
  · refine .inl ⟨fun hb => hnot ?_, rfl⟩
    exact List.mem_map.2 ⟨⟨i, b'⟩, hstale.2 ⟨rfl, hb⟩, rfl⟩
  · obtain ⟨rfl, hb⟩ := hstale.1 hmem
    exact .inr ⟨hb, rfl⟩

end RunbookPlatform
