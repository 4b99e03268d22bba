import RunbookPlatform.System

/-!
# The trail of a change

The status of a change moves along the edges of the transition table, and back to
`PENDING_APPROVAL` when a new window voids an approval. Each move writes one audit event, so
that the new events of a change, in order, lead from its old status to its new one.

## Main definitions

- `Trail` — events that lead from one status to another
- `StatusTrail` — what happened to all changes between two states

## Main results

- `transitionChange_trail`, `invalidateChangeApproval_trail` — the two ways to move
- `StatusTrail.finished` — a status without outgoing edges is final
-/

namespace RunbookPlatform

open Transactional

set_option synthInstance.maxSize 1000

/-- The events of change `c`, in order, lead from one status to another. -/
inductive Trail (c : ℕ) : ChangeStatus → List AuditEvent → ChangeStatus → Prop where
  | stay (st : ChangeStatus) : Trail c st [] st
  /-- An edge of the transition table. -/
  | move {old new last : ChangeStatus} {events : List AuditEvent} (organization : ℕ)
      (actor : AuditActor) (hallowed : new ∈ old.allowed) (rest : Trail c new events last) :
      Trail c old (statusChanged organization actor c old new :: events) last
  /-- A new window voids an approval. -/
  | invalidate {old last : ChangeStatus} {events : List AuditEvent} (organization : ℕ)
      (actor : AuditActor) (hold : old ∈ windowInvalidationStatuses)
      (rest : Trail c .pendingApproval events last) :
      Trail c old (approvalInvalidated organization actor c :: events) last

namespace Trail

variable {c : ℕ}

theorem append {old mid last : ChangeStatus} {events events' : List AuditEvent}
    (h : Trail c old events mid) (h' : Trail c mid events' last) :
    Trail c old (events ++ events') last := by
  induction h with
  | stay => exact h'
  | move organization actor hallowed _ ih => exact .move organization actor hallowed (ih h')
  | invalidate organization actor hold _ ih => exact .invalidate organization actor hold (ih h')

/-- A status without outgoing edges is not left. -/
theorem finished {old last : ChangeStatus} {events : List AuditEvent} (h : Trail c old events last)
    (hfinal : old.allowed = []) : last = old ∧ events = [] := by
  cases h with
  | stay => exact ⟨rfl, rfl⟩
  | move _ _ hallowed => simp [hfinal] at hallowed
  | invalidate _ _ hold =>
    simp only [windowInvalidationStatuses, List.mem_cons, List.not_mem_nil, or_false] at hold
    rcases hold with rfl | rfl <;> simp [ChangeStatus.allowed] at hfinal

end Trail

/-- What the events tell of a change that may be new; a new change starts as a draft. -/
inductive ChangeTrail (c : ℕ) : Option ChangeStatus → List AuditEvent → Option ChangeStatus → Prop
  where
  | absent : ChangeTrail c none [] none
  | created {events last} (h : Trail c .draft events last) : ChangeTrail c none events (some last)
  | existing {old events last} (h : Trail c old events last) :
      ChangeTrail c (some old) events (some last)

namespace ChangeTrail

variable {c : ℕ}

theorem refl : (st : Option ChangeStatus) → ChangeTrail c st [] st
  | none => .absent
  | some st => .existing (.stay st)

theorem append {old mid last : Option ChangeStatus} {events events' : List AuditEvent}
    (h : ChangeTrail c old events mid) (h' : ChangeTrail c mid events' last) :
    ChangeTrail c old (events ++ events') last := by
  cases h with
  | absent => exact h'
  | created h =>
    cases h' with
    | existing h' => exact .created (h.append h')
  | existing h =>
    cases h' with
    | existing h' => exact .existing (h.append h')

end ChangeTrail

/-- The status of change `c`, if there is one. -/
def Db.statusOf (s : Db) (c : ℕ) : Option ChangeStatus := (s.changes.get? c).map (·.status)

/-- The events about change `c`. -/
def eventsOf (c : ℕ) (events : List AuditEvent) : List AuditEvent :=
  events.filter (·.objectId = c)

@[simp] theorem eventsOf_nil (c : ℕ) : eventsOf c [] = [] := rfl

@[simp] theorem eventsOf_append (c : ℕ) (events events' : List AuditEvent) :
    eventsOf c (events ++ events') = eventsOf c events ++ eventsOf c events' :=
  List.filter_append ..

theorem eventsOf_singleton (c : ℕ) (event : AuditEvent) :
    eventsOf c [event] = if event.objectId = c then [event] else [] := by
  by_cases h : event.objectId = c <;> simp [eventsOf, h]

theorem Db.statusOf_eq_some {s : Db} {c : ℕ} {st : ChangeStatus} :
    s.statusOf c = some st ↔ s.ChangeIn st c := by
  simp [Db.statusOf, Db.ChangeIn]

/-- Between two states the new events about each change lead from its old status to its new
one. -/
def StatusTrail (s s' : Db) : Prop :=
  ∃ events, s'.statusEvents = s.statusEvents ++ events ∧
    ∀ c, ChangeTrail c (s.statusOf c) (eventsOf c events) (s'.statusOf c)

/-- The statuses of all changes, and the events that report them. -/
@[reducible] def statusCells : List Cell :=
  [.statusEvents, .changeStatus .draft, .changeStatus .pendingApproval, .changeStatus .approved,
    .changeStatus .scheduled, .changeStatus .dispatchable, .changeStatus .running,
    .changeStatus .verificationPending, .changeStatus .verificationFailed,
    .changeStatus .verified, .changeStatus .closed, .changeStatus .rejected,
    .changeStatus .canceled, .changeStatus .expired]

namespace StatusTrail

theorem of_sameOn {s s' : Db} (h : SameOn statusCells s s') : StatusTrail s s' := by
  have hevents : s.statusEvents = s'.statusEvents := h .statusEvents (by simp)
  have hstatus : ∀ st c, s.ChangeIn st c ↔ s'.ChangeIn st c := fun st =>
    h (.changeStatus st) (by cases st <;> simp)
  refine ⟨[], by simp [hevents], fun c => ?_⟩
  have hsame : s.statusOf c = s'.statusOf c := by
    ext st
    rw [Db.statusOf_eq_some, Db.statusOf_eq_some]
    exact hstatus st c
  rw [hsame]
  exact .refl _

instance : IsPreorder Db StatusTrail where
  refl s := of_sameOn (.refl _ s)
  trans := by
    rintro s s1 s' ⟨events, hevents, htrail⟩ ⟨events', hevents', htrail'⟩
    refine ⟨events ++ events', by rw [hevents', hevents, List.append_assoc], fun c => ?_⟩
    rw [eventsOf_append]
    exact (htrail c).append (htrail' c)

/-- **Frame rule**: a transaction that writes none of the cells leaves no trail. -/
theorem frame {W : List Cell} {α : Type} (t : Service W α)
    (hdisj : ∀ c ∈ statusCells, c ∉ W) : t.Follows StatusTrail :=
  (Tx.Follows.sameOn t hdisj).mono fun _ _ => of_sameOn

/-- One event, and the move of its change. -/
theorem of_event {s s' : Db} {c : ℕ} {old new : ChangeStatus} {event : AuditEvent}
    (hevents : s'.statusEvents = s.statusEvents ++ [event]) (hid : event.objectId = c)
    (hold : s.statusOf c = some old) (hnew : s'.statusOf c = some new)
    (hothers : ∀ i, i ≠ c → s'.statusOf i = s.statusOf i) (htrail : Trail c old [event] new) :
    StatusTrail s s' := by
  refine ⟨[event], hevents, fun i => ?_⟩
  rw [eventsOf_singleton]
  by_cases hi : i = c
  · subst hi
    rw [if_pos hid, hold, hnew]
    exact .existing htrail
  · rw [if_neg (by rw [hid]; exact Ne.symm hi), hothers i hi]
    exact .refl _

/-- **A status without outgoing edges is final.** -/
theorem finished {s s' : Db} (h : StatusTrail s s') {c : ℕ} {st : ChangeStatus}
    (hst : s.statusOf c = some st) (hfinal : st.allowed = []) : s'.statusOf c = some st := by
  obtain ⟨events, -, htrail⟩ := h
  have hc := htrail c
  rw [hst] at hc
  cases hlast : s'.statusOf c with
  | none =>
    rw [hlast] at hc
    cases hc
  | some last =>
    rw [hlast] at hc
    cases hc with
    | existing h => rw [(h.finished hfinal).1]

end StatusTrail

-- ════════════════════════════════════════════════════════════════════════
-- Moves
-- ════════════════════════════════════════════════════════════════════════

/-- The status of a change after a save. -/
theorem statusOf_modify (s : Db) (i : ℕ) (f : ChangeRecord → ChangeRecord) (audit : Table AuditEvent)
    (c : ℕ) : Db.statusOf { s with changes := s.changes.modify i f, audit } c =
      if c = i then (s.changes.get? c).map fun row => (f row).status else s.statusOf c := by
  unfold Db.statusOf
  rw [Table.get?_modify]
  split_ifs
  · rw [Option.map_map]
    rfl
  · rfl

/-- A status event goes to the end of the log. -/
theorem statusEvents_insert {s : Db} {event : AuditEvent} (h : event.isStatusEvent = true)
    (changes : Table ChangeRecord) :
    Db.statusEvents { s with changes, audit := s.audit.insert event } = s.statusEvents ++ [event] :=
  Table.log_insert_of_pos s.audit h

/-- **A transition** is an edge of the table with its event. -/
theorem transitionChange_trail (i : ℕ) (new : ChangeStatus) (actor : AuditActor) (now : Time)
    (reason : String) : (transitionChange i new actor now reason).Follows StatusTrail := by
  intro s old s' h
  obtain ⟨row, hrow, rfl, hallowed, rfl⟩ := transitionChange_ok.1 h
  refine .of_event (c := i) (statusEvents_insert (by rfl) _) rfl
    (by simp [Db.statusOf, hrow]) ?_ (fun c hc => ?_)
    (.move row.organization actor hallowed (.stay new))
  · rw [statusOf_modify, if_pos rfl, hrow]
    rfl
  · rw [statusOf_modify, if_neg hc]

/-- **An invalidation** voids an approval, with its event. -/
theorem invalidateChangeApproval_trail {c organization : ℕ} {actor : AuditActor} {s : Db}
    {row : ChangeRecord} (hrow : s.changes.get? c = some row)
    (hstatus : row.status ∈ windowInvalidationStatuses) :
    (invalidateChangeApproval c organization actor).FollowsFrom StatusTrail s := by
  intro u s' h
  simp only [invalidateChangeApproval, Tx.bind_ok, Tx.run_lift, emitEvent_ok] at h
  obtain ⟨_, s1, hmove, rfl⟩ := h
  obtain rfl := moveChange_ok.1 hmove
  refine .of_event (c := c)
    (statusEvents_insert (by rfl) _) rfl (by simp [Db.statusOf, hrow]) ?_ (fun i hi => ?_)
    (.invalidate organization actor hstatus (.stay _))
  · refine (statusOf_modify s c _ _ c).trans ?_
    rw [if_pos rfl, hrow]
    simp [hstatus]
  · exact (statusOf_modify s c _ _ i).trans (if_neg hi)

/-- A new change is a draft. -/
theorem insertChange_trail (change : ChangeRecord) (hdraft hlink) :
    (insertChange change hdraft hlink).Follows StatusTrail := by
  intro s c s' h
  obtain ⟨rfl, rfl⟩ := insertChange_ok.1 h
  refine ⟨[], by simp [Db.statusEvents], fun i => ?_⟩
  have hstatus : Db.statusOf { s with changes := s.changes.insert change } i =
      if i = s.changes.next then some .draft else s.statusOf i := by
    unfold Db.statusOf
    rw [Table.get?_insert]
    split_ifs
    · rw [Option.map_some, hdraft]
    · rfl
  rw [hstatus]
  split_ifs with hi
  · subst hi
    have hnone : s.statusOf s.changes.next = none := by simp [Db.statusOf]
    rw [hnone]
    exact .created (.stay _)
  · exact .refl _

/-- A transition on an object that was just loaded. -/
theorem transitionStaleChange_trail {name : TxName} {change : Loaded ChangeRecord}
    {new : ChangeStatus} {actor : AuditActor} {now : Time} {reason : String} {hnew : new ≠ .draft}
    {s : Db} (hrow : s.changes.get? change.id = some change.row) :
    (transitionStaleChange name change new actor now reason hnew).Runs StatusTrail s := by
  refine .read fun _ hallowed => ?_
  rw [ensure_ok] at hallowed
  have hexec : ((do
      Prog.atomic name (overwriteChange change.id (applyTransition new now reason)
        (applyTransition_evolves hnew now reason) (applyTransition_approvalRequest new now reason)
        (applyTransition_dossier new now reason) (applyTransition_retro new now reason))
      Prog.atomic .service
        (emitEvent (statusChanged change.row.organization actor change.id change.row.status new))
      : Handler (.audit :: .statusEvents :: changeCells) Unit).exec s).2 =
        { s with
          changes := s.changes.modify change.id (applyTransition new now reason)
          audit := s.audit.insert
            (statusChanged change.row.organization actor change.id change.row.status new) } := rfl
  unfold Prog.Runs
  rw [hexec]
  refine .of_event (c := change.id)
    (statusEvents_insert (by rfl) _) rfl (by simp [Db.statusOf, hrow]) ?_ (fun c hc => ?_)
    (.move change.row.organization actor hallowed (.stay new))
  · rw [statusOf_modify, if_pos rfl, hrow]
    rfl
  · rw [statusOf_modify, if_neg hc]

end RunbookPlatform
