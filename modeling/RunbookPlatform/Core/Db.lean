import RunbookPlatform.Core.Rows
import RunbookPlatform.Transactional.Table
import RunbookPlatform.Transactional.Prog

/-!
# The database

All tables of the modelled apps in one state, divided into cells. Most cells are
whole tables. The status columns of changes and of executions are divided further,
by value: a transaction that moves a change from `APPROVED` to `SCHEDULED` writes
the cells of these two statuses, and by its type leaves the changes that are
`RUNNING` alone. Some cells are about what becomes of rows: by its type, a transaction ends no
exception twice, or starts no session. Four cells are histories, which no footprint contains.

## Main definitions

- `Db`, `Reference` — the state; the rows that administrators edit
- `Cell`, `Db.agree` — its division
- `Relation` — access to one table
- `insertRow`, `updateRow`, `updateRows` — the writes of a table
-/

namespace RunbookPlatform

open Transactional

/-- Rows that the modelled services only read. -/
structure Reference where
  profiles : Table OperationProfile := .empty
  workflows : Table Workflow := .empty
  memberships : Table Membership := .empty
  users : List User := []
  pools : Table RunnerPool := .empty
  /-- Registered runners with their ids. -/
  runners : List (String × Runner) := []
  routes : Table TargetConnectivityRoute := .empty
  policies : Table Policy := .empty
  policyRules : Table PolicyRule := .empty

/-- The state of the platform: its tables and the clock. -/
structure Db where
  now : Time := 0
  reference : Reference := {}
  changes : Table ChangeRecord := .empty
  changeTargets : Table ChangeTarget := .empty
  bindings : Table ChangeExecutionBinding := .empty
  plans : Table VerificationPlan := .empty
  checks : Table VerificationCheck := .empty
  results : Table VerificationResult := .empty
  closures : Table ChangeClosure := .empty
  windows : Table ChangeWindow := .empty
  freezeRules : Table FreezeRule := .empty
  targetLocks : Table TargetLock := .empty
  preflights : Table DispatchEligibilityCheck := .empty
  exceptions : Table ChangeException := .empty
  sessions : Table BreakglassSession := .empty
  retroReviews : Table RetroReview := .empty
  executions : Table Execution := .empty
  steps : Table ExecutionStep := .empty
  approvals : Table ApprovalRequest := .empty
  decisions : Table ApprovalDecision := .empty
  evaluations : Table PolicyEvaluation := .empty
  leases : Table ExecutionLease := .empty
  artifacts : Table Artifact := .empty
  audit : Table AuditEvent := .empty

namespace Db

/-- The events that report new statuses of changes, in order. -/
def statusEvents (s : Db) : List AuditEvent := s.audit.log (·.isStatusEvent)

/-- Change `c` exists and has status `st`. -/
def ChangeIn (s : Db) (st : ChangeStatus) (c : ℕ) : Prop :=
  ∃ change, s.changes.get? c = some change ∧ change.status = st

/-- Request `a` is the one that change `c` is linked to. -/
def ApprovalOf (s : Db) (c a : ℕ) : Prop :=
  ∃ change, s.changes.get? c = some change ∧ change.approvalRequest = some a

/-- The retro-review columns of change `c`. -/
def retroOf (s : Db) (c : ℕ) : Option (Bool × String) :=
  (s.changes.get? c).map ChangeRecord.retro

/-- Execution `e` exists and has status `st`. -/
def ExecutionIn (s : Db) (st : ExecutionStatus) (e : ℕ) : Prop :=
  ∃ execution, s.executions.get? e = some execution ∧ execution.status = st

end Db

/-- The cells of the database. -/
inductive Cell where
  | clock | reference
  | changes
  /-- The set of changes with this status. -/
  | changeStatus (st : ChangeStatus)
  /-- Which approval requests changes are linked to. -/
  | changeApproval
  /-- Which changes there are, and their dossiers. -/
  | changeDossier
  /-- Which changes there are, and their retro-review columns. -/
  | changeRetro
  | changeTargets | bindings | plans | checks | results | closures | windows | freezeRules
  | targetLocks | preflights | exceptions
  /-- What exceptions say, apart from their expiry. -/
  | exceptionOutcome
  /-- The final statuses of exceptions. -/
  | exceptionEnds
  | sessions
  /-- Which sessions there are, what they open, and that those that are over stay so. -/
  | sessionRows
  /-- The statuses of the sessions that are over. -/
  | sessionEnds
  /-- The submitted reviews of sessions. Only a session that is active beyond its end may lose
  its review. -/
  | sessionReviews
  | retroReviews
  | executions
  /-- The set of executions with this status. -/
  | executionStatus (st : ExecutionStatus)
  | steps | approvals | decisions | evaluations | leases | artifacts | audit
  /-- The audit events that report new statuses of changes. -/
  | statusEvents
  /-- The columns that a change keeps for good. -/
  | changeIdentity
  /-- The columns that a step keeps for good, and its status once that is final. -/
  | stepHistory
  /-- The columns that a request keeps for good, and its status once that is decided. -/
  | approvalHistory
  /-- The columns that an exception keeps for good, and that it is no longer pending. -/
  | exceptionHistory
  deriving DecidableEq

/-- What it means for two states to agree on a cell. -/
def Db.agree : Cell → Db → Db → Prop
  | .clock, s, t => s.now = t.now
  | .reference, s, t => s.reference = t.reference
  | .changes, s, t => s.changes = t.changes
  | .changeStatus st, s, t => ∀ c, s.ChangeIn st c ↔ t.ChangeIn st c
  | .changeApproval, s, t => ∀ c a, s.ApprovalOf c a ↔ t.ApprovalOf c a
  | .changeDossier, s, t =>
    ∀ c, (s.changes.get? c).map ChangeRecord.dossier = (t.changes.get? c).map ChangeRecord.dossier
  | .changeRetro, s, t => ∀ c, s.retroOf c = t.retroOf c
  | .changeTargets, s, t => s.changeTargets = t.changeTargets
  | .bindings, s, t => s.bindings = t.bindings
  | .plans, s, t => s.plans = t.plans
  | .checks, s, t => s.checks = t.checks
  | .results, s, t => s.results = t.results
  | .closures, s, t => s.closures = t.closures
  | .windows, s, t => s.windows = t.windows
  | .freezeRules, s, t => s.freezeRules = t.freezeRules
  | .targetLocks, s, t => s.targetLocks = t.targetLocks
  | .preflights, s, t => s.preflights = t.preflights
  | .exceptions, s, t => s.exceptions = t.exceptions
  | .exceptionOutcome, s, t =>
    s.exceptions.Moves (fun old new => new = { old with status := .expired }) t.exceptions
  | .exceptionEnds, s, t =>
    s.exceptions.Evolves (fun old new => old.status.isFinal = true → new.status = old.status)
      t.exceptions
  | .sessions, s, t => s.sessions = t.sessions
  | .sessionRows, s, t => s.sessions.Moves BreakglassSession.Evolves t.sessions
  | .sessionEnds, s, t =>
    s.sessions.Evolves (fun old new => old.status ≠ .active → new.status = old.status) t.sessions
  | .sessionReviews, s, t =>
    s.now ≤ t.now ∧ s.sessions.Evolves (BreakglassSession.Reviewed t.now) t.sessions
  | .retroReviews, s, t => s.retroReviews = t.retroReviews
  | .executions, s, t => s.executions = t.executions
  | .executionStatus st, s, t => ∀ e, s.ExecutionIn st e ↔ t.ExecutionIn st e
  | .steps, s, t => s.steps = t.steps
  | .approvals, s, t => s.approvals = t.approvals
  | .decisions, s, t => s.decisions = t.decisions
  | .evaluations, s, t => s.evaluations = t.evaluations
  | .leases, s, t => s.leases = t.leases
  | .artifacts, s, t => s.artifacts = t.artifacts
  | .audit, s, t => s.audit = t.audit
  | .statusEvents, s, t => s.statusEvents = t.statusEvents
  | .changeIdentity, s, t => s.changes.Evolves ChangeRecord.Evolves t.changes
  | .stepHistory, s, t => s.steps.Evolves ExecutionStep.Evolves t.steps
  | .approvalHistory, s, t => s.approvals.Evolves ApprovalRequest.Evolves t.approvals
  | .exceptionHistory, s, t => s.exceptions.Evolves ChangeException.Evolves t.exceptions

theorem Db.agree_refl (c : Cell) (s : Db) : Db.agree c s s := by
  cases c with
  | changeStatus | executionStatus => exact fun _ => Iff.rfl
  | changeApproval => exact fun _ _ => Iff.rfl
  | changeDossier | changeRetro => exact fun _ => rfl
  | changeIdentity => exact Table.Evolves.refl ChangeRecord.Evolves.refl s.changes
  | stepHistory => exact Table.Evolves.refl ExecutionStep.Evolves.refl s.steps
  | approvalHistory => exact Table.Evolves.refl ApprovalRequest.Evolves.refl s.approvals
  | exceptionHistory => exact Table.Evolves.refl ChangeException.Evolves.refl s.exceptions
  | exceptionOutcome => exact Table.Moves.refl s.exceptions
  | exceptionEnds => exact Table.Evolves.refl (fun _ _ => rfl) s.exceptions
  | sessionRows => exact Table.Moves.refl s.sessions
  | sessionEnds => exact Table.Evolves.refl (fun _ _ => rfl) s.sessions
  | sessionReviews => exact ⟨le_rfl, Table.Evolves.refl BreakglassSession.Reviewed.refl s.sessions⟩
  | _ => rfl

theorem Db.agree_trans {c : Cell} {s t u : Db} (h1 : Db.agree c s t) (h2 : Db.agree c t u) :
    Db.agree c s u := by
  cases c with
  | changeStatus | executionStatus => exact fun x => (h1 x).trans (h2 x)
  | changeApproval => exact fun c a => (h1 c a).trans (h2 c a)
  | changeDossier | changeRetro => exact fun c => (h1 c).trans (h2 c)
  | changeIdentity => exact Table.Evolves.trans (R := ChangeRecord.Evolves) (fun _ _ _ => .trans) h1 h2
  | stepHistory => exact Table.Evolves.trans (R := ExecutionStep.Evolves) (fun _ _ _ => .trans) h1 h2
  | approvalHistory => exact Table.Evolves.trans (R := ApprovalRequest.Evolves) (fun _ _ _ => .trans) h1 h2
  | exceptionHistory => exact Table.Evolves.trans (R := ChangeException.Evolves) (fun _ _ _ => .trans) h1 h2
  | exceptionOutcome =>
    refine Table.Moves.trans (fun a b c hb hc => ?_) h1 h2
    rw [hc, hb]
  | exceptionEnds =>
    refine Table.Evolves.trans (fun a b c hb hc hfinal => ?_) h1 h2
    rw [hc (hb hfinal ▸ hfinal), hb hfinal]
  | sessionRows => exact Table.Moves.trans (R := BreakglassSession.Evolves) (fun _ _ _ => .trans) h1 h2
  | sessionEnds =>
    refine Table.Evolves.trans (fun a b c hb hc hover => ?_) h1 h2
    rw [hc (hb hover ▸ hover), hb hover]
  | sessionReviews =>
    refine ⟨h1.1.trans h2.1, fun i row hrow => ?_⟩
    obtain ⟨row1, hrow1, hR1⟩ := h1.2 i row hrow
    obtain ⟨row2, hrow2, hR2⟩ := h2.2 i row1 hrow1
    exact ⟨row2, hrow2, hR1.trans hR2 h2.1⟩
  | _ => exact Eq.trans h1 h2

/-- The cells that no transaction writes. -/
@[reducible] def historyCells : List Cell :=
  [.changeIdentity, .stepHistory, .approvalHistory, .exceptionHistory]

instance : Cells Db Cell where
  agree := Db.agree
  agree_refl := Db.agree_refl
  agree_trans := Db.agree_trans

/-- A failure of a service. -/
inductive ErrKind where
  | validation | conflict | invalidStateTransition | invalidWorkflowDefinition
  | payloadTooLarge | externalDependency | permission | notFound
  /-- An exception that is not one of the platform's own. -/
  | uncaught
  deriving DecidableEq

/-- An exception: its class, `code` and `detail`. -/
structure Err where
  kind : ErrKind
  code : String
  detail : String := ""
  /-- What the raising code left in a local variable for the handler. -/
  mark : String := ""
  deriving DecidableEq

/-- `DomainValidationError`. -/
def Err.validation (code detail : String) : Err := { kind := .validation, code, detail }

/-- `DomainConflictError`. -/
def Err.conflict (code detail : String) : Err := { kind := .conflict, code, detail }

/-- `InvalidStateTransitionError`. -/
def Err.transition (code detail : String) : Err :=
  { kind := .invalidStateTransition, code, detail }

/-- `InvalidWorkflowDefinitionError`. -/
def Err.workflow (code detail : String) : Err :=
  { kind := .invalidWorkflowDefinition, code, detail }

/-- `DoesNotExist`, and the 404 a view makes of it. -/
def Err.notFound (model : String) : Err :=
  { kind := .notFound, code := "not_found", detail := model }

/-- A Python exception that no handler of the platform expects. -/
def Err.uncaught (exception : String) : Err := { kind := .uncaught, code := exception }

/-- The names of transactions, for conditions on runs. -/
inductive TxName where
  /-- A transaction that no condition mentions. -/
  | service
  /-- The claim of a registered runner, or of an unregistered one. -/
  | claim (runner : Option Runner)
  /-- The expiry of a claimed dispatch's change by the response serializer. -/
  | serializeClaim (change : ℕ)
  /-- The expiry that follows a rejected bind. -/
  | rejectBind (change : ℕ)
  /-- The locked part of a step start, with the outcome of the evaluation before it. -/
  | startStep (step : ℕ) (outcome : PolicyOutcome)
  /-- The locked part of an approval poll. -/
  | pollStep (step : ℕ)
  /-- A runner's report about a step. -/
  | updateStep (step : ℕ)
  /-- The save of a heartbeat. -/
  | heartbeat (execution : ℕ)
  | completeExecution (execution : ℕ) (outcome : ExecutionStatus)
  /-- The move of a change that follows the end of its execution. -/
  | completionHook (change : ℕ)
  | recoverExecution (execution : ℕ) (staleBefore : Time)
  | recoverApproval (approval : ℕ) (now : Time)
  | submitChange (change : ℕ)
  | saveWindow (change : ℕ)
  | dispatch (change : ℕ)
  /-- The dispatch of a scheduled change that was due at an instant. -/
  | promote (change : ℕ) (now : Time)
  | submitResult (change : ℕ)
  | closeChange (change : ℕ)
  | decideApproval (approval : ℕ) (decision : HumanDecision)
  /-- A direct decision on an exception. -/
  | decideException (exc : ℕ)
  /-- The save of one exception that was found over. -/
  | expireException (exc : ℕ)
  | cancelExecution (execution : ℕ)
  /-- The save of an exception that a user resolves. -/
  | resolveException (exc : ℕ)
  | activateBreakglass (change : ℕ)
  /-- The save of one session that was found active, at its end. -/
  | endSession (session : ℕ)
  /-- The save of one session that was found over. -/
  | expireSession (session : ℕ)
  | submitReview (review : ℕ)
  /-- The save of one session whose review was found late. -/
  | markSessionOverdue (session : ℕ)
  /-- The save of one change with a review that was found late. -/
  | markReviewOverdue (change : ℕ)
  deriving Inhabited

/-- A read that may fail. -/
abbrev Read (α : Type) := Query Db Err α

/-- A service function: one transaction, or a part of one. -/
abbrev Service (W : List Cell) (α : Type) := Tx Db Err W α

/-- A request handler: transactions one after another. -/
abbrev Handler (W : List Cell) (α : Type) := Prog Db Err TxName W α

-- Footprints that more than one module writes have an instance with a name.

instance within_exceptions : Within [Cell.exceptions, .exceptionOutcome, .exceptionEnds]
    [.exceptions, .exceptionOutcome, .exceptionEnds] := ⟨List.Subset.refl _⟩

instance within_sessionAudit :
    Within [Cell.audit] [.sessions, .sessionEnds, .sessionReviews, .audit] := ⟨by decide⟩

instance within_lockAudit : Within [Cell.targetLocks] [.targetLocks, .audit] := ⟨by decide⟩

instance within_auditLocks : Within [Cell.audit] [.targetLocks, .audit] := ⟨by decide⟩

-- ════════════════════════════════════════════════════════════════════════
-- Tables
-- ════════════════════════════════════════════════════════════════════════

/-- Access to one table of the database; writing it touches the cells `W`. Its rows can only
change as `E` says. -/
structure Relation (Row : Type) (W : List Cell) (E : Row → Row → Prop := fun _ _ => True) where
  get : Db → Table Row
  set : Db → Table Row → Db
  get_set : ∀ s t, get (set s t) = t := by intro _ _; rfl
  evolves_refl : ∀ row, E row row := by intro _; trivial
  frame : ∀ s t c, (get s).Evolves E t → c ∉ W → Cells.agree c s (set s t) := by
    intro s t c h hc
    have hrefl := Cells.agree_refl c s
    cases c <;> first
      | exact hrefl
      | exact h
      | simp at hc

variable {Row : Type} {E : Row → Row → Prop} {V W : List Cell} [hW : Within V W]

/-- A query over the tables. -/
def select {α : Type} (f : Db → α) : Read α := fun s => .ok (f s)

@[simp] theorem select_ok {α : Type} {f : Db → α} {s : Db} {a : α} :
    select f s = .ok a ↔ f s = a := by
  simp [select]

/-- A model instance in memory: its key and the columns it was loaded with. -/
structure Loaded (Row : Type) where
  id : ℕ
  row : Row

/-- `objects.filter(...)`, oldest first. -/
def rowsWhere (t : Table Row) (p : Row → Bool) : List (Loaded Row) :=
  (t.keys fun _ row => p row).filterMap fun i => (t.get? i).map fun row => ⟨i, row⟩

omit hW in
theorem mem_rowsWhere {t : Table Row} {p : Row → Bool} {i : ℕ} {row : Row} :
    ⟨i, row⟩ ∈ rowsWhere t p ↔ t.get? i = some row ∧ p row = true := by
  simp only [rowsWhere, List.mem_filterMap, Option.map_eq_some_iff, Loaded.mk.injEq,
    Table.mem_keys]
  constructor
  · rintro ⟨j, ⟨r, hr, hp⟩, r', hr', rfl, rfl⟩
    rw [hr] at hr'
    cases hr'
    exact ⟨hr, hp⟩
  · rintro ⟨hr, hp⟩
    exact ⟨i, ⟨row, hr, hp⟩, row, hr, rfl, rfl⟩

omit hW in
/-- Each row is found once. -/
theorem nodup_rowsWhere (t : Table Row) (p : Row → Bool) :
    ((rowsWhere t p).map (·.id)).Nodup := by
  have hids : (rowsWhere t p).map (·.id) = t.keys fun _ row => p row := by
    rw [rowsWhere, List.map_filterMap]
    refine (List.filterMap_congr fun i hi => ?_).trans List.filterMap_some
    obtain ⟨row, hrow, -⟩ := Table.mem_keys.1 hi
    rw [hrow]
    rfl
  rw [hids]
  exact t.nodup_keys _

omit hW in
/-- The rows stand in the order of their ids. -/
theorem pairwise_rowsWhere (t : Table Row) (p : Row → Bool) :
    (rowsWhere t p).Pairwise fun a b => a.id < b.id := by
  have hkeys : (t.keys fun _ row => p row).Pairwise (· < ·) := List.pairwise_lt_range.filter _
  rw [rowsWhere, List.pairwise_filterMap]
  refine hkeys.imp fun hlt a ha b hb => ?_
  obtain ⟨_, -, rfl⟩ := Option.map_eq_some_iff.1 ha
  obtain ⟨_, -, rfl⟩ := Option.map_eq_some_iff.1 hb
  exact hlt

omit hW in
/-- An inserted row comes last. -/
theorem rowsWhere_insert (t : Table Row) (row : Row) (p : Row → Bool) :
    rowsWhere (t.insert row) p = rowsWhere t p ++ if p row then [⟨t.next, row⟩] else [] := by
  have hold : ((t.keys fun _ row => p row).filterMap fun i =>
      ((t.insert row).get? i).map fun row => (⟨i, row⟩ : Loaded Row)) = rowsWhere t p := by
    refine List.filterMap_congr fun i hi => ?_
    obtain ⟨old, hrow, -⟩ := Table.mem_keys.1 hi
    rw [Table.get?_insert_of_some row hrow, hrow]
  rw [rowsWhere, Table.keys_insert, List.filterMap_append, hold]
  split_ifs
  · simp
  · rfl

omit hW in
/-- What a choice among the elements of a list keeps, beyond what it began with, is one of
them. -/
theorem mem_of_foldl_choice {α : Type} {choose : Option α → α → Option α}
    (hchoose : ∀ best x, choose best x = some x ∨ choose best x = best) {a : α} (xs : List α)
    {best : Option α} (h : xs.foldl choose best = some a) : best = some a ∨ a ∈ xs := by
  induction xs generalizing best with
  | nil => exact .inl h
  | cons x xs ih =>
    rcases ih h with hfirst | hrest
    · rcases hchoose best x with hx | hkept
      · rw [hx, Option.some.injEq] at hfirst
        exact .inr (hfirst ▸ List.mem_cons_self)
      · exact .inl (hkept.symm.trans hfirst)
    · exact .inr (List.mem_cons_of_mem _ hrest)

/-- `if not c: raise e`. -/
def ensure (c : Prop) [Decidable c] (e : Err) : Read Unit := require c e

@[simp] theorem ensure_ok {c : Prop} [Decidable c] {e : Err} {s : Db} {u : Unit} :
    ensure c e s = .ok u ↔ c :=
  require_ok

/-- The value of an option; `e` is raised when there is none. -/
def expect {α : Type} (o : Option α) (e : Err) : Read α := requireSome o e

@[simp] theorem expect_ok {α : Type} {o : Option α} {e : Err} {s : Db} {a : α} :
    expect o e s = .ok a ↔ o = some a :=
  requireSome_ok

/-- The value of a computation; its exception is raised. -/
def ofExcept {α : Type} (x : Except Err α) : Read α := fun _ => x

@[simp] theorem ofExcept_apply {α : Type} {x : Except Err α} {s : Db} : ofExcept x s = x := rfl

/-- `raise e`. -/
def raise {α : Type} (e : Err) : Read α := Query.fail e

@[simp] theorem raise_apply {α : Type} {e : Err} {s : Db} :
    (raise e : Read α) s = .error e := rfl

/-- `timezone.now()`. -/
def timezoneNow : Read Time := select Db.now

/-- `objects.get(pk=i)`. -/
def lookup (table : Db → Table Row) (model : String) (i : ℕ) : Read Row := fun s =>
  match (table s).get? i with
  | some row => .ok row
  | none => .error (.notFound model)

@[simp] theorem lookup_ok {table : Db → Table Row} {model : String} {i : ℕ} {s : Db}
    {row : Row} : lookup table model i s = .ok row ↔ (table s).get? i = some row := by
  unfold lookup
  cases (table s).get? i <;> simp

/-- `objects.create(...)`. Returns the new key. -/
def insertRow (R : Relation Row V E) (row : Row) : Service W ℕ :=
  Tx.write (fun s => ((R.get s).next, R.set s ((R.get s).insert row)))
    fun s c hc => R.frame s _ c (.insert R.evolves_refl _ row) (mt (hW.sub ·) hc)

/-- `save()` of the row with key `i`. -/
def updateRow (R : Relation Row V E) (i : ℕ) (f : Row → Row)
    (hf : ∀ row, E row (f row) := by intro _; trivial) : Service W Unit :=
  Tx.write (fun s => ((), R.set s ((R.get s).modify i f)))
    fun s c hc => R.frame s _ c (.modify R.evolves_refl hf _ i) (mt (hW.sub ·) hc)

/-- `objects.filter(...).update(...)`. -/
def updateRows (R : Relation Row V E) (p : Row → Bool) (f : Row → Row)
    (hf : ∀ row, E row (f row) := by intro _; trivial) : Service W Unit :=
  Tx.write (fun s => ((), R.set s ((R.get s).modifyWhere p f)))
    fun s c hc => R.frame s _ c (.modifyWhere R.evolves_refl hf _ p) (mt (hW.sub ·) hc)

theorem insertRow_ok {R : Relation Row V E} {row : Row} {s s' : Db} {i : ℕ} :
    (insertRow (W := W) R row).run s = .ok (i, s') ↔
      i = (R.get s).next ∧ s' = R.set s ((R.get s).insert row) :=
  Tx.write_ok

theorem updateRow_ok {R : Relation Row V E} {i : ℕ} {f : Row → Row} {hf} {s s' : Db} {u : Unit} :
    (updateRow (W := W) R i f hf).run s = .ok (u, s') ↔ s' = R.set s ((R.get s).modify i f) :=
  Tx.write_ok.trans (and_iff_right rfl)

theorem updateRows_ok {R : Relation Row V E} {p : Row → Bool} {f : Row → Row} {hf} {s s' : Db}
    {u : Unit} :
    (updateRows (W := W) R p f hf).run s = .ok (u, s') ↔ s' = R.set s ((R.get s).modifyWhere p f) :=
  Tx.write_ok.trans (and_iff_right rfl)

/-- What a violated constraint raises. -/
def Err.integrity : Err := .uncaught "IntegrityError"

/-- `objects.create(...)` under a unique constraint: no row may `clash` with the new one. -/
def insertUnique (R : Relation Row V E) (clash : Row → Bool) (row : Row) : Service W ℕ := do
  let taken ← select fun s => ((R.get s).find? fun _ r => clash r).isSome
  ensure (taken = false) .integrity
  insertRow R row

theorem insertUnique_ok {R : Relation Row V E} {clash : Row → Bool} {row : Row} {s s' : Db}
    {i : ℕ} :
    (insertUnique (W := W) R clash row).run s = .ok (i, s') ↔
      (∀ j r, (R.get s).get? j = some r → clash r = false) ∧
        i = (R.get s).next ∧ s' = R.set s ((R.get s).insert row) := by
  simp only [insertUnique, Tx.bind_ok, Tx.lift_query_ok, select_ok, ensure_ok, insertRow_ok]
  constructor
  · rintro ⟨_, _, ⟨rfl, rfl⟩, -, _, ⟨hfree, rfl⟩, rfl, rfl⟩
    rw [Option.isSome_eq_false_iff, Option.isNone_iff_eq_none] at hfree
    exact ⟨fun j r hr => Table.find?_none.1 hfree j r hr, rfl, rfl⟩
  · rintro ⟨hfree, rfl, rfl⟩
    have hnone : (R.get s).find? (fun _ r => clash r) = none := Table.find?_none.2 hfree
    exact ⟨false, s, ⟨by simp [hnone], rfl⟩, (), s, ⟨rfl, rfl⟩, rfl, rfl⟩

section

variable {C : List Cell}

/-- **Frame rule** for insertions: only the cells of the table change. -/
theorem insertRow_follows (R : Relation Row V E) (row : Row)
    (hdisj : ∀ c ∈ C, c ∉ V) : (insertRow (W := W) R row).Follows (SameOn C) :=
  Tx.Follows.sameOn (insertRow (W := V) R row) hdisj

/-- **Frame rule** for insertions under a unique constraint. -/
theorem insertUnique_follows (R : Relation Row V E) (clash : Row → Bool) (row : Row)
    (hdisj : ∀ c ∈ C, c ∉ V) :
    (insertUnique (W := W) R clash row).Follows (SameOn C) :=
  Tx.Follows.sameOn (insertUnique (W := V) R clash row) hdisj

/-- **Frame rule** for the update of a row. -/
theorem updateRow_follows (R : Relation Row V E) (i : ℕ) (f : Row → Row) (hf)
    (hdisj : ∀ c ∈ C, c ∉ V) :
    (updateRow (W := W) R i f hf).Follows (SameOn C) :=
  Tx.Follows.sameOn (updateRow (W := V) R i f hf) hdisj

end

namespace Rel

/-- The `changeTargets` table. -/
def changeTargets : Relation ChangeTarget [.changeTargets] where
  get s := s.changeTargets
  set s t := { s with changeTargets := t }

@[simp] theorem changeTargets_get (s : Db) : changeTargets.get s = s.changeTargets := rfl

@[simp] theorem changeTargets_set (s : Db) (t : Table ChangeTarget) :
    changeTargets.set s t = { s with changeTargets := t } := rfl

/-- The `bindings` table. -/
def bindings : Relation ChangeExecutionBinding [.bindings] where
  get s := s.bindings
  set s t := { s with bindings := t }

@[simp] theorem bindings_get (s : Db) : bindings.get s = s.bindings := rfl

@[simp] theorem bindings_set (s : Db) (t : Table ChangeExecutionBinding) :
    bindings.set s t = { s with bindings := t } := rfl

/-- The `plans` table. -/
def plans : Relation VerificationPlan [.plans] where
  get s := s.plans
  set s t := { s with plans := t }

@[simp] theorem plans_get (s : Db) : plans.get s = s.plans := rfl

@[simp] theorem plans_set (s : Db) (t : Table VerificationPlan) :
    plans.set s t = { s with plans := t } := rfl

/-- The `checks` table. -/
def checks : Relation VerificationCheck [.checks] where
  get s := s.checks
  set s t := { s with checks := t }

@[simp] theorem checks_get (s : Db) : checks.get s = s.checks := rfl

@[simp] theorem checks_set (s : Db) (t : Table VerificationCheck) :
    checks.set s t = { s with checks := t } := rfl

/-- The `results` table. -/
def results : Relation VerificationResult [.results] where
  get s := s.results
  set s t := { s with results := t }

@[simp] theorem results_get (s : Db) : results.get s = s.results := rfl

@[simp] theorem results_set (s : Db) (t : Table VerificationResult) :
    results.set s t = { s with results := t } := rfl

/-- The `closures` table. -/
def closures : Relation ChangeClosure [.closures] where
  get s := s.closures
  set s t := { s with closures := t }

@[simp] theorem closures_get (s : Db) : closures.get s = s.closures := rfl

@[simp] theorem closures_set (s : Db) (t : Table ChangeClosure) :
    closures.set s t = { s with closures := t } := rfl

/-- The `windows` table. -/
def windows : Relation ChangeWindow [.windows] where
  get s := s.windows
  set s t := { s with windows := t }

@[simp] theorem windows_get (s : Db) : windows.get s = s.windows := rfl

@[simp] theorem windows_set (s : Db) (t : Table ChangeWindow) :
    windows.set s t = { s with windows := t } := rfl

/-- The `freezeRules` table. -/
def freezeRules : Relation FreezeRule [.freezeRules] where
  get s := s.freezeRules
  set s t := { s with freezeRules := t }

@[simp] theorem freezeRules_get (s : Db) : freezeRules.get s = s.freezeRules := rfl

@[simp] theorem freezeRules_set (s : Db) (t : Table FreezeRule) :
    freezeRules.set s t = { s with freezeRules := t } := rfl

/-- The `targetLocks` table. -/
def targetLocks : Relation TargetLock [.targetLocks] where
  get s := s.targetLocks
  set s t := { s with targetLocks := t }

@[simp] theorem targetLocks_get (s : Db) : targetLocks.get s = s.targetLocks := rfl

@[simp] theorem targetLocks_set (s : Db) (t : Table TargetLock) :
    targetLocks.set s t = { s with targetLocks := t } := rfl

/-- The `preflights` table. -/
def preflights : Relation DispatchEligibilityCheck [.preflights] where
  get s := s.preflights
  set s t := { s with preflights := t }

@[simp] theorem preflights_get (s : Db) : preflights.get s = s.preflights := rfl

@[simp] theorem preflights_set (s : Db) (t : Table DispatchEligibilityCheck) :
    preflights.set s t = { s with preflights := t } := rfl

/-- The `exceptions` table. -/
def exceptions : Relation ChangeException [.exceptions, .exceptionOutcome, .exceptionEnds]
    ChangeException.Evolves where
  get s := s.exceptions
  set s t := { s with exceptions := t }
  evolves_refl := ChangeException.Evolves.refl

@[simp] theorem exceptions_get (s : Db) : exceptions.get s = s.exceptions := rfl

@[simp] theorem exceptions_set (s : Db) (t : Table ChangeException) :
    exceptions.set s t = { s with exceptions := t } := rfl

/-- The `sessions` table. -/
def sessions : Relation BreakglassSession [.sessions, .sessionRows, .sessionEnds, .sessionReviews]
    where
  get s := s.sessions
  set s t := { s with sessions := t }

@[simp] theorem sessions_get (s : Db) : sessions.get s = s.sessions := rfl

@[simp] theorem sessions_set (s : Db) (t : Table BreakglassSession) :
    sessions.set s t = { s with sessions := t } := rfl

/-- The `retroReviews` table. -/
def retroReviews : Relation RetroReview [.retroReviews] where
  get s := s.retroReviews
  set s t := { s with retroReviews := t }

@[simp] theorem retroReviews_get (s : Db) : retroReviews.get s = s.retroReviews := rfl

@[simp] theorem retroReviews_set (s : Db) (t : Table RetroReview) :
    retroReviews.set s t = { s with retroReviews := t } := rfl

/-- The `steps` table. -/
def steps : Relation ExecutionStep [.steps] ExecutionStep.Evolves where
  get s := s.steps
  set s t := { s with steps := t }
  evolves_refl := ExecutionStep.Evolves.refl

@[simp] theorem steps_get (s : Db) : steps.get s = s.steps := rfl

@[simp] theorem steps_set (s : Db) (t : Table ExecutionStep) :
    steps.set s t = { s with steps := t } := rfl

/-- The `approvals` table. -/
def approvals : Relation ApprovalRequest [.approvals] ApprovalRequest.Evolves where
  get s := s.approvals
  set s t := { s with approvals := t }
  evolves_refl := ApprovalRequest.Evolves.refl

@[simp] theorem approvals_get (s : Db) : approvals.get s = s.approvals := rfl

@[simp] theorem approvals_set (s : Db) (t : Table ApprovalRequest) :
    approvals.set s t = { s with approvals := t } := rfl

/-- The `decisions` table. -/
def decisions : Relation ApprovalDecision [.decisions] where
  get s := s.decisions
  set s t := { s with decisions := t }

@[simp] theorem decisions_get (s : Db) : decisions.get s = s.decisions := rfl

@[simp] theorem decisions_set (s : Db) (t : Table ApprovalDecision) :
    decisions.set s t = { s with decisions := t } := rfl

/-- The `evaluations` table. -/
def evaluations : Relation PolicyEvaluation [.evaluations] where
  get s := s.evaluations
  set s t := { s with evaluations := t }

@[simp] theorem evaluations_get (s : Db) : evaluations.get s = s.evaluations := rfl

@[simp] theorem evaluations_set (s : Db) (t : Table PolicyEvaluation) :
    evaluations.set s t = { s with evaluations := t } := rfl

/-- The `leases` table. -/
def leases : Relation ExecutionLease [.leases] where
  get s := s.leases
  set s t := { s with leases := t }

@[simp] theorem leases_get (s : Db) : leases.get s = s.leases := rfl

@[simp] theorem leases_set (s : Db) (t : Table ExecutionLease) :
    leases.set s t = { s with leases := t } := rfl

/-- The `artifacts` table. -/
def artifacts : Relation Artifact [.artifacts] where
  get s := s.artifacts
  set s t := { s with artifacts := t }

@[simp] theorem artifacts_get (s : Db) : artifacts.get s = s.artifacts := rfl

@[simp] theorem artifacts_set (s : Db) (t : Table Artifact) :
    artifacts.set s t = { s with artifacts := t } := rfl

/-- The `audit` table. -/
def audit : Relation AuditEvent [.audit, .statusEvents] where
  get s := s.audit
  set s t := { s with audit := t }

@[simp] theorem audit_get (s : Db) : audit.get s = s.audit := rfl

@[simp] theorem audit_set (s : Db) (t : Table AuditEvent) :
    audit.set s t = { s with audit := t } := rfl

end Rel

-- ════════════════════════════════════════════════════════════════════════
-- Exceptions and sessions
-- ════════════════════════════════════════════════════════════════════════

/-- Insert an exception. -/
def createException (exc : ChangeException) : Service [.exceptions, .exceptionOutcome] ℕ :=
  (insertRow (W := [.exceptions, .exceptionOutcome, .exceptionEnds]) Rel.exceptions exc).narrow <| by
    intro s i s' h c hc
    by_cases hends : c = .exceptionEnds
    · subst hends
      obtain ⟨-, rfl⟩ := insertRow_ok.1 h
      exact .insert (fun _ _ => rfl) _ _
    · exact Tx.frame _ h c (by simp_all)

/-- Save the expiry of an exception, whatever its status is. -/
def lapseException (i : ℕ) : Service [.exceptions, .exceptionEnds] Unit :=
  (updateRow (W := [.exceptions, .exceptionOutcome, .exceptionEnds]) Rel.exceptions i
    (fun exc => { exc with status := .expired }) fun _ => ⟨rfl, fun _ => nofun⟩).narrow <| by
    intro s u s' h c hc
    by_cases houtcome : c = .exceptionOutcome
    · subst houtcome
      obtain rfl := updateRow_ok.1 h
      exact Table.Moves.modify (R := fun old new : ChangeException => new = { old with status := .expired })
        (fun _ => rfl) s.exceptions i
    · exact Tx.frame _ h c (by simp_all)

/-- Insert a session. -/
def createSession (clash : BreakglassSession → Bool) (session : BreakglassSession) :
    Service [.sessions, .sessionRows] ℕ :=
  (insertUnique (W := [.sessions, .sessionRows, .sessionEnds, .sessionReviews]) Rel.sessions clash
    session).narrow <| by
    intro s i s' h c hc
    by_cases hends : c = .sessionEnds
    · subst hends
      obtain ⟨-, -, rfl⟩ := insertUnique_ok.1 h
      exact .insert (fun _ _ => rfl) _ _
    · by_cases hreviews : c = .sessionReviews
      · subst hreviews
        obtain ⟨-, -, rfl⟩ := insertUnique_ok.1 h
        exact ⟨le_rfl, .insert BreakglassSession.Reviewed.refl _ _⟩
      · exact Tx.frame _ h c (by simp_all)

/-- Save columns of a session. Unless the footprint says so, this leaves the status of a session
that is over and a submitted review as they are. -/
def saveSession (i : ℕ) (f : BreakglassSession → BreakglassSession)
    (hW : .sessions ∈ W := by decide)
    (hevolves : ∀ b : BreakglassSession, b.Evolves (f b) := by
      intro _
      first
        | exact ⟨rfl, fun h => h⟩
        | exact ⟨rfl, nofun⟩)
    (hends : Cell.sessionEnds ∉ W → ∀ b : BreakglassSession, b.status ≠ .active →
      (f b).status = b.status := by
        first
          | exact fun h => absurd (by decide) h
          | exact fun _ _ _ => rfl)
    (hreviews : Cell.sessionReviews ∉ W → ∀ b : BreakglassSession, b.reviewStatus = .submitted →
      (f b).reviewStatus = .submitted := by
        first
          | exact fun h => absurd (by decide) h
          | exact fun _ _ h => h
          | exact fun _ _ _ => rfl) :
    Service W Unit :=
  Tx.write (fun s => ((), { s with sessions := s.sessions.modify i f })) <| by
    intro s c hc
    have hrefl := Cells.agree_refl c s
    cases c with
    | sessions => exact absurd hW hc
    | sessionRows => exact .modify hevolves _ _
    | sessionEnds => exact .modify (fun _ _ => rfl) (hends hc) _ _
    | sessionReviews =>
      exact ⟨le_rfl, .modify BreakglassSession.Reviewed.refl
        (fun b => ⟨hevolves b, fun h => .inl (hreviews hc b h)⟩) _ _⟩
    | _ => exact hrefl

theorem createException_ok {exc : ChangeException} {s s' : Db} {i : ℕ} :
    (createException exc).run s = .ok (i, s') ↔
      i = s.exceptions.next ∧ s' = { s with exceptions := s.exceptions.insert exc } := by
  rw [createException, Tx.run_narrow]
  exact insertRow_ok

theorem lapseException_ok {i : ℕ} {s s' : Db} {u : Unit} :
    (lapseException i).run s = .ok (u, s') ↔ s' = { s with
      exceptions := s.exceptions.modify i fun exc => { exc with status := .expired } } := by
  rw [lapseException, Tx.run_narrow]
  exact updateRow_ok

theorem createSession_ok {clash : BreakglassSession → Bool} {session : BreakglassSession}
    {s s' : Db} {i : ℕ} : (createSession clash session).run s = .ok (i, s') ↔
      (∀ j b, s.sessions.get? j = some b → clash b = false) ∧ i = s.sessions.next ∧
        s' = { s with sessions := s.sessions.insert session } := by
  rw [createSession, Tx.run_narrow]
  exact insertUnique_ok

theorem saveSession_ok {i : ℕ} {f : BreakglassSession → BreakglassSession}
    {hW hevolves hends hreviews} {s s' : Db} {u : Unit} :
    (saveSession (W := W) i f hW hevolves hends hreviews).run s = .ok (u, s') ↔
      s' = { s with sessions := s.sessions.modify i f } :=
  Tx.write_ok.trans (and_iff_right rfl)

-- ════════════════════════════════════════════════════════════════════════
-- Changes and executions
-- ════════════════════════════════════════════════════════════════════════

/-- Insert a change, which starts as a draft. -/
def insertChange (change : ChangeRecord) (hdraft : change.status = .draft := by rfl)
    (hlink : change.approvalRequest = none := by rfl) :
    Service [.changes, .changeStatus .draft, .changeDossier, .changeRetro] ℕ :=
  Tx.write (fun s => (s.changes.next, { s with changes := s.changes.insert change })) <| by
    intro s c hc
    have hrefl := Cells.agree_refl c s
    cases c with
    | changes | changeDossier | changeRetro => simp at hc
    | changeStatus st =>
      intro i
      have hst : st ≠ .draft := by rintro rfl; simp at hc
      simp only [Db.ChangeIn, Table.get?_insert]
      split_ifs with h
      · subst h
        simpa using fun h => hst (h.symm.trans hdraft)
      · exact Iff.rfl
    | changeApproval =>
      intro i a
      simp only [Db.ApprovalOf, Table.get?_insert]
      split_ifs with h
      · subst h
        simp [hlink]
      · exact Iff.rfl
    | changeIdentity => exact .insert ChangeRecord.Evolves.refl _ change
    | _ => exact hrefl

/-- Saving columns of a change other than its status touches the cells of these columns. -/
theorem agree_modify {s : Db} {i : ℕ} {f : ChangeRecord → ChangeRecord} {c : Cell}
    (hc : c ≠ .changes) (hf : ∀ change, (f change).status = change.status)
    (hid : ∀ change, (f change).identity = change.identity)
    (hlink : c = .changeApproval → ∀ change, (f change).approvalRequest = change.approvalRequest)
    (hdossier : c = .changeDossier → ∀ change, (f change).dossier = change.dossier)
    (hretro : c = .changeRetro → ∀ change, (f change).retro = change.retro) :
    Cells.agree c s { s with changes := s.changes.modify i f } := by
  have hrefl := Cells.agree_refl c s
  cases c with
  | changes => exact absurd rfl hc
  | changeStatus st =>
    intro j
    simp only [Db.ChangeIn, Table.get?_modify]
    split_ifs with h
    · cases s.changes.get? j <;> simp [hf]
    · exact Iff.rfl
  | changeApproval =>
    intro j a
    simp only [Db.ApprovalOf, Table.get?_modify]
    split_ifs with h
    · cases s.changes.get? j <;> simp [hlink rfl]
    · exact Iff.rfl
  | changeDossier => exact fun j => (Table.map_get?_modify (hdossier rfl) _ _ j).symm
  | changeRetro => exact fun j => (Table.map_get?_modify (hretro rfl) _ _ j).symm
  | changeIdentity =>
    exact .modify ChangeRecord.Evolves.refl (fun row => .of_status (hf row) (hid row)) _ i
  | _ => exact hrefl

/-- Save columns of a change other than its status, its dossier, its approval request and its
retro-reviews. -/
def updateChange (i : ℕ) (f : ChangeRecord → ChangeRecord)
    (hf : ∀ change, (f change).status = change.status := by intro _; rfl)
    (hid : ∀ change, (f change).identity = change.identity := by intro _; rfl)
    (hlink : ∀ change, (f change).approvalRequest = change.approvalRequest := by intro _; rfl)
    (hdossier : ∀ change, (f change).dossier = change.dossier := by intro _; rfl)
    (hretro : ∀ change, (f change).retro = change.retro := by intro _; rfl) :
    Service [.changes] Unit :=
  Tx.write (fun s => ((), { s with changes := s.changes.modify i f })) fun _ c hc =>
    agree_modify (by simpa using hc) hf hid (fun _ => hlink) (fun _ => hdossier) fun _ => hretro

/-- Save columns of a change about its retro-reviews. -/
def updateRetro (i : ℕ) (f : ChangeRecord → ChangeRecord)
    (hf : ∀ change, (f change).status = change.status := by intro _; rfl)
    (hid : ∀ change, (f change).identity = change.identity := by intro _; rfl)
    (hlink : ∀ change, (f change).approvalRequest = change.approvalRequest := by intro _; rfl)
    (hdossier : ∀ change, (f change).dossier = change.dossier := by intro _; rfl) :
    Service [.changes, .changeRetro] Unit :=
  Tx.write (fun s => ((), { s with changes := s.changes.modify i f })) fun _ c hc =>
    agree_modify (by rintro rfl; simp at hc) hf hid (fun _ => hlink) (fun _ => hdossier) <| by
      rintro rfl
      simp at hc

/-- Save the frozen columns of a change. -/
def updateDossier (i : ℕ) (f : ChangeRecord → ChangeRecord)
    (hf : ∀ change, (f change).status = change.status := by intro _; rfl)
    (hid : ∀ change, (f change).identity = change.identity := by intro _; rfl)
    (hlink : ∀ change, (f change).approvalRequest = change.approvalRequest := by intro _; rfl)
    (hretro : ∀ change, (f change).retro = change.retro := by intro _; rfl) :
    Service [.changes, .changeDossier] Unit :=
  Tx.write (fun s => ((), { s with changes := s.changes.modify i f })) fun _ c hc =>
    agree_modify (by rintro rfl; simp at hc) hf hid (fun _ => hlink) (by rintro rfl; simp at hc)
      fun _ => hretro

/-- Save the frozen columns of a change and its approval request. -/
def linkChange (i : ℕ) (f : ChangeRecord → ChangeRecord)
    (hf : ∀ change, (f change).status = change.status := by intro _; rfl)
    (hid : ∀ change, (f change).identity = change.identity := by intro _; rfl)
    (hretro : ∀ change, (f change).retro = change.retro := by intro _; rfl) :
    Service [.changes, .changeApproval, .changeDossier] Unit :=
  Tx.write (fun s => ((), { s with changes := s.changes.modify i f })) fun _ c hc =>
    agree_modify (by rintro rfl; simp at hc) hf hid (by rintro rfl; simp at hc)
      (by rintro rfl; simp at hc) fun _ => hretro

/-- Save a change with the new status `new`. The caller has checked that its status is
one of `sources`; a change with another status is left alone. -/
def moveChange (i : ℕ) (sources : List ChangeStatus) (new : ChangeStatus)
    (f : ChangeRecord → ChangeRecord)
    (hid : ∀ change, (f change).identity = change.identity := by intro _; rfl)
    (hlink : ∀ change, (f change).approvalRequest = change.approvalRequest := by intro _; rfl)
    (hdossier : ∀ change, (f change).dossier = change.dossier := by intro _; rfl)
    (hretro : ∀ change, (f change).retro = change.retro := by intro _; rfl)
    (hnew : new ≠ .draft := by decide)
    (hW : (.changes :: .changeStatus new :: sources.map .changeStatus) ⊆ W := by
      decide) : Service W Unit :=
  Tx.write (fun s => ((), { s with
      changes := s.changes.modify i fun change =>
        if change.status ∈ sources then { f change with status := new } else change })) <| by
    intro s c hc
    have hc' := fun h => hc (hW h)
    have hrefl := Cells.agree_refl c s
    cases c with
    | changes => simp at hc'
    | changeStatus st =>
      intro j
      simp only [List.mem_cons, reduceCtorEq, Cell.changeStatus.injEq, List.mem_map,
        exists_eq_right, false_or] at hc'
      simp only [Db.ChangeIn, Table.get?_modify]
      split_ifs with h
      · cases hrow : s.changes.get? j with
        | none => simp
        | some row =>
          by_cases hs : row.status ∈ sources
          · have hold : row.status ≠ st := fun h => hc' (.inr (h ▸ hs))
            have hnew : new ≠ st := fun h => hc' (.inl h.symm)
            simp [hs, hold, hnew]
          · simp [hs]
      · exact Iff.rfl
    | changeApproval =>
      intro j a
      simp only [Db.ApprovalOf, Table.get?_modify]
      split_ifs with h
      · cases hrow : s.changes.get? j with
        | none => simp
        | some row => by_cases hs : row.status ∈ sources <;> simp [hs, hlink]
      · exact Iff.rfl
    | changeDossier =>
      refine fun j => (Table.map_get?_modify (fun row => ?_) _ _ j).symm
      split_ifs
      · exact hdossier row
      · rfl
    | changeRetro =>
      refine fun j => (Table.map_get?_modify (fun row => ?_) _ _ j).symm
      split_ifs
      · exact hretro row
      · rfl
    | changeIdentity =>
      refine .modify ChangeRecord.Evolves.refl (fun row => ?_) _ i
      split_ifs
      · exact ⟨hid row, fun h => absurd h hnew⟩
      · exact .refl row
    | _ => exact hrefl

/-- Insert an execution, which starts queued. -/
def insertExecution (execution : Execution)
    (hqueued : execution.status = .queued := by rfl) :
    Service [.executions, .executionStatus .queued] ℕ :=
  Tx.write (fun s => (s.executions.next,
      { s with executions := s.executions.insert execution })) <| by
    intro s c hc
    have hrefl := Cells.agree_refl c s
    cases c with
    | executions => simp at hc
    | executionStatus st =>
      intro i
      have hst : st ≠ .queued := by rintro rfl; simp at hc
      simp only [Db.ExecutionIn, Table.get?_insert]
      split_ifs with h
      · subst h
        simpa using fun h => hst (h.symm.trans hqueued)
      · exact Iff.rfl
    | _ => exact hrefl

/-- Save columns of an execution other than its status. -/
def updateExecution (i : ℕ) (f : Execution → Execution)
    (hf : ∀ execution, (f execution).status = execution.status := by intro _; rfl) :
    Service [.executions] Unit :=
  Tx.write (fun s => ((), { s with executions := s.executions.modify i f })) <| by
    intro s c hc
    have hrefl := Cells.agree_refl c s
    cases c with
    | executions => simp at hc
    | executionStatus st =>
      intro j
      simp only [Db.ExecutionIn, Table.get?_modify]
      split_ifs with h
      · cases s.executions.get? j <;> simp [hf]
      · exact Iff.rfl
    | _ => exact hrefl

/-- Save an execution with the new status `new`. The caller has checked that its
status is one of `sources`; an execution with another status is left alone. -/
def moveExecution (i : ℕ) (sources : List ExecutionStatus) (new : ExecutionStatus)
    (f : Execution → Execution)
    (hW : (.executions :: .executionStatus new :: sources.map .executionStatus) ⊆ W := by
      decide) : Service W Unit :=
  Tx.write (fun s => ((), { s with
      executions := s.executions.modify i fun execution =>
        if execution.status ∈ sources then { f execution with status := new }
        else execution })) <| by
    intro s c hc
    have hc' := fun h => hc (hW h)
    have hrefl := Cells.agree_refl c s
    cases c with
    | executions => simp at hc'
    | executionStatus st =>
      intro j
      simp only [List.mem_cons, reduceCtorEq, Cell.executionStatus.injEq, List.mem_map,
        exists_eq_right, false_or] at hc'
      simp only [Db.ExecutionIn, Table.get?_modify]
      split_ifs with h
      · cases hrow : s.executions.get? j with
        | none => simp
        | some row =>
          by_cases hs : row.status ∈ sources
          · have hold : row.status ≠ st := fun h => hc' (.inr (h ▸ hs))
            have hnew : new ≠ st := fun h => hc' (.inl h.symm)
            simp [hs, hold, hnew]
          · simp [hs]
      · exact Iff.rfl
    | _ => exact hrefl

-- ════════════════════════════════════════════════════════════════════════
-- Steps
-- ════════════════════════════════════════════════════════════════════════

/-- The update of a step that moves it from one of `sources` to `new`. -/
def stepMove (sources : List StepStatus) (new : StepStatus) (f : ExecutionStep → ExecutionStep)
    (step : ExecutionStep) : ExecutionStep :=
  if step.status ∈ sources then { f step with status := new } else step

/-- Moving a step that is not done is a possible evolution. -/
theorem stepMove_evolves {sources : List StepStatus} {new : StepStatus}
    {f : ExecutionStep → ExecutionStep} (hid : ∀ step, (f step).identity = step.identity)
    (hsources : ∀ st ∈ sources, st.isDone = false) (step : ExecutionStep) :
    step.Evolves (stepMove sources new f step) := by
  unfold stepMove
  split_ifs with h
  · refine ⟨hid step, fun hdone => ?_⟩
    rw [hsources _ h] at hdone
    cases hdone
  · exact .refl step

/-- Save a step with the new status `new`. The caller has checked that its status is one
of `sources`; a step with another status is left alone. -/
def moveStep (i : ℕ) (sources : List StepStatus) (new : StepStatus)
    (f : ExecutionStep → ExecutionStep)
    (hid : ∀ step, (f step).identity = step.identity := by intro _; rfl)
    (hsources : ∀ st ∈ sources, st.isDone = false := by decide) : Service [.steps] Unit :=
  updateRow Rel.steps i (stepMove sources new f) (stepMove_evolves hid hsources)

/-- Save every step that satisfies `p` and has one of the statuses `sources` with the new
status `new`. -/
def moveSteps (p : ExecutionStep → Bool) (sources : List StepStatus) (new : StepStatus)
    (f : ExecutionStep → ExecutionStep)
    (hid : ∀ step, (f step).identity = step.identity := by intro _; rfl)
    (hsources : ∀ st ∈ sources, st.isDone = false := by decide) : Service [.steps] Unit :=
  updateRows Rel.steps p (stepMove sources new f) (stepMove_evolves hid hsources)

theorem moveStep_ok {i : ℕ} {sources : List StepStatus} {new : StepStatus}
    {f : ExecutionStep → ExecutionStep} {hid hsources} {s s' : Db} {u : Unit} :
    (moveStep i sources new f hid hsources).run s = .ok (u, s') ↔
      s' = { s with steps := s.steps.modify i (stepMove sources new f) } :=
  updateRow_ok

theorem moveSteps_ok {p : ExecutionStep → Bool} {sources : List StepStatus} {new : StepStatus}
    {f : ExecutionStep → ExecutionStep} {hid hsources} {s s' : Db} {u : Unit} :
    (moveSteps p sources new f hid hsources).run s = .ok (u, s') ↔
      s' = { s with steps := s.steps.modifyWhere p (stepMove sources new f) } :=
  updateRows_ok

theorem insertChange_ok {change : ChangeRecord} {h hlink} {s s' : Db} {i : ℕ} :
    (insertChange change h hlink).run s = .ok (i, s') ↔
      i = s.changes.next ∧ s' = { s with changes := s.changes.insert change } :=
  Tx.write_ok

theorem linkChange_ok {i : ℕ} {f : ChangeRecord → ChangeRecord} {h hid hretro} {s s' : Db}
    {u : Unit} : (linkChange i f h hid hretro).run s = .ok (u, s') ↔
      s' = { s with changes := s.changes.modify i f } :=
  Tx.write_ok.trans (and_iff_right rfl)

theorem updateRetro_ok {i : ℕ} {f : ChangeRecord → ChangeRecord} {h hid hlink hdossier}
    {s s' : Db} {u : Unit} : (updateRetro i f h hid hlink hdossier).run s = .ok (u, s') ↔
      s' = { s with changes := s.changes.modify i f } :=
  Tx.write_ok.trans (and_iff_right rfl)

theorem updateDossier_ok {i : ℕ} {f : ChangeRecord → ChangeRecord} {h hid hlink hretro}
    {s s' : Db} {u : Unit} : (updateDossier i f h hid hlink hretro).run s = .ok (u, s') ↔
      s' = { s with changes := s.changes.modify i f } :=
  Tx.write_ok.trans (and_iff_right rfl)

theorem moveChange_ok {i : ℕ} {sources : List ChangeStatus} {new : ChangeStatus}
    {f : ChangeRecord → ChangeRecord} {hid hlink hdossier hretro hnew hW} {s s' : Db} {u : Unit} :
    (moveChange (W := W) i sources new f hid hlink hdossier hretro hnew hW).run s = .ok (u, s') ↔
      s' = { s with
        changes := s.changes.modify i fun change =>
          if change.status ∈ sources then { f change with status := new } else change } :=
  Tx.write_ok.trans (and_iff_right rfl)

theorem insertExecution_ok {execution : Execution} {h} {s s' : Db} {i : ℕ} :
    (insertExecution execution h).run s = .ok (i, s') ↔
      i = s.executions.next ∧ s' = { s with executions := s.executions.insert execution } :=
  Tx.write_ok

theorem updateExecution_ok {i : ℕ} {f : Execution → Execution} {h} {s s' : Db} {u : Unit} :
    (updateExecution i f h).run s = .ok (u, s') ↔
      s' = { s with executions := s.executions.modify i f } :=
  Tx.write_ok.trans (and_iff_right rfl)

theorem moveExecution_ok {i : ℕ} {sources : List ExecutionStatus} {new : ExecutionStatus}
    {f : Execution → Execution} {hW} {s s' : Db} {u : Unit} :
    (moveExecution (W := W) i sources new f hW).run s = .ok (u, s') ↔
      s' = { s with
        executions := s.executions.modify i fun execution =>
          if execution.status ∈ sources then { f execution with status := new }
          else execution } :=
  Tx.write_ok.trans (and_iff_right rfl)

/-- **Frame rule** for moves of executions: only the cells of the two statuses change. -/
theorem moveExecution_follows {C : List Cell} (i : ℕ) (sources : List ExecutionStatus)
    (new : ExecutionStatus) (f : Execution → Execution) (hW)
    (hdisj : ∀ c ∈ C,
      c ∉ Cell.executions :: .executionStatus new :: sources.map Cell.executionStatus) :
    (moveExecution (W := W) i sources new f hW).Follows (SameOn C) :=
  Tx.Follows.sameOn (moveExecution (W := .executions :: .executionStatus new ::
    sources.map .executionStatus) i sources new f (List.Subset.refl _)) hdisj

end RunbookPlatform
