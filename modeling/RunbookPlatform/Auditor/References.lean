import RunbookPlatform.Auditor.Snapshots

/-!
# Refreshes of external references

`refresh_external_change_reference` runs in a transaction. When the client or the sanitizer
fails, the handler saves what it knows of the failure and raises again, so that the transaction
rolls the record back with everything else.

A body is a sequence of statements over the object in memory and the tables: an exception keeps
what was written before it, and `atomic` takes it back.

## Main definitions

- `ExternalChangeReference` — the row, and the object
- `refreshExternalChangeReference` — the service
- `FailureTraced` — what a failed refresh is to leave in the row

## Main results

- `atomic_error` — a body that raises leaves the tables as they were
- `failure_traced_iff` — a failed refresh leaves the row as it was, so it is traced exactly when
  the row said so before
-/

namespace RunbookPlatform

open Transactional

-- ════════════════════════════════════════════════════════════════════════
-- Rows
-- ════════════════════════════════════════════════════════════════════════

/-- `SnapshotSource`. -/
inductive SnapshotSource where
  | manual | apiRefresh | imported
  deriving DecidableEq

/-- `SnapshotStatus`. -/
inductive SnapshotStatus where
  | current | stale | refreshFailed | unavailable
  deriving DecidableEq

/-- `ExternalChangeReference`. -/
structure ExternalChangeReference where
  organization : ℕ
  /-- `change_record.organization_id`. -/
  changeOrganization : ℕ
  system : String
  referenceType : String
  externalId : String
  externalKey : String := ""
  displayLabel : String
  externalUrl : String := ""
  snapshot : Doc := .obj []
  snapshotSha256 : String := ""
  snapshotSource : SnapshotSource := .manual
  snapshotStatus : SnapshotStatus := .current
  snapshotTakenAt : Option Time := none
  lastRefreshAttemptedAt : Option Time := none
  lastRefreshErrorCode : String := ""

/-- An event `external_change_reference.refreshed`, with its metadata. -/
structure RefreshedEvent where
  reference : ℕ
  system : String
  referenceType : String
  snapshotSha256 : String

/-- The tables that a refresh writes. -/
structure ReferenceDb where
  references : Table ExternalChangeReference
  audit : List RefreshedEvent := []

/-- `ExternalSnapshot`. -/
structure ExternalSnapshot where
  snapshot : Doc
  externalKey : String := ""
  externalUrl : String := ""
  displayLabel : String := ""

/-- An exception, by the name of its class. -/
structure PyError where
  className : String
  deriving DecidableEq

/-- `fetch_snapshot` of a client. -/
def RefreshClient : Type := ExternalChangeReference → Except PyError ExternalSnapshot

-- ════════════════════════════════════════════════════════════════════════
-- Bodies of transactions
-- ════════════════════════════════════════════════════════════════════════

/-- The object in memory, and the tables. -/
structure RefreshState where
  reference : ExternalChangeReference
  db : ReferenceDb

/-- Statements: an exception keeps what was done before it. -/
def Body (α : Type) : Type := RefreshState → Except PyError α × RefreshState

namespace Body

instance : Monad Body where
  pure a := fun s => (.ok a, s)
  bind x f := fun s =>
    match x s with
    | (.ok a, s') => f a s'
    | (.error e, s') => (.error e, s')

/-- `raise e`. -/
def raiseError {α : Type} (e : PyError) : Body α := fun s => (.error e, s)

/-- `try: x`, `except Exception as e: handler e`. -/
def handle {α : Type} (x : Body α) (handler : PyError → Body α) : Body α := fun s =>
  match x s with
  | (.ok a, s') => (.ok a, s')
  | (.error e, s') => handler e s'

/-- The object in memory. -/
def object : Body ExternalChangeReference := fun s => (.ok s.reference, s)

/-- Assign to fields of the object. -/
def assign (f : ExternalChangeReference → ExternalChangeReference) : Body Unit := fun s =>
  (.ok (), { s with reference := f s.reference })

/-- Write to the tables. -/
def write (f : RefreshState → ReferenceDb) : Body Unit := fun s => (.ok (), { s with db := f s })

end Body

open Body

/-- `transaction.atomic`: an exception takes back what was written to the tables, and leaves the
object as it is. -/
def atomic {α : Type} (body : Body α) : Body α := fun s =>
  match body s with
  | (.ok a, s') => (.ok a, s')
  | (.error e, s') => (.error e, { s' with db := s.db })

/-- **A body that raises** leaves the tables as they were. -/
theorem atomic_error {α : Type} {body : Body α} {s : RefreshState} {e : PyError}
    (h : (body s).1 = .error e) : (atomic body s).1 = .error e ∧ (atomic body s).2.db = s.db := by
  unfold atomic
  split
  · rename_i heq
    rw [heq] at h
    cases h
  · rename_i heq
    rw [heq] at h
    cases h
    exact ⟨rfl, rfl⟩

section

variable (env : Env)

/-- `canonical_json_sha256`. -/
def canonicalJsonSha256 (value : Doc) : String := env.sha256 value.compact

/-- What a violated check of a model raises. -/
def validationError : PyError := ⟨"ValidationError"⟩

/-- `sanitize_external_snapshot` as a statement. -/
def sanitized (snapshot : Doc) : Body Doc :=
  match sanitizeExternalSnapshot env snapshot with
  | .ok value => pure value
  | .error _ => raiseError validationError

/-- `parsed.username or parsed.password`: what stands before the last `@` names a user or a
password. -/
def hasCredentials (netloc : String) : Bool :=
  netloc.toList.contains '@' &&
    ! [[], [':']].contains ((netloc.toList.reverse.dropWhile (· ≠ '@')).drop 1).reverse

/-- `_validate_safe_url`. -/
def validateSafeUrl (url : String) : Body Unit := do
  if url ≠ "" then
    let (scheme, netloc) := env.urlparse url
    if hasCredentials netloc then raiseError validationError
    if scheme ≠ "http" ∧ scheme ≠ "https" then raiseError validationError

/-- `ExternalChangeReference.clean`. -/
def cleanReference (now : Time) : Body Unit := do
  let reference ← object
  if reference.changeOrganization ≠ reference.organization then raiseError validationError
  validateSafeUrl env reference.externalUrl
  let snapshot ← sanitized env reference.snapshot
  assign fun r =>
    { r with
      snapshot
      snapshotSha256 := if snapshot matches .obj [] then "" else canonicalJsonSha256 env snapshot }
  if ¬(snapshot matches .obj []) ∧ reference.snapshotTakenAt = none then
    assign fun r => { r with snapshotTakenAt := some now }

/-- `reference.save()`. What the database refuses is a parameter. -/
def saveReference (refuses : ExternalChangeReference → Option PyError) (id : ℕ) (now : Time) :
    Body Unit := do
  cleanReference env now
  let reference ← object
  match refuses reference with
  | some e => raiseError e
  | none => write fun s =>
    { s.db with references := s.db.references.modify id fun _ => reference }

/-- `value or default`, for texts. -/
def textOr (value default : String) : String := if value ≠ "" then value else default

/-- The `try` block. -/
def applyRefresh (refuses : ExternalChangeReference → Option PyError) (id : ℕ)
    (client : RefreshClient) (now : Time) : Body Unit := do
  let reference ← object
  let refreshed ← match client reference with
    | .ok refreshed => pure refreshed
    | .error e => raiseError e
  let snapshot ← sanitized env refreshed.snapshot
  assign fun r =>
    { r with
      snapshot
      snapshotSha256 := canonicalJsonSha256 env snapshot
      snapshotSource := .apiRefresh
      snapshotStatus := .current
      snapshotTakenAt := some now
      lastRefreshErrorCode := ""
      externalKey := textOr refreshed.externalKey r.externalKey
      externalUrl := textOr refreshed.externalUrl r.externalUrl
      displayLabel := textOr refreshed.displayLabel r.displayLabel }
  saveReference env refuses id now

/-- The `except` block. -/
def recordFailure (refuses : ExternalChangeReference → Option PyError) (id : ℕ) (now : Time)
    (e : PyError) : Body Unit := do
  assign fun r =>
    { r with snapshotStatus := .refreshFailed, lastRefreshErrorCode := takeText 64 e.className }
  saveReference env refuses id now
  raiseError e

/-- The event of a refresh. -/
def emitRefreshed (id : ℕ) : Body Unit :=
  write fun s =>
    { s.db with audit := s.db.audit ++
        [⟨id, s.reference.system, s.reference.referenceType, s.reference.snapshotSha256⟩] }

/-- The body of `refresh_external_change_reference` with a client. The clock reads `attempted` at
the start and `now` after. -/
def attemptRefresh (refuses : ExternalChangeReference → Option PyError) (id : ℕ)
    (client : RefreshClient) (attempted now : Time) : Body Unit := do
  assign fun r => { r with lastRefreshAttemptedAt := some attempted }
  handle (applyRefresh env refuses id client now) (recordFailure env refuses id now)
  emitRefreshed id

/-- `refresh_external_change_reference`. `get_refresh_client` has no client to give. -/
def refreshExternalChangeReference (refuses : ExternalChangeReference → Option PyError) (id : ℕ)
    (client : Option RefreshClient) (attempted now : Time) : Body Unit :=
  atomic <|
    match client with
    | none => raiseError ⟨"ExternalReferenceRefreshUnavailable"⟩
    | some client => attemptRefresh env refuses id client attempted now

end

-- ════════════════════════════════════════════════════════════════════════
-- Bodies that raise
-- ════════════════════════════════════════════════════════════════════════

/-- The body raises, from the state. -/
def Raises {α : Type} (body : Body α) (s : RefreshState) : Prop := ∃ e, (body s).1 = .error e

section

variable {α β : Type} {s s' : RefreshState}

theorem bind_of_ok {x : Body α} {f : α → Body β} {a : α} (h : x s = (.ok a, s')) :
    (x >>= f) s = f a s' := by
  show (match x s with
    | (.ok a, s') => f a s'
    | (.error e, s') => (.error e, s')) = _
  rw [h]

theorem bind_of_error {x : Body α} {f : α → Body β} {e : PyError} (h : (x s).1 = .error e) :
    ((x >>= f) s).1 = .error e := by
  cases hx : x s with
  | mk r s' =>
    rw [hx] at h
    cases h
    show (match x s with
      | (.ok a, s') => f a s'
      | (.error e, s') => (.error e, s')).1 = _
    rw [hx]

/-- A sequence that raises at its end raises. -/
theorem Raises.seq {x : Body α} {f : α → Body β} (h : ∀ a s', Raises (f a) s') :
    Raises (x >>= f) s := by
  cases hx : x s with
  | mk r s' =>
    cases r with
    | error e => exact ⟨e, bind_of_error (by rw [hx])⟩
    | ok a =>
      obtain ⟨e, he⟩ := h a s'
      exact ⟨e, by rw [bind_of_ok hx]; exact he⟩

/-- A handler that raises raises, when its block does. -/
theorem raises_handle {x : Body α} {handler : PyError → Body α} (hx : Raises x s)
    (hhandler : ∀ e s', Raises (handler e) s') : Raises (handle x handler) s := by
  obtain ⟨e, he⟩ := hx
  cases hbody : x s with
  | mk r s' =>
    rw [hbody] at he
    cases he
    obtain ⟨e', he'⟩ := hhandler e s'
    refine ⟨e', ?_⟩
    show (match x s with
      | (.ok a, s') => ((.ok a, s') : Except PyError α × RefreshState)
      | (.error e, s') => handler e s').1 = _
    rw [hbody]
    exact he'

theorem raises_bind {x : Body α} {f : α → Body β} (h : Raises x s) : Raises (x >>= f) s := by
  obtain ⟨e, he⟩ := h
  exact ⟨e, bind_of_error he⟩

end

variable {env : Env} {refuses : ExternalChangeReference → Option PyError} {id : ℕ}
  {client : RefreshClient} {attempted now : Time} {s : RefreshState} {e : PyError}

/-- The `except` block raises, whatever becomes of its save. -/
theorem recordFailure_raises (env : Env) (refuses : ExternalChangeReference → Option PyError)
    (id : ℕ) (now : Time) (e : PyError) (s : RefreshState) :
    Raises (recordFailure env refuses id now e) s :=
  .seq fun _ _ => .seq fun _ _ => ⟨e, rfl⟩

/-- The client fails on the object, or the sanitizer on what it answers. -/
def RefreshFails (env : Env) (client : RefreshClient) (reference : ExternalChangeReference)
    (e : PyError) : Prop :=
  client reference = .error e ∨ ∃ refreshed err, client reference = .ok refreshed ∧
    sanitizeExternalSnapshot env refreshed.snapshot = .error err ∧ e = validationError

theorem applyRefresh_raises (refuses : ExternalChangeReference → Option PyError) (id : ℕ)
    (now : Time) (h : RefreshFails env client s.reference e) :
    Raises (applyRefresh env refuses id client now) s := by
  refine ⟨e, ?_⟩
  have hobject : object s = (.ok s.reference, s) := rfl
  rcases h with h | ⟨refreshed, err, h, herr, rfl⟩
  · rw [applyRefresh, bind_of_ok hobject, h]
    rfl
  · have hsanitized : (sanitized env refreshed.snapshot s).1 = .error validationError := by
      rw [sanitized, herr]
      rfl
    have hpure : (pure refreshed : Body ExternalSnapshot) s = (.ok refreshed, s) := rfl
    rw [applyRefresh, bind_of_ok hobject, h]
    simp only
    rw [bind_of_ok hpure]
    exact bind_of_error hsanitized

-- ════════════════════════════════════════════════════════════════════════
-- The trace of a failure
-- ════════════════════════════════════════════════════════════════════════

/-- What a failed refresh is to leave in the row: its status, error code and time, over the
snapshot and the labels of the row before. -/
structure FailureTraced (before after : ExternalChangeReference) (e : PyError) (attempted : Time) :
    Prop where
  status : after.snapshotStatus = .refreshFailed
  errorCode : after.lastRefreshErrorCode = takeText 64 e.className
  attemptedAt : after.lastRefreshAttemptedAt = some attempted
  snapshot : after.snapshot = before.snapshot ∧ after.snapshotSha256 = before.snapshotSha256
  labels : after.externalKey = before.externalKey ∧ after.displayLabel = before.displayLabel ∧
    after.externalUrl = before.externalUrl

/-- The failure of a refresh: there is no client, or the client or the sanitizer fails. -/
def FailedRefresh (env : Env) (client : Option RefreshClient)
    (reference : ExternalChangeReference) (attempted : Time) (e : PyError) : Prop :=
  match client with
  | none => e = ⟨"ExternalReferenceRefreshUnavailable"⟩
  | some client =>
    RefreshFails env client { reference with lastRefreshAttemptedAt := some attempted } e

/-- A failed refresh raises, and leaves the tables as they were. -/
theorem failed_refresh_rolls_back (refuses : ExternalChangeReference → Option PyError) (id : ℕ)
    (now : Time) {client : Option RefreshClient}
    (h : FailedRefresh env client s.reference attempted e) :
    Raises (refreshExternalChangeReference env refuses id client attempted now) s ∧
      (refreshExternalChangeReference env refuses id client attempted now s).2.db = s.db := by
  cases client with
  | none => exact ⟨⟨⟨"ExternalReferenceRefreshUnavailable"⟩, rfl⟩, rfl⟩
  | some client =>
    have hassign : assign (fun r => { r with lastRefreshAttemptedAt := some attempted }) s =
        (.ok (), { s with
          reference := { s.reference with lastRefreshAttemptedAt := some attempted } }) := rfl
    have hblock : Raises
        (handle (applyRefresh env refuses id client now) (recordFailure env refuses id now))
        { s with reference := { s.reference with lastRefreshAttemptedAt := some attempted } } :=
      raises_handle (applyRefresh_raises refuses id now h) fun _ _ =>
        recordFailure_raises env refuses id now _ _
    obtain ⟨e', he'⟩ := raises_bind (f := fun _ => emitRefreshed id) hblock
    have he' : (attemptRefresh env refuses id client attempted now s).1 = .error e' := by
      rw [attemptRefresh, bind_of_ok hassign]
      exact he'
    have hatomic := atomic_error he'
    exact ⟨⟨e', hatomic.1⟩, hatomic.2⟩

/-- **A failed refresh leaves no trace**: the call raises, and the committed row carries the
failure afterwards if and only if it carried this very status, error code and time before. -/
theorem failure_traced_iff {client : Option RefreshClient} {before : ExternalChangeReference}
    (hbefore : s.db.references.get? id = some before)
    (hfails : FailedRefresh env client s.reference attempted e) :
    Raises (refreshExternalChangeReference env refuses id client attempted now) s ∧
      ((∃ after,
        (refreshExternalChangeReference env refuses id client attempted now s).2.db.references.get?
            id = some after ∧ FailureTraced before after e attempted) ↔
        before.snapshotStatus = .refreshFailed ∧
          before.lastRefreshErrorCode = takeText 64 e.className ∧
          before.lastRefreshAttemptedAt = some attempted) := by
  obtain ⟨hraises, hdb⟩ := failed_refresh_rolls_back refuses id now hfails
  refine ⟨hraises, ?_⟩
  rw [hdb, hbefore]
  constructor
  · rintro ⟨after, hafter, htraced⟩
    cases hafter
    exact ⟨htraced.status, htraced.errorCode, htraced.attemptedAt⟩
  · rintro ⟨hstatus, hcode, hattempted⟩
    exact ⟨before, rfl, hstatus, hcode, hattempted, ⟨rfl, rfl⟩, rfl, rfl, rfl⟩

-- ════════════════════════════════════════════════════════════════════════
-- A client that is down
-- ════════════════════════════════════════════════════════════════════════

def ticketReference : ExternalChangeReference where
  organization := 0
  changeOrganization := 0
  system := "jira"
  referenceType := "ticket"
  externalId := "10001"
  externalKey := "PROJ-123"
  displayLabel := "PROJ-123"
  snapshot := .obj [("title", .str "Initial")]
  snapshotSha256 := "\x7b\"title\":\"Initial\"\x7d"
  snapshotTakenAt := some 5

def ticketState : RefreshState where
  reference := ticketReference
  db := { references := ⟨[ticketReference]⟩ }

def downClient : RefreshClient := fun _ => .error ⟨"ConnectError"⟩

theorem downClient_fails :
    FailedRefresh .sample (some downClient) ticketState.reference 7 ⟨"ConnectError"⟩ := .inl rfl

theorem down_client_traced_iff :
    Raises (refreshExternalChangeReference .sample (fun _ => none) 0 (some downClient) 7 8)
        ticketState ∧
      ((∃ after,
        (refreshExternalChangeReference .sample (fun _ => none) 0 (some downClient) 7 8
            ticketState).2.db.references.get? 0 = some after ∧
          FailureTraced ticketReference after ⟨"ConnectError"⟩ 7) ↔
        ticketReference.snapshotStatus = .refreshFailed ∧
          ticketReference.lastRefreshErrorCode = takeText 64 "ConnectError" ∧
          ticketReference.lastRefreshAttemptedAt = some 7) :=
  failure_traced_iff (s := ticketState) rfl downClient_fails

/-- The refresh raises, and the row does not say so. -/
theorem down_client_leaves_no_trace :
    (refreshExternalChangeReference .sample (fun _ => none) 0 (some downClient) 7 8
        ticketState).2.db.references.get? 0 = some ticketReference ∧
      ¬FailureTraced ticketReference ticketReference ⟨"ConnectError"⟩ 7 := by
  refine ⟨?_, fun h => ?_⟩
  · rw [(failed_refresh_rolls_back (fun _ => none) 0 8 downClient_fails).2]
    rfl
  · cases h.status

end RunbookPlatform
