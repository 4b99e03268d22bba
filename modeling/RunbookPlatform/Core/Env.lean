import RunbookPlatform.Core.Db

/-!
# Environment and text functions

What the services take from outside the repository is a parameter: hash
functions, settings, Unicode case mapping, time formatting. Nothing in the
development depends on their values unless a hypothesis says so.

## Main definitions

- `Env` — the parameters
- `strip`, `idText` — `str.strip()`, `str(id)`
- `emit`, `emitEvent` — `AuditService.emit`
-/

namespace RunbookPlatform

open Transactional

/-- Functions and settings from outside the repository. -/
structure Env where
  /-- `hashlib.sha256(text.encode("utf-8")).hexdigest()`. -/
  sha256 : String → String
  /-- `hmac.new(key, message, hashlib.sha256).hexdigest()`. -/
  hmacSha256 : String → String → String
  /-- `str.lower()`. -/
  lower : String → String
  /-- `repr(text)`. -/
  reprText : String → String
  /-- `datetime.isoformat()`. -/
  isoformat : Time → String
  /-- `parse_datetime(text)`, for a comparison with an aware datetime; none when the text
  is not a datetime. -/
  parseDatetime : String → Except Err (Option Time)
  /-- An instant in `ZoneInfo(name)`: `strftime("%a").lower()` and `strftime("%H:%M")`; an
  unknown zone is a validation error. -/
  localTime : String → Time → Except Err (String × String)
  /-- `settings.CHANGE_DISPATCH_TOKEN_SECRET`. -/
  changeDispatchTokenSecret : String
  /-- `re.fullmatch(pattern, text) is not None`; none for an invalid pattern. -/
  fullmatch : String → String → Option Bool
  /-- The `scheme` and the `netloc` of `urlparse(text)`. -/
  urlparse : String → String × String
  /-- `validate_workflow_definition` on a v2 definition: the error it raises, if any. -/
  validateWorkflowDefinition : Json → Option Err
  /-- `settings.RUNNER_ONLINE_SECONDS`. -/
  runnerOnlineSeconds : ℕ := 30
  /-- `settings.RUNNER_STALE_HEARTBEAT_SECONDS`. -/
  runnerStaleHeartbeatSeconds : ℕ := 60
  /-- `settings.RUNNER_ORG_MAX_CONCURRENT`. -/
  runnerOrgMaxConcurrent : ℕ := 5
  /-- Whether `\w` of `re` matches the character. -/
  isWordChar : Char → Bool
  /-- `settings.ARTIFACT_ALLOWED_MIME_TYPES`. -/
  artifactAllowedMimeTypes : List String := []
  /-- `settings.ARTIFACT_REQUIRE_CHECKSUM`. -/
  artifactRequireChecksum : Bool := true
  /-- `settings.ARTIFACT_MAX_UPLOAD_BYTES`. -/
  artifactMaxUploadBytes : ℕ := 52428800
  /-- `settings.ARTIFACT_MAX_ARTIFACTS_PER_STEP`. -/
  artifactMaxArtifactsPerStep : ℕ := 10
  /-- `settings.ARTIFACT_MAX_TOTAL_BYTES_PER_EXECUTION`. -/
  artifactMaxTotalBytesPerExecution : ℕ := 262144000
  /-- `settings.ARTIFACT_DAILY_BYTES_PER_RUNNER`. -/
  artifactDailyBytesPerRunner : ℕ := 1073741824
  /-- `settings.ARTIFACT_MAX_METADATA_BYTES`. -/
  artifactMaxMetadataBytes : ℕ := 8192

/-- `if not ok: raise error`. -/
def check (ok : Prop) [Decidable ok] (error : Err) : Except Err Unit :=
  if ok then .ok () else .error error

@[simp] theorem check_ok {ok : Prop} [Decidable ok] {error : Err} {u : Unit} :
    check ok error = .ok u ↔ ok := by
  by_cases h : ok <;> simp [check, h]

@[simp] theorem except_bind_ok {ε α β : Type} {x : Except ε α} {f : α → Except ε β} {b : β} :
    (x >>= f) = .ok b ↔ ∃ a, x = .ok a ∧ f a = .ok b := by
  cases x <;> simp [bind, Except.bind]

theorem ok_bind {ε α β : Type} {a : α} {f : α → Except ε β} : (.ok a >>= f) = f a := rfl

theorem exists_eq_ok {ε α : Type} {x : Except ε α} (h : x.isOk = true) : ∃ a, x = .ok a := by
  cases x with
  | ok a => exact ⟨a, rfl⟩
  | error e => cases h

/-- The code points for which `str.isspace()` holds. -/
def isSpace (c : Char) : Bool :=
  let n := c.toNat
  (9 ≤ n && n ≤ 13) || (28 ≤ n && n ≤ 32) || n == 133 || n == 160 || n == 5760 ||
    (8192 ≤ n && n ≤ 8202) || n == 8232 || n == 8233 || n == 8239 || n == 8287 || n == 12288

/-- `str.strip()`. -/
def strip (s : String) : String :=
  String.ofList ((s.toList.dropWhile isSpace).reverse.dropWhile isSpace).reverse

/-- `str(id)`. -/
def idText (i : ℕ) : String := toString i

/-- `str(value)`. -/
def pyStr (env : Env) (value : Json) : String := value.pyStr env.reprText

/-- `sha256_canonical_json`. -/
def sha256CanonicalJson (env : Env) (value : Json) : String := env.sha256 value.dumps

/-- `AuditService.emit`, for any event. -/
def emitEvent (event : AuditEvent) : Service [.audit, .statusEvents] Unit := do
  let _ ← insertRow Rel.audit event
  pure ()

theorem emitEvent_ok {event : AuditEvent} {s s' : Db} {u : Unit} :
    (emitEvent event).run s = .ok (u, s') ↔ s' = { s with audit := s.audit.insert event } := by
  simp only [emitEvent, Tx.bind_ok, insertRow_ok, Rel.audit_get, Rel.audit_set, Tx.run_pure,
    Except.ok.injEq, Prod.mk.injEq]
  constructor
  · rintro ⟨_, _, ⟨-, rfl⟩, -, rfl⟩
    rfl
  · rintro rfl
    exact ⟨_, _, ⟨rfl, rfl⟩, trivial, rfl⟩

/-- `AuditService.emit`, for an event that reports no new status of a change. -/
def emit (organization : ℕ) (actor : AuditActor) (eventType : String) (objectType : ObjectType)
    (objectId : ℕ) (previousStatus : String := "") (newStatus : String := "")
    (hevent : eventType ∉ statusEventTypes := by simp [statusEventTypes]) :
    Service [.audit] Unit :=
  (emitEvent
    { organization, actor, eventType, objectType, objectId, previousStatus, newStatus }).narrow
  fun s _ s' h c hc => by
    by_cases hstatus : c = .statusEvents
    · subst hstatus
      rw [emitEvent_ok] at h
      subst h
      exact (Table.log_insert_of_neg _ (by simpa [AuditEvent.isStatusEvent] using hevent)).symm
    · exact Tx.frame _ h c (by simpa [hstatus] using hc)

theorem emit_ok {organization : ℕ} {actor : AuditActor} {eventType : String}
    {objectType : ObjectType} {objectId : ℕ} {previousStatus newStatus : String} {hevent}
    {s s' : Db} {u : Unit} :
    (emit organization actor eventType objectType objectId previousStatus newStatus hevent).run s =
        .ok (u, s') ↔
      s' = { s with
        audit := s.audit.insert
          { organization, actor, eventType, objectType, objectId, previousStatus, newStatus } } :=
  emitEvent_ok

example : strip " db-01\n" = "db-01" := by decide

end RunbookPlatform
