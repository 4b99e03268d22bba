import RunbookPlatform.System

/-!
# Runner registration

Runners register with a bootstrap token of their pool, and operators drain, disable and
revoke them. A registration reads the clock, then waits for the lock of its token's row; what
it checks and writes under the lock is one step.

## Main definitions

- `Registry` — the runners, their pools and the registration tokens
- `validateRegistrationToken`, `registerRunner` — a registration under its lock
- `RunnerOp` — what runners and operators do, one after another
- `RegistryStep`, `RegistryReach` — registrations, revocations and edits in any order

## Main results

- `ended_runner_stays` — a runner that is disabled or revoked
- `registration_tokens_bounded` — what a token allows
-/

namespace RunbookPlatform

open Transactional

-- ════════════════════════════════════════════════════════════════════════
-- Registrations
-- ════════════════════════════════════════════════════════════════════════

/-- `Runner`, with the columns of its registration. -/
structure RegisteredRunner where
  organization : ℕ
  pool : ℕ
  displayName : String
  status : RunnerStatus
  runnerVersion : String
  hostname : String
  fingerprintSha256 : String
  tokenHash : String
  registeredAt : Time
  lastSeenAt : Time
  lastHeartbeatAt : Time
  drainRequestedAt : Option Time := none
  disabledAt : Option Time := none
  revokedAt : Option Time := none
  metadata : Json := .obj []

/-- `RunnerRegistrationToken`. -/
structure RegistrationToken where
  organization : ℕ
  pool : ℕ
  tokenHash : String
  labelPolicy : List String := []
  capabilityPolicy : List String := []
  expiresAt : Time
  maxRegistrations : ℕ := 1
  usedCount : ℕ := 0
  revokedAt : Option Time := none

/-- The runners, their pools and the registration tokens. -/
structure Registry where
  now : Time
  pools : Table RunnerPool := .empty
  runners : Table RegisteredRunner := .empty
  tokens : Table RegistrationToken := .empty

/-- The arguments of `register_runner`, with the bearer token that is generated. -/
structure RegistrationRequest where
  registrationToken : String
  displayName : String
  runnerVersion : String
  fingerprintSha256 : String
  hostname : String
  labels : List (String × Json) := []
  capabilities : List String := []
  organizationId : String := ""
  poolKey : String := ""
  bearerToken : String

/-- `validate_registration_token`, at instant `now`. Returns the token and its pool. -/
def validateRegistrationToken (env : Env) (req : RegistrationRequest) (now : Time) (s : Registry) :
    Except Err (ℕ × RegistrationToken × RunnerPool) := do
  match s.tokens.find? fun _ t => t.tokenHash = env.sha256 req.registrationToken with
  | none =>
    .error (.validation "invalid_registration_token" "Registration token is invalid.")
  | some (i, token) =>
    check (token.revokedAt = none) <|
      .validation "registration_token_revoked" "Registration token has been revoked."
    check (now ≤ token.expiresAt) <|
      .validation "registration_token_expired" "Registration token has expired."
    check (token.usedCount < token.maxRegistrations) <|
      .validation "registration_token_exhausted"
        "Registration token has reached its maximum use count."
    check (req.organizationId = "" ∨ idText token.organization = req.organizationId) <|
      .validation "registration_scope_mismatch"
        "Registration token is not valid for this organization."
    match s.pools.get? token.pool with
    | none => .error (.notFound "RunnerPool")
    | some pool =>
      check (req.poolKey = "" ∨ pool.key = req.poolKey) <|
        .validation "registration_scope_mismatch"
          "Registration token is not valid for this runner pool."
      check (pool.organization = token.organization) <|
        .validation "registration_scope_mismatch"
          "Registration token pool does not belong to its organization."
      check (pool.status = .active) <|
        .validation "pool_not_active"
          s!"Runner pool '{pool.key}' is not active (status: {pool.status.value})."
      pure (i, token, pool)

/-- The metadata of a registration: what the policies of the token accept. -/
def acceptedMetadata (token : RegistrationToken) (req : RegistrationRequest) : Json :=
  .obj [("accepted_labels", .obj (if token.labelPolicy = [] then req.labels
      else req.labels.filter fun label => token.labelPolicy.contains label.1)),
    ("accepted_capabilities", .ofStrings (if token.capabilityPolicy = [] then req.capabilities
      else req.capabilities.filter token.capabilityPolicy.contains))]

/-- The runner that a registration reactivates: one with the fingerprint in the pool that is
not revoked. -/
def reactivated? (pool : ℕ) (fingerprint : String) (s : Registry) : Option (ℕ × RegisteredRunner) :=
  if fingerprint = "" then none
  else
    s.runners.find? fun _ r =>
      r.pool = pool && r.fingerprintSha256 = fingerprint && r.status ≠ .revoked

/-- `register_runner`, which read the clock at `now` and at `checkedAt`. Returns the runner. -/
def registerRunner (env : Env) (req : RegistrationRequest) (now checkedAt : Time) (s : Registry) :
    Except Err (ℕ × Registry) := do
  let (i, token, _) ← validateRegistrationToken env req checkedAt s
  let hash := env.sha256 req.bearerToken
  let metadata := acceptedMetadata token req
  check ((s.runners.find? fun _ r => r.tokenHash = hash).isNone) .integrity
  let (runner, runners) := match reactivated? token.pool req.fingerprintSha256 s with
    | some (runner, _) => (runner, s.runners.modify runner fun r =>
        { r with
          status := .active
          tokenHash := hash
          runnerVersion := req.runnerVersion
          hostname := req.hostname
          displayName := req.displayName
          lastSeenAt := now
          lastHeartbeatAt := now
          metadata })
    | none => (s.runners.next, s.runners.insert
        { organization := token.organization
          pool := token.pool
          displayName := req.displayName
          status := .active
          runnerVersion := req.runnerVersion
          hostname := req.hostname
          fingerprintSha256 := req.fingerprintSha256
          tokenHash := hash
          registeredAt := now
          lastSeenAt := now
          lastHeartbeatAt := now
          metadata })
  pure (runner, { s with
    runners
    tokens := s.tokens.modify i fun t => { t with usedCount := t.usedCount + 1 } })

-- ════════════════════════════════════════════════════════════════════════
-- Runners
-- ════════════════════════════════════════════════════════════════════════

/-- `drain_runner`. -/
def drainRunner (now : Time) (runner : RegisteredRunner) : Except Err RegisteredRunner := do
  check (runner.status ≠ .disabled ∧ runner.status ≠ .revoked) <|
    .transition "runner_not_drainable" s!"Cannot drain a {runner.status.value} runner."
  check (runner.status ≠ .draining) <|
    .transition "runner_already_draining" "Runner is already draining."
  pure { runner with status := .draining, drainRequestedAt := some now }

/-- `disable_runner`. -/
def disableRunner (now : Time) (runner : RegisteredRunner) : Except Err RegisteredRunner := do
  check (runner.status ≠ .revoked) <|
    .transition "runner_revoked" "Cannot disable a revoked runner."
  check (runner.status ≠ .disabled) <|
    .transition "runner_already_disabled" "Runner is already disabled."
  pure { runner with status := .disabled, disabledAt := some now }

/-- `revoke_runner`. -/
def revokeRunner (now : Time) (runner : RegisteredRunner) : Except Err RegisteredRunner := do
  check (runner.status ≠ .revoked) <|
    .transition "runner_already_revoked" "Runner is already revoked."
  pure { runner with status := .revoked, revokedAt := some now }

/-- `RunnerBearerTokenAuthentication`, for the token of a runner. -/
def authenticateRunner (runner : RegisteredRunner) : Except Err Unit :=
  check (runner.status ≠ .revoked ∧ runner.status ≠ .disabled) <|
    .uncaught "AuthenticationFailed"

/-- `RunnerHeartbeatView.post`, with `update_runner_heartbeat`. -/
def heartbeatRunner (now : Time) (runnerVersion hostname : String) (runner : RegisteredRunner) :
    Except Err RegisteredRunner := do
  authenticateRunner runner
  check (runner.status ≠ .offline) <|
    .transition "runner_lease_expired" "Runner has been marked offline; re-register to resume."
  pure
    { runner with
      lastHeartbeatAt := now
      lastSeenAt := now
      runnerVersion := if runnerVersion = "" then runner.runnerVersion else runnerVersion
      hostname := if hostname = "" then runner.hostname else hostname
      status := if runner.status = .registered then .active else runner.status }

/-- `mark_stale_runners_offline`, on one runner. -/
def markStaleOffline (staleBefore : Time) (runner : RegisteredRunner) :
    Except Err RegisteredRunner := do
  check ((runner.status = .active ∨ runner.status = .draining) ∧ runner.lastHeartbeatAt < staleBefore)
    (.notFound "Runner")
  pure { runner with status := .offline }

/-- A runner may claim: it authenticates, and `schedule_execution_claim` takes its status. -/
def RegisteredRunner.mayClaim (runner : RegisteredRunner) : Bool :=
  (authenticateRunner runner).toBool && (runner.status = .active || runner.status = .registered)

/-- What runners, operators and the watchdog do. -/
inductive RunnerOp where
  | tick (elapsed : Time)
  | register (req : RegistrationRequest)
  | heartbeat (runner : ℕ) (runnerVersion hostname : String)
  | drain (runner : ℕ)
  | disable (runner : ℕ)
  | revoke (runner : ℕ)
  | markOffline (runner : ℕ) (threshold : Time)

/-- A save of one runner; the failure of an operation changes nothing. -/
def Registry.save (s : Registry) (runner : ℕ)
    (f : RegisteredRunner → Except Err RegisteredRunner) : Registry :=
  match s.runners.get? runner with
  | none => s
  | some row =>
    match f row with
    | .ok row' => { s with runners := s.runners.modify runner fun _ => row' }
    | .error _ => s

/-- One operation, from its start to its end. -/
def RunnerOp.apply (env : Env) (s : Registry) : RunnerOp → Registry
  | .tick elapsed => { s with now := s.now + elapsed }
  | .register req =>
    match registerRunner env req s.now s.now s with
    | .ok (_, s') => s'
    | .error _ => s
  | .heartbeat runner version hostname => s.save runner (heartbeatRunner s.now version hostname)
  | .drain runner => s.save runner (drainRunner s.now)
  | .disable runner => s.save runner (disableRunner s.now)
  | .revoke runner => s.save runner (revokeRunner s.now)
  | .markOffline runner threshold => s.save runner (markStaleOffline (s.now - threshold))

/-- Operations one after another. -/
def runnerOps (env : Env) (ops : List RunnerOp) (s : Registry) : Registry :=
  ops.foldl (RunnerOp.apply env) s

variable {env : Env} {s s' : Registry} {req : RegistrationRequest} {now checkedAt : Time}

/-- What a valid registration knows about its token. -/
structure TokenValid (env : Env) (req : RegistrationRequest) (checkedAt : Time) (s : Registry)
    (i : ℕ) (token : RegistrationToken) : Prop where
  stored : s.tokens.get? i = some token
  hash : token.tokenHash = env.sha256 req.registrationToken
  notRevoked : token.revokedAt = none
  notExpired : checkedAt ≤ token.expiresAt
  unused : token.usedCount < token.maxRegistrations

theorem validateRegistrationToken_ok {i : ℕ} {token : RegistrationToken} {pool : RunnerPool}
    (h : validateRegistrationToken env req checkedAt s = .ok (i, token, pool)) :
    TokenValid env req checkedAt s i token := by
  rw [validateRegistrationToken] at h
  split at h
  · cases h
  · rename_i j row hfound
    obtain ⟨hstored, hhash⟩ := Table.find?_some hfound
    simp only [except_bind_ok, check_ok] at h
    obtain ⟨_, hrevoked, _, hexpired, _, hunused, _, -, h⟩ := h
    split at h
    · cases h
    · simp only [except_bind_ok, check_ok, pure, Except.pure, Except.ok.injEq, Prod.mk.injEq] at h
      obtain ⟨_, -, _, -, _, -, rfl, rfl, -⟩ := h
      exact ⟨hstored, of_decide_eq_true hhash, hrevoked, hexpired, hunused⟩

/-- **What a registration does**: its token is used once more, and at most one runner is saved,
which has the fingerprint in the pool and is not revoked. -/
theorem registerRunner_ok {runner : ℕ} (h : registerRunner env req now checkedAt s = .ok (runner, s')) :
    ∃ i token, TokenValid env req checkedAt s i token ∧
      s'.tokens = s.tokens.modify i (fun t => { t with usedCount := t.usedCount + 1 }) ∧
        ∀ j row, s.runners.get? j = some row → s'.runners.get? j = some row ∨
          (row.pool = token.pool ∧ row.fingerprintSha256 = req.fingerprintSha256 ∧
            row.fingerprintSha256 ≠ "" ∧ row.status ≠ .revoked) := by
  simp only [registerRunner, except_bind_ok, check_ok] at h
  obtain ⟨⟨i, token, pool⟩, hvalid, _, -, h⟩ := h
  refine ⟨i, token, validateRegistrationToken_ok hvalid, ?_⟩
  cases hfound : reactivated? token.pool req.fingerprintSha256 s with
  | none =>
    simp only [hfound, pure, Except.pure, Except.ok.injEq, Prod.mk.injEq] at h
    obtain ⟨-, rfl⟩ := h
    exact ⟨rfl, fun j row hrow => .inl (Table.get?_insert_of_some _ hrow)⟩
  | some found =>
    obtain ⟨k, old⟩ := found
    simp only [hfound, pure, Except.pure, Except.ok.injEq, Prod.mk.injEq] at h
    obtain ⟨-, rfl⟩ := h
    refine ⟨rfl, fun j row hrow => ?_⟩
    rw [reactivated?] at hfound
    split_ifs at hfound with hempty
    obtain ⟨hold, htest⟩ := Table.find?_some hfound
    simp only [Bool.and_eq_true, decide_eq_true_eq] at htest
    by_cases hj : j = k
    · subst hj
      obtain rfl := Option.some.inj (hrow.symm.trans hold)
      exact .inr ⟨htest.1.1, htest.1.2, htest.1.2 ▸ hempty, htest.2⟩
    · exact .inl ((Table.get?_modify_of_ne hj _ _).trans hrow)

-- ════════════════════════════════════════════════════════════════════════
-- Runners that are over
-- ════════════════════════════════════════════════════════════════════════

variable {i k : ℕ} {row : RegisteredRunner}

/-- A save changes one runner, and only as it says. -/
theorem save_cases {f : RegisteredRunner → Except Err RegisteredRunner}
    (hrow : s.runners.get? i = some row) : (s.save k f).runners.get? i = some row ∨
      ∃ row', f row = .ok row' ∧ (s.save k f).runners.get? i = some row' := by
  rw [Registry.save]
  cases hk : s.runners.get? k with
  | none => exact .inl hrow
  | some old =>
    dsimp only
    cases hf : f old with
    | error e => exact .inl hrow
    | ok row' =>
      by_cases hi : i = k
      · subst hi
        obtain rfl := Option.some.inj (hrow.symm.trans hk)
        refine .inr ⟨row', hf, ?_⟩
        dsimp only
        rw [Table.get?_modify_self, hrow]
        rfl
      · exact .inl ((Table.get?_modify_of_ne hi _ _).trans hrow)

/-- No save takes a revoked runner, and a disabled one can only be revoked. -/
structure EndsRunner (f : RegisteredRunner → Except Err RegisteredRunner) : Prop where
  revoked : ∀ row row', row.status = .revoked → f row ≠ .ok row'
  disabled : ∀ row row', row.status = .disabled → f row = .ok row' →
    row'.status = .revoked ∧ row'.pool = row.pool ∧ row'.fingerprintSha256 = row.fingerprintSha256

theorem endsRunner_heartbeat (now : Time) (version hostname : String) :
    EndsRunner (heartbeatRunner now version hostname) where
  revoked row row' hrow h := by
    simp only [heartbeatRunner, authenticateRunner, except_bind_ok, check_ok] at h
    obtain ⟨_, hauth, -⟩ := h
    exact hauth.1 hrow
  disabled row row' hrow h := by
    simp only [heartbeatRunner, authenticateRunner, except_bind_ok, check_ok] at h
    obtain ⟨_, hauth, -⟩ := h
    exact absurd hrow hauth.2

theorem endsRunner_drain (now : Time) : EndsRunner (drainRunner now) where
  revoked row row' hrow h := by
    simp only [drainRunner, except_bind_ok, check_ok] at h
    obtain ⟨_, hstatus, -⟩ := h
    exact hstatus.2 hrow
  disabled row row' hrow h := by
    simp only [drainRunner, except_bind_ok, check_ok] at h
    obtain ⟨_, hstatus, -⟩ := h
    exact absurd hrow hstatus.1

theorem endsRunner_disable (now : Time) : EndsRunner (disableRunner now) where
  revoked row row' hrow h := by
    simp only [disableRunner, except_bind_ok, check_ok] at h
    obtain ⟨_, hstatus, -⟩ := h
    exact hstatus hrow
  disabled row row' hrow h := by
    simp only [disableRunner, except_bind_ok, check_ok] at h
    obtain ⟨_, -, _, hstatus, -⟩ := h
    exact absurd hrow hstatus

theorem endsRunner_revoke (now : Time) : EndsRunner (revokeRunner now) where
  revoked row row' hrow h := by
    simp only [revokeRunner, except_bind_ok, check_ok] at h
    obtain ⟨_, hstatus, -⟩ := h
    exact hstatus hrow
  disabled row row' _ h := by
    simp only [revokeRunner, except_bind_ok, check_ok, pure, Except.pure, Except.ok.injEq] at h
    obtain ⟨_, -, rfl⟩ := h
    exact ⟨rfl, rfl, rfl⟩

theorem endsRunner_markOffline (staleBefore : Time) : EndsRunner (markStaleOffline staleBefore) where
  revoked row row' hrow h := by
    simp only [markStaleOffline, except_bind_ok, check_ok, hrow, reduceCtorEq, or_self,
      false_and, exists_false] at h
  disabled row row' hrow h := by
    simp only [markStaleOffline, except_bind_ok, check_ok, hrow, reduceCtorEq, or_self,
      false_and, exists_false] at h

/-- An operation that is no registration saves one runner, or none. -/
theorem RunnerOp.apply_cases (op : RunnerOp) (env : Env) (s : Registry) :
    (∃ elapsed, op = .tick elapsed) ∨ (∃ req, op = .register req) ∨
      ∃ k f, EndsRunner f ∧ op.apply env s = s.save k f := by
  cases op with
  | tick elapsed => exact .inl ⟨elapsed, rfl⟩
  | register req => exact .inr (.inl ⟨req, rfl⟩)
  | heartbeat k version hostname => exact .inr (.inr ⟨k, _, endsRunner_heartbeat _ _ _, rfl⟩)
  | drain k => exact .inr (.inr ⟨k, _, endsRunner_drain _, rfl⟩)
  | disable k => exact .inr (.inr ⟨k, _, endsRunner_disable _, rfl⟩)
  | revoke k => exact .inr (.inr ⟨k, _, endsRunner_revoke _, rfl⟩)
  | markOffline k threshold => exact .inr (.inr ⟨k, _, endsRunner_markOffline _, rfl⟩)

/-- A revoked runner is left alone. -/
theorem RunnerOp.keeps_revoked (op : RunnerOp) (hrow : s.runners.get? i = some row)
    (hstatus : row.status = .revoked) : (op.apply env s).runners.get? i = some row := by
  obtain ⟨elapsed, rfl⟩ | ⟨req, rfl⟩ | ⟨k, f, hf, happly⟩ := op.apply_cases env s
  · exact hrow
  · rw [RunnerOp.apply]
    split
    · rename_i runner s' hregister
      obtain ⟨_, _, -, -, hrows⟩ := registerRunner_ok hregister
      exact (hrows i row hrow).resolve_right fun h => h.2.2.2 hstatus
    · exact hrow
  · rw [happly]
    exact (save_cases hrow).resolve_right fun ⟨row', h, _⟩ => hf.revoked row row' hstatus h

/-- A registration with the fingerprint of the runner and a valid token of its pool. -/
structure Reactivates (env : Env) (req : RegistrationRequest) (s : Registry) (row : RegisteredRunner) :
    Prop where
  fingerprint : req.fingerprintSha256 = row.fingerprintSha256 ∧ row.fingerprintSha256 ≠ ""
  token : ∃ i token, TokenValid env req s.now s i token ∧ token.pool = row.pool

/-- The runner is over, and is the runner it was. -/
structure Over (row row' : RegisteredRunner) : Prop where
  status : row'.status = .disabled ∨ row'.status = .revoked
  pool : row'.pool = row.pool
  fingerprint : row'.fingerprintSha256 = row.fingerprintSha256

theorem Over.not_mayClaim {row' : RegisteredRunner} (h : Over row row') : row'.mayClaim = false := by
  rw [RegisteredRunner.mayClaim, authenticateRunner]
  obtain hstatus | hstatus := h.status <;> rw [hstatus] <;> rfl

/-- A disabled runner is over until a registration reactivates it. -/
theorem RunnerOp.keeps_over (op : RunnerOp) (env : Env) {row' : RegisteredRunner}
    (hrow : s.runners.get? i = some row') (hover : Over row row') :
    (∃ row'', (op.apply env s).runners.get? i = some row'' ∧ Over row row'') ∨
      ∃ req, op = .register req ∧ Reactivates env req s row := by
  obtain hdisabled | hrevoked := hover.status
  swap
  · exact .inl ⟨row', op.keeps_revoked hrow hrevoked, hover⟩
  obtain ⟨elapsed, rfl⟩ | ⟨req, rfl⟩ | ⟨k, f, hf, happly⟩ := op.apply_cases env s
  · exact .inl ⟨row', hrow, hover⟩
  · rw [RunnerOp.apply]
    split
    · rename_i runner s' hregister
      obtain ⟨j, token, hvalid, -, hrows⟩ := registerRunner_ok hregister
      obtain hsame | ⟨hpool, hfingerprint, hne, -⟩ := hrows i row' hrow
      · exact .inl ⟨row', hsame, hover⟩
      · exact .inr ⟨req, rfl, ⟨hfingerprint.symm.trans hover.fingerprint, hover.fingerprint ▸ hne⟩,
          j, token, hvalid, hpool.symm.trans hover.pool⟩
    · exact .inl ⟨row', hrow, hover⟩
  · rw [happly]
    obtain hsame | ⟨row'', hrow'', hafter⟩ := save_cases (k := k) (f := f) hrow
    · exact .inl ⟨row', hsame, hover⟩
    · obtain ⟨hstatus, hpool, hfingerprint⟩ := hf.disabled row' row'' hdisabled hrow''
      exact .inl ⟨row'', hafter, .inr hstatus, hpool.trans hover.pool,
        hfingerprint.trans hover.fingerprint⟩

/-- A disabled runner is over after any operations, unless one of them reactivates it. -/
theorem runnerOps_over (env : Env) (ops : List RunnerOp) {row' : RegisteredRunner}
    (hrow : s.runners.get? i = some row') (hover : Over row row') :
    (∃ row'', (runnerOps env ops s).runners.get? i = some row'' ∧ Over row row'') ∨
      ∃ before req after, ops = before ++ .register req :: after ∧
        Reactivates env req (runnerOps env before s) row := by
  induction ops generalizing s row' with
  | nil => exact .inl ⟨row', hrow, hover⟩
  | cons op ops ih =>
    obtain ⟨row'', hrow'', hover''⟩ | ⟨req, rfl, hreactivates⟩ := op.keeps_over env hrow hover
    · obtain hover' | ⟨before, req, after, rfl, hreactivates⟩ := ih hrow'' hover''
      · exact .inl hover'
      · exact .inr ⟨op :: before, req, after, rfl, hreactivates⟩
    · exact .inr ⟨[], req, ops, rfl, hreactivates⟩

/-- A revoked runner is left alone for ever. -/
theorem runnerOps_revoked (ops : List RunnerOp) (hrow : s.runners.get? i = some row)
    (hstatus : row.status = .revoked) : (runnerOps env ops s).runners.get? i = some row := by
  induction ops generalizing s with
  | nil => exact hrow
  | cons op ops ih => exact ih (op.keeps_revoked hrow hstatus)

/-- **A runner that is over stays so**: a revoked one for ever, and a disabled one until a
registration with its fingerprint and a valid token of its pool. -/
theorem ended_runner_stays (env : Env) (ops : List RunnerOp) (hrow : s.runners.get? i = some row) :
    (row.status = .revoked → (runnerOps env ops s).runners.get? i = some row ∧ row.mayClaim = false) ∧
      (row.status = .disabled →
        (∃ row', (runnerOps env ops s).runners.get? i = some row' ∧ Over row row' ∧
          row'.mayClaim = false) ∨
        ∃ before req after, ops = before ++ .register req :: after ∧
          Reactivates env req (runnerOps env before s) row) := by
  constructor
  · intro hstatus
    exact ⟨runnerOps_revoked ops hrow hstatus,
      Over.not_mayClaim (⟨.inr hstatus, rfl, rfl⟩ : Over row row)⟩
  · intro hstatus
    obtain ⟨row', hrow', hover⟩ | hreactivates := runnerOps_over env ops hrow
      (⟨.inl hstatus, rfl, rfl⟩ : Over row row)
    · exact .inl ⟨row', hrow', hover, hover.not_mayClaim⟩
    · exact .inr hreactivates

/-- A pool with a registration token for two. -/
def Registry.sample : Registry where
  now := 0
  pools := ⟨[{ organization := 0, key := "prod" }]⟩
  tokens := ⟨[{ organization := 0, pool := 0, tokenHash := "token", expiresAt := 5
                maxRegistrations := 2 }]⟩

/-- A registration with the token. -/
def RegistrationRequest.sample (bearerToken : String) : RegistrationRequest where
  registrationToken := "token"
  displayName := "Runner"
  runnerVersion := "1"
  fingerprintSha256 := "fingerprint"
  hostname := "host"
  bearerToken := bearerToken

/-- The runner is registered and disabled. -/
def disabledRegistry : Registry :=
  runnerOps .sample [.register (.sample "first"), .disable 0] .sample

/-- A heartbeat does not help it. -/
theorem ended_runner_stays_disabled : ∃ row, disabledRegistry.runners.get? 0 = some row ∧
    row.status = .disabled ∧ ∃ row', (runnerOps .sample [.heartbeat 0 "1" "host", .drain 0]
      disabledRegistry).runners.get? 0 = some row' ∧ Over row row' ∧ row'.mayClaim = false := by
  have hchecked : ((disabledRegistry.runners.get? 0).any (·.status = .disabled)) = true := by decide
  obtain ⟨row, hrow, hstatus⟩ := (Option.any_eq_true _ _).1 hchecked
  have hdisabled := of_decide_eq_true hstatus
  refine ⟨row, hrow, hdisabled, ((ended_runner_stays .sample
    [.heartbeat 0 "1" "host", .drain 0] hrow).2 hdisabled).resolve_right ?_⟩
  rintro ⟨before, req, after, hops, -⟩
  have hmem : RunnerOp.register req ∈ [RunnerOp.heartbeat 0 "1" "host", .drain 0] := by
    rw [hops]
    exact List.mem_append_right _ List.mem_cons_self
  simp at hmem

/-- A registration makes the disabled runner active. -/
theorem disabled_runner_reactivated : ¬∀ (env : Env) (s : Registry) (ops : List RunnerOp) (i : ℕ)
    (row row' : RegisteredRunner), s.runners.get? i = some row →
      row.status = .disabled ∨ row.status = .revoked →
        (runnerOps env ops s).runners.get? i = some row' →
          row'.status ≠ .active ∧ row'.mayClaim = false := by
  intro h
  have hdisabled : ((disabledRegistry.runners.get? 0).any (·.status = .disabled)) = true := by decide
  have hactive : ((runnerOps .sample [.register (.sample "second")] disabledRegistry).runners.get?
      0).any (·.status = .active) = true := by decide
  obtain ⟨row, hrow, hstatus⟩ := (Option.any_eq_true _ _).1 hdisabled
  obtain ⟨row', hrow', hstatus'⟩ := (Option.any_eq_true _ _).1 hactive
  exact (h .sample _ [.register (.sample "second")] 0 row row' hrow (.inl (of_decide_eq_true hstatus))
    hrow').1 (of_decide_eq_true hstatus')

-- ════════════════════════════════════════════════════════════════════════
-- Tokens, under any interleaving
-- ════════════════════════════════════════════════════════════════════════

/-- A registration in flight: `register_runner` read the clock at `now`, and the validation
read it at `checkedAt` before it waits for the row of the token. -/
structure PendingRegistration where
  req : RegistrationRequest
  now : Time
  checkedAt : Option Time := none

/-- The registry and the registrations in flight. -/
structure RegistryConf where
  db : Registry
  pending : List PendingRegistration := []

/-- `revoke_registration_token`, as it saves the row. -/
def revokeRegistrationToken (now : Time) (token : RegistrationToken) : RegistrationToken :=
  { token with revokedAt := some now }

/-- The check constraints on `RunnerRegistrationToken`. -/
structure RegistrationToken.Valid (token : RegistrationToken) : Prop where
  maxRegistrations : 1 ≤ token.maxRegistrations
  usedCount : token.usedCount ≤ token.maxRegistrations

/-- One step of a registration, an operator or anything else. A registration holds the row of
its token from the checks to the commit, so these are one step. -/
inductive RegistryStep (env : Env) : RegistryConf → RegistryConf → Prop
  | start (c : RegistryConf) (req : RegistrationRequest) :
    RegistryStep env c { c with pending := c.pending ++ [{ req, now := c.db.now }] }
  | validate (db : Registry) (before after : List PendingRegistration) (p : PendingRegistration)
      (h : p.checkedAt = none) :
    RegistryStep env ⟨db, before ++ p :: after⟩
      ⟨db, before ++ { p with checkedAt := some db.now } :: after⟩
  | commit (db db' : Registry) (before after : List PendingRegistration) (p : PendingRegistration)
      (t : Time) (runner : ℕ) (ht : p.checkedAt = some t)
      (h : registerRunner env p.req p.now t db = .ok (runner, db')) :
    RegistryStep env ⟨db, before ++ p :: after⟩ ⟨db', before ++ after⟩
  | fail (db : Registry) (before after : List PendingRegistration) (p : PendingRegistration) :
    RegistryStep env ⟨db, before ++ p :: after⟩ ⟨db, before ++ after⟩
  | createToken (c : RegistryConf) (token : RegistrationToken) (hused : token.usedCount = 0)
      (h : token.Valid) (hunique : (c.db.tokens.find? fun _ t => t.tokenHash = token.tokenHash) = none) :
    RegistryStep env c { c with db := { c.db with tokens := c.db.tokens.insert token } }
  | revokeToken (c : RegistryConf) (i : ℕ) (now : Time) :
    RegistryStep env c
      { c with db := { c.db with tokens := c.db.tokens.modify i (revokeRegistrationToken now) } }
  | editToken (c : RegistryConf) (i : ℕ) (token : RegistrationToken) (h : token.Valid) :
    RegistryStep env c { c with db := { c.db with tokens := c.db.tokens.modify i fun old =>
      { token with tokenHash := old.tokenHash } } }
  -- The clock goes on, and runners, pools and operators do what leaves the tokens alone.
  | other (c : RegistryConf) (db : Registry) (htokens : db.tokens = c.db.tokens)
      (hnow : c.db.now ≤ db.now) : RegistryStep env c { c with db }

/-- What any number of steps reach from a registry without tokens and registrations. -/
inductive RegistryReach (env : Env) : RegistryConf → Prop
  | start (db : Registry) (h : db.tokens = .empty) : RegistryReach env ⟨db, []⟩
  | step {c c' : RegistryConf} (hc : RegistryReach env c) (h : RegistryStep env c c') :
    RegistryReach env c'

/-- The clock was read while the registration was in flight. -/
structure PendingRegistration.Timed (now : Time) (p : PendingRegistration) : Prop where
  now_le : p.now ≤ now
  checkedAt_le : ∀ t, p.checkedAt = some t → p.now ≤ t ∧ t ≤ now

theorem PendingRegistration.Timed.mono {now now' : Time} {p : PendingRegistration}
    (h : p.Timed now) (hle : now ≤ now') : p.Timed now' where
  now_le := h.now_le.trans hle
  checkedAt_le t ht := ⟨(h.checkedAt_le t ht).1, (h.checkedAt_le t ht).2.trans hle⟩

/-- Tokens are within their bounds, and registrations read the clock in order. -/
structure RegistryInv (c : RegistryConf) : Prop where
  bounded : ∀ i token, c.db.tokens.get? i = some token → token.usedCount ≤ token.maxRegistrations
  timed : ∀ p ∈ c.pending, p.Timed c.db.now

/-- What a registration does to the tokens. -/
theorem registerRunner_tokens {runner : ℕ}
    (h : registerRunner env req now checkedAt s = .ok (runner, s')) :
    ∃ i token, TokenValid env req checkedAt s i token ∧
      s'.tokens.get? i = some { token with usedCount := token.usedCount + 1 } ∧
      ∀ j, j ≠ i → s'.tokens.get? j = s.tokens.get? j := by
  obtain ⟨i, token, hvalid, htokens, -⟩ := registerRunner_ok h
  refine ⟨i, token, hvalid, ?_, fun j hj => ?_⟩
  · rw [htokens, Table.get?_modify_self, hvalid.stored]
    rfl
  · rw [htokens]
    exact Table.get?_modify_of_ne hj _ _

theorem registerRunner_now {runner : ℕ}
    (h : registerRunner env req now checkedAt s = .ok (runner, s')) : s'.now = s.now := by
  simp only [registerRunner, except_bind_ok, pure, Except.pure, Except.ok.injEq, Prod.mk.injEq] at h
  obtain ⟨-, -, -, -, -, rfl⟩ := h
  rfl

/-- An edit that keeps one token within its bounds keeps all of them so. -/
theorem bounded_modify {tokens : Table RegistrationToken} {f : RegistrationToken → RegistrationToken}
    (h : ∀ i token, tokens.get? i = some token → token.usedCount ≤ token.maxRegistrations)
    (hf : ∀ token, token.usedCount ≤ token.maxRegistrations →
      (f token).usedCount ≤ (f token).maxRegistrations) (k i : ℕ) (token : RegistrationToken)
    (htoken : (tokens.modify k f).get? i = some token) : token.usedCount ≤ token.maxRegistrations := by
  by_cases hi : i = k
  · subst hi
    rw [Table.get?_modify_self, Option.map_eq_some_iff] at htoken
    obtain ⟨old, hold, rfl⟩ := htoken
    exact hf old (h i old hold)
  · rw [Table.get?_modify_of_ne hi] at htoken
    exact h i token htoken

/-- A registration keeps the tokens within their bounds: it took one that had a use left. -/
theorem bounded_registerRunner {runner : ℕ}
    (h : registerRunner env req now checkedAt s = .ok (runner, s'))
    (hs : ∀ i token, s.tokens.get? i = some token → token.usedCount ≤ token.maxRegistrations)
    (j : ℕ) (token' : RegistrationToken) (htoken' : s'.tokens.get? j = some token') :
    token'.usedCount ≤ token'.maxRegistrations := by
  obtain ⟨i, token, hvalid, hused, hothers⟩ := registerRunner_tokens h
  by_cases hj : j = i
  · subst hj
    obtain rfl := Option.some.inj (htoken'.symm.trans hused)
    exact hvalid.unused
  · exact hs j token' ((hothers j hj).symm.trans htoken')

theorem mem_pending_of_done {α : Type} {a b : α} {before after : List α} (h : a ∈ before ++ after) :
    a ∈ before ++ b :: after := by
  obtain h | h := List.mem_append.1 h
  · exact List.mem_append_left _ h
  · exact List.mem_append_right _ (List.mem_cons_of_mem _ h)

/-- One step keeps the invariant. -/
theorem registryInv_step {c c' : RegistryConf} (hc : RegistryInv c) (h : RegistryStep env c c') :
    RegistryInv c' := by
  cases h with
  | start _ req =>
    refine ⟨hc.bounded, fun p hp => ?_⟩
    obtain hp | hp := List.mem_append.1 hp
    · exact hc.timed p hp
    · obtain rfl := List.mem_singleton.1 hp
      exact ⟨le_refl _, fun t ht => nomatch ht⟩
  | validate db before after p hnone =>
    refine ⟨hc.bounded, fun q hq => ?_⟩
    obtain hq | hq := List.mem_append.1 hq
    · exact hc.timed q (List.mem_append_left _ hq)
    · obtain rfl | hq := List.mem_cons.1 hq
      · have hp := hc.timed p (List.mem_append_right _ List.mem_cons_self)
        refine ⟨hp.now_le, fun t ht => ?_⟩
        obtain rfl := Option.some.inj ht
        exact ⟨hp.now_le, le_refl _⟩
      · exact hc.timed q (List.mem_append_right _ (List.mem_cons_of_mem _ hq))
  | commit db db' before after p t runner ht hregister =>
    refine ⟨bounded_registerRunner hregister hc.bounded, fun q hq => ?_⟩
    rw [show (RegistryConf.mk db' (before ++ after)).db.now = db.now from
      registerRunner_now hregister]
    exact hc.timed q (mem_pending_of_done hq)
  | fail db before after p =>
    exact ⟨hc.bounded, fun q hq => hc.timed q (mem_pending_of_done hq)⟩
  | createToken _ token hused hvalid hunique =>
    refine ⟨fun i row hrow => ?_, hc.timed⟩
    rw [Table.get?_insert] at hrow
    split_ifs at hrow with hi
    · obtain rfl := Option.some.inj hrow
      exact hvalid.usedCount
    · exact hc.bounded i row hrow
  | revokeToken _ i now =>
    exact ⟨bounded_modify (f := revokeRegistrationToken now) hc.bounded (fun _ hle => hle) i, hc.timed⟩
  | editToken _ i token hvalid =>
    refine ⟨fun j row hrow => bounded_modify hc.bounded (fun _ _ => ?_) i j row hrow, hc.timed⟩
    exact hvalid.usedCount
  | other _ db htokens hnow =>
    refine ⟨fun i token htoken => hc.bounded i token ?_, fun p hp => (hc.timed p hp).mono hnow⟩
    rwa [← htokens]

/-- The invariant holds of whatever is reached. -/
theorem registryInv_reach {c : RegistryConf} (h : RegistryReach env c) : RegistryInv c := by
  induction h with
  | start db hempty =>
    refine ⟨fun i token htoken => ?_, fun p hp => nomatch hp⟩
    rw [show (RegistryConf.mk db []).db.tokens = .empty from hempty, Table.get?_empty] at htoken
    cases htoken
  | step hc h ih => exact registryInv_step ih h

/-- **Registration tokens are bounded**: no token is used more often than it allows, and a
registration that commits takes one use of one token, which is not revoked and has a use left
then, and was not expired when the registration, in flight, read the clock. -/
theorem registration_tokens_bounded {c : RegistryConf} (h : RegistryReach env c) :
    (∀ i token, c.db.tokens.get? i = some token → token.usedCount ≤ token.maxRegistrations) ∧
      ∀ p ∈ c.pending, ∀ t runner db', p.checkedAt = some t →
        registerRunner env p.req p.now t c.db = .ok (runner, db') →
          (p.now ≤ t ∧ t ≤ c.db.now) ∧ ∃ i token, TokenValid env p.req t c.db i token ∧
            db'.tokens.get? i = some { token with usedCount := token.usedCount + 1 } ∧
            ∀ j, j ≠ i → db'.tokens.get? j = c.db.tokens.get? j := by
  have hinv := registryInv_reach h
  refine ⟨hinv.bounded, fun p hp t runner db' ht hregister => ?_⟩
  exact ⟨(hinv.timed p hp).checkedAt_le t ht, registerRunner_tokens hregister⟩

/-- A registration that read the clock at the start and waits for the row of its token. -/
def waitingRegistration : PendingRegistration where
  req := .sample "first"
  now := 0
  checkedAt := some 0

/-- The registration waits, however late it is. -/
theorem registryReach_waiting (now : Time) :
    RegistryReach .sample ⟨{ Registry.sample with now }, [waitingRegistration]⟩ := by
  have hempty : RegistryReach .sample ⟨{ Registry.sample with tokens := .empty }, []⟩ := .start _ rfl
  have htoken := hempty.step (.createToken _
    { organization := 0, pool := 0, tokenHash := "token", expiresAt := 5, maxRegistrations := 2 }
    rfl ⟨by decide, by decide⟩ rfl)
  have hstarted := htoken.step (.start _ (.sample "first"))
  have hvalidated := hstarted.step (.validate Registry.sample [] [] _ rfl)
  exact hvalidated.step (.other _ { Registry.sample with now } rfl (Nat.zero_le now))

/-- The registration that waits takes a use of the token. -/
theorem registration_tokens_bounded_waiting : ∃ runner db' i token,
    registerRunner .sample waitingRegistration.req 0 0 Registry.sample = .ok (runner, db') ∧
      TokenValid .sample waitingRegistration.req 0 Registry.sample i token ∧
      db'.tokens.get? i = some { token with usedCount := token.usedCount + 1 } := by
  have hchecked : (registerRunner .sample waitingRegistration.req 0 0 Registry.sample).isOk = true := by
    decide
  obtain ⟨⟨runner, db'⟩, hregister⟩ := exists_eq_ok hchecked
  obtain ⟨-, i, token, hvalid, hused, -⟩ := (registration_tokens_bounded
    (registryReach_waiting 0)).2 waitingRegistration List.mem_cons_self 0 runner db' rfl hregister
  exact ⟨runner, db', i, token, hregister, hvalid, hused⟩

/-- The registration that waits succeeds after its token expired. -/
theorem registered_after_expiry : ¬∀ (env : Env) (c : RegistryConf), RegistryReach env c →
    ∀ p ∈ c.pending, ∀ t runner db', p.checkedAt = some t →
      registerRunner env p.req p.now t c.db = .ok (runner, db') →
        ∃ i token, TokenValid env p.req c.db.now c.db i token := by
  intro h
  have hchecked : (registerRunner .sample waitingRegistration.req 0 0
      { Registry.sample with now := 6 }).isOk = true := by
    decide
  obtain ⟨⟨runner, db'⟩, hregister⟩ := exists_eq_ok hchecked
  obtain ⟨i, token, hvalid⟩ := h .sample _ (registryReach_waiting 6) waitingRegistration
    List.mem_cons_self 0 runner db' rfl hregister
  have hlt : i < 1 := Table.lt_next hvalid.stored
  obtain rfl := Nat.lt_one_iff.1 hlt
  obtain rfl := Option.some.inj hvalid.stored
  exact absurd hvalid.notExpired (by decide)

end RunbookPlatform
