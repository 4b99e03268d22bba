import RunbookPlatform.Artifacts.Upload

/-!
# The system

Every request the platform serves, as a program over the database, together with the two
things that happen around it: the clock goes on and administrators edit the reference
data. A run is a sequence of requests, each executed to its end (`Reachable`), or an
interleaving of the transactions of many requests in flight (`Interleaved`).

## Main definitions

- `Op`, `Op.prog` — the requests and their programs
- `Db.initial` — the database of an organization without changes and executions
- `Reachable`, `Interleaved` — sequential and interleaved runs

## Main results

- `Reachable.interleaved` — a sequential run is an interleaved one
- `Reachable.invariant`, `Interleaved.invariant` — invariants of runs
-/

namespace RunbookPlatform

open Transactional

set_option synthInstance.maxSize 1000

/-- The requests of the platform, with their arguments. -/
inductive Op where
  /-- The clock goes on by `elapsed`. -/
  | tick (elapsed : Time)
  /-- Administrators edit profiles, workflows, policies, pools, routes or members. -/
  | editReference (reference : Reference)
  | createChange (req : ChangeRequest) (actor : AuditActor)
  | submitChange (change : ℕ) (actor : AuditActor) (nonce : String)
  | saveWindow (change : ℕ) (req : WindowRequest) (actor : AuditActor)
  | createFreezeRule (rule : FreezeRule) (actor : AuditActor)
  | updateFreezeRule (rule : ℕ) (update : FreezeRuleUpdate) (actor : AuditActor)
  | deactivateFreezeRule (rule : ℕ) (actor : AuditActor)
  | runPreflight (change : ℕ) (actor : Option AuditActor)
  | dispatch (change : ℕ) (actor : AuditActor) (nonce : String)
  | bindExecution (req : BindRequest)
  | reportAccepted (req : CallbackRequest)
  | reportStarted (req : CallbackRequest)
  | reportFinished (req : CallbackRequest)
  | submitRunnerResult (req : RunnerResultRequest)
  | submitUserResult (user : User) (req : ResultRequest)
  | closeChange (req : CloseRequest) (actor : AuditActor)
  | requestException (req : ExceptionRequest) (actor : AuditActor)
  | approveException (exc : ℕ) (actor : AuditActor) (user : Option String)
  | rejectException (exc : ℕ) (actor : AuditActor) (user : Option String)
  | resolveException (exc : ℕ) (actor : AuditActor) (note : String)
  | activateBreakglass (req : BreakglassRequest) (actor : AuditActor)
  | endBreakglass (change : ℕ) (actor : AuditActor) (reason : String)
  | breakglassHeartbeat (change : ℕ) (call : RunnerCall) (session : ℕ) (observedAt : Option Time)
  | markBreakglassOverdue
  | submitRetroReview (req : RetroReviewRequest) (actor : AuditActor)
  | markRetroReviewsOverdue
  | createExecution (workflow : ℕ) (mode : ExecutionMode) (actor : AuditActor)
  | cancelExecution (execution : ℕ) (actor : AuditActor)
  | claimNext (runnerId : String) (registered : Bool) (token : String) (nonce : ℕ → String)
  | heartbeat (execution : ℕ) (call : RunnerCall)
  | startStep (execution step : ℕ) (call : RunnerCall)
  | pollApproval (execution step : ℕ) (call : RunnerCall)
  | updateStep (execution step : ℕ) (call : RunnerCall) (update : StepUpdate)
  | completeExecution (execution : ℕ) (call : RunnerCall) (outcome : ExecutionStatus)
  | uploadArtifact (req : UploadRequest) (call : RunnerCall)
  | readApproval (approval : ℕ)
  | decideApproval (approval : ℕ) (decision : HumanDecision) (notes : String) (actor : AuditActor)
      (nonce : String)
  | recoverStuckExecutions (stuckThresholdSeconds : ℕ)
  | recoverExpiredApprovals (batchSize : ℕ)

/-- The cells that a request may write. -/
@[reducible] def Op.cells : Op → List Cell
  | .tick _ => [.clock]
  | .editReference _ => [.reference]
  | .createChange .. => [.changes, .changeStatus .draft, .changeDossier, .changeRetro, .changeTargets, .audit]
  | .submitChange .. => submissionCells
  | .saveWindow .. => .windows :: invalidationCells
  | .createFreezeRule .. | .updateFreezeRule .. | .deactivateFreezeRule .. =>
    [.freezeRules, .audit]
  | .runPreflight .. => preflightCells
  | .dispatch .. => dispatchCells
  | .bindExecution _ => bindHandlerCells
  | .reportAccepted _ | .reportStarted _ => [.bindings, .audit]
  | .reportFinished _ => finishedCells
  | .submitRunnerResult _ | .submitUserResult .. => resultCells
  | .closeChange .. => closureCells
  | .requestException .. =>
    [.exceptions, .exceptionOutcome, .exceptionEnds, .approvals, .audit]
  | .approveException .. | .rejectException .. => exceptionDecisionCells
  | .resolveException .. => [.exceptions, .exceptionOutcome, .exceptionEnds, .audit]
  | .activateBreakglass .. => [.sessions, .sessionRows, .retroReviews, .changes, .changeRetro, .audit]
  | .endBreakglass .. => [.sessions, .sessionEnds, .audit]
  | .breakglassHeartbeat .. => [.sessions, .sessionEnds, .sessionReviews, .audit]
  | .markBreakglassOverdue => [.sessions, .sessionReviews, .audit]
  | .submitRetroReview .. => retroReviewCells
  | .markRetroReviewsOverdue => [.changes, .changeRetro, .audit]
  | .createExecution .. => creationCells
  | .cancelExecution .. => cancelCells
  | .claimNext .. => claimNextCells
  | .heartbeat .. => .executions :: sweepCells
  | .startStep .. => startCells
  | .pollApproval .. => pollCells
  | .updateStep .. => updateStepCells
  | .completeExecution .. => completeViewCells
  | .uploadArtifact .. => .artifacts :: sweepCells
  | .readApproval _ => approvalStatusCells
  | .decideApproval .. => decideCells
  | .recoverStuckExecutions _ => recoverHandlerCells
  | .recoverExpiredApprovals _ => recoverApprovalCells

/-- The clock goes on. -/
def advanceClock (elapsed : Time) : Service [.clock] Unit :=
  Tx.write (fun s => ((), { s with now := s.now + elapsed })) <| by
    intro s c hc
    have hrefl := Cells.agree_refl c s
    cases c with
    | clock => simp at hc
    | sessionReviews => exact ⟨Nat.le_add_right _ _, .refl BreakglassSession.Reviewed.refl _⟩
    | _ => exact hrefl

/-- The reference data becomes `reference`. -/
def replaceReference (reference : Reference) : Service [.reference] Unit :=
  Tx.write (fun s => ((), { s with reference })) <| by
    intro s c hc
    have hrefl := Cells.agree_refl c s
    cases c with
    | reference => simp at hc
    | _ => exact hrefl

/-- A service called outside any transaction is one. -/
def serve {W : List Cell} {α : Type} (t : Service W α) (name : TxName := .service) :
    Handler W Unit := do
  let _ ← Prog.atomic name t

/-- A handler whose result only goes into the response. -/
def respond {W : List Cell} {α : Type} (p : Handler W α) : Handler W Unit := do
  let _ ← p

/-- The program of a request. -/
def Op.prog (env : Env) : (op : Op) → Handler op.cells Unit
  | .tick elapsed => serve (advanceClock elapsed)
  | .editReference reference => serve (replaceReference reference)
  | .createChange req actor => respond (createChangeRecord env req actor)
  | .submitChange change actor nonce => serve (submitChangeRecord env change actor nonce) (.submitChange change)
  | .saveWindow change req actor => do
    let row ← Prog.read (lookup Db.changes "ChangeRecord" change)
    respond (createOrUpdateChangeWindow ⟨change, row⟩ req actor)
  | .createFreezeRule rule actor => respond (RunbookPlatform.createFreezeRule env rule actor)
  | .updateFreezeRule rule update actor => do
    let row ← Prog.read (lookup Db.freezeRules "FreezeRule" rule)
    RunbookPlatform.updateFreezeRule env ⟨rule, row⟩ update actor
  | .deactivateFreezeRule rule actor => do
    let row ← Prog.read (lookup Db.freezeRules "FreezeRule" rule)
    RunbookPlatform.deactivateFreezeRule ⟨rule, row⟩ actor
  | .runPreflight change actor => respond (runDispatchPreflight env change actor)
  | .dispatch change actor nonce => serve (makeDispatchable env change actor nonce) (.dispatch change)
  | .bindExecution req => RunbookPlatform.bindExecution env req
  | .reportAccepted req => serve (recordExecutionAccepted req)
  | .reportStarted req => serve (recordExecutionStarted req)
  | .reportFinished req => serve (recordExecutionFinished req)
  | .submitRunnerResult req => respond (recordRunnerVerificationResult env req)
  | .submitUserResult user req => respond (submitUserVerificationResult env user req)
  | .closeChange req actor => RunbookPlatform.closeChange req actor
  | .requestException req actor => RunbookPlatform.requestException env req actor
  | .approveException exc actor user => RunbookPlatform.approveException exc actor user
  | .rejectException exc actor user => RunbookPlatform.rejectException exc actor user
  | .resolveException exc actor note => RunbookPlatform.resolveException exc actor note
  | .activateBreakglass req actor =>
    serve (RunbookPlatform.activateBreakglass env req actor) (.activateBreakglass req.change)
  | .endBreakglass change actor reason => endChangeBreakglass change actor reason
  | .breakglassHeartbeat change call session observedAt =>
    recordBreakglassHeartbeat change call.runnerId call.claimToken session observedAt
  | .markBreakglassOverdue => markBreakglassReviewOverdue
  | .submitRetroReview req actor => RunbookPlatform.submitRetroReview req actor
  | .markRetroReviewsOverdue => markOverdueRetroReviews
  | .createExecution workflow mode actor => do
    let row ← Prog.read (lookup (·.reference.workflows) "Workflow" workflow)
    respond (RunbookPlatform.createExecution env ⟨workflow, row⟩ mode actor false)
  | .cancelExecution execution actor => 
    serve (RunbookPlatform.cancelExecution execution actor) (.cancelExecution execution)
  | .claimNext runnerId registered token nonce =>
    RunbookPlatform.claimNext env runnerId registered token nonce
  | .heartbeat execution call => heartbeatExecution execution call
  | .startStep execution step call => RunbookPlatform.startStep env execution step call
  | .pollApproval execution step call => RunbookPlatform.pollApproval env execution step call
  | .updateStep execution step call update =>
    RunbookPlatform.updateStep env execution step call update
  | .completeExecution execution call outcome => completeByRunner env execution call outcome
  | .uploadArtifact req call => createFromRunnerUpload env req call
  | .readApproval approval => RunbookPlatform.readApproval env approval
  | .decideApproval approval decision notes actor nonce =>
    RunbookPlatform.decideApproval env approval decision notes actor nonce
  | .recoverStuckExecutions seconds => RunbookPlatform.recoverStuckExecutions env seconds
  | .recoverExpiredApprovals batchSize => RunbookPlatform.recoverExpiredApprovals env batchSize

-- ════════════════════════════════════════════════════════════════════════
-- Runs
-- ════════════════════════════════════════════════════════════════════════

/-- All cells that requests write. -/
@[reducible] def allCells : List Cell :=
  [.clock, .reference, .changes, .changeApproval, .changeDossier, .changeRetro,
    .changeStatus .draft,
    .changeStatus .pendingApproval,
    .changeStatus .approved, .changeStatus .scheduled, .changeStatus .dispatchable,
    .changeStatus .running, .changeStatus .verificationPending,
    .changeStatus .verificationFailed, .changeStatus .verified, .changeStatus .closed,
    .changeStatus .rejected, .changeStatus .canceled, .changeStatus .expired, .changeTargets,
    .bindings, .plans, .checks, .results, .closures, .windows, .freezeRules, .targetLocks,
    .preflights, .exceptions, .exceptionOutcome, .exceptionEnds, .sessions, .sessionRows,
    .sessionEnds, .sessionReviews, .retroReviews, .executions, .executionStatus .queued,
    .executionStatus .claimed, .executionStatus .running, .executionStatus .succeeded,
    .executionStatus .failed, .executionStatus .cancelled, .steps, .approvals, .decisions,
    .evaluations, .leases, .artifacts, .audit, .statusEvents]

instance (op : Op) : Within op.cells allCells := ⟨by cases op <;> dsimp only [Op.cells] <;> decide⟩

/-- The database of an organization without changes and executions. -/
def Db.initial (reference : Reference) (now : Time) : Db := { reference, now }

/-- A condition on the states in which transactions commit. -/
abbrev Admission := TxName → Db → Prop

/-- No condition. -/
def anyAdmission : Admission := fun _ _ => True

/-- The states after sequential runs: every request runs to its end before the next one,
and each of its commits is admitted by `A`. -/
inductive Reachable (env : Env) (A : Admission) : Db → Prop where
  | initial (reference : Reference) (now : Time) : Reachable env A (.initial reference now)
  | request {s : Db} (op : Op) : Reachable env A s → (op.prog env).Meets A s →
      Reachable env A ((op.prog env).exec s).2

/-- The program of a request, as one of many in flight. -/
def IsRequest (env : Env) (p : Handler allCells Unit) : Prop :=
  ∃ op : Op, p = (op.prog env).widen

/-- The states of the database in interleaved runs: the transactions of any number of
requests commit in any order, a request can die between two of its transactions, and each
commit is admitted by `A`. -/
def Interleaved (env : Env) (A : Admission) (s : Db) : Prop :=
  ∃ reference now inflight, Conf.Reach (IsRequest env) A (.initial reference now) ⟨s, inflight⟩

/-- The configurations of interleaved runs. -/
def Running (env : Env) (A : Admission) (c : Conf Db Err TxName allCells) : Prop :=
  ∃ reference now, Conf.Reach (IsRequest env) A (.initial reference now) c

/-- One step of an interleaved run. -/
abbrev RunStep (env : Env) (A : Admission) (c c' : Conf Db Err TxName allCells) : Prop :=
  Conf.Step (IsRequest env) A c c'

theorem Running.interleaved {env : Env} {A : Admission} {c : Conf Db Err TxName allCells}
    (h : Running env A c) : Interleaved env A c.db := by
  obtain ⟨reference, now, hreach⟩ := h
  exact ⟨reference, now, c.inflight, hreach⟩

/-- **Sequential runs are interleaved runs.** -/
theorem Reachable.interleaved {env : Env} {A : Admission} {s : Db} (h : Reachable env A s) :
    Interleaved env A s := by
  suffices ∃ reference now, Conf.Reach (IsRequest env) A (.initial reference now) ⟨s, []⟩ by
    obtain ⟨reference, now, hreach⟩ := this
    exact ⟨reference, now, [], hreach⟩
  induction h with
  | initial reference now => exact ⟨reference, now, .start⟩
  | request op _ hm ih =>
    obtain ⟨reference, now, hreach⟩ := ih
    have hnext := hreach.exec (p := (op.prog env).widen) ⟨op, rfl⟩
      (by simpa only [Prog.Meets, Prog.commits_widen] using hm)
    rw [Prog.exec_widen] at hnext
    exact ⟨reference, now, hnext⟩

/-- **Invariants of interleaved runs**: what holds initially and survives every admitted step
of a relation that all requests follow holds throughout. -/
theorem Interleaved.invariant {env : Env} {A : Admission} {R : TxName → Db → Db → Prop}
    {I : Db → Prop} (hop : ∀ (op : Op) (s : Db), (op.prog env).Follows historyCells R s)
    (h0 : ∀ reference now, I (.initial reference now))
    (hI : ∀ n s s', R n s s' → A n s → I s → I s') {s : Db} (h : Interleaved env A s) : I s := by
  obtain ⟨reference, now, inflight, hreach⟩ := h
  refine hreach.invariant (H := historyCells) (by decide) ?_ (h0 reference now) hI
  rintro p ⟨op, rfl⟩ s
  exact (hop op s).widen

/-- **Steps of interleaved runs**: each leaves the database alone, or is an admitted step of a
relation that all requests follow. -/
theorem Running.cases {env : Env} {A : Admission} {R : TxName → Db → Db → Prop}
    (hop : ∀ (op : Op) (s : Db), (op.prog env).Follows historyCells R s)
    {c c' : Conf Db Err TxName allCells} (h : Running env A c) (hs : RunStep env A c c') :
    c'.db = c.db ∨ ∃ n, R n c.db c'.db ∧ A n c.db := by
  obtain ⟨reference, now, hreach⟩ := h
  refine Conf.Good.cases (H := historyCells) (hreach.good (by decide) ?_) hs
  rintro p ⟨op, rfl⟩ s
  exact (hop op s).widen

/-- A step of a run leaves the histories alone. -/
theorem RunStep.history {env : Env} {A : Admission} {c c' : Conf Db Err TxName allCells}
    (h : RunStep env A c c') : SameOn historyCells c.db c'.db := by
  cases h with
  | arrive | rollback | crash => exact .refl _ _
  | commit _ ht _ => exact Tx.sameOn ht _ (by decide)

/-- So does a whole run. -/
theorem RunStep.histories {env : Env} {A : Admission} {c c' : Conf Db Err TxName allCells}
    (h : Relation.ReflTransGen (RunStep env A) c c') : SameOn historyCells c.db c'.db := by
  induction h with
  | refl => exact .refl _ _
  | tail _ hs ih => exact ih.trans (RunStep.history hs)

/-- **Invariants of sequential runs.** -/
theorem Reachable.invariant {env : Env} {A : Admission} {R : TxName → Db → Db → Prop}
    {I : Db → Prop} (hop : ∀ (op : Op) (s : Db), (op.prog env).Follows historyCells R s)
    (h0 : ∀ reference now, I (.initial reference now))
    (hI : ∀ n s s', R n s s' → A n s → I s → I s') {s : Db} (h : Reachable env A s) : I s :=
  h.interleaved.invariant hop h0 hI

/-- The state after a list of requests, one after another. -/
def runOps (env : Env) : List Op → Db → Db
  | [], s => s
  | op :: ops, s => runOps env ops ((op.prog env).exec s).2

/-- Any list of requests is a sequential run. -/
theorem Reachable.runOps {env : Env} {s : Db} (h : Reachable env anyAdmission s)
    (ops : List Op) : Reachable env anyAdmission (runOps env ops s) := by
  induction ops generalizing s with
  | nil => exact h
  | cons op ops ih => exact ih (h.request op (Prog.Meets.of_forall (fun _ _ => trivial) _ s))

/-- **Frame rule for requests**: a request only changes cells of its footprint. -/
theorem Op.follows_of_frame {env : Env} {R : TxName → Db → Db → Prop} {C : List Cell}
    (hR : ∀ n s s', SameOn C s s' → R n s s') (op : Op) (hdisj : ∀ c ∈ C, c ∉ op.cells)
    (s : Db) : (op.prog env).Follows historyCells R s :=
  Prog.Follows.frame hdisj hR _ s

/-- Every commit leaves the histories alone. -/
theorem Op.history (env : Env) (op : Op) (s : Db) :
    (op.prog env).Follows historyCells (fun _ => SameOn historyCells) s :=
  op.follows_of_frame (C := historyCells) (fun _ _ _ h => h)
    (by cases op <;> dsimp only [Op.cells] <;> decide) s

-- ════════════════════════════════════════════════════════════════════════
-- A sample organization
-- ════════════════════════════════════════════════════════════════════════

/-- An environment to run examples in: texts are ASCII and in lower case, and a hash is the
text itself. -/
def Env.sample : Env where
  sha256 text := text
  hmacSha256 key message := key ++ message
  lower text := text
  reprText text := "'" ++ text ++ "'"
  isoformat t := toString t
  parseDatetime _ := .ok none
  localTime _ _ := .ok ("mon", "12:00")
  changeDispatchTokenSecret := "secret"
  fullmatch pattern text := some (pattern = text)
  urlparse _ := ("", "")
  validateWorkflowDefinition _ := none
  isWordChar c := c.isAlphanum || c = '_'

/-- A profile whose changes go to dispatch without an approval and close without a
verification. -/
def OperationProfile.sample : OperationProfile where
  organization := 0
  key := "restart"
  name := "Restart"
  riskLevel := "high"
  requiresApproval := false
  verificationRequired := false
  allowedTargetTypes := ["host"]
  allowedWorkflows := [0]
  allowEmergencyChanges := true

/-- One organization with a profile, a workflow with a step, and a runner with its route. -/
def Reference.sample (profile : OperationProfile := .sample) : Reference where
  profiles := ⟨[profile]⟩
  workflows := ⟨[
    { organization := 0
      name := "Restart"
      version := 1
      status := .published
      definition := .obj [("steps", .arr [.obj [("id", .str "restart"), ("name", .str "Restart")]])] }]⟩
  pools := ⟨[{ organization := 0, key := "pool" }]⟩
  runners := [("runner", { organization := 0, pool := 0, status := .active, lastHeartbeatAt := some 0 })]
  routes := ⟨[{ organization := 0, targetType := "host", normalizedIdentifierPattern := "*", pool := 0 }]⟩

/-- A user of the organization. -/
def AuditActor.sample : AuditActor := { actorType := .user, actorId := "operator" }

/-- A request to restart one host. -/
def ChangeRequest.sample : ChangeRequest where
  organization := 0
  operationProfileKey := "restart"
  workflow := 0
  title := "Restart"
  summary := "Restart the host."
  justification := "It hangs."
  targets := [{ environment := "production", targetType := "host", targetIdentifier := "db-1" }]

/-- A freeze that an exception can lift. -/
def FreezeRule.sample : FreezeRule where
  organization := 0
  name := "Freeze"
  behavior := .allowWithException
  startsAt := 0
  endsAt := 100
  scopeType := .allProduction
  requiresExceptionReference := true

/-- An exception from the freeze for the first target of the first change. -/
def ExceptionRequest.sample : ExceptionRequest where
  change := 0
  exceptionType := "freeze_override"
  reason := "It hangs."
  scopeJson := .obj [("freeze_rule_id", .str "0"), ("target_ids", .arr [.str "0"])]
  expiresAt := some 10

/-- A breakglass session for the first target of the first change. -/
def BreakglassRequest.sample : BreakglassRequest where
  change := 0
  scopeJson := .obj [("allowed_actions", .arr [.str "restart"]), ("target_ids", .arr [.str "0"]),
    ("gate_types", .arr [.str "policy"])]
  reason := "It hangs."
  expiresAt := 10
  activatedBy := some "operator"

/-- The review of that session, by another user. -/
def RetroReviewRequest.sample : RetroReviewRequest where
  review := 0
  reviewedBy := some "reviewer"
  disposition := "accepted"
  summary := "It was right."

/-- The runner of the organization binds the execution of the first change. -/
def BindRequest.sample : BindRequest where
  change := 0
  runnerId := "runner"
  runnerId_ne := by decide
  claimToken := "token"
  execution := 0
  dispatchToken := "secret0:0:nonce:{}"
  requestedInputsSha256 := "{}"
  operationProfileKey := "restart"

/-- The runner reports about that execution. -/
def CallbackRequest.sample : CallbackRequest where
  change := 0
  runnerId := "runner"
  execution := 0

/-- The identity that the runner sends with its calls. -/
def RunnerCall.sample : RunnerCall where
  runnerId := "runner"
  claimToken := "token"
  runnerId_ne := by decide
  claimToken_ne := by decide

/-- A change goes to dispatch, and the runner claims and binds its execution. -/
def boundOps : List Op :=
  [.createChange .sample .sample, .submitChange 0 .sample "nonce",
    .claimNext "runner" true "token" fun _ => "nonce", .bindExecution .sample]

/-- A run meets an admission that admits every transaction whose name satisfies `q`, when
only such transactions commit. -/
theorem meets_of_names {W : List Cell} {α : Type} {A : Admission} {q : TxName → Bool}
    (hA : ∀ n s, q n = true → A n s) {p : Handler W α} {s : Db}
    (h : (p.commits s).all (q ·.name) = true) : p.Meets A s :=
  fun c hc => hA c.name c.before (List.all_eq_true.1 h c hc)

/-- The transaction has no name of its own. -/
def TxName.isService : TxName → Bool
  | .service => true
  | _ => false

/-- A run whose transactions have no names of their own meets what these meet. -/
theorem meets_of_service {W : List Cell} {α : Type} {A : Admission} (hA : ∀ s, A .service s)
    {p : Handler W α} {s : Db} (h : (p.commits s).all (·.name.isService) = true) :
    p.Meets A s := by
  refine meets_of_names (fun n s hn => ?_) h
  cases n <;> simp only [TxName.isService, reduceCtorEq] at hn
  exact hA s

/-- The runs of the sample organization are reachable. -/
theorem Reachable.sample (profile : OperationProfile) (ops : List Op) :
    Reachable .sample anyAdmission (RunbookPlatform.runOps .sample ops
      (.initial (.sample profile) 0)) :=
  (Reachable.initial _ _).runOps ops

end RunbookPlatform
