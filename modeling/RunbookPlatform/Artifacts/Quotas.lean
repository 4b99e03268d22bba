import RunbookPlatform.Artifacts.Upload
import RunbookPlatform.System
import Mathlib.Logic.Relation

/-!
# Artifact quotas

Uploads at the same time. The checks of an upload, the save of its row and the count of its
bytes are separate steps, and no lock holds what the checks have read.

## Main definitions

- `UploadConf`, `UploadStep` — uploads, and moves of executions, in any order
- `UploadConf.reads` — what the checks of an upload read
- `Undisturbed` — nothing that an upload has read is changed before it saves and counts
- `QuotasHold`, `SavesLive` — the quotas, and no artifact of an execution that is over

## Main results

- `quotas_hold_undisturbed` — the quotas, where no upload is disturbed
-/

namespace RunbookPlatform

open Transactional

-- ════════════════════════════════════════════════════════════════════════
-- Uploads at the same time
-- ════════════════════════════════════════════════════════════════════════

/-- The day of an instant. -/
def dayOf (t : Time) : ℕ := t / seconds 86400

/-- The total size of the available artifacts of an execution. -/
def executionBytes (execution : ℕ) (s : Db) : ℕ :=
  ((availableArtifacts (·.execution = execution) s).map (·.sizeBytes)).sum

/-- The number of available artifacts of a step. -/
def stepArtifacts (step : ℕ) (s : Db) : ℕ :=
  (availableArtifacts (·.step = some step) s).length

/-- What the checks of an upload read. -/
structure UploadReads where
  status : Option ExecutionStatus
  executionBytes : ℕ
  stepArtifacts : Option ℕ
  day : ℕ
  uploadedToday : ℕ
  deriving DecidableEq

/-- How far an upload is. -/
inductive UploadPhase where
  | arrived
  | accepted (organization : ℕ) (kind : ArtifactKind) (seen : UploadReads)
  | created (artifact : Artifact) (seen : UploadReads)
  | over

/-- An upload on its way. -/
structure PendingUpload where
  req : UploadRequest
  call : RunnerCall
  phase : UploadPhase := .arrived

/-- The database, the cache with the bytes of each runner on each day, and the uploads on
their way. -/
structure UploadConf where
  db : Db
  dailyBytes : String → ℕ → ℕ := fun _ _ => 0
  uploads : Table PendingUpload := .empty
  /-- The artifacts of the uploads that have returned. -/
  finished : List Artifact := []

/-- What the checks of an upload read now. -/
def UploadConf.reads (c : UploadConf) (u : PendingUpload) : UploadReads where
  status := (c.db.executions.get? u.req.execution).map (·.status)
  executionBytes := RunbookPlatform.executionBytes u.req.execution c.db
  stepArtifacts := u.req.step.map fun step => RunbookPlatform.stepArtifacts step c.db
  day := dayOf c.db.now
  uploadedToday := c.dailyBytes u.call.runnerId (dayOf c.db.now)

/-- The upload is in another phase. -/
def UploadConf.setPhase (c : UploadConf) (i : ℕ) (phase : UploadPhase) : UploadConf :=
  { c with uploads := c.uploads.modify i fun u => { u with phase } }

/-- `_increment_runner_daily_quota`. -/
def incrementRunnerDailyQuota (runner : String) (day size : ℕ) (dailyBytes : String → ℕ → ℕ) :
    String → ℕ → ℕ := fun r d =>
  if r = runner ∧ d = day then dailyBytes r d + size else dailyBytes r d

/-- One step of an upload, or of an execution. -/
inductive UploadStep (env : Env) (c : UploadConf) : UploadConf → Prop
  | tick (elapsed : Time) : UploadStep env c { c with db := { c.db with now := c.db.now + elapsed } }
  | move (execution : ℕ) (status : ExecutionStatus) :
    UploadStep env c { c with db := { c.db with
      executions := c.db.executions.modify execution fun e => { e with status } } }
  | arrive (req : UploadRequest) (call : RunnerCall) :
    UploadStep env c { c with uploads := c.uploads.insert { req, call } }
  | accept (i : ℕ) (u : PendingUpload) (e : Execution) (kind : ArtifactKind)
      (hu : c.uploads.get? i = some u) (hphase : u.phase = .arrived)
      (he : c.db.executions.get? u.req.execution = some e)
      (h : checkUpload env { u.req with uploadedToday := (c.reads u).uploadedToday } e c.db =
        .ok kind) :
    UploadStep env c (c.setPhase i (.accepted e.organization kind (c.reads u)))
  | fail (i : ℕ) (u : PendingUpload) (hu : c.uploads.get? i = some u)
      (hphase : ∀ artifact seen, u.phase ≠ .created artifact seen) :
    UploadStep env c (c.setPhase i .over)
  | create (i : ℕ) (u : PendingUpload) (organization : ℕ) (kind : ArtifactKind)
      (seen : UploadReads) (db : Db) (artifact : Artifact) (hu : c.uploads.get? i = some u)
      (hphase : u.phase = .accepted organization kind seen)
      (h : (insertArtifact env u.req u.call organization kind).run c.db = .ok ((), db))
      (hnew : db.artifacts.get? c.db.artifacts.next = some artifact) :
    UploadStep env c ({ c with db }.setPhase i (.created artifact seen))
  | count (i : ℕ) (u : PendingUpload) (artifact : Artifact) (seen : UploadReads)
      (hu : c.uploads.get? i = some u) (hphase : u.phase = .created artifact seen) :
    UploadStep env c
      ({ c with
          dailyBytes := incrementRunnerDailyQuota u.call.runnerId (dayOf c.db.now) u.req.sizeBytes
            c.dailyBytes
          finished := c.finished ++ [artifact] }.setPhase i .over)

/-- What the checks of an upload have read is not changed before it saves its row; and when it
counts its bytes it is the same day, and the count is the one it read. -/
def UndisturbedStep (c c' : UploadConf) : Prop :=
  ∀ (i : ℕ) (u u' : PendingUpload), c.uploads.get? i = some u → c'.uploads.get? i = some u' →
    (∀ organization kind seen artifact, u.phase = .accepted organization kind seen →
      u'.phase = .created artifact seen → c.reads u = seen) ∧
    (∀ artifact seen, u.phase = .created artifact seen → u'.phase = .over →
      (c.reads u).day = seen.day ∧ (c.reads u).uploadedToday = seen.uploadedToday)

/-- Uploads from a database without artifacts, none of which is disturbed. -/
inductive UndisturbedReach (env : Env) : UploadConf → Prop
  | start (db : Db) (h : db.artifacts = .empty) : UndisturbedReach env { db }
  | step {c c' : UploadConf} (hc : UndisturbedReach env c) (h : UploadStep env c c')
      (hcond : UndisturbedStep c c') : UndisturbedReach env c'

/-- The bytes that a runner uploaded on a day. -/
def finishedBytes (runner : String) (day : ℕ) (finished : List Artifact) : ℕ :=
  ((finished.filter fun a => a.uploadedByRunnerId = runner ∧ dayOf a.uploadedAt = day).map
    (·.sizeBytes)).sum

/-- The quotas of executions, steps and runners. -/
structure QuotasHold (env : Env) (c : UploadConf) : Prop where
  execution : ∀ e, executionBytes e c.db ≤ env.artifactMaxTotalBytesPerExecution
  step : ∀ step, stepArtifacts step c.db ≤ env.artifactMaxArtifactsPerStep
  counted : ∀ runner day, c.dailyBytes runner day = finishedBytes runner day c.finished
  runner : ∀ runner day, c.dailyBytes runner day ≤ env.artifactDailyBytesPerRunner

/-- An artifact that is saved belongs to an execution that is not over. -/
def SavesLive (c c' : UploadConf) : Prop :=
  ∀ k artifact, c.db.artifacts.get? k = none → c'.db.artifacts.get? k = some artifact →
    ∃ e, c.db.executions.get? artifact.execution = some e ∧ e.status.isTerminal = false

-- ════════════════════════════════════════════════════════════════════════
-- One upload
-- ════════════════════════════════════════════════════════════════════════

variable {env : Env} {c c' : UploadConf} {s s' : Db} {req : UploadRequest} {call : RunnerCall}
  {organization i : ℕ} {kind : ArtifactKind} {e : Execution} {u : PendingUpload}

/-- The row that an upload saves. -/
def uploadedArtifact (env : Env) (req : UploadRequest) (call : RunnerCall) (organization : ℕ)
    (kind : ArtifactKind) (now : Time) : Artifact where
  organization := organization
  execution := req.execution
  step := req.step
  kind := kind
  name := sanitizeFilename env req.name
  sizeBytes := req.sizeBytes
  checksumSha256 := req.computedChecksum
  uploadedByRunnerId := call.runnerId
  uploadStatus := .available
  uploadedAt := now

theorem insertArtifact_ok (h : (insertArtifact env req call organization kind).run s = .ok ((), s')) :
    s'.artifacts = s.artifacts.insert (uploadedArtifact env req call organization kind s.now) ∧
      s'.executions = s.executions ∧ s'.now = s.now := by
  simp only [insertArtifact, Tx.bind_ok, Tx.lift_query_ok, timezoneNow, select_ok, insertRow_ok,
    Tx.run_lift, emit_ok] at h
  obtain ⟨_, _, ⟨rfl, rfl⟩, _, _, ⟨-, rfl⟩, rfl⟩ := h
  exact ⟨rfl, rfl, rfl⟩

/-- What the checks of an upload, once passed, say about what they read. -/
structure Passes (env : Env) (req : UploadRequest) (seen : UploadReads) : Prop where
  daily : seen.uploadedToday + req.sizeBytes ≤ env.artifactDailyBytesPerRunner
  execution : seen.executionBytes + req.sizeBytes ≤ env.artifactMaxTotalBytesPerExecution
  step : ∀ count, seen.stepArtifacts = some count → count < env.artifactMaxArtifactsPerStep
  live : ∃ status, seen.status = some status ∧ status.isTerminal = false

theorem checkUpload_passes (he : c.db.executions.get? u.req.execution = some e)
    (h : checkUpload env { u.req with uploadedToday := (c.reads u).uploadedToday } e c.db = .ok kind) :
    Passes env u.req (c.reads u) := by
  simp only [checkUpload, checkQuotas, Query.bind_ok, ensure_ok, select_ok] at h
  obtain ⟨_, hlive, _, -, _, ⟨_, -, _, hdaily, _, rfl, _, hexecution, hstep⟩, -⟩ := h
  refine ⟨hdaily, hexecution, fun count hcount => ?_, e.status, ?_, hlive⟩
  · cases hreq : u.req.step with
    | none => simp [UploadConf.reads, hreq] at hcount
    | some step =>
      simp only [UploadConf.reads, hreq, Option.map_some, Option.some.injEq] at hcount
      simp only [hreq, Query.bind_ok, select_ok, ensure_ok] at hstep
      obtain ⟨_, rfl, hlt⟩ := hstep
      rw [← hcount]
      exact hlt
  · simp [UploadConf.reads, he]

theorem availableArtifacts_insert {p : Artifact → Bool} {artifact : Artifact}
    (h : s'.artifacts = s.artifacts.insert artifact) (havailable : artifact.uploadStatus = .available) :
    availableArtifacts p s' = availableArtifacts p s ++ if p artifact then [artifact] else [] := by
  rw [availableArtifacts, availableArtifacts, h, rowsWhere_insert, List.map_append]
  by_cases hp : p artifact = true
  · simp [hp, havailable]
  · simp [hp]

theorem availableArtifacts_congr (h : s'.artifacts = s.artifacts) (p : Artifact → Bool) :
    availableArtifacts p s' = availableArtifacts p s := by
  rw [availableArtifacts, availableArtifacts, h]

theorem executionBytes_insert {artifact : Artifact} (h : s'.artifacts = s.artifacts.insert artifact)
    (havailable : artifact.uploadStatus = .available) (execution : ℕ) :
    executionBytes execution s' = executionBytes execution s +
      if artifact.execution = execution then artifact.sizeBytes else 0 := by
  rw [executionBytes, availableArtifacts_insert h havailable, List.map_append, List.sum_append,
    ← executionBytes]
  by_cases hexecution : artifact.execution = execution <;> simp [hexecution]

theorem stepArtifacts_insert {artifact : Artifact} (h : s'.artifacts = s.artifacts.insert artifact)
    (havailable : artifact.uploadStatus = .available) (step : ℕ) :
    stepArtifacts step s' = stepArtifacts step s + if artifact.step = some step then 1 else 0 := by
  rw [stepArtifacts, availableArtifacts_insert h havailable, List.length_append, ← stepArtifacts]
  by_cases hstep : artifact.step = some step <;> simp [hstep]

-- ════════════════════════════════════════════════════════════════════════
-- All uploads
-- ════════════════════════════════════════════════════════════════════════

/-- What is known of an upload on its way. -/
def PhaseOk (env : Env) (u : PendingUpload) : Prop :=
  match u.phase with
  | .accepted _ _ seen => Passes env u.req seen
  | .created artifact seen => Passes env u.req seen ∧
      artifact.uploadedByRunnerId = u.call.runnerId ∧ dayOf artifact.uploadedAt = seen.day ∧
        artifact.sizeBytes = u.req.sizeBytes
  | _ => True

/-- The quotas hold, and what is known of each upload. -/
structure UploadInv (env : Env) (c : UploadConf) : Prop where
  quotas : QuotasHold env c
  phases : ∀ i u, c.uploads.get? i = some u → PhaseOk env u

theorem QuotasHold.congr (h : QuotasHold env c) (hartifacts : c'.db.artifacts = c.db.artifacts)
    (hdaily : c'.dailyBytes = c.dailyBytes) (hfinished : c'.finished = c.finished) :
    QuotasHold env c' where
  execution e := by
    rw [executionBytes, availableArtifacts_congr hartifacts]
    exact h.execution e
  step step := by
    rw [stepArtifacts, availableArtifacts_congr hartifacts]
    exact h.step step
  counted runner day := by
    rw [hdaily, hfinished]
    exact h.counted runner day
  runner runner day := by
    rw [hdaily]
    exact h.runner runner day

theorem get?_setPhase_self {phase : UploadPhase} (hu : c.uploads.get? i = some u) :
    (c.setPhase i phase).uploads.get? i = some { u with phase } := by
  rw [UploadConf.setPhase]
  dsimp only
  rw [Table.get?_modify_self, hu, Option.map_some]

/-- A new phase of one upload leaves the others alone. -/
theorem phases_setPhase {phase : UploadPhase} (h : ∀ i u, c.uploads.get? i = some u → PhaseOk env u)
    (hu : c.uploads.get? i = some u) (hphase : PhaseOk env { u with phase }) (j : ℕ)
    (u' : PendingUpload) (hu' : (c.setPhase i phase).uploads.get? j = some u') : PhaseOk env u' := by
  by_cases hj : j = i
  · subst hj
    rw [get?_setPhase_self hu] at hu'
    obtain rfl := Option.some.inj hu'
    exact hphase
  · rw [UploadConf.setPhase] at hu'
    exact h j u' ((Table.get?_modify_of_ne hj _ _).symm.trans hu')

/-- A row that is saved as the checks have read keeps the quotas. -/
theorem quotasHold_create {seen : UploadReads} {db : Db} (h : QuotasHold env c)
    (hpasses : Passes env u.req seen) (hreads : c.reads u = seen)
    (hrun : (insertArtifact env u.req u.call organization kind).run c.db = .ok ((), db)) :
    QuotasHold env { c with db } := by
  obtain ⟨hartifacts, -, -⟩ := insertArtifact_ok hrun
  subst hreads
  refine ⟨fun e => ?_, fun step => ?_, h.counted, h.runner⟩
  · rw [executionBytes_insert hartifacts rfl]
    split_ifs with hexecution
    · subst hexecution
      exact hpasses.execution
    · exact h.execution e
  · rw [stepArtifacts_insert hartifacts rfl]
    split_ifs with hstep
    · exact hpasses.step _ (by simp [UploadConf.reads, show u.req.step = some step from hstep])
    · exact h.step step

theorem finishedBytes_append (runner : String) (day : ℕ) (finished : List Artifact)
    (artifact : Artifact) : finishedBytes runner day (finished ++ [artifact]) =
      finishedBytes runner day finished +
        if artifact.uploadedByRunnerId = runner ∧ dayOf artifact.uploadedAt = day then
          artifact.sizeBytes else 0 := by
  rw [finishedBytes, finishedBytes, List.filter_append, List.map_append, List.sum_append]
  by_cases h : artifact.uploadedByRunnerId = runner ∧ dayOf artifact.uploadedAt = day
  · rw [if_pos h, List.filter_cons_of_pos (by simpa using h)]
    simp
  · rw [if_neg h, List.filter_cons_of_neg (by simpa using h)]
    simp

/-- Bytes that are counted on the day and over the count that the checks have read keep the
quotas. -/
theorem quotasHold_count {artifact : Artifact} {seen : UploadReads} (h : QuotasHold env c)
    (hpasses : Passes env u.req seen) (hrunner : artifact.uploadedByRunnerId = u.call.runnerId)
    (hday : dayOf artifact.uploadedAt = seen.day) (hsize : artifact.sizeBytes = u.req.sizeBytes)
    (hnow : (c.reads u).day = seen.day) (hread : (c.reads u).uploadedToday = seen.uploadedToday) :
    QuotasHold env
      { c with
        dailyBytes := incrementRunnerDailyQuota u.call.runnerId (dayOf c.db.now) u.req.sizeBytes
          c.dailyBytes
        finished := c.finished ++ [artifact] } := by
  refine ⟨h.execution, h.step, fun runner day => ?_, fun runner day => ?_⟩
  · have htoday : dayOf artifact.uploadedAt = dayOf c.db.now := hday.trans hnow.symm
    rw [finishedBytes_append, ← h.counted, hrunner, htoday, hsize]
    dsimp only [incrementRunnerDailyQuota]
    by_cases hkey : runner = u.call.runnerId ∧ day = dayOf c.db.now
    · rw [if_pos hkey, if_pos ⟨hkey.1.symm, hkey.2.symm⟩]
    · rw [if_neg hkey, if_neg fun hkey' => hkey ⟨hkey'.1.symm, hkey'.2.symm⟩, Nat.add_zero]
  · dsimp only [incrementRunnerDailyQuota]
    split_ifs with hkey
    · obtain ⟨rfl, rfl⟩ := hkey
      have hdaily := hpasses.daily
      rw [← hread] at hdaily
      exact hdaily
    · exact h.runner runner day

/-- A step that disturbs no upload keeps the invariant. -/
theorem uploadInv_step (hc : UploadInv env c) (h : UploadStep env c c') (hcond : UndisturbedStep c c') :
    UploadInv env c' := by
  cases h with
  | tick elapsed => exact ⟨hc.quotas.congr rfl rfl rfl, hc.phases⟩
  | move execution status => exact ⟨hc.quotas.congr rfl rfl rfl, hc.phases⟩
  | arrive req call =>
    refine ⟨hc.quotas.congr rfl rfl rfl, fun i u hu => ?_⟩
    rw [Table.get?_insert] at hu
    split_ifs at hu with hi
    · obtain rfl := Option.some.inj hu
      trivial
    · exact hc.phases i u hu
  | accept i u e kind hu hphase he h =>
    exact ⟨hc.quotas.congr rfl rfl rfl, phases_setPhase hc.phases hu (checkUpload_passes he h)⟩
  | fail i u hu hphase =>
    exact ⟨hc.quotas.congr rfl rfl rfl, phases_setPhase hc.phases hu trivial⟩
  | create i u organization kind seen db artifact hu hphase h hnew =>
    have hpasses : Passes env u.req seen := by
      have hok := hc.phases i u hu
      rw [PhaseOk, hphase] at hok
      exact hok
    have hreads : c.reads u = seen :=
      (hcond i u _ hu (get?_setPhase_self (c := { c with db }) hu)).1 organization kind seen artifact
        hphase rfl
    obtain ⟨hartifacts, -, -⟩ := insertArtifact_ok h
    rw [hartifacts, Table.get?_insert_next] at hnew
    obtain rfl := Option.some.inj hnew
    refine ⟨(quotasHold_create hc.quotas hpasses hreads h).congr rfl rfl rfl,
      phases_setPhase (c := { c with db }) hc.phases hu ⟨hpasses, rfl, ?_, rfl⟩⟩
    rw [← hreads]
    rfl
  | count i u artifact seen hu hphase =>
    have hok := hc.phases i u hu
    rw [PhaseOk, hphase] at hok
    obtain ⟨hpasses, hrunner, hday, hsize⟩ := hok
    obtain ⟨hnow, hread⟩ := (hcond i u _ hu (get?_setPhase_self (c := { c with
        dailyBytes := incrementRunnerDailyQuota u.call.runnerId (dayOf c.db.now) u.req.sizeBytes
          c.dailyBytes
        finished := c.finished ++ [artifact] }) hu)).2 artifact seen hphase rfl
    exact ⟨(quotasHold_count hc.quotas hpasses hrunner hday hsize hnow hread).congr rfl rfl rfl,
      phases_setPhase hc.phases hu trivial⟩

/-- The invariant holds of whatever is reached without disturbing an upload. -/
theorem uploadInv_reach (h : UndisturbedReach env c) : UploadInv env c := by
  induction h with
  | start db hempty =>
    have hnone (p : Artifact → Bool) : availableArtifacts p db = [] := by
      rw [availableArtifacts, hempty]
      rfl
    refine ⟨⟨fun e => ?_, fun step => ?_, fun _ _ => rfl, fun _ _ => Nat.zero_le _⟩, fun i u hu => ?_⟩
    · rw [executionBytes, hnone]
      exact Nat.zero_le _
    · rw [stepArtifacts, hnone]
      exact Nat.zero_le _
    · rw [Table.get?_empty] at hu
      cases hu
  | step hc h hcond ih => exact uploadInv_step ih h hcond

/-- A step that disturbs no upload saves no artifact of an execution that is over. -/
theorem savesLive_step (hc : UploadInv env c) (h : UploadStep env c c') (hcond : UndisturbedStep c c') :
    SavesLive c c' := by
  intro k artifact hnone hsome
  cases h with
  | create i u organization kind seen db row hu hphase h hnew =>
    have hok := hc.phases i u hu
    rw [PhaseOk, hphase] at hok
    have hreads : c.reads u = seen :=
      (hcond i u _ hu (get?_setPhase_self (c := { c with db }) hu)).1 organization kind seen row
        hphase rfl
    obtain ⟨status, hstatus, hlive⟩ := hok.live
    obtain ⟨hartifacts, -, -⟩ := insertArtifact_ok h
    rw [show (UploadConf.setPhase { c with db } i (.created row seen)).db.artifacts = db.artifacts from rfl,
      hartifacts, Table.get?_insert] at hsome
    split_ifs at hsome
    · obtain rfl := Option.some.inj hsome
      rw [← hreads] at hstatus
      obtain ⟨e, he, rfl⟩ := Option.map_eq_some_iff.1 hstatus
      exact ⟨e, he, hlive⟩
    · rw [hnone] at hsome
      cases hsome
  | _ => rw [show c.db.artifacts.get? k = some artifact from hsome] at hnone; cases hnone

/-- **The artifact quotas hold** in whatever is reached without disturbing an upload, and no
artifact is saved there after its execution is over. -/
theorem quotas_hold_undisturbed (env : Env) (h : UndisturbedReach env c) : QuotasHold env c ∧
    ∀ c', UploadStep env c c' → UndisturbedStep c c' → SavesLive c c' :=
  ⟨(uploadInv_reach h).quotas, fun _ hstep hcond => savesLive_step (uploadInv_reach h) hstep hcond⟩

-- ════════════════════════════════════════════════════════════════════════
-- Two uploads
-- ════════════════════════════════════════════════════════════════════════

/-- An environment in which the artifacts of an execution may have one byte. -/
def Env.oneByte : Env :=
  { Env.sample with artifactRequireChecksum := false, artifactMaxTotalBytesPerExecution := 1 }

/-- A database with an execution that runs. -/
def Db.running : Db where
  executions := ⟨[{ organization := 0, workflow := 0, workflowVersion := 1, workflowSnapshot := .obj []
                    status := .running }]⟩

/-- An upload of one byte. -/
def oneByteUpload : PendingUpload where
  req := { execution := 0, step := none, kind := "stdout", name := "log", sizeBytes := 1
           computedChecksum := "checksum" }
  call := .sample

theorem insertArtifact_succeeds (env : Env) (req : UploadRequest) (call : RunnerCall)
    (organization : ℕ) (kind : ArtifactKind) (s : Db) :
    ∃ s', (insertArtifact env req call organization kind).run s = .ok ((), s') := by
  simp only [insertArtifact, Tx.bind_ok, Tx.lift_query_ok, timezoneNow, select_ok, insertRow_ok,
    Tx.run_lift, emit_ok]
  exact ⟨_, _, _, ⟨rfl, rfl⟩, _, _, ⟨rfl, rfl⟩, rfl⟩

theorem checkUpload_oneByte : ∃ kind, checkUpload .oneByte { oneByteUpload.req with uploadedToday := 0 }
    { organization := 0, workflow := 0, workflowVersion := 1, workflowSnapshot := .obj []
      status := .running } .running = .ok kind :=
  ⟨.stdout, by decide +kernel⟩

/-- What the checks read while the execution has no artifact. -/
def oneByteReads : UploadReads where
  status := some .running
  executionBytes := 0
  stepArtifacts := none
  day := 0
  uploadedToday := 0

/-- The upload, accepted. -/
def acceptedUpload (kind : ArtifactKind) : PendingUpload :=
  { oneByteUpload with phase := .accepted 0 kind oneByteReads }

/-- Uploads on their way, before any saves its row. -/
def UploadConf.waiting (uploads : List PendingUpload) : UploadConf where
  db := .running
  uploads := ⟨uploads⟩

theorem reads_waiting (uploads : List PendingUpload) (phase : UploadPhase) :
    (UploadConf.waiting uploads).reads { oneByteUpload with phase } = oneByteReads := by
  have hday : dayOf 0 = 0 := Nat.zero_div _
  have hbytes : executionBytes 0 .running = 0 := rfl
  simp [UploadConf.reads, UploadConf.waiting, oneByteUpload, oneByteReads, hbytes, hday,
    show Db.running.now = 0 from rfl, show Db.running.executions.get? 0 = some _ from rfl]

/-- An upload that arrived is accepted. -/
theorem accepted_oneByte (uploads : List PendingUpload) (i : ℕ)
    (hu : uploads[i]? = some oneByteUpload) : ∃ kind, UploadStep .oneByte (.waiting uploads)
      (UploadConf.setPhase (.waiting uploads) i (.accepted 0 kind oneByteReads)) := by
  obtain ⟨kind, hkind⟩ := checkUpload_oneByte
  have hreads : (UploadConf.waiting uploads).reads oneByteUpload = oneByteReads :=
    reads_waiting uploads .arrived
  have hstep : UploadStep .oneByte (.waiting uploads) (UploadConf.setPhase (.waiting uploads) i
      (.accepted 0 kind ((UploadConf.waiting uploads).reads oneByteUpload))) :=
    .accept i oneByteUpload
      { organization := 0, workflow := 0, workflowVersion := 1, workflowSnapshot := .obj []
        status := .running } kind hu rfl rfl (by rw [hreads]; exact hkind)
  exact ⟨kind, hreads ▸ hstep⟩

/-- An upload that was accepted saves its row. -/
theorem created_oneByte (c : UploadConf) (i : ℕ) (kind : ArtifactKind)
    (hu : c.uploads.get? i = some (acceptedUpload kind)) :
    ∃ db artifact, db.artifacts = c.db.artifacts.insert artifact ∧ artifact.execution = 0 ∧
      artifact.sizeBytes = 1 ∧ artifact.uploadStatus = .available ∧
      UploadStep .oneByte c ({ c with db }.setPhase i (.created artifact oneByteReads)) := by
  obtain ⟨db, hrun⟩ := insertArtifact_succeeds .oneByte oneByteUpload.req oneByteUpload.call 0 kind c.db
  obtain ⟨hartifacts, -, -⟩ := insertArtifact_ok hrun
  refine ⟨db, _, hartifacts, rfl, rfl, rfl, .create i _ 0 kind oneByteReads db _ hu rfl hrun ?_⟩
  rw [hartifacts, Table.get?_insert_next]

/-- One upload disturbs nobody. -/
theorem quotas_hold_undisturbed_one : ∃ c artifact, c.db.artifacts.get? 0 = some artifact ∧
    QuotasHold .oneByte c ∧ ∀ c', UploadStep .oneByte c c' → UndisturbedStep c c' → SavesLive c c' := by
  have hstart : UndisturbedReach .oneByte { db := .running } := .start _ rfl
  have harrived : UndisturbedReach .oneByte (.waiting [oneByteUpload]) := by
    refine hstart.step (.arrive oneByteUpload.req oneByteUpload.call) fun i u u' hu => ?_
    rw [Table.get?_empty] at hu
    cases hu
  obtain ⟨kind, haccept⟩ := accepted_oneByte [oneByteUpload] 0 rfl
  have haccepted : UndisturbedReach .oneByte (.waiting [acceptedUpload kind]) := by
    refine harrived.step haccept fun i u u' hu _ => ?_
    obtain rfl : i = 0 := Nat.lt_one_iff.1 (Table.lt_next hu)
    obtain rfl := Option.some.inj hu
    exact ⟨fun _ _ _ _ h => (nomatch h), fun _ _ h => (nomatch h)⟩
  obtain ⟨db, artifact, hartifacts, -, -, -, hcreate⟩ := created_oneByte _ 0 kind
    (show (UploadConf.waiting [acceptedUpload kind]).uploads.get? 0 = _ from rfl)
  have hcreated := haccepted.step hcreate fun i u u' hu _ => by
    obtain rfl : i = 0 := Nat.lt_one_iff.1 (Table.lt_next hu)
    obtain rfl := Option.some.inj hu
    refine ⟨fun _ _ _ _ hphase _ => ?_, fun _ _ h => (nomatch h)⟩
    cases hphase
    exact reads_waiting _ _
  refine ⟨_, artifact, ?_, quotas_hold_undisturbed .oneByte hcreated⟩
  exact (congrArg (Table.get? · 0) hartifacts).trans rfl

/-- Two uploads that are checked before either saves its row exceed the quota. -/
theorem quota_exceeded_together : ¬∀ (env : Env) (db : Db) (c : UploadConf), db.artifacts = .empty →
    Relation.ReflTransGen (UploadStep env) { db } c →
      QuotasHold env c ∧ ∀ c', UploadStep env c c' → SavesLive c c' := by
  intro h
  have harrived : Relation.ReflTransGen (UploadStep .oneByte) { db := .running }
      (.waiting [oneByteUpload, oneByteUpload]) :=
    .tail (.single (.arrive oneByteUpload.req oneByteUpload.call))
      (.arrive oneByteUpload.req oneByteUpload.call)
  obtain ⟨kind, haccept⟩ := accepted_oneByte [oneByteUpload, oneByteUpload] 0 rfl
  obtain ⟨kind', haccept'⟩ := accepted_oneByte [acceptedUpload kind, oneByteUpload] 1 rfl
  have haccepted : Relation.ReflTransGen (UploadStep .oneByte) { db := .running }
      (.waiting [acceptedUpload kind, acceptedUpload kind']) :=
    (harrived.tail haccept).tail haccept'
  obtain ⟨db, artifact, hartifacts, hexecution, hsize, havailable, hcreate⟩ :=
    created_oneByte _ 0 kind
      (show (UploadConf.waiting [acceptedUpload kind, acceptedUpload kind']).uploads.get? 0 = _ from rfl)
  obtain ⟨db', artifact', hartifacts', hexecution', hsize', havailable', hcreate'⟩ :=
    created_oneByte ({ UploadConf.waiting [acceptedUpload kind, acceptedUpload kind'] with db }.setPhase
      0 (.created artifact oneByteReads)) 1 kind' rfl
  have hcreated := (haccepted.tail hcreate).tail hcreate'
  have hquota : executionBytes 0 db' ≤ 1 := (h .oneByte .running _ rfl hcreated).1.execution 0
  have hbytes : executionBytes 0 db = 1 := by
    rw [executionBytes_insert hartifacts havailable, if_pos hexecution, hsize]
    rfl
  have hbytes' : executionBytes 0 db' = 2 := by
    rw [executionBytes_insert hartifacts' havailable', if_pos hexecution', hsize',
      show executionBytes 0 (UploadConf.setPhase { UploadConf.waiting _ with db } 0 _).db = 1 from hbytes]
  rw [hbytes'] at hquota
  exact absurd hquota (by decide)

end RunbookPlatform
