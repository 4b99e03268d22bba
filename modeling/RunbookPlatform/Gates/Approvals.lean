import RunbookPlatform.Gates.Requests

/-!
# Approval gates

A step of type `approval` or `approval_gate` is there to wait for an approval. It waits when its
definition also sets `requiresApproval` on it: the policies do not look at its type, and approve
it by default.

## Main definitions

- `ExecutionStep.isGate`, `GatesDeclared` — the gates, and runs that start declared ones only
- `GatePassed` — the gate was opened by an approval or by a breakglass session

## Main results

- `approval_gates_hold` — in those runs a gate is started only when it is open
-/

namespace RunbookPlatform

open Transactional

set_option synthInstance.maxSize 1000

/-- The step is an approval gate: of type `approval` in a v1 workflow, of type `approval_gate` in
a v2 workflow. -/
def ExecutionStep.isGate (step : ExecutionStep) : Bool :=
  step.stepSnapshot.getD "type" .null = .str "approval" ||
    step.stepSnapshot.getD "type" .null = .str "approval_gate"

/-- The definition sets `requiresApproval` on the step. -/
def ExecutionStep.declaresApproval (step : ExecutionStep) : Bool :=
  match booleanField (step.stepSnapshot.getD "requiresApproval" (.bool false)) with
  | .ok flag => flag
  | .error _ => false

/-- The gates that runners ask to start are declared to require approval. -/
def GatesDeclared : ServedAdmission := fun op _ s =>
  ∀ e i call step, op = .startStep e i call → s.steps.get? i = some step → step.isGate = true →
    step.declaresApproval = true

/-- Step `i` is running or has succeeded. -/
def StartedIn (i : ℕ) (s : Db) : Prop :=
  ∃ step, s.steps.get? i = some step ∧ step.status.isStarted = true

/-- When step `i` of execution `e` was started, earlier in the run, a breakglass session covered
the gates of the execution. -/
def CoveredStart (env : Env) (A : ServedAdmission) (e i : ℕ) (c : ServedConf) : Prop :=
  ∃ c1 c2, Serving env A c1 ∧ ServedStep env A c1 c2 ∧
    Relation.ReflTransGen (ServedStep env A) c2 c ∧ ¬StartedIn i c1.db ∧ StartedIn i c2.db ∧
      BreakglassCovers env e c1.db

/-- The gate at step `i` of execution `e` was opened. -/
def GatePassed (env : Env) (A : ServedAdmission) (e i : ℕ) (c : ServedConf) : Prop :=
  StepApproved i c.db ∨ CoveredStart env A e i c

variable {env : Env} {A : ServedAdmission} {c c' : ServedConf} {s s' : Db}

/-- An approval is final. -/
theorem StepApproved.later {i : ℕ} (h : StepApproved i s) (hsame : SameOn historyCells s s') :
    StepApproved i s' := by
  obtain ⟨a, request, hrequest, hstep, hstatus⟩ := h
  obtain ⟨later, hlater, hevolves⟩ := hsame .approvalHistory (by decide) a request hrequest
  refine ⟨a, later, hlater, ?_, ?_⟩
  · exact (congrArg (·.2.2.1) hevolves.identity).trans hstep
  · rw [hevolves.decided (by simp [hstatus]), hstatus]

theorem CoveredStart.later {e i : ℕ} (h : CoveredStart env A e i c) (hs : ServedStep env A c c') :
    CoveredStart env A e i c' := by
  obtain ⟨c1, c2, hserving, hstart, hrun, hrest⟩ := h
  exact ⟨c1, c2, hserving, hstart, hrun.tail hs, hrest⟩

theorem ExecutionStep.declaresApproval_of {step later : ExecutionStep}
    (hid : later.identity = step.identity) :
    later.isGate = step.isGate ∧ later.declaresApproval = step.declaresApproval := by
  have hsnapshot : later.stepSnapshot = step.stepSnapshot := congrArg (·.2.2.2) hid
  unfold isGate declaresApproval
  rw [hsnapshot]
  exact ⟨rfl, rfl⟩

/-- A declared gate requires approval. -/
theorem ExecutionStep.AsDeclared.requiresApproval {step : ExecutionStep} (h : step.AsDeclared)
    (hdeclares : step.declaresApproval = true) : step.requiresApproval = true := by
  rw [declaresApproval, h] at hdeclares
  exact hdeclares

/-- **One step of a run**: a gate that it starts is open, or was open when it began. -/
theorem GatePassed.step (h : Serving env GatesDeclared c) (hs : ServedStep env GatesDeclared c c')
    (hc : ∀ i step, c.db.steps.get? i = some step → step.isGate = true →
      step.status.isStarted = true → GatePassed env GatesDeclared step.execution i c) {i : ℕ}
    {later : ExecutionStep} (hlater : c'.db.steps.get? i = some later)
    (hgate : later.isGate = true) (hstarted : later.status.isStarted = true) :
    GatePassed env GatesDeclared later.execution i c' := by
  have hcases := h.cases (R := fun op _ s s' =>
    StepsMove (fun j => MayStart env s j op) s s' ∧ SameOn historyCells s s')
    (fun op s => (op.stepsMoves s).and (op.history env s)) hs
  rcases hcases with hdb | ⟨op, n, ⟨hmoves, hhistory⟩, hadmitted⟩
  · rw [hdb] at hlater
    refine (hc i later hlater hgate hstarted).imp (fun happroved => ?_) fun h => h.later hs
    rwa [hdb]
  cases hstep : c.db.steps.get? i with
  | none =>
    have hmay := (hmoves.created i later hlater hstep).1 hstarted
    cases hmay with
    | start e j call hstarts =>
      obtain ⟨rfl, step, hget, -⟩ := hstarts
      rw [hget] at hstep
      cases hstep
    | poll e j call hstarts =>
      obtain ⟨rfl, ⟨step, hget, -⟩, -⟩ := hstarts
      rw [hget] at hstep
      cases hstep
  | some step =>
    obtain ⟨later', hlater', hmoved⟩ := hmoves.kept i step hstep
    rw [hlater] at hlater'
    cases hlater'
    obtain ⟨hsameGate, -⟩ := ExecutionStep.declaresApproval_of hmoved.identity
    by_cases hbefore : step.status.isStarted = true
    · rw [hmoved.execution]
      exact (hc i step hstep (hsameGate ▸ hgate) hbefore).imp (·.later hhistory) (·.later hs)
    rcases hmoved.started hstarted with hold | hmay
    · exact absurd hold hbefore
    cases hmay with
    | start e j call hstarts =>
      obtain ⟨rfl, step', hget, rfl, hopen⟩ := hstarts
      rw [hstep] at hget
      cases hget
      have hdeclares := hadmitted _ _ _ step rfl hstep (hsameGate ▸ hgate)
      have hrequires := (h.stepsPlaced.2 _ step hstep).requiresApproval hdeclares
      refine (hopen hrequires).imp (·.later hhistory) fun hcovers => ?_
      refine ⟨c, c', h, hs, .refl, ?_, ⟨later, hlater, hstarted⟩, hmoved.execution ▸ hcovers⟩
      rintro ⟨row, hrow, hrowStarted⟩
      rw [hstep] at hrow
      cases hrow
      exact hbefore hrowStarted
    | poll e j call hstarts =>
      obtain ⟨rfl, -, happroved⟩ := hstarts
      exact .inl (happroved.later hhistory)

/-- **Approval gates gate** in every run whose gates are declared to require approval: one that
is running or has succeeded has an approved request, or a breakglass session covered it when it
was started. -/
theorem approval_gates_hold (h : Serving env GatesDeclared c) (i : ℕ) (step : ExecutionStep)
    (hstep : c.db.steps.get? i = some step) (hgate : step.isGate = true)
    (hstarted : step.status.isStarted = true) : GatePassed env GatesDeclared step.execution i c := by
  obtain ⟨reference, now, hreach⟩ := h
  induction hreach generalizing i step with
  | start => cases hstep
  | step hreach hs ih => exact GatePassed.step ⟨reference, now, hreach⟩ hs ih hstep hgate hstarted

-- ════════════════════════════════════════════════════════════════════════
-- Runs of one gate
-- ════════════════════════════════════════════════════════════════════════

/-- An organization with a workflow of one gate, which nothing manages; `flags` are what else the
definition says of the gate. -/
def gateReference (flags : List (String × Json)) : Reference :=
  { Reference.sample with
    profiles := .empty
    workflows := ⟨[
      { organization := 0
        name := "Restart"
        version := 1
        status := .published
        definition := .obj [("steps", .arr [.obj ([("id", .str "gate"), ("name", .str "Gate"),
          ("type", .str "approval")] ++ flags)])] }]⟩ }

/-- An execution of the gate is created and claimed. -/
def gateClaimed (flags : List (String × Json)) : Db :=
  runOps .sample [.createExecution 0 .live .sample, claimBy "runner" true]
    (.initial (gateReference flags) 0)

/-- The runner asks to start the gate. -/
def gateStart : Op := .startStep 0 0 .sample

/-- The gate is approved, and the runner polls. -/
def gateApproval : List Op :=
  [.decideApproval 0 .approved "" .sample "nonce", .pollApproval 0 0 .sample]

/-- All gates are declared to require approval. -/
def Db.gatesDeclared (s : Db) : Bool :=
  s.steps.rows.all fun step => !step.isGate || step.declaresApproval

/-- Step `0` is a gate and runs. -/
def Db.gateRuns (s : Db) : Bool :=
  (s.steps.get? 0).any fun step => step.isGate && step.status.isStarted

theorem gatesDeclared_of_all {op : Op} {n : TxName} (h : s.gatesDeclared = true) :
    GatesDeclared op n s := by
  intro e i call step _ hstep hgate
  have hmem : step ∈ s.steps.rows := List.mem_of_getElem? hstep
  have hstepDeclared := List.all_eq_true.1 h step hmem
  rw [hgate, Bool.not_true, Bool.false_or] at hstepDeclared
  exact hstepDeclared

/-- A declared gate waits, is approved and runs. -/
theorem declaredGate_checked :
    (((gateStart.prog .sample).commits (gateClaimed [("requiresApproval", .bool true)])).all
        (·.before.gatesDeclared) &&
      (runOps .sample gateApproval ((gateStart.prog .sample).exec
        (gateClaimed [("requiresApproval", .bool true)])).2).gateRuns) = true := by
  decide

/-- A request other than a step start meets the condition. -/
theorem GatesDeclared.exec {op : Op} (hserving : Serving env GatesDeclared ⟨s, []⟩)
    (hop : ∀ e i call, op ≠ .startStep e i call) :
    Serving env GatesDeclared ⟨((op.prog env).exec s).2, []⟩ :=
  hserving.exec op (.of_forall (fun _ _ e i call _ h => absurd h (hop e i call)) _ s)

/-- In its run the gate is opened by the approval. -/
theorem approval_gates_hold_declared :
    ∃ c step, c.db.steps.get? 0 = some step ∧ step.isGate = true ∧
      GatePassed .sample GatesDeclared step.execution 0 c := by
  have hclaimed : Serving .sample GatesDeclared
      ⟨gateClaimed [("requiresApproval", .bool true)], []⟩ :=
    GatesDeclared.exec (GatesDeclared.exec (.initial _ 0) nofun) nofun
  have hchecked := declaredGate_checked
  rw [Bool.and_eq_true] at hchecked
  obtain ⟨hdeclared, hruns⟩ := hchecked
  generalize gateClaimed [("requiresApproval", .bool true)] = s at hclaimed hdeclared hruns
  have hstarted : Serving .sample GatesDeclared ⟨((gateStart.prog .sample).exec s).2, []⟩ :=
    hclaimed.exec gateStart fun c hc => gatesDeclared_of_all (List.all_eq_true.1 hdeclared c hc)
  generalize ((gateStart.prog .sample).exec s).2 = s1 at hstarted hruns
  have hrun : Serving .sample GatesDeclared ⟨runOps .sample gateApproval s1, []⟩ :=
    GatesDeclared.exec (GatesDeclared.exec hstarted nofun) nofun
  generalize runOps .sample gateApproval s1 = s2 at hrun hruns
  obtain ⟨step, hstep, hrow⟩ := (Option.any_eq_true _ _).1 hruns
  rw [Bool.and_eq_true] at hrow
  exact ⟨_, step, hstep, hrow.1, approval_gates_hold hrun 0 step hstep hrow.1 hrow.2⟩

/-- No request removes a session. -/
theorem Op.keepsSessions (op : Op) (s : Db) : (op.prog env).Follows historyCells
    (fun _ s s' => (s'.sessions.get? 0).isNone → (s.sessions.get? 0).isNone) s := by
  have hnone : ∀ {s s' : Db} {R : BreakglassSession → BreakglassSession → Prop},
      (∀ row, s.sessions.get? 0 = some row → ∃ row', s'.sessions.get? 0 = some row' ∧ R row row') →
        (s'.sessions.get? 0).isNone → (s.sessions.get? 0).isNone := by
    intro s s' R hrows h
    rw [Option.isNone_iff_eq_none] at h ⊢
    by_contra hsome
    obtain ⟨row, hrow⟩ := Option.ne_none_iff_exists'.1 hsome
    obtain ⟨row', hrow', -⟩ := hrows row hrow
    rw [h] at hrow'
    cases hrow'
  cases op with
  | activateBreakglass req actor =>
    exact Op.follows_of_frame (C := [.sessionEnds])
      (fun _ _ _ h => hnone fun row hrow => h .sessionEnds (by simp) 0 row hrow) _
      (by dsimp only [Op.cells]; decide) s
  | _ =>
    refine Op.follows_of_frame (C := [.sessionRows]) (fun _ s s' h => ?_) _
      (by dsimp only [Op.cells]; decide) s
    refine hnone (R := fun _ _ => True) fun row hrow => ?_
    rcases h .sessionRows (by simp) 0 with hsame | ⟨old, new, -, hnew, -⟩
    · exact ⟨row, hsame.trans hrow, trivial⟩
    · exact ⟨new, hnew, trivial⟩

/-- The undeclared gate runs, and there are neither requests nor sessions. -/
theorem undeclaredGate_checked :
    ((runOps .sample [gateStart] (gateClaimed [])).gateRuns &&
      (runOps .sample [gateStart] (gateClaimed [])).approvals.rows.isEmpty &&
      ((runOps .sample [gateStart] (gateClaimed [])).sessions.get? 0).isNone) = true := by
  decide

/-- A gate that is not declared to require approval is approved by default. -/
theorem undeclared_gate_opens :
    ¬∀ (env : Env) (c : ServedConf), Serving env anyServed c →
      ∀ (i : ℕ) (step : ExecutionStep), c.db.steps.get? i = some step → step.isGate = true →
        step.status.isStarted = true → GatePassed env anyServed step.execution i c := by
  intro h
  have hserving : Serving .sample anyServed ⟨runOps .sample [gateStart] (gateClaimed []), []⟩ :=
    ((Serving.initial (gateReference []) 0).runOps _).runOps _
  have hchecked := undeclaredGate_checked
  simp only [Bool.and_eq_true] at hchecked
  obtain ⟨⟨hruns, happrovals⟩, hsessions⟩ := hchecked
  generalize runOps .sample [gateStart] (gateClaimed []) = s at hserving hruns happrovals hsessions
  obtain ⟨step, hstep, hrow⟩ := (Option.any_eq_true _ _).1 hruns
  rw [Bool.and_eq_true] at hrow
  rcases h .sample _ hserving 0 step hstep hrow.1 hrow.2 with
    ⟨a, request, hrequest, -⟩ | ⟨c1, c2, hc1, hfirst, hrest, -, -, hcovers⟩
  · have hmem : request ∈ s.approvals.rows := List.mem_of_getElem? hrequest
    rw [List.isEmpty_iff.1 happrovals] at hmem
    cases hmem
  · obtain ⟨j, b, -, k, session, hsession, -⟩ := hcovers
    -- a session that was there would still be there
    have hkept : (s.sessions.get? 0).isNone → (c1.db.sessions.get? 0).isNone := by
      refine hc1.stays (R := fun _ _ s s' =>
        (s'.sessions.get? 0).isNone → (s.sessions.get? 0).isNone)
        (I := fun s => (s.sessions.get? 0).isNone → (c1.db.sessions.get? 0).isNone)
        Op.keepsSessions (fun _ _ _ _ hR _ hI => hI ∘ hR) (.head hfirst hrest) id
    have hnone := hkept hsessions
    rw [Option.isNone_iff_eq_none, ← Option.not_isSome_iff_eq_none, Table.get?_isSome_iff] at hnone
    exact hnone ((Nat.zero_le k).trans_lt (Table.lt_next hsession))

end RunbookPlatform
