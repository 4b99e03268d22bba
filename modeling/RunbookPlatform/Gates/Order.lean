import RunbookPlatform.Gates.Requests
import RunbookPlatform.Runner.Fleet
import RunbookPlatform.Runner.Order

/-!
# Steps in order

The control plane starts a step whatever became of the steps before it. The loop of
`Executor.run` keeps the order: in every run of a fleet, a step that is running or has
succeeded comes after steps that have succeeded or were skipped.

## Main definitions

- `StepsOrdered` — the order of the steps of all executions
- `Worker.Knows` — what a worker knows of the steps of its execution

## Main results

- `Op.reports` — an update that is committed leaves the step in the reported status
- `Fleet.Sound.step` — the invariant of one step of a fleet
- `steps_in_order` — steps run in order in every run of a fleet
-/

namespace RunbookPlatform

open Interaction Transactional

set_option synthInstance.maxSize 1000

/-- Steps at smaller positions than a started one are done, and one step of an execution runs
at most. -/
structure StepsOrdered (s : Db) : Prop where
  before : ∀ i j step other, s.steps.get? i = some step → s.steps.get? j = some other →
    other.execution = step.execution → step.status.isStarted = true →
      other.position < step.position → other.status.isDone = true
  single : ∀ i j step other, s.steps.get? i = some step → s.steps.get? j = some other →
    other.execution = step.execution → step.status = .running → other.status = .running → j = i

variable {env : Env} {lax : Coercions} {s s' : Db} {f f' : Fleet}

-- ════════════════════════════════════════════════════════════════════════
-- Reports
-- ════════════════════════════════════════════════════════════════════════

/-- Step `i` has the status. -/
def HasStatus (i : ℕ) (status : StepStatus) (s : Db) : Prop :=
  ∃ row, s.steps.get? i = some row ∧ row.status = status

theorem updateExecutionStep_status {execution step : ℕ} {call : RunnerCall} {update : StepUpdate}
    {allowRunning : Bool} {u : Unit}
    (h : (updateExecutionStep execution step call update allowRunning).run s = .ok (u, s')) :
    HasStatus step update.newStatus s' := by
  simp only [updateExecutionStep, Tx.bind_ok, Tx.lift_query_ok, Tx.run_lift, select_ok, expect_ok,
    ensure_ok, moveStep_ok] at h
  obtain ⟨e, _, ⟨-, rfl⟩, _, _, ⟨-, rfl⟩, found, _, ⟨rfl, rfl⟩, row, _, ⟨hrow, rfl⟩, _, _,
    ⟨hallowed, rfl⟩, now, _, ⟨-, rfl⟩, _, s1, hmove, hrest⟩ := h
  have hsteps : s1.steps = s'.steps := by
    split at hrest
    · simp only [Tx.bind_ok, moveExecution_ok] at hrest
      obtain ⟨_, s2, rfl, hemit⟩ := hrest
      rw [Tx.run_lift] at hemit
      exact Tx.sameOn hemit [.steps] (by decide) .steps (by simp)
    · rw [Tx.run_lift] at hrest
      exact Tx.sameOn hrest [.steps] (by decide) .steps (by simp)
  obtain ⟨hget, -⟩ := Option.filter_eq_some_iff.1 hrow
  -- the transitions start from the statuses that the save looks for
  have hsource : row.status ∈ [StepStatus.pending, .waitingForApproval, .running] := by
    cases hstatus : row.status <;>
      simp [hstatus, StepStatus.startTransitions, StepStatus.transitions] at hallowed ⊢
  subst hmove
  refine ⟨stepMove [.pending, .waitingForApproval, .running] update.newStatus (update.apply now)
    row, ?_, ?_⟩
  · rw [← hsteps, Table.get?_modify_self, hget, Option.map_some]
  · rw [stepMove, if_pos hsource]

/-- What comes before a request of a runner is not its report. -/
theorem loadReadyExecution_names (execution : ℕ) (call : RunnerCall) (s : Db) :
    (loadReadyExecution env execution call).Follows historyCells
      (fun n _ _ => ∀ i, n ≠ .updateStep i) s := by
  have hread : ∀ i, (default : TxName) ≠ .updateStep i := fun _ h => nomatch h
  have hexceptions (c : ℕ) (now : Time) (s : Db) : (expireExceptions c now).Follows historyCells
      (fun n _ _ => ∀ i, n ≠ .updateStep i) s :=
    .read (fun _ => hread) fun _ _ _ _ => .forEach (fun _ _ =>
      .bind (.atomic fun _ _ _ _ _ => nofun) fun _ _ => .atomic fun _ _ _ _ _ => nofun) _ _
  have hsessions (c : ℕ) (now : Time) (s : Db) :
      (expireBreakglassSessions (some c) now).Follows historyCells
        (fun n _ _ => ∀ i, n ≠ .updateStep i) s :=
    .read (fun _ => hread) fun _ _ _ _ => .forEach (fun _ _ =>
      .bind (.atomic fun _ _ _ _ _ => nofun) fun _ _ => .atomic fun _ _ _ _ _ => nofun) _ _
  refine .read (fun _ => hread) fun _ e _ _ =>
    .bind (.read (fun _ => hread) fun _ ready _ _ => ?_) fun _ _ => .pure _
  cases ready with
  | none => exact .pure _
  | some c =>
    exact .read (fun _ => hread) fun _ now _ _ => .bind (.bind (.widen (hexceptions c now _))
      fun _ _ => .widen (hsessions c now _)) fun _ _ => .query _ fun _ => hread

/-- **An update** that is committed leaves the step in the status that it reports. -/
theorem Op.reports (op : Op) (s : Db) : (op.prog env).Follows historyCells
    (fun n _ s' => ∀ execution step call update, op = .updateStep execution step call update →
      n = .updateStep step → HasStatus step update.newStatus s') s := by
  by_cases hreport : ∃ execution step call update, op = .updateStep execution step call update
  · obtain ⟨execution, step, call, update, rfl⟩ := hreport
    refine .bind (.widen ((loadReadyExecution_names execution call s).mono fun n _ _ hn => ?_))
      fun _ s1 => .atomic fun s2 _ u s3 h => ?_
    · intro _ step _ _ _ hname
      exact absurd hname (hn step)
    · rintro _ _ _ _ ⟨⟩ -
      exact updateExecutionStep_status h
  · refine (op.stepsMoves s).mono fun n _ _ _ execution step call update hop => ?_
    exact absurd ⟨execution, step, call, update, hop⟩ hreport

/-- A step that is done keeps its status. -/
theorem HasStatus.later {P : ℕ → Prop} {i : ℕ} {status : StepStatus} (h : HasStatus i status s)
    (hdone : status.isDone = true) (hmoves : StepsMove P s s') : HasStatus i status s' := by
  obtain ⟨row, hrow, rfl⟩ := h
  obtain ⟨later, hlater, hmoved⟩ := hmoves.kept i row hrow
  exact ⟨later, hlater, hmoved.final hdone⟩

-- ════════════════════════════════════════════════════════════════════════
-- Workers
-- ════════════════════════════════════════════════════════════════════════

/-- What a worker knows of the steps of its execution, also when others go on. -/
structure Worker.Knows (w : Worker) (s : Db) : Prop where
  session : w.session.Of w.executor.run
  execution : w.executor.execution.id < s.executions.next
  /-- Its steps are steps of the execution; those that were done are done. -/
  rows : ∀ claimed ∈ w.executor.execution.steps, ∃ row, s.steps.get? claimed.id = some row ∧
    row.execution = w.executor.execution.id ∧ claimed.position = row.position ∧
      (claimed.status.isDone = true → row.status = claimed.status)
  /-- It has all of them. -/
  all : ∀ i row, s.steps.get? i = some row → row.execution = w.executor.execution.id →
    ∃ claimed ∈ w.executor.execution.steps, claimed.id = i
  /-- What was acknowledged is so. -/
  acknowledged : ∀ i update, update.status = .succeeded →
    (⟨.updateStep w.executor.execution.id i w.executor.claimToken update, .ok ()⟩ : CallEvent) ∈
      w.session.seen → HasStatus i .succeeded s

/-- What is parsed from a list, and what its elements are parsed to. -/
theorem mapM_some {α β : Type} {f : α → Option β} {xs : List α} {ys : List β}
    (h : xs.mapM f = some ys) :
    (∀ y ∈ ys, ∃ x ∈ xs, f x = some y) ∧ ∀ x ∈ xs, ∃ y ∈ ys, f x = some y := by
  induction xs generalizing ys with
  | nil =>
    cases h
    exact ⟨nofun, nofun⟩
  | cons x xs ih =>
    rw [List.mapM_cons] at h
    obtain ⟨y, hy, h⟩ := Option.bind_eq_some_iff.1 h
    obtain ⟨ys, hys, h⟩ := Option.bind_eq_some_iff.1 h
    cases h
    obtain ⟨hback, hforth⟩ := ih hys
    constructor
    · rintro z hz
      rcases List.mem_cons.1 hz with rfl | hz
      · exact ⟨x, List.mem_cons_self, hy⟩
      · obtain ⟨x', hx', hparsed⟩ := hback z hz
        exact ⟨x', List.mem_cons_of_mem _ hx', hparsed⟩
    · rintro x' hx'
      rcases List.mem_cons.1 hx' with rfl | hx'
      · exact ⟨y, List.mem_cons_self, hy⟩
      · obtain ⟨z, hz, hparsed⟩ := hforth x' hx'
        exact ⟨z, List.mem_cons_of_mem _ hz, hparsed⟩

namespace Worker.Knows

variable {P : ℕ → Prop} {w : Worker}

/-- The control plane goes on. -/
theorem later (h : w.Knows s) (hmoves : StepsMove P s s') : w.Knows s' where
  session := h.session
  execution := h.execution.trans_le hmoves.next
  rows claimed hclaimed := by
    obtain ⟨row, hrow, hexecution, hposition, hstatus⟩ := h.rows claimed hclaimed
    obtain ⟨later, hlater, hmoved⟩ := hmoves.kept _ row hrow
    refine ⟨later, hlater, hmoved.execution.trans hexecution, ?_, fun hdone => ?_⟩
    · rw [hmoved.position, hposition]
    · rw [← hstatus hdone]
      exact hmoved.final (hstatus hdone ▸ hdone)
  all i later hlater hexecution := by
    cases hrow : s.steps.get? i with
    | none =>
      -- a new step is one of a new execution
      obtain ⟨-, hfresh, -⟩ := hmoves.created i later hlater hrow
      rw [hexecution] at hfresh
      exact absurd h.execution hfresh.not_gt
    | some row =>
      obtain ⟨later', hlater', hmoved⟩ := hmoves.kept i row hrow
      rw [hlater] at hlater'
      cases hlater'
      exact h.all i row hrow (hmoved.execution.symm.trans hexecution)
  acknowledged i update hstatus hmem := (h.acknowledged i update hstatus hmem).later rfl hmoves

/-- A claim is read. -/
theorem claim {x : Executor} (hexecution : (s.executions.get? x.execution.id).isSome = true)
    (hsteps : claimedSteps lax x.execution.id s = some x.execution.steps) :
    Worker.Knows ⟨x, .start x.run⟩ s where
  session := Session.of_start x.run
  execution := Table.get?_isSome_iff.1 hexecution
  rows claimed hclaimed := by
    obtain ⟨⟨i, row⟩, hmem, hparsed⟩ := (mapM_some hsteps).1 claimed hclaimed
    obtain ⟨hrow, hown⟩ := mem_rowsWhere.1 ((List.mem_insertionSort _).1 hmem)
    obtain ⟨rfl, hposition, hstatus⟩ := modelValidate_row hparsed
    exact ⟨row, hrow, of_decide_eq_true hown, hposition, fun _ => hstatus.symm⟩
  all i row hrow hown := by
    have hmem : ⟨i, row⟩ ∈ rowsWhere s.steps (·.execution = x.execution.id) :=
      mem_rowsWhere.2 ⟨hrow, decide_eq_true hown⟩
    obtain ⟨claimed, hclaimed, hparsed⟩ :=
      (mapM_some hsteps).2 _ ((List.mem_insertionSort _).2 hmem)
    exact ⟨claimed, hclaimed, (modelValidate_row hparsed).1⟩
  acknowledged i update _ hmem := nomatch hmem

/-- A call is answered. -/
theorem reply {c : Call} {answer : c.Answer} {session : Session Call Call.Answer Exn Unit}
    (h : w.Knows f.served.db) (htrue : f.Truthful c answer)
    (hreports : ∀ execution step call update,
      (.updateStep execution step call update, .updateStep step) ∈ f.commits →
        update.newStatus = .succeeded → HasStatus step .succeeded f.served.db)
    (hreply : Session.Reply c answer w.session session) :
    Worker.Knows ⟨w.executor, session⟩ f.served.db where
  session := h.session.reply hreply
  execution := h.execution
  rows := h.rows
  all := h.all
  acknowledged i update hstatus hmem := by
    rw [hreply.seen] at hmem
    rcases List.mem_append.1 hmem with hmem | hmem
    · exact h.acknowledged i update hstatus hmem
    · cases List.mem_singleton.1 hmem
      obtain ⟨call, report, -, hreport, hcommit⟩ := htrue
      exact hreports _ _ _ _ hcommit (hreport.trans hstatus)

/-- **What was passed** is done. -/
theorem done {claimed : ClaimedStep} {row : ExecutionStep} {seen : List CallEvent}
    (h : w.Knows s) (hclaimed : claimed ∈ w.executor.execution.steps)
    (hrow : s.steps.get? claimed.id = some row) (hseen : ∀ event ∈ seen, event ∈ w.session.seen)
    (hpassed : w.executor.Passed claimed seen) : row.status.isDone = true := by
  obtain ⟨row', hrow', -, -, hstatus⟩ := h.rows claimed hclaimed
  rw [hrow] at hrow'
  cases hrow'
  rcases hpassed with hsucceeded | hskipped | ⟨update, hupdate, hmem⟩
  · rw [hstatus (by rw [hsucceeded]; rfl), hsucceeded]
    rfl
  · rw [hstatus (by rw [hskipped]; rfl), hskipped]
    rfl
  · obtain ⟨row', hrow', hdone⟩ := h.acknowledged _ update hupdate (hseen _ hmem)
    rw [hrow] at hrow'
    cases hrow'
    rw [hdone]
    rfl

/-- **A step that a worker asked for** comes after steps that are done. -/
theorem asked {c : Call} {e i : ℕ} {step other : ExecutionStep} {j : ℕ} (h : w.Knows s)
    (hmade : w.session.Made c) (hasks : c.Asks e i) (hstep : s.steps.get? i = some step)
    (hother : s.steps.get? j = some other) (hexecution : other.execution = step.execution)
    (hlt : other.position < step.position) : other.status.isDone = true := by
  obtain ⟨before, answer, after, r, hseen, hrun⟩ := hmade.exists_run h.session
  obtain ⟨rfl, claimed, hclaimed, rfl, hbefore⟩ := Executor.asks_in_order hrun e i hasks
  obtain ⟨row, hrow, hown, hposition, -⟩ := h.rows claimed hclaimed
  rw [hstep] at hrow
  cases hrow
  obtain ⟨earlier, hearlier, rfl⟩ := h.all j other hother (hexecution.trans hown)
  obtain ⟨row', hrow', -, hposition', -⟩ := h.rows earlier hearlier
  rw [hother] at hrow'
  cases hrow'
  refine h.done hearlier hother hseen (hbefore earlier hearlier ?_)
  rw [hposition, hposition']
  exact_mod_cast hlt

end Worker.Knows

-- ════════════════════════════════════════════════════════════════════════
-- The fleet
-- ════════════════════════════════════════════════════════════════════════

/-- A step without a commit leaves the database alone. -/
theorem ServedStep.of_uncommitted {c c' : ServedConf}
    (hs : ServedStep env (fun _ _ _ => False) c c') : c'.db = c.db := by
  cases hs with
  | commit _ _ hA => exact hA.elim
  | _ => rfl

/-- What a request may start is there. -/
theorem MayStart.row {op : Op} {i : ℕ} (h : MayStart env s i op) :
    ∃ step, s.steps.get? i = some step := by
  cases h with
  | start e k call h =>
    obtain ⟨rfl, step, hstep, -⟩ := h
    exact ⟨step, hstep⟩
  | poll e k call h =>
    obtain ⟨rfl, ⟨step, hstep, -⟩, -⟩ := h
    exact ⟨step, hstep⟩

/-- What holds of a fleet in every run. -/
structure Fleet.Sound (env : Env) (f : Fleet) : Prop where
  serving : Serving env anyServed f.served
  reports : ∀ execution step call update,
    (.updateStep execution step call update, .updateStep step) ∈ f.commits →
      update.newStatus = .succeeded → HasStatus step .succeeded f.served.db
  knows : ∀ w ∈ f.workers, w.Knows f.served.db
  ordered : ∀ i j step other, f.served.db.steps.get? i = some step →
    f.served.db.steps.get? j = some other → other.execution = step.execution →
      step.status.isStarted = true → other.position < step.position → other.status.isDone = true

namespace Fleet.Sound

theorem initial (reference : Reference) (now : Time) :
    Sound env ⟨⟨.initial reference now, []⟩, [], []⟩ where
  serving := .initial reference now
  reports _ _ _ _ hmem := nomatch hmem
  knows _ hmem := nomatch hmem
  ordered i j step other hstep := by cases hstep

/-- The control plane goes on without a commit. -/
theorem wait (h : f.Sound env) {c : ServedConf}
    (hs : ServedStep env (fun _ _ _ => False) f.served c) : Sound env { f with served := c } := by
  have hserving : Serving env anyServed c := h.serving.step (hs.mono fun _ _ _ => False.elim)
  have hdb : c.db = f.served.db := hs.of_uncommitted
  exact ⟨hserving, hdb ▸ h.reports, hdb ▸ h.knows, hdb ▸ h.ordered⟩

/-- The step that a request starts is one that a worker has asked for. -/
theorem starts (h : f.Sound env) {op : Op} (hasked : f.Asked op) {i j : ℕ}
    {step other : ExecutionStep} (hmay : MayStart env f.served.db i op)
    (hstep : f.served.db.steps.get? i = some step) (hother : f.served.db.steps.get? j = some other)
    (hexecution : other.execution = step.execution) (hlt : other.position < step.position) :
    other.status.isDone = true := by
  cases hmay with
  | start e k call hstarts =>
    obtain ⟨rfl, -⟩ := hstarts
    obtain ⟨w, hw, hmade⟩ := hasked _ rfl
    exact (h.knows w hw).asked hmade ⟨rfl, rfl⟩ hstep hother hexecution hlt
  | poll e k call hstarts =>
    obtain ⟨rfl, -⟩ := hstarts
    obtain ⟨w, hw, hmade⟩ := hasked _ rfl
    exact (h.knows w hw).asked hmade ⟨rfl, rfl⟩ hstep hother hexecution hlt

/-- **A commit** starts no step before those at smaller positions are done. -/
theorem commit (h : f.Sound env) {op : Op} {n : TxName} {c : ServedConf}
    (hs : Serves (fun op _ _ => f.Asked op) op n f.served c) :
    Sound env { f with served := c, commits := (op, n) :: f.commits } := by
  obtain ⟨⟨hmoves, hreports⟩, hasked⟩ := hs.move h.serving
    (R := fun op n s s' => StepsMove (fun j => MayStart env s j op) s s' ∧
      ∀ execution step call update, op = .updateStep execution step call update →
        n = .updateStep step → HasStatus step update.newStatus s')
    fun op s => (op.stepsMoves s).and (op.reports s)
  have hstep : ServedStep env (fun op _ _ => f.Asked op) f.served c := Conf.Commits.step hs
  refine ⟨h.serving.step (hstep.mono fun _ _ _ _ => trivial), ?_, ?_, ?_⟩
  · intro execution step call update hmem hsucceeded
    rcases List.mem_cons.1 hmem with heq | hmem
    · cases heq
      exact hsucceeded ▸ hreports _ _ _ _ rfl rfl
    · exact (h.reports _ _ _ _ hmem hsucceeded).later rfl hmoves
  · exact fun w hw => (h.knows w hw).later hmoves
  · intro i j later later' hlater hlater' hexecution hstarted hlt
    obtain ⟨step, hrow⟩ : ∃ step, f.served.db.steps.get? i = some step := by
      cases hrow : f.served.db.steps.get? i with
      | some step => exact ⟨step, rfl⟩
      | none =>
        -- a new step has not been started
        obtain ⟨step, hget⟩ := ((hmoves.created i later hlater hrow).1 hstarted).row
        rw [hrow] at hget
        cases hget
    obtain ⟨later₁, hlater₁, hmoved⟩ := hmoves.kept i step hrow
    rw [hlater] at hlater₁
    cases hlater₁
    obtain ⟨other, hother⟩ : ∃ other, f.served.db.steps.get? j = some other := by
      cases hrow' : f.served.db.steps.get? j with
      | some other => exact ⟨other, rfl⟩
      | none =>
        -- and an old execution gets no new steps
        obtain ⟨-, hfresh, -⟩ := hmoves.created j later' hlater' hrow'
        have hknown := h.serving.stepsPlaced.1.known i step hrow
        rw [hexecution, hmoved.execution] at hfresh
        exact absurd hknown hfresh.not_gt
    obtain ⟨later₂, hlater₂, hmoved'⟩ := hmoves.kept j other hother
    rw [hlater'] at hlater₂
    cases hlater₂
    rw [hmoved.execution, hmoved'.execution] at hexecution
    rw [hmoved.position, hmoved'.position] at hlt
    have hdone : other.status.isDone = true := by
      rcases hmoved.started hstarted with hbefore | hmay
      · exact h.ordered i j step other hrow hother hexecution hbefore hlt
      · exact h.starts hasked hmay hrow hother hexecution hlt
    rw [hmoved'.final hdone]
    exact hdone

/-- A runner reads a claim. -/
theorem claim (h : f.Sound env) {x : Executor}
    (hexecution : (f.served.db.executions.get? x.execution.id).isSome = true)
    (hsteps : claimedSteps lax x.execution.id f.served.db = some x.execution.steps) :
    Sound env { f with workers := f.workers ++ [⟨x, .start x.run⟩] } where
  serving := h.serving
  reports := h.reports
  knows w hw := by
    rcases List.mem_append.1 hw with hw | hw
    · exact h.knows w hw
    · exact List.mem_singleton.1 hw ▸ .claim hexecution hsteps
  ordered := h.ordered

/-- A worker gets an answer. -/
theorem reply (h : f.Sound env) {i : ℕ} {w : Worker} {c : Call} {answer : c.Answer}
    {session : Session Call Call.Answer Exn Unit} (hw : f.workers[i]? = some w)
    (htrue : f.Truthful c answer) (hreply : Session.Reply c answer w.session session) :
    Sound env { f with workers := f.workers.set i ⟨w.executor, session⟩ } where
  serving := h.serving
  reports := h.reports
  knows w' hw' := by
    rcases List.mem_or_eq_of_mem_set hw' with hw' | rfl
    · exact h.knows w' hw'
    · exact (h.knows w (List.mem_of_getElem? hw)).reply htrue h.reports hreply
  ordered := h.ordered

/-- **One step of a fleet** keeps the invariant. -/
theorem step (h : f.Sound env) (hs : f.Step env lax f') : f'.Sound env := by
  cases hs with
  | wait hs => exact h.wait hs
  | commit hs => exact h.commit hs
  | claim x hexecution hsteps => exact h.claim hexecution hsteps
  | reply hw htrue hreply => exact h.reply hw htrue hreply

/-- The invariant orders the steps. -/
theorem stepsOrdered (h : f.Sound env) : StepsOrdered f.served.db where
  before := h.ordered
  single i j step other hstep hother hexecution hrunning hrunning' := by
    have hstarted : step.status.isStarted = true := by rw [hrunning]; rfl
    have hstarted' : other.status.isStarted = true := by rw [hrunning']; rfl
    rcases lt_trichotomy other.position step.position with hlt | heq | hlt
    · have hdone := h.ordered i j step other hstep hother hexecution hstarted hlt
      rw [hrunning'] at hdone
      cases hdone
    · exact h.serving.stepsPlaced.1.unique j i other step hother hstep hexecution heq
    · have hdone := h.ordered j i other step hother hstep hexecution.symm hstarted' hlt
      rw [hrunning] at hdone
      cases hdone

end Fleet.Sound

/-- **Steps run in order** in every run of a fleet: whatever else is requested, whatever is lost
and whatever the workers are told, a step is running or has succeeded only when all steps at
smaller positions have succeeded or were skipped, and one step of an execution runs at most. -/
theorem steps_in_order (h : f.Reach env lax) : StepsOrdered f.served.db := by
  have hsound : f.Sound env := by
    induction h with
    | start reference now => exact .initial reference now
    | step _ hs ih => exact ih.step hs
  exact hsound.stepsOrdered

-- ════════════════════════════════════════════════════════════════════════
-- Runs of two steps
-- ════════════════════════════════════════════════════════════════════════

/-- A manual step of a v2 workflow. -/
def orderedStep (key : String) : Json :=
  .obj
    [ ("id", .str key),
      ("name", .str key),
      ("type", .str "manual_task"),
      ("risk", .str "low"),
      ("action", .obj [("type", .str "manual_task"), ("version", .str "pilot.v1")]) ]

/-- A workflow of two of them. -/
def orderedDefinition : Json :=
  .obj
    [ ("schemaVersion", .str "2"),
      ("name", .str "Ordered"),
      ("steps", .arr [orderedStep "first", orderedStep "second"]) ]

/-- An organization with that workflow, which nothing manages. -/
def orderedReference : Reference :=
  { Reference.sample with
    profiles := .empty
    workflows := ⟨[
      { organization := 0
        name := "Ordered"
        version := 1
        status := .published
        definitionSchemaVersion := "workflow.schema.v2"
        definition := orderedDefinition }]⟩ }

/-- Its execution is created and claimed. -/
def orderedClaimed : Db :=
  runOps .sample [.createExecution 0 .live .sample, claimBy "runner" true]
    (.initial orderedReference 0)

/-- The row of a step. -/
def orderedRow (key : String) (position : ℕ) : ExecutionStep where
  execution := 0
  position
  stepKey := key
  name := key
  stepType := "manual_task"
  riskLevel := "low"
  stepSnapshot := orderedStep key

/-- The runner that claimed it. -/
def orderedExecutor : Executor :=
  .sample ⟨0, [claimedStep 0 (orderedRow "first" 1), claimedStep 1 (orderedRow "second" 2)],
    "live", none, [], none⟩

/-- Its session after `n` calls that succeed. -/
def orderedSession (n : ℕ) : Session Call Call.Answer Exn Unit :=
  Session.advance Call.succeed n (.start orderedExecutor.run)

/-- The first step is started. -/
def orderedFirst : Db := runOps .sample [.startStep 0 0 .sample] orderedClaimed

/-- The report of the first step. -/
def orderedReport : Op := .updateStep 0 0 .sample { newStatus := .succeeded }

/-- It is reported, and the second step is started. -/
def orderedSecond : Db := runOps .sample [orderedReport, .startStep 0 1 .sample] orderedFirst

deriving instance DecidableEq for SandboxResult, ExecutionStep

theorem orderedClaimed_rows :
    orderedClaimed.steps.rows = [orderedRow "first" 1, orderedRow "second" 2] ∧
      (orderedClaimed.executions.get? 0).isSome = true := by
  decide

theorem orderedSecond_rows : orderedSecond.steps.rows.map (·.status) = [.succeeded, .running] := by
  decide

theorem orderedDefinition_ok :
    (validateV2 .sample (fun _ _ => "") orderedDefinition).isOk = true := by
  decide

theorem orderedStep_accepted {key : String} (h : key = "first" ∨ key = "second") :
    StepAccepted (orderedStep key) := by
  obtain ⟨u, haccepted⟩ := exists_eq_ok orderedDefinition_ok
  refine accepted_steps haccepted ?_
  rcases h with rfl | rfl
  · exact List.mem_cons_self
  · exact List.mem_cons_of_mem _ List.mem_cons_self

theorem orderedClaimed_steps :
    claimedSteps lax 0 orderedClaimed = some orderedExecutor.execution.steps := by
  have hsteps : orderedClaimed.steps = ⟨[orderedRow "first" 1, orderedRow "second" 2]⟩ :=
    congrArg Table.mk orderedClaimed_rows.1
  have hfirst : ClaimedStep.modelValidate lax (internalExecutionStep 0 (orderedRow "first" 1)) =
      some (claimedStep 0 (orderedRow "first" 1)) :=
    modelValidate_accepted (orderedStep_accepted (.inl rfl)) nofun
  have hsecond : ClaimedStep.modelValidate lax (internalExecutionStep 1 (orderedRow "second" 2)) =
      some (claimedStep 1 (orderedRow "second" 2)) :=
    modelValidate_accepted (orderedStep_accepted (.inr rfl)) nofun
  have hrows : (rowsWhere orderedClaimed.steps (·.execution = 0)).insertionSort
      (fun a b => a.row.position ≤ b.row.position) =
        [⟨0, orderedRow "first" 1⟩, ⟨1, orderedRow "second" 2⟩] := by
    rw [hsteps]
    rfl
  rw [claimedSteps, hrows, List.mapM_cons, hfirst, List.mapM_cons, hsecond]
  rfl

/-- The first step is started, runs, is reported, and the loop goes on. -/
theorem orderedSession_seen : (orderedSession 6).seen =
    [ ⟨.isCancelled, false⟩,
      ⟨.startStep 0 0 "token", .ok .run⟩,
      ⟨.utcnow, (0 : ℕ)⟩,
      ⟨.utcnow, (0 : ℕ)⟩,
      ⟨.updateStep 0 0 "token"
        { status := .succeeded
          startedAt := some 0
          finishedAt := some 0
          exitCode := some 0 }, .ok ()⟩,
      ⟨.isCancelled, false⟩ ] :=
  rfl

/-- The report of the step is committed. -/
theorem orderedReport_commits : ∃ c ∈ (orderedReport.prog .sample).commits orderedFirst,
    c.name = .updateStep 0 := by
  have hreport : ((orderedReport.prog .sample).commits orderedFirst).any
      (fun c => match c.name with | .updateStep 0 => true | _ => false) = true := by
    decide
  obtain ⟨c, hc, hname⟩ := List.any_eq_true.1 hreport
  refine ⟨c, hc, ?_⟩
  split at hname
  · assumption
  · cases hname

/-- The first step has succeeded and the second runs. -/
theorem orderedFleet (lax : Coercions) :
    ∃ f : Fleet, f.Reach .sample lax ∧ f.served.db = orderedSecond := by
  have hstart : Fleet.Reach .sample lax ⟨⟨.initial orderedReference 0, []⟩, [], []⟩ := .start _ _
  obtain ⟨commits₁, hcreated, -⟩ := hstart.exec (.createExecution 0 .live .sample) (fun _ h => nomatch h)
  obtain ⟨commits₂, hclaimed, -⟩ := hcreated.exec (claimBy "runner" true) (fun _ h => nomatch h)
  have hopened : Fleet.Reach .sample lax
      ⟨⟨orderedClaimed, []⟩, commits₂, [⟨orderedExecutor, .start orderedExecutor.run⟩]⟩ :=
    hclaimed.step (.claim orderedExecutor orderedClaimed_rows.2 orderedClaimed_steps)
  have hasked : Fleet.Reach .sample lax
      ⟨⟨orderedClaimed, []⟩, commits₂, [⟨orderedExecutor, orderedSession 1⟩]⟩ := by
    refine hopened.advance Call.succeed 1 ?_
    intro event hevent workers
    cases List.mem_singleton.1 hevent
    trivial
  obtain ⟨commits₃, hfirst, -⟩ := hasked.exec (.startStep 0 0 .sample) fun c hc => by
    cases hc
    exact ⟨_, List.mem_singleton_self _, .inr ⟨_, rfl⟩⟩
  obtain ⟨commits₄, hreported, hcommits⟩ := hfirst.exec orderedReport (fun _ h => nomatch h)
  have hreport : (orderedReport, TxName.updateStep 0) ∈ commits₄ := by
    obtain ⟨c, hc, hname⟩ := orderedReport_commits
    exact hname ▸ hcommits c hc
  have hnext := hreported.advance Call.succeed 5 fun event hevent workers => by
    have hseen : event ∈ (orderedSession 6).seen := hevent
    rw [orderedSession_seen] at hseen
    simp only [List.mem_cons, List.not_mem_nil, or_false] at hseen
    rcases hseen with rfl | rfl | rfl | rfl | rfl | rfl
    case inr.inr.inr.inr.inl => exact ⟨.sample, _, rfl, rfl, hreport⟩
    all_goals trivial
  obtain ⟨commits₅, hsecond, -⟩ := hnext.exec (.startStep 0 1 .sample) fun c hc => by
    cases hc
    exact ⟨_, List.mem_singleton_self _, .inr ⟨_, rfl⟩⟩
  exact ⟨_, hsecond, rfl⟩

/-- In that run the second step runs after the first has succeeded. -/
theorem steps_in_order_second : ∃ f : Fleet, StepsOrdered f.served.db ∧
    f.served.db.steps.rows.map (·.status) = [.succeeded, .running] := by
  obtain ⟨f, hreach, hdb⟩ := orderedFleet ⟨fun _ => none, fun _ => none⟩
  exact ⟨f, steps_in_order hreach, hdb ▸ orderedSecond_rows⟩

/-- The runner asks for the second step at once. -/
theorem unorderedStart_checked :
    (runOps .sample [.startStep 0 1 .sample] orderedClaimed).steps.rows.map
      (fun step => (step.execution, step.position, step.status)) =
        [(0, 1, .pending), (0, 2, .running)] := by
  decide

/-- The control plane lets the second step run while the first is pending. -/
theorem second_step_starts_first :
    ¬∀ (env : Env) (c : ServedConf), Serving env anyServed c → StepsOrdered c.db := by
  intro h
  have hserving : Serving .sample anyServed
      ⟨runOps .sample [.startStep 0 1 .sample] orderedClaimed, []⟩ :=
    ((Serving.initial orderedReference 0).runOps _).runOps _
  have hordered := h .sample _ hserving
  have hrows := unorderedStart_checked
  generalize runOps .sample [.startStep 0 1 .sample] orderedClaimed = s at hordered hrows
  obtain ⟨⟨rows⟩, hsteps⟩ : ∃ steps, s.steps = steps := ⟨_, rfl⟩
  rw [hsteps] at hrows
  obtain ⟨first, second, rfl⟩ : ∃ first second, rows = [first, second] :=
    List.length_eq_two.1 (by simpa using congrArg List.length hrows)
  simp only [List.map_cons, List.map_nil, List.cons.injEq, Prod.mk.injEq, and_true] at hrows
  obtain ⟨⟨hfirstExecution, hfirstPosition, hfirstStatus⟩, hsecondExecution, hsecondPosition,
    hsecondStatus⟩ := hrows
  have hdone : first.status.isDone = true := by
    refine hordered.before 1 0 second first (by rw [hsteps]; rfl) (by rw [hsteps]; rfl) ?_ ?_ ?_
    · rw [hfirstExecution, hsecondExecution]
    · rw [hsecondStatus]
      rfl
    · omega
  rw [hfirstStatus] at hdone
  cases hdone

end RunbookPlatform
