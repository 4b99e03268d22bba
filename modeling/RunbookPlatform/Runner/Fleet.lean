import RunbookPlatform.Executions.Payload
import RunbookPlatform.Interaction.Session
import RunbookPlatform.Served

/-!
# Runners at work

The control plane together with the runners: requests that commit in any order, and workers
that read a claim and run `Executor.run` on it, one call after another. A worker's call may
be answered with anything, except that the control plane acknowledges no update of a step
which it has not committed. A start or a poll is committed after a worker has asked for it;
every other request may come from anywhere.

## Main definitions

- `claimedSteps` — the steps of a claim, as the runner parses them
- `Fleet`, `Fleet.Step`, `Fleet.Reach` — the control plane and the workers, and their runs

## Main results

- `Fleet.Reach.exec` — a request that runs to its end is a stretch of a run
-/

namespace RunbookPlatform

open Interaction Transactional

/-- `InternalExecutionSerializer(execution).data["steps"]`, as the runner parses them. -/
def claimedSteps (lax : Coercions) (execution : ℕ) (s : Db) : Option (List ClaimedStep) :=
  ((rowsWhere s.steps (·.execution = execution)).insertionSort
      fun a b => a.row.position ≤ b.row.position).mapM fun step =>
    ClaimedStep.modelValidate lax (internalExecutionStep step.id step.row)

/-- A runner that executes one claim. -/
structure Worker where
  executor : Executor
  session : Session Call Call.Answer Exn Unit

/-- The control plane, what it has committed, and the workers. -/
structure Fleet where
  served : ServedConf
  commits : List (Op × TxName)
  workers : List Worker

/-- The call of a runner that a start or a poll is for. -/
def Op.asked? : Op → Option Call
  | .startStep execution step call => some (.startStep execution step call.claimToken)
  | .pollApproval execution step call => some (.approvalStatus execution step call.claimToken)
  | _ => none

namespace Fleet

/-- A worker has asked for the start or for the poll. -/
def Asked (f : Fleet) (op : Op) : Prop :=
  ∀ c, op.asked? = some c → ∃ w ∈ f.workers, w.session.Made c

/-- The answer acknowledges an update that was committed only. -/
def Truthful (f : Fleet) : (c : Call) → c.Answer → Prop
  | .updateStep execution step claimToken update, .ok () =>
    ∃ call report, call.claimToken = claimToken ∧ report.newStatus = update.status ∧
      (.updateStep execution step call report, .updateStep step) ∈ f.commits
  | _, _ => True

/-- One step of a run. -/
inductive Step (env : Env) (lax : Coercions) : Fleet → Fleet → Prop
  /-- A request arrives, is rolled back or is lost. -/
  | wait {f c} (h : ServedStep env (fun _ _ _ => False) f.served c) :
    Step env lax f { f with served := c }
  | commit {f c op n} (h : Serves (fun op _ _ => f.Asked op) op n f.served c) :
    Step env lax f { f with served := c, commits := (op, n) :: f.commits }
  /-- A runner reads a claim and starts to execute it. -/
  | claim {f} (x : Executor)
    (hexecution : (f.served.db.executions.get? x.execution.id).isSome = true)
    (hsteps : claimedSteps lax x.execution.id f.served.db = some x.execution.steps) :
    Step env lax f { f with workers := f.workers ++ [⟨x, .start x.run⟩] }
  | reply {f i w c answer session} (hw : f.workers[i]? = some w) (h : f.Truthful c answer)
    (hreply : Session.Reply c answer w.session session) :
    Step env lax f { f with workers := f.workers.set i ⟨w.executor, session⟩ }

/-- The fleets that runs reach. -/
inductive Reach (env : Env) (lax : Coercions) : Fleet → Prop
  | start (reference : Reference) (now : Time) :
    Reach env lax ⟨⟨.initial reference now, []⟩, [], []⟩
  | step {f f'} : Reach env lax f → Step env lax f f' → Reach env lax f'

variable {env : Env} {lax : Coercions} {s : Db} {commits : List (Op × TxName)}
  {workers : List Worker}

/-- **A request** that is alone in flight runs to its end; its commits are remembered. -/
theorem Reach.finish {p : Prog Db Err (Op × TxName) allCells Unit}
    (h : Reach env lax ⟨⟨s, [p]⟩, commits, workers⟩)
    (hasked : ∀ c ∈ p.commits s, ∀ commits, Asked ⟨⟨s, []⟩, commits, workers⟩ c.name.1) :
    ∃ commits', Reach env lax ⟨⟨(p.exec s).2, []⟩, commits', workers⟩ ∧
      (∀ n ∈ commits, n ∈ commits') ∧ ∀ c ∈ p.commits s, c.name ∈ commits' := by
  induction p generalizing s commits with
  | done r =>
    exact ⟨commits, h.step (.wait (.crash (i := 0))), fun _ hn => hn, List.forall_mem_nil _⟩
  | commit n t k ih =>
    rw [Prog.commits_commit] at hasked ⊢
    rw [Prog.exec_commit]
    cases ht : t.run s with
    | ok r =>
      obtain ⟨a, s'⟩ := r
      simp only [ht, List.mem_cons, forall_eq_or_imp] at hasked ⊢
      have hnext := h.step (.commit (.intro (i := 0) rfl ht (hasked.1 commits)))
      obtain ⟨commits', hreach, hkept, hnew⟩ := ih _ hnext hasked.2
      exact ⟨commits', hreach, fun m hm => hkept m (List.mem_cons_of_mem _ hm),
        hkept _ List.mem_cons_self, hnew⟩
    | error e =>
      simp only [ht] at hasked ⊢
      exact ih _ (h.step (.wait (.rollback (i := 0) rfl ht))) hasked

/-- A request that is asked for, if it is a start or a poll, arrives and runs to its end. -/
theorem Reach.exec (h : Reach env lax ⟨⟨s, []⟩, commits, workers⟩) (op : Op)
    (hasked : ∀ c, op.asked? = some c → ∃ w ∈ workers, w.session.Made c) :
    ∃ commits', Reach env lax ⟨⟨((op.prog env).exec s).2, []⟩, commits', workers⟩ ∧
      ∀ c ∈ (op.prog env).commits s, (op, c.name) ∈ commits' := by
  have harrived := h.step (.wait (.arrive ⟨op, rfl⟩))
  have hcommits : (op.served env).commits s =
      ((op.prog env).commits s).map fun c => ⟨(op, c.name), c.before, c.after⟩ := by
    rw [Op.served, Prog.commits_widen, Prog.commits_rename]
  obtain ⟨commits', hreach, -, hnew⟩ := harrived.finish fun c hc _ => by
    rw [hcommits] at hc
    obtain ⟨_, -, rfl⟩ := List.mem_map.1 hc
    exact hasked
  rw [Op.served, Prog.exec_widen, Prog.exec_rename] at hreach
  rw [hcommits] at hnew
  exact ⟨commits', hreach, fun c hc => hnew _ (List.mem_map_of_mem hc)⟩

/-- A worker that is alone gets truthful answers to its next calls. -/
theorem Reach.advance {served : ServedConf} {x : Executor}
    {session : Session Call Call.Answer Exn Unit} (answer : (c : Call) → c.Answer) (n : ℕ)
    (h : Reach env lax ⟨served, commits, [⟨x, session⟩]⟩)
    (htrue : ∀ event ∈ (session.advance answer n).seen, ∀ workers,
      Truthful ⟨served, commits, workers⟩ event.1 event.2) :
    Reach env lax ⟨served, commits, [⟨x, session.advance answer n⟩]⟩ := by
  induction n generalizing session with
  | zero => exact h
  | succ n ih =>
    obtain ⟨seen, rest⟩ := session
    cases rest with
    | done r => exact h
    | call c k =>
      have hmem : ⟨c, answer c⟩ ∈
          (Session.advance answer n ⟨seen ++ [⟨c, answer c⟩], k (answer c)⟩).seen :=
        Session.mem_advance (List.mem_append_right _ (List.mem_singleton_self _))
      exact ih (h.step (.reply (i := 0) (w := ⟨x, ⟨seen, .call c k⟩⟩) rfl (htrue _ hmem _) .intro))
        htrue

end Fleet

end RunbookPlatform
