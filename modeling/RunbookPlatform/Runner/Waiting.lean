import RunbookPlatform.Runner.Effects
import RunbookPlatform.System

/-!
# Waiting for an approval

The loop of `_wait_for_approval` ends with a cancellation or a decision. A poll that fails is
tried again whatever the failure, so a control plane that refuses every poll for good keeps the
runner in the loop.

## Main definitions

- `Executor.waitingTrace` — the calls of the turns that leave the loop waiting
- `Executor.LeavesAt` — a turn of the loop is the last
- `Executor.Ends` — the loop ends, however many turns it is given

## Main results

- `wait_ends_iff` — the loop ends exactly when some turn is the last
-/

namespace RunbookPlatform

open Interaction

/-- An environment: the answer to a call after the calls so far. -/
abbrev Answers := List CallEvent → (c : Call) → c.Answer

/-- The answer decides: it is `run` or `fail`. -/
def PollAction.Decides : Except HttpError PollAction → Prop
  | .ok .run | .ok .fail => True
  | _ => False

namespace Executor

variable (x : Executor) (step : ClaimedStep) (answers : Answers)

/-- The flag is read once more. -/
def afterFlag (seen : List CallEvent) : List CallEvent :=
  seen ++ [⟨.isCancelled, answers seen .isCancelled⟩]

/-- The poll of the loop. -/
abbrev pollCall : Call := .approvalStatus x.execution.id step.id x.claimToken

/-- One turn: the flag is read, and the control plane is asked. -/
def afterTurn (seen : List CallEvent) : List CallEvent :=
  afterFlag answers seen ++
    [⟨x.pollCall step, answers (afterFlag answers seen) (x.pollCall step)⟩]

/-- What was called when `n` turns have been waited. -/
def waitingTrace : ℕ → List CallEvent
  | 0 => []
  | n + 1 => x.afterTurn step answers (waitingTrace n)

/-- After `n` turns of waiting the flag is set, or the poll is decided. -/
def LeavesAt (n : ℕ) : Prop :=
  answers (x.waitingTrace step answers n) .isCancelled = true ∨
    PollAction.Decides (answers (afterFlag answers (x.waitingTrace step answers n))
      (x.pollCall step))

/-- From some number of turns on, the loop does the same however many it is given. -/
def Ends : Prop :=
  ∃ n, ∀ m, n ≤ m → (x.waitForApproval step m).respond answers [] =
    (x.waitForApproval step n).respond answers []

variable {x step answers}

theorem respond_flag {α : Type} (f : Bool → Task α) (seen : List CallEvent) :
    (isCancelled >>= f).respond answers seen =
      (f (answers seen .isCancelled)).respond answers (afterFlag answers seen) := rfl

/-- A poll that fails answers nothing. -/
theorem respond_poll {α : Type} (f : Option PollAction → Task α) (seen : List CallEvent) :
    ((catchHttp (some <$> Client.getStepApprovalStatus x.execution.id step.id x.claimToken)
      fun _ => pure none) >>= f).respond answers seen =
      (f (answers seen (x.pollCall step)).toOption).respond answers
        (seen ++ [⟨x.pollCall step, answers seen (x.pollCall step)⟩]) := by
  have hcall (answer : Except HttpError PollAction) (seen : List CallEvent) :
      ((catchHttp (some <$> raiseHttp answer) fun _ => pure none) >>= f).respond answers seen =
        (f answer.toOption).respond answers seen := by
    cases answer <;> rfl
  exact hcall _ _

/-- **One turn** of the loop: the flag is read, then the control plane is asked. -/
theorem respond_waitForApproval (seen : List CallEvent) (n : ℕ) :
    (x.waitForApproval step (n + 1)).respond answers seen =
      if answers seen .isCancelled = true then (afterFlag answers seen, .ok true)
      else
        match (answers (afterFlag answers seen) (x.pollCall step)).toOption with
        | some .run => (x.executeCommand step).respond answers (x.afterTurn step answers seen)
        | some .fail => (x.afterTurn step answers seen, .ok true)
        | some .wait | none =>
          (x.waitForApproval step n).respond answers (x.afterTurn step answers seen) := by
  rw [waitForApproval, respond_flag]
  cases answers seen .isCancelled with
  | true => rfl
  | false =>
    rw [if_neg Bool.false_ne_true, if_neg Bool.false_ne_true, respond_poll, afterTurn]
    cases (answers (afterFlag answers seen) (x.pollCall step)).toOption with
    | none => rfl
    | some action => cases action <;> rfl

/-- The answer decides when it is one of two. -/
theorem decides_iff {answer : Except HttpError PollAction} :
    PollAction.Decides answer ↔ answer.toOption = some .run ∨ answer.toOption = some .fail := by
  cases answer with
  | error e => simp [PollAction.Decides, Except.toOption]
  | ok action => cases action <;> simp [PollAction.Decides, Except.toOption]

/-- **A turn** that is not the last goes on with the next. -/
theorem respond_of_not_leaves {n : ℕ} (h : ¬x.LeavesAt step answers n) (m : ℕ) :
    (x.waitForApproval step (m + 1)).respond answers (x.waitingTrace step answers n) =
      (x.waitForApproval step m).respond answers (x.waitingTrace step answers (n + 1)) := by
  rw [LeavesAt, decides_iff, not_or, not_or] at h
  obtain ⟨hflag, hrun, hfail⟩ := h
  rw [respond_waitForApproval, if_neg hflag, waitingTrace]
  cases hanswer : (answers (afterFlag answers (x.waitingTrace step answers n))
      (x.pollCall step)).toOption with
  | none => rfl
  | some action =>
    rw [hanswer] at hrun hfail
    cases action with
    | wait => rfl
    | run => exact absurd rfl hrun
    | fail => exact absurd rfl hfail

/-- **The last turn** does not depend on the turns that are left. -/
theorem respond_of_leaves {n : ℕ} (h : x.LeavesAt step answers n) (m : ℕ) :
    (x.waitForApproval step (m + 1)).respond answers (x.waitingTrace step answers n) =
      (x.waitForApproval step 1).respond answers (x.waitingTrace step answers n) := by
  rw [respond_waitForApproval, respond_waitForApproval]
  by_cases hflag : answers (x.waitingTrace step answers n) .isCancelled = true
  · rw [if_pos hflag, if_pos hflag]
  · rw [if_neg hflag, if_neg hflag]
    obtain hrun | hfail := decides_iff.1 (h.resolve_left hflag)
    · rw [hrun]
    · rw [hfail]

/-- The turns before the last leave the loop waiting. -/
theorem respond_waiting {n : ℕ} (hwaits : ∀ k < n, ¬x.LeavesAt step answers k) (m : ℕ) :
    (x.waitForApproval step (n + m)).respond answers [] =
      (x.waitForApproval step m).respond answers (x.waitingTrace step answers n) := by
  induction n generalizing m with
  | zero =>
    rw [Nat.zero_add]
    rfl
  | succ n ih =>
    have hsum : n + 1 + m = n + (m + 1) := by omega
    rw [hsum, ih (fun k hk => hwaits k (by omega)), respond_of_not_leaves (hwaits n (by omega))]

theorem length_waitingTrace (n : ℕ) : (x.waitingTrace step answers n).length = 2 * n := by
  induction n with
  | zero => rfl
  | succ n ih =>
    rw [waitingTrace, afterTurn, afterFlag, List.length_append, List.length_append, ih]
    simp only [List.length_singleton]
    omega

/-- A loop that no turn leaves does not end. -/
theorem exists_leaves_of_ends (h : x.Ends step answers) : ∃ n, x.LeavesAt step answers n := by
  obtain ⟨n, hsame⟩ := h
  by_contra hnever
  rw [not_exists] at hnever
  have hkilled (m : ℕ) : (x.waitForApproval step m).respond answers [] =
      (x.waitingTrace step answers m, .error .killed) := by
    have hrun := respond_waiting (n := m) (fun k _ => hnever k) 0
    rwa [Nat.add_zero] at hrun
  have hlength := congrArg (·.1.length) (hsame (n + 1) (Nat.le_succ n))
  simp only [hkilled, length_waitingTrace] at hlength
  omega

/-- **Waiting** ends exactly when in some turn the flag is set or the poll is decided. -/
theorem wait_ends_iff (x : Executor) (step : ClaimedStep) (answers : Answers) :
    x.Ends step answers ↔ ∃ n, x.LeavesAt step answers n := by
  classical
  refine ⟨exists_leaves_of_ends, fun h => ?_⟩
  have hlast := Nat.find_spec h
  have hwaits : ∀ k < Nat.find h, ¬x.LeavesAt step answers k := fun k hk => Nat.find_min h hk
  refine ⟨Nat.find h + 1, fun m hm => ?_⟩
  obtain ⟨extra, rfl⟩ := Nat.exists_eq_add_of_le hm
  rw [Nat.add_assoc, Nat.add_comm 1 extra, respond_waiting hwaits, respond_waiting hwaits,
    respond_of_leaves hlast]

/-- The poll of a step that is over: it has failed, or the control plane refuses the poll for
good. -/
def PollSettled : Except HttpError PollAction → Prop
  | .ok .fail => True
  | .error (.status code _) => 400 ≤ code ∧ code < 500
  | _ => False

/-- From some number of calls on, every poll is one of a step that is over. -/
def Terminal (x : Executor) (step : ClaimedStep) (answers : Answers) : Prop :=
  ∃ n, ∀ seen : List CallEvent, n ≤ seen.length → PollSettled (answers seen (x.pollCall step))

/-- The environment that sets no flag and refuses every poll. -/
def refusing : Answers := fun _ c =>
  match c with
  | .approvalStatus .. => .error (.status 409 "Step is not in waiting_for_approval state.")
  | c => c.succeed

/-- Refused polls keep the runner waiting. -/
theorem refused_polls_wait :
    ¬∀ (x : Executor) (step : ClaimedStep) (answers : Answers), x.Terminal step answers →
      x.Ends step answers := by
  intro h
  let step : ClaimedStep :=
    { id := 0, position := 0, stepKey := "", name := "", stepType := "manual_task"
      riskLevel := "low", status := .waitingForApproval }
  let x : Executor :=
    { env := .sample, host := .sample, settings := none, execution := { id := 0, steps := [step] }
      claimToken := "", polls := 0 }
  obtain ⟨n, hflag | hpoll⟩ := exists_leaves_of_ends
    (h x step refusing ⟨0, fun _ _ => ⟨by decide, by decide⟩⟩)
  · cases hflag
  · exact hpoll

end Executor

end RunbookPlatform
