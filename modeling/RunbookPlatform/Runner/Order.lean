import RunbookPlatform.Runner.Effects

/-!
# The order of the loop

The runner asks for a step when every step at a smaller position was passed: the claim gave
it as succeeded or skipped, or its success was acknowledged.

## Main definitions

- `Call.Asks` — the call asks the control plane to let a step run
- `Executor.Passed` — the step was passed, as far as the runner was told
- `Executor.InOrder` — what is asked for comes after steps that were passed

## Main results

- `Executor.acknowledges_runStep` — a step that does not fail was acknowledged as succeeded
- `Executor.asks_in_order` — every run asks for its steps in order
-/

namespace RunbookPlatform

open Interaction Interaction.Comp

/-- The call asks the control plane to let the step of the execution run. -/
def Call.Asks (execution step : ℕ) : Call → Prop
  | startStep e i _ | approvalStatus e i _ => e = execution ∧ i = step
  | _ => False

theorem Call.IsOwn.not_asks {step : ClaimedStep} {c : Call} (h : c.IsOwn step) {e i : ℕ} :
    ¬c.Asks e i := by
  cases c <;> first | exact id | exact h.elim

theorem Call.IsFrame.not_asks {c : Call} (h : c.IsFrame) {e i : ℕ} : ¬c.Asks e i := by
  cases c <;> first | exact id | exact h.elim

-- ════════════════════════════════════════════════════════════════════════
-- Results of handlers
-- ════════════════════════════════════════════════════════════════════════

/-- The status of a step that has run. -/
def StepStatus.IsResult (status : StepStatus) : Prop := status = .succeeded ∨ status = .failed

section

variable {env : Env} {host : Host}

theorem result_shellCommand_resultOf (timeoutSeconds : ℤ) (result : Sandbox.Result) :
    (ShellCommand.resultOf env timeoutSeconds result).status.IsResult := by
  rw [ShellCommand.resultOf]
  split_ifs
  all_goals first
    | exact .inr rfl
    | skip
  split
  · split_ifs
    · exact .inr rfl
    · exact .inl rfl
  · exact .inl rfl

theorem result_shellCommand (ctx : ActionContext) :
    (ShellCommand.execute env host ctx).Returns (·.status.IsResult) := by
  rw [ShellCommand.execute]
  split
  · exact .pure (.inr rfl)
  refine .ite (.pure (.inr rfl)) (.ite (.pure (.inl rfl)) (.bind fun path => ?_))
  split
  · exact .pure (.inr rfl)
  · exact .pure (.inr rfl)
  · exact .fail
  refine .bind fun _ => ?_
  split
  · exact .pure (.inr rfl)
  · exact .fail
  refine .bind fun answer => ?_
  cases answer with
  | error text => exact .bind fun _ => .pure (.inr rfl)
  | ok result =>
    refine .bind fun _ => .bind fun _ => .bind fun _ => ?_
    exact .ite (.bind fun _ => .pure (result_shellCommand_resultOf _ _))
      (.pure (result_shellCommand_resultOf _ _))

theorem result_httpRequest (ctx : ActionContext) :
    (HttpRequest.execute env host ctx).Returns (·.status.IsResult) := by
  refine .ite (.pure (.inl rfl)) (.bind fun _ => .ite (.pure (.inr rfl)) (.bind fun answer => ?_))
  rw [HttpRequest.resultOf.eq_def]
  split
  · simp only []
    split
    · exact .fail
    · exact .ite (.pure (.inl rfl)) (.pure (.inr rfl))
  · exact .pure (.inr rfl)
  · exact .pure (.inr rfl)
  · exact .fail

theorem result_artifactAssertion (ctx : ActionContext) :
    (ArtifactAssertion.execute env ctx).Returns (·.status.IsResult) := by
  rw [ArtifactAssertion.execute]
  split
  · exact .ite .fail (.pure (.inr rfl))
  · exact .ite (.pure (.inr rfl)) (.ite (.pure (.inr rfl)) (.pure (.inl rfl)))

/-- **Handlers** succeed or fail. -/
theorem ActionHandler.returns_result (handler : ActionHandler) (ctx : ActionContext) :
    (handler.execute env host ctx).Returns (·.status.IsResult) := by
  cases handler with
  | manualTask => exact .pure (.inl rfl)
  | approvalGate => exact .pure (.inl rfl)
  | shellCommand => exact result_shellCommand ctx
  | httpRequest => exact result_httpRequest ctx
  | artifactAssertion => exact result_artifactAssertion ctx

end

namespace Executor

variable {x : Executor} {step other : ClaimedStep} {seen t : List CallEvent}

-- ════════════════════════════════════════════════════════════════════════
-- Acknowledged successes
-- ════════════════════════════════════════════════════════════════════════

/-- The success of the step was acknowledged. -/
def Acknowledged (x : Executor) (step : ClaimedStep) (t : List CallEvent) : Prop :=
  ∃ update, update.status = .succeeded ∧
    (⟨.updateStep x.execution.id step.id x.claimToken update, .ok ()⟩ : CallEvent) ∈ t

/-- When the program says that the step has not failed, its success was acknowledged. -/
def Acknowledges (x : Executor) (step : ClaimedStep) (y : Task Bool) : Prop :=
  ∀ t, y.Runs t (.ok false) → x.Acknowledged step t

theorem Acknowledges.bind {α : Type} {y : Task α} {f : α → Task Bool}
    (hf : ∀ a t, y.Runs t (.ok a) → x.Acknowledges step (f a)) :
    x.Acknowledges step (y >>= f) := by
  intro t hrun
  rcases runs_bind.1 hrun with ⟨e, heq, -⟩ | ⟨a, t₁, t₂, rfl, h₁, h₂⟩
  · cases heq
  · obtain ⟨update, hstatus, hmem⟩ := hf a t₁ h₁ t₂ h₂
    exact ⟨update, hstatus, List.mem_append_right _ hmem⟩

theorem Acknowledges.of_fails {y : Task Bool} (h : y.Returns (· = true)) : x.Acknowledges step y :=
  fun t hrun => Bool.noConfusion (h t false hrun)

theorem Acknowledges.ite {p : Prop} [Decidable p] {y z : Task Bool} (hy : x.Acknowledges step y)
    (hz : x.Acknowledges step z) : x.Acknowledges step (if p then y else z) := by
  split
  · exact hy
  · exact hz

theorem acknowledges_failStep (errorMessage failureKind : String) :
    x.Acknowledges step (x.failStep step errorMessage failureKind) :=
  .of_fails (.bind fun _ => .pure rfl)

/-- **A report** of a success that does not fail is acknowledged. -/
theorem acknowledges_reportStep {update : StepUpdateRequest} (hstatus : update.status.IsResult)
    (facts : Task Unit) : x.Acknowledges step (x.reportStep step update facts) := by
  intro t hrun
  rcases runs_reportStep.1 hrun with ⟨e, -, heq⟩ | ⟨t', rfl, hfacts⟩
  · cases heq
  · refine ⟨update, hstatus.resolve_right fun hfailed => ?_, List.mem_cons_self⟩
    have hreturns : (facts >>= fun _ => (pure (decide (update.status = .failed)) : Task Bool)).Returns
        (· = true) := .bind fun _ => .pure (decide_eq_true hfailed)
    exact Bool.noConfusion (hreturns _ _ hfacts)

theorem acknowledges_executeActionV2 (snapshot : ActionSnapshot) :
    x.Acknowledges step (x.executeActionV2 step snapshot) := by
  refine .bind fun prepared _ _ => ?_
  cases prepared with
  | error refusal => exact acknowledges_failStep _ _
  | ok handler =>
    exact .bind fun _ _ _ => .bind fun result t hrun => .bind fun _ _ _ =>
      acknowledges_reportStep (handler.returns_result _ t result hrun) _

theorem acknowledges_executeSimulated : x.Acknowledges step (x.executeSimulated step) := by
  refine .bind fun _ _ _ => .ite ?_ ?_
  · exact .bind fun _ _ _ => .bind fun _ _ _ => acknowledges_reportStep (.inr rfl) _
  · exact .bind fun _ _ _ => .bind fun _ _ _ => acknowledges_reportStep (.inl rfl) _

theorem acknowledges_reportSandboxed (settings : RunnerSettings) (spec : Sandbox.ExecutionSpec)
    (result : Sandbox.Result) :
    x.Acknowledges step (x.reportSandboxed settings step spec result) := by
  rw [reportSandboxed]
  obtain ⟨failed, errorMessage, failureKind⟩ :=
    x.sandboxOutcome spec.limits.timeoutSeconds result
  have hstatus : StepStatus.IsResult (if failed then .failed else .succeeded) := by
    cases failed
    · exact .inl rfl
    · exact .inr rfl
  exact .bind fun _ _ _ => .bind fun _ _ _ =>
    .ite (.bind fun _ _ _ => acknowledges_reportStep hstatus _) (acknowledges_reportStep hstatus _)

theorem acknowledges_executeSandboxed (settings : RunnerSettings) :
    x.Acknowledges step (x.executeSandboxed settings step) := by
  refine .ite (acknowledges_failStep _ _) (.bind fun root _ _ => .bind fun _ _ _ => ?_)
  split
  · exact acknowledges_failStep _ _
  · exact .of_fails .fail
  refine .bind fun answer _ _ => ?_
  cases answer with
  | error text =>
    refine .of_fails (.bind_of fun failed t hrun => .bind fun _ => .pure ?_)
    obtain ⟨_, -, heq⟩ := runs_failStep.1 hrun
    exact Except.ok.inj heq
  | ok result => exact acknowledges_reportSandboxed _ _ _

/-- **A step that may run** and does not fail was acknowledged as succeeded. -/
theorem acknowledges_executeCommand : x.Acknowledges step (x.executeCommand step) := by
  rw [executeCommand]
  split
  · exact acknowledges_executeActionV2 _
  · exact .ite (acknowledges_executeSandboxed _) acknowledges_executeSimulated
  · exact acknowledges_executeSimulated

theorem acknowledges_runStep : x.Acknowledges step (x.runStep step) := by
  have hwait (n : ℕ) : x.Acknowledges step (x.waitForApproval step n) := by
    induction n with
    | zero => exact .of_fails .fail
    | succ n ih =>
      refine .bind fun _ _ _ => .ite (.of_fails (.pure rfl)) (.bind fun answer _ _ => ?_)
      match answer with
      | none | some .wait => exact ih
      | some .run => exact acknowledges_executeCommand
      | some .fail => exact .of_fails (.pure rfl)
  refine .bind fun answer _ _ => ?_
  match answer with
  | some .run => exact acknowledges_executeCommand
  | some .waitForApproval => exact hwait _
  | none | some .blocked => exact .of_fails (.pure rfl)

-- ════════════════════════════════════════════════════════════════════════
-- The order of the calls
-- ════════════════════════════════════════════════════════════════════════

/-- The step was passed, as far as the runner was told. -/
def Passed (x : Executor) (step : ClaimedStep) (seen : List CallEvent) : Prop :=
  step.status = .succeeded ∨ step.status = .skipped ∨ x.Acknowledged step seen

theorem Passed.append (h : x.Passed step seen) (t : List CallEvent) : x.Passed step (seen ++ t) := by
  rcases h with h | h | ⟨update, hstatus, hmem⟩
  · exact .inl h
  · exact .inr (.inl h)
  · exact .inr (.inr ⟨update, hstatus, List.mem_append_left _ hmem⟩)

/-- What the call asks for is a step of the execution, and those at smaller positions were
passed. -/
def InOrder (x : Executor) (seen : List CallEvent) (c : Call) : Prop :=
  ∀ e i, c.Asks e i → x.execution.id = e ∧ ∃ step ∈ x.execution.steps, step.id = i ∧
    ∀ other ∈ x.execution.steps, other.position < step.position → x.Passed other seen

theorem inOrder_of_not_asks {c : Call} (h : ∀ e i, ¬c.Asks e i) : x.InOrder seen c :=
  fun e i hasks => absurd hasks (h e i)

theorem guards_executeCommand : Guards x.InOrder seen (x.executeCommand step) :=
  .of_always (fun _ _ h => inOrder_of_not_asks fun _ _ => Call.IsOwn.not_asks h) own_executeCommand

section

variable (hmem : step ∈ x.execution.steps)
  (hpassed : ∀ other ∈ x.execution.steps, other.position < step.position → x.Passed other seen)

include hmem hpassed

theorem inOrder_ask (c : Call) (h : ∀ e i, c.Asks e i → x.execution.id = e ∧ step.id = i)
    (t : List CallEvent) : x.InOrder (seen ++ t) c := by
  intro e i hasks
  obtain ⟨hexecution, hstep⟩ := h e i hasks
  exact ⟨hexecution, step, hmem, hstep, fun other hother hlt => (hpassed other hother hlt).append t⟩

theorem guards_waitForApproval (n : ℕ) (t : List CallEvent) :
    Guards x.InOrder (seen ++ t) (x.waitForApproval step n) := by
  induction n generalizing t with
  | zero => exact .fail
  | succ n ih =>
    refine .bind (.request (inOrder_of_not_asks fun _ _ => id)) fun _ t₁ _ => .ite .pure ?_
    rw [List.append_assoc]
    have hasks : x.InOrder (seen ++ (t ++ t₁))
        (.approvalStatus x.execution.id step.id x.claimToken) := by
      refine inOrder_ask hmem hpassed _ ?_ _
      exact fun e i h => h
    refine .bind ⟨hasks, fun answer => ?_⟩ fun answer t₂ _ => ?_
    · cases answer <;> trivial
    rw [List.append_assoc]
    match answer with
    | none | some .wait => exact ih _
    | some .run => exact guards_executeCommand
    | some .fail => exact .pure

/-- **A step** is asked for in order. -/
theorem guards_runStep (t : List CallEvent) : Guards x.InOrder (seen ++ t) (x.runStep step) := by
  have hasks : x.InOrder (seen ++ t) (.startStep x.execution.id step.id x.claimToken) := by
    refine inOrder_ask hmem hpassed _ ?_ _
    exact fun e i h => h
  refine .bind ⟨hasks, fun answer => ?_⟩ fun answer t₁ _ => ?_
  · cases answer <;> trivial
  rw [List.append_assoc]
  match answer with
  | some .run => exact guards_executeCommand
  | some .waitForApproval => exact guards_waitForApproval hmem hpassed _ _
  | none | some .blocked => exact .pure

end

/-- The steps at smaller positions are those before, in the order of the loop. -/
theorem mem_before {before after : List ClaimedStep} (hsteps : x.steps = before ++ step :: after)
    (hother : other ∈ x.execution.steps) (hlt : other.position < step.position) :
    other ∈ before := by
  have hmem : other ∈ x.steps := (List.mem_insertionSort _).2 hother
  have hsorted : x.steps.Pairwise fun a b => a.position ≤ b.position :=
    List.pairwise_insertionSort _ _
  rw [hsteps] at hmem hsorted
  rcases List.mem_append.1 hmem with hmem | hmem
  · exact hmem
  rcases List.mem_cons.1 hmem with rfl | hmem
  · omega
  · have hle := (List.pairwise_cons.1 (List.pairwise_append.1 hsorted).2.1).1 other hmem
    omega

/-- **The loop** asks for its steps in order, once those before were passed. -/
theorem guards_runSteps {before steps : List ClaimedStep} (hsteps : x.steps = before ++ steps)
    (hbefore : ∀ other ∈ before, x.Passed other seen) :
    Guards x.InOrder seen (x.runSteps steps) := by
  induction steps generalizing before seen with
  | nil => exact .pure
  | cons step steps ih =>
    have hmem : step ∈ x.execution.steps :=
      (List.mem_insertionSort _).1 (hsteps ▸ List.mem_append_right _ List.mem_cons_self)
    have hnext {t : List CallEvent} (h : x.Passed step (seen ++ t)) :
        Guards x.InOrder (seen ++ t) (x.runSteps steps) := by
      have hsteps' : x.steps = (before ++ [step]) ++ steps := by
        rw [hsteps, List.append_assoc]
        rfl
      refine ih hsteps' fun other hother => ?_
      rcases List.mem_append.1 hother with hother | hother
      · exact (hbefore other hother).append t
      · exact List.mem_singleton.1 hother ▸ h
    refine .bind (.request (inOrder_of_not_asks fun _ _ => id)) fun _ t _ => .ite .pure ?_
    split
    · rename_i hstatus
      exact hnext (.inl hstatus)
    · rename_i hstatus
      exact hnext (.inr (.inl hstatus))
    · exact .pure
    · refine .bind (guards_runStep hmem (fun other hother hlt =>
        hbefore other (mem_before hsteps hother hlt)) t) fun failed t₁ hrun => ?_
      cases failed with
      | true => exact .pure
      | false =>
        obtain ⟨update, hstatus, hacknowledged⟩ := acknowledges_runStep t₁ hrun
        rw [List.append_assoc]
        exact hnext (.inr (.inr ⟨update, hstatus,
          List.mem_append_right _ (List.mem_append_right _ hacknowledged)⟩))

/-- **Every run** asks for its steps in order. -/
theorem asks_in_order {before after : List CallEvent} {event : CallEvent} {r : Except Exn Unit}
    (hrun : x.run.Runs (before ++ event :: after) r) : x.InOrder before event.1 := by
  have hframe (seen : List CallEvent) (c : Call) (h : c.IsFrame) : x.InOrder seen c :=
    inOrder_of_not_asks fun _ _ => h.not_asks
  have hloop (seen : List CallEvent) : Guards x.InOrder seen (x.runSteps x.steps) := by
    have hbefore : ∀ other ∈ ([] : List ClaimedStep), x.Passed other seen :=
      List.forall_mem_nil _
    exact guards_runSteps (List.nil_append x.steps).symm hbefore
  exact x.run_wraps.guards hframe hloop hrun

end Executor

end RunbookPlatform
