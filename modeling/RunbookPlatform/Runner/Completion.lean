import RunbookPlatform.Executions.Payload
import RunbookPlatform.Runner.Order

/-!
# Reporting the completion

Whatever the control plane answers, and whatever fails on the host, a runner that is not killed
reports the completion of its execution once, as one of the last things it does, and it reports a
success only when every step was passed.

## Main definitions

- `Call.Completes` — the call reports the completion of the execution
- `Executor.Reported` — the one report of a run, and what it says

## Main results

- `Executor.passed_runSteps` — the loop succeeds when every step was passed
- `Executor.completes_once` — every run reports the completion once, unless it is killed
-/

namespace RunbookPlatform

open Interaction Interaction.Comp

/-- The call reports the completion of the execution. -/
def Call.Completes : Call → Prop
  | completeExecution .. => True
  | _ => False

/-- The calls after the report. -/
def Call.IsNotice : Call → Prop
  | executionFinished .. | utcnow => True
  | _ => False

theorem Call.IsOwn.not_completes {step : ClaimedStep} {c : Call} (h : c.IsOwn step) :
    ¬c.Completes := by
  cases c <;> first | exact id | exact h.elim

theorem Call.IsNotice.not_completes {c : Call} (h : c.IsNotice) : ¬c.Completes := by
  cases c <;> first | exact id | exact h.elim

namespace Executor

variable {x : Executor} {step : ClaimedStep}

-- ════════════════════════════════════════════════════════════════════════
-- The loop
-- ════════════════════════════════════════════════════════════════════════

/-- **A step** does not report the completion. -/
theorem silent_runStep : (x.runStep step).Always fun c => ¬c.Completes := by
  have hcommand : (x.executeCommand step).Always fun c => ¬c.Completes :=
    own_executeCommand.mono fun _ h => h.not_completes
  have hwait (n : ℕ) : (x.waitForApproval step n).Always fun c => ¬c.Completes := by
    induction n with
    | zero => exact .fail
    | succ n ih =>
      refine .bind (.request id) fun _ => .ite .pure (.bind ?_ fun answer => ?_)
      · exact always_catchHttp (.bind (.bind (.request id) always_raiseHttp) fun _ => .pure)
          fun _ => .pure
      match answer with
      | none | some .wait => exact ih
      | some .run => exact hcommand
      | some .fail => exact .pure
  refine .bind ?_ fun answer => ?_
  · exact always_catchHttp (.bind (.bind (.request id) always_raiseHttp) fun _ => .pure)
      fun _ => .pure
  match answer with
  | some .run => exact hcommand
  | some .waitForApproval => exact hwait _
  | none | some .blocked => exact .pure

theorem silent_runSteps (steps : List ClaimedStep) :
    (x.runSteps steps).Always fun c => ¬c.Completes := by
  induction steps with
  | nil => exact .pure
  | cons step steps ih =>
    refine .bind (.request id) fun _ => .ite .pure ?_
    split
    · exact ih
    · exact ih
    · exact .pure
    · exact .bind silent_runStep fun _ => .ite .pure ih

/-- **The loop** ends with a success only when every step was passed, and with a cancellation only
when one was requested. -/
theorem passed_runSteps {steps : List ClaimedStep} {t : List CallEvent} {outcome : FinalStatus}
    (hrun : (x.runSteps steps).Runs t (.ok outcome)) :
    (outcome = .succeeded → ∀ step ∈ steps, x.Passed step t) ∧
      (outcome = .cancelled → (⟨.isCancelled, true⟩ : CallEvent) ∈ t) := by
  induction steps generalizing t with
  | nil =>
    obtain ⟨-, heq⟩ := runs_pure.1 hrun
    obtain rfl : outcome = .succeeded := Except.ok.inj heq
    refine ⟨fun _ step hstep => ?_, fun h => FinalStatus.noConfusion h⟩
    cases hstep
  | cons step steps ih =>
    obtain ⟨cancelled, t, rfl, hnext⟩ := runs_request_bind.1 hrun
    clear hrun
    -- What the rest of the loop says holds with the calls before it.
    have hrest : ∀ (t₁ : List CallEvent) {t₂ : List CallEvent},
        x.Passed step (⟨.isCancelled, cancelled⟩ :: t₁) →
        (x.runSteps steps).Runs t₂ (.ok outcome) →
        (outcome = .succeeded → ∀ other ∈ step :: steps,
          x.Passed other (⟨.isCancelled, cancelled⟩ :: (t₁ ++ t₂))) ∧
        (outcome = .cancelled →
          (⟨.isCancelled, true⟩ : CallEvent) ∈ ⟨.isCancelled, cancelled⟩ :: (t₁ ++ t₂)) := by
      intro t₁ t₂ hpassed hloop
      obtain ⟨hsucceeded, hcancelled⟩ := ih hloop
      refine ⟨fun houtcome other hother => ?_, fun houtcome => ?_⟩
      · obtain rfl | hother := List.mem_cons.1 hother
        · exact hpassed.append t₂
        · obtain h | h | ⟨update, hstatus, hmem⟩ := hsucceeded houtcome other hother
          · exact .inl h
          · exact .inr (.inl h)
          · exact .inr (.inr ⟨update, hstatus,
              List.mem_cons_of_mem _ (List.mem_append_right _ hmem)⟩)
      · exact List.mem_cons_of_mem _ (List.mem_append_right _ (hcancelled houtcome))
    cases cancelled with
    | true =>
      obtain ⟨rfl, heq⟩ := runs_pure.1 hnext
      obtain rfl : outcome = .cancelled := Except.ok.inj heq
      exact ⟨fun h => FinalStatus.noConfusion h, fun _ => List.mem_cons_self⟩
    | false =>
      have hfailed : ∀ {t' : List CallEvent},
          (pure .failed : Task FinalStatus).Runs t' (.ok outcome) →
          (outcome = .succeeded → ∀ other ∈ step :: steps,
            x.Passed other (⟨.isCancelled, false⟩ :: t)) ∧
          (outcome = .cancelled →
            (⟨.isCancelled, true⟩ : CallEvent) ∈ (⟨.isCancelled, false⟩ : CallEvent) :: t) := by
        intro t' hpure
        obtain ⟨-, heq⟩ := runs_pure.1 hpure
        obtain rfl : outcome = .failed := Except.ok.inj heq
        exact ⟨fun h => FinalStatus.noConfusion h, fun h => FinalStatus.noConfusion h⟩
      rw [if_neg Bool.false_ne_true] at hnext
      split at hnext
      · rename_i hstatus
        exact hrest [] (.inl hstatus) hnext
      · rename_i hstatus
        exact hrest [] (.inr (.inl hstatus)) hnext
      · exact hfailed hnext
      · obtain ⟨e, heq, -⟩ | ⟨failed, t₁, t₂, rfl, hstep, hloop⟩ := runs_bind.1 hnext
        · cases heq
        cases failed with
        | true =>
          rw [if_pos rfl] at hloop
          exact hfailed hloop
        | false =>
          rw [if_neg Bool.false_ne_true] at hloop
          obtain ⟨update, hstatus, hmem⟩ := acknowledges_runStep t₁ hstep
          exact hrest t₁ (.inr (.inr ⟨update, hstatus, List.mem_cons_of_mem _ hmem⟩)) hloop

-- ════════════════════════════════════════════════════════════════════════
-- The report
-- ════════════════════════════════════════════════════════════════════════

/-- The run has one report, with `status`: before it and after it there is none, after it only
notices follow, a success says that every step was passed before it, and a cancellation that one was
requested before it. -/
structure Reported (x : Executor) (status : FinalStatus) (before after : List CallEvent) :
    Prop where
  none_before : ∀ event ∈ before, ¬event.1.Completes
  notices : ∀ event ∈ after, event.1.IsNotice
  succeeded : status = .succeeded → ∀ step ∈ x.execution.steps, x.Passed step before
  cancelled : status = .cancelled → (⟨.isCancelled, true⟩ : CallEvent) ∈ before

/-- The report of the status, and its answer. -/
def report (x : Executor) (status : FinalStatus) (errorMessage : String)
    (answer : Except HttpError Unit) : CallEvent :=
  ⟨.completeExecution x.execution.id x.claimToken status errorMessage, answer⟩

/-- A request is answered, so only its failure can be raised. -/
theorem runs_ask {ask : Task (Except HttpError Unit)} {t : List CallEvent} {r : Except Exn Unit}
    (hask : ∀ t e, ¬ask.Runs t (.error e)) (h : (ask >>= raiseHttp).Runs t r) :
    (∃ answer, ask.Runs t (.ok answer)) ∧ ∀ e, r = .error e → ∃ error, e = .http error := by
  obtain ⟨e, rfl, hfails⟩ | ⟨answer, t₁, t₂, rfl, hanswer, hraise⟩ := runs_bind.1 h
  · exact absurd hfails (hask t e)
  cases answer with
  | ok u =>
    obtain ⟨rfl, rfl⟩ := runs_pure.1 hraise
    rw [List.append_nil]
    exact ⟨⟨.ok u, hanswer⟩, fun e he => by cases he⟩
  | error error =>
    obtain ⟨rfl, rfl⟩ := runs_fail.1 hraise
    rw [List.append_nil]
    exact ⟨⟨.error error, hanswer⟩, fun e he => ⟨error, (Except.error.inj he).symm⟩⟩

/-- A request whose failure is only logged: it is answered, and nothing is raised. -/
theorem runs_logged {ask : Task (Except HttpError Unit)} {t : List CallEvent} {r : Except Exn Unit}
    (hask : ∀ t e, ¬ask.Runs t (.error e))
    (h : (catchHttp (ask >>= raiseHttp) fun _ => pure ()).Runs t r) :
    r = .ok () ∧ ∃ answer, ask.Runs t (.ok answer) := by
  obtain ⟨u, rfl, hdone⟩ | ⟨e, t₁, t₂, rfl, hraised, hhandler⟩ := runs_tryCatch.1 h
  · exact ⟨rfl, (runs_ask hask hdone).1⟩
  · obtain ⟨hanswer, hhttp⟩ := runs_ask hask hraised
    obtain ⟨error, rfl⟩ := hhttp e rfl
    obtain ⟨rfl, rfl⟩ := runs_pure.1 hhandler
    rw [List.append_nil]
    exact ⟨rfl, hanswer⟩

theorem runs_completeExecution {status : FinalStatus} {text : String} {t : List CallEvent}
    {r : Except Exn Unit} (h : (x.completeExecution status text).Runs t r) :
    r = .ok () ∧ ∃ answer, t = [x.report status text answer] := by
  have hask : ∀ (t : List CallEvent) (e : Exn), ¬(Comp.request
      (Call.completeExecution x.execution.id x.claimToken status text) :
        Task (Except HttpError Unit)).Runs t (.error e) := by
    rintro t e ⟨answer, t', -, hdone⟩
    cases hdone.2
  obtain ⟨rfl, answer, hanswer⟩ := runs_logged hask h
  obtain ⟨a, rfl, -⟩ := runs_request.1 hanswer
  exact ⟨rfl, a, rfl⟩

/-- The notice of the end never fails. -/
theorem runs_notifyExecutionFinished {t : List CallEvent} {r : Except Exn Unit}
    (h : x.notifyExecutionFinished.Runs t r) :
    r = .ok () ∧ ∀ event ∈ t, event.1.IsNotice := by
  rw [notifyExecutionFinished] at h
  split at h
  · obtain ⟨rfl, rfl⟩ := runs_pure.1 h
    exact ⟨rfl, List.forall_mem_nil _⟩
  · rename_i change _
    obtain ⟨now, t, rfl, hlogged⟩ := runs_request_bind.1 h
    have hask : ∀ (t : List CallEvent) (e : Exn), ¬(Comp.request
        (Call.executionFinished change.changeRecordId x.execution.id now) :
          Task (Except HttpError Unit)).Runs t (.error e) := by
      rintro t e ⟨answer, t', -, hdone⟩
      cases hdone.2
    obtain ⟨rfl, answer, hanswer⟩ := runs_logged hask hlogged
    obtain ⟨a, rfl, -⟩ := runs_request.1 hanswer
    refine ⟨rfl, fun event hevent => ?_⟩
    obtain rfl | hevent := List.mem_cons.1 hevent
    · trivial
    · obtain rfl := List.mem_singleton.1 hevent
      trivial

/-- **The outcome** of the loop: it is raised only when the runner is killed. -/
theorem runs_outcome {t : List CallEvent} {r : Except Exn FinalStatus}
    (h : x.outcome.Runs t r) :
    (∀ event ∈ t, ¬event.1.Completes) ∧ (r = .error .killed ∨ ∃ status, r = .ok status ∧
      (status = .succeeded → ∀ step ∈ x.execution.steps, x.Passed step t) ∧
      (status = .cancelled → (⟨.isCancelled, true⟩ : CallEvent) ∈ t)) := by
  have hsilent : x.outcome.Always fun c => ¬c.Completes := by
    refine .tryCatch (.bind (silent_runSteps x.steps) fun outcome => ?_) fun e => ?_
    · exact .ite (.bind (.request id) fun _ => .ite .pure .pure) .pure
    · cases e <;> first | exact .pure | exact .fail
  refine ⟨hsilent t r h, ?_⟩
  obtain ⟨status, rfl, hends⟩ | ⟨e, t₁, t₂, rfl, -, hhandler⟩ := runs_tryCatch.1 h
  · right
    refine ⟨status, rfl, ?_⟩
    obtain ⟨e, heq, -⟩ | ⟨outcome, t₁, t₂, rfl, hloop, hend⟩ := runs_bind.1 hends
    · cases heq
    obtain ⟨hsucceeded, hcancelled⟩ := passed_runSteps hloop
    by_cases hfailed : outcome = .failed
    · -- A failure is reported as a cancellation when one was requested.
      rw [if_pos hfailed] at hend
      obtain ⟨cancelled, t₃, rfl, hanswered⟩ := runs_request_bind.1 hend
      cases cancelled with
      | true =>
        obtain ⟨-, heq⟩ := runs_pure.1 hanswered
        obtain rfl : status = .cancelled := Except.ok.inj heq
        exact ⟨fun h => FinalStatus.noConfusion h,
          fun _ => List.mem_append_right _ List.mem_cons_self⟩
      | false =>
        obtain ⟨-, heq⟩ := runs_pure.1 hanswered
        obtain rfl : status = .failed := Except.ok.inj heq
        exact ⟨fun h => FinalStatus.noConfusion h, fun h => FinalStatus.noConfusion h⟩
    · rw [if_neg hfailed] at hend
      obtain ⟨rfl, heq⟩ := runs_pure.1 hend
      obtain rfl : status = outcome := Except.ok.inj heq
      rw [List.append_nil]
      refine ⟨fun h step hstep => hsucceeded h step ?_, hcancelled⟩
      exact (List.mem_insertionSort _).2 hstep
  · cases e with
    | killed =>
      obtain ⟨-, rfl⟩ := runs_fail.1 hhandler
      exact .inl rfl
    | _ =>
      obtain ⟨-, rfl⟩ := runs_pure.1 hhandler
      exact .inr ⟨.failed, rfl, fun h => FinalStatus.noConfusion h,
        fun h => FinalStatus.noConfusion h⟩

/-- The run from the loop on. -/
theorem runs_runLoop {t : List CallEvent} {r : Except Exn Unit} (hrun : x.runLoop.Runs t r) :
    (r = .error .killed ∧ ∀ event ∈ t, ¬event.1.Completes) ∨
      r = .ok () ∧ ∃ status text answer before after,
        t = before ++ x.report status text answer :: after ∧ x.Reported status before after := by
  obtain ⟨e, rfl, houtcome⟩ | ⟨status, before, t₂, rfl, houtcome, hrest⟩ := runs_bind.1 hrun
  · obtain ⟨hsilent, hkilled | ⟨status, heq, -⟩⟩ := runs_outcome houtcome
    · obtain rfl : e = .killed := Except.error.inj hkilled
      exact .inl ⟨rfl, hsilent⟩
    · cases heq
  obtain ⟨hsilent, hkilled | ⟨status', heq, hsucceeded, hcancelled⟩⟩ := runs_outcome houtcome
  · cases hkilled
  obtain rfl : status = status' := Except.ok.inj heq
  obtain ⟨e, rfl, hcomplete⟩ | ⟨u, t₃, after, rfl, hcomplete, hfinished⟩ := runs_bind.1 hrest
  · obtain ⟨heq, -⟩ := runs_completeExecution hcomplete
    cases heq
  obtain ⟨-, answer, rfl⟩ := runs_completeExecution hcomplete
  obtain ⟨rfl, hnotices⟩ := runs_notifyExecutionFinished hfinished
  exact .inr ⟨rfl, status, "", answer, before, after, rfl, hsilent, hnotices, hsucceeded,
    hcancelled⟩

/-- Calls before the loop report nothing, so the report of the run is that of the loop. -/
theorem reported_after {first t : List CallEvent} {r : Except Exn Unit}
    (hfirst : ∀ event ∈ first, ¬event.1.Completes)
    (h : (r = .error .killed ∧ ∀ event ∈ t, ¬event.1.Completes) ∨
      r = .ok () ∧ ∃ status text answer before after,
        t = before ++ x.report status text answer :: after ∧ x.Reported status before after) :
    (r = .error .killed ∧ ∀ event ∈ first ++ t, ¬event.1.Completes) ∨
      r = .ok () ∧ ∃ status text answer before after,
        first ++ t = before ++ x.report status text answer :: after ∧
          x.Reported status before after := by
  obtain ⟨hkilled, hsilent⟩ | ⟨hok, status, text, answer, before, after, rfl, hreported⟩ := h
  · refine .inl ⟨hkilled, fun event hevent => ?_⟩
    exact (List.mem_append.1 hevent).elim (hfirst event) (hsilent event)
  · refine .inr ⟨hok, status, text, answer, first ++ before, after, (List.append_assoc ..).symm,
      ⟨fun event hevent => ?_, hreported.notices, fun hstatus step hstep => ?_, fun hstatus => ?_⟩⟩
    · exact (List.mem_append.1 hevent).elim (hfirst event) (hreported.none_before event)
    · obtain h | h | ⟨update, hupdate, hmem⟩ := hreported.succeeded hstatus step hstep
      · exact .inl h
      · exact .inr (.inl h)
      · exact .inr (.inr ⟨update, hupdate, List.mem_append_right _ hmem⟩)
    · exact List.mem_append_right _ (hreported.cancelled hstatus)

/-- The binding is answered by a `bool`. -/
theorem runs_bindChangeExecution {change : ChangeFields} {t : List CallEvent}
    {r : Except Exn Bool} (h : (x.bindChangeExecution change).Runs t r) :
    (∃ bound, r = .ok bound) ∧ ∀ event ∈ t, ¬event.1.Completes := by
  have hsilent : (x.bindChangeExecution change).Always fun c => ¬c.Completes :=
    always_catchHttp (.bind (.bind (.request id) always_raiseHttp) fun _ => .pure) fun _ => .pure
  refine ⟨?_, hsilent t r h⟩
  have hask : ∀ (t : List CallEvent) (e : Exn), ¬(Comp.request
      (Call.bindChangeExecution x.execution.id x.claimToken change) :
        Task (Except HttpError Unit)).Runs t (.error e) := by
    rintro t e ⟨answer, t', -, hdone⟩
    cases hdone.2
  obtain ⟨bound, rfl, -⟩ | ⟨e, t₁, t₂, rfl, hraised, hhandler⟩ := runs_tryCatch.1 h
  · exact ⟨bound, rfl⟩
  · obtain ⟨e', he, hfails⟩ | ⟨u, t₃, t₄, rfl, -, hdone⟩ := runs_bind.1 hraised
    · obtain ⟨error, rfl⟩ := (runs_ask hask hfails).2 e' rfl
      obtain rfl : e = .http error := Except.error.inj he
      exact ⟨false, (runs_pure.1 hhandler).2⟩
    · cases (runs_pure.1 hdone).2

theorem runs_notifyExecutionStarted {change : ChangeFields} {t : List CallEvent}
    {r : Except Exn Unit} (h : (x.notifyExecutionStarted change).Runs t r) :
    r = .ok () ∧ ∀ event ∈ t, ¬event.1.Completes := by
  have hsilent : (x.notifyExecutionStarted change).Always fun c => ¬c.Completes :=
    .bind (.request id) fun _ => always_catchHttp (.bind (.request id) always_raiseHttp)
      fun _ => .pure
  refine ⟨?_, hsilent t r h⟩
  obtain ⟨now, t, rfl, hlogged⟩ := runs_request_bind.1 h
  refine (runs_logged ?_ hlogged).1
  rintro t e ⟨answer, t', -, hdone⟩
  cases hdone.2

theorem runs_observeBreakglass {change : ChangeFields} {t : List CallEvent}
    {r : Except Exn Unit} (h : (x.observeBreakglass change).Runs t r) :
    r = .ok () ∧ ∀ event ∈ t, ¬event.1.Completes := by
  rw [observeBreakglass] at h
  split at h
  · obtain ⟨rfl, rfl⟩ := runs_pure.1 h
    exact ⟨rfl, List.forall_mem_nil _⟩
  · obtain ⟨answer, t, rfl, hdone⟩ := runs_request_bind.1 h
    obtain ⟨rfl, rfl⟩ := runs_pure.1 hdone
    refine ⟨rfl, fun event hevent => ?_⟩
    obtain rfl := List.mem_singleton.1 hevent
    exact id

/-- **One report**: every run of a runner that is not killed reports the completion exactly once,
and honestly. -/
theorem completes_once {t : List CallEvent} {r : Except Exn Unit} (hrun : x.run.Runs t r) :
    (r = .error .killed ∧ ∀ event ∈ t, ¬event.1.Completes) ∨
      r = .ok () ∧ ∃ status text answer before after,
        t = before ++ x.report status text answer :: after ∧ x.Reported status before after := by
  rw [run] at hrun
  split at hrun
  · exact runs_runLoop hrun
  · obtain ⟨e, rfl, hraised⟩ | ⟨bound, t₁, t₂, rfl, hbind, hrest⟩ := runs_bind.1 hrun
    · obtain ⟨⟨bound, heq⟩, -⟩ := runs_bindChangeExecution hraised
      cases heq
    obtain ⟨-, hsilent⟩ := runs_bindChangeExecution hbind
    cases bound with
    | false =>
      -- The binding failed, so the failure is the whole report.
      rw [if_neg Bool.false_ne_true] at hrest
      obtain ⟨rfl, answer, rfl⟩ := runs_completeExecution hrest
      exact .inr ⟨rfl, .failed, _, answer, t₁, [], rfl, hsilent, List.forall_mem_nil _,
        fun h => FinalStatus.noConfusion h, fun h => FinalStatus.noConfusion h⟩
    | true =>
      rw [if_pos rfl] at hrest
      obtain ⟨e, rfl, hraised⟩ | ⟨u, t₃, t₄, rfl, hstarted, hobserve⟩ := runs_bind.1 hrest
      · cases (runs_notifyExecutionStarted hraised).1
      obtain ⟨e, rfl, hraised⟩ | ⟨u, t₅, t₆, rfl, hobserved, hloop⟩ := runs_bind.1 hobserve
      · cases (runs_observeBreakglass hraised).1
      refine reported_after hsilent (reported_after (runs_notifyExecutionStarted hstarted).2 ?_)
      exact reported_after (runs_observeBreakglass hobserved).2 (runs_runLoop hloop)

/-- An execution of a change, without steps. -/
def idle : Executor := .sample ⟨0, [], "live", some ⟨0, "token", "", ""⟩, [], none⟩

/-- The report of a run in which everything succeeds. -/
theorem completes_once_idle :
    ((idle.run.play Call.succeed).2 = .error .killed ∧
      ∀ event ∈ (idle.run.play Call.succeed).1, ¬event.1.Completes) ∨
    (idle.run.play Call.succeed).2 = .ok () ∧ ∃ status text answer before after,
      (idle.run.play Call.succeed).1 = before ++ idle.report status text answer :: after ∧
        idle.Reported status before after :=
  completes_once (play_runs Call.succeed idle.run)

end Executor

end RunbookPlatform
