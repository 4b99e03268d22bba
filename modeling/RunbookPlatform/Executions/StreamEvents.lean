import RunbookPlatform.Streams.Overwriting

/-!
# Stream events in the browser

The web client keeps an execution in its query cache and patches it with every event of the
execution stream. When the stream is reopened the server sends the events of its buffer again, so
the client sees the end of what it has seen a second time.

## Main definitions

- `ExecutionDetail`, `ExecutionStreamEvent` — the cached execution, and what the stream sends
- `applyStreamEvent` — the patch
- `executionStream` — the cells of an execution, and which of them an event writes
- `OnlyCarried` — a patch keeps what its event does not carry

## Main results

- `replay_harmless` — events that come again change nothing, and no event changes what it does
  not carry
- `messages_replay` — the same of the messages of the stream
-/

namespace RunbookPlatform.Web

-- ════════════════════════════════════════════════════════════════════════
-- Executions and events
-- ════════════════════════════════════════════════════════════════════════

/-- What `JSON.parse` returns, over the numbers `N`. -/
inductive JsValue (N : Type) where
  | null
  | boolean (b : Bool)
  | number (n : N)
  | string (s : String)
  | array (items : List (JsValue N))
  | object (fields : List (String × JsValue N))

/-- `Record<string, unknown>`. -/
abbrev JsRecord (N : Type) := List (String × JsValue N)

/-- `interface ExecutionStep`. -/
structure ExecutionStep (N : Type) where
  id : String
  position : N
  stepKey : String
  name : String
  stepType : String
  riskLevel : String
  command : Option (Option String)
  requiresApproval : Bool
  status : String
  startedAt : Option String
  finishedAt : Option String
  exitCode : Option N
  errorMessage : String
  policyEvaluation : Option (JsRecord N)
  failureKind : Option String
  timedOut : Bool
  cancelled : Bool
  sandboxProvider : Option String
  sandboxRunId : Option String
  resultMetadata : Option (JsRecord N)

/-- `interface ExecutionDetail`. -/
structure ExecutionDetail (N : Type) where
  id : String
  status : String
  workflowId : String
  organizationId : String
  workflowVersion : N
  workflowSnapshot : JsRecord N
  claimedByRunnerId : String
  claimTokenPresent : Bool
  claimedAt : Option String
  lastHeartbeatAt : Option String
  startedAt : Option String
  finishedAt : Option String
  createdAt : String
  updatedAt : String
  cancelRequestedAt : Option String
  cancelRequestedBy : Option String
  cancelReason : Option String
  steps : List (ExecutionStep N)

/-- `interface ExecutionStreamEvent`; the name is any text. -/
structure ExecutionStreamEvent (N : Type) where
  event : String
  data : JsRecord N

variable {N : Type}

/-- `readString`. -/
def readString (data : JsRecord N) (key : String) : Option String :=
  match data.lookup key with
  | some (.string value) => some value
  | _ => none

/-- `readNullableString`; the outer `none` is `undefined`, the inner one `null`. -/
def readNullableString (data : JsRecord N) (key : String) : Option (Option String) :=
  match data.lookup key with
  | some (.string value) => some (some value)
  | some .null => some none
  | _ => none

/-- `readNullableNumber`. -/
def readNullableNumber (data : JsRecord N) (key : String) : Option (Option N) :=
  match data.lookup key with
  | some (.number value) => some (some value)
  | some .null => some none
  | _ => none

/-- `value ?? kept` for a column that may be `null`: of `undefined` and `null` alike, `kept`. -/
def orKeep {α : Type} (value : Option (Option α)) (kept : Option α) : Option α :=
  match value with
  | some (some a) => some a
  | _ => kept

/-- `patchStep`. -/
def patchStep (step : ExecutionStep N) (data : JsRecord N) : ExecutionStep N :=
  { step with
    status := (readString data "status").getD step.status
    startedAt := orKeep (readNullableString data "started_at") step.startedAt
    finishedAt := orKeep (readNullableString data "finished_at") step.finishedAt
    exitCode := orKeep (readNullableNumber data "exit_code") step.exitCode
    errorMessage := (readString data "error_message").getD step.errorMessage }

/-- `applyStreamEvent` on an execution that is there. -/
def patchExecution (execution : ExecutionDetail N) (streamEvent : ExecutionStreamEvent N) :
    ExecutionDetail N :=
  if streamEvent.event = "execution.status_changed" then
    { execution with
      status := (readString streamEvent.data "status").getD execution.status
      startedAt := orKeep (readNullableString streamEvent.data "started_at") execution.startedAt
      finishedAt :=
        orKeep (readNullableString streamEvent.data "finished_at") execution.finishedAt }
  else if streamEvent.event = "step.status_changed" then
    let stepId := readString streamEvent.data "step_id"
    { execution with
      steps := execution.steps.map fun step =>
        if some step.id = stepId then patchStep step streamEvent.data else step }
  else if streamEvent.event = "stream.closed" then
    { execution with
      status := (readString streamEvent.data "final_status").getD execution.status }
  else execution

/-- `applyStreamEvent`. -/
def applyStreamEvent (execution : Option (ExecutionDetail N))
    (streamEvent : ExecutionStreamEvent N) : Option (ExecutionDetail N) :=
  match execution with
  | none => none
  | some execution => some (patchExecution execution streamEvent)

/-- `parseStreamEvent`, over `JSON.parse`. -/
def parseStreamEvent (parse : String → Option (JsValue N)) (event data : String) :
    Option (ExecutionStreamEvent N) :=
  if event = "" ∨ data = "" then none
  else
    match parse data with
    | some (.object fields) => some { event, data := fields }
    | _ => none

/-- What `onmessage` leaves in the query cache. -/
def onMessage (parse : String → Option (JsValue N)) (current : Option (ExecutionDetail N))
    (message : String × String) : Option (ExecutionDetail N) :=
  match parseStreamEvent parse message.1 message.2 with
  | none => current
  | some streamEvent => applyStreamEvent current streamEvent

-- ════════════════════════════════════════════════════════════════════════
-- Cells
-- ════════════════════════════════════════════════════════════════════════

/-- The columns of a step that events change. -/
inductive StepField where
  | status | startedAt | finishedAt | exitCode | errorMessage
  deriving DecidableEq

/-- The columns of an execution that events change; steps go by their place. -/
inductive Field where
  | status | startedAt | finishedAt
  | step (index : ℕ) (field : StepField)
  deriving DecidableEq

/-- What a column of a step holds. -/
@[reducible] def StepField.Value (N : Type) : StepField → Type
  | .status | .errorMessage => String
  | .startedAt | .finishedAt => Option String
  | .exitCode => Option N

/-- What a column holds; nothing at a place where no step is. -/
@[reducible] def Field.Value (N : Type) : Field → Type
  | .status => String
  | .startedAt | .finishedAt => Option String
  | .step _ field => Option (field.Value N)

/-- The column of a step. -/
def ExecutionStep.read (step : ExecutionStep N) : (field : StepField) → field.Value N
  | .status => step.status
  | .startedAt => step.startedAt
  | .finishedAt => step.finishedAt
  | .exitCode => step.exitCode
  | .errorMessage => step.errorMessage

/-- The column of an execution. -/
def ExecutionDetail.read (execution : ExecutionDetail N) : (field : Field) → field.Value N
  | .status => execution.status
  | .startedAt => execution.startedAt
  | .finishedAt => execution.finishedAt
  | .step index field => execution.steps[index]?.map (·.read field)

/-- A step without the columns that events change. -/
def ExecutionStep.rest (step : ExecutionStep N) : ExecutionStep N :=
  { step with status := "", startedAt := none, finishedAt := none, exitCode := none
              errorMessage := "" }

/-- An execution without the columns that events change. -/
def ExecutionDetail.rest (execution : ExecutionDetail N) : ExecutionDetail N :=
  { execution with status := "", startedAt := none, finishedAt := none
                   steps := execution.steps.map (·.rest) }

/-- The value that the data carry for a column of a step; `null` is none. -/
def StepField.carried (data : JsRecord N) : (field : StepField) → Option (field.Value N)
  | .status => readString data "status"
  | .startedAt => (readNullableString data "started_at").join.map some
  | .finishedAt => (readNullableString data "finished_at").join.map some
  | .exitCode => (readNullableNumber data "exit_code").join.map some
  | .errorMessage => readString data "error_message"

/-- What an event writes to a column of an execution with the rest `rest`. -/
def ExecutionStreamEvent.write (rest : ExecutionDetail N) (e : ExecutionStreamEvent N) :
    (field : Field) → Option (field.Value N)
  | .status =>
    if e.event = "execution.status_changed" then readString e.data "status"
    else if e.event = "stream.closed" then readString e.data "final_status"
    else none
  | .startedAt =>
    if e.event = "execution.status_changed" then
      (readNullableString e.data "started_at").join.map some
    else none
  | .finishedAt =>
    if e.event = "execution.status_changed" then
      (readNullableString e.data "finished_at").join.map some
    else none
  | .step index field =>
    if e.event = "step.status_changed" then
      match rest.steps[index]? with
      | none => none
      | some step =>
        if some step.id = readString e.data "step_id" then (field.carried e.data).map some else none
    else none

theorem orKeep_eq {α : Type} (value : Option (Option α)) (kept : Option α) :
    orKeep value kept = (value.join.map some).getD kept := by
  rcases value with _ | _ | a <;> rfl

theorem rest_patchStep (step : ExecutionStep N) (data : JsRecord N) :
    (patchStep step data).rest = step.rest := rfl

theorem read_patchStep (step : ExecutionStep N) (data : JsRecord N) (field : StepField) :
    (patchStep step data).read field = (field.carried data).getD (step.read field) := by
  cases field
  · rfl
  · exact orKeep_eq _ _
  · exact orKeep_eq _ _
  · exact orKeep_eq _ _
  · rfl

/-- A step is its rest and its columns. -/
theorem ExecutionStep.eq_of_read {step step' : ExecutionStep N} (hrest : step.rest = step'.rest)
    (hread : ∀ field, step.read field = step'.read field) : step = step' := by
  have hstatus : step.status = step'.status := hread .status
  have hstarted : step.startedAt = step'.startedAt := hread .startedAt
  have hfinished : step.finishedAt = step'.finishedAt := hread .finishedAt
  have hexit : step.exitCode = step'.exitCode := hread .exitCode
  have herror : step.errorMessage = step'.errorMessage := hread .errorMessage
  cases step
  cases step'
  simp only [ExecutionStep.rest, ExecutionStep.mk.injEq] at *
  simp_all

/-- The step at a place of an execution, as the rest of the execution has it. -/
theorem rest_steps_getElem? (execution : ExecutionDetail N) (index : ℕ) :
    execution.rest.steps[index]? = execution.steps[index]?.map (·.rest) :=
  List.getElem?_map

theorem rest_patchExecution (execution : ExecutionDetail N) (e : ExecutionStreamEvent N) :
    (patchExecution execution e).rest = execution.rest := by
  rw [patchExecution]
  split_ifs
  · rfl
  · have hsteps : (execution.steps.map fun step =>
        if some step.id = readString e.data "step_id" then patchStep step e.data else step).map
          (·.rest) = execution.steps.map (·.rest) := by
      rw [List.map_map]
      refine List.map_congr_left fun step _ => ?_
      dsimp only [Function.comp]
      split
      · exact rest_patchStep step e.data
      · rfl
    dsimp only [ExecutionDetail.rest]
    rw [hsteps]
  · rfl
  · rfl

/-- **What an event writes**, and that it writes nothing else. -/
theorem read_patchExecution (execution : ExecutionDetail N) (e : ExecutionStreamEvent N)
    (field : Field) : (patchExecution execution e).read field =
      (e.write execution.rest field).getD (execution.read field) := by
  cases field with
  | status =>
    by_cases hstatus : e.event = "execution.status_changed"
    · simp only [patchExecution, ExecutionStreamEvent.write, ExecutionDetail.read, if_pos hstatus]
    by_cases hstep : e.event = "step.status_changed"
    · have hclosed : e.event ≠ "stream.closed" := by rw [hstep]; decide
      simp only [patchExecution, ExecutionStreamEvent.write, ExecutionDetail.read, if_neg hstatus,
        if_pos hstep, if_neg hclosed, Option.getD_none]
    by_cases hclosed : e.event = "stream.closed"
    · simp only [patchExecution, ExecutionStreamEvent.write, ExecutionDetail.read, if_neg hstatus,
        if_neg hstep, if_pos hclosed]
    · simp only [patchExecution, ExecutionStreamEvent.write, ExecutionDetail.read, if_neg hstatus,
        if_neg hstep, if_neg hclosed, Option.getD_none]
  | startedAt =>
    by_cases hstatus : e.event = "execution.status_changed"
    · simp only [patchExecution, ExecutionStreamEvent.write, ExecutionDetail.read, if_pos hstatus]
      exact orKeep_eq _ _
    · simp only [patchExecution, ExecutionStreamEvent.write, if_neg hstatus]
      split_ifs <;> rfl
  | finishedAt =>
    by_cases hstatus : e.event = "execution.status_changed"
    · simp only [patchExecution, ExecutionStreamEvent.write, ExecutionDetail.read, if_pos hstatus]
      exact orKeep_eq _ _
    · simp only [patchExecution, ExecutionStreamEvent.write, if_neg hstatus]
      split_ifs <;> rfl
  | step index field =>
    by_cases hstep : e.event = "step.status_changed"
    · have hstatus : e.event ≠ "execution.status_changed" := by rw [hstep]; decide
      simp only [patchExecution, ExecutionStreamEvent.write, ExecutionDetail.read, if_neg hstatus,
        if_pos hstep, rest_steps_getElem?, List.getElem?_map]
      cases execution.steps[index]? with
      | none => rfl
      | some step =>
        have hrestid : step.rest.id = step.id := rfl
        simp only [Option.map_some, hrestid]
        by_cases hid : some step.id = readString e.data "step_id"
        · rw [if_pos hid, if_pos hid, read_patchStep]
          cases field.carried e.data <;> rfl
        · rw [if_neg hid, if_neg hid, Option.getD_none]
    · simp only [patchExecution, ExecutionStreamEvent.write, if_neg hstep]
      split_ifs <;> rfl

/-- An execution is its rest and its columns. -/
theorem ExecutionDetail.eq_of_read {execution execution' : ExecutionDetail N}
    (hrest : execution.rest = execution'.rest)
    (hread : ∀ field, execution.read field = execution'.read field) : execution = execution' := by
  have hstatus : execution.status = execution'.status := hread .status
  have hstarted : execution.startedAt = execution'.startedAt := hread .startedAt
  have hfinished : execution.finishedAt = execution'.finishedAt := hread .finishedAt
  have hsteps : execution.steps = execution'.steps := by
    refine List.ext_getElem? fun index => ?_
    have hrests : execution.steps[index]?.map (·.rest) = execution'.steps[index]?.map (·.rest) := by
      rw [← rest_steps_getElem?, ← rest_steps_getElem?, hrest]
    have hreads : ∀ field, execution.steps[index]?.map (·.read field) =
        execution'.steps[index]?.map (·.read field) := fun field => hread (.step index field)
    cases hstep : execution.steps[index]? with
    | none =>
      rw [hstep, Option.map_none, eq_comm, Option.map_eq_none_iff] at hrests
      exact hrests.symm
    | some step =>
      cases hstep' : execution'.steps[index]? with
      | none => simp [hstep, hstep'] at hrests
      | some step' =>
        simp only [hstep, hstep', Option.map_some, Option.some.injEq] at hrests hreads
        rw [ExecutionStep.eq_of_read hrests hreads]
  cases execution
  cases execution'
  simp only [ExecutionDetail.rest, ExecutionDetail.mk.injEq] at *
  simp_all

/-- Executions as states that the events of the stream overwrite. -/
def executionStream (N : Type) :
    Streams.Overwriting (ExecutionStreamEvent N) (ExecutionDetail N) (ExecutionDetail N)
      (Field.Value N) where
  apply := patchExecution
  read := ExecutionDetail.read
  rest := ExecutionDetail.rest
  write := ExecutionStreamEvent.write
  rest_apply := rest_patchExecution
  read_apply := read_patchExecution
  ext := ExecutionDetail.eq_of_read

-- ════════════════════════════════════════════════════════════════════════
-- Replay
-- ════════════════════════════════════════════════════════════════════════

/-- The name under which an event has a value for a column. -/
def StepField.key : StepField → String
  | .status => "status"
  | .startedAt => "started_at"
  | .finishedAt => "finished_at"
  | .exitCode => "exit_code"
  | .errorMessage => "error_message"

/-- The event carries a value for the column; for one of a step, it names that step. -/
def ExecutionStreamEvent.Carries (e : ExecutionStreamEvent N) (execution : ExecutionDetail N) :
    Field → Prop
  | .status =>
    e.event = "execution.status_changed" ∧ (e.data.lookup "status").isSome = true ∨
      e.event = "stream.closed" ∧ (e.data.lookup "final_status").isSome = true
  | .startedAt =>
    e.event = "execution.status_changed" ∧ (e.data.lookup "started_at").isSome = true
  | .finishedAt =>
    e.event = "execution.status_changed" ∧ (e.data.lookup "finished_at").isSome = true
  | .step index field =>
    e.event = "step.status_changed" ∧ (e.data.lookup field.key).isSome = true ∧
      ∃ step ∈ execution.steps[index]?, readString e.data "step_id" = some step.id

/-- The columns that the event does not carry are as before, and so is everything that is no
column. -/
structure OnlyCarried (e : ExecutionStreamEvent N) (before after : ExecutionDetail N) : Prop where
  rest : after.rest = before.rest
  kept : ∀ field, ¬e.Carries before field → after.read field = before.read field

theorem readString_isSome {data : JsRecord N} {key value : String}
    (h : readString data key = some value) : (data.lookup key).isSome = true := by
  cases hlookup : data.lookup key with
  | none => simp [readString, hlookup] at h
  | some v => rfl

theorem readNullableString_isSome {data : JsRecord N} {key : String} {value : Option String}
    (h : readNullableString data key = some value) : (data.lookup key).isSome = true := by
  cases hlookup : data.lookup key with
  | none => simp [readNullableString, hlookup] at h
  | some v => rfl

theorem readNullableNumber_isSome {data : JsRecord N} {key : String} {value : Option N}
    (h : readNullableNumber data key = some value) : (data.lookup key).isSome = true := by
  cases hlookup : data.lookup key with
  | none => simp [readNullableNumber, hlookup] at h
  | some v => rfl

theorem carried_isSome {data : JsRecord N} {field : StepField} {value : field.Value N}
    (h : field.carried data = some value) : (data.lookup field.key).isSome = true := by
  cases field with
  | status => exact readString_isSome h
  | errorMessage => exact readString_isSome h
  | startedAt =>
    obtain ⟨text, htext, -⟩ := Option.map_eq_some_iff.1 h
    exact readNullableString_isSome (Option.join_eq_some_iff.1 htext)
  | finishedAt =>
    obtain ⟨text, htext, -⟩ := Option.map_eq_some_iff.1 h
    exact readNullableString_isSome (Option.join_eq_some_iff.1 htext)
  | exitCode =>
    obtain ⟨n, hn, -⟩ := Option.map_eq_some_iff.1 h
    exact readNullableNumber_isSome (Option.join_eq_some_iff.1 hn)

/-- An event writes only what it carries. -/
theorem write_eq_none {e : ExecutionStreamEvent N} {execution : ExecutionDetail N} {field : Field}
    (h : ¬e.Carries execution field) : e.write execution.rest field = none := by
  by_contra hwrite
  obtain ⟨value, hvalue⟩ := Option.ne_none_iff_exists'.1 hwrite
  apply h
  cases field with
  | status =>
    simp only [ExecutionStreamEvent.write] at hvalue
    split_ifs at hvalue with hstatus hclosed
    · exact .inl ⟨hstatus, readString_isSome hvalue⟩
    · exact .inr ⟨hclosed, readString_isSome hvalue⟩
  | startedAt =>
    simp only [ExecutionStreamEvent.write] at hvalue
    split_ifs at hvalue with hstatus
    obtain ⟨text, htext, -⟩ := Option.map_eq_some_iff.1 hvalue
    exact ⟨hstatus, readNullableString_isSome (Option.join_eq_some_iff.1 htext)⟩
  | finishedAt =>
    simp only [ExecutionStreamEvent.write] at hvalue
    split_ifs at hvalue with hstatus
    obtain ⟨text, htext, -⟩ := Option.map_eq_some_iff.1 hvalue
    exact ⟨hstatus, readNullableString_isSome (Option.join_eq_some_iff.1 htext)⟩
  | step index field =>
    simp only [ExecutionStreamEvent.write, rest_steps_getElem?] at hvalue
    cases hstep : execution.steps[index]? with
    | none => simp [hstep] at hvalue
    | some step =>
      have hrestid : step.rest.id = step.id := rfl
      simp only [hstep, Option.map_some, hrestid] at hvalue
      split_ifs at hvalue with hname hid
      obtain ⟨v, hv, -⟩ := Option.map_eq_some_iff.1 hvalue
      exact ⟨hname, carried_isSome hv, step, hstep, hid.symm⟩

/-- Every patch keeps what its event does not carry. -/
theorem onlyCarried_patchExecution (e : ExecutionStreamEvent N) (execution : ExecutionDetail N) :
    OnlyCarried e execution (patchExecution execution e) where
  rest := rest_patchExecution execution e
  kept _ h := (executionStream N).read_apply_of_none (write_eq_none h)

theorem foldl_applyStreamEvent (execution : Option (ExecutionDetail N))
    (events : List (ExecutionStreamEvent N)) :
    events.foldl applyStreamEvent execution =
      execution.map ((executionStream N).run · events) := by
  induction events generalizing execution with
  | nil => rw [List.foldl_nil]; cases execution <;> rfl
  | cons e events ih =>
    rw [List.foldl_cons, ih]
    cases execution <;> rfl

/-- **Replaying stream events is harmless**: after a sequence of events any end of it can come
again, and an event changes no step but the one it names, and no column that it does not carry. -/
theorem replay_harmless (execution : Option (ExecutionDetail N)) :
    (∀ before again : List (ExecutionStreamEvent N),
      (before ++ again ++ again).foldl applyStreamEvent execution =
        (before ++ again).foldl applyStreamEvent execution) ∧
    ∀ (e : ExecutionStreamEvent N), ∀ current ∈ execution, ∃ patched,
      applyStreamEvent (some current) e = some patched ∧ OnlyCarried e current patched := by
  constructor
  · intro before again
    rw [foldl_applyStreamEvent, foldl_applyStreamEvent]
    refine Option.map_congr fun current _ => ?_
    exact (executionStream N).run_replay (List.suffix_append before again) current
  · intro e current _
    exact ⟨patchExecution current e, rfl, onlyCarried_patchExecution e current⟩

theorem foldl_onMessage (parse : String → Option (JsValue N))
    (messages : List (String × String)) (current : Option (ExecutionDetail N)) :
    messages.foldl (onMessage parse) current =
      (messages.filterMap fun message => parseStreamEvent parse message.1 message.2).foldl
        applyStreamEvent current := by
  induction messages generalizing current with
  | nil => rfl
  | cons message messages ih =>
    rw [List.foldl_cons, ih, onMessage, List.filterMap_cons]
    cases parseStreamEvent parse message.1 message.2 <;> rfl

/-- The cache after messages that come again, readable or not. -/
theorem messages_replay (parse : String → Option (JsValue N))
    (before again : List (String × String)) (current : Option (ExecutionDetail N)) :
    (before ++ again ++ again).foldl (onMessage parse) current =
      (before ++ again).foldl (onMessage parse) current := by
  simp only [foldl_onMessage, List.filterMap_append, foldl_applyStreamEvent]
  refine Option.map_congr fun row _ => ?_
  exact (executionStream N).run_replay (List.suffix_append _ _) row

end RunbookPlatform.Web
