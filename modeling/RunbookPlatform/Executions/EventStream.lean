import RunbookPlatform.Executions.EventBus

/-!
# The event stream of an execution

Every stream that a browser opens is a generator that yields one chunk after the other: what the
buffer has after the event that the browser saw last, and then what its queue gets. Generators,
services that emit, and browsers that go away take turns in any order.

## Main definitions

- `EventStream`, `EventStream.next` — a generator, and what it does up to its next chunk
- `StreamServer`, `StreamServer.step` — the bus with all its streams, and what happens next
- `StreamServer.Reachable` — what turns of any kind, in any order, lead to
- `EventStream.Turn` — everything that one turn can do

## Main results

- `turn_of_next`, `turn_of_timeOut`, `turn_of_reconcile`, `turn_of_cancel` — a generator takes turns
- `Turn.subscribers`, `Turn.queues`, `Turn.keeps` — what a turn does to the bus
-/

namespace RunbookPlatform

open Streams

-- ════════════════════════════════════════════════════════════════════════
-- Events that the server makes itself
-- ════════════════════════════════════════════════════════════════════════

/-- What a stream reads of an execution; times as `isoformat()` has them. -/
structure StreamedExecution where
  id : String
  status : ExecutionStatus
  startedAt : Option String
  finishedAt : Option String

/-- The ids of the events that a stream makes, and the time when it does. -/
structure Made where
  statusId : String
  closedId : String
  now : String

/-- `_stream_closed_event`. -/
def streamClosedEvent (id executionId finalStatus timestamp : String) : StreamEvent where
  id := id
  eventType := "stream.closed"
  data := [("execution_id", .str executionId), ("final_status", .str finalStatus),
    ("timestamp", .str timestamp), ("reason", .str "terminal_state")]

/-- `_terminal_events`. -/
def terminalEvents (made : Made) (execution : StreamedExecution) : List StreamEvent :=
  let timestamp := execution.finishedAt.getD made.now
  [{ id := made.statusId
     eventType := "execution.status_changed"
     data := [("execution_id", .str execution.id), ("status", .str execution.status.value),
      ("timestamp", .str timestamp), ("started_at", .ofOptStr execution.startedAt),
      ("finished_at", .ofOptStr execution.finishedAt)] },
    streamClosedEvent made.closedId execution.id execution.status.value timestamp]

/-- `_closes_stream`. -/
def closesStream (event : StreamEvent) : Bool := event.eventType == "stream.closed"

/-- The status that an event tells, when it is one of `TERMINAL_STATUSES`. -/
def terminalStatus? (event : StreamEvent) : Option String :=
  if event.eventType = "execution.status_changed" then
    match event.data.lookup "status" with
    | some (.str status) =>
      if status ∈ ["succeeded", "failed", "cancelled"] then some status else none
    | _ => none
  else none

-- ════════════════════════════════════════════════════════════════════════
-- One stream
-- ════════════════════════════════════════════════════════════════════════

/-- Where an event comes from, as the log line of its sending says. -/
inductive Origin where
  | buffer | queue | server
  deriving DecidableEq

/-- What a stream yields. -/
inductive Frame where
  | retry
  | heartbeat
  | message (event : StreamEvent) (origin : Origin)

/-- Where a generator stands. -/
inductive Phase where
  | opened
  | subscribed
  | replaying (rest : List StreamEvent)
  | waiting
  /-- No event came for `HEARTBEAT_INTERVAL_SECONDS`; the execution is read. -/
  | reconciling
  /-- The events that are still sent before the generator returns. -/
  | ending (holds : Bool) (rest : List StreamEvent)
  | returned
  | cancelled

/-- The stream has a queue in the bus. -/
def Phase.isSubscribed : Phase → Bool
  | .subscribed | .replaying _ | .waiting | .reconciling => true
  | .ending holds _ => holds
  | .opened | .returned | .cancelled => false

/-- The generator has not ended. -/
def Phase.isOpen : Phase → Bool
  | .returned | .cancelled => false
  | _ => true

/-- `_event_stream`. The last three fields are history: how many events of the execution there were
at the subscription (before it, at the request) and when the buffer was read, and whether the id was
not in the buffer. -/
structure EventStream where
  execution : StreamedExecution
  lastEventId : Option String
  phase : Phase
  sent : List Frame
  since : ℕ
  upTo : ℕ
  missed : Bool

/-- The event of a frame. -/
def Frame.event? : Frame → Option StreamEvent
  | .message event _ => some event
  | _ => none

/-- The event of a frame, when it comes from the bus. -/
def Frame.busEvent? : Frame → Option StreamEvent
  | .message event .buffer | .message event .queue => some event
  | _ => none

namespace EventStream

/-- The events that a stream has sent. -/
def events (stream : EventStream) : List StreamEvent := stream.sent.filterMap Frame.event?

/-- The events of the bus that a stream has sent. -/
def busEvents (stream : EventStream) : List StreamEvent := stream.sent.filterMap Frame.busEvent?

/-- A stream whose response was made, with the row that the view has read. -/
def accepted (execution : StreamedExecution) (lastEventId : Option String) (logged : ℕ) :
    EventStream where
  execution := execution
  lastEventId := lastEventId
  phase := .opened
  sent := []
  since := logged
  upTo := 0
  missed := false

/-- `yield`. -/
def yield (stream : EventStream) (frame : Frame) (phase : Phase) : EventStream :=
  { stream with sent := stream.sent ++ [frame], phase }

/-- What comes after an event of the bus was sent. -/
def afterEvent (made : Made) (executionId : String) (event : StreamEvent) (otherwise : Phase) :
    Phase :=
  if closesStream event then .ending true []
  else
    match terminalStatus? event with
    | some status => .ending true [streamClosedEvent made.closedId executionId status made.now]
    | none => otherwise

/-- What the generator does when it is asked for its next chunk; `logged` is the number of events
of its execution, `queue` its own number. A generator that waits for its queue does nothing. -/
def next (bus : ExecutionEventBus) (logged : ℕ) (made : Made) (queue : ℕ) (stream : EventStream) :
    Option (ExecutionEventBus × EventStream) :=
  let executionId := stream.execution.id
  match stream.phase with
  | .opened =>
    if stream.execution.status.isTerminal then
      some (bus, stream.yield .retry (.ending false (terminalEvents made stream.execution)))
    else
      some (bus.subscribe executionId queue,
        { stream.yield .retry .subscribed with since := logged })
  | .subscribed =>
    let missed := match stream.lastEventId, bus.buffers executionId with
      | some id, some buffer => decide (id ∉ buffer.map (·.id))
      | some _, none => true
      | none, _ => false
    some (bus,
      { stream with
        phase := .replaying (bus.getBufferedEventsAfter executionId stream.lastEventId)
        upTo := logged
        missed })
  | .replaying [] => some (bus, { stream with phase := .waiting })
  | .replaying (event :: rest) =>
    some (bus, stream.yield (.message event .buffer)
      (afterEvent made executionId event (.replaying rest)))
  | .waiting =>
    match bus.queues queue with
    | [] => none
    | event :: _ =>
      some (bus.take queue, stream.yield (.message event .queue)
        (afterEvent made executionId event .waiting))
  | .ending holds (event :: rest) =>
    some (bus, stream.yield (.message event .server) (.ending holds rest))
  | .ending holds [] =>
    some (if holds then bus.unsubscribe executionId queue else bus,
      { stream with phase := .returned })
  | .reconciling | .returned | .cancelled => none

/-- `TimeoutError`: the queue was empty for `HEARTBEAT_INTERVAL_SECONDS`. -/
def timeOut (bus : ExecutionEventBus) (queue : ℕ) (stream : EventStream) :
    Option (ExecutionEventBus × EventStream) :=
  match stream.phase, bus.queues queue with
  | .waiting, [] => some (bus, { stream with phase := .reconciling })
  | _, _ => none

/-- `_get_execution` has come back. -/
def reconcile (bus : ExecutionEventBus) (made : Made) (row : Option StreamedExecution)
    (stream : EventStream) : Option (ExecutionEventBus × EventStream) :=
  match stream.phase with
  | .reconciling =>
    match row with
    | some row =>
      if row.status.isTerminal then
        some (bus, { stream with phase := .ending true (terminalEvents made row) })
      else some (bus, stream.yield .heartbeat .waiting)
    | none => some (bus, stream.yield .heartbeat .waiting)
  | _ => none

/-- The browser is gone, and the generator is closed where it stands. -/
def cancel (bus : ExecutionEventBus) (queue : ℕ) (stream : EventStream) :
    Option (ExecutionEventBus × EventStream) :=
  if stream.phase.isOpen then
    some (if stream.phase.isSubscribed then bus.unsubscribe stream.execution.id queue else bus,
      { stream with phase := .cancelled })
  else none

end EventStream

-- ════════════════════════════════════════════════════════════════════════
-- All streams
-- ════════════════════════════════════════════════════════════════════════

/-- The bus and the streams; `log` is history, the events that were emitted for each execution. -/
structure StreamServer where
  bus : ExecutionEventBus
  streams : List EventStream
  log : String → List StreamEvent

/-- What happens next: a service emits, a browser opens a stream, or one stream goes on. -/
inductive StreamAction where
  | emit (executionId : String) (event : StreamEvent)
  | accept (execution : StreamedExecution) (lastEventId : Option String)
  | next (stream : ℕ) (made : Made)
  | timeOut (stream : ℕ)
  | reconcile (stream : ℕ) (made : Made) (row : Option StreamedExecution)
  | cancel (stream : ℕ)

namespace StreamServer

/-- Before the first request. -/
def start : StreamServer where
  bus := .empty
  streams := []
  log _ := []

/-- One stream goes on. -/
def turn (s : StreamServer) (c : ℕ)
    (go : EventStream → Option (ExecutionEventBus × EventStream)) : Option StreamServer :=
  match s.streams[c]? with
  | none => none
  | some stream => (go stream).map fun (bus, stream') =>
    { s with bus, streams := s.streams.set c stream' }

/-- What happens. -/
def step (s : StreamServer) : StreamAction → Option StreamServer
  | .emit executionId event =>
    some { s with
      bus := s.bus.asyncEmit executionId event
      log := Function.update s.log executionId (s.log executionId ++ [event]) }
  | .accept execution lastEventId =>
    some { s with
      streams := s.streams ++
        [.accepted execution lastEventId (s.log execution.id).length] }
  | .next c made =>
    s.turn c fun stream => stream.next s.bus (s.log stream.execution.id).length made c
  | .timeOut c => s.turn c fun stream => stream.timeOut s.bus c
  | .reconcile c made row => s.turn c fun stream => stream.reconcile s.bus made row
  | .cancel c => s.turn c fun stream => stream.cancel s.bus c

/-- The id of an event is fresh, as those of `uuid4` are. -/
def Fresh (s : StreamServer) : StreamAction → Prop
  | .emit executionId event => event.id ∉ (s.log executionId).map (·.id)
  | _ => True

/-- What turns of any kind, in any order, lead to. -/
inductive Reachable : StreamServer → Prop where
  | start : Reachable start
  | step {s s' : StreamServer} (action : StreamAction) (h : Reachable s)
    (hfresh : s.Fresh action) (hstep : s.step action = some s') : Reachable s'

end StreamServer

-- ════════════════════════════════════════════════════════════════════════
-- What a turn does
-- ════════════════════════════════════════════════════════════════════════

namespace EventStream

/-- The id that a stream was opened with is not in the buffer. -/
def Misses (bus : ExecutionEventBus) (stream : EventStream) : Prop :=
  ∃ id ∈ stream.lastEventId, ∀ buffer ∈ bus.buffers stream.execution.id,
    id ∉ buffer.map (·.id)

/-- Everything that one turn of the stream `c` can do. -/
inductive Turn (bus : ExecutionEventBus) (logged c : ℕ) (stream : EventStream) :
    ExecutionEventBus → EventStream → Prop where
  | refuse (made : Made) (hphase : stream.phase = .opened)
      (hterminal : stream.execution.status.isTerminal = true) :
      Turn bus logged c stream bus
        (stream.yield .retry (.ending false (terminalEvents made stream.execution)))
  | subscribe (hphase : stream.phase = .opened)
      (hlive : stream.execution.status.isTerminal = false) :
      Turn bus logged c stream (bus.subscribe stream.execution.id c)
        { stream.yield .retry .subscribed with since := logged }
  | catchUp (missed : Bool) (hphase : stream.phase = .subscribed)
      (hmissed : missed = true ↔ stream.Misses bus) :
      Turn bus logged c stream bus
        { stream with
          phase := .replaying
            (bus.getBufferedEventsAfter stream.execution.id stream.lastEventId)
          upTo := logged
          missed }
  | caughtUp (hphase : stream.phase = .replaying []) :
      Turn bus logged c stream bus { stream with phase := .waiting }
  | replay (made : Made) (event : StreamEvent) (rest : List StreamEvent)
      (hphase : stream.phase = .replaying (event :: rest)) :
      Turn bus logged c stream bus
        (stream.yield (.message event .buffer)
          (afterEvent made stream.execution.id event (.replaying rest)))
  | deliver (made : Made) (event : StreamEvent) (rest : List StreamEvent)
      (hphase : stream.phase = .waiting) (hqueue : bus.queues c = event :: rest) :
      Turn bus logged c stream (bus.take c)
        (stream.yield (.message event .queue)
          (afterEvent made stream.execution.id event .waiting))
  | timeOut (hphase : stream.phase = .waiting) (hqueue : bus.queues c = []) :
      Turn bus logged c stream bus { stream with phase := .reconciling }
  | conclude (made : Made) (row : StreamedExecution) (hphase : stream.phase = .reconciling)
      (hterminal : row.status.isTerminal = true) :
      Turn bus logged c stream bus { stream with phase := .ending true (terminalEvents made row) }
  | heartbeat (hphase : stream.phase = .reconciling) :
      Turn bus logged c stream bus (stream.yield .heartbeat .waiting)
  | send (holds : Bool) (event : StreamEvent) (rest : List StreamEvent)
      (hphase : stream.phase = .ending holds (event :: rest)) :
      Turn bus logged c stream bus
        (stream.yield (.message event .server) (.ending holds rest))
  | leave (holds : Bool) (hphase : stream.phase = .ending holds []) :
      Turn bus logged c stream
        (if holds then bus.unsubscribe stream.execution.id c else bus)
        { stream with phase := .returned }
  | cancel (hphase : stream.phase.isOpen = true) :
      Turn bus logged c stream
        (if stream.phase.isSubscribed then bus.unsubscribe stream.execution.id c else bus)
        { stream with phase := .cancelled }

variable {bus bus' : ExecutionEventBus} {logged c : ℕ} {stream stream' : EventStream}

theorem turn_of_next {made : Made} (h : stream.next bus logged made c = some (bus', stream')) :
    Turn bus logged c stream bus' stream' := by
  rw [next] at h
  cases hphase : stream.phase with
  | opened =>
    simp only [hphase] at h
    by_cases hterminal : stream.execution.status.isTerminal = true
    · rw [if_pos hterminal] at h
      cases h
      exact .refuse made hphase hterminal
    · rw [if_neg hterminal] at h
      cases h
      exact .subscribe hphase (Bool.not_eq_true _ ▸ hterminal)
  | subscribed =>
    simp only [hphase] at h
    cases h
    refine .catchUp _ hphase ?_
    rw [Misses]
    cases stream.lastEventId with
    | none => simp
    | some id => cases bus.buffers stream.execution.id <;> simp
  | replaying rest =>
    cases rest with
    | nil =>
      simp only [hphase] at h
      cases h
      exact .caughtUp hphase
    | cons event rest =>
      simp only [hphase] at h
      cases h
      exact .replay made event rest hphase
  | waiting =>
    simp only [hphase] at h
    cases hqueue : bus.queues c with
    | nil => rw [hqueue] at h; cases h
    | cons event rest =>
      rw [hqueue] at h
      cases h
      exact .deliver made event rest hphase hqueue
  | reconciling => simp only [hphase] at h; cases h
  | ending holds rest =>
    cases rest with
    | nil =>
      simp only [hphase] at h
      cases h
      exact .leave holds hphase
    | cons event rest =>
      simp only [hphase] at h
      cases h
      exact .send holds event rest hphase
  | returned => simp only [hphase] at h; cases h
  | cancelled => simp only [hphase] at h; cases h

theorem turn_of_timeOut (h : stream.timeOut bus c = some (bus', stream')) :
    Turn bus logged c stream bus' stream' := by
  rw [EventStream.timeOut] at h
  split at h
  · rename_i hphase hqueue
    cases h
    exact .timeOut hphase hqueue
  · cases h

theorem turn_of_reconcile {made : Made} {row : Option StreamedExecution}
    (h : stream.reconcile bus made row = some (bus', stream')) :
    Turn bus logged c stream bus' stream' := by
  have hphase : stream.phase = .reconciling := by
    cases hphase : stream.phase <;> simp only [EventStream.reconcile, hphase] at h <;>
      first | rfl | cases h
  simp only [EventStream.reconcile, hphase] at h
  cases row with
  | none => cases h; exact .heartbeat hphase
  | some row =>
    by_cases hterminal : row.status.isTerminal = true
    · simp only [if_pos hterminal] at h
      cases h
      exact .conclude made row hphase hterminal
    · simp only [if_neg hterminal] at h
      cases h
      exact .heartbeat hphase

theorem turn_of_cancel (h : stream.cancel bus c = some (bus', stream')) :
    Turn bus logged c stream bus' stream' := by
  rw [EventStream.cancel] at h
  by_cases hphase : stream.phase.isOpen = true
  · rw [if_pos hphase] at h
    cases h
    exact .cancel hphase
  · rw [if_neg hphase] at h
    cases h

/-- A stream stays with its execution, and with the id that it was opened with. -/
theorem Turn.kept (h : Turn bus logged c stream bus' stream') :
    stream'.execution = stream.execution ∧ stream'.lastEventId = stream.lastEventId := by
  cases h <;> exact ⟨rfl, rfl⟩

/-- The queues of other streams are as they were. -/
theorem Turn.queues (h : Turn bus logged c stream bus' stream') {q : ℕ} (hq : q ≠ c) :
    bus'.queues q = bus.queues q := by
  cases h with
  | subscribe => exact Function.update_of_ne hq ..
  | deliver => exact Function.update_of_ne hq ..
  | leave holds => cases holds <;> rfl
  | cancel => split <;> rfl
  | _ => rfl

theorem isSubscribed_afterEvent {made : Made} {executionId : String} {event : StreamEvent}
    {otherwise : Phase} (h : otherwise.isSubscribed = true) :
    (afterEvent made executionId event otherwise).isSubscribed = true := by
  rw [afterEvent]
  split
  · rfl
  · split
    · rfl
    · exact h

/-- **The subscribers after a turn**: the others, and the stream itself while it is subscribed. -/
theorem Turn.subscribers (h : Turn bus logged c stream bus' stream')
    (hc : ∀ x, c ∈ bus.subscribersOf x ↔
      stream.execution.id = x ∧ stream.phase.isSubscribed = true) (x : String) (q : ℕ) :
    q ∈ bus'.subscribersOf x ↔
      if q = c then stream.execution.id = x ∧ stream'.phase.isSubscribed = true
      else q ∈ bus.subscribersOf x := by
  have hkeep : ∀ phase : Phase, phase.isSubscribed = stream.phase.isSubscribed →
      (q ∈ bus.subscribersOf x ↔
        if q = c then stream.execution.id = x ∧ phase.isSubscribed = true
        else q ∈ bus.subscribersOf x) := by
    intro phase hphase
    by_cases hq : q = c
    · rw [if_pos hq, hq, hc, hphase]
    · rw [if_neg hq]
  have hleave : (q ∈ (bus.unsubscribe stream.execution.id c).subscribersOf x ↔
      if q = c then stream.execution.id = x ∧ false = true
      else q ∈ bus.subscribersOf x) := by
    rw [ExecutionEventBus.mem_subscribersOf_unsubscribe]
    by_cases hq : q = c
    · rw [if_pos hq, hq, hc]
      simp only [and_true, Bool.false_eq_true, and_false, iff_false, not_and, not_not]
      exact fun hx => hx.1.symm
    · rw [if_neg hq]
      simp [hq]
  cases h with
  | refuse made hphase => exact hkeep _ (by rw [hphase]; rfl)
  | subscribe hphase =>
    rw [ExecutionEventBus.mem_subscribersOf_subscribe]
    by_cases hq : q = c
    · rw [if_pos hq, hq, hc, hphase]
      simp only [Phase.isSubscribed, yield, Bool.false_eq_true, and_false, false_or, and_true]
      exact eq_comm
    · rw [if_neg hq]
      simp [hq]
  | catchUp missed hphase => exact hkeep _ (by rw [hphase]; rfl)
  | caughtUp hphase => exact hkeep _ (by rw [hphase]; rfl)
  | replay made event rest hphase =>
    refine hkeep _ ?_
    rw [hphase]
    exact isSubscribed_afterEvent rfl
  | deliver made event rest hphase =>
    rw [ExecutionEventBus.subscribersOf_take]
    refine hkeep _ ?_
    rw [hphase]
    exact isSubscribed_afterEvent rfl
  | timeOut hphase => exact hkeep _ (by rw [hphase]; rfl)
  | conclude made row hphase => exact hkeep _ (by rw [hphase]; rfl)
  | heartbeat hphase => exact hkeep _ (by rw [hphase]; rfl)
  | send holds event rest hphase => exact hkeep _ (by rw [hphase]; rfl)
  | leave holds hphase =>
    cases holds with
    | true => exact hleave
    | false => exact hkeep .returned (by rw [hphase]; rfl)
  | cancel hphase =>
    by_cases hsub : stream.phase.isSubscribed = true
    · rw [if_pos hsub]
      exact hleave
    · rw [if_neg hsub]
      exact hkeep .cancelled (Bool.not_eq_true _ ▸ hsub).symm

/-- An entry of the subscribers is dropped with its last queue. -/
theorem Turn.popped (h : Turn bus logged c stream bus' stream') {x : String}
    (hx : bus.subscribers x ≠ some ∅) : bus'.subscribers x ≠ some ∅ := by
  have hleave := ExecutionEventBus.popped_unsubscribe bus stream.execution.id c hx
  cases h with
  | subscribe => exact ExecutionEventBus.popped_subscribe bus stream.execution.id c hx
  | leave holds => cases holds <;> assumption
  | cancel => split <;> assumption
  | _ => exact hx

/-- What a turn leaves of a stream: it has sent more, and it is subscribed at most once. -/
theorem Turn.grows (h : Turn bus logged c stream bus' stream') :
    stream.sent <+: stream'.sent ∧ (stream'.since = stream.since ∨ stream'.since = logged) := by
  cases h with
  | subscribe => exact ⟨List.prefix_append _ _, .inr rfl⟩
  | refuse => exact ⟨List.prefix_append _ _, .inl rfl⟩
  | replay => exact ⟨List.prefix_append _ _, .inl rfl⟩
  | deliver => exact ⟨List.prefix_append _ _, .inl rfl⟩
  | heartbeat => exact ⟨List.prefix_append _ _, .inl rfl⟩
  | send => exact ⟨List.prefix_append _ _, .inl rfl⟩
  | _ => exact ⟨List.prefix_refl _, .inl rfl⟩

theorem Turn.keeps {log : String → List StreamEvent} (h : Turn bus logged c stream bus' stream')
    (hkeeps : bus.Keeps log) : bus'.Keeps log := by
  cases h with
  | subscribe => exact ExecutionEventBus.keeps_subscribe _ _ hkeeps
  | leave holds => cases holds <;> exact hkeeps
  | cancel => split <;> exact hkeeps
  | _ => exact hkeeps

end EventStream

end RunbookPlatform
