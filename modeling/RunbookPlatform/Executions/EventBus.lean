import Mathlib.Data.Finset.Basic
import RunbookPlatform.Core.Json
import RunbookPlatform.Core.Status
import RunbookPlatform.Streams.Resumption

/-!
# The event bus of executions

Services hand the events of an execution to a bus in the API process, and the bus hands them to the
queue of every open stream of the execution. It also keeps the last events of each execution that a
stream was opened for, so that a stream that is opened again can catch up.

## Main definitions

- `StreamEvent`, `ExecutionEventBus` — events, and the state of the bus
- `ExecutionEventBus.subscribe`, `unsubscribe`, `asyncEmit`, `getBufferedEventsAfter` — its methods
- `ExecutionEventBus.Keeps` — the buffers are the ends of what was emitted

## Main results

- `keeps_asyncEmit`, `keeps_subscribe` — the methods keep the buffers
- `getBufferedEventsAfter_eq` — a name that is in the buffer gives the events after the named one
-/

namespace RunbookPlatform

-- ════════════════════════════════════════════════════════════════════════
-- The bus
-- ════════════════════════════════════════════════════════════════════════

/-- `StreamEvent`. -/
structure StreamEvent where
  id : String
  eventType : String
  data : List (String × Json)

/-- `ExecutionEventBus`. A queue goes by the number of the stream that made it. -/
structure ExecutionEventBus where
  /-- `_subscribers` -/
  subscribers : String → Option (Finset ℕ)
  /-- `_buffers` -/
  buffers : String → Option (List StreamEvent)
  queues : ℕ → List StreamEvent

namespace ExecutionEventBus

/-- `_MAX_BUFFER_SIZE`. -/
def maxBufferSize : ℕ := 128

/-- `buffer.append(event)` on a `deque(maxlen=_MAX_BUFFER_SIZE)`. -/
def bufferAppend (buffer : List StreamEvent) (event : StreamEvent) : List StreamEvent :=
  (buffer ++ [event]).drop (buffer.length + 1 - maxBufferSize)

/-- `ExecutionEventBus()`. -/
def empty : ExecutionEventBus where
  subscribers _ := none
  buffers _ := none
  queues _ := []

/-- The queues that get the events of an execution. -/
def subscribersOf (bus : ExecutionEventBus) (executionId : String) : Finset ℕ :=
  (bus.subscribers executionId).getD ∅

/-- `subscribe`, with the number of the queue that it makes. -/
def subscribe (bus : ExecutionEventBus) (executionId : String) (queue : ℕ) : ExecutionEventBus where
  subscribers := Function.update bus.subscribers executionId
    (some (insert queue (bus.subscribersOf executionId)))
  buffers := Function.update bus.buffers executionId
    (some ((bus.buffers executionId).getD []))
  queues := Function.update bus.queues queue []

/-- `unsubscribe`; the buffer is kept. -/
def unsubscribe (bus : ExecutionEventBus) (executionId : String) (queue : ℕ) :
    ExecutionEventBus :=
  let subs := (bus.subscribersOf executionId).erase queue
  { bus with
    subscribers := Function.update bus.subscribers executionId
      (if subs = ∅ then none else some subs) }

/-- `_async_emit`. -/
def asyncEmit (bus : ExecutionEventBus) (executionId : String) (event : StreamEvent) :
    ExecutionEventBus :=
  { bus with
    buffers := Function.update bus.buffers executionId
      ((bus.buffers executionId).map fun buffer => bufferAppend buffer event)
    queues := fun queue =>
      if queue ∈ bus.subscribersOf executionId then bus.queues queue ++ [event]
      else bus.queues queue }

/-- `queue.get_nowait()`, what is left. -/
def take (bus : ExecutionEventBus) (queue : ℕ) : ExecutionEventBus :=
  { bus with queues := Function.update bus.queues queue (bus.queues queue).tail }

/-- The events after the first one with the id; none when no event has it. -/
def eventsAfter (lastEventId : String) : List StreamEvent → List StreamEvent
  | [] => []
  | event :: events => if event.id = lastEventId then events else eventsAfter lastEventId events

/-- `get_buffered_events_after`. -/
def getBufferedEventsAfter (bus : ExecutionEventBus) (executionId : String)
    (lastEventId : Option String) : List StreamEvent :=
  match lastEventId with
  | none => []
  | some id => eventsAfter id ((bus.buffers executionId).getD [])

-- ════════════════════════════════════════════════════════════════════════
-- What the methods change
-- ════════════════════════════════════════════════════════════════════════

variable (bus : ExecutionEventBus) (executionId : String) (queue : ℕ) (event : StreamEvent)

@[simp] theorem subscribersOf_empty : empty.subscribersOf executionId = ∅ := rfl

theorem mem_subscribersOf_subscribe {x : String} {q : ℕ} :
    q ∈ (bus.subscribe executionId queue).subscribersOf x ↔
      q ∈ bus.subscribersOf x ∨ x = executionId ∧ q = queue := by
  by_cases hx : x = executionId
  · subst hx
    simp [subscribersOf, subscribe, or_comm]
  · simp [subscribersOf, subscribe, hx]

theorem mem_subscribersOf_unsubscribe {x : String} {q : ℕ} :
    q ∈ (bus.unsubscribe executionId queue).subscribersOf x ↔
      q ∈ bus.subscribersOf x ∧ ¬(x = executionId ∧ q = queue) := by
  by_cases hx : x = executionId
  · subst hx
    have hsubs : (bus.unsubscribe x queue).subscribersOf x =
        (bus.subscribersOf x).erase queue := by
      have hat : (bus.unsubscribe x queue).subscribers x =
          if (bus.subscribersOf x).erase queue = ∅ then none
          else some ((bus.subscribersOf x).erase queue) := Function.update_self ..
      rw [subscribersOf, hat]
      by_cases hempty : (bus.subscribersOf x).erase queue = ∅
      · rw [if_pos hempty, hempty, Option.getD_none]
      · rw [if_neg hempty, Option.getD_some]
    rw [hsubs, Finset.mem_erase]
    tauto
  · simp [subscribersOf, unsubscribe, hx]

theorem popped_subscribe {x : String} (hx : bus.subscribers x ≠ some ∅) :
    (bus.subscribe executionId queue).subscribers x ≠ some ∅ := by
  rw [subscribe]
  by_cases heq : x = executionId
  · subst heq
    simp
  · simpa only [Function.update_of_ne heq] using hx

theorem popped_unsubscribe {x : String} (hx : bus.subscribers x ≠ some ∅) :
    (bus.unsubscribe executionId queue).subscribers x ≠ some ∅ := by
  rw [unsubscribe]
  by_cases heq : x = executionId
  · subst heq
    simp only [Function.update_self]
    split_ifs with hempty
    · exact (Option.some_ne_none ∅).symm
    · exact fun hsome => hempty (Option.some.inj hsome)
  · simpa only [Function.update_of_ne heq] using hx

@[simp] theorem subscribersOf_asyncEmit (x : String) :
    (bus.asyncEmit executionId event).subscribersOf x = bus.subscribersOf x := rfl

@[simp] theorem subscribersOf_take (x : String) :
    (bus.take queue).subscribersOf x = bus.subscribersOf x := rfl

@[simp] theorem buffers_take : (bus.take queue).buffers = bus.buffers := rfl

@[simp] theorem buffers_unsubscribe :
    (bus.unsubscribe executionId queue).buffers = bus.buffers := rfl

@[simp] theorem queues_unsubscribe :
    (bus.unsubscribe executionId queue).queues = bus.queues := rfl

-- ════════════════════════════════════════════════════════════════════════
-- Buffers
-- ════════════════════════════════════════════════════════════════════════

/-- The buffer of an execution that a stream was ever opened for is the end of what was emitted for
it since, at most `_MAX_BUFFER_SIZE` events. -/
def Keeps (bus : ExecutionEventBus) (log : String → List StreamEvent) : Prop :=
  ∀ x, ∀ buffer ∈ bus.buffers x, ∃ opened ≤ (log x).length,
    buffer = (log x).drop (max opened ((log x).length - maxBufferSize))

theorem keeps_empty : Keeps empty fun _ => [] := by
  intro x buffer hbuffer
  cases hbuffer

variable {bus} {log : String → List StreamEvent}

theorem keeps_subscribe (h : bus.Keeps log) : (bus.subscribe executionId queue).Keeps log := by
  intro x buffer hbuffer
  by_cases hx : x = executionId
  · subst hx
    simp only [subscribe, Function.update_self, Option.mem_def, Option.some.injEq] at hbuffer
    cases hold : bus.buffers x with
    | none =>
      refine ⟨(log x).length, le_refl _, ?_⟩
      rw [← hbuffer, hold, Option.getD_none, List.drop_eq_nil_of_le (le_max_left _ _)]
    | some old =>
      rw [hold, Option.getD_some] at hbuffer
      exact hbuffer ▸ h x old hold
  · simp only [subscribe, Function.update_of_ne hx] at hbuffer
    exact h x buffer hbuffer

theorem keeps_asyncEmit (h : bus.Keeps log) :
    (bus.asyncEmit executionId event).Keeps
      (Function.update log executionId (log executionId ++ [event])) := by
  intro x buffer hbuffer
  by_cases hx : x = executionId
  · subst hx
    simp only [asyncEmit, Function.update_self, Option.mem_def, Option.map_eq_some_iff] at hbuffer
    obtain ⟨old, hold, rfl⟩ := hbuffer
    obtain ⟨opened, hopened, rfl⟩ := h x old hold
    refine ⟨opened, ?_, ?_⟩
    · rw [Function.update_self, List.length_append]
      omega
    · -- A full buffer loses its first event.
      have hmax : max opened ((log x).length - maxBufferSize) ≤ (log x).length := by omega
      have hstart : max opened ((log x).length - maxBufferSize) +
          ((log x).length - max opened ((log x).length - maxBufferSize) + 1 - maxBufferSize) =
            max opened ((log x).length + 1 - maxBufferSize) := by
        simp only [maxBufferSize]
        omega
      rw [Function.update_self, bufferAppend, ← List.drop_append_of_le_length hmax, List.drop_drop,
        List.length_drop, hstart, List.length_append, List.length_singleton]
  · simp only [asyncEmit, Function.update_of_ne hx] at hbuffer ⊢
    exact h x buffer hbuffer

/-- Events with distinct ids are told apart by them. -/
theorem index_eq {events : List StreamEvent} (hids : (events.map (·.id)).Nodup) {i j : ℕ}
    (hi : i < events.length) (hj : j < events.length) (h : events[i].id = events[j].id) :
    i = j := by
  have hi' : i < (events.map (·.id)).length := by rw [List.length_map]; exact hi
  have hj' : j < (events.map (·.id)).length := by rw [List.length_map]; exact hj
  have heq : (events.map (·.id))[i] = (events.map (·.id))[j] := by
    rw [List.getElem_map, List.getElem_map, h]
  exact hids.getElem_inj_iff.1 heq

/-- The events after the one at a position, of those from `k` on. -/
theorem eventsAfter_drop {events : List StreamEvent} (hids : (events.map (·.id)).Nodup)
    {i k : ℕ} (hi : i < events.length) (hk : k ≤ i) :
    eventsAfter events[i].id (events.drop k) = events.drop (i + 1) := by
  induction hn : i - k generalizing k with
  | zero =>
    have heq : k = i := by omega
    subst heq
    rw [List.drop_eq_getElem_cons hi, eventsAfter, if_pos rfl]
  | succ n ih =>
    have hk' : k < events.length := by omega
    have hne : events[k].id ≠ events[i].id := by
      intro heq
      have hki := index_eq hids hk' hi heq
      omega
    rw [List.drop_eq_getElem_cons hk', eventsAfter, if_neg hne]
    exact ih (by omega) (by omega)

theorem eventsAfter_of_notMem {id : String} {events : List StreamEvent}
    (h : id ∉ events.map (·.id)) : eventsAfter id events = [] := by
  induction events with
  | nil => rfl
  | cons event events ih =>
    rw [List.map_cons, List.mem_cons, not_or] at h
    rw [eventsAfter, if_neg (Ne.symm h.1)]
    exact ih h.2

/-- **Catching up**: the id of an event that is still in the buffer gives every event after it. -/
theorem getBufferedEventsAfter_eq (h : bus.Keeps log) {x id : String} {buffer : List StreamEvent}
    (hbuffer : bus.buffers x = some buffer) (hid : id ∈ buffer.map (·.id))
    (hids : ((log x).map (·.id)).Nodup) :
    ∃ i, ∃ hi : i < (log x).length, (log x)[i].id = id ∧
      bus.getBufferedEventsAfter x (some id) = (log x).drop (i + 1) := by
  obtain ⟨opened, -, rfl⟩ := h x buffer hbuffer
  obtain ⟨event, hmem, rfl⟩ := List.mem_map.1 hid
  obtain ⟨j, hj, hevent⟩ := List.getElem_of_mem hmem
  rw [List.getElem_drop] at hevent
  rw [List.length_drop] at hj
  refine ⟨max opened ((log x).length - maxBufferSize) + j, by omega, by rw [hevent], ?_⟩
  rw [getBufferedEventsAfter, hbuffer, Option.getD_some, ← hevent]
  exact eventsAfter_drop hids _ (by omega)

/-- An id that is not in the buffer gives nothing, and neither does none. -/
theorem getBufferedEventsAfter_eq_nil {x : String} {last : Option String}
    (h : ∀ id ∈ last, ∀ buffer ∈ bus.buffers x, id ∉ buffer.map (·.id)) :
    bus.getBufferedEventsAfter x last = [] := by
  cases last with
  | none => rfl
  | some id =>
    rw [getBufferedEventsAfter]
    cases hbuffer : bus.buffers x with
    | none => rfl
    | some buffer => exact eventsAfter_of_notMem (h id rfl buffer hbuffer)

end ExecutionEventBus

end RunbookPlatform
