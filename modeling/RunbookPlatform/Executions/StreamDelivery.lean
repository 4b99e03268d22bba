import RunbookPlatform.Executions.EventStream

/-!
# What event streams deliver

A stream of an execution sends the events of the bus after the one that the browser named, in their
order: those that are in the buffer when it reads it, and those since its subscription. The ones in
between come twice.

## Main definitions

- `EventStream.Starts`, `EventStream.Delivers` — which events a stream has sent, and which it will
- `EventStream.WellEnded` — the events of a stream that has returned
- `StreamServer.Sound` — what holds whatever happens

## Main results

- `Reachable.stream_sends` — what a stream sends, over every order of turns
- `Reachable.stream_ends` — how a stream ends
- `Reachable.bus_holds` — what the bus keeps
-/

namespace RunbookPlatform

open Streams

namespace EventStream

variable {bus bus' : ExecutionEventBus} {logged c : ℕ} {stream stream' : EventStream}

-- ════════════════════════════════════════════════════════════════════════
-- What a stream delivers
-- ════════════════════════════════════════════════════════════════════════

variable {log queue : List StreamEvent}

/-- What a stream sends begins at the position `start` of the events of its execution: after the
event that the browser named, or, when it named none or one that is not in the buffer any more,
with nothing out of the buffer. -/
structure Starts (log : List StreamEvent) (stream : EventStream) (start : ℕ) : Prop where
  start_le : start ≤ stream.upTo
  since_le : stream.since ≤ stream.upTo
  upTo_le : stream.upTo ≤ log.length
  named : stream.lastEventId ≠ none → stream.missed = false →
    ∃ i, start = i + 1 ∧ log[i]?.map (·.id) = stream.lastEventId
  unnamed : stream.lastEventId = none ∨ stream.missed = true → start = stream.upTo

/-- What a stream has sent of the events of its execution, and what it will send, by where it
stands. -/
def Delivers (log queue : List StreamEvent) (stream : EventStream) : Prop :=
  match stream.phase with
  | .opened => stream.busEvents = [] ∧ stream.missed = false
  | .subscribed => stream.busEvents = [] ∧ stream.since ≤ log.length ∧
    queue = log.drop stream.since ∧ stream.missed = false
  | .replaying rest => ∃ start, stream.Starts log start ∧ queue = log.drop stream.since ∧
    stream.busEvents ++ rest = span log start stream.upTo
  | .waiting | .reconciling => ∃ start, stream.Starts log start ∧
    stream.busEvents ++ queue = resumed log start stream.upTo stream.since
  | .ending _ _ | .returned | .cancelled => stream.busEvents = [] ∨
    ∃ start, stream.Starts log start ∧
      stream.busEvents <+: resumed log start stream.upTo stream.since

theorem Starts.append {start : ℕ} (h : stream.Starts log start) (more : List StreamEvent) :
    stream.Starts (log ++ more) start where
  start_le := h.start_le
  since_le := h.since_le
  upTo_le := by
    have hupTo := h.upTo_le
    rw [List.length_append]
    omega
  named hid hmissed := by
    obtain ⟨i, hi, hevent⟩ := h.named hid hmissed
    have hlen : i < log.length := by
      have hstart := h.start_le
      have hupTo := h.upTo_le
      omega
    exact ⟨i, hi, by rw [List.getElem?_append_left hlen, hevent]⟩
  unnamed := h.unnamed

/-- Where a stream starts is settled when it reads the buffer. -/
theorem Starts.of_eq {start : ℕ} (h : stream.Starts log start)
    (hlast : stream'.lastEventId = stream.lastEventId) (hsince : stream'.since = stream.since)
    (hupTo : stream'.upTo = stream.upTo) (hmissed : stream'.missed = stream.missed) :
    stream'.Starts log start where
  start_le := hupTo ▸ h.start_le
  since_le := by rw [hupTo, hsince]; exact h.since_le
  upTo_le := hupTo ▸ h.upTo_le
  named := by rw [hlast, hmissed]; exact h.named
  unnamed := by rw [hlast, hmissed, hupTo]; exact h.unnamed

/-- An event is emitted for the execution of the stream. -/
theorem Delivers.emit (h : stream.Delivers log queue) (event : StreamEvent) :
    stream.Delivers (log ++ [event])
      (if stream.phase.isSubscribed then queue ++ [event] else queue) := by
  rw [Delivers] at h ⊢
  cases hphase : stream.phase with
  | opened => simpa only [hphase] using h
  | subscribed =>
    simp only [hphase] at h
    obtain ⟨hsent, hsince, rfl, hmissed⟩ := h
    refine ⟨hsent, ?_, ?_, hmissed⟩
    · rw [List.length_append]; omega
    · exact (List.drop_append_of_le_length hsince).symm
  | replaying rest =>
    simp only [hphase] at h
    obtain ⟨start, hstarts, rfl, hsent⟩ := h
    have hsince : stream.since ≤ log.length := hstarts.since_le.trans hstarts.upTo_le
    exact ⟨start, hstarts.append _, (List.drop_append_of_le_length hsince).symm,
      by rw [span_append hstarts.upTo_le, hsent]⟩
  | waiting =>
    simp only [hphase] at h
    obtain ⟨start, hstarts, hsent⟩ := h
    refine ⟨start, hstarts.append _, ?_⟩
    rw [resumed_append hstarts.upTo_le (hstarts.since_le.trans hstarts.upTo_le), ← hsent,
      List.append_assoc]
    rfl
  | reconciling =>
    simp only [hphase] at h
    obtain ⟨start, hstarts, hsent⟩ := h
    refine ⟨start, hstarts.append _, ?_⟩
    rw [resumed_append hstarts.upTo_le (hstarts.since_le.trans hstarts.upTo_le), ← hsent,
      List.append_assoc]
    rfl
  | _ =>
    simp only [hphase] at h
    obtain hsent | ⟨start, hstarts, hsent⟩ := h
    · exact .inl hsent
    · refine .inr ⟨start, hstarts.append _, ?_⟩
      rw [resumed_append hstarts.upTo_le (hstarts.since_le.trans hstarts.upTo_le)]
      exact hsent.trans (List.prefix_append _ _)

theorem Delivers.busEvents_prefix (h : stream.Delivers log queue) :
    stream.busEvents = [] ∨ ∃ start, stream.Starts log start ∧
      stream.busEvents <+: resumed log start stream.upTo stream.since := by
  rw [Delivers] at h
  cases hphase : stream.phase <;> simp only [hphase] at h
  case opened => exact .inl h.1
  case subscribed => exact .inl h.1
  case replaying rest =>
    obtain ⟨start, hstarts, -, hsent⟩ := h
    refine .inr ⟨start, hstarts, (List.prefix_append _ rest).trans ?_⟩
    rw [hsent]
    exact List.prefix_append _ _
  case waiting =>
    obtain ⟨start, hstarts, hsent⟩ := h
    exact .inr ⟨start, hstarts, hsent ▸ List.prefix_append _ _⟩
  case reconciling =>
    obtain ⟨start, hstarts, hsent⟩ := h
    exact .inr ⟨start, hstarts, hsent ▸ List.prefix_append _ _⟩
  case ending => exact h
  case returned => exact h
  case cancelled => exact h

theorem busEvents_yield (frame : Frame) (phase : Phase) :
    (stream.yield frame phase).busEvents = stream.busEvents ++ frame.busEvent?.toList := by
  rw [busEvents, busEvents, yield, List.filterMap_append]
  cases h : frame.busEvent? with
  | none => rw [List.filterMap_cons_none h]; rfl
  | some event => rw [List.filterMap_cons_some h]; rfl

/-- The generator ends: what it has sent stays the beginning of what it could send. -/
theorem Delivers.ended (h : stream.Delivers log queue) {q : List StreamEvent}
    (hlast : stream'.lastEventId = stream.lastEventId) (hsince : stream'.since = stream.since)
    (hupTo : stream'.upTo = stream.upTo) (hmissed : stream'.missed = stream.missed)
    (hsent : stream'.busEvents = stream.busEvents)
    (hphase : stream'.phase = .returned ∨ stream'.phase = .cancelled ∨
      ∃ holds rest, stream'.phase = .ending holds rest) : stream'.Delivers log q := by
  have hprefix : stream'.busEvents = [] ∨ ∃ start, stream'.Starts log start ∧
      stream'.busEvents <+: resumed log start stream'.upTo stream'.since := by
    rw [hsent, hupTo, hsince]
    obtain hnil | ⟨start, hstarts, hpre⟩ := h.busEvents_prefix
    · exact .inl hnil
    · exact .inr ⟨start, hstarts.of_eq hlast hsince hupTo hmissed, hpre⟩
  obtain hphase | hphase | ⟨holds, rest, hphase⟩ := hphase <;> rw [Delivers, hphase] <;>
    exact hprefix

/-- After an event of the bus a generator goes on, or it ends. -/
theorem afterEvent_eq (made : Made) (executionId : String) (event : StreamEvent)
    (otherwise : Phase) : afterEvent made executionId event otherwise = otherwise ∨
      ∃ rest, afterEvent made executionId event otherwise = .ending true rest := by
  rw [afterEvent]
  split
  · exact .inr ⟨_, rfl⟩
  · split
    · exact .inr ⟨_, rfl⟩
    · exact .inl rfl

/-- The buffer is read. -/
theorem Delivers.catchUp {logs : String → List StreamEvent} {missed : Bool}
    (hphase : stream.phase = .subscribed) (hmissed : missed = true ↔ stream.Misses bus)
    (hkeeps : bus.Keeps logs) (hids : ((logs stream.execution.id).map (·.id)).Nodup)
    (h : stream.Delivers (logs stream.execution.id) queue) :
    Delivers (logs stream.execution.id) queue
      { stream with
        phase := .replaying (bus.getBufferedEventsAfter stream.execution.id stream.lastEventId)
        upTo := (logs stream.execution.id).length
        missed } := by
  simp only [Delivers, hphase] at h ⊢
  obtain ⟨hsent, hsince, hqueue, -⟩ := h
  change stream.busEvents = [] at hsent
  by_cases hread : stream.lastEventId ≠ none ∧ missed = false
  · -- The event that the browser named is in the buffer.
    obtain ⟨hne, hfound⟩ := hread
    obtain ⟨id, hid⟩ := Option.ne_none_iff_exists'.1 hne
    have hhit : ¬stream.Misses bus := by
      rw [← hmissed, hfound]
      exact Bool.false_ne_true
    obtain ⟨buffer, hbuffer, hmem⟩ : ∃ buffer ∈ bus.buffers stream.execution.id,
        id ∈ buffer.map (·.id) := by
      by_contra hnone
      push Not at hnone
      exact hhit ⟨id, hid, hnone⟩
    obtain ⟨i, hi, hevent, hafter⟩ :=
      ExecutionEventBus.getBufferedEventsAfter_eq hkeeps hbuffer hmem hids
    refine ⟨i + 1, ⟨hi, hsince, le_refl _, fun _ _ => ⟨i, rfl, ?_⟩, ?_⟩, hqueue, ?_⟩
    · rw [List.getElem?_eq_getElem hi, Option.map_some, hevent]
      exact hid.symm
    · intro hnot
      obtain hnone | hmiss := hnot
      · exact absurd hnone hne
      · exact absurd hmiss (by rw [hfound]; exact Bool.false_ne_true)
    · change stream.busEvents ++ _ = _
      rw [hsent, hid, hafter, span_length, List.nil_append]
  · -- It named none, or the buffer is past it: nothing out of the buffer.
    have hnil : bus.getBufferedEventsAfter stream.execution.id stream.lastEventId = [] := by
      refine ExecutionEventBus.getBufferedEventsAfter_eq_nil fun id hid buffer hbuffer => ?_
      have hmiss : missed = true := by
        by_contra hfalse
        exact hread ⟨by rw [hid]; exact Option.some_ne_none id, Bool.not_eq_true _ ▸ hfalse⟩
      obtain ⟨id', hid', hmisses⟩ := hmissed.1 hmiss
      rw [Option.mem_def, Option.mem_def.1 hid, Option.some.injEq] at hid'
      exact hid' ▸ hmisses buffer hbuffer
    refine ⟨(logs stream.execution.id).length,
      ⟨le_refl _, hsince, le_refl _, fun hne hfound => absurd ⟨hne, hfound⟩ hread, fun _ => rfl⟩,
      hqueue, ?_⟩
    change stream.busEvents ++ _ = _
    rw [hsent, hnil, span_self]
    rfl

/-- **A turn** keeps what a stream delivers. -/
theorem Turn.delivers {logs : String → List StreamEvent}
    (h : Turn bus (logs stream.execution.id).length c stream bus' stream')
    (hkeeps : bus.Keeps logs) (hids : ((logs stream.execution.id).map (·.id)).Nodup)
    (hd : stream.Delivers (logs stream.execution.id) (bus.queues c)) :
    stream'.Delivers (logs stream.execution.id) (bus'.queues c) := by
  cases h with
  | refuse made hphase =>
    refine hd.ended rfl rfl rfl rfl ?_ (.inr (.inr ⟨_, _, rfl⟩))
    rw [busEvents_yield]
    exact List.append_nil _
  | subscribe hphase =>
    simp only [Delivers, hphase] at hd
    refine ⟨?_, le_refl _, ?_, hd.2⟩
    · exact (busEvents_yield .retry .subscribed).trans (by rw [hd.1]; rfl)
    · rw [ExecutionEventBus.subscribe, List.drop_length]
      exact Function.update_self ..
  | catchUp missed hphase hmissed => exact hd.catchUp hphase hmissed hkeeps hids
  | caughtUp hphase =>
    simp only [Delivers, hphase] at hd
    obtain ⟨start, hstarts, hqueue, hsent⟩ := hd
    rw [List.append_nil] at hsent
    refine ⟨start, hstarts.of_eq rfl rfl rfl rfl, ?_⟩
    rw [hqueue, resumed, ← hsent]
    rfl
  | replay made event rest hphase =>
    have hbus : (stream.yield (.message event .buffer)
        (afterEvent made stream.execution.id event (.replaying rest))).busEvents =
          stream.busEvents ++ [event] := busEvents_yield _ _
    simp only [Delivers, hphase] at hd
    obtain ⟨start, hstarts, hqueue, hsent⟩ := hd
    have hsent' : (stream.busEvents ++ [event]) ++ rest =
        span (logs stream.execution.id) start stream.upTo := by
      rw [← hsent, List.append_assoc]
      rfl
    obtain hgo | ⟨close, hend⟩ :=
      afterEvent_eq made stream.execution.id event (.replaying rest)
    · rw [hgo] at hbus ⊢
      exact ⟨start, hstarts.of_eq rfl rfl rfl rfl, hqueue, by rw [hbus]; exact hsent'⟩
    · rw [hend] at hbus ⊢
      refine .inr ⟨start, hstarts.of_eq rfl rfl rfl rfl, ?_⟩
      rw [hbus]
      refine (List.prefix_append _ rest).trans ?_
      rw [hsent']
      exact List.prefix_append _ _
  | deliver made event rest hphase hqueue =>
    have hbus : (stream.yield (.message event .queue)
        (afterEvent made stream.execution.id event .waiting)).busEvents =
          stream.busEvents ++ [event] := busEvents_yield _ _
    have htake : (bus.take c).queues c = rest := by
      rw [ExecutionEventBus.take, hqueue]
      exact Function.update_self ..
    simp only [Delivers, hphase] at hd
    obtain ⟨start, hstarts, hsent⟩ := hd
    have hsent' : (stream.busEvents ++ [event]) ++ rest =
        resumed (logs stream.execution.id) start stream.upTo stream.since := by
      rw [← hsent, hqueue, List.append_assoc]
      rfl
    rw [htake]
    obtain hgo | ⟨close, hend⟩ := afterEvent_eq made stream.execution.id event .waiting
    · rw [hgo] at hbus ⊢
      exact ⟨start, hstarts.of_eq rfl rfl rfl rfl, by rw [hbus]; exact hsent'⟩
    · rw [hend] at hbus ⊢
      refine .inr ⟨start, hstarts.of_eq rfl rfl rfl rfl, ?_⟩
      rw [hbus]
      exact (List.prefix_append _ rest).trans (hsent' ▸ List.prefix_refl _)
  | timeOut hphase =>
    simp only [Delivers, hphase] at hd
    obtain ⟨start, hstarts, hsent⟩ := hd
    exact ⟨start, hstarts.of_eq rfl rfl rfl rfl, hsent⟩
  | conclude made row hphase => exact hd.ended rfl rfl rfl rfl rfl (.inr (.inr ⟨_, _, rfl⟩))
  | heartbeat hphase =>
    simp only [Delivers, hphase] at hd
    obtain ⟨start, hstarts, hsent⟩ := hd
    have hbus : (stream.yield .heartbeat .waiting).busEvents = stream.busEvents :=
      (busEvents_yield _ _).trans (List.append_nil _)
    exact ⟨start, hstarts.of_eq rfl rfl rfl rfl, by rw [hbus]; exact hsent⟩
  | send holds event rest hphase =>
    refine hd.ended rfl rfl rfl rfl ?_ (.inr (.inr ⟨_, _, rfl⟩))
    rw [busEvents_yield]
    exact List.append_nil _
  | leave holds hphase => exact hd.ended rfl rfl rfl rfl rfl (.inl rfl)
  | cancel hphase => exact hd.ended rfl rfl rfl rfl rfl (.inr (.inl rfl))

/-- The buffer is read once, so that a miss stays one. -/
theorem Turn.missed (h : Turn bus logged c stream bus' stream') (hd : stream.Delivers log queue)
    (hmissed : stream.missed = true) : stream'.missed = true := by
  cases h with
  | catchUp missed hphase =>
    simp only [Delivers, hphase] at hd
    rw [hd.2.2.2] at hmissed
    cases hmissed
  | _ => exact hmissed

-- ════════════════════════════════════════════════════════════════════════
-- How a stream ends
-- ════════════════════════════════════════════════════════════════════════

/-- The event neither closes a stream nor tells that the execution is over. -/
def Quiet (event : StreamEvent) : Prop :=
  closesStream event = false ∧ terminalStatus? event = none

/-- Only the end closes the stream, and a terminal status comes right before it, with the same
status. -/
inductive WellEnded : List StreamEvent → Prop where
  | closed {events : List StreamEvent} {last : StreamEvent} (hquiet : ∀ e ∈ events, Quiet e)
      (hlast : closesStream last = true) : WellEnded (events ++ [last])
  | terminal {events : List StreamEvent} {event last : StreamEvent} {status : String}
      (hquiet : ∀ e ∈ events, Quiet e) (hstatus : terminalStatus? event = some status)
      (hlast : closesStream last = true)
      (hfinal : last.data.lookup "final_status" = some (.str status)) :
      WellEnded (events ++ [event, last])

/-- What a stream has sent and will send itself, by where it stands. -/
def Ends (stream : EventStream) : Prop :=
  match stream.phase with
  | .ending _ rest => WellEnded (stream.events ++ rest)
  | .returned => WellEnded stream.events
  | .cancelled => ∃ rest,
    (∀ e ∈ stream.events ++ rest, Quiet e) ∨ WellEnded (stream.events ++ rest)
  | _ => ∀ e ∈ stream.events, Quiet e

theorem events_yield (frame : Frame) (phase : Phase) :
    (stream.yield frame phase).events = stream.events ++ frame.event?.toList := by
  rw [events, events, yield, List.filterMap_append]
  cases h : frame.event? with
  | none => rw [List.filterMap_cons_none h]; rfl
  | some event => rw [List.filterMap_cons_some h]; rfl

theorem wellEnded_terminalEvents (made : Made) {row : StreamedExecution}
    (hrow : row.status.isTerminal = true) {events : List StreamEvent}
    (h : ∀ e ∈ events, Quiet e) : WellEnded (events ++ terminalEvents made row) := by
  refine @WellEnded.terminal events _ _ row.status.value h ?_ rfl rfl
  cases hstatus : row.status <;> rw [hstatus] at hrow <;> first | rfl | cases hrow

/-- An event of the bus comes, and the generator goes on or ends as it should. -/
theorem ends_afterEvent {made : Made} {executionId : String} {event : StreamEvent}
    {otherwise : Phase} {events : List StreamEvent} (h : ∀ e ∈ events, Quiet e)
    (hsent : stream.events = events ++ [event])
    (hphase : stream.phase = afterEvent made executionId event otherwise)
    (hother : otherwise = .waiting ∨ ∃ rest, otherwise = .replaying rest) : stream.Ends := by
  rw [afterEvent] at hphase
  by_cases hcloses : closesStream event = true
  · rw [if_pos hcloses] at hphase
    rw [Ends, hphase]
    change WellEnded (stream.events ++ [])
    rw [List.append_nil, hsent]
    exact .closed h hcloses
  rw [if_neg hcloses] at hphase
  cases hstatus : terminalStatus? event with
  | some status =>
    simp only [hstatus] at hphase
    simp only [Ends, hphase, hsent, List.append_assoc]
    exact .terminal h hstatus rfl rfl
  | none =>
    simp only [hstatus] at hphase
    have hquiet : ∀ e ∈ stream.events, Quiet e := by
      intro e he
      rw [hsent, List.mem_append, List.mem_singleton] at he
      obtain he | rfl := he
      · exact h e he
      · exact ⟨Bool.not_eq_true _ ▸ hcloses, hstatus⟩
    obtain rfl | ⟨rest, rfl⟩ := hother <;> rw [Ends, hphase] <;> exact hquiet

/-- **A turn** keeps how a stream ends. -/
theorem Turn.ends (h : Turn bus logged c stream bus' stream') (he : stream.Ends) :
    stream'.Ends := by
  cases h with
  | refuse made hphase hterminal =>
    simp only [Ends, hphase] at he
    have hsent : (stream.yield .retry (.ending false
        (terminalEvents made stream.execution))).events = stream.events :=
      (events_yield _ _).trans (List.append_nil _)
    change WellEnded (_ ++ terminalEvents made stream.execution)
    rw [hsent]
    exact wellEnded_terminalEvents made hterminal he
  | subscribe hphase =>
    simp only [Ends, hphase] at he
    have hsent : (stream.yield .retry .subscribed).events = stream.events :=
      (events_yield _ _).trans (List.append_nil _)
    change ∀ e ∈ (stream.yield .retry .subscribed).events, Quiet e
    rwa [hsent]
  | catchUp missed hphase =>
    simp only [Ends, hphase] at he
    exact he
  | caughtUp hphase =>
    simp only [Ends, hphase] at he
    exact he
  | replay made event rest hphase =>
    simp only [Ends, hphase] at he
    exact ends_afterEvent he (events_yield _ _) rfl (.inr ⟨rest, rfl⟩)
  | deliver made event rest hphase =>
    simp only [Ends, hphase] at he
    exact ends_afterEvent he (events_yield _ _) rfl (.inl rfl)
  | timeOut hphase =>
    simp only [Ends, hphase] at he
    exact he
  | conclude made row hphase hterminal =>
    simp only [Ends, hphase] at he
    exact wellEnded_terminalEvents made hterminal he
  | heartbeat hphase =>
    simp only [Ends, hphase] at he
    have hsent : (stream.yield .heartbeat .waiting).events = stream.events :=
      (events_yield _ _).trans (List.append_nil _)
    change ∀ e ∈ (stream.yield .heartbeat .waiting).events, Quiet e
    rwa [hsent]
  | send holds event rest hphase =>
    simp only [Ends, hphase] at he
    change WellEnded (_ ++ rest)
    rw [events_yield, List.append_assoc]
    exact he
  | leave holds hphase =>
    simp only [Ends, hphase] at he
    rw [List.append_nil] at he
    exact he
  | cancel hopen =>
    change ∃ rest, (∀ e ∈ stream.events ++ rest, Quiet e) ∨ WellEnded (stream.events ++ rest)
    cases hphase : stream.phase <;> simp only [Ends, hphase] at he
    case ending holds rest => exact ⟨rest, .inr he⟩
    case returned => rw [hphase] at hopen; cases hopen
    case cancelled => exact he
    all_goals exact ⟨[], .inl (by rwa [List.append_nil])⟩

end EventStream

-- ════════════════════════════════════════════════════════════════════════
-- Every order of turns
-- ════════════════════════════════════════════════════════════════════════

namespace StreamServer

/-- What holds whatever happens. -/
structure Sound (s : StreamServer) : Prop where
  keeps : s.bus.Keeps s.log
  ids : ∀ x, ((s.log x).map (·.id)).Nodup
  subscribers : ∀ x c, c ∈ s.bus.subscribersOf x ↔
    ∃ stream, s.streams[c]? = some stream ∧ stream.execution.id = x ∧
      stream.phase.isSubscribed = true
  popped : ∀ x, s.bus.subscribers x ≠ some ∅
  delivers : ∀ (c : ℕ) (stream : EventStream), s.streams[c]? = some stream →
    stream.Delivers (s.log stream.execution.id) (s.bus.queues c)
  ends : ∀ (c : ℕ) (stream : EventStream), s.streams[c]? = some stream → stream.Ends

theorem sound_start : start.Sound where
  keeps := ExecutionEventBus.keeps_empty
  ids _ := List.nodup_nil
  subscribers x c := by simp [start]
  popped _ := (Option.some_ne_none ∅).symm
  delivers c stream h := by simp [start] at h
  ends c stream h := by simp [start] at h

variable {s s' : StreamServer}

/-- What a step is: an emission, a new stream, or a turn. -/
theorem step_cases {action : StreamAction} (h : s.step action = some s') :
    (∃ executionId event, action = .emit executionId event ∧ s' =
      { s with
        bus := s.bus.asyncEmit executionId event
        log := Function.update s.log executionId (s.log executionId ++ [event]) }) ∨
    (∃ execution last, s' =
      { s with
        streams := s.streams ++ [.accepted execution last (s.log execution.id).length] }) ∨
    ∃ c stream bus' stream', s.streams[c]? = some stream ∧
      stream.Turn s.bus (s.log stream.execution.id).length c bus' stream' ∧
      s' = { s with bus := bus', streams := s.streams.set c stream' } := by
  have hturn : ∀ c go, s.turn c go = some s' → ∃ stream bus' stream',
      s.streams[c]? = some stream ∧ go stream = some (bus', stream') ∧
        s' = { s with bus := bus', streams := s.streams.set c stream' } := by
    intro c go hgo
    rw [turn] at hgo
    cases hstream : s.streams[c]? with
    | none => rw [hstream] at hgo; cases hgo
    | some stream =>
      rw [hstream] at hgo
      obtain ⟨⟨bus', stream'⟩, hres, rfl⟩ := Option.map_eq_some_iff.1 hgo
      exact ⟨stream, bus', stream', rfl, hres, rfl⟩
  cases action with
  | emit executionId event =>
    cases h
    exact .inl ⟨executionId, event, rfl, rfl⟩
  | accept execution last =>
    cases h
    exact .inr (.inl ⟨execution, last, rfl⟩)
  | next c made =>
    obtain ⟨stream, bus', stream', hstream, hgo, rfl⟩ := hturn c _ h
    exact .inr (.inr ⟨c, stream, bus', stream', hstream, EventStream.turn_of_next hgo, rfl⟩)
  | timeOut c =>
    obtain ⟨stream, bus', stream', hstream, hgo, rfl⟩ := hturn c _ h
    exact .inr (.inr ⟨c, stream, bus', stream', hstream, EventStream.turn_of_timeOut hgo, rfl⟩)
  | reconcile c made row =>
    obtain ⟨stream, bus', stream', hstream, hgo, rfl⟩ := hturn c _ h
    exact .inr (.inr ⟨c, stream, bus', stream', hstream, EventStream.turn_of_reconcile hgo, rfl⟩)
  | cancel c =>
    obtain ⟨stream, bus', stream', hstream, hgo, rfl⟩ := hturn c _ h
    exact .inr (.inr ⟨c, stream, bus', stream', hstream, EventStream.turn_of_cancel hgo, rfl⟩)

theorem Sound.emit (h : s.Sound) {executionId : String} {event : StreamEvent}
    (hfresh : event.id ∉ (s.log executionId).map (·.id)) :
    Sound { s with
      bus := s.bus.asyncEmit executionId event
      log := Function.update s.log executionId (s.log executionId ++ [event]) } where
  keeps := ExecutionEventBus.keeps_asyncEmit _ _ h.keeps
  ids x := by
    change ((Function.update s.log executionId (s.log executionId ++ [event]) x).map (·.id)).Nodup
    by_cases hx : x = executionId
    · subst hx
      rw [Function.update_self, List.map_append, List.nodup_append]
      refine ⟨h.ids x, List.nodup_singleton _, fun id hid id' hid' heq => ?_⟩
      rw [List.map_singleton, List.mem_singleton] at hid'
      exact hfresh (hid' ▸ heq ▸ hid)
    · rw [Function.update_of_ne hx]
      exact h.ids x
  subscribers := h.subscribers
  popped := h.popped
  delivers c stream hstream := by
    have hd := h.delivers c stream hstream
    by_cases hx : stream.execution.id = executionId
    · subst hx
      have hsub : c ∈ s.bus.subscribersOf stream.execution.id ↔
          stream.phase.isSubscribed = true := by
        rw [h.subscribers]
        constructor
        · rintro ⟨stream', hstream', -, hphase⟩
          rw [hstream, Option.some.injEq] at hstream'
          exact hstream' ▸ hphase
        · exact fun hphase => ⟨stream, hstream, rfl, hphase⟩
      simp only [Function.update_self, ExecutionEventBus.asyncEmit, hsub]
      exact hd.emit event
    · have hnot : c ∉ s.bus.subscribersOf executionId := by
        rw [h.subscribers]
        rintro ⟨stream', hstream', hid, -⟩
        rw [hstream, Option.some.injEq] at hstream'
        exact hx (hstream' ▸ hid)
      simp only [Function.update_of_ne hx, ExecutionEventBus.asyncEmit, if_neg hnot]
      exact hd
  ends := h.ends

theorem getElem?_accept {new stream : EventStream} {c : ℕ} :
    (s.streams ++ [new])[c]? = some stream ↔
      s.streams[c]? = some stream ∨ c = s.streams.length ∧ stream = new := by
  rw [List.getElem?_append]
  by_cases hc : c < s.streams.length
  · rw [if_pos hc]
    constructor
    · exact .inl
    · rintro (h | ⟨rfl, -⟩)
      · exact h
      · exact absurd hc (lt_irrefl _)
  · rw [if_neg hc, List.getElem?_eq_none (Nat.le_of_not_lt hc), List.getElem?_singleton]
    by_cases heq : c - s.streams.length = 0
    · have hlen : c = s.streams.length := by omega
      simp [hlen, eq_comm]
    · have hlen : c ≠ s.streams.length := by omega
      simp [heq, hlen]

theorem Sound.accept (h : s.Sound) (execution : StreamedExecution) (last : Option String) :
    Sound { s with
      streams := s.streams ++ [.accepted execution last (s.log execution.id).length] } where
  keeps := h.keeps
  ids := h.ids
  subscribers x c := by
    rw [h.subscribers x c]
    constructor
    · rintro ⟨stream, hstream, hid, hphase⟩
      exact ⟨stream, getElem?_accept.2 (.inl hstream), hid, hphase⟩
    · rintro ⟨stream, hstream, hid, hphase⟩
      obtain hold | ⟨-, rfl⟩ := getElem?_accept.1 hstream
      · exact ⟨stream, hold, hid, hphase⟩
      · cases hphase
  popped := h.popped
  delivers c stream hstream := by
    obtain hold | ⟨-, rfl⟩ := getElem?_accept.1 hstream
    · exact h.delivers c stream hold
    · exact ⟨rfl, rfl⟩
  ends c stream hstream := by
    obtain hold | ⟨-, rfl⟩ := getElem?_accept.1 hstream
    · exact h.ends c stream hold
    · intro e he
      cases he

theorem getElem?_turn {stream stream' : EventStream} {c q : ℕ} :
    (s.streams.set c stream')[q]? = some stream ↔
      q = c ∧ c < s.streams.length ∧ stream = stream' ∨ q ≠ c ∧ s.streams[q]? = some stream := by
  rw [List.getElem?_set]
  by_cases hq : c = q
  · subst hq
    by_cases hc : c < s.streams.length
    · simp [hc, eq_comm]
    · simp [hc]
  · simp [hq, Ne.symm hq, eq_comm]

theorem Sound.turn (h : s.Sound) {c : ℕ} {stream stream' : EventStream} {bus' : ExecutionEventBus}
    (hstream : s.streams[c]? = some stream)
    (hturn : stream.Turn s.bus (s.log stream.execution.id).length c bus' stream') :
    Sound { s with bus := bus', streams := s.streams.set c stream' } where
  keeps := hturn.keeps h.keeps
  ids := h.ids
  subscribers x q := by
    have hc : ∀ x, c ∈ s.bus.subscribersOf x ↔
        stream.execution.id = x ∧ stream.phase.isSubscribed = true := by
      intro x
      rw [h.subscribers]
      constructor
      · rintro ⟨old, hold, hid, hphase⟩
        rw [hstream, Option.some.injEq] at hold
        exact hold ▸ ⟨hid, hphase⟩
      · exact fun hold => ⟨stream, hstream, hold⟩
    have hlen : c < s.streams.length := (List.getElem?_eq_some_iff.1 hstream).1
    rw [hturn.subscribers hc x q]
    by_cases hq : q = c
    · rw [if_pos hq]
      constructor
      · rintro ⟨hid, hphase⟩
        exact ⟨stream', getElem?_turn.2 (.inl ⟨hq, hlen, rfl⟩), by rw [hturn.kept.1]; exact hid,
          hphase⟩
      · rintro ⟨new, hnew, hid, hphase⟩
        obtain ⟨-, -, rfl⟩ | ⟨hne, -⟩ := getElem?_turn.1 hnew
        · exact ⟨by rw [← hturn.kept.1]; exact hid, hphase⟩
        · exact absurd hq hne
    · rw [if_neg hq, h.subscribers x q]
      constructor
      · rintro ⟨old, hold, hrest⟩
        exact ⟨old, getElem?_turn.2 (.inr ⟨hq, hold⟩), hrest⟩
      · rintro ⟨old, hold, hrest⟩
        obtain ⟨hq', -⟩ | ⟨-, hold⟩ := getElem?_turn.1 hold
        · exact absurd hq' hq
        · exact ⟨old, hold, hrest⟩
  popped x := hturn.popped (h.popped x)
  delivers q new hnew := by
    obtain ⟨rfl, -, rfl⟩ | ⟨hne, hold⟩ := getElem?_turn.1 hnew
    · rw [hturn.kept.1]
      exact hturn.delivers h.keeps (h.ids _) (h.delivers _ stream hstream)
    · simp only [hturn.queues hne]
      exact h.delivers q new hold
  ends q new hnew := by
    obtain ⟨rfl, -, rfl⟩ | ⟨-, hold⟩ := getElem?_turn.1 hnew
    · exact hturn.ends (h.ends _ stream hstream)
    · exact h.ends q new hold

theorem Sound.step (h : s.Sound) {action : StreamAction} (hfresh : s.Fresh action)
    (hstep : s.step action = some s') : s'.Sound := by
  obtain ⟨executionId, event, rfl, rfl⟩ | ⟨execution, last, rfl⟩ |
    ⟨c, stream, bus', stream', hstream, hturn, rfl⟩ := step_cases hstep
  · exact h.emit hfresh
  · exact h.accept execution last
  · exact h.turn hstream hturn

theorem Reachable.sound (h : s.Reachable) : s.Sound := by
  induction h with
  | start => exact sound_start
  | step action _ hfresh hstep ih => exact ih.step hfresh hstep

theorem step_log {action : StreamAction} (hstep : s.step action = some s') (x : String) :
    ∃ more, s'.log x = s.log x ++ more := by
  obtain ⟨executionId, event, -, rfl⟩ | ⟨execution, last, rfl⟩ |
    ⟨c, stream, bus', stream', hstream, hturn, rfl⟩ := step_cases hstep
  · by_cases hx : x = executionId
    · subst hx
      exact ⟨[event], Function.update_self ..⟩
    · exact ⟨[], (Function.update_of_ne hx ..).trans (List.append_nil _).symm⟩
  · exact ⟨[], (List.append_nil _).symm⟩
  · exact ⟨[], (List.append_nil _).symm⟩

/-- What a step leaves of a stream: what it has sent stays, and so does a miss. -/
theorem Sound.step_stream (h : s.Sound) {action : StreamAction} (hstep : s.step action = some s')
    {c : ℕ} {stream : EventStream} (hstream : s.streams[c]? = some stream) :
    ∃ stream', s'.streams[c]? = some stream' ∧ stream'.execution = stream.execution ∧
      stream'.lastEventId = stream.lastEventId ∧ stream.sent <+: stream'.sent ∧
      (stream'.since = stream.since ∨ stream'.since = (s.log stream.execution.id).length) ∧
      (stream.missed = true → stream'.missed = true) := by
  obtain ⟨executionId, event, -, rfl⟩ | ⟨execution, last, rfl⟩ |
    ⟨q, old, bus', new, hold, hturn, rfl⟩ := step_cases hstep
  · exact ⟨stream, hstream, rfl, rfl, List.prefix_refl _, .inl rfl, id⟩
  · exact ⟨stream, getElem?_accept.2 (.inl hstream), rfl, rfl, List.prefix_refl _, .inl rfl, id⟩
  · by_cases hq : c = q
    · subst hq
      obtain rfl : old = stream := Option.some.inj (hold.symm.trans hstream)
      have hlen := (List.getElem?_eq_some_iff.1 hstream).1
      refine ⟨new, getElem?_turn.2 (.inl ⟨rfl, hlen, rfl⟩), hturn.kept.1, hturn.kept.2,
        hturn.grows.1, hturn.grows.2, hturn.missed (h.delivers c old hold)⟩
    · exact ⟨stream, getElem?_turn.2 (.inr ⟨hq, hstream⟩), rfl, rfl, List.prefix_refl _, .inl rfl,
        id⟩

/-- A stream that has sent the one event of its execution, and waits. -/
theorem reachable_waiting : ∃ (s : StreamServer) (stream : EventStream), s.Reachable ∧
    s.streams[0]? = some stream ∧ stream.phase = .waiting ∧ stream.busEvents.length = 1 := by
  let row : StreamedExecution := ⟨"execution", .running, none, none⟩
  let made : Made := ⟨"status", "closed", "now"⟩
  have h1 := Reachable.step (.accept row none) .start trivial rfl
  have h2 := Reachable.step (.next 0 made) h1 trivial rfl
  have h3 := Reachable.step (.next 0 made) h2 trivial rfl
  have h4 := Reachable.step (.next 0 made) h3 trivial rfl
  have h5 := Reachable.step (.emit "execution" ⟨"first", "step.status_changed", []⟩) h4
    (List.not_mem_nil : "first" ∉ []) rfl
  have h6 := Reachable.step (.next 0 made) h5 trivial rfl
  refine ⟨_, _, h6, rfl, ?_, ?_⟩
  · rfl
  · rfl

/-- **What a stream sends**, whatever services, other streams and browsers do in between: the
events of its execution after the one that the browser named, in their order, first those that are
there when the buffer is read and then those since the subscription. While the generator waits,
everything of it is sent or in its queue, and when nothing was emitted between the subscription and
the reading of the buffer, every event comes once. -/
theorem Reachable.stream_sends (h : s.Reachable) {c : ℕ} {stream : EventStream}
    (hstream : s.streams[c]? = some stream) :
    (stream.busEvents = [] ∨ ∃ start, stream.Starts (s.log stream.execution.id) start ∧
      stream.busEvents <+: resumed (s.log stream.execution.id) start stream.upTo stream.since) ∧
    (stream.phase = .waiting → ∃ start, stream.Starts (s.log stream.execution.id) start ∧
      stream.busEvents ++ s.bus.queues c =
        resumed (s.log stream.execution.id) start stream.upTo stream.since) ∧
    ∀ start, stream.Starts (s.log stream.execution.id) start → stream.since = stream.upTo →
      resumed (s.log stream.execution.id) start stream.upTo stream.since =
        (s.log stream.execution.id).drop start := by
  have hdelivers := h.sound.delivers c stream hstream
  refine ⟨hdelivers.busEvents_prefix, fun hphase => ?_, fun start hstarts heq => ?_⟩
  · simp only [EventStream.Delivers, hphase] at hdelivers
    exact hdelivers
  · rw [heq]
    exact resumed_of_eq hstarts.start_le

theorem stream_sends_waiting : ∃ (s : StreamServer) (stream : EventStream) (start : ℕ),
    stream.busEvents.length = 1 ∧ stream.busEvents ++ s.bus.queues 0 =
      resumed (s.log stream.execution.id) start stream.upTo stream.since := by
  obtain ⟨s, stream, hreachable, hstream, hphase, hone⟩ := reachable_waiting
  obtain ⟨start, -, hsent⟩ := (Reachable.stream_sends hreachable hstream).2.1 hphase
  exact ⟨s, stream, start, hone, hsent⟩

/-- **How a stream ends**: one that returns has sent exactly one event that closes it, its last,
and a terminal status only right before it, as the final one. One that the browser left was on the
way there. -/
theorem Reachable.stream_ends (h : s.Reachable) {c : ℕ} {stream : EventStream}
    (hstream : s.streams[c]? = some stream) :
    (stream.phase = .returned → EventStream.WellEnded stream.events) ∧
    ∃ rest, (∀ e ∈ stream.events ++ rest, EventStream.Quiet e) ∨
      EventStream.WellEnded (stream.events ++ rest) := by
  have hends := h.sound.ends c stream hstream
  rw [EventStream.Ends] at hends
  constructor
  · intro hphase
    rwa [hphase] at hends
  · cases hphase : stream.phase <;> simp only [hphase] at hends
    case ending holds rest => exact ⟨rest, .inr hends⟩
    case returned => exact ⟨[], .inr (by rwa [List.append_nil])⟩
    case cancelled => exact hends
    all_goals exact ⟨[], .inl (by rwa [List.append_nil])⟩

theorem stream_ends_waiting : ∃ (stream : EventStream) (rest : List StreamEvent),
    stream.busEvents.length = 1 ∧ ((∀ e ∈ stream.events ++ rest, EventStream.Quiet e) ∨
      EventStream.WellEnded (stream.events ++ rest)) := by
  obtain ⟨s, stream, hreachable, hstream, -, hone⟩ := reachable_waiting
  obtain ⟨rest, hrest⟩ := (Reachable.stream_ends hreachable hstream).2
  exact ⟨stream, rest, hone, hrest⟩

/-- **What the bus holds**: entries for exactly the executions that an open stream is subscribed to,
with its queue, and buffers of at most `_MAX_BUFFER_SIZE` events, the last ones of their
executions. -/
theorem Reachable.bus_holds (h : s.Reachable) :
    (∀ x c, c ∈ s.bus.subscribersOf x ↔ ∃ stream, s.streams[c]? = some stream ∧
      stream.execution.id = x ∧ stream.phase.isSubscribed = true) ∧
    (∀ x, s.bus.subscribers x ≠ none ↔ ∃ (c : ℕ) (stream : EventStream),
      s.streams[c]? = some stream ∧ stream.execution.id = x ∧
        stream.phase.isSubscribed = true) ∧
    ∀ x, ∀ buffer ∈ s.bus.buffers x,
      buffer.length ≤ ExecutionEventBus.maxBufferSize ∧ buffer <:+ s.log x := by
  refine ⟨h.sound.subscribers, fun x => ?_, fun x buffer hbuffer => ?_⟩
  · constructor
    · intro hsome
      obtain ⟨subs, hsubs⟩ := Option.ne_none_iff_exists'.1 hsome
      have hne : subs ≠ ∅ := by
        rintro rfl
        exact h.sound.popped x hsubs
      obtain ⟨c, hc⟩ := Finset.nonempty_iff_ne_empty.2 hne
      refine ⟨c, (h.sound.subscribers x c).1 ?_⟩
      rw [ExecutionEventBus.subscribersOf, hsubs]
      exact hc
    · rintro ⟨c, hstream⟩ hnone
      have hc := (h.sound.subscribers x c).2 hstream
      rw [ExecutionEventBus.subscribersOf, hnone] at hc
      exact absurd hc (Finset.notMem_empty c)
  · obtain ⟨opened, hopened, rfl⟩ := h.sound.keeps x buffer hbuffer
    refine ⟨?_, List.drop_suffix _ _⟩
    rw [List.length_drop]
    omega

theorem bus_holds_waiting : ∃ (s : StreamServer) (stream : EventStream),
    s.streams[0]? = some stream ∧ 0 ∈ s.bus.subscribersOf stream.execution.id := by
  obtain ⟨s, stream, hreachable, hstream, hphase, -⟩ := reachable_waiting
  refine ⟨s, stream, hstream, ((Reachable.bus_holds hreachable).1 _ _).2 ⟨stream, hstream, rfl, ?_⟩⟩
  rw [hphase]
  rfl

end StreamServer

end RunbookPlatform
