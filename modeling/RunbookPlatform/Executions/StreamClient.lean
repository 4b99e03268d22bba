import RunbookPlatform.Executions.StreamDelivery
import RunbookPlatform.Executions.StreamEvents

/-!
# A browser that follows an execution

The browser opens a stream, and opens another one when it breaks, with the id of the event that
came last. It patches its cached execution with every event that comes, so also with those that
come twice. Whatever else happens on the server, and wherever its connections break, it follows the
events of the execution from the first one that came.

## Main definitions

- `StreamClient` — the browser: its connection, and the events that have come
- `StreamSystem`, `StreamSystem.step` — the browser and the server
- `StreamSystem.Follows` — the browser follows the events of its execution

## Main results

- `Reachable.follows` — over every run of the system
- `Reachable.patched_once` — the cached execution is patched with every event once
-/

namespace RunbookPlatform

open Streams

-- ════════════════════════════════════════════════════════════════════════
-- The browser
-- ════════════════════════════════════════════════════════════════════════

/-- `useExecutionStream`, with the connection of its `fetchEventSource`. The last two fields are
history: all its streams, and whether an event came that the server has made itself. -/
structure StreamClient where
  executionId : String
  /-- The events handed to `onmessage`, over all connections. -/
  messages : List StreamEvent
  connection : Option ℕ
  /-- The frames of the connection that have come. -/
  read : ℕ
  streams : List ℕ
  ended : Bool

namespace StreamClient

/-- The header `Last-Event-ID` of the next request. -/
def lastEventId (client : StreamClient) : Option String := client.messages.getLast?.map (·.id)

/-- The frame was made by the server, and does not come from the bus. -/
def isOwn : Frame → Bool
  | .message _ .server => true
  | _ => false

/-- A frame comes; heartbeats and the retry time patch nothing. -/
def receive (client : StreamClient) (frame : Frame) : StreamClient :=
  { client with
    messages := client.messages ++ frame.event?.toList
    read := client.read + 1
    ended := client.ended || isOwn frame }

end StreamClient

/-- The server and one browser; the other browsers are streams that the server serves. -/
structure StreamSystem where
  server : StreamServer
  client : StreamClient

/-- What happens next: something on the server, or the browser opens a stream with the row that the
view reads, gets a frame, or loses its connection. -/
inductive SystemAction where
  | server (action : StreamAction)
  | connect (execution : StreamedExecution)
  | receive
  | lose

namespace StreamSystem

/-- The page is opened. -/
def start (server : StreamServer) (executionId : String) : StreamSystem where
  server := server
  client :=
    { executionId, messages := [], connection := none, read := 0, streams := [], ended := false }

/-- What happens. -/
def step (s : StreamSystem) : SystemAction → Option StreamSystem
  | .server action => (s.server.step action).map fun server => { s with server }
  | .connect execution =>
    if s.client.connection = none ∧ execution.id = s.client.executionId then
      (s.server.step (.accept execution s.client.lastEventId)).map fun server =>
        { server
          client :=
            { s.client with
              connection := some s.server.streams.length
              read := 0
              streams := s.client.streams ++ [s.server.streams.length] } }
    else none
  | .receive =>
    match s.client.connection with
    | none => none
    | some c =>
      match (s.server.streams[c]?).bind fun stream => stream.sent[s.client.read]? with
      | none => none
      | some frame => some { s with client := s.client.receive frame }
  | .lose => some { s with client := { s.client with connection := none } }

/-- Ids of events are fresh. -/
def Fresh (s : StreamSystem) : SystemAction → Prop
  | .server action => s.server.Fresh action
  | _ => True

/-- What the page can see from the time on when it is opened. -/
inductive Reachable : StreamSystem → Prop where
  | start {server : StreamServer} (h : server.Reachable) (executionId : String) :
      Reachable (start server executionId)
  | step {s s' : StreamSystem} (action : SystemAction) (h : Reachable s)
    (hfresh : s.Fresh action) (hstep : s.step action = some s') : Reachable s'

/-- A stream of the browser has found that the buffer is past the event that came last. -/
def Missed (s : StreamSystem) : Prop :=
  ∃ c ∈ s.client.streams, ∃ stream, s.server.streams[c]? = some stream ∧ stream.missed = true

/-- The browser has read all that its stream has sent, and the stream waits with nothing to send. -/
def Drained (s : StreamSystem) : Prop :=
  ∃ c stream, s.client.connection = some c ∧ s.server.streams[c]? = some stream ∧
    stream.phase = .waiting ∧ s.server.bus.queues c = [] ∧ stream.sent.length ≤ s.client.read

end StreamSystem

-- ════════════════════════════════════════════════════════════════════════
-- Following
-- ════════════════════════════════════════════════════════════════════════

variable {S : Type*} {step : S → StreamEvent → S}

namespace StreamSystem

/-- What the browser has of its connection: the stream is one of its execution, opened with the id
of the event that had come last, and subscribed after it. -/
structure Connected (s : StreamSystem) (got : List StreamEvent) (next c : ℕ)
    (stream : EventStream) : Prop where
  stream_eq : s.server.streams[c]? = some stream
  mem : c ∈ s.client.streams
  execution : stream.execution.id = s.client.executionId
  named : stream.lastEventId = got.getLast?.map (·.id)
  read_le : s.client.read ≤ stream.sent.length
  messages : s.client.messages =
    got ++ (stream.sent.take s.client.read).filterMap Frame.event?
  bus : ∀ frame ∈ stream.sent.take s.client.read, StreamClient.isOwn frame = false
  next_le : next ≤ stream.since

/-- The browser followed the events of its execution when it opened its last stream. -/
def Follows (step : S → StreamEvent → S) (s : StreamSystem) : Prop :=
  ∃ got first next, Streams.Follows step (s.server.log s.client.executionId) got first next ∧
    match s.client.connection with
    | none => s.client.messages = got
    | some c => ∃ stream, s.Connected got next c stream

/-- The events of frames that the server did not make itself come from the bus. -/
theorem filterMap_event? {frames : List Frame}
    (h : ∀ frame ∈ frames, StreamClient.isOwn frame = false) :
    frames.filterMap Frame.event? = frames.filterMap Frame.busEvent? := by
  refine List.filterMap_congr fun frame hframe => ?_
  have hown := h frame hframe
  match frame with
  | .retry => rfl
  | .heartbeat => rfl
  | .message event .buffer => rfl
  | .message event .queue => rfl
  | .message event .server => cases hown

/-- Where a stream starts that was opened with the id of the event that the browser read last: it
carries what a channel carries that is opened there. -/
theorem follows_starts {log got : List StreamEvent} {first next start : ℕ} {stream : EventStream}
    (hgot : Streams.Follows step log got first next) (hids : (log.map (·.id)).Nodup)
    (hstarts : stream.Starts log start) (hmissed : stream.missed = false)
    (hnamed : stream.lastEventId = got.getLast?.map (·.id)) (hnext : next ≤ stream.since) :
    ∃ first next upTo, Streams.Follows step log got first next ∧ next ≤ stream.since ∧
      stream.since ≤ upTo ∧ upTo ≤ log.length ∧
      resumed log start stream.upTo stream.since = resumed log next upTo stream.since := by
  by_cases hempty : got = []
  · -- Nothing has come: whatever the stream carries is the first.
    subst hempty
    have hsince : stream.since ≤ log.length := hstarts.since_le.trans hstarts.upTo_le
    have heq : start = stream.upTo := hstarts.unnamed (.inl hnamed)
    refine ⟨stream.since, stream.since, stream.since, .nil step hsince, le_refl _, le_refl _,
      hsince, ?_⟩
    rw [heq, resumed, resumed, span_self, span_self]
  · have hlast := hgot.last hempty
    have hlt := (hgot.head hempty).1
    have hle := hgot.next_le
    have hpos : next - 1 < log.length := by omega
    rw [List.getElem?_eq_getElem hpos] at hlast
    rw [hlast, Option.map_some] at hnamed
    obtain ⟨i, hi, hevent⟩ := hstarts.named (by rw [hnamed]; exact Option.some_ne_none _) hmissed
    have hilen : i < log.length := by
      have hstart := hstarts.start_le
      have hupTo := hstarts.upTo_le
      omega
    rw [List.getElem?_eq_getElem hilen, Option.map_some, hnamed, Option.some.injEq] at hevent
    -- Ids are distinct, so the stream has found the event that was read last.
    have heq : i = next - 1 := ExecutionEventBus.index_eq hids hilen hpos hevent
    have hstart : start = next := by omega
    refine ⟨first, next, stream.upTo, hgot, hnext, hstarts.since_le, hstarts.upTo_le, ?_⟩
    rw [hstart]

/-- Reading some of what a stream carries. -/
theorem follows_read (hstep : Replayable step) {log got read unread : List StreamEvent}
    {first next start : ℕ} {stream : EventStream}
    (hgot : Streams.Follows step log got first next) (hids : (log.map (·.id)).Nodup)
    (hstarts : stream.Starts log start) (hmissed : stream.missed = false)
    (hnamed : stream.lastEventId = got.getLast?.map (·.id)) (hnext : next ≤ stream.since)
    (hread : read ++ unread = resumed log start stream.upTo stream.since) :
    ∃ first next, Streams.Follows step log (got ++ read) first next ∧
      (unread = [] → next = log.length) := by
  obtain ⟨first', next', upTo, hgot', hsince, hupTo, hlen, heq⟩ :=
    follows_starts hgot hids hstarts hmissed hnamed hnext
  rw [heq] at hread
  refine ⟨first', _, hgot'.resume hstep hsince hupTo hlen hread, ?_⟩
  rintro rfl
  rw [List.append_nil] at hread
  rw [hread]
  exact cursor_length (hsince.trans hupTo) hupTo hlen

/-- **Where the browser is**: after what it has read of its connection, it follows the events of its
execution; and when nothing is left to read, it is at their end. -/
theorem Connected.follows (hstep : Replayable step) {s : StreamSystem} {got : List StreamEvent}
    {first next c : ℕ} {stream : EventStream} (h : s.Connected got next c stream)
    (hconnection : s.client.connection = some c) (hsound : s.server.Sound) (hmissed : ¬s.Missed)
    (hgot : Streams.Follows step (s.server.log s.client.executionId) got first next) :
    ∃ first next, Streams.Follows step (s.server.log s.client.executionId) s.client.messages first
      next ∧ (s.Drained → next = (s.server.log s.client.executionId).length) := by
  have hids := hsound.ids s.client.executionId
  have hfound : stream.missed = false := by
    by_contra hmiss
    exact hmissed ⟨c, h.mem, stream, h.stream_eq, Bool.not_eq_false _ ▸ hmiss⟩
  have hdelivers := hsound.delivers c stream h.stream_eq
  rw [h.execution] at hdelivers
  have hread : (stream.sent.take s.client.read).filterMap Frame.event? <+: stream.busEvents := by
    rw [filterMap_event? h.bus]
    exact (List.take_prefix _ _).filterMap _
  rw [h.messages]
  by_cases hdrained : s.Drained
  · obtain ⟨c', stream', hc', hstream', hphase, hqueue, hall⟩ := hdrained
    obtain rfl : c' = c := Option.some.inj (hc'.symm.trans hconnection)
    obtain rfl : stream' = stream := Option.some.inj (hstream'.symm.trans h.stream_eq)
    simp only [EventStream.Delivers, hphase] at hdelivers
    obtain ⟨start, hstarts, hsent⟩ := hdelivers
    have heq : (stream'.sent.take s.client.read).filterMap Frame.event? = stream'.busEvents := by
      rw [filterMap_event? h.bus, List.take_of_length_le hall]
      rfl
    rw [hqueue, ← heq] at hsent
    obtain ⟨first', next', hfollows, hend⟩ :=
      follows_read hstep hgot hids hstarts hfound h.named h.next_le hsent
    exact ⟨first', next', hfollows, fun _ => hend rfl⟩
  · obtain hnil | ⟨start, hstarts, hsent⟩ := hdelivers.busEvents_prefix
    · rw [hnil, List.prefix_nil] at hread
      rw [hread, List.append_nil]
      exact ⟨first, next, hgot, fun h => absurd h hdrained⟩
    · obtain ⟨unread, hunread⟩ := hread.trans hsent
      obtain ⟨first', next', hfollows, -⟩ :=
        follows_read hstep hgot hids hstarts hfound h.named h.next_le hunread
      exact ⟨first', next', hfollows, fun h => absurd h hdrained⟩

-- ════════════════════════════════════════════════════════════════════════
-- Every run
-- ════════════════════════════════════════════════════════════════════════

variable {s s' : StreamSystem}

theorem Reachable.sound (h : s.Reachable) : s.server.Sound := by
  induction h with
  | start hserver => exact hserver.sound
  | @step s s' action hreachable hfresh hstep ih =>
    cases action with
    | server action =>
      obtain ⟨server, hserver, rfl⟩ := Option.map_eq_some_iff.1 hstep
      exact ih.step hfresh hserver
    | connect execution =>
      rw [StreamSystem.step] at hstep
      split at hstep
      · obtain ⟨server, hserver, rfl⟩ := Option.map_eq_some_iff.1 hstep
        have haccept : s.server.Fresh (.accept execution s.client.lastEventId) := trivial
        exact ih.step haccept hserver
      · cases hstep
    | receive =>
      rw [StreamSystem.step] at hstep
      split at hstep
      · cases hstep
      · split at hstep
        · cases hstep
        · cases hstep
          exact ih
    | lose =>
      cases hstep
      exact ih

/-- Something happens on the server. -/
theorem Follows.server {action : StreamAction} {server : StreamServer}
    (h : s.Follows step) (hsound : s.server.Sound) (hstep : s.server.step action = some server) :
    Follows step { s with server } := by
  obtain ⟨got, first, next, hgot, hconnection⟩ := h
  obtain ⟨more, hmore⟩ := StreamServer.step_log hstep s.client.executionId
  refine ⟨got, first, next, ?_, ?_⟩
  · change Streams.Follows step (server.log s.client.executionId) got first next
    rw [hmore]
    exact hgot.append more
  · cases hc : s.client.connection with
    | none => simpa only [hc] using hconnection
    | some c =>
      simp only [hc] at hconnection ⊢
      obtain ⟨stream, hstream⟩ := hconnection
      obtain ⟨stream', heq, hexecution, hlast, hsent, hsince, -⟩ :=
        hsound.step_stream hstep hstream.stream_eq
      have htake : stream'.sent.take s.client.read = stream.sent.take s.client.read := by
        obtain ⟨frames, hframes⟩ := hsent
        rw [← hframes, List.take_append_of_le_length hstream.read_le]
      refine ⟨stream', heq, hstream.mem, ?_, ?_, ?_, ?_, ?_, ?_⟩
      · rw [hexecution]; exact hstream.execution
      · rw [hlast]; exact hstream.named
      · exact hstream.read_le.trans hsent.length_le
      · rw [htake]; exact hstream.messages
      · rw [htake]; exact hstream.bus
      · obtain hkept | hnow := hsince
        · rw [hkept]; exact hstream.next_le
        · rw [hnow, hstream.execution]; exact hgot.next_le

/-- The browser opens a stream. -/
theorem Follows.connect {execution : StreamedExecution} {server : StreamServer}
    (h : s.Follows step) (hconnection : s.client.connection = none)
    (hid : execution.id = s.client.executionId)
    (hstep : s.server.step (.accept execution s.client.lastEventId) = some server) :
    Follows step
      { server
        client :=
          { s.client with
            connection := some s.server.streams.length
            read := 0
            streams := s.client.streams ++ [s.server.streams.length] } } := by
  obtain ⟨got, first, next, hgot, hmessages⟩ := h
  simp only [hconnection] at hmessages
  cases hstep
  refine ⟨got, first, next, hgot, _, StreamServer.getElem?_accept.2 (.inr ⟨rfl, rfl⟩),
    List.mem_append_right _ (List.mem_singleton_self _), hid, ?_, Nat.zero_le _, ?_, ?_, ?_⟩
  · change s.client.messages.getLast?.map (·.id) = _
    rw [hmessages]
  · exact hmessages.trans (List.append_nil _).symm
  · intro frame hframe
    cases hframe
  · change next ≤ (s.server.log execution.id).length
    rw [hid]
    exact hgot.next_le

/-- The browser gets a frame that comes from the bus. -/
theorem Follows.receive (h : s.Follows step) {c : ℕ} {frame : Frame}
    (hconnection : s.client.connection = some c)
    (hframe : ((s.server.streams[c]?).bind fun stream => stream.sent[s.client.read]?) = some frame)
    (hown : StreamClient.isOwn frame = false) :
    Follows step { s with client := s.client.receive frame } := by
  obtain ⟨got, first, next, hgot, hconnected⟩ := h
  simp only [hconnection] at hconnected
  obtain ⟨stream, hstream⟩ := hconnected
  rw [hstream.stream_eq, Option.bind_some] at hframe
  obtain ⟨hlt, hget⟩ := List.getElem?_eq_some_iff.1 hframe
  have htake : stream.sent.take (s.client.read + 1) =
      stream.sent.take s.client.read ++ [frame] := by
    rw [List.take_add_one, hframe]
    rfl
  refine ⟨got, first, next, hgot, ?_⟩
  have hconnection' : (s.client.receive frame).connection = some c := hconnection
  simp only [hconnection']
  refine ⟨stream, hstream.stream_eq, hstream.mem, hstream.execution, hstream.named, hlt, ?_, ?_,
    hstream.next_le⟩
  · change s.client.messages ++ frame.event?.toList =
      got ++ (stream.sent.take (s.client.read + 1)).filterMap Frame.event?
    rw [htake, List.filterMap_append, ← List.append_assoc, ← hstream.messages]
    cases hevent : frame.event? with
    | none => rw [List.filterMap_cons_none hevent]; rfl
    | some event => rw [List.filterMap_cons_some hevent]; rfl
  · intro f hf
    change f ∈ stream.sent.take (s.client.read + 1) at hf
    rw [htake, List.mem_append, List.mem_singleton] at hf
    obtain hf | rfl := hf
    · exact hstream.bus f hf
    · exact hown

/-- What a browser has missed it has missed for good. -/
theorem Missed.kept {action : SystemAction} (hsound : s.server.Sound)
    (hstep : s.step action = some s') (h : s.Missed) : s'.Missed := by
  obtain ⟨c, hc, stream, hstream, hmissed⟩ := h
  have hserver : ∀ a server, s.server.step a = some server →
      ∃ stream, server.streams[c]? = some stream ∧ stream.missed = true := by
    intro a server hgo
    obtain ⟨stream', hstream', -, -, -, -, hkeep⟩ := hsound.step_stream hgo hstream
    exact ⟨stream', hstream', hkeep hmissed⟩
  cases action with
  | server action =>
    obtain ⟨server, hgo, rfl⟩ := Option.map_eq_some_iff.1 hstep
    exact ⟨c, hc, hserver _ _ hgo⟩
  | connect execution =>
    rw [StreamSystem.step] at hstep
    split at hstep
    · obtain ⟨server, hgo, rfl⟩ := Option.map_eq_some_iff.1 hstep
      exact ⟨c, List.mem_append_left _ hc, hserver _ _ hgo⟩
    · cases hstep
  | receive =>
    rw [StreamSystem.step] at hstep
    split at hstep
    · cases hstep
    · split at hstep
      · cases hstep
      · cases hstep
        exact ⟨c, hc, stream, hstream, hmissed⟩
  | lose =>
    cases hstep
    exact ⟨c, hc, stream, hstream, hmissed⟩

/-- **Every run**: as long as no reconnection came too late for the buffer, and the server has not
ended the stream, the browser follows the events of its execution. -/
theorem Reachable.follows (hreplay : Replayable step) (h : s.Reachable)
    (hended : s.client.ended = false) (hmissed : ¬s.Missed) : s.Follows step := by
  induction h with
  | @start server hserver executionId =>
    exact ⟨[], _, _, .nil step (le_refl _), rfl⟩
  | @step s s' action hreachable hfresh hstep ih =>
    have hsound := hreachable.sound
    have hmissed' : ¬s.Missed := fun hmiss => hmissed (hmiss.kept hsound hstep)
    cases action with
    | server action =>
      obtain ⟨server, hgo, rfl⟩ := Option.map_eq_some_iff.1 hstep
      exact (ih hended hmissed').server hsound hgo
    | connect execution =>
      rw [StreamSystem.step] at hstep
      split at hstep
      · rename_i hopen
        obtain ⟨server, hgo, rfl⟩ := Option.map_eq_some_iff.1 hstep
        exact (ih hended hmissed').connect hopen.1 hopen.2 hgo
      · cases hstep
    | receive =>
      rw [StreamSystem.step] at hstep
      split at hstep
      · cases hstep
      · rename_i c hconnection
        split at hstep
        · cases hstep
        · rename_i frame hframe
          cases hstep
          obtain ⟨hbefore, hown⟩ := Bool.or_eq_false_iff.1 hended
          exact (ih hbefore hmissed').receive hconnection hframe hown
    | lose =>
      cases hstep
      obtain ⟨got, first, next, hgot, hconnected⟩ := ih hended hmissed'
      cases hconnection : s.client.connection with
      | none =>
        simp only [hconnection] at hconnected
        exact ⟨got, first, next, hgot, hconnected⟩
      | some c =>
        simp only [hconnection] at hconnected
        obtain ⟨stream, hstream⟩ := hconnected
        obtain ⟨first', next', hfollows, -⟩ :=
          hstream.follows hreplay hconnection hsound hmissed' hgot
        exact ⟨_, first', next', hfollows, rfl⟩

end StreamSystem

-- ════════════════════════════════════════════════════════════════════════
-- The cached execution
-- ════════════════════════════════════════════════════════════════════════

variable {N : Type}

/-- The cached execution after an event; `dumps` is `json.dumps`, and `parse` is `JSON.parse`. -/
def patchView (dumps : List (String × Json) → String) (parse : String → Option (Web.JsValue N))
    (view : Option (Web.ExecutionDetail N)) (event : StreamEvent) :
    Option (Web.ExecutionDetail N) :=
  Web.onMessage parse view (event.eventType, dumps event.data)

/-- Events that come again patch nothing. -/
theorem replayable_patchView (dumps : List (String × Json) → String)
    (parse : String → Option (Web.JsValue N)) : Replayable (patchView dumps parse) := by
  intro view entries again hagain
  have hfold : ∀ events : List StreamEvent, events.foldl (patchView dumps parse) view =
      (events.map fun event => (event.eventType, dumps event.data)).foldl
        (Web.onMessage parse) view := by
    intro events
    rw [List.foldl_map]
    rfl
  obtain ⟨before, rfl⟩ := hagain
  rw [hfold, hfold, List.map_append, List.map_append]
  exact Web.messages_replay parse _ _ view

namespace StreamSystem

variable {s : StreamSystem}

/-- **Reconnecting loses nothing, and applies nothing twice**: over every run of the server and of a
browser that loses its connections and opens new ones, as long as none of these came too late for
the buffer and the server has not ended the stream, the cached execution is on the way to the one
that every event from the first that came on has patched once, in their order, and it is there when
nothing is left to read. -/
theorem Reachable.patched_once (h : s.Reachable) (hended : s.client.ended = false)
    (hmissed : ¬s.Missed)
    (dumps : List (String × Json) → String) (parse : String → Option (Web.JsValue N)) :
    ∃ first next, first ≤ next ∧ next ≤ (s.server.log s.client.executionId).length ∧
      (s.client.messages ≠ [] →
        s.client.messages.head? = (s.server.log s.client.executionId)[first]? ∧
        s.client.messages.getLast? = (s.server.log s.client.executionId)[next - 1]?) ∧
      (∀ view, (s.client.messages ++ (s.server.log s.client.executionId).drop next).foldl
          (patchView dumps parse) view =
        ((s.server.log s.client.executionId).drop first).foldl (patchView dumps parse) view) ∧
      (s.Drained → ∀ view, s.client.messages.foldl (patchView dumps parse) view =
        ((s.server.log s.client.executionId).drop first).foldl (patchView dumps parse) view) := by
  have hreplay := replayable_patchView dumps parse
  obtain ⟨got, first, next, hgot, hconnected⟩ := h.follows hreplay hended hmissed
  obtain ⟨first, next, hfollows, hend⟩ : ∃ first next,
      Streams.Follows (patchView dumps parse) (s.server.log s.client.executionId)
        s.client.messages first next ∧
      (s.Drained → next = (s.server.log s.client.executionId).length) := by
    cases hconnection : s.client.connection with
    | none =>
      simp only [hconnection] at hconnected
      refine ⟨first, next, hconnected ▸ hgot, fun hdrained => ?_⟩
      obtain ⟨c, stream, hc, -⟩ := hdrained
      rw [hconnection] at hc
      cases hc
    | some c =>
      simp only [hconnection] at hconnected
      obtain ⟨stream, hstream⟩ := hconnected
      exact hstream.follows hreplay hconnection h.sound hmissed hgot
  exact ⟨first, next, hfollows.first_le, hfollows.next_le,
    fun hne => ⟨(hfollows.head hne).2, hfollows.last hne⟩, hfollows.caughtUp,
    fun hdrained view => hfollows.done (hend hdrained) view⟩

/-- A browser that has seen one event, and lost its connection. -/
theorem patched_once_of_one : ∃ s : StreamSystem, s.client.messages.length = 1 ∧
    s.client.connection = none ∧ ∃ first next, first ≤ next ∧
      next ≤ (s.server.log s.client.executionId).length := by
  let row : StreamedExecution := ⟨"execution", .running, none, none⟩
  let made : Made := ⟨"status", "closed", "now"⟩
  have h0 : (StreamSystem.start .start "execution").Reachable := .start .start "execution"
  have h1 := Reachable.step (.connect row) h0 trivial rfl
  have h2 := Reachable.step (.server (.next 0 made)) h1 trivial rfl
  have h3 := Reachable.step (.server (.next 0 made)) h2 trivial rfl
  have h4 := Reachable.step (.server (.next 0 made)) h3 trivial rfl
  have h5 := Reachable.step
    (.server (.emit "execution" ⟨"first", "step.status_changed", []⟩)) h4
    (List.not_mem_nil : "first" ∉ []) rfl
  have h6 := Reachable.step (.server (.next 0 made)) h5 trivial rfl
  have h7 := Reachable.step .receive h6 trivial rfl
  have h8 := Reachable.step .receive h7 trivial rfl
  have h9 := Reachable.step .lose h8 trivial rfl
  obtain ⟨first, next, hfirst, hnext, -⟩ := Reachable.patched_once (N := ℕ) h9 rfl
    (by
      rintro ⟨c, hc, stream, hstream, hmissed⟩
      obtain rfl : c = 0 := List.mem_singleton.1 hc
      cases hstream
      cases hmissed)
    (fun _ => "") (fun _ => none)
  refine ⟨_, ?_, ?_, first, next, hfirst, hnext⟩
  · rfl
  · rfl

end StreamSystem

end RunbookPlatform
