/-
  `RpcStreamServer::handleConnection`: read a `STREAM_INIT`, find its handler, acknowledge it or cancel it,
  hand the connection over to the handler until it returns, again.

  1. **Connection** — one await of the coroutine is one step, and so is one await of the handler it is in.
     Handlers are the environment's: in a handler, any read and any write may come next, a read may be
     given up, and the handler may return.  So a statement about every run is one about every handler.

  2. **Log** — what the loop and the handlers have read and written.  `Justified` says which events must
     stand in front of an event; `Lifecycle` says that of every event of a log.

  3. **Step lemma** — where the coroutine is (`PhaseOf`) tells how its log ends, and so what may come next
     (`Lifecycle.step`).  `stream_server_lifecycle` reads the rules of the protocol off that.
-/
import GalayRpc.RouteCache
import GalayRpc.Writev
import GalayRpc.StreamSession

namespace GalayRpc

variable {ρ η ζ : Type} [RingBuffer ρ]

/-! ## The server -/

/-- What `handleConnection` uses of an `RpcStreamServer`: the registry. -/
structure RpcStreamServer (η ζ : Type) where
  mServices : Services η ζ

namespace RpcStreamServer

variable (server : RpcStreamServer η ζ)

def resolveStreamHandler (initReq : StreamInitRequest) : Except RpcErrorCode ζ :=
  match server.mServices.lookup initReq.serviceName with
  | none => .error .serviceNotFound
  | some service =>
    match service.findStreamMethod initReq.methodName with
    | none => .error .methodNotFound
    | some handler => .ok handler

/-- A `STREAM_INIT` is resolved to the session handler that was registered last for its method, on the last
    service of the name. -/
theorem resolveStreamHandler_registered [Inhabited η] (registered : Registered η ζ)
    (initReq : StreamInitRequest) :
    resolveStreamHandler ⟨registered.services⟩ initReq =
      match registered.latest initReq.serviceName with
      | none => .error .serviceNotFound
      | some registrations =>
        match RpcService.latestSession registrations initReq.methodName with
        | none => .error .methodNotFound
        | some handler => .ok handler := by
  unfold resolveStreamHandler
  rw [registered.lookup_services]
  cases registered.latest initReq.serviceName with
  | none => rfl
  | some registrations =>
    simp only [Option.map_some, RpcService.findStreamMethod_new]

/-- What `handleConnection` does with a frame it has read, up to its next `co_await`: the session, and the
    handler, or the error it reports. -/
def dispatch (initFrame : StreamMessage) : RpcStream × Except RpcError ζ :=
  let stream : RpcStream := { streamId := initFrame.streamId }
  if initFrame.messageType ≠ .streamInit then
    (stream, .error (.ofText .invalidRequest "Expected STREAM_INIT as first frame"))
  else
    match ({} : StreamInitRequest).deserializeBody initFrame.payload initFrame.payload.length with
    | (false, _) => (stream, .error (.ofText .invalidRequest "Failed to parse stream init body"))
    | (true, initReq) =>
      match server.resolveStreamHandler initReq with
      | .error code => (stream, .error (.ofCode code))
      | .ok handler => (stream.setRoute initReq.serviceName initReq.methodName, .ok handler)

end RpcStreamServer

/-! ## A connection -/

/-- What a connection does: the loop, and the handlers it runs. -/
inductive StreamServerEvent (ζ : Type) where
  | received (initFrame : StreamMessage)
  | readFailed (e : RpcError)
  | sent (frame : StreamFrame)
  | sendFailed (frame : StreamFrame) (e : RpcError)
  | entered (handler : ζ) (stream : RpcStream)
  | handlerRead (message : StreamMessage) (result : RpcAwaitableResult)
  | handlerGaveUp (message : StreamMessage)
  | handlerWrote (frame : StreamFrame) (result : RpcAwaitableResult)
  | returned
  | closed

/-- Where the coroutine is: at the test of `m_running`, or at one of its awaits. -/
inductive StreamServerPhase (ζ : Type) where
  | testing
  | reading
  | answering (stream : RpcStream) (handler : Except RpcError ζ)
  | handling (handler : ζ) (stream : RpcStream)
  | closing
  | ended

/-- `handleConnection`'s locals and socket, and the last error it has reported. -/
structure StreamServerConn (ρ ζ : Type) where
  ringBuffer : ρ
  wire : Wire
  sink : Sink
  phase : StreamServerPhase ζ
  lastError : Option RpcError := none
  log : List (StreamServerEvent ζ) := []

/-- What can happen next.  `m_running` may be cleared at any time, and closing a socket may fail. -/
inductive StreamServerAction where
  | test (running : Bool)
  | read
  | answer
  | close (result : Except IOError Unit)
  | handlerReads (message : StreamMessage)
  | handlerGivesUp (message : StreamMessage) (n : Nat)
  | handlerWrites (frame : StreamFrame)
  | handlerReturns

namespace StreamServerConn

variable (server : RpcStreamServer η ζ) (s : StreamServerConn ρ ζ)

/-- Accept a connection; making its socket non-blocking may fail. -/
def accept (nonBlock : Except IOError Unit) (ring : ρ) (w : Wire) (k : Sink) : StreamServerConn ρ ζ :=
  match nonBlock with
  | .error e =>
    { ringBuffer := ring
      wire := w
      sink := k
      phase := .closing
      lastError := some (.fromIOError e .internalError) }
  | .ok _ => { ringBuffer := ring, wire := w, sink := k, phase := .testing }

/-- `co_await reader.getMessage(message)`. -/
def getMessage (message : StreamMessage) (w : Wire) : ReadRun ρ StreamMessageReadMembers :=
  awaitRead StreamMessageReadState.parseFromRingBuffer
    { ringBuffer := s.ringBuffer, own := { message := message } } w

/-- The loop's read, into a new message. -/
def readInit : Option (StreamServerConn ρ ζ) :=
  let read := s.getMessage {} s.wire
  match read.result with
  -- the wire is silent, and the coroutine waits
  | none => none
  | some (.error e) =>
    some { s with
      ringBuffer := read.ringBuffer
      wire := read.wire
      lastError := some e
      phase := .closing
      log := s.log ++ [.readFailed e] }
  | some (.ok _) =>
    let initFrame := read.own.message
    let found := server.dispatch initFrame
    some { s with
      ringBuffer := read.ringBuffer
      wire := read.wire
      lastError := match found.2 with
        | .error e => some e
        | .ok _ => s.lastError
      phase := .answering found.1 found.2
      log := s.log ++ [.received initFrame] }

/-- The loop's answer to the frame it has read; behind an acknowledgement, the handler is entered. -/
def sendAnswer (stream : RpcStream) (handler : Except RpcError ζ) : Option (StreamServerConn ρ ζ) :=
  let frame := stream.frame (match handler with
    | .error _ => .sendCancel
    | .ok _ => .sendInitAck)
  let write := awaitWrite frame.writeState s.sink
  match write.result, handler with
  | none, _ => none
  | some (.error e), _ =>
    some { s with
      sink := write.sink
      lastError := some e
      phase := .closing
      log := s.log ++ [.sendFailed frame e] }
  | some (.ok _), .error _ =>
    some { s with sink := write.sink, phase := .testing, log := s.log ++ [.sent frame] }
  | some (.ok _), .ok handler =>
    some { s with
      sink := write.sink
      phase := .handling handler stream
      log := s.log ++ [.sent frame, .entered handler stream] }

/-- A handler's read. -/
def handlerRead (message : StreamMessage) : Option (StreamServerConn ρ ζ) :=
  let read := s.getMessage message s.wire
  read.result.map fun result => { s with
    ringBuffer := read.ringBuffer
    wire := read.wire
    log := s.log ++ [.handlerRead read.own.message result] }

/-- A handler's read that gets `n` more bytes, wants more, and is given up. -/
def handlerGiveUp (message : StreamMessage) (n : Nat) : Option (StreamServerConn ρ ζ) :=
  let read := s.getMessage message { s.wire with bytes := s.wire.bytes.take n, ending := .silent }
  match read.result with
  | some _ => none
  | none =>
    some { s with
      ringBuffer := read.ringBuffer
      wire := { read.wire with bytes := s.wire.bytes.drop n, ending := s.wire.ending }
      log := s.log ++ [.handlerGaveUp read.own.message] }

/-- A handler's write. -/
def handlerWrite (frame : StreamFrame) : Option (StreamServerConn ρ ζ) :=
  let write := awaitWrite frame.writeState s.sink
  write.result.map fun result => { s with
    sink := write.sink
    log := s.log ++ [.handlerWrote frame result] }

def step (action : StreamServerAction) : Option (StreamServerConn ρ ζ) :=
  match s.phase, action with
  | .testing, .test running => some { s with phase := if running then .reading else .closing }
  | .reading, .read => s.readInit server
  | .answering stream handler, .answer => s.sendAnswer stream handler
  | .handling _ _, .handlerReads message => s.handlerRead message
  | .handling _ _, .handlerGivesUp message n => s.handlerGiveUp message n
  | .handling _ _, .handlerWrites frame => s.handlerWrite frame
  | .handling _ _, .handlerReturns => some { s with phase := .testing, log := s.log ++ [.returned] }
  | .closing, .close result =>
    some { s with
      lastError := match result with
        | .error e => some (.fromIOError e .internalError)
        | .ok _ => s.lastError
      phase := .ended
      log := s.log ++ [.closed] }
  | _, _ => none

end StreamServerConn

/-! ## The protocol -/

namespace RpcStreamServer

variable (server : RpcStreamServer η ζ)

/-- The frame is a `STREAM_INIT` for a registered method; the handler and the session it gets. -/
structure Routed (message : StreamMessage) (stream : RpcStream) (handler : ζ) : Prop where
  isInit : message.messageType = .streamInit
  route : ∃ init service,
    ({} : StreamInitRequest).deserializeBody message.payload message.payload.length = (true, init) ∧
      server.mServices.lookup init.serviceName = some service ∧
      service.findStreamMethod init.methodName = some handler ∧
      stream = ⟨message.streamId, init.serviceName, init.methodName⟩

/-- The frame that answers a frame the loop has read. -/
def Answers (message : StreamMessage) (frame : StreamFrame) : Prop :=
  (frame = .initAck message.streamId ∧ ∃ stream handler, server.Routed message stream handler) ∨
    (frame = .cancel message.streamId ∧ ¬ ∃ stream handler, server.Routed message stream handler)

theorem resolveStreamHandler_eq_ok {initReq : StreamInitRequest} {handler : ζ} :
    server.resolveStreamHandler initReq = .ok handler ↔
      ∃ service, server.mServices.lookup initReq.serviceName = some service ∧
        service.findStreamMethod initReq.methodName = some handler := by
  unfold resolveStreamHandler
  constructor
  · intro h
    split at h
    · cases h
    · rename_i service hservice
      split at h
      · cases h
      · rename_i found hmethod
        cases h
        exact ⟨service, hservice, hmethod⟩
  · rintro ⟨service, hservice, hmethod⟩
    rw [hservice]
    simp only [hmethod]

/-- **What a frame is answered with.** -/
theorem dispatch_spec (message : StreamMessage) :
    (∃ e, server.dispatch message = ({ streamId := message.streamId }, .error e) ∧
        ¬ ∃ stream handler, server.Routed message stream handler) ∨
      ∃ stream handler, server.dispatch message = (stream, .ok handler) ∧
        server.Routed message stream handler := by
  unfold dispatch
  by_cases htype : message.messageType = .streamInit
  · rw [if_neg (not_not.mpr htype)]
    rcases hbody : ({} : StreamInitRequest).deserializeBody message.payload message.payload.length with
      ⟨ok, initReq⟩
    cases ok with
    | false =>
      refine Or.inl ⟨_, rfl, ?_⟩
      rintro ⟨stream, handler, hrouted⟩
      obtain ⟨init, service, hinit, -⟩ := hrouted.route
      rw [hbody] at hinit
      cases hinit
    | true =>
      simp only []
      rcases hresolve : server.resolveStreamHandler initReq with code | handler
      · refine Or.inl ⟨.ofCode code, rfl, ?_⟩
        -- whatever route there could be, it has these names
        rintro ⟨stream, handler, hrouted⟩
        obtain ⟨init, service, hinit, hservice, hmethod, -⟩ := hrouted.route
        rw [hbody] at hinit
        obtain rfl := (Prod.mk.inj hinit).2
        have hok := server.resolveStreamHandler_eq_ok.mpr ⟨service, hservice, hmethod⟩
        rw [hresolve] at hok
        cases hok
      · obtain ⟨service, hservice, hmethod⟩ := server.resolveStreamHandler_eq_ok.mp hresolve
        exact Or.inr ⟨_, handler, rfl, htype, initReq, service, hbody, hservice, hmethod, rfl⟩
  · rw [if_pos htype]
    refine Or.inl ⟨_, rfl, ?_⟩
    rintro ⟨stream, handler, hrouted⟩
    exact htype hrouted.isInit

end RpcStreamServer

namespace StreamServerEvent

/-- A failed read or write of the loop. -/
def Fails : StreamServerEvent ζ → Prop
  | .readFailed _ => True
  | .sendFailed _ _ => True
  | _ => False

/-- A write of the loop. -/
def SendsControl : StreamServerEvent ζ → Prop
  | .sent _ => True
  | .sendFailed _ _ => True
  | _ => False

/-- Behind it, the coroutine is in a handler. -/
def InHandler : StreamServerEvent ζ → Prop
  | .entered _ _ => True
  | .handlerRead _ _ => True
  | .handlerGaveUp _ => True
  | .handlerWrote _ _ => True
  | _ => False

/-- It ends a round of the loop. -/
def EndsRound : StreamServerEvent ζ → Prop
  | .sent (.cancel _) => True
  | .returned => True
  | _ => False

/-- The bytes it puts on the connection. -/
def Puts : StreamServerEvent ζ → Bytes → Prop
  | .sent frame, put => put = frame.bytes
  | .sendFailed frame _, put => ∃ n < frame.bytes.length, put = frame.bytes.take n
  | .handlerWrote frame (.ok _), put => put = frame.bytes
  | .handlerWrote frame (.error _), put => ∃ n < frame.bytes.length, put = frame.bytes.take n
  | _, put => put = []

end StreamServerEvent

/-- The last event, if there is one, ends a round. -/
def BetweenRounds (pre : List (StreamServerEvent ζ)) : Prop := ∀ e, pre.getLast? = some e → e.EndsRound

/-- **What must stand in front of an event.** -/
def Justified (server : RpcStreamServer η ζ) (pre : List (StreamServerEvent ζ)) :
    StreamServerEvent ζ → Prop
  | .received _ => BetweenRounds pre
  | .readFailed _ => BetweenRounds pre
  | .sent frame => ∃ before message, pre = before ++ [.received message] ∧ server.Answers message frame
  | .sendFailed frame _ =>
    ∃ before message, pre = before ++ [.received message] ∧ server.Answers message frame
  | .entered handler stream =>
    ∃ before message, pre = before ++ [.received message, .sent (.initAck message.streamId)] ∧
      server.Routed message stream handler
  | .handlerRead _ _ => ∃ before e, pre = before ++ [e] ∧ e.InHandler
  | .handlerGaveUp _ => ∃ before e, pre = before ++ [e] ∧ e.InHandler
  | .handlerWrote _ _ => ∃ before e, pre = before ++ [e] ∧ e.InHandler
  | .returned => ∃ before e, pre = before ++ [e] ∧ e.InHandler
  | .closed => BetweenRounds pre ∨ ∃ before e, pre = before ++ [e] ∧ e.Fails

/-- **The lifecycle**: every event has in front of it what it must. -/
def Lifecycle (server : RpcStreamServer η ζ) (log : List (StreamServerEvent ζ)) : Prop :=
  ∀ pre e post, log = pre ++ e :: post → Justified server pre e

section Lifecycle

variable {server : RpcStreamServer η ζ} {log : List (StreamServerEvent ζ)}

theorem betweenRounds_concat (pre : List (StreamServerEvent ζ)) (e : StreamServerEvent ζ) :
    BetweenRounds (pre ++ [e]) ↔ e.EndsRound := by
  simp [BetweenRounds]

theorem lifecycle_nil : Lifecycle server [] := by
  intro pre e post h
  simp at h

theorem Lifecycle.concat (h : Lifecycle server log) {e : StreamServerEvent ζ}
    (he : Justified server log e) : Lifecycle server (log ++ [e]) := by
  intro pre e' post heq
  rcases List.eq_nil_or_concat post with rfl | ⟨post, last, rfl⟩
  · obtain ⟨rfl, hlast⟩ := List.append_inj' heq rfl
    obtain rfl := List.head_eq_of_cons_eq hlast
    exact he
  · rw [List.concat_eq_append, ← List.cons_append, ← List.append_assoc] at heq
    exact h pre e' post (List.append_inj' heq rfl).1

/-- What an event in front of another tells about it. -/
def Follows (server : RpcStreamServer η ζ) (e : StreamServerEvent ζ) : StreamServerEvent ζ → Prop
  | .received _ => e.EndsRound
  | .readFailed _ => e.EndsRound
  | .sent frame => ∃ message, e = .received message ∧ server.Answers message frame
  | .sendFailed frame _ => ∃ message, e = .received message ∧ server.Answers message frame
  | .entered _ _ => ∃ streamId, e = .sent (.initAck streamId)
  | .handlerRead _ _ => e.InHandler
  | .handlerGaveUp _ => e.InHandler
  | .handlerWrote _ _ => e.InHandler
  | .returned => e.InHandler
  | .closed => e.EndsRound ∨ e.Fails

theorem Justified.follows {pre : List (StreamServerEvent ζ)} {e next : StreamServerEvent ζ}
    (h : Justified server (pre ++ [e]) next) : Follows server e next := by
  have hin : (∃ before e', pre ++ [e] = before ++ [e'] ∧ e'.InHandler) → e.InHandler := by
    rintro ⟨before, e', heq, hin⟩
    obtain ⟨-, rfl⟩ := List.append_singleton_inj.mp heq
    exact hin
  have hread : ∀ frame, (∃ before message, pre ++ [e] = before ++ [.received message] ∧
      server.Answers message frame) → ∃ message, e = .received message ∧ server.Answers message frame := by
    rintro frame ⟨before, message, heq, hanswers⟩
    exact ⟨message, (List.append_singleton_inj.mp heq).2, hanswers⟩
  cases next with
  | received => exact (betweenRounds_concat _ _).mp h
  | readFailed => exact (betweenRounds_concat _ _).mp h
  | sent frame => exact hread frame h
  | sendFailed frame e' => exact hread frame h
  | entered handler stream =>
    obtain ⟨before, message, heq, -⟩ := h
    have heq' : pre ++ [e] = before ++ [.received message] ++ [.sent (.initAck message.streamId)] := by
      rw [heq, List.append_assoc]
      rfl
    exact ⟨message.streamId, (List.append_singleton_inj.mp heq').2⟩
  | handlerRead => exact hin h
  | handlerGaveUp => exact hin h
  | handlerWrote => exact hin h
  | returned => exact hin h
  | closed =>
    rcases h with hbetween | ⟨before, e', heq, hfails⟩
    · exact Or.inl ((betweenRounds_concat _ _).mp hbetween)
    · obtain ⟨-, rfl⟩ := List.append_singleton_inj.mp heq
      exact Or.inr hfails

/-- Two events, one behind the other. -/
theorem Lifecycle.next (h : Lifecycle server log) {pre post : List (StreamServerEvent ζ)}
    {e next : StreamServerEvent ζ} (hlog : log = pre ++ e :: next :: post) :
    Follows server e next :=
  (h (pre ++ [e]) next post (by rw [hlog, List.append_assoc]; rfl)).follows

theorem Lifecycle.next_next (h : Lifecycle server log) {pre post : List (StreamServerEvent ζ)}
    {e e' next : StreamServerEvent ζ} (hlog : log = pre ++ e :: e' :: next :: post) :
    Follows server e' next :=
  h.next (hlog.trans (List.append_cons pre e (e' :: next :: post)))

/-- Behind a frame that has been read stands its answer. -/
theorem Follows.of_received {message : StreamMessage} {next : StreamServerEvent ζ}
    (h : Follows server (.received message) next) :
    ∃ frame, server.Answers message frame ∧
      (next = .sent frame ∨ ∃ e, next = .sendFailed frame e) := by
  cases next with
  | sent frame =>
    obtain ⟨message', heq, hanswers⟩ := h
    cases heq
    exact ⟨frame, hanswers, Or.inl rfl⟩
  | sendFailed frame e =>
    obtain ⟨message', heq, hanswers⟩ := h
    cases heq
    exact ⟨frame, hanswers, Or.inr ⟨e, rfl⟩⟩
  | entered =>
    obtain ⟨streamId, heq⟩ := h
    cases heq
  | closed =>
    rcases h with h | h
    · exact h.elim
    · exact h.elim
  | _ => exact h.elim

/-- Behind a control frame stands no other. -/
theorem Follows.of_sent {frame : StreamFrame} {next : StreamServerEvent ζ}
    (h : Follows server (.sent frame) next) : ¬ next.SendsControl := by
  intro hsends
  cases next with
  | sent frame' =>
    obtain ⟨message, heq, -⟩ := h
    cases heq
  | sendFailed frame' e =>
    obtain ⟨message, heq, -⟩ := h
    cases heq
  | _ => exact hsends.elim

theorem not_follows_closed {next : StreamServerEvent ζ} : ¬ Follows server .closed next := by
  intro h
  cases next with
  | sent frame =>
    obtain ⟨message, heq, -⟩ := h
    cases heq
  | sendFailed frame e =>
    obtain ⟨message, heq, -⟩ := h
    cases heq
  | entered =>
    obtain ⟨streamId, heq⟩ := h
    cases heq
  | closed =>
    rcases h with h | h
    · exact h.elim
    · exact h.elim
  | _ => exact h.elim

/-- Behind a failed read or write of the loop the socket is closed. -/
theorem Follows.of_fails {e next : StreamServerEvent ζ} (h : Follows server e next) (hfails : e.Fails) :
    next = .closed := by
  have hplain : ¬ e.EndsRound ∧ ¬ e.InHandler ∧ (∀ message, e ≠ .received message) ∧
      ∀ streamId, e ≠ .sent (.initAck streamId) := by
    cases e with
    | readFailed => exact ⟨id, id, by simp, by simp⟩
    | sendFailed => exact ⟨id, id, by simp, by simp⟩
    | _ => exact hfails.elim
  obtain ⟨hround, hin, hreceived, hacked⟩ := hplain
  cases next with
  | received => exact absurd h hround
  | readFailed => exact absurd h hround
  | sent frame =>
    obtain ⟨message, heq, -⟩ := h
    exact absurd heq (hreceived message)
  | sendFailed frame e' =>
    obtain ⟨message, heq, -⟩ := h
    exact absurd heq (hreceived message)
  | entered =>
    obtain ⟨streamId, heq⟩ := h
    exact absurd heq (hacked streamId)
  | handlerRead => exact absurd h hin
  | handlerGaveUp => exact absurd h hin
  | handlerWrote => exact absurd h hin
  | returned => exact absurd h hin
  | closed => rfl

end Lifecycle

/-! ## Every run -/

theorem awaitWrite_frame (frame : StreamFrame) (k : Sink) :
    Written frame.bytes k (awaitWrite frame.writeState k) ∧
      ∃ j, (awaitWrite frame.writeState k).sink.writes = fun i => k.writes (i + j) := by
  have herror : frame.writeState.error = none := by
    cases frame with
    | init => rfl
    | initAck => rfl
    | data => rfl
    | dataView => rfl
    | endOfStream => rfl
    | cancel => rfl
  exact awaitWrite_written herror frame.writeState_ne_nil k

/-- A log in order, and what its events have put behind the bytes of `k`. -/
structure Logged (server : RpcStreamServer η ζ) (k : Sink) (log : List (StreamServerEvent ζ))
    (sent : Bytes) : Prop where
  lifecycle : Lifecycle server log
  puts : ∃ puts, List.Forall₂ StreamServerEvent.Puts log puts ∧ sent = k.sent ++ puts.flatten

/-- How the log ends, by where the coroutine is. -/
inductive PhaseOf (server : RpcStreamServer η ζ) :
    StreamServerPhase ζ → List (StreamServerEvent ζ) → Prop where
  | testing {log : List (StreamServerEvent ζ)} (hlast : BetweenRounds log) :
      PhaseOf server .testing log
  | reading {log : List (StreamServerEvent ζ)} (hlast : BetweenRounds log) :
      PhaseOf server .reading log
  | answering (before : List (StreamServerEvent ζ)) (message : StreamMessage) :
      PhaseOf server (.answering (server.dispatch message).1 (server.dispatch message).2)
        (before ++ [.received message])
  | handling (handler : ζ) (stream : RpcStream) (before : List (StreamServerEvent ζ))
      (e : StreamServerEvent ζ) (hlast : e.InHandler) :
      PhaseOf server (.handling handler stream) (before ++ [e])
  | stopped {log : List (StreamServerEvent ζ)} (hlast : BetweenRounds log) :
      PhaseOf server .closing log
  | failed (before : List (StreamServerEvent ζ)) (e : StreamServerEvent ζ) (hlast : e.Fails) :
      PhaseOf server .closing (before ++ [e])
  | ended (before : List (StreamServerEvent ζ)) : PhaseOf server .ended (before ++ [.closed])

/-- The invariant of a connection. -/
structure Orderly (server : RpcStreamServer η ζ) (k : Sink) (s : StreamServerConn ρ ζ) : Prop where
  logged : Logged server k s.log s.sink.sent
  phase : PhaseOf server s.phase s.log

section Steps

variable {server : RpcStreamServer η ζ} {k : Sink}

/-- One more event. -/
theorem Logged.event {log : List (StreamServerEvent ζ)} {sent put : Bytes}
    (h : Logged server k log sent) {e : StreamServerEvent ζ} (he : Justified server log e)
    (hput : e.Puts put) : Logged server k (log ++ [e]) (sent ++ put) := by
  obtain ⟨puts, hputs, hsent⟩ := h.puts
  refine ⟨h.lifecycle.concat he, puts ++ [put], List.rel_append hputs (.cons hput .nil), ?_⟩
  rw [hsent, List.flatten_append, List.flatten_singleton, List.append_assoc]

/-- An event that puts nothing on the connection. -/
theorem Logged.silent {log : List (StreamServerEvent ζ)} {sent : Bytes}
    (h : Logged server k log sent) {e : StreamServerEvent ζ} (he : Justified server log e)
    (hput : e.Puts []) : Logged server k (log ++ [e]) sent := by
  have hnext := h.event he hput
  rw [List.append_nil] at hnext
  exact hnext

theorem Orderly.readInit {s s' : StreamServerConn ρ ζ} (h : Logged server k s.log s.sink.sent)
    (hlast : BetweenRounds s.log) (hstep : s.readInit server = some s') : Orderly server k s' := by
  unfold StreamServerConn.readInit at hstep
  dsimp only at hstep
  split at hstep
  · cases hstep
  · obtain rfl := Option.some.inj hstep
    exact ⟨h.silent hlast rfl, .failed _ _ trivial⟩
  · obtain rfl := Option.some.inj hstep
    exact ⟨h.silent hlast rfl, .answering _ _⟩

omit [RingBuffer ρ] in
/-- **The answer.** -/
theorem Orderly.sendAnswer {s s' : StreamServerConn ρ ζ} (h : Logged server k s.log s.sink.sent)
    {before : List (StreamServerEvent ζ)} {message : StreamMessage}
    (hlog : s.log = before ++ [.received message])
    (hstep : s.sendAnswer (server.dispatch message).1 (server.dispatch message).2 = some s') :
    Orderly server k s' := by
  rcases server.dispatch_spec message with ⟨e, hdispatch, hnone⟩ | ⟨stream, handler, hdispatch, hrouted⟩
  · -- a cancellation
    rw [hdispatch] at hstep
    have hanswers : server.Answers message (.cancel message.streamId) := Or.inr ⟨rfl, hnone⟩
    unfold StreamServerConn.sendAnswer at hstep
    cases (awaitWrite_frame (.cancel message.streamId) s.sink).1 with
    | all hresult hsent =>
      simp only [RpcStream.frame, hresult] at hstep
      obtain rfl := Option.some.inj hstep
      refine ⟨?_, .testing ((betweenRounds_concat _ _).mpr trivial)⟩
      show Logged server k _ (awaitWrite _ _).sink.sent
      rw [hsent]
      exact h.event ⟨before, message, hlog, hanswers⟩ rfl
    | part e' n i hresult hlt hsent =>
      simp only [RpcStream.frame, hresult] at hstep
      obtain rfl := Option.some.inj hstep
      refine ⟨?_, .failed _ _ trivial⟩
      show Logged server k _ (awaitWrite _ _).sink.sent
      rw [hsent]
      exact h.event ⟨before, message, hlog, hanswers⟩ ⟨n, hlt, rfl⟩
  · -- an acknowledgement, and the handler behind it
    rw [hdispatch] at hstep
    have hanswers : server.Answers message (.initAck message.streamId) :=
      Or.inl ⟨rfl, stream, handler, hrouted⟩
    obtain ⟨init, service, -, -, -, hstream⟩ := hrouted.route
    have hid : stream.streamId = message.streamId := by rw [hstream]
    unfold StreamServerConn.sendAnswer at hstep
    cases (awaitWrite_frame (.initAck message.streamId) s.sink).1 with
    | all hresult hsent =>
      simp only [RpcStream.frame, hid, hresult] at hstep
      obtain rfl := Option.some.inj hstep
      have hpair : ∀ e₁ e₂ : StreamServerEvent ζ, s.log ++ [e₁, e₂] = s.log ++ [e₁] ++ [e₂] := by
        intro e₁ e₂
        rw [List.append_assoc]
        rfl
      have hacked := h.event (e := .sent (.initAck message.streamId))
        ⟨before, message, hlog, hanswers⟩ rfl
      refine ⟨?_, ?_⟩
      · show Logged server k (s.log ++ [_, _]) (awaitWrite _ _).sink.sent
        rw [hsent, hpair]
        refine hacked.silent ⟨before, message, ?_, hrouted⟩ rfl
        rw [hlog, List.append_assoc]
        rfl
      · show PhaseOf server (.handling handler stream) (s.log ++ [_, _])
        rw [hpair]
        exact .handling _ _ _ _ trivial
    | part e' n i hresult hlt hsent =>
      simp only [RpcStream.frame, hid, hresult] at hstep
      obtain rfl := Option.some.inj hstep
      refine ⟨?_, .failed _ _ trivial⟩
      show Logged server k _ (awaitWrite _ _).sink.sent
      rw [hsent]
      exact h.event ⟨before, message, hlog, hanswers⟩ ⟨n, hlt, rfl⟩

omit [RingBuffer ρ] in
/-- Another event in a handler. -/
theorem Orderly.inHandler {s s' : StreamServerConn ρ ζ} (h : Orderly server k s) {handler : ζ}
    {stream : RpcStream} (hphase : s.phase = .handling handler stream) {e : StreamServerEvent ζ}
    (he : (∃ before e', s.log = before ++ [e'] ∧ e'.InHandler) → Justified server s.log e)
    (hin : e.InHandler) {put : Bytes} (hput : e.Puts put) (hlog : s'.log = s.log ++ [e])
    (hsent : s'.sink.sent = s.sink.sent ++ put) (hstay : s'.phase = s.phase) :
    Orderly server k s' := by
  have hlast : ∃ before e', s.log = before ++ [e'] ∧ e'.InHandler := by
    have hat := h.phase
    generalize s.log = log at hat
    rw [hphase] at hat
    cases hat with
    | handling _ _ before e' hlast => exact ⟨before, e', rfl, hlast⟩
  refine ⟨?_, ?_⟩
  · rw [hlog, hsent]
    exact h.logged.event (he hlast) hput
  · rw [hlog, hstay, hphase]
    exact .handling _ _ _ _ hin

theorem Orderly.handlerRead {s s' : StreamServerConn ρ ζ} (h : Orderly server k s) {handler : ζ}
    {stream : RpcStream} (hphase : s.phase = .handling handler stream) {message : StreamMessage}
    (hstep : s.handlerRead message = some s') : Orderly server k s' := by
  obtain ⟨result, -, rfl⟩ := Option.map_eq_some_iff.mp hstep
  exact h.inHandler hphase (e := .handlerRead _ result) id trivial rfl rfl (List.append_nil _).symm rfl

theorem Orderly.handlerGiveUp {s s' : StreamServerConn ρ ζ} (h : Orderly server k s) {handler : ζ}
    {stream : RpcStream} (hphase : s.phase = .handling handler stream) {message : StreamMessage}
    {n : Nat} (hstep : s.handlerGiveUp message n = some s') : Orderly server k s' := by
  unfold StreamServerConn.handlerGiveUp at hstep
  dsimp only at hstep
  split at hstep
  · cases hstep
  · obtain rfl := Option.some.inj hstep
    exact h.inHandler hphase (e := .handlerGaveUp _) id trivial rfl rfl (List.append_nil _).symm rfl

omit [RingBuffer ρ] in
theorem Orderly.handlerWrite {s s' : StreamServerConn ρ ζ} (h : Orderly server k s) {handler : ζ}
    {stream : RpcStream} (hphase : s.phase = .handling handler stream) {frame : StreamFrame}
    (hstep : s.handlerWrite frame = some s') : Orderly server k s' := by
  obtain ⟨result, hresult, rfl⟩ := Option.map_eq_some_iff.mp hstep
  cases (awaitWrite_frame frame s.sink).1 with
  | all hok hsent =>
    obtain rfl := Option.some.inj (hresult.symm.trans hok)
    exact h.inHandler hphase (e := .handlerWrote frame (.ok true)) id trivial rfl rfl hsent rfl
  | part e n i hfailed hlt hsent =>
    obtain rfl := Option.some.inj (hresult.symm.trans hfailed)
    exact h.inHandler hphase (e := .handlerWrote frame (.error e)) id trivial ⟨n, hlt, rfl⟩ rfl hsent rfl

/-- **One step.** -/
theorem Orderly.step {s s' : StreamServerConn ρ ζ} (h : Orderly server k s)
    {action : StreamServerAction} (hstep : s.step server action = some s') : Orderly server k s' := by
  have hphase := h.phase
  generalize hlog : s.log = log at hphase
  unfold StreamServerConn.step at hstep
  split at hstep
  · rename_i running hat
    rw [hat] at hphase
    obtain rfl := Option.some.inj hstep
    cases hphase with
    | testing hlast =>
      rw [← hlog] at hlast
      cases running with
      | true => exact ⟨h.logged, .reading hlast⟩
      | false => exact ⟨h.logged, .stopped hlast⟩
  · rename_i hat
    rw [hat] at hphase
    cases hphase with
    | reading hlast =>
      rw [← hlog] at hlast
      exact Orderly.readInit h.logged hlast hstep
  · rename_i stream handler hat
    rw [hat] at hphase
    cases hphase with
    | answering before message => exact Orderly.sendAnswer h.logged hlog hstep
  · rename_i hat
    exact h.handlerRead hat hstep
  · rename_i hat
    exact h.handlerGiveUp hat hstep
  · rename_i hat
    exact h.handlerWrite hat hstep
  · rename_i hat
    rw [hat] at hphase
    obtain rfl := Option.some.inj hstep
    cases hphase with
    | handling _ _ before e hlast =>
      exact ⟨h.logged.silent ⟨before, e, hlog, hlast⟩ rfl, .testing ((betweenRounds_concat _ _).mpr trivial)⟩
  · rename_i hat
    rw [hat] at hphase
    obtain rfl := Option.some.inj hstep
    have hclosed : Justified server s.log .closed := by
      cases hphase with
      | stopped hlast =>
        rw [← hlog] at hlast
        exact Or.inl hlast
      | failed before e hlast => exact Or.inr ⟨before, e, hlog, hlast⟩
    exact ⟨h.logged.silent hclosed rfl, .ended _⟩
  · cases hstep

omit [RingBuffer ρ] in
theorem orderly_accept (nonBlock : Except IOError Unit) (ring : ρ) (w : Wire) (k : Sink) :
    Orderly server k (.accept nonBlock ring w k : StreamServerConn ρ ζ) := by
  have hlogged : Logged server k [] k.sent :=
    ⟨lifecycle_nil, [], .nil, (List.append_nil _).symm⟩
  have hlast : BetweenRounds ([] : List (StreamServerEvent ζ)) := by
    intro e he
    cases he
  cases nonBlock with
  | error e => exact ⟨hlogged, .stopped hlast⟩
  | ok _ => exact ⟨hlogged, .testing hlast⟩

/-- What the last event tells about where the coroutine is. -/
def Ends (server : RpcStreamServer η ζ) (e : StreamServerEvent ζ) : StreamServerPhase ζ → Prop
  | .testing => e.EndsRound
  | .reading => e.EndsRound
  | .answering stream handler =>
    ∃ message, e = .received message ∧ server.dispatch message = (stream, handler)
  | .handling _ _ => e.InHandler
  | .closing => e.EndsRound ∨ e.Fails
  | .ended => e = .closed

theorem PhaseOf.ends {phase : StreamServerPhase ζ} {log pre : List (StreamServerEvent ζ)}
    {e : StreamServerEvent ζ} (h : PhaseOf server phase log) (hlog : log = pre ++ [e]) :
    Ends server e phase := by
  have hround : BetweenRounds log → e.EndsRound := by
    intro hlast
    rw [hlog, betweenRounds_concat] at hlast
    exact hlast
  cases h with
  | testing hlast => exact hround hlast
  | reading hlast => exact hround hlast
  | answering before message =>
    obtain ⟨-, rfl⟩ := List.append_singleton_inj.mp hlog
    exact ⟨message, rfl, rfl⟩
  | handling _ _ before e' hin =>
    obtain ⟨-, rfl⟩ := List.append_singleton_inj.mp hlog
    exact hin
  | stopped hlast => exact Or.inl (hround hlast)
  | failed before e' hfails =>
    obtain ⟨-, rfl⟩ := List.append_singleton_inj.mp hlog
    exact Or.inr hfails
  | ended before => exact (List.append_singleton_inj.mp hlog).2.symm

omit [RingBuffer ρ] in
/-- A write of the loop always ends. -/
theorem sendAnswer_isSome (s : StreamServerConn ρ ζ) (stream : RpcStream)
    (handler : Except RpcError ζ) : ∃ s', s.sendAnswer stream handler = some s' := by
  unfold StreamServerConn.sendAnswer
  dsimp only
  generalize stream.frame _ = frame
  split
  · rename_i hnone
    cases (awaitWrite_frame frame s.sink).1 with
    | all hresult =>
      rw [hresult] at hnone
      cases hnone
    | part e n i hresult =>
      rw [hresult] at hnone
      cases hnone
  · exact ⟨_, rfl⟩
  · exact ⟨_, rfl⟩
  · exact ⟨_, rfl⟩

/-- A frame that has been read and not answered is about to be. -/
theorem Orderly.answers {s : StreamServerConn ρ ζ} (h : Orderly server k s)
    {before : List (StreamServerEvent ζ)} {message : StreamMessage}
    (hlog : s.log = before ++ [.received message]) : ∃ s', s.step server .answer = some s' := by
  have hends := h.phase.ends hlog
  unfold StreamServerConn.step
  generalize s.phase = phase at hends
  cases phase with
  | answering stream handler => exact sendAnswer_isSome s stream handler
  | ended => cases hends
  | closing =>
    rcases hends with hends | hends
    · exact hends.elim
    · exact hends.elim
  | _ => exact hends.elim

omit [RingBuffer ρ] in
/-- Behind a failed read or write, the closing is what is left to do. -/
theorem Orderly.closing {s : StreamServerConn ρ ζ} (h : Orderly server k s)
    {before : List (StreamServerEvent ζ)} {e : StreamServerEvent ζ} (hlog : s.log = before ++ [e])
    (hfails : e.Fails) : s.phase = .closing := by
  have hends := h.phase.ends hlog
  have hround : ¬ e.EndsRound := by
    cases e with
    | readFailed => exact id
    | sendFailed => exact id
    | _ => exact hfails.elim
  generalize s.phase = phase at hends ⊢
  cases phase with
  | closing => rfl
  | testing => exact absurd hends hround
  | reading => exact absurd hends hround
  | answering stream handler =>
    obtain ⟨message, rfl, -⟩ := hends
    exact hfails.elim
  | handling handler stream =>
    cases e with
    | readFailed => exact hends.elim
    | sendFailed => exact hends.elim
    | _ => exact hfails.elim
  | ended =>
    obtain rfl : e = .closed := hends
    exact hfails.elim

omit [RingBuffer ρ] in
theorem Orderly.ended {s : StreamServerConn ρ ζ} (h : Orderly server k s)
    {before : List (StreamServerEvent ζ)} (hlog : s.log = before ++ [.closed]) : s.phase = .ended := by
  have hends := h.phase.ends hlog
  generalize s.phase = phase at hends ⊢
  cases phase with
  | ended => rfl
  | answering stream handler =>
    obtain ⟨message, heq, -⟩ := hends
    cases heq
  | closing =>
    rcases hends with hends | hends
    · exact hends.elim
    · exact hends.elim
  | _ => exact hends.elim

end Steps

/-- **The lifecycle of a stream connection.**  In every run of `handleConnection`, whatever arrives and in
    whatever pieces, whatever the handlers read, give up reading and write, whenever `m_running` is
    cleared and whichever read or write fails:

    * a handler is entered right behind a `STREAM_INIT_ACK` with the stream id of the frame the loop has
      just read, a `STREAM_INIT`; it is the one registered for the service and the method in the frame's
      body, and the session it is given has that id and route;
    * behind a `STREAM_INIT` the loop has read stands its answer, or the answer is the next step there
      is: `STREAM_INIT_ACK` if it can be routed, `STREAM_CANCEL` otherwise, with its stream id, and the
      loop writes no other frame before it reads again; each control frame of the loop is such an answer;
    * behind a failed read or write of the loop the socket is closed, and that is all;
    * what is on the connection is what these events put there. -/
theorem stream_server_lifecycle (server : RpcStreamServer η ζ) (nonBlock : Except IOError Unit)
    (ring : ρ) (w : Wire) (k : Sink) (actions : List StreamServerAction) (s : StreamServerConn ρ ζ)
    (hrun : Run (StreamServerConn.step server) (fun _ _ => True)
      (StreamServerConn.accept nonBlock ring w k) actions s) :
    (∀ pre handler stream post, s.log = pre ++ .entered handler stream :: post →
      ∃ before message, pre = before ++ [.received message, .sent (.initAck message.streamId)] ∧
        server.Routed message stream handler) ∧
    (∀ pre message post, s.log = pre ++ .received message :: post →
      (post = [] ∧ ∃ s', s.step server .answer = some s') ∨
      ∃ frame, server.Answers message frame ∧
        ((∃ e rest, post = .sendFailed frame e :: rest) ∨
          ∃ rest, post = .sent frame :: rest ∧ ∀ next rest', rest = next :: rest' → ¬ next.SendsControl)) ∧
    (∀ pre frame post, s.log = pre ++ .sent frame :: post →
      ∃ before message, pre = before ++ [.received message] ∧ server.Answers message frame) ∧
    (∀ pre e post, s.log = pre ++ e :: post → e.Fails →
      (post = [] ∧ s.phase = .closing) ∨ (post = [.closed] ∧ s.phase = .ended)) ∧
    ∃ puts, List.Forall₂ StreamServerEvent.Puts s.log puts ∧ s.sink.sent = k.sent ++ puts.flatten := by
  have h : Orderly server k s :=
    hrun.invariant (fun _ _ _ h _ hstep => h.step hstep) (orderly_accept nonBlock ring w k)
  have hlife := h.logged.lifecycle
  refine ⟨fun pre handler stream post hlog => hlife pre _ post hlog, ?_,
    fun pre frame post hlog => hlife pre _ post hlog, ?_, h.logged.puts⟩
  · intro pre message post hlog
    cases post with
    | nil => exact Or.inl ⟨rfl, h.answers hlog⟩
    | cons next rest =>
      obtain ⟨frame, hanswers, hnext⟩ := (hlife.next hlog).of_received
      refine Or.inr ⟨frame, hanswers, ?_⟩
      rcases hnext with rfl | ⟨e, rfl⟩
      · refine Or.inr ⟨rest, rfl, ?_⟩
        rintro next rest' rfl
        exact (hlife.next_next hlog).of_sent
      · exact Or.inl ⟨e, rest, rfl⟩
  · intro pre e post hlog hfails
    cases post with
    | nil => exact Or.inl ⟨rfl, h.closing hlog hfails⟩
    | cons next rest =>
      obtain rfl := (hlife.next hlog).of_fails hfails
      cases rest with
      | nil =>
        have hclosed : s.log = pre ++ [e] ++ [.closed] := hlog.trans (List.append_cons pre e [.closed])
        exact Or.inr ⟨rfl, h.ended hclosed⟩
      | cons next rest => exact absurd (hlife.next_next hlog) not_follows_closed

/-- A server with one service, `E`, that has the stream method `e`. -/
def echoStreamServer : RpcStreamServer Unit Unit where
  mServices := Registered.services [([0x45], [.streamMethod [0x65] ()])]

/-- A stream that is echoed and ended, and behind it a frame of no stream, one byte at a time; `stop()` is
    called meanwhile. -/
theorem stream_server_lifecycle_echo :
    ∃ s : StreamServerConn (Circular UInt8) Unit,
      Run (StreamServerConn.step echoStreamServer) (fun _ _ => True)
        (.accept (.ok ()) (Circular.empty 24 fun _ => (0 : UInt8))
          ⟨bytesOf [.init 5 [0x45] [0x65], .data 5 [7], .endOfStream 5, .data 6 [8]], .closed, fun _ => 1⟩
          ⟨[], fun i => .accept i⟩)
        [.test true, .read, .answer, .handlerReads {}, .handlerWrites (.data 5 [7]), .handlerReads {},
          .handlerReturns, .test true, .read, .answer, .test false, .close (.ok ())] s ∧
      s.log.length = 10 ∧ s.sink.sent = bytesOf [.initAck 5, .data 5 [7], .cancel 6] ∧
      ∀ pre handler stream post, s.log = pre ++ .entered handler stream :: post →
        ∃ before message, pre = before ++ [.received message, .sent (.initAck message.streamId)] ∧
          echoStreamServer.Routed message stream handler := by
  have hruns : ((runAll (StreamServerConn.step echoStreamServer) (fun _ _ => True)
      (.accept (.ok ()) (Circular.empty 24 fun _ => (0 : UInt8))
        ⟨bytesOf [.init 5 [0x45] [0x65], .data 5 [7], .endOfStream 5, .data 6 [8]], .closed, fun _ => 1⟩
        ⟨[], fun i => .accept i⟩)
      [.test true, .read, .answer, .handlerReads {}, .handlerWrites (.data 5 [7]), .handlerReads {},
        .handlerReturns, .test true, .read, .answer, .test false, .close (.ok ())]).map fun s =>
          (s.log.length, s.sink.sent)) = some (10, bytesOf [.initAck 5, .data 5 [7], .cancel 6]) := by
    decide +kernel
  obtain ⟨s, hs, hends⟩ := Option.map_eq_some_iff.mp hruns
  obtain ⟨hlength, hsent⟩ := Prod.mk.inj hends
  exact ⟨s, run_iff_runAll.mpr hs, hlength, hsent,
    (stream_server_lifecycle echoStreamServer (.ok ()) _ _ _ _ s (run_iff_runAll.mpr hs)).1⟩

end GalayRpc
