/-
  `RpcServer::handleConnection`, one operation on the socket at a time.

  `Server` runs the coroutine from await to await against a wire whose bytes are all known.  Here its peer
  is another process: bytes come in while the coroutine is at work, and what it writes can be read before
  the write is over.  So a step is one `readv`, one `writev`, or the resumption of the coroutine with a
  result; a handler is one step, in which it makes any calls on its context.

  * `Round` — a request that was read, what its route led to, and the handler's calls;
  * `Stepped` inverts the step function once;
  * `Orderly` — the requests received are the first frames of what the peer has sent, each was looked up
    in the registry and handled in its turn, and what has been put on the connection is the responses,
    the last one perhaps in part.
-/
import GalayRpc.Server
import GalayRpc.Client
import GalayRpc.Writev

namespace GalayRpc

variable {ρ η ζ : Type} [RingBuffer ρ]

/-! ## The coroutine -/

/-- One round of the loop, up to its response. -/
structure Round (η : Type) where
  request : RpcRequest
  found : Except RpcErrorCode η
  calls : List RpcContextCall := []

/-- The response of a round. -/
def Round.response (round : Round η) : RpcResponse :=
  (handleRequest (fun _ _ _ => round.calls) 0 round.found round.request).1

/-- Where the coroutine is: at the test of `m_running`, or at one of its awaits. -/
inductive ServerPhase (η : Type) where
  | testing
  | reading
  | handling (handler : η) (request : RpcRequest)
  | sending (round : Round η) (write : WritevRun)
  | closing
  | ended

/-- The coroutine is over. -/
def ServerPhase.isEnded : ServerPhase η → Bool
  | .ended => true
  | _ => false

/-- The locals of `handleConnection` and its socket.  The reader's machine holds the ring buffer; the last
    error is the last one this connection has reported. -/
structure ServerConn (ρ η : Type) where
  reader : RpcRingBufferReadMachine ρ RpcRequest
  cache : RouteCache η := .empty
  phase : ServerPhase η := .testing
  incoming : Bytes := []
  sent : Bytes := []
  lastError : Option RpcError := none
  received : List RpcRequest := []
  rounds : List (Round η) := []
  log : List (ServerEvent η) := []

/-- What can happen next.  `m_running` may be cleared at any time, the peer may go away, and closing a
    socket may fail. -/
inductive ServerAction where
  | test (running : Bool)
  | readv (n : Nat)
  | hangUp (e : Option IOError)
  | receive
  | handle (calls : List RpcContextCall)
  | writev (event : WriteEvent)
  | close (result : Except IOError Unit)

namespace ServerConn

variable (services : Services η ζ) (s : ServerConn ρ η)

/-- A connection that has just been accepted. -/
def start (ring : ρ) : ServerConn ρ η := { reader := ⟨{ ringBuffer := ring, own := {} }, none⟩ }

omit [RingBuffer ρ] in
def ringBuffer : ρ := s.reader.state.ringBuffer

/-- `reader.getRequest(request)`, into a new request. -/
def getRequest : ServerConn ρ η :=
  { s with reader := ⟨{ ringBuffer := s.ringBuffer, own := {} }, none⟩, phase := .reading }

/-- `writer.sendResponse(response)`. -/
def sendResponse (round : Round η) : ServerConn ρ η :=
  { s with
    rounds := s.rounds ++ [round]
    phase := .sending round (.start (RpcResponseWriteState round.response)) }

/-- The reader's next move. -/
def advance : MachineAction × RpcRingBufferReadMachine ρ RpcRequest :=
  s.reader.advance (RpcRequestReadState.parseFromRingBuffer {})

/-- A `readv` that completes with the next `n` bytes. -/
def readv (n : Nat) : Option (ServerConn ρ η) :=
  match s.advance with
  | (.waitReadv windows, m) =>
    let piece := s.incoming.take n
    -- the kernel fills no more than it was given
    if piece ≠ [] ∧ piece.length ≤ windows.sum then
      some { s with
        reader := (m.filled piece).onRead (.ok piece.length)
        incoming := s.incoming.drop n }
    else none
  | _ => none

/-- A `readv` that completes at end-of-file, or in an error. -/
def hangUp (e : Option IOError) : Option (ServerConn ρ η) :=
  match s.advance with
  | (.waitReadv _, m) =>
    some { s with
      reader := m.onRead (match e with
        | none => .ok 0
        | some e => .error e) }
  | _ => none

/-- What follows a read that has completed with `request`: it is looked up, and its handler started. -/
def dispatch (request : RpcRequest) : ServerConn ρ η :=
  let found := findHandler services buildRouteHash s.cache request
  let s : ServerConn ρ η := { s with
    cache := found.2
    received := s.received ++ [request]
    log := s.log ++ [.received request] }
  match found.1 with
  | .error code => s.sendResponse ⟨request, .error code, []⟩
  | .ok handler =>
    { s with
      phase := .handling handler request
      log := s.log ++ [.dispatched handler request] }

/-- The read completes. -/
def receive : Option (ServerConn ρ η) :=
  match s.advance with
  | (.complete (.error e), m) =>
    some { s with
      reader := m
      lastError := some e
      phase := .closing
      log := s.log ++ [.readFailed e] }
  | (.complete (.ok _), m) => some ({ s with reader := m }.dispatch services m.state.own)
  | _ => none

/-- What follows a `writev` of the response. -/
def wrote (round : Round η) (write write' : WritevRun) : ServerConn ρ η :=
  let s := { s with sent := s.sent ++ write'.accepted.drop write.accepted.length }
  match write'.machine.result with
  | none => { s with phase := .sending round write' }
  | some (.ok _) => { s with phase := .testing, log := s.log ++ [.responded round.response] }
  | some (.error e) =>
    { s with
      lastError := some e
      phase := .closing
      log := s.log ++ [.sendFailed round.response e] }

/-- A step of the connection. -/
def step (action : ServerAction) : Option (ServerConn ρ η) :=
  match s.phase, action with
  | .testing, .test true => some s.getRequest
  | .testing, .test false => some { s with phase := .closing }
  | .reading, .readv n => s.readv n
  | .reading, .hangUp e => s.hangUp e
  | .reading, .receive => s.receive services
  | .handling handler request, .handle calls => some (s.sendResponse ⟨request, .ok handler, calls⟩)
  | .sending round write, .writev event => (write.step event).map (s.wrote round write)
  | .closing, .close result =>
    some { s with
      lastError := match result with
        | .error e => some (.fromIOError e .internalError)
        | .ok _ => s.lastError
      phase := .ended
      log := s.log ++ [.closed] }
  | _, _ => none

end ServerConn

/-! ## What a step does -/

namespace ServerConn

/-- The reader of requests, with the default setting. -/
abbrev parser : FrameParser RpcErrorCode RequestMsg := requestParser protocolLimit

/-- The steps, each with what has to hold for it. -/
inductive Stepped (services : Services η ζ) (s : ServerConn ρ η) :
    ServerAction → ServerConn ρ η → Prop
  | started (hphase : s.phase = .testing) : Stepped services s (.test true) s.getRequest
  | stopped (hphase : s.phase = .testing) :
      Stepped services s (.test false) { s with phase := .closing }
  | piece {n : Nat} (m : RpcRingBufferReadMachine ρ RpcRequest) (hphase : s.phase = .reading)
      (hpiece : s.incoming.take n ≠ []) (hwaits : m.result = none ∧ m.state.error = none)
      (hfits : (s.incoming.take n).length ≤ RingBuffer.free s.ringBuffer)
      (hring : m.state.ringBuffer = RingBuffer.receive s.ringBuffer (s.incoming.take n)) :
      Stepped services s (.readv n) { s with reader := m, incoming := s.incoming.drop n }
  | hungUp {e : Option IOError} (m : RpcRingBufferReadMachine ρ RpcRequest)
      (hphase : s.phase = .reading) (hopen : m.Open) (hring : m.state.ringBuffer = s.ringBuffer) :
      Stepped services s (.hangUp e) { s with reader := m }
  | readFailed (e : RpcError) (m : RpcRingBufferReadMachine ρ RpcRequest)
      (hphase : s.phase = .reading) (hring : m.state.ringBuffer = s.ringBuffer)
      (hwhy : s.reader.result = some (.error e) ∨
        (∃ code, parser.parse (RingBuffer.content s.ringBuffer) = .error code) ∨
        (parser.parse (RingBuffer.content s.ringBuffer) = .ok none ∧
          RingBuffer.free s.ringBuffer = 0)) :
      Stepped services s .receive { s with
        reader := m
        lastError := some e
        phase := .closing
        log := s.log ++ [.readFailed e] }
  | dispatched (n : Nat) (request : RpcRequest) (m : RpcRingBufferReadMachine ρ RpcRequest)
      (hphase : s.phase = .reading)
      (hparse : parser.parse (RingBuffer.content s.ringBuffer) = .ok (some (n, request.msg)))
      (hring : m.state.ringBuffer = RingBuffer.consume s.ringBuffer n) :
      Stepped services s .receive ({ s with reader := m }.dispatch services request)
  | handled {calls : List RpcContextCall} (handler : η) (request : RpcRequest)
      (hphase : s.phase = .handling handler request) :
      Stepped services s (.handle calls) (s.sendResponse ⟨request, .ok handler, calls⟩)
  | wrote {event : WriteEvent} (round : Round η) (write write' : WritevRun)
      (hphase : s.phase = .sending round write) (hwrite : write.step event = some write') :
      Stepped services s (.writev event) (s.wrote round write write')
  | closed {result : Except IOError Unit} (lastError : Option RpcError)
      (hphase : s.phase = .closing) :
      Stepped services s (.close result) { s with
        lastError := lastError
        phase := .ended
        log := s.log ++ [.closed] }

variable {services : Services η ζ} {s s' : ServerConn ρ η}

/-- What the reader does next. -/
theorem advanced (hopen : s.reader.Open) :
    Advanced RpcRequest.msg parser s.reader s.advance :=
  (request_readsFrames {}).advance hopen

/-- A `readv` completes only for a reader that waits for it. -/
theorem advance_waits (hopen : s.reader.Open) {windows : List Nat}
    {m : RpcRingBufferReadMachine ρ RpcRequest} (h : s.advance = (.waitReadv windows, m)) :
    m.result = none ∧ m.state.error = none ∧ m.state.ringBuffer = s.ringBuffer ∧
      parser.parse (RingBuffer.content s.ringBuffer) = .ok none ∧
      windows.sum = RingBuffer.free s.ringBuffer := by
  have hadvanced := advanced hopen
  rw [h] at hadvanced
  cases hadvanced with
  | waits _ hresult hparse hsum =>
    refine ⟨hresult, ?_, rfl, hparse, hsum⟩
    rcases hopen with ⟨-, herror⟩ | ⟨e, he⟩
    · exact herror
    · rw [hresult] at he
      cases he

theorem stepped {action : ServerAction} (hopen : s.phase = .reading → s.reader.Open)
    (h : s.step services action = some s') : Stepped services s action s' := by
  unfold step at h
  split at h
  · rename_i hphase
    obtain rfl := Option.some.inj h
    exact .started hphase
  · rename_i hphase
    obtain rfl := Option.some.inj h
    exact .stopped hphase
  · -- a piece
    rename_i n hphase
    unfold readv at h
    split at h
    · rename_i windows m hwaits
      obtain ⟨hresult, herror, hring, -, hsum⟩ := advance_waits (hopen hphase) hwaits
      simp only [Option.ite_none_right_eq_some, Option.some.injEq] at h
      obtain ⟨⟨hpiece, hfits⟩, rfl⟩ := h
      rw [onRead_filled hpiece]
      refine .piece _ hphase hpiece ⟨hresult, herror⟩ (by rwa [← hsum]) ?_
      show RingBuffer.receive m.state.ringBuffer _ = _
      rw [hring]
    · cases h
  · -- the end
    rename_i e hphase
    unfold hangUp at h
    split at h
    · rename_i windows m hwaits
      obtain ⟨-, -, hring, -⟩ := advance_waits (hopen hphase) hwaits
      obtain rfl := Option.some.inj h
      cases e with
      | none => exact .hungUp _ hphase (Or.inr ⟨_, rfl⟩) hring
      | some e => exact .hungUp _ hphase (Or.inr ⟨_, rfl⟩) hring
    · cases h
  · -- the read completes
    rename_i hphase
    have hadvanced := advanced (hopen hphase)
    unfold receive at h
    generalize s.advance = out at h hadvanced
    cases hadvanced with
    | waits => cases h
    | read n own hresult hparse =>
      obtain rfl := Option.some.inj h
      exact .dispatched n own _ hphase hparse rfl
    | failed e m hring hwhy =>
      obtain rfl := Option.some.inj h
      exact .readFailed e m hphase hring hwhy
  · rename_i handler request calls hphase
    obtain rfl := Option.some.inj h
    exact .handled handler request hphase
  · rename_i round write event hphase
    obtain ⟨write', hwrite, rfl⟩ := Option.map_eq_some_iff.mp h
    exact .wrote round write write' hphase hwrite
  · rename_i result hphase
    obtain rfl := Option.some.inj h
    exact .closed _ hphase
  · cases h

end ServerConn

/-! ## Every run -/

/-- The responses of these rounds, one behind the other. -/
def responseBytes (rounds : List (Round η)) : Bytes :=
  (rounds.map fun round => round.response.serialize).flatten

theorem responseBytes_concat (rounds : List (Round η)) (round : Round η) :
    responseBytes (rounds ++ [round]) = responseBytes rounds ++ round.response.serialize := by
  simp [responseBytes]

/-- What a round's response says: its request's id and mode, end-of-stream, and the registry's error code
    or what the handler has set. -/
def Round.outcome (round : Round η) : RpcErrorCode × Bytes :=
  match round.found with
  | .error code => (code, [])
  | .ok _ => RpcContextCall.outcome round.calls

theorem Round.response_msg (round : Round η) :
    round.response.msg =
      ⟨round.request.requestId, round.request.callMode, true, round.outcome.1, round.outcome.2⟩ := by
  obtain ⟨request, found, calls⟩ := round
  cases found with
  | error code => rfl
  | ok handler =>
    show (RpcContext.run _ calls).response.msg = _
    rw [RpcContext.run_msg]
    rfl

/-- What has been received, handled and sent, by where the coroutine is. -/
def ServerPhase.Accounts (services : Services η ζ) (received : List RpcRequest) (rounds : List (Round η))
    (sent : Bytes) : ServerPhase η → Prop
  | .handling handler request =>
    received = rounds.map Round.request ++ [request] ∧
      resolveMethodHandler services request = .ok handler ∧ sent = responseBytes rounds
  | .sending round write =>
    received = rounds.map Round.request ∧ write.machine.result = none ∧
      WritevRun.Sending round.response.serialize write ∧
      ∃ before, rounds = before ++ [round] ∧ sent = responseBytes before ++ write.accepted
  | .closing => received = rounds.map Round.request ∧ sent <+: responseBytes rounds
  | .ended => received = rounds.map Round.request ∧ sent <+: responseBytes rounds
  | .testing => received = rounds.map Round.request ∧ sent = responseBytes rounds
  | .reading => received = rounds.map Round.request ∧ sent = responseBytes rounds

namespace ServerConn

/-- **The invariant**, for a peer that has sent `stream` so far. -/
structure Orderly (services : Services η ζ) (stream : Bytes) (s : ServerConn ρ η) : Prop where
  reader : s.phase = .reading → s.reader.Open
  cache : s.cache.Consistent services
  reads : parser.Frames stream (s.received.map RpcRequest.msg)
    (RingBuffer.content s.ringBuffer ++ s.incoming)
  resolved : ∀ round ∈ s.rounds, round.found = resolveMethodHandler services round.request
  accounts : s.phase.Accounts services s.received s.rounds s.sent

variable {services : Services η ζ} {stream : Bytes} {s s' : ServerConn ρ η}

theorem orderly_start (services : Services η ζ) {ring : ρ} (hempty : RingBuffer.content ring = []) :
    Orderly services [] (start ring : ServerConn ρ η) where
  reader hphase := by cases hphase
  cache := RouteCache.consistent_empty services
  reads := by
    show parser.Frames [] [] (RingBuffer.content ring ++ [])
    rw [hempty]
    exact .nil []
  resolved round hround := by cases hround
  accounts := ⟨rfl, rfl⟩

/-- The peer sends more. -/
theorem Orderly.arrive (h : s.Orderly services stream) (more : Bytes) :
    Orderly services (stream ++ more) { s with incoming := s.incoming ++ more } where
  reader := h.reader
  cache := h.cache
  reads := by
    have hreads := h.reads.append more
    rwa [List.append_assoc] at hreads
  resolved := h.resolved
  accounts := h.accounts

omit [RingBuffer ρ] in
/-- A response is due. -/
theorem accounts_sendResponse {round : Round η} (hreceived : s.received = s.rounds.map Round.request ++
    [round.request]) (hsent : s.sent = responseBytes s.rounds) :
    (s.sendResponse round).phase.Accounts services (s.sendResponse round).received
      (s.sendResponse round).rounds (s.sendResponse round).sent := by
  have hwriting : WritevRun.Sending round.response.serialize
      (WritevRun.start (RpcResponseWriteState round.response)) := by
    rw [← RpcResponseWriteState_flatten]
    exact WritevRun.Sending.start rfl (List.cons_ne_nil _ _) (RpcResponseWriteState_ne_nil _)
  refine ⟨?_, rfl, hwriting, s.rounds, rfl, ?_⟩
  · show s.received = (s.rounds ++ [round]).map Round.request
    rw [hreceived, List.map_append]
    rfl
  · show s.sent = responseBytes s.rounds ++ []
    rw [hsent, List.append_nil]

/-- A request that has been read. -/
theorem Orderly.dispatch (h : s.Orderly services stream) (hphase : s.phase = .reading) {n : Nat}
    {request : RpcRequest} {m : RpcRingBufferReadMachine ρ RpcRequest}
    (hparse : parser.parse (RingBuffer.content s.ringBuffer) = .ok (some (n, request.msg)))
    (hring : m.state.ringBuffer = RingBuffer.consume s.ringBuffer n) :
    Orderly services stream ({ s with reader := m }.dispatch services request) := by
  have haccounts := h.accounts
  rw [hphase] at haccounts
  obtain ⟨hreceived, hsent⟩ := haccounts
  obtain ⟨hfound, hcache⟩ := findHandler_eq h.cache buildRouteHash request
  obtain ⟨hpos, hle⟩ := parser.consumes hparse
  have hreads : parser.Frames stream ((s.received ++ [request]).map RpcRequest.msg)
      (RingBuffer.content m.state.ringBuffer ++ s.incoming) := by
    have hnext := h.reads.concat (parser.parse_of_front (w := s.incoming) hparse)
    rwa [List.drop_append_of_le_length hle, ← RingBuffer.content_consume _ _ hle, ← hring,
      ← List.map_singleton (f := RpcRequest.msg), ← List.map_append] at hnext
  have hdue : s.received ++ [request] = s.rounds.map Round.request ++ [request] := by
    rw [hreceived]
  simp only [ServerConn.dispatch, hfound]
  cases hresolve : resolveMethodHandler services request with
  | error code =>
    refine ⟨nofun, hcache, hreads, ?_, accounts_sendResponse hdue hsent⟩
    intro round hround
    rcases List.mem_append.mp hround with hround | hround
    · exact h.resolved round hround
    · rw [List.mem_singleton.mp hround]
      exact hresolve.symm
  | ok handler => exact ⟨nofun, hcache, hreads, h.resolved, hdue, hresolve, hsent⟩

omit [RingBuffer ρ] in
/-- A `writev` of the response in hand. -/
theorem accounts_wrote {round : Round η} {write write' : WritevRun} {event : WriteEvent}
    (h : ServerPhase.Accounts services s.received s.rounds s.sent (.sending round write))
    (hwrite : write.step event = some write') :
    (s.wrote round write write').phase.Accounts services (s.wrote round write write').received
      (s.wrote round write write').rounds (s.wrote round write write').sent := by
  obtain ⟨hreceived, hresult, hsending, before, hrounds, hsent⟩ := h
  have hsent' : s.sent ++ write'.accepted.drop write.accepted.length =
      responseBytes before ++ write'.accepted := by
    rw [hsent, List.append_assoc, ← WritevRun.accepted_of_step hwrite]
  have hall : responseBytes s.rounds = responseBytes before ++ round.response.serialize := by
    rw [hrounds, responseBytes_concat]
  have hsending' := hsending.step hwrite
  have hcases := hsending'
  unfold ServerConn.wrote
  cases hcases with
  | writing iovecs hmachine =>
    have hnone : write'.machine.result = none := by rw [hmachine]
    simp only [hnone]
    exact ⟨hreceived, hnone, hsending', before, hrounds, hsent'⟩
  | done hmachine hbytes =>
    have hdone : write'.machine.result = some (.ok true) := by rw [hmachine]
    simp only [hdone]
    refine ⟨hreceived, ?_⟩
    rw [hsent', hbytes, hall]
  | failed iovecs e hmachine hnil hne hbytes =>
    have hfailed : write'.machine.result = some (.error e) := by rw [hmachine]
    simp only [hfailed]
    refine ⟨hreceived, ?_⟩
    rw [hsent', hall, ← hbytes, ← List.append_assoc]
    exact List.prefix_append _ _

omit [RingBuffer ρ] in
theorem wrote_eq (s : ServerConn ρ η) (round : Round η) (write write' : WritevRun) :
    (s.wrote round write write').phase ≠ .reading ∧
      (s.wrote round write write').cache = s.cache ∧
      (s.wrote round write write').reader = s.reader ∧
      (s.wrote round write write').incoming = s.incoming ∧
      (s.wrote round write write').received = s.received ∧
      (s.wrote round write write').rounds = s.rounds := by
  unfold ServerConn.wrote
  split
  · exact ⟨nofun, rfl, rfl, rfl, rfl, rfl⟩
  · exact ⟨nofun, rfl, rfl, rfl, rfl, rfl⟩
  · exact ⟨nofun, rfl, rfl, rfl, rfl, rfl⟩

/-- **Every step keeps a connection in order.** -/
theorem Orderly.step {action : ServerAction} (h : s.Orderly services stream)
    (hstep : s.step services action = some s') : Orderly services stream s' := by
  have haccounts := h.accounts
  cases stepped h.reader hstep with
  | started hphase =>
    rw [hphase] at haccounts
    exact ⟨fun _ => Or.inl ⟨rfl, rfl⟩, h.cache, h.reads, h.resolved, haccounts⟩
  | stopped hphase =>
    rw [hphase] at haccounts
    exact ⟨nofun, h.cache, h.reads, h.resolved, haccounts.1, haccounts.2 ▸ List.prefix_rfl⟩
  | @piece n m hphase hpiece hwaits hfits hring =>
    refine ⟨fun _ => Or.inl hwaits, h.cache, ?_, h.resolved, haccounts⟩
    show parser.Frames stream _ (RingBuffer.content m.state.ringBuffer ++ s.incoming.drop n)
    rw [hring, RingBuffer.content_receive hfits, List.append_assoc, List.take_append_drop]
    exact h.reads
  | hungUp m hphase hopen hring =>
    refine ⟨fun _ => hopen, h.cache, ?_, h.resolved, haccounts⟩
    show parser.Frames stream _ (RingBuffer.content m.state.ringBuffer ++ s.incoming)
    rw [hring]
    exact h.reads
  | readFailed e m hphase hring =>
    rw [hphase] at haccounts
    refine ⟨nofun, h.cache, ?_, h.resolved, haccounts.1, haccounts.2 ▸ List.prefix_rfl⟩
    show parser.Frames stream _ (RingBuffer.content m.state.ringBuffer ++ s.incoming)
    rw [hring]
    exact h.reads
  | dispatched n request m hphase hparse hring => exact h.dispatch hphase hparse hring
  | handled handler request hphase =>
    rw [hphase] at haccounts
    obtain ⟨hreceived, hresolve, hsent⟩ := haccounts
    refine ⟨nofun, h.cache, h.reads, ?_, accounts_sendResponse hreceived hsent⟩
    intro round hround
    rcases List.mem_append.mp hround with hround | hround
    · exact h.resolved round hround
    · rw [List.mem_singleton.mp hround]
      exact hresolve.symm
  | wrote round write write' hphase hwrite =>
    obtain ⟨hreading, hcache, hreader, hincoming, hreceived, hrounds⟩ := wrote_eq s round write write'
    rw [hphase] at haccounts
    refine ⟨fun hphase' => absurd hphase' hreading, ?_, ?_, ?_, accounts_wrote haccounts hwrite⟩
    · rw [hcache]
      exact h.cache
    · rw [ringBuffer, hreader, hincoming, hreceived]
      exact h.reads
    · rw [hrounds]
      exact h.resolved
  | closed lastError hphase =>
    rw [hphase] at haccounts
    exact ⟨nofun, h.cache, h.reads, h.resolved, haccounts⟩

/-! ## What an orderly connection has done, and can do -/

/-- Every request received is handled in its turn, and only responses are sent. -/
theorem Orderly.rounds_received (h : s.Orderly services stream) :
    s.rounds.map Round.request <+: s.received ∧ s.sent <+: responseBytes s.rounds := by
  have haccounts := h.accounts
  cases hphase : s.phase with
  | handling handler request =>
    rw [hphase] at haccounts
    obtain ⟨hreceived, -, hsent⟩ := haccounts
    exact ⟨hreceived ▸ List.prefix_append _ _, hsent ▸ List.prefix_rfl⟩
  | sending round write =>
    rw [hphase] at haccounts
    obtain ⟨hreceived, -, hsending, before, hrounds, hsent⟩ := haccounts
    refine ⟨hreceived ▸ List.prefix_rfl, ?_⟩
    rw [hsent, hrounds, responseBytes_concat, ← hsending.sends.accepted]
    exact (List.prefix_append_right_inj _).mpr (List.prefix_append _ _)
  | closing | ended =>
    rw [hphase] at haccounts
    exact ⟨haccounts.1 ▸ List.prefix_rfl, haccounts.2⟩
  | testing | reading =>
    rw [hphase] at haccounts
    exact ⟨haccounts.1 ▸ List.prefix_rfl, haccounts.2 ▸ List.prefix_rfl⟩

/-- No step of the server changes the size of its ring. -/
theorem capacity_of_step {action : ServerAction} (h : s.Orderly services stream)
    (hstep : s.step services action = some s') :
    RingBuffer.capacity s'.ringBuffer = RingBuffer.capacity s.ringBuffer := by
  cases stepped h.reader hstep with
  | started hphase => rfl
  | stopped hphase => rfl
  | piece m hphase hpiece hwaits hfits hring =>
    show RingBuffer.capacity m.state.ringBuffer = _
    rw [hring, RingBuffer.capacity_receive]
  | hungUp m hphase hopen hring =>
    show RingBuffer.capacity m.state.ringBuffer = _
    rw [hring]
  | readFailed e m hphase hring =>
    show RingBuffer.capacity m.state.ringBuffer = _
    rw [hring]
  | dispatched n request m hphase hparse hring =>
    have hsame : ({ s with reader := m }.dispatch services request).ringBuffer = m.state.ringBuffer := by
      simp only [ServerConn.dispatch]
      split
      · rfl
      · rfl
    rw [hsame, hring, RingBuffer.capacity_consume]
  | handled handler request hphase => rfl
  | wrote round write write' hphase hwrite =>
    obtain ⟨-, -, hreader, -⟩ := wrote_eq s round write write'
    rw [ringBuffer, hreader]
    rfl
  | closed lastError hphase => rfl

/-- The bytes that the peer has sent and that have not been read. -/
def unread (s : ServerConn ρ η) : Bytes := RingBuffer.content s.ringBuffer ++ s.incoming

theorem step_readv (hphase : s.phase = .reading) (n : Nat) : s.step services (.readv n) = s.readv n := by
  unfold step
  rw [hphase]

theorem step_hangUp (hphase : s.phase = .reading) (e : Option IOError) :
    s.step services (.hangUp e) = s.hangUp e := by
  unfold step
  rw [hphase]

theorem step_receive (hphase : s.phase = .reading) : s.step services .receive = s.receive services := by
  unfold step
  rw [hphase]

/-- A reader completes, or waits for more: it has room, and takes in what there is or learns that its peer
    has gone. -/
theorem reading_moves (services : Services η ζ) (hphase : s.phase = .reading) (hopen : s.reader.Open) :
    (∃ s', s.step services .receive = some s') ∨
      (parser.parse (RingBuffer.content s.ringBuffer) = .ok none ∧ 0 < RingBuffer.free s.ringBuffer ∧
        (s.incoming ≠ [] → ∃ s', s.step services (.readv 1) = some s') ∧
        ∀ e, ∃ s', s.step services (.hangUp e) = some s') := by
  have hadvanced := advanced hopen
  simp only [step_receive hphase, step_readv hphase, step_hangUp hphase, receive, readv, hangUp]
  generalize hout : s.advance = out at hadvanced
  cases hadvanced with
  | waits windows hresult hparse hsum =>
    have hfree : 0 < RingBuffer.free s.ringBuffer := (advance_waitReadv hout).trans_eq hsum
    refine Or.inr ⟨hparse, hfree, ?_, fun e => ⟨_, rfl⟩⟩
    intro hincoming
    obtain ⟨b, bs, hbs⟩ := List.exists_cons_of_ne_nil hincoming
    refine ⟨_, if_pos ⟨?_, ?_⟩⟩
    · rw [hbs]
      exact List.cons_ne_nil _ _
    · rw [hbs, hsum]
      exact hfree
  | read n own hresult hparse => exact Or.inl ⟨_, rfl⟩
  | failed e m hring hwhy => exact Or.inl ⟨_, rfl⟩

end ServerConn

end GalayRpc
