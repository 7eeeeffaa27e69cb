/-
  Payloads borrowed by the handlers of `RpcServer::handleConnection`.

  A handler may answer with the payload view of its request (`ctx.setPayload(request.payloadView())`).
  The view points into the connection's ring buffer, at cells that `getRequest` has consumed, and the
  response write hands these cells to every `writev` until all is written.

  1. **Segments** — the segments of a response write point at bytes (`MemoryByte`), of the objects
     involved or of the ring, and each `writev` reads what is there at its time.  A write that reads
     memory which nobody writes is the write of what is there (`seen_step`).

  2. **Server** — `LendingServer` is the coroutine of one connection on a circular buffer, one await at a
     time.  A `readv` completes only in `getRequest`; the bytes received and the requests served are
     recorded for the statements only.

  3. **Invariant** — what was received is the frames of the requests, and what is in the ring
     (`Serving.stream`); between `getRequest` and the end of `sendResponse` the view reads as the payload
     (`Serving.phase`).  The responses then are those of `RpcServer.answer`, which sees bytes, not cells.
-/
import GalayRpc.Client
import GalayRpc.Server
import GalayRpc.Writev

namespace GalayRpc

variable {η ζ : Type}

/-! ## Segments -/

/-- A byte that a segment points at: of an object's own memory, or of the ring buffer's. -/
inductive MemoryByte where
  | own (byte : UInt8)
  | cell (address : Nat)
deriving DecidableEq, Repr

/-- What is there. -/
def MemoryByte.read (memory : Nat → UInt8) : MemoryByte → UInt8
  | .own byte => byte
  | .cell address => memory address

/-- The loop of `consumeWritevIovecs`, which moves the segments and reads none. -/
def consumeSegmentsLoop : List (List MemoryByte) → Nat → List (List MemoryByte)
  | [], _ => []
  | iov :: iovecs, consumed =>
    if consumed ≥ iov.length then consumeSegmentsLoop iovecs (consumed - iov.length)
    else iov.drop consumed :: iovecs

/-- `consumeWritevIovecs`, likewise. -/
def consumeSegments (iovecs : List (List MemoryByte)) (consumed : Nat) : List (List MemoryByte) :=
  if consumed = 0 ∨ iovecs = [] then iovecs else consumeSegmentsLoop iovecs consumed

/-- Segments as they read. -/
def readSegments (memory : Nat → UInt8) (iovecs : List (List MemoryByte)) : List Bytes :=
  iovecs.map fun iov => iov.map (MemoryByte.read memory)

/-- **Moving the segments is moving what they read.** -/
theorem readSegments_consume (memory : Nat → UInt8) (iovecs : List (List MemoryByte)) (consumed : Nat) :
    readSegments memory (consumeSegments iovecs consumed) =
      consumeWritevIovecs (readSegments memory iovecs) consumed := by
  have hloop : ∀ (l : List (List MemoryByte)) (n : Nat),
      readSegments memory (consumeSegmentsLoop l n) =
        consumeWritevIovecsLoop (readSegments memory l) n := by
    intro l
    induction l with
    | nil => intro n; rfl
    | cons iov l ih =>
      intro n
      show readSegments memory (if n ≥ iov.length then _ else _) =
        if n ≥ (iov.map (MemoryByte.read memory)).length then
          consumeWritevIovecsLoop (readSegments memory l) (n - (iov.map (MemoryByte.read memory)).length)
        else (iov.map (MemoryByte.read memory)).drop n :: readSegments memory l
      rw [List.length_map]
      by_cases hn : n ≥ iov.length
      · rw [if_pos hn, if_pos hn, ih]
      · rw [if_neg hn, if_neg hn, ← List.map_drop]
        rfl
  unfold consumeSegments consumeWritevIovecs
  have hnil : readSegments memory iovecs = [] ↔ iovecs = [] := List.map_eq_nil_iff
  by_cases hstop : consumed = 0 ∨ iovecs = []
  · rw [if_pos hstop, if_pos (hstop.imp id hnil.mpr)]
  · rw [if_neg hstop, if_neg fun h => hstop (h.imp id hnil.mp)]
    exact hloop iovecs consumed

/-- A write in progress, with its segments as they point. -/
structure LentWrite where
  iovecs : List (List MemoryByte)
  error : Option RpcError := none
  result : Option RpcAwaitableResult := none
  accepted : Bytes := []
  log : List WriteEvent := []

namespace LentWrite

/-- The write as it reads its segments. -/
def seen (memory : Nat → UInt8) (w : LentWrite) : WritevRun :=
  ⟨⟨⟨readSegments memory w.iovecs, w.error⟩, w.result⟩, w.accepted, w.log⟩

/-- Where the segments are after a `writev`. -/
def rest (w : LentWrite) : WriteEvent → List (List MemoryByte)
  | .accept n => consumeSegments w.iovecs n
  | .zero => w.iovecs
  | .failed _ => w.iovecs

/-- One `writev`: the kernel reads the segments now, and the machine moves them. -/
def step (memory : Nat → UInt8) (w : LentWrite) (event : WriteEvent) : Option LentWrite :=
  ((w.seen memory).step event).map fun run =>
    { iovecs := w.rest event
      error := run.machine.state.error
      result := run.machine.result
      accepted := run.accepted
      log := run.log }

/-- What `onWrite` leaves of the segments. -/
theorem onWrite_iovecs (m : RpcWritevMachine) (n : Nat) :
    (m.onWrite (.ok n)).state.iovecs = consumeWritevIovecs m.state.iovecs n := by
  cases n with
  | zero => rfl
  | succ n =>
    show (if (m.state.onBytesWritten (n + 1)).isComplete then _ else _ : RpcWritevMachine).state.iovecs = _
    split
    · rfl
    · rfl

/-- A write that reads memory which nobody writes is the write of what is there. -/
theorem seen_step {memory : Nat → UInt8} {w w' : LentWrite} {event : WriteEvent}
    (h : w.step memory event = some w') : (w.seen memory).step event = some (w'.seen memory) := by
  obtain ⟨run, hrun, rfl⟩ := Option.map_eq_some_iff.mp h
  rw [hrun]
  -- the segments are the machine's, and the rest is copied
  have hiovecs : run.machine.state.iovecs = readSegments memory (w.rest event) := by
    unfold WritevRun.step at hrun
    split at hrun
    · rename_i iovecs machine hadvance
      have hsame : machine.state.iovecs = readSegments memory w.iovecs := by
        unfold RpcWritevMachine.advance at hadvance
        split at hadvance
        · cases hadvance
        · split at hadvance
          · cases hadvance
          · obtain ⟨-, rfl⟩ := Prod.mk.inj hadvance
            rfl
      cases event with
      | accept n =>
        obtain ⟨-, hrun⟩ := Option.ite_none_right_eq_some.mp hrun
        obtain rfl := Option.some.inj hrun
        show (machine.onWrite (.ok n)).state.iovecs = _
        rw [onWrite_iovecs, hsame]
        exact (readSegments_consume memory w.iovecs n).symm
      | zero =>
        obtain rfl := Option.some.inj hrun
        exact hsame
      | failed e =>
        obtain rfl := Option.some.inj hrun
        exact hsame
    · cases hrun
  show some run = some ⟨⟨⟨readSegments memory (w.rest event), run.machine.state.error⟩,
    run.machine.result⟩, run.accepted, run.log⟩
  rw [← hiovecs]

end LentWrite

/-! ## Responses -/

/-- A response with what its payload view points at; the payload of the response itself is not used. -/
structure LentResponse where
  response : RpcResponse
  payloadView : RpcPayloadView MemoryByte := {}

/-- A call a handler makes on its context; `setPayloadView` is with the view of its request. -/
inductive LendingCall where
  | setError (code : RpcErrorCode)
  | setPayload (data : Bytes)
  | setPayloadView
deriving DecidableEq, Repr

/-- What a call does, where `view` is where the request's payload is. -/
def LendingCall.apply (view : RpcPayloadView Nat) (r : LentResponse) : LendingCall → LentResponse
  | setError code => { r with response := { r.response with errorCode := code } }
  | setPayload data => { r with payloadView := ⟨data.map .own, []⟩ }
  | setPayloadView => { r with payloadView := ⟨view.segment1.map .cell, view.segment2.map .cell⟩ }

/-- The call as it is made by a handler that is given bytes. -/
def LendingCall.see (request : RpcRequest) : LendingCall → RpcContextCall
  | setError code => .setError code
  | setPayload data => .setPayload data
  | setPayloadView => .setPayloadView request.payloadView

namespace LentResponse

/-- The header `rebuildIovecs` fills in. -/
def header (r : LentResponse) : RpcHeader where
  type := RpcMessageType.response.toByte
  flags := rpcEncodeFlags r.response.callMode r.response.endOfStream
  requestId := r.response.requestId
  bodyLength := UInt32.ofNat (2 + r.payloadView.size)

/-- `RpcResponseWriteState`, as `rebuildIovecs` leaves it. -/
def writeState (r : LentResponse) : LentWrite where
  iovecs :=
    [r.header.serialize.map .own, (rpcHtons r.response.errorCode.toWord).map .own] ++
      [r.payloadView.segment1, r.payloadView.segment2].filter fun iov => iov.length > 0

end LentResponse

/-! ## The server -/

/-- What handlers do, in this round, for this request. -/
abbrev LendingHandling (η : Type) := Nat → η → RpcRequest → List LendingCall

/-- The same, for handlers that are given bytes. -/
def LendingHandling.see (handle : LendingHandling η) : Handling η :=
  fun i handler request => (handle i handler request).map (LendingCall.see request)

/-- The machine of a request read, without the ring buffer, which is the connection's. -/
abbrev RequestReader := RpcRingBufferReadMachine Unit RpcRequest

def RequestReader.attach (m : RequestReader) (ring : Circular UInt8) :
    RpcRingBufferReadMachine (Circular UInt8) RpcRequest :=
  ⟨⟨ring, m.state.own, m.state.readIovecs, m.state.error⟩, m.result⟩

def RequestReader.of (m : RpcRingBufferReadMachine (Circular UInt8) RpcRequest) : RequestReader :=
  ⟨⟨(), m.state.own, m.state.readIovecs, m.state.error⟩, m.result⟩

/-- Where the coroutine of a connection is. -/
inductive LendingPhase where
  | loop
  | reading (reader : RequestReader)
  | handling (request : RpcRequest) (view : RpcPayloadView Nat)
  | sending (request : RpcRequest) (write : LentWrite)
  | closed

/-- A request that has been handled, what has been written of the response, and whether
    `sendResponse` has succeeded. -/
structure ServedRequest where
  request : RpcRequest
  put : Bytes
  completed : Bool

/-- A connection of a server. -/
structure LendingServer (η : Type) where
  ring : Circular UInt8
  cache : RouteCache η := .empty
  phase : LendingPhase := .loop
  rounds : List ServedRequest := []
  received : Bytes := []

/-- What happens next on a connection. -/
inductive LendingAction where
  | run
  | readv (event : Except IOError Bytes)
  | received
  | handle
  | writev (event : WriteEvent)
  | sent

/-- The view `tryParseRequestMessage` takes of the payload, in addresses. -/
def borrowedRequestPayload (ring : Circular UInt8) : RpcPayloadView Nat :=
  let iovecs := RingBuffer.getReadIovecs ring
  let header := (({} : RpcHeader).deserialize (copyFromIovecs iovecs 0 rpcHeaderSize).2).2
  let msgLen := rpcHeaderSize + header.bodyLength.toNat
  let cursor := rpcHeaderSize
  let serviceLen := (rpcNtohs (copyFromIovecs iovecs cursor 2).2).toNat
  let cursor := cursor + 2 + serviceLen
  let methodLen := (rpcNtohs (copyFromIovecs iovecs cursor 2).2).toNat
  let cursor := cursor + 2 + methodLen
  (payloadViewFromIovecs ring.readRuns cursor (msgLen - cursor)).2

/-- The response to a request once its handler is found, or not. -/
def lendResponse (handle : LendingHandling η) (i : Nat) (found : Except RpcErrorCode η)
    (request : RpcRequest) (view : RpcPayloadView Nat) : LentResponse :=
  let response : RpcResponse :=
    { requestId := request.requestId, callMode := request.callMode, endOfStream := true }
  match found with
  | .error code => ⟨{ response with errorCode := code }, {}⟩
  | .ok handler => (handle i handler request).foldl (LendingCall.apply view) ⟨response, {}⟩

namespace LendingServer

/-- A connection that has just been accepted. -/
def start (ring : Circular UInt8) : LendingServer η := { ring := ring }

/-- One step of `handleConnection`; the rounds before give the round at hand. -/
def step (server : RpcServer η ζ) (handle : LendingHandling η) (s : LendingServer η) :
    LendingAction → Option (LendingServer η)
  | .run =>
    match s.phase with
    | .loop =>
      some (if server.mRunning s.rounds.length then
          { s with phase := .reading ⟨{ ringBuffer := (), own := {} }, none⟩ }
        else { s with phase := .closed })
    | _ => none
  | .readv event =>
    match s.phase with
    | .reading m =>
      match (m.attach s.ring).advance (RpcRequestReadState.parseFromRingBuffer {}) with
      | (.waitReadv windows, m) =>
        match event with
        | .error e => some { s with phase := .reading (.of (m.onRead (.error e))) }
        | .ok [] => some { s with phase := .reading (.of (m.onRead (.ok 0))) }
        | .ok piece =>
          -- the kernel fills no more than it was given
          if piece.length ≤ windows.sum then
            let m := (m.filled piece).onRead (.ok piece.length)
            some { s with
              ring := m.state.ringBuffer
              phase := .reading (.of m)
              received := s.received ++ piece }
          else none
      | _ => none
    | _ => none
  | .received =>
    match s.phase with
    | .reading m =>
      match (m.attach s.ring).advance (RpcRequestReadState.parseFromRingBuffer {}) with
      | (.complete (.error _), m) => some { s with ring := m.state.ringBuffer, phase := .closed }
      | (.complete (.ok _), m) =>
        some { s with
          ring := m.state.ringBuffer
          phase := .handling m.state.own (borrowedRequestPayload s.ring) }
      | _ => none
    | _ => none
  | .handle =>
    match s.phase with
    | .handling request view =>
      let found := findHandler server.mServices buildRouteHash s.cache request
      let response := lendResponse handle s.rounds.length found.1 request view
      some { s with cache := found.2, phase := .sending request response.writeState }
    | _ => none
  | .writev event =>
    match s.phase with
    | .sending request w =>
      (w.step s.ring.cells event).map fun w' => { s with phase := .sending request w' }
    | _ => none
  | .sent =>
    match s.phase with
    | .sending request w =>
      match (w.seen s.ring.cells).machine.advance with
      | (.complete (.ok _), _) =>
        some { s with phase := .loop, rounds := s.rounds ++ [⟨request, w.accepted, true⟩] }
      | (.complete (.error _), _) =>
        some { s with phase := .closed, rounds := s.rounds ++ [⟨request, w.accepted, false⟩] }
      | _ => none
    | _ => none

/-- The requests handled so far, the one whose response is being sent included. -/
def served (s : LendingServer η) : List ServedRequest :=
  match s.phase with
  | .sending request w => s.rounds ++ [⟨request, w.accepted, false⟩]
  | _ => s.rounds

/-- The requests read so far. -/
def requests (s : LendingServer η) : List RpcRequest :=
  match s.phase with
  | .handling request _ => s.rounds.map ServedRequest.request ++ [request]
  | .sending request _ => s.rounds.map ServedRequest.request ++ [request]
  | _ => s.rounds.map ServedRequest.request

section Requests

variable {s : LendingServer η}

theorem requests_loop (hphase : s.phase = .loop) :
    s.requests = s.rounds.map ServedRequest.request := by
  rw [requests, hphase]

theorem requests_reading {m : RequestReader} (hphase : s.phase = .reading m) :
    s.requests = s.rounds.map ServedRequest.request := by
  rw [requests, hphase]

theorem requests_handling {request : RpcRequest} {view : RpcPayloadView Nat}
    (hphase : s.phase = .handling request view) :
    s.requests = s.rounds.map ServedRequest.request ++ [request] := by
  rw [requests, hphase]

theorem requests_sending {request : RpcRequest} {w : LentWrite} (hphase : s.phase = .sending request w) :
    s.requests = s.rounds.map ServedRequest.request ++ [request] := by
  rw [requests, hphase]

/-- A request whose response is through is one of the rounds. -/
theorem requests_round {request : RpcRequest} {w : LentWrite} (hphase : s.phase = .sending request w)
    (put : Bytes) (completed : Bool) :
    s.requests = (s.rounds ++ [ServedRequest.mk request put completed]).map ServedRequest.request := by
  rw [requests_sending hphase, List.map_append]
  rfl

end Requests

end LendingServer

/-! ## What the view covers -/

/-- Where the payload of the request in front is, and what the view of it covers. -/
theorem borrowedRequestPayload_spec {ring : Circular UInt8} {limit n : Nat} {msg : RequestMsg}
    (hparse : (requestParser limit).parse (RingBuffer.content ring) = .ok (some (n, msg))) :
    ∃ off, off = rpcHeaderSize + 4 + msg.serviceName.length + msg.methodName.length ∧
      off + msg.payload.length = n ∧ n ≤ ring.content.length ∧
      slice ring.content off msg.payload.length = msg.payload ∧
      (borrowedRequestPayload ring).cells = slice ring.readRuns.flatten off msg.payload.length := by
  obtain ⟨hacc, -, hn, -, hle, hread⟩ := parseFrame_eq_some.mp hparse
  have hle : n ≤ ring.content.length := hle
  have h16 : rpcHeaderSize ≤ ring.content.length := by omega
  -- the code's header is the one of the frame
  have hcopy : ∀ off count, (copyFromIovecs (RingBuffer.getReadIovecs ring) off count).2 =
      slice ring.content off count := by
    intro off count
    rw [copyFromIovecs_eq, RingBuffer.getReadIovecs_flatten]
    rfl
  have hof := RpcHeader.ofBytes_take h16
  have hheader : (({} : RpcHeader).deserialize (slice ring.content 0 rpcHeaderSize)).2 =
      .ofBytes ring.content := by
    rw [slice_from_zero, RpcHeader.deserialize_of_accepted _ (by rw [hof]; exact hacc), hof]
  have hn : n = rpcHeaderSize + (RpcHeader.ofBytes ring.content).bodyLength.toNat := hn
  have hread : RequestMsg.read (.ofBytes ring.content) (slice ring.content rpcHeaderSize
      (RpcHeader.ofBytes ring.content).bodyLength.toNat) = some msg := hread
  unfold borrowedRequestPayload
  simp only [hcopy, hheader]
  rw [RequestMsg.read, splitNames_slice (by omega)] at hread
  generalize (RpcHeader.ofBytes ring.content).bodyLength.toNat = length at hn hread ⊢
  have hword : ∀ off, off + 2 ≤ ring.content.length →
      (rpcNtohs (slice ring.content off 2)).toNat = beNat (slice ring.content off 2) :=
    fun off hoff => rpcNtohs_toNat (slice_length_of_le _ hoff)
  split at hread
  · rename_i hfit
    obtain rfl := Option.some.inj hread
    have hservice := hword rpcHeaderSize (by omega)
    rw [hservice]
    generalize beNat (slice ring.content rpcHeaderSize 2) = k at hfit ⊢
    have hmethod := hword (rpcHeaderSize + 2 + k) (by omega)
    rw [hmethod]
    generalize beNat (slice ring.content (rpcHeaderSize + 2 + k) 2) = j at hfit ⊢
    have hs : (slice ring.content (rpcHeaderSize + 2) k).length = k := slice_length_of_le _ (by omega)
    have hm : (slice ring.content (rpcHeaderSize + 4 + k) j).length = j :=
      slice_length_of_le _ (by omega)
    have hp : (slice ring.content (rpcHeaderSize + 4 + k + j) (length - (4 + k + j))).length =
        length - (4 + k + j) := slice_length_of_le _ (by omega)
    refine ⟨_, rfl, ?_, hle, ?_, ?_⟩
    · simp only [hs, hm, hp]
      omega
    · simp only [hs, hm, hp]
    · simp only [hs, hm, hp]
      have hoff : rpcHeaderSize + 2 + k + 2 + j = rpcHeaderSize + 4 + k + j := by omega
      have hcount : rpcHeaderSize + length - (rpcHeaderSize + 4 + k + j) = length - (4 + k + j) := by
        omega
      rw [hoff, hcount]
      exact (payloadViewFromIovecs_spec (ring.runs_length 0 ring.size) _ _).2
  · cases hread

/-- The view reads as the payload, before the frame is consumed and after. -/
theorem borrowedRequestPayload_read {ring : Circular UInt8} {limit n : Nat} {msg : RequestMsg}
    (hparse : (requestParser limit).parse (RingBuffer.content ring) = .ok (some (n, msg))) :
    (borrowedRequestPayload ring).cells.map (RingBuffer.consume ring n).cells = msg.payload := by
  obtain ⟨off, -, -, -, hpayload, hcells⟩ := borrowedRequestPayload_spec hparse
  -- consuming writes no cell
  show (borrowedRequestPayload ring).cells.map ring.cells = _
  rw [hcells, slice, List.map_take, List.map_drop]
  exact hpayload

/-! ## What is handed to the write -/

/-- A response as a handler makes it that borrows, and as one makes it that is given the bytes. -/
structure Sees (memory : Nat → UInt8) (lent : LentResponse) (response : RpcResponse) : Prop where
  requestId : response.requestId = lent.response.requestId
  callMode : response.callMode = lent.response.callMode
  endOfStream : response.endOfStream = lent.response.endOfStream
  errorCode : response.errorCode = lent.response.errorCode
  payload : response.payloadView.cells = lent.payloadView.cells.map (MemoryByte.read memory)

/-- **The write reads the serialization.** -/
theorem Sees.writeState {memory : Nat → UInt8} {lent : LentResponse} {response : RpcResponse}
    (h : Sees memory lent response) :
    (readSegments memory lent.writeState.iovecs).flatten = response.serialize := by
  have hown : ∀ bytes : Bytes, (bytes.map MemoryByte.own).map (MemoryByte.read memory) = bytes := by
    intro bytes
    rw [List.map_map]
    exact List.map_id bytes
  have hsize : response.payloadView.size = lent.payloadView.size := by
    have hlen := congrArg List.length h.payload
    rw [List.length_map, RpcPayloadView.cells_length, RpcPayloadView.cells_length] at hlen
    exact hlen
  have hheader : lent.header = response.header := by
    rw [LentResponse.header, RpcResponse.header, RpcResponse.bodySize, h.callMode, h.endOfStream,
      h.requestId, hsize]
  have hsegments : ([lent.payloadView.segment1, lent.payloadView.segment2].filter
      fun iov => iov.length > 0).flatten = lent.payloadView.cells := by
    have hfilter : (fun iov : List MemoryByte => decide (iov.length > 0)) = fun iov => !iov.isEmpty := by
      funext iov
      cases iov with
      | nil => rfl
      | cons b iov => simp
    rw [hfilter, List.flatten_filter_not_isEmpty, List.flatten_cons, List.flatten_singleton,
      RpcPayloadView.cells]
  have hflat : ∀ iovecs, (readSegments memory iovecs).flatten =
      iovecs.flatten.map (MemoryByte.read memory) := fun _ => List.map_flatten.symm
  rw [hflat, LentResponse.writeState]
  simp only [List.flatten_append, List.flatten_cons, List.flatten_nil, List.append_nil, List.map_append,
    hown, hsegments, ← h.payload, hheader, ← h.errorCode]
  rw [RpcResponse.serialize, RpcPayloadView.cells, List.append_assoc, List.append_assoc]

/-- No segment of it is empty, and there is one. -/
theorem LentResponse.writeState_ne_nil (r : LentResponse) (memory : Nat → UInt8) :
    readSegments memory r.writeState.iovecs ≠ [] ∧
      ∀ iov ∈ readSegments memory r.writeState.iovecs, iov ≠ [] := by
  constructor
  · intro h
    cases h
  · intro iov hiov
    obtain ⟨segment, hmem, rfl⟩ := List.mem_map.mp hiov
    have hpos : 0 < segment.length := by
      rcases List.mem_append.mp hmem with hmem | hmem
      · rcases List.mem_cons.mp hmem with rfl | hmem
        · rw [List.length_map, RpcHeader.serialize_length]
          decide
        · rw [List.mem_singleton.mp hmem, List.length_map, rpcHtons_length]
          decide
      · exact of_decide_eq_true (List.mem_filter.mp hmem).2
    refine List.ne_nil_of_length_pos ?_
    rw [List.length_map]
    exact hpos

/-- **A write that has just been built is to send the serialization.** -/
theorem Sees.sending {memory : Nat → UInt8} {lent : LentResponse} {response : RpcResponse}
    (h : Sees memory lent response) :
    WritevRun.Sending response.serialize (lent.writeState.seen memory) := by
  obtain ⟨hnil, hne⟩ := lent.writeState_ne_nil memory
  have hsending := @WritevRun.Sending.start ⟨readSegments memory lent.writeState.iovecs, none⟩ rfl hnil hne
  have hbytes : (readSegments memory lent.writeState.iovecs).flatten = response.serialize := h.writeState
  rw [← hbytes]
  exact hsending

/-- A call, made by the one and by the other. -/
theorem Sees.apply {memory : Nat → UInt8} {lent : LentResponse} {ctx : RpcContext}
    {view : RpcPayloadView Nat} {request : RpcRequest} (h : Sees memory lent ctx.response)
    (hview : view.cells.map memory = request.payload) (call : LendingCall) :
    Sees memory (call.apply view lent) ((call.see request).apply ctx).response := by
  cases call with
  | setError code => exact ⟨h.requestId, h.callMode, h.endOfStream, rfl, h.payload⟩
  | setPayload data =>
    refine ⟨h.requestId, h.callMode, h.endOfStream, h.errorCode, ?_⟩
    show data ++ [] = ((data.map MemoryByte.own) ++ []).map (MemoryByte.read memory)
    rw [List.append_nil, List.append_nil, List.map_map]
    exact (List.map_id data).symm
  | setPayloadView =>
    refine ⟨h.requestId, h.callMode, h.endOfStream, h.errorCode, ?_⟩
    show request.payloadView.cells =
      (view.segment1.map MemoryByte.cell ++ view.segment2.map MemoryByte.cell).map _
    rw [RpcRequest.payloadView, PayloadStore.view_cells, ← List.map_append, List.map_map]
    exact hview.symm

/-- **What is lent is seen as the answer.** -/
theorem lendResponse_sees {memory : Nat → UInt8} {request : RpcRequest} {view : RpcPayloadView Nat}
    (hview : view.cells.map memory = request.payload) (handle : LendingHandling η) (i : Nat)
    (found : Except RpcErrorCode η) :
    Sees memory (lendResponse handle i found request view)
      (handleRequest handle.see i found request).1 := by
  cases found with
  | error code => exact ⟨rfl, rfl, rfl, rfl, rfl⟩
  | ok handler =>
    have hcalls : ∀ (calls : List LendingCall) (lent : LentResponse) (ctx : RpcContext),
        Sees memory lent ctx.response →
          Sees memory (calls.foldl (LendingCall.apply view) lent)
            (ctx.run (calls.map (LendingCall.see request))).response := by
      intro calls
      induction calls with
      | nil => exact fun _ _ h => h
      | cons call calls ih => exact fun lent ctx h => ih _ _ (h.apply hview call)
    exact hcalls _ _ _ ⟨rfl, rfl, rfl, rfl, rfl⟩

/-! ## One step -/

namespace LendingServer

/-- What a step can do. -/
inductive Stepped (server : RpcServer η ζ) (handle : LendingHandling η) (s : LendingServer η) :
    LendingServer η → Prop where
  | run (hphase : s.phase = .loop) :
      Stepped server handle s { s with phase := .reading ⟨{ ringBuffer := (), own := {} }, none⟩ }
  | stop (hphase : s.phase = .loop) : Stepped server handle s { s with phase := .closed }
  | piece {m : RequestReader} {m' : RpcRingBufferReadMachine (Circular UInt8) RpcRequest}
      {windows : List Nat} {data : Bytes} (hphase : s.phase = .reading m)
      (hadvance : (m.attach s.ring).advance (RpcRequestReadState.parseFromRingBuffer {}) =
        (.waitReadv windows, m'))
      (hne : data ≠ []) (hroom : data.length ≤ windows.sum) :
      Stepped server handle s { s with
        ring := RingBuffer.receive m'.state.ringBuffer data
        phase := .reading (.of { m' with state := { m'.state with
          ringBuffer := RingBuffer.receive m'.state.ringBuffer data } })
        received := s.received ++ data }
  | hangUp {m : RequestReader} {m' : RpcRingBufferReadMachine (Circular UInt8) RpcRequest}
      {e : RpcError} (hphase : s.phase = .reading m) (hresult : m'.result = some (.error e)) :
      Stepped server handle s { s with phase := .reading (.of m') }
  | refused {m : RequestReader} {m' : RpcRingBufferReadMachine (Circular UInt8) RpcRequest}
      {e : RpcError} (hphase : s.phase = .reading m)
      (hadvance : (m.attach s.ring).advance (RpcRequestReadState.parseFromRingBuffer {}) =
        (.complete (.error e), m')) :
      Stepped server handle s { s with ring := m'.state.ringBuffer, phase := .closed }
  | received {m : RequestReader} {m' : RpcRingBufferReadMachine (Circular UInt8) RpcRequest}
      {b : Bool} (hphase : s.phase = .reading m)
      (hadvance : (m.attach s.ring).advance (RpcRequestReadState.parseFromRingBuffer {}) =
        (.complete (.ok b), m')) :
      Stepped server handle s { s with
        ring := m'.state.ringBuffer
        phase := .handling m'.state.own (borrowedRequestPayload s.ring) }
  | handle {request : RpcRequest} {view : RpcPayloadView Nat} (hphase : s.phase = .handling request view) :
      Stepped server handle s { s with
        cache := (findHandler server.mServices buildRouteHash s.cache request).2
        phase := .sending request (lendResponse handle s.rounds.length
          (findHandler server.mServices buildRouteHash s.cache request).1 request view).writeState }
  | writev {request : RpcRequest} {w w' : LentWrite} {event : WriteEvent}
      (hphase : s.phase = .sending request w) (hwrite : w.step s.ring.cells event = some w') :
      Stepped server handle s { s with phase := .sending request w' }
  | sent {request : RpcRequest} {w : LentWrite} {b : Bool} {machine : RpcWritevMachine}
      (hphase : s.phase = .sending request w)
      (hadvance : (w.seen s.ring.cells).machine.advance = (.complete (.ok b), machine)) :
      Stepped server handle s
        { s with phase := .loop, rounds := s.rounds ++ [⟨request, w.accepted, true⟩] }
  | sendFailed {request : RpcRequest} {w : LentWrite} (hphase : s.phase = .sending request w) :
      Stepped server handle s
        { s with phase := .closed, rounds := s.rounds ++ [⟨request, w.accepted, false⟩] }

theorem stepped {server : RpcServer η ζ} {handle : LendingHandling η} {s s' : LendingServer η}
    {a : LendingAction} (h : s.step server handle a = some s') : Stepped server handle s s' := by
  cases a with
  | run =>
    unfold step at h
    dsimp only at h
    split at h
    · rename_i hphase
      split at h
      · obtain rfl := Option.some.inj h
        exact .run hphase
      · obtain rfl := Option.some.inj h
        exact .stop hphase
    · cases h
  | readv event =>
    unfold step at h
    dsimp only at h
    split at h
    · rename_i m hphase
      split at h
      · rename_i windows m' hadvance
        rcases event with e | data
        · obtain rfl := Option.some.inj h
          exact .hangUp hphase rfl
        · cases data with
          | nil =>
            obtain rfl := Option.some.inj h
            exact .hangUp hphase rfl
          | cons byte data =>
            obtain ⟨hroom, h⟩ := Option.ite_none_right_eq_some.mp h
            obtain rfl := Option.some.inj h
            exact .piece hphase hadvance (List.cons_ne_nil byte data) hroom
      · cases h
    · cases h
  | received =>
    unfold step at h
    dsimp only at h
    split at h
    · rename_i m hphase
      split at h
      · rename_i e m' hadvance
        obtain rfl := Option.some.inj h
        exact .refused hphase hadvance
      · rename_i b m' hadvance
        obtain rfl := Option.some.inj h
        exact .received hphase hadvance
      · cases h
    · cases h
  | handle =>
    unfold step at h
    dsimp only at h
    split at h
    · rename_i request view hphase
      obtain rfl := Option.some.inj h
      exact .handle hphase
    · cases h
  | writev event =>
    unfold step at h
    dsimp only at h
    split at h
    · rename_i request w hphase
      obtain ⟨w', hwrite, rfl⟩ := Option.map_eq_some_iff.mp h
      exact .writev hphase hwrite
    · cases h
  | sent =>
    unfold step at h
    dsimp only at h
    split at h
    · rename_i request w hphase
      split at h
      · rename_i b machine hadvance
        obtain rfl := Option.some.inj h
        exact .sent hphase hadvance
      · obtain rfl := Option.some.inj h
        exact .sendFailed hphase
      · cases h
    · cases h

end LendingServer

/-! ## The invariant -/

/-- What has been written for a request is a beginning of the response, and all of it where the write has
    succeeded. -/
def ServedRequest.Answered (r : ServedRequest) (response : RpcResponse) : Prop :=
  r.put <+: response.serialize ∧ (r.completed = true → r.put = response.serialize)

/-- What is so where the coroutine is: the view of the request at hand reads as its payload, and what is
    being sent reads as the answer. -/
def LendingServer.Reads (server : RpcServer η ζ) (handle : LendingHandling η) (s : LendingServer η) :
    Prop :=
  match s.phase with
  | .loop => True
  | .reading m => (m.attach s.ring).Open
  | .handling request view => view.cells.map s.ring.cells = request.payload
  | .sending request w =>
    WritevRun.Sending (server.answer handle.see s.rounds.length request).serialize (w.seen s.ring.cells)
  | .closed => True

/-- A connection between two steps. -/
structure Serving (server : RpcServer η ζ) (handle : LendingHandling η) (s : LendingServer η) :
    Prop where
  stream : (requestParser protocolLimit).Frames s.received (s.requests.map RpcRequest.msg)
    (RingBuffer.content s.ring)
  cache : s.cache.Consistent server.mServices
  rounds : ∀ (k : Nat) (r : ServedRequest), s.rounds[k]? = some r →
    r.Answered (server.answer handle.see k r.request)
  phase : s.Reads server handle

namespace Serving

variable {server : RpcServer η ζ} {handle : LendingHandling η} {s s' : LendingServer η}

theorem start (server : RpcServer η ζ) (handle : LendingHandling η) (capacity : Nat)
    (cells : Nat → UInt8) : Serving server handle (.start (.empty capacity cells)) where
  stream := by
    have hempty : RingBuffer.content (Circular.empty capacity cells) = [] :=
      (Circular.holds_empty capacity cells).content_eq
    show (requestParser protocolLimit).Frames [] [] (RingBuffer.content (Circular.empty capacity cells))
    rw [hempty]
    exact .nil []
  cache := RouteCache.consistent_empty _
  rounds := fun k r h => by cases h
  phase := trivial

/-- The stream, where the requests are known. -/
theorem frames (h : Serving server handle s) {requests : List RpcRequest}
    (hrequests : s.requests = requests) :
    (requestParser protocolLimit).Frames s.received (requests.map RpcRequest.msg)
      (RingBuffer.content s.ring) :=
  hrequests ▸ h.stream

/-- What is so where the coroutine is. -/
theorem reads_reading (h : Serving server handle s) {m : RequestReader} (hphase : s.phase = .reading m) :
    (m.attach s.ring).Open := by
  have hreads := h.phase
  rw [LendingServer.Reads, hphase] at hreads
  exact hreads

theorem reads_handling (h : Serving server handle s) {request : RpcRequest} {view : RpcPayloadView Nat}
    (hphase : s.phase = .handling request view) : view.cells.map s.ring.cells = request.payload := by
  have hreads := h.phase
  rw [LendingServer.Reads, hphase] at hreads
  exact hreads

theorem reads_sending (h : Serving server handle s) {request : RpcRequest} {w : LentWrite}
    (hphase : s.phase = .sending request w) :
    WritevRun.Sending (server.answer handle.see s.rounds.length request).serialize
      (w.seen s.ring.cells) := by
  have hreads := h.phase
  rw [LendingServer.Reads, hphase] at hreads
  exact hreads

/-- What a read does next. -/
theorem advanced (h : Serving server handle s) {m : RequestReader} (hphase : s.phase = .reading m) :
    Advanced RpcRequest.msg (requestParser protocolLimit) (m.attach s.ring)
      ((m.attach s.ring).advance (RpcRequestReadState.parseFromRingBuffer {})) :=
  (request_readsFrames {}).advance (h.reads_reading hphase)

/-- One more request has been handled. -/
theorem rounds_concat (h : Serving server handle s) {r : ServedRequest}
    (hr : r.Answered (server.answer handle.see s.rounds.length r.request)) :
    ∀ (k : Nat) (r' : ServedRequest), (s.rounds ++ [r])[k]? = some r' →
      r'.Answered (server.answer handle.see k r'.request) :=
  forall_getElem?_concat h.rounds hr

/-- What has been written so far of a response. -/
theorem answered_part {response : RpcResponse} {w : WritevRun}
    (h : WritevRun.Sending response.serialize w) (request : RpcRequest) :
    ServedRequest.Answered ⟨request, w.accepted, false⟩ response :=
  ⟨⟨_, h.sends.accepted⟩, fun hcompleted => absurd hcompleted Bool.false_ne_true⟩

/-- A read that waits offers the free cells. -/
theorem waiting_ring (h : Serving server handle s) {m : RequestReader} (hphase : s.phase = .reading m)
    {windows : List Nat} {m' : RpcRingBufferReadMachine (Circular UInt8) RpcRequest}
    (hadvance : (m.attach s.ring).advance (RpcRequestReadState.parseFromRingBuffer {}) =
      (.waitReadv windows, m')) :
    m'.state.ringBuffer = s.ring ∧ windows.sum = RingBuffer.free s.ring ∧ m'.Open := by
  have hnext := h.advanced hphase
  rw [hadvance] at hnext
  cases hnext with
  | waits windows hresult hparse hsum =>
    refine ⟨rfl, hsum, ?_⟩
    rcases h.reads_reading hphase with hopen | ⟨e, he⟩
    · exact Or.inl hopen
    · exact absurd (hresult.symm.trans he) (Option.some_ne_none _).symm

/-- A read that fails leaves the ring. -/
theorem refused_ring (h : Serving server handle s) {m : RequestReader} (hphase : s.phase = .reading m)
    {e : RpcError} {m' : RpcRingBufferReadMachine (Circular UInt8) RpcRequest}
    (hadvance : (m.attach s.ring).advance (RpcRequestReadState.parseFromRingBuffer {}) =
      (.complete (.error e), m')) : m'.state.ringBuffer = s.ring := by
  have hnext := h.advanced hphase
  rw [hadvance] at hnext
  cases hnext with
  | failed e m' hring => exact hring

/-- A read that succeeds consumes the frame in front. -/
theorem received_ring (h : Serving server handle s) {m : RequestReader} (hphase : s.phase = .reading m)
    {b : Bool} {m' : RpcRingBufferReadMachine (Circular UInt8) RpcRequest}
    (hadvance : (m.attach s.ring).advance (RpcRequestReadState.parseFromRingBuffer {}) =
      (.complete (.ok b), m')) :
    ∃ n, m'.state.ringBuffer = RingBuffer.consume s.ring n ∧
      (requestParser protocolLimit).parse (RingBuffer.content s.ring) =
        .ok (some (n, m'.state.own.msg)) := by
  have hnext := h.advanced hphase
  rw [hadvance] at hnext
  cases hnext with
  | read n own hresult hparse => exact ⟨n, rfl, hparse⟩

/-- **The step lemma.** -/
theorem step (h : Serving server handle s) {a : LendingAction}
    (hstep : s.step server handle a = some s') : Serving server handle s' := by
  cases LendingServer.stepped hstep with
  | run hphase =>
    exact ⟨h.frames (LendingServer.requests_loop hphase), h.cache, h.rounds, Or.inl ⟨rfl, rfl⟩⟩
  | stop hphase => exact ⟨h.frames (LendingServer.requests_loop hphase), h.cache, h.rounds, trivial⟩
  | @piece m m' windows data hphase hadvance hne hroom =>
    obtain ⟨hring, hsum, hopen⟩ := h.waiting_ring hphase hadvance
    have hfits : data.length ≤ RingBuffer.free s.ring := hsum ▸ hroom
    refine ⟨?_, h.cache, h.rounds, ?_⟩
    · show (requestParser protocolLimit).Frames (s.received ++ data) _
        (RingBuffer.content (RingBuffer.receive m'.state.ringBuffer data))
      rw [hring, RingBuffer.content_receive hfits]
      exact (h.frames (LendingServer.requests_reading hphase)).append data
    · exact hopen
  | @hangUp m m' e hphase hresult =>
    exact ⟨h.frames (LendingServer.requests_reading hphase), h.cache, h.rounds, Or.inr ⟨e, hresult⟩⟩
  | @refused m m' e hphase hadvance =>
    refine ⟨?_, h.cache, h.rounds, trivial⟩
    show (requestParser protocolLimit).Frames s.received _ (RingBuffer.content m'.state.ringBuffer)
    rw [h.refused_ring hphase hadvance]
    exact h.frames (LendingServer.requests_reading hphase)
  | @received m m' b hphase hadvance =>
    obtain ⟨n, hring, hparse⟩ := h.received_ring hphase hadvance
    have hle := ((requestParser protocolLimit).consumes hparse).2
    refine ⟨?_, h.cache, h.rounds, ?_⟩
    · show (requestParser protocolLimit).Frames s.received
        ((s.rounds.map ServedRequest.request ++ [m'.state.own]).map RpcRequest.msg)
        (RingBuffer.content m'.state.ringBuffer)
      rw [hring, RingBuffer.content_consume _ _ hle, List.map_append]
      exact (h.frames (LendingServer.requests_reading hphase)).concat hparse
    · show (borrowedRequestPayload s.ring).cells.map m'.state.ringBuffer.cells = _
      rw [hring]
      exact borrowedRequestPayload_read hparse
  | @handle request view hphase =>
    obtain ⟨hfound, hcache⟩ := findHandler_eq h.cache buildRouteHash request
    refine ⟨h.frames (LendingServer.requests_handling hphase), hcache, h.rounds, ?_⟩
    have hsees := lendResponse_sees (h.reads_handling hphase) handle s.rounds.length
      (findHandler server.mServices buildRouteHash s.cache request).1
    rw [hfound] at hsees
    show WritevRun.Sending (server.answer handle.see s.rounds.length request).serialize
      ((lendResponse handle s.rounds.length
        (findHandler server.mServices buildRouteHash s.cache request).1 request view).writeState.seen _)
    rw [hfound]
    exact hsees.sending
  | @writev request w w' event hphase hwrite =>
    exact ⟨h.frames (LendingServer.requests_sending hphase), h.cache, h.rounds,
      (h.reads_sending hphase).step (LentWrite.seen_step hwrite)⟩
  | @sent request w b machine hphase hadvance =>
    have hsending := h.reads_sending hphase
    have hall : w.accepted = (server.answer handle.see s.rounds.length request).serialize := by
      -- a write that completes without an error has written everything
      cases hsending with
      | writing iovecs hmachine hnil =>
        rw [hmachine, advance_waitWritev hnil] at hadvance
        cases hadvance
      | done hmachine hbytes => exact hbytes
      | failed iovecs e hmachine =>
        rw [hmachine] at hadvance
        cases hadvance
    exact ⟨h.frames (LendingServer.requests_round hphase w.accepted true), h.cache,
      h.rounds_concat ⟨hall ▸ List.prefix_refl _, fun _ => hall⟩, trivial⟩
  | @sendFailed request w hphase =>
    exact ⟨h.frames (LendingServer.requests_round hphase w.accepted false), h.cache,
      h.rounds_concat (answered_part (h.reads_sending hphase) request), trivial⟩

/-- **The run lemma.** -/
theorem run {capacity : Nat} {cells : Nat → UInt8} {actions : List LendingAction}
    (hrun : Run (LendingServer.step server handle) (fun _ _ => True) (.start (.empty capacity cells))
      actions s) : Serving server handle s :=
  hrun.invariant (fun _ _ _ h _ hstep => h.step hstep) (start server handle capacity cells)

end Serving

/-! ## As received -/

/-- The payload is the end of a request frame, behind the names. -/
theorem RequestMsg.payload_of_frame {limit : Nat} {frame : Bytes} {msg : RequestMsg}
    (h : (requestParser limit).Frame frame msg) :
    ∃ front, frame = front ++ msg.payload ∧
      front.length = rpcHeaderSize + 4 + msg.serviceName.length + msg.methodName.length := by
  obtain ⟨-, -, hn, -, -, hread⟩ := parseFrame_eq_some.mp h
  obtain ⟨⟨service, method, payload⟩, hsplit, rfl⟩ := Option.map_eq_some_iff.mp hread
  obtain ⟨-, -, hbody⟩ := splitNames_eq_some.mp hsplit
  have hframe : frame = frame.take rpcHeaderSize ++ (serializeNames service method ++ payload) := by
    rw [← hbody, slice_to_end _ hn.le, List.take_append_drop]
  refine ⟨frame.take rpcHeaderSize ++ serializeNames service method, ?_, ?_⟩
  · rw [List.append_assoc]
    exact hframe
  · rw [List.length_append, List.length_take, serializeNames_length]
    show min rpcHeaderSize frame.length + (4 + service.length + method.length) =
      rpcHeaderSize + 4 + service.length + method.length
    omega

/-- The last word a handler has on the payload is the view of its request. -/
def Echoes (calls : List LendingCall) : Prop :=
  ∃ before after, calls = before ++ .setPayloadView :: after ∧
    ∀ call ∈ after, ∃ code, call = .setError code

/-- Then it answers with the payload. -/
theorem Echoes.outcome {calls : List LendingCall} (h : Echoes calls) (request : RpcRequest) :
    (RpcContextCall.outcome (calls.map (LendingCall.see request))).2 = request.payload := by
  obtain ⟨before, after, rfl, hafter⟩ := h
  have hkeep : ∀ (l : List LendingCall) (outcome : RpcErrorCode × Bytes),
      (∀ call ∈ l, ∃ code, call = .setError code) →
        ((l.map (LendingCall.see request)).foldl RpcContextCall.amend outcome).2 = outcome.2 := by
    intro l
    induction l with
    | nil => exact fun _ _ => rfl
    | cons call l ih =>
      intro outcome hl
      obtain ⟨code, rfl⟩ := hl call List.mem_cons_self
      exact ih _ fun call' hmem => hl call' (List.mem_cons_of_mem _ hmem)
  rw [RpcContextCall.outcome, List.map_append, List.foldl_append, List.map_cons, List.foldl_cons,
    hkeep after _ hafter]
  show request.payloadView.cells = request.payload
  rw [RpcRequest.payloadView, PayloadStore.view_cells]
  rfl

/-- What is sent for request `k` is its payload as it was received: the frame of the request is the one
    behind the frames of those before it, and what has been written is a beginning of a header, an
    error code and this payload, or all of it where `sendResponse` has succeeded. -/
def LendingServer.SentAsReceived (s : LendingServer η) (k : Nat) (r : ServedRequest) : Prop :=
  ∃ before front after head,
    s.received = before ++ ((front ++ r.request.payload) ++ after) ∧
    (requestParser protocolLimit).Frames before ((s.requests.take k).map RpcRequest.msg) [] ∧
    (requestParser protocolLimit).Frame (front ++ r.request.payload) r.request.msg ∧
    front.length = rpcHeaderSize + 4 + r.request.serviceName.length + r.request.methodName.length ∧
    head.length = rpcHeaderSize + 2 ∧
    r.put <+: head ++ r.request.payload ∧ (r.completed = true → r.put = head ++ r.request.payload)

namespace Serving

variable {server : RpcServer η ζ} {handle : LendingHandling η} {s s' : LendingServer η}

/-- **What a step writes**: free cells, in `getRequest`. -/
theorem cells_step (h : Serving server handle s) {a : LendingAction}
    (hstep : s.step server handle a = some s') :
    (∀ x, x ∉ s.ring.writeRuns.flatten → s'.ring.cells x = s.ring.cells x) ∧
      ((∀ m, s.phase ≠ .reading m) → s'.ring.cells = s.ring.cells) := by
  cases LendingServer.stepped hstep with
  | @piece m m' windows data hphase hadvance hne hroom =>
    obtain ⟨hring, -, -⟩ := h.waiting_ring hphase hadvance
    refine ⟨fun x hx => ?_, fun hnot => absurd hphase (hnot m)⟩
    show (RingBuffer.receive m'.state.ringBuffer data).cells x = s.ring.cells x
    rw [hring]
    exact store_of_not_mem s.ring.cells data hx
  | @refused m m' e hphase hadvance =>
    have hcells : m'.state.ringBuffer.cells = s.ring.cells := by
      rw [h.refused_ring hphase hadvance]
    exact ⟨fun x _ => congrFun hcells x, fun _ => hcells⟩
  | @received m m' b hphase hadvance =>
    obtain ⟨n, hring, -⟩ := h.received_ring hphase hadvance
    have hcells : m'.state.ringBuffer.cells = s.ring.cells := by
      rw [hring]
      rfl
    exact ⟨fun x _ => congrFun hcells x, fun _ => hcells⟩
  | run hphase => exact ⟨fun x _ => rfl, fun _ => rfl⟩
  | stop hphase => exact ⟨fun x _ => rfl, fun _ => rfl⟩
  | hangUp hphase hresult => exact ⟨fun x _ => rfl, fun _ => rfl⟩
  | handle hphase => exact ⟨fun x _ => rfl, fun _ => rfl⟩
  | writev hphase hwrite => exact ⟨fun x _ => rfl, fun _ => rfl⟩
  | sent hphase hadvance => exact ⟨fun x _ => rfl, fun _ => rfl⟩
  | sendFailed hphase => exact ⟨fun x _ => rfl, fun _ => rfl⟩

/-- The requests that have been handled have been read, in that order. -/
theorem served_requests {k : Nat} {r : ServedRequest} (hk : s.served[k]? = some r) :
    s.requests[k]? = some r.request := by
  have hmap : (s.served.map ServedRequest.request)[k]? = some r.request := by
    rw [List.getElem?_map, hk, Option.map_some]
  unfold LendingServer.served at hmap
  unfold LendingServer.requests
  split at hmap
  · rename_i request w hphase
    rw [hphase]
    rw [List.map_append] at hmap
    exact hmap
  · rename_i hnot
    split
    · rw [List.getElem?_append_left (List.getElem?_eq_some_iff.mp hmap).1]
      exact hmap
    · rename_i request w hphase
      exact absurd hphase (hnot request w)
    · exact hmap

/-- **Every request that has been handled is answered**, with what has been written so far. -/
theorem served_answered (h : Serving server handle s) {k : Nat} {r : ServedRequest}
    (hk : s.served[k]? = some r) : r.Answered (server.answer handle.see k r.request) := by
  unfold LendingServer.served at hk
  split at hk
  · rename_i request w hphase
    exact h.rounds_concat (answered_part (h.reads_sending hphase) request) k r hk
  · exact h.rounds k r hk

end Serving

/-- **A payload that a handler borrows is sent as it was received.**  On every connection, whatever its
    ring's capacity and however the bytes come in, requests are buffered and writes are taken, a step
    writes none but free cells, and none at all outside of `getRequest`; and what is sent for a request
    whose handler answers with the view of its payload is the payload of the request's frame. -/
theorem borrowed_payload_sent_as_received (server : RpcServer η ζ) (handle : LendingHandling η)
    (capacity : Nat) (cells : Nat → UInt8) {actions : List LendingAction} {s : LendingServer η}
    (hrun : Run (LendingServer.step server handle) (fun _ _ => True) (.start (.empty capacity cells))
      actions s) :
    (∀ a s', s.step server handle a = some s' →
      (∀ x, x ∉ s.ring.writeRuns.flatten → s'.ring.cells x = s.ring.cells x) ∧
        ((∀ m, s.phase ≠ .reading m) → s'.ring.cells = s.ring.cells)) ∧
    ∀ k r, s.served[k]? = some r → ∀ handler,
      resolveMethodHandler server.mServices r.request = .ok handler →
        Echoes (handle k handler r.request) → s.SentAsReceived k r := by
  have hs := Serving.run hrun
  refine ⟨fun a s' hstep => hs.cells_step hstep, ?_⟩
  intro k r hk handler hresolve hechoes
  have hmsg : (s.requests.map RpcRequest.msg)[k]? = some r.request.msg := by
    rw [List.getElem?_map, Serving.served_requests hk, Option.map_some]
  obtain ⟨before, frame, after, hstream, hbefore, hframe⟩ := hs.stream.getElem? hmsg
  rw [← List.map_take] at hbefore
  obtain ⟨front, hfront, hlength⟩ := RequestMsg.payload_of_frame hframe
  have hfront : frame = front ++ r.request.payload := hfront
  subst hfront
  obtain ⟨hput, hall⟩ := hs.served_answered hk
  have hanswer := @RpcServer.answer_msg _ _ server handle.see k r.request
  have hpayload : (server.outcome handle.see k r.request).2 = r.request.payload := by
    unfold RpcServer.outcome
    rw [hresolve]
    exact hechoes.outcome r.request
  generalize hhead : (server.answer handle.see k r.request).msg.header.serialize ++
    rpcHtons (server.answer handle.see k r.request).msg.errorCode.toWord = head
  have hbytes : (server.answer handle.see k r.request).serialize = head ++ r.request.payload := by
    have hlast : (server.answer handle.see k r.request).msg.payload = r.request.payload := by
      rw [hanswer]
      exact hpayload
    rw [RpcResponse.serialize_eq, ResponseMsg.frame, ResponseMsg.body, hlast, ← List.append_assoc, hhead]
  refine ⟨before, front, after, head, hstream, hbefore, hframe, hlength, ?_, ?_, ?_⟩
  · rw [← hhead, List.length_append, RpcHeader.serialize_length, rpcHtons_length]
  · rw [← hbytes]
    exact hput
  · rw [← hbytes]
    exact hall

/-- A handler that answers with the view of its request. -/
def lendingEcho : LendingHandling Unit := fun _ _ _ => [.setPayloadView]

/-- Two requests, the second of which wraps around the end of a ring of 40 cells, as its start is buffered
    with the first; the second response is on its way. -/
def twoEchoes : List LendingAction :=
  let frame := echoRequest.serialize
  [.run, .readv (.ok (frame ++ frame.take 10)), .received, .handle, .writev (.accept 7),
    .writev (.accept 12), .writev (.accept 1), .sent, .run, .readv (.ok (frame.drop 10)), .received,
    .handle, .writev (.accept 19)]

theorem borrowed_payload_sent_as_received_twoEchoes :
    ∃ (s : LendingServer Unit) (r : ServedRequest),
      runAll (LendingServer.step RpcServer.echoServer lendingEcho) (fun _ _ => True)
          (.start (.empty 40 fun _ => 0)) twoEchoes = some s ∧
        s.served[1]? = some r ∧ r.put.drop 18 = [0x68] ∧ s.SentAsReceived 1 r := by
  have hruns : ((runAll (LendingServer.step RpcServer.echoServer lendingEcho) (fun _ _ => True)
      (.start (.empty 40 fun _ => 0)) twoEchoes).bind fun s => s.served[1]?.bind fun r =>
        (resolveMethodHandler RpcServer.echoServer.mServices r.request).toOption.map fun _ =>
          r.put.drop 18) = some [0x68] := by
    decide +kernel
  obtain ⟨s, hs, hserved⟩ := Option.bind_eq_some_iff.mp hruns
  obtain ⟨r, hr, hfound⟩ := Option.bind_eq_some_iff.mp hserved
  obtain ⟨handler, hhandler, hput⟩ := Option.map_eq_some_iff.mp hfound
  have hresolve : resolveMethodHandler RpcServer.echoServer.mServices r.request = .ok handler := by
    cases hcode : resolveMethodHandler RpcServer.echoServer.mServices r.request with
    | error code =>
      rw [hcode] at hhandler
      cases hhandler
    | ok handler' => rfl
  refine ⟨s, r, hs, hr, hput, ?_⟩
  exact (borrowed_payload_sent_as_received RpcServer.echoServer lendingEcho 40 _
    (run_iff_runAll.mpr hs)).2 1 r hr handler hresolve
    ⟨[], [], rfl, fun call hcall => absurd hcall List.not_mem_nil⟩

end GalayRpc
