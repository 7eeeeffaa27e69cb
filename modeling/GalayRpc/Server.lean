/-
  `RpcServer::handleConnection`: read a request, find its handler, run it, send the response, again.

  1. **Loop** — the coroutine of one connection, from the socket's two directions to the log of what it
     does.  `m_running` is read once a round and may be cleared by `stop()` at any time, so its values
     are arbitrary; so is what a handler does through its context, which may depend on the round.

  2. **Specification** — `answer` is what a request deserves: resolved in the registry (no cache), run,
     under the request's own id and mode.  `ConnEnds` lists the three ways a connection can end, each
     with the whole log and all bytes sent.

  3. **Loop invariant** — the bytes in the ring and on the wire are the frames still to come, and the
     route cache is consistent.  One round takes one frame off and puts one response out
     (`handleRequests_ends`, by induction on the frames).
-/
import GalayRpc.RouteCache
import GalayRpc.Conn

namespace GalayRpc

variable {ρ η ζ : Type} [RingBuffer ρ]

/-! ## The loop -/

/-- What `handleConnection` uses of an `RpcServer`: the registry, and what the loads of `m_running`
    give. -/
structure RpcServer (η ζ : Type) where
  mServices : Services η ζ
  mRunning : Nat → Bool

/-- What handlers do: the calls a handler makes on its context, in this round, for this request. -/
abbrev Handling (η : Type) := Nat → η → RpcRequest → List RpcContextCall

/-- What a connection does. -/
inductive ServerEvent (η : Type) where
  | received (request : RpcRequest)
  | dispatched (handler : η) (request : RpcRequest)
  | responded (response : RpcResponse)
  | readFailed (e : RpcError)
  | sendFailed (response : RpcResponse) (e : RpcError)
  | closed

/-- A connection that is over, or waits forever. -/
structure ConnRun (η : Type) where
  log : List (ServerEvent η)
  sink : Sink

/-- The locals of `handleConnection`, and its socket. -/
structure ConnState (ρ η : Type) where
  ringBuffer : ρ
  cache : RouteCache η
  wire : Wire
  sink : Sink

/-- What `handleConnection` does with a request once its handler is found, or not. -/
def handleRequest (handle : Handling η) (i : Nat) (found : Except RpcErrorCode η)
    (request : RpcRequest) : RpcResponse × List (ServerEvent η) :=
  let response : RpcResponse :=
    { requestId := request.requestId, callMode := request.callMode, endOfStream := true }
  match found with
  | .error code => ({ response with errorCode := code }, [])
  | .ok handler =>
    (((RpcContext.mk request response).run (handle i handler request)).response,
      [.dispatched handler request])

namespace RpcServer

variable (server : RpcServer η ζ) (handle : Handling η)

/-- The loop of `handleConnection`, from round `i` on. -/
def handleRequests : Nat → Nat → ConnState ρ η → ConnRun η
  | 0, _, c => ⟨[], c.sink⟩
  | fuel + 1, i, c =>
    if server.mRunning i then
      let read := awaitRead (RpcRequestReadState.parseFromRingBuffer {})
        { ringBuffer := c.ringBuffer, own := {} } c.wire
      match read.result with
      -- the wire is silent, and the coroutine waits
      | none => ⟨[], c.sink⟩
      | some (.error e) => ⟨[.readFailed e, .closed], c.sink⟩
      | some (.ok _) =>
        let request := read.own
        let found := findHandler server.mServices buildRouteHash c.cache request
        let handled := handleRequest handle i found.1 request
        let write := awaitWrite (RpcResponseWriteState handled.1) c.sink
        match write.result with
        -- not taken: a write always ends (`awaitWrite_response`)
        | none => ⟨.received request :: handled.2, write.sink⟩
        | some (.error e) =>
          ⟨.received request :: handled.2 ++ [.sendFailed handled.1 e, .closed], write.sink⟩
        | some (.ok _) =>
          let rest := handleRequests fuel (i + 1) ⟨read.ringBuffer, found.2, read.wire, write.sink⟩
          ⟨.received request :: handled.2 ++ .responded handled.1 :: rest.log, rest.sink⟩
    else ⟨[.closed], c.sink⟩

/-- `handleConnection`; every round but the last takes at least one byte off the wire. -/
def handleConnection (ring : ρ) (w : Wire) (k : Sink) : ConnRun η :=
  server.handleRequests handle (w.bytes.length + 1) 0 ⟨ring, .empty, w, k⟩

/-! ## What a connection is to do -/

/-- The outcome of dispatching a request in round `i`: the registry's error code, or the error code and
    payload its handler sets. -/
def outcome (i : Nat) (request : RpcRequest) : RpcErrorCode × Bytes :=
  match resolveMethodHandler server.mServices request with
  | .error code => (code, [])
  | .ok handler => RpcContextCall.outcome (handle i handler request)

/-- The response a request deserves in round `i`. -/
def answer (i : Nat) (request : RpcRequest) : RpcResponse :=
  (handleRequest handle i (resolveMethodHandler server.mServices request) request).1

/-- The events of round `i` up to the response. -/
def exchange (i : Nat) (request : RpcRequest) : List (ServerEvent η) :=
  .received request :: (handleRequest handle i (resolveMethodHandler server.mServices request) request).2

/-- The responses to requests read from round `i` on. -/
def answers (i : Nat) (received : List RpcRequest) : List RpcResponse :=
  (received.zipIdx i).map fun r => server.answer handle r.2 r.1

/-- The events of the rounds that answer them. -/
def served (i : Nat) (received : List RpcRequest) : List (ServerEvent η) :=
  (received.zipIdx i).flatMap fun r =>
    server.exchange handle r.2 r.1 ++ [.responded (server.answer handle r.2 r.1)]

/-- How a connection goes, from round `i` on, that has these requests in front of bytes that are none:
    it is stopped, or it answers them all and fails to read another, or it fails to send a response,
    and closes; or it answers them all and the wire is silent.  The log and the bytes sent have nothing
    else in them. -/
inductive ConnEnds (i : Nat) (requests : List RequestMsg) (ending : WireEnd) (k : Sink)
    (run : ConnRun η) : Prop where
  | stopped (received : List RpcRequest) (hreceived : received.map RpcRequest.msg <+: requests)
      (hstop : server.mRunning (i + received.length) = false)
      (hlog : run.log = server.served handle i received ++ [.closed])
      (hsent : run.sink.sent =
        k.sent ++ ((server.answers handle i received).map RpcResponse.serialize).flatten)
  | readFailed (received : List RpcRequest) (hreceived : received.map RpcRequest.msg = requests)
      (e : RpcError) (hlog : run.log = server.served handle i received ++ [.readFailed e, .closed])
      (hsent : run.sink.sent =
        k.sent ++ ((server.answers handle i received).map RpcResponse.serialize).flatten)
  | waits (received : List RpcRequest) (hreceived : received.map RpcRequest.msg = requests)
      (hsilent : ending = .silent) (hlog : run.log = server.served handle i received)
      (hsent : run.sink.sent =
        k.sent ++ ((server.answers handle i received).map RpcResponse.serialize).flatten)
  | sendFailed (received : List RpcRequest) (last : RpcRequest)
      (hreceived : (received ++ [last]).map RpcRequest.msg <+: requests) (response : RpcResponse)
      (hresponse : response = server.answer handle (i + received.length) last) (e : RpcError)
      (n j : Nat) (hfails : (k.writes j).Fails)
      (hlog : run.log = server.served handle i received ++
        server.exchange handle (i + received.length) last ++ [.sendFailed response e, .closed])
      (hpart : n < response.serialize.length)
      (hsent : run.sink.sent =
        k.sent ++ ((server.answers handle i received).map RpcResponse.serialize).flatten ++
          response.serialize.take n)

/-! ## The loop does it -/

section Loop

variable {server handle}

/-- A response says what its request and the outcome say. -/
theorem answer_msg (i : Nat) (request : RpcRequest) :
    (server.answer handle i request).msg =
      ⟨request.requestId, request.callMode, true, (server.outcome handle i request).1,
        (server.outcome handle i request).2⟩ := by
  unfold answer outcome handleRequest
  rcases resolveMethodHandler server.mServices request with code | handler
  · rfl
  · show (RpcContext.run _ _).response.msg = _
    rw [RpcContext.run_msg]
    rfl

/-- A round that answers a request, in front of the rounds behind it. -/
theorem ConnEnds.cons {i : Nat} {requests : List RequestMsg} {ending : WireEnd} {k k' : Sink}
    {rest : ConnRun η} (h : server.ConnEnds handle (i + 1) requests ending k' rest) (request : RpcRequest)
    (hsent : k'.sent = k.sent ++ (server.answer handle i request).serialize)
    (hwrites : ∃ j, k'.writes = fun n => k.writes (n + j)) :
    server.ConnEnds handle i (request.msg :: requests) ending k
      ⟨server.exchange handle i request ++ .responded (server.answer handle i request) :: rest.log,
        rest.sink⟩ := by
  have hround : ∀ received : List RpcRequest, i + 1 + received.length = i + (request :: received).length := by
    intro received
    rw [List.length_cons]
    omega
  have hserved : ∀ (received : List RpcRequest) (tail : List (ServerEvent η)),
      server.exchange handle i request ++ .responded (server.answer handle i request) ::
          (server.served handle (i + 1) received ++ tail) =
        server.served handle i (request :: received) ++ tail := by
    intro received tail
    simp [served]
  have hbytes : ∀ received : List RpcRequest,
      k'.sent ++ ((server.answers handle (i + 1) received).map RpcResponse.serialize).flatten =
        k.sent ++ ((server.answers handle i (request :: received)).map RpcResponse.serialize).flatten := by
    intro received
    simp [answers, hsent]
  cases h with
  | stopped received hreceived hstop hlog hall =>
    refine .stopped (request :: received) ?_ ?_ ?_ ?_
    · exact (List.cons_prefix_cons).mpr ⟨rfl, hreceived⟩
    · rw [← hround]
      exact hstop
    · rw [← hserved, hlog]
    · rw [← hbytes]
      exact hall
  | readFailed received hreceived e hlog hall =>
    refine .readFailed (request :: received) ?_ e ?_ ?_
    · rw [List.map_cons, hreceived]
    · rw [← hserved, hlog]
    · rw [← hbytes]
      exact hall
  | waits received hreceived hsilent hlog hall =>
    refine .waits (request :: received) ?_ hsilent ?_ ?_
    · rw [List.map_cons, hreceived]
    · have h := hserved received []
      rw [List.append_nil, List.append_nil] at h
      rw [← h, hlog]
    · rw [← hbytes]
      exact hall
  | sendFailed received last hreceived response hresponse e n j hfails hlog hpart hall =>
    obtain ⟨j', hj'⟩ := hwrites
    refine .sendFailed (request :: received) last ?_ response ?_ e n (j + j') ?_ ?_ hpart ?_
    · exact (List.cons_prefix_cons).mpr ⟨rfl, hreceived⟩
    · rw [← hround]
      exact hresponse
    · rw [hj'] at hfails
      exact hfails
    · rw [List.append_assoc, ← hserved, ← hround, hlog, List.append_assoc]
    · rw [← hbytes]
      exact hall

/-- Bytes that do not start with a complete valid request. -/
def NoRequest (tail : Bytes) : Prop :=
  ∀ front, (requestParser protocolLimit).parse tail ≠ .ok (some front)

/-- **The loop, round by round.** -/
theorem handleRequests_ends (tail : Bytes) :
    ∀ (frames : List (Bytes × RequestMsg)) (fuel i : Nat) (c : ConnState ρ η),
      frames.length < fuel → c.cache.Consistent server.mServices →
      RingBuffer.content c.ringBuffer ++ c.wire.bytes = (frames.map Prod.fst).flatten ++ tail →
      (∀ f ∈ frames, (requestParser protocolLimit).Frame f.1 f.2 ∧
        f.1.length ≤ RingBuffer.capacity c.ringBuffer) →
      NoRequest tail →
      server.ConnEnds handle i (frames.map Prod.snd) c.wire.ending c.sink
        (server.handleRequests handle fuel i c) := by
  intro frames fuel
  induction fuel generalizing frames with
  | zero =>
    intro i c hfuel
    omega
  | succ fuel ih =>
    intro i c hfuel hcache hstream hframes htail
    unfold handleRequests
    by_cases hrun : server.mRunning i = true
    · rw [if_pos hrun]
      obtain ⟨hends, hcap, -, hending⟩ := awaitRead_ends (request_readsFrames {})
        (s := { ringBuffer := c.ringBuffer, own := ({} : RpcRequest) }) rfl c.wire
      rw [show (({} : RpcReaderSetting).maxMessageSize + 16).toNat = protocolLimit from rfl] at hends
      simp only [] at hends hcap ⊢
      generalize hread : awaitRead (RpcRequestReadState.parseFromRingBuffer {})
        { ringBuffer := c.ringBuffer, own := ({} : RpcRequest) } c.wire = read at hends hcap hending ⊢
      rw [hstream] at hends
      cases frames with
      | nil =>
        -- what is left is no request: the read fails, or waits for more
        rcases hends.of_no_frame htail with ⟨e, he⟩ | ⟨hsilent, hwaits⟩
        · simp only [he]
          exact .readFailed [] rfl e rfl (List.append_nil _).symm
        · simp only [hwaits]
          exact .waits [] rfl hsilent rfl (List.append_nil _).symm
      | cons f frames =>
        obtain ⟨hf, hfits⟩ := hframes f List.mem_cons_self
        obtain ⟨hresult, hmsg, hunread⟩ := hends.of_frame hf
          (by rw [List.map_cons, List.flatten_cons, List.append_assoc]) hfits
        obtain ⟨hfound, hcache'⟩ := findHandler_eq hcache buildRouteHash read.own
        simp only [hresult, hfound]
        have hreq : f.2 = read.own.msg := hmsg.symm
        rw [List.map_cons, hreq]
        obtain ⟨hwritten, hwrites⟩ := awaitWrite_response (server.answer handle i read.own) c.sink
        have hhandled : (handleRequest handle i (resolveMethodHandler server.mServices read.own)
            read.own).1 = server.answer handle i read.own := rfl
        rw [hhandled]
        cases hwritten with
        | all hok hsent =>
          -- the next round starts behind this frame, with a cache that is still consistent
          simp only [hok]
          have hrest := ih frames (i + 1)
            ⟨read.ringBuffer, (findHandler server.mServices buildRouteHash c.cache read.own).2, read.wire,
              (awaitWrite (RpcResponseWriteState (server.answer handle i read.own)) c.sink).sink⟩
            (Nat.lt_of_succ_lt_succ hfuel) hcache' hunread
            (fun f' hf' => by rw [hcap]; exact hframes f' (List.mem_cons_of_mem _ hf')) htail
          rw [hending] at hrest
          exact hrest.cons read.own hsent hwrites
        | part e n j hresult' hlt hsent hfails =>
          -- the response write failed: nothing of this connection follows
          simp only [hresult']
          refine .sendFailed [] read.own ?_ _ rfl e n j hfails rfl hlt ?_
          · exact (List.cons_prefix_cons).mpr ⟨rfl, List.nil_prefix⟩
          · rw [hsent]
            simp [answers]
    · rw [if_neg hrun]
      exact .stopped [] List.nil_prefix (by simpa using hrun) rfl (List.append_nil _).symm

/-- A response of an admissible size is a frame for every client. -/
theorem answer_frame {i : Nat} {request : RpcRequest}
    (h : (server.outcome handle i request).2.length ≤ rpcMaxBodySize - 2) :
    (responseParser protocolLimit).Frame (server.answer handle i request).serialize
      (server.answer handle i request).msg := by
  have hbody : (server.answer handle i request).msg.body.length ≤ rpcMaxBodySize := by
    rw [ResponseMsg.body_length, answer_msg]
    simp only [rpcMaxBodySize] at h ⊢
    omega
  rw [RpcResponse.serialize_eq]
  refine ResponseMsg.WellFormed.frame hbody ?_
  rw [ResponseMsg.frame_length]
  exact Nat.add_le_add_left hbody _

end Loop

/-- **One response per request, in order.**  A connection that brings any frames the reader accepts, in
    any pieces, and then no further request, goes as `ConnEnds` says; what a response says is its
    request's id and mode, end-of-stream, and the outcome of dispatching it; and if the server keeps
    running and no write fails, the bytes sent are exactly one response frame for each request. -/
theorem one_response_per_request (server : RpcServer η ζ) (handle : Handling η) (ring : ρ)
    (hempty : RingBuffer.content ring = []) (frames : List (Bytes × RequestMsg))
    (hframes : ∀ f ∈ frames, (requestParser protocolLimit).Frame f.1 f.2 ∧
      f.1.length ≤ RingBuffer.capacity ring)
    (tail : Bytes) (htail : NoRequest tail) (ending : WireEnd) (sizes : Nat → Nat) (k : Sink)
    (hpayload : ∀ i request, request.msg ∈ frames.map Prod.snd →
      (server.outcome handle i request).2.length ≤ rpcMaxBodySize - 2) :
    let run := server.handleConnection handle ring
      ⟨(frames.map Prod.fst).flatten ++ tail, ending, sizes⟩ k
    server.ConnEnds handle 0 (frames.map Prod.snd) ending k run ∧
    (∀ i request, request.msg ∈ frames.map Prod.snd →
      (server.answer handle i request).msg =
          ⟨request.requestId, request.callMode, true, (server.outcome handle i request).1,
            (server.outcome handle i request).2⟩ ∧
        (responseParser protocolLimit).Frame (server.answer handle i request).serialize
          (server.answer handle i request).msg) ∧
    ((∀ i, server.mRunning i = true) → (∀ j, ¬ (k.writes j).Fails) →
      ∃ (received : List RpcRequest) (put : Bytes),
        received.map RpcRequest.msg = frames.map Prod.snd ∧
          ((∃ e, run.log = server.served handle 0 received ++ [.readFailed e, .closed]) ∨
            (ending = .silent ∧ run.log = server.served handle 0 received)) ∧
          run.sink.sent = k.sent ++ put ∧
          (responseParser protocolLimit).Frames put
            ((server.answers handle 0 received).map RpcResponse.msg) []) := by
  intro run
  have hcount : frames.length < ((frames.map Prod.fst).flatten ++ tail).length + 1 := by
    have hle := ((requestParser protocolLimit).frames_flatten Prod.fst Prod.snd tail frames
      fun f hf => (hframes f hf).1).length_le
    rw [List.length_map] at hle
    omega
  have hends : server.ConnEnds handle 0 (frames.map Prod.snd) ending k run :=
    handleRequests_ends tail frames _ 0
      ⟨ring, .empty, ⟨(frames.map Prod.fst).flatten ++ tail, ending, sizes⟩, k⟩ hcount
      (RouteCache.consistent_empty _)
      (by rw [hempty, List.nil_append]) hframes htail
  refine ⟨hends, ?_, ?_⟩
  · intro i request hrequest
    exact ⟨answer_msg i request, answer_frame (hpayload i request hrequest)⟩
  · intro hrunning hwrites
    have hanswers : ∀ received : List RpcRequest, received.map RpcRequest.msg = frames.map Prod.snd →
        (responseParser protocolLimit).Frames
          ((server.answers handle 0 received).map RpcResponse.serialize).flatten
          ((server.answers handle 0 received).map RpcResponse.msg) [] := by
      intro received hreceived
      have hall := (responseParser protocolLimit).frames_flatten RpcResponse.serialize RpcResponse.msg []
        (server.answers handle 0 received) ?_
      · rw [List.append_nil] at hall
        exact hall
      · intro response hresponse
        obtain ⟨⟨request, i⟩, hmem, rfl⟩ := List.mem_map.mp hresponse
        have hmem' : request ∈ received := by
          have := List.mem_map_of_mem (f := Prod.fst) hmem
          rwa [List.zipIdx_map_fst] at this
        refine answer_frame (hpayload i request ?_)
        rw [← hreceived]
        exact List.mem_map_of_mem hmem'
    cases hends with
    | stopped received _ hstop =>
      rw [hrunning] at hstop
      cases hstop
    | sendFailed received last _ response _ e n j hfails => exact absurd hfails (hwrites j)
    | readFailed received hreceived e hlog hsent =>
      exact ⟨received, _, hreceived, Or.inl ⟨e, hlog⟩, hsent, hanswers received hreceived⟩
    | waits received hreceived hsilent hlog hsent =>
      exact ⟨received, _, hreceived, Or.inr ⟨hsilent, hlog⟩, hsent, hanswers received hreceived⟩

/-- A server with one service, `Echo`, that has the unary method `echo`. -/
def echoServer : RpcServer Unit Unit where
  mServices := Registered.services [(echoRequest.serviceName, [.unaryMethod echoRequest.methodName ()])]
  mRunning _ := true

/-- Its handler answers with the payload it is given. -/
def echoHandler : Handling Unit := fun _ _ request => [.setPayloadView request.payloadView]

/-- A request for its method is answered with the payload, any other with an error. -/
theorem outcome_echo (i : Nat) (request : RpcRequest) :
    echoServer.outcome echoHandler i request =
      if request.serviceName = echoRequest.serviceName then
        if request.methodName = echoRequest.methodName ∧ request.callMode = .unary then
          (.ok, request.payload)
        else (.methodNotFound, [])
      else (.serviceNotFound, []) := by
  let registrations : List (RpcService.Registration Unit Unit) := [.unaryMethod echoRequest.methodName ()]
  have hlatest : Registered.latest [(echoRequest.serviceName, registrations)] request.serviceName =
      if echoRequest.serviceName = request.serviceName then some registrations else none := by
    rw [Registered.latest, List.reverse_singleton, List.findSome?_singleton]
  have hhandler : RpcService.latestHandler registrations request.methodName request.callMode =
      if echoRequest.methodName = request.methodName ∧ some RpcCallMode.unary = some request.callMode then
        some () else none := by
    rw [RpcService.latestHandler, List.reverse_singleton, List.findSome?_singleton]
    rfl
  unfold outcome echoServer
  rw [resolveMethodHandler_registered, hlatest]
  by_cases hservice : request.serviceName = echoRequest.serviceName
  · rw [if_pos hservice.symm, if_pos hservice]
    simp only [hhandler]
    by_cases hmethod : request.methodName = echoRequest.methodName ∧ request.callMode = .unary
    · rw [if_pos hmethod, if_pos ⟨hmethod.1.symm, congrArg some hmethod.2.symm⟩]
      show (RpcErrorCode.ok, request.payloadView.cells) = _
      rw [RpcRequest.payloadView, PayloadStore.view_cells]
      rfl
    · rw [if_neg hmethod, if_neg fun h => hmethod ⟨h.1.symm, (Option.some.inj h.2).symm⟩]
  · rw [if_neg fun h => hservice h.symm, if_neg hservice]

/-- The payload comes back, and a request for no service is told so. -/
theorem one_response_per_request_echo :
    let junk : Bytes := [0x47]
    ∃ put : Bytes,
      (echoServer.handleConnection echoHandler (Circular.empty 40 fun _ => (0 : UInt8))
          ⟨[echoRequest.serialize, RpcRequest.serialize {}].flatten ++ junk, .closed, fun i => i⟩
          ⟨[], fun i => .accept i⟩).sink.sent = put ∧
        (responseParser protocolLimit).Frames put
          [⟨echoRequest.requestId, .unary, true, .ok, echoRequest.payload⟩,
            ⟨0, .unary, true, .serviceNotFound, []⟩] [] := by
  intro junk
  have hsmall : ∀ i request, request.msg ∈ [echoRequest.msg, RpcRequest.msg {}] →
      (echoServer.outcome echoHandler i request).2.length ≤ rpcMaxBodySize - 2 := by
    intro i request hrequest
    have hlen : request.payload.length ≤ 2 := by
      show request.msg.payload.length ≤ 2
      rcases List.mem_cons.mp hrequest with h | h
      · rw [h]
        decide
      · rw [List.mem_singleton.mp h]
        decide
    rw [outcome_echo]
    split
    · split
      · exact hlen.trans (by decide)
      · exact Nat.zero_le _
    · exact Nat.zero_le _
  have h := one_response_per_request echoServer echoHandler (Circular.empty 40 fun _ => (0 : UInt8)) rfl
    [(echoRequest.serialize, echoRequest.msg), (RpcRequest.serialize {}, RpcRequest.msg {})]
    (by
      intro f hf
      rcases List.mem_cons.mp hf with rfl | hf
      · refine ⟨?_, by decide⟩
        rw [RpcRequest.serialize_eq]
        exact RequestMsg.WellFormed.frame (by decide) (by decide)
      · rw [List.mem_singleton.mp hf]
        refine ⟨?_, by decide⟩
        rw [RpcRequest.serialize_eq]
        exact RequestMsg.WellFormed.frame (by decide) (by decide))
    junk (fun _ hjunk => by cases hjunk) .closed (fun i => i) ⟨[], fun i => .accept i⟩ hsmall
  simp only [List.map_cons, List.map_nil] at h
  obtain ⟨received, put, hreceived, -, hsent, hframes⟩ :=
    h.2.2 (fun _ => rfl) fun _ hfails => by cases hfails
  rw [List.nil_append] at hsent
  refine ⟨put, hsent, ?_⟩
  obtain ⟨first, rest, rfl, hfirst, hrest⟩ := List.map_eq_cons_iff.mp hreceived
  obtain ⟨second, none, rfl, hsecond, hnone⟩ := List.map_eq_cons_iff.mp hrest
  obtain rfl := List.map_eq_nil_iff.mp hnone
  have hanswers : (echoServer.answers echoHandler 0 [first, second]).map RpcResponse.msg =
      [(echoServer.answer echoHandler 0 first).msg, (echoServer.answer echoHandler 1 second).msg] := rfl
  have hok : (echoServer.answer echoHandler 0 first).msg =
      ⟨echoRequest.requestId, .unary, true, .ok, echoRequest.payload⟩ := by
    obtain ⟨hid, hmode, -, hservice, hmethod, hpayload⟩ := RequestMsg.mk.inj hfirst
    rw [answer_msg, outcome_echo, if_pos hservice, if_pos ⟨hmethod, hmode⟩, hid, hmode, hpayload]
    rfl
  have hmissing : (echoServer.answer echoHandler 1 second).msg =
      ⟨0, .unary, true, .serviceNotFound, []⟩ := by
    obtain ⟨hid, hmode, -, hservice, -⟩ := RequestMsg.mk.inj hsecond
    have hother : second.serviceName ≠ echoRequest.serviceName := by
      rw [hservice]
      decide
    rw [answer_msg, outcome_echo, if_neg hother, hid, hmode]
  rw [hanswers, hok, hmissing] at hframes
  exact hframes

end RpcServer

end GalayRpc
