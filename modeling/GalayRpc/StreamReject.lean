/-
  `RpcStreamServer::handleConnection` and a client that does not wait: what becomes of the frames behind a
  `STREAM_INIT` that is rejected.

  The server remembers nothing of a stream it has rejected.  To its loop, the stream's next frame is a
  frame like any other in front of which a `STREAM_INIT` was expected, and it is cancelled like one.

  * `round_cancels` — one round of the loop on a frame that opens no stream;
  * `rounds_cancel` — so every frame of a rejected stream is cancelled, whatever comes first
    (by induction on the frames);
  * `rejected_stream_cancelled` — the rounds behind a rejected `STREAM_INIT`, up to the handler of the
    next stream: there is no other run, unless the server is stopped.
-/
import GalayRpc.StreamServer

namespace GalayRpc

variable {ρ η ζ : Type} [RingBuffer ρ]

/-! ## Frames that open no stream -/

/-- A frame as it is on the wire. -/
structure RawFrame where
  header : RpcHeader
  body : Bytes

namespace RawFrame

def bytes (f : RawFrame) : Bytes := f.header.serialize ++ f.body

def type (f : RawFrame) : RpcMessageType := ⟨f.header.type⟩

/-- A reader with a ring of this capacity can read the frame: its header is accepted and tells the length
    of the body, the ring can hold the body, and a control frame has none. -/
structure Readable (capacity : Nat) (f : RawFrame) : Prop where
  accepted : f.header.Accepted
  bodyLength : f.header.bodyLength.toNat = f.body.length
  room : f.body.length ≤ capacity
  control : f.type.EndsStream → f.body.length = 0

end RawFrame

/-- A frame of the stream code on the wire. -/
def StreamFrame.raw (f : StreamFrame) : RawFrame := ⟨f.header, f.msg.payload⟩

theorem StreamFrame.raw_bytes (f : StreamFrame) : f.raw.bytes = f.bytes := f.bytes_eq.symm

theorem StreamFrame.Fits.readable {capacity : Nat} {f : StreamFrame} (hf : f.Fits capacity) :
    f.raw.Readable capacity :=
  ⟨hf.accepted, hf.bodyLength, Nat.le_trans hf.body (Nat.min_le_left _ _), f.payload_of_endsStream⟩

/-- The frame is no `STREAM_INIT`, or its body is none, or nothing is registered under the names in it. -/
def RpcStreamServer.Rejects (server : RpcStreamServer η ζ) (f : RawFrame) : Prop :=
  f.type = .streamInit →
    ∀ init, ({} : StreamInitRequest).deserializeBody f.body f.body.length = (true, init) →
      ∀ service, server.mServices.lookup init.serviceName = some service →
        service.findStreamMethod init.methodName = none

/-! ## Rounds -/

/-- A round of the loop that ends in a frame being sent. -/
def streamRound : List StreamServerAction := [.test true, .read, .answer]

/-- Rounds one after the other. -/
def streamRounds (n : Nat) : List StreamServerAction := (List.replicate n streamRound).flatten

/-- The frame an event puts on the connection. -/
def StreamServerEvent.sentFrame? : StreamServerEvent ζ → Option StreamFrame
  | .sent frame => some frame
  | .handlerWrote frame (.ok _) => some frame
  | _ => none

/-- The frames a server has sent. -/
def sentFrames (log : List (StreamServerEvent ζ)) : List StreamFrame :=
  log.filterMap StreamServerEvent.sentFrame?

/-- The server is not stopped. -/
def Running (_ : StreamServerConn ρ ζ) (action : StreamServerAction) : Prop := action ≠ .test false

/-- The loop is at its test, with these bytes to be read, and no write is going to fail. -/
structure AtTest (capacity : Nat) (unread : Bytes) (s : StreamServerConn ρ ζ) : Prop where
  phase : s.phase = .testing
  room : RingBuffer.capacity s.ringBuffer = capacity
  unread : RingBuffer.content s.ringBuffer ++ s.wire.bytes = unread
  writes : ∀ j, ¬ (s.sink.writes j).Fails

section Rounds

variable {server : RpcStreamServer η ζ} {capacity : Nat}

/-- Outside a handler, it is the loop that decides what comes next. -/
theorem only_test {s : StreamServerConn ρ ζ} (hphase : s.phase = .testing) :
    Only (StreamServerConn.step server) Running s (.test true) := by
  refine ⟨by simp [Running], ?_⟩
  intro action s' hrunning hstep
  unfold StreamServerConn.step at hstep
  rw [hphase] at hstep
  cases action with
  | test running =>
    cases running with
    | true => rfl
    | false => exact absurd rfl hrunning
  | _ => cases hstep

theorem only_read {s : StreamServerConn ρ ζ} (hphase : s.phase = .reading) :
    Only (StreamServerConn.step server) Running s .read := by
  refine ⟨by simp [Running], ?_⟩
  intro action s' _ hstep
  unfold StreamServerConn.step at hstep
  rw [hphase] at hstep
  cases action with
  | read => rfl
  | _ => cases hstep

theorem only_answer {s : StreamServerConn ρ ζ} {stream : RpcStream} {handler : Except RpcError ζ}
    (hphase : s.phase = .answering stream handler) :
    Only (StreamServerConn.step server) Running s .answer := by
  refine ⟨by simp [Running], ?_⟩
  intro action s' _ hstep
  unfold StreamServerConn.step at hstep
  rw [hphase] at hstep
  cases action with
  | answer => rfl
  | _ => cases hstep

/-- **The first half of a round**: the loop reads the frame. -/
theorem AtTest.reads (server : RpcStreamServer η ζ) {s : StreamServerConn ρ ζ} {f : RawFrame} {rest : Bytes}
    (h : AtTest capacity (f.bytes ++ rest) s) (hcap : rpcHeaderSize ≤ capacity)
    (hf : f.Readable capacity) :
    ∃ (message : StreamMessage) (s' : StreamServerConn ρ ζ),
      (message.messageType = f.type ∧ message.streamId = f.header.requestId ∧
        message.payload = f.body) ∧
      Run (StreamServerConn.step server) (Only (StreamServerConn.step server) Running) s
        [.test true, .read] s' ∧
      s'.phase = .answering (server.dispatch message).1 (server.dispatch message).2 ∧
      s'.log = s.log ++ [.received message] ∧ s'.sink = s.sink ∧
      RingBuffer.capacity s'.ringBuffer = capacity ∧
      RingBuffer.content s'.ringBuffer ++ s'.wire.bytes = rest := by
  obtain ⟨hends, hcapacity, -⟩ := awaitStreamRead_ends s.ringBuffer {} s.wire
  rw [h.unread, h.room] at hends
  obtain ⟨hresult, hunread, hmsg⟩ :=
    hends.of_frame rfl hf.accepted hf.bodyLength hcap hf.room hf.control
  obtain ⟨htype, hid, hpayload, -⟩ := StreamMsg.mk.inj hmsg
  let tested : StreamServerConn ρ ζ := { s with phase := .reading }
  have htest : s.step server (.test true) = some tested := by
    unfold StreamServerConn.step
    rw [h.phase]
    rfl
  have hread : ∃ s', tested.step server .read = some s' ∧
      s'.phase = .answering (server.dispatch (tested.getMessage {} s.wire).own.message).1
        (server.dispatch (tested.getMessage {} s.wire).own.message).2 ∧
      s'.log = s.log ++ [.received (tested.getMessage {} s.wire).own.message] ∧ s'.sink = s.sink ∧
      s'.ringBuffer = (tested.getMessage {} s.wire).ringBuffer ∧
      s'.wire = (tested.getMessage {} s.wire).wire := by
    show ∃ s', tested.readInit server = some s' ∧ _
    have hresult : (tested.getMessage {} tested.wire).result = some (.ok true) := hresult
    unfold StreamServerConn.readInit
    simp only [hresult]
    exact ⟨_, rfl, rfl, rfl, rfl, rfl, rfl⟩
  obtain ⟨s', hstep, hphase, hlog, hsink, hring, hwire⟩ := hread
  refine ⟨_, s', ⟨htype, hid, hpayload⟩,
    .cons (only_test h.phase) htest (.cons (only_read rfl) hstep (.nil s')), hphase, hlog, hsink, ?_, ?_⟩
  · rw [hring]
    exact hcapacity.trans h.room
  · rw [hring, hwire]
    exact hunread

omit [RingBuffer ρ] in
/-- **The second half**, when the write succeeds. -/
theorem sendAnswer_of_writes {s : StreamServerConn ρ ζ} (hwrites : ∀ j, ¬ (s.sink.writes j).Fails)
    (frame : StreamFrame) :
    (awaitWrite frame.writeState s.sink).result = some (.ok true) ∧
      (awaitWrite frame.writeState s.sink).sink.sent = s.sink.sent ++ frame.bytes ∧
      ∀ j, ¬ ((awaitWrite frame.writeState s.sink).sink.writes j).Fails := by
  obtain ⟨hwritten, j, hlater⟩ := awaitWrite_frame frame s.sink
  refine ⟨?_, ?_, ?_⟩
  · cases hwritten with
    | all hresult => exact hresult
    | part _ _ i _ _ _ hfails => exact absurd hfails (hwrites i)
  · cases hwritten with
    | all _ hsent => exact hsent
    | part _ _ i _ _ _ hfails => exact absurd hfails (hwrites i)
  · intro i
    rw [hlater]
    exact hwrites (i + j)

theorem routed_iff {f : RawFrame} {message : StreamMessage} (htype : message.messageType = f.type)
    (hpayload : message.payload = f.body) :
    (¬ ∃ stream handler, server.Routed message stream handler) ↔ server.Rejects f := by
  constructor
  · intro hnone hinit init hbody service hservice
    rcases hmethod : service.findStreamMethod init.methodName with _ | handler
    · rfl
    · refine absurd ⟨_, handler, htype.trans hinit, init, service, ?_, hservice, hmethod, rfl⟩ hnone
      rw [hpayload]
      exact hbody
  · rintro hrejects ⟨stream, handler, hrouted⟩
    obtain ⟨init, service, hbody, hservice, hmethod, -⟩ := hrouted.route
    rw [hpayload] at hbody
    rw [hrejects (htype.symm.trans hrouted.isInit) init hbody service hservice] at hmethod
    cases hmethod

/-- **One round on a frame that opens no stream.** -/
theorem round_cancels {s : StreamServerConn ρ ζ} {f : RawFrame} {rest : Bytes}
    (h : AtTest capacity (f.bytes ++ rest) s) (hcap : rpcHeaderSize ≤ capacity)
    (hf : f.Readable capacity) (hrejects : server.Rejects f) :
    ∃ s', Run (StreamServerConn.step server) (Only (StreamServerConn.step server) Running) s
        streamRound s' ∧
      AtTest capacity rest s' ∧
      sentFrames s'.log = sentFrames s.log ++ [.cancel f.header.requestId] ∧
      s'.sink.sent = s.sink.sent ++ (StreamFrame.cancel f.header.requestId).bytes := by
  obtain ⟨message, s₁, ⟨htype, hid, hpayload⟩, hrun, hphase, hlog, hsink, hroom, hunread⟩ :=
    h.reads server hcap hf
  have hwrites : ∀ j, ¬ (s₁.sink.writes j).Fails := by
    rw [hsink]
    exact h.writes
  obtain ⟨hresult, hsent, hlater⟩ := sendAnswer_of_writes hwrites (.cancel f.header.requestId)
  have hdispatch : ∃ e, server.dispatch message = ({ streamId := f.header.requestId }, .error e) := by
    rw [← hid]
    rcases server.dispatch_spec message with ⟨e, hdispatch, -⟩ | ⟨stream, handler, -, hrouted⟩
    · exact ⟨e, hdispatch⟩
    · exact absurd ⟨stream, handler, hrouted⟩ ((routed_iff htype hpayload).mpr hrejects)
  obtain ⟨e, hdispatch⟩ := hdispatch
  rw [hdispatch] at hphase
  have hanswer : ∃ s', s₁.step server .answer = some s' ∧ s'.phase = .testing ∧
      s'.ringBuffer = s₁.ringBuffer ∧ s'.wire = s₁.wire ∧
      s'.sink = (awaitWrite (StreamFrame.cancel f.header.requestId).writeState s₁.sink).sink ∧
      s'.log = s₁.log ++ [.sent (.cancel f.header.requestId)] := by
    unfold StreamServerConn.step
    simp only [hphase, StreamServerConn.sendAnswer, RpcStream.frame, hresult]
    exact ⟨_, rfl, rfl, rfl, rfl, rfl, rfl⟩
  obtain ⟨s', hstep, htesting, hring, hwire, hsink', hlog'⟩ := hanswer
  refine ⟨s', hrun.append (.cons (only_answer hphase) hstep (.nil s')), ⟨htesting, ?_, ?_, ?_⟩, ?_, ?_⟩
  · rw [hring]
    exact hroom
  · rw [hring, hwire]
    exact hunread
  · rw [hsink']
    exact hlater
  · rw [hlog', hlog, sentFrames, List.filterMap_append, List.filterMap_append]
    exact List.append_assoc _ [] _
  · rw [hsink', hsent, hsink]

/-- **Every frame of a rejected stream is cancelled.** -/
theorem rounds_cancel {id : UInt32} (hcap : rpcHeaderSize ≤ capacity) (frames : List RawFrame)
    (hframes : ∀ f ∈ frames, f.Readable capacity ∧ server.Rejects f ∧ f.header.requestId = id)
    {s : StreamServerConn ρ ζ} {rest : Bytes}
    (h : AtTest capacity ((frames.map RawFrame.bytes).flatten ++ rest) s) :
    ∃ s', Run (StreamServerConn.step server) (Only (StreamServerConn.step server) Running) s
        (streamRounds frames.length) s' ∧
      AtTest capacity rest s' ∧
      sentFrames s'.log = sentFrames s.log ++ List.replicate frames.length (.cancel id) ∧
      s'.sink.sent = s.sink.sent ++ bytesOf (List.replicate frames.length (.cancel id)) := by
  induction frames generalizing s with
  | nil => exact ⟨s, .nil s, h, (List.append_nil _).symm, (List.append_nil _).symm⟩
  | cons f frames ih =>
    obtain ⟨hreadable, hrejects, hid⟩ := hframes f List.mem_cons_self
    rw [List.map_cons, List.flatten_cons, List.append_assoc] at h
    obtain ⟨s₁, hrun, hnext, hframes₁, hsent₁⟩ := round_cancels h hcap hreadable hrejects
    obtain ⟨s', hrest, hend, hframes', hsent'⟩ :=
      ih (fun f' hf' => hframes f' (List.mem_cons_of_mem _ hf')) hnext
    refine ⟨s', ?_, hend, ?_, ?_⟩
    · show Run _ _ s (List.replicate (frames.length + 1) streamRound).flatten s'
      rw [List.replicate_succ, List.flatten_cons]
      exact hrun.append hrest
    · rw [hframes', hframes₁, hid, List.length_cons, List.replicate_succ, List.append_assoc]
      rfl
    · rw [hsent', hsent₁, hid, List.length_cons, List.replicate_succ, bytesOf_cons, List.append_assoc]

/-- **One round on a frame that opens a stream.** -/
theorem round_acknowledges {s : StreamServerConn ρ ζ} {streamId : UInt32} {service method : Bytes}
    {entry : RpcService η ζ} {handler : ζ} {rest : Bytes}
    (h : AtTest capacity ((StreamFrame.init streamId service method).bytes ++ rest) s)
    (hcap : rpcHeaderSize ≤ capacity) (hfits : (StreamFrame.init streamId service method).Fits capacity)
    (hservice : server.mServices.lookup service = some entry)
    (hmethod : entry.findStreamMethod method = some handler) :
    ∃ s', Run (StreamServerConn.step server) (Only (StreamServerConn.step server) Running) s
        streamRound s' ∧
      s'.phase = .handling handler ⟨streamId, service, method⟩ ∧
      sentFrames s'.log = sentFrames s.log ++ [.initAck streamId] ∧
      s'.sink.sent = s.sink.sent ++ (StreamFrame.initAck streamId).bytes := by
  rw [← StreamFrame.raw_bytes] at h
  obtain ⟨message, s₁, ⟨htype, hid, hpayload⟩, hrun, hphase, hlog, hsink, -, -⟩ :=
    h.reads server hcap hfits.readable
  have hwrites : ∀ j, ¬ (s₁.sink.writes j).Fails := by
    rw [hsink]
    exact h.writes
  obtain ⟨hresult, hsent, -⟩ := sendAnswer_of_writes hwrites (.initAck streamId)
  have hbody : ({} : StreamInitRequest).deserializeBody message.payload message.payload.length =
      (true, { serviceName := service, methodName := method }) := by
    rw [hpayload]
    obtain ⟨hs, hm⟩ := hfits.names streamId service method rfl
    exact StreamInitRequest.deserializeBody_of_splitNames (splitNames_eq_some.mpr
      ⟨Nat.lt_succ_of_le hs, Nat.lt_succ_of_le hm, (List.append_nil _).symm⟩) _
  have hdispatch : server.dispatch message = (⟨streamId, service, method⟩, .ok handler) := by
    have hid : message.streamId = streamId := hid
    have htype : message.messageType = .streamInit := htype
    have hresolve : server.resolveStreamHandler { serviceName := service, methodName := method } =
        .ok handler := server.resolveStreamHandler_eq_ok.mpr ⟨entry, hservice, hmethod⟩
    unfold RpcStreamServer.dispatch
    rw [htype, hbody, hid]
    simp only [hresolve]
    rfl
  rw [hdispatch] at hphase
  have hanswer : ∃ s', s₁.step server .answer = some s' ∧
      s'.phase = .handling handler ⟨streamId, service, method⟩ ∧
      s'.sink = (awaitWrite (StreamFrame.initAck streamId).writeState s₁.sink).sink ∧
      s'.log = s₁.log ++ [.sent (.initAck streamId), .entered handler ⟨streamId, service, method⟩] := by
    unfold StreamServerConn.step
    simp only [hphase, StreamServerConn.sendAnswer, RpcStream.frame, hresult]
    exact ⟨_, rfl, rfl, rfl, rfl⟩
  obtain ⟨s', hstep, hhandling, hsink', hlog'⟩ := hanswer
  refine ⟨s', hrun.append (.cons (only_answer hphase) hstep (.nil s')), hhandling, ?_, ?_⟩
  · rw [hlog', hlog, sentFrames, List.filterMap_append, List.filterMap_append]
    exact List.append_assoc _ [] _
  · rw [hsink', hsent, hsink]

/-- A step only adds to the log. -/
theorem step_log {s s' : StreamServerConn ρ ζ} {action : StreamServerAction}
    (h : s.step server action = some s') : s.log <+: s'.log := by
  unfold StreamServerConn.step at h
  split at h
  · obtain rfl := Option.some.inj h
    exact List.prefix_refl _
  · unfold StreamServerConn.readInit at h
    dsimp only at h
    split at h
    · cases h
    · obtain rfl := Option.some.inj h
      exact List.prefix_append _ _
    · obtain rfl := Option.some.inj h
      exact List.prefix_append _ _
  · unfold StreamServerConn.sendAnswer at h
    dsimp only at h
    split at h
    · cases h
    · obtain rfl := Option.some.inj h
      exact List.prefix_append _ _
    · obtain rfl := Option.some.inj h
      exact List.prefix_append _ _
    · obtain rfl := Option.some.inj h
      exact List.prefix_append _ _
  · obtain ⟨result, -, rfl⟩ := Option.map_eq_some_iff.mp h
    exact List.prefix_append _ _
  · unfold StreamServerConn.handlerGiveUp at h
    dsimp only at h
    split at h
    · cases h
    · obtain rfl := Option.some.inj h
      exact List.prefix_append _ _
  · obtain ⟨result, -, rfl⟩ := Option.map_eq_some_iff.mp h
    exact List.prefix_append _ _
  · obtain rfl := Option.some.inj h
    exact List.prefix_append _ _
  · obtain rfl := Option.some.inj h
    exact List.prefix_append _ _
  · cases h

theorem sentFrames_prefix {C : StreamServerConn ρ ζ → StreamServerAction → Prop}
    {s s' : StreamServerConn ρ ζ} {actions : List StreamServerAction}
    (h : Run (StreamServerConn.step server) C s actions s') : sentFrames s.log <+: sentFrames s'.log := by
  have hlog : s.log <+: s'.log :=
    h.invariant (I := fun x => s.log <+: x.log)
      (fun _ _ _ hpre _ hstep => hpre.trans (step_log hstep)) (List.prefix_refl _)
  exact hlog.filterMap StreamServerEvent.sentFrame?

end Rounds

/-- **What becomes of a rejected stream.**  The loop is at its test; what it has to read is a `STREAM_INIT`
    that it rejects, any number of data frames of that stream, its `STREAM_END` or `STREAM_CANCEL`, and a
    `STREAM_INIT` for a registered method, in any pieces.  Unless the server is stopped or a write fails,
    it sends one `STREAM_CANCEL` with the rejected stream's id for each of that stream's frames, and behind
    those the `STREAM_INIT_ACK` of the new stream, and enters its handler; every run of the connection is
    a beginning of this one or goes on from it. -/
theorem rejected_stream_cancelled (server : RpcStreamServer η ζ) (s : StreamServerConn ρ ζ)
    (init : RawFrame) (datas : List StreamFrame) (ending : StreamFrame) (newId : UInt32)
    (service method : Bytes) (entry : RpcService η ζ) (handler : ζ) (rest : Bytes)
    (hcap : rpcHeaderSize ≤ RingBuffer.capacity s.ringBuffer)
    (htest : AtTest (RingBuffer.capacity s.ringBuffer)
      (init.bytes ++ bytesOf (datas ++ [ending, .init newId service method]) ++ rest) s)
    (hinit : init.type = .streamInit ∧ init.Readable (RingBuffer.capacity s.ringBuffer))
    (hrejects : server.Rejects init)
    (hfits : ∀ f ∈ datas ++ [ending, .init newId service method],
      f.Fits (RingBuffer.capacity s.ringBuffer))
    (hdatas : ∀ f ∈ datas, f.msg.messageType = .streamData ∧ f.msg.streamId = init.header.requestId)
    (hending : ending.msg.messageType.EndsStream ∧ ending.msg.streamId = init.header.requestId)
    (hservice : server.mServices.lookup service = some entry)
    (hmethod : entry.findStreamMethod method = some handler) :
    let cancels := List.replicate (datas.length + 2) (StreamFrame.cancel init.header.requestId)
    ∃ s', Run (StreamServerConn.step server) Running s (streamRounds (datas.length + 3)) s' ∧
      sentFrames s'.log = sentFrames s.log ++ cancels ++ [.initAck newId] ∧
      s'.sink.sent = s.sink.sent ++ bytesOf (cancels ++ [.initAck newId]) ∧
      s'.phase = .handling handler ⟨newId, service, method⟩ ∧
      ∀ actions s'', Run (StreamServerConn.step server) Running s actions s'' →
        (actions <+: streamRounds (datas.length + 3) ∧ sentFrames s''.log <+: sentFrames s'.log) ∨
          (streamRounds (datas.length + 3) <+: actions ∧ sentFrames s'.log <+: sentFrames s''.log) := by
  intro cancels
  let frames := init :: (datas ++ [ending]).map StreamFrame.raw
  have hcount : frames.length = datas.length + 2 := by simp [frames]
  have hframes : ∀ f ∈ frames, f.Readable (RingBuffer.capacity s.ringBuffer) ∧ server.Rejects f ∧
      f.header.requestId = init.header.requestId := by
    intro f hf
    rcases List.mem_cons.mp hf with rfl | hf
    · exact ⟨hinit.2, hrejects, rfl⟩
    · obtain ⟨f', hf', rfl⟩ := List.mem_map.mp hf
      -- a data frame or the end of the stream is no `STREAM_INIT`
      have hplain : f'.msg.messageType ≠ .streamInit ∧ f'.msg.streamId = init.header.requestId := by
        rcases List.mem_append.mp hf' with hf' | hf'
        · obtain ⟨htype, hid⟩ := hdatas f' hf'
          exact ⟨by rw [htype]; decide, hid⟩
        · rw [List.mem_singleton.mp hf']
          refine ⟨?_, hending.2⟩
          intro htype
          rw [htype] at hending
          exact absurd hending.1 (by decide)
      refine ⟨(hfits f' ?_).readable, fun htype => absurd htype hplain.1, hplain.2⟩
      rw [List.append_cons]
      exact List.mem_append_left _ hf'
  have hbytes : init.bytes ++ bytesOf (datas ++ [ending, .init newId service method]) ++ rest =
      (frames.map RawFrame.bytes).flatten ++
        ((StreamFrame.init newId service method).bytes ++ rest) := by
    have hraw : ((datas ++ [ending]).map StreamFrame.raw).map RawFrame.bytes =
        (datas ++ [ending]).map StreamFrame.bytes := by
      rw [List.map_map]
      exact List.map_congr_left fun f _ => f.raw_bytes
    rw [List.map_cons, List.flatten_cons, hraw]
    simp [bytesOf]
  rw [hbytes] at htest
  obtain ⟨s₁, hrun₁, htest₁, hframes₁, hsent₁⟩ := rounds_cancel hcap frames hframes htest
  rw [hcount] at hrun₁ hframes₁ hsent₁
  obtain ⟨s', hrun', hphase, hframes', hsent'⟩ :=
    round_acknowledges htest₁ hcap (hfits _ (by simp)) hservice hmethod
  have hrun : Run (StreamServerConn.step server) (Only (StreamServerConn.step server) Running) s
      (streamRounds (datas.length + 3)) s' := by
    have hsucc : streamRounds (datas.length + 3) = streamRounds (datas.length + 2) ++ streamRound := by
      show (List.replicate (datas.length + 2 + 1) streamRound).flatten = _
      rw [List.replicate_succ', List.flatten_append, List.flatten_singleton, streamRounds]
    rw [hsucc]
    exact hrun₁.append hrun'
  have hplain := hrun.imp fun _ _ h => h.1
  refine ⟨s', hplain, ?_, ?_, hphase, ?_⟩
  · rw [hframes', hframes₁]
  · rw [hsent', hsent₁, List.append_assoc]
    congr 1
    simp [bytesOf, cancels]
  · intro actions s'' hrun''
    rcases hrun.only hrun'' with hpre | hpre
    · obtain ⟨more, hmore⟩ := hpre
      rw [← hmore] at hplain
      exact Or.inl ⟨⟨more, hmore⟩, sentFrames_prefix (Run.of_append hrun'' hplain)⟩
    · obtain ⟨more, hmore⟩ := hpre
      rw [← hmore] at hrun''
      exact Or.inr ⟨⟨more, hmore⟩, sentFrames_prefix (Run.of_append hplain hrun'')⟩

/-- A `STREAM_INIT` whose body is too short to be one. -/
def shortInit : RawFrame where
  header := { type := RpcMessageType.streamInit.toByte, requestId := 5, bodyLength := 1 }
  body := [0x47]

/-- A client that sends it, a data frame, a cancellation, and the `STREAM_INIT` of another stream. -/
def impatientClient : StreamServerConn (Circular UInt8) Unit :=
  .accept (.ok ()) (Circular.empty 24 fun _ => (0 : UInt8))
    ⟨shortInit.bytes ++ bytesOf [.data 5 [7], .cancel 5, .init 7 [0x45] [0x65]], .closed, fun i => i⟩
    ⟨[], fun i => .accept i⟩

theorem shortInit_rejected : echoStreamServer.Rejects shortInit := by
  intro _ init hbody
  have hok : (({} : StreamInitRequest).deserializeBody shortInit.body shortInit.body.length).1 = true :=
    congrArg Prod.fst hbody
  exact absurd hok (by decide)

theorem rejected_stream_cancelled_short :
    ∃ s', Run (StreamServerConn.step echoStreamServer) Running impatientClient (streamRounds 4) s' ∧
      sentFrames s'.log = [.cancel 5, .cancel 5, .cancel 5, .initAck 7] := by
  have hfits : ∀ f ∈ ([.data 5 [7], .cancel 5, .init 7 [0x45] [0x65]] : List StreamFrame),
      f.Fits 24 := by
    decide
  obtain ⟨s', hrun, hframes, -⟩ := rejected_stream_cancelled echoStreamServer impatientClient shortInit
    [.data 5 [7]] (.cancel 5) 7 [0x45] [0x65]
    (RpcService.registerStreamMethod { mName := [0x45] } [0x65] ()) () [] (by decide)
    ⟨rfl, rfl, rfl, fun _ hfails => by cases hfails⟩ ⟨rfl, ⟨by decide, rfl, by decide, by decide⟩⟩
    shortInit_rejected hfits (by decide) (by decide) rfl rfl
  exact ⟨s', hrun, hframes⟩

/-- The rejected stream's data frame is cancelled too: the client reads a second `STREAM_CANCEL` where it
    expects the answer to its next `STREAM_INIT`. -/
theorem data_frame_cancelled :
    ¬ ∀ (actions : List StreamServerAction) (s : StreamServerConn (Circular UInt8) Unit),
      Run (StreamServerConn.step echoStreamServer) Running impatientClient actions s →
      s.sink.sent <+: bytesOf [.cancel 5, .initAck 7] ∨
        bytesOf [.cancel 5, .initAck 7] <+: s.sink.sent := by
  intro h
  have hruns : ((runAll (StreamServerConn.step echoStreamServer) (fun _ _ => True) impatientClient
      (streamRounds 2)).map fun s => s.sink.sent) = some (bytesOf [.cancel 5, .cancel 5]) := by
    decide +kernel
  obtain ⟨s, hs, hsent⟩ := Option.map_eq_some_iff.mp hruns
  have hrun : Run (StreamServerConn.step echoStreamServer) Running impatientClient (streamRounds 2) s := by
    have hrunning : ∀ action ∈ streamRounds 2, action ≠ .test false := by simp [streamRounds, streamRound]
    exact ((run_iff_runAll.mpr hs).and_mem hrunning).imp fun _ _ h => h.2
  have hboth := h _ s hrun
  rw [hsent] at hboth
  exact absurd hboth (by decide)

end GalayRpc
