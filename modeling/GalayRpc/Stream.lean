/-
  `rpc_stream.h`: stream messages, the two-phase stream reader, and the stream frame writer.

  A stream frame is a header and `m_body_length` bytes.  `StreamMessageReadState` takes the header off
  the ring as soon as it is there, and the body in a second phase — except that `STREAM_END` and
  `STREAM_CANCEL` complete the read right behind the header, whatever body length it announces.

  `awaitStreamRead_ends` says, for every stream of bytes and every way it arrives, how one read ends:
  the list of its cases (`StreamReadEnds`) follows the branches of `parseFromRingBuffer`, with the ring's
  capacity deciding whether a phase can be completed at all.  The invariant has one constructor for
  each phase.  From it:

  * `stream_frames_reassembled` — frames written by `StreamFrameWriteState` are read back one by one;
  * `stream_read_in_sync_iff` — a completed read has consumed its frame exactly unless a control frame
    announced a body, which is then left in the ring in front of the next header.
-/
import GalayRpc.Conn

namespace GalayRpc

/-! ## Stream messages -/

/-- `StreamMessage`. -/
structure StreamMessage where
  streamId : UInt32 := 0
  store : PayloadStore := {}
  isEnd : Bool := false
  messageType : RpcMessageType := .streamData
deriving DecidableEq, Repr

namespace StreamMessage

/-- `payload()`. -/
def payload (m : StreamMessage) : Bytes := m.store.bytes

/-- `payloadView()`. -/
def payloadView (m : StreamMessage) : RpcPayloadView UInt8 := m.store.view

/-- The header `serialize` fills in. -/
def header (m : StreamMessage) (type : RpcMessageType) : RpcHeader where
  type := type.toByte
  requestId := m.streamId
  bodyLength := UInt32.ofNat m.payloadView.size

/-- `StreamMessage::serialize`. -/
def serialize (m : StreamMessage) (type : RpcMessageType) : Bytes :=
  (m.header type).serialize ++ m.payloadView.segment1 ++ m.payloadView.segment2

theorem serialize_eq (m : StreamMessage) (type : RpcMessageType) :
    m.serialize type = (m.header type).serialize ++ m.payload := by
  have hcells : m.payloadView.segment1 ++ m.payloadView.segment2 = m.payload :=
    PayloadStore.view_cells m.store
  rw [serialize, List.append_assoc, hcells]

end StreamMessage

/-- `StreamInitRequest`. -/
structure StreamInitRequest where
  streamId : UInt32 := 0
  serviceName : Bytes := []
  methodName : Bytes := []
deriving DecidableEq, Repr

namespace StreamInitRequest

/-- The header `serialize` fills in; the body size is narrowed to 32 bits. -/
def header (r : StreamInitRequest) : RpcHeader where
  type := RpcMessageType.streamInit.toByte
  requestId := r.streamId
  bodyLength := UInt32.ofNat (2 + r.serviceName.length + 2 + r.methodName.length)

/-- `StreamInitRequest::serialize`. -/
def serialize (r : StreamInitRequest) : Bytes :=
  r.header.serialize ++ serializeNames r.serviceName r.methodName

/-- `StreamInitRequest::deserializeBody`; bytes behind the two names are not looked at. -/
def deserializeBody (r : StreamInitRequest) (body : Bytes) (length : Nat) : Bool × StreamInitRequest :=
  let (offset, service, method) := deserializeNames body length r.serviceName r.methodName
  (offset.isSome, { r with serviceName := service, methodName := method })

/-- The names in front of a body are read back from it. -/
theorem deserializeBody_of_splitNames {body s m p : Bytes} (h : splitNames body = some (s, m, p))
    (r : StreamInitRequest) :
    r.deserializeBody body body.length = (true, { r with serviceName := s, methodName := m }) := by
  have hspec := deserializeNames_spec (Nat.le_refl body.length) r.serviceName r.methodName
  rw [List.take_length, h] at hspec
  simp only [deserializeBody, hspec, Option.isSome_some]

end StreamInitRequest

/-! ## The read state -/

/-- `StreamMessageReadState::State`. -/
inductive StreamReadPhase where
  | readHeader
  | readBody
deriving DecidableEq, Repr

/-- The members of `StreamMessageReadState` beside its base class's. -/
structure StreamMessageReadMembers where
  message : StreamMessage
  state : StreamReadPhase := .readHeader
  header : RpcHeader := {}
  bodyLength : Nat := 0
deriving DecidableEq, Repr

/-- The message types that complete a read behind the header. -/
def RpcMessageType.EndsStream (type : RpcMessageType) : Prop :=
  type = .streamEnd ∨ type = .streamCancel

instance (type : RpcMessageType) : Decidable type.EndsStream := inferInstanceAs (Decidable (_ ∨ _))

section ReadState

variable {ρ : Type} [RingBuffer ρ]

/-- The `ReadBody` part of `parseFromRingBuffer`. -/
def parseStreamBody (s : RpcRingBufferReadState ρ StreamMessageReadMembers) :
    Bool × RpcRingBufferReadState ρ StreamMessageReadMembers :=
  let readIovecs := RingBuffer.getReadIovecs s.ringBuffer
  if iovecsReadableBytes readIovecs < s.own.bodyLength then (false, s)
  else
    match payloadViewFromIovecs readIovecs 0 s.own.bodyLength with
    | (false, _) =>
      (true, s.setReadError (.ofText .deserializationError "Invalid stream payload view"))
    | (true, payloadView) =>
      (true, { s with
        ringBuffer := RingBuffer.consume s.ringBuffer s.own.bodyLength
        own := { s.own with
          message := { s.own.message with store := .setView payloadView }
          state := .readHeader } })

/-- `StreamMessageReadState::parseFromRingBuffer`. -/
def StreamMessageReadState.parseFromRingBuffer (s : RpcRingBufferReadState ρ StreamMessageReadMembers) :
    Bool × RpcRingBufferReadState ρ StreamMessageReadMembers :=
  let readIovecs := RingBuffer.getReadIovecs s.ringBuffer
  match s.own.state with
  | .readBody => parseStreamBody s
  | .readHeader =>
    if iovecsReadableBytes readIovecs < rpcHeaderSize then (false, s)
    else
      match s.own.header.deserialize (copyFromIovecs readIovecs 0 rpcHeaderSize).2 with
      | (false, header) =>
        (true, { s with own := { s.own with header := header } }.setReadError
          (.ofText .invalidRequest "Invalid header"))
      | (true, header) =>
        let msgType : RpcMessageType := ⟨header.type⟩
        let message := { s.own.message with streamId := header.requestId, messageType := msgType }
        let s : RpcRingBufferReadState ρ StreamMessageReadMembers := { s with
          ringBuffer := RingBuffer.consume s.ringBuffer rpcHeaderSize
          own := { s.own with
            header := header, bodyLength := header.bodyLength.toNat, message := message } }
        -- the header is consumed; a body behind a control frame is not looked for
        if msgType.EndsStream then
          (true, { s with own := { s.own with
            message := { message with isEnd := true, store := .setView {} }, state := .readHeader } })
        else if s.own.bodyLength = 0 then
          (true, { s with own := { s.own with
            message := { message with store := .setView {} }, state := .readHeader } })
        else parseStreamBody { s with own := { s.own with state := .readBody } }

/-- What the header phase has put into a message. -/
def StreamMessage.begun (m : StreamMessage) (h : RpcHeader) : StreamMessage :=
  { m with streamId := h.requestId, messageType := ⟨h.type⟩ }

/-- The body phase takes a body that is all there. -/
theorem parseStreamBody_spec (s : RpcRingBufferReadState ρ StreamMessageReadMembers) :
    if (RingBuffer.content s.ringBuffer).length < s.own.bodyLength then parseStreamBody s = (false, s)
    else ∃ view, view.cells = (RingBuffer.content s.ringBuffer).take s.own.bodyLength ∧
      parseStreamBody s =
        (true, { s with
          ringBuffer := RingBuffer.consume s.ringBuffer s.own.bodyLength
          own := { s.own with
            message := { s.own.message with store := .setView view }
            state := .readHeader } }) := by
  have hflat := RingBuffer.getReadIovecs_flatten s.ringBuffer
  unfold parseStreamBody
  simp only [iovecsReadableBytes_eq, hflat]
  by_cases hlt : (RingBuffer.content s.ringBuffer).length < s.own.bodyLength
  · rw [if_pos hlt, if_pos hlt]
  · rw [if_neg hlt]
    have hspec := payloadViewFromIovecs_spec (RingBuffer.getReadIovecs_length s.ringBuffer) 0
      s.own.bodyLength
    rw [hflat, Nat.zero_add, decide_eq_true (Or.inr (Nat.le_of_not_lt hlt)), slice_from_zero] at hspec
    obtain ⟨hok, hcells⟩ := hspec
    refine ⟨_, hcells, ?_⟩
    simp only [if_neg hlt]
    generalize payloadViewFromIovecs _ 0 s.own.bodyLength = out at hok
    obtain ⟨ok, view⟩ := out
    obtain rfl : ok = true := hok
    rfl

/-- The header phase, once sixteen bytes are there. -/
theorem parseStreamHeader_spec {s : RpcRingBufferReadState ρ StreamMessageReadMembers}
    (hphase : s.own.state = .readHeader) (h16 : rpcHeaderSize ≤ (RingBuffer.content s.ringBuffer).length) :
    let h := RpcHeader.ofBytes (RingBuffer.content s.ringBuffer)
    let begun := s.own.message.begun h
    let ring := RingBuffer.consume s.ringBuffer rpcHeaderSize
    if ¬ h.Accepted then
      ∃ header, StreamMessageReadState.parseFromRingBuffer s =
        (true, { s with
          own := { s.own with header := header }
          error := some (.ofText .invalidRequest "Invalid header") })
    else if (RpcMessageType.mk h.type).EndsStream then
      StreamMessageReadState.parseFromRingBuffer s =
        (true, { s with
          ringBuffer := ring
          own := ⟨{ begun with isEnd := true, store := .setView {} }, .readHeader, h,
            h.bodyLength.toNat⟩ })
    else if h.bodyLength.toNat = 0 then
      StreamMessageReadState.parseFromRingBuffer s =
        (true, { s with
          ringBuffer := ring
          own := ⟨{ begun with store := .setView {} }, .readHeader, h, h.bodyLength.toNat⟩ })
    else
      StreamMessageReadState.parseFromRingBuffer s =
        parseStreamBody { s with
          ringBuffer := ring
          own := ⟨begun, .readBody, h, h.bodyLength.toNat⟩ } := by
  have hflat := RingBuffer.getReadIovecs_flatten s.ringBuffer
  have hcopy : (copyFromIovecs (RingBuffer.getReadIovecs s.ringBuffer) 0 rpcHeaderSize).2 =
      (RingBuffer.content s.ringBuffer).take rpcHeaderSize := by
    rw [copyFromIovecs_eq, hflat, slice_from_zero]
  have hof := RpcHeader.ofBytes_take h16
  unfold StreamMessageReadState.parseFromRingBuffer
  simp only [hphase, iovecsReadableBytes_eq, hflat, hcopy, if_neg (Nat.not_lt.mpr h16)]
  by_cases ha : (RpcHeader.ofBytes (RingBuffer.content s.ringBuffer)).Accepted
  · have ha' := ha
    rw [← hof] at ha'
    rw [if_neg (not_not.mpr ha), RpcHeader.deserialize_of_accepted _ ha', hof]
    simp only []
    split
    · rfl
    · split
      · rfl
      · rfl
  · have ha' := ha
    rw [← hof] at ha'
    obtain ⟨header, hdes⟩ := RpcHeader.deserialize_of_refused s.own.header ha'
    rw [if_pos ha, hdes]
    exact ⟨header, rfl⟩

theorem parseStreamHeader_short {s : RpcRingBufferReadState ρ StreamMessageReadMembers}
    (hphase : s.own.state = .readHeader)
    (h16 : (RingBuffer.content s.ringBuffer).length < rpcHeaderSize) :
    StreamMessageReadState.parseFromRingBuffer s = (false, s) := by
  unfold StreamMessageReadState.parseFromRingBuffer
  simp only [hphase, iovecsReadableBytes_eq, RingBuffer.getReadIovecs_flatten, if_pos h16]

theorem parseStreamBody_of_phase {s : RpcRingBufferReadState ρ StreamMessageReadMembers}
    (hphase : s.own.state = .readBody) :
    StreamMessageReadState.parseFromRingBuffer s = parseStreamBody s := by
  unfold StreamMessageReadState.parseFromRingBuffer
  simp only [hphase]

end ReadState
/-! ## How a stream read ends -/

/-- What a reader that has taken the header off `stream` and waits for the body knows. -/
structure BodyPending (stream : Bytes) (capacity : Nat) : Prop where
  length : rpcHeaderSize ≤ stream.length
  capacity : rpcHeaderSize ≤ capacity
  accepted : (RpcHeader.ofBytes stream).Accepted
  plain : ¬ (RpcMessageType.mk (RpcHeader.ofBytes stream).type).EndsStream
  nonempty : (RpcHeader.ofBytes stream).bodyLength.toNat ≠ 0

/-- How a read of `stream` into `message` ends: what it returns, what the message is then, and what is
    left unread. -/
inductive StreamReadEnds (stream : Bytes) (capacity : Nat) (message : StreamMessage)
    (ending : WireEnd) : Option RpcAwaitableResult → StreamMessage → Bytes → Prop
  | control (hlen : rpcHeaderSize ≤ stream.length) (hcap : rpcHeaderSize ≤ capacity)
      (hacc : (RpcHeader.ofBytes stream).Accepted)
      (hcontrol : (RpcMessageType.mk (RpcHeader.ofBytes stream).type).EndsStream) :
      StreamReadEnds stream capacity message ending (some (.ok true))
        { message.begun (.ofBytes stream) with isEnd := true, store := .setView {} }
        (stream.drop rpcHeaderSize)
  | empty (hlen : rpcHeaderSize ≤ stream.length) (hcap : rpcHeaderSize ≤ capacity)
      (hacc : (RpcHeader.ofBytes stream).Accepted)
      (hplain : ¬ (RpcMessageType.mk (RpcHeader.ofBytes stream).type).EndsStream)
      (hzero : (RpcHeader.ofBytes stream).bodyLength.toNat = 0) :
      StreamReadEnds stream capacity message ending (some (.ok true))
        { message.begun (.ofBytes stream) with store := .setView {} } (stream.drop rpcHeaderSize)
  | body (hpending : BodyPending stream capacity)
      (hlen : rpcHeaderSize + (RpcHeader.ofBytes stream).bodyLength.toNat ≤ stream.length)
      (hcap : (RpcHeader.ofBytes stream).bodyLength.toNat ≤ capacity) (view : RpcPayloadView UInt8)
      (hview : view.cells =
        slice stream rpcHeaderSize (RpcHeader.ofBytes stream).bodyLength.toNat) :
      StreamReadEnds stream capacity message ending (some (.ok true))
        { message.begun (.ofBytes stream) with store := .setView view }
        (stream.drop (rpcHeaderSize + (RpcHeader.ofBytes stream).bodyLength.toNat))
  | invalid (hlen : rpcHeaderSize ≤ stream.length) (hcap : rpcHeaderSize ≤ capacity)
      (hacc : ¬ (RpcHeader.ofBytes stream).Accepted) :
      StreamReadEnds stream capacity message ending
        (some (.error (.ofText .invalidRequest "Invalid header"))) message stream
  | fullHeader (hcap : capacity < rpcHeaderSize) (hlen : capacity ≤ stream.length) :
      StreamReadEnds stream capacity message ending
        (some (.error (.ofText .internalError "No writable ring buffer space"))) message stream
  | fullBody (hpending : BodyPending stream capacity)
      (hcap : capacity < (RpcHeader.ofBytes stream).bodyLength.toNat)
      (hlen : rpcHeaderSize + capacity ≤ stream.length) :
      StreamReadEnds stream capacity message ending
        (some (.error (.ofText .internalError "No writable ring buffer space")))
        (message.begun (.ofBytes stream)) (stream.drop rpcHeaderSize)
  | endedHeader (hlen : stream.length < rpcHeaderSize) (hcap : stream.length < capacity) :
      StreamReadEnds stream capacity message ending ending.result message stream
  | endedBody (hpending : BodyPending stream capacity)
      (hlen : stream.length < rpcHeaderSize + (RpcHeader.ofBytes stream).bodyLength.toNat)
      (hcap : stream.length < rpcHeaderSize + capacity) :
      StreamReadEnds stream capacity message ending ending.result (message.begun (.ofBytes stream))
        (stream.drop rpcHeaderSize)

section StreamRead

variable {ρ : Type} [RingBuffer ρ] {stream : Bytes} {capacity : Nat} {message : StreamMessage}

/-- The invariant of the header phase: nothing has been taken off the stream. -/
structure AtHeader (stream : Bytes) (capacity : Nat) (message : StreamMessage)
    (s : RpcRingBufferReadState ρ StreamMessageReadMembers) (rest : Bytes) : Prop where
  error : s.error = none
  phase : s.own.state = .readHeader
  unread : RingBuffer.content s.ringBuffer ++ rest = stream
  room : RingBuffer.capacity s.ringBuffer = capacity
  target : s.own.message = message

/-- The invariant of the body phase: the header is off the stream, and the state knows what it said. -/
structure AtBody (stream : Bytes) (capacity : Nat) (message : StreamMessage)
    (s : RpcRingBufferReadState ρ StreamMessageReadMembers) (rest : Bytes) : Prop where
  pending : BodyPending stream capacity
  error : s.error = none
  phase : s.own.state = .readBody
  unread : RingBuffer.content s.ringBuffer ++ rest = stream.drop rpcHeaderSize
  room : RingBuffer.capacity s.ringBuffer = capacity
  target : s.own.message = message.begun (.ofBytes stream)
  bodyLength : s.own.bodyLength = (RpcHeader.ofBytes stream).bodyLength.toNat

theorem AtHeader.receive {s : RpcRingBufferReadState ρ StreamMessageReadMembers} {piece rest : Bytes}
    (h : AtHeader stream capacity message s (piece ++ rest))
    (hlen : piece.length ≤ RingBuffer.free s.ringBuffer) (windows : List Nat) :
    AtHeader stream capacity message
      { s with ringBuffer := RingBuffer.receive s.ringBuffer piece, readIovecs := windows } rest where
  error := h.error
  phase := h.phase
  unread := by
    rw [RingBuffer.content_receive hlen, List.append_assoc]
    exact h.unread
  room := by
    rw [RingBuffer.capacity_receive]
    exact h.room
  target := h.target

theorem AtBody.receive {s : RpcRingBufferReadState ρ StreamMessageReadMembers} {piece rest : Bytes}
    (h : AtBody stream capacity message s (piece ++ rest))
    (hlen : piece.length ≤ RingBuffer.free s.ringBuffer) (windows : List Nat) :
    AtBody stream capacity message
      { s with ringBuffer := RingBuffer.receive s.ringBuffer piece, readIovecs := windows } rest where
  pending := h.pending
  error := h.error
  phase := h.phase
  unread := by
    rw [RingBuffer.content_receive hlen, List.append_assoc]
    exact h.unread
  room := by
    rw [RingBuffer.capacity_receive]
    exact h.room
  target := h.target
  bodyLength := h.bodyLength

/-- Once sixteen bytes are in the ring, they are the header of the stream. -/
theorem AtHeader.header_eq {s : RpcRingBufferReadState ρ StreamMessageReadMembers} {rest : Bytes}
    (h : AtHeader stream capacity message s rest)
    (h16 : rpcHeaderSize ≤ (RingBuffer.content s.ringBuffer).length) :
    RpcHeader.ofBytes (RingBuffer.content s.ringBuffer) = RpcHeader.ofBytes stream ∧
      rpcHeaderSize ≤ stream.length ∧ rpcHeaderSize ≤ capacity := by
  have hle := RingBuffer.content_length_le s.ringBuffer
  rw [h.room] at hle
  refine ⟨?_, ?_, Nat.le_trans h16 hle⟩
  · rw [← h.unread, RpcHeader.ofBytes_append h16]
  · rw [← h.unread, List.length_append]
    exact Nat.le_trans h16 (Nat.le_add_right _ _)

/-- What is unread behind the header. -/
theorem AtHeader.drop_header {s : RpcRingBufferReadState ρ StreamMessageReadMembers} {rest : Bytes}
    (h : AtHeader stream capacity message s rest)
    (h16 : rpcHeaderSize ≤ (RingBuffer.content s.ringBuffer).length) :
    RingBuffer.content (RingBuffer.consume s.ringBuffer rpcHeaderSize) ++ rest =
      stream.drop rpcHeaderSize := by
  rw [RingBuffer.content_consume _ _ h16, ← List.drop_append_of_le_length h16, h.unread]

/-- Behind an accepted header that announces a body, the body phase begins. -/
theorem AtHeader.toBody {s : RpcRingBufferReadState ρ StreamMessageReadMembers} {rest : Bytes}
    (h : AtHeader stream capacity message s rest)
    (h16 : rpcHeaderSize ≤ (RingBuffer.content s.ringBuffer).length)
    (hacc : (RpcHeader.ofBytes stream).Accepted)
    (hplain : ¬ (RpcMessageType.mk (RpcHeader.ofBytes stream).type).EndsStream)
    (hnonempty : (RpcHeader.ofBytes stream).bodyLength.toNat ≠ 0) :
    AtBody stream capacity message
      { s with
        ringBuffer := RingBuffer.consume s.ringBuffer rpcHeaderSize
        own := ⟨s.own.message.begun (.ofBytes stream), .readBody, .ofBytes stream,
          (RpcHeader.ofBytes stream).bodyLength.toNat⟩ } rest where
  pending := ⟨(h.header_eq h16).2.1, (h.header_eq h16).2.2, hacc, hplain, hnonempty⟩
  error := h.error
  phase := rfl
  unread := h.drop_header h16
  room := by
    rw [RingBuffer.capacity_consume]
    exact h.room
  target := by rw [h.target]
  bodyLength := rfl

/-- The body phase: the body is taken if it is all there, and otherwise nothing happens. -/
theorem AtBody.parse {s s' : RpcRingBufferReadState ρ StreamMessageReadMembers} {rest : Bytes}
    (h : AtBody stream capacity message s rest) {done : Bool} (hparse : parseStreamBody s = (done, s'))
    (ending : WireEnd) :
    if done then
      StreamReadEnds stream capacity message ending (some (takeResult s'.error)) s'.own.message
          (RingBuffer.content s'.ringBuffer ++ rest) ∧
        RingBuffer.capacity s'.ringBuffer = capacity
    else s' = s ∧
      (RingBuffer.content s.ringBuffer).length < (RpcHeader.ofBytes stream).bodyLength.toNat := by
  have hspec := parseStreamBody_spec s
  rw [hparse, h.bodyLength] at hspec
  split at hspec
  · rename_i hlt
    obtain ⟨rfl, rfl⟩ := Prod.mk.inj hspec
    exact ⟨rfl, hlt⟩
  · rename_i hge
    have hle := Nat.le_of_not_lt hge
    obtain ⟨view, hview, hout⟩ := hspec
    obtain ⟨rfl, rfl⟩ := Prod.mk.inj hout
    have hbody : (RingBuffer.content s.ringBuffer).take (RpcHeader.ofBytes stream).bodyLength.toNat =
        slice stream rpcHeaderSize (RpcHeader.ofBytes stream).bodyLength.toNat := by
      rw [slice, ← h.unread, List.take_append_of_le_length hle]
    have hcap := RingBuffer.content_length_le s.ringBuffer
    rw [h.room] at hcap
    have hlen := congrArg List.length h.unread
    rw [List.length_append, List.length_drop] at hlen
    have h16 := h.pending.length
    refine ⟨?_, ?_⟩
    · show StreamReadEnds stream capacity message ending (some (takeResult s.error))
        { s.own.message with store := .setView view }
        (RingBuffer.content (RingBuffer.consume s.ringBuffer
          (RpcHeader.ofBytes stream).bodyLength.toNat) ++ rest)
      rw [h.error, h.target, RingBuffer.content_consume _ _ hle, ← List.drop_append_of_le_length hle,
        h.unread, List.drop_drop]
      exact .body h.pending (by omega) (Nat.le_trans hle hcap) view (by rw [hview, hbody])
    · show RingBuffer.capacity (RingBuffer.consume s.ringBuffer
        (RpcHeader.ofBytes stream).bodyLength.toNat) = capacity
      rw [RingBuffer.capacity_consume, h.room]

/-- One call of `parseFromRingBuffer`, in either phase: it ends the read as `StreamReadEnds` says, or it
    leaves one of the two invariants with too few bytes in the ring for that phase. -/
theorem parseStream_step {s s' : RpcRingBufferReadState ρ StreamMessageReadMembers} {rest : Bytes}
    (h : AtHeader stream capacity message s rest ∨ AtBody stream capacity message s rest) {done : Bool}
    (hparse : StreamMessageReadState.parseFromRingBuffer s = (done, s')) (ending : WireEnd) :
    if done then
      StreamReadEnds stream capacity message ending (some (takeResult s'.error)) s'.own.message
          (RingBuffer.content s'.ringBuffer ++ rest) ∧
        RingBuffer.capacity s'.ringBuffer = capacity
    else
      (AtHeader stream capacity message s' rest ∧
        (RingBuffer.content s'.ringBuffer).length < rpcHeaderSize) ∨
      (AtBody stream capacity message s' rest ∧
        (RingBuffer.content s'.ringBuffer).length < (RpcHeader.ofBytes stream).bodyLength.toNat) := by
  rcases h with h | h
  · rcases Nat.lt_or_ge (RingBuffer.content s.ringBuffer).length rpcHeaderSize with hlt | h16
    · -- not even a header yet
      rw [parseStreamHeader_short h.phase hlt] at hparse
      obtain ⟨rfl, rfl⟩ := Prod.mk.inj hparse
      exact Or.inl ⟨h, hlt⟩
    · have hspec := parseStreamHeader_spec h.phase h16
      obtain ⟨hof, hlen, hcap⟩ := h.header_eq h16
      have hdrop := h.drop_header h16
      have hcapacity : RingBuffer.capacity (RingBuffer.consume s.ringBuffer rpcHeaderSize) = capacity := by
        rw [RingBuffer.capacity_consume, h.room]
      rw [hparse, hof] at hspec
      by_cases hacc : (RpcHeader.ofBytes stream).Accepted
      · simp only [if_neg (not_not.mpr hacc)] at hspec
        by_cases hcontrol : (RpcMessageType.mk (RpcHeader.ofBytes stream).type).EndsStream
        · rw [if_pos hcontrol] at hspec
          obtain ⟨rfl, rfl⟩ := Prod.mk.inj hspec
          refine ⟨?_, hcapacity⟩
          show StreamReadEnds stream capacity message ending (some (takeResult s.error)) _ _
          rw [h.error, hdrop, h.target]
          exact .control hlen hcap hacc hcontrol
        · rw [if_neg hcontrol] at hspec
          by_cases hzero : (RpcHeader.ofBytes stream).bodyLength.toNat = 0
          · rw [if_pos hzero] at hspec
            obtain ⟨rfl, rfl⟩ := Prod.mk.inj hspec
            refine ⟨?_, hcapacity⟩
            show StreamReadEnds stream capacity message ending (some (takeResult s.error)) _ _
            rw [h.error, hdrop, h.target]
            exact .empty hlen hcap hacc hcontrol hzero
          · -- the body phase, in the same call
            rw [if_neg hzero] at hspec
            have hbody := h.toBody h16 hacc hcontrol hzero
            have hstep := hbody.parse hspec.symm ending
            cases done with
            | true => exact hstep
            | false =>
              obtain ⟨rfl, hshort⟩ : _ ∧ _ := hstep
              exact Or.inr ⟨hbody, hshort⟩
      · rw [if_pos hacc] at hspec
        obtain ⟨header, hout⟩ := hspec
        obtain ⟨rfl, rfl⟩ := Prod.mk.inj hout
        refine ⟨?_, h.room⟩
        show StreamReadEnds stream capacity message ending _ s.own.message
          (RingBuffer.content s.ringBuffer ++ rest)
        rw [h.unread, h.target]
        exact .invalid hlen hcap hacc
  · rw [parseStreamBody_of_phase h.phase] at hparse
    have hstep := h.parse hparse ending
    cases done with
    | true => exact hstep
    | false =>
      obtain ⟨rfl, hshort⟩ : _ ∧ _ := hstep
      exact Or.inr ⟨h, hshort⟩

/-- **How a stream read ends.** -/
theorem awaitStreamRead_ends (ring : ρ) (message : StreamMessage) (w : Wire) :
    let run := awaitRead StreamMessageReadState.parseFromRingBuffer
      { ringBuffer := ring, own := { message := message } } w
    StreamReadEnds (RingBuffer.content ring ++ w.bytes) (RingBuffer.capacity ring) message w.ending
        run.result run.own.message run.unread ∧
      RingBuffer.capacity run.ringBuffer = RingBuffer.capacity ring ∧ run.wire.ending = w.ending := by
  generalize hstream : RingBuffer.content ring ++ w.bytes = stream
  generalize hcapacity : RingBuffer.capacity ring = capacity
  have hrule := runRead_rule StreamMessageReadState.parseFromRingBuffer
    (fun s rest => AtHeader stream capacity message s rest ∨ AtBody stream capacity message s rest)
    w.ending
    (fun result s rest =>
      StreamReadEnds stream capacity message w.ending result s.own.message
          (RingBuffer.content s.ringBuffer ++ rest) ∧
        RingBuffer.capacity s.ringBuffer = capacity)
    (by
      intro s s' rest hI hparse
      exact parseStream_step hI hparse w.ending)
    (by
      -- a full ring that is short of the phase's bytes is a ring too small for them
      intro s s' rest hI hparse hfull s'' hring hown
      have hsize : (RingBuffer.content s'.ringBuffer).length = RingBuffer.capacity s'.ringBuffer := by
        have hle := RingBuffer.content_length_le s'.ringBuffer
        rw [RingBuffer.free] at hfull
        omega
      rw [hring, hown]
      rcases parseStream_step hI hparse w.ending with ⟨h, hshort⟩ | ⟨h, hshort⟩
      · rw [hsize, h.room] at hshort
        have hlen := congrArg List.length h.unread
        rw [List.length_append, hsize, h.room] at hlen
        rw [h.unread, h.target]
        exact ⟨.fullHeader hshort (by omega), h.room⟩
      · rw [hsize, h.room] at hshort
        have hlen := congrArg List.length h.unread
        rw [List.length_append, List.length_drop, hsize, h.room] at hlen
        have h16 := h.pending.length
        rw [h.unread, h.target]
        exact ⟨.fullBody h.pending hshort (by omega), h.room⟩)
    (by
      intro s s' hI hparse hfree s'' hring hown _
      have hsize : (RingBuffer.content s'.ringBuffer).length < RingBuffer.capacity s'.ringBuffer := by
        rw [RingBuffer.free] at hfree
        omega
      rw [hring, hown]
      rcases parseStream_step hI hparse w.ending with ⟨h, hshort⟩ | ⟨h, hshort⟩
      · rw [h.room] at hsize
        have hlen := congrArg List.length h.unread
        rw [List.append_nil] at hlen
        rw [h.unread, h.target]
        exact ⟨.endedHeader (by omega) (by omega), h.room⟩
      · rw [h.room] at hsize
        have hlen := congrArg List.length h.unread
        rw [List.append_nil, List.length_drop] at hlen
        have h16 := h.pending.length
        rw [h.unread, h.target]
        exact ⟨.endedBody h.pending (by omega) (by omega), h.room⟩)
    (by
      intro s s' piece rest hI hparse _ hlen
      rcases parseStream_step hI hparse w.ending with ⟨h, -⟩ | ⟨h, -⟩
      · exact Or.inl (h.receive hlen _)
      · exact Or.inr (h.receive hlen _))
    (w.bytes.length + 2) { ringBuffer := ring, own := { message := message } } w (Nat.le_refl _) rfl
    (Or.inl ⟨rfl, rfl, hstream, hcapacity, rfl⟩)
  exact ⟨hrule.1.1, hrule.1.2, hrule.2⟩

end StreamRead

/-! ## Frames in front of a stream -/

/-- What a stream message says. -/
structure StreamMsg where
  messageType : RpcMessageType
  streamId : UInt32
  payload : Bytes
  isEnd : Bool
deriving DecidableEq, Repr

def StreamMessage.msg (m : StreamMessage) : StreamMsg := ⟨m.messageType, m.streamId, m.payload, m.isEnd⟩

/-- **A whole frame in front of a stream is read**, on a ring that can hold the header and the body; a
    control frame must not announce a body. -/
theorem StreamReadEnds.of_frame {h : RpcHeader} {body rest stream : Bytes} {capacity : Nat}
    {message m : StreamMessage} {ending : WireEnd} {result : Option RpcAwaitableResult} {unread : Bytes}
    (hends : StreamReadEnds stream capacity message ending result m unread)
    (hstream : stream = h.serialize ++ body ++ rest) (hacc : h.Accepted)
    (hlen : h.bodyLength.toNat = body.length) (hcap : rpcHeaderSize ≤ capacity)
    (hfits : body.length ≤ capacity)
    (hcontrol : (RpcMessageType.mk h.type).EndsStream → body.length = 0) :
    result = some (.ok true) ∧ unread = rest ∧
      m.msg = ⟨⟨h.type⟩, h.requestId, body,
        if (RpcMessageType.mk h.type).EndsStream then true else message.isEnd⟩ := by
  have hof : RpcHeader.ofBytes stream = h := by
    rw [hstream, List.append_assoc, RpcHeader.ofBytes_serialize]
  have hsize : stream.length = rpcHeaderSize + body.length + rest.length := by
    rw [hstream, List.length_append, List.length_append, RpcHeader.serialize_length]
  have hdrop : stream.drop (rpcHeaderSize + body.length) = rest := by
    rw [hstream]
    exact List.drop_left' (by rw [List.length_append, RpcHeader.serialize_length])
  have hslice : slice stream rpcHeaderSize body.length = body := by
    rw [hstream, List.append_assoc, slice_append_right _ _ (Nat.le_of_eq (RpcHeader.serialize_length h)),
      RpcHeader.serialize_length, Nat.sub_self, slice_from_zero, List.take_left]
  cases hends with
  | control _ _ _ hc =>
    rw [hof] at hc ⊢
    have hzero := hcontrol hc
    rw [hzero, Nat.add_zero] at hdrop
    rw [if_pos hc, List.eq_nil_of_length_eq_zero hzero]
    exact ⟨rfl, hdrop, rfl⟩
  | empty _ _ _ hplain hzero =>
    rw [hof] at hplain hzero ⊢
    rw [hlen] at hzero
    rw [hzero, Nat.add_zero] at hdrop
    rw [if_neg hplain, List.eq_nil_of_length_eq_zero hzero]
    exact ⟨rfl, hdrop, rfl⟩
  | body hpending _ _ view hview =>
    have hplain := hpending.plain
    rw [hof] at hplain hview ⊢
    rw [hlen, hslice] at hview
    rw [hlen, if_neg hplain]
    refine ⟨rfl, hdrop, ?_⟩
    rw [← hview]
    rfl
  | invalid _ _ hbad =>
    rw [hof] at hbad
    exact absurd hacc hbad
  | fullHeader => omega
  | fullBody _ hsmall =>
    rw [hof, hlen] at hsmall
    omega
  | endedHeader => omega
  | endedBody _ hshort =>
    rw [hof, hlen] at hshort
    omega

/-! ## The frame writer -/

namespace StreamFrameWriteState

/-- The constructor for control frames. -/
def control (streamId : UInt32) (type : RpcMessageType) : RpcWriteState where
  iovecs := [RpcHeader.serialize { type := type.toByte, requestId := streamId, bodyLength := 0 }]

/-- `buildDataFrame`, and the constructor for borrowed payloads. -/
def buildDataFrame (streamId : UInt32) (payloadView : RpcPayloadView UInt8) : RpcWriteState where
  iovecs :=
    [RpcHeader.serialize
      { type := RpcMessageType.streamData.toByte
        requestId := streamId
        bodyLength := UInt32.ofNat payloadView.size }] ++
      optionalIovec payloadView.segment1 ++ optionalIovec payloadView.segment2

/-- The constructor for copied payloads. -/
def data (streamId : UInt32) (bytes : Bytes) : RpcWriteState :=
  let mOwnedPayload := if bytes.length > 0 then bytes else []
  buildDataFrame streamId (if mOwnedPayload.isEmpty then {} else ⟨mOwnedPayload, []⟩)

/-- The constructor for `STREAM_INIT` frames. -/
def init (streamId : UInt32) (service method : Bytes) : RpcWriteState where
  iovecs :=
    [RpcHeader.serialize
      { type := RpcMessageType.streamInit.toByte
        requestId := streamId
        bodyLength := UInt32.ofNat (2 + service.length + 2 + method.length) },
      rpcHtons (UInt16.ofNat service.length)] ++ optionalIovec service ++
      [rpcHtons (UInt16.ofNat method.length)] ++ optionalIovec method

end StreamFrameWriteState

/-- The frames the stream code sends, each by one constructor of `StreamFrameWriteState`. -/
inductive StreamFrame where
  | init (streamId : UInt32) (service method : Bytes)
  | initAck (streamId : UInt32)
  | data (streamId : UInt32) (bytes : Bytes)
  | dataView (streamId : UInt32) (payloadView : RpcPayloadView UInt8)
  | endOfStream (streamId : UInt32)
  | cancel (streamId : UInt32)

namespace StreamFrame

def writeState : StreamFrame → RpcWriteState
  | init streamId service method => StreamFrameWriteState.init streamId service method
  | initAck streamId => StreamFrameWriteState.control streamId .streamInitAck
  | data streamId bytes => StreamFrameWriteState.data streamId bytes
  | dataView streamId payloadView => StreamFrameWriteState.buildDataFrame streamId payloadView
  | endOfStream streamId => StreamFrameWriteState.control streamId .streamEnd
  | cancel streamId => StreamFrameWriteState.control streamId .streamCancel

/-- The bytes that are written. -/
def bytes (f : StreamFrame) : Bytes := f.writeState.iovecs.flatten

/-- What a frame is meant to say. -/
def msg : StreamFrame → StreamMsg
  | init streamId service method => ⟨.streamInit, streamId, serializeNames service method, false⟩
  | initAck streamId => ⟨.streamInitAck, streamId, [], false⟩
  | data streamId bytes => ⟨.streamData, streamId, bytes, false⟩
  | dataView streamId payloadView => ⟨.streamData, streamId, payloadView.cells, false⟩
  | endOfStream streamId => ⟨.streamEnd, streamId, [], true⟩
  | cancel streamId => ⟨.streamCancel, streamId, [], true⟩

/-- The header of a frame. -/
def header (f : StreamFrame) : RpcHeader where
  type := f.msg.messageType.toByte
  requestId := f.msg.streamId
  bodyLength := UInt32.ofNat f.msg.payload.length

/-- Every frame is its header and its payload. -/
theorem bytes_eq (f : StreamFrame) : f.bytes = f.header.serialize ++ f.msg.payload := by
  cases f with
  | init streamId service method =>
    have hsize : 2 + service.length + 2 + method.length = (serializeNames service method).length := by
      rw [serializeNames_length]
      omega
    simp [bytes, writeState, StreamFrameWriteState.init, header, msg, serializeNames, hsize]
  | initAck streamId => simp [bytes, writeState, StreamFrameWriteState.control, header, msg]
  | data streamId bytes' =>
    cases bytes' with
    | nil =>
      simp [bytes, writeState, StreamFrameWriteState.data, StreamFrameWriteState.buildDataFrame, header,
        msg, optionalIovec, RpcPayloadView.size]
    | cons b bs =>
      simp [bytes, writeState, StreamFrameWriteState.data, StreamFrameWriteState.buildDataFrame, header,
        msg, RpcPayloadView.size]
  | dataView streamId payloadView =>
    simp [bytes, writeState, StreamFrameWriteState.buildDataFrame, header, msg, RpcPayloadView.cells,
      RpcPayloadView.size]
  | endOfStream streamId => simp [bytes, writeState, StreamFrameWriteState.control, header, msg]
  | cancel streamId => simp [bytes, writeState, StreamFrameWriteState.control, header, msg]

/-- A frame the format can express and a ring of this capacity can hold. -/
structure Fits (capacity : Nat) (f : StreamFrame) : Prop where
  names : ∀ streamId service method, f = init streamId service method →
    service.length ≤ 65535 ∧ method.length ≤ 65535
  body : f.msg.payload.length ≤ min capacity rpcMaxBodySize

/-- The names of a `STREAM_INIT` fit their length words. -/
def NamesFit : StreamFrame → Prop
  | init _ service method => service.length ≤ 65535 ∧ method.length ≤ 65535
  | _ => True

instance (f : StreamFrame) : Decidable f.NamesFit :=
  match f with
  | init _ service method =>
    inferInstanceAs (Decidable (service.length ≤ 65535 ∧ method.length ≤ 65535))
  | initAck _ => .isTrue trivial
  | data _ _ => .isTrue trivial
  | dataView _ _ => .isTrue trivial
  | endOfStream _ => .isTrue trivial
  | cancel _ => .isTrue trivial

theorem fits_iff {capacity : Nat} {f : StreamFrame} :
    f.NamesFit ∧ f.msg.payload.length ≤ min capacity rpcMaxBodySize ↔ f.Fits capacity := by
  constructor
  · rintro ⟨hnames, hbody⟩
    refine ⟨?_, hbody⟩
    rintro streamId service method rfl
    exact hnames
  · intro h
    refine ⟨?_, h.body⟩
    cases f with
    | init streamId service method => exact h.names _ _ _ rfl
    | initAck => trivial
    | data => trivial
    | dataView => trivial
    | endOfStream => trivial
    | cancel => trivial

instance (capacity : Nat) (f : StreamFrame) : Decidable (f.Fits capacity) := decidable_of_iff _ fits_iff

theorem Fits.bodyLength {capacity : Nat} {f : StreamFrame} (hf : f.Fits capacity) :
    f.header.bodyLength.toNat = f.msg.payload.length := by
  refine UInt32.toNat_ofNat_of_lt (Nat.lt_of_le_of_lt hf.body ?_)
  exact Nat.lt_of_le_of_lt (Nat.min_le_right _ _) (by decide)

theorem Fits.accepted {capacity : Nat} {f : StreamFrame} (hf : f.Fits capacity) :
    f.header.Accepted := by
  refine ⟨rfl, ?_⟩
  rw [hf.bodyLength]
  exact Nat.le_trans hf.body (Nat.min_le_right _ _)

theorem payload_of_endsStream (f : StreamFrame) (h : (RpcMessageType.mk f.header.type).EndsStream) :
    f.msg.payload.length = 0 := by
  cases f with
  | init => exact absurd (show RpcMessageType.streamInit.EndsStream from h) (by decide)
  | initAck => rfl
  | data => exact absurd (show RpcMessageType.streamData.EndsStream from h) (by decide)
  | dataView => exact absurd (show RpcMessageType.streamData.EndsStream from h) (by decide)
  | endOfStream => rfl
  | cancel => rfl

end StreamFrame

/-- Both encoders of `STREAM_INIT` emit the same bytes. -/
theorem StreamInitRequest.serialize_eq (r : StreamInitRequest) :
    (StreamFrame.init r.streamId r.serviceName r.methodName).bytes = r.serialize := by
  rw [StreamFrame.bytes_eq, StreamInitRequest.serialize]
  have hsize : (serializeNames r.serviceName r.methodName).length =
      2 + r.serviceName.length + 2 + r.methodName.length := by
    rw [serializeNames_length]
    omega
  simp [StreamFrame.header, StreamFrame.msg, StreamInitRequest.header, hsize]

/-- **A frame of the stream code in front is read**, if the ring can hold it. -/
theorem StreamReadEnds.of_streamFrame {f : StreamFrame} {rest stream : Bytes} {capacity : Nat}
    {message m : StreamMessage} {ending : WireEnd} {result : Option RpcAwaitableResult} {unread : Bytes}
    (hends : StreamReadEnds stream capacity message ending result m unread)
    (hstream : stream = f.bytes ++ rest) (hcap : rpcHeaderSize ≤ capacity) (hf : f.Fits capacity) :
    result = some (.ok true) ∧ unread = rest ∧
      m.msg = ⟨f.msg.messageType, f.msg.streamId, f.msg.payload,
        if f.msg.messageType.EndsStream then true else message.isEnd⟩ := by
  rw [StreamFrame.bytes_eq] at hstream
  exact hends.of_frame hstream hf.accepted hf.bodyLength hcap
    (Nat.le_trans hf.body (Nat.min_le_left _ _)) f.payload_of_endsStream

/-! ## Reassembly -/

section Reassembly

variable {ρ : Type} [RingBuffer ρ]

/-- A read that got the frame `f`. -/
structure Received (f : StreamFrame) (run : ReadRun ρ StreamMessageReadMembers) : Prop where
  result : run.result = some (.ok true)
  messageType : run.own.message.messageType = f.msg.messageType
  streamId : run.own.message.streamId = f.msg.streamId
  payload : run.own.message.payload = f.msg.payload
  isEnd : run.own.message.isEnd = true ↔
    f.msg.messageType = .streamEnd ∨ f.msg.messageType = .streamCancel
  init : ∀ streamId service method, f = .init streamId service method → ∀ r : StreamInitRequest,
    r.deserializeBody run.own.message.payload run.own.message.payload.length =
      (true, { r with serviceName := service, methodName := method })

/-- One read, of the first frame of a stream. -/
theorem awaitStreamRead_frame {ring : ρ} (hcap : 16 ≤ RingBuffer.capacity ring) {f : StreamFrame}
    (hf : f.Fits (RingBuffer.capacity ring)) {w : Wire} {rest : Bytes}
    (hstream : RingBuffer.content ring ++ w.bytes = f.bytes ++ rest) :
    let run := awaitRead StreamMessageReadState.parseFromRingBuffer
      { ringBuffer := ring, own := { message := {} } } w
    Received f run ∧ run.unread = rest ∧
      RingBuffer.capacity run.ringBuffer = RingBuffer.capacity ring := by
  obtain ⟨hends, hcapacity, -⟩ := awaitStreamRead_ends ring {} w
  obtain ⟨hresult, hunread, hmsg⟩ := hends.of_streamFrame hstream hcap hf
  obtain ⟨htype, hid, hpayload, hisEnd⟩ := StreamMsg.mk.inj hmsg
  refine ⟨⟨hresult, htype, hid, hpayload, ?_, ?_⟩, hunread, hcapacity⟩
  · rw [hisEnd]
    show (if f.msg.messageType.EndsStream then true else false) = true ↔ f.msg.messageType.EndsStream
    by_cases h : f.msg.messageType.EndsStream
    · rw [if_pos h]
      exact ⟨fun _ => h, fun _ => rfl⟩
    · rw [if_neg h]
      exact ⟨nofun, fun h' => absurd h' h⟩
  · rintro streamId service method rfl r
    rw [hpayload]
    apply StreamInitRequest.deserializeBody_of_splitNames
    obtain ⟨hs, hm⟩ := hf.names streamId service method rfl
    exact splitNames_eq_some.mpr
      ⟨Nat.lt_succ_of_le hs, Nat.lt_succ_of_le hm, (List.append_nil _).symm⟩

/-- Reads into fresh messages take the frames of a stream one after the other. -/
theorem awaitStreamReads_frames (frames : List StreamFrame) (ring : ρ) (w : Wire) (rest : Bytes)
    (hcap : 16 ≤ RingBuffer.capacity ring) (hfits : ∀ f ∈ frames, f.Fits (RingBuffer.capacity ring))
    (hstream : RingBuffer.content ring ++ w.bytes = (frames.map StreamFrame.bytes).flatten ++ rest) :
    let out := awaitReads StreamMessageReadState.parseFromRingBuffer
      (frames.map fun _ => { message := {} }) ring w
    List.Forall₂ Received frames out.1 ∧ RingBuffer.content out.2.1 ++ out.2.2.bytes = rest := by
  induction frames generalizing ring w with
  | nil => exact ⟨.nil, hstream⟩
  | cons f frames ih =>
    rw [List.map_cons, List.flatten_cons, List.append_assoc] at hstream
    obtain ⟨hreceived, hunread, hcapacity⟩ :=
      awaitStreamRead_frame hcap (hfits f List.mem_cons_self) hstream
    rw [← hcapacity] at hcap hfits
    obtain ⟨hlater, hrest⟩ := ih _ _ hcap (fun f' hf' => hfits f' (List.mem_cons_of_mem _ hf')) hunread
    exact ⟨.cons hreceived hlater, hrest⟩

/-- **Stream frames survive any fragmentation.**  On an empty ring that can hold a header, frames written
    by the stream code, each with a body the ring can hold, are read back into fresh messages one after
    the other: type, stream id, payload and end flag, and the names of every `STREAM_INIT`. -/
theorem stream_frames_reassembled (ring : ρ) (hempty : RingBuffer.content ring = [])
    (hcap : 16 ≤ RingBuffer.capacity ring) (frames : List StreamFrame)
    (hfits : ∀ f ∈ frames, f.Fits (RingBuffer.capacity ring)) (ending : WireEnd) (sizes : Nat → Nat) :
    let out := awaitReads StreamMessageReadState.parseFromRingBuffer
      (frames.map fun _ => { message := {} }) ring
      ⟨(frames.map StreamFrame.bytes).flatten, ending, sizes⟩
    List.Forall₂ Received frames out.1 ∧ RingBuffer.content out.2.1 = [] := by
  obtain ⟨hreceived, hrest⟩ := awaitStreamReads_frames frames ring
    ⟨(frames.map StreamFrame.bytes).flatten, ending, sizes⟩ [] hcap hfits
    (by rw [hempty, List.nil_append, List.append_nil])
  exact ⟨hreceived, (List.append_eq_nil_iff.mp hrest).1⟩

end Reassembly

/-- A session: `STREAM_INIT` of `Echo.echo`, a data frame and `STREAM_END`, byte by byte through a ring
    of twenty cells. -/
theorem stream_frames_reassembled_session :
    let frames : List StreamFrame :=
      [.init 5 [0x45, 0x63, 0x68, 0x6f] [0x65, 0x63, 0x68, 0x6f], .dataView 5 ⟨[1, 2], [3]⟩,
        .endOfStream 5]
    let out := awaitReads StreamMessageReadState.parseFromRingBuffer
      (frames.map fun _ => { message := {} }) (Circular.empty 20 fun _ => (0 : UInt8))
      ⟨(frames.map StreamFrame.bytes).flatten, .closed, fun _ => 1⟩
    List.Forall₂ Received frames out.1 ∧ RingBuffer.content out.2.1 = [] := by
  apply stream_frames_reassembled _ rfl (by decide)
  intro f hf
  rcases List.mem_cons.mp hf with rfl | hf
  · refine ⟨fun _ _ _ heq => ?_, by decide⟩
    obtain ⟨-, rfl, rfl⟩ := StreamFrame.init.inj heq
    exact ⟨by decide, by decide⟩
  rcases List.mem_cons.mp hf with rfl | hf
  · exact ⟨nofun, by decide⟩
  rw [List.mem_singleton.mp hf]
  exact ⟨nofun, by decide⟩

/-! ## Frame synchronisation -/

/-- A ring too small for a header completes no read. -/
theorem StreamReadEnds.not_ok {stream : Bytes} {capacity : Nat} {message m : StreamMessage}
    {ending : WireEnd} {result : Option RpcAwaitableResult} {unread : Bytes}
    (hends : StreamReadEnds stream capacity message ending result m unread)
    (hsmall : capacity < rpcHeaderSize) : result ≠ some (.ok true) := by
  cases hends with
  | control _ hcap => omega
  | empty _ hcap => omega
  | body hpending =>
    have := hpending.capacity
    omega
  | invalid => exact nofun
  | fullHeader => exact nofun
  | fullBody => exact nofun
  | endedHeader => exact ending.result_ne_ok
  | endedBody => exact ending.result_ne_ok

/-- A control frame completes the read behind its header, and whatever body it announced stays. -/
theorem StreamReadEnds.of_control {h : RpcHeader} {rest stream : Bytes} {capacity : Nat}
    {message m : StreamMessage} {ending : WireEnd} {result : Option RpcAwaitableResult} {unread : Bytes}
    (hends : StreamReadEnds stream capacity message ending result m unread)
    (hstream : stream = h.serialize ++ rest) (hacc : h.Accepted) (hcap : rpcHeaderSize ≤ capacity)
    (hcontrol : (RpcMessageType.mk h.type).EndsStream) :
    result = some (.ok true) ∧ unread = rest := by
  have hof : RpcHeader.ofBytes stream = h := by rw [hstream, RpcHeader.ofBytes_serialize]
  have hdrop : stream.drop rpcHeaderSize = rest := by
    rw [hstream]
    exact List.drop_left' (RpcHeader.serialize_length h)
  have hsize : rpcHeaderSize ≤ stream.length := by
    rw [hstream, List.length_append, RpcHeader.serialize_length]
    exact Nat.le_add_right _ _
  cases hends with
  | control => exact ⟨rfl, hdrop⟩
  | empty _ _ _ hplain =>
    rw [hof] at hplain
    exact absurd hcontrol hplain
  | body hpending =>
    have hplain := hpending.plain
    rw [hof] at hplain
    exact absurd hcontrol hplain
  | invalid _ _ hbad =>
    rw [hof] at hbad
    exact absurd hacc hbad
  | fullHeader => omega
  | fullBody hpending =>
    have hplain := hpending.plain
    rw [hof] at hplain
    exact absurd hcontrol hplain
  | endedHeader => omega
  | endedBody hpending =>
    have hplain := hpending.plain
    rw [hof] at hplain
    exact absurd hcontrol hplain

/-- **When a completed stream read has consumed its frame.**  For an accepted header and a body of the
    announced length that the ring can hold: a read that completes leaves exactly what follows the body,
    if and only if the frame is no control frame or has no body (or the ring cannot even hold a header,
    and no read completes).  So a message written by `serialize` is read back, with the next frame in
    front, except under the two control types with a payload. -/
theorem stream_read_in_sync_iff {ρ : Type} [RingBuffer ρ] (ring : ρ) (w : Wire)
    (message : StreamMessage) (rest : Bytes) :
    let run := awaitRead StreamMessageReadState.parseFromRingBuffer
      { ringBuffer := ring, own := { message := message } } w
    (∀ (h : RpcHeader) (body : Bytes), h.Accepted → h.bodyLength.toNat = body.length →
      body.length ≤ RingBuffer.capacity ring →
      RingBuffer.content ring ++ w.bytes = h.serialize ++ body ++ rest →
      ((run.result = some (.ok true) → run.unread = rest) ↔
        RingBuffer.capacity ring < 16 ∨ body = [] ∨ ¬ (RpcMessageType.mk h.type).EndsStream)) ∧
    (∀ (m : StreamMessage) (type : RpcMessageType), m.payload.length ≤ rpcMaxBodySize →
      m.payload.length ≤ RingBuffer.capacity ring →
      RingBuffer.content ring ++ w.bytes = m.serialize type ++ rest →
      ((run.result = some (.ok true) ∧ run.own.message.payload = m.payload ∧
          run.own.message.messageType = type ∧ run.own.message.streamId = m.streamId ∧
          run.unread = rest) ↔
        16 ≤ RingBuffer.capacity ring ∧ (m.payload = [] ∨ ¬ type.EndsStream))) := by
  obtain ⟨hends, -, -⟩ := awaitStreamRead_ends ring message w
  intro run
  -- a body that stays in the ring is not what follows it
  have hne : ∀ body : Bytes, body ≠ [] → body ++ rest ≠ rest := by
    intro body hbody heq
    have hlen := congrArg List.length heq
    have hpos := List.length_pos_of_ne_nil hbody
    rw [List.length_append] at hlen
    omega
  refine ⟨?_, ?_⟩
  · intro h body hacc hlen hfits hstream
    constructor
    · intro hsync
      by_contra hcond
      obtain ⟨hcap, hrest⟩ := not_or.mp hcond
      obtain ⟨hbody, hcontrol⟩ := not_or.mp hrest
      rw [List.append_assoc] at hstream
      obtain ⟨hresult, hunread⟩ :=
        hends.of_control hstream hacc (Nat.le_of_not_lt hcap) (not_not.mp hcontrol)
      exact hne body hbody (hunread.symm.trans (hsync hresult))
    · intro hcond hresult
      rcases Nat.lt_or_ge (RingBuffer.capacity ring) 16 with hsmall | hcap
      · exact absurd hresult (hends.not_ok hsmall)
      · refine (hends.of_frame hstream hacc hlen hcap hfits fun hcontrol => ?_).2.1
        rcases hcond with hsmall | rfl | hplain
        · exact absurd hcap (Nat.not_le.mpr hsmall)
        · rfl
        · exact absurd hcontrol hplain
  · intro m type hmax hfits hstream
    rw [StreamMessage.serialize_eq] at hstream
    have hlen : (m.header type).bodyLength.toNat = m.payload.length := by
      have hsize : m.payloadView.size = m.payload.length := PayloadStore.view_size m.store
      show (UInt32.ofNat m.payloadView.size).toNat = _
      rw [hsize]
      exact UInt32.toNat_ofNat_of_lt (Nat.lt_of_le_of_lt hmax (by decide))
    have hacc : (m.header type).Accepted := ⟨rfl, by rw [hlen]; exact hmax⟩
    constructor
    · rintro ⟨hresult, -, -, -, hunread⟩
      have hcap : 16 ≤ RingBuffer.capacity ring := by
        by_contra hsmall
        exact hends.not_ok (Nat.lt_of_not_le hsmall) hresult
      refine ⟨hcap, ?_⟩
      by_contra hcond
      obtain ⟨hpayload, hcontrol⟩ := not_or.mp hcond
      rw [List.append_assoc] at hstream
      obtain ⟨-, hleft⟩ := hends.of_control hstream hacc hcap (not_not.mp hcontrol)
      exact hne m.payload hpayload (hleft.symm.trans hunread)
    · rintro ⟨hcap, hcond⟩
      obtain ⟨hresult, hunread, hmsg⟩ := hends.of_frame hstream hacc hlen hcap hfits fun hcontrol => by
        rcases hcond with hnil | hplain
        · rw [hnil]
          rfl
        · exact absurd hcontrol hplain
      obtain ⟨htype, hid, hpayload, -⟩ := StreamMsg.mk.inj hmsg
      exact ⟨hresult, hpayload, htype, hid, hunread⟩

theorem stream_read_in_sync_data :
    let m : StreamMessage := { streamId := 5, store := .setView ⟨[1, 2], [3]⟩ }
    let run := awaitRead StreamMessageReadState.parseFromRingBuffer
      { ringBuffer := Circular.empty 32 fun _ => (0 : UInt8), own := { message := {} } }
      ⟨m.serialize .streamData ++ [0x47], .closed, fun _ => 7⟩
    run.result = some (.ok true) ∧ run.own.message.payload = [1, 2, 3] ∧ run.unread = [0x47] := by
  intro m run
  obtain ⟨hresult, hpayload, -, -, hunread⟩ :=
    ((stream_read_in_sync_iff (Circular.empty 32 fun _ => (0 : UInt8))
      ⟨m.serialize .streamData ++ [0x47], .closed, fun _ => 7⟩ {} [0x47]).2 m .streamData
      (by decide) (by decide) rfl).mpr ⟨by decide, Or.inr (by decide)⟩
  exact ⟨hresult, hpayload, hunread⟩

/-- `STREAM_END` with a payload of one byte, as `serialize` writes it: the read completes, and the byte
    is left where the next header is expected. -/
theorem stream_end_payload_left :
    ¬ (let m : StreamMessage := { streamId := 5, store := .setBytes [0x47] }
      let run := awaitRead StreamMessageReadState.parseFromRingBuffer
        { ringBuffer := Circular.empty 32 fun _ => (0 : UInt8), own := { message := {} } }
        ⟨m.serialize .streamEnd, .closed, fun _ => 64⟩
      run.result = some (.ok true) → run.unread = []) := by
  decide

end GalayRpc
