/-
  `rpc_stream.h`: stream messages that are read into again.

  A reader sets the id, the type and the payload of its message with every frame, but `m_is_end` only
  when a frame ends its stream, and never clears it.  So a message that has been through the end of one
  stream carries the flag into the next:

  * `StreamReadEnds.of_ok` — what a read that succeeds has made of its message, on any ring;
  * `received_message_fresh_iff` — two reads of one frame agree exactly if the frame ends its stream or
    neither message had the flag.
-/
import GalayRpc.Stream

namespace GalayRpc

/-- **What a read that succeeds has made of its message.** -/
theorem StreamReadEnds.of_ok {h : RpcHeader} {body rest stream : Bytes} {capacity : Nat}
    {message m : StreamMessage} {ending : WireEnd} {unread : Bytes}
    (hends : StreamReadEnds stream capacity message ending (some (.ok true)) m unread)
    (hstream : stream = h.serialize ++ body ++ rest) (hacc : h.Accepted)
    (hlen : h.bodyLength.toNat = body.length)
    (hcontrol : (RpcMessageType.mk h.type).EndsStream → body.length = 0) :
    m.msg = ⟨⟨h.type⟩, h.requestId, body,
      if (RpcMessageType.mk h.type).EndsStream then true else message.isEnd⟩ := by
  have hof : RpcHeader.ofBytes stream = h := by
    rw [hstream, List.append_assoc, RpcHeader.ofBytes_serialize]
  -- a read that succeeds has had room for the frame
  have hroom : rpcHeaderSize ≤ capacity ∧ body.length ≤ capacity := by
    generalize hresult : (some (.ok true) : Option RpcAwaitableResult) = result at hends
    cases hends with
    | control _ hcap _ hc =>
      rw [hof] at hc
      have hzero := hcontrol hc
      exact ⟨hcap, by omega⟩
    | empty _ hcap _ _ hzero =>
      rw [hof, hlen] at hzero
      exact ⟨hcap, by omega⟩
    | body hpending _ hcap =>
      rw [hof, hlen] at hcap
      exact ⟨hpending.capacity, hcap⟩
    | invalid => cases hresult
    | fullHeader => cases hresult
    | fullBody => cases hresult
    | endedHeader => exact absurd hresult.symm ending.result_ne_ok
    | endedBody => exact absurd hresult.symm ending.result_ne_ok
  exact (hends.of_frame hstream hacc hlen hroom.1 hroom.2 hcontrol).2.2

/-- Two messages a frame with this header has been read into are alike, and say whether it has ended its
    stream. -/
structure ReadAlike (h : RpcHeader) (m m' : StreamMessage) : Prop where
  same : m.msg = m'.msg
  isEnd : m.isEnd = true ↔ (RpcMessageType.mk h.type).EndsStream
  isEnd' : m'.isEnd = true ↔ (RpcMessageType.mk h.type).EndsStream

/-- **Which messages can be read into again.**  Two reads that get one and the same frame, each on its own
    ring, in its own pieces and into a message in any state, leave the messages alike if and only if the
    frame ends its stream or neither message had its end flag set. -/
theorem received_message_fresh_iff {ρ : Type} [RingBuffer ρ] (h : RpcHeader) (body : Bytes)
    (hacc : h.Accepted) (hlen : h.bodyLength.toNat = body.length)
    (hcontrol : (RpcMessageType.mk h.type).EndsStream → body = []) (m m' : StreamMessage)
    (ring ring' : ρ) (w w' : Wire) (rest rest' : Bytes)
    (hstream : RingBuffer.content ring ++ w.bytes = h.serialize ++ body ++ rest)
    (hstream' : RingBuffer.content ring' ++ w'.bytes = h.serialize ++ body ++ rest')
    (hread : (awaitRead StreamMessageReadState.parseFromRingBuffer
      { ringBuffer := ring, own := { message := m } } w).result = some (.ok true))
    (hread' : (awaitRead StreamMessageReadState.parseFromRingBuffer
      { ringBuffer := ring', own := { message := m' } } w').result = some (.ok true)) :
    ReadAlike h
        (awaitRead StreamMessageReadState.parseFromRingBuffer
          { ringBuffer := ring, own := { message := m } } w).own.message
        (awaitRead StreamMessageReadState.parseFromRingBuffer
          { ringBuffer := ring', own := { message := m' } } w').own.message ↔
      (RpcMessageType.mk h.type).EndsStream ∨ m.isEnd = false ∧ m'.isEnd = false := by
  have hzero : (RpcMessageType.mk h.type).EndsStream → body.length = 0 := fun hend => by
    rw [hcontrol hend]
    rfl
  have hends := (awaitStreamRead_ends ring m w).1
  have hends' := (awaitStreamRead_ends ring' m' w').1
  rw [hread] at hends
  rw [hread'] at hends'
  have hmsg := hends.of_ok hstream hacc hlen hzero
  have hmsg' := hends'.of_ok hstream' hacc hlen hzero
  have hisEnd := congrArg StreamMsg.isEnd hmsg
  have hisEnd' := congrArg StreamMsg.isEnd hmsg'
  by_cases hend : (RpcMessageType.mk h.type).EndsStream
  · rw [if_pos hend] at hmsg hmsg' hisEnd hisEnd'
    refine iff_of_true ?_ (Or.inl hend)
    exact ⟨hmsg.trans hmsg'.symm, iff_of_true hisEnd hend, iff_of_true hisEnd' hend⟩
  · rw [if_neg hend] at hmsg hmsg' hisEnd hisEnd'
    constructor
    · intro halike
      right
      constructor
      · exact Bool.eq_false_iff.mpr fun hm => hend (halike.isEnd.mp (hisEnd.trans hm))
      · exact Bool.eq_false_iff.mpr fun hm => hend (halike.isEnd'.mp (hisEnd'.trans hm))
    · rintro (hend' | ⟨hm, hm'⟩)
      · exact absurd hend' hend
      rw [hm] at hmsg hisEnd
      rw [hm'] at hmsg' hisEnd'
      refine ⟨hmsg.trans hmsg'.symm, iff_of_false ?_ hend, iff_of_false ?_ hend⟩
      · exact Bool.eq_false_iff.mp hisEnd
      · exact Bool.eq_false_iff.mp hisEnd'

/-- Two new messages, and a data frame in one piece and in pieces of three. -/
theorem received_message_fresh_iff_data :
    ReadAlike { type := 0x12, requestId := 5, bodyLength := 2 }
        (awaitRead StreamMessageReadState.parseFromRingBuffer
          { ringBuffer := Circular.empty 24 fun _ => (0 : UInt8), own := { message := {} } }
          ⟨(StreamFrame.data 5 [1, 2]).bytes, .silent, fun _ => 24⟩).own.message
        (awaitRead StreamMessageReadState.parseFromRingBuffer
          { ringBuffer := Circular.empty 32 fun _ => (0 : UInt8), own := { message := { streamId := 9 } } }
          ⟨(StreamFrame.data 5 [1, 2]).bytes, .closed, fun _ => 3⟩).own.message ↔
      (RpcMessageType.mk 0x12).EndsStream ∨ false = false ∧ false = false :=
  received_message_fresh_iff { type := 0x12, requestId := 5, bodyLength := 2 } [1, 2] (by decide)
    (by decide) (by decide) {} { streamId := 9 } (Circular.empty 24 fun _ => (0 : UInt8))
    (Circular.empty 32 fun _ => (0 : UInt8)) ⟨(StreamFrame.data 5 [1, 2]).bytes, .silent, fun _ => 24⟩
    ⟨(StreamFrame.data 5 [1, 2]).bytes, .closed, fun _ => 3⟩ [] [] (by decide) (by decide) (by decide)
    (by decide)

/-- A new message, and one that has been through the end of a stream. -/
theorem stale_end_flag :
    ¬ ∀ (h : RpcHeader) (body : Bytes) (m m' : StreamMessage) (ring : Circular UInt8) (w : Wire),
      h.Accepted → h.bodyLength.toNat = body.length →
      ((RpcMessageType.mk h.type).EndsStream → body = []) →
      RingBuffer.content ring ++ w.bytes = h.serialize ++ body →
      (awaitRead StreamMessageReadState.parseFromRingBuffer
        { ringBuffer := ring, own := { message := m } } w).result = some (.ok true) →
      (awaitRead StreamMessageReadState.parseFromRingBuffer
        { ringBuffer := ring, own := { message := m' } } w).result = some (.ok true) →
      ReadAlike h
        (awaitRead StreamMessageReadState.parseFromRingBuffer
          { ringBuffer := ring, own := { message := m } } w).own.message
        (awaitRead StreamMessageReadState.parseFromRingBuffer
          { ringBuffer := ring, own := { message := m' } } w).own.message := by
  intro h
  have halike := h { type := 0x12, requestId := 5, bodyLength := 2 } [1, 2] {}
    { streamId := 3, isEnd := true, messageType := .streamEnd, store := .setView {} }
    (Circular.empty 24 fun _ => (0 : UInt8))
    ⟨(StreamFrame.data 5 [1, 2]).bytes, .silent, fun _ => 24⟩ (by decide) (by decide) (by decide)
    (by decide) (by decide) (by decide)
  have hend := halike.isEnd'.mp (by decide)
  exact absurd hend (by decide)

end GalayRpc
