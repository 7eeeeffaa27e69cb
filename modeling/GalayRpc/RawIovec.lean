/-
  The `iovec` parsers of `rpc_conn.h` and the header and stream readers, on raw memory.

  An `iovec` is a pointer and a length.  A pointer made from it is the segment and an index behind the
  segment's pointer (`Iovec × Nat`), and any index makes one; reading inside means at an index below the
  segment's own length, so a read that runs off the end of one segment is outside even where another one
  begins.  A payload view is two pointers with a length each.  Building one reads nothing, but the bytes
  from its pointers on are read later, as many as its lengths say: they count as read when the view is
  stored.

  * `within_copyFromIovecs` and `covers_payloadViewFromIovecs` say where the two slicing functions read and
    what their pointers cover, whatever offset and count they are given;
  * the parsers go through them for every field (`within_tryParseMessage`), so no length in the content
    matters;
  * the two readers fetch the segments themselves, the stream reader once more behind the header.

  `decoders_read_inside` puts the decoders together.
-/
import GalayRpc.RawCodec
import GalayRpc.TwoStepReads

namespace GalayRpc

/-- `iovec`. -/
structure Iovec where
  iovBase : Nat
  iovLen : Nat
deriving DecidableEq, Repr

/-- What a segment holds. -/
def Iovec.bytes (memory : Nat → UInt8) (iov : Iovec) : Bytes := bytesAt memory iov.iovBase iov.iovLen

/-- The byte at an index of a segment. -/
def byteAt (memory : Nat → UInt8) (place : Iovec × Nat) : UInt8 := memory (place.1.iovBase + place.2)

/-- The places inside some segments. -/
def InSegment (iovecs : List Iovec) (place : Iovec × Nat) : Prop :=
  place.1 ∈ iovecs ∧ place.2 < place.1.iovLen

namespace Raw

open Access

/-- `RpcPayloadView`: two pointers, each with a length.  No byte is read through a `nullptr`, since its
    length is 0. -/
structure PayloadView where
  segment1 : Iovec × Nat := (⟨0, 0⟩, 0)
  segment1Len : Nat := 0
  segment2 : Iovec × Nat := (⟨0, 0⟩, 0)
  segment2Len : Nat := 0

/-- `n` bytes from a pointer on. -/
def memcpyFrom (ptr : Iovec × Nat) (n : Nat) : Access (Iovec × Nat) UInt8 Bytes :=
  readAll ((List.range n).map fun i => (ptr.1, ptr.2 + i))

/-! ## The parsers -/

/-- `iovecsReadableBytes`. -/
def iovecsReadableBytes (iovecs : List Iovec) : Nat :=
  iovecs.foldl (fun total iov => total + iov.iovLen) 0

/-- The loop of `copyFromIovecs`. -/
def copyFromIovecsLoop : List Iovec → Nat → Nat → Bytes → Access (Iovec × Nat) UInt8 Bytes
  | [], _, _, out => pure out
  | iov :: iovecs, offset, bytes, out =>
    if out.length ≥ bytes then pure out
    else if offset ≥ iov.iovLen then copyFromIovecsLoop iovecs (offset - iov.iovLen) bytes out
    else do
      let toCopy := min (iov.iovLen - offset) (bytes - out.length)
      let copied ← memcpyFrom (iov, offset) toCopy
      copyFromIovecsLoop iovecs 0 bytes (out ++ copied)

/-- `copyFromIovecs`. -/
def copyFromIovecs (iovecs : List Iovec) (srcOffset bytes : Nat) :
    Access (Iovec × Nat) UInt8 (Bool × Bytes) := do
  let out ← copyFromIovecsLoop iovecs srcOffset bytes []
  pure (out.length = bytes, out)

/-- The loop of `payloadViewFromIovecs`. -/
def payloadViewFromIovecsLoop : List Iovec → Nat → Nat → PayloadView → Bool × PayloadView
  | [], _, remaining, view => (remaining = 0, view)
  | iov :: iovecs, offset, remaining, view =>
    if remaining = 0 then (true, view)
    else if offset ≥ iov.iovLen then payloadViewFromIovecsLoop iovecs (offset - iov.iovLen) remaining view
    else
      let take := min (iov.iovLen - offset) remaining
      if view.segment1Len = 0 then
        payloadViewFromIovecsLoop iovecs 0 (remaining - take)
          { view with segment1 := (iov, offset), segment1Len := take }
      else if view.segment2Len = 0 then
        payloadViewFromIovecsLoop iovecs 0 (remaining - take)
          { view with segment2 := (iov, offset), segment2Len := take }
      else (false, view)

/-- `payloadViewFromIovecs`. -/
def payloadViewFromIovecs (iovecs : List Iovec) (srcOffset bytes : Nat) : Bool × PayloadView :=
  if bytes = 0 then (true, {}) else payloadViewFromIovecsLoop iovecs srcOffset bytes {}

/-- What is read through a view. -/
def readView (view : PayloadView) : Access (Iovec × Nat) UInt8 (RpcPayloadView UInt8) := do
  let segment1 ← memcpyFrom view.segment1 view.segment1Len
  let segment2 ← memcpyFrom view.segment2 view.segment2Len
  pure ⟨segment1, segment2⟩

/-- `copyFromIovecs` of a body field, with the error of the caller. -/
def readField (iovecs : List Iovec) (cursor length : Nat) (invalid : String) :
    ExceptT RpcError (Access (Iovec × Nat) UInt8) Bytes := ExceptT.mk do
  match ← copyFromIovecs iovecs cursor length with
  | (false, _) => pure (.error (.ofText .deserializationError invalid))
  | (true, out) => pure (.ok out)

/-- A name of `length` bytes. -/
def readName (iovecs : List Iovec) (cursor length : Nat) (invalid : String) :
    ExceptT RpcError (Access (Iovec × Nat) UInt8) Bytes :=
  if length > 0 then readField iovecs cursor length invalid else pure []

/-- `payloadViewFromIovecs` of the rest of the body, with the error of the caller. -/
def readPayloadView (iovecs : List Iovec) (cursor length : Nat) (invalid : String) :
    ExceptT RpcError (Access (Iovec × Nat) UInt8) (RpcPayloadView UInt8) :=
  match payloadViewFromIovecs iovecs cursor length with
  | (false, _) => throw (.ofText .deserializationError invalid)
  | (true, view) => ExceptT.mk do
    let view ← readView view
    pure (.ok view)

/-- The two parsers up to the body. -/
def tryParseMessage {M : Type} (type : RpcMessageType) (invalid : RpcErrorCode)
    (noHeader notType : String)
    (parseBody : List Iovec → RpcHeader → Nat → M → ExceptT RpcError (Access (Iovec × Nat) UInt8) M)
    (iovecs : List Iovec) (totalReadable : Nat) (maxMessageSize : UInt64) (message : M) :
    Access (Iovec × Nat) UInt8 (Except RpcError Nat × M) :=
  if totalReadable < rpcHeaderSize then pure (.ok 0, message)
  else do
    match ← copyFromIovecs iovecs 0 rpcHeaderSize with
    | (false, _) => pure (.error (.ofText invalid noHeader), message)
    | (true, headerBuf) =>
      match ({} : RpcHeader).deserialize headerBuf with
      | (false, _) => pure (.error (.ofText invalid "Invalid message header"), message)
      | (true, header) =>
        if header.type ≠ type.toByte then pure (.error (.ofText invalid notType), message)
        else
          let msgLen := rpcHeaderSize + header.bodyLength.toNat
          if msgLen > (maxMessageSize + 16).toNat then
            pure (.error (.ofText invalid "Message too large"), message)
          else if totalReadable < msgLen then pure (.ok 0, message)
          else do
            match ← (parseBody iovecs header msgLen message).run with
            | .error e => pure (.error e, message)
            | .ok message => pure (.ok msgLen, message)

/-- The body of a request. -/
def parseRequestBody (iovecs : List Iovec) (header : RpcHeader) (msgLen : Nat) (request : RpcRequest) :
    ExceptT RpcError (Access (Iovec × Nat) UInt8) RpcRequest := do
  let cursor := rpcHeaderSize
  let serviceLenNet ← readField iovecs cursor 2 "Invalid service length"
  let serviceLen := (rpcNtohs serviceLenNet).toNat
  let cursor := cursor + 2
  if cursor + serviceLen > msgLen then
    throw (.ofText .deserializationError "Service field out of range")
  else
    let serviceName ← readName iovecs cursor serviceLen "Invalid service field"
    let cursor := cursor + serviceLen
    let methodLenNet ← readField iovecs cursor 2 "Invalid method length"
    let methodLen := (rpcNtohs methodLenNet).toNat
    let cursor := cursor + 2
    if cursor + methodLen > msgLen then
      throw (.ofText .deserializationError "Method field out of range")
    else
      let methodName ← readName iovecs cursor methodLen "Invalid method field"
      let cursor := cursor + methodLen
      let payloadView ← readPayloadView iovecs cursor (msgLen - cursor) "Invalid request payload view"
      pure { request with
        requestId := header.requestId
        callMode := rpcDecodeCallMode header.flags
        endOfStream := rpcIsEndStream header.flags
        serviceName := serviceName
        methodName := methodName
        store := .setView payloadView }

/-- `tryParseRequestMessage`. -/
def tryParseRequestMessage :
    List Iovec → Nat → UInt64 → RpcRequest → Access (Iovec × Nat) UInt8 (Except RpcError Nat × RpcRequest) :=
  tryParseMessage .request .invalidRequest "Failed to read request header" "Not a request message"
    parseRequestBody

/-- The body of a response. -/
def parseResponseBody (iovecs : List Iovec) (header : RpcHeader) (msgLen : Nat)
    (response : RpcResponse) : ExceptT RpcError (Access (Iovec × Nat) UInt8) RpcResponse := do
  if header.bodyLength.toNat < 2 then
    throw (.ofText .deserializationError "Response body too short")
  else
    let cursor := rpcHeaderSize
    let errorCodeNet ← readField iovecs cursor 2 "Invalid response error code"
    let cursor := cursor + 2
    let payloadView ← readPayloadView iovecs cursor (msgLen - cursor) "Invalid response payload view"
    pure { response with
      requestId := header.requestId
      callMode := rpcDecodeCallMode header.flags
      endOfStream := rpcIsEndStream header.flags
      errorCode := ⟨rpcNtohs errorCodeNet⟩
      store := .setView payloadView }

/-- `tryParseResponseMessage`. -/
def tryParseResponseMessage :
    List Iovec → Nat → UInt64 → RpcResponse →
      Access (Iovec × Nat) UInt8 (Except RpcError Nat × RpcResponse) :=
  tryParseMessage .response .invalidResponse "Failed to read response header" "Not a response message"
    parseResponseBody

/-! ## The readers

  `getReadIovecs` gives the segments that a ring buffer shows. -/

section Readers

variable {ρ : Type} [RingBuffer ρ] (getReadIovecs : ρ → List Iovec)

/-- `RpcHeaderReadState::parseFromRingBuffer`. -/
def RpcHeaderReadState.parseFromRingBuffer (s : RpcRingBufferReadState ρ RpcHeader) :
    Access (Iovec × Nat) UInt8 (Bool × RpcRingBufferReadState ρ RpcHeader) :=
  let readIovecs := getReadIovecs s.ringBuffer
  if iovecsReadableBytes readIovecs < rpcHeaderSize then pure (false, s)
  else do
    let copied ← copyFromIovecs readIovecs 0 rpcHeaderSize
    match s.own.deserialize copied.2 with
    | (false, header) =>
      pure (true, { s with own := header }.setReadError (.ofText .invalidRequest "Invalid header"))
    | (true, header) =>
      pure (true, { s with own := header, ringBuffer := RingBuffer.consume s.ringBuffer rpcHeaderSize })

/-- The `ReadBody` part of `StreamMessageReadState::parseFromRingBuffer`. -/
def parseStreamBody (s : RpcRingBufferReadState ρ StreamMessageReadMembers) :
    Access (Iovec × Nat) UInt8 (Bool × RpcRingBufferReadState ρ StreamMessageReadMembers) :=
  let readIovecs := getReadIovecs s.ringBuffer
  if iovecsReadableBytes readIovecs < s.own.bodyLength then pure (false, s)
  else
    match payloadViewFromIovecs readIovecs 0 s.own.bodyLength with
    | (false, _) =>
      pure (true, s.setReadError (.ofText .deserializationError "Invalid stream payload view"))
    | (true, view) => do
      let payloadView ← readView view
      pure (true, { s with
        ringBuffer := RingBuffer.consume s.ringBuffer s.own.bodyLength
        own := { s.own with
          message := { s.own.message with store := .setView payloadView }
          state := .readHeader } })

/-- `StreamMessageReadState::parseFromRingBuffer`. -/
def StreamMessageReadState.parseFromRingBuffer (s : RpcRingBufferReadState ρ StreamMessageReadMembers) :
    Access (Iovec × Nat) UInt8 (Bool × RpcRingBufferReadState ρ StreamMessageReadMembers) :=
  let readIovecs := getReadIovecs s.ringBuffer
  match s.own.state with
  | .readBody => parseStreamBody getReadIovecs s
  | .readHeader =>
    if iovecsReadableBytes readIovecs < rpcHeaderSize then pure (false, s)
    else do
      let copied ← copyFromIovecs readIovecs 0 rpcHeaderSize
      match s.own.header.deserialize copied.2 with
      | (false, header) =>
        pure (true, { s with own := { s.own with header := header } }.setReadError
          (.ofText .invalidRequest "Invalid header"))
      | (true, header) =>
        let msgType : RpcMessageType := ⟨header.type⟩
        let message := { s.own.message with streamId := header.requestId, messageType := msgType }
        let s : RpcRingBufferReadState ρ StreamMessageReadMembers := { s with
          ringBuffer := RingBuffer.consume s.ringBuffer rpcHeaderSize
          own := { s.own with
            header := header, bodyLength := header.bodyLength.toNat, message := message } }
        if msgType.EndsStream then
          pure (true, { s with own := { s.own with
            message := { message with isEnd := true, store := .setView {} }, state := .readHeader } })
        else if s.own.bodyLength = 0 then
          pure (true, { s with own := { s.own with
            message := { message with store := .setView {} }, state := .readHeader } })
        else parseStreamBody getReadIovecs { s with own := { s.own with state := .readBody } }

end Readers

/-! ## Segments and what they hold -/

variable {memory : Nat → UInt8}

@[simp] theorem Iovec.bytes_length (iov : Iovec) : (iov.bytes memory).length = iov.iovLen :=
  bytesAt_length memory iov.iovBase iov.iovLen

theorem iovecsReadableBytes_bytes (memory : Nat → UInt8) (iovecs : List Iovec) :
    GalayRpc.iovecsReadableBytes (iovecs.map (Iovec.bytes memory)) = iovecsReadableBytes iovecs := by
  rw [GalayRpc.iovecsReadableBytes, List.foldl_map, iovecsReadableBytes]
  simp only [Iovec.bytes_length]

theorem InSegment.mono {iovecs iovecs' : List Iovec} {place : Iovec × Nat} (h : InSegment iovecs place)
    (hsub : ∀ iov ∈ iovecs, iov ∈ iovecs') : InSegment iovecs' place :=
  ⟨hsub _ h.1, h.2⟩

theorem InSegment.append_left {iovecs : List Iovec} {place : Iovec × Nat} (behind : List Iovec)
    (h : InSegment iovecs place) : InSegment (iovecs ++ behind) place :=
  InSegment.mono h fun _ => List.mem_append_left behind

theorem InSegment.append_right {iovecs : List Iovec} {place : Iovec × Nat} (front : List Iovec)
    (h : InSegment iovecs place) : InSegment (front ++ iovecs) place :=
  InSegment.mono h fun _ => List.mem_append_right front

/-! ## Where the slicing functions read -/

/-- A read through a pointer stays in its segment if it starts in it and asks for no more than is left. -/
theorem within_memcpyFrom {iovecs : List Iovec} {iov : Iovec} (hiov : iov ∈ iovecs) {offset n : Nat}
    (hn : offset + n ≤ iov.iovLen) :
    Within (InSegment iovecs) (byteAt memory) (memcpyFrom (iov, offset) n)
      (slice (iov.bytes memory) offset n) := by
  have hbytes : ((List.range n).map fun i => (iov, offset + i)).map (byteAt memory) =
      slice (iov.bytes memory) offset n := by
    rw [Iovec.bytes, slice_bytesAt hn, List.map_map, bytesAt]
    refine List.map_congr_left fun i _ => ?_
    show memory (iov.iovBase + (offset + i)) = memory (iov.iovBase + offset + i)
    rw [Nat.add_assoc]
  rw [← hbytes]
  apply within_readAll
  intro place hplace
  obtain ⟨i, hi, rfl⟩ := List.mem_map.mp hplace
  have hlt := List.mem_range.mp hi
  constructor
  · show iov ∈ iovecs
    exact hiov
  · show offset + i < iov.iovLen
    omega

/-- Each `memcpy` of the loop stays in its segment. -/
theorem within_copyFromIovecsLoop (iovecs : List Iovec) (offset bytes : Nat) (out : Bytes) :
    Within (InSegment iovecs) (byteAt memory) (copyFromIovecsLoop iovecs offset bytes out)
      (GalayRpc.copyFromIovecsLoop (iovecs.map (Iovec.bytes memory)) offset bytes out) := by
  induction iovecs generalizing offset out with
  | nil => exact within_pure out
  | cons iov iovecs ih =>
    have hrest : ∀ place, InSegment iovecs place → InSegment (iov :: iovecs) place := by
      intro place h
      exact InSegment.mono h fun _ => List.mem_cons_of_mem _
    rw [List.map_cons]
    unfold copyFromIovecsLoop GalayRpc.copyFromIovecsLoop
    rw [Iovec.bytes_length]
    by_cases hdone : out.length ≥ bytes
    · rw [if_pos hdone, if_pos hdone]
      exact within_pure out
    rw [if_neg hdone, if_neg hdone]
    by_cases hskip : offset ≥ iov.iovLen
    · rw [if_pos hskip, if_pos hskip]
      exact (ih _ _).mono hrest
    · rw [if_neg hskip, if_neg hskip]
      have hcopy := @within_memcpyFrom memory (iov :: iovecs) iov List.mem_cons_self offset
        (min (iov.iovLen - offset) (bytes - out.length)) (by omega)
      exact hcopy.bind ((ih _ _).mono hrest)

/-- **`copyFromIovecs` reads inside the segments**, whatever is asked of it. -/
theorem within_copyFromIovecs (iovecs : List Iovec) (srcOffset bytes : Nat) :
    Within (InSegment iovecs) (byteAt memory) (copyFromIovecs iovecs srcOffset bytes)
      (GalayRpc.copyFromIovecs (iovecs.map (Iovec.bytes memory)) srcOffset bytes) :=
  (within_copyFromIovecsLoop iovecs srcOffset bytes []).bind (within_pure _)

/-- All that a view's pointers and lengths cover is inside the segments, and these are the bytes. -/
structure Covers (memory : Nat → UInt8) (iovecs : List Iovec) (view : PayloadView)
    (bytes : RpcPayloadView UInt8) : Prop where
  segment1 : Within (InSegment iovecs) (byteAt memory) (memcpyFrom view.segment1 view.segment1Len)
    bytes.segment1
  segment2 : Within (InSegment iovecs) (byteAt memory) (memcpyFrom view.segment2 view.segment2Len)
    bytes.segment2

/-- A read gets as many bytes as it asks for. -/
theorem length_of_within_memcpyFrom {P : Iovec × Nat → Prop} {ptr : Iovec × Nat} {n : Nat} {bytes : Bytes}
    (h : Within P (byteAt memory) (memcpyFrom ptr n) bytes) : bytes.length = n := by
  rw [← h.result]
  show (((List.range n).map _).map _).length = n
  rw [List.length_map, List.length_map, List.length_range]

theorem covers_empty (iovecs : List Iovec) : Covers memory iovecs {} {} where
  segment1 := within_pure []
  segment2 := within_pure []

/-- **The loop of the view builder**: no length it sets reaches past the end of a segment. -/
theorem covers_payloadViewFromIovecsLoop {iovecs all : List Iovec} (hall : ∀ iov ∈ iovecs, iov ∈ all)
    (offset remaining : Nat) {view : PayloadView} {bytes : RpcPayloadView UInt8}
    (h : Covers memory all view bytes) :
    (payloadViewFromIovecsLoop iovecs offset remaining view).1 =
        (GalayRpc.payloadViewFromIovecsLoop (iovecs.map (Iovec.bytes memory)) offset remaining bytes).1 ∧
      Covers memory all (payloadViewFromIovecsLoop iovecs offset remaining view).2
        (GalayRpc.payloadViewFromIovecsLoop (iovecs.map (Iovec.bytes memory)) offset remaining bytes).2 := by
  induction iovecs generalizing offset remaining view bytes with
  | nil => exact ⟨rfl, h⟩
  | cons iov iovecs ih =>
    have hrest : ∀ iov ∈ iovecs, iov ∈ all := fun _ hmem => hall _ (List.mem_cons_of_mem _ hmem)
    rw [List.map_cons]
    unfold payloadViewFromIovecsLoop GalayRpc.payloadViewFromIovecsLoop
    rw [Iovec.bytes_length, length_of_within_memcpyFrom h.segment1, length_of_within_memcpyFrom h.segment2]
    by_cases hdone : remaining = 0
    · rw [if_pos hdone, if_pos hdone]
      exact ⟨rfl, h⟩
    rw [if_neg hdone, if_neg hdone]
    by_cases hskip : offset ≥ iov.iovLen
    · rw [if_pos hskip, if_pos hskip]
      exact ih hrest _ _ h
    rw [if_neg hskip, if_neg hskip]
    -- the piece that is taken ends in this segment
    have hpiece := @within_memcpyFrom memory all iov (hall iov List.mem_cons_self) offset
      (min (iov.iovLen - offset) remaining) (by omega)
    by_cases h1 : view.segment1Len = 0
    · rw [if_pos h1, if_pos h1]
      exact ih hrest _ _ ⟨hpiece, h.segment2⟩
    rw [if_neg h1, if_neg h1]
    by_cases h2 : view.segment2Len = 0
    · rw [if_pos h2, if_pos h2]
      exact ih hrest _ _ ⟨h.segment1, hpiece⟩
    · rw [if_neg h2, if_neg h2]
      exact ⟨rfl, h⟩

/-- **`payloadViewFromIovecs` covers bytes inside the segments**, whatever is asked of it. -/
theorem covers_payloadViewFromIovecs (iovecs : List Iovec) (srcOffset bytes : Nat) :
    (payloadViewFromIovecs iovecs srcOffset bytes).1 =
        (GalayRpc.payloadViewFromIovecs (iovecs.map (Iovec.bytes memory)) srcOffset bytes).1 ∧
      Covers memory iovecs (payloadViewFromIovecs iovecs srcOffset bytes).2
        (GalayRpc.payloadViewFromIovecs (iovecs.map (Iovec.bytes memory)) srcOffset bytes).2 := by
  unfold payloadViewFromIovecs GalayRpc.payloadViewFromIovecs
  split
  · exact ⟨rfl, covers_empty iovecs⟩
  · exact covers_payloadViewFromIovecsLoop (fun _ hmem => hmem) srcOffset bytes (covers_empty iovecs)

theorem within_readView {iovecs : List Iovec} {view : PayloadView} {bytes : RpcPayloadView UInt8}
    (h : Covers memory iovecs view bytes) :
    Within (InSegment iovecs) (byteAt memory) (readView view) bytes :=
  h.segment1.bind (h.segment2.bind (within_pure _))

-- nothing but its lengths keeps a view inside: this one goes on behind its segment
example : ((readView { segment1 := (⟨8, 2⟩, 1), segment1Len := 2 }).run fun _ => 0).2 =
    [(⟨8, 2⟩, 1), (⟨8, 2⟩, 2)] := rfl

/-! ## Where the parsers read -/

theorem within_readField (iovecs : List Iovec) (cursor length : Nat) (invalid : String) :
    Within (InSegment iovecs) (byteAt memory) (readField iovecs cursor length invalid).run
      (GalayRpc.readField (iovecs.map (Iovec.bytes memory)) cursor length invalid) := by
  refine Within.bind (within_copyFromIovecs iovecs cursor length) ?_
  unfold GalayRpc.readField
  generalize GalayRpc.copyFromIovecs (iovecs.map (Iovec.bytes memory)) cursor length = copied
  obtain ⟨_ | _, out⟩ := copied
  · exact within_pure _
  · exact within_pure _

theorem within_readName (iovecs : List Iovec) (cursor length : Nat) (invalid : String) :
    Within (InSegment iovecs) (byteAt memory) (readName iovecs cursor length invalid).run
      (GalayRpc.readName (iovecs.map (Iovec.bytes memory)) cursor length invalid) := by
  unfold readName GalayRpc.readName
  split
  · exact within_readField iovecs cursor length invalid
  · exact within_exceptPure []

theorem within_readPayloadView (iovecs : List Iovec) (cursor length : Nat) (invalid : String) :
    Within (InSegment iovecs) (byteAt memory) (readPayloadView iovecs cursor length invalid).run
      (GalayRpc.readPayloadView (iovecs.map (Iovec.bytes memory)) cursor length invalid) := by
  obtain ⟨hfound, hcovers⟩ := @covers_payloadViewFromIovecs memory iovecs cursor length
  unfold readPayloadView GalayRpc.readPayloadView
  generalize payloadViewFromIovecs iovecs cursor length = found at hfound hcovers ⊢
  generalize GalayRpc.payloadViewFromIovecs (iovecs.map (Iovec.bytes memory)) cursor length = listed
    at hfound hcovers ⊢
  obtain ⟨ok, view⟩ := found
  obtain ⟨ok', bytes⟩ := listed
  obtain rfl : ok = ok' := hfound
  cases ok with
  | false => exact within_throw _
  | true => exact (within_readView hcovers).bind (within_pure _)

/-- **The body of a request.**  Its fields are looked for wherever their lengths point. -/
theorem within_parseRequestBody (iovecs : List Iovec) (header : RpcHeader) (msgLen : Nat)
    (request : RpcRequest) :
    Within (InSegment iovecs) (byteAt memory) (parseRequestBody iovecs header msgLen request).run
      (GalayRpc.parseRequestBody (iovecs.map (Iovec.bytes memory)) header msgLen request) := by
  apply Within.exceptBind (within_readField _ _ _ _)
  intro serviceLenNet
  dsimp only
  split
  · exact within_throw _
  apply Within.exceptBind (within_readName _ _ _ _)
  intro serviceName
  apply Within.exceptBind (within_readField _ _ _ _)
  intro methodLenNet
  split
  · exact within_throw _
  apply Within.exceptBind (within_readName _ _ _ _)
  intro methodName
  apply Within.exceptBind (within_readPayloadView _ _ _ _)
  intro payloadView
  exact within_exceptPure _

/-- **The body of a response.** -/
theorem within_parseResponseBody (iovecs : List Iovec) (header : RpcHeader) (msgLen : Nat)
    (response : RpcResponse) :
    Within (InSegment iovecs) (byteAt memory) (parseResponseBody iovecs header msgLen response).run
      (GalayRpc.parseResponseBody (iovecs.map (Iovec.bytes memory)) header msgLen response) := by
  unfold parseResponseBody GalayRpc.parseResponseBody
  split
  · exact within_throw _
  apply Within.exceptBind (within_readField _ _ _ _)
  intro errorCodeNet
  apply Within.exceptBind (within_readPayloadView _ _ _ _)
  intro payloadView
  exact within_exceptPure _

/-- **Both parsers**, whatever they are told about the number of readable bytes. -/
theorem within_tryParseMessage {M : Type} (type : RpcMessageType) (invalid : RpcErrorCode)
    (noHeader notType : String)
    {rawBody : List Iovec → RpcHeader → Nat → M → ExceptT RpcError (Access (Iovec × Nat) UInt8) M}
    {listBody : List Bytes → RpcHeader → Nat → M → Except RpcError M}
    (hbody : ∀ iovecs header msgLen message,
      Within (InSegment iovecs) (byteAt memory) (rawBody iovecs header msgLen message).run
        (listBody (iovecs.map (Iovec.bytes memory)) header msgLen message))
    (iovecs : List Iovec) (totalReadable : Nat) (maxMessageSize : UInt64) (message : M) :
    Within (InSegment iovecs) (byteAt memory)
      (tryParseMessage type invalid noHeader notType rawBody iovecs totalReadable maxMessageSize message)
      (GalayRpc.tryParseMessage type invalid noHeader notType listBody (iovecs.map (Iovec.bytes memory))
        totalReadable maxMessageSize message) := by
  unfold tryParseMessage GalayRpc.tryParseMessage
  split
  · exact within_pure _
  refine (within_copyFromIovecs iovecs 0 rpcHeaderSize).bind ?_
  generalize GalayRpc.copyFromIovecs (iovecs.map (Iovec.bytes memory)) 0 rpcHeaderSize = copied
  obtain ⟨_ | _, headerBuf⟩ := copied
  · exact within_pure _
  dsimp only
  generalize ({} : RpcHeader).deserialize headerBuf = read
  obtain ⟨_ | _, header⟩ := read
  · exact within_pure _
  dsimp only
  split
  · exact within_pure _
  split
  · exact within_pure _
  split
  · exact within_pure _
  refine (hbody iovecs header _ message).bind ?_
  generalize listBody (iovecs.map (Iovec.bytes memory)) header _ message = parsed
  cases parsed with
  | error e => exact within_pure _
  | ok message => exact within_pure _

/-- **`tryParseRequestMessage`** -/
theorem within_tryParseRequestMessage (iovecs : List Iovec) (totalReadable : Nat)
    (maxMessageSize : UInt64) (request : RpcRequest) :
    Within (InSegment iovecs) (byteAt memory)
      (tryParseRequestMessage iovecs totalReadable maxMessageSize request)
      (GalayRpc.tryParseRequestMessage (iovecs.map (Iovec.bytes memory)) totalReadable maxMessageSize
        request) :=
  within_tryParseMessage _ _ _ _ within_parseRequestBody iovecs totalReadable maxMessageSize request

/-- **`tryParseResponseMessage`** -/
theorem within_tryParseResponseMessage (iovecs : List Iovec) (totalReadable : Nat)
    (maxMessageSize : UInt64) (response : RpcResponse) :
    Within (InSegment iovecs) (byteAt memory)
      (tryParseResponseMessage iovecs totalReadable maxMessageSize response)
      (GalayRpc.tryParseResponseMessage (iovecs.map (Iovec.bytes memory)) totalReadable maxMessageSize
        response) :=
  within_tryParseMessage _ _ _ _ within_parseResponseBody iovecs totalReadable maxMessageSize response

/-! ## Where the readers read

  The segments may be any.  Where they hold what the ring buffer has, the readers are those of the list
  model. -/

section Readers

variable {ρ : Type} [RingBuffer ρ] (getReadIovecs : ρ → List Iovec)

/-- The segments hold the bytes that the ring buffer has. -/
def Shows (memory : Nat → UInt8) (ring : ρ) : Prop :=
  (getReadIovecs ring).map (Iovec.bytes memory) = RingBuffer.getReadIovecs ring

/-- **The header reader reads inside the segments.** -/
theorem inside_headerReader (memory : Nat → UInt8) (s : RpcRingBufferReadState ρ RpcHeader) :
    Inside (InSegment (getReadIovecs s.ringBuffer)) (byteAt memory)
      (RpcHeaderReadState.parseFromRingBuffer getReadIovecs s) := by
  unfold RpcHeaderReadState.parseFromRingBuffer
  dsimp only
  split
  · exact inside_pure _
  · refine (within_copyFromIovecs _ 0 rpcHeaderSize).bind_inside ?_
    split
    · exact inside_pure _
    · exact inside_pure _

theorem within_headerReader {s : RpcRingBufferReadState ρ RpcHeader}
    (hshows : Shows getReadIovecs memory s.ringBuffer) :
    Within (InSegment (getReadIovecs s.ringBuffer)) (byteAt memory)
      (RpcHeaderReadState.parseFromRingBuffer getReadIovecs s)
      (GalayRpc.RpcHeaderReadState.parseFromRingBuffer s) := by
  unfold RpcHeaderReadState.parseFromRingBuffer GalayRpc.RpcHeaderReadState.parseFromRingBuffer
  rw [← hshows]
  dsimp only
  rw [iovecsReadableBytes_bytes]
  split
  · exact within_pure _
  · refine (within_copyFromIovecs _ 0 rpcHeaderSize).bind ?_
    generalize GalayRpc.copyFromIovecs _ 0 rpcHeaderSize = copied
    generalize s.own.deserialize copied.2 = read
    obtain ⟨_ | _, header⟩ := read
    · exact within_pure _
    · exact within_pure _

theorem inside_streamBody (memory : Nat → UInt8)
    (s : RpcRingBufferReadState ρ StreamMessageReadMembers) :
    Inside (InSegment (getReadIovecs s.ringBuffer)) (byteAt memory) (parseStreamBody getReadIovecs s) := by
  obtain ⟨-, hcovers⟩ :=
    @covers_payloadViewFromIovecs memory (getReadIovecs s.ringBuffer) 0 s.own.bodyLength
  unfold parseStreamBody
  dsimp only
  split
  · exact inside_pure _
  · generalize payloadViewFromIovecs (getReadIovecs s.ringBuffer) 0 s.own.bodyLength = found at hcovers ⊢
    obtain ⟨ok, view⟩ := found
    cases ok with
    | false => exact inside_pure _
    | true => exact (within_readView hcovers).bind_inside (inside_pure _)

theorem within_streamBody {s : RpcRingBufferReadState ρ StreamMessageReadMembers}
    (hshows : Shows getReadIovecs memory s.ringBuffer) :
    Within (InSegment (getReadIovecs s.ringBuffer)) (byteAt memory) (parseStreamBody getReadIovecs s)
      (GalayRpc.parseStreamBody s) := by
  obtain ⟨hfound, hcovers⟩ :=
    @covers_payloadViewFromIovecs memory (getReadIovecs s.ringBuffer) 0 s.own.bodyLength
  unfold parseStreamBody GalayRpc.parseStreamBody
  rw [← hshows]
  dsimp only
  rw [iovecsReadableBytes_bytes]
  split
  · exact within_pure _
  · generalize payloadViewFromIovecs (getReadIovecs s.ringBuffer) 0 s.own.bodyLength = found
      at hfound hcovers ⊢
    generalize GalayRpc.payloadViewFromIovecs ((getReadIovecs s.ringBuffer).map (Iovec.bytes memory)) 0
      s.own.bodyLength = listed at hfound hcovers ⊢
    obtain ⟨ok, view⟩ := found
    obtain ⟨ok', bytes⟩ := listed
    obtain rfl : ok = ok' := hfound
    cases ok with
    | false => exact within_pure _
    | true => exact (within_readView hcovers).bind (within_pure _)

/-- The segments of one parse of the stream reader: those it finds, and those it fetches behind the
    header. -/
def streamIovecs (s : RpcRingBufferReadState ρ StreamMessageReadMembers) : List Iovec :=
  match s.own.state with
  | .readBody => getReadIovecs s.ringBuffer
  | .readHeader =>
    getReadIovecs s.ringBuffer ++ getReadIovecs (RingBuffer.consume s.ringBuffer rpcHeaderSize)

/-- **The stream reader reads inside the segments.** -/
theorem inside_streamReader (memory : Nat → UInt8)
    (s : RpcRingBufferReadState ρ StreamMessageReadMembers) :
    Inside (InSegment (streamIovecs getReadIovecs s)) (byteAt memory)
      (StreamMessageReadState.parseFromRingBuffer getReadIovecs s) := by
  unfold StreamMessageReadState.parseFromRingBuffer streamIovecs
  cases s.own.state with
  | readBody => exact inside_streamBody getReadIovecs memory s
  | readHeader =>
    dsimp only
    split
    · exact inside_pure _
    · apply Within.bind_inside ((within_copyFromIovecs _ 0 rpcHeaderSize).mono fun _ => InSegment.append_left _)
      split
      · exact inside_pure _
      · split
        · exact inside_pure _
        · split
          · exact inside_pure _
          · exact (inside_streamBody getReadIovecs memory _).mono fun _ => InSegment.append_right _

theorem within_streamReader {s : RpcRingBufferReadState ρ StreamMessageReadMembers}
    (hshows : Shows getReadIovecs memory s.ringBuffer)
    (hbehind : Shows getReadIovecs memory (RingBuffer.consume s.ringBuffer rpcHeaderSize)) :
    Within (InSegment (streamIovecs getReadIovecs s)) (byteAt memory)
      (StreamMessageReadState.parseFromRingBuffer getReadIovecs s)
      (GalayRpc.StreamMessageReadState.parseFromRingBuffer s) := by
  unfold StreamMessageReadState.parseFromRingBuffer GalayRpc.StreamMessageReadState.parseFromRingBuffer
    streamIovecs
  cases s.own.state with
  | readBody => exact within_streamBody getReadIovecs hshows
  | readHeader =>
    rw [← hshows]
    dsimp only
    rw [iovecsReadableBytes_bytes]
    split
    · exact within_pure _
    · apply Within.bind ((within_copyFromIovecs _ 0 rpcHeaderSize).mono fun _ => InSegment.append_left _)
      generalize GalayRpc.copyFromIovecs _ 0 rpcHeaderSize = copied
      generalize s.own.header.deserialize copied.2 = read
      obtain ⟨_ | _, header⟩ := read
      · exact within_pure _
      · dsimp only
        split
        · exact within_pure _
        · split
          · exact within_pure _
          · exact (within_streamBody getReadIovecs hbehind).mono fun _ => InSegment.append_right _

end Readers

end Raw

open Access

/-- **Decoders never read outside their input.**  Whatever the memory holds: the decoders of a buffer and
    every `deserializeBody` read only addresses inside it, the parsers and the readers of segments only
    indices inside a segment.  What they return is what they make of the bytes that are inside. -/
theorem decoders_read_inside (memory : Nat → UInt8) :
    (∀ data length,
      Within (InBuffer data length) memory (Raw.decodeRequest data length)
          (decodeRequest (bytesAt memory data length)) ∧
        Within (InBuffer data length) memory (Raw.decodeResponse data length)
          (decodeResponse (bytesAt memory data length)) ∧
        Within (InBuffer data length) memory (Raw.messageLength data length)
          (messageLength (bytesAt memory data length))) ∧
    (∀ body length,
      (∀ request : RpcRequest,
        Within (InBuffer body length) memory (Raw.RpcRequest.deserializeBody request body length)
          (request.deserializeBody (bytesAt memory body length) length)) ∧
      (∀ response : RpcResponse,
        Within (InBuffer body length) memory (Raw.RpcResponse.deserializeBody response body length)
          (response.deserializeBody (bytesAt memory body length) length)) ∧
      ∀ init : StreamInitRequest,
        Within (InBuffer body length) memory (Raw.StreamInitRequest.deserializeBody init body length)
          (init.deserializeBody (bytesAt memory body length) length)) ∧
    (∀ (iovecs : List Iovec) (totalReadable : Nat) (maxMessageSize : UInt64),
      (∀ request : RpcRequest,
        Within (InSegment iovecs) (byteAt memory)
          (Raw.tryParseRequestMessage iovecs totalReadable maxMessageSize request)
          (tryParseRequestMessage (iovecs.map (Iovec.bytes memory)) totalReadable maxMessageSize request)) ∧
      ∀ response : RpcResponse,
        Within (InSegment iovecs) (byteAt memory)
          (Raw.tryParseResponseMessage iovecs totalReadable maxMessageSize response)
          (tryParseResponseMessage (iovecs.map (Iovec.bytes memory)) totalReadable maxMessageSize
            response)) ∧
    ∀ (ρ : Type) [RingBuffer ρ] (getReadIovecs : ρ → List Iovec),
      (∀ s : RpcRingBufferReadState ρ RpcHeader,
        Inside (InSegment (getReadIovecs s.ringBuffer)) (byteAt memory)
          (Raw.RpcHeaderReadState.parseFromRingBuffer getReadIovecs s)) ∧
      ∀ s : RpcRingBufferReadState ρ StreamMessageReadMembers,
        Inside (InSegment (Raw.streamIovecs getReadIovecs s)) (byteAt memory)
          (Raw.StreamMessageReadState.parseFromRingBuffer getReadIovecs s) := by
  refine ⟨?_, ?_, ?_, ?_⟩
  · intro data length
    exact ⟨Raw.within_decodeRequest data length, Raw.within_decodeResponse data length,
      Raw.within_messageLength data length⟩
  · intro body length
    exact ⟨fun request => Raw.within_requestDeserializeBody request body (Nat.le_refl length),
      fun response => Raw.within_responseDeserializeBody response body (Nat.le_refl length),
      fun init => Raw.within_streamInitDeserializeBody init body (Nat.le_refl length)⟩
  · intro iovecs totalReadable maxMessageSize
    exact ⟨fun request => Raw.within_tryParseRequestMessage iovecs totalReadable maxMessageSize request,
      fun response => Raw.within_tryParseResponseMessage iovecs totalReadable maxMessageSize response⟩
  · intro ρ _ getReadIovecs
    exact ⟨Raw.inside_headerReader getReadIovecs memory, Raw.inside_streamReader getReadIovecs memory⟩

end GalayRpc
