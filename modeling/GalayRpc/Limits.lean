/-
  `rpc_conn.h`: the two limits a message meets, the reader's size limit and the capacity of the ring.

  A read parses what is in the ring, so a frame has to be in it as a whole, header and body; the size
  limit only looks at the body, and knows nothing of the ring.  Where the ring is the smaller of the two,
  it fills up with the front of an admitted frame and the read ends for want of space:

  * `awaitRead_overlong` — the ring never holds the frame, so no parse completes, and the wire cannot end
    before the ring is full;
  * `request_read_iff_fits_ring` — an admitted frame is read exactly if it fits the ring;
  * `size_limit_exact_iff` — the size check adds the header to both sides, and near the end of `size_t`
    the sum wraps to less than a header, so that every frame is refused.
-/
import GalayRpc.Conn

namespace GalayRpc

/-- `kDefaultRpcRingBufferSize`. -/
def kDefaultRpcRingBufferSize : UInt64 := 8 * 1024

/-- `RpcConnImpl::normalizeRingBufferSize`. -/
def normalizeRingBufferSize (ringBufferSize : UInt64) : UInt64 :=
  if ringBufferSize = 0 then kDefaultRpcRingBufferSize else ringBufferSize

section Overlong

variable {ρ : Type} [RingBuffer ρ] {M α : Type} {msg : M → α} {p : FrameParser RpcErrorCode α}
  {parseFromRingBuffer : RpcRingBufferReadState ρ M → Bool × RpcRingBufferReadState ρ M}

/-- **A frame that is longer than the ring** is never read: the ring fills up in front of its end. -/
theorem awaitRead_overlong (h : ReadsFrames msg p parseFromRingBuffer) {s : RpcRingBufferReadState ρ M}
    (herror : s.error = none) {f t : Bytes} {a : α} (hf : p.Frame f a) (w : Wire)
    (hstream : RingBuffer.content s.ringBuffer ++ w.bytes = f ++ t)
    (hlong : RingBuffer.capacity s.ringBuffer < f.length) :
    let run := awaitRead parseFromRingBuffer s w
    run.result = some (.error (.ofText .internalError "No writable ring buffer space")) ∧
      run.own = s.own ∧ run.unread = f ++ t := by
  -- what the ring holds on the way is a proper prefix of the frame
  have hshort : ∀ (s' : RpcRingBufferReadState ρ M) (rest : Bytes),
      Reading (f ++ t) (RingBuffer.capacity s.ringBuffer) s.own s' rest →
      (RingBuffer.content s'.ringBuffer).length < f.length := by
    intro s' rest hI
    have hle := RingBuffer.content_length_le s'.ringBuffer
    rw [hI.capacity] at hle
    omega
  have hnone : ∀ (s' : RpcRingBufferReadState ρ M) (rest : Bytes),
      Reading (f ++ t) (RingBuffer.capacity s.ringBuffer) s.own s' rest →
      p.parse (RingBuffer.content s'.ringBuffer) = .ok none :=
    fun s' rest hI => p.parse_of_lt hf hI.stream (hshort s' rest hI)
  have hrule := runRead_rule parseFromRingBuffer
    (Reading (f ++ t) (RingBuffer.capacity s.ringBuffer) s.own) w.ending
    (fun result s' rest =>
      result = some (.error (.ofText .internalError "No writable ring buffer space")) ∧
        s'.own = s.own ∧ RingBuffer.content s'.ringBuffer ++ rest = f ++ t)
    (by
      intro s₁ s₂ rest hI hparse
      have hs := h s₁
      rw [hparse, hnone s₁ rest hI] at hs
      exact absurd (Prod.mk.inj hs).1 (by decide))
    (by
      intro s₁ s₂ rest hI hparse _ s₃ hring hown
      obtain ⟨rfl, -⟩ := h.of_false hparse
      rw [hring, hown]
      exact ⟨rfl, hI.own, hI.stream⟩)
    (by
      -- at the end of the wire the ring would hold the whole stream
      intro s₁ s₂ hI hparse _ s₃ hring hown _
      have hlt := hshort s₁ [] hI
      have hall := congrArg List.length hI.stream
      rw [List.append_nil, List.length_append] at hall
      omega)
    (by
      intro s₁ s₂ piece rest hI hparse _ hlen
      obtain ⟨rfl, -⟩ := h.of_false hparse
      exact hI.receive hlen _)
    (w.bytes.length + 2) s w (Nat.le_refl _) rfl ⟨herror, hstream, rfl, rfl⟩
  exact hrule.1

end Overlong

/-- A frame the protocol admits is a frame for every reader whose limit it respects. -/
theorem frame_of_protocolLimit {f : Bytes} {a : RequestMsg} (hf : (requestParser protocolLimit).Frame f a)
    {limit : Nat} (hlimit : f.length ≤ limit) : (requestParser limit).Frame f a := by
  obtain ⟨hacc, htype, hn, -, hlen, hbody⟩ := parseFrame_eq_some.mp hf
  exact parseFrame_eq_some.mpr ⟨hacc, htype, hn, hlimit, hlen, hbody⟩

/-- **Which admitted requests are read.**  Whatever the size of the ring and the size limit, a request
    frame within the limit, received from an empty ring in any pieces and with anything behind it, is
    read exactly if the whole frame fits the ring; if it does not, the read ends for want of space, and
    nothing has been consumed. -/
theorem request_read_iff_fits_ring {ρ : Type} [RingBuffer ρ] (ringBufferSize : UInt64)
    (setting : RpcReaderSetting) (hlimit : setting.maxMessageSize.toNat ≤ rpcMaxBodySize) (ring : ρ)
    (hcapacity : RingBuffer.capacity ring = (normalizeRingBufferSize ringBufferSize).toNat)
    (hempty : RingBuffer.content ring = []) (f : Bytes) (a : RequestMsg)
    (hf : (requestParser protocolLimit).Frame f a)
    (hbody : f.length ≤ rpcHeaderSize + setting.maxMessageSize.toNat) (own : RpcRequest) (t : Bytes)
    (ending : WireEnd) (sizes : Nat → Nat) :
    let run := awaitRead (RpcRequestReadState.parseFromRingBuffer setting)
      { ringBuffer := ring, own := own } ⟨f ++ t, ending, sizes⟩
    if f.length ≤ (normalizeRingBufferSize ringBufferSize).toNat then
      run.result = some (.ok true) ∧ run.own.msg = a ∧ run.unread = t
    else
      run.result = some (.error (.ofText .internalError "No writable ring buffer space")) ∧
        run.own = own ∧ run.unread = f ++ t := by
  intro run
  have hsetting : setting.maxMessageSize.toNat + 16 < 2 ^ 64 := by
    have : rpcMaxBodySize + 16 < 2 ^ 64 := by decide
    omega
  have hframe : (requestParser (setting.maxMessageSize + 16).toNat).Frame f a := by
    refine frame_of_protocolLimit hf ?_
    rw [messageLimit_toNat hsetting]
    rw [rpcHeaderSize] at hbody
    omega
  by_cases hfits : f.length ≤ (normalizeRingBufferSize ringBufferSize).toNat
  · rw [if_pos hfits]
    rw [← hcapacity] at hfits
    obtain ⟨hends, -⟩ := awaitRead_ends (request_readsFrames setting)
      (s := { ringBuffer := ring, own := own }) rfl ⟨f ++ t, ending, sizes⟩
    exact hends.of_frame hframe (by rw [hempty, List.nil_append]) hfits
  · rw [if_neg hfits]
    rw [← hcapacity] at hfits
    exact awaitRead_overlong (request_readsFrames setting) (s := { ringBuffer := ring, own := own }) rfl
      hframe ⟨f ++ t, ending, sizes⟩ (by rw [hempty, List.nil_append]) (Nat.lt_of_not_le hfits)

theorem request_read_iff_fits_ring_echo :
    let run := awaitRead (RpcRequestReadState.parseFromRingBuffer {})
      { ringBuffer := Circular.empty 40 fun _ => (0 : UInt8), own := {} }
      ⟨echoRequest.msg.frame ++ [0x47], .silent, fun _ => 3⟩
    if echoRequest.msg.frame.length ≤ (normalizeRingBufferSize 40).toNat then
      run.result = some (.ok true) ∧ run.own.msg = echoRequest.msg ∧ run.unread = [0x47]
    else
      run.result = some (.error (.ofText .internalError "No writable ring buffer space")) ∧
        run.own = {} ∧ run.unread = echoRequest.msg.frame ++ [0x47] :=
  request_read_iff_fits_ring 40 {} (by decide) (Circular.empty 40 fun _ => (0 : UInt8)) rfl rfl
    echoRequest.msg.frame echoRequest.msg (RequestMsg.WellFormed.frame (by decide) (by decide))
    (by decide) {} [0x47] .silent fun _ => 3

/-- The shortest request there is, and a ring with room for a header. -/
theorem admitted_request_refused :
    ¬ ∀ (ringBufferSize : UInt64) (setting : RpcReaderSetting) (ring : Circular UInt8) (f : Bytes)
      (a : RequestMsg) (own : RpcRequest) (sizes : Nat → Nat),
      setting.maxMessageSize.toNat ≤ rpcMaxBodySize →
      RingBuffer.capacity ring = (normalizeRingBufferSize ringBufferSize).toNat →
      RingBuffer.content ring = [] →
      (requestParser protocolLimit).Frame f a →
      f.length ≤ rpcHeaderSize + setting.maxMessageSize.toNat →
      (awaitRead (RpcRequestReadState.parseFromRingBuffer setting) { ringBuffer := ring, own := own }
        ⟨f, .silent, sizes⟩).result = some (.ok true) := by
  intro h
  have hframe : (requestParser protocolLimit).Frame ({} : RpcRequest).msg.frame ({} : RpcRequest).msg :=
    RequestMsg.WellFormed.frame (by decide) (by decide)
  have hread := h 16 {} (Circular.empty 16 fun _ => 0) ({} : RpcRequest).msg.frame _ {} (fun _ => 16)
    (by decide) rfl rfl hframe (by decide)
  have hfull := (awaitRead_overlong (request_readsFrames {})
    (s := { ringBuffer := Circular.empty 16 fun _ => (0 : UInt8), own := {} }) rfl hframe
    ⟨({} : RpcRequest).msg.frame, .silent, fun _ => 16⟩ (t := []) (by decide) (by decide)).1
  rw [hread] at hfull
  cases hfull

/-! ## The size limit, at every setting -/

/-- The error a parser refuses a frame with for its size. -/
def tooLarge (invalid : RpcErrorCode) : RpcError := .ofText invalid "Message too large"

theorem readField_error {iovecs : List Bytes} {cursor length : Nat} {invalid : String} {e : RpcError}
    (h : readField iovecs cursor length invalid = .error e) : e.code = .deserializationError := by
  unfold readField at h
  split at h
  · obtain rfl := Except.error.inj h
    rfl
  · cases h

theorem readName_error {iovecs : List Bytes} {cursor length : Nat} {invalid : String} {e : RpcError}
    (h : readName iovecs cursor length invalid = .error e) : e.code = .deserializationError := by
  unfold readName at h
  split at h
  · exact readField_error h
  · cases h

theorem readPayloadView_error {iovecs : List Bytes} {cursor length : Nat} {invalid : String}
    {e : RpcError} (h : readPayloadView iovecs cursor length invalid = .error e) :
    e.code = .deserializationError := by
  unfold readPayloadView at h
  split at h
  · obtain rfl := Except.error.inj h
    rfl
  · cases h

theorem bind_eq_error {α β : Type} {x : Except RpcError α} {f : α → Except RpcError β} {e : RpcError}
    (h : x >>= f = .error e) : x = .error e ∨ ∃ a, x = .ok a ∧ f a = .error e := by
  cases x with
  | error e' => exact Or.inl (congrArg Except.error (Except.error.inj h))
  | ok a => exact Or.inr ⟨a, rfl, h⟩

/-- A body is refused with a code of its own. -/
theorem parseRequestBody_error {iovecs : List Bytes} {header : RpcHeader} {msgLen : Nat}
    {request : RpcRequest} {e : RpcError}
    (h : parseRequestBody iovecs header msgLen request = .error e) : e.code = .deserializationError := by
  unfold parseRequestBody at h
  rcases bind_eq_error h with h | ⟨serviceLenNet, -, h⟩
  · exact readField_error h
  simp only [] at h
  split at h
  · obtain rfl := Except.error.inj h
    rfl
  rcases bind_eq_error h with h | ⟨serviceName, -, h⟩
  · exact readName_error h
  rcases bind_eq_error h with h | ⟨methodLenNet, -, h⟩
  · exact readField_error h
  split at h
  · obtain rfl := Except.error.inj h
    rfl
  rcases bind_eq_error h with h | ⟨methodName, -, h⟩
  · exact readName_error h
  rcases bind_eq_error h with h | ⟨payloadView, -, h⟩
  · exact readPayloadView_error h
  · cases h

theorem parseResponseBody_error {iovecs : List Bytes} {header : RpcHeader} {msgLen : Nat}
    {response : RpcResponse} {e : RpcError}
    (h : parseResponseBody iovecs header msgLen response = .error e) :
    e.code = .deserializationError := by
  unfold parseResponseBody at h
  split at h
  · obtain rfl := Except.error.inj h
    rfl
  rcases bind_eq_error h with h | ⟨errorCodeNet, -, h⟩
  · exact readField_error h
  rcases bind_eq_error h with h | ⟨payloadView, -, h⟩
  · exact readPayloadView_error h
  · cases h

section SizeLimit

variable {M : Type} {type : RpcMessageType} {invalid : RpcErrorCode} {noHeader notType : String}
  {parseBody : List Bytes → RpcHeader → Nat → M → Except RpcError M} {segments : List Bytes}

/-- A parse behind an accepted header of the right type: the size check, the wait, and the body. -/
theorem tryParseMessage_of_header (h16 : rpcHeaderSize ≤ segments.flatten.length)
    (hacc : (({} : RpcHeader).deserialize segments.flatten).1 = true)
    (htype : (({} : RpcHeader).deserialize segments.flatten).2.type = type.toByte)
    (maxMessageSize : UInt64) (message : M) :
    tryParseMessage type invalid noHeader notType parseBody segments (iovecsReadableBytes segments)
        maxMessageSize message =
      let header := (({} : RpcHeader).deserialize segments.flatten).2
      let msgLen := rpcHeaderSize + header.bodyLength.toNat
      if msgLen > (maxMessageSize + 16).toNat then (.error (tooLarge invalid), message)
      else if segments.flatten.length < msgLen then (.ok 0, message)
      else
        match parseBody segments header msgLen message with
        | .error e => (.error e, message)
        | .ok message => (.ok msgLen, message) := by
  have ha := (RpcHeader.deserialize_fst {} segments.flatten).mp hacc
  rw [RpcHeader.deserialize_snd ha.1] at htype ⊢
  have hof := RpcHeader.ofBytes_take h16
  have ha' := ha
  rw [← hof] at ha'
  unfold tryParseMessage
  rw [iovecsReadableBytes_eq, if_neg (Nat.not_lt.mpr h16),
    copyFromIovecs_of_le (show 0 + rpcHeaderSize ≤ segments.flatten.length by omega), slice_from_zero]
  simp only [RpcHeader.deserialize_of_accepted {} ha', hof]
  rw [if_neg (not_not.mpr htype)]
  rfl

/-- **The size check is the only one that says so.** -/
theorem tryParseMessage_tooLarge_iff (h16 : rpcHeaderSize ≤ segments.flatten.length)
    (hacc : (({} : RpcHeader).deserialize segments.flatten).1 = true)
    (htype : (({} : RpcHeader).deserialize segments.flatten).2.type = type.toByte)
    (hbody : ∀ header msgLen message e, parseBody segments header msgLen message = .error e →
      e.code = .deserializationError) (hinvalid : invalid ≠ .deserializationError)
    (maxMessageSize : UInt64) (message : M) :
    (tryParseMessage type invalid noHeader notType parseBody segments (iovecsReadableBytes segments)
        maxMessageSize message).1 = .error (tooLarge invalid) ↔
      (maxMessageSize + 16).toNat < rpcHeaderSize +
        (({} : RpcHeader).deserialize segments.flatten).2.bodyLength.toNat := by
  rw [tryParseMessage_of_header h16 hacc htype]
  simp only []
  split
  · rename_i hlarge
    exact iff_of_true rfl hlarge
  · rename_i hsmall
    refine iff_of_false ?_ hsmall
    split
    · exact nofun
    · split
      · rename_i e he
        intro heq
        obtain rfl := Except.error.inj heq
        exact hinvalid (hbody _ _ _ _ he)
      · exact nofun

/-- Two limits that both let a frame through make no difference. -/
theorem tryParseMessage_limit_congr (h16 : rpcHeaderSize ≤ segments.flatten.length)
    (hacc : (({} : RpcHeader).deserialize segments.flatten).1 = true)
    (htype : (({} : RpcHeader).deserialize segments.flatten).2.type = type.toByte)
    {limit limit' : UInt64} (hle : rpcHeaderSize +
      (({} : RpcHeader).deserialize segments.flatten).2.bodyLength.toNat ≤ (limit + 16).toNat)
    (hle' : rpcHeaderSize +
      (({} : RpcHeader).deserialize segments.flatten).2.bodyLength.toNat ≤ (limit' + 16).toNat)
    (message : M) :
    tryParseMessage type invalid noHeader notType parseBody segments (iovecsReadableBytes segments)
        limit message =
      tryParseMessage type invalid noHeader notType parseBody segments (iovecsReadableBytes segments)
        limit' message := by
  rw [tryParseMessage_of_header h16 hacc htype, tryParseMessage_of_header h16 hacc htype]
  simp only []
  rw [if_neg (Nat.not_lt.mpr hle), if_neg (Nat.not_lt.mpr hle')]

end SizeLimit

/-- The sum in the size check, when it wraps: less than a header. -/
theorem messageLimit_wraps {maxMessageSize : UInt64} (h : ¬ maxMessageSize.toNat + 16 < 2 ^ 64) :
    (maxMessageSize + 16).toNat < 16 := by
  have hlt := maxMessageSize.toNat_lt
  rw [UInt64.toNat_add, show (16 : UInt64).toNat = 16 from rfl]
  omega

/-- **Where the size check says what it means.** -/
theorem sizeCheck_exact_iff {bodyLength : Nat} (hbody : bodyLength ≤ rpcMaxBodySize)
    (maxMessageSize : UInt64) :
    ((maxMessageSize + 16).toNat < rpcHeaderSize + bodyLength ↔ maxMessageSize.toNat < bodyLength) ↔
      maxMessageSize.toNat + 16 < 2 ^ 64 := by
  have hmax : rpcMaxBodySize + 16 < 2 ^ 64 := by decide
  by_cases hfits : maxMessageSize.toNat + 16 < 2 ^ 64
  · refine iff_of_true ?_ hfits
    rw [messageLimit_toNat hfits, rpcHeaderSize]
    omega
  · refine iff_of_false ?_ hfits
    have hwraps := messageLimit_wraps hfits
    rw [rpcHeaderSize]
    omega

/-- A size limit is exact, for one parser and one frame: the frame is refused as too large exactly if its
    body is longer than the limit. -/
def SizeLimitExact {M : Type} (invalid : RpcErrorCode)
    (tryParse : List Bytes → Nat → UInt64 → M → Except RpcError Nat × M) (segments : List Bytes)
    (maxMessageSize : UInt64) (message : M) : Prop :=
  (tryParse segments (iovecsReadableBytes segments) maxMessageSize message).1 =
      .error (tooLarge invalid) ↔
    maxMessageSize.toNat < (({} : RpcHeader).deserialize segments.flatten).2.bodyLength.toNat

/-- An accepted frame stays accepted under a larger limit, or at least is not refused. -/
def SurvivesRaising {M : Type}
    (tryParse : List Bytes → Nat → UInt64 → M → Except RpcError Nat × M) (segments : List Bytes)
    (larger : UInt64) (message : M) : Prop :=
  ∀ e, (tryParse segments (iovecsReadableBytes segments) larger message).1 ≠ .error e

section SizeLimit

variable {M : Type} {type : RpcMessageType} {invalid : RpcErrorCode} {noHeader notType : String}
  {parseBody : List Bytes → RpcHeader → Nat → M → Except RpcError M} {segments : List Bytes}

/-- **The limit of one parser**: exact, and safe to raise, until the sum wraps around. -/
theorem tryParseMessage_sizeLimit (h16 : rpcHeaderSize ≤ segments.flatten.length)
    (hacc : (({} : RpcHeader).deserialize segments.flatten).1 = true)
    (htype : (({} : RpcHeader).deserialize segments.flatten).2.type = type.toByte)
    (hbody : ∀ header msgLen message e, parseBody segments header msgLen message = .error e →
      e.code = .deserializationError) (hinvalid : invalid ≠ .deserializationError)
    (maxMessageSize : UInt64) (message : M) :
    (SizeLimitExact invalid (tryParseMessage type invalid noHeader notType parseBody) segments
      maxMessageSize message ↔ maxMessageSize.toNat + 16 < 2 ^ 64) ∧
    ∀ (larger : UInt64) (n : Nat), maxMessageSize ≤ larger →
      (tryParseMessage type invalid noHeader notType parseBody segments (iovecsReadableBytes segments)
        maxMessageSize message).1 = .ok n →
      (SurvivesRaising (tryParseMessage type invalid noHeader notType parseBody) segments larger
        message ↔ larger.toNat + 16 < 2 ^ 64) := by
  obtain ⟨L, hL⟩ : ∃ L, (({} : RpcHeader).deserialize segments.flatten).2.bodyLength.toNat = L :=
    ⟨_, rfl⟩
  have hlarge : ∀ limit : UInt64,
      (tryParseMessage type invalid noHeader notType parseBody segments (iovecsReadableBytes segments)
        limit message).1 = .error (tooLarge invalid) ↔ (limit + 16).toNat < rpcHeaderSize + L := by
    intro limit
    rw [← hL]
    exact tryParseMessage_tooLarge_iff h16 hacc htype hbody hinvalid limit message
  have hmax : L ≤ rpcMaxBodySize := by
    have ha := (RpcHeader.deserialize_fst {} segments.flatten).mp hacc
    rw [RpcHeader.deserialize_snd ha.1] at hL
    rw [← hL]
    exact ha.2
  constructor
  · unfold SizeLimitExact
    rw [hlarge, hL]
    exact sizeCheck_exact_iff hmax maxMessageSize
  · intro larger n hle hok
    have hadmits : rpcHeaderSize + L ≤ (maxMessageSize + 16).toNat := by
      by_contra hrefuses
      rw [(hlarge maxMessageSize).mpr (Nat.lt_of_not_le hrefuses)] at hok
      cases hok
    constructor
    · intro hsurvives
      by_contra hfits
      have hwraps := messageLimit_wraps hfits
      refine hsurvives _ ((hlarge larger).mpr ?_)
      rw [rpcHeaderSize]
      omega
    · intro hfits e
      -- neither sum wraps, so the larger limit admits what the smaller one does
      have hle' : maxMessageSize.toNat ≤ larger.toNat := UInt64.le_iff_toNat_le.mp hle
      have hfits' : maxMessageSize.toNat + 16 < 2 ^ 64 := by omega
      have hadmits' : rpcHeaderSize + L ≤ (larger + 16).toNat := by
        rw [messageLimit_toNat hfits'] at hadmits
        rw [messageLimit_toNat hfits]
        omega
      rw [← hL] at hadmits hadmits'
      rw [← tryParseMessage_limit_congr h16 hacc htype hadmits hadmits' message, hok]
      intro h
      cases h

end SizeLimit

/-- **For which settings the size limit is exact.**  For every frame with a whole header that is accepted
    and of the right type, the size check says what it means, and a larger setting does not refuse what
    a smaller one lets through, exactly as long as the sum in the check does not wrap. -/
theorem size_limit_exact_iff (segments : List Bytes)
    (h16 : rpcHeaderSize ≤ segments.flatten.length)
    (haccepted : (({} : RpcHeader).deserialize segments.flatten).1 = true) (maxMessageSize : UInt64) :
    ((({} : RpcHeader).deserialize segments.flatten).2.type = RpcMessageType.request.toByte →
      ∀ request,
        (SizeLimitExact .invalidRequest tryParseRequestMessage segments maxMessageSize request ↔
          maxMessageSize.toNat + 16 < 2 ^ 64) ∧
        ∀ (larger : UInt64) (n : Nat), maxMessageSize ≤ larger →
          (tryParseRequestMessage segments (iovecsReadableBytes segments) maxMessageSize request).1 =
            .ok n →
          (SurvivesRaising tryParseRequestMessage segments larger request ↔
            larger.toNat + 16 < 2 ^ 64)) ∧
    ((({} : RpcHeader).deserialize segments.flatten).2.type = RpcMessageType.response.toByte →
      ∀ response,
        (SizeLimitExact .invalidResponse tryParseResponseMessage segments maxMessageSize response ↔
          maxMessageSize.toNat + 16 < 2 ^ 64) ∧
        ∀ (larger : UInt64) (n : Nat), maxMessageSize ≤ larger →
          (tryParseResponseMessage segments (iovecsReadableBytes segments) maxMessageSize response).1 =
            .ok n →
          (SurvivesRaising tryParseResponseMessage segments larger response ↔
            larger.toNat + 16 < 2 ^ 64)) := by
  constructor
  · intro htype request
    exact tryParseMessage_sizeLimit h16 haccepted htype (fun _ _ _ _ => parseRequestBody_error)
      (by decide) maxMessageSize request
  · intro htype response
    exact tryParseMessage_sizeLimit h16 haccepted htype (fun _ _ _ _ => parseResponseBody_error)
      (by decide) maxMessageSize response

theorem size_limit_exact_iff_echo :
    SizeLimitExact .invalidRequest tryParseRequestMessage [echoRequest.serialize] 16777216 {} ↔
      (16777216 : UInt64).toNat + 16 < 2 ^ 64 :=
  ((size_limit_exact_iff [echoRequest.serialize] (by decide) (by decide) 16777216).1 (by decide) {}).1

/-- A reader without a limit refuses everything. -/
theorem unlimited_reader_refuses :
    ¬ ∀ (segments : List Bytes) (maxMessageSize : UInt64) (request : RpcRequest),
      rpcHeaderSize ≤ segments.flatten.length →
      (({} : RpcHeader).deserialize segments.flatten).1 = true →
      (({} : RpcHeader).deserialize segments.flatten).2.type = RpcMessageType.request.toByte →
      SizeLimitExact .invalidRequest tryParseRequestMessage segments maxMessageSize request := by
  intro h
  have hexact := h [echoRequest.serialize] 18446744073709551615 {} (by decide) (by decide) (by decide)
  have hrefused : (tryParseRequestMessage [echoRequest.serialize]
      (iovecsReadableBytes [echoRequest.serialize]) 18446744073709551615 {}).1 =
        .error (tooLarge .invalidRequest) := by
    decide
  exact absurd (hexact.mp hrefused) (by decide)

end GalayRpc
