/-
  `tryParseRequestMessage` and `tryParseResponseMessage` of `rpc_conn.h`: the zero-copy incremental
  parsers, over the segments a ring buffer shows.

  Both start with the same statements about the header and differ behind them.  The result is a byte
  count (0 for "not yet") or an error, and the message object is only touched on success, so a parse
  returns the pair of both.  `max_message_size` is a `size_t` and the sum it is compared against wraps,
  so it is a `UInt64`.

  The request parser reads both length fields wherever they fall, without asking whether the frame ends
  there; a length read behind the end of the frame only ever makes the range check behind it fail.  That
  is why it accepts exactly what the plain decoder accepts: both refine the abstract reader of
  `Codec.lean`, one up to its own size limit and one up to the protocol's.
-/
import GalayRpc.Codec
import GalayRpc.Iovec

namespace GalayRpc

/-! ## The parsers -/

/-- `copyFromIovecs` of a body field, with the error of the caller. -/
def readField (iovecs : List Bytes) (cursor length : Nat) (invalid : String) : Except RpcError Bytes :=
  match copyFromIovecs iovecs cursor length with
  | (false, _) => .error (.ofText .deserializationError invalid)
  | (true, out) => .ok out

/-- A name of `length` bytes; an empty one is not copied. -/
def readName (iovecs : List Bytes) (cursor length : Nat) (invalid : String) : Except RpcError Bytes :=
  if length > 0 then readField iovecs cursor length invalid else .ok []

/-- `payloadViewFromIovecs` of the rest of the body, with the error of the caller. -/
def readPayloadView (iovecs : List Bytes) (cursor length : Nat) (invalid : String) :
    Except RpcError (RpcPayloadView UInt8) :=
  match payloadViewFromIovecs iovecs cursor length with
  | (false, _) => .error (.ofText .deserializationError invalid)
  | (true, view) => .ok view

/-- The two parsers up to the body, which `parseBody` reads into the message. -/
def tryParseMessage {M : Type} (type : RpcMessageType) (invalid : RpcErrorCode)
    (noHeader notType : String)
    (parseBody : List Bytes → RpcHeader → Nat → M → Except RpcError M)
    (iovecs : List Bytes) (totalReadable : Nat) (maxMessageSize : UInt64) (message : M) :
    Except RpcError Nat × M :=
  if totalReadable < rpcHeaderSize then (.ok 0, message)
  else
    match copyFromIovecs iovecs 0 rpcHeaderSize with
    | (false, _) => (.error (.ofText invalid noHeader), message)
    | (true, headerBuf) =>
      match ({} : RpcHeader).deserialize headerBuf with
      | (false, _) => (.error (.ofText invalid "Invalid message header"), message)
      | (true, header) =>
        if header.type ≠ type.toByte then (.error (.ofText invalid notType), message)
        else
          let msgLen := rpcHeaderSize + header.bodyLength.toNat
          if msgLen > (maxMessageSize + 16).toNat then
            (.error (.ofText invalid "Message too large"), message)
          else if totalReadable < msgLen then (.ok 0, message)
          else
            match parseBody iovecs header msgLen message with
            | .error e => (.error e, message)
            | .ok message => (.ok msgLen, message)

/-- The body of a request. -/
def parseRequestBody (iovecs : List Bytes) (header : RpcHeader) (msgLen : Nat) (request : RpcRequest) :
    Except RpcError RpcRequest := do
  let cursor := rpcHeaderSize
  let serviceLenNet ← readField iovecs cursor 2 "Invalid service length"
  let serviceLen := (rpcNtohs serviceLenNet).toNat
  let cursor := cursor + 2
  if cursor + serviceLen > msgLen then
    .error (.ofText .deserializationError "Service field out of range")
  else
    let serviceName ← readName iovecs cursor serviceLen "Invalid service field"
    let cursor := cursor + serviceLen
    let methodLenNet ← readField iovecs cursor 2 "Invalid method length"
    let methodLen := (rpcNtohs methodLenNet).toNat
    let cursor := cursor + 2
    if cursor + methodLen > msgLen then
      .error (.ofText .deserializationError "Method field out of range")
    else
      let methodName ← readName iovecs cursor methodLen "Invalid method field"
      let cursor := cursor + methodLen
      let payloadView ← readPayloadView iovecs cursor (msgLen - cursor) "Invalid request payload view"
      .ok { request with
        requestId := header.requestId
        callMode := rpcDecodeCallMode header.flags
        endOfStream := rpcIsEndStream header.flags
        serviceName := serviceName
        methodName := methodName
        store := .setView payloadView }

/-- `tryParseRequestMessage`. -/
def tryParseRequestMessage : List Bytes → Nat → UInt64 → RpcRequest → Except RpcError Nat × RpcRequest :=
  tryParseMessage .request .invalidRequest "Failed to read request header" "Not a request message"
    parseRequestBody

/-- The body of a response. -/
def parseResponseBody (iovecs : List Bytes) (header : RpcHeader) (msgLen : Nat)
    (response : RpcResponse) : Except RpcError RpcResponse := do
  if header.bodyLength.toNat < 2 then
    .error (.ofText .deserializationError "Response body too short")
  else
    let cursor := rpcHeaderSize
    let errorCodeNet ← readField iovecs cursor 2 "Invalid response error code"
    let cursor := cursor + 2
    let payloadView ← readPayloadView iovecs cursor (msgLen - cursor) "Invalid response payload view"
    .ok { response with
      requestId := header.requestId
      callMode := rpcDecodeCallMode header.flags
      endOfStream := rpcIsEndStream header.flags
      errorCode := ⟨rpcNtohs errorCodeNet⟩
      store := .setView payloadView }

/-- `tryParseResponseMessage`. -/
def tryParseResponseMessage :
    List Bytes → Nat → UInt64 → RpcResponse → Except RpcError Nat × RpcResponse :=
  tryParseMessage .response .invalidResponse "Failed to read response header" "Not a response message"
    parseResponseBody

/-- The sum in the size check, when it does not wrap. -/
theorem messageLimit_toNat {maxMessageSize : UInt64} (h : maxMessageSize.toNat + 16 < 2 ^ 64) :
    (maxMessageSize + 16).toNat = maxMessageSize.toNat + 16 := by
  rw [UInt64.toNat_add, show (16 : UInt64).toNat = 16 from rfl, Nat.mod_eq_of_lt h]

/-! ## The field readers, over the concatenated segments -/

theorem readField_of_le {iovecs : List Bytes} {cursor length : Nat} (invalid : String)
    (h : cursor + length ≤ iovecs.flatten.length) :
    readField iovecs cursor length invalid = .ok (slice iovecs.flatten cursor length) := by
  rw [readField, copyFromIovecs_of_le h]

theorem readField_of_lt {iovecs : List Bytes} {cursor length : Nat} (invalid : String)
    (h0 : 0 < length) (h : iovecs.flatten.length < cursor + length) :
    readField iovecs cursor length invalid = .error (.ofText .deserializationError invalid) := by
  rw [readField, copyFromIovecs_eq, decide_eq_false (by omega)]

theorem readName_of_le {iovecs : List Bytes} {cursor length : Nat} (invalid : String)
    (h : cursor + length ≤ iovecs.flatten.length) :
    readName iovecs cursor length invalid = .ok (slice iovecs.flatten cursor length) := by
  unfold readName
  split
  · exact readField_of_le invalid h
  · have hzero : length = 0 := by omega
    rw [hzero, slice_zero]

theorem readPayloadView_of_le {iovecs : List Bytes} (h2 : iovecs.length ≤ 2) {cursor length : Nat}
    (invalid : String) (h : cursor + length ≤ iovecs.flatten.length) :
    ∃ view, readPayloadView iovecs cursor length invalid = .ok view ∧
      view.cells = slice iovecs.flatten cursor length := by
  obtain ⟨hok, hcells⟩ := payloadViewFromIovecs_spec h2 cursor length
  rw [decide_eq_true (Or.inr h)] at hok
  refine ⟨(payloadViewFromIovecs iovecs cursor length).2, ?_, hcells⟩
  unfold readPayloadView
  generalize payloadViewFromIovecs iovecs cursor length = p at hok
  obtain ⟨ok, view⟩ := p
  obtain rfl : ok = true := hok
  rfl

/-! ## Both parsers refine the abstract reader -/

/-- A parse says what the abstract reader made of the bytes: a count and the message, "not yet" as
    zero, or an error of the same code; and nothing is stored without success. -/
def ParsedAs {M α : Type} (msg : M → α) (message : M) (out : Except RpcError Nat × M) :
    Except RpcErrorCode (Option (Nat × α)) → Prop
  | .ok (some (n, a)) => ∃ m, out = (.ok n, m) ∧ msg m = a
  | .ok none => out = (.ok 0, message)
  | .error code => ∃ text, out = (.error ⟨code, text⟩, message)

/-- A body parse says what the abstract reader made of the body. -/
def BodyParsedAs {M α : Type} (msg : M → α) (out : Except RpcError M) : Option α → Prop
  | some a => ∃ m, out = .ok m ∧ msg m = a
  | none => ∃ text, out = .error ⟨.deserializationError, text⟩

/-- The header part of the two parsers is that of the abstract reader. -/
theorem tryParseMessage_spec {M α : Type} {type : RpcMessageType} {invalid : RpcErrorCode}
    {noHeader notType : String} {parseBody : List Bytes → RpcHeader → Nat → M → Except RpcError M}
    {readBody : RpcHeader → Bytes → Option α} {msg : M → α} {iovecs : List Bytes}
    (hbody : ∀ header m, rpcHeaderSize + header.bodyLength.toNat ≤ iovecs.flatten.length →
      BodyParsedAs msg (parseBody iovecs header (rpcHeaderSize + header.bodyLength.toNat) m)
        (readBody header (slice iovecs.flatten rpcHeaderSize header.bodyLength.toNat)))
    (maxMessageSize : UInt64) (message : M) :
    ParsedAs msg message
      (tryParseMessage type invalid noHeader notType parseBody iovecs (iovecsReadableBytes iovecs)
        maxMessageSize message)
      (parseFrame type invalid readBody (maxMessageSize + 16).toNat iovecs.flatten) := by
  unfold tryParseMessage
  rw [iovecsReadableBytes_eq]
  by_cases h16 : iovecs.flatten.length < rpcHeaderSize
  · rw [if_pos h16, parseFrame_short h16]
    rfl
  rw [if_neg h16]
  have hof := RpcHeader.ofBytes_take (Nat.le_of_not_lt h16)
  rw [copyFromIovecs_of_le (show 0 + rpcHeaderSize ≤ iovecs.flatten.length by omega), slice_from_zero]
  by_cases ha : (RpcHeader.ofBytes iovecs.flatten).Accepted
  · have ha' := ha
    rw [← hof] at ha'
    simp only [RpcHeader.deserialize_of_accepted {} ha', hof]
    by_cases htype : (RpcHeader.ofBytes iovecs.flatten).type = type.toByte
    · rw [if_neg (not_not.mpr htype)]
      by_cases hlim : rpcHeaderSize + (RpcHeader.ofBytes iovecs.flatten).bodyLength.toNat >
          (maxMessageSize + 16).toNat
      · rw [if_pos hlim, parseFrame_refused h16 (Or.inr (Or.inr hlim))]
        exact ⟨_, rfl⟩
      · rw [if_neg hlim, parseFrame_admitted h16 ha htype (Nat.le_of_not_gt hlim)]
        generalize RpcHeader.ofBytes iovecs.flatten = header
        by_cases hlen : iovecs.flatten.length < rpcHeaderSize + header.bodyLength.toNat
        · rw [if_pos hlen, if_pos hlen]
          rfl
        · rw [if_neg hlen, if_neg hlen]
          have hb := hbody header message (Nat.le_of_not_lt hlen)
          cases hread : readBody header (slice iovecs.flatten rpcHeaderSize header.bodyLength.toNat) with
          | none =>
            rw [hread] at hb
            obtain ⟨text, hout⟩ := hb
            rw [hout]
            exact ⟨text, rfl⟩
          | some a =>
            rw [hread] at hb
            obtain ⟨m, hout, hmsg⟩ := hb
            rw [hout]
            exact ⟨m, rfl, hmsg⟩
    · rw [if_pos htype, parseFrame_refused h16 (Or.inr (Or.inl htype))]
      exact ⟨_, rfl⟩
  · have ha' := ha
    rw [← hof] at ha'
    obtain ⟨header, hdes⟩ := RpcHeader.deserialize_of_refused {} ha'
    rw [parseFrame_refused h16 (Or.inl ha)]
    simp only [hdes]
    exact ⟨_, rfl⟩

/-- The request body parser reads bodies as the abstract reader does. -/
theorem parseRequestBody_spec {iovecs : List Bytes} (h2 : iovecs.length ≤ 2) {header : RpcHeader}
    (request : RpcRequest)
    (h : rpcHeaderSize + header.bodyLength.toNat ≤ iovecs.flatten.length) :
    BodyParsedAs RpcRequest.msg
      (parseRequestBody iovecs header (rpcHeaderSize + header.bodyLength.toNat) request)
      (RequestMsg.read header (slice iovecs.flatten rpcHeaderSize header.bodyLength.toNat)) := by
  rw [RequestMsg.read, splitNames_slice h]
  unfold parseRequestBody
  simp only [rpcHeaderSize] at h ⊢
  generalize header.bodyLength.toNat = L at h ⊢
  obtain ⟨k, hk⟩ : ∃ k, beNat (slice iovecs.flatten 16 2) = k := ⟨_, rfl⟩
  obtain ⟨j, hj⟩ : ∃ j, beNat (slice iovecs.flatten (16 + 2 + k) 2) = j := ⟨_, rfl⟩
  simp only [hk, hj]
  have hservice : 16 + 2 ≤ iovecs.flatten.length →
      readField iovecs 16 2 "Invalid service length" = .ok (slice iovecs.flatten 16 2) ∧
        (rpcNtohs (slice iovecs.flatten 16 2)).toNat = k := fun hle =>
    ⟨readField_of_le _ hle, (rpcNtohs_toNat (slice_length_of_le _ hle)).trans hk⟩
  have hmethod : 16 + 2 + k + 2 ≤ iovecs.flatten.length →
      readField iovecs (16 + 2 + k) 2 "Invalid method length" =
          .ok (slice iovecs.flatten (16 + 2 + k) 2) ∧
        (rpcNtohs (slice iovecs.flatten (16 + 2 + k) 2)).toNat = j := fun hle =>
    ⟨readField_of_le _ hle, (rpcNtohs_toNat (slice_length_of_le _ hle)).trans hj⟩
  by_cases hfit : 4 + k + j ≤ L
  · obtain ⟨hs, hsk⟩ := hservice (by omega)
    obtain ⟨hm, hmj⟩ := hmethod (by omega)
    obtain ⟨view, hview, hcells⟩ := readPayloadView_of_le h2 "Invalid request payload view"
      (show 16 + 2 + k + 2 + j + (16 + L - (16 + 2 + k + 2 + j)) ≤ iovecs.flatten.length by omega)
    rw [if_pos hfit, hs]
    simp only [bind, Except.bind, hsk]
    rw [if_neg (by omega), readName_of_le _ (by omega)]
    simp only [hm, hmj]
    rw [if_neg (by omega), readName_of_le _ (by omega)]
    simp only [hview]
    refine ⟨_, rfl, ?_⟩
    have e1 : 16 + 2 + k + 2 = 16 + 4 + k := by omega
    have e2 : 16 + L - (16 + 4 + k + j) = L - (4 + k + j) := by omega
    rw [e1, e2] at hcells
    simp only [RpcRequest.msg, RpcRequest.payload, PayloadStore.bytes_setView, hcells, e1]
  · -- one of the four tests fails; a length read behind the frame is out of range all the more
    rw [if_neg hfit]
    by_cases hs2 : iovecs.flatten.length < 16 + 2
    · rw [readField_of_lt _ (by omega) hs2]
      exact ⟨_, rfl⟩
    obtain ⟨hs, hsk⟩ := hservice (by omega)
    rw [hs]
    simp only [bind, Except.bind, hsk]
    by_cases hsvc : 16 + 2 + k > 16 + L
    · rw [if_pos hsvc]
      exact ⟨_, rfl⟩
    rw [if_neg hsvc, readName_of_le _ (by omega)]
    by_cases hm2 : iovecs.flatten.length < 16 + 2 + k + 2
    · simp only [readField_of_lt _ (by omega) hm2]
      exact ⟨_, rfl⟩
    obtain ⟨hm, hmj⟩ := hmethod (by omega)
    simp only [hm, hmj]
    rw [if_pos (by omega)]
    exact ⟨_, rfl⟩

/-- The response body parser reads bodies as the abstract reader does. -/
theorem parseResponseBody_spec {iovecs : List Bytes} (h2 : iovecs.length ≤ 2) {header : RpcHeader}
    (response : RpcResponse)
    (h : rpcHeaderSize + header.bodyLength.toNat ≤ iovecs.flatten.length) :
    BodyParsedAs RpcResponse.msg
      (parseResponseBody iovecs header (rpcHeaderSize + header.bodyLength.toNat) response)
      (ResponseMsg.read header (slice iovecs.flatten rpcHeaderSize header.bodyLength.toNat)) := by
  unfold parseResponseBody ResponseMsg.read
  rw [slice_length_of_le _ h]
  by_cases hshort : header.bodyLength.toNat < 2
  · rw [if_pos hshort, if_pos hshort]
    exact ⟨_, rfl⟩
  rw [if_neg hshort, if_neg hshort]
  have hcode : slice (slice iovecs.flatten rpcHeaderSize header.bodyLength.toNat) 0 2 =
      slice iovecs.flatten rpcHeaderSize 2 := by
    rw [slice_slice, Nat.add_zero, Nat.min_eq_left (by omega)]
  have hpay : (slice iovecs.flatten rpcHeaderSize header.bodyLength.toNat).drop 2 =
      slice iovecs.flatten (rpcHeaderSize + 2) (header.bodyLength.toNat - 2) := by
    rw [slice, slice, List.drop_take, List.drop_drop]
  obtain ⟨view, hview, hcells⟩ := readPayloadView_of_le h2 "Invalid response payload view"
    (show rpcHeaderSize + 2 + (rpcHeaderSize + header.bodyLength.toNat - (rpcHeaderSize + 2)) ≤
      iovecs.flatten.length by omega)
  have hcount : rpcHeaderSize + header.bodyLength.toNat - (rpcHeaderSize + 2) =
      header.bodyLength.toNat - 2 := by omega
  rw [hcount] at hview hcells
  simp only [readField_of_le _ (show rpcHeaderSize + 2 ≤ iovecs.flatten.length by omega), hcode, hpay,
    bind, Except.bind, hcount, hview]
  refine ⟨_, rfl, ?_⟩
  simp only [RpcResponse.msg, RpcResponse.payload, PayloadStore.bytes_setView, hcells]

/-- **The request parser refines the abstract reader** on the concatenation of its segments. -/
theorem tryParseRequestMessage_spec {iovecs : List Bytes} (h2 : iovecs.length ≤ 2)
    (maxMessageSize : UInt64) (request : RpcRequest) :
    ParsedAs RpcRequest.msg request
      (tryParseRequestMessage iovecs (iovecsReadableBytes iovecs) maxMessageSize request)
      ((requestParser (maxMessageSize + 16).toNat).parse iovecs.flatten) :=
  tryParseMessage_spec (fun _ m h => parseRequestBody_spec h2 m h) maxMessageSize request

/-- **The response parser refines the abstract reader** on the concatenation of its segments. -/
theorem tryParseResponseMessage_spec {iovecs : List Bytes} (h2 : iovecs.length ≤ 2)
    (maxMessageSize : UInt64) (response : RpcResponse) :
    ParsedAs RpcResponse.msg response
      (tryParseResponseMessage iovecs (iovecsReadableBytes iovecs) maxMessageSize response)
      ((responseParser (maxMessageSize + 16).toNat).parse iovecs.flatten) :=
  tryParseMessage_spec (fun _ m h => parseResponseBody_spec h2 m h) maxMessageSize response

/-! ## The incremental parsers agree with the plain decoders -/

/-- What one parse of the bytes `b` has in common with the plain decoder's verdict on them. -/
structure AgreesWithCodec {M α : Type} (msg : M → α) (type : RpcMessageType) (b : Bytes)
    (parsed : Except RpcError Nat × M) (decoded : Except RpcError M) : Prop where
  accepts : (∃ n m, 0 < n ∧ parsed = (.ok n, m)) ↔ ∃ m, decoded = .ok m
  same : ∀ n m m', 0 < n → parsed = (.ok n, m) → decoded = .ok m' →
    n = messageLength b ∧ n = 16 + beNat (slice b 12 4) ∧ msg m = msg m'
  waits : parsed.1 = .ok 0 ↔ b.length < 16 ∨
    ((({} : RpcHeader).deserialize b).1 = true ∧
      (({} : RpcHeader).deserialize b).2.type = type.toByte ∧
      b.length < 16 + (({} : RpcHeader).deserialize b).2.bodyLength.toNat)
  refuses : ∀ e, parsed.1 = .error e → ∃ e', decoded = .error e' ∧ e'.code = e.code

/-- "Not yet", as the abstract reader says it and as the header says it. -/
theorem parseFrame_waits_iff {α : Type} {type : RpcMessageType} {refused : RpcErrorCode}
    {readBody : RpcHeader → Bytes → Option α} {b : Bytes} :
    parseFrame type refused readBody protocolLimit b = .ok none ↔ b.length < 16 ∨
      ((({} : RpcHeader).deserialize b).1 = true ∧
        (({} : RpcHeader).deserialize b).2.type = type.toByte ∧
        b.length < 16 + (({} : RpcHeader).deserialize b).2.bodyLength.toNat) := by
  rw [parseFrame_eq_none, RpcHeader.deserialize_fst]
  apply or_congr Iff.rfl
  constructor
  · rintro ⟨hacc, htype, -, hlen⟩
    rw [RpcHeader.deserialize_snd hacc.1]
    exact ⟨hacc, htype, hlen⟩
  · rintro ⟨hacc, htype, hlen⟩
    rw [RpcHeader.deserialize_snd hacc.1] at htype hlen
    exact ⟨hacc, htype, hacc.le_protocolLimit, hlen⟩

/-- Two readings of one verdict of the abstract reader agree. -/
theorem agreesWithCodec_of_specs {M α : Type} {msg : M → α} {type : RpcMessageType}
    {invalid : RpcErrorCode} {readBody : RpcHeader → Bytes → Option α} {b : Bytes} {message : M}
    {parsed : Except RpcError Nat × M} {decoded : Except RpcError M}
    (hparsed : ParsedAs msg message parsed (parseFrame type invalid readBody protocolLimit b))
    (hdecoded : DecodedAs msg invalid decoded (parseFrame type invalid readBody protocolLimit b)) :
    AgreesWithCodec msg type b parsed decoded := by
  have hwaits : parseFrame type invalid readBody protocolLimit b = .ok none ↔ _ :=
    parseFrame_waits_iff
  rcases hspec : parseFrame type invalid readBody protocolLimit b with code | _ | ⟨n, a⟩
  all_goals rw [hspec] at hparsed hdecoded hwaits
  · obtain ⟨text, rfl⟩ := hparsed
    obtain ⟨text', rfl⟩ := hdecoded
    refine ⟨⟨?_, ?_⟩, ?_, ⟨?_, ?_⟩, ?_⟩
    · rintro ⟨n, m, -, ⟨⟩⟩
    · rintro ⟨m, ⟨⟩⟩
    · rintro n m m' - ⟨⟩
    · rintro ⟨⟩
    · intro h
      cases hwaits.mpr h
    · rintro e ⟨⟩
      exact ⟨_, rfl, rfl⟩
  · obtain rfl : parsed = (.ok 0, message) := hparsed
    obtain ⟨text, rfl⟩ := hdecoded
    refine ⟨⟨?_, ?_⟩, ?_, ⟨fun _ => hwaits.mp rfl, fun _ => rfl⟩, ?_⟩
    · rintro ⟨n, m, hn, heq⟩
      obtain ⟨⟨⟩, -⟩ := Prod.mk.inj heq
      exact absurd hn (Nat.lt_irrefl 0)
    · rintro ⟨m, ⟨⟩⟩
    · rintro n m m' - - ⟨⟩
    · rintro e ⟨⟩
  · obtain ⟨m, rfl, hm⟩ := hparsed
    obtain ⟨m', rfl, hm'⟩ := hdecoded
    obtain ⟨-, -, hn, -, hlen, -⟩ := parseFrame_eq_some.mp hspec
    have hpos : 0 < n := (parseFrame_consumes hspec).1
    have hlength : n = 16 + beNat (slice b 12 4) := by
      simp only [rpcHeaderSize] at hn
      rw [hn, RpcHeader.ofBytes, rpcNtohl_toNat (slice_length_of_le _ (by omega))]
    refine ⟨⟨fun _ => ⟨m', rfl⟩, fun _ => ⟨n, m, hpos, rfl⟩⟩, ?_, ⟨?_, ?_⟩, ?_⟩
    · rintro n' m₁ m₂ - heq ⟨⟩
      obtain ⟨⟨⟩, rfl⟩ := Prod.mk.inj heq
      exact ⟨(messageLength_of_parse hspec).symm, hlength, hm.trans hm'.symm⟩
    · intro h
      have h0 : n = 0 := Except.ok.inj h
      omega
    · intro h
      cases hwaits.mpr h
    · rintro e ⟨⟩

/-- **The incremental parsers agree with the plain decoders.**  Over any two segments of any bytes and
    under any limit the protocol's own respects, `tryParseRequestMessage` accepts what `decodeRequest`
    accepts, reading the same message and counting its bytes, waits for exactly the incomplete frames
    with an acceptable header, and otherwise fails with the same code; and so for responses. -/
theorem tryParse_agrees_with_codec (b : Bytes) (segments : List Bytes) (h2 : segments.length ≤ 2)
    (hb : segments.flatten = b) (maxMessageSize : UInt64) (hmax : rpcMaxBodySize ≤ maxMessageSize.toNat)
    (hfits : maxMessageSize.toNat + 16 < 2 ^ 64) :
    (∀ request, AgreesWithCodec RpcRequest.msg .request b
      (tryParseRequestMessage segments (iovecsReadableBytes segments) maxMessageSize request)
      (decodeRequest b)) ∧
    (∀ response, AgreesWithCodec RpcResponse.msg .response b
      (tryParseResponseMessage segments (iovecsReadableBytes segments) maxMessageSize response)
      (decodeResponse b)) := by
  subst hb
  have hlim : protocolLimit ≤ (maxMessageSize + 16).toNat := by
    rw [messageLimit_toNat hfits]
    simp only [protocolLimit, rpcHeaderSize]
    omega
  refine ⟨fun request => ?_, fun response => ?_⟩
  · have hparsed := tryParseRequestMessage_spec h2 maxMessageSize request
    rw [show (requestParser _).parse _ = _ from parseFrame_of_protocolLimit_le hlim _] at hparsed
    exact agreesWithCodec_of_specs hparsed (decodeRequest_spec _)
  · have hparsed := tryParseResponseMessage_spec h2 maxMessageSize response
    rw [show (responseParser _).parse _ = _ from parseFrame_of_protocolLimit_le hlim _] at hparsed
    exact agreesWithCodec_of_specs hparsed (decodeResponse_spec _)

theorem tryParse_agrees_with_codec_echo :
    let b := echoRequest.serialize ++ [0x47]
    let segments := [b.take 19, b.drop 19]
    AgreesWithCodec RpcRequest.msg .request b
      (tryParseRequestMessage segments (iovecsReadableBytes segments) 16777216 {}) (decodeRequest b) :=
  (tryParse_agrees_with_codec _ _ (by decide) (by decide) 16777216 (by decide) (by decide)).1 {}

end GalayRpc
