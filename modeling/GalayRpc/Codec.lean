/-
  `protoc/rpc_codec.h`: the plain decoders, and the wire formats they decide.

  1. **Program** — `decodeRequest`, `decodeResponse` and `messageLength` on a buffer that holds
     whatever has been received.

  2. **Abstract reader** — `parseFrame`: the protocol's reading of a byte stream, as an incremental
     parser in the sense of `Lib/Framing.lean`.  Sixteen header bytes decide whether the frame is
     refused; then the body has to arrive; then the body parses or not.  The first test takes a limit
     on the whole frame, so that readers with a configured size limit refine it too.  Requests and
     responses are its two instances.

  3. **Refinement** — the plain decoders answer as the abstract reader does, "not yet" being one more
     error for them.

  4. **Exactness** — the formats are read off the abstract reader in both directions: accepted byte
     strings are the header and body layouts spelled out byte by byte, and a message that the format
     can express survives the round trip in front of any other bytes.
-/
import GalayRpc.Message
import GalayRpc.Lib.Framing

namespace GalayRpc

/-! ## The decoders -/

/-- `DecodeResult`. -/
inductive DecodeResult where
  | complete
  | incomplete
  | error
deriving DecidableEq, Repr

/-- `RpcCodec::decodeHeader`. -/
def decodeHeader (data : Bytes) (header : RpcHeader) : DecodeResult × RpcHeader :=
  if data.length < rpcHeaderSize then (.incomplete, header)
  else if (header.deserialize data).1 then (.complete, (header.deserialize data).2)
  else (.error, (header.deserialize data).2)

/-- `decodeRequest` and `decodeResponse`, which are the same statements about two message classes: the
    wanted type, the error code of everything up to the body, the two texts that name the class, the
    setters run on the fresh object and its `deserializeBody`. -/
def decodeMessage {M : Type} (type : RpcMessageType) (invalid : RpcErrorCode)
    (notType badBody : String) (fromHeader : RpcHeader → M)
    (deserializeBody : M → Bytes → Nat → Bool × M) (data : Bytes) : Except RpcError M :=
  match decodeHeader data {} with
  | (.incomplete, _) => .error (.ofText invalid "Incomplete data")
  | (.error, _) => .error (.ofText invalid "Invalid header")
  | (.complete, header) =>
    if header.type ≠ type.toByte then .error (.ofText invalid notType)
    else if data.length < rpcHeaderSize + header.bodyLength.toNat then
      .error (.ofText invalid "Incomplete body")
    else
      match deserializeBody (fromHeader header) (data.drop rpcHeaderSize) header.bodyLength.toNat with
      | (false, _) => .error (.ofText .deserializationError badBody)
      | (true, message) => .ok message

/-- `RpcCodec::decodeRequest`. -/
def decodeRequest : Bytes → Except RpcError RpcRequest :=
  decodeMessage .request .invalidRequest "Not a request message" "Failed to parse request body"
    (fun header =>
      { requestId := header.requestId
        callMode := rpcDecodeCallMode header.flags
        endOfStream := rpcIsEndStream header.flags })
    RpcRequest.deserializeBody

/-- `RpcCodec::decodeResponse`. -/
def decodeResponse : Bytes → Except RpcError RpcResponse :=
  decodeMessage .response .invalidResponse "Not a response message" "Failed to parse response body"
    (fun header =>
      { requestId := header.requestId
        callMode := rpcDecodeCallMode header.flags
        endOfStream := rpcIsEndStream header.flags })
    RpcResponse.deserializeBody

/-- `RpcCodec::messageLength`. -/
def messageLength (data : Bytes) : Nat :=
  if data.length < rpcHeaderSize then 0
  else
    let (accepted, header) := ({} : RpcHeader).deserialize data
    if accepted then rpcHeaderSize + header.bodyLength.toNat else 0

theorem decodeHeader_eq {data : Bytes} (h : rpcHeaderSize ≤ data.length) :
    if (RpcHeader.ofBytes data).Accepted then decodeHeader data {} = (.complete, .ofBytes data)
    else (decodeHeader data {}).1 = .error := by
  have hacc := RpcHeader.deserialize_fst {} data
  unfold decodeHeader
  rw [if_neg (show ¬ data.length < rpcHeaderSize by omega)]
  by_cases ha : (RpcHeader.ofBytes data).Accepted
  · rw [if_pos ha, if_pos (hacc.mpr ha), RpcHeader.deserialize_snd ha.1]
  · rw [if_neg ha, if_neg (fun h => ha (hacc.mp h))]

/-! ## The abstract reader -/

/-- What the protocol reads off the front of a byte stream: a frame of message type `type` whose whole
    length is at most `limit` and whose body `readBody` understands.  `refused` is the error for a
    frame turned away by its header. -/
def parseFrame {α : Type} (type : RpcMessageType) (refused : RpcErrorCode)
    (readBody : RpcHeader → Bytes → Option α) (limit : Nat) (b : Bytes) :
    Except RpcErrorCode (Option (Nat × α)) :=
  if b.length < rpcHeaderSize then .ok none
  else
    let h := RpcHeader.ofBytes b
    let n := rpcHeaderSize + h.bodyLength.toNat
    -- a frame is refused by its header, before its body is there
    if ¬ h.Accepted ∨ h.type ≠ type.toByte ∨ limit < n then .error refused
    else if b.length < n then .ok none
    else
      match readBody h (slice b rpcHeaderSize h.bodyLength.toNat) with
      | none => .error .deserializationError
      | some a => .ok (some (n, a))

section ParseFrame

variable {α : Type} {type : RpcMessageType} {refused : RpcErrorCode}
  {readBody : RpcHeader → Bytes → Option α} {limit : Nat}

theorem parseFrame_short {b : Bytes} (h : b.length < rpcHeaderSize) :
    parseFrame type refused readBody limit b = .ok none := by
  rw [parseFrame, if_pos h]

/-- A header that is turned away. -/
theorem parseFrame_refused {b : Bytes} (h16 : ¬ b.length < rpcHeaderSize)
    (h : ¬ (RpcHeader.ofBytes b).Accepted ∨ (RpcHeader.ofBytes b).type ≠ type.toByte ∨
      limit < rpcHeaderSize + (RpcHeader.ofBytes b).bodyLength.toNat) :
    parseFrame type refused readBody limit b = .error refused := by
  rw [parseFrame, if_neg h16]
  simp only [if_pos h]

/-- A header that is let through: the rest is up to the body. -/
theorem parseFrame_admitted {b : Bytes} (h16 : ¬ b.length < rpcHeaderSize)
    (hacc : (RpcHeader.ofBytes b).Accepted) (htype : (RpcHeader.ofBytes b).type = type.toByte)
    (hlim : rpcHeaderSize + (RpcHeader.ofBytes b).bodyLength.toNat ≤ limit) :
    parseFrame type refused readBody limit b =
      if b.length < rpcHeaderSize + (RpcHeader.ofBytes b).bodyLength.toNat then .ok none
      else
        match readBody (.ofBytes b) (slice b rpcHeaderSize (RpcHeader.ofBytes b).bodyLength.toNat) with
        | none => .error .deserializationError
        | some a => .ok (some (rpcHeaderSize + (RpcHeader.ofBytes b).bodyLength.toNat, a)) := by
  have hok : ¬ (¬ (RpcHeader.ofBytes b).Accepted ∨ (RpcHeader.ofBytes b).type ≠ type.toByte ∨
      limit < rpcHeaderSize + (RpcHeader.ofBytes b).bodyLength.toNat) := by
    rintro (h | h | h)
    · exact h hacc
    · exact h htype
    · omega
  rw [parseFrame, if_neg h16]
  simp only [if_neg hok]

/-- Every header is turned away or let through. -/
theorem refused_or_admitted (type : RpcMessageType) (limit : Nat) (h : RpcHeader) :
    (¬ h.Accepted ∨ h.type ≠ type.toByte ∨ limit < rpcHeaderSize + h.bodyLength.toNat) ∨
      (h.Accepted ∧ h.type = type.toByte ∧ rpcHeaderSize + h.bodyLength.toNat ≤ limit) := by
  by_cases hacc : h.Accepted
  · by_cases htype : h.type = type.toByte
    · rcases Nat.lt_or_ge limit (rpcHeaderSize + h.bodyLength.toNat) with hlt | hge
      · exact Or.inl (Or.inr (Or.inr hlt))
      · exact Or.inr ⟨hacc, htype, hge⟩
    · exact Or.inl (Or.inr (Or.inl htype))
  · exact Or.inl (Or.inl hacc)

/-- **What the reader accepts**, condition by condition. -/
theorem parseFrame_eq_some {b : Bytes} {n : Nat} {a : α} :
    parseFrame type refused readBody limit b = .ok (some (n, a)) ↔
      (RpcHeader.ofBytes b).Accepted ∧ (RpcHeader.ofBytes b).type = type.toByte ∧
      n = rpcHeaderSize + (RpcHeader.ofBytes b).bodyLength.toNat ∧ n ≤ limit ∧ n ≤ b.length ∧
      readBody (.ofBytes b) (slice b rpcHeaderSize (RpcHeader.ofBytes b).bodyLength.toNat) = some a := by
  constructor
  · intro h
    by_cases h16 : b.length < rpcHeaderSize
    · rw [parseFrame_short h16] at h
      cases h
    rcases refused_or_admitted type limit (.ofBytes b) with hbad | ⟨hacc, htype, hlim⟩
    · rw [parseFrame_refused h16 hbad] at h
      cases h
    · rw [parseFrame_admitted h16 hacc htype hlim] at h
      split at h
      · cases h
      · rename_i hlen
        split at h
        · cases h
        · rename_i hbody
          obtain ⟨rfl, rfl⟩ := Prod.mk.inj (Option.some.inj (Except.ok.inj h))
          exact ⟨hacc, htype, rfl, hlim, Nat.le_of_not_lt hlen, hbody⟩
  · rintro ⟨hacc, htype, rfl, hlim, hlen, hbody⟩
    rw [parseFrame_admitted (by omega) hacc htype hlim, if_neg (by omega), hbody]

/-- The header decides whether more bytes are waited for. -/
theorem parseFrame_eq_none {b : Bytes} :
    parseFrame type refused readBody limit b = .ok none ↔
      b.length < rpcHeaderSize ∨
        ((RpcHeader.ofBytes b).Accepted ∧ (RpcHeader.ofBytes b).type = type.toByte ∧
          rpcHeaderSize + (RpcHeader.ofBytes b).bodyLength.toNat ≤ limit ∧
          b.length < rpcHeaderSize + (RpcHeader.ofBytes b).bodyLength.toNat) := by
  by_cases h16 : b.length < rpcHeaderSize
  · rw [parseFrame_short h16]
    exact ⟨fun _ => Or.inl h16, fun _ => rfl⟩
  rcases refused_or_admitted type limit (.ofBytes b) with hbad | ⟨hacc, htype, hlim⟩
  · rw [parseFrame_refused h16 hbad]
    constructor
    · intro h
      cases h
    · intro h
      obtain ⟨hacc, htype, hlim, -⟩ := h.resolve_left h16
      rcases hbad with h | h | h
      · exact absurd hacc h
      · exact absurd htype h
      · omega
  · rw [parseFrame_admitted h16 hacc htype hlim]
    by_cases hlen : b.length < rpcHeaderSize + (RpcHeader.ofBytes b).bodyLength.toNat
    · rw [if_pos hlen]
      exact ⟨fun _ => Or.inr ⟨hacc, htype, hlim, hlen⟩, fun _ => rfl⟩
    · rw [if_neg hlen]
      constructor
      · intro h
        split at h
        · cases h
        · cases h
      · intro h
        exact absurd (h.resolve_left h16).2.2.2 hlen

theorem parseFrame_append {b : Bytes} (t : Bytes)
    (h : parseFrame type refused readBody limit b ≠ .ok none) :
    parseFrame type refused readBody limit (b ++ t) = parseFrame type refused readBody limit b := by
  have h16 : ¬ b.length < rpcHeaderSize := fun hlt => h (parseFrame_short hlt)
  have hof := RpcHeader.ofBytes_append (show rpcHeaderSize ≤ b.length by omega) t
  have h16' : ¬ (b ++ t).length < rpcHeaderSize := by
    rw [List.length_append]
    omega
  rcases refused_or_admitted type limit (.ofBytes b) with hbad | ⟨hacc, htype, hlim⟩
  · rw [parseFrame_refused h16 hbad, parseFrame_refused h16' (by rw [hof]; exact hbad)]
  · -- the whole frame is there, so nothing behind it is read
    have hlen : ¬ b.length < rpcHeaderSize + (RpcHeader.ofBytes b).bodyLength.toNat := by
      intro hlt
      exact h (parseFrame_eq_none.mpr (Or.inr ⟨hacc, htype, hlim, hlt⟩))
    rw [parseFrame_admitted h16 hacc htype hlim,
      parseFrame_admitted h16' (by rw [hof]; exact hacc) (by rw [hof]; exact htype)
        (by rw [hof]; exact hlim), hof, if_neg hlen, if_neg (by rw [List.length_append]; omega),
      slice_append _ _ (by omega)]

/-- A frame is not empty and lies in the bytes it is read off. -/
theorem parseFrame_consumes {b : Bytes} {n : Nat} {a : α}
    (h : parseFrame type refused readBody limit b = .ok (some (n, a))) : 0 < n ∧ n ≤ b.length := by
  obtain ⟨-, -, hn, -, hlen, -⟩ := parseFrame_eq_some.mp h
  simp only [rpcHeaderSize] at hn
  exact ⟨by omega, hlen⟩

/-- A frame is read the same without what follows it. -/
theorem parseFrame_take {b : Bytes} {n : Nat} {a : α}
    (h : parseFrame type refused readBody limit b = .ok (some (n, a))) :
    parseFrame type refused readBody limit (b.take n) = .ok (some (n, a)) := by
  obtain ⟨hacc, htype, hn, hlim, hlen, hbody⟩ := parseFrame_eq_some.mp h
  have htake : b.take n ++ b.drop n = b := List.take_append_drop n b
  have hln : (b.take n).length = n := by rw [List.length_take]; omega
  have hof : RpcHeader.ofBytes (b.take n) = RpcHeader.ofBytes b := by
    rw [← RpcHeader.ofBytes_append (by rw [hln]; omega) (b.drop n), htake]
  have hslice : slice (b.take n) rpcHeaderSize (RpcHeader.ofBytes b).bodyLength.toNat =
      slice b rpcHeaderSize (RpcHeader.ofBytes b).bodyLength.toNat := by
    rw [← slice_append (b.take n) (b.drop n) (by rw [hln]; omega), htake]
  rw [parseFrame_eq_some, hof, hslice]
  exact ⟨hacc, htype, hn, hlim, by omega, hbody⟩

end ParseFrame

/-- `parseFrame` as an incremental parser. -/
def frameParser {α : Type} (type : RpcMessageType) (refused : RpcErrorCode)
    (readBody : RpcHeader → Bytes → Option α) (limit : Nat) : FrameParser RpcErrorCode α where
  parse := parseFrame type refused readBody limit
  consumes h := parseFrame_consumes h
  stable t h := parseFrame_append t h
  exact h := parseFrame_take h

/-- The request a header and a body spell. -/
def RequestMsg.read (h : RpcHeader) (body : Bytes) : Option RequestMsg :=
  (splitNames body).map fun (s, m, p) =>
    ⟨h.requestId, rpcDecodeCallMode h.flags, rpcIsEndStream h.flags, s, m, p⟩

/-- The response a header and a body spell. -/
def ResponseMsg.read (h : RpcHeader) (body : Bytes) : Option ResponseMsg :=
  if body.length < 2 then none
  else some ⟨h.requestId, rpcDecodeCallMode h.flags, rpcIsEndStream h.flags,
    ⟨rpcNtohs (slice body 0 2)⟩, body.drop 2⟩

/-- The abstract request reader. -/
def requestParser (limit : Nat) : FrameParser RpcErrorCode RequestMsg :=
  frameParser .request .invalidRequest RequestMsg.read limit

/-- The abstract response reader. -/
def responseParser (limit : Nat) : FrameParser RpcErrorCode ResponseMsg :=
  frameParser .response .invalidResponse ResponseMsg.read limit

/-- The limit of a reader that only enforces the protocol's own. -/
def protocolLimit : Nat := rpcHeaderSize + rpcMaxBodySize

/-! ## The decoders refine the abstract reader -/

theorem RpcHeader.Accepted.le_protocolLimit {h : RpcHeader} (ha : h.Accepted) :
    rpcHeaderSize + h.bodyLength.toNat ≤ protocolLimit :=
  Nat.add_le_add_left ha.2 _

/-- A limit from the protocol's own on refuses nothing of its own. -/
theorem parseFrame_of_protocolLimit_le {α : Type} {type : RpcMessageType} {refused : RpcErrorCode}
    {readBody : RpcHeader → Bytes → Option α} {limit : Nat} (h : protocolLimit ≤ limit) (b : Bytes) :
    parseFrame type refused readBody limit b = parseFrame type refused readBody protocolLimit b := by
  by_cases h16 : b.length < rpcHeaderSize
  · rw [parseFrame_short h16, parseFrame_short h16]
  rcases refused_or_admitted type protocolLimit (.ofBytes b) with hbad | ⟨hacc, htype, hlim⟩
  · have hbad' : ¬ (RpcHeader.ofBytes b).Accepted ∨ (RpcHeader.ofBytes b).type ≠ type.toByte ∨
        limit < rpcHeaderSize + (RpcHeader.ofBytes b).bodyLength.toNat := by
      by_cases hacc : (RpcHeader.ofBytes b).Accepted
      · have hle := hacc.le_protocolLimit
        exact Or.inr (Or.inl ((hbad.resolve_left (not_not.mpr hacc)).resolve_right (by omega)))
      · exact Or.inl hacc
    rw [parseFrame_refused h16 hbad, parseFrame_refused h16 hbad']
  · rw [parseFrame_admitted h16 hacc htype hlim, parseFrame_admitted h16 hacc htype (hlim.trans h)]

/-- What a reader with a limit of its own accepts, the protocol accepts. -/
theorem parseFrame_of_some {α : Type} {type : RpcMessageType} {refused : RpcErrorCode}
    {readBody : RpcHeader → Bytes → Option α} {limit : Nat} {b : Bytes} {n : Nat} {a : α}
    (h : parseFrame type refused readBody limit b = .ok (some (n, a))) :
    parseFrame type refused readBody protocolLimit b = .ok (some (n, a)) := by
  obtain ⟨hacc, htype, hn, -, hlen, hbody⟩ := parseFrame_eq_some.mp h
  exact parseFrame_eq_some.mpr ⟨hacc, htype, hn, hn ▸ hacc.le_protocolLimit, hlen, hbody⟩

/-- Reading a body in place is reading the slice the header announces. -/
theorem slice_header_body (b : Bytes) (n : Nat) :
    (b.drop rpcHeaderSize).take n = slice b rpcHeaderSize n := rfl

/-- A `deserializeBody` result says what the abstract reader made of the body. -/
def BodyReadAs {M α : Type} (msg : M → α) (out : Bool × M) : Option α → Prop
  | some a => out.1 = true ∧ msg out.2 = a
  | none => out.1 = false

/-- A decoder's result says what the abstract reader made of the buffer; to a decoder, a frame that is
    not complete is one more invalid message. -/
def DecodedAs {M α : Type} (msg : M → α) (invalid : RpcErrorCode) (out : Except RpcError M) :
    Except RpcErrorCode (Option (Nat × α)) → Prop
  | .ok (some (_, a)) => ∃ r, out = .ok r ∧ msg r = a
  | .ok none => ∃ text, out = .error ⟨invalid, text⟩
  | .error code => ∃ text, out = .error ⟨code, text⟩

/-- **The plain decoders refine the abstract reader**, given that the class's `deserializeBody` reads
    bodies as the abstract reader does. -/
theorem decodeMessage_spec {M α : Type} {type : RpcMessageType} {invalid : RpcErrorCode}
    {notType badBody : String} {fromHeader : RpcHeader → M}
    {deserializeBody : M → Bytes → Nat → Bool × M} {readBody : RpcHeader → Bytes → Option α}
    {msg : M → α}
    (hbody : ∀ h body length, length ≤ body.length →
      BodyReadAs msg (deserializeBody (fromHeader h) body length) (readBody h (body.take length)))
    (b : Bytes) :
    DecodedAs msg invalid
      (decodeMessage type invalid notType badBody fromHeader deserializeBody b)
      (parseFrame type invalid readBody protocolLimit b) := by
  by_cases h16 : b.length < rpcHeaderSize
  · rw [parseFrame_short h16]
    exact ⟨_, by rw [decodeMessage, decodeHeader, if_pos h16]; rfl⟩
  have hdec := decodeHeader_eq (Nat.le_of_not_lt h16)
  by_cases hacc : (RpcHeader.ofBytes b).Accepted
  · rw [if_pos hacc] at hdec
    by_cases htype : (RpcHeader.ofBytes b).type = type.toByte
    · rw [parseFrame_admitted h16 hacc htype hacc.le_protocolLimit]
      by_cases hlen : b.length < rpcHeaderSize + (RpcHeader.ofBytes b).bodyLength.toNat
      · rw [if_pos hlen]
        refine ⟨.literal "Incomplete body", ?_⟩
        simp only [decodeMessage, hdec, htype, ne_eq, not_true_eq_false, if_false, if_pos hlen]
        rfl
      · rw [if_neg hlen]
        have hle : (RpcHeader.ofBytes b).bodyLength.toNat ≤ (b.drop rpcHeaderSize).length := by
          rw [List.length_drop]
          omega
        have hb := hbody (.ofBytes b) (b.drop rpcHeaderSize) _ hle
        rw [slice_header_body] at hb
        simp only [decodeMessage, hdec, htype, ne_eq, not_true_eq_false, if_false, if_neg hlen]
        generalize deserializeBody _ _ _ = d at hb ⊢
        obtain ⟨ok, r⟩ := d
        cases hs : readBody (.ofBytes b) (slice b rpcHeaderSize _) with
        | none =>
          rw [hs] at hb
          have hfalse : ok = false := hb
          subst hfalse
          exact ⟨_, rfl⟩
        | some a =>
          rw [hs] at hb
          have htrue : ok = true := hb.1
          subst htrue
          exact ⟨r, rfl, hb.2⟩
    · rw [parseFrame_refused h16 (Or.inr (Or.inl htype))]
      refine ⟨.literal notType, ?_⟩
      simp only [decodeMessage, hdec, ne_eq, htype, not_false_eq_true, if_true]
      rfl
  · rw [parseFrame_refused h16 (Or.inl hacc)]
    rw [if_neg hacc] at hdec
    refine ⟨.literal "Invalid header", ?_⟩
    unfold decodeMessage
    generalize decodeHeader b {} = d at hdec ⊢
    obtain ⟨res, h⟩ := d
    have hres : res = .error := hdec
    subst hres
    rfl

theorem decodeRequest_spec (b : Bytes) :
    DecodedAs RpcRequest.msg .invalidRequest (decodeRequest b)
      ((requestParser protocolLimit).parse b) := by
  apply decodeMessage_spec
  intro h body length hle
  have hspec := RpcRequest.deserializeBody_spec hle
    { requestId := h.requestId
      callMode := rpcDecodeCallMode h.flags
      endOfStream := rpcIsEndStream h.flags }
  unfold RequestMsg.read
  cases hs : splitNames (body.take length) <;> rw [hs] at hspec <;> exact hspec

theorem decodeResponse_spec (b : Bytes) :
    DecodedAs RpcResponse.msg .invalidResponse (decodeResponse b)
      ((responseParser protocolLimit).parse b) := by
  apply decodeMessage_spec
  intro h body length hle
  have hspec := RpcResponse.deserializeBody_spec body length
    { requestId := h.requestId
      callMode := rpcDecodeCallMode h.flags
      endOfStream := rpcIsEndStream h.flags }
  have hlen : (body.take length).length = length := by rw [List.length_take]; omega
  unfold ResponseMsg.read
  rw [hlen]
  by_cases h2 : length < 2
  · rw [if_pos h2] at hspec ⊢
    exact hspec
  · have hword : slice (body.take length) 0 2 = slice body 0 2 := by
      rw [slice_from_zero, slice_from_zero, List.take_take, Nat.min_eq_left (by omega)]
    rw [if_neg h2] at hspec ⊢
    rw [hword, List.drop_take]
    exact hspec

theorem DecodedAs.ok_iff {M α : Type} {msg : M → α} {invalid : RpcErrorCode} {out : Except RpcError M}
    {spec : Except RpcErrorCode (Option (Nat × α))} (h : DecodedAs msg invalid out spec) (a : α) :
    (∃ r, out = .ok r ∧ msg r = a) ↔ ∃ n, spec = .ok (some (n, a)) := by
  rcases spec with code | _ | ⟨n, a'⟩
  · obtain ⟨text, rfl⟩ := h
    simp
  · obtain ⟨text, rfl⟩ := h
    simp
  · obtain ⟨r, rfl, rfl⟩ := h
    simp

/-- `messageLength` is the length of the frame in front. -/
theorem messageLength_of_parse {α : Type} {type : RpcMessageType} {refused : RpcErrorCode}
    {readBody : RpcHeader → Bytes → Option α} {limit : Nat} {b : Bytes} {n : Nat} {a : α}
    (h : parseFrame type refused readBody limit b = .ok (some (n, a))) : messageLength b = n := by
  obtain ⟨hacc, -, hn, -, hlen, -⟩ := parseFrame_eq_some.mp h
  unfold messageLength
  rw [if_neg (by omega)]
  simp only [(RpcHeader.deserialize_fst {} b).mpr hacc, RpcHeader.deserialize_snd hacc.1, if_true]
  exact hn.symm

/-! ## Frames of messages -/

/-- The header of a message within the protocol's limit is accepted. -/
theorem accepted_of_length {h : RpcHeader} {n : Nat} (hmagic : h.magic = rpcMagic)
    (hlen : h.bodyLength = UInt32.ofNat n) (hn : n ≤ rpcMaxBodySize) :
    h.Accepted ∧ h.bodyLength.toNat = n := by
  have htoNat : h.bodyLength.toNat = n := by
    rw [hlen]
    exact UInt32.toNat_ofNat_of_lt (Nat.lt_of_le_of_lt hn (by decide))
  exact ⟨⟨hmagic, by rw [htoNat]; exact hn⟩, htoNat⟩

/-- A header with its body behind it is a frame, if the body is understood. -/
theorem frame_of_header_body {α : Type} {type : RpcMessageType} {refused : RpcErrorCode}
    {readBody : RpcHeader → Bytes → Option α} {limit : Nat} {h : RpcHeader} {body : Bytes} {a : α}
    (hacc : h.Accepted) (htype : h.type = type.toByte) (hlen : h.bodyLength.toNat = body.length)
    (hlim : rpcHeaderSize + body.length ≤ limit) (hbody : readBody h body = some a) :
    (frameParser type refused readBody limit).Frame (h.serialize ++ body) a := by
  have hof := RpcHeader.ofBytes_serialize h body
  have hslice : slice (h.serialize ++ body) rpcHeaderSize body.length = body := by
    rw [slice_append_right _ _ (Nat.le_of_eq (RpcHeader.serialize_length h)), RpcHeader.serialize_length,
      Nat.sub_self, slice_from_zero, List.take_length]
  show parseFrame type refused readBody limit (h.serialize ++ body) = _
  rw [parseFrame_eq_some, hof, hlen, hslice, List.length_append, RpcHeader.serialize_length]
  exact ⟨hacc, htype, rfl, hlim, Nat.le_refl _, hbody⟩

/-- A well-formed request is read back from its frame. -/
theorem RequestMsg.WellFormed.frame {m : RequestMsg} (hm : m.WellFormed) {limit : Nat}
    (hlim : m.frame.length ≤ limit) : (requestParser limit).Frame m.frame m := by
  obtain ⟨hacc, hlen⟩ := accepted_of_length (h := m.header) rfl rfl hm.size
  refine frame_of_header_body hacc rfl hlen (by rw [← RequestMsg.frame_length]; exact hlim) ?_
  rw [RequestMsg.read, RequestMsg.body, splitNames_eq_some.mpr ⟨hm.service, hm.method, rfl⟩]
  simp [RequestMsg.header]

/-- A well-formed response is read back from its frame. -/
theorem ResponseMsg.WellFormed.frame {m : ResponseMsg} (hm : m.WellFormed) {limit : Nat}
    (hlim : m.frame.length ≤ limit) : (responseParser limit).Frame m.frame m := by
  obtain ⟨hacc, hlen⟩ := accepted_of_length (h := m.header) rfl rfl hm
  refine frame_of_header_body hacc rfl hlen (by rw [← ResponseMsg.frame_length]; exact hlim) ?_
  have h2 : ¬ m.body.length < 2 := by rw [ResponseMsg.body_length]; omega
  have hcode : slice m.body 0 2 = rpcHtons m.errorCode.toWord := by
    rw [slice_from_zero, ResponseMsg.body, List.take_left' (rpcHtons_length _)]
  have hpay : m.body.drop 2 = m.payload := by
    rw [ResponseMsg.body, List.drop_left' (rpcHtons_length _)]
  rw [ResponseMsg.read, if_neg h2, hcode, hpay, rpcNtohs_rpcHtons]
  simp [ResponseMsg.header]

/-- The bytes in front of a stream are the header they denote and the body it announces. -/
theorem take_eq_header_body {b : Bytes} {n : Nat} (h : rpcHeaderSize + n ≤ b.length) :
    b.take (rpcHeaderSize + n) = (RpcHeader.ofBytes b).serialize ++ slice b rpcHeaderSize n := by
  have hhead : (RpcHeader.ofBytes b).serialize = b.take rpcHeaderSize := by
    rw [← RpcHeader.ofBytes_take (by omega),
      RpcHeader.serialize_ofBytes (by rw [List.length_take]; omega)]
  rw [hhead, ← slice_from_zero, ← slice_from_zero, slice_add, Nat.zero_add]

/-- The bytes of a message that `serialize` can have written: version 1, reserved byte 0, no flag bits
    but the three the protocol defines. -/
structure Canonical (b : Bytes) : Prop where
  version : b.getD 4 0 = rpcVersion
  reserved : b.getD 7 0 = 0
  flags : b.getD 6 0 < 8

/-- A canonical header is determined by what a message says. -/
theorem Canonical.header_eq {b : Bytes} (hb : Canonical b) {h : RpcHeader}
    (hacc : (RpcHeader.ofBytes b).Accepted) (hmagic : h.magic = rpcMagic)
    (hversion : h.version = rpcVersion) (hreserved : h.reserved = 0)
    (htype : h.type = (RpcHeader.ofBytes b).type)
    (hflags : h.flags = rpcEncodeFlags (rpcDecodeCallMode (RpcHeader.ofBytes b).flags)
      (rpcIsEndStream (RpcHeader.ofBytes b).flags))
    (hid : h.requestId = (RpcHeader.ofBytes b).requestId)
    (hlen : h.bodyLength = UInt32.ofNat (RpcHeader.ofBytes b).bodyLength.toNat) :
    h = RpcHeader.ofBytes b := by
  have hfl : (RpcHeader.ofBytes b).flags < 8 := hb.flags
  rw [rpcEncodeFlags_decode hfl] at hflags
  rw [UInt32.ofNat_toNat] at hlen
  obtain ⟨magic, version, type, flags, reserved, requestId, bodyLength⟩ := h
  rw [RpcHeader.mk.injEq]
  exact ⟨hmagic.trans hacc.1.symm, hversion.trans hb.version.symm, htype, hflags,
    hreserved.trans hb.reserved.symm, hid, hlen⟩

/-- A canonical request frame is the frame of what it says. -/
theorem RequestMsg.frame_of_parse {b : Bytes} {limit n : Nat} {m : RequestMsg}
    (h : (requestParser limit).parse b = .ok (some (n, m))) (hb : Canonical b) :
    m.frame = b.take n := by
  obtain ⟨hacc, htype, rfl, -, hlen, hread⟩ := parseFrame_eq_some.mp h
  obtain ⟨⟨s, mt, p⟩, hsplit, rfl⟩ := Option.map_eq_some_iff.mp hread
  obtain ⟨-, -, hbody⟩ := splitNames_eq_some.mp hsplit
  have hlength := congrArg List.length hbody
  rw [slice_length_of_le _ hlen] at hlength
  rw [take_eq_header_body hlen, hbody, RequestMsg.frame, RequestMsg.body]
  congr 2
  refine hb.header_eq hacc rfl rfl rfl htype.symm rfl rfl ?_
  rw [hlength]
  rfl

/-- A canonical response frame is the frame of what it says. -/
theorem ResponseMsg.frame_of_parse {b : Bytes} {limit n : Nat} {m : ResponseMsg}
    (h : (responseParser limit).parse b = .ok (some (n, m))) (hb : Canonical b) :
    m.frame = b.take n := by
  obtain ⟨hacc, htype, rfl, -, hlen, hread⟩ := parseFrame_eq_some.mp h
  unfold ResponseMsg.read at hread
  split at hread
  · cases hread
  · rename_i h2
    obtain rfl := Option.some.inj hread
    generalize hB : slice b rpcHeaderSize (RpcHeader.ofBytes b).bodyLength.toNat = body at h2
    have hlength := congrArg List.length hB
    rw [slice_length_of_le _ hlen] at hlength
    have hbody : rpcHtons (rpcNtohs (slice body 0 2)) ++ body.drop 2 = body := by
      rw [rpcHtons_rpcNtohs (slice_length_of_le _ (by omega)), slice_from_zero, List.take_append_drop]
    rw [take_eq_header_body hlen, hB, ResponseMsg.frame, ResponseMsg.body, hbody]
    congr 2
    refine hb.header_eq hacc rfl rfl rfl htype.symm rfl rfl ?_
    rw [hlength, ResponseMsg.header, ResponseMsg.body]
    simp only [hbody]

/-! ## The formats, spelled out -/

/-- The sixteen bytes in front of `b`: a frame of type `type` with a body of `L` bytes, all there,
    for request `id` with the given mode and end-of-stream flag. -/
structure HeaderLayout (b : Bytes) (type : UInt8) (L : Nat) (id : UInt32) (mode : RpcCallMode)
    (endOfStream : Bool) : Prop where
  magic : beNat (slice b 0 4) = 0x47525043
  type : b.getD 5 0 = type
  flagsMode : mode.toByte.toNat = (b.getD 6 0).toNat % 4
  flagsEnd : endOfStream = (b.getD 6 0).toNat.testBit 2
  requestId : id.toNat = beNat (slice b 8 4)
  bodyLength : L = beNat (slice b 12 4)
  limit : L ≤ 16 * 1024 * 1024
  complete : 16 + L ≤ b.length

/-- `b` starts with the frame of the request `m`, with a body of `L` bytes. -/
structure RequestLayout (b : Bytes) (L : Nat) (m : RequestMsg) : Prop where
  header : HeaderLayout b 0x01 L m.requestId m.callMode m.endOfStream
  service : m.serviceName.length ≤ 65535
  method : m.methodName.length ≤ 65535
  body : slice b 16 L = beBytes 2 m.serviceName.length ++ m.serviceName ++
    beBytes 2 m.methodName.length ++ m.methodName ++ m.payload

/-- `b` starts with the frame of the response `m`, with a body of `L` bytes. -/
structure ResponseLayout (b : Bytes) (L : Nat) (m : ResponseMsg) : Prop where
  header : HeaderLayout b 0x02 L m.requestId m.callMode m.endOfStream
  body : slice b 16 L = beBytes 2 m.errorCode.toWord.toNat ++ m.payload

theorem rpcDecodeCallMode_iff (flags : UInt8) (mode : RpcCallMode) :
    mode = rpcDecodeCallMode flags ↔ mode.toByte.toNat = flags.toNat % 4 := by
  have hmask : (flags &&& rpcFlagModeMask).toNat = flags.toNat % 4 := by
    rw [UInt8.toNat_and]
    exact Nat.and_two_pow_sub_one_eq_mod flags.toNat 2
  have hlt : flags.toNat % 4 < 4 := Nat.mod_lt _ (by decide)
  have heq : ∀ k : UInt8, flags &&& rpcFlagModeMask = k ↔ flags.toNat % 4 = k.toNat := by
    intro k
    rw [← hmask, UInt8.toNat_inj]
  unfold rpcDecodeCallMode
  simp only [heq]
  generalize flags.toNat % 4 = j at hlt ⊢
  have hj : j = 0 ∨ j = 1 ∨ j = 2 ∨ j = 3 := by omega
  rcases hj with rfl | rfl | rfl | rfl <;> cases mode <;> decide

theorem rpcIsEndStream_eq (flags : UInt8) : rpcIsEndStream flags = flags.toNat.testBit 2 := by
  have hall : ∀ n : Fin 256, rpcIsEndStream (UInt8.ofNat n) = n.val.testBit 2 := by decide +kernel
  have := hall ⟨flags.toNat, flags.toNat_lt⟩
  simpa using this

/-- The conditions the abstract reader puts on a header are the layout of its sixteen bytes. -/
theorem headerLayout_iff {b : Bytes} {type : UInt8} {L : Nat} {id : UInt32} {mode : RpcCallMode}
    {endOfStream : Bool} (h16 : 16 ≤ b.length) :
    HeaderLayout b type L id mode endOfStream ↔
      (RpcHeader.ofBytes b).Accepted ∧ (RpcHeader.ofBytes b).type = type ∧
      L = (RpcHeader.ofBytes b).bodyLength.toNat ∧ 16 + L ≤ b.length ∧
      id = (RpcHeader.ofBytes b).requestId ∧ mode = rpcDecodeCallMode (RpcHeader.ofBytes b).flags ∧
      endOfStream = rpcIsEndStream (RpcHeader.ofBytes b).flags := by
  have hword : ∀ off, off + 4 ≤ 16 → (rpcNtohl (slice b off 4)).toNat = beNat (slice b off 4) :=
    fun off hoff => rpcNtohl_toNat (slice_length_of_le _ (by omega))
  have hmagic : rpcNtohl (slice b 0 4) = rpcMagic ↔ beNat (slice b 0 4) = 0x47525043 := by
    rw [← hword 0 (by omega), ← UInt32.toNat_inj]
    rfl
  have hid : id = rpcNtohl (slice b 8 4) ↔ id.toNat = beNat (slice b 8 4) := by
    rw [← hword 8 (by omega), UInt32.toNat_inj]
  simp only [RpcHeader.Accepted, RpcHeader.ofBytes, hmagic, hid, rpcDecodeCallMode_iff,
    rpcIsEndStream_eq, hword 12 (by omega)]
  constructor
  · rintro ⟨h1, h2, h3, h4, h5, rfl, h7, h8⟩
    exact ⟨⟨h1, h7⟩, h2, rfl, h8, h5, h3, h4⟩
  · rintro ⟨⟨h1, h7⟩, h2, rfl, h8, h5, h3, h4⟩
    exact ⟨h1, h2, h3, h4, h5, rfl, h7, h8⟩

/-- The abstract reader accepts exactly the request layouts. -/
theorem requestParser_iff_layout (b : Bytes) (m : RequestMsg) :
    (∃ n, (requestParser protocolLimit).parse b = .ok (some (n, m))) ↔ ∃ L, RequestLayout b L m := by
  have hnames : ∀ s mt p : Bytes, beBytes 2 s.length ++ s ++ beBytes 2 mt.length ++ mt ++ p =
      serializeNames s mt ++ p := by
    intro s mt p
    rw [serializeNames, rpcHtons_ofNat, rpcHtons_ofNat]
  constructor
  · rintro ⟨n, h⟩
    obtain ⟨hacc, htype, rfl, -, hlen, hread⟩ := parseFrame_eq_some.mp h
    obtain ⟨⟨s, mt, p⟩, hsplit, rfl⟩ := Option.map_eq_some_iff.mp hread
    obtain ⟨hs, hm, hbody⟩ := splitNames_eq_some.mp hsplit
    simp only [rpcHeaderSize] at hlen hbody
    refine ⟨_, (headerLayout_iff (by omega)).mpr ⟨hacc, htype, rfl, hlen, rfl, rfl, rfl⟩,
      Nat.le_of_lt_succ hs, Nat.le_of_lt_succ hm, ?_⟩
    rw [hbody, hnames]
  · rintro ⟨L, hhead, hs, hm, hbody⟩
    have h16 : 16 ≤ b.length := Nat.le_trans (Nat.le_add_right 16 L) hhead.complete
    obtain ⟨hacc, htype, rfl, hlen, hid, hmode, hend⟩ := (headerLayout_iff h16).mp hhead
    refine ⟨_, parseFrame_eq_some.mpr ⟨hacc, htype, rfl, hacc.le_protocolLimit, hlen, ?_⟩⟩
    have hbody' : slice b rpcHeaderSize (RpcHeader.ofBytes b).bodyLength.toNat =
        serializeNames m.serviceName m.methodName ++ m.payload := hbody.trans (hnames _ _ _)
    rw [RequestMsg.read, splitNames_eq_some.mpr ⟨Nat.lt_succ_of_le hs, Nat.lt_succ_of_le hm, hbody'⟩]
    simp only [Option.map_some, ← hid, ← hmode, ← hend]

/-- The abstract reader accepts exactly the response layouts. -/
theorem responseParser_iff_layout (b : Bytes) (m : ResponseMsg) :
    (∃ n, (responseParser protocolLimit).parse b = .ok (some (n, m))) ↔
      ∃ L, ResponseLayout b L m := by
  constructor
  · rintro ⟨n, h⟩
    obtain ⟨hacc, htype, rfl, -, hlen, hread⟩ := parseFrame_eq_some.mp h
    unfold ResponseMsg.read at hread
    split at hread
    · cases hread
    · rename_i h2
      obtain rfl := Option.some.inj hread
      simp only [rpcHeaderSize] at hlen h2
      refine ⟨_, (headerLayout_iff (by omega)).mpr ⟨hacc, htype, rfl, hlen, rfl, rfl, rfl⟩, ?_⟩
      simp only [rpcHeaderSize]
      generalize slice b 16 _ = body at h2
      have hword := rpcHtons_rpcNtohs (slice_length_of_le body (show 0 + 2 ≤ body.length by omega))
      rw [rpcHtons] at hword
      rw [hword, slice_from_zero, List.take_append_drop]
  · rintro ⟨L, hhead, hbody⟩
    have h16 : 16 ≤ b.length := Nat.le_trans (Nat.le_add_right 16 L) hhead.complete
    obtain ⟨hacc, htype, rfl, hlen, hid, hmode, hend⟩ := (headerLayout_iff h16).mp hhead
    refine ⟨_, parseFrame_eq_some.mpr ⟨hacc, htype, rfl, hacc.le_protocolLimit, hlen, ?_⟩⟩
    have hbody' : slice b rpcHeaderSize (RpcHeader.ofBytes b).bodyLength.toNat =
        rpcHtons m.errorCode.toWord ++ m.payload := hbody
    have h2 : ¬ (rpcHtons m.errorCode.toWord ++ m.payload).length < 2 := by
      rw [List.length_append, rpcHtons_length]
      omega
    rw [hbody', ResponseMsg.read, if_neg h2, slice_from_zero, List.take_left' (rpcHtons_length _),
      List.drop_left' (rpcHtons_length _), rpcNtohs_rpcHtons, ← hid, ← hmode, ← hend]

section Decoded

variable {M α : Type} {msg : M → α} {type : RpcMessageType} {refused : RpcErrorCode}
  {readBody : RpcHeader → Bytes → Option α} {decode : Bytes → Except RpcError M}

/-- A frame in front is decoded, and `messageLength` finds its end. -/
theorem decoded_of_frame
    (hspec : ∀ b, DecodedAs msg refused (decode b) (parseFrame type refused readBody protocolLimit b))
    {f : Bytes} {a : α} (hframe : (frameParser type refused readBody protocolLimit).Frame f a)
    (t : Bytes) :
    (∃ r, decode (f ++ t) = .ok r ∧ msg r = a) ∧ messageLength (f ++ t) = f.length := by
  have hparse : parseFrame type refused readBody protocolLimit (f ++ t) = .ok (some (f.length, a)) :=
    (frameParser type refused readBody protocolLimit).frame_append hframe t
  exact ⟨((hspec _).ok_iff _).mpr ⟨_, hparse⟩, messageLength_of_parse hparse⟩

/-- What is decoded is a frame in front, of the length that its header tells. -/
theorem frame_of_decoded
    (hspec : ∀ b, DecodedAs msg refused (decode b) (parseFrame type refused readBody protocolLimit b))
    {b : Bytes} {r : M} (hdec : decode b = .ok r) :
    parseFrame type refused readBody protocolLimit b =
      .ok (some (16 + beNat (slice b 12 4), msg r)) := by
  obtain ⟨n, hparse⟩ := ((hspec b).ok_iff _).mp ⟨r, hdec, rfl⟩
  obtain ⟨-, -, hn, -, hlen, -⟩ := parseFrame_eq_some.mp hparse
  have h16 : 12 + 4 ≤ b.length := by
    rw [hn] at hlen
    exact Nat.le_trans (Nat.le_add_right 16 _) hlen
  have hL : n = 16 + beNat (slice b 12 4) := by
    rw [hn, RpcHeader.ofBytes, rpcNtohl_toNat (slice_length_of_le _ h16)]
    rfl
  rw [← hL]
  exact hparse

end Decoded

/-- **The wire formats are decoded exactly.**  For requests and for responses: the decoder accepts a
    buffer and reads `m` off it if and only if the buffer starts with the layout of `m`; a message the
    format can express is read back from its serialization in front of any bytes, and
    `messageLength` finds its end; and re-serializing what was decoded from a canonical buffer
    reproduces the frame. -/
theorem codec_exact :
    (∀ (b : Bytes) (m : RequestMsg),
      (∃ r, decodeRequest b = .ok r ∧ r.msg = m) ↔ ∃ L, RequestLayout b L m) ∧
    (∀ (r : RpcRequest) (t : Bytes), r.serviceName.length ≤ 65535 → r.methodName.length ≤ 65535 →
      r.bodySize ≤ rpcMaxBodySize →
      (∃ r', decodeRequest (r.serialize ++ t) = .ok r' ∧ r'.msg = r.msg) ∧
        messageLength (r.serialize ++ t) = r.serialize.length) ∧
    (∀ (b : Bytes) (r : RpcRequest), decodeRequest b = .ok r → Canonical b →
      r.serialize = b.take (16 + beNat (slice b 12 4))) ∧
    (∀ (b : Bytes) (m : ResponseMsg),
      (∃ r, decodeResponse b = .ok r ∧ r.msg = m) ↔ ∃ L, ResponseLayout b L m) ∧
    (∀ (r : RpcResponse) (t : Bytes), r.bodySize ≤ rpcMaxBodySize →
      (∃ r', decodeResponse (r.serialize ++ t) = .ok r' ∧ r'.msg = r.msg) ∧
        messageLength (r.serialize ++ t) = r.serialize.length) ∧
    (∀ (b : Bytes) (r : RpcResponse), decodeResponse b = .ok r → Canonical b →
      r.serialize = b.take (16 + beNat (slice b 12 4))) := by
  refine ⟨fun b m => ?_, fun r t hs hm hsize => ?_, fun b r hdec hcan => ?_, fun b m => ?_,
    fun r t hsize => ?_, fun b r hdec hcan => ?_⟩
  · rw [(decodeRequest_spec b).ok_iff, requestParser_iff_layout]
  · have hwf : r.msg.WellFormed :=
      ⟨Nat.lt_succ_of_le hs, Nat.lt_succ_of_le hm, by rw [← RpcRequest.bodySize_eq]; exact hsize⟩
    have hlim : r.msg.frame.length ≤ protocolLimit := by
      rw [RequestMsg.frame_length]
      exact Nat.add_le_add_left hwf.size _
    rw [RpcRequest.serialize_eq]
    exact decoded_of_frame decodeRequest_spec (hwf.frame hlim) t
  · have hparse := frame_of_decoded decodeRequest_spec hdec
    rw [RpcRequest.serialize_eq]
    exact RequestMsg.frame_of_parse hparse hcan
  · rw [(decodeResponse_spec b).ok_iff, responseParser_iff_layout]
  · have hwf : r.msg.WellFormed := by
      rw [ResponseMsg.WellFormed, ← RpcResponse.bodySize_eq]
      exact hsize
    have hlim : r.msg.frame.length ≤ protocolLimit := by
      rw [ResponseMsg.frame_length]
      exact Nat.add_le_add_left hwf _
    rw [RpcResponse.serialize_eq]
    exact decoded_of_frame decodeResponse_spec (hwf.frame hlim) t
  · have hparse := frame_of_decoded decodeResponse_spec hdec
    rw [RpcResponse.serialize_eq]
    exact ResponseMsg.frame_of_parse hparse hcan

/-- Request 7 of a client: `Echo.echo`, with two payload bytes. -/
def echoRequest : RpcRequest where
  requestId := 7
  serviceName := [0x45, 0x63, 0x68, 0x6f]
  methodName := [0x65, 0x63, 0x68, 0x6f]
  store := .setBytes [0x68, 0x69]

/-- The answer to `echoRequest`. -/
def echoResponse : RpcResponse where
  requestId := 7
  store := .setBytes [0x68, 0x69]

theorem codec_exact_echo :
    ((∃ r', decodeRequest (echoRequest.serialize ++ [0x47]) = .ok r' ∧ r'.msg = echoRequest.msg) ∧
      messageLength (echoRequest.serialize ++ [0x47]) = echoRequest.serialize.length) ∧
    echoRequest.serialize =
      echoRequest.serialize.take (16 + beNat (slice echoRequest.serialize 12 4)) ∧
    ((∃ r', decodeResponse (echoResponse.serialize ++ [0x47]) = .ok r' ∧
        r'.msg = echoResponse.msg) ∧
      messageLength (echoResponse.serialize ++ [0x47]) = echoResponse.serialize.length) ∧
    echoResponse.serialize =
      echoResponse.serialize.take (16 + beNat (slice echoResponse.serialize 12 4)) :=
  have hreq : Canonical echoRequest.serialize := ⟨by decide, by decide, by decide⟩
  have hresp : Canonical echoResponse.serialize := ⟨by decide, by decide, by decide⟩
  ⟨codec_exact.2.1 echoRequest [0x47] (by decide) (by decide) (by decide),
    codec_exact.2.2.1 _ echoRequest (by decide) hreq,
    codec_exact.2.2.2.2.1 echoResponse [0x47] (by decide),
    codec_exact.2.2.2.2.2 _ echoResponse (by decide) hresp⟩

end GalayRpc
