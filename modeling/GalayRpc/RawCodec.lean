/-
  The decoders of `rpc_codec.h` and `deserializeBody`, on raw memory.

  `Codec.lean` and `Message.lean` take the buffer as a list, which is only as long as it is.  Here a
  buffer is a pointer into a memory that has a byte everywhere, and a length, so the same statements can
  read too far.  They are written once more with each `memcpy` and each `buffer[i]` as an `Access`, in
  the order of the source.

  Each comes with one lemma (`Within`): it reads inside its buffer, and its result is what the decoder
  of the list computes from the bytes there.  A `deserializeBody` whose `length` is the one a header
  announces is given a pointer into a buffer that may go on behind it; it does not look there.
-/
import GalayRpc.Stream
import GalayRpc.Lib.Access

namespace GalayRpc

/-- The bytes from a pointer on. -/
def bytesAt (memory : Nat → UInt8) (p n : Nat) : Bytes := (List.range n).map fun i => memory (p + i)

/-- The addresses of the `n` bytes from a pointer on. -/
def InBuffer (p n address : Nat) : Prop := p ≤ address ∧ address < p + n

namespace Raw

open Access

/-! ## The decoders -/

/-- `std::memcpy` from a pointer, and `std::string::assign`. -/
def memcpy (p n : Nat) : Access Nat UInt8 Bytes := readAll ((List.range n).map fun i => p + i)

/-- `RpcHeader::deserialize`. -/
def deserialize (h : RpcHeader) (buffer : Nat) : Access Nat UInt8 (Bool × RpcHeader) := do
  let magic ← memcpy buffer 4
  let h := { h with magic := rpcNtohl magic }
  if h.magic ≠ rpcMagic then pure (false, h)
  else do
    let version ← read (buffer + 4)
    let type ← read (buffer + 5)
    let flags ← read (buffer + 6)
    let reserved ← read (buffer + 7)
    let requestId ← memcpy (buffer + 8) 4
    let bodyLength ← memcpy (buffer + 12) 4
    let h := { h with
      version := version
      type := type
      flags := flags
      reserved := reserved
      requestId := rpcNtohl requestId
      bodyLength := rpcNtohl bodyLength }
    pure (h.bodyLength.toNat ≤ rpcMaxBodySize, h)

/-- `RpcCodec::decodeHeader`. -/
def decodeHeader (data length : Nat) (header : RpcHeader) : Access Nat UInt8 (DecodeResult × RpcHeader) :=
  if length < rpcHeaderSize then pure (.incomplete, header)
  else do
    let result ← deserialize header data
    if result.1 then pure (.complete, result.2) else pure (.error, result.2)

/-- `decodeRequest` and `decodeResponse`. -/
def decodeMessage {M : Type} (type : RpcMessageType) (invalid : RpcErrorCode)
    (notType badBody : String) (fromHeader : RpcHeader → M)
    (deserializeBody : M → Nat → Nat → Access Nat UInt8 (Bool × M)) (data length : Nat) :
    Access Nat UInt8 (Except RpcError M) := do
  match ← decodeHeader data length {} with
  | (.incomplete, _) => pure (.error (.ofText invalid "Incomplete data"))
  | (.error, _) => pure (.error (.ofText invalid "Invalid header"))
  | (.complete, header) =>
    if header.type ≠ type.toByte then pure (.error (.ofText invalid notType))
    else if length < rpcHeaderSize + header.bodyLength.toNat then
      pure (.error (.ofText invalid "Incomplete body"))
    else do
      match ← deserializeBody (fromHeader header) (data + rpcHeaderSize) header.bodyLength.toNat with
      | (false, _) => pure (.error (.ofText .deserializationError badBody))
      | (true, message) => pure (.ok message)

/-- The two name fields in front of a body. -/
def deserializeNames (body length : Nat) (service method : Bytes) :
    Access Nat UInt8 (Option Nat × Bytes × Bytes) :=
  if length < 4 then pure (none, service, method)
  else do
    let serviceLenNet ← memcpy body 2
    let serviceLen := (rpcNtohs serviceLenNet).toNat
    if 2 + serviceLen > length then pure (none, service, method)
    else do
      let service ← memcpy (body + 2) serviceLen
      let offset := 2 + serviceLen
      if offset + 2 > length then pure (none, service, method)
      else do
        let methodLenNet ← memcpy (body + offset) 2
        let methodLen := (rpcNtohs methodLenNet).toNat
        let offset := offset + 2
        if offset + methodLen > length then pure (none, service, method)
        else do
          let method ← memcpy (body + offset) methodLen
          pure (some (offset + methodLen), service, method)

/-- `RpcRequest::deserializeBody`. -/
def RpcRequest.deserializeBody (r : RpcRequest) (body length : Nat) :
    Access Nat UInt8 (Bool × RpcRequest) := do
  match ← deserializeNames body length r.serviceName r.methodName with
  | (none, service, method) => pure (false, { r with serviceName := service, methodName := method })
  | (some offset, service, method) =>
    let r := { r with serviceName := service, methodName := method }
    if offset < length then do
      let payload ← memcpy (body + offset) (length - offset)
      pure (true, { r with store := .setBytes payload })
    else pure (true, { r with store := .cleared })

/-- `RpcResponse::deserializeBody`. -/
def RpcResponse.deserializeBody (r : RpcResponse) (body length : Nat) :
    Access Nat UInt8 (Bool × RpcResponse) :=
  if length < 2 then pure (false, r)
  else do
    let errorCode ← memcpy body 2
    let r := { r with errorCode := ⟨rpcNtohs errorCode⟩ }
    if length > 2 then do
      let payload ← memcpy (body + 2) (length - 2)
      pure (true, { r with store := .setBytes payload })
    else pure (true, { r with store := .cleared })

/-- `StreamInitRequest::deserializeBody`. -/
def StreamInitRequest.deserializeBody (r : StreamInitRequest) (body length : Nat) :
    Access Nat UInt8 (Bool × StreamInitRequest) := do
  let names ← deserializeNames body length r.serviceName r.methodName
  pure (names.1.isSome, { r with serviceName := names.2.1, methodName := names.2.2 })

/-- `RpcCodec::decodeRequest`. -/
def decodeRequest : Nat → Nat → Access Nat UInt8 (Except RpcError RpcRequest) :=
  decodeMessage .request .invalidRequest "Not a request message" "Failed to parse request body"
    (fun header =>
      { requestId := header.requestId
        callMode := rpcDecodeCallMode header.flags
        endOfStream := rpcIsEndStream header.flags })
    RpcRequest.deserializeBody

/-- `RpcCodec::decodeResponse`. -/
def decodeResponse : Nat → Nat → Access Nat UInt8 (Except RpcError RpcResponse) :=
  decodeMessage .response .invalidResponse "Not a response message" "Failed to parse response body"
    (fun header =>
      { requestId := header.requestId
        callMode := rpcDecodeCallMode header.flags
        endOfStream := rpcIsEndStream header.flags })
    RpcResponse.deserializeBody

/-- `RpcCodec::messageLength`. -/
def messageLength (data length : Nat) : Access Nat UInt8 Nat :=
  if length < rpcHeaderSize then pure 0
  else do
    let result ← deserialize {} data
    if result.1 then pure (rpcHeaderSize + result.2.bodyLength.toNat) else pure 0

/-! ## Pointers into a buffer -/

variable {memory : Nat → UInt8} {P : Nat → Prop}

@[simp] theorem bytesAt_length (memory : Nat → UInt8) (p n : Nat) : (bytesAt memory p n).length = n := by
  rw [bytesAt, List.length_map, List.length_range]

theorem slice_bytesAt {p n off k : Nat} (h : off + k ≤ n) :
    slice (bytesAt memory p n) off k = bytesAt memory (p + off) k := by
  rw [bytesAt, slice_map_range _ h, bytesAt]
  simp only [Nat.add_assoc]

theorem drop_bytesAt {p n : Nat} (k : Nat) :
    (bytesAt memory p n).drop k = bytesAt memory (p + k) (n - k) := by
  rcases Nat.le_total k n with hle | hle
  · rw [← slice_to_end _ (show (bytesAt memory p n).length ≤ k + (n - k) by rw [bytesAt_length]; omega),
      slice_bytesAt (by omega)]
  · have hzero : n - k = 0 := by omega
    rw [List.drop_of_length_le (by rw [bytesAt_length]; exact hle), hzero]
    rfl

theorem getD_bytesAt {p n i : Nat} (h : i < n) : (bytesAt memory p n).getD i 0 = memory (p + i) := by
  rw [List.getD_eq_getElem?_getD, List.getElem?_eq_getElem (by rw [bytesAt_length]; exact h),
    Option.getD_some]
  simp only [bytesAt, List.getElem_map, List.getElem_range]

theorem InBuffer.sub {p n q k address : Nat} (h : InBuffer q k address) (hp : p ≤ q) (hq : q + k ≤ p + n) :
    InBuffer p n address :=
  ⟨Nat.le_trans hp h.1, Nat.lt_of_lt_of_le h.2 hq⟩

/-- A copy reads where its bytes are. -/
theorem within_memcpy {p n q k : Nat} (hp : p ≤ q) (hq : q + k ≤ p + n) :
    Within (InBuffer p n) memory (memcpy q k) (bytesAt memory q k) := by
  have hread : Within (InBuffer p n) memory (memcpy q k)
      (((List.range k).map fun i => q + i).map memory) := by
    apply within_readAll
    intro address haddress
    obtain ⟨i, hi, rfl⟩ := List.mem_map.mp haddress
    have hlt := List.mem_range.mp hi
    constructor
    · show p ≤ q + i
      omega
    · show q + i < p + n
      omega
  rwa [List.map_map] at hread

/-! ## Where they read -/

/-- **`RpcHeader::deserialize`** reads sixteen bytes. -/
theorem within_deserialize (h : RpcHeader) (buffer : Nat) {n : Nat} (hn : rpcHeaderSize ≤ n) :
    Within (InBuffer buffer n) memory (deserialize h buffer) (h.deserialize (bytesAt memory buffer n)) := by
  have hsize : 16 ≤ n := hn
  have hword : ∀ off, off + 4 ≤ 16 →
      Within (InBuffer buffer n) memory (memcpy (buffer + off) 4) (slice (bytesAt memory buffer n) off 4) := by
    intro off hoff
    rw [slice_bytesAt (by omega)]
    exact within_memcpy (by omega) (by omega)
  have hbyte : ∀ i, i < 16 →
      Within (InBuffer buffer n) memory (read (buffer + i)) ((bytesAt memory buffer n).getD i 0) := by
    intro i hi
    rw [getD_bytesAt (by omega)]
    apply within_read
    constructor
    · show buffer ≤ buffer + i
      omega
    · show buffer + i < buffer + n
      omega
  refine Within.bind (hword 0 (by omega)) ?_
  unfold RpcHeader.deserialize
  dsimp only
  split
  · exact within_pure _
  · exact (hbyte 4 (by omega)).bind <| (hbyte 5 (by omega)).bind <| (hbyte 6 (by omega)).bind <|
      (hbyte 7 (by omega)).bind <| (hword 8 (by omega)).bind <| (hword 12 (by omega)).bind <| within_pure _

theorem within_decodeHeader (data length : Nat) (header : RpcHeader) :
    Within (InBuffer data length) memory (decodeHeader data length header)
      (GalayRpc.decodeHeader (bytesAt memory data length) header) := by
  unfold decodeHeader GalayRpc.decodeHeader
  rw [bytesAt_length]
  split
  · exact within_pure _
  · refine (within_deserialize header data (by omega)).bind ?_
    split
    · exact within_pure _
    · exact within_pure _

/-- **`messageLength`** reads the header. -/
theorem within_messageLength (data length : Nat) :
    Within (InBuffer data length) memory (messageLength data length)
      (GalayRpc.messageLength (bytesAt memory data length)) := by
  unfold messageLength GalayRpc.messageLength
  rw [bytesAt_length]
  split
  · exact within_pure _
  · refine (within_deserialize {} data (by omega)).bind ?_
    dsimp only
    split
    · exact within_pure _
    · exact within_pure _

-- three bytes are not looked at, sixteen with the wrong magic are looked at no further than that
example : ((messageLength 100 3).run fun _ => 0).2 = [] ∧
    ((messageLength 100 16).run fun _ => 0).2 = [100, 101, 102, 103] := by decide

/-- **Names** are read up to the length, whatever their lengths claim. -/
theorem within_deserializeNames (body : Nat) {length n : Nat} (hn : length ≤ n) (service method : Bytes) :
    Within (InBuffer body length) memory (deserializeNames body length service method)
      (GalayRpc.deserializeNames (bytesAt memory body n) length service method) := by
  have hcopy : ∀ off k, off + k ≤ length →
      Within (InBuffer body length) memory (memcpy (body + off) k) (slice (bytesAt memory body n) off k) := by
    intro off k hk
    rw [slice_bytesAt (by omega)]
    exact within_memcpy (by omega) (by omega)
  unfold deserializeNames GalayRpc.deserializeNames
  by_cases h4 : length < 4
  · rw [if_pos h4, if_pos h4]
    exact within_pure _
  rw [if_neg h4, if_neg h4]
  apply Within.bind (hcopy 0 2 (by omega))
  dsimp only
  generalize (rpcNtohs (slice (bytesAt memory body n) 0 2)).toNat = serviceLen
  by_cases hservice : 2 + serviceLen > length
  · rw [if_pos hservice, if_pos hservice]
    exact within_pure _
  rw [if_neg hservice, if_neg hservice]
  apply Within.bind (hcopy 2 serviceLen (by omega))
  by_cases hmore : 2 + serviceLen + 2 > length
  · rw [if_pos hmore, if_pos hmore]
    exact within_pure _
  rw [if_neg hmore, if_neg hmore]
  apply Within.bind (hcopy (2 + serviceLen) 2 (by omega))
  generalize (rpcNtohs (slice (bytesAt memory body n) (2 + serviceLen) 2)).toNat = methodLen
  by_cases hmethod : 2 + serviceLen + 2 + methodLen > length
  · rw [if_pos hmethod, if_pos hmethod]
    exact within_pure _
  rw [if_neg hmethod, if_neg hmethod]
  exact (hcopy (2 + serviceLen + 2) methodLen (by omega)).bind (within_pure _)

/-- **`RpcRequest::deserializeBody`** -/
theorem within_requestDeserializeBody (r : RpcRequest) (body : Nat) {length n : Nat} (hn : length ≤ n) :
    Within (InBuffer body length) memory (RpcRequest.deserializeBody r body length)
      (r.deserializeBody (bytesAt memory body n) length) := by
  unfold RpcRequest.deserializeBody GalayRpc.RpcRequest.deserializeBody
  refine (within_deserializeNames body hn r.serviceName r.methodName).bind ?_
  generalize GalayRpc.deserializeNames (bytesAt memory body n) length r.serviceName r.methodName = names
  obtain ⟨_ | offset, service, method⟩ := names
  · exact within_pure _
  · dsimp only
    by_cases hlt : offset < length
    · rw [if_pos hlt, if_pos hlt, slice_bytesAt (by omega)]
      exact (within_memcpy (by omega) (by omega)).bind (within_pure _)
    · rw [if_neg hlt, if_neg hlt]
      exact within_pure _

/-- **`RpcResponse::deserializeBody`** -/
theorem within_responseDeserializeBody (r : RpcResponse) (body : Nat) {length n : Nat} (hn : length ≤ n) :
    Within (InBuffer body length) memory (RpcResponse.deserializeBody r body length)
      (r.deserializeBody (bytesAt memory body n) length) := by
  unfold RpcResponse.deserializeBody GalayRpc.RpcResponse.deserializeBody
  by_cases h2 : length < 2
  · rw [if_pos h2, if_pos h2]
    exact within_pure _
  · rw [if_neg h2, if_neg h2, slice_bytesAt (by omega)]
    refine Within.bind (within_memcpy (by omega) (by omega)) ?_
    dsimp only
    by_cases hlt : length > 2
    · rw [if_pos hlt, if_pos hlt, slice_bytesAt (by omega)]
      exact (within_memcpy (by omega) (by omega)).bind (within_pure _)
    · rw [if_neg hlt, if_neg hlt]
      exact within_pure _

/-- **`StreamInitRequest::deserializeBody`** -/
theorem within_streamInitDeserializeBody (r : StreamInitRequest) (body : Nat) {length n : Nat}
    (hn : length ≤ n) :
    Within (InBuffer body length) memory (StreamInitRequest.deserializeBody r body length)
      (r.deserializeBody (bytesAt memory body n) length) :=
  (within_deserializeNames body hn r.serviceName r.methodName).bind (within_pure _)

/-- **Frames**: the body that the header announces is looked at once it is known to be in the buffer. -/
theorem within_decodeMessage {M : Type} (type : RpcMessageType) (invalid : RpcErrorCode)
    (notType badBody : String) (fromHeader : RpcHeader → M)
    {rawBody : M → Nat → Nat → Access Nat UInt8 (Bool × M)} {listBody : M → Bytes → Nat → Bool × M}
    (hbody : ∀ m body length n, length ≤ n →
      Within (InBuffer body length) memory (rawBody m body length)
        (listBody m (bytesAt memory body n) length)) (data length : Nat) :
    Within (InBuffer data length) memory
      (decodeMessage type invalid notType badBody fromHeader rawBody data length)
      (GalayRpc.decodeMessage type invalid notType badBody fromHeader listBody
        (bytesAt memory data length)) := by
  unfold decodeMessage GalayRpc.decodeMessage
  refine (within_decodeHeader data length {}).bind ?_
  generalize GalayRpc.decodeHeader (bytesAt memory data length) {} = result
  obtain ⟨result, header⟩ := result
  cases result with
  | incomplete => exact within_pure _
  | error => exact within_pure _
  | complete =>
    dsimp only
    rw [bytesAt_length, drop_bytesAt]
    split
    · exact within_pure _
    · by_cases hshort : length < rpcHeaderSize + header.bodyLength.toNat
      · rw [if_pos hshort, if_pos hshort]
        exact within_pure _
      · rw [if_neg hshort, if_neg hshort]
        have hread := hbody (fromHeader header) (data + rpcHeaderSize) header.bodyLength.toNat
          (length - rpcHeaderSize) (by omega)
        refine (hread.mono fun address h => InBuffer.sub h (by omega) (by omega)).bind ?_
        generalize listBody (fromHeader header) (bytesAt memory (data + rpcHeaderSize) (length - rpcHeaderSize))
          header.bodyLength.toNat = result
        obtain ⟨_ | _, message⟩ := result
        · exact within_pure _
        · exact within_pure _

/-- **`decodeRequest`** -/
theorem within_decodeRequest (data length : Nat) :
    Within (InBuffer data length) memory (decodeRequest data length)
      (GalayRpc.decodeRequest (bytesAt memory data length)) :=
  within_decodeMessage _ _ _ _ _ (fun r body _ _ hn => within_requestDeserializeBody r body hn) data length

/-- **`decodeResponse`** -/
theorem within_decodeResponse (data length : Nat) :
    Within (InBuffer data length) memory (decodeResponse data length)
      (GalayRpc.decodeResponse (bytesAt memory data length)) :=
  within_decodeMessage _ _ _ _ _ (fun r body _ _ hn => within_responseDeserializeBody r body hn) data length

end Raw

end GalayRpc
