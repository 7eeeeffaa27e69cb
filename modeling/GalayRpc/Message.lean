/-
  `protoc/rpc_message.h`: payload views, the header, requests and responses.

  1. **Payload** — a message holds its payload in three members: an owned buffer, a borrowed
     two-segment view, and a flag saying which one counts (`PayloadStore`).  Observers go through
     `bytes`, which is what `payload()` materialises.  A view is polymorphic in its cells: here the
     cells are the bytes themselves (borrowed memory that stays as it is); the offset arithmetic
     that builds a view does not look at them.

  2. **Header** — sixteen bytes; `deserialize` stops behind the magic if that is wrong and accepts
     any version, type, flags and reserved byte.

  3. **Messages** — `serialize` and `deserializeBody` of `RpcRequest` and `RpcResponse`.  A failed
     `deserializeBody` may already have replaced the service name, so it returns the object too.

  What a message *says* is its `RequestMsg` / `ResponseMsg`: identity, mode, names, payload bytes,
  without the buffers.  The wire formats are stated about these (`RequestMsg.frame`,
  `ResponseMsg.frame`), and `serialize` is the frame of what the object says.
-/
import GalayRpc.Base

namespace GalayRpc

/-! ## Payload -/

/-- `RpcPayloadView`: a pointer and a length twice, given by the cells each segment covers. -/
structure RpcPayloadView (α : Type) where
  segment1 : List α := []
  segment2 : List α := []
deriving DecidableEq, Repr

namespace RpcPayloadView

variable {α : Type}

def size (v : RpcPayloadView α) : Nat := v.segment1.length + v.segment2.length

/-- The cells the view covers, in order. -/
def cells (v : RpcPayloadView α) : List α := v.segment1 ++ v.segment2

@[simp] theorem cells_length (v : RpcPayloadView α) : v.cells.length = v.size := by simp [cells, size]

end RpcPayloadView

/-- The members `m_payload`, `m_payload_view` and `m_payload_owned` of a message. -/
structure PayloadStore where
  mPayload : Bytes := []
  mPayloadView : RpcPayloadView UInt8 := {}
  mPayloadOwned : Bool := true
deriving DecidableEq, Repr

namespace PayloadStore

/-- `payload(data, len)` and `payload(vector&&)`. -/
def setBytes (data : Bytes) : PayloadStore :=
  { mPayload := data, mPayloadView := ⟨data, []⟩, mPayloadOwned := true }

/-- `payloadView(view)`: borrow, and drop the owned buffer. -/
def setView (view : RpcPayloadView UInt8) : PayloadStore :=
  { mPayload := [], mPayloadView := view, mPayloadOwned := false }

/-- The owned empty payload a `deserializeBody` without payload bytes leaves. -/
def cleared : PayloadStore := {}

/-- `payloadView()`. -/
def view (p : PayloadStore) : RpcPayloadView UInt8 :=
  if p.mPayloadOwned then ⟨p.mPayload, []⟩ else p.mPayloadView

/-- `payloadSize()`. -/
def size (p : PayloadStore) : Nat :=
  if p.mPayloadOwned then p.mPayload.length else p.mPayloadView.size

/-- `materializePayloadIfNeeded()`: copy a borrowed payload into the owned buffer. -/
def materialize (p : PayloadStore) : PayloadStore :=
  if p.mPayloadOwned then p else setBytes (p.mPayloadView.segment1 ++ p.mPayloadView.segment2)

/-- `payload()`. -/
def bytes (p : PayloadStore) : Bytes := p.materialize.mPayload

theorem view_cells (p : PayloadStore) : p.view.cells = p.bytes := by
  cases h : p.mPayloadOwned <;>
    simp [view, bytes, materialize, RpcPayloadView.cells, setBytes, h]

theorem view_size (p : PayloadStore) : p.view.size = p.bytes.length := by
  rw [← view_cells, RpcPayloadView.cells_length]

@[simp] theorem bytes_setBytes (data : Bytes) : (setBytes data).bytes = data := rfl

@[simp] theorem bytes_setView (v : RpcPayloadView UInt8) : (setView v).bytes = v.cells := rfl

@[simp] theorem bytes_cleared : cleared.bytes = [] := rfl

end PayloadStore

/-! ## Header -/

/-- `RpcHeader`. -/
structure RpcHeader where
  magic : UInt32 := rpcMagic
  version : UInt8 := rpcVersion
  type : UInt8 := 0
  flags : UInt8 := 0
  reserved : UInt8 := 0
  requestId : UInt32 := 0
  bodyLength : UInt32 := 0
deriving DecidableEq, Repr

namespace RpcHeader

/-- `RpcHeader::serialize`: the sixteen bytes written to `buffer`. -/
def serialize (h : RpcHeader) : Bytes :=
  rpcHtonl h.magic ++ [h.version, h.type, h.flags, h.reserved] ++ rpcHtonl h.requestId ++
    rpcHtonl h.bodyLength

/-- `RpcHeader::deserialize` of a sixteen-byte buffer. -/
def deserialize (h : RpcHeader) (buffer : Bytes) : Bool × RpcHeader :=
  let h := { h with magic := rpcNtohl (slice buffer 0 4) }
  if h.magic ≠ rpcMagic then (false, h)
  else
    let h := { h with
      version := buffer.getD 4 0
      type := buffer.getD 5 0
      flags := buffer.getD 6 0
      reserved := buffer.getD 7 0
      requestId := rpcNtohl (slice buffer 8 4)
      bodyLength := rpcNtohl (slice buffer 12 4) }
    (h.bodyLength.toNat ≤ rpcMaxBodySize, h)

/-- The header a buffer denotes, whatever its magic and body length. -/
def ofBytes (buffer : Bytes) : RpcHeader where
  magic := rpcNtohl (slice buffer 0 4)
  version := buffer.getD 4 0
  type := buffer.getD 5 0
  flags := buffer.getD 6 0
  reserved := buffer.getD 7 0
  requestId := rpcNtohl (slice buffer 8 4)
  bodyLength := rpcNtohl (slice buffer 12 4)

/-- What `deserialize` accepts: the protocol's magic and a body within the limit. -/
def Accepted (h : RpcHeader) : Prop := h.magic = rpcMagic ∧ h.bodyLength.toNat ≤ rpcMaxBodySize

instance (h : RpcHeader) : Decidable h.Accepted := inferInstanceAs (Decidable (_ ∧ _))

/-- `deserialize` accepts exactly the headers in `Accepted`, whatever was in the object. -/
theorem deserialize_fst (h : RpcHeader) (buffer : Bytes) :
    (h.deserialize buffer).1 = true ↔ (ofBytes buffer).Accepted := by
  unfold deserialize Accepted ofBytes
  by_cases hm : rpcNtohl (slice buffer 0 4) = rpcMagic <;> simp [hm]

/-- ... and then fills every field from the buffer. -/
theorem deserialize_snd {h : RpcHeader} {buffer : Bytes} (hm : (ofBytes buffer).magic = rpcMagic) :
    (h.deserialize buffer).2 = ofBytes buffer := by
  simp only [ofBytes] at hm
  simp [deserialize, ofBytes, hm]

/-- A header that is accepted is read whatever the object held before. -/
theorem deserialize_of_accepted (h : RpcHeader) {buffer : Bytes} (ha : (ofBytes buffer).Accepted) :
    h.deserialize buffer = (true, ofBytes buffer) :=
  Prod.ext ((deserialize_fst h buffer).mpr ha) (deserialize_snd ha.1)

/-- A header that is not may still leave its fields in the object. -/
theorem deserialize_of_refused (h : RpcHeader) {buffer : Bytes} (ha : ¬ (ofBytes buffer).Accepted) :
    ∃ header, h.deserialize buffer = (false, header) := by
  have hfst : (h.deserialize buffer).1 = false :=
    Bool.eq_false_iff.mpr fun htrue => ha ((deserialize_fst h buffer).mp htrue)
  exact ⟨_, Prod.ext hfst rfl⟩

@[simp] theorem serialize_length (h : RpcHeader) : h.serialize.length = rpcHeaderSize := by
  simp [serialize, rpcHeaderSize]

/-- A header reads back as itself, whatever follows it. -/
theorem ofBytes_serialize (h : RpcHeader) (t : Bytes) : ofBytes (h.serialize ++ t) = h := by
  obtain ⟨magic, version, type, flags, reserved, requestId, bodyLength⟩ := h
  obtain ⟨a0, a1, a2, a3, ha⟩ := List.length_eq_four.mp (rpcHtonl_length magic)
  obtain ⟨b0, b1, b2, b3, hb⟩ := List.length_eq_four.mp (rpcHtonl_length requestId)
  obtain ⟨c0, c1, c2, c3, hc⟩ := List.length_eq_four.mp (rpcHtonl_length bodyLength)
  have hmagic := rpcNtohl_rpcHtonl magic
  have hid := rpcNtohl_rpcHtonl requestId
  have hlen := rpcNtohl_rpcHtonl bodyLength
  rw [ha] at hmagic
  rw [hb] at hid
  rw [hc] at hlen
  simp [ofBytes, serialize, ha, hb, hc, slice, hmagic, hid, hlen]

/-- Sixteen bytes are the header they denote. -/
theorem serialize_ofBytes {buffer : Bytes} (h : buffer.length = rpcHeaderSize) :
    (ofBytes buffer).serialize = buffer := by
  simp only [rpcHeaderSize] at h
  have hparts : buffer = slice buffer 0 4 ++ slice buffer 4 4 ++ slice buffer 8 4 ++ slice buffer 12 4 := by
    rw [← slice_add, ← slice_add, ← slice_add, slice_from_zero, List.take_of_length_le (by omega)]
  have hmid : [buffer.getD 4 0, buffer.getD 5 0, buffer.getD 6 0, buffer.getD 7 0] = slice buffer 4 4 := by
    obtain ⟨a, b, c, d, rest, hdrop⟩ : ∃ a b c d rest, buffer.drop 4 = a :: b :: c :: d :: rest := by
      rcases hd : buffer.drop 4 with _ | ⟨a, _ | ⟨b, _ | ⟨c, _ | ⟨d, rest⟩⟩⟩⟩
      all_goals
        have hlen := congrArg List.length hd
        simp only [List.length_drop, List.length_cons, List.length_nil] at hlen
      · omega
      · omega
      · omega
      · omega
      · exact ⟨a, b, c, d, rest, rfl⟩
    have hget : ∀ i, buffer.getD (4 + i) 0 = (a :: b :: c :: d :: rest).getD i 0 := by
      intro i
      rw [← hdrop, List.getD_eq_getElem?_getD, List.getD_eq_getElem?_getD, List.getElem?_drop]
    rw [slice, hdrop, hget 0, hget 1, hget 2, hget 3]
    rfl
  have hword : ∀ off, off + 4 ≤ 16 → rpcHtonl (rpcNtohl (slice buffer off 4)) = slice buffer off 4 :=
    fun off hoff => rpcHtonl_rpcNtohl (slice_length_of_le _ (by omega))
  conv_rhs => rw [hparts]
  simp only [serialize, ofBytes, hmid]
  rw [hword 0 (by omega), hword 8 (by omega), hword 12 (by omega)]

/-- A header is decided by the first sixteen bytes. -/
theorem ofBytes_append {buffer : Bytes} (h : rpcHeaderSize ≤ buffer.length) (t : Bytes) :
    ofBytes (buffer ++ t) = ofBytes buffer := by
  have hsplit : buffer = (ofBytes (buffer.take rpcHeaderSize)).serialize ++ buffer.drop rpcHeaderSize := by
    rw [serialize_ofBytes (by rw [List.length_take]; omega), List.take_append_drop]
  rw [hsplit, List.append_assoc, ofBytes_serialize, ofBytes_serialize]

theorem ofBytes_take {buffer : Bytes} (h : rpcHeaderSize ≤ buffer.length) :
    ofBytes (buffer.take rpcHeaderSize) = ofBytes buffer := by
  conv_rhs => rw [← List.take_append_drop rpcHeaderSize buffer]
  exact (ofBytes_append (by rw [List.length_take]; omega) _).symm

end RpcHeader

/-! ## Two names in front of a body

  A request body and a `STREAM_INIT` body both start with the service name and the method name, each
  behind its two-byte length, written and read by the same statements in both classes. -/

/-- The name fields `serialize` writes. -/
def serializeNames (service method : Bytes) : Bytes :=
  rpcHtons (UInt16.ofNat service.length) ++ service ++
    rpcHtons (UInt16.ofNat method.length) ++ method

/-- The name fields `deserializeBody` reads, into the two strings `service` and `method`: the offset
    behind them (`none` when it returns false), and what the strings hold then.  `body` is what lies
    at the pointer, which may go on behind `length`. -/
def deserializeNames (body : Bytes) (length : Nat) (service method : Bytes) :
    Option Nat × Bytes × Bytes :=
  if length < 4 then (none, service, method)
  else
    let serviceLen := (rpcNtohs (slice body 0 2)).toNat
    if 2 + serviceLen > length then (none, service, method)
    else
      let service := slice body 2 serviceLen
      let offset := 2 + serviceLen
      if offset + 2 > length then (none, service, method)
      else
        let methodLen := (rpcNtohs (slice body offset 2)).toNat
        let offset := offset + 2
        if offset + methodLen > length then (none, service, method)
        else (some (offset + methodLen), service, slice body offset methodLen)

/-- What two name fields in front of a string say: the names and the rest. -/
def splitNames (b : Bytes) : Option (Bytes × Bytes × Bytes) := do
  let (service, b) ← takeField b
  let (method, b) ← takeField b
  return (service, method, b)

theorem serializeNames_eq (service method : Bytes) :
    serializeNames service method = putField service ++ putField method := by
  simp only [serializeNames, putField, rpcHtons_ofNat, List.append_assoc]

@[simp] theorem serializeNames_length (service method : Bytes) :
    (serializeNames service method).length = 4 + service.length + method.length := by
  rw [serializeNames_eq, List.length_append, putField_length, putField_length]
  omega

theorem splitNames_eq_some {b s m p : Bytes} :
    splitNames b = some (s, m, p) ↔
      s.length < 65536 ∧ m.length < 65536 ∧ b = serializeNames s m ++ p := by
  rw [serializeNames_eq]
  constructor
  · intro h
    simp only [splitNames, Option.bind_eq_bind, Option.bind_eq_some_iff, Option.pure_def,
      Option.some.injEq, Prod.mk.injEq] at h
    obtain ⟨⟨s', b'⟩, h1, ⟨m', p'⟩, h2, rfl, rfl, rfl⟩ := h
    obtain ⟨hs, rfl⟩ := takeField_eq_some.mp h1
    obtain ⟨hm, rfl⟩ := takeField_eq_some.mp h2
    exact ⟨hs, hm, by rw [List.append_assoc]⟩
  · rintro ⟨hs, hm, rfl⟩
    simp only [splitNames, List.append_assoc, takeField_putField hs, takeField_putField hm,
      Option.bind_eq_bind, Option.bind_some, Option.pure_def]

/-- `splitNames` of a slice by offsets.  The second length is read wherever the first one points; when
    that is already behind the slice the test fails whatever the two bytes there are. -/
theorem splitNames_slice {l : Bytes} {off n : Nat} (h : off + n ≤ l.length) :
    splitNames (slice l off n) =
      if 4 + beNat (slice l off 2) + beNat (slice l (off + 2 + beNat (slice l off 2)) 2) ≤ n then
        some (slice l (off + 2) (beNat (slice l off 2)),
          slice l (off + 4 + beNat (slice l off 2))
            (beNat (slice l (off + 2 + beNat (slice l off 2)) 2)),
          slice l (off + 4 + beNat (slice l off 2) +
              beNat (slice l (off + 2 + beNat (slice l off 2)) 2))
            (n - (4 + beNat (slice l off 2) + beNat (slice l (off + 2 + beNat (slice l off 2)) 2))))
      else none := by
  rw [splitNames, takeField_slice h]
  generalize beNat (slice l off 2) = k
  by_cases hk : 2 + k ≤ n
  · rw [if_pos hk]
    simp only [Option.bind_eq_bind, Option.bind_some, Option.pure_def]
    rw [takeField_slice (by omega)]
    generalize beNat (slice l (off + 2 + k) 2) = j
    by_cases hj : 2 + j ≤ n - (2 + k)
    · have e1 : off + 2 + k + 2 = off + 4 + k := by omega
      have e2 : off + 4 + k + j = off + 2 + k + 2 + j := by omega
      have e3 : n - (2 + k) - (2 + j) = n - (4 + k + j) := by omega
      rw [if_pos hj, if_pos (by omega), Option.bind_some, ← e2, e1, e3]
    · rw [if_neg hj, if_neg (by omega), Option.bind_none]
  · rw [if_neg hk, if_neg (by omega)]
    rfl

/-- **Names are read exactly.**  `deserializeNames` accepts the bodies that start with two name
    fields, and reads these. -/
theorem deserializeNames_spec {body : Bytes} {length : Nat} (h : length ≤ body.length)
    (service method : Bytes) :
    match splitNames (body.take length) with
    | some (s, m, p) => deserializeNames body length service method = (some (length - p.length), s, m)
    | none => (deserializeNames body length service method).1 = none := by
  rw [← slice_from_zero, splitNames_slice (by omega)]
  simp only [Nat.zero_add]
  by_cases h4 : length < 4
  · rw [if_neg (by omega)]
    simp only [deserializeNames, if_pos h4]
  · have hk : (rpcNtohs (slice body 0 2)).toNat = beNat (slice body 0 2) :=
      rpcNtohs_toNat (slice_length_of_le _ (by omega))
    unfold deserializeNames
    rw [if_neg h4, hk]
    generalize beNat (slice body 0 2) = k
    by_cases h1 : 2 + k > length
    · rw [if_neg (by omega)]
      simp only [if_pos h1]
    · by_cases h2 : 2 + k + 2 > length
      · rw [if_neg (by omega)]
        simp only [if_neg h1, if_pos h2]
      · have hj : (rpcNtohs (slice body (2 + k) 2)).toNat = beNat (slice body (2 + k) 2) :=
          rpcNtohs_toNat (slice_length_of_le _ (by omega))
        simp only [if_neg h1, if_neg h2, hj]
        generalize beNat (slice body (2 + k) 2) = j
        have e1 : 2 + k + 2 = 4 + k := by omega
        rw [e1]
        by_cases h3 : 4 + k + j > length
        · rw [if_neg (by omega)]
          simp only [if_pos h3]
        · rw [if_pos (by omega), if_neg h3]
          have hlen : (slice body (4 + k + j) (length - (4 + k + j))).length =
              length - (4 + k + j) := slice_length_of_le _ (by omega)
          simp only [hlen]
          congr 2
          omega

/-! ## Requests -/

/-- `RpcRequest`. -/
structure RpcRequest where
  requestId : UInt32 := 0
  callMode : RpcCallMode := .unary
  endOfStream : Bool := true
  serviceName : Bytes := []
  methodName : Bytes := []
  store : PayloadStore := {}
deriving DecidableEq, Repr

/-- What a request says. -/
structure RequestMsg where
  requestId : UInt32
  callMode : RpcCallMode
  endOfStream : Bool
  serviceName : Bytes
  methodName : Bytes
  payload : Bytes
deriving DecidableEq, Repr

namespace RpcRequest

/-- `payload()`. -/
def payload (r : RpcRequest) : Bytes := r.store.bytes

/-- `payloadView()`. -/
def payloadView (r : RpcRequest) : RpcPayloadView UInt8 := r.store.view

/-- What the request says. -/
def msg (r : RpcRequest) : RequestMsg :=
  ⟨r.requestId, r.callMode, r.endOfStream, r.serviceName, r.methodName, r.payload⟩

/-- `body_size` of `serialize()` and of the write state. -/
def bodySize (r : RpcRequest) : Nat :=
  2 + r.serviceName.length + 2 + r.methodName.length + r.payloadView.size

/-- The header `serialize()` and the write state fill in; the body size is narrowed to 32 bits. -/
def header (r : RpcRequest) : RpcHeader where
  type := RpcMessageType.request.toByte
  flags := rpcEncodeFlags r.callMode r.endOfStream
  requestId := r.requestId
  bodyLength := UInt32.ofNat r.bodySize

/-- `RpcRequest::serialize`. -/
def serialize (r : RpcRequest) : Bytes :=
  r.header.serialize ++
    (serializeNames r.serviceName r.methodName ++ r.payloadView.segment1 ++ r.payloadView.segment2)

/-- `RpcRequest::deserializeBody`. -/
def deserializeBody (r : RpcRequest) (body : Bytes) (length : Nat) : Bool × RpcRequest :=
  match deserializeNames body length r.serviceName r.methodName with
  | (none, service, method) => (false, { r with serviceName := service, methodName := method })
  | (some offset, service, method) =>
    let r := { r with serviceName := service, methodName := method }
    if offset < length then
      (true, { r with store := .setBytes (slice body offset (length - offset)) })
    else (true, { r with store := .cleared })

end RpcRequest

/-! ## Responses -/

/-- `RpcResponse`. -/
structure RpcResponse where
  requestId : UInt32 := 0
  callMode : RpcCallMode := .unary
  endOfStream : Bool := true
  errorCode : RpcErrorCode := .ok
  store : PayloadStore := {}
deriving DecidableEq, Repr

/-- What a response says. -/
structure ResponseMsg where
  requestId : UInt32
  callMode : RpcCallMode
  endOfStream : Bool
  errorCode : RpcErrorCode
  payload : Bytes
deriving DecidableEq, Repr

namespace RpcResponse

/-- `payload()`. -/
def payload (r : RpcResponse) : Bytes := r.store.bytes

/-- `payloadView()`. -/
def payloadView (r : RpcResponse) : RpcPayloadView UInt8 := r.store.view

/-- What the response says. -/
def msg (r : RpcResponse) : ResponseMsg :=
  ⟨r.requestId, r.callMode, r.endOfStream, r.errorCode, r.payload⟩

/-- `body_size` of `serialize()` and of the write state. -/
def bodySize (r : RpcResponse) : Nat := 2 + r.payloadView.size

/-- The header `serialize()` and the write state fill in. -/
def header (r : RpcResponse) : RpcHeader where
  type := RpcMessageType.response.toByte
  flags := rpcEncodeFlags r.callMode r.endOfStream
  requestId := r.requestId
  bodyLength := UInt32.ofNat r.bodySize

/-- `RpcResponse::serialize`. -/
def serialize (r : RpcResponse) : Bytes :=
  r.header.serialize ++
    (rpcHtons r.errorCode.toWord ++ r.payloadView.segment1 ++ r.payloadView.segment2)

/-- `RpcResponse::deserializeBody`. -/
def deserializeBody (r : RpcResponse) (body : Bytes) (length : Nat) : Bool × RpcResponse :=
  if length < 2 then (false, r)
  else
    let r := { r with errorCode := ⟨rpcNtohs (slice body 0 2)⟩ }
    if length > 2 then (true, { r with store := .setBytes (slice body 2 (length - 2)) })
    else (true, { r with store := .cleared })

end RpcResponse

/-! ## The wire formats -/

namespace RequestMsg

/-- The body a request is sent in. -/
def body (m : RequestMsg) : Bytes := serializeNames m.serviceName m.methodName ++ m.payload

/-- The header a request is sent under. -/
def header (m : RequestMsg) : RpcHeader where
  type := RpcMessageType.request.toByte
  flags := rpcEncodeFlags m.callMode m.endOfStream
  requestId := m.requestId
  bodyLength := UInt32.ofNat m.body.length

/-- A whole request on the wire. -/
def frame (m : RequestMsg) : Bytes := m.header.serialize ++ m.body

/-- The requests the format can express: both names have a two-byte length and the body respects the
    protocol's limit. -/
structure WellFormed (m : RequestMsg) : Prop where
  service : m.serviceName.length < 65536
  method : m.methodName.length < 65536
  size : m.body.length ≤ rpcMaxBodySize

instance (m : RequestMsg) : Decidable m.WellFormed :=
  decidable_of_iff
    (m.serviceName.length < 65536 ∧ m.methodName.length < 65536 ∧ m.body.length ≤ rpcMaxBodySize)
    ⟨fun h => ⟨h.1, h.2.1, h.2.2⟩, fun h => ⟨h.service, h.method, h.size⟩⟩

theorem body_length (m : RequestMsg) :
    m.body.length = 4 + m.serviceName.length + m.methodName.length + m.payload.length := by
  rw [body, List.length_append, serializeNames_length]

theorem frame_length (m : RequestMsg) : m.frame.length = rpcHeaderSize + m.body.length := by
  rw [frame, List.length_append, RpcHeader.serialize_length]

end RequestMsg

namespace ResponseMsg

/-- The body a response is sent in. -/
def body (m : ResponseMsg) : Bytes := rpcHtons m.errorCode.toWord ++ m.payload

/-- The header a response is sent under. -/
def header (m : ResponseMsg) : RpcHeader where
  type := RpcMessageType.response.toByte
  flags := rpcEncodeFlags m.callMode m.endOfStream
  requestId := m.requestId
  bodyLength := UInt32.ofNat m.body.length

/-- A whole response on the wire. -/
def frame (m : ResponseMsg) : Bytes := m.header.serialize ++ m.body

/-- The responses the format can express. -/
def WellFormed (m : ResponseMsg) : Prop := m.body.length ≤ rpcMaxBodySize

instance (m : ResponseMsg) : Decidable m.WellFormed := inferInstanceAs (Decidable (_ ≤ _))

theorem body_length (m : ResponseMsg) : m.body.length = 2 + m.payload.length := by
  rw [body, List.length_append, rpcHtons_length]

theorem frame_length (m : ResponseMsg) : m.frame.length = rpcHeaderSize + m.body.length := by
  rw [frame, List.length_append, RpcHeader.serialize_length]

end ResponseMsg

theorem RpcRequest.bodySize_eq (r : RpcRequest) : r.bodySize = r.msg.body.length := by
  rw [RequestMsg.body_length, bodySize, payloadView, PayloadStore.view_size]
  simp only [msg, payload]
  omega

theorem RpcRequest.header_eq (r : RpcRequest) : r.header = r.msg.header := by
  rw [header, bodySize_eq]
  rfl

/-- The bytes a request serializes to are the frame of what it says. -/
theorem RpcRequest.serialize_eq (r : RpcRequest) : r.serialize = r.msg.frame := by
  have hcells : r.payloadView.segment1 ++ r.payloadView.segment2 = r.payload :=
    PayloadStore.view_cells r.store
  rw [serialize, header_eq, List.append_assoc, hcells]
  rfl

theorem RpcResponse.bodySize_eq (r : RpcResponse) : r.bodySize = r.msg.body.length := by
  rw [ResponseMsg.body_length, bodySize, payloadView, PayloadStore.view_size]
  rfl

theorem RpcResponse.header_eq (r : RpcResponse) : r.header = r.msg.header := by
  rw [header, bodySize_eq]
  rfl

/-- The bytes a response serializes to are the frame of what it says. -/
theorem RpcResponse.serialize_eq (r : RpcResponse) : r.serialize = r.msg.frame := by
  have hcells : r.payloadView.segment1 ++ r.payloadView.segment2 = r.payload :=
    PayloadStore.view_cells r.store
  rw [serialize, header_eq, List.append_assoc, hcells]
  rfl

/-- **Request bodies are read exactly.** -/
theorem RpcRequest.deserializeBody_spec {body : Bytes} {length : Nat} (h : length ≤ body.length)
    (r : RpcRequest) :
    match splitNames (body.take length) with
    | some (s, m, p) => (r.deserializeBody body length).1 = true ∧
        (r.deserializeBody body length).2.msg =
          ⟨r.requestId, r.callMode, r.endOfStream, s, m, p⟩
    | none => (r.deserializeBody body length).1 = false := by
  have hnames := deserializeNames_spec h r.serviceName r.methodName
  split at hnames
  · rename_i s m p hsplit
    obtain ⟨-, -, hb⟩ := splitNames_eq_some.mp hsplit
    have hlen := congrArg List.length hb
    rw [List.length_append, List.length_take, Nat.min_eq_left h] at hlen
    have hp : p = slice body (length - p.length) p.length := by
      have hdrop : (body.take length).drop (length - p.length) = p := by
        rw [hb]
        exact List.drop_left' (by omega)
      rw [List.drop_take] at hdrop
      have hcount : length - (length - p.length) = p.length := by omega
      rw [hcount] at hdrop
      exact hdrop.symm
    simp only [deserializeBody, hnames]
    by_cases hlt : length - p.length < length
    · have hcount : length - (length - p.length) = p.length := by omega
      rw [if_pos hlt, hcount, ← hp]
      exact ⟨rfl, rfl⟩
    · have hnil : p = [] := List.eq_nil_of_length_eq_zero (by omega)
      rw [if_neg hlt, hnil]
      exact ⟨rfl, rfl⟩
  · unfold deserializeBody
    generalize hd : deserializeNames body length r.serviceName r.methodName = d at hnames ⊢
    obtain ⟨off, s, m⟩ := d
    have hoff : off = none := hnames
    subst hoff
    rfl

/-- **Response bodies are read exactly.** -/
theorem RpcResponse.deserializeBody_spec (body : Bytes) (length : Nat) (r : RpcResponse) :
    if length < 2 then (r.deserializeBody body length).1 = false
    else (r.deserializeBody body length).1 = true ∧
      (r.deserializeBody body length).2.msg =
        ⟨r.requestId, r.callMode, r.endOfStream, ⟨rpcNtohs (slice body 0 2)⟩,
          slice body 2 (length - 2)⟩ := by
  unfold deserializeBody
  by_cases h2 : length < 2
  · rw [if_pos h2, if_pos h2]
  · rw [if_neg h2, if_neg h2]
    by_cases hlt : length > 2
    · simp only [if_pos hlt]
      exact ⟨trivial, rfl⟩
    · have hzero : length - 2 = 0 := by omega
      simp only [if_neg hlt, hzero, slice_zero]
      exact ⟨trivial, rfl⟩

end GalayRpc
