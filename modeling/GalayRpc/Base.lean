/-
  `protoc/rpc_base.h` and `protoc/rpc_error.h`: the constants, enumerations, header flags and error
  values everything else is written in.

  C++ `enum class`es with a fixed underlying type hold every value of that type, and this protocol
  casts wire bytes straight into them (`static_cast<RpcMessageType>(m_header.m_type)`), so the
  message type and the error code are newtypes of `UInt8` and `UInt16` with the enumerators as
  named values.  The call mode is only ever produced by masking two bits, so it is the four-way
  enumeration itself.

  A 32- or 16-bit integer is put on the wire as `htonl`/`htons` followed by a raw copy, which on
  any host gives the big-endian bytes; `rpcHtonl`/`rpcHtons` return these bytes directly and
  `rpcNtohl`/`rpcNtohs` read them.

  Of galay-kernel's `IOError` the code reads one of its codes and its text.  The text of a kernel
  error is kept symbolic (`ErrorText.kernelMessage`): it is whatever the kernel says.
-/
import GalayRpc.Lib.Bytes

namespace GalayRpc

/-! ## Byte order -/

/-- `rpcHtonl` and the four-byte copy behind it. -/
def rpcHtonl (host : UInt32) : Bytes := beBytes 4 host.toNat

/-- `rpcNtohl` of four bytes off the wire. -/
def rpcNtohl (net : Bytes) : UInt32 := UInt32.ofNat (beNat net)

/-- `rpcHtons` and the two-byte copy behind it. -/
def rpcHtons (host : UInt16) : Bytes := beBytes 2 host.toNat

/-- `rpcNtohs` of two bytes off the wire. -/
def rpcNtohs (net : Bytes) : UInt16 := UInt16.ofNat (beNat net)

@[simp] theorem rpcHtonl_length (v : UInt32) : (rpcHtonl v).length = 4 := beBytes_length ..

@[simp] theorem rpcHtons_length (v : UInt16) : (rpcHtons v).length = 2 := beBytes_length ..

@[simp] theorem rpcNtohl_rpcHtonl (v : UInt32) : rpcNtohl (rpcHtonl v) = v := by
  rw [rpcNtohl, rpcHtonl, beNat_beBytes_of_lt v.toNat_lt, UInt32.ofNat_toNat]

@[simp] theorem rpcNtohs_rpcHtons (v : UInt16) : rpcNtohs (rpcHtons v) = v := by
  rw [rpcNtohs, rpcHtons, beNat_beBytes_of_lt v.toNat_lt, UInt16.ofNat_toNat]

theorem rpcNtohl_toNat {net : Bytes} (h : net.length = 4) : (rpcNtohl net).toNat = beNat net := by
  have hlt := beNat_lt net
  rw [h] at hlt
  exact UInt32.toNat_ofNat_of_lt hlt

theorem rpcNtohs_toNat {net : Bytes} (h : net.length = 2) : (rpcNtohs net).toNat = beNat net := by
  have hlt := beNat_lt net
  rw [h] at hlt
  exact UInt16.toNat_ofNat_of_lt hlt

theorem rpcHtonl_rpcNtohl {net : Bytes} (h : net.length = 4) : rpcHtonl (rpcNtohl net) = net := by
  rw [rpcHtonl, rpcNtohl_toNat h, ← h, beBytes_beNat]

theorem rpcHtons_rpcNtohs {net : Bytes} (h : net.length = 2) : rpcHtons (rpcNtohs net) = net := by
  rw [rpcHtons, rpcNtohs_toNat h, ← h, beBytes_beNat]

/-- A size narrowed to 16 bits and written is the size written in two bytes. -/
theorem rpcHtons_ofNat (n : Nat) : rpcHtons (UInt16.ofNat n) = beBytes 2 n := by
  have hlow := beBytes_mod 2 n 2 (Nat.le_refl _)
  rw [rpcHtons, UInt16.toNat_ofNat']
  exact hlow

/-! ## Message types and call modes -/

/-- `RpcMessageType`: any byte, since header bytes are cast to it unchecked. -/
structure RpcMessageType where
  toByte : UInt8
deriving DecidableEq, Repr

namespace RpcMessageType

def request : RpcMessageType := ⟨0x01⟩
def response : RpcMessageType := ⟨0x02⟩
def streamInit : RpcMessageType := ⟨0x10⟩
def streamInitAck : RpcMessageType := ⟨0x11⟩
def streamData : RpcMessageType := ⟨0x12⟩
def streamEnd : RpcMessageType := ⟨0x13⟩
def streamCancel : RpcMessageType := ⟨0x14⟩

end RpcMessageType

/-- `RpcCallMode`. -/
inductive RpcCallMode where
  | unary
  | clientStreaming
  | serverStreaming
  | bidiStreaming
deriving DecidableEq, Repr

/-- `static_cast<uint8_t>(mode)`. -/
def RpcCallMode.toByte : RpcCallMode → UInt8
  | unary => 0
  | clientStreaming => 1
  | serverStreaming => 2
  | bidiStreaming => 3

def rpcFlagModeMask : UInt8 := 0x03

def rpcFlagEndStream : UInt8 := 0x04

/-- `rpcEncodeFlags`: bits 0-1 the call mode, bit 2 end-of-stream. -/
def rpcEncodeFlags (mode : RpcCallMode) (endStream : Bool) : UInt8 :=
  let flags := mode.toByte &&& rpcFlagModeMask
  if endStream then flags ||| rpcFlagEndStream else flags

/-- `rpcDecodeCallMode`. -/
def rpcDecodeCallMode (flags : UInt8) : RpcCallMode :=
  if flags &&& rpcFlagModeMask = 0 then .unary
  else if flags &&& rpcFlagModeMask = 1 then .clientStreaming
  else if flags &&& rpcFlagModeMask = 2 then .serverStreaming
  else .bidiStreaming

/-- `rpcIsEndStream`. -/
def rpcIsEndStream (flags : UInt8) : Bool := flags &&& rpcFlagEndStream != 0

@[simp] theorem rpcDecodeCallMode_rpcEncodeFlags (mode : RpcCallMode) (endStream : Bool) :
    rpcDecodeCallMode (rpcEncodeFlags mode endStream) = mode := by
  cases mode <;> cases endStream <;> decide

@[simp] theorem rpcIsEndStream_rpcEncodeFlags (mode : RpcCallMode) (endStream : Bool) :
    rpcIsEndStream (rpcEncodeFlags mode endStream) = endStream := by
  cases mode <;> cases endStream <;> decide

/-- Flags with bits 3-7 clear are exactly what `rpcEncodeFlags` makes of their two readings. -/
theorem rpcEncodeFlags_decode {flags : UInt8} (h : flags < 8) :
    rpcEncodeFlags (rpcDecodeCallMode flags) (rpcIsEndStream flags) = flags := by
  have hall : ∀ n : Fin 8, rpcEncodeFlags (rpcDecodeCallMode (UInt8.ofNat n))
      (rpcIsEndStream (UInt8.ofNat n)) = UInt8.ofNat n := by decide
  have hn : flags.toNat < 8 := h
  have := hall ⟨flags.toNat, hn⟩
  simpa using this

/-! ## Sizes -/

/-- `RPC_MAGIC`, "GRPC". -/
def rpcMagic : UInt32 := 0x47525043

/-- `RPC_VERSION`. -/
def rpcVersion : UInt8 := 0x01

/-- `RPC_HEADER_SIZE`. -/
def rpcHeaderSize : Nat := 16

/-- `RPC_MAX_BODY_SIZE`, 16 MiB. -/
def rpcMaxBodySize : Nat := 16 * 1024 * 1024

/-! ## Errors -/

/-- `RpcErrorCode`: any 16-bit value, since response bytes are cast to it unchecked. -/
structure RpcErrorCode where
  toWord : UInt16
deriving DecidableEq, Repr

namespace RpcErrorCode

def ok : RpcErrorCode := ⟨0⟩
def unknownError : RpcErrorCode := ⟨1⟩
def serviceNotFound : RpcErrorCode := ⟨2⟩
def methodNotFound : RpcErrorCode := ⟨3⟩
def invalidRequest : RpcErrorCode := ⟨4⟩
def invalidResponse : RpcErrorCode := ⟨5⟩
def requestTimeout : RpcErrorCode := ⟨6⟩
def connectionClosed : RpcErrorCode := ⟨7⟩
def serializationError : RpcErrorCode := ⟨8⟩
def deserializationError : RpcErrorCode := ⟨9⟩
def internalError : RpcErrorCode := ⟨10⟩

end RpcErrorCode

def rpcErrorCodeToString (code : RpcErrorCode) : String :=
  if code = .ok then "OK"
  else if code = .unknownError then "Unknown error"
  else if code = .serviceNotFound then "Service not found"
  else if code = .methodNotFound then "Method not found"
  else if code = .invalidRequest then "Invalid request"
  else if code = .invalidResponse then "Invalid response"
  else if code = .requestTimeout then "Request timeout"
  else if code = .connectionClosed then "Connection closed"
  else if code = .serializationError then "Serialization error"
  else if code = .deserializationError then "Deserialization error"
  else if code = .internalError then "Internal error"
  else "Unknown"

/-- The galay-kernel error codes this code tests for. -/
inductive IOErrorCode where
  | timeout
  | disconnectError
  | sendFailed
  | other (code : UInt32)
deriving DecidableEq, Repr

/-- galay-kernel's `IOError`: a code beside the system's `errno`. -/
structure IOError where
  code : IOErrorCode
  systemCode : UInt32
deriving DecidableEq, Repr

/-- `IOError::contains(io_error.code(), code)`. -/
def IOError.contains (e : IOError) (code : IOErrorCode) : Bool := e.code == code

/-- The text of an error: a literal of this code, or what the kernel says about an `IOError`. -/
inductive ErrorText where
  | literal (text : String)
  | kernelMessage (e : IOError)
deriving DecidableEq, Repr

/-- `RpcError`. -/
structure RpcError where
  code : RpcErrorCode
  message : ErrorText
deriving DecidableEq, Repr

/-- `RpcError(code, message)` with a literal message. -/
def RpcError.ofText (code : RpcErrorCode) (text : String) : RpcError := ⟨code, .literal text⟩

/-- `RpcError(code)`. -/
def RpcError.ofCode (code : RpcErrorCode) : RpcError := ⟨code, .literal (rpcErrorCodeToString code)⟩

/-- `RpcError::from`: timeouts and disconnections have codes of their own. -/
def RpcError.fromIOError (e : IOError) (defaultCode : RpcErrorCode) : RpcError :=
  if e.contains .timeout then ⟨.requestTimeout, .kernelMessage e⟩
  else if e.contains .disconnectError then ⟨.connectionClosed, .kernelMessage e⟩
  else ⟨defaultCode, .kernelMessage e⟩

end GalayRpc
