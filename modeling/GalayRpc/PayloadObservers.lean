/-
  Payload observers of `RpcRequest`, `RpcResponse` and `StreamMessage`, over whole runs of calls.

  The three classes have the same payload members and the same statements for them; what differs is the
  body they deserialize, the frame they serialize to and which calls they have.

  1. **Objects** — each class with the members of `Payload.lean`, its `serialize` and its
     `deserializeBody`.  An object whose members read as a store serializes and deserializes as the
     message with that store does.

  2. **Calls (`PayloadClass`)** — setters and observers as steps, and writes to memory between them.  Kept
     beside the object: the bytes of the last setter that has succeeded.

  3. **Runs** — the object holds these bytes (`Holds`) after every step, so each observer reports them,
     after any observers that were called before it.
-/
import GalayRpc.Payload
import GalayRpc.Stream
import GalayRpc.Lib.Run

namespace GalayRpc

/-! ## The three classes

  A request, a response or a stream message with its payload members as above.  `toRequest` and its
  like are what the object is when the members read as a store. -/

/-- `RpcRequest`. -/
structure RpcRequestObject extends PayloadMembers where
  requestId : UInt32 := 0
  callMode : RpcCallMode := .unary
  endOfStream : Bool := true
  serviceName : Bytes := []
  methodName : Bytes := []
deriving DecidableEq, Repr

namespace RpcRequestObject

/-- `RpcRequest::serialize`. -/
def serialize (memory : Nat → UInt8) (r : RpcRequestObject) : Option Bytes := do
  let payloadView := r.payloadView
  let bodySize := 2 + r.serviceName.length + 2 + r.methodName.length + payloadView.size
  let header : RpcHeader := {
    type := RpcMessageType.request.toByte
    flags := rpcEncodeFlags r.callMode r.endOfStream
    requestId := r.requestId
    bodyLength := UInt32.ofNat bodySize }
  let segment1 ← payloadView.segment1.mapM (r.read memory)
  let segment2 ← payloadView.segment2.mapM (r.read memory)
  some (header.serialize ++ (serializeNames r.serviceName r.methodName ++ segment1 ++ segment2))

/-- `RpcRequest::deserializeBody`. -/
def deserializeBody (r : RpcRequestObject) (body : Bytes) (length : Nat) : Bool × RpcRequestObject :=
  match deserializeNames body length r.serviceName r.methodName with
  | (none, service, method) => (false, { r with serviceName := service, methodName := method })
  | (some offset, service, method) =>
    let r := { r with serviceName := service, methodName := method }
    if offset < length then
      (true, { r with toPayloadMembers := .setBytes (slice body offset (length - offset)) })
    else (true, { r with toPayloadMembers := .cleared })

/-- The request, with `store` for its payload members. -/
def toRequest (r : RpcRequestObject) (store : PayloadStore) : RpcRequest where
  requestId := r.requestId
  callMode := r.callMode
  endOfStream := r.endOfStream
  serviceName := r.serviceName
  methodName := r.methodName
  store := store

variable {memory : Nat → UInt8} {r : RpcRequestObject} {store : PayloadStore}

theorem serialize_eq (h : r.Reads memory store) : r.serialize memory = some (r.toRequest store).serialize := by
  unfold serialize
  dsimp only
  rw [h.payloadView_size]
  exact h.bind_segments _

/-- The body is deserialized as the request that the object reads as deserializes it. -/
theorem deserializeBody_reads (h : r.Reads memory store) (body : Bytes) (length : Nat) :
    ∃ store', (r.deserializeBody body length).2.Reads memory store' ∧
      (r.toRequest store).deserializeBody body length =
        ((r.deserializeBody body length).1, (r.deserializeBody body length).2.toRequest store') := by
  unfold deserializeBody RpcRequest.deserializeBody
  have hnames : deserializeNames body length (r.toRequest store).serviceName (r.toRequest store).methodName =
      deserializeNames body length r.serviceName r.methodName := rfl
  rw [hnames]
  generalize deserializeNames body length r.serviceName r.methodName = names
  obtain ⟨_ | offset, service, method⟩ := names
  · exact ⟨store, h, rfl⟩
  · dsimp only
    by_cases hlt : offset < length
    · rw [if_pos hlt, if_pos hlt]
      exact ⟨_, PayloadMembers.reads_setBytes memory _, rfl⟩
    · rw [if_neg hlt, if_neg hlt]
      exact ⟨_, PayloadMembers.reads_cleared memory, rfl⟩

/-- A body that is refused leaves the payload. -/
theorem deserializeBody_false {body : Bytes} {length : Nat}
    (h : (r.deserializeBody body length).1 = false) :
    (r.deserializeBody body length).2.toPayloadMembers = r.toPayloadMembers := by
  unfold deserializeBody at h ⊢
  generalize deserializeNames body length r.serviceName r.methodName = names at h ⊢
  obtain ⟨_ | offset, service, method⟩ := names
  · rfl
  · dsimp only at h
    split at h
    · cases h
    · cases h

end RpcRequestObject

/-- `RpcResponse`. -/
structure RpcResponseObject extends PayloadMembers where
  requestId : UInt32 := 0
  callMode : RpcCallMode := .unary
  endOfStream : Bool := true
  errorCode : RpcErrorCode := .ok
deriving DecidableEq, Repr

namespace RpcResponseObject

/-- `RpcResponse::serialize`. -/
def serialize (memory : Nat → UInt8) (r : RpcResponseObject) : Option Bytes := do
  let payloadView := r.payloadView
  let bodySize := 2 + payloadView.size
  let header : RpcHeader := {
    type := RpcMessageType.response.toByte
    flags := rpcEncodeFlags r.callMode r.endOfStream
    requestId := r.requestId
    bodyLength := UInt32.ofNat bodySize }
  let segment1 ← payloadView.segment1.mapM (r.read memory)
  let segment2 ← payloadView.segment2.mapM (r.read memory)
  some (header.serialize ++ (rpcHtons r.errorCode.toWord ++ segment1 ++ segment2))

/-- `RpcResponse::deserializeBody`. -/
def deserializeBody (r : RpcResponseObject) (body : Bytes) (length : Nat) : Bool × RpcResponseObject :=
  if length < 2 then (false, r)
  else
    let r := { r with errorCode := ⟨rpcNtohs (slice body 0 2)⟩ }
    if length > 2 then (true, { r with toPayloadMembers := .setBytes (slice body 2 (length - 2)) })
    else (true, { r with toPayloadMembers := .cleared })

/-- The response, with `store` for its payload members. -/
def toResponse (r : RpcResponseObject) (store : PayloadStore) : RpcResponse where
  requestId := r.requestId
  callMode := r.callMode
  endOfStream := r.endOfStream
  errorCode := r.errorCode
  store := store

variable {memory : Nat → UInt8} {r : RpcResponseObject} {store : PayloadStore}

theorem serialize_eq (h : r.Reads memory store) :
    r.serialize memory = some (r.toResponse store).serialize := by
  unfold serialize
  dsimp only
  rw [h.payloadView_size]
  exact h.bind_segments _

/-- The body is deserialized as the response that the object reads as deserializes it. -/
theorem deserializeBody_reads (h : r.Reads memory store) (body : Bytes) (length : Nat) :
    ∃ store', (r.deserializeBody body length).2.Reads memory store' ∧
      (r.toResponse store).deserializeBody body length =
        ((r.deserializeBody body length).1, (r.deserializeBody body length).2.toResponse store') := by
  unfold deserializeBody RpcResponse.deserializeBody
  by_cases h2 : length < 2
  · rw [if_pos h2, if_pos h2]
    exact ⟨store, h, rfl⟩
  · rw [if_neg h2, if_neg h2]
    dsimp only
    by_cases hlt : length > 2
    · rw [if_pos hlt, if_pos hlt]
      exact ⟨_, PayloadMembers.reads_setBytes memory _, rfl⟩
    · rw [if_neg hlt, if_neg hlt]
      exact ⟨_, PayloadMembers.reads_cleared memory, rfl⟩

/-- A body that is refused leaves the payload. -/
theorem deserializeBody_false {body : Bytes} {length : Nat}
    (h : (r.deserializeBody body length).1 = false) :
    (r.deserializeBody body length).2.toPayloadMembers = r.toPayloadMembers := by
  unfold deserializeBody at h ⊢
  split
  · rfl
  · rename_i h2
    rw [if_neg h2] at h
    dsimp only at h
    split at h
    · cases h
    · cases h

end RpcResponseObject

/-- `StreamMessage`. -/
structure StreamMessageObject extends PayloadMembers where
  streamId : UInt32 := 0
  isEnd : Bool := false
  messageType : RpcMessageType := .streamData
deriving DecidableEq, Repr

namespace StreamMessageObject

/-- `StreamMessage::serialize`. -/
def serialize (memory : Nat → UInt8) (m : StreamMessageObject) (type : RpcMessageType) : Option Bytes := do
  let payloadView := m.payloadView
  let bodySize := payloadView.size
  let header : RpcHeader := {
    type := type.toByte
    requestId := m.streamId
    bodyLength := UInt32.ofNat bodySize }
  let segment1 ← payloadView.segment1.mapM (m.read memory)
  let segment2 ← payloadView.segment2.mapM (m.read memory)
  some (header.serialize ++ segment1 ++ segment2)

/-- `StreamMessage::deserializeBody`. -/
def deserializeBody (m : StreamMessageObject) (body : Bytes) (length : Nat) : Bool × StreamMessageObject :=
  if length > 0 then (true, { m with toPayloadMembers := .setBytes (slice body 0 length) })
  else (true, { m with toPayloadMembers := .cleared })

/-- The message, with `store` for its payload members. -/
def toMessage (m : StreamMessageObject) (store : PayloadStore) : StreamMessage where
  streamId := m.streamId
  store := store
  isEnd := m.isEnd
  messageType := m.messageType

variable {memory : Nat → UInt8} {m : StreamMessageObject} {store : PayloadStore}

theorem serialize_eq (h : m.Reads memory store) (type : RpcMessageType) :
    m.serialize memory type = some ((m.toMessage store).serialize type) := by
  unfold serialize
  dsimp only
  rw [h.payloadView_size]
  exact h.bind_segments _

/-- Every body is a payload. -/
theorem deserializeBody_reads (memory : Nat → UInt8) (m : StreamMessageObject) {body : Bytes} {length : Nat}
    (hlen : length ≤ body.length) :
    ∃ store', (m.deserializeBody body length).2.Reads memory store' ∧
      store'.bytes = body.take length := by
  unfold deserializeBody
  by_cases hpos : length > 0
  · rw [if_pos hpos]
    exact ⟨_, PayloadMembers.reads_setBytes memory _, slice_from_zero body length⟩
  · obtain rfl : length = 0 := by omega
    rw [if_neg hpos]
    exact ⟨_, PayloadMembers.reads_cleared memory, List.take_zero.symm⟩

end StreamMessageObject

/-! ## Calls -/

/-- The observers; `A` is what `serialize` takes. -/
inductive PayloadObserver (A : Type) where
  | payload
  | payloadSize
  | payloadView
  | serialize (type : A)
  | payloadStr
  | payloadEquals (expected : Bytes)
deriving DecidableEq, Repr

/-- What an observer returns; a view as it reads. -/
inductive PayloadAnswer where
  | bytes (bytes : Bytes)
  | size (size : Nat)
  | view (view : RpcPayloadView UInt8)
  | equal (equal : Bool)
deriving DecidableEq, Repr

/-- The calls, and what somebody else writes to memory.  `copy` is `payload(data, len)` and
    `payload(const std::string&)`, `move` is `payload(vector&&)`, `borrow` is `payloadView(view)`. -/
inductive PayloadAction (A : Type) where
  | copy (data : Bytes)
  | move (data : Bytes)
  | borrow (view : RpcPayloadView Nat)
  | deserializeBody (body : Bytes) (length : Nat)
  | observe (observer : PayloadObserver A)
  | write (memory : Nat → UInt8)

/-- `RpcRequest` and `RpcResponse` have neither `payloadStr` nor `payloadEquals`. -/
def PayloadAction.ofRpcMessage {A : Type} : PayloadAction A → Bool
  | .observe .payloadStr => false
  | .observe (.payloadEquals _) => false
  | _ => true

/-- `StreamMessage` takes no vector. -/
def PayloadAction.ofStreamMessage {A : Type} : PayloadAction A → Bool
  | .move _ => false
  | _ => true

/-- A class with payload members: how it deserializes a body and serializes itself, which calls it has,
    and what these are to do.  `bodyPayload` is the payload a body carries, `frame` what an object with
    a payload is serialized to. -/
structure PayloadClass (M A : Type) where
  members : M → PayloadMembers
  setMembers : M → PayloadMembers → M
  deserializeBody : M → Bytes → Nat → Bool × M
  serialize : (Nat → UInt8) → M → A → Option Bytes
  offers : PayloadAction A → Bool
  bodyPayload : Bytes → Bytes
  frame : M → A → Bytes → Bytes
  members_setMembers : ∀ m p, members (setMembers m p) = p
  frame_setMembers : ∀ m p a payload, frame (setMembers m p) a payload = frame m a payload
  frame_ends : ∀ m a payload, payload <:+ frame m a payload
  deserializeBody_true : ∀ memory m store body length, (members m).Reads memory store →
    length ≤ body.length → (deserializeBody m body length).1 = true →
      ∃ store', (members (deserializeBody m body length).2).Reads memory store' ∧
        store'.bytes = bodyPayload (body.take length)
  deserializeBody_false : ∀ m body length, (deserializeBody m body length).1 = false →
    members (deserializeBody m body length).2 = members m
  serialize_eq : ∀ memory m store a, (members m).Reads memory store →
    serialize memory m a = some (frame m a store.bytes)

/-- An object, the memory around it, and the bytes of the last setter that has succeeded. -/
structure PayloadRun (M : Type) where
  object : M
  memory : Nat → UInt8
  last : Bytes := []

namespace PayloadClass

variable {M A : Type} (C : PayloadClass M A)

/-- An observer's answer, and what it makes of the object. -/
def observe (memory : Nat → UInt8) (m : M) : PayloadObserver A → Option (PayloadAnswer × M)
  | .payload => ((C.members m).payload memory).map fun result =>
    (.bytes result.1, C.setMembers m result.2)
  | .payloadSize => some (.size (C.members m).payloadSize, m)
  | .payloadView =>
    ((C.members m).readView memory (C.members m).payloadView).map fun view => (.view view, m)
  | .serialize type => (C.serialize memory m type).map fun bytes => (.bytes bytes, m)
  | .payloadStr => ((C.members m).payload memory).map fun result =>
    (.bytes result.1, C.setMembers m result.2)
  | .payloadEquals expected =>
    ((C.members m).payloadEquals memory expected).map fun equal => (.equal equal, m)

/-- One call, or one write to memory. -/
def step (s : PayloadRun M) : PayloadAction A → Option (PayloadRun M)
  | .copy data => some { s with object := C.setMembers s.object (.setBytes data), last := data }
  | .move data => some { s with object := C.setMembers s.object (.setBytes data), last := data }
  | .borrow view => some { s with
      object := C.setMembers s.object (.setView view)
      last := view.cells.map s.memory }
  | .deserializeBody body length =>
    let result := C.deserializeBody s.object body length
    some { s with
      object := result.2
      last := if result.1 then C.bodyPayload (body.take length) else s.last }
  | .observe observer =>
    (C.observe s.memory s.object observer).map fun answer => { s with object := answer.2 }
  | .write memory => some { s with memory := memory }

/-- The calls the class has; a body is as long as it is said to be, and memory stays as it is where
    it is lent to the object. -/
def Admitted (s : PayloadRun M) (action : PayloadAction A) : Prop :=
  C.offers action = true ∧
    match action with
    | .deserializeBody body length => length ≤ body.length
    | .write memory => (C.members s.object).mPayloadOwned = false → ∀ address,
        .lent address ∈ (C.members s.object).mPayloadView.cells → memory address = s.memory address
    | _ => True

/-- What an observer of an object is to answer when the payload is `payload`. -/
def Reports (m : M) (payload : Bytes) : PayloadObserver A → PayloadAnswer → Prop
  | .payload, answer => answer = .bytes payload
  | .payloadSize, answer => answer = .size payload.length
  | .payloadView, answer => ∃ view, answer = .view view ∧ view.cells = payload
  | .serialize type, answer =>
    ∃ bytes, answer = .bytes bytes ∧ bytes = C.frame m type payload ∧ payload <:+ bytes
  | .payloadStr, answer => answer = .bytes payload
  | .payloadEquals expected, answer => answer = .equal (decide (expected = payload))

/-- **Observers agree under every usage.**  After any run of a fresh object, and after any observers
    called then, each observer answers, and reports the bytes of the last setter that has succeeded. -/
def ObserversAgree : Prop :=
  ∀ (m : M) (memory : Nat → UInt8) (actions : List (PayloadAction A)) (s : PayloadRun M),
    C.members m = {} → Run C.step C.Admitted { object := m, memory := memory } actions s →
      ∀ observers : List (PayloadObserver A), (∀ o ∈ observers, C.offers (.observe o) = true) →
        ∃ s', Run C.step C.Admitted s (observers.map .observe) s' ∧ s'.last = s.last ∧
          ∀ o, C.offers (.observe o) = true →
            ∃ answer m', C.observe s'.memory s'.object o = some (answer, m') ∧
              C.Reports s.object s.last o answer

/-! ## Runs -/

/-- The object reads as a store of the bytes of the last setter. -/
def Holds (s : PayloadRun M) : Prop :=
  ∃ store : PayloadStore, (C.members s.object).Reads s.memory store ∧ store.bytes = s.last

variable {C}

/-- A setter's members are the object's. -/
theorem Holds.of_members {s : PayloadRun M} {p : PayloadMembers} {store : PayloadStore}
    (hmembers : C.members s.object = p) (hreads : p.Reads s.memory store)
    (hlast : store.bytes = s.last) : C.Holds s :=
  ⟨store, hmembers ▸ hreads, hlast⟩

/-- **An observer answers as it should**, and the object goes on holding what it held. -/
theorem observe_spec {s : PayloadRun M} (h : C.Holds s) (o : PayloadObserver A) :
    ∃ answer m', C.observe s.memory s.object o = some (answer, m') ∧
      C.Reports s.object s.last o answer ∧ C.Holds { s with object := m' } ∧
        ∀ a payload, C.frame m' a payload = C.frame s.object a payload := by
  obtain ⟨store, hreads, hlast⟩ := h
  have hsame : C.Holds { s with object := s.object } := ⟨store, hreads, hlast⟩
  obtain ⟨p, hpayload, hp⟩ := hreads.payload
  have hbytes : store.materialize.bytes = s.last := by rw [PayloadStore.bytes_materialize, hlast]
  have howned : C.Holds { s with object := C.setMembers s.object p } :=
    Holds.of_members (C.members_setMembers _ _) hp hbytes
  cases o with
  | payload =>
    refine ⟨.bytes store.bytes, C.setMembers s.object p, ?_, ?_, howned, C.frame_setMembers _ _⟩
    · rw [observe, hpayload, Option.map_some]
    · show PayloadAnswer.bytes store.bytes = .bytes s.last
      rw [hlast]
  | payloadSize =>
    refine ⟨.size (C.members s.object).payloadSize, s.object, rfl, ?_, hsame, fun _ _ => rfl⟩
    show PayloadAnswer.size (C.members s.object).payloadSize = .size s.last.length
    rw [hreads.payloadSize, hlast]
  | payloadView =>
    refine ⟨.view store.view, s.object, ?_, ⟨store.view, rfl, ?_⟩, hsame, fun _ _ => rfl⟩
    · rw [observe, hreads.payloadView, Option.map_some]
    · rw [store.view_cells, hlast]
  | serialize type =>
    refine ⟨.bytes (C.frame s.object type s.last), s.object, ?_, ⟨_, rfl, rfl, C.frame_ends _ _ _⟩,
      hsame, fun _ _ => rfl⟩
    rw [observe, C.serialize_eq _ _ _ _ hreads, hlast, Option.map_some]
  | payloadStr =>
    refine ⟨.bytes store.bytes, C.setMembers s.object p, ?_, ?_, howned, C.frame_setMembers _ _⟩
    · rw [observe, hpayload, Option.map_some]
    · show PayloadAnswer.bytes store.bytes = .bytes s.last
      rw [hlast]
  | payloadEquals expected =>
    refine ⟨.equal (decide (expected = s.last)), s.object, ?_, rfl, hsame, fun _ _ => rfl⟩
    rw [observe, hreads.payloadEquals, hlast, Option.map_some]

/-- **One step**: a setter makes the object hold its bytes, and nothing else changes what it holds. -/
theorem holds_step (s : PayloadRun M) (action : PayloadAction A) (s' : PayloadRun M) (h : C.Holds s)
    (hadmitted : C.Admitted s action) (hstep : C.step s action = some s') : C.Holds s' := by
  cases action with
  | copy data =>
    obtain rfl := Option.some.inj hstep
    exact Holds.of_members (C.members_setMembers _ _) (PayloadMembers.reads_setBytes _ data) rfl
  | move data =>
    obtain rfl := Option.some.inj hstep
    exact Holds.of_members (C.members_setMembers _ _) (PayloadMembers.reads_setBytes _ data) rfl
  | borrow view =>
    obtain rfl := Option.some.inj hstep
    refine Holds.of_members (C.members_setMembers _ _) (PayloadMembers.reads_setView _ view) ?_
    show view.segment1.map s.memory ++ view.segment2.map s.memory = view.cells.map s.memory
    exact List.map_append.symm
  | deserializeBody body length =>
    obtain rfl := Option.some.inj hstep
    obtain ⟨store, hreads, hlast⟩ := h
    cases hresult : (C.deserializeBody s.object body length).1 with
    | true =>
      obtain ⟨store', hreads', hbytes⟩ :=
        C.deserializeBody_true s.memory s.object store body length hreads hadmitted.2 hresult
      exact ⟨store', hreads', hbytes⟩
    | false =>
      exact Holds.of_members (C.deserializeBody_false _ _ _ hresult) hreads hlast
  | observe o =>
    obtain ⟨answer, m', hobserve, -, hholds, -⟩ := observe_spec h o
    rw [step, hobserve] at hstep
    obtain rfl := Option.some.inj hstep
    exact hholds
  | write memory =>
    obtain rfl := Option.some.inj hstep
    obtain ⟨store, hreads, hlast⟩ := h
    exact ⟨store, hreads.write hadmitted.2, hlast⟩

/-- Observers called one after the other all answer, and leave what the object holds and its frame. -/
theorem observers_run (observers : List (PayloadObserver A)) {s : PayloadRun M} (h : C.Holds s)
    (hoffers : ∀ o ∈ observers, C.offers (.observe o) = true) :
    ∃ s', Run C.step C.Admitted s (observers.map .observe) s' ∧ C.Holds s' ∧ s'.last = s.last ∧
      ∀ a payload, C.frame s'.object a payload = C.frame s.object a payload := by
  induction observers generalizing s with
  | nil => exact ⟨s, .nil s, h, rfl, fun _ _ => rfl⟩
  | cons o observers ih =>
    obtain ⟨answer, m', hobserve, -, hholds, hframe⟩ := observe_spec h o
    obtain ⟨s', hrun, hholds', hlast, hframe'⟩ := ih hholds fun o' ho' => hoffers o' (List.mem_cons_of_mem _ ho')
    have hstep : C.step s (.observe o) = some { s with object := m' } := by
      rw [step, hobserve, Option.map_some]
    refine ⟨s', .cons ⟨hoffers o List.mem_cons_self, trivial⟩ hstep hrun, hholds', hlast, ?_⟩
    intro a payload
    rw [hframe', hframe]

/-- What a class is to do makes its observers agree. -/
theorem observersAgree (C : PayloadClass M A) : C.ObserversAgree := by
  intro m memory actions s hfresh hrun observers hoffers
  have hstart : C.Holds { object := m, memory := memory } :=
    Holds.of_members hfresh (PayloadMembers.reads_cleared memory) rfl
  obtain ⟨s', hrun', hholds, hlast, hframe⟩ :=
    observers_run observers (hrun.invariant holds_step hstart) hoffers
  refine ⟨s', hrun', hlast, ?_⟩
  intro o _
  obtain ⟨answer, m', hobserve, hreports, -, -⟩ := observe_spec hholds o
  refine ⟨answer, m', hobserve, ?_⟩
  rw [hlast] at hreports
  cases o with
  | serialize type =>
    obtain ⟨bytes, hanswer, hbytes, hends⟩ := hreports
    exact ⟨bytes, hanswer, hbytes.trans (hframe _ _), hends⟩
  | payload => exact hreports
  | payloadSize => exact hreports
  | payloadView => exact hreports
  | payloadStr => exact hreports
  | payloadEquals expected => exact hreports

end PayloadClass

/-! ## The classes as they are -/

namespace RpcRequestObject

def setMembers (r : RpcRequestObject) (p : PayloadMembers) : RpcRequestObject :=
  { r with toPayloadMembers := p }

/-- What lies behind the two names. -/
def bodyPayload (body : Bytes) : Bytes := ((splitNames body).map fun names => names.2.2).getD []

/-- The frame of what the request says with `payload`. -/
def frame (r : RpcRequestObject) (payload : Bytes) : Bytes :=
  RequestMsg.frame ⟨r.requestId, r.callMode, r.endOfStream, r.serviceName, r.methodName, payload⟩

theorem frame_ends (r : RpcRequestObject) (payload : Bytes) : payload <:+ r.frame payload :=
  (List.suffix_append _ _).trans (List.suffix_append _ _)

theorem deserializeBody_true {memory : Nat → UInt8} {r : RpcRequestObject} {store : PayloadStore}
    {body : Bytes} {length : Nat} (h : r.Reads memory store) (hlen : length ≤ body.length)
    (htrue : (r.deserializeBody body length).1 = true) :
    ∃ store', (r.deserializeBody body length).2.Reads memory store' ∧
      store'.bytes = bodyPayload (body.take length) := by
  obtain ⟨store', hreads, heq⟩ := deserializeBody_reads h body length
  refine ⟨store', hreads, ?_⟩
  have hspec := RpcRequest.deserializeBody_spec hlen (r.toRequest store)
  rw [heq] at hspec
  unfold bodyPayload
  split at hspec
  · rename_i hsplit
    rw [hsplit]
    exact congrArg RequestMsg.payload hspec.2
  · rw [htrue] at hspec
    cases hspec

theorem serialize_frame {memory : Nat → UInt8} {r : RpcRequestObject} {store : PayloadStore}
    (h : r.Reads memory store) : r.serialize memory = some (r.frame store.bytes) := by
  rw [serialize_eq h, RpcRequest.serialize_eq]
  rfl

/-- `RpcRequest`'s payload calls. -/
def payloadClass : PayloadClass RpcRequestObject Unit where
  members := toPayloadMembers
  setMembers := setMembers
  deserializeBody := deserializeBody
  serialize := fun memory r _ => r.serialize memory
  offers := PayloadAction.ofRpcMessage
  bodyPayload := bodyPayload
  frame := fun r _ payload => r.frame payload
  members_setMembers := fun _ _ => rfl
  frame_setMembers := fun _ _ _ _ => rfl
  frame_ends := fun r _ payload => r.frame_ends payload
  deserializeBody_true := fun _ _ _ _ _ h hlen htrue => deserializeBody_true h hlen htrue
  deserializeBody_false := fun _ _ _ hfalse => deserializeBody_false hfalse
  serialize_eq := fun _ _ _ _ h => serialize_frame h

end RpcRequestObject

namespace RpcResponseObject

def setMembers (r : RpcResponseObject) (p : PayloadMembers) : RpcResponseObject :=
  { r with toPayloadMembers := p }

/-- What lies behind the error code. -/
def bodyPayload (body : Bytes) : Bytes := body.drop 2

/-- The frame of what the response says with `payload`. -/
def frame (r : RpcResponseObject) (payload : Bytes) : Bytes :=
  ResponseMsg.frame ⟨r.requestId, r.callMode, r.endOfStream, r.errorCode, payload⟩

theorem frame_ends (r : RpcResponseObject) (payload : Bytes) : payload <:+ r.frame payload :=
  (List.suffix_append _ _).trans (List.suffix_append _ _)

theorem deserializeBody_true {memory : Nat → UInt8} {r : RpcResponseObject} {store : PayloadStore}
    {body : Bytes} {length : Nat} (h : r.Reads memory store)
    (htrue : (r.deserializeBody body length).1 = true) :
    ∃ store', (r.deserializeBody body length).2.Reads memory store' ∧
      store'.bytes = bodyPayload (body.take length) := by
  obtain ⟨store', hreads, heq⟩ := deserializeBody_reads h body length
  refine ⟨store', hreads, ?_⟩
  have hspec := RpcResponse.deserializeBody_spec body length (r.toResponse store)
  rw [heq] at hspec
  split at hspec
  · rw [htrue] at hspec
    cases hspec
  · have hpayload := congrArg ResponseMsg.payload hspec.2
    rw [bodyPayload, List.drop_take]
    exact hpayload

theorem serialize_frame {memory : Nat → UInt8} {r : RpcResponseObject} {store : PayloadStore}
    (h : r.Reads memory store) : r.serialize memory = some (r.frame store.bytes) := by
  rw [serialize_eq h, RpcResponse.serialize_eq]
  rfl

/-- `RpcResponse`'s payload calls. -/
def payloadClass : PayloadClass RpcResponseObject Unit where
  members := toPayloadMembers
  setMembers := setMembers
  deserializeBody := deserializeBody
  serialize := fun memory r _ => r.serialize memory
  offers := PayloadAction.ofRpcMessage
  bodyPayload := bodyPayload
  frame := fun r _ payload => r.frame payload
  members_setMembers := fun _ _ => rfl
  frame_setMembers := fun _ _ _ _ => rfl
  frame_ends := fun r _ payload => r.frame_ends payload
  deserializeBody_true := fun _ _ _ _ _ h _ htrue => deserializeBody_true h htrue
  deserializeBody_false := fun _ _ _ hfalse => deserializeBody_false hfalse
  serialize_eq := fun _ _ _ _ h => serialize_frame h

end RpcResponseObject

namespace StreamMessageObject

def setMembers (m : StreamMessageObject) (p : PayloadMembers) : StreamMessageObject :=
  { m with toPayloadMembers := p }

/-- The frame of the message with `payload`. -/
def frame (m : StreamMessageObject) (type : RpcMessageType) (payload : Bytes) : Bytes :=
  RpcHeader.serialize
    { type := type.toByte, requestId := m.streamId, bodyLength := UInt32.ofNat payload.length } ++ payload

theorem deserializeBody_false {m : StreamMessageObject} {body : Bytes} {length : Nat}
    (h : (m.deserializeBody body length).1 = false) :
    (m.deserializeBody body length).2.toPayloadMembers = m.toPayloadMembers := by
  unfold deserializeBody at h
  split at h
  · cases h
  · cases h

theorem serialize_frame {memory : Nat → UInt8} {m : StreamMessageObject} {store : PayloadStore}
    (h : m.Reads memory store) (type : RpcMessageType) :
    m.serialize memory type = some (m.frame type store.bytes) := by
  rw [serialize_eq h, StreamMessage.serialize_eq, StreamMessage.header, StreamMessage.payloadView,
    PayloadStore.view_size]
  rfl

/-- `StreamMessage`'s payload calls. -/
def payloadClass : PayloadClass StreamMessageObject RpcMessageType where
  members := toPayloadMembers
  setMembers := setMembers
  deserializeBody := deserializeBody
  serialize := serialize
  offers := PayloadAction.ofStreamMessage
  bodyPayload := id
  frame := frame
  members_setMembers := fun _ _ => rfl
  frame_setMembers := fun _ _ _ _ => rfl
  frame_ends := fun _ _ _ => List.suffix_append _ _
  deserializeBody_true := fun memory m _ _ _ _ hlen _ => deserializeBody_reads memory m hlen
  deserializeBody_false := fun _ _ _ hfalse => deserializeBody_false hfalse
  serialize_eq := fun _ _ _ type h => serialize_frame h type

end StreamMessageObject

/-- **Payload observers agree** in all three classes. -/
theorem payload_observers_agree :
    RpcRequestObject.payloadClass.ObserversAgree ∧ RpcResponseObject.payloadClass.ObserversAgree ∧
      StreamMessageObject.payloadClass.ObserversAgree :=
  ⟨PayloadClass.observersAgree _, PayloadClass.observersAgree _, PayloadClass.observersAgree _⟩

/-- A view takes the place of a copied payload and is read; then the memory it lay in is written. -/
def lentPayload : List (PayloadAction RpcMessageType) :=
  [.copy [1, 2], .borrow ⟨[7, 8], [9]⟩, .observe .payload, .write fun _ => 0]

theorem payload_observers_agree_lent :
    ∃ s s' : PayloadRun StreamMessageObject,
      Run StreamMessageObject.payloadClass.step StreamMessageObject.payloadClass.Admitted
          { object := {}, memory := UInt8.ofNat } lentPayload s ∧
        s.memory 7 = 0 ∧
        Run StreamMessageObject.payloadClass.step StreamMessageObject.payloadClass.Admitted s
          [.observe .payloadView, .observe .payloadSize] s' ∧
        ∃ m', StreamMessageObject.payloadClass.observe s'.memory s'.object .payloadStr =
          some (.bytes [7, 8, 9], m') := by
  have hrun : Run StreamMessageObject.payloadClass.step StreamMessageObject.payloadClass.Admitted
      { object := {}, memory := UInt8.ofNat } lentPayload _ :=
    .cons ⟨rfl, trivial⟩ rfl (.cons ⟨rfl, trivial⟩ rfl (.cons ⟨rfl, trivial⟩ rfl
      (.cons ⟨rfl, nofun⟩ rfl (.nil _))))
  obtain ⟨-, -, hstream⟩ := payload_observers_agree
  obtain ⟨s', hrun', -, hanswers⟩ := hstream {} UInt8.ofNat lentPayload _ rfl hrun
    [.payloadView, .payloadSize] (by
      intro o ho
      rcases List.mem_cons.mp ho with rfl | ho
      · rfl
      · rw [List.mem_singleton.mp ho]
        rfl)
  obtain ⟨answer, m', hanswer, hreports⟩ := hanswers .payloadStr rfl
  refine ⟨_, s', hrun, rfl, hrun', m', ?_⟩
  rw [hanswer, hreports]
  rfl

end GalayRpc
