/-
  Request and response reads, one completion of a `readv` at a time, that may end anywhere.

  A read ends in a message, in an error, or in the middle of nothing, when its awaitable is destroyed.
  Neither parser touches the ring or the message before it has the whole frame, so all that a read which
  does not succeed leaves behind is what it has received:

  * `MessageConn` — the connection, with a record of every read that is over: the object it was given,
    and the object as it left it;
  * `Untouched` — the invariant: the ring holds what has been received less the frames of the reads that
    succeeded, and no other read has changed its object;
  * `MessageConn.step_resume` — to give a read up and start it again is to do nothing;
  * `message_reads_all_or_nothing` — the three together, and that what the reads of two runs deliver is
    the same as far as both have got.
-/
import GalayRpc.Conn
import GalayRpc.Reads

namespace GalayRpc

/-- A read that is over: the object it was given, what it returned (nothing if it was given up), and the
    object as it left it. -/
structure EndedRead (M : Type) where
  object : M
  result : Option RpcAwaitableResult
  left : M

/-- Nobody reads, or a read into an object is suspended. -/
inductive MessageReader (ρ M : Type) where
  | idle (ring : ρ)
  | suspended (machine : RpcRingBufferReadMachine ρ M) (object : M)

/-- The reading side of a connection: the bytes still to be received, the ones that have been, and the
    reads that are over. -/
structure MessageConn (ρ M : Type) where
  reader : MessageReader ρ M
  arriving : Bytes
  received : Bytes
  reads : List (EndedRead M) := []

namespace MessageConn

variable {ρ M α : Type} {msg : M → α}

def ring (s : MessageConn ρ M) : ρ :=
  match s.reader with
  | .idle ring => ring
  | .suspended machine _ => machine.state.ringBuffer

/-- What the reads have delivered. -/
def messages (msg : M → α) (s : MessageConn ρ M) : List α :=
  s.reads.filterMap fun r => if r.result = some (.ok true) then some (msg r.left) else none

theorem messages_concat (s : MessageConn ρ M) (r : EndedRead M) :
    (s.reads ++ [r]).filterMap (fun r => if r.result = some (.ok true) then some (msg r.left) else none) =
      s.messages msg ++ if r.result = some (.ok true) then [msg r.left] else [] := by
  rw [List.filterMap_append]
  by_cases h : r.result = some (.ok true)
  · simp [messages, h]
  · simp [messages, h]

section Step

variable [RingBuffer ρ]

/-- A connection with nothing read from it yet. -/
def start (ring : ρ) (arriving : Bytes) : MessageConn ρ M :=
  { reader := .idle ring, arriving := arriving, received := RingBuffer.content ring }

/-- Advance the machine of a read into an object: it waits, or the read is over. -/
def settle (parseFromRingBuffer : RpcRingBufferReadState ρ M → Bool × RpcRingBufferReadState ρ M)
    (s : MessageConn ρ M) (machine : RpcRingBufferReadMachine ρ M) (object : M) : MessageConn ρ M :=
  match machine.advance parseFromRingBuffer with
  | (.complete result, machine) =>
    { s with
      reader := .idle machine.state.ringBuffer
      reads := s.reads ++ [⟨object, some result, machine.state.own⟩] }
  | (_, machine) => { s with reader := .suspended machine object }

def step (parseFromRingBuffer : RpcRingBufferReadState ρ M → Bool × RpcRingBufferReadState ρ M)
    (s : MessageConn ρ M) (action : ReadAction M) : Option (MessageConn ρ M) :=
  match s.reader, action with
  | .idle ring, .read object =>
    some (s.settle parseFromRingBuffer ⟨{ ringBuffer := ring, own := object }, none⟩ object)
  | .suspended machine object, .readv n =>
    if 0 < n ∧ n ≤ machine.state.readIovecs.sum ∧ n ≤ s.arriving.length then
      some ({ s with
          arriving := s.arriving.drop n
          received := s.received ++ s.arriving.take n }.settle parseFromRingBuffer
        ((machine.filled (s.arriving.take n)).onRead (.ok n)) object)
    else none
  | .suspended machine object, .readvFails e =>
    some (s.settle parseFromRingBuffer (machine.onRead (.error e)) object)
  | .suspended machine object, .peerCloses =>
    some (s.settle parseFromRingBuffer (machine.onRead (.ok 0)) object)
  -- the machine is dropped; the ring and the object stay
  | .suspended machine object, .timeout =>
    some { s with
      reader := .idle machine.state.ringBuffer
      reads := s.reads ++ [⟨object, none, machine.state.own⟩] }
  | _, _ => none

/-- The machine of a read into an object that waits on a ring. -/
def waiting (ring : ρ) (object : M) : RpcRingBufferReadMachine ρ M :=
  ⟨{ ringBuffer := ring, own := object, readIovecs := RingBuffer.getWriteIovecs ring }, none⟩

variable {p : FrameParser RpcErrorCode α}
  {parseFromRingBuffer : RpcRingBufferReadState ρ M → Bool × RpcRingBufferReadState ρ M}

/-- **What holds between the steps.** -/
structure Untouched (msg : M → α) (p : FrameParser RpcErrorCode α) (stream : Bytes)
    (s : MessageConn ρ M) : Prop where
  stream : s.received ++ s.arriving = stream
  frames : p.Frames s.received (s.messages msg) (RingBuffer.content s.ring)
  objects : ∀ r ∈ s.reads, r.result ≠ some (.ok true) → r.left = r.object
  suspended : ∀ machine object, s.reader = .suspended machine object →
    machine = waiting s.ring object ∧ p.parse (RingBuffer.content s.ring) = .ok none ∧
      0 < RingBuffer.free s.ring

/-- A read that ends without success, with its object as it was. -/
theorem Untouched.ended {stream : Bytes} {s : MessageConn ρ M} {ring : ρ}
    (hstream : s.received ++ s.arriving = stream)
    (hframes : p.Frames s.received (s.messages msg) (RingBuffer.content ring))
    (hobjects : ∀ r ∈ s.reads, r.result ≠ some (.ok true) → r.left = r.object) (object : M)
    {result : Option RpcAwaitableResult} (hresult : result ≠ some (.ok true)) :
    Untouched msg p stream
      { s with reader := .idle ring, reads := s.reads ++ [⟨object, result, object⟩] } where
  stream := hstream
  frames := by
    show p.Frames s.received (List.filterMap _ (s.reads ++ [_])) _
    rw [messages_concat, if_neg hresult, List.append_nil]
    exact hframes
  objects := by
    refine forall_mem_concat hobjects ?_
    exact fun _ => rfl
  suspended _ _ h := by cases h

/-- A suspended read that ends without success. -/
theorem Untouched.gaveUp {stream : Bytes} {s : MessageConn ρ M} (hs : Untouched msg p stream s)
    {machine : RpcRingBufferReadMachine ρ M} {object : M}
    (hsuspended : s.reader = .suspended machine object) {result : Option RpcAwaitableResult}
    (hresult : result ≠ some (.ok true)) :
    Untouched msg p stream
      { s with
        reader := .idle machine.state.ringBuffer
        reads := s.reads ++ [⟨object, result, machine.state.own⟩] } := by
  obtain ⟨hmachine, -, -⟩ := hs.suspended machine object hsuspended
  have hown : machine.state.own = object := by
    rw [hmachine]
    rfl
  have hframes := hs.frames
  rw [MessageConn.ring, hsuspended] at hframes
  rw [hown]
  exact .ended hs.stream hframes hs.objects object hresult

/-- A machine that has not moved since its read began, on any ring. -/
structure Fresh (machine : RpcRingBufferReadMachine ρ M) (object : M) : Prop where
  result : machine.result = none
  error : machine.state.error = none
  own : machine.state.own = object

/-- **One parse of the ring.** -/
theorem Untouched.settle (h : ReadsFrames msg p parseFromRingBuffer) {stream : Bytes}
    {s : MessageConn ρ M} {machine : RpcRingBufferReadMachine ρ M} {object : M}
    (hstream : s.received ++ s.arriving = stream)
    (hframes : p.Frames s.received (s.messages msg) (RingBuffer.content machine.state.ringBuffer))
    (hobjects : ∀ r ∈ s.reads, r.result ≠ some (.ok true) → r.left = r.object)
    (hfresh : Fresh machine object) :
    Untouched msg p stream (s.settle parseFromRingBuffer machine object) := by
  have hs := h machine.state
  unfold MessageConn.settle RpcRingBufferReadMachine.advance
  rw [hfresh.result]
  rcases hp : p.parse (RingBuffer.content machine.state.ringBuffer) with code | _ | ⟨n, a⟩
  all_goals rw [hp] at hs
  · obtain ⟨text, hout⟩ := hs
    simp only [hout]
    rw [hfresh.own]
    exact .ended hstream hframes hobjects object nofun
  · have hout : parseFromRingBuffer machine.state = (false, machine.state) := hs
    simp only [hout, prepareReadWindow_eq]
    by_cases hroom : 0 < RingBuffer.free machine.state.ringBuffer
    · simp only [if_pos hroom]
      refine ⟨hstream, hframes, hobjects, ?_⟩
      rintro _ _ ⟨⟩
      refine ⟨?_, hp, hroom⟩
      rw [hfresh.error, hfresh.own]
      rfl
    · simp only [if_neg hroom]
      rw [hfresh.own]
      exact .ended hstream hframes hobjects object nofun
  · obtain ⟨m, hm, hout⟩ := hs
    simp only [hout, hfresh.error]
    refine ⟨hstream, ?_, ?_, ?_⟩
    · show p.Frames s.received (List.filterMap _ (s.reads ++ [_]))
        (RingBuffer.content (RingBuffer.consume machine.state.ringBuffer n))
      have hok : (⟨object, some (takeResult none), m⟩ : EndedRead M).result = some (.ok true) := rfl
      rw [messages_concat, if_pos hok, RingBuffer.content_consume _ _ (p.consumes hp).2, hm]
      exact hframes.concat hp
    · refine forall_mem_concat hobjects ?_
      exact fun hne => absurd rfl hne
    · rintro _ _ ⟨⟩

/-- A read that has its result is over, with the ring and the object as they were. -/
theorem settle_of_result {s : MessageConn ρ M} {machine : RpcRingBufferReadMachine ρ M} {object : M}
    {result : RpcAwaitableResult} (hresult : machine.result = some result) :
    s.settle parseFromRingBuffer machine object =
      { s with
        reader := .idle machine.state.ringBuffer
        reads := s.reads ++ [⟨object, some result, machine.state.own⟩] } := by
  unfold settle RpcRingBufferReadMachine.advance
  rw [hresult]

/-- **One step.** -/
theorem Untouched.step (h : ReadsFrames msg p parseFromRingBuffer) {stream : Bytes}
    {s s' : MessageConn ρ M} (hs : Untouched msg p stream s) {action : ReadAction M}
    (hstep : s.step parseFromRingBuffer action = some s') : Untouched msg p stream s' := by
  have hframes := hs.frames
  unfold MessageConn.step at hstep
  split at hstep
  · rename_i ring object hidle
    obtain rfl := Option.some.inj hstep
    rw [MessageConn.ring, hidle] at hframes
    exact .settle h hs.stream hframes hs.objects ⟨rfl, rfl, rfl⟩
  · rename_i machine object n hsuspended
    simp only [Option.ite_none_right_eq_some, Option.some.injEq] at hstep
    obtain ⟨⟨hpos, hroom, hle⟩, rfl⟩ := hstep
    obtain ⟨hmachine, -, -⟩ := hs.suspended machine object hsuspended
    have hlen : (s.arriving.take n).length = n := by
      rw [List.length_take, Nat.min_eq_left hle]
    have hne : s.arriving.take n ≠ [] := List.ne_nil_of_length_pos (by omega)
    have hreceive := onRead_filled (m := machine) hne
    rw [hlen] at hreceive
    rw [hreceive]
    refine .settle h ?_ ?_ hs.objects ?_
    · show (s.received ++ s.arriving.take n) ++ s.arriving.drop n = stream
      rw [List.append_assoc, List.take_append_drop, hs.stream]
    · show p.Frames (s.received ++ s.arriving.take n) (s.messages msg)
        (RingBuffer.content (RingBuffer.receive machine.state.ringBuffer (s.arriving.take n)))
      have hring : s.ring = machine.state.ringBuffer := by rw [MessageConn.ring, hsuspended]
      have hwindow : (s.arriving.take n).length ≤ RingBuffer.free machine.state.ringBuffer := by
        have hsum : (RingBuffer.getWriteIovecs s.ring).sum = RingBuffer.free s.ring :=
          RingBuffer.getWriteIovecs_sum s.ring
        rw [hmachine] at hroom
        rw [hlen, ← hring, ← hsum]
        exact hroom
      rw [RingBuffer.content_receive hwindow, ← hring]
      exact hframes.append _
    · rw [hmachine]
      exact ⟨rfl, rfl, rfl⟩
  · rename_i machine object e hsuspended
    obtain rfl := Option.some.inj hstep
    rw [settle_of_result rfl]
    exact hs.gaveUp hsuspended nofun
  · rename_i machine object hsuspended
    obtain rfl := Option.some.inj hstep
    rw [settle_of_result rfl]
    exact hs.gaveUp hsuspended nofun
  · rename_i machine object hsuspended
    obtain rfl := Option.some.inj hstep
    exact hs.gaveUp hsuspended nofun
  · cases hstep

/-- **To give a read up and start it again is to do nothing**: the new read waits where the old one did. -/
theorem step_resume (h : ReadsFrames msg p parseFromRingBuffer) {stream : Bytes} {s : MessageConn ρ M}
    (hs : Untouched msg p stream s) {machine : RpcRingBufferReadMachine ρ M} {object : M}
    (hsuspended : s.reader = .suspended machine object) :
    ∃ s', s.step parseFromRingBuffer .timeout = some s' ∧ s'.ring = s.ring ∧
      s'.step parseFromRingBuffer (.read object) =
        some { s with reads := s.reads ++ [⟨object, none, object⟩] } := by
  obtain ⟨hmachine, hnone, hroom⟩ := hs.suspended machine object hsuspended
  have hring : s.ring = machine.state.ringBuffer := by rw [MessageConn.ring, hsuspended]
  have hown : machine.state.own = object := by
    rw [hmachine]
    rfl
  refine ⟨{ s with reader := .idle machine.state.ringBuffer,
                   reads := s.reads ++ [⟨object, none, machine.state.own⟩] }, ?_, hring.symm, ?_⟩
  · unfold MessageConn.step
    rw [hsuspended]
  · have hparse := h { ringBuffer := s.ring, own := object }
    rw [hnone] at hparse
    have hout : parseFromRingBuffer { ringBuffer := s.ring, own := object } =
        (false, { ringBuffer := s.ring, own := object }) := hparse
    unfold MessageConn.step settle RpcRingBufferReadMachine.advance
    simp only [← hring, hout, prepareReadWindow_eq, if_pos hroom, hown]
    rw [hsuspended, hmachine]
    rfl

end Step

end MessageConn

/-- Reads that take all or nothing: after any steps from any ring and any bytes arriving,
    * a read that did not succeed has left its object as it was;
    * the ring holds what has been received less the frames of the reads that succeeded;
    * a suspended read has not changed its object, and giving it up leaves the ring as it is and a new
      read in its place waits where it did;
    * what any other run over the same bytes delivers is the same, as far as both have got. -/
def ReadsAllOrNothing {M α : Type} (ρ : Type) [RingBuffer ρ] (msg : M → α)
    (p : FrameParser RpcErrorCode α)
    (parseFromRingBuffer : RpcRingBufferReadState ρ M → Bool × RpcRingBufferReadState ρ M) : Prop :=
  ∀ (ring : ρ) (arriving : Bytes) (actions : List (ReadAction M)) (s : MessageConn ρ M),
    Run (MessageConn.step parseFromRingBuffer) (fun _ _ => True) (.start ring arriving) actions s →
    (∀ r ∈ s.reads, r.result ≠ some (.ok true) → r.left = r.object) ∧
    s.received ++ s.arriving = RingBuffer.content ring ++ arriving ∧
    p.Frames s.received (s.messages msg) (RingBuffer.content s.ring) ∧
    (∀ machine object, s.reader = .suspended machine object →
      machine.state.own = object ∧
      ∃ s', s.step parseFromRingBuffer .timeout = some s' ∧ s'.ring = s.ring ∧
        s'.step parseFromRingBuffer (.read object) =
          some { s with reads := s.reads ++ [⟨object, none, object⟩] }) ∧
    ∀ (actions' : List (ReadAction M)) (s' : MessageConn ρ M),
      Run (MessageConn.step parseFromRingBuffer) (fun _ _ => True) (.start ring arriving) actions' s' →
      s.messages msg <+: s'.messages msg ∨ s'.messages msg <+: s.messages msg

/-- From one read state class's specification alone. -/
theorem readsAllOrNothing_of_readsFrames {ρ M α : Type} [RingBuffer ρ] {msg : M → α}
    {p : FrameParser RpcErrorCode α}
    {parseFromRingBuffer : RpcRingBufferReadState ρ M → Bool × RpcRingBufferReadState ρ M}
    (h : ReadsFrames msg p parseFromRingBuffer) : ReadsAllOrNothing ρ msg p parseFromRingBuffer := by
  intro ring arriving
  have hrun : ∀ (actions : List (ReadAction M)) (s : MessageConn ρ M),
      Run (MessageConn.step parseFromRingBuffer) (fun _ _ => True) (.start ring arriving) actions s →
      s.Untouched msg p (RingBuffer.content ring ++ arriving) := by
    intro actions s hrun
    refine hrun.invariant (fun _ _ _ hs _ hstep => hs.step h hstep) ?_
    exact ⟨rfl, .nil _, by simp [MessageConn.start], by simp [MessageConn.start]⟩
  intro actions s hs
  have huntouched := hrun actions s hs
  refine ⟨huntouched.objects, huntouched.stream, huntouched.frames, ?_, ?_⟩
  · intro machine object hsuspended
    refine ⟨?_, MessageConn.step_resume h huntouched hsuspended⟩
    rw [(huntouched.suspended machine object hsuspended).1]
    rfl
  · intro actions' s' hs'
    have huntouched' := hrun actions' s' hs'
    have hframes := huntouched.frames.append s.arriving
    have hframes' := huntouched'.frames.append s'.arriving
    rw [huntouched.stream] at hframes
    rw [huntouched'.stream] at hframes'
    exact hframes.comparable hframes'

/-- **Request and response reads are all or nothing**, on every kind of ring and at every size limit. -/
theorem message_reads_all_or_nothing (ρ : Type) [RingBuffer ρ] (setting : RpcReaderSetting) :
    ReadsAllOrNothing ρ RpcRequest.msg (requestParser (setting.maxMessageSize + 16).toNat)
        (RpcRequestReadState.parseFromRingBuffer setting) ∧
      ReadsAllOrNothing ρ RpcResponse.msg (responseParser (setting.maxMessageSize + 16).toNat)
        (RpcResponseReadState.parseFromRingBuffer setting) :=
  ⟨readsAllOrNothing_of_readsFrames (request_readsFrames setting),
    readsAllOrNothing_of_readsFrames (response_readsFrames setting)⟩

/-- A request comes in two pieces, and the read of it times out in between. -/
def interruptedReads : List (ReadAction RpcRequest) :=
  [.read {}, .readv 9, .timeout, .read {}, .readv 21]

theorem message_reads_all_or_nothing_echo :
    ∃ s s' : MessageConn (Circular UInt8) RpcRequest,
      runAll (MessageConn.step (RpcRequestReadState.parseFromRingBuffer {})) (fun _ _ => True)
          (.start (Circular.empty 40 fun _ => 0) echoRequest.serialize) interruptedReads = some s ∧
        runAll (MessageConn.step (RpcRequestReadState.parseFromRingBuffer {})) (fun _ _ => True)
          (.start (Circular.empty 40 fun _ => 0) echoRequest.serialize) [.read {}, .readv 30] = some s' ∧
        s.reads.length = 2 ∧
        (∀ r ∈ s.reads, r.result ≠ some (.ok true) → r.left = r.object) ∧
        s.messages RpcRequest.msg = [echoRequest.msg] ∧
        (s.messages RpcRequest.msg <+: s'.messages RpcRequest.msg ∨
          s'.messages RpcRequest.msg <+: s.messages RpcRequest.msg) := by
  have hruns : ((runAll (MessageConn.step (RpcRequestReadState.parseFromRingBuffer {})) (fun _ _ => True)
      (.start (Circular.empty 40 fun _ => (0 : UInt8)) echoRequest.serialize) interruptedReads).map
        fun s => (s.reads.length, s.messages RpcRequest.msg)) = some (2, [echoRequest.msg]) := by
    decide +kernel
  have hruns' : (runAll (MessageConn.step (RpcRequestReadState.parseFromRingBuffer {})) (fun _ _ => True)
      (.start (Circular.empty 40 fun _ => (0 : UInt8)) echoRequest.serialize)
        [.read {}, .readv 30]).isSome = true := by
    decide +kernel
  obtain ⟨s, hs, hreads⟩ := Option.map_eq_some_iff.mp hruns
  obtain ⟨hcount, hmessages⟩ := Prod.mk.inj hreads
  obtain ⟨s', hs'⟩ := Option.isSome_iff_exists.mp hruns'
  obtain ⟨hrequests, -⟩ := message_reads_all_or_nothing (Circular UInt8) {}
  obtain ⟨hobjects, -, -, -, hsame⟩ := hrequests _ _ _ s (run_iff_runAll.mpr hs)
  exact ⟨s, s', hs, hs', hcount, hobjects, hmessages, hsame _ s' (run_iff_runAll.mpr hs')⟩

end GalayRpc
