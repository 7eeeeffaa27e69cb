/-
  `rpc_await.h`: the read and write state machines, and the socket that drives them.

  1. **Machines** — `RpcRingBufferReadMachine` and `RpcWritevMachine` are templates over a state class.
     The members the base class brings and the ones a derived class adds (`own`) are one record; the
     derived class's `parseFromRingBuffer` is a parameter.  A machine alternates between `advance`,
     which completes or asks for an operation on the socket, and `onRead` / `onWrite`, which take in
     how that went.

  2. **Socket** — `Wire` is what a peer has sent, what happens behind it, and how the kernel will cut
     it; `Sink` is what has been put on a connection and what the kernel will do with the next writes.
     Both are arbitrary, so a statement about every wire is one about every fragmentation.

  3. **Runs** — `awaitRead` and `awaitWrite` drive a machine against a socket until it completes, or
     forever if the wire falls silent.  `runRead_rule` and `awaitWrite_written` are the loop rules the
     readers and writers are verified with; both come from one induction each.
-/
import GalayRpc.Ring
import GalayRpc.Iovec

namespace GalayRpc

/-- `std::expected<bool, RpcError>`. -/
abbrev RpcAwaitableResult := Except RpcError Bool

/-- What a machine wants next; a window is given by the lengths of its segments. -/
inductive MachineAction where
  | complete (result : RpcAwaitableResult)
  | waitReadv (windows : List Nat)
  | waitWritev (iovecs : List Bytes)

/-- `m_error` as a result. -/
def takeResult (error : Option RpcError) : RpcAwaitableResult :=
  match error with
  | some e => .error e
  | none => .ok true

/-! ## Reading -/

section Read

variable {ρ σ : Type} [RingBuffer ρ]

/-- `prepareRingBufferReadWindow`. -/
def prepareRingBufferReadWindow (ring : ρ) : Bool × List Nat :=
  let windows := RingBuffer.getWriteIovecs ring
  (windows.sum > 0, windows)

/-- `mapRpcReadError` with its default code. -/
def mapRpcReadError (e : IOError) : RpcError :=
  if e.contains .disconnectError then .ofText .connectionClosed "Connection closed"
  else .fromIOError e .internalError

/-- The members of `RpcRingBufferReadStateBase` and of the class derived from it. -/
structure RpcRingBufferReadState (ρ σ : Type) where
  ringBuffer : ρ
  own : σ
  readIovecs : List Nat := []
  error : Option RpcError := none

namespace RpcRingBufferReadState

variable (s : RpcRingBufferReadState ρ σ)

def prepareReadWindow : Bool × RpcRingBufferReadState ρ σ :=
  match prepareRingBufferReadWindow s.ringBuffer with
  | (false, windows) =>
    (false, { s with
      readIovecs := windows
      error := some (.ofText .internalError "No writable ring buffer space") })
  | (true, windows) => (true, { s with readIovecs := windows })

def setRecvError (e : IOError) : RpcRingBufferReadState ρ σ := { s with error := some (mapRpcReadError e) }

def onPeerClosed : RpcRingBufferReadState ρ σ :=
  { s with error := some (.ofText .connectionClosed "Connection closed") }

def onBytesReceived (bytesRead : Nat) : RpcRingBufferReadState ρ σ :=
  { s with ringBuffer := RingBuffer.produce s.ringBuffer bytesRead }

def setReadError (e : RpcError) : RpcRingBufferReadState ρ σ := { s with error := some e }

end RpcRingBufferReadState

/-- `RpcRingBufferReadMachine`. -/
structure RpcRingBufferReadMachine (ρ σ : Type) where
  state : RpcRingBufferReadState ρ σ
  result : Option RpcAwaitableResult := none

namespace RpcRingBufferReadMachine

/-- `advance`, for a state class with the given `parseFromRingBuffer`. -/
def advance
    (parseFromRingBuffer : RpcRingBufferReadState ρ σ → Bool × RpcRingBufferReadState ρ σ)
    (m : RpcRingBufferReadMachine ρ σ) : MachineAction × RpcRingBufferReadMachine ρ σ :=
  match m.result with
  | some result => (.complete result, m)
  | none =>
    match parseFromRingBuffer m.state with
    | (true, state) => (.complete (takeResult state.error), ⟨state, some (takeResult state.error)⟩)
    | (false, state) =>
      match state.prepareReadWindow with
      | (false, state) => (.complete (takeResult state.error), ⟨state, some (takeResult state.error)⟩)
      | (true, state) => (.waitReadv state.readIovecs, ⟨state, none⟩)

/-- `onRead`. -/
def onRead (m : RpcRingBufferReadMachine ρ σ) : Except IOError Nat → RpcRingBufferReadMachine ρ σ
  | .error e =>
    let state := m.state.setRecvError e
    ⟨state, some (takeResult state.error)⟩
  | .ok 0 =>
    let state := m.state.onPeerClosed
    ⟨state, some (takeResult state.error)⟩
  | .ok n => { m with state := m.state.onBytesReceived n }

/-- The kernel stores `data` in the window the machine waits on. -/
def filled (m : RpcRingBufferReadMachine ρ σ) (data : Bytes) : RpcRingBufferReadMachine ρ σ :=
  { m with state := { m.state with ringBuffer := RingBuffer.fill m.state.ringBuffer data } }

end RpcRingBufferReadMachine

/-! ### The reading side of a socket -/

/-- What comes after the last byte of a wire: end-of-file, an error, or nothing. -/
inductive WireEnd where
  | closed
  | failed (e : IOError)
  | silent
deriving DecidableEq, Repr

/-- The bytes a peer has sent and that have not been read, what comes after them, and the sizes of the
    pieces they will be handed over in. -/
structure Wire where
  bytes : Bytes
  ending : WireEnd
  sizes : Nat → Nat

/-- How a `readv` into a window completes: with a piece of at least one byte that fits, at the end
    with what comes there, or never.  Any piece of the allowed sizes is some wire's first. -/
def Wire.readv (w : Wire) (window : Nat) : Option (Except IOError Bytes × Wire) :=
  if w.bytes = [] then
    match w.ending with
    | .closed => some (.ok [], w)
    | .failed e => some (.error e, w)
    | .silent => none
  else
    let n := min (min window w.bytes.length) (max 1 (w.sizes 0))
    some (.ok (w.bytes.take n), ⟨w.bytes.drop n, w.ending, fun i => w.sizes (i + 1)⟩)

/-- A read that is over, or that waits forever; `waits` are the windows it waited on. -/
structure ReadRun (ρ σ : Type) where
  machine : RpcRingBufferReadMachine ρ σ
  wire : Wire
  waits : List (List Nat)

namespace ReadRun

/-- What the read returned; `none` if it waits forever. -/
def result (run : ReadRun ρ σ) : Option RpcAwaitableResult := run.machine.result

def ringBuffer (run : ReadRun ρ σ) : ρ := run.machine.state.ringBuffer

def own (run : ReadRun ρ σ) : σ := run.machine.state.own

/-- The bytes received and not consumed, and the ones still to be received. -/
def unread (run : ReadRun ρ σ) : Bytes := RingBuffer.content run.ringBuffer ++ run.wire.bytes

end ReadRun

/-- Drive a read machine; every round but the last two takes at least one byte off the wire. -/
def runRead
    (parseFromRingBuffer : RpcRingBufferReadState ρ σ → Bool × RpcRingBufferReadState ρ σ) :
    Nat → RpcRingBufferReadMachine ρ σ → Wire → ReadRun ρ σ
  | 0, m, w => ⟨m, w, []⟩
  | fuel + 1, m, w =>
    match m.advance parseFromRingBuffer with
    | (.complete _, m) => ⟨m, w, []⟩
    | (.waitWritev _, m) => ⟨m, w, []⟩
    | (.waitReadv windows, m) =>
      match w.readv windows.sum with
      -- the wire is silent: the coroutine stays suspended here
      | none => ⟨m, w, [windows]⟩
      | some (.error e, w) =>
        let run := runRead parseFromRingBuffer fuel (m.onRead (.error e)) w
        { run with waits := windows :: run.waits }
      | some (.ok [], w) =>
        let run := runRead parseFromRingBuffer fuel (m.onRead (.ok 0)) w
        { run with waits := windows :: run.waits }
      | some (.ok piece, w) =>
        let run := runRead parseFromRingBuffer fuel ((m.filled piece).onRead (.ok piece.length)) w
        { run with waits := windows :: run.waits }

/-- `co_await` a read that starts in state `s`. -/
def awaitRead (parseFromRingBuffer : RpcRingBufferReadState ρ σ → Bool × RpcRingBufferReadState ρ σ)
    (s : RpcRingBufferReadState ρ σ) (w : Wire) : ReadRun ρ σ :=
  runRead parseFromRingBuffer (w.bytes.length + 2) ⟨s, none⟩ w

/-- Reads one after the other on one ring buffer, each with its own derived members. -/
def awaitReads (parseFromRingBuffer : RpcRingBufferReadState ρ σ → Bool × RpcRingBufferReadState ρ σ) :
    List σ → ρ → Wire → List (ReadRun ρ σ) × ρ × Wire
  | [], ring, w => ([], ring, w)
  | own :: owns, ring, w =>
    let run := awaitRead parseFromRingBuffer { ringBuffer := ring, own := own } w
    let rest := awaitReads parseFromRingBuffer owns run.ringBuffer run.wire
    (run :: rest.1, rest.2)

/-! ### The loop rule -/

/-- How a read ends that has taken everything off the wire and still wants more. -/
def WireEnd.result : WireEnd → Option RpcAwaitableResult
  | .closed => some (.error (.ofText .connectionClosed "Connection closed"))
  | .failed e => some (.error (mapRpcReadError e))
  | .silent => none

theorem WireEnd.result_ne_ok (ending : WireEnd) : ending.result ≠ some (.ok true) := by
  cases ending <;> exact nofun

theorem Wire.readv_nonempty {w : Wire} (h : w.bytes ≠ []) {window : Nat} (hwindow : 0 < window) :
    ∃ piece rest, w.bytes = piece ++ rest ∧ piece ≠ [] ∧ piece.length ≤ window ∧
      w.readv window = some (.ok piece, ⟨rest, w.ending, fun i => w.sizes (i + 1)⟩) := by
  have hpos := List.length_pos_of_ne_nil h
  refine ⟨w.bytes.take (min (min window w.bytes.length) (max 1 (w.sizes 0))), _,
    (List.take_append_drop _ _).symm, ?_, ?_, by rw [Wire.readv, if_neg h]⟩
  · rw [← List.length_pos_iff, List.length_take]
    omega
  · rw [List.length_take]
    omega

/-- `sizes` is free enough to cut a wire anywhere: every piece that fits the window is handed over by
    some wire with the same bytes. -/
theorem Wire.readv_any {piece rest : Bytes} (hpiece : piece ≠ []) {window : Nat}
    (hwindow : piece.length ≤ window) (ending : WireEnd) (later : Nat → Nat) :
    ∃ sizes, Wire.readv ⟨piece ++ rest, ending, sizes⟩ window =
      some (.ok piece, ⟨rest, ending, later⟩) := by
  have hpos := List.length_pos_of_ne_nil hpiece
  refine ⟨fun i => if i = 0 then piece.length else later (i - 1), ?_⟩
  have hn : min (min window (piece ++ rest).length) (max 1 piece.length) = piece.length := by
    rw [List.length_append]
    omega
  have hne : piece ++ rest ≠ [] := by simp [hpiece]
  simp only [Wire.readv, if_neg hne, if_true, hn, List.take_left, List.drop_left, Nat.add_eq_zero_iff,
    Nat.one_ne_zero, and_false, if_false, Nat.add_sub_cancel]

theorem prepareReadWindow_eq (s : RpcRingBufferReadState ρ σ) :
    s.prepareReadWindow =
      if 0 < RingBuffer.free s.ringBuffer then
        (true, { s with readIovecs := RingBuffer.getWriteIovecs s.ringBuffer })
      else
        (false, { s with
          readIovecs := RingBuffer.getWriteIovecs s.ringBuffer
          error := some (.ofText .internalError "No writable ring buffer space") }) := by
  have hsum : (RingBuffer.getWriteIovecs s.ringBuffer).sum = RingBuffer.free s.ringBuffer :=
    RingBuffer.getWriteIovecs_sum s.ringBuffer
  unfold RpcRingBufferReadState.prepareReadWindow prepareRingBufferReadWindow
  simp only [hsum]
  by_cases h : 0 < RingBuffer.free s.ringBuffer
  · simp [h]
  · simp [h]

/-- A machine that has its result keeps it. -/
theorem runRead_of_result
    {parseFromRingBuffer : RpcRingBufferReadState ρ σ → Bool × RpcRingBufferReadState ρ σ}
    {m : RpcRingBufferReadMachine ρ σ} {result : RpcAwaitableResult} (h : m.result = some result)
    (fuel : Nat) (w : Wire) : runRead parseFromRingBuffer fuel m w = ⟨m, w, []⟩ := by
  cases fuel with
  | zero => rfl
  | succ fuel => simp only [runRead, RpcRingBufferReadMachine.advance, h]

/-- Taking in a piece. -/
theorem onRead_filled {m : RpcRingBufferReadMachine ρ σ} {piece : Bytes} (h : piece ≠ []) :
    (m.filled piece).onRead (.ok piece.length) =
      { m with state := { m.state with ringBuffer := RingBuffer.receive m.state.ringBuffer piece } } := by
  obtain ⟨n, hn⟩ : ∃ n, piece.length = n + 1 :=
    Nat.exists_eq_succ_of_ne_zero (List.length_pos_of_ne_nil h).ne'
  rw [RingBuffer.receive, hn]
  rfl

/-- **The loop rule for reads.**  Given an invariant of state and wire, `P` holds of how a read ends
    if it holds after a parse that completes, when the ring is full, and at the end of the wire; and the
    invariant survives a parse that does not complete followed by any piece that fits. -/
theorem runRead_rule
    (parseFromRingBuffer : RpcRingBufferReadState ρ σ → Bool × RpcRingBufferReadState ρ σ)
    (I : RpcRingBufferReadState ρ σ → Bytes → Prop) (ending : WireEnd)
    (P : Option RpcAwaitableResult → RpcRingBufferReadState ρ σ → Bytes → Prop)
    (hdone : ∀ s s' rest, I s rest → parseFromRingBuffer s = (true, s') →
      P (some (takeResult s'.error)) s' rest)
    (hfull : ∀ s s' rest, I s rest → parseFromRingBuffer s = (false, s') →
      RingBuffer.free s'.ringBuffer = 0 → ∀ s'', s''.ringBuffer = s'.ringBuffer → s''.own = s'.own →
      P (some (.error (.ofText .internalError "No writable ring buffer space"))) s'' rest)
    (hend : ∀ s s', I s [] → parseFromRingBuffer s = (false, s') →
      0 < RingBuffer.free s'.ringBuffer → ∀ s'', s''.ringBuffer = s'.ringBuffer → s''.own = s'.own →
      (ending = .silent → s''.error = s'.error) → P ending.result s'' [])
    (hmore : ∀ s s' piece rest, I s (piece ++ rest) → parseFromRingBuffer s = (false, s') →
      piece ≠ [] → piece.length ≤ RingBuffer.free s'.ringBuffer →
      I { s' with
        ringBuffer := RingBuffer.receive s'.ringBuffer piece
        readIovecs := RingBuffer.getWriteIovecs s'.ringBuffer } rest) :
    ∀ (fuel : Nat) (s : RpcRingBufferReadState ρ σ) (w : Wire), w.bytes.length + 2 ≤ fuel →
      w.ending = ending → I s w.bytes →
      P (runRead parseFromRingBuffer fuel ⟨s, none⟩ w).result
          (runRead parseFromRingBuffer fuel ⟨s, none⟩ w).machine.state
          (runRead parseFromRingBuffer fuel ⟨s, none⟩ w).wire.bytes ∧
        (runRead parseFromRingBuffer fuel ⟨s, none⟩ w).wire.ending = ending := by
  intro fuel
  induction fuel with
  | zero =>
    intro s w hfuel
    omega
  | succ fuel ih =>
    intro s w hfuel hending hI
    unfold runRead RpcRingBufferReadMachine.advance
    rcases hparse : parseFromRingBuffer s with ⟨done, s'⟩
    cases done with
    | true => exact ⟨hdone s s' w.bytes hI hparse, hending⟩
    | false =>
      simp only []
      rw [prepareReadWindow_eq]
      by_cases hfree : 0 < RingBuffer.free s'.ringBuffer
      · have hsum : (RingBuffer.getWriteIovecs s'.ringBuffer).sum = RingBuffer.free s'.ringBuffer :=
          RingBuffer.getWriteIovecs_sum s'.ringBuffer
        simp only [if_pos hfree, hsum]
        by_cases hbytes : w.bytes = []
        · -- nothing left: one more round, if any, which only hands the result over
          rw [hbytes] at hI
          have hP := hend s s' hI hparse hfree
          rcases w with ⟨bytes, _ | e | _, sizes⟩
          all_goals
            obtain rfl : bytes = [] := hbytes
            subst hending
            simp only [Wire.readv, if_true]
          · rw [runRead_of_result rfl]
            exact ⟨hP _ rfl rfl nofun, rfl⟩
          · rw [runRead_of_result rfl]
            exact ⟨hP _ rfl rfl nofun, rfl⟩
          · exact ⟨hP _ rfl rfl fun _ => rfl, trivial⟩
        · -- a piece arrives; the wire gets shorter, so the fuel lasts
          obtain ⟨piece, rest, hcut, hpiece, hlen, hreadv⟩ := w.readv_nonempty hbytes hfree
          rw [hcut] at hI
          have hI' := hmore s s' piece rest hI hparse hpiece hlen
          have hcount : w.bytes.length = piece.length + rest.length := by
            rw [hcut, List.length_append]
          have hpos := List.length_pos_of_ne_nil hpiece
          rw [hreadv]
          obtain ⟨b, bs, rfl⟩ := List.exists_cons_of_ne_nil hpiece
          simp only [onRead_filled hpiece]
          exact ih _ _ (by simp only; omega) hending hI'
      · simp only [if_neg hfree]
        exact ⟨hfull s s' w.bytes hI hparse (by omega) _ rfl rfl, hending⟩

theorem advance_waitReadv
    {parseFromRingBuffer : RpcRingBufferReadState ρ σ → Bool × RpcRingBufferReadState ρ σ}
    {m m' : RpcRingBufferReadMachine ρ σ} {windows : List Nat}
    (h : m.advance parseFromRingBuffer = (.waitReadv windows, m')) : 0 < windows.sum := by
  unfold RpcRingBufferReadMachine.advance at h
  split at h
  · cases h
  · split at h
    · cases h
    · rw [prepareReadWindow_eq] at h
      split at h
      · cases h
      · rename_i hprep
        split at hprep
        · rename_i hfree
          obtain ⟨-, rfl⟩ := Prod.mk.inj hprep
          obtain ⟨haction, -⟩ := Prod.mk.inj h
          obtain rfl := MachineAction.waitReadv.inj haction
          exact hfree.trans_eq (RingBuffer.getWriteIovecs_sum _).symm
        · cases hprep

/-- No machine waits for bytes it has no room for. -/
theorem runRead_waits
    {parseFromRingBuffer : RpcRingBufferReadState ρ σ → Bool × RpcRingBufferReadState ρ σ}
    {windows : List Nat} (fuel : Nat) (m : RpcRingBufferReadMachine ρ σ) (w : Wire)
    (h : windows ∈ (runRead parseFromRingBuffer fuel m w).waits) : 0 < windows.sum := by
  induction fuel generalizing m w with
  | zero => cases h
  | succ fuel ih =>
    unfold runRead at h
    rcases hadv : m.advance parseFromRingBuffer with ⟨_ | waited | _, m'⟩
    all_goals simp only [hadv] at h
    · cases h
    · have hpos := advance_waitReadv hadv
      split at h
      · rwa [List.mem_singleton.mp h]
      all_goals
        rcases List.mem_cons.mp h with rfl | h
        · exact hpos
        · exact ih _ _ h
    · cases h

end Read

/-! ## Writing -/

/-- The members of `RpcWriteStateBase`; derived classes only add the memory the segments lie in. -/
structure RpcWriteState where
  iovecs : List Bytes
  error : Option RpcError := none

namespace RpcWriteState

def prepareWriteIovecs (_ : RpcWriteState) : Bool := true

variable (s : RpcWriteState)

def isComplete : Bool := s.error.isSome || s.iovecs.isEmpty

def onBytesWritten (bytesWritten : Nat) : RpcWriteState :=
  { s with iovecs := consumeWritevIovecs s.iovecs bytesWritten }

def setSendError (e : IOError) : RpcWriteState :=
  { s with error := some (.fromIOError e .internalError) }

def onZeroWrite : RpcWriteState :=
  { s with error := some (.fromIOError ⟨.sendFailed, 0⟩ .internalError) }

end RpcWriteState

/-- `RpcWritevMachine`. -/
structure RpcWritevMachine where
  state : RpcWriteState
  result : Option RpcAwaitableResult := none

namespace RpcWritevMachine

/-- `advance`. -/
def advance (m : RpcWritevMachine) : MachineAction × RpcWritevMachine :=
  match m.result with
  | some result => (.complete result, m)
  | none =>
    if m.state.isComplete ∨ ¬ m.state.prepareWriteIovecs then
      (.complete (takeResult m.state.error), { m with result := some (takeResult m.state.error) })
    else (.waitWritev m.state.iovecs, m)

/-- `onWrite`. -/
def onWrite (m : RpcWritevMachine) : Except IOError Nat → RpcWritevMachine
  | .error e =>
    let state := m.state.setSendError e
    ⟨state, some (takeResult state.error)⟩
  | .ok 0 =>
    let state := m.state.onZeroWrite
    ⟨state, some (takeResult state.error)⟩
  | .ok n =>
    let state := m.state.onBytesWritten n
    if state.isComplete then ⟨state, some (takeResult state.error)⟩ else { m with state := state }

end RpcWritevMachine

/-! ### The writing side of a socket -/

/-- What the kernel makes of one `writev`. -/
inductive WriteEvent where
  | accept (n : Nat)
  | zero
  | failed (e : IOError)
deriving DecidableEq, Repr

/-- The bytes put on a connection so far, and what will become of the next writes. -/
structure Sink where
  sent : Bytes
  writes : Nat → WriteEvent

/-- A `writev`: an accepted one takes at least one byte and at most all that is offered. -/
def Sink.writev (k : Sink) (iovecs : List Bytes) : Except IOError Nat × Sink :=
  let later := fun i => k.writes (i + 1)
  match k.writes 0 with
  | .accept n =>
    let n := min iovecs.flatten.length (max 1 n)
    (.ok n, ⟨k.sent ++ iovecs.flatten.take n, later⟩)
  | .zero => (.ok 0, ⟨k.sent, later⟩)
  | .failed e => (.error e, ⟨k.sent, later⟩)

/-- A write that is over. -/
structure WriteRun where
  machine : RpcWritevMachine
  sink : Sink

def WriteRun.result (run : WriteRun) : Option RpcAwaitableResult := run.machine.result

/-- Drive a write machine. -/
def runWrite : Nat → RpcWritevMachine → Sink → WriteRun
  | 0, m, k => ⟨m, k⟩
  | fuel + 1, m, k =>
    match m.advance with
    | (.waitWritev iovecs, m) => runWrite fuel (m.onWrite (k.writev iovecs).1) (k.writev iovecs).2
    | (_, m) => ⟨m, k⟩

/-- `co_await` a write that starts in state `s`. -/
def awaitWrite (s : RpcWriteState) (k : Sink) : WriteRun :=
  runWrite (s.iovecs.flatten.length + 2) ⟨s, none⟩ k

/-- The write at hand fails. -/
def WriteEvent.Fails : WriteEvent → Prop
  | .accept _ => False
  | .zero => True
  | .failed _ => True

instance (event : WriteEvent) : Decidable event.Fails :=
  match event with
  | .accept _ => .isFalse id
  | .zero => .isTrue trivial
  | .failed _ => .isTrue trivial

/-- How a write ends that was to put `bytes` on the connection: with all of them there, or with an
    error after some event that failed, and then not with all. -/
inductive Written (bytes : Bytes) (k : Sink) (run : WriteRun) : Prop where
  | all (hresult : run.result = some (.ok true)) (hsent : run.sink.sent = k.sent ++ bytes)
  | part (e : RpcError) (n i : Nat) (hresult : run.result = some (.error e)) (hlt : n < bytes.length)
      (hsent : run.sink.sent = k.sent ++ bytes.take n) (hfails : (k.writes i).Fails)

theorem runWrite_of_result {m : RpcWritevMachine} {result : RpcAwaitableResult}
    (h : m.result = some result) (fuel : Nat) (k : Sink) : runWrite fuel m k = ⟨m, k⟩ := by
  cases fuel with
  | zero => rfl
  | succ fuel => simp only [runWrite, RpcWritevMachine.advance, h]

/-- A machine with buffers left asks for a `writev` of them. -/
theorem advance_waitWritev {iovecs : List Bytes} (h : iovecs ≠ []) :
    RpcWritevMachine.advance ⟨⟨iovecs, none⟩, none⟩ = (.waitWritev iovecs, ⟨⟨iovecs, none⟩, none⟩) := by
  simp [RpcWritevMachine.advance, RpcWriteState.isComplete, RpcWriteState.prepareWriteIovecs, h]

theorem runWrite_step {iovecs : List Bytes} (h : iovecs ≠ []) (fuel : Nat) (k : Sink) :
    runWrite (fuel + 1) ⟨⟨iovecs, none⟩, none⟩ k =
      runWrite fuel (RpcWritevMachine.onWrite ⟨⟨iovecs, none⟩, none⟩ (k.writev iovecs).1)
        (k.writev iovecs).2 := by
  rw [runWrite, advance_waitWritev h]

/-- Taking in that a piece was accepted: the write is over when nothing is left to offer. -/
theorem onWrite_accepted (iovecs : List Bytes) {n : Nat} (h : 0 < n) :
    RpcWritevMachine.onWrite ⟨⟨iovecs, none⟩, none⟩ (.ok n) =
      if consumeWritevIovecs iovecs n = [] then ⟨⟨[], none⟩, some (.ok true)⟩
      else ⟨⟨consumeWritevIovecs iovecs n, none⟩, none⟩ := by
  obtain ⟨n, rfl⟩ := Nat.exists_eq_succ_of_ne_zero h.ne'
  simp only [RpcWritevMachine.onWrite, RpcWriteState.onBytesWritten, RpcWriteState.isComplete]
  by_cases hc : consumeWritevIovecs iovecs (n + 1) = []
  · simp [hc, takeResult]
  · simp [hc]

theorem flatten_length_pos {iovecs : List Bytes} (hnil : iovecs ≠ []) (hne : ∀ iov ∈ iovecs, iov ≠ []) :
    0 < iovecs.flatten.length := by
  obtain ⟨iov, rest, rfl⟩ := List.exists_cons_of_ne_nil hnil
  have := List.length_pos_of_ne_nil (hne iov List.mem_cons_self)
  rw [List.flatten_cons, List.length_append]
  omega

/-- A write goes on behind an accepted piece. -/
theorem Written.after_accept {bytes : Bytes} {k k' : Sink} {run : WriteRun} {n : Nat}
    (h : Written (bytes.drop n) k' run) (hn : n ≤ bytes.length)
    (hsent : k'.sent = k.sent ++ bytes.take n) (hwrites : k'.writes = fun i => k.writes (i + 1)) :
    Written bytes k run := by
  cases h with
  | all hresult hall =>
    refine .all hresult ?_
    rw [hall, hsent, List.append_assoc, List.take_append_drop]
  | part e m i hresult hlt hpart hfails =>
    rw [List.length_drop] at hlt
    refine .part e (n + m) (i + 1) hresult (by omega) ?_ ?_
    · rw [hpart, hsent, List.append_assoc, List.take_add]
    · rwa [hwrites] at hfails

/-- **The loop rule for writes.**  A write ends; and whatever the kernel does, what it has put on the
    connection then is a prefix of its bytes, all of them exactly when it succeeds. -/
theorem runWrite_written (fuel : Nat) (iovecs : List Bytes) (k : Sink)
    (hfuel : iovecs.flatten.length + 2 ≤ fuel) (hne : ∀ iov ∈ iovecs, iov ≠ []) :
    Written iovecs.flatten k (runWrite fuel ⟨⟨iovecs, none⟩, none⟩ k) ∧
      ∃ j, (runWrite fuel ⟨⟨iovecs, none⟩, none⟩ k).sink.writes = fun i => k.writes (i + j) := by
  induction fuel generalizing iovecs k with
  | zero => omega
  | succ fuel ih =>
    by_cases hnil : iovecs = []
    · subst hnil
      have hrun : runWrite (fuel + 1) ⟨⟨[], none⟩, none⟩ k = ⟨⟨⟨[], none⟩, some (.ok true)⟩, k⟩ := rfl
      rw [hrun]
      exact ⟨.all rfl (List.append_nil _).symm, 0, rfl⟩
    have hpos := flatten_length_pos hnil hne
    rw [runWrite_step hnil, Sink.writev]
    rcases hev : k.writes 0 with n | _ | e
    -- what the kernel takes shortens the buffers, which the induction is on
    · simp only []
      generalize hm : min iovecs.flatten.length (max 1 n) = m
      have hm0 : 0 < m := by omega
      have hmle : m ≤ iovecs.flatten.length := by omega
      have hdrop := consumeWritevIovecs_flatten iovecs m
      have hne' := ne_nil_of_mem_consumeWritevIovecs hne m
      rw [onWrite_accepted iovecs hm0]
      by_cases hc : consumeWritevIovecs iovecs m = []
      · -- the last piece
        rw [hc, List.flatten_nil] at hdrop
        have hlast : Written (iovecs.flatten.drop m)
            ⟨k.sent ++ iovecs.flatten.take m, fun i => k.writes (i + 1)⟩
            ⟨⟨⟨[], none⟩, some (.ok true)⟩,
              ⟨k.sent ++ iovecs.flatten.take m, fun i => k.writes (i + 1)⟩⟩ :=
          .all rfl (by rw [← hdrop, List.append_nil])
        rw [if_pos hc, runWrite_of_result rfl]
        exact ⟨hlast.after_accept hmle rfl rfl, 1, rfl⟩
      · rw [if_neg hc]
        have hlen : (consumeWritevIovecs iovecs m).flatten.length + 2 ≤ fuel := by
          rw [hdrop, List.length_drop]
          omega
        obtain ⟨hw, j, hj⟩ := ih (consumeWritevIovecs iovecs m)
          ⟨k.sent ++ iovecs.flatten.take m, fun i => k.writes (i + 1)⟩ hlen hne'
        rw [hdrop] at hw
        exact ⟨hw.after_accept hmle rfl rfl, j + 1, hj⟩
    · rw [runWrite_of_result rfl]
      exact ⟨.part _ 0 0 rfl hpos (List.append_nil _).symm (by rw [hev]; trivial), 1, rfl⟩
    · rw [runWrite_of_result rfl]
      exact ⟨.part _ 0 0 rfl hpos (List.append_nil _).symm (by rw [hev]; trivial), 1, rfl⟩

theorem awaitWrite_written {s : RpcWriteState} (herror : s.error = none)
    (hne : ∀ iov ∈ s.iovecs, iov ≠ []) (k : Sink) :
    Written s.iovecs.flatten k (awaitWrite s k) ∧
      ∃ j, (awaitWrite s k).sink.writes = fun i => k.writes (i + j) := by
  obtain ⟨iovecs, error⟩ := s
  subst herror
  exact runWrite_written _ iovecs k (Nat.le_refl _) hne

end GalayRpc
