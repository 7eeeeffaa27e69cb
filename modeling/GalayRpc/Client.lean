/-
  `RpcClient::callWithMode`: calls sharing one connection.

  1. **One call** — `callWithMode` is a coroutine: it takes a request id, writes its request, reads a
     response and compares id and mode.  `Call` is such a coroutine between two operations on the
     socket; it holds the machine it is suspended in.  `.timeout()` abandons it: it takes no further
     step, and nothing is undone.

  2. **One connection** — `ClientConn` is a connected client with all calls ever made on it, and the
     socket's two directions.  Any call may take the next step, so the calls may run one after the
     other or interleaved.  A step is one operation of one call (a `writev`, a `readv`, or the resumption
     with a result), or the peer putting bytes on the wire.

  3. **What a step can do** — `Stepped` inverts the step function once; invariants are proved by cases
     on it.  The calls take the ids 0, 1, 2, … in order (`Sound`), and a call has put a prefix of its
     request on the connection (`WellSent`).

  The client keeps the ring buffer across calls, and a suspended reader holds a reference to it; here
  the connection owns the ring, and a machine is attached to it for a step.  What has been sent in
  answer to which call, and which bytes a call has written, is recorded for the statements only
  (`answered`, `emitted`).
-/
import GalayRpc.Conn
import GalayRpc.Lib.Run

namespace GalayRpc

variable {ρ : Type} [RingBuffer ρ]

/-! ## One call -/

/-- `RpcCallResult`. -/
abbrev RpcCallResult := Except RpcError (Option RpcResponse)

/-- The arguments of `callWithMode`. -/
structure CallArgs where
  service : Bytes
  method : Bytes
  mode : RpcCallMode := .unary
  endOfStream : Bool := true
  payload : Bytes := []

/-- The request `callWithMode` builds. -/
def callRequest (reqId : UInt32) (args : CallArgs) : RpcRequest where
  requestId := reqId
  callMode := args.mode
  endOfStream := args.endOfStream
  serviceName := args.service
  methodName := args.method
  store := if args.payload.length > 0 then .setBytes args.payload else {}

/-- What `callWithMode` makes of a response. -/
def checkResponse (request : RpcRequest) (response : RpcResponse) : RpcCallResult :=
  if response.requestId ≠ request.requestId then
    .error (.ofText .invalidResponse "Mismatched response request id")
  else if response.callMode ≠ request.callMode then
    .error (.ofText .invalidResponse "Mismatched response call mode")
  else .ok (some response)

/-- A read machine without its ring. -/
abbrev DetachedReader := RpcRingBufferReadMachine Unit RpcResponse

/-- The machine with its reference to the ring filled in. -/
def DetachedReader.attach (m : DetachedReader) (ring : ρ) : RpcRingBufferReadMachine ρ RpcResponse :=
  ⟨{ ringBuffer := ring, own := m.state.own, readIovecs := m.state.readIovecs, error := m.state.error },
    m.result⟩

omit [RingBuffer ρ] in
def RpcRingBufferReadMachine.detach (m : RpcRingBufferReadMachine ρ RpcResponse) : DetachedReader :=
  ⟨{ ringBuffer := (), own := m.state.own, readIovecs := m.state.readIovecs, error := m.state.error },
    m.result⟩

/-- Where a call is suspended. -/
inductive CallPhase where
  | sending (machine : RpcWritevMachine)
  | receiving (machine : DetachedReader)
  | returned (result : RpcCallResult)

/-- A call. -/
structure Call where
  request : RpcRequest
  phase : CallPhase
  abandoned : Bool := false
  emitted : Bytes := []

namespace Call

/-- A call up to its first `writev`. -/
def start (reqId : UInt32) (args : CallArgs) : Call where
  request := callRequest reqId args
  phase := .sending ⟨RpcRequestWriteState (callRequest reqId args), none⟩

/-- Where a call goes on after a `writev`. -/
def afterWrite (m : RpcWritevMachine) : CallPhase :=
  match m.result with
  | none => .sending m
  | some (.error e) => .returned (.error e)
  | some (.ok _) => .receiving ⟨{ ringBuffer := (), own := {} }, none⟩

/-- A `writev` of the request: the call after it, and what it puts on the connection. -/
def write (c : Call) (event : WriteEvent) : Option (Call × Bytes) :=
  if c.abandoned then none
  else
    match c.phase with
    | .sending m =>
      match m.advance with
      | (.waitWritev iovecs, m) =>
        let out := Sink.writev ⟨[], fun _ => event⟩ iovecs
        some ({ c with phase := afterWrite (m.onWrite out.1), emitted := c.emitted ++ out.2.sent },
          out.2.sent)
      | _ => none
    | _ => none

/-- A `readv` that completes: with a piece, at end-of-file (no bytes), or in an error. -/
def read (setting : RpcReaderSetting) (ring : ρ) (c : Call) (event : Except IOError Bytes) :
    Option (Call × ρ) :=
  if c.abandoned then none
  else
    match c.phase with
    | .receiving m =>
      match (m.attach ring).advance (RpcResponseReadState.parseFromRingBuffer setting) with
      | (.waitReadv windows, m) =>
        match event with
        | .error e => some ({ c with phase := .receiving (m.onRead (.error e)).detach }, ring)
        | .ok [] => some ({ c with phase := .receiving (m.onRead (.ok 0)).detach }, ring)
        | .ok piece =>
          -- the kernel fills no more than it was given
          if piece.length ≤ windows.sum then
            let m := (m.filled piece).onRead (.ok piece.length)
            some ({ c with phase := .receiving m.detach }, m.state.ringBuffer)
          else none
      | _ => none
    | _ => none

/-- The reader completes, and the call returns. -/
def finish (setting : RpcReaderSetting) (ring : ρ) (c : Call) : Option (Call × ρ) :=
  if c.abandoned then none
  else
    match c.phase with
    | .receiving m =>
      match (m.attach ring).advance (RpcResponseReadState.parseFromRingBuffer setting) with
      | (.complete (.error e), m) => some ({ c with phase := .returned (.error e) }, m.state.ringBuffer)
      | (.complete (.ok _), m) =>
        some ({ c with phase := .returned (checkResponse c.request m.state.own) }, m.state.ringBuffer)
      | _ => none
    | _ => none

/-- What a call has returned. -/
def result? (c : Call) : Option RpcCallResult :=
  match c.phase with
  | .returned result => some result
  | _ => none

/-- The call takes no further step. -/
def Over (c : Call) : Prop := c.abandoned = true ∨ c.result?.isSome = true

instance (c : Call) : Decidable c.Over := inferInstanceAs (Decidable (_ ∨ _))

/-- `.timeout()` gives up on the call. -/
def abandon (c : Call) : Option Call :=
  if c.abandoned then none
  else
    match c.phase with
    | .returned _ => none
    | _ => some { c with abandoned := true }

end Call

/-! ## One connection -/

/-- A frame the peer has sent, what it says, and the call it answers. -/
structure Answer where
  origin : Nat
  frame : Bytes
  msg : ResponseMsg

/-- A connected client, and its socket. -/
structure ClientConn (ρ : Type) where
  mRequestId : UInt32 := 0
  mRingBuffer : ρ
  calls : List Call := []
  sent : Bytes := []
  arriving : Bytes := []
  answered : List Answer := []

inductive ClientAction where
  | call (args : CallArgs)
  | write (i : Nat) (event : WriteEvent)
  | read (i n : Nat)
  | hangUp (i : Nat) (e : Option IOError)
  | finish (i : Nat)
  | abandon (i : Nat)
  | respond (answer : Answer)

namespace ClientConn

/-- A step of the connection. -/
def step (setting : RpcReaderSetting) (s : ClientConn ρ) : ClientAction → Option (ClientConn ρ)
  | .call args =>
    some { s with
      mRequestId := s.mRequestId + 1
      calls := s.calls ++ [.start s.mRequestId args] }
  | .write i event =>
    s.calls[i]?.bind fun c => (c.write event).map fun out =>
      { s with calls := s.calls.set i out.1, sent := s.sent ++ out.2 }
  | .read i n =>
    -- a `readv` of no bytes would be the end-of-file, which is `hangUp`
    if s.arriving.take n = [] then none
    else
      s.calls[i]?.bind fun c => (c.read setting s.mRingBuffer (.ok (s.arriving.take n))).map fun out =>
        { s with
          calls := s.calls.set i out.1
          mRingBuffer := out.2
          arriving := s.arriving.drop n }
  | .hangUp i e =>
    let event := match e with
      | none => .ok []
      | some e => .error e
    s.calls[i]?.bind fun c => (c.read setting s.mRingBuffer event).map fun out =>
      { s with calls := s.calls.set i out.1, mRingBuffer := out.2 }
  | .finish i =>
    s.calls[i]?.bind fun c => (c.finish setting s.mRingBuffer).map fun out =>
      { s with calls := s.calls.set i out.1, mRingBuffer := out.2 }
  | .abandon i =>
    s.calls[i]?.bind fun c => c.abandon.map fun c' => { s with calls := s.calls.set i c' }
  | .respond answer =>
    some { s with
      arriving := s.arriving ++ answer.frame
      answered := s.answered ++ [answer] }

end ClientConn

/-! ## What an operation of a call does -/

/-- The read machine's next move, by what the ring holds. -/
inductive Advanced {M α : Type} (msg : M → α) (p : FrameParser RpcErrorCode α)
    (m : RpcRingBufferReadMachine ρ M) : MachineAction × RpcRingBufferReadMachine ρ M → Prop where
  | waits (windows : List Nat) (hresult : m.result = none)
      (hparse : p.parse (RingBuffer.content m.state.ringBuffer) = .ok none)
      (hsum : windows.sum = RingBuffer.free m.state.ringBuffer) :
      Advanced msg p m (.waitReadv windows, { m with state := { m.state with readIovecs := windows } })
  | read (n : Nat) (own : M) (hresult : m.result = none)
      (hparse : p.parse (RingBuffer.content m.state.ringBuffer) = .ok (some (n, msg own))) :
      Advanced msg p m (.complete (.ok true),
        ⟨{ m.state with own := own, ringBuffer := RingBuffer.consume m.state.ringBuffer n },
          some (.ok true)⟩)
  | failed (e : RpcError) (m' : RpcRingBufferReadMachine ρ M)
      (hring : m'.state.ringBuffer = m.state.ringBuffer)
      (hwhy : m.result = some (.error e) ∨
        (∃ code, p.parse (RingBuffer.content m.state.ringBuffer) = .error code) ∨
        (p.parse (RingBuffer.content m.state.ringBuffer) = .ok none ∧
          RingBuffer.free m.state.ringBuffer = 0)) :
      Advanced msg p m (.complete (.error e), m')

/-- A reader between two steps: nothing has gone wrong, or it is about to complete in an error. -/
def RpcRingBufferReadMachine.Open {M : Type} (m : RpcRingBufferReadMachine ρ M) : Prop :=
  (m.result = none ∧ m.state.error = none) ∨ ∃ e, m.result = some (.error e)

theorem ReadsFrames.advance {M α : Type} {msg : M → α} {p : FrameParser RpcErrorCode α}
    {parseFromRingBuffer : RpcRingBufferReadState ρ M → Bool × RpcRingBufferReadState ρ M}
    (h : ReadsFrames msg p parseFromRingBuffer) {m : RpcRingBufferReadMachine ρ M} (hm : m.Open) :
    Advanced msg p m (m.advance parseFromRingBuffer) := by
  rcases m with ⟨s, result⟩
  rcases hm with ⟨hresult, herror⟩ | ⟨e, hresult⟩
  · simp only [] at hresult herror
    subst hresult
    have hs := h s
    unfold RpcRingBufferReadMachine.advance
    rcases hp : p.parse (RingBuffer.content s.ringBuffer) with code | _ | ⟨n, a⟩
    all_goals rw [hp] at hs
    · obtain ⟨text, hout⟩ := hs
      simp only [hout]
      exact .failed _ _ rfl (Or.inr (Or.inl ⟨code, hp⟩))
    · have hout : parseFromRingBuffer s = (false, s) := hs
      simp only [hout]
      rw [prepareReadWindow_eq]
      by_cases hfree : 0 < RingBuffer.free s.ringBuffer
      · simp only [if_pos hfree]
        exact .waits _ rfl hp (RingBuffer.getWriteIovecs_sum s.ringBuffer)
      · simp only [if_neg hfree]
        exact .failed _ _ rfl (Or.inr (Or.inr ⟨hp, Nat.eq_zero_of_not_pos hfree⟩))
    · obtain ⟨own, rfl, hout⟩ := hs
      have hread := Advanced.read (m := ⟨s, none⟩) n own rfl hp
      simp only [hout, herror, takeResult] at hread ⊢
      exact hread
  · simp only [] at hresult
    subst hresult
    exact .failed e _ rfl (Or.inl rfl)

namespace Call

/-- A call between two steps: what it has put on the connection is a prefix of its request, all of it
    once it waits for the response; and the machine it is suspended in has the rest, or is open. -/
def WellSent (c : Call) : Prop :=
  match c.phase with
  | .sending m => ∃ iovecs, m = ⟨⟨iovecs, none⟩, none⟩ ∧ iovecs ≠ [] ∧ (∀ iov ∈ iovecs, iov ≠ []) ∧
      c.emitted ++ iovecs.flatten = c.request.serialize
  | .receiving m => c.emitted = c.request.serialize ∧ m.Open
  | .returned _ => c.emitted <+: c.request.serialize

theorem WellSent.emitted_front {c : Call} (h : c.WellSent) : c.emitted <+: c.request.serialize := by
  unfold WellSent at h
  split at h
  · obtain ⟨iovecs, -, -, -, hall⟩ := h
    exact ⟨iovecs.flatten, hall⟩
  · have hall : c.emitted = c.request.serialize := h.1
    exact hall ▸ List.prefix_rfl
  · exact h

theorem start_wellSent (reqId : UInt32) (args : CallArgs) : (start reqId args).WellSent := by
  refine ⟨_, rfl, ?_, RpcRequestWriteState_ne_nil _, ?_⟩
  · exact List.cons_ne_nil _ _
  · exact RpcRequestWriteState_flatten _

/-- What a `writev` does to a call. -/
structure Wrote (c : Call) (event : WriteEvent) (c' : Call) (put : Bytes) : Prop where
  active : c.abandoned = false ∧ c'.abandoned = false
  request : c'.request = c.request
  emitted : c'.emitted = c.emitted ++ put
  wellSent : c'.WellSent
  sending : ∃ m, c.phase = .sending m
  unfinished : c.emitted.length < c.request.serialize.length
  fails : event.Fails → put = [] ∧ ∃ e, c'.phase = .returned (.error e)
  accepts : ¬ event.Fails → put ≠ [] ∧ ((∃ m, c'.phase = .sending m) ∨
    c'.phase = .receiving ⟨{ ringBuffer := (), own := {} }, none⟩)

theorem Wrote.unsent {c c' : Call} {event : WriteEvent} {put : Bytes} (h : c.Wrote event c' put) :
    c.emitted ≠ c.request.serialize := by
  intro heq
  have hlt := h.unfinished
  rw [heq] at hlt
  exact Nat.lt_irrefl _ hlt

/-- A `writev` that fails ends the call where it is. -/
theorem wrote_failed {c : Call} {event : WriteEvent} {m : RpcWritevMachine} (hfails : event.Fails)
    (hactive : c.abandoned = false) (hphase : c.phase = .sending m)
    (hfront : c.emitted <+: c.request.serialize)
    (hpart : c.emitted.length < c.request.serialize.length) (e : RpcError) :
    c.Wrote event { c with phase := .returned (.error e), emitted := c.emitted ++ [] } [] where
  active := ⟨hactive, hactive⟩
  request := rfl
  emitted := rfl
  wellSent := by
    show c.emitted ++ [] <+: _
    rw [List.append_nil]
    exact hfront
  sending := ⟨m, hphase⟩
  unfinished := hpart
  fails _ := ⟨rfl, e, rfl⟩
  accepts h := absurd hfails h

theorem write_spec {c c' : Call} {event : WriteEvent} {put : Bytes} (hc : c.WellSent)
    (h : c.write event = some (c', put)) : c.Wrote event c' put := by
  unfold write at h
  split at h
  · cases h
  · rename_i hactive
    split at h
    · rename_i m hphase
      unfold WellSent at hc
      rw [hphase] at hc
      obtain ⟨iovecs, rfl, hnil, hne, hall⟩ := hc
      have hpos := flatten_length_pos hnil hne
      have hlen := congrArg List.length hall
      rw [List.length_append] at hlen
      have hfront : c.emitted <+: c.request.serialize := ⟨iovecs.flatten, hall⟩
      have hpart : c.emitted.length < c.request.serialize.length := by omega
      have hactive' : c.abandoned = false := by simpa using hactive
      rw [advance_waitWritev hnil] at h
      cases event with
      | accept n =>
        simp only [Sink.writev, List.nil_append] at h
        generalize hm : min iovecs.flatten.length (max 1 n) = m at h
        have hm0 : 0 < m := by omega
        have hdrop := consumeWritevIovecs_flatten iovecs m
        obtain ⟨rfl, rfl⟩ := Prod.mk.inj (Option.some.inj h)
        rw [onWrite_accepted iovecs hm0]
        have hrest : (c.emitted ++ iovecs.flatten.take m) ++ iovecs.flatten.drop m =
            c.request.serialize := by
          rw [List.append_assoc, List.take_append_drop, hall]
        have hput : iovecs.flatten.take m ≠ [] := by
          rw [← List.length_pos_iff, List.length_take]
          omega
        by_cases hc : consumeWritevIovecs iovecs m = []
        · -- the last piece: the call goes on to read
          rw [hc, List.flatten_nil] at hdrop
          rw [← hdrop, List.append_nil] at hrest
          rw [if_pos hc]
          exact ⟨⟨hactive', hactive'⟩, rfl, rfl, ⟨hrest, Or.inl ⟨rfl, rfl⟩⟩, ⟨_, hphase⟩, hpart,
            fun hfails => hfails.elim, fun _ => ⟨hput, Or.inr rfl⟩⟩
        · rw [if_neg hc]
          refine ⟨⟨hactive', hactive'⟩, rfl, rfl, ⟨_, rfl, hc, ?_, ?_⟩, ⟨_, hphase⟩, hpart,
            fun hfails => hfails.elim, fun _ => ⟨hput, Or.inl ⟨_, rfl⟩⟩⟩
          · exact ne_nil_of_mem_consumeWritevIovecs hne m
          · rw [hdrop]
            exact hrest
      | zero =>
        obtain ⟨rfl, rfl⟩ := Prod.mk.inj (Option.some.inj h)
        exact wrote_failed (show WriteEvent.zero.Fails from trivial) hactive' hphase hfront hpart _
      | failed e =>
        obtain ⟨rfl, rfl⟩ := Prod.mk.inj (Option.some.inj h)
        exact wrote_failed (show (WriteEvent.failed e).Fails from trivial) hactive' hphase hfront hpart _
    · cases h

/-- The abstract reader of a client's responses. -/
abbrev parser (setting : RpcReaderSetting) : FrameParser RpcErrorCode ResponseMsg :=
  responseParser (setting.maxMessageSize + 16).toNat

section Reading

variable {setting : RpcReaderSetting} {ring ring' : ρ} {c c' : Call}

/-- What the reader of a call does next. -/
theorem WellSent.advanced (hc : c.WellSent) {m : DetachedReader} (hphase : c.phase = .receiving m)
    (setting : RpcReaderSetting) (ring : ρ) :
    Advanced RpcResponse.msg (parser setting) (m.attach ring)
      ((m.attach ring).advance (RpcResponseReadState.parseFromRingBuffer setting)) := by
  unfold WellSent at hc
  rw [hphase] at hc
  exact (response_readsFrames setting).advance hc.2

/-- A `readv` completes only for a call whose reader waits for it. -/
theorem read_waits (hc : c.WellSent) {event : Except IOError Bytes}
    (h : c.read setting ring event = some (c', ring')) :
    c.abandoned = false ∧ ∃ m windows, c.phase = .receiving m ∧ m.result = none ∧
      windows.sum = RingBuffer.free ring ∧
      (m.attach ring).advance (RpcResponseReadState.parseFromRingBuffer setting) =
        (.waitReadv windows,
          { m.attach ring with state := { (m.attach ring).state with readIovecs := windows } }) := by
  unfold read at h
  split at h
  · cases h
  · rename_i hactive
    split at h
    · rename_i m hphase
      have hadv := hc.advanced hphase setting ring
      generalize hout : (m.attach ring).advance _ = out at h hadv
      cases hadv with
      | waits windows hresult hparse hsum =>
        exact ⟨by simpa using hactive, m, windows, hphase, hresult, hsum, hout⟩
      | read n own hresult hparse => cases h
      | failed e m' hring hwhy => cases h
    · cases h

/-- A piece goes to the ring; the reader goes on. -/
theorem read_piece (hc : c.WellSent) {piece : Bytes} (hpiece : piece ≠ [])
    (h : c.read setting ring (.ok piece) = some (c', ring')) :
    c.abandoned = false ∧ ∃ m m', c.phase = .receiving m ∧ c' = { c with phase := .receiving m' } ∧
      m.result = none ∧ m'.result = none ∧ m'.state.error = m.state.error ∧
      piece.length ≤ RingBuffer.free ring ∧ ring' = RingBuffer.receive ring piece := by
  obtain ⟨hactive, m, windows, hphase, hresult, hsum, hadvance⟩ := read_waits hc h
  rw [read, if_neg (ne_true_of_eq_false hactive)] at h
  simp only [hphase, hadvance] at h
  obtain ⟨b, bs, rfl⟩ := List.exists_cons_of_ne_nil hpiece
  split at h
  · rename_i hle
    rw [onRead_filled hpiece] at h
    obtain ⟨rfl, rfl⟩ := Prod.mk.inj (Option.some.inj h)
    rw [hsum] at hle
    exact ⟨hactive, m, _, hphase, rfl, hresult, hresult, rfl, hle, rfl⟩
  · cases h

/-- End-of-file and errors leave the ring alone and settle the reader's result. -/
theorem read_end (hc : c.WellSent) {event : Except IOError Bytes}
    (hevent : event = .ok [] ∨ ∃ e, event = .error e)
    (h : c.read setting ring event = some (c', ring')) :
    c.abandoned = false ∧ ∃ m m' e, c.phase = .receiving m ∧ c' = { c with phase := .receiving m' } ∧
      m'.result = some (.error e) ∧ ring' = ring := by
  obtain ⟨hactive, m, windows, hphase, -, -, hadvance⟩ := read_waits hc h
  rw [read, if_neg (ne_true_of_eq_false hactive)] at h
  simp only [hphase, hadvance] at h
  rcases hevent with rfl | ⟨e, rfl⟩
  · obtain ⟨rfl, rfl⟩ := Prod.mk.inj (Option.some.inj h)
    exact ⟨hactive, m, _, _, hphase, rfl, rfl, rfl⟩
  · obtain ⟨rfl, rfl⟩ := Prod.mk.inj (Option.some.inj h)
    exact ⟨hactive, m, _, _, hphase, rfl, rfl, rfl⟩

/-- A call returns what it makes of the frame in front, or an error that takes nothing. -/
theorem finish_spec (hc : c.WellSent) (h : c.finish setting ring = some (c', ring')) :
    c.abandoned = false ∧ ∃ m, c.phase = .receiving m ∧
      ((∃ n own, (parser setting).parse (RingBuffer.content ring) = .ok (some (n, RpcResponse.msg own)) ∧
          ring' = RingBuffer.consume ring n ∧
          c' = { c with phase := .returned (checkResponse c.request own) }) ∨
        ∃ e, ring' = ring ∧ c' = { c with phase := .returned (.error e) } ∧
          (m.result = some (.error e) ∨
            (∃ code, (parser setting).parse (RingBuffer.content ring) = .error code) ∨
            ((parser setting).parse (RingBuffer.content ring) = .ok none ∧ RingBuffer.free ring = 0))) := by
  unfold finish at h
  split at h
  · cases h
  · rename_i hactive
    split at h
    · rename_i m hphase
      have hadv := hc.advanced hphase setting ring
      generalize hout : (m.attach ring).advance _ = out at h hadv
      cases hadv with
      | waits windows hresult hparse hsum => cases h
      | read n own hresult hparse =>
        obtain ⟨rfl, rfl⟩ := Prod.mk.inj (Option.some.inj h)
        exact ⟨by simpa using hactive, m, hphase, Or.inl ⟨n, own, hparse, rfl, rfl⟩⟩
      | failed e m' hring hwhy =>
        obtain ⟨rfl, rfl⟩ := Prod.mk.inj (Option.some.inj h)
        exact ⟨by simpa using hactive, m, hphase, Or.inr ⟨e, hring, rfl, hwhy⟩⟩
    · cases h

end Reading

theorem phase_of_result {c : Call} {result : RpcCallResult} (h : c.result? = some result) :
    c.phase = .returned result := by
  unfold result? at h
  split at h
  · rename_i hphase
    rw [hphase, Option.some.inj h]
  · cases h

theorem result_of_phase {c : Call} {result : RpcCallResult} (h : c.phase = .returned result) :
    c.result? = some result := by
  rw [result?, h]

theorem not_over {c : Call} (hactive : c.abandoned = false)
    (hphase : ∀ result, c.phase ≠ .returned result) : ¬ c.Over := by
  rintro (habandoned | hreturned)
  · rw [hactive] at habandoned
    cases habandoned
  · obtain ⟨result, hresult⟩ := Option.isSome_iff_exists.mp hreturned
    exact hphase result (phase_of_result hresult)

theorem not_returned {c : Call} {phase : CallPhase} (hphase : c.phase = phase)
    (hopen : ∀ result, phase ≠ .returned result) : ∀ result, c.phase ≠ .returned result := by
  rw [hphase]
  exact hopen

theorem not_over_of_receiving {c : Call} {m : DetachedReader} (hactive : c.abandoned = false)
    (hphase : c.phase = .receiving m) : ¬ c.Over :=
  not_over hactive (not_returned hphase nofun)

theorem not_over_of_sending {c : Call} {m : RpcWritevMachine} (hactive : c.abandoned = false)
    (hphase : c.phase = .sending m) : ¬ c.Over :=
  not_over hactive (not_returned hphase nofun)

/-- A `writev` returns no response: one that fails returns an error, any other goes on. -/
theorem Wrote.no_response {c c' : Call} {event : WriteEvent} {put : Bytes} (h : c.Wrote event c' put)
    (response : RpcResponse) : c'.phase ≠ .returned (.ok (some response)) := by
  by_cases hfails : event.Fails
  · obtain ⟨-, e, he⟩ := h.fails hfails
    rw [he]
    nofun
  · obtain ⟨-, ⟨m, hm⟩ | hm⟩ := h.accepts hfails
    · rw [hm]
      nofun
    · rw [hm]
      nofun

theorem abandon_spec {c c' : Call} (h : c.abandon = some c') :
    c.abandoned = false ∧ (∀ result, c.phase ≠ .returned result) ∧ c' = { c with abandoned := true } := by
  unfold abandon at h
  split at h
  · cases h
  · rename_i hactive
    split at h
    · cases h
    · rename_i hphase
      exact ⟨by simpa using hactive, hphase, (Option.some.inj h).symm⟩

end Call

/-! ## What a step does -/

/-- The steps of a connection, each with what has to hold for it. -/
inductive Stepped (setting : RpcReaderSetting) (s : ClientConn ρ) : ClientAction → ClientConn ρ → Prop
  | call (args : CallArgs) :
      Stepped setting s (.call args) { s with
        mRequestId := s.mRequestId + 1
        calls := s.calls ++ [.start s.mRequestId args] }
  | write {i : Nat} {event : WriteEvent} {c c' : Call} {put : Bytes} (hi : s.calls[i]? = some c)
      (h : c.write event = some (c', put)) :
      Stepped setting s (.write i event) { s with calls := s.calls.set i c', sent := s.sent ++ put }
  | read {i n : Nat} {c c' : Call} {ring : ρ} (hpiece : s.arriving.take n ≠ [])
      (hi : s.calls[i]? = some c)
      (h : c.read setting s.mRingBuffer (.ok (s.arriving.take n)) = some (c', ring)) :
      Stepped setting s (.read i n) { s with
        calls := s.calls.set i c'
        mRingBuffer := ring
        arriving := s.arriving.drop n }
  | hangUp {i : Nat} {e : Option IOError} {event : Except IOError Bytes} {c c' : Call} {ring : ρ}
      (hevent : event = .ok [] ∨ ∃ e, event = .error e) (hi : s.calls[i]? = some c)
      (h : c.read setting s.mRingBuffer event = some (c', ring)) :
      Stepped setting s (.hangUp i e) { s with calls := s.calls.set i c', mRingBuffer := ring }
  | finish {i : Nat} {c c' : Call} {ring : ρ} (hi : s.calls[i]? = some c)
      (h : c.finish setting s.mRingBuffer = some (c', ring)) :
      Stepped setting s (.finish i) { s with calls := s.calls.set i c', mRingBuffer := ring }
  | abandon {i : Nat} {c c' : Call} (hi : s.calls[i]? = some c) (h : c.abandon = some c') :
      Stepped setting s (.abandon i) { s with calls := s.calls.set i c' }
  | respond (answer : Answer) :
      Stepped setting s (.respond answer) { s with
        arriving := s.arriving ++ answer.frame
        answered := s.answered ++ [answer] }

namespace ClientConn

variable {setting : RpcReaderSetting} {s s' : ClientConn ρ} {a : ClientAction}

theorem stepped (h : s.step setting a = some s') : Stepped setting s a s' := by
  cases a with
  | call args =>
    obtain rfl := Option.some.inj h
    exact .call args
  | write i event =>
    obtain ⟨c, hi, hop⟩ := Option.bind_eq_some_iff.mp h
    obtain ⟨⟨c', put⟩, hwrite, rfl⟩ := Option.map_eq_some_iff.mp hop
    exact .write hi hwrite
  | read i n =>
    simp only [step] at h
    split at h
    · cases h
    · rename_i hpiece
      obtain ⟨c, hi, hop⟩ := Option.bind_eq_some_iff.mp h
      obtain ⟨⟨c', ring⟩, hread, rfl⟩ := Option.map_eq_some_iff.mp hop
      exact .read hpiece hi hread
  | hangUp i e =>
    obtain ⟨c, hi, hop⟩ := Option.bind_eq_some_iff.mp h
    obtain ⟨⟨c', ring⟩, hread, rfl⟩ := Option.map_eq_some_iff.mp hop
    refine .hangUp ?_ hi hread
    cases e with
    | none => exact Or.inl rfl
    | some e => exact Or.inr ⟨e, rfl⟩
  | finish i =>
    obtain ⟨c, hi, hop⟩ := Option.bind_eq_some_iff.mp h
    obtain ⟨⟨c', ring⟩, hfinish, rfl⟩ := Option.map_eq_some_iff.mp hop
    exact .finish hi hfinish
  | abandon i =>
    obtain ⟨c, hi, hop⟩ := Option.bind_eq_some_iff.mp h
    obtain ⟨c', habandon, rfl⟩ := Option.map_eq_some_iff.mp hop
    exact .abandon hi habandon
  | respond answer =>
    obtain rfl := Option.some.inj h
    exact .respond answer

/-! ## What holds on every connection -/

/-- The calls are numbered in the order of their ids, and each is in order. -/
structure Sound (s : ClientConn ρ) : Prop where
  next : s.mRequestId = UInt32.ofNat s.calls.length
  ids : ∀ (i : Nat) (c : Call), s.calls[i]? = some c → c.request.requestId = UInt32.ofNat i
  wellSent : ∀ (i : Nat) (c : Call), s.calls[i]? = some c → c.WellSent

/-- A client that has just connected. -/
def start (ring : ρ) : ClientConn ρ := { mRingBuffer := ring }

omit [RingBuffer ρ] in
theorem sound_start (ring : ρ) : (start ring).Sound where
  next := rfl
  ids i c hi := by simp [start] at hi
  wellSent i c hi := by simp [start] at hi

omit [RingBuffer ρ] in
/-- Changing a call without its request. -/
theorem Sound.set (h : s.Sound) {i : Nat} {c c' : Call} (hi : s.calls[i]? = some c)
    (hc' : c'.WellSent) (hrequest : c'.request = c.request) {ring : ρ} {sent arriving : Bytes} :
    Sound { s with
      calls := s.calls.set i c', mRingBuffer := ring, sent := sent, arriving := arriving } where
  next := by
    rw [List.length_set]
    exact h.next
  ids := forall_getElem?_set h.ids (by rw [hrequest]; exact h.ids i c hi)
  wellSent := forall_getElem?_set h.wellSent hc'

/-- A reader that has settled its result, or taken in a piece, is still open. -/
theorem wellSent_receiving {c : Call} {m m' : DetachedReader} (hc : c.WellSent)
    (hphase : c.phase = .receiving m) (hm' : m'.Open) :
    Call.WellSent { c with phase := .receiving m' } := by
  unfold Call.WellSent at hc
  rw [hphase] at hc
  exact ⟨hc.1, hm'⟩

theorem wellSent_returned {c : Call} {m : DetachedReader} (hc : c.WellSent)
    (hphase : c.phase = .receiving m) (result : RpcCallResult) :
    Call.WellSent { c with phase := .returned result } := by
  unfold Call.WellSent at hc
  rw [hphase] at hc
  have hall : c.emitted = c.request.serialize := hc.1
  show c.emitted <+: c.request.serialize
  exact hall ▸ List.prefix_rfl

/-- **Every step keeps a connection sound.** -/
theorem Sound.step (h : s.Sound) (hstep : s.step setting a = some s') : s'.Sound := by
  cases stepped hstep with
  | call args =>
    refine ⟨?_, ?_, ?_⟩
    · show s.mRequestId + 1 = _
      rw [h.next, List.length_append, List.length_singleton, UInt32.ofNat_add]
      rfl
    · exact forall_getElem?_concat h.ids h.next
    · exact forall_getElem?_concat h.wellSent (Call.start_wellSent _ _)
  | write hi hw =>
    have hwrote := Call.write_spec (h.wellSent _ _ hi) hw
    exact h.set hi hwrote.wellSent hwrote.request
  | read hpiece hi hr =>
    have hc := h.wellSent _ _ hi
    obtain ⟨-, m, m', hphase, rfl, hresult, hresult', herror, -, -⟩ := Call.read_piece hc hpiece hr
    refine h.set hi (wellSent_receiving hc hphase (Or.inl ⟨hresult', ?_⟩)) rfl
    rw [herror]
    unfold Call.WellSent at hc
    rw [hphase] at hc
    rcases hc.2 with ⟨-, hnone⟩ | ⟨e, he⟩
    · exact hnone
    · rw [hresult] at he
      cases he
  | hangUp hevent hi hr =>
    have hc := h.wellSent _ _ hi
    obtain ⟨-, m, m', e, hphase, rfl, hresult', -⟩ := Call.read_end hc hevent hr
    exact h.set hi (wellSent_receiving hc hphase (Or.inr ⟨e, hresult'⟩)) rfl
  | finish hi hf =>
    have hc := h.wellSent _ _ hi
    obtain ⟨-, m, hphase, ⟨n, own, -, -, rfl⟩ | ⟨e, -, rfl, -⟩⟩ := Call.finish_spec hc hf
    · exact h.set hi (wellSent_returned hc hphase _) rfl
    · exact h.set hi (wellSent_returned hc hphase _) rfl
  | @abandon i c c' hi ha =>
    obtain ⟨-, -, rfl⟩ := Call.abandon_spec ha
    have hc : Call.WellSent { c with abandoned := true } := h.wellSent i c hi
    exact h.set hi hc rfl
  | respond answer => exact ⟨h.next, h.ids, h.wellSent⟩

end ClientConn

/-- A call of `Echo.echo`, and the response to it when it is the `i`-th. -/
def echoArgs : CallArgs := ⟨echoRequest.serviceName, echoRequest.methodName, .unary, true, [0x68, 0x69]⟩

def echoAnswer (i : Nat) : Answer :=
  let msg : ResponseMsg := ⟨UInt32.ofNat i, .unary, true, .ok, [0x68, 0x69]⟩
  ⟨i, msg.frame, msg⟩

end GalayRpc
