/-
  `rpc_conn.h`: reading requests and responses off a connection, and writing them.

  1. **Read states** — `RpcRequestReadState` and `RpcResponseReadState` have one `parseFromRingBuffer`
     between them, over their parsers.  `ReadsFrames` says what it comes to: with the ring holding the
     bytes `c`, it does to the ring and the message what a `FrameParser` answers on `c`.

  2. **One read** — from that alone, how a read ends is a matter of the bytes that are in the ring and
     on the wire together (`awaitRead_ends`): a frame is in front, or the stream is refused, or the ring
     fills up, or the wire ends.  The invariant is that what has been received and what is still to
     come make up the same stream.

  3. **Many reads** — the read leaves the stream cut behind its frame, so reads on one ring take the
     frames of a stream one after the other.

  4. **Write states** — the segments they offer concatenate to the serialization.
-/
import GalayRpc.Parse
import GalayRpc.Await

namespace GalayRpc

/-- `RpcReaderSetting`. -/
structure RpcReaderSetting where
  maxMessageSize : UInt64 := 16777216
deriving DecidableEq, Repr

/-! ## The read states -/

section ReadState

variable {ρ : Type} [RingBuffer ρ]

/-- `parseFromRingBuffer` of the request and of the response read state; the derived class's own member
    is the message it reads into. -/
def parseMessageFromRingBuffer {M : Type}
    (tryParse : List Bytes → Nat → UInt64 → M → Except RpcError Nat × M) (setting : RpcReaderSetting)
    (s : RpcRingBufferReadState ρ M) : Bool × RpcRingBufferReadState ρ M :=
  if RingBuffer.readable s.ringBuffer = 0 then (false, s)
  else
    let readIovecs := RingBuffer.getReadIovecs s.ringBuffer
    if readIovecs.length = 0 then (false, s)
    else
      match tryParse readIovecs (iovecsReadableBytes readIovecs) setting.maxMessageSize s.own with
      | (.error e, message) => (true, { s with own := message }.setReadError e)
      | (.ok 0, message) => (false, { s with own := message })
      | (.ok n, message) =>
        (true, { s with own := message, ringBuffer := RingBuffer.consume s.ringBuffer n })

/-- `RpcRequestReadState::parseFromRingBuffer`. -/
def RpcRequestReadState.parseFromRingBuffer (setting : RpcReaderSetting) :
    RpcRingBufferReadState ρ RpcRequest → Bool × RpcRingBufferReadState ρ RpcRequest :=
  parseMessageFromRingBuffer tryParseRequestMessage setting

/-- `RpcResponseReadState::parseFromRingBuffer`. -/
def RpcResponseReadState.parseFromRingBuffer (setting : RpcReaderSetting) :
    RpcRingBufferReadState ρ RpcResponse → Bool × RpcRingBufferReadState ρ RpcResponse :=
  parseMessageFromRingBuffer tryParseResponseMessage setting

/-- What a parse of the ring comes to: the answer of `p` on the ring's content, done to the state. -/
def ParsedFromRing {M α : Type} (msg : M → α) (s : RpcRingBufferReadState ρ M)
    (out : Bool × RpcRingBufferReadState ρ M) : Except RpcErrorCode (Option (Nat × α)) → Prop
  | .ok (some (n, a)) => ∃ m, msg m = a ∧
      out = (true, { s with own := m, ringBuffer := RingBuffer.consume s.ringBuffer n })
  | .ok none => out = (false, s)
  | .error code => ∃ text, out = (true, { s with error := some ⟨code, text⟩ })

/-- A read state class reads the frames of `p`. -/
def ReadsFrames {M α : Type} (msg : M → α) (p : FrameParser RpcErrorCode α)
    (parseFromRingBuffer : RpcRingBufferReadState ρ M → Bool × RpcRingBufferReadState ρ M) : Prop :=
  ∀ s, ParsedFromRing msg s (parseFromRingBuffer s) (p.parse (RingBuffer.content s.ringBuffer))

/-- A parser of segments that refines `p` makes a read state class that reads the frames of `p`. -/
theorem readsFrames_of_parsedAs {M α : Type} {msg : M → α} {p : FrameParser RpcErrorCode α}
    {tryParse : List Bytes → Nat → UInt64 → M → Except RpcError Nat × M} {setting : RpcReaderSetting}
    (hnil : p.parse [] = .ok none)
    (hparse : ∀ iovecs : List Bytes, iovecs.length ≤ 2 → ∀ m,
      ParsedAs msg m (tryParse iovecs (iovecsReadableBytes iovecs) setting.maxMessageSize m)
        (p.parse iovecs.flatten)) :
    ReadsFrames (ρ := ρ) msg p (parseMessageFromRingBuffer tryParse setting) := by
  intro s
  have hflat := RingBuffer.getReadIovecs_flatten s.ringBuffer
  have hspec := hparse _ (RingBuffer.getReadIovecs_length s.ringBuffer) s.own
  rw [hflat] at hspec
  unfold parseMessageFromRingBuffer
  by_cases hreadable : RingBuffer.readable s.ringBuffer = 0
  · rw [RingBuffer.readable_eq] at hreadable
    rw [if_pos (by rw [RingBuffer.readable_eq, hreadable]), List.eq_nil_of_length_eq_zero hreadable, hnil]
    rfl
  rw [if_neg hreadable]
  have hsegments : ¬ (RingBuffer.getReadIovecs s.ringBuffer).length = 0 := by
    intro h0
    rw [List.eq_nil_of_length_eq_zero h0] at hflat
    rw [RingBuffer.readable_eq, ← hflat] at hreadable
    exact hreadable rfl
  simp only [if_neg hsegments]
  rcases hp : p.parse (RingBuffer.content s.ringBuffer) with code | _ | ⟨n, a⟩
  all_goals rw [hp] at hspec
  · obtain ⟨text, hout⟩ := hspec
    rw [hout]
    exact ⟨text, rfl⟩
  · have hout : tryParse _ _ _ _ = (.ok 0, s.own) := hspec
    rw [hout]
    rfl
  · obtain ⟨m, hout, hm⟩ := hspec
    obtain ⟨n, rfl⟩ := Nat.exists_eq_succ_of_ne_zero (p.consumes hp).1.ne'
    rw [hout]
    exact ⟨m, hm, rfl⟩

/-- **A request read state reads the frames of the abstract request reader.** -/
theorem request_readsFrames (setting : RpcReaderSetting) :
    ReadsFrames (ρ := ρ) RpcRequest.msg (requestParser (setting.maxMessageSize + 16).toNat)
      (RpcRequestReadState.parseFromRingBuffer setting) :=
  readsFrames_of_parsedAs rfl fun _ h2 m => tryParseRequestMessage_spec h2 setting.maxMessageSize m

/-- **A response read state reads the frames of the abstract response reader.** -/
theorem response_readsFrames (setting : RpcReaderSetting) :
    ReadsFrames (ρ := ρ) RpcResponse.msg (responseParser (setting.maxMessageSize + 16).toNat)
      (RpcResponseReadState.parseFromRingBuffer setting) :=
  readsFrames_of_parsedAs rfl fun _ h2 m => tryParseResponseMessage_spec h2 setting.maxMessageSize m

end ReadState

/-! ## One read -/

section OneRead

variable {ρ : Type} [RingBuffer ρ] {M α : Type} {msg : M → α} {p : FrameParser RpcErrorCode α}
  {parseFromRingBuffer : RpcRingBufferReadState ρ M → Bool × RpcRingBufferReadState ρ M}

/-- The invariant of a read: nothing has gone wrong, the message is untouched, and what the ring holds
    and what is still on the wire make up the stream. -/
structure Reading (stream : Bytes) (capacity : Nat) (own : M) (s : RpcRingBufferReadState ρ M)
    (rest : Bytes) : Prop where
  error : s.error = none
  stream : RingBuffer.content s.ringBuffer ++ rest = stream
  capacity : RingBuffer.capacity s.ringBuffer = capacity
  own : s.own = own

/-- Receiving a piece moves bytes from the wire to the ring. -/
theorem Reading.receive {stream : Bytes} {capacity : Nat} {own : M} {s : RpcRingBufferReadState ρ M}
    {piece rest : Bytes} (h : Reading stream capacity own s (piece ++ rest))
    (hlen : piece.length ≤ RingBuffer.free s.ringBuffer) (windows : List Nat) :
    Reading stream capacity own
      { s with ringBuffer := RingBuffer.receive s.ringBuffer piece, readIovecs := windows } rest where
  error := h.error
  stream := by
    rw [RingBuffer.content_receive hlen, List.append_assoc]
    exact h.stream
  capacity := by
    rw [RingBuffer.capacity_receive]
    exact h.capacity
  own := h.own

/-- A parse that does not complete leaves the state alone, and saw no frame. -/
theorem ReadsFrames.of_false (h : ReadsFrames msg p parseFromRingBuffer)
    {s s' : RpcRingBufferReadState ρ M} (hparse : parseFromRingBuffer s = (false, s')) :
    s' = s ∧ p.parse (RingBuffer.content s.ringBuffer) = .ok none := by
  have hs := h s
  rw [hparse] at hs
  rcases hp : p.parse (RingBuffer.content s.ringBuffer) with code | _ | ⟨n, a⟩
  all_goals rw [hp] at hs
  · obtain ⟨text, hout⟩ := hs
    cases hout
  · exact ⟨(Prod.mk.inj hs).2, rfl⟩
  · obtain ⟨m, -, hout⟩ := hs
    cases hout

/-- How a read of `stream` ends, with a ring of the given capacity and the object `own` to read into:
    what it returns, what the object is then, and what is left unread.  Whenever the read does not
    succeed, the object and the stream are what they were. -/
inductive ReadEnds (msg : M → α) (p : FrameParser RpcErrorCode α) (stream : Bytes) (capacity : Nat)
    (own : M) (ending : WireEnd) : Option RpcAwaitableResult → M → Bytes → Prop
  | read {n : Nat} {a : α} {m : M} (hparse : p.parse stream = .ok (some (n, a))) (hmsg : msg m = a) :
      ReadEnds msg p stream capacity own ending (some (.ok true)) m (stream.drop n)
  | refused {code : RpcErrorCode} {text : ErrorText} (hparse : p.parse stream = .error code) :
      ReadEnds msg p stream capacity own ending (some (.error ⟨code, text⟩)) own stream
  | full (hparse : p.parse (stream.take capacity) = .ok none) (hlen : capacity ≤ stream.length) :
      ReadEnds msg p stream capacity own ending
        (some (.error (.ofText .internalError "No writable ring buffer space"))) own stream
  | ended (hparse : p.parse stream = .ok none) (hlt : stream.length < capacity) :
      ReadEnds msg p stream capacity own ending ending.result own stream

/-- A parse that completes ends the read as its answer says. -/
theorem ReadsFrames.of_true (h : ReadsFrames msg p parseFromRingBuffer) {stream : Bytes}
    {capacity : Nat} {own : M} {s s' : RpcRingBufferReadState ρ M} {rest : Bytes}
    (hI : Reading stream capacity own s rest) (hparse : parseFromRingBuffer s = (true, s'))
    (ending : WireEnd) :
    ReadEnds msg p stream capacity own ending (some (takeResult s'.error)) s'.own
        (RingBuffer.content s'.ringBuffer ++ rest) ∧
      RingBuffer.capacity s'.ringBuffer = capacity := by
  have hs := h s
  rw [hparse] at hs
  rcases hp : p.parse (RingBuffer.content s.ringBuffer) with code | _ | ⟨n, a⟩
  all_goals rw [hp] at hs
  · obtain ⟨text, hout⟩ := hs
    obtain ⟨-, rfl⟩ := Prod.mk.inj hout
    have hstable := p.stable rest (show p.parse (RingBuffer.content s.ringBuffer) ≠ .ok none by
      rw [hp]; nofun)
    rw [hI.stream, hp] at hstable
    refine ⟨?_, hI.capacity⟩
    rw [hI.stream, hI.own]
    exact .refused hstable
  · nomatch (Prod.mk.inj hs).1
  · obtain ⟨m, hm, hout⟩ := hs
    obtain ⟨-, rfl⟩ := Prod.mk.inj hout
    have hn := (p.consumes hp).2
    have hstream := p.parse_of_front (w := rest) hp
    rw [hI.stream] at hstream
    refine ⟨?_, by rw [RingBuffer.capacity_consume, hI.capacity]⟩
    rw [RingBuffer.content_consume _ _ hn, ← List.drop_append_of_le_length hn, hI.stream, hI.error]
    exact .read hstream hm

/-- **How a read ends.** -/
theorem awaitRead_ends (h : ReadsFrames msg p parseFromRingBuffer) {s : RpcRingBufferReadState ρ M}
    (herror : s.error = none) (w : Wire) :
    let run := awaitRead parseFromRingBuffer s w
    ReadEnds msg p (RingBuffer.content s.ringBuffer ++ w.bytes) (RingBuffer.capacity s.ringBuffer) s.own
        w.ending run.result run.own run.unread ∧
      RingBuffer.capacity run.ringBuffer = RingBuffer.capacity s.ringBuffer ∧
      (run.result = none → run.machine.state.error = none ∧ run.wire.bytes = []) ∧
      run.wire.ending = w.ending := by
  have hrule := runRead_rule parseFromRingBuffer
    (Reading (RingBuffer.content s.ringBuffer ++ w.bytes) (RingBuffer.capacity s.ringBuffer) s.own)
    w.ending
    (fun result s' rest =>
      ReadEnds msg p (RingBuffer.content s.ringBuffer ++ w.bytes) (RingBuffer.capacity s.ringBuffer)
          s.own w.ending result s'.own (RingBuffer.content s'.ringBuffer ++ rest) ∧
        RingBuffer.capacity s'.ringBuffer = RingBuffer.capacity s.ringBuffer ∧
        (result = none → s'.error = none ∧ rest = []))
    (by
      intro s₁ s₂ rest hI hparse
      obtain ⟨hends, hcap⟩ := h.of_true hI hparse w.ending
      exact ⟨hends, hcap, nofun⟩)
    (by
      intro s₁ s₂ rest hI hparse hfull s₃ hring hown
      obtain ⟨rfl, hnone⟩ := h.of_false hparse
      rw [hring, hown, hI.stream, hI.own]
      -- the ring holds exactly the first `capacity` bytes of the stream
      have hle := RingBuffer.content_length_le s₂.ringBuffer
      have hlen : (RingBuffer.content s₂.ringBuffer).length = RingBuffer.capacity s.ringBuffer := by
        rw [RingBuffer.free] at hfull
        rw [← hI.capacity]
        omega
      refine ⟨.full ?_ ?_, hI.capacity, nofun⟩
      · rw [← hI.stream, List.take_left' hlen, hnone]
      · rw [← hI.stream, List.length_append, hlen]
        exact Nat.le_add_right _ _)
    (by
      intro s₁ s₂ hI hparse hfree s₃ hring hown herr
      obtain ⟨rfl, hnone⟩ := h.of_false hparse
      rw [hring, hown, hI.stream, hI.own]
      have hstream := hI.stream
      rw [List.append_nil] at hstream
      refine ⟨.ended (by rw [← hstream, hnone]) ?_, hI.capacity, fun hnil => ⟨?_, rfl⟩⟩
      · rw [← hstream, ← hI.capacity]
        rw [RingBuffer.free] at hfree
        omega
      · rcases hw : w.ending with _ | e | _
        · rw [hw] at hnil
          cases hnil
        · rw [hw] at hnil
          cases hnil
        · rw [herr hw, hI.error])
    (by
      intro s₁ s₂ piece rest hI hparse _ hlen
      obtain ⟨rfl, -⟩ := h.of_false hparse
      exact hI.receive hlen _)
    (w.bytes.length + 2) s w (Nat.le_refl _) rfl ⟨herror, rfl, rfl, rfl⟩
  exact ⟨hrule.1.1, hrule.1.2.1, hrule.1.2.2, hrule.2⟩

/-- **A frame in front of the stream is read**, if the ring can hold it: the read succeeds with what
    the frame says and leaves the stream behind it. -/
theorem ReadEnds.of_frame {f t stream : Bytes} {a : α} {capacity : Nat} {own m : M} {ending : WireEnd}
    {result : Option RpcAwaitableResult} {unread : Bytes}
    (h : ReadEnds msg p stream capacity own ending result m unread) (hf : p.Frame f a)
    (hstream : stream = f ++ t) (hfits : f.length ≤ capacity) :
    result = some (.ok true) ∧ msg m = a ∧ unread = t := by
  have hp : p.parse stream = .ok (some (f.length, a)) := by
    rw [hstream]
    exact p.frame_append hf t
  cases h with
  | read hparse hmsg =>
    rw [hp] at hparse
    obtain ⟨rfl, rfl⟩ := Prod.mk.inj (Option.some.inj (Except.ok.inj hparse))
    exact ⟨rfl, hmsg, by rw [hstream, List.drop_left]⟩
  | refused hparse =>
    rw [hp] at hparse
    cases hparse
  | full hparse =>
    rw [hstream, List.take_append, List.take_of_length_le hfits, p.frame_append hf] at hparse
    cases hparse
  | ended hparse =>
    rw [hp] at hparse
    cases hparse

/-- **A stream that stops short of a frame** ends the read as the wire ends. -/
theorem ReadEnds.of_short {stream : Bytes} {capacity : Nat} {own m : M} {ending : WireEnd}
    {result : Option RpcAwaitableResult} {unread : Bytes}
    (h : ReadEnds msg p stream capacity own ending result m unread)
    (hshort : p.parse stream = .ok none) (hfits : stream.length < capacity) :
    result = ending.result ∧ m = own ∧ unread = stream := by
  cases h with
  | read hparse hmsg =>
    rw [hshort] at hparse
    cases hparse
  | refused hparse =>
    rw [hshort] at hparse
    cases hparse
  | full _ hlen => omega
  | ended => exact ⟨rfl, rfl, rfl⟩

/-- **A stream that does not start with a frame** ends the read in an error, or leaves it waiting on a
    silent wire. -/
theorem ReadEnds.of_no_frame {stream : Bytes} {capacity : Nat} {own m : M} {ending : WireEnd}
    {result : Option RpcAwaitableResult} {unread : Bytes}
    (h : ReadEnds msg p stream capacity own ending result m unread)
    (hnone : ∀ front, p.parse stream ≠ .ok (some front)) :
    (∃ e, result = some (.error e)) ∨ (ending = .silent ∧ result = none) := by
  cases h with
  | read hparse _ => exact absurd hparse (hnone _)
  | refused _ => exact Or.inl ⟨_, rfl⟩
  | full _ _ => exact Or.inl ⟨_, rfl⟩
  | ended _ _ =>
    cases ending with
    | closed => exact Or.inl ⟨_, rfl⟩
    | failed e => exact Or.inl ⟨_, rfl⟩
    | silent => exact Or.inr ⟨rfl, rfl⟩

end OneRead

/-! ## Many reads -/

section ManyReads

variable {ρ : Type} [RingBuffer ρ] {M α : Type} {msg : M → α} {p : FrameParser RpcErrorCode α}
  {parseFromRingBuffer : RpcRingBufferReadState ρ M → Bool × RpcRingBufferReadState ρ M}

theorem awaitReads_append (owns owns' : List M) (ring : ρ) (w : Wire) :
    awaitReads parseFromRingBuffer (owns ++ owns') ring w =
      ((awaitReads parseFromRingBuffer owns ring w).1 ++
          (awaitReads parseFromRingBuffer owns' (awaitReads parseFromRingBuffer owns ring w).2.1
            (awaitReads parseFromRingBuffer owns ring w).2.2).1,
        (awaitReads parseFromRingBuffer owns' (awaitReads parseFromRingBuffer owns ring w).2.1
          (awaitReads parseFromRingBuffer owns ring w).2.2).2) := by
  induction owns generalizing ring w with
  | nil => rfl
  | cons own owns ih => simp only [List.cons_append, awaitReads, ih]

/-- **Reads take the frames of a stream one after the other**, as long as each fits the ring. -/
theorem awaitReads_frames (h : ReadsFrames msg p parseFromRingBuffer) (frame : α → Bytes) :
    ∀ (as : List α) (owns : List M) (ring : ρ) (w : Wire) (t : Bytes), owns.length = as.length →
      (∀ a ∈ as, p.Frame (frame a) a ∧ (frame a).length ≤ RingBuffer.capacity ring) →
      RingBuffer.content ring ++ w.bytes = (as.map frame).flatten ++ t →
      let out := awaitReads parseFromRingBuffer owns ring w
      out.1.map (fun run => (run.result, msg run.own)) = as.map (fun a => (some (.ok true), a)) ∧
        RingBuffer.content out.2.1 ++ out.2.2.bytes = t ∧
        RingBuffer.capacity out.2.1 = RingBuffer.capacity ring ∧ out.2.2.ending = w.ending := by
  intro as
  induction as with
  | nil =>
    intro owns ring w t hlen _ hstream
    obtain rfl := List.eq_nil_of_length_eq_zero hlen
    exact ⟨rfl, hstream, rfl, rfl⟩
  | cons a as ih =>
    intro owns ring w t hlen hframes hstream
    obtain ⟨own, owns, rfl⟩ := List.exists_cons_of_length_eq_add_one hlen
    obtain ⟨hf, hfits⟩ := hframes a List.mem_cons_self
    obtain ⟨hends, hcap, -, hending⟩ := awaitRead_ends h (s := { ringBuffer := ring, own := own }) rfl w
    rw [List.map_cons, List.flatten_cons, List.append_assoc] at hstream
    obtain ⟨hresult, hmsg, hunread⟩ := hends.of_frame hf hstream hfits
    obtain ⟨hrest, hrest'⟩ := ih owns _ _ t (Nat.succ.inj hlen)
      (fun a' ha' => by rw [hcap]; exact hframes a' (List.mem_cons_of_mem _ ha')) hunread
    rw [hcap, hending] at hrest'
    refine ⟨?_, hrest'⟩
    simp only [awaitReads, List.map_cons, hresult, hmsg, hrest]

theorem awaitReads_waits {run : ReadRun ρ M} {windows : List Nat} {owns : List M} {ring : ρ} {w : Wire}
    (hrun : run ∈ (awaitReads parseFromRingBuffer owns ring w).1) (hwindows : windows ∈ run.waits) :
    0 < windows.sum := by
  induction owns generalizing ring w with
  | nil => cases hrun
  | cons own owns ih =>
    rcases List.mem_cons.mp hrun with rfl | hrun
    · exact runRead_waits _ _ _ hwindows
    · exact ih hrun

/-- Messages sent as one stream are read back one after the other into any objects, the ring ends
    empty, and no read waits for bytes it has no room for; a stream cut inside (or right in front of) one
    of them yields the ones before it and then `CONNECTION_CLOSED`. -/
def Reassembled (msg : M → α) (serialize : M → Bytes)
    (parseFromRingBuffer : RpcRingBufferReadState ρ M → Bool × RpcRingBufferReadState ρ M) (ring : ρ)
    (ms : List M) : Prop :=
  ∀ sizes : Nat → Nat,
    (∀ (ending : WireEnd) (owns : List M), owns.length = ms.length →
      let out := awaitReads parseFromRingBuffer owns ring ⟨(ms.map serialize).flatten, ending, sizes⟩
      out.1.map (fun run => (run.result, msg run.own)) = ms.map (fun m => (some (.ok true), msg m)) ∧
        (∀ run ∈ out.1, ∀ windows ∈ run.waits, 0 < windows.sum) ∧
        RingBuffer.content out.2.1 = []) ∧
    (∀ (done : List M) (m : M) (later : List M), ms = done ++ m :: later →
      ∀ cut : Bytes, cut <+: serialize m → cut.length < (serialize m).length →
      ∀ (owns : List M) (own : M), owns.length = done.length →
        let out := awaitReads parseFromRingBuffer (owns ++ [own]) ring
          ⟨(done.map serialize).flatten ++ cut, .closed, sizes⟩
        out.1.map (fun run => (run.result, msg run.own)) =
            done.map (fun m => (some (.ok true), msg m)) ++
              [(some (.error (.ofText .connectionClosed "Connection closed")), msg own)] ∧
          (∀ run ∈ out.1, ∀ windows ∈ run.waits, 0 < windows.sum))

theorem reassembled_of_frames (h : ReadsFrames msg p parseFromRingBuffer) {frame : α → Bytes}
    {serialize : M → Bytes} (hserialize : ∀ m, serialize m = frame (msg m)) {ring : ρ}
    (hempty : RingBuffer.content ring = []) {ms : List M}
    (hframes : ∀ m ∈ ms, p.Frame (frame (msg m)) (msg m) ∧
      (frame (msg m)).length ≤ RingBuffer.capacity ring) :
    Reassembled msg serialize parseFromRingBuffer ring ms := by
  have hmap : ∀ ms : List M, ms.map serialize = (ms.map msg).map frame := by
    intro ms
    rw [List.map_map]
    exact List.map_congr_left fun m _ => hserialize m
  intro sizes
  refine ⟨fun ending owns hlen => ?_, fun done m later hms cut hcut hshort owns own hlen => ?_⟩
  · obtain ⟨hruns, hunread, -, -⟩ := awaitReads_frames h frame (ms.map msg) owns ring
      ⟨(ms.map serialize).flatten, ending, sizes⟩ [] (by rw [hlen, List.length_map])
      (fun a ha => by
        obtain ⟨m, hm, rfl⟩ := List.mem_map.mp ha
        exact hframes m hm)
      (by rw [hempty, List.nil_append, List.append_nil, hmap])
    rw [List.map_map] at hruns
    exact ⟨hruns, fun run hrun windows => awaitReads_waits hrun, (List.append_eq_nil_iff.mp hunread).1⟩
  · subst hms
    obtain ⟨hruns, hunread, hcap, hending⟩ := awaitReads_frames h frame (done.map msg) owns ring
      ⟨(done.map serialize).flatten ++ cut, .closed, sizes⟩ cut (by rw [hlen, List.length_map])
      (fun a ha => by
        obtain ⟨m', hm', rfl⟩ := List.mem_map.mp ha
        exact hframes m' (List.mem_append_left _ hm'))
      (by rw [hempty, List.nil_append, hmap])
    obtain ⟨hf, hfits⟩ := hframes m (List.mem_append_right _ List.mem_cons_self)
    rw [hserialize] at hcut hshort
    obtain ⟨after, hafter⟩ := hcut
    have hnone := p.parse_of_lt (t := []) hf (by rw [hafter, List.append_nil]) hshort
    obtain ⟨hends, -, -, -⟩ := awaitRead_ends h
      (s := { ringBuffer := (awaitReads parseFromRingBuffer owns ring _).2.1, own := own }) rfl
      (awaitReads parseFromRingBuffer owns ring
        ⟨(done.map serialize).flatten ++ cut, .closed, sizes⟩).2.2
    rw [hunread, hcap, hending] at hends
    obtain ⟨hresult, hown, -⟩ := hends.of_short hnone (Nat.lt_of_lt_of_le hshort hfits)
    refine ⟨?_, fun run hrun windows => awaitReads_waits hrun⟩
    rw [awaitReads_append, List.map_append, hruns, List.map_map]
    simp only [awaitReads, List.map_cons, List.map_nil, hresult, hown]
    rfl

end ManyReads

/-- A request that a reader with this limit and a ring of this capacity has to accept. -/
structure RpcRequest.Fits (setting : RpcReaderSetting) (capacity : Nat) (r : RpcRequest) : Prop where
  service : r.serviceName.length ≤ 65535
  method : r.methodName.length ≤ 65535
  body : r.bodySize ≤ min setting.maxMessageSize.toNat rpcMaxBodySize
  frame : 16 + r.bodySize ≤ capacity

/-- A response that a reader with this limit and a ring of this capacity has to accept. -/
structure RpcResponse.Fits (setting : RpcReaderSetting) (capacity : Nat) (r : RpcResponse) : Prop where
  body : r.bodySize ≤ min setting.maxMessageSize.toNat rpcMaxBodySize
  frame : 16 + r.bodySize ≤ capacity

theorem RpcRequest.Fits.frame_length {setting : RpcReaderSetting} {capacity : Nat} {r : RpcRequest}
    (hr : r.Fits setting capacity) : r.msg.frame.length ≤ capacity := by
  rw [RequestMsg.frame_length, ← RpcRequest.bodySize_eq]
  exact hr.frame

theorem RpcRequest.Fits.isFrame {setting : RpcReaderSetting}
    (hsetting : setting.maxMessageSize.toNat + 16 < 2 ^ 64) {capacity : Nat} {r : RpcRequest}
    (hr : r.Fits setting capacity) :
    (requestParser (setting.maxMessageSize + 16).toNat).Frame r.msg.frame r.msg := by
  have hbody := hr.body
  rw [RpcRequest.bodySize_eq] at hbody
  have hwf : r.msg.WellFormed :=
    ⟨Nat.lt_succ_of_le hr.service, Nat.lt_succ_of_le hr.method, by omega⟩
  refine hwf.frame ?_
  rw [messageLimit_toNat hsetting, RequestMsg.frame_length]
  simp only [rpcHeaderSize]
  omega

theorem RpcResponse.Fits.frame_length {setting : RpcReaderSetting} {capacity : Nat} {r : RpcResponse}
    (hr : r.Fits setting capacity) : r.msg.frame.length ≤ capacity := by
  rw [ResponseMsg.frame_length, ← RpcResponse.bodySize_eq]
  exact hr.frame

theorem RpcResponse.Fits.isFrame {setting : RpcReaderSetting}
    (hsetting : setting.maxMessageSize.toNat + 16 < 2 ^ 64) {capacity : Nat} {r : RpcResponse}
    (hr : r.Fits setting capacity) :
    (responseParser (setting.maxMessageSize + 16).toNat).Frame r.msg.frame r.msg := by
  have hbody := hr.body
  rw [RpcResponse.bodySize_eq] at hbody
  have hwf : r.msg.WellFormed := by
    unfold ResponseMsg.WellFormed
    omega
  refine hwf.frame ?_
  rw [messageLimit_toNat hsetting, ResponseMsg.frame_length]
  simp only [rpcHeaderSize]
  omega

/-- **Reassembly under any fragmentation.**  On an empty ring of any kind, requests that fit the reader
    are read back exactly as they were sent, whatever the kernel makes of the stream; and so are
    responses. -/
theorem messages_reassembled {ρ : Type} [RingBuffer ρ] (ring : ρ)
    (hempty : RingBuffer.content ring = []) (setting : RpcReaderSetting)
    (hsetting : setting.maxMessageSize.toNat + 16 < 2 ^ 64) :
    (∀ rs : List RpcRequest, (∀ r ∈ rs, r.Fits setting (RingBuffer.capacity ring)) →
      Reassembled RpcRequest.msg RpcRequest.serialize
        (RpcRequestReadState.parseFromRingBuffer setting) ring rs) ∧
    (∀ rs : List RpcResponse, (∀ r ∈ rs, r.Fits setting (RingBuffer.capacity ring)) →
      Reassembled RpcResponse.msg RpcResponse.serialize
        (RpcResponseReadState.parseFromRingBuffer setting) ring rs) :=
  ⟨fun _ hrs => reassembled_of_frames (request_readsFrames setting) RpcRequest.serialize_eq hempty
      fun r hr => ⟨(hrs r hr).isFrame hsetting, (hrs r hr).frame_length⟩,
    fun _ hrs => reassembled_of_frames (response_readsFrames setting) RpcResponse.serialize_eq hempty
      fun r hr => ⟨(hrs r hr).isFrame hsetting, (hrs r hr).frame_length⟩⟩

theorem messages_reassembled_echo :
    Reassembled RpcRequest.msg RpcRequest.serialize
        (RpcRequestReadState.parseFromRingBuffer {}) (Circular.empty 40 fun _ => (0 : UInt8))
        [echoRequest, {}, echoRequest] ∧
      Reassembled RpcResponse.msg RpcResponse.serialize
        (RpcResponseReadState.parseFromRingBuffer {}) (Circular.empty 40 fun _ => (0 : UInt8))
        [echoResponse, {}] := by
  have h := messages_reassembled (Circular.empty 40 fun _ => (0 : UInt8)) rfl {} (by decide)
  refine ⟨h.1 _ fun r hr => ?_, h.2 _ fun r hr => ?_⟩
  · rcases List.mem_cons.mp hr with rfl | hr
    · exact ⟨by decide, by decide, by decide, by decide⟩
    rcases List.mem_cons.mp hr with rfl | hr
    · exact ⟨by decide, by decide, by decide, by decide⟩
    rw [List.mem_singleton.mp hr]
    exact ⟨by decide, by decide, by decide, by decide⟩
  · rcases List.mem_cons.mp hr with rfl | hr
    · exact ⟨by decide, by decide⟩
    rw [List.mem_singleton.mp hr]
    exact ⟨by decide, by decide⟩

/-! ## The write states -/

/-- A segment that is only offered if there is something in it. -/
def optionalIovec (bytes : Bytes) : List Bytes := if bytes.length > 0 then [bytes] else []

/-- `RpcRequestWriteState`, as `rebuildIovecs` leaves it. -/
def RpcRequestWriteState (request : RpcRequest) : RpcWriteState where
  iovecs :=
    [request.header.serialize, rpcHtons (UInt16.ofNat request.serviceName.length)] ++
      optionalIovec request.serviceName ++
      [rpcHtons (UInt16.ofNat request.methodName.length)] ++
      optionalIovec request.methodName ++
      optionalIovec request.payloadView.segment1 ++ optionalIovec request.payloadView.segment2

/-- `RpcResponseWriteState`, as `rebuildIovecs` leaves it. -/
def RpcResponseWriteState (response : RpcResponse) : RpcWriteState where
  iovecs :=
    [response.header.serialize, rpcHtons response.errorCode.toWord] ++
      optionalIovec response.payloadView.segment1 ++ optionalIovec response.payloadView.segment2

@[simp] theorem optionalIovec_flatten (bytes : Bytes) : (optionalIovec bytes).flatten = bytes := by
  unfold optionalIovec
  split
  · rw [List.flatten_singleton]
  · have hnil : bytes = [] := List.eq_nil_of_length_eq_zero (by omega)
    rw [hnil, List.flatten_nil]

theorem ne_nil_of_mem_optionalIovec {bytes iov : Bytes} (h : iov ∈ optionalIovec bytes) : iov ≠ [] := by
  unfold optionalIovec at h
  split at h
  · rw [List.mem_singleton.mp h]
    exact List.ne_nil_of_length_pos (by omega)
  · cases h

theorem ne_nil_of_mem_headerIovecs {h : RpcHeader} {word : UInt16} {iov : Bytes}
    (hmem : iov ∈ [h.serialize, rpcHtons word]) : iov ≠ [] := by
  apply List.ne_nil_of_length_pos
  rcases List.mem_cons.mp hmem with rfl | hmem
  · rw [RpcHeader.serialize_length]
    decide
  · rw [List.mem_singleton.mp hmem, rpcHtons_length]
    decide

/-- The write state offers the serialization. -/
theorem RpcRequestWriteState_flatten (request : RpcRequest) :
    (RpcRequestWriteState request).iovecs.flatten = request.serialize := by
  simp [RpcRequestWriteState, RpcRequest.serialize, serializeNames]

theorem RpcResponseWriteState_flatten (response : RpcResponse) :
    (RpcResponseWriteState response).iovecs.flatten = response.serialize := by
  simp [RpcResponseWriteState, RpcResponse.serialize]

theorem RpcRequestWriteState_ne_nil (request : RpcRequest) :
    ∀ iov ∈ (RpcRequestWriteState request).iovecs, iov ≠ [] := by
  intro iov hmem
  simp only [RpcRequestWriteState, List.mem_append] at hmem
  rcases hmem with ((((hmem | hmem) | hmem) | hmem) | hmem) | hmem
  · exact ne_nil_of_mem_headerIovecs hmem
  · exact ne_nil_of_mem_optionalIovec hmem
  · rw [List.mem_singleton.mp hmem]
    exact List.ne_nil_of_length_pos (by rw [rpcHtons_length]; decide)
  all_goals exact ne_nil_of_mem_optionalIovec hmem

theorem RpcResponseWriteState_ne_nil (response : RpcResponse) :
    ∀ iov ∈ (RpcResponseWriteState response).iovecs, iov ≠ [] := by
  intro iov hmem
  simp only [RpcResponseWriteState, List.mem_append] at hmem
  rcases hmem with (hmem | hmem) | hmem
  · exact ne_nil_of_mem_headerIovecs hmem
  all_goals exact ne_nil_of_mem_optionalIovec hmem

/-- **How a response write ends**: with the whole response on the connection, or in an error with part
    of it. -/
theorem awaitWrite_response (response : RpcResponse) (k : Sink) :
    Written response.serialize k (awaitWrite (RpcResponseWriteState response) k) ∧
      ∃ j, (awaitWrite (RpcResponseWriteState response) k).sink.writes = fun i => k.writes (i + j) := by
  have h := awaitWrite_written rfl (RpcResponseWriteState_ne_nil response) k
  rwa [RpcResponseWriteState_flatten] at h

end GalayRpc
