/-
  Stream reads that are given up, and what the next read makes of what they leave.

  `getMessage` keeps its progress in two places.  The bytes it has received stay in the ring; but once it
  has a header it takes that out of the ring, and what it said is in the message and in the read state,
  which dies with the read.

  * `Tracks` — as long as no read is ended behind its header, what is unread is a row of whole frames,
    and the reads that succeeded have delivered the ones before it;
  * `proceed_tracks` — one parse of the ring, in either phase, keeps that;
  * `stream_read_all_or_nothing_iff` — so a read that is given up leaves everything as it was exactly while it
    has no header yet, and in runs that keep to that, the reads that succeed deliver what they would
    have delivered without interruptions.
-/
import GalayRpc.Stream
import GalayRpc.Reads

namespace GalayRpc

/-- `StreamMessageReadState`. -/
def streamMessageReadState {ρ : Type} [RingBuffer ρ] :
    ReadStateClass ρ StreamMessageReadMembers StreamMessage where
  parseFromRingBuffer := StreamMessageReadState.parseFromRingBuffer
  enter message := { message := message }
  leave members := members.message

/-- The reading side of a stream connection. -/
abbrev StreamConn (ρ : Type) := ReadConn ρ StreamMessageReadMembers StreamMessage

/-- Frames one behind the other. -/
def bytesOf (frames : List StreamFrame) : Bytes := (frames.map StreamFrame.bytes).flatten

theorem bytesOf_cons (f : StreamFrame) (frames : List StreamFrame) :
    bytesOf (f :: frames) = f.bytes ++ bytesOf frames := rfl

/-- A read into the object `r.1` that gets the frame `f` leaves this. -/
def Delivers (r : StreamMessage × StreamMessage) (f : StreamFrame) : Prop :=
  r.2.msg = { f.msg with isEnd := f.msg.isEnd || r.1.isEnd }

instance (r : StreamMessage × StreamMessage) (f : StreamFrame) : Decidable (Delivers r f) :=
  inferInstanceAs (Decidable (_ = _))

theorem StreamFrame.isEnd_iff (f : StreamFrame) :
    f.msg.isEnd = true ↔ f.msg.messageType.EndsStream := by
  cases f with
  | init =>
    show false = true ↔ RpcMessageType.streamInit.EndsStream
    decide
  | initAck =>
    show false = true ↔ RpcMessageType.streamInitAck.EndsStream
    decide
  | data =>
    show false = true ↔ RpcMessageType.streamData.EndsStream
    decide
  | dataView =>
    show false = true ↔ RpcMessageType.streamData.EndsStream
    decide
  | endOfStream =>
    show true = true ↔ RpcMessageType.streamEnd.EndsStream
    decide
  | cancel =>
    show true = true ↔ RpcMessageType.streamCancel.EndsStream
    decide

/-- **A read that has the whole frame delivers it.** -/
theorem StreamReadEnds.delivers {f : StreamFrame} {rest : Bytes} {capacity : Nat}
    {message m : StreamMessage} {ending : WireEnd} {result : Option RpcAwaitableResult} {unread : Bytes}
    (hends : StreamReadEnds (f.bytes ++ rest) capacity message ending result m unread)
    (hcap : rpcHeaderSize ≤ capacity) (hf : f.Fits capacity) :
    result = some (.ok true) ∧ unread = rest ∧ Delivers (message, m) f := by
  obtain ⟨hresult, hunread, hmsg⟩ := hends.of_streamFrame rfl hcap hf
  refine ⟨hresult, hunread, hmsg.trans ?_⟩
  show (⟨f.msg.messageType, f.msg.streamId, f.msg.payload, _⟩ : StreamMsg) = ⟨_, _, _, _⟩
  by_cases hend : f.msg.messageType.EndsStream
  · rw [if_pos hend, f.isEnd_iff.mpr hend, Bool.true_or]
  · have hfalse : f.msg.isEnd = false := Bool.eq_false_iff.mpr fun h => hend (f.isEnd_iff.mp h)
    rw [if_neg hend, hfalse, Bool.false_or]

/-- No read gets anything off a stream with nothing in it. -/
theorem StreamReadEnds.of_nil {capacity : Nat} {message m : StreamMessage} {ending : WireEnd}
    {result : Option RpcAwaitableResult} {unread : Bytes}
    (hends : StreamReadEnds [] capacity message ending result m unread)
    (hcap : rpcHeaderSize ≤ capacity) : result = ending.result := by
  cases hends with
  | endedHeader => rfl
  | fullHeader hsmall => omega
  | control hlen => exact absurd hlen (by decide)
  | empty hlen => exact absurd hlen (by decide)
  | invalid hlen => exact absurd hlen (by decide)
  | body hpending => exact absurd hpending.length (by decide)
  | fullBody hpending => exact absurd hpending.length (by decide)
  | endedBody hpending => exact absurd hpending.length (by decide)

section Reading

variable {ρ : Type} [RingBuffer ρ] {capacity : Nat} {stream arriving : Bytes}

/-- Where the reader is in a stream it has not read yet: in front of it, in front of it with a read
    suspended, or behind the first header. -/
inductive ReaderAt (capacity : Nat) (stream arriving : Bytes) :
    Reader ρ StreamMessageReadMembers StreamMessage → Prop where
  | idle (ring : ρ) (hcapacity : RingBuffer.capacity ring = capacity)
      (hunread : RingBuffer.content ring ++ arriving = stream) :
      ReaderAt capacity stream arriving (.idle ring)
  | header (machine : RpcRingBufferReadMachine ρ StreamMessageReadMembers) (object : StreamMessage)
      (received : Bytes) (hresult : machine.result = none)
      (hwindows : machine.state.readIovecs = RingBuffer.getWriteIovecs machine.state.ringBuffer)
      (hat : AtHeader stream capacity object machine.state arriving)
      (hreceived : received ++ arriving = stream) :
      ReaderAt capacity stream arriving (.suspended machine object received)
  | body (machine : RpcRingBufferReadMachine ρ StreamMessageReadMembers) (object : StreamMessage)
      (received : Bytes) (hresult : machine.result = none)
      (hwindows : machine.state.readIovecs = RingBuffer.getWriteIovecs machine.state.ringBuffer)
      (hat : AtBody stream capacity object machine.state arriving)
      (hreceived : received ++ arriving = stream) :
      ReaderAt capacity stream arriving (.suspended machine object received)

/-- **What the reads so far have come to**: they have delivered the frames in front, and the reader is
    in the frames that are left. -/
structure Tracks (capacity : Nat) (frames : List StreamFrame) (s : StreamConn ρ) : Prop where
  split : ∃ done todo, frames = done ++ todo ∧ List.Forall₂ Delivers s.delivered done ∧
    ReaderAt capacity (bytesOf todo) s.arriving s.reader

/-- **One parse of the ring.** -/
theorem proceed_tracks {s : StreamConn ρ} {done todo : List StreamFrame}
    {machine : RpcRingBufferReadMachine ρ StreamMessageReadMembers} {object : StreamMessage}
    {received : Bytes} (hdone : List.Forall₂ Delivers s.delivered done)
    (hcap : rpcHeaderSize ≤ capacity) (hfits : ∀ f ∈ todo, f.Fits capacity)
    (hresult : machine.result = none)
    (hat : AtHeader (bytesOf todo) capacity object machine.state s.arriving ∨
      AtBody (bytesOf todo) capacity object machine.state s.arriving)
    (hreceived : received ++ s.arriving = bytesOf todo) :
    Tracks capacity (done ++ todo) (s.proceed streamMessageReadState machine object received) := by
  rcases hparse : StreamMessageReadState.parseFromRingBuffer machine.state with ⟨complete, state⟩
  have hstep := parseStream_step hat hparse .silent
  cases complete with
  | true =>
    obtain ⟨hends, hcapacity⟩ := hstep
    cases todo with
    | nil => exact absurd (hends.of_nil hcap) (by exact nofun)
    | cons f todo =>
      rw [bytesOf_cons] at hends
      obtain ⟨hok, hunread, hdelivers⟩ := hends.delivers hcap (hfits f List.mem_cons_self)
      have herror : state.error = none := by
        rcases herr : state.error with _ | e
        · rfl
        · rw [herr] at hok
          cases hok
      rw [ReadConn.proceed_of_true streamMessageReadState hresult hparse herror]
      refine ⟨done ++ [f], todo, by rw [List.append_assoc]; rfl, ?_, .idle _ hcapacity hunread⟩
      exact List.rel_append hdone (.cons hdelivers .nil)
  | false =>
    -- the ring can hold what the phase waits for, so it has room
    have hroom : 0 < RingBuffer.free state.ringBuffer := by
      apply RingBuffer.free_pos
      rcases hstep with ⟨hhead, hlt⟩ | ⟨hbody, hlt⟩
      · rw [hhead.room]
        omega
      · rw [hbody.room]
        cases todo with
        | nil => exact absurd hbody.pending.length (by decide)
        | cons f todo =>
          have hf := (hfits f List.mem_cons_self).body
          have hof : RpcHeader.ofBytes (bytesOf (f :: todo)) = f.header := by
            rw [bytesOf_cons, StreamFrame.bytes_eq, List.append_assoc, RpcHeader.ofBytes_serialize]
          have hle : f.header.bodyLength.toNat ≤ f.msg.payload.length := by
            show (UInt32.ofNat f.msg.payload.length).toNat ≤ _
            rw [UInt32.toNat_ofNat']
            exact Nat.mod_le _ _
          rw [hof] at hlt
          omega
    rw [ReadConn.proceed_of_false streamMessageReadState hresult hparse hroom]
    refine ⟨done, todo, rfl, hdone, ?_⟩
    rcases hstep with ⟨hhead, -⟩ | ⟨hbody, -⟩
    · exact .header _ _ _ rfl rfl
        ⟨hhead.error, hhead.phase, hhead.unread, hhead.room, hhead.target⟩ hreceived
    · exact .body _ _ _ rfl rfl
        ⟨hbody.pending, hbody.error, hbody.phase, hbody.unread, hbody.room, hbody.target,
          hbody.bodyLength⟩ hreceived

/-- No read has a header. -/
def NoHeader : Reader ρ StreamMessageReadMembers StreamMessage → Prop
  | .idle _ => True
  | .suspended machine _ _ => machine.state.own.state = .readHeader

instance (reader : Reader ρ StreamMessageReadMembers StreamMessage) : Decidable (NoHeader reader) :=
  match reader with
  | .idle _ => .isTrue trivial
  | .suspended machine _ _ => inferInstanceAs (Decidable (machine.state.own.state = .readHeader))

/-- A read is only ended without success while it has no header. -/
def HeaderPending (s : StreamConn ρ) (action : ReadAction StreamMessage) : Prop :=
  action.Interrupts → NoHeader s.reader

instance (s : StreamConn ρ) (action : ReadAction StreamMessage) : Decidable (HeaderPending s action) :=
  inferInstanceAs (Decidable (_ → _))

/-- **One step.** -/
theorem Tracks.step {s s' : StreamConn ρ} {frames : List StreamFrame} (h : Tracks capacity frames s)
    (hcap : rpcHeaderSize ≤ capacity) (hfits : ∀ f ∈ frames, f.Fits capacity)
    {action : ReadAction StreamMessage} (hclean : HeaderPending s action)
    (hstep : s.step streamMessageReadState action = some s') : Tracks capacity frames s' := by
  obtain ⟨done, todo, rfl, hdone, hreader⟩ := h.split
  have hfits' : ∀ f ∈ todo, f.Fits capacity := fun f hf => hfits f (List.mem_append_right _ hf)
  cases ReadConn.step_cases streamMessageReadState hstep with
  | start ring object hidle =>
    rw [hidle] at hreader
    cases hreader with
    | idle _ hcapacity hunread =>
      exact proceed_tracks hdone hcap hfits' rfl (Or.inl ⟨rfl, rfl, hunread, hcapacity, rfl⟩) hunread
  | piece machine object received piece rest hsuspended hne hroom harriving =>
    rw [hsuspended, harriving] at hreader
    have hfree : ∀ windows, windows = RingBuffer.getWriteIovecs machine.state.ringBuffer →
        piece.length ≤ windows.sum → piece.length ≤ RingBuffer.free machine.state.ringBuffer := by
      rintro windows rfl hle
      rw [RingBuffer.getWriteIovecs_sum] at hle
      exact hle
    cases hreader with
    | header _ _ _ hresult hwindows hat hreceived =>
      refine proceed_tracks (s := { s with arriving := rest }) hdone hcap hfits' hresult (Or.inl ?_) ?_
      · have hnext := hat.receive (hfree _ hwindows hroom) machine.state.readIovecs
        exact hnext
      · rw [List.append_assoc]
        exact hreceived
    | body _ _ _ hresult hwindows hat hreceived =>
      refine proceed_tracks (s := { s with arriving := rest }) hdone hcap hfits' hresult (Or.inr ?_) ?_
      · have hnext := hat.receive (hfree _ hwindows hroom) machine.state.readIovecs
        exact hnext
      · rw [List.append_assoc]
        exact hreceived
  | ended machine object received hsuspended hinterrupts =>
    have hphase := hclean hinterrupts
    rw [hsuspended] at hreader hphase
    have hphase : machine.state.own.state = .readHeader := hphase
    cases hreader with
    | header _ _ _ _ _ hat _ =>
      exact ⟨done, todo, rfl, hdone, .idle _ hat.room hat.unread⟩
    | body _ _ _ _ _ hat _ =>
      rw [hat.phase] at hphase
      cases hphase

/-- **Where a read that is given up leaves things as they were**: exactly where it has no header. -/
theorem ReaderAt.unchanged_iff {machine : RpcRingBufferReadMachine ρ StreamMessageReadMembers}
    {object : StreamMessage} {received : Bytes}
    (h : ReaderAt capacity stream arriving (.suspended machine object received)) :
    (RingBuffer.content machine.state.ringBuffer = received ∧
        machine.state.own.message = object) ↔ machine.state.own.state = .readHeader := by
  cases h with
  | header _ _ _ _ _ hat hreceived =>
    refine ⟨fun _ => hat.phase, fun _ => ⟨?_, hat.target⟩⟩
    exact List.append_cancel_right (hat.unread.trans hreceived.symm)
  | body _ _ _ _ _ hat hreceived =>
    constructor
    · rintro ⟨hsame, -⟩
      -- the ring would have to hold the header still
      have hunread := hat.unread
      rw [hsame, hreceived] at hunread
      have hlen := congrArg List.length hunread
      have h16 := hat.pending.length
      rw [List.length_drop] at hlen
      rw [rpcHeaderSize] at hlen h16
      omega
    · intro hphase
      rw [hat.phase] at hphase
      cases hphase

end Reading

/-- **Reads that are given up.**  On a ring that can hold a header and every body, whatever the
    fragmentation and wherever reads are given up, as long as none is once it has a header: the reads
    that succeed deliver the frames one after the other, each once, what they would have delivered
    without interruptions; and what is unread is the frames that are left.  The condition is the exact
    one: a read that is given up leaves the bytes in the ring as they were received, and the message as
    it was, if and only if it has no header yet. -/
theorem stream_read_all_or_nothing_iff {ρ : Type} [RingBuffer ρ] (ring : ρ)
    (hempty : RingBuffer.content ring = []) (hcap : rpcHeaderSize ≤ RingBuffer.capacity ring)
    (frames : List StreamFrame) (hfits : ∀ f ∈ frames, f.Fits (RingBuffer.capacity ring))
    (actions : List (ReadAction StreamMessage)) (s : StreamConn ρ)
    (hrun : Run (ReadConn.step streamMessageReadState) HeaderPending
      { reader := .idle ring, arriving := bytesOf frames } actions s) :
    List.Forall₂ Delivers s.delivered (frames.take s.delivered.length) ∧
    (∀ ring', s.reader = .idle ring' →
      RingBuffer.content ring' ++ s.arriving = bytesOf (frames.drop s.delivered.length)) ∧
    (∀ machine object received, s.reader = .suspended machine object received →
      received ++ s.arriving = bytesOf (frames.drop s.delivered.length) ∧
      ((RingBuffer.content machine.state.ringBuffer = received ∧
          machine.state.own.message = object) ↔
        machine.state.own.state = .readHeader)) := by
  have hstart : Tracks (RingBuffer.capacity ring) frames
      ({ reader := .idle ring, arriving := bytesOf frames } : StreamConn ρ) :=
    ⟨[], frames, rfl, .nil, .idle ring rfl (by rw [hempty, List.nil_append])⟩
  obtain ⟨done, todo, rfl, hdone, hreader⟩ :=
    (hrun.invariant (fun _ _ _ h hclean hstep => h.step hcap hfits hclean hstep) hstart).split
  rw [hdone.length_eq, List.take_left, List.drop_left]
  refine ⟨hdone, ?_, ?_⟩
  · intro ring' hidle
    rw [hidle] at hreader
    cases hreader with
    | idle _ _ hunread => exact hunread
  · intro machine object received hsuspended
    rw [hsuspended] at hreader
    refine ⟨?_, hreader.unchanged_iff⟩
    cases hreader with
    | header _ _ _ _ _ _ hreceived => exact hreceived
    | body _ _ _ _ _ _ hreceived => exact hreceived

/-- A data frame and the end of its stream; the first read is given up with three bytes of the header. -/
theorem stream_read_all_or_nothing_iff_resumed :
    ∃ s : StreamConn (Circular UInt8),
      Run (ReadConn.step streamMessageReadState) HeaderPending
        { reader := .idle (Circular.empty 24 fun _ => (0 : UInt8))
          arriving := bytesOf [.data 5 [1, 2], .endOfStream 5] }
        [.read {}, .readv 3, .timeout, .read {}, .readv 20, .read {}, .readv 11] s ∧
      s.delivered.length = 2 ∧
      List.Forall₂ Delivers s.delivered
        (([.data 5 [1, 2], .endOfStream 5] : List StreamFrame).take s.delivered.length) := by
  have hruns : ((runAll (ReadConn.step streamMessageReadState) HeaderPending
      ({ reader := .idle (Circular.empty 24 fun _ => (0 : UInt8))
         arriving := bytesOf [.data 5 [1, 2], .endOfStream 5] } : StreamConn (Circular UInt8))
      [.read {}, .readv 3, .timeout, .read {}, .readv 20, .read {}, .readv 11]).map fun s =>
        s.delivered.length) = some 2 := by
    decide
  obtain ⟨s, hs, hlength⟩ := Option.map_eq_some_iff.mp hruns
  have hfits : ∀ f ∈ ([.data 5 [1, 2], .endOfStream 5] : List StreamFrame), f.Fits 24 := by
    intro f hf
    rcases List.mem_pair.mp hf with rfl | rfl
    · exact ⟨nofun, by decide⟩
    · exact ⟨nofun, by decide⟩
  exact ⟨s, run_iff_runAll.mpr hs, hlength,
    (stream_read_all_or_nothing_iff (Circular.empty 24 fun _ => (0 : UInt8)) rfl (by decide)
      [.data 5 [1, 2], .endOfStream 5] hfits _ s (run_iff_runAll.mpr hs)).1⟩

/-- A data frame whose payload happens to be a whole `STREAM_END` of another stream. -/
def nestedFrame : StreamFrame := .data 5 (StreamFrame.endOfStream 7).bytes

/-- The read of it is given up behind the header, and the next one takes the payload for a frame. -/
theorem payload_read_as_frame :
    ¬ ∀ (frames : List StreamFrame) (actions : List (ReadAction StreamMessage))
      (s : StreamConn (Circular UInt8)), (∀ f ∈ frames, f.Fits 32) →
      Run (ReadConn.step streamMessageReadState) (fun _ _ => True)
        { reader := .idle (Circular.empty 32 fun _ => (0 : UInt8)), arriving := bytesOf frames }
        actions s →
      List.Forall₂ Delivers s.delivered (frames.take s.delivered.length) := by
  intro h
  have hruns : ((runAll (ReadConn.step streamMessageReadState) (fun _ _ => True)
      ({ reader := .idle (Circular.empty 32 fun _ => (0 : UInt8)), arriving := bytesOf [nestedFrame] } :
        StreamConn (Circular UInt8))
      [.read {}, .readv 16, .timeout, .read {}, .readv 16]).map fun s =>
        s.delivered.map fun r => r.2.msg) = some [⟨.streamEnd, 7, [], true⟩] := by
    decide
  obtain ⟨s, hs, hmsgs⟩ := Option.map_eq_some_iff.mp hruns
  have hfits : ∀ f ∈ [nestedFrame], f.Fits 32 := by
    intro f hf
    rw [List.mem_singleton.mp hf]
    exact ⟨nofun, by decide⟩
  have hread := h [nestedFrame] _ s hfits (run_iff_runAll.mpr hs)
  obtain ⟨r, hr, hmsg⟩ := List.map_eq_singleton_iff.mp hmsgs
  rw [hr] at hread
  cases hread with
  | cons hdelivers _ =>
    have hids : (7 : UInt32) = 5 := congrArg StreamMsg.streamId (hmsg.symm.trans hdelivers)
    exact absurd hids (by decide)

end GalayRpc
