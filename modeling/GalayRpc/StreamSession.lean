/-
  `rpc_stream.h` and `rpc_client.h`: stream sessions one after the other on one connection, and which
  session reads which frame.

  A session is its stream id, its route, and a reader and a writer on the connection's one ring buffer and
  socket.  Creating it touches neither; a read takes the next frame there is, and nothing compares the
  frame's stream id with the session's.

  * `StreamClient.Keeps` — across all sessions, the messages that have been read are the frames that the
    peer has sent, from the first on;
  * `session_messages_in_order` — so a message has the stream id of the frame it was read from, and it
    is the session's if the session was opened with nothing left to read and the peer kept to it.
-/
import GalayRpc.StreamReads

namespace GalayRpc

/-! ## Sessions -/

/-- `RpcStream`, without the connection it is on. -/
structure RpcStream where
  streamId : UInt32
  serviceName : Bytes := []
  methodName : Bytes := []
deriving DecidableEq, Repr

/-- The methods of `RpcStream` that send a frame. -/
inductive StreamSend where
  | sendInit
  | sendInitAck
  | sendData (data : Bytes)
  | sendDataView (payloadView : RpcPayloadView UInt8)
  | sendEnd
  | sendCancel

namespace RpcStream

/-- `setRoute`. -/
def setRoute (stream : RpcStream) (service method : Bytes) : RpcStream :=
  { stream with serviceName := service, methodName := method }

/-- The frame a method of the session sends. -/
def frame (stream : RpcStream) : StreamSend → StreamFrame
  | .sendInit => .init stream.streamId stream.serviceName stream.methodName
  | .sendInitAck => .initAck stream.streamId
  | .sendData data => .data stream.streamId data
  | .sendDataView payloadView => .dataView stream.streamId payloadView
  | .sendEnd => .endOfStream stream.streamId
  | .sendCancel => .cancel stream.streamId

end RpcStream

/-! ## The client's side of a connection -/

/-- A client connection that is used for streams: the session in use, the ids of the sessions so far, the
    frames written and the frames the peer has sent, and every message read, with the session that has
    read it. -/
structure StreamClient (ρ : Type) where
  conn : StreamConn ρ
  stream : Option RpcStream := none
  opened : List UInt32 := []
  written : List StreamFrame := []
  sent : List StreamFrame := []
  delivered : List (UInt32 × StreamMessage) := []

/-- What can happen on it.  The peer may send any frame of any session there has been, at any time. -/
inductive SessionAction where
  | createStream (streamId : UInt32) (service method : Bytes)
  | send (send : StreamSend)
  | peerSends (frame : StreamFrame)
  | reading (action : ReadAction StreamMessage)

namespace StreamClient

variable {ρ : Type} [RingBuffer ρ]

/-- A new connection. -/
def start (ring : ρ) : StreamClient ρ := { conn := { reader := .idle ring, arriving := [] } }

/-- A step of the connection, in a session. -/
def onConn (s : StreamClient ρ) (stream : RpcStream) (action : ReadAction StreamMessage) :
    Option (StreamClient ρ) :=
  (s.conn.step streamMessageReadState action).map fun conn => { s with
    conn := conn
    delivered := s.delivered ++
      (conn.delivered.drop s.conn.delivered.length).map fun r => (stream.streamId, r.2) }

def step (s : StreamClient ρ) (action : SessionAction) : Option (StreamClient ρ) :=
  match action, s.stream, s.conn.reader with
  -- a new id each time, and no read is in progress
  | .createStream streamId service method, _, .idle _ =>
    if streamId ∉ s.opened then
      some { s with
        stream := some ⟨streamId, service, method⟩
        opened := s.opened ++ [streamId] }
    else none
  | .send send, some stream, _ => some { s with written := s.written ++ [stream.frame send] }
  | .peerSends frame, _, _ =>
    if frame.msg.streamId ∈ s.opened then
      some { s with
        sent := s.sent ++ [frame]
        conn := { s.conn with arriving := s.conn.arriving ++ frame.bytes } }
    else none
  | .reading action, some stream, _ => s.onConn stream action
  | _, _, _ => none

/-- The peer sends frames that the connection's ring buffer can hold, and no read is given up once it
    has its header. -/
def Whole (capacity : Nat) (s : StreamClient ρ) : SessionAction → Prop
  | .createStream _ _ _ => True
  | .send _ => True
  | .peerSends frame => frame.Fits capacity
  | .reading action => HeaderPending s.conn action

instance (capacity : Nat) (s : StreamClient ρ) (action : SessionAction) :
    Decidable (s.Whole capacity action) :=
  match action with
  | .createStream _ _ _ => .isTrue trivial
  | .send _ => .isTrue trivial
  | .peerSends frame => inferInstanceAs (Decidable (frame.Fits capacity))
  | .reading action => inferInstanceAs (Decidable (HeaderPending s.conn action))

end StreamClient

/-! ### Reads and frames that are still coming -/

section Extend

variable {ρ : Type} [RingBuffer ρ] {capacity : Nat} {stream arriving : Bytes}

theorem AtHeader.extend {message : StreamMessage}
    {s : RpcRingBufferReadState ρ StreamMessageReadMembers} {rest : Bytes}
    (h : AtHeader stream capacity message s rest) (t : Bytes) :
    AtHeader (stream ++ t) capacity message s (rest ++ t) where
  error := h.error
  phase := h.phase
  unread := by rw [← List.append_assoc, h.unread]
  room := h.room
  target := h.target

theorem AtBody.extend {message : StreamMessage}
    {s : RpcRingBufferReadState ρ StreamMessageReadMembers} {rest : Bytes}
    (h : AtBody stream capacity message s rest) (t : Bytes) :
    AtBody (stream ++ t) capacity message s (rest ++ t) := by
  have hof := RpcHeader.ofBytes_append h.pending.length t
  have hlength : rpcHeaderSize ≤ (stream ++ t).length := by
    rw [List.length_append]
    exact Nat.le_trans h.pending.length (Nat.le_add_right _ _)
  refine ⟨⟨hlength, h.pending.capacity, ?_, ?_, ?_⟩, h.error, h.phase, ?_, h.room, ?_, ?_⟩
  · rw [hof]
    exact h.pending.accepted
  · rw [hof]
    exact h.pending.plain
  · rw [hof]
    exact h.pending.nonempty
  · rw [← List.append_assoc, h.unread, List.drop_append_of_le_length h.pending.length]
  · rw [hof]
    exact h.target
  · rw [hof]
    exact h.bodyLength

theorem ReaderAt.extend {reader : Reader ρ StreamMessageReadMembers StreamMessage}
    (h : ReaderAt capacity stream arriving reader) (t : Bytes) :
    ReaderAt capacity (stream ++ t) (arriving ++ t) reader := by
  cases h with
  | idle ring hcapacity hunread =>
    exact .idle ring hcapacity (by rw [← List.append_assoc, hunread])
  | header machine object received hresult hwindows hat hreceived =>
    exact .header machine object received hresult hwindows (hat.extend t)
      (by rw [← List.append_assoc, hreceived])
  | body machine object received hresult hwindows hat hreceived =>
    exact .body machine object received hresult hwindows (hat.extend t)
      (by rw [← List.append_assoc, hreceived])

/-- Another frame comes in behind the ones there are. -/
theorem Tracks.extend {s : StreamConn ρ} {frames : List StreamFrame} (h : Tracks capacity frames s)
    (frame : StreamFrame) :
    Tracks capacity (frames ++ [frame]) { s with arriving := s.arriving ++ frame.bytes } := by
  obtain ⟨done, todo, rfl, hdone, hreader⟩ := h.split
  refine ⟨done, todo ++ [frame], List.append_assoc .., hdone, ?_⟩
  have hbytes : bytesOf (todo ++ [frame]) = bytesOf todo ++ frame.bytes := by
    rw [bytesOf, List.map_append, List.flatten_append]
    show _ ++ List.flatten [frame.bytes] = _
    rw [List.flatten_singleton]
    rfl
  rw [hbytes]
  exact hreader.extend frame.bytes

end Extend

/-! ### Every step -/

theorem exists_of_forall₂ {α β : Type} {R : α → β → Prop} {as : List α} {bs : List β}
    (h : List.Forall₂ R as bs) {a : α} (ha : a ∈ as) : ∃ b ∈ bs, R a b := by
  induction h with
  | nil => cases ha
  | cons hab _ ih =>
    rcases List.mem_cons.mp ha with rfl | ha
    · exact ⟨_, List.mem_cons_self, hab⟩
    · obtain ⟨b, hb, hR⟩ := ih ha
      exact ⟨b, List.mem_cons_of_mem _ hb, hR⟩

namespace StreamClient

variable {ρ : Type} [RingBuffer ρ] {capacity : Nat}

/-- **The reads of all sessions together** are the reads of one connection. -/
structure Keeps (capacity : Nat) (s : StreamClient ρ) : Prop where
  tracks : Tracks capacity s.sent s.conn
  fits : ∀ f ∈ s.sent, f.Fits capacity
  delivered : s.delivered.map Prod.snd = s.conn.delivered.map Prod.snd

/-- A step of the connection only adds to what has been delivered. -/
theorem delivered_append {c c' : StreamConn ρ} {action : ReadAction StreamMessage}
    (h : c.step streamMessageReadState action = some c') :
    c'.delivered = c.delivered ++ c'.delivered.drop c.delivered.length := by
  have hproceed : ∀ (c : StreamConn ρ) machine object received,
      ∃ new, (c.proceed streamMessageReadState machine object received).delivered =
        c.delivered ++ new := by
    intro c machine object received
    unfold ReadConn.proceed
    split
    · exact ⟨_, rfl⟩
    · exact ⟨[], (List.append_nil _).symm⟩
    · exact ⟨[], (List.append_nil _).symm⟩
  obtain ⟨new, hnew⟩ : ∃ new, c'.delivered = c.delivered ++ new := by
    cases ReadConn.step_cases streamMessageReadState h with
    | start ring object hidle => exact hproceed c _ _ _
    | piece machine object received piece rest => exact hproceed { c with arriving := rest } _ _ _
    | ended machine object received => exact ⟨[], (List.append_nil _).symm⟩
  rw [hnew, List.drop_left]

/-- What a step can do to a client. -/
inductive Stepped (s : StreamClient ρ) : SessionAction → StreamClient ρ → Prop where
  | created (streamId : UInt32) (service method : Bytes) :
      Stepped s (.createStream streamId service method)
        { s with stream := some ⟨streamId, service, method⟩, opened := s.opened ++ [streamId] }
  | written (send : StreamSend) (frame : StreamFrame) :
      Stepped s (.send send) { s with written := s.written ++ [frame] }
  | peerSent (frame : StreamFrame) :
      Stepped s (.peerSends frame)
        { s with
          sent := s.sent ++ [frame]
          conn := { s.conn with arriving := s.conn.arriving ++ frame.bytes } }
  | reading (stream : RpcStream) (action : ReadAction StreamMessage) (conn : StreamConn ρ)
      (hstream : s.stream = some stream)
      (hconn : s.conn.step streamMessageReadState action = some conn) :
      Stepped s (.reading action)
        { s with
          conn := conn
          delivered := s.delivered ++
            (conn.delivered.drop s.conn.delivered.length).map fun r => (stream.streamId, r.2) }

theorem step_cases {s s' : StreamClient ρ} {action : SessionAction} (h : s.step action = some s') :
    Stepped s action s' := by
  unfold step at h
  split at h
  · simp only [Option.ite_none_right_eq_some, Option.some.injEq] at h
    obtain ⟨-, rfl⟩ := h
    exact .created _ _ _
  · obtain rfl := Option.some.inj h
    exact .written _ _
  · simp only [Option.ite_none_right_eq_some, Option.some.injEq] at h
    obtain ⟨-, rfl⟩ := h
    exact .peerSent _
  · rename_i hstream
    obtain ⟨conn, hconn, rfl⟩ := Option.map_eq_some_iff.mp h
    exact .reading _ _ conn hstream hconn
  · cases h

theorem Keeps.step {s s' : StreamClient ρ} (h : Keeps capacity s) (hcap : rpcHeaderSize ≤ capacity)
    {action : SessionAction} (hwhole : s.Whole capacity action)
    (hstep : s.step action = some s') : Keeps capacity s' := by
  cases step_cases hstep with
  | created streamId service method => exact ⟨h.tracks, h.fits, h.delivered⟩
  | written send frame => exact ⟨h.tracks, h.fits, h.delivered⟩
  | peerSent frame =>
    exact ⟨h.tracks.extend frame, forall_mem_concat h.fits hwhole, h.delivered⟩
  | reading stream action conn hstream hconn =>
    refine ⟨h.tracks.step hcap h.fits hwhole hconn, h.fits, ?_⟩
    show (s.delivered ++ _).map Prod.snd = conn.delivered.map Prod.snd
    rw [delivered_append hconn, List.map_append, List.map_append, h.delivered, List.drop_left,
      List.map_map]
    rfl

/-- The message says what the frame says. -/
def Carries (m : StreamMessage) (f : StreamFrame) : Prop :=
  m.messageType = f.msg.messageType ∧ m.streamId = f.msg.streamId ∧ m.payload = f.msg.payload

theorem Keeps.forall₂ {s : StreamClient ρ} (h : Keeps capacity s) :
    List.Forall₂ (fun d f => Carries d.2 f) s.delivered (s.sent.take s.delivered.length) := by
  obtain ⟨done, todo, hsplit, hdone, -⟩ := h.tracks.split
  have hlen : s.delivered.length = done.length := by
    have := congrArg List.length h.delivered
    rw [List.length_map, List.length_map] at this
    rw [this, hdone.length_eq]
  rw [hlen, hsplit, List.take_left]
  have hmsgs : List.Forall₂ (fun m f => Carries m f) (s.conn.delivered.map Prod.snd) done := by
    rw [List.forall₂_map_left_iff]
    refine hdone.imp ?_
    intro r f hdelivers
    obtain ⟨htype, hid, hpayload, -⟩ := StreamMsg.mk.inj hdelivers
    exact ⟨htype, hid, hpayload⟩
  rw [← h.delivered, List.forall₂_map_left_iff] at hmsgs
  exact hmsgs

/-- Since a session was opened in the state `s₀`: what the peer has sent is the session's, and so is
    every read. -/
structure Undisturbed (s₀ : StreamClient ρ) (streamId : UInt32) (s : StreamClient ρ) : Prop where
  sent : ∃ more, s.sent = s₀.sent ++ more ∧ ∀ f ∈ more, f.msg.streamId = streamId
  delivered : ∃ new, s.delivered = s₀.delivered ++ new ∧ ∀ d ∈ new, d.1 = streamId
  stream : ∃ stream, s.stream = some stream ∧ stream.streamId = streamId

/-- The action opens no session, and the peer sends nothing of another one. -/
def KeepsTo (streamId : UInt32) : SessionAction → Prop
  | .createStream _ _ _ => False
  | .send _ => True
  | .peerSends frame => frame.msg.streamId = streamId
  | .reading _ => True

instance (streamId : UInt32) (action : SessionAction) : Decidable (KeepsTo streamId action) :=
  match action with
  | .createStream _ _ _ => .isFalse id
  | .send _ => .isTrue trivial
  | .peerSends frame => inferInstanceAs (Decidable (frame.msg.streamId = streamId))
  | .reading _ => .isTrue trivial

theorem Undisturbed.step {s₀ s s' : StreamClient ρ} {streamId : UInt32}
    (h : Undisturbed s₀ streamId s) {action : SessionAction} (hkeeps : KeepsTo streamId action)
    (hstep : s.step action = some s') : Undisturbed s₀ streamId s' := by
  cases step_cases hstep with
  | created id service method => exact hkeeps.elim
  | written send frame => exact ⟨h.sent, h.delivered, h.stream⟩
  | peerSent frame =>
    obtain ⟨more, hsent, hmore⟩ := h.sent
    refine ⟨⟨more ++ [frame], ?_, forall_mem_concat hmore hkeeps⟩, h.delivered, h.stream⟩
    show s.sent ++ [frame] = _
    rw [hsent, List.append_assoc]
  | reading stream action conn hstream hconn =>
    obtain ⟨new, hdelivered, hnew⟩ := h.delivered
    obtain ⟨stream', hstream', hid⟩ := h.stream
    obtain rfl : stream = stream' := Option.some.inj (hstream.symm.trans hstream')
    let read := (conn.delivered.drop s.conn.delivered.length).map fun r => (stream.streamId, r.2)
    refine ⟨h.sent, ⟨new ++ read, ?_, ?_⟩, ⟨stream, hstream, hid⟩⟩
    · show s.delivered ++ _ = _
      rw [hdelivered, List.append_assoc]
    · intro d hd
      rcases List.mem_append.mp hd with hd | hd
      · exact hnew d hd
      · obtain ⟨r, -, rfl⟩ := List.mem_map.mp hd
        exact hid

theorem undisturbed_of_create {s s' : StreamClient ρ} {streamId : UInt32} {service method : Bytes}
    (h : s.step (.createStream streamId service method) = some s') : Undisturbed s streamId s' := by
  cases step_cases h with
  | created =>
    exact ⟨⟨[], (List.append_nil _).symm, by simp⟩, ⟨[], (List.append_nil _).symm, by simp⟩, _, rfl, rfl⟩

theorem start_keeps {ring : ρ} (hempty : RingBuffer.content ring = []) :
    Keeps (RingBuffer.capacity ring) (start ring) where
  tracks := ⟨[], [], rfl, .nil, .idle ring rfl (by rw [hempty]; rfl)⟩
  fits := by
    intro f hf
    cases hf
  delivered := rfl

end StreamClient

/-- **Which session reads which frame.**  On a ring that can hold a header, for sessions with new ids
    opened one after the other whenever no read is in progress, and a peer that sends frames of any of
    them at any time, each one that the ring can hold: as long as no read is given up once it has its
    header, the messages that are read, by whichever session, are the frames the peer has sent, in order
    and each once.  So a message has the stream id of its frame.  It is the session's if, when the
    session was opened, every frame sent before had been read, and no other session was opened and no
    frame of another one sent since. -/
theorem session_messages_in_order {ρ : Type} [RingBuffer ρ] (ring : ρ)
    (hempty : RingBuffer.content ring = []) (hcap : rpcHeaderSize ≤ RingBuffer.capacity ring)
    (actions : List SessionAction) (s : StreamClient ρ)
    (hrun : Run StreamClient.step (StreamClient.Whole (RingBuffer.capacity ring))
      (StreamClient.start ring) actions s) :
    List.Forall₂ (fun d f => StreamClient.Carries d.2 f) s.delivered
      (s.sent.take s.delivered.length) ∧
    ∀ (before after : List SessionAction) (streamId : UInt32) (service method : Bytes)
      (s₀ : StreamClient ρ),
      Run StreamClient.step (StreamClient.Whole (RingBuffer.capacity ring))
        (StreamClient.start ring) before s₀ →
      s₀.delivered.length = s₀.sent.length →
      Run StreamClient.step (StreamClient.Whole (RingBuffer.capacity ring)) s₀
        (.createStream streamId service method :: after) s →
      (∀ action ∈ after, StreamClient.KeepsTo streamId action) →
      ∀ d ∈ s.delivered.drop s₀.delivered.length, d.1 = streamId ∧ d.2.streamId = streamId := by
  have hkeeps := (hrun.invariant (fun _ _ _ h hc hstep => h.step hcap hc hstep)
    (StreamClient.start_keeps hempty)).forall₂
  refine ⟨hkeeps, ?_⟩
  intro before after streamId service method s₀ _ hdrained hrun₀ hafter d hd
  cases hrun₀ with
  | cons _ hcreate hrest =>
    -- from the opening on, everything sent and everything read is the session's
    have hopened := StreamClient.undisturbed_of_create hcreate
    have hend := (hrest.and_mem hafter).invariant
      (fun _ _ _ h hc hstep => StreamClient.Undisturbed.step h hc.2 hstep) hopened
    obtain ⟨more, hsent, hmore⟩ := hend.sent
    obtain ⟨new, hdelivered, hnew⟩ := hend.delivered
    have hread := List.forall₂_drop s₀.delivered.length hkeeps
    rw [List.drop_take, hsent, hdrained, List.drop_left, ← hdrained] at hread
    obtain ⟨f, hf, hcarries⟩ := exists_of_forall₂ hread hd
    rw [hdelivered, List.drop_left] at hd
    exact ⟨hnew d hd, hcarries.2.1.trans (hmore f (List.mem_of_mem_take hf))⟩

/-- A session whose acknowledgement is read, and behind it a second one, the first read of which is
    given up before anything has come. -/
theorem session_messages_in_order_drained :
    let first : List SessionAction :=
      [.createStream 1 [0x45] [0x65], .send .sendInit, .peerSends (.initAck 1), .reading (.read {}),
        .reading (.readv 16)]
    let second : List SessionAction :=
      [.send .sendInit, .reading (.read {}), .reading .timeout, .peerSends (.initAck 2),
        .reading (.read {}), .reading (.readv 16)]
    ∃ s₀ s : StreamClient (Circular UInt8),
      Run StreamClient.step (StreamClient.Whole 24) (.start (Circular.empty 24 fun _ => (0 : UInt8)))
        first s₀ ∧
      Run StreamClient.step (StreamClient.Whole 24) s₀ (.createStream 2 [0x45] [0x65] :: second) s ∧
      s.delivered.length = 2 ∧
      ∀ d ∈ s.delivered.drop s₀.delivered.length, d.1 = 2 ∧ d.2.streamId = 2 := by
  intro first second
  have hfirst : ((runAll StreamClient.step (StreamClient.Whole 24)
      (.start (Circular.empty 24 fun _ => (0 : UInt8))) first).map fun s =>
        (s.delivered.length, s.sent.length)) = some (1, 1) := by
    decide
  obtain ⟨s₀, hs₀, hcounts⟩ := Option.map_eq_some_iff.mp hfirst
  obtain ⟨hread, hsent⟩ := Prod.mk.inj hcounts
  have hboth : ((runAll StreamClient.step (StreamClient.Whole 24)
      (.start (Circular.empty 24 fun _ => (0 : UInt8)))
      (first ++ .createStream 2 [0x45] [0x65] :: second)).map fun s => s.delivered.length) =
        some 2 := by
    decide
  obtain ⟨s, hs, hlength⟩ := Option.map_eq_some_iff.mp hboth
  have hrun := run_iff_runAll.mpr hs
  have hsecond := Run.of_append (run_iff_runAll.mpr hs₀) hrun
  refine ⟨s₀, s, run_iff_runAll.mpr hs₀, hsecond, hlength, ?_⟩
  refine (session_messages_in_order (Circular.empty 24 fun _ => (0 : UInt8)) rfl (by decide) _ s hrun).2
    first second 2 [0x45] [0x65] s₀ (run_iff_runAll.mpr hs₀) (hread.trans hsent.symm) hsecond ?_
  decide

/-- The first session is cancelled while its data is on the way, and the second session reads it. -/
theorem stale_data_read :
    ¬ ∀ (actions : List SessionAction) (s : StreamClient (Circular UInt8)),
      Run StreamClient.step (StreamClient.Whole 24)
        (.start (Circular.empty 24 fun _ => (0 : UInt8))) actions s →
      ∀ d ∈ s.delivered, d.2.streamId = d.1 := by
  intro h
  have hruns : ((runAll StreamClient.step (StreamClient.Whole 24)
      (.start (Circular.empty 24 fun _ => (0 : UInt8)))
      [.createStream 1 [0x45] [0x65], .send .sendInit, .send .sendCancel, .peerSends (.data 1 [7]),
        .createStream 2 [0x45] [0x65], .send .sendInit, .reading (.read {}),
        .reading (.readv 17)]).map fun s => s.delivered.map fun d => (d.1, d.2.msg)) =
        some [(2, ⟨.streamData, 1, [7], false⟩)] := by
    decide
  obtain ⟨s, hs, hmsgs⟩ := Option.map_eq_some_iff.mp hruns
  obtain ⟨d, hd, hmsg⟩ := List.map_eq_singleton_iff.mp hmsgs
  obtain ⟨hsession, hmessage⟩ := Prod.mk.inj hmsg
  have hsame := h _ s (run_iff_runAll.mpr hs) d (by rw [hd]; exact List.mem_singleton_self d)
  have hids : (1 : UInt32) = 2 :=
    (congrArg StreamMsg.streamId hmessage).symm.trans (hsame.trans hsession)
  exact absurd hids (by decide)

end GalayRpc
