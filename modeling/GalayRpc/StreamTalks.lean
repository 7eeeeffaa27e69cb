/-
  The streams of a client and of the server on the other end, stream by stream.

  A frame says where it belongs only by the number it bears, and nobody looks at that: what keeps the
  streams of a connection apart is the order of the frames, and that both ends keep to it.  A client sends
  its first frame, waits for the answer, and opens the next stream when this one is over; a handler reads
  and sends in its stream up to the last frame each way, and returns.

  1. **What they keep to** — `StreamLink.InTurn`, on each step of the client and of a handler; the loop of
     `handleConnection` keeps to it by itself.

  2. **Each end by itself** — `StreamClientEnd.Mannered`, `StreamServerEnd.Mannered`: the streams have the
     shape of the talks of `Lib/Talks`, and those in the past are over.

  3. **Both** — by `frames_cross_in_order` and `Words.meet`, stream `i` of the one is stream `i` of the
     other (`streams_keep_apart`).
-/
import GalayRpc.Lib.Talks
import GalayRpc.StreamLink

namespace GalayRpc

variable {ρ ρ' η ζ : Type} [RingBuffer ρ] [RingBuffer ρ']

/-! ## Streams as talks -/

/-- What a frame says: its type, its stream's number and its payload. -/
abbrev Said : Type := RpcMessageType × UInt32 × Bytes

def StreamMessage.said (m : StreamMessage) : Said := (m.messageType, m.streamId, m.payload)

def StreamFrame.said (f : StreamFrame) : Said := (f.msg.messageType, f.msg.streamId, f.msg.payload)

/-- The answers of the loop, and the frames that end a direction. -/
def streamWords : Words Said where
  accepts x := x.1 = .streamInitAck
  refuses x := x.1 = .streamCancel
  ends x := x.1.EndsStream
  accepts_not_refuses := by
    intro x haccepts hrefuses
    rw [haccepts] at hrefuses
    exact absurd hrefuses (by decide)

instance : DecidablePred streamWords.accepts := fun x => inferInstanceAs (Decidable (x.1 = _))
instance : DecidablePred streamWords.refuses := fun x => inferInstanceAs (Decidable (x.1 = _))
instance : DecidablePred streamWords.ends := fun x => inferInstanceAs (Decidable x.1.EndsStream)

def StreamSide.talk (c : StreamSide) : Talk Said := ⟨c.wrote.map StreamFrame.said, c.read.map StreamMessage.said⟩

def ServedStream.talk (e : ServedStream ζ) : Talk Said :=
  ⟨(e.initFrame :: e.read).map StreamMessage.said, e.wrote.map StreamFrame.said⟩

theorem carries_iff_said {m : StreamMessage} {f : StreamFrame} :
    StreamClient.Carries m f ↔ m.said = f.said := by
  unfold StreamClient.Carries StreamMessage.said StreamFrame.said
  rw [Prod.mk.injEq, Prod.mk.injEq]

theorem carries_all_iff {ms : List StreamMessage} {fs : List StreamFrame} :
    List.Forall₂ StreamClient.Carries ms fs ↔ ms.map StreamMessage.said = fs.map StreamFrame.said := by
  rw [← List.forall₂_eq_eq_eq, List.forall₂_map_left_iff, List.forall₂_map_right_iff]
  exact ⟨fun h => h.imp fun _ _ => carries_iff_said.mp, fun h => h.imp fun _ _ => carries_iff_said.mpr⟩

theorem carries_first_iff {ms : List StreamMessage} {fs : List StreamFrame} :
    List.Forall₂ StreamClient.Carries ms (fs.take ms.length) ↔
      ms.map StreamMessage.said <+: fs.map StreamFrame.said := by
  rw [carries_all_iff, List.map_take, List.prefix_iff_eq_take, List.length_map]

theorem RpcStream.frame_streamId (stream : RpcStream) (send : StreamSend) :
    (stream.frame send).msg.streamId = stream.streamId := by
  cases send with
  | _ => rfl

theorem RpcStreamServer.dispatch_streamId (server : RpcStreamServer η ζ) (m : StreamMessage) :
    (server.dispatch m).1.streamId = m.streamId := by
  rcases server.dispatch_spec m with ⟨e, hdispatch, -⟩ | ⟨stream, handler, hdispatch, hrouted⟩
  · rw [hdispatch]
  · obtain ⟨init, service, -, -, -, hstream⟩ := hrouted.route
    rw [hdispatch, hstream]

/-- A read adds one message or none. -/
theorem StreamEnd.read_one {s s' : StreamEnd ρ} {action : ReadAction StreamMessage}
    {messages : List StreamMessage} (hread : s.read action = some s')
    (hmessages : s'.messages = s.messages ++ messages) : messages = [] ∨ ∃ m, messages = [m] := by
  rcases messages_of_read hread with hsame | ⟨m, hone⟩
  · exact Or.inl (List.append_right_eq_self.mp (hmessages.symm.trans hsame))
  · exact Or.inr ⟨m, List.append_cancel_left (hmessages.symm.trans hone)⟩

/-! ## What the ends keep to -/

namespace StreamLink

/-- The client speaks in its stream when it is the client's turn, and opens one when the last is over; a
    handler reads and sends up to the last frame each way, and returns behind both. -/
def InTurn (l : StreamLink ρ ρ' ζ) : StreamLinkAction → Prop
  | .client (.createStream _ _ _) => ∀ c ∈ l.client.current, streamWords.Over c.talk
  | .client (.reading _) =>
    ∀ c ∈ l.client.current, 0 < c.talk.up.length ∧ ∀ x ∈ c.talk.down, ¬ streamWords.ends x
  | .client (.send _) =>
    ∀ c ∈ l.client.current, (∀ x ∈ c.talk.up, ¬ streamWords.ends x) ∧
      (0 < c.talk.up.length → ∃ x ∈ c.talk.down.head?, streamWords.accepts x)
  | .server (.handlerReads _) => ∀ e ∈ l.server.serving, ∀ x ∈ e.talk.up, ¬ streamWords.ends x
  | .server (.handlerSends _) => ∀ e ∈ l.server.serving, ∀ x ∈ e.talk.down, ¬ streamWords.ends x
  | .server .handlerReturns => ∀ e ∈ l.server.serving, streamWords.Over e.talk
  | _ => True

instance (l : StreamLink ρ ρ' ζ) : (a : StreamLinkAction) → Decidable (l.InTurn a)
  | .client (.createStream _ _ _) =>
    inferInstanceAs (Decidable (∀ c ∈ l.client.current, streamWords.Over c.talk))
  | .client (.reading _) =>
    inferInstanceAs (Decidable (∀ c ∈ l.client.current,
      0 < c.talk.up.length ∧ ∀ x ∈ c.talk.down, ¬ streamWords.ends x))
  | .client (.send _) =>
    inferInstanceAs (Decidable (∀ c ∈ l.client.current, (∀ x ∈ c.talk.up, ¬ streamWords.ends x) ∧
      (0 < c.talk.up.length → ∃ x ∈ c.talk.down.head?, streamWords.accepts x)))
  | .server (.handlerReads _) =>
    inferInstanceAs (Decidable (∀ e ∈ l.server.serving, ∀ x ∈ e.talk.up, ¬ streamWords.ends x))
  | .server (.handlerSends _) =>
    inferInstanceAs (Decidable (∀ e ∈ l.server.serving, ∀ x ∈ e.talk.down, ¬ streamWords.ends x))
  | .server .handlerReturns =>
    inferInstanceAs (Decidable (∀ e ∈ l.server.serving, streamWords.Over e.talk))
  | .client (.writev _) | .client .giveUp | .server (.test _) | .server (.loopReads _)
  | .server (.loopWrites _) | .server (.handlerWrites _) | .server .handlerGivesUp
  | .server (.close _) => .isTrue trivial

end StreamLink

/-! ## The client -/

/-- The client's streams are talks, in which its frames bear their number; those in the past are over. -/
structure StreamClientEnd.Mannered (s : StreamClientEnd ρ) : Prop where
  shaped : ∀ c ∈ s.streams, streamWords.Shaped c.talk
  numbered : ∀ c ∈ s.streams, ∀ f ∈ c.wrote, f.msg.streamId = c.stream.streamId
  finished : ∀ c ∈ s.past, streamWords.Over c.talk

omit [RingBuffer ρ'] in
/-- **A step of the client.** -/
theorem StreamClientEnd.Mannered.step {s s' : StreamClientEnd ρ} (h : s.Mannered)
    {peer : StreamServerEnd ρ' ζ} {action : StreamClientAction}
    (hturn : StreamLink.InTurn ⟨s, peer⟩ (.client action)) {put : Bytes}
    (hstep : s.step action = some (s', put)) : s'.Mannered := by
  obtain ⟨hshaped, hnumbered, hover⟩ := h
  cases stepped hstep with
  | created streamId service method =>
    refine ⟨forall_mem_concat hshaped Words.shaped_nil,
      forall_mem_concat hnumbered fun f hf => absurd hf List.not_mem_nil, ?_⟩
    intro c hc
    rcases List.mem_append.mp hc with hpast | hcurrent
    · exact hover c hpast
    · exact hturn c (Option.mem_toList.mp hcurrent)
  | @read c action side messages hcurrent hread hmessages =>
    obtain ⟨hopened, hopen⟩ := hturn c hcurrent
    refine ⟨forall_streams hcurrent rfl rfl hshaped ?_, forall_streams hcurrent rfl rfl hnumbered id, hover⟩
    intro hc
    rcases StreamEnd.read_one hread hmessages with rfl | ⟨m, rfl⟩
    · show streamWords.Shaped ⟨_, (c.read ++ []).map _⟩
      rw [List.append_nil]
      exact hc
    · show streamWords.Shaped ⟨_, (c.read ++ [m]).map _⟩
      rw [List.map_append]
      exact hc.say_down (List.ne_nil_of_length_pos hopened) hopen m.said
  | @began c send side hcurrent hsend =>
    obtain ⟨hopen, haccepted⟩ := hturn c hcurrent
    refine ⟨forall_streams hcurrent rfl rfl hshaped ?_, forall_streams hcurrent rfl rfl hnumbered ?_, hover⟩
    · intro hc
      show streamWords.Shaped ⟨(c.wrote ++ [c.stream.frame send]).map _, _⟩
      rw [List.map_append]
      exact hc.say_up hopen (fun hne => haccepted (List.length_pos_of_ne_nil hne))
        (c.stream.frame send).said
    · exact fun hc => forall_mem_concat hc (c.stream.frame_streamId send)
  | wrote side put result hwritev => exact ⟨hshaped, hnumbered, hover⟩
  | gaveUp side hgive => exact ⟨hshaped, hnumbered, hover⟩

/-! ## The server -/

/-- At the test of `m_running` and at the loop's read, the stream is over. -/
def StreamServerPhase.BetweenStreams (serving : Option (ServedStream ζ)) : StreamServerPhase ζ → Prop
  | .testing => ∀ e ∈ serving, streamWords.Over e.talk
  | .reading => ∀ e ∈ serving, streamWords.Over e.talk
  | _ => True

/-- The server's streams are talks it has answered, in which its frames bear their number; those in the
    past are over. -/
structure StreamServerEnd.Mannered (s : StreamServerEnd ρ ζ) : Prop where
  shaped : ∀ e ∈ s.streams, streamWords.Shaped e.talk
  answered : ∀ e ∈ s.streams, e.talk.down ≠ []
  numbered : ∀ e ∈ s.streams, ∀ f ∈ e.wrote, f.msg.streamId = e.stream.streamId
  finished : ∀ e ∈ s.past, streamWords.Over e.talk
  between : s.phase.BetweenStreams s.serving

namespace StreamServerEnd

variable {server : RpcStreamServer η ζ} {s s' : StreamServerEnd ρ ζ}

omit [RingBuffer ρ] in
/-- The streams stay as they are. -/
theorem Mannered.congr (h : s.Mannered) (hpast : s'.past = s.past) (hserving : s'.serving = s.serving)
    (hbetween : s'.phase.BetweenStreams s.serving) : s'.Mannered := by
  have hstreams : s'.streams = s.streams := by
    unfold streams
    rw [hpast, hserving]
  obtain ⟨hshaped, hanswered, hnumbered, hover, -⟩ := h
  constructor
  · rwa [hstreams]
  · rwa [hstreams]
  · rwa [hstreams]
  · rwa [hpast]
  · rwa [hserving]

/-- The answer to a first frame makes a talk. -/
theorem shaped_opened (server : RpcStreamServer η ζ) (initFrame : StreamMessage) :
    streamWords.Shaped (opened server initFrame).talk :=
  ⟨onlyLast_concat (l := []) (fun _ h => absurd h List.not_mem_nil) _,
    onlyLast_concat (l := []) (fun _ h => absurd h List.not_mem_nil) _,
    fun hlong => absurd hlong (Nat.not_succ_le_self 1), fun _ => List.cons_ne_nil _ _⟩

/-- A stream that has been refused is over. -/
theorem over_of_refused {e : ServedStream ζ} {stream : RpcStream}
    (hwrote : e.wrote = [stream.frame .sendCancel]) : streamWords.Over e.talk := by
  have hdown : e.talk.down = [(stream.frame .sendCancel).said] := by
    show e.wrote.map _ = _
    rw [hwrote]
    rfl
  constructor
  · rw [hdown]
    exact ⟨_, rfl, Or.inr rfl⟩
  · rw [hdown]
    exact Or.inr ⟨_, rfl, rfl⟩

omit [RingBuffer ρ'] in
/-- **A step of the server.** -/
theorem Mannered.step (h : s.Mannered) (hbooked : s.Booked server) {peer : StreamClientEnd ρ'}
    {move : StreamServerMove} (hturn : StreamLink.InTurn ⟨peer, s⟩ (.server move)) {put : Bytes}
    (hstep : s.step server move = some (s', put)) : s'.Mannered := by
  have hbetween := h.between
  have hserves := hbooked.serves
  cases stepped hstep with
  | tested running hphase =>
    rw [hphase] at hbetween
    refine h.congr rfl rfl ?_
    cases running with
    | true => exact hbetween
    | false => trivial
  | @received action side side' initFrame lastError hphase hread hmessages hsend =>
    rw [hphase] at hbetween
    refine ⟨forall_mem_concat h.shaped (shaped_opened server initFrame),
      forall_mem_concat h.answered (List.cons_ne_nil _ _),
      forall_mem_concat h.numbered ?_, ?_, trivial⟩
    · intro f hf
      obtain rfl := List.mem_singleton.mp hf
      exact RpcStream.frame_streamId _ _
    · intro e he
      rcases List.mem_append.mp he with hpast | hserving
      · exact h.finished e hpast
      · exact hbetween e (Option.mem_toList.mp hserving)
  | @waited action side hphase hread hmessages => exact h.congr rfl rfl h.between
  | @failed action side lastError hphase hread hmessages => exact h.congr rfl rfl trivial
  | answered stream handler side put result hphase hwritev =>
    rw [hphase] at hserves
    obtain ⟨e, hserving, -, rfl, hwrote, hread⟩ := hserves
    unfold loopWrote
    split
    · exact h.congr rfl rfl h.between
    · exact h.congr rfl rfl trivial
    · rename_i hrefused
      refine h.congr rfl rfl ?_
      intro e' he'
      rw [hserving] at he'
      obtain rfl := Option.some.inj he'
      rw [hrefused] at hwrote
      exact over_of_refused hwrote
    · exact h.congr rfl rfl trivial
  | @handlerRead action handler stream side messages hphase hread hmessages =>
    rw [hphase] at hserves
    obtain ⟨e, hserving, -, -, hack⟩ := hserves
    have hopen := hturn e hserving
    obtain ⟨hshaped, hanswered, hnumbered, hover, -⟩ := h
    rw [hserving, Option.map_some]
    refine ⟨forall_streams hserving rfl rfl hshaped ?_, forall_streams hserving rfl rfl hanswered id,
      forall_streams hserving rfl rfl hnumbered id, hover, ?_⟩
    · intro he
      rcases StreamEnd.read_one hread hmessages with rfl | ⟨m, rfl⟩
      · show streamWords.Shaped ⟨(e.initFrame :: (e.read ++ [])).map _, _⟩
        rw [List.append_nil]
        exact he
      · show streamWords.Shaped ⟨(e.initFrame :: e.read ++ [m]).map _, _⟩
        rw [List.map_append]
        refine he.say_up hopen (fun _ => ?_) m.said
        obtain ⟨rest, hrest⟩ := hack
        refine ⟨(stream.frame .sendInitAck).said, ?_, rfl⟩
        show (e.wrote.map StreamFrame.said).head? = _
        rw [← hrest]
        rfl
    · show s.phase.BetweenStreams _
      rw [hphase]
      trivial
  | @handlerBegan send handler stream side hphase hsend =>
    rw [hphase] at hserves
    obtain ⟨e, hserving, hstream, -, hack⟩ := hserves
    have hopen := hturn e hserving
    obtain ⟨hshaped, hanswered, hnumbered, hover, -⟩ := h
    have hsaid : (e.wrote ++ [stream.frame send]).map StreamFrame.said =
        e.talk.down ++ [(stream.frame send).said] := List.map_append
    rw [hserving, Option.map_some]
    refine ⟨forall_streams hserving rfl rfl hshaped ?_, forall_streams hserving rfl rfl hanswered ?_,
      forall_streams hserving rfl rfl hnumbered ?_, hover, ?_⟩
    · intro he
      show streamWords.Shaped ⟨_, (e.wrote ++ [stream.frame send]).map _⟩
      rw [hsaid]
      exact he.say_down (List.cons_ne_nil _ _) hopen (stream.frame send).said
    · intro _
      show (e.wrote ++ [stream.frame send]).map StreamFrame.said ≠ []
      rw [hsaid]
      exact List.append_ne_nil_of_right_ne_nil _ (List.cons_ne_nil _ _)
    · intro he
      refine forall_mem_concat he ?_
      rw [stream.frame_streamId, hstream]
    · show s.phase.BetweenStreams _
      rw [hphase]
      trivial
  | handlerWrote handler stream side put result hphase hwritev => exact h.congr rfl rfl h.between
  | handlerGaveUp handler stream side hphase hgive => exact h.congr rfl rfl h.between
  | handlerReturned handler stream hphase => exact h.congr rfl rfl hturn
  | closed lastError hphase => exact h.congr rfl rfl trivial

end StreamServerEnd

/-! ## Both ends -/

/-- The server's stream `e` is the client's stream `c`, as far as each has read it, and every message that
    has been read in it bears its number. -/
structure SameStream (c : StreamSide) (e : ServedStream ζ) : Prop where
  streamId : e.stream.streamId = c.stream.streamId
  heard : List.Forall₂ StreamClient.Carries (e.initFrame :: e.read) (c.wrote.take (e.read.length + 1))
  answered : List.Forall₂ StreamClient.Carries c.read (e.wrote.take c.read.length)
  numbered : ∀ m ∈ c.read, m.streamId = c.stream.streamId
  numbered' : ∀ m ∈ e.read, m.streamId = c.stream.streamId

theorem sameStream_of_talks {server : RpcStreamServer η ζ} {c : StreamSide} {e : ServedStream ζ}
    (hnumbered : ∀ f ∈ c.wrote, f.msg.streamId = c.stream.streamId)
    (hnumbered' : ∀ f ∈ e.wrote, f.msg.streamId = e.stream.streamId)
    (hdispatched : server.dispatch e.initFrame = (e.stream, e.handler))
    (hup : e.talk.up <+: c.talk.up) (hdown : c.talk.down <+: e.talk.down) : SameStream c e := by
  have hheard : List.Forall₂ StreamClient.Carries (e.initFrame :: e.read)
      (c.wrote.take (e.read.length + 1)) := carries_first_iff.mpr hup
  have hanswered := carries_first_iff.mpr hdown
  have hread : ∀ m ∈ e.initFrame :: e.read, m.streamId = c.stream.streamId := by
    intro m hm
    obtain ⟨f, hf, hcarries⟩ := exists_of_forall₂ hheard hm
    exact hcarries.2.1.trans (hnumbered f (List.mem_of_mem_take hf))
  have hstream : e.stream.streamId = c.stream.streamId := by
    have hfound := server.dispatch_streamId e.initFrame
    rw [hdispatched] at hfound
    exact hfound.trans (hread e.initFrame List.mem_cons_self)
  refine ⟨hstream, hheard, hanswered, ?_, fun m hm => hread m (List.mem_cons_of_mem _ hm)⟩
  intro m hm
  obtain ⟨f, hf, hcarries⟩ := exists_of_forall₂ hanswered hm
  exact (hcarries.2.1.trans (hnumbered' f (List.mem_of_mem_take hf))).trans hstream

namespace StreamLink

variable {server : RpcStreamServer η ζ} {l l' : StreamLink ρ ρ' ζ} {room room' : Nat}

/-- What holds between the ends, what they have read and written by their own account, and that each keeps
    its streams apart. -/
structure Apart (server : RpcStreamServer η ζ) (room room' : Nat) (l : StreamLink ρ ρ' ζ) : Prop where
  crossing : l.Crossing room room'
  booked : l.Booked server
  ofClient : l.client.Mannered
  ofServer : l.server.Mannered

theorem Apart.step (h : l.Apart server room room') (hroom : rpcHeaderSize ≤ room)
    (hroom' : rpcHeaderSize ≤ room') {a : StreamLinkAction} (hclean : l.Clean room room' a)
    (hturn : l.InTurn a) (hstep : l.step server a = some l') : l'.Apart server room room' := by
  refine ⟨h.crossing.step hroom hroom' hclean hstep, h.booked.step hstep, ?_, ?_⟩
  · cases a with
    | client action =>
      obtain ⟨⟨client, put⟩, hclient, rfl⟩ := Option.map_eq_some_iff.mp hstep
      exact h.ofClient.step hturn hclient
    | server move =>
      obtain ⟨⟨s, put⟩, hserver, rfl⟩ := Option.map_eq_some_iff.mp hstep
      exact ⟨h.ofClient.shaped, h.ofClient.numbered, h.ofClient.finished⟩
  · cases a with
    | client action =>
      obtain ⟨⟨client, put⟩, hclient, rfl⟩ := Option.map_eq_some_iff.mp hstep
      exact h.ofServer.congr rfl rfl h.ofServer.between
    | server move =>
      obtain ⟨⟨s, put⟩, hserver, rfl⟩ := Option.map_eq_some_iff.mp hstep
      exact h.ofServer.step h.booked.ofServer hturn hserver

theorem apart_start {ring : ρ} {ring' : ρ'} (hempty : RingBuffer.content ring = [])
    (hempty' : RingBuffer.content ring' = []) :
    (start ring ring' : StreamLink ρ ρ' ζ).Apart server (RingBuffer.capacity ring)
      (RingBuffer.capacity ring') :=
  ⟨crossing_start hempty hempty', booked_start ring ring',
    ⟨fun _ hc => absurd hc List.not_mem_nil, fun _ hc => absurd hc List.not_mem_nil,
      fun _ hc => absurd hc List.not_mem_nil⟩,
    ⟨fun _ he => absurd he List.not_mem_nil, fun _ he => absurd he List.not_mem_nil,
      fun _ he => absurd he List.not_mem_nil, fun _ he => absurd he List.not_mem_nil,
      fun _ he => absurd he (Option.not_mem_none _)⟩⟩

/-- The streams of the two ends meet. -/
theorem Apart.met (h : l.Apart server room room') :
    Words.Met (l.client.streams.map StreamSide.talk) (l.server.streams.map ServedStream.talk) := by
  have hup := carries_first_iff.mp h.crossing.toServer.carries
  have hdown := carries_first_iff.mp h.crossing.toClient.carries
  rw [h.booked.ofServer.messages, h.booked.ofClient.begun, List.map_flatMap, List.map_flatMap] at hup
  rw [h.booked.ofClient.messages, h.booked.ofServer.begun, List.map_flatMap, List.map_flatMap] at hdown
  refine Words.meet (v := streamWords) ?_ ?_ ?_ ?_ ?_ ?_ ?_
  · exact List.forall_mem_map.mpr h.ofClient.shaped
  · exact List.forall_mem_map.mpr h.ofServer.shaped
  · exact List.forall_mem_map.mpr h.ofServer.answered
  · rw [← List.map_dropLast]
    refine List.forall_mem_map.mpr fun c hc => h.ofClient.finished c ?_
    unfold StreamClientEnd.streams at hc
    cases hcurrent : l.client.current with
    | none =>
      rw [hcurrent, Option.toList_none, List.append_nil] at hc
      exact List.mem_of_mem_dropLast hc
    | some current =>
      rw [hcurrent, Option.toList_some, List.dropLast_concat] at hc
      exact hc
  · rw [← List.map_dropLast]
    refine List.forall_mem_map.mpr fun e he => h.ofServer.finished e ?_
    unfold StreamServerEnd.streams at he
    cases hserving : l.server.serving with
    | none =>
      rw [hserving, Option.toList_none, List.append_nil] at he
      exact List.mem_of_mem_dropLast he
    | some serving =>
      rw [hserving, Option.toList_some, List.dropLast_concat] at he
      exact he
  · rw [List.flatMap_map, List.flatMap_map]
    exact hup
  · rw [List.flatMap_map, List.flatMap_map]
    exact hdown

/-- **The streams of a connection stay apart.**  In every clean run in which both ends keep to their turns,
    the server is one stream behind the client at most, its stream `i` is the client's stream `i`, with every
    message in it, and what either has left behind has been read by it in full. -/
theorem streams_keep_apart (server : RpcStreamServer η ζ) (ring : ρ) (ring' : ρ')
    (hempty : RingBuffer.content ring = []) (hempty' : RingBuffer.content ring' = [])
    (hroom : rpcHeaderSize ≤ RingBuffer.capacity ring) (hroom' : rpcHeaderSize ≤ RingBuffer.capacity ring')
    {actions : List StreamLinkAction} {l : StreamLink ρ ρ' ζ}
    (hrun : Run (step server)
      (fun l a => l.Clean (RingBuffer.capacity ring) (RingBuffer.capacity ring') a ∧ l.InTurn a)
      (start ring ring') actions l) :
    l.server.streams.length ≤ l.client.streams.length ∧
      l.client.streams.length ≤ l.server.streams.length + 1 ∧
      ∀ i c e, l.client.streams[i]? = some c → l.server.streams[i]? = some e →
        SameStream c e ∧
        (i + 1 < l.client.streams.length → List.Forall₂ StreamClient.Carries c.read e.wrote) ∧
        (i + 1 < l.server.streams.length →
          List.Forall₂ StreamClient.Carries (e.initFrame :: e.read) c.wrote) := by
  have h : l.Apart server (RingBuffer.capacity ring) (RingBuffer.capacity ring') :=
    hrun.invariant (fun _ _ _ h hc hstep => h.step hroom hroom' hc.1 hc.2 hstep)
      (apart_start hempty hempty')
  have hlength := h.met.length
  rw [List.length_map, List.length_map] at hlength
  refine ⟨hlength.1, hlength.2, ?_⟩
  intro i c e hc he
  have hc' : (l.client.streams.map StreamSide.talk)[i]? = some c.talk := by
    rw [List.getElem?_map, hc]
    rfl
  have he' : (l.server.streams.map ServedStream.talk)[i]? = some e.talk := by
    rw [List.getElem?_map, he]
    rfl
  obtain ⟨hup, hdown, hall, hall'⟩ := h.met.get i hc' he'
  rw [List.length_map] at hall hall'
  have hcmem := List.mem_of_getElem? hc
  have hemem := List.mem_of_getElem? he
  exact ⟨sameStream_of_talks (h.ofClient.numbered c hcmem) (h.ofServer.numbered e hemem)
      (h.booked.ofServer.dispatched e hemem) hup hdown,
    fun hlt => carries_all_iff.mpr (hall hlt), fun hlt => carries_all_iff.mpr (hall' hlt)⟩

/-- A stream that is ended from both sides, and behind it one that the server refuses. -/
def twoStreams : List StreamLinkAction :=
  [.client (.createStream 1 [0x45] [0x65]), .client (.send .sendInit), .client (.writev (.accept 22)),
    .server (.test true), .server (.loopReads (.read {})), .server (.loopReads (.readv 22)),
    .server (.loopWrites (.accept 16)), .client (.reading (.read {})), .client (.reading (.readv 16)),
    .client (.send .sendEnd), .client (.writev (.accept 16)), .server (.handlerReads (.read {})),
    .server (.handlerReads (.readv 16)), .server (.handlerSends .sendEnd),
    .server (.handlerWrites (.accept 16)), .client (.reading (.read {})), .client (.reading (.readv 16)),
    .client (.createStream 2 [0x45] [0x66]), .client (.send .sendInit), .client (.writev (.accept 22)),
    .server .handlerReturns, .server (.test true), .server (.loopReads (.read {})),
    .server (.loopReads (.readv 22)), .server (.loopWrites (.accept 16))]

theorem streams_keep_apart_two :
    ∃ l : StreamLink (Circular UInt8) (Circular UInt8) Unit,
      Run (step echoStreamServer) (fun l a => l.Clean 24 24 a ∧ l.InTurn a)
        (start (Circular.empty 24 fun _ => 0) (Circular.empty 24 fun _ => 0)) twoStreams l ∧
      l.server.streams.length = 2 ∧ 2 ≤ l.client.streams.length ∧
      ∀ (i : Nat) c e, l.client.streams[i]? = some c → l.server.streams[i]? = some e → SameStream c e := by
  have hruns : ((runAll (step echoStreamServer) (fun l a => l.Clean 24 24 a ∧ l.InTurn a)
      (start (Circular.empty 24 fun _ => (0 : UInt8)) (Circular.empty 24 fun _ => (0 : UInt8)))
      twoStreams).map fun l => l.server.streams.length) = some 2 := by
    decide +kernel
  obtain ⟨l, hl, hserved⟩ := Option.map_eq_some_iff.mp hruns
  have happart := streams_keep_apart echoStreamServer (Circular.empty 24 fun _ => 0)
    (Circular.empty 24 fun _ => 0) rfl rfl (by decide) (by decide) (run_iff_runAll.mpr hl)
  exact ⟨l, run_iff_runAll.mpr hl, hserved, hserved ▸ happart.1,
    fun i c e hc he => (happart.2.2 i c e hc he).1⟩

end StreamLink

end GalayRpc
