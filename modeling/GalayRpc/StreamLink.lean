/-
  A client and `RpcStreamServer::handleConnection` on the two ends of one connection.

  The client opens streams one after the other and writes and reads in them; the server's loop reads a
  first frame, acknowledges or cancels the stream and runs its handler, again and again.  Each end does one
  operation on its socket at a time, in any order: reading and writing may go on side by side, and fail or
  be given up anywhere.

  * `StreamSide` — what one side has written and read in a stream;
  * `Clean` — no frame is written behind a send that has not put its whole frame, each is well formed and
    fits the ring buffer it is read through, and no read is started behind a header that has lost its read;
  * `Crossing` — each end has read the first frames that the other has begun to write, which every clean
    step keeps;
  * `frames_cross_in_order` — that holds in every clean run.
-/
import GalayRpc.StreamEnd

namespace GalayRpc

variable {ρ ρ' η ζ : Type} [RingBuffer ρ] [RingBuffer ρ']

/-! ## Streams -/

/-- What one side has written and read in a stream. -/
structure StreamSide where
  stream : RpcStream
  wrote : List StreamFrame := []
  read : List StreamMessage := []

/-- The server's side of a stream: the frame its loop has read, and the handler it has found or the error
    it has reported. -/
structure ServedStream (ζ : Type) extends StreamSide where
  initFrame : StreamMessage
  handler : Except RpcError ζ

namespace StreamSide

variable (s : StreamSide)

def writes (frame : StreamFrame) : StreamSide := { s with wrote := s.wrote ++ [frame] }

def reads (messages : List StreamMessage) : StreamSide := { s with read := s.read ++ messages }

end StreamSide

/-! ## The client -/

/-- A client on a connection: the streams it is done with, and the one it is in. -/
structure StreamClientEnd (ρ : Type) where
  side : StreamEnd ρ
  past : List StreamSide := []
  current : Option StreamSide := none

inductive StreamClientAction where
  | createStream (streamId : UInt32) (service method : Bytes)
  | reading (action : ReadAction StreamMessage)
  | send (send : StreamSend)
  | writev (event : WriteEvent)
  | giveUp

namespace StreamClientEnd

variable (s : StreamClientEnd ρ)

/-- All streams, in the order in which they were opened. -/
def streams : List StreamSide := s.past ++ s.current.toList

/-- A step of the client; with it, the bytes it puts on the connection. -/
def step : StreamClientAction → Option (StreamClientEnd ρ × Bytes)
  | .createStream streamId service method =>
    some ({ s with past := s.streams, current := some { stream := ⟨streamId, service, method⟩ } }, [])
  | .reading action =>
    s.current.bind fun c => (s.side.read action).map fun side =>
      ({ s with
        side := side
        current := some (c.reads (side.messages.drop s.side.messages.length)) }, [])
  | .send send =>
    s.current.bind fun c => (s.side.send (c.stream.frame send)).map fun side =>
      ({ s with side := side, current := some (c.writes (c.stream.frame send)) }, [])
  | .writev event => (s.side.writev event).map fun written => ({ s with side := written.1 }, written.2.1)
  | .giveUp => s.side.giveUp.map fun side => ({ s with side := side }, [])

end StreamClientEnd

/-! ## The server -/

/-- `handleConnection`'s socket and locals, the last error it has reported, and the streams it has served. -/
structure StreamServerEnd (ρ ζ : Type) where
  side : StreamEnd ρ
  phase : StreamServerPhase ζ := .testing
  lastError : Option RpcError := none
  past : List (ServedStream ζ) := []
  serving : Option (ServedStream ζ) := none

inductive StreamServerMove where
  | test (running : Bool)
  | loopReads (action : ReadAction StreamMessage)
  | loopWrites (event : WriteEvent)
  | handlerReads (action : ReadAction StreamMessage)
  | handlerSends (send : StreamSend)
  | handlerWrites (event : WriteEvent)
  | handlerGivesUp
  | handlerReturns
  | close (result : Except IOError Unit)

/-- The loop reads into a new message, and gives no read up. -/
def ReadAction.ByLoop : ReadAction StreamMessage → Prop
  | .read message => message = {}
  | .timeout => False
  | _ => True

instance (action : ReadAction StreamMessage) : Decidable action.ByLoop :=
  match action with
  | .read _ => inferInstanceAs (Decidable (_ = _))
  | .timeout => .isFalse id
  | .readv _ => .isTrue trivial
  | .readvFails _ => .isTrue trivial
  | .peerCloses => .isTrue trivial

/-- What the loop answers a frame with. -/
def answerSend (handler : Except RpcError ζ) : StreamSend :=
  match handler with
  | .error _ => .sendCancel
  | .ok _ => .sendInitAck

/-- A coroutine that is at none of its awaits. -/
def StreamEnd.Resumed (s : StreamEnd ρ) : Prop :=
  match s.conn.reader, s.writer with
  | .idle _, .idle => True
  | .idle _, .torn _ => True
  | _, _ => False

instance (s : StreamEnd ρ) : Decidable s.Resumed := by
  unfold StreamEnd.Resumed
  split
  all_goals infer_instance

namespace StreamServerEnd

variable (server : RpcStreamServer η ζ) (s : StreamServerEnd ρ ζ)

def streams : List (ServedStream ζ) := s.past ++ s.serving.toList

/-- What follows a read of the loop that has completed with `initFrame`, up to the next `co_await`. -/
def answer (initFrame : StreamMessage) : Option (StreamServerEnd ρ ζ) :=
  let found := server.dispatch initFrame
  let frame := found.1.frame (answerSend found.2)
  (s.side.send frame).map fun side => { s with
    side := side
    phase := .answering found.1 found.2
    lastError := match found.2 with
      | .error e => some e
      | .ok _ => s.lastError
    past := s.streams
    serving := some { stream := found.1, wrote := [frame], initFrame := initFrame, handler := found.2 } }

/-- A completion of the loop's read. -/
def loopRead (action : ReadAction StreamMessage) : Option (StreamServerEnd ρ ζ) :=
  (s.side.read action).bind fun side =>
    match side.messages.drop s.side.messages.length, side.conn.reader with
    | initFrame :: _, _ => { s with side := side }.answer server initFrame
    | [], .suspended _ _ _ => some { s with side := side }
    | [], .idle _ =>
      some { s with
        side := side
        lastError := s.side.conn.failure streamMessageReadState action
        phase := .closing }

/-- What follows a `writev` of the loop's answer. -/
def loopWrote (stream : RpcStream) (handler : Except RpcError ζ) (side : StreamEnd ρ)
    (result : Option RpcAwaitableResult) : StreamServerEnd ρ ζ :=
  match result, handler with
  | none, _ => { s with side := side }
  | some (.error e), _ => { s with side := side, lastError := some e, phase := .closing }
  | some (.ok _), .error _ => { s with side := side, phase := .testing }
  | some (.ok _), .ok handler => { s with side := side, phase := .handling handler stream }

/-- A step of the server; with it, the bytes it puts on the connection. -/
def step (move : StreamServerMove) : Option (StreamServerEnd ρ ζ × Bytes) :=
  match s.phase, move with
  | .testing, .test running => some ({ s with phase := if running then .reading else .closing }, [])
  | .reading, .loopReads action =>
    if action.ByLoop then (s.loopRead server action).map fun s' => (s', []) else none
  | .answering stream handler, .loopWrites event =>
    (s.side.writev event).map fun written =>
      (s.loopWrote stream handler written.1 written.2.2, written.2.1)
  | .handling _ _, .handlerReads action =>
    (s.side.read action).map fun side =>
      let messages := side.messages.drop s.side.messages.length
      ({ s with
        side := side
        serving := s.serving.map fun e => { e with toStreamSide := e.reads messages } }, [])
  | .handling _ stream, .handlerSends send =>
    (s.side.send (stream.frame send)).map fun side =>
      ({ s with
        side := side
        serving := s.serving.map fun e =>
          { e with toStreamSide := e.writes (stream.frame send) } }, [])
  | .handling _ _, .handlerWrites event =>
    (s.side.writev event).map fun written => ({ s with side := written.1 }, written.2.1)
  | .handling _ _, .handlerGivesUp => s.side.giveUp.map fun side => ({ s with side := side }, [])
  | .handling _ _, .handlerReturns => if s.side.Resumed then some ({ s with phase := .testing }, []) else none
  | .closing, .close result =>
    some ({ s with
      lastError := match result with
        | .error e => some (.fromIOError e .internalError)
        | .ok _ => s.lastError
      phase := .ended }, [])
  | _, _ => none

end StreamServerEnd

/-! ## Both ends -/

/-- A client and a server on one connection. -/
structure StreamLink (ρ ρ' ζ : Type) where
  client : StreamClientEnd ρ
  server : StreamServerEnd ρ' ζ

inductive StreamLinkAction where
  | client (action : StreamClientAction)
  | server (move : StreamServerMove)

namespace StreamLink

/-- A client that has just connected to a server that has just accepted. -/
def start (ring : ρ) (ring' : ρ') : StreamLink ρ ρ' ζ := ⟨{ side := .start ring }, { side := .start ring' }⟩

/-- A step of either end; the bytes it puts on the connection come in at the other. -/
def step (server : RpcStreamServer η ζ) (l : StreamLink ρ ρ' ζ) :
    StreamLinkAction → Option (StreamLink ρ ρ' ζ)
  | .client action =>
    (l.client.step action).map fun stepped =>
      ⟨stepped.1, { l.server with side := l.server.side.arrive stepped.2 }⟩
  | .server move =>
    (l.server.step server move).map fun stepped =>
      ⟨{ l.client with side := l.client.side.arrive stepped.2 }, stepped.1⟩

end StreamLink

/-! ## What a step does -/

namespace StreamClientEnd

/-- The steps of the client. -/
inductive Stepped (s : StreamClientEnd ρ) : StreamClientAction → StreamClientEnd ρ → Bytes → Prop
  | created (streamId : UInt32) (service method : Bytes) :
      Stepped s (.createStream streamId service method)
        { s with past := s.streams, current := some { stream := ⟨streamId, service, method⟩ } } []
  | read (c : StreamSide) {action : ReadAction StreamMessage} (side : StreamEnd ρ)
      (messages : List StreamMessage) (hcurrent : s.current = some c)
      (hread : s.side.read action = some side)
      (hmessages : side.messages = s.side.messages ++ messages) :
      Stepped s (.reading action) { s with side := side, current := some (c.reads messages) } []
  | began (c : StreamSide) {send : StreamSend} (side : StreamEnd ρ) (hcurrent : s.current = some c)
      (hsend : s.side.send (c.stream.frame send) = some side) :
      Stepped s (.send send) { s with side := side, current := some (c.writes (c.stream.frame send)) } []
  | wrote {event : WriteEvent} (side : StreamEnd ρ) (put : Bytes) (result : Option RpcAwaitableResult)
      (hwritev : s.side.writev event = some (side, put, result)) :
      Stepped s (.writev event) { s with side := side } put
  | gaveUp (side : StreamEnd ρ) (hgive : s.side.giveUp = some side) :
      Stepped s .giveUp { s with side := side } []

theorem stepped {s s' : StreamClientEnd ρ} {action : StreamClientAction} {put : Bytes}
    (h : s.step action = some (s', put)) : Stepped s action s' put := by
  cases action with
  | createStream streamId service method =>
    obtain ⟨rfl, rfl⟩ := Prod.mk.inj (Option.some.inj h)
    exact .created streamId service method
  | reading action =>
    obtain ⟨c, hcurrent, h⟩ := Option.bind_eq_some_iff.mp h
    obtain ⟨side, hread, h⟩ := Option.map_eq_some_iff.mp h
    obtain ⟨rfl, rfl⟩ := Prod.mk.inj h
    exact .read c side _ hcurrent hread (StreamEnd.messages_append hread)
  | send send =>
    obtain ⟨c, hcurrent, h⟩ := Option.bind_eq_some_iff.mp h
    obtain ⟨side, hsend, h⟩ := Option.map_eq_some_iff.mp h
    obtain ⟨rfl, rfl⟩ := Prod.mk.inj h
    exact .began c side hcurrent hsend
  | writev event =>
    obtain ⟨⟨side, put', result⟩, hwritev, h⟩ := Option.map_eq_some_iff.mp h
    obtain ⟨rfl, rfl⟩ := Prod.mk.inj h
    exact .wrote side put' result hwritev
  | giveUp =>
    obtain ⟨side, hgive, h⟩ := Option.map_eq_some_iff.mp h
    obtain ⟨rfl, rfl⟩ := Prod.mk.inj h
    exact .gaveUp side hgive

end StreamClientEnd

namespace StreamServerEnd

/-- The stream a frame opens that the loop has read. -/
def opened (server : RpcStreamServer η ζ) (initFrame : StreamMessage) : ServedStream ζ :=
  let found := server.dispatch initFrame
  { stream := found.1
    wrote := [found.1.frame (answerSend found.2)]
    initFrame := initFrame
    handler := found.2 }

/-- The steps of the server. -/
inductive Stepped (server : RpcStreamServer η ζ) (s : StreamServerEnd ρ ζ) :
    StreamServerMove → StreamServerEnd ρ ζ → Bytes → Prop
  | tested (running : Bool) (hphase : s.phase = .testing) :
      Stepped server s (.test running) { s with phase := if running then .reading else .closing } []
  | received {action : ReadAction StreamMessage} (side side' : StreamEnd ρ) (initFrame : StreamMessage)
      (lastError : Option RpcError) (hphase : s.phase = .reading)
      (hread : s.side.read action = some side)
      (hmessages : side.messages = s.side.messages ++ [initFrame])
      (hsend : side.send ((server.dispatch initFrame).1.frame (answerSend (server.dispatch initFrame).2)) =
        some side') :
      Stepped server s (.loopReads action) { s with
        side := side'
        phase := .answering (server.dispatch initFrame).1 (server.dispatch initFrame).2
        lastError := lastError
        past := s.streams
        serving := some (opened server initFrame) } []
  | waited {action : ReadAction StreamMessage} (side : StreamEnd ρ) (hphase : s.phase = .reading)
      (hread : s.side.read action = some side) (hmessages : side.messages = s.side.messages) :
      Stepped server s (.loopReads action) { s with side := side } []
  | failed {action : ReadAction StreamMessage} (side : StreamEnd ρ) (lastError : Option RpcError)
      (hphase : s.phase = .reading) (hread : s.side.read action = some side)
      (hmessages : side.messages = s.side.messages) :
      Stepped server s (.loopReads action)
        { s with side := side, lastError := lastError, phase := .closing } []
  | answered {event : WriteEvent} (stream : RpcStream) (handler : Except RpcError ζ) (side : StreamEnd ρ)
      (put : Bytes) (result : Option RpcAwaitableResult) (hphase : s.phase = .answering stream handler)
      (hwritev : s.side.writev event = some (side, put, result)) :
      Stepped server s (.loopWrites event) (s.loopWrote stream handler side result) put
  | handlerRead {action : ReadAction StreamMessage} (handler : ζ) (stream : RpcStream) (side : StreamEnd ρ)
      (messages : List StreamMessage) (hphase : s.phase = .handling handler stream)
      (hread : s.side.read action = some side)
      (hmessages : side.messages = s.side.messages ++ messages) :
      Stepped server s (.handlerReads action) { s with
        side := side
        serving := s.serving.map fun e => { e with toStreamSide := e.reads messages } } []
  | handlerBegan {send : StreamSend} (handler : ζ) (stream : RpcStream) (side : StreamEnd ρ)
      (hphase : s.phase = .handling handler stream)
      (hsend : s.side.send (stream.frame send) = some side) :
      Stepped server s (.handlerSends send) { s with
        side := side
        serving := s.serving.map fun e =>
          { e with toStreamSide := e.writes (stream.frame send) } } []
  | handlerWrote {event : WriteEvent} (handler : ζ) (stream : RpcStream) (side : StreamEnd ρ) (put : Bytes)
      (result : Option RpcAwaitableResult) (hphase : s.phase = .handling handler stream)
      (hwritev : s.side.writev event = some (side, put, result)) :
      Stepped server s (.handlerWrites event) { s with side := side } put
  | handlerGaveUp (handler : ζ) (stream : RpcStream) (side : StreamEnd ρ)
      (hphase : s.phase = .handling handler stream) (hgive : s.side.giveUp = some side) :
      Stepped server s .handlerGivesUp { s with side := side } []
  | handlerReturned (handler : ζ) (stream : RpcStream) (hphase : s.phase = .handling handler stream) :
      Stepped server s .handlerReturns { s with phase := .testing } []
  | closed {result : Except IOError Unit} (lastError : Option RpcError) (hphase : s.phase = .closing) :
      Stepped server s (.close result) { s with lastError := lastError, phase := .ended } []

theorem stepped {server : RpcStreamServer η ζ} {s s' : StreamServerEnd ρ ζ} {move : StreamServerMove}
    {put : Bytes} (h : s.step server move = some (s', put)) : Stepped server s move s' put := by
  unfold step at h
  split at h
  · rename_i running hphase
    obtain ⟨rfl, rfl⟩ := Prod.mk.inj (Option.some.inj h)
    exact .tested running hphase
  · -- the loop reads
    rename_i action hphase
    simp only [Option.ite_none_right_eq_some] at h
    obtain ⟨-, h⟩ := h
    obtain ⟨s₁, hloop, h⟩ := Option.map_eq_some_iff.mp h
    obtain ⟨rfl, rfl⟩ := Prod.mk.inj h
    obtain ⟨side, hread, hloop⟩ := Option.bind_eq_some_iff.mp hloop
    have hadded := StreamEnd.messages_append hread
    split at hloop
    · rename_i initFrame rest hnew
      obtain ⟨side', hsend, rfl⟩ := Option.map_eq_some_iff.mp hloop
      have hone : rest = [] := by
        rw [hnew] at hadded
        rcases StreamEnd.messages_of_read hread with hsame | ⟨m, hm⟩
        · rw [hsame] at hadded
          exact absurd (List.append_right_eq_self.mp hadded.symm) (List.cons_ne_nil _ _)
        · rw [hm] at hadded
          exact (List.cons.inj (List.append_cancel_left hadded)).2.symm
      rw [hone] at hnew
      rw [hnew] at hadded
      exact .received side side' initFrame _ hphase hread hadded hsend
    · rename_i machine object received hnew hsuspended
      obtain rfl := Option.some.inj hloop
      rw [hnew, List.append_nil] at hadded
      exact .waited side hphase hread hadded
    · rename_i hnew hidle
      obtain rfl := Option.some.inj hloop
      rw [hnew, List.append_nil] at hadded
      exact .failed side _ hphase hread hadded
  · rename_i stream handler event hphase
    obtain ⟨⟨side, put', result⟩, hwritev, h⟩ := Option.map_eq_some_iff.mp h
    obtain ⟨rfl, rfl⟩ := Prod.mk.inj h
    exact .answered stream handler side put' result hphase hwritev
  · rename_i handler stream action hphase
    obtain ⟨side, hread, h⟩ := Option.map_eq_some_iff.mp h
    obtain ⟨rfl, rfl⟩ := Prod.mk.inj h
    exact .handlerRead handler stream side _ hphase hread (StreamEnd.messages_append hread)
  · rename_i handler stream send hphase
    obtain ⟨side, hsend, h⟩ := Option.map_eq_some_iff.mp h
    obtain ⟨rfl, rfl⟩ := Prod.mk.inj h
    exact .handlerBegan handler stream side hphase hsend
  · rename_i handler stream event hphase
    obtain ⟨⟨side, put', result⟩, hwritev, h⟩ := Option.map_eq_some_iff.mp h
    obtain ⟨rfl, rfl⟩ := Prod.mk.inj h
    exact .handlerWrote handler stream side put' result hphase hwritev
  · rename_i handler stream hphase
    obtain ⟨side, hgive, h⟩ := Option.map_eq_some_iff.mp h
    obtain ⟨rfl, rfl⟩ := Prod.mk.inj h
    exact .handlerGaveUp handler stream side hphase hgive
  · rename_i handler stream hphase
    simp only [Option.ite_none_right_eq_some, Option.some.injEq, Prod.mk.injEq] at h
    obtain ⟨-, rfl, rfl⟩ := h
    exact .handlerReturned handler stream hphase
  · rename_i result hphase
    obtain ⟨rfl, rfl⟩ := Prod.mk.inj (Option.some.inj h)
    exact .closed _ hphase
  · cases h

end StreamServerEnd

/-! ## Every run -/

/-- An answer of the loop has no payload. -/
theorem answer_fits (capacity : Nat) (stream : RpcStream) (handler : Except RpcError ζ) :
    (stream.frame (answerSend handler)).Fits capacity := by
  cases handler with
  | error e => exact ⟨nofun, Nat.zero_le _⟩
  | ok handler => exact ⟨nofun, Nat.zero_le _⟩

namespace StreamLink

/-- What the users of both ends are held to.

    * A send begins only if the last send of the same end has put its whole frame on the connection.  One
      that has failed or was given up before its last byte, and be it before its first, bars all later
      sends of its end; so does one of a handler the answer of the loop behind it.
    * The frame of a send is one the format can express, and the ring buffer of the other end can hold it.
    * A read begins only if no earlier read of the same end has ended behind the header of a frame without
      the frame. -/
def Clean (room room' : Nat) (l : StreamLink ρ ρ' ζ) : StreamLinkAction → Prop
  | .client (.send send) =>
    l.client.side.writer.isIdle = true ∧ ∀ c ∈ l.client.current, (c.stream.frame send).Fits room'
  | .client (.reading action) => action.Starts → l.client.side.lost = false
  | .server (.handlerSends send) =>
    l.server.side.writer.isIdle = true ∧
      match l.server.phase with
      | .handling _ stream => (stream.frame send).Fits room
      | _ => True
  | .server (.handlerReads action) => action.Starts → l.server.side.lost = false
  | .server (.loopReads action) =>
    -- a frame that is read is answered in the same step
    (action.Starts → l.server.side.lost = false) ∧
      ∀ side ∈ l.server.side.read action, l.server.side.messages.length < side.messages.length →
        l.server.side.writer.isIdle = true
  | _ => True

instance (room room' : Nat) (l : StreamLink ρ ρ' ζ) (a : StreamLinkAction) :
    Decidable (l.Clean room room' a) := by
  unfold Clean
  split
  · infer_instance
  · infer_instance
  · split
    · infer_instance
    · infer_instance
  all_goals infer_instance

/-- **The invariant**: each end has read the first frames that the other has begun to write. -/
structure Crossing (room room' : Nat) (l : StreamLink ρ ρ' ζ) : Prop where
  toServer : Carried room' l.client.side l.server.side
  toClient : Carried room l.server.side l.client.side

variable {server : RpcStreamServer η ζ} {l l' : StreamLink ρ ρ' ζ} {room room' : Nat}

/-- A step of the client. -/
theorem Crossing.client_step (h : l.Crossing room room') (hroom : rpcHeaderSize ≤ room)
    {action : StreamClientAction} (hclean : l.Clean room room' (.client action))
    {client : StreamClientEnd ρ} {put : Bytes} (hstep : l.client.step action = some (client, put)) :
    Crossing room room' ⟨client, { l.server with side := l.server.side.arrive put }⟩ := by
  cases StreamClientEnd.stepped hstep with
  | created streamId service method =>
    rw [StreamEnd.arrive_nil]
    exact ⟨h.toServer, h.toClient⟩
  | @read c action side messages hcurrent hread hmessages =>
    obtain ⟨hbegun, hwriter⟩ := StreamEnd.kept_of_read hread
    rw [StreamEnd.arrive_nil]
    exact ⟨h.toServer.congr hbegun hwriter rfl rfl, h.toClient.read hroom hclean hread⟩
  | @began c send side hcurrent hsend =>
    obtain ⟨hconn, hlost, -⟩ := StreamEnd.kept_of_send hsend
    rw [StreamEnd.arrive_nil]
    exact ⟨h.toServer.send (StreamWriter.eq_idle hclean.1) (hclean.2 c hcurrent) hsend,
      h.toClient.congr rfl rfl hconn hlost⟩
  | wrote side put result hwritev =>
    obtain ⟨hconn, hlost, -⟩ := StreamEnd.kept_of_writev hwritev
    exact ⟨h.toServer.writev hwritev, h.toClient.congr rfl rfl hconn hlost⟩
  | gaveUp side hgive =>
    obtain ⟨hconn, hlost, -⟩ := StreamEnd.kept_of_giveUp hgive
    rw [StreamEnd.arrive_nil]
    exact ⟨h.toServer.giveUp hgive, h.toClient.congr rfl rfl hconn hlost⟩

/-- A step of the server. -/
theorem Crossing.server_step (h : l.Crossing room room') (hroom' : rpcHeaderSize ≤ room')
    {move : StreamServerMove} (hclean : l.Clean room room' (.server move))
    {s : StreamServerEnd ρ' ζ} {put : Bytes} (hstep : l.server.step server move = some (s, put)) :
    Crossing room room' ⟨{ l.client with side := l.client.side.arrive put }, s⟩ := by
  cases StreamServerEnd.stepped hstep with
  | tested running hphase =>
    rw [StreamEnd.arrive_nil]
    exact ⟨h.toServer, h.toClient⟩
  | @received action side side' initFrame lastError hphase hread hmessages hsend =>
    obtain ⟨hstart, hwrites⟩ := hclean
    obtain ⟨hbegun, hwriter⟩ := StreamEnd.kept_of_read hread
    obtain ⟨hconn, hlost, -⟩ := StreamEnd.kept_of_send hsend
    have hidle : l.server.side.writer = .idle := by
      apply StreamWriter.eq_idle
      apply hwrites side hread
      rw [hmessages, List.length_append, List.length_singleton]
      omega
    -- the frame is read, and its answer begins
    have hread' := h.toServer.read hroom' hstart hread
    have hsent := (h.toClient.congr hbegun hwriter rfl rfl).send (hwriter.trans hidle)
      (answer_fits _ _ _) hsend
    rw [StreamEnd.arrive_nil]
    exact ⟨hread'.congr rfl rfl hconn hlost, hsent⟩
  | @waited action side hphase hread hmessages =>
    obtain ⟨hbegun, hwriter⟩ := StreamEnd.kept_of_read hread
    rw [StreamEnd.arrive_nil]
    exact ⟨h.toServer.read hroom' hclean.1 hread, h.toClient.congr hbegun hwriter rfl rfl⟩
  | @failed action side lastError hphase hread hmessages =>
    obtain ⟨hbegun, hwriter⟩ := StreamEnd.kept_of_read hread
    rw [StreamEnd.arrive_nil]
    exact ⟨h.toServer.read hroom' hclean.1 hread, h.toClient.congr hbegun hwriter rfl rfl⟩
  | answered stream handler side put result hphase hwritev =>
    obtain ⟨hconn, hlost, -⟩ := StreamEnd.kept_of_writev hwritev
    have hside : (l.server.loopWrote stream handler side result).side = side := by
      unfold StreamServerEnd.loopWrote
      split
      all_goals rfl
    constructor
    · refine h.toServer.congr rfl rfl ?_ ?_
      · exact (congrArg StreamEnd.conn hside).trans hconn
      · exact (congrArg StreamEnd.lost hside).trans hlost
    · rw [hside]
      exact h.toClient.writev hwritev
  | @handlerRead action handler stream side messages hphase hread hmessages =>
    obtain ⟨hbegun, hwriter⟩ := StreamEnd.kept_of_read hread
    rw [StreamEnd.arrive_nil]
    exact ⟨h.toServer.read hroom' hclean hread, h.toClient.congr hbegun hwriter rfl rfl⟩
  | @handlerBegan send handler stream side hphase hsend =>
    obtain ⟨hconn, hlost, -⟩ := StreamEnd.kept_of_send hsend
    have hclean : l.server.side.writer.isIdle = true ∧
        match l.server.phase with
        | .handling _ stream => (stream.frame send).Fits room
        | _ => True := hclean
    rw [hphase] at hclean
    rw [StreamEnd.arrive_nil]
    exact ⟨h.toServer.congr rfl rfl hconn hlost,
      h.toClient.send (StreamWriter.eq_idle hclean.1) hclean.2 hsend⟩
  | handlerWrote handler stream side put result hphase hwritev =>
    obtain ⟨hconn, hlost, -⟩ := StreamEnd.kept_of_writev hwritev
    exact ⟨h.toServer.congr rfl rfl hconn hlost, h.toClient.writev hwritev⟩
  | handlerGaveUp handler stream side hphase hgive =>
    obtain ⟨hconn, hlost, -⟩ := StreamEnd.kept_of_giveUp hgive
    rw [StreamEnd.arrive_nil]
    exact ⟨h.toServer.congr rfl rfl hconn hlost, h.toClient.giveUp hgive⟩
  | handlerReturned handler stream hphase =>
    rw [StreamEnd.arrive_nil]
    exact ⟨h.toServer, h.toClient⟩
  | closed lastError hphase =>
    rw [StreamEnd.arrive_nil]
    exact ⟨h.toServer, h.toClient⟩

/-- **Every step of either end.** -/
theorem Crossing.step (h : l.Crossing room room') (hroom : rpcHeaderSize ≤ room)
    (hroom' : rpcHeaderSize ≤ room') {a : StreamLinkAction} (hclean : l.Clean room room' a)
    (hstep : l.step server a = some l') : l'.Crossing room room' := by
  cases a with
  | client action =>
    obtain ⟨⟨client, put⟩, hclient, rfl⟩ := Option.map_eq_some_iff.mp hstep
    exact h.client_step hroom hclean hclient
  | server move =>
    obtain ⟨⟨s, put⟩, hserver, rfl⟩ := Option.map_eq_some_iff.mp hstep
    exact h.server_step hroom' hclean hserver

end StreamLink

/-! ## The streams -/

/-- The client's streams account for all that it has begun to write and all that it has read. -/
structure StreamClientEnd.Booked (s : StreamClientEnd ρ) : Prop where
  begun : s.side.begun = s.streams.flatMap (·.wrote)
  messages : s.side.messages = s.streams.flatMap (·.read)

namespace StreamClientEnd

variable {s s' : StreamClientEnd ρ}

omit [RingBuffer ρ] in
theorem streams_of_current {c : StreamSide} (h : s.current = some c) : s.streams = s.past ++ [c] := by
  unfold streams
  rw [h]
  rfl

omit [RingBuffer ρ] in
/-- The stream the client is in goes on. -/
theorem forall_streams {P : StreamSide → Prop} {c c' : StreamSide} (hcurrent : s.current = some c)
    (hcurrent' : s'.current = some c') (hpast : s'.past = s.past) (h : ∀ d ∈ s.streams, P d)
    (hP : P c → P c') : ∀ d ∈ s'.streams, P d := by
  rw [streams_of_current hcurrent] at h
  rw [streams_of_current hcurrent', hpast]
  exact forall_mem_concat (fun d hd => h d (List.mem_append_left _ hd))
    (hP (h c (List.mem_append_right _ List.mem_cons_self)))

theorem Booked.step (h : s.Booked) {action : StreamClientAction} {put : Bytes}
    (hstep : s.step action = some (s', put)) : s'.Booked := by
  obtain ⟨hbegun, hmsgs⟩ := h
  cases stepped hstep with
  | created streamId service method =>
    constructor
    · show s.side.begun = (s.streams ++ [_]).flatMap _
      rw [List.flatMap_append, ← hbegun]
      exact (List.append_nil _).symm
    · show s.side.messages = (s.streams ++ [_]).flatMap _
      rw [List.flatMap_append, ← hmsgs]
      exact (List.append_nil _).symm
  | @read c action side messages hcurrent hread hmessages =>
    obtain ⟨hkept, -⟩ := StreamEnd.kept_of_read hread
    rw [streams_of_current hcurrent, List.flatMap_append, List.flatMap_singleton] at hbegun hmsgs
    constructor
    · show side.begun = (s.past ++ [c.reads messages]).flatMap _
      rw [hkept, hbegun, List.flatMap_append, List.flatMap_singleton]
      rfl
    · show side.messages = (s.past ++ [c.reads messages]).flatMap _
      rw [hmessages, hmsgs, List.flatMap_append, List.flatMap_singleton, List.append_assoc]
      rfl
  | @began c send side hcurrent hsend =>
    obtain ⟨hconn, -, hadded⟩ := StreamEnd.kept_of_send hsend
    rw [streams_of_current hcurrent, List.flatMap_append, List.flatMap_singleton] at hbegun hmsgs
    constructor
    · show side.begun = (s.past ++ [c.writes (c.stream.frame send)]).flatMap _
      rw [hadded, hbegun, List.flatMap_append, List.flatMap_singleton, List.append_assoc]
      rfl
    · show side.messages = (s.past ++ [c.writes (c.stream.frame send)]).flatMap _
      rw [StreamEnd.messages, hconn, List.flatMap_append, List.flatMap_singleton]
      exact hmsgs
  | wrote side put result hwritev =>
    obtain ⟨hconn, -, hkept⟩ := StreamEnd.kept_of_writev hwritev
    refine ⟨hkept.trans hbegun, ?_⟩
    show side.messages = s.streams.flatMap _
    rw [StreamEnd.messages, hconn]
    exact hmsgs
  | gaveUp side hgive =>
    obtain ⟨hconn, -, hkept⟩ := StreamEnd.kept_of_giveUp hgive
    refine ⟨hkept.trans hbegun, ?_⟩
    show side.messages = s.streams.flatMap _
    rw [StreamEnd.messages, hconn]
    exact hmsgs

end StreamClientEnd

/-- The stream that a phase of the loop is about. -/
def StreamServerPhase.Serves (serving : Option (ServedStream ζ)) : StreamServerPhase ζ → Prop
  | .answering stream handler =>
    ∃ e, serving = some e ∧ e.stream = stream ∧ e.handler = handler ∧
      e.wrote = [stream.frame (answerSend handler)] ∧ e.read = []
  | .handling handler stream =>
    ∃ e, serving = some e ∧ e.stream = stream ∧ e.handler = .ok handler ∧
      [stream.frame .sendInitAck] <+: e.wrote
  | _ => True

/-- The server's streams account for all that it has begun to write and all that it has read, and each is
    what its first frame calls for. -/
structure StreamServerEnd.Booked (server : RpcStreamServer η ζ) (s : StreamServerEnd ρ ζ) : Prop where
  begun : s.side.begun = s.streams.flatMap (·.wrote)
  messages : s.side.messages = s.streams.flatMap fun e => e.initFrame :: e.read
  dispatched : ∀ e ∈ s.streams, server.dispatch e.initFrame = (e.stream, e.handler)
  serves : s.phase.Serves s.serving

namespace StreamServerEnd

variable {server : RpcStreamServer η ζ} {s s' : StreamServerEnd ρ ζ}

omit [RingBuffer ρ] in
theorem streams_of_serving {e : ServedStream ζ} (h : s.serving = some e) : s.streams = s.past ++ [e] := by
  unfold streams
  rw [h]
  rfl

omit [RingBuffer ρ] in
/-- The stream in service goes on. -/
theorem forall_streams {P : ServedStream ζ → Prop} {e e' : ServedStream ζ} (hserving : s.serving = some e)
    (hserving' : s'.serving = some e') (hpast : s'.past = s.past) (h : ∀ d ∈ s.streams, P d)
    (hP : P e → P e') : ∀ d ∈ s'.streams, P d := by
  rw [streams_of_serving hserving] at h
  rw [streams_of_serving hserving', hpast]
  exact forall_mem_concat (fun d hd => h d (List.mem_append_left _ hd))
    (hP (h e (List.mem_append_right _ List.mem_cons_self)))

omit [RingBuffer ρ] in
/-- Nothing is read or written. -/
theorem Booked.congr (h : s.Booked server) (hbegun : s'.side.begun = s.side.begun)
    (hmessages : s'.side.messages = s.side.messages) (hpast : s'.past = s.past)
    (hserving : s'.serving = s.serving) (hserves : s'.phase.Serves s.serving) : s'.Booked server := by
  have hstreams : s'.streams = s.streams := by
    unfold streams
    rw [hpast, hserving]
  constructor
  · rw [hbegun, hstreams, h.begun]
  · rw [hmessages, hstreams, h.messages]
  · rw [hstreams]
    exact h.dispatched
  · rw [hserving]
    exact hserves

omit [RingBuffer ρ] in
theorem messages_of_conn {side side' : StreamEnd ρ} (h : side'.conn = side.conn) :
    side'.messages = side.messages :=
  congrArg (fun conn => conn.delivered.map Prod.snd) h

theorem Booked.step (h : s.Booked server) {move : StreamServerMove} {put : Bytes}
    (hstep : s.step server move = some (s', put)) : s'.Booked server := by
  have hserves := h.serves
  cases stepped hstep with
  | tested running hphase =>
    refine h.congr rfl rfl rfl rfl ?_
    cases running with
    | true => trivial
    | false => trivial
  | @received action side side' initFrame lastError hphase hread hmessages hsend =>
    obtain ⟨hkept, -⟩ := StreamEnd.kept_of_read hread
    obtain ⟨hconn, -, hadded⟩ := StreamEnd.kept_of_send hsend
    constructor
    · show side'.begun = (s.streams ++ [opened server initFrame]).flatMap _
      rw [hadded, hkept, h.begun, List.flatMap_append, List.flatMap_singleton]
      rfl
    · show side'.messages = (s.streams ++ [opened server initFrame]).flatMap _
      rw [messages_of_conn hconn, hmessages, h.messages, List.flatMap_append, List.flatMap_singleton]
      rfl
    · exact forall_mem_concat h.dispatched rfl
    · exact ⟨_, rfl, rfl, rfl, rfl, rfl⟩
  | @waited action side hphase hread hmessages =>
    exact h.congr (StreamEnd.kept_of_read hread).1 hmessages rfl rfl hserves
  | @failed action side lastError hphase hread hmessages =>
    exact h.congr (StreamEnd.kept_of_read hread).1 hmessages rfl rfl trivial
  | answered stream handler side put result hphase hwritev =>
    rw [hphase] at hserves
    obtain ⟨hconn, -, hkept⟩ := StreamEnd.kept_of_writev hwritev
    unfold loopWrote
    split
    · refine h.congr hkept (messages_of_conn hconn) rfl rfl ?_
      show s.phase.Serves s.serving
      exact h.serves
    · exact h.congr hkept (messages_of_conn hconn) rfl rfl trivial
    · exact h.congr hkept (messages_of_conn hconn) rfl rfl trivial
    · obtain ⟨e, hserving, hstream, hhandler, hwrote, -⟩ := hserves
      exact h.congr hkept (messages_of_conn hconn) rfl rfl
        ⟨e, hserving, hstream, hhandler, hwrote ▸ List.prefix_rfl⟩
  | @handlerRead action handler stream side messages hphase hread hmessages =>
    rw [hphase] at hserves
    obtain ⟨e, hserving, hstream, hhandler, hack⟩ := hserves
    obtain ⟨hkept, -⟩ := StreamEnd.kept_of_read hread
    obtain ⟨hbegun, hmsgs, hdispatched, -⟩ := h
    rw [streams_of_serving hserving, List.flatMap_append, List.flatMap_singleton] at hbegun hmsgs
    have hstreams := streams_of_serving (s := { s with
      side := side
      serving := some { e with toStreamSide := e.reads messages } }) rfl
    rw [hserving]
    constructor
    · rw [Option.map_some, hstreams, List.flatMap_append, List.flatMap_singleton]
      exact hkept.trans hbegun
    · rw [Option.map_some, hstreams, List.flatMap_append, List.flatMap_singleton]
      show side.messages = _ ++ (e.initFrame :: (e.read ++ messages))
      rw [hmessages, hmsgs, List.append_assoc]
      rfl
    · exact forall_streams hserving rfl rfl hdispatched id
    · show s.phase.Serves _
      rw [hphase]
      exact ⟨_, rfl, hstream, hhandler, hack⟩
  | @handlerBegan send handler stream side hphase hsend =>
    rw [hphase] at hserves
    obtain ⟨e, hserving, hstream, hhandler, hack⟩ := hserves
    obtain ⟨hconn, -, hadded⟩ := StreamEnd.kept_of_send hsend
    obtain ⟨hbegun, hmsgs, hdispatched, -⟩ := h
    rw [streams_of_serving hserving, List.flatMap_append, List.flatMap_singleton] at hbegun hmsgs
    have hstreams := streams_of_serving (s := { s with
      side := side
      serving := some { e with toStreamSide := e.writes (stream.frame send) } }) rfl
    rw [hserving]
    constructor
    · rw [Option.map_some, hstreams, List.flatMap_append, List.flatMap_singleton]
      show side.begun = _ ++ (e.wrote ++ [stream.frame send])
      rw [hadded, hbegun, List.append_assoc]
    · rw [Option.map_some, hstreams, List.flatMap_append, List.flatMap_singleton]
      exact (messages_of_conn hconn).trans hmsgs
    · exact forall_streams hserving rfl rfl hdispatched id
    · show s.phase.Serves _
      rw [hphase]
      exact ⟨_, rfl, hstream, hhandler, hack.trans (List.prefix_append _ _)⟩
  | handlerWrote handler stream side put result hphase hwritev =>
    obtain ⟨hconn, -, hkept⟩ := StreamEnd.kept_of_writev hwritev
    exact h.congr hkept (messages_of_conn hconn) rfl rfl hserves
  | handlerGaveUp handler stream side hphase hgive =>
    obtain ⟨hconn, -, hkept⟩ := StreamEnd.kept_of_giveUp hgive
    exact h.congr hkept (messages_of_conn hconn) rfl rfl hserves
  | handlerReturned handler stream hphase => exact h.congr rfl rfl rfl rfl trivial
  | closed lastError hphase => exact h.congr rfl rfl rfl rfl trivial

end StreamServerEnd

namespace StreamLink

variable {server : RpcStreamServer η ζ} {l l' : StreamLink ρ ρ' ζ} {room room' : Nat}

/-- The books of both ends. -/
structure Booked (server : RpcStreamServer η ζ) (l : StreamLink ρ ρ' ζ) : Prop where
  ofClient : l.client.Booked
  ofServer : l.server.Booked server

theorem Booked.step (h : l.Booked server) {a : StreamLinkAction} (hstep : l.step server a = some l') :
    l'.Booked server := by
  cases a with
  | client action =>
    obtain ⟨⟨client, put⟩, hclient, rfl⟩ := Option.map_eq_some_iff.mp hstep
    exact ⟨h.ofClient.step hclient,
      ⟨h.ofServer.begun, h.ofServer.messages, h.ofServer.dispatched, h.ofServer.serves⟩⟩
  | server move =>
    obtain ⟨⟨s, put⟩, hserver, rfl⟩ := Option.map_eq_some_iff.mp hstep
    exact ⟨⟨h.ofClient.begun, h.ofClient.messages⟩, h.ofServer.step hserver⟩

omit [RingBuffer ρ] [RingBuffer ρ'] in
theorem booked_start (ring : ρ) (ring' : ρ') : (start ring ring' : StreamLink ρ ρ' ζ).Booked server :=
  ⟨⟨rfl, rfl⟩, ⟨rfl, rfl, fun _ he => absurd he List.not_mem_nil, trivial⟩⟩

theorem crossing_start {ring : ρ} {ring' : ρ'} (hempty : RingBuffer.content ring = [])
    (hempty' : RingBuffer.content ring' = []) :
    (start ring ring' : StreamLink ρ ρ' ζ).Crossing (RingBuffer.capacity ring) (RingBuffer.capacity ring') :=
  ⟨⟨fun _ hf => absurd hf List.not_mem_nil, trivial, .nil, nofun, fun _ => ⟨[], [], rfl, .nil,
      .idle ring' rfl (by rw [hempty']; rfl)⟩⟩,
    ⟨fun _ hf => absurd hf List.not_mem_nil, trivial, .nil, nofun, fun _ => ⟨[], [], rfl, .nil,
      .idle ring rfl (by rw [hempty]; rfl)⟩⟩⟩

/-- **Frames cross in order.**  However reading and writing are cut up and mixed, and wherever a read or a
    write fails or is given up, as long as every step is clean: what the server has read, over all streams,
    are the first of the frames that the client has begun to write, and the other way round; and each
    stream that the server has opened is the one its first frame calls for. -/
theorem frames_cross_in_order (server : RpcStreamServer η ζ) (ring : ρ) (ring' : ρ')
    (hempty : RingBuffer.content ring = []) (hempty' : RingBuffer.content ring' = [])
    (hroom : rpcHeaderSize ≤ RingBuffer.capacity ring) (hroom' : rpcHeaderSize ≤ RingBuffer.capacity ring')
    {actions : List StreamLinkAction} {l : StreamLink ρ ρ' ζ}
    (hrun : Run (step server) (Clean (RingBuffer.capacity ring) (RingBuffer.capacity ring'))
      (start ring ring') actions l) :
    let up := l.server.streams.flatMap fun e => e.initFrame :: e.read
    let down := l.client.streams.flatMap (·.read)
    List.Forall₂ StreamClient.Carries up ((l.client.streams.flatMap (·.wrote)).take up.length) ∧
      List.Forall₂ StreamClient.Carries down ((l.server.streams.flatMap (·.wrote)).take down.length) ∧
      ∀ e ∈ l.server.streams, server.dispatch e.initFrame = (e.stream, e.handler) := by
  have hcrossing := hrun.invariant (fun _ _ _ h hclean hstep => Crossing.step h hroom hroom' hclean hstep)
    (crossing_start hempty hempty')
  have hbooked : l.Booked server :=
    hrun.invariant (fun _ _ _ h _ hstep => Booked.step h hstep) (booked_start ring ring')
  have hup := hcrossing.toServer.carries
  have hdown := hcrossing.toClient.carries
  rw [hbooked.ofServer.messages, hbooked.ofClient.begun] at hup
  rw [hbooked.ofClient.messages, hbooked.ofServer.begun] at hdown
  exact ⟨hup, hdown, hbooked.ofServer.dispatched⟩

/-- A stream on which a frame has been echoed and not been read yet; the first frame comes in two pieces.
    The handler gives up its next send inside the frame and returns, and the server is stopped. -/
def crossingRun : List StreamLinkAction :=
  [.client (.createStream 1 [0x45] [0x65]), .client (.send .sendInit), .server (.test true),
    .server (.loopReads (.read {})), .client (.writev (.accept 9)), .server (.loopReads (.readv 9)),
    .client (.writev (.accept 13)), .server (.loopReads (.readv 13)), .client (.reading (.read {})),
    .server (.loopWrites (.accept 16)), .server (.handlerReads (.read {})), .client (.reading (.readv 16)),
    .client (.send (.sendData [7])), .client (.writev (.accept 17)), .server (.handlerReads (.readv 17)),
    .server (.handlerSends (.sendData [7])), .server (.handlerWrites (.accept 17)),
    .server (.handlerSends (.sendData [8])), .server (.handlerWrites (.accept 5)),
    .server .handlerGivesUp, .server .handlerReturns, .server (.test false), .server (.close (.ok ()))]

theorem frames_cross_in_order_echo :
    ∃ l : StreamLink (Circular UInt8) (Circular UInt8) Unit,
      Run (step echoStreamServer) (Clean 24 24)
        (start (Circular.empty 24 fun _ => 0) (Circular.empty 24 fun _ => 0)) crossingRun l ∧
      (l.server.streams.flatMap fun e => e.initFrame :: e.read).length = 2 ∧
      (l.client.streams.flatMap (·.read)).length = 1 ∧
      ∀ e ∈ l.server.streams, echoStreamServer.dispatch e.initFrame = (e.stream, e.handler) := by
  have hruns : ((runAll (step echoStreamServer) (Clean 24 24)
      (start (Circular.empty 24 fun _ => (0 : UInt8)) (Circular.empty 24 fun _ => (0 : UInt8)))
      crossingRun).map fun l =>
        ((l.server.streams.flatMap fun e => e.initFrame :: e.read).length,
          (l.client.streams.flatMap (·.read)).length)) = some (2, 1) := by
    decide +kernel
  obtain ⟨l, hl, hcounts⟩ := Option.map_eq_some_iff.mp hruns
  obtain ⟨hup, hdown⟩ := Prod.mk.inj hcounts
  exact ⟨l, run_iff_runAll.mpr hl, hup, hdown,
    (frames_cross_in_order echoStreamServer (Circular.empty 24 fun _ => 0) (Circular.empty 24 fun _ => 0)
      rfl rfl (by decide) (by decide) (run_iff_runAll.mpr hl)).2.2⟩

end StreamLink

end GalayRpc
