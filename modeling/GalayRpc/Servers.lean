/-
  `RpcServer` and `RpcStreamServer`: the life cycle with the connections it is for.

  Each class is the `ConnClass` of its `handleConnection`.  What was shown of one connection holds of every
  connection of a running server, whatever the other coroutines do (`connections_in_order`,
  `stream_connections_in_order`); and after `stop` a connection does at most what it has begun with
  (`stop_ends_work`, `stop_ends_sessions`).
-/
import GalayRpc.Link
import GalayRpc.Lifecycle
import GalayRpc.StreamServer

namespace GalayRpc

variable {ρ η ζ : Type} [RingBuffer ρ]

/-! ## `RpcServer` -/

/-- A connection of `RpcServer`, with the bytes that its peer has sent. -/
structure ServedConn (ρ η : Type) where
  conn : ServerConn ρ η
  stream : Bytes := []

/-- The peer sends more, or the coroutine takes a step. -/
inductive ServedAction where
  | arrives (bytes : Bytes)
  | coroutine (action : ServerAction)

namespace ServedConn

def step (services : Services η ζ) (c : ServedConn ρ η) : ServedAction → Option (ServedConn ρ η)
  | .arrives bytes =>
    some { conn := { c.conn with incoming := c.conn.incoming ++ bytes }, stream := c.stream ++ bytes }
  | .coroutine action => (c.conn.step services action).map fun conn => { c with conn := conn }

end ServedConn

/-- `RpcServer`: each connection has a ring buffer like `ring`. -/
def rpcServerClass (services : Services η ζ) (ring : ρ) : ConnClass (ServedConn ρ η) ServedAction Unit where
  handleConnection _ := { conn := .start ring }
  step := ServedConn.step services
  loads
    | .coroutine (.test running) => some running
    | _ => none
  lastError c := c.conn.lastError
  withLastError c error := { c with conn := { c.conn with lastError := error } }
  acceptLoopUnscheduled := "Failed to schedule accept loop"
  connectionUnscheduled := "Failed to schedule connection handler"

/-- It closes the socket. -/
def ServerEvent.isClosed : ServerEvent η → Bool
  | .closed => true
  | _ => false

/-- The socket is closed once, and then the coroutine is over. -/
structure ServerConn.ClosedOnce (s : ServerConn ρ η) : Prop where
  last : ∀ before after, s.log = before ++ .closed :: after → after = [] ∧ s.phase = .ended
  ended : s.phase = .ended → ∃ before, s.log = before ++ [.closed]

namespace ServerConn

variable {services : Services η ζ} {s s' : ServerConn ρ η} {action : ServerAction}

omit [RingBuffer ρ] in
/-- As long as the coroutine goes on, nothing has been closed. -/
theorem ClosedOnce.open_of (h : s.ClosedOnce) (hphase : s.phase.isEnded = false) :
    ∀ event ∈ s.log, event.isClosed = false := by
  intro event hevent
  cases event with
  | closed =>
    obtain ⟨before, after, hlog⟩ := List.append_of_mem hevent
    rw [(h.last before after hlog).2] at hphase
    cases hphase
  | _ => rfl

omit [RingBuffer ρ] in
theorem closedOnce_of_open (hopen : ∀ event ∈ s.log, event.isClosed = false)
    (hphase : s.phase.isEnded = false) : s.ClosedOnce where
  last before after hlog := by
    have hclosed := hopen .closed (hlog ▸ List.mem_append_right _ List.mem_cons_self)
    cases hclosed
  ended h := by
    rw [h] at hphase
    cases hphase

omit [RingBuffer ρ] in
theorem isClosed_concat {log : List (ServerEvent η)} (hlog : ∀ event ∈ log, event.isClosed = false)
    {event : ServerEvent η} (hevent : event.isClosed = false) :
    ∀ e ∈ log ++ [event], e.isClosed = false := by
  intro e he
  rcases List.mem_append.mp he with he | he
  · exact hlog e he
  · rw [List.mem_singleton.mp he]
    exact hevent

omit [RingBuffer ρ] in
/-- Closing the socket is the last event. -/
theorem closedOnce_closed (hlog : ∀ event ∈ s.log, event.isClosed = false) (lastError : Option RpcError) :
    ClosedOnce { s with lastError := lastError, phase := .ended, log := s.log ++ [.closed] } where
  last before after hsplit := by
    constructor
    · rcases List.eq_nil_or_concat after with rfl | ⟨init, last, rfl⟩
      · rfl
      · -- a second one would be in the log before
        have hinit : s.log ++ [.closed] = (before ++ .closed :: init) ++ [last] := by
          rw [List.concat_eq_append] at hsplit
          rw [List.append_assoc, List.cons_append]
          exact hsplit
        have hclosed := hlog .closed (by
          rw [(List.append_inj' hinit rfl).1]
          exact List.mem_append_right _ List.mem_cons_self)
        cases hclosed
    · rfl
  ended _ := ⟨s.log, rfl⟩

theorem ClosedOnce.step {stream : Bytes} (h : s.ClosedOnce) (horderly : s.Orderly services stream)
    (hstep : s.step services action = some s') : s'.ClosedOnce := by
  have hopen : ∀ {phase : ServerPhase η}, s.phase = phase → phase.isEnded = false →
      ∀ event ∈ s.log, event.isClosed = false :=
    fun hphase hgoes => h.open_of (hphase ▸ hgoes)
  cases stepped horderly.reader hstep with
  | started hphase => exact closedOnce_of_open (hopen hphase rfl) rfl
  | stopped hphase => exact closedOnce_of_open (hopen hphase rfl) rfl
  | piece m hphase =>
    refine closedOnce_of_open (hopen hphase rfl) ?_
    show s.phase.isEnded = false
    rw [hphase]
    rfl
  | hungUp m hphase =>
    refine closedOnce_of_open (hopen hphase rfl) ?_
    show s.phase.isEnded = false
    rw [hphase]
    rfl
  | readFailed e m hphase =>
    exact closedOnce_of_open (isClosed_concat (hopen hphase rfl) rfl) rfl
  | dispatched n request m hphase =>
    have hreceived : ∀ event ∈ s.log ++ [.received request], event.isClosed = false :=
      isClosed_concat (hopen hphase rfl) rfl
    simp only [dispatch]
    split
    · exact closedOnce_of_open hreceived rfl
    · exact closedOnce_of_open (isClosed_concat hreceived rfl) rfl
  | handled handler request hphase => exact closedOnce_of_open (hopen hphase rfl) rfl
  | wrote round write write' hphase =>
    have hlog := hopen hphase rfl
    unfold ServerConn.wrote
    split
    · exact closedOnce_of_open hlog rfl
    · exact closedOnce_of_open (isClosed_concat hlog rfl) rfl
    · exact closedOnce_of_open (isClosed_concat hlog rfl) rfl
  | closed lastError hphase => exact closedOnce_closed (hopen hphase rfl) lastError

/-- The requests a connection has received, and the one it is about to. -/
def requests (s : ServerConn ρ η) : Nat :=
  s.received.length + (match s.phase with
    | .reading => 1
    | _ => 0)

/-- A request is received by a read, and a read begins behind the test of `m_running`. -/
theorem requests_of_step (hstep : s.step services action = some s') (htest : action ≠ .test true) :
    s'.requests ≤ s.requests := by
  unfold ServerConn.step at hstep
  split at hstep
  · exact absurd rfl htest
  · obtain rfl := Option.some.inj hstep
    exact Nat.le_add_right _ _
  · rename_i n hphase
    unfold readv at hstep
    split at hstep
    · simp only [Option.ite_none_right_eq_some, Option.some.injEq] at hstep
      obtain ⟨-, rfl⟩ := hstep
      exact Nat.le_refl _
    · cases hstep
  · unfold hangUp at hstep
    split at hstep
    · obtain rfl := Option.some.inj hstep
      exact Nat.le_refl _
    · cases hstep
  · rename_i hphase
    unfold receive at hstep
    split at hstep
    · obtain rfl := Option.some.inj hstep
      exact Nat.le_add_right _ _
    · rename_i m _
      obtain rfl := Option.some.inj hstep
      rw [requests, requests, hphase]
      simp only [dispatch]
      split
      · simp [sendResponse]
      · simp
    · cases hstep
  · obtain rfl := Option.some.inj hstep
    exact Nat.le_add_right _ _
  · rename_i round write event hphase
    obtain ⟨write', -, rfl⟩ := Option.map_eq_some_iff.mp hstep
    obtain ⟨hreading, -, -, -, hreceived, -⟩ := wrote_eq s round write write'
    rw [requests, requests, hreceived]
    refine Nat.add_le_add_left ?_ _
    split
    · exact absurd ‹_› hreading
    · exact Nat.zero_le _
  · obtain rfl := Option.some.inj hstep
    exact Nat.le_add_right _ _
  · cases hstep

end ServerConn

/-- What holds of each connection of a running `RpcServer`. -/
structure ServedConn.Served (services : Services η ζ) (c : ServedConn ρ η) : Prop where
  orderly : c.conn.Orderly services c.stream
  closedOnce : c.conn.ClosedOnce

theorem ServedConn.served_start (services : Services η ζ) {ring : ρ} (hempty : RingBuffer.content ring = []) :
    (ServedConn.mk (.start ring) [] : ServedConn ρ η).Served services where
  orderly := ServerConn.orderly_start services hempty
  closedOnce := ServerConn.closedOnce_of_open (fun _ hevent => absurd hevent List.not_mem_nil) rfl

theorem ServedConn.Served.step {services : Services η ζ} {c c' : ServedConn ρ η} (h : c.Served services)
    (error : Option RpcError) {action : ServedAction}
    (hstep : ServedConn.step services { c with conn := { c.conn with lastError := error } } action =
      some c') : c'.Served services := by
  -- the shared error is no concern of the connection
  have horderly : ServerConn.Orderly services c.stream { c.conn with lastError := error } :=
    ⟨h.orderly.reader, h.orderly.cache, h.orderly.reads, h.orderly.resolved, h.orderly.accounts⟩
  have hclosed : ServerConn.ClosedOnce { c.conn with lastError := error } :=
    ⟨h.closedOnce.last, h.closedOnce.ended⟩
  cases action with
  | arrives bytes =>
    obtain rfl := Option.some.inj hstep
    exact ⟨horderly.arrive bytes, hclosed.last, hclosed.ended⟩
  | coroutine action =>
    obtain ⟨conn, hconn, rfl⟩ := Option.map_eq_some_iff.mp hstep
    exact ⟨horderly.step hconn, hclosed.step horderly hconn⟩

namespace RpcServer

/-- **A server with many connections.**  In every run of an `RpcServer`, with `start` and `stop` called at
    any time, sockets and scheduling failing anywhere, and the coroutines going on in any order: every
    socket that was accepted is with one connection, or with one accept loop, or closed by one; and each
    connection, whatever the others do, receives the requests at the front of what its own peer has sent,
    looks each up in the registry, answers them in order on its own socket, and closes it once, as the
    last thing it does. -/
theorem connections_in_order (services : Services η ζ) {ring : ρ} (hempty : RingBuffer.content ring = [])
    {actions : List (ServerStateAction ServedAction Unit)} {s : ServerState (ServedConn ρ η)}
    (hrun : Run (ServerState.step (rpcServerClass services ring)) (fun _ _ => True) {} actions s) :
    s.accepted.Perm (s.conns.map Prod.fst ++ (s.loops.filterMap AcceptPhase.held ++ s.rejected)) ∧
    ∀ c ∈ s.conns, ∃ unread,
      ServerConn.parser.Frames c.2.stream (c.2.conn.received.map RpcRequest.msg) unread ∧
      c.2.conn.rounds.map Round.request <+: c.2.conn.received ∧
      (∀ round ∈ c.2.conn.rounds, round.found = resolveMethodHandler services round.request) ∧
      c.2.conn.sent <+: responseBytes c.2.conn.rounds ∧
      (∀ before after, c.2.conn.log = before ++ .closed :: after →
        after = [] ∧ c.2.conn.phase = .ended) ∧
      (c.2.conn.phase = .ended → ∃ before, c.2.conn.log = before ++ [.closed]) := by
  have hserved : ∀ c ∈ s.conns, c.2.Served services := by
    refine ServerState.conns_of_run (fun _ => ServedConn.served_start services hempty) ?_ hrun
    intro conn error action conn' h hstep
    exact h.step error hstep
  refine ⟨ServerState.sockets_of_run hrun, ?_⟩
  intro c hc
  obtain ⟨horderly, hclosed⟩ := hserved c hc
  obtain ⟨hrequests, hsent⟩ := horderly.rounds_received
  exact ⟨_, horderly.reads, hrequests, horderly.resolved, hsent, hclosed.last, hclosed.ended⟩

/-- A listener that is set up. -/
def listening : ListenerSetup := ⟨.ok (), .ok (), .ok (), .ok ()⟩

/-- Two connections are served, and one in between finds no scheduler.  A request comes in on the first
    one; while its response is being sent `stop` is called, and the second one's peer sends half a
    request. -/
def twoConnections : List (ServerStateAction ServedAction Unit) :=
  [.start, .schedule true, .acceptLoop 0 (.setup listening), .acceptLoop 0 .test,
    .acceptLoop 0 (.accept (.ok 7) () true), .acceptLoop 0 .test,
    .acceptLoop 0 (.accept (.ok 8) () false), .connection 0 (.coroutine (.test true)),
    .acceptLoop 0 (.close (.ok ())), .acceptLoop 0 .test, .acceptLoop 0 (.accept (.ok 9) () true),
    .connection 1 (.coroutine (.test true)), .acceptLoop 0 .test,
    .connection 0 (.arrives echoRequest.serialize), .connection 0 (.coroutine (.readv 40)),
    .connection 1 (.arrives (echoRequest.serialize.take 9)), .connection 0 (.coroutine .receive),
    .connection 0 (.coroutine (.handle [.setPayload [7]])),
    .connection 0 (.coroutine (.writev (.accept 4))), .stop,
    .connection 1 (.coroutine (.readv 9)), .connection 0 (.coroutine (.writev (.accept 15))),
    .connection 0 (.coroutine (.test false)), .connection 0 (.coroutine (.close (.ok ())))]

theorem connections_in_order_two :
    ∃ (s : ServerState (ServedConn (Circular UInt8) Unit)) (c : GHandle × ServedConn (Circular UInt8) Unit),
      runAll (ServerState.step (rpcServerClass echoServer.mServices (Circular.empty 40 fun _ => 0)))
          (fun _ _ => True) {} twoConnections = some s ∧
        s.accepted.Perm (s.conns.map Prod.fst ++ (s.loops.filterMap AcceptPhase.held ++ s.rejected)) ∧
        s.conns[0]? = some c ∧ c.2.conn.rounds.length = 1 ∧
        c.2.conn.sent <+: responseBytes c.2.conn.rounds := by
  have hruns : ((runAll (ServerState.step
      (rpcServerClass echoServer.mServices (Circular.empty 40 fun _ => (0 : UInt8))))
      (fun _ _ => True) {} twoConnections).bind fun s => s.conns[0]?.map fun c => c.2.conn.rounds.length) =
      some 1 := by
    decide +kernel
  obtain ⟨s, hs, hconn⟩ := Option.bind_eq_some_iff.mp hruns
  obtain ⟨c, hc, hrounds⟩ := Option.map_eq_some_iff.mp hconn
  obtain ⟨hsockets, hconns⟩ := connections_in_order echoServer.mServices rfl (run_iff_runAll.mpr hs)
  obtain ⟨unread, -, -, -, hsent, -⟩ := hconns c (List.mem_of_getElem? hc)
  exact ⟨s, c, hs, hsockets, hc, hrounds, hsent⟩

/-- **What is still done after `stop`.**  As long as a stopped server is not started again, it stays
    stopped; each accept loop that is waiting accepts one more connection at most, and no other does, so
    that no more sockets are accepted and no more connections started than loops were waiting; a
    connection that is waiting for a request receives one more at most, every other one and every new one
    none. -/
theorem stop_ends_work (services : Services η ζ) (ring : ρ)
    {actions : List (ServerStateAction ServedAction Unit)} {s s' : ServerState (ServedConn ρ η)}
    (hstopped : s.mRunning = false)
    (hrun : Run (ServerState.step (rpcServerClass services ring)) (fun _ a => a.NoStart) s actions s') :
    s'.mRunning = false ∧
    (∀ i, actions.countP (ServerStateAction.acceptsAt i) ≤ s.acceptsLeft i) ∧
    s'.accepted.length ≤ s.accepted.length + s.acceptingLoops ∧
    s'.conns.length ≤ s.conns.length + s.acceptingLoops ∧
    ∀ (i : Nat) (c' : GHandle × ServedConn ρ η), s'.conns[i]? = some c' →
      match s.conns[i]? with
      | some c => c'.2.conn.received.length ≤ c.2.conn.requests
      | none => c'.2.conn.received = [] := by
  have hwork : ∀ (conn : ServedConn ρ η) (error : Option RpcError) (action : ServedAction)
      (conn' : ServedConn ρ η), (rpcServerClass services ring).loads action ≠ some true →
      (rpcServerClass services ring).step ((rpcServerClass services ring).withLastError conn error) action =
        some conn' → conn'.conn.requests ≤ conn.conn.requests := by
    intro conn error action conn' hloads hstep
    cases action with
    | arrives bytes =>
      obtain rfl := Option.some.inj hstep
      exact Nat.le_refl _
    | coroutine action =>
      obtain ⟨next, hnext, rfl⟩ := Option.map_eq_some_iff.mp hstep
      have htest : action ≠ .test true := by
        rintro rfl
        exact hloads rfl
      exact (ServerConn.requests_of_step hnext htest :)
  obtain ⟨hstill, haccepted, hconns, hworks⟩ :=
    ServerState.winding_of_run (fun c : ServedConn ρ η => c.conn.requests) (fun _ => rfl) hwork hstopped
      hrun
  refine ⟨hstill, ServerState.accepts_of_run hstopped hrun, by omega, by omega, ?_⟩
  intro i c' hc'
  have hi := hworks i
  rw [ServerState.workOf, hc'] at hi
  rw [ServerState.workOf] at hi
  have hreceived : c'.2.conn.received.length ≤ c'.2.conn.requests := Nat.le_add_right _ _
  split
  · rename_i c hc
    rw [hc] at hi
    exact hreceived.trans hi
  · rename_i hnone
    rw [hnone] at hi
    exact List.eq_nil_of_length_eq_zero (Nat.le_zero.mp (hreceived.trans hi))

/-- After `stop`: the second connection's request comes in complete, and the accept loop, which was
    waiting, accepts a third one. -/
def afterStop : List (ServerStateAction ServedAction Unit) :=
  [.connection 1 (.arrives (echoRequest.serialize.drop 9)), .connection 1 (.coroutine (.readv 40)),
    .acceptLoop 0 (.accept (.ok 10) () true), .connection 1 (.coroutine .receive),
    .connection 2 (.coroutine (.test false)), .connection 1 (.coroutine (.handle [])),
    .connection 1 (.coroutine (.writev (.accept 18))), .connection 1 (.coroutine (.test false))]

theorem stop_ends_work_two :
    ∃ (s s' : ServerState (ServedConn (Circular UInt8) Unit))
      (c c' : GHandle × ServedConn (Circular UInt8) Unit),
      runAll (ServerState.step (rpcServerClass echoServer.mServices (Circular.empty 40 fun _ => 0)))
          (fun _ _ => True) {} twoConnections = some s ∧
        runAll (ServerState.step (rpcServerClass echoServer.mServices (Circular.empty 40 fun _ => 0)))
          (fun _ a => a.NoStart) s afterStop = some s' ∧
        s.conns[1]? = some c ∧ s'.conns[1]? = some c' ∧
        c'.2.conn.received.length ≤ c.2.conn.requests ∧
        afterStop.countP (ServerStateAction.acceptsAt 0) ≤ s.acceptsLeft 0 ∧
        s'.accepted.length ≤ s.accepted.length + s.acceptingLoops := by
  have hruns : ((runAll (ServerState.step
      (rpcServerClass echoServer.mServices (Circular.empty 40 fun _ => (0 : UInt8))))
      (fun _ _ => True) {} twoConnections).bind fun s =>
        if s.mRunning = false ∧ s.conns[1]?.isSome = true then
          (runAll (ServerState.step
            (rpcServerClass echoServer.mServices (Circular.empty 40 fun _ => (0 : UInt8))))
            (fun _ a => a.NoStart) s afterStop).bind fun s' =>
              s'.conns[1]?.map fun c => c.2.conn.received.length
        else none) = some 1 := by
    decide +kernel
  obtain ⟨s, hs, hrest⟩ := Option.bind_eq_some_iff.mp hruns
  split at hrest
  · rename_i hstate
    obtain ⟨s', hs', hconn'⟩ := Option.bind_eq_some_iff.mp hrest
    obtain ⟨c', hc', -⟩ := Option.map_eq_some_iff.mp hconn'
    obtain ⟨c, hc⟩ := Option.isSome_iff_exists.mp hstate.2
    obtain ⟨-, hloop, haccepted, -, hreceived⟩ :=
      stop_ends_work echoServer.mServices (Circular.empty 40 fun _ => (0 : UInt8)) hstate.1
        (run_iff_runAll.mpr hs')
    have hone := hreceived 1 c' hc'
    rw [hc] at hone
    exact ⟨s, s', c, c', hs, hs', hc, hc', hone, hloop 0, haccepted⟩
  · cases hrest

end RpcServer

/-! ## `RpcStreamServer` -/

/-- It hands a session to a handler. -/
def StreamServerEvent.isEntered : StreamServerEvent ζ → Bool
  | .entered _ _ => true
  | _ => false

/-- A connection of `RpcStreamServer`: its coroutine has not begun, or is under way. -/
inductive ServedStreamConn (ρ ζ : Type) where
  | scheduled (w : Wire) (writes : Nat → WriteEvent) (lastError : Option RpcError)
  | running (conn : StreamServerConn ρ ζ)

/-- The coroutine begins, with the outcome of making its socket non-blocking, or takes a step. -/
inductive ServedStreamAction where
  | begin (nonBlock : Except IOError Unit)
  | coroutine (action : StreamServerAction)

namespace ServedStreamConn

def step (server : RpcStreamServer η ζ) (ring : ρ) :
    ServedStreamConn ρ ζ → ServedStreamAction → Option (ServedStreamConn ρ ζ)
  | .scheduled w writes lastError, .begin nonBlock =>
    let conn : StreamServerConn ρ ζ := .accept nonBlock ring w ⟨[], writes⟩
    some (.running { conn with lastError := conn.lastError.or lastError })
  | .running conn, .coroutine action => (conn.step server action).map .running
  | _, _ => none

omit [RingBuffer ρ] in
/-- The coroutine, once it has begun. -/
def conn? : ServedStreamConn ρ ζ → Option (StreamServerConn ρ ζ)
  | .scheduled _ _ _ => none
  | .running conn => some conn

omit [RingBuffer ρ] in
def lastError : ServedStreamConn ρ ζ → Option RpcError
  | .scheduled _ _ lastError => lastError
  | .running conn => conn.lastError

omit [RingBuffer ρ] in
def withLastError (c : ServedStreamConn ρ ζ) (error : Option RpcError) : ServedStreamConn ρ ζ :=
  match c with
  | .scheduled w writes _ => .scheduled w writes error
  | .running conn => .running { conn with lastError := error }

end ServedStreamConn

/-- `RpcStreamServer`: each connection has a ring buffer like `ring`, and a socket of its own. -/
def streamServerClass (server : RpcStreamServer η ζ) (ring : ρ) :
    ConnClass (ServedStreamConn ρ ζ) ServedStreamAction (Wire × (Nat → WriteEvent)) where
  handleConnection args := .scheduled args.1 args.2 none
  step := ServedStreamConn.step server ring
  loads
    | .coroutine (.test running) => some running
    | _ => none
  lastError := ServedStreamConn.lastError
  withLastError := ServedStreamConn.withLastError
  acceptLoopUnscheduled := "Failed to schedule stream accept loop"
  connectionUnscheduled := "Failed to schedule stream connection handler"

namespace StreamServerConn

/-- The sessions that have been handed to a handler, and the one that may be about to. -/
def sessions (s : StreamServerConn ρ ζ) : Nat :=
  s.log.countP StreamServerEvent.isEntered + (match s.phase with
    | .reading => 1
    | .answering _ _ => 1
    | _ => 0)

variable {server : RpcStreamServer η ζ} {s s' : StreamServerConn ρ ζ} {action : StreamServerAction}

/-- A handler is entered behind an acknowledgement, and the frame that is acknowledged is read behind the
    test of `m_running`. -/
theorem sessions_of_step (hstep : s.step server action = some s') (htest : action ≠ .test true) :
    s'.sessions ≤ s.sessions := by
  have hsame : ∀ {log : List (StreamServerEvent ζ)} {event : StreamServerEvent ζ},
      event.isEntered = false → (log ++ [event]).countP StreamServerEvent.isEntered =
        log.countP StreamServerEvent.isEntered := by
    intro log event hevent
    rw [List.countP_append, List.countP_singleton, hevent]
    rfl
  unfold StreamServerConn.step at hstep
  split at hstep
  · rename_i running hphase
    obtain rfl := Option.some.inj hstep
    cases running with
    | true => exact absurd rfl htest
    | false => exact Nat.le_add_right _ _
  · -- the frame that is to be answered is read
    rename_i hphase
    unfold readInit at hstep
    simp only [] at hstep
    split at hstep
    · cases hstep
    · obtain rfl := Option.some.inj hstep
      rw [sessions, sessions, hphase, hsame rfl]
      exact Nat.le_add_right _ _
    · obtain rfl := Option.some.inj hstep
      rw [sessions, sessions, hphase, hsame rfl]
  · rename_i stream handler hphase
    unfold sendAnswer at hstep
    simp only [] at hstep
    split at hstep
    · cases hstep
    · obtain rfl := Option.some.inj hstep
      rw [sessions, sessions, hphase, hsame rfl]
      exact Nat.le_add_right _ _
    · obtain rfl := Option.some.inj hstep
      rw [sessions, sessions, hphase, hsame rfl]
      exact Nat.le_add_right _ _
    · obtain rfl := Option.some.inj hstep
      rw [sessions, sessions, hphase, List.countP_append]
      exact Nat.le_refl _
  · -- in a handler nothing is entered
    rename_i handler stream message hphase
    obtain ⟨result, -, rfl⟩ := Option.map_eq_some_iff.mp hstep
    rw [sessions, sessions, hphase, hsame rfl]
  · rename_i handler stream message n hphase
    unfold handlerGiveUp at hstep
    simp only [] at hstep
    split at hstep
    · cases hstep
    · obtain rfl := Option.some.inj hstep
      rw [sessions, sessions, hphase, hsame rfl]
  · rename_i handler stream frame hphase
    obtain ⟨result, -, rfl⟩ := Option.map_eq_some_iff.mp hstep
    rw [sessions, sessions, hphase, hsame rfl]
  · rename_i handler stream hphase
    obtain rfl := Option.some.inj hstep
    rw [sessions, sessions, hphase, hsame rfl]
  · rename_i result hphase
    obtain rfl := Option.some.inj hstep
    rw [sessions, sessions, hphase, hsame rfl]
  · cases hstep

end StreamServerConn

/-- What holds of each connection of a running `RpcStreamServer`. -/
def ServedStreamConn.Served (server : RpcStreamServer η ζ) : ServedStreamConn ρ ζ → Prop
  | .scheduled _ _ _ => True
  | .running conn => ∃ writes, Orderly server ⟨[], writes⟩ conn

theorem ServedStreamConn.Served.step {server : RpcStreamServer η ζ} {ring : ρ}
    {c c' : ServedStreamConn ρ ζ} (h : c.Served server) (error : Option RpcError)
    {action : ServedStreamAction}
    (hstep : ServedStreamConn.step server ring (c.withLastError error) action = some c') :
    c'.Served server := by
  cases c with
  | scheduled w writes _ =>
    cases action with
    | begin nonBlock =>
      obtain rfl := Option.some.inj hstep
      have horderly : Orderly server ⟨[], writes⟩
          (.accept nonBlock ring w ⟨[], writes⟩ : StreamServerConn ρ ζ) := orderly_accept nonBlock ring w _
      exact ⟨writes, horderly.logged, horderly.phase⟩
    | coroutine action => cases hstep
  | running conn =>
    cases action with
    | begin nonBlock => cases hstep
    | coroutine action =>
      obtain ⟨writes, horderly⟩ := h
      obtain ⟨next, hnext, rfl⟩ := Option.map_eq_some_iff.mp hstep
      -- the shared error is no concern of the connection
      have hsame : Orderly server ⟨[], writes⟩ { conn with lastError := error } :=
        ⟨horderly.logged, horderly.phase⟩
      exact ⟨writes, hsame.step hnext⟩

namespace RpcStreamServer

/-- **A stream server with many connections.**  In every run of an `RpcStreamServer`, with `start` and
    `stop` called at any time, sockets and scheduling failing anywhere, and the coroutines going on in any
    order: every socket that was accepted is with one connection, or with one accept loop, or closed by
    one; and on each connection, whatever happens on the others, every event has in front of it what the
    lifecycle of a stream demands, and the socket carries what these events put there. -/
theorem stream_connections_in_order (server : RpcStreamServer η ζ) (ring : ρ)
    {actions : List (ServerStateAction ServedStreamAction (Wire × (Nat → WriteEvent)))}
    {s : ServerState (ServedStreamConn ρ ζ)}
    (hrun : Run (ServerState.step (streamServerClass server ring)) (fun _ _ => True) {} actions s) :
    s.accepted.Perm (s.conns.map Prod.fst ++ (s.loops.filterMap AcceptPhase.held ++ s.rejected)) ∧
    ∀ (handle : GHandle) (conn : StreamServerConn ρ ζ), (handle, .running conn) ∈ s.conns →
      Lifecycle server conn.log ∧
      ∃ puts, List.Forall₂ StreamServerEvent.Puts conn.log puts ∧ conn.sink.sent = puts.flatten := by
  have hserved : ∀ c ∈ s.conns, c.2.Served server := by
    have hstart : ∀ args, ((streamServerClass server ring).handleConnection args).Served server :=
      fun args => trivial
    refine ServerState.conns_of_run hstart ?_ hrun
    intro conn error action conn' h hstep
    exact h.step error hstep
  refine ⟨ServerState.sockets_of_run hrun, ?_⟩
  intro handle conn hconn
  obtain ⟨writes, horderly⟩ := hserved _ hconn
  obtain ⟨puts, hputs, hsent⟩ := horderly.logged.puts
  exact ⟨horderly.logged.lifecycle, puts, hputs, hsent⟩

/-- A stream is opened and `stop` is called while its handler is at work; another connection's coroutine
    has not begun. -/
def streamAndScheduled : List (ServerStateAction ServedStreamAction (Wire × (Nat → WriteEvent))) :=
  [.start, .schedule true, .acceptLoop 0 (.setup RpcServer.listening), .acceptLoop 0 .test,
    .acceptLoop 0 (.accept (.ok 7)
      (⟨bytesOf [.init 5 [0x45] [0x65], .endOfStream 5, .init 6 [0x45] [0x65]], .silent, fun _ => 9⟩,
        fun i => .accept i) true),
    .connection 0 (.begin (.ok ())), .connection 0 (.coroutine (.test true)), .acceptLoop 0 .test,
    .connection 0 (.coroutine .read), .connection 0 (.coroutine .answer),
    .acceptLoop 0 (.accept (.ok 8) (⟨bytesOf [.init 7 [0x45] [0x65]], .silent, fun _ => 9⟩,
      fun i => .accept i) true), .stop]

theorem stream_connections_in_order_two :
    ∃ (s : ServerState (ServedStreamConn (Circular UInt8) Unit)) (handle : GHandle)
      (conn : StreamServerConn (Circular UInt8) Unit),
      runAll (ServerState.step (streamServerClass echoStreamServer (Circular.empty 24 fun _ => 0)))
          (fun _ _ => True) {} streamAndScheduled = some s ∧
        (handle, .running conn) ∈ s.conns ∧ conn.log.length = 3 ∧ Lifecycle echoStreamServer conn.log := by
  have hruns : ((runAll (ServerState.step
      (streamServerClass echoStreamServer (Circular.empty 24 fun _ => (0 : UInt8))))
      (fun _ _ => True) {} streamAndScheduled).bind fun s => s.conns[0]?.bind fun c =>
        c.2.conn?.map fun conn => conn.log.length) = some 3 := by
    decide +kernel
  obtain ⟨s, hs, hconn⟩ := Option.bind_eq_some_iff.mp hruns
  obtain ⟨⟨handle, c⟩, hc, hlog⟩ := Option.bind_eq_some_iff.mp hconn
  cases c with
  | scheduled w writes e => cases hlog
  | running conn =>
    obtain ⟨-, hconns⟩ := stream_connections_in_order echoStreamServer
      (Circular.empty 24 fun _ => (0 : UInt8)) (run_iff_runAll.mpr hs)
    have hmem := List.mem_of_getElem? hc
    exact ⟨s, handle, conn, hs, hmem, Option.some.inj hlog, (hconns handle conn hmem).1⟩

/-- The sessions of a connection, none before its coroutine has begun. -/
def sessionsOf : ServedStreamConn ρ ζ → Nat
  | .scheduled _ _ _ => 0
  | .running conn => conn.sessions

/-- **What is still done after `stop`.**  As long as a stopped stream server is not started again, it
    stays stopped; each accept loop that is waiting accepts one more connection at most, and no other
    does, so that no more sockets are accepted and no more connections started than loops were waiting;
    and a connection that is waiting for a `STREAM_INIT`, or answering one, enters one more handler at
    most, every other one and every new one none. -/
theorem stop_ends_sessions (server : RpcStreamServer η ζ) (ring : ρ)
    {actions : List (ServerStateAction ServedStreamAction (Wire × (Nat → WriteEvent)))}
    {s s' : ServerState (ServedStreamConn ρ ζ)} (hstopped : s.mRunning = false)
    (hrun : Run (ServerState.step (streamServerClass server ring)) (fun _ a => a.NoStart) s actions s') :
    s'.mRunning = false ∧
    (∀ i, actions.countP (ServerStateAction.acceptsAt i) ≤ s.acceptsLeft i) ∧
    s'.accepted.length ≤ s.accepted.length + s.acceptingLoops ∧
    s'.conns.length ≤ s.conns.length + s.acceptingLoops ∧
    ∀ (i : Nat) (handle : GHandle) (conn' : StreamServerConn ρ ζ),
      s'.conns[i]? = some (handle, .running conn') →
      match s.conns[i]? with
      | some (_, .running conn) => conn'.log.countP StreamServerEvent.isEntered ≤ conn.sessions
      | _ => ∀ event ∈ conn'.log, event.isEntered = false := by
  have hwork : ∀ (conn : ServedStreamConn ρ ζ) (error : Option RpcError) (action : ServedStreamAction)
      (conn' : ServedStreamConn ρ ζ), (streamServerClass server ring).loads action ≠ some true →
      (streamServerClass server ring).step ((streamServerClass server ring).withLastError conn error)
        action = some conn' → sessionsOf conn' ≤ sessionsOf conn := by
    intro conn error action conn' hloads hstep
    cases conn with
    | scheduled w writes _ =>
      cases action with
      | begin nonBlock =>
        obtain rfl := Option.some.inj hstep
        cases nonBlock with
        | error e => exact Nat.le_refl 0
        | ok _ => exact Nat.le_refl 0
      | coroutine action => cases hstep
    | running conn =>
      cases action with
      | begin nonBlock => cases hstep
      | coroutine action =>
        obtain ⟨next, hnext, rfl⟩ := Option.map_eq_some_iff.mp hstep
        have htest : action ≠ .test true := by
          rintro rfl
          exact hloads rfl
        exact (StreamServerConn.sessions_of_step hnext htest :)
  obtain ⟨hstill, haccepted, hconns, hworks⟩ :=
    ServerState.winding_of_run sessionsOf (fun _ => rfl) hwork hstopped hrun
  refine ⟨hstill, ServerState.accepts_of_run hstopped hrun, by omega, by omega, ?_⟩
  intro i handle conn' hconn'
  have hi := hworks i
  rw [ServerState.workOf, hconn'] at hi
  rw [ServerState.workOf] at hi
  have hentered : conn'.log.countP StreamServerEvent.isEntered ≤ conn'.sessions := Nat.le_add_right _ _
  have hnone : conn'.sessions ≤ 0 → ∀ event ∈ conn'.log, event.isEntered = false := by
    intro hzero event hevent
    have hcount := Nat.le_zero.mp (hentered.trans hzero)
    rw [List.countP_eq_zero] at hcount
    exact Bool.eq_false_iff.mpr (hcount event hevent)
  split
  · rename_i conn hc
    rw [hc] at hi
    exact hentered.trans hi
  · rename_i hnot
    refine hnone ?_
    rcases hc : s.conns[i]? with _ | ⟨h, c⟩
    · rw [hc] at hi
      exact hi
    · rw [hc] at hi
      cases c with
      | scheduled w writes e => exact hi
      | running conn => exact absurd hc (hnot h conn)

/-- The handler returns, and the second connection's coroutine begins. -/
def streamAfterStop : List (ServerStateAction ServedStreamAction (Wire × (Nat → WriteEvent))) :=
  [.connection 0 (.coroutine (.handlerReads {})), .connection 1 (.begin (.ok ())),
    .connection 0 (.coroutine .handlerReturns), .connection 1 (.coroutine (.test false)),
    .connection 0 (.coroutine (.test false)), .connection 0 (.coroutine (.close (.ok ())))]

theorem stop_ends_sessions_two :
    ∃ (s s' : ServerState (ServedStreamConn (Circular UInt8) Unit)) (handle : GHandle)
      (conn' : StreamServerConn (Circular UInt8) Unit),
      runAll (ServerState.step (streamServerClass echoStreamServer (Circular.empty 24 fun _ => 0)))
          (fun _ _ => True) {} streamAndScheduled = some s ∧
        runAll (ServerState.step (streamServerClass echoStreamServer (Circular.empty 24 fun _ => 0)))
          (fun _ a => a.NoStart) s streamAfterStop = some s' ∧
        s'.conns[1]? = some (handle, .running conn') ∧
        (∀ event ∈ conn'.log, event.isEntered = false) ∧
        streamAfterStop.countP (ServerStateAction.acceptsAt 0) ≤ s.acceptsLeft 0 ∧
        s'.accepted.length ≤ s.accepted.length + s.acceptingLoops := by
  have hruns : ((runAll (ServerState.step
      (streamServerClass echoStreamServer (Circular.empty 24 fun _ => (0 : UInt8))))
      (fun _ _ => True) {} streamAndScheduled).bind fun s =>
        if s.mRunning = false ∧ s.conns[1]?.any (fun c => c.2.conn?.isNone) = true then
          (runAll (ServerState.step
            (streamServerClass echoStreamServer (Circular.empty 24 fun _ => (0 : UInt8))))
            (fun _ a => a.NoStart) s streamAfterStop).bind fun s' => s'.conns[1]?.bind fun c =>
              c.2.conn?.map fun conn => conn.log.length
        else none) = some 0 := by
    decide +kernel
  obtain ⟨s, hs, hrest⟩ := Option.bind_eq_some_iff.mp hruns
  split at hrest
  · rename_i hstate
    obtain ⟨hstopped, hscheduled⟩ := hstate
    obtain ⟨s', hs', hconn'⟩ := Option.bind_eq_some_iff.mp hrest
    obtain ⟨⟨handle, c⟩, hc, hlog⟩ := Option.bind_eq_some_iff.mp hconn'
    cases c with
    | scheduled w writes e => cases hlog
    | running conn' =>
      obtain ⟨-, hloop, haccepted, -, hentered⟩ := stop_ends_sessions echoStreamServer
        (Circular.empty 24 fun _ => (0 : UInt8)) hstopped (run_iff_runAll.mpr hs')
      have hnone := hentered 1 handle conn' hc
      rcases hold : s.conns[1]? with _ | ⟨handle₀, c₀⟩
      · rw [hold] at hscheduled
        cases hscheduled
      · rw [hold] at hscheduled hnone
        cases c₀ with
        | running conn => cases hscheduled
        | scheduled w writes e =>
          exact ⟨s, s', handle, conn', hs, hs', hc, hnone, hloop 0, haccepted⟩
  · cases hrest

end RpcStreamServer

end GalayRpc
