/-
  The two accounts of `RpcServer::handleConnection` agree.

  `Server` goes from await to await, with the wire and the kernel given in advance; `ServerConn` goes one
  operation on the socket at a time, with everything that can happen next as an action.  What the first
  does is a run of the second:

  * `reads_run` — a read that is awaited is a run of `readv`s, each of which takes the piece that the wire
    hands over, and of the end of the wire;
  * `writes_run` — a write that is awaited is a run of `writev`s;
  * `rounds_run` — a round is these two with a step of the coroutine between them, by induction on the
    fuel.

  So whatever holds of every run of `ServerConn` holds of `handleConnection`.
-/
import GalayRpc.Segmentation

namespace GalayRpc

variable {ρ η ζ : Type} [RingBuffer ρ]

/-! ## What is given in advance -/

/-- The calls of a handler are these. -/
def ServerPhase.HandledBy (handle : Handling η) (i : Nat) (calls : List RpcContextCall) :
    ServerPhase η → Prop
  | .handling handler request => calls = handle i handler request
  | _ => True

/-- What happens is what `server`, its handlers, the end of the wire and the kernel's writes say. -/
def ServerConn.AsGiven (server : RpcServer η ζ) (handle : Handling η) (ending : WireEnd)
    (writes : Nat → WriteEvent) (s : ServerConn ρ η) : ServerAction → Prop
  | .test running => running = server.mRunning s.rounds.length
  | .hangUp e => s.incoming = [] ∧ ending.hangUp = some e
  | .handle calls => s.phase.HandledBy handle s.rounds.length calls
  | .writev event => event.Fails → ∃ j, (writes j).Fails
  | _ => True

namespace Wire

/-- How a `readv` completes that has room for something. -/
theorem readv_cases (w : Wire) {window : Nat} (hwindow : 0 < window) :
    (w.bytes = [] ∧
      ((w.readv window = none ∧ w.ending = .silent) ∨
        (w.readv window = some (.ok [], w) ∧ w.ending = .closed) ∨
        ∃ e, w.readv window = some (.error e, w) ∧ w.ending = .failed e)) ∨
    ∃ piece w', w.bytes = piece ++ w'.bytes ∧ piece ≠ [] ∧ piece.length ≤ window ∧
      w'.ending = w.ending ∧ w.readv window = some (.ok piece, w') := by
  by_cases hbytes : w.bytes = []
  · refine Or.inl ⟨hbytes, ?_⟩
    unfold readv
    rw [if_pos hbytes]
    cases hending : w.ending with
    | silent => exact Or.inl ⟨rfl, rfl⟩
    | closed => exact Or.inr (Or.inl ⟨rfl, rfl⟩)
    | failed e => exact Or.inr (Or.inr ⟨e, rfl, rfl⟩)
  · obtain ⟨piece, rest, hcut, hpiece, hlen, hreadv⟩ := w.readv_nonempty hbytes hwindow
    exact Or.inr ⟨piece, ⟨rest, w.ending, fun i => w.sizes (i + 1)⟩, hcut, hpiece, hlen, rfl, hreadv⟩

end Wire

/-- What a read machine does next. -/
theorem RpcRingBufferReadMachine.advance_cases {σ : Type}
    (parseFromRingBuffer : RpcRingBufferReadState ρ σ → Bool × RpcRingBufferReadState ρ σ)
    (m : RpcRingBufferReadMachine ρ σ) :
    (∃ result m', m.advance parseFromRingBuffer = (.complete result, m') ∧ m'.result = some result) ∨
      ∃ windows m', m.advance parseFromRingBuffer = (.waitReadv windows, m') ∧ m'.result = none := by
  unfold advance
  split
  · exact Or.inl ⟨_, _, rfl, ‹_›⟩
  · split
    · exact Or.inl ⟨_, _, rfl, rfl⟩
    · split
      · exact Or.inl ⟨_, _, rfl, rfl⟩
      · exact Or.inr ⟨_, _, rfl, rfl⟩

namespace ServerConn

variable (server : RpcServer η ζ) (handle : Handling η) (ending : WireEnd) (writes : Nat → WriteEvent)

/-! ## A read -/

/-- The reader's `parseFromRingBuffer`. -/
abbrev parseRequest : RpcRingBufferReadState ρ RpcRequest → Bool × RpcRingBufferReadState ρ RpcRequest :=
  RpcRequestReadState.parseFromRingBuffer {}

/-- What a read has come to that was awaited as `run`. -/
def ReadTo (run : ReadRun ρ RpcRequest) (s : ServerConn ρ η) : Prop :=
  match run.result with
  | none => s.incoming = [] ∧ run.wire.ending = .silent ∧ ∃ windows m, s.advance = (.waitReadv windows, m)
  | some result => s.advance = (.complete result, run.machine)

/-- Where a reader is that has read as far as `run`. -/
def readAs (s : ServerConn ρ η) (m : RpcRingBufferReadMachine ρ RpcRequest) (w : Wire) : ServerConn ρ η :=
  { s with reader := m, incoming := w.bytes }

omit [RingBuffer ρ] in
theorem readAs_self {s : ServerConn ρ η} {w : Wire} (h : s.incoming = w.bytes) :
    s.readAs s.reader w = s := by
  rw [readAs, ← h]

/-- **An awaited read is a run of `readv`s.** -/
theorem reads_run (fuel : Nat) (w : Wire) (s : ServerConn ρ η) (hphase : s.phase = .reading)
    (hincoming : s.incoming = w.bytes) (hending : w.ending = ending)
    (hfuel : s.reader.result = none → w.bytes.length + 2 ≤ fuel) :
    let run := runRead parseRequest fuel s.reader w
    ∃ actions m, Run (ServerConn.step server.mServices) (AsGiven server handle ending writes) s actions
        (s.readAs m run.wire) ∧ ReadTo run (s.readAs m run.wire) := by
  induction fuel generalizing w s with
  | zero =>
    intro run
    obtain ⟨result, hresult⟩ : ∃ result, s.reader.result = some result := by
      rw [← Option.ne_none_iff_exists']
      intro hnone
      have := hfuel hnone
      omega
    have hrun : run = ⟨s.reader, w, []⟩ := runRead_of_result hresult 0 w
    rw [hrun]
    refine ⟨[], s.reader, (readAs_self hincoming).symm ▸ .nil s, ?_⟩
    rw [readAs_self hincoming]
    unfold ReadTo ReadRun.result ServerConn.advance RpcRingBufferReadMachine.advance
    simp only [hresult]
  | succ fuel ih =>
    intro run
    rcases s.reader.advance_cases parseRequest with
      ⟨result, m, hadvance, hresult⟩ | ⟨windows, m, hadvance, hnone⟩
    · have hrun : run = ⟨m, w, []⟩ := by
        show runRead parseRequest (fuel + 1) s.reader w = _
        simp only [runRead, hadvance]
      rw [hrun]
      refine ⟨[], s.reader, (readAs_self hincoming).symm ▸ .nil s, ?_⟩
      rw [readAs_self hincoming]
      unfold ReadTo ReadRun.result
      rw [hresult]
      exact hadvance
    · have hwaits : s.advance = (.waitReadv windows, m) := hadvance
      -- at the end of the wire, what is left is to hand the result over
      have hgone : ∀ e, ending.hangUp = some e → w.bytes = [] →
          s.step server.mServices (.hangUp e) =
            some { s with reader := m.onRead (e.elim (.ok 0) .error) } ∧
          AsGiven server handle ending writes s (.hangUp e) := by
        intro e he hbytes
        refine ⟨?_, hincoming.trans hbytes, he⟩
        rw [step_hangUp hphase]
        unfold ServerConn.hangUp
        rw [hwaits]
        cases e with
        | none => rfl
        | some e => rfl
      rcases w.readv_cases (advance_waitReadv hadvance) with
        ⟨hbytes, ⟨hreadv, hsilent⟩ | ⟨hreadv, hclosed⟩ | ⟨e, hreadv, hfailed⟩⟩ |
          ⟨piece, w', hcut, hpiece, hlen, hending', hreadv⟩
      · have hrun : run = ⟨m, w, [windows]⟩ := by
          show runRead parseRequest (fuel + 1) s.reader w = _
          simp only [runRead, hadvance, hreadv]
        rw [hrun]
        refine ⟨[], s.reader, (readAs_self hincoming).symm ▸ .nil s, ?_⟩
        rw [readAs_self hincoming]
        unfold ReadTo ReadRun.result
        rw [hnone]
        exact ⟨hincoming.trans hbytes, hsilent, windows, m, hadvance⟩
      · have hrun : run = { runRead parseRequest fuel (m.onRead (.ok 0)) w with
            waits := windows :: (runRead parseRequest fuel (m.onRead (.ok 0)) w).waits } := by
          show runRead parseRequest (fuel + 1) s.reader w = _
          simp only [runRead, hadvance, hreadv]
        obtain ⟨hstep, hgiven⟩ := hgone none (by rw [← hending, hclosed]; rfl) hbytes
        obtain ⟨actions, m', hrest, hread⟩ := ih w { s with reader := m.onRead (.ok 0) } hphase hincoming
          hending (fun hnone => by cases hnone)
        rw [hrun]
        exact ⟨_, m', .cons hgiven hstep hrest, hread⟩
      · have hrun : run = { runRead parseRequest fuel (m.onRead (.error e)) w with
            waits := windows :: (runRead parseRequest fuel (m.onRead (.error e)) w).waits } := by
          show runRead parseRequest (fuel + 1) s.reader w = _
          simp only [runRead, hadvance, hreadv]
        obtain ⟨hstep, hgiven⟩ := hgone (some e) (by rw [← hending, hfailed]; rfl) hbytes
        obtain ⟨actions, m', hrest, hread⟩ := ih w { s with reader := m.onRead (.error e) } hphase hincoming
          hending (fun hnone => by cases hnone)
        rw [hrun]
        exact ⟨_, m', .cons hgiven hstep hrest, hread⟩
      · have hreaderNone : s.reader.result = none := by
          rw [← Option.not_isSome_iff_eq_none]
          intro hsome
          obtain ⟨result, hresult⟩ := Option.isSome_iff_exists.mp hsome
          unfold RpcRingBufferReadMachine.advance at hadvance
          rw [hresult] at hadvance
          cases hadvance
        have hcount : w.bytes.length = piece.length + w'.bytes.length := by
          rw [hcut, List.length_append]
        have hpos := List.length_pos_of_ne_nil hpiece
        have hlasts := hfuel hreaderNone
        have hrun : run = { runRead parseRequest fuel ((m.filled piece).onRead (.ok piece.length)) w' with
            waits := windows ::
              (runRead parseRequest fuel ((m.filled piece).onRead (.ok piece.length)) w').waits } := by
          obtain ⟨b, bs, rfl⟩ := List.exists_cons_of_ne_nil hpiece
          show runRead parseRequest (fuel + 1) s.reader w = _
          simp only [runRead, hadvance, hreadv]
        have htake : s.incoming.take piece.length = piece := by
          rw [hincoming, hcut, List.take_left]
        have hdrop : s.incoming.drop piece.length = w'.bytes := by
          rw [hincoming, hcut, List.drop_left]
        have hstep : s.step server.mServices (.readv piece.length) = some { s with
            reader := (m.filled piece).onRead (.ok piece.length)
            incoming := w'.bytes } := by
          rw [step_readv hphase]
          unfold ServerConn.readv
          rw [hwaits]
          simp only [htake, hdrop]
          exact if_pos ⟨hpiece, hlen⟩
        obtain ⟨actions, m', hrest, hread⟩ := ih w'
          { s with reader := (m.filled piece).onRead (.ok piece.length), incoming := w'.bytes } hphase rfl
          (hending'.trans hending) (fun _ => by omega)
        have hgiven : AsGiven server handle ending writes s (.readv piece.length) := trivial
        rw [hrun]
        exact ⟨_, m', .cons hgiven hstep hrest, hread⟩

/-! ## A write -/

/-- A `writev` that a sink makes is one the kernel can make of what is offered. -/
theorem writev_step {write : WritevRun} {iovecs : List Bytes}
    (hmachine : write.machine = ⟨⟨iovecs, none⟩, none⟩) (hnil : iovecs ≠ [])
    (hne : ∀ iov ∈ iovecs, iov ≠ []) (k : Sink) :
    ∃ event put, (k.writev iovecs).2 = ⟨k.sent ++ put, fun i => k.writes (i + 1)⟩ ∧
      write.step event = some ⟨write.machine.onWrite (k.writev iovecs).1, write.accepted ++ put,
        write.log ++ [event]⟩ ∧ (event.Fails → (k.writes 0).Fails) := by
  have hpos := flatten_length_pos hnil hne
  unfold WritevRun.step Sink.writev
  rw [hmachine, advance_waitWritev hnil]
  rcases hevent : k.writes 0 with n | _ | e
  · refine ⟨.accept (min iovecs.flatten.length (max 1 n)), _, rfl, if_pos ?_, id⟩
    omega
  · refine ⟨.zero, [], ?_, ?_, id⟩
    · rw [List.append_nil]
    · rw [List.append_nil]
  · refine ⟨.failed e, [], ?_, ?_, id⟩
    · rw [List.append_nil]
    · rw [List.append_nil]

/-- What has become of a connection whose response write has ended. -/
def written (s : ServerConn ρ η) (round : Round η) (put : Bytes) : RpcAwaitableResult → ServerConn ρ η
  | .ok _ => { s with
      sent := s.sent ++ put
      phase := .testing
      log := s.log ++ [.responded round.response] }
  | .error e => { s with
      sent := s.sent ++ put
      lastError := some e
      phase := .closing
      log := s.log ++ [.sendFailed round.response e] }

/-- **An awaited write is a run of `writev`s.** -/
theorem writes_run {round : Round η} (fuel : Nat) (k : Sink) (write : WritevRun) (s : ServerConn ρ η)
    (hphase : s.phase = .sending round write) (hnone : write.machine.result = none)
    (hsending : WritevRun.Sending round.response.serialize write)
    (hwrites : ∀ i, (k.writes i).Fails → ∃ j, (writes j).Fails)
    (hfuel : round.response.serialize.length + 2 ≤ fuel + write.accepted.length) :
    let run := runWrite fuel write.machine k
    ∃ actions put result, run.result = some result ∧ run.sink.sent = k.sent ++ put ∧
      (∃ j, run.sink.writes = fun i => k.writes (i + j)) ∧
      Run (ServerConn.step server.mServices) (AsGiven server handle ending writes) s actions
        (s.written round put result) := by
  induction fuel generalizing k write s with
  | zero =>
    have hle : write.accepted.length ≤ round.response.serialize.length := by
      rw [← hsending.sends.accepted, List.length_append]
      omega
    omega
  | succ fuel ih =>
    intro run
    cases hsending with
    | done hmachine =>
      rw [hmachine] at hnone
      cases hnone
    | failed iovecs e hmachine =>
      rw [hmachine] at hnone
      cases hnone
    | writing iovecs hmachine hnil hne hbytes hlog =>
      have hsending : WritevRun.Sending round.response.serialize write :=
        .writing iovecs hmachine hnil hne hbytes hlog
      obtain ⟨event, put, hsink, hwrite, hfails⟩ := writev_step hmachine hnil hne k
      have hrun : run = runWrite fuel (write.machine.onWrite (k.writev iovecs).1) (k.writev iovecs).2 := by
        show runWrite (fuel + 1) write.machine k = _
        rw [hmachine]
        exact runWrite_step hnil fuel k
      rw [hsink] at hrun
      generalize hmachine' : write.machine.onWrite (k.writev iovecs).1 = machine at hwrite hrun
      have hsending' := hsending.step hwrite
      have hstep : s.step server.mServices (.writev event) =
          some (s.wrote round write ⟨machine, write.accepted ++ put, write.log ++ [event]⟩) := by
        unfold ServerConn.step
        rw [hphase]
        simp only [hwrite, Option.map_some]
      have hgiven : AsGiven server handle ending writes s (.writev event) := fun h => hwrites 0 (hfails h)
      have hput : (write.accepted ++ put).drop write.accepted.length = put := List.drop_left
      cases hresult : machine.result with
      | some result =>
        have hover : run = ⟨machine, ⟨k.sent ++ put, fun i => k.writes (i + 1)⟩⟩ := by
          rw [hrun]
          exact runWrite_of_result hresult fuel _
        have hwritten : s.wrote round write ⟨machine, write.accepted ++ put, write.log ++ [event]⟩ =
            s.written round put result := by
          unfold ServerConn.wrote written
          simp only [hresult, hput]
          cases result with
          | ok _ => rfl
          | error _ => rfl
        rw [hover]
        exact ⟨[.writev event], put, result, hresult, rfl, ⟨1, rfl⟩, .cons hgiven hstep (hwritten ▸ .nil _)⟩
      | none =>
        -- the kernel has taken something, and what is left is what the fuel is for
        have hgoes : ¬ event.Fails := by
          cases hsending' with
          | writing _ _ _ _ _ hclear => exact hclear event (List.mem_append_right _ List.mem_cons_self)
          | done hmachine =>
            rw [show machine = _ from hmachine] at hresult
            cases hresult
          | failed _ e hmachine =>
            rw [show machine = _ from hmachine] at hresult
            cases hresult
        have hmore := (WritevRun.accepts_of_step hwrite hgoes).2
        have hwrote : s.wrote round write ⟨machine, write.accepted ++ put, write.log ++ [event]⟩ =
            { s with
              sent := s.sent ++ put
              phase := .sending round ⟨machine, write.accepted ++ put, write.log ++ [event]⟩ } := by
          unfold ServerConn.wrote
          simp only [hresult, hput]
        obtain ⟨actions, put', result, hdone, hsent, ⟨j, hlater⟩, hrest⟩ :=
          ih ⟨k.sent ++ put, fun i => k.writes (i + 1)⟩
            ⟨machine, write.accepted ++ put, write.log ++ [event]⟩
            { s with
              sent := s.sent ++ put
              phase := .sending round ⟨machine, write.accepted ++ put, write.log ++ [event]⟩ }
            rfl hresult hsending' (fun i => hwrites (i + 1)) (by omega)
        have hwritten : ({ s with
              sent := s.sent ++ put
              phase := .sending round ⟨machine, write.accepted ++ put, write.log ++ [event]⟩ }
            : ServerConn ρ η).written round put' result = s.written round (put ++ put') result := by
          cases result with
          | ok _ => simp only [written, List.append_assoc]
          | error _ => simp only [written, List.append_assoc]
        rw [hrun]
        refine ⟨.writev event :: actions, put ++ put', result, hdone, ?_, ⟨j + 1, hlater⟩, ?_⟩
        · rw [hsent, List.append_assoc]
        · exact .cons hgiven (hwrote ▸ hstep) (hwritten ▸ hrest)

/-! ## A round -/

/-- A connection that has handled the request of `round` and starts to write its response. -/
def handled (s : ServerConn ρ η) (m : RpcRingBufferReadMachine ρ RpcRequest) (cache : RouteCache η)
    (round : Round η) (dispatched : List (ServerEvent η)) : ServerConn ρ η :=
  { s with
    reader := m
    cache := cache
    received := s.received ++ [round.request]
    rounds := s.rounds ++ [round]
    phase := .sending round (.start (RpcResponseWriteState round.response))
    log := s.log ++ .received round.request :: dispatched }

/-- **A request that has been read is handled**, by its handler or without one. -/
theorem handles {s : ServerConn ρ η} {b : Bool} {m : RpcRingBufferReadMachine ρ RpcRequest}
    (hphase : s.phase = .reading) (hadvance : s.advance = (.complete (.ok b), m)) :
    let found := findHandler server.mServices buildRouteHash s.cache m.state.own
    let result := handleRequest handle s.rounds.length found.1 m.state.own
    ∃ actions round, round.request = m.state.own ∧ round.response = result.1 ∧
      Run (ServerConn.step server.mServices) (AsGiven server handle ending writes) s actions
        (s.handled m found.2 round result.2) := by
  intro found result
  have hreceive : s.step server.mServices .receive =
      some ({ s with reader := m }.dispatch server.mServices m.state.own) := by
    rw [step_receive hphase]
    unfold ServerConn.receive
    rw [hadvance]
  have hgiven : AsGiven server handle ending writes s .receive := trivial
  cases hfound : found.1 with
  | error code =>
    have hresult : result = handleRequest handle s.rounds.length (.error code) m.state.own := by
      show handleRequest handle s.rounds.length found.1 m.state.own = _
      rw [hfound]
    have hdispatch : { s with reader := m }.dispatch server.mServices m.state.own =
        s.handled m found.2 ⟨m.state.own, .error code, []⟩ [] := by
      unfold ServerConn.dispatch
      simp only [show (findHandler server.mServices buildRouteHash s.cache m.state.own).1 = _ from hfound]
      rfl
    rw [hdispatch] at hreceive
    rw [hresult]
    exact ⟨[.receive], ⟨m.state.own, .error code, []⟩, rfl, rfl, .cons hgiven hreceive (.nil _)⟩
  | ok handler =>
    let calls := handle s.rounds.length handler m.state.own
    have hresult : result = handleRequest handle s.rounds.length (.ok handler) m.state.own := by
      show handleRequest handle s.rounds.length found.1 m.state.own = _
      rw [hfound]
    have hdispatch : { s with reader := m }.dispatch server.mServices m.state.own =
        { s with
          reader := m
          cache := found.2
          received := s.received ++ [m.state.own]
          phase := .handling handler m.state.own
          log := s.log ++ [.received m.state.own] ++ [.dispatched handler m.state.own] } := by
      unfold ServerConn.dispatch
      simp only [show (findHandler server.mServices buildRouteHash s.cache m.state.own).1 = _ from hfound]
      rfl
    have hlog : s.log ++ [.received m.state.own] ++ [.dispatched handler m.state.own] =
        s.log ++ .received m.state.own ::
          (handleRequest handle s.rounds.length (.ok handler) m.state.own).2 := by
      rw [List.append_assoc]
      rfl
    rw [hdispatch] at hreceive
    rw [hresult]
    refine ⟨[.receive, .handle calls], ⟨m.state.own, .ok handler, calls⟩, rfl, rfl,
      .cons hgiven hreceive ?_⟩
    unfold ServerConn.handled
    rw [← hlog]
    exact .cons rfl rfl (.nil _)

/-- The connection is over, or waits for more from a silent wire. -/
def Finished (ending : WireEnd) (s : ServerConn ρ η) : Prop :=
  s.phase = .ended ∨
    (s.phase = .reading ∧ s.incoming = [] ∧ ending = .silent ∧
      ∃ windows m, s.advance = (.waitReadv windows, m))

/-- What is left is to close the socket. -/
theorem closes {s : ServerConn ρ η} (hphase : s.phase = .closing) :
    ∃ s', Run (ServerConn.step server.mServices) (AsGiven server handle ending writes) s
        [.close (.ok ())] s' ∧
      s'.log = s.log ++ [.closed] ∧ s'.sent = s.sent ∧ s'.Finished ending := by
  refine ⟨{ s with lastError := s.lastError, phase := .ended, log := s.log ++ [.closed] }, ?_, rfl, rfl,
    Or.inl rfl⟩
  refine .cons trivial ?_ (.nil _)
  unfold ServerConn.step
  rw [hphase]

/-- A read that fails is the last one. -/
theorem read_fails {s : ServerConn ρ η} {e : RpcError} {m : RpcRingBufferReadMachine ρ RpcRequest}
    (hphase : s.phase = .reading) (hadvance : s.advance = (.complete (.error e), m)) :
    ∃ s', Run (ServerConn.step server.mServices) (AsGiven server handle ending writes) s
        [.receive, .close (.ok ())] s' ∧
      s'.log = s.log ++ [.readFailed e, .closed] ∧ s'.sent = s.sent ∧ s'.Finished ending := by
  let failed : ServerConn ρ η := { s with
    reader := m
    lastError := some e
    phase := .closing
    log := s.log ++ [.readFailed e] }
  have hreceive : s.step server.mServices .receive = some failed := by
    rw [step_receive hphase]
    unfold ServerConn.receive
    rw [hadvance]
  have hgiven : AsGiven server handle ending writes s .receive := trivial
  obtain ⟨s', hclose, hlog, hsent, hfinished⟩ :=
    closes server handle ending writes (s := failed) rfl
  refine ⟨s', .cons hgiven hreceive hclose, ?_, hsent, hfinished⟩
  rw [hlog, List.append_assoc]
  rfl

/-- **A request that has been read is answered**, as far as the kernel lets it be. -/
theorem answers_run {s : ServerConn ρ η} {b : Bool} {m : RpcRingBufferReadMachine ρ RpcRequest}
    (hphase : s.phase = .reading) (hadvance : s.advance = (.complete (.ok b), m)) (k : Sink)
    (hwrites : ∀ i, (k.writes i).Fails → ∃ j, (writes j).Fails) :
    let found := findHandler server.mServices buildRouteHash s.cache m.state.own
    let result := handleRequest handle s.rounds.length found.1 m.state.own
    let write := awaitWrite (RpcResponseWriteState result.1) k
    ∃ actions round put ended, round.request = m.state.own ∧ round.response = result.1 ∧
      write.result = some ended ∧ write.sink.sent = k.sent ++ put ∧
      (∃ j, write.sink.writes = fun i => k.writes (i + j)) ∧
      Run (ServerConn.step server.mServices) (AsGiven server handle ending writes) s actions
        ((s.handled m found.2 round result.2).written round put ended) := by
  intro found result write
  obtain ⟨actions, round, hrequest, hresponse, hhandles⟩ :=
    handles server handle ending writes hphase hadvance
  have hflat := RpcResponseWriteState_flatten round.response
  have hsending : WritevRun.Sending round.response.serialize
      (WritevRun.start (RpcResponseWriteState round.response)) := by
    rw [← hflat]
    exact WritevRun.Sending.start rfl (List.cons_ne_nil _ _) (RpcResponseWriteState_ne_nil _)
  obtain ⟨actions', put, ended, hended, hsent, hlater, hwritten⟩ := writes_run server handle ending writes
    ((RpcResponseWriteState round.response).iovecs.flatten.length + 2) k
    (WritevRun.start (RpcResponseWriteState round.response)) (s.handled m found.2 round result.2) rfl rfl
    hsending hwrites (by rw [hflat]; exact Nat.le_add_right _ _)
  have hwrite : write = runWrite ((RpcResponseWriteState round.response).iovecs.flatten.length + 2)
      (WritevRun.start (RpcResponseWriteState round.response)).machine k := by
    show awaitWrite (RpcResponseWriteState result.1) k = _
    rw [← hresponse]
    rfl
  rw [hwrite]
  exact ⟨actions ++ actions', round, put, ended, hrequest, hresponse, hended, hsent, hlater,
    hhandles.append hwritten⟩

/-! ## The loop -/

/-- A read that succeeds takes something off the stream. -/
theorem unread_lt_of_read {M α : Type} {msg : M → α} {p : FrameParser RpcErrorCode α}
    {stream unread : Bytes} {capacity : Nat} {own m : M} {ending : WireEnd} {b : Bool}
    (h : ReadEnds msg p stream capacity own ending (some (.ok b)) m unread) :
    unread.length < stream.length := by
  generalize hresult : some (Except.ok b) = result at h
  cases h with
  | read hparse =>
    obtain ⟨hpos, hle⟩ := p.consumes hparse
    rw [List.length_drop]
    omega
  | refused hparse => cases hresult
  | full hparse hlen => cases hresult
  | ended hparse hlt =>
    cases ending with
    | _ => cases hresult

/-- The coroutine at the head of its loop, in round `i`. -/
structure AtHead (ending : WireEnd) (writes : Nat → WriteEvent) (c : ConnState ρ η) (i : Nat)
    (s : ServerConn ρ η) : Prop where
  phase : s.phase = .testing
  ring : s.ringBuffer = c.ringBuffer
  cache : s.cache = c.cache
  incoming : s.incoming = c.wire.bytes
  ending : c.wire.ending = ending
  writes : ∀ j, (c.sink.writes j).Fails → ∃ j', (writes j').Fails
  rounds : s.rounds.length = i

/-- **The loop is a run**, round by round. -/
theorem rounds_run (fuel i : Nat) (c : ConnState ρ η) (s : ServerConn ρ η)
    (h : s.AtHead ending writes c i)
    (hfuel : (RingBuffer.content c.ringBuffer ++ c.wire.bytes).length < fuel) :
    let run := server.handleRequests handle fuel i c
    ∃ actions s' put, Run (ServerConn.step server.mServices) (AsGiven server handle ending writes) s
        actions s' ∧
      s'.log = s.log ++ run.log ∧ run.sink.sent = c.sink.sent ++ put ∧ s'.sent = s.sent ++ put ∧
      s'.Finished ending := by
  induction fuel generalizing i c s with
  | zero => omega
  | succ fuel ih =>
    intro run
    cases hrunning : server.mRunning i with
    | false =>
      have hrun : run = ⟨[.closed], c.sink⟩ := by
        show server.handleRequests handle (fuel + 1) i c = _
        unfold RpcServer.handleRequests
        rw [if_neg (by rw [hrunning]; exact Bool.false_ne_true)]
      obtain ⟨s', hclose, hlog, hsent, hfinished⟩ :=
        closes server handle ending writes
          (s := { s with phase := .closing }) rfl
      have hgiven : AsGiven server handle ending writes s (.test false) := by
        show false = server.mRunning s.rounds.length
        rw [h.rounds, hrunning]
      have hstep : s.step server.mServices (.test false) = some { s with phase := .closing } := by
        unfold ServerConn.step
        rw [h.phase]
      rw [hrun]
      refine ⟨_, s', [], .cons hgiven hstep hclose, hlog, (List.append_nil _).symm, ?_, hfinished⟩
      rw [hsent, List.append_nil]
    | true =>
      have hstart : s.step server.mServices (.test true) = some s.getRequest := by
        unfold ServerConn.step
        rw [h.phase]
      have hstarted : AsGiven server handle ending writes s (.test true) := by
        show true = server.mRunning s.rounds.length
        rw [h.rounds, hrunning]
      obtain ⟨hends, -, -, hending⟩ := awaitRead_ends (request_readsFrames {})
        (s := { ringBuffer := c.ringBuffer, own := ({} : RpcRequest) }) rfl c.wire
      generalize hread : awaitRead (RpcRequestReadState.parseFromRingBuffer {})
        { ringBuffer := c.ringBuffer, own := ({} : RpcRequest) } c.wire = read at hends hending
      have hsame : runRead parseRequest (c.wire.bytes.length + 2) s.getRequest.reader c.wire = read := by
        rw [← hread, ← h.ring]
        rfl
      obtain ⟨actions, m, hreads, hto⟩ := reads_run server handle ending writes
        (c.wire.bytes.length + 2) c.wire s.getRequest rfl h.incoming h.ending (fun _ => Nat.le_refl _)
      rw [hsame] at hreads hto
      have hbefore := Run.cons hstarted hstart hreads
      unfold ReadTo at hto
      cases hresult : read.result with
      | none =>
        have hrun : run = ⟨[], c.sink⟩ := by
          show server.handleRequests handle (fuel + 1) i c = _
          unfold RpcServer.handleRequests
          simp only [hrunning, hread, hresult, if_true]
        simp only [hresult] at hto
        obtain ⟨hincoming, hsilent, hwaits⟩ := hto
        rw [hrun]
        refine ⟨_, _, [], hbefore, (List.append_nil _).symm, (List.append_nil _).symm,
          (List.append_nil _).symm, Or.inr ⟨rfl, hincoming, ?_, hwaits⟩⟩
        rw [← h.ending, ← hending, hsilent]
      | some result =>
        simp only [hresult] at hto
        cases result with
        | error e =>
          have hrun : run = ⟨[.readFailed e, .closed], c.sink⟩ := by
            show server.handleRequests handle (fuel + 1) i c = _
            unfold RpcServer.handleRequests
            simp only [hrunning, hread, hresult, if_true]
          obtain ⟨s', hfails, hlog, hsent, hfinished⟩ :=
            read_fails server handle ending writes (s := s.getRequest.readAs m read.wire) rfl hto
          rw [hrun]
          refine ⟨_, s', [], hbefore.append hfails, hlog, (List.append_nil _).symm, ?_, hfinished⟩
          rw [hsent, List.append_nil]
          rfl
        | ok b =>
          obtain ⟨actions', round, put, ended, hrequest, hresponse, hended, hsent, ⟨j, hlater⟩, hanswers⟩ :=
            answers_run server handle ending writes
              (s := s.getRequest.readAs m read.wire) rfl hto c.sink h.writes
          have hsofar := hbefore.append hanswers
          let found := findHandler server.mServices buildRouteHash c.cache read.own
          let result := handleRequest handle i found.1 read.own
          have hcache : (s.getRequest.readAs m read.wire).cache = c.cache := h.cache
          have hrounds : (s.getRequest.readAs m read.wire).rounds.length = i := h.rounds
          have hown : read.machine.state.own = read.own := rfl
          simp only [hcache, hrounds, hown] at hrequest hresponse hended hsent hlater hsofar
          let answered := ((s.getRequest.readAs m read.wire).handled read.machine found.2 round
            result.2).written round put ended
          cases ended with
          | error e =>
            have hrun : run.log =
                  .received read.own :: result.2 ++ [.sendFailed round.response e, .closed] ∧
                run.sink.sent = c.sink.sent ++ put := by
              show (server.handleRequests handle (fuel + 1) i c).log = _ ∧
                (server.handleRequests handle (fuel + 1) i c).sink.sent = _
              unfold RpcServer.handleRequests
              simp only [hrunning, hread, hresult, hended, if_true]
              rw [hresponse]
              exact ⟨rfl, hsent⟩
            obtain ⟨s', hclose, hlog, hput, hfinished⟩ :=
              closes server handle ending writes
                (s := answered) rfl
            refine ⟨_, s', put, hsofar.append hclose, ?_, hrun.2, hput, hfinished⟩
            have hanswered : answered.log =
                s.log ++ .received round.request :: result.2 ++ [.sendFailed round.response e] := rfl
            rw [hlog, hanswered, hrun.1, hrequest]
            simp only [List.append_assoc, List.cons_append, List.nil_append]
          | ok b' =>
            -- the next round starts behind the request that was read, which was not nothing
            let next : ConnState ρ η := ⟨read.ringBuffer, found.2, read.wire,
              (awaitWrite (RpcResponseWriteState result.1) c.sink).sink⟩
            let rest := server.handleRequests handle fuel (i + 1) next
            have hrun : run = ⟨.received read.own :: result.2 ++ .responded round.response :: rest.log,
                rest.sink⟩ := by
              show server.handleRequests handle (fuel + 1) i c = _
              unfold RpcServer.handleRequests
              simp only [hrunning, hread, hresult, hended, if_true]
              rw [hresponse]
            have hshorter : (RingBuffer.content next.ringBuffer ++ next.wire.bytes).length < fuel := by
              show read.unread.length < fuel
              rw [hresult] at hends
              have hless : read.unread.length < (RingBuffer.content c.ringBuffer ++ c.wire.bytes).length :=
                unread_lt_of_read hends
              omega
            have hhead : answered.AtHead ending writes next (i + 1) := by
              refine ⟨rfl, rfl, rfl, rfl, hending.trans h.ending, ?_, ?_⟩
              · intro j' hfails
                rw [show next.sink.writes = _ from hlater] at hfails
                exact h.writes _ hfails
              · show (s.rounds ++ [round]).length = i + 1
                rw [List.length_append, h.rounds]
                rfl
            obtain ⟨actions'', s', put', hrest, hlog, hsink, hput, hfinished⟩ :=
              ih (i + 1) next answered hhead hshorter
            have hanswered : answered.log =
                s.log ++ .received round.request :: result.2 ++ [.responded round.response] := rfl
            refine ⟨_, s', put ++ put', hsofar.append hrest, ?_, ?_, ?_, hfinished⟩
            · rw [hlog, hanswered, hrun, hrequest]
              simp only [List.append_assoc, List.cons_append, List.nil_append]
              rfl
            · rw [hrun]
              show rest.sink.sent = _
              rw [hsink, ← List.append_assoc, ← hsent]
            · rw [hput, ← List.append_assoc]
              rfl

/-- **`handleConnection`, from await to await, is one of the runs of the connection**: with the same log
    and the same bytes sent, up to where the connection is over or waits. -/
theorem handleConnection_runs (server : RpcServer η ζ) (handle : Handling η) {ring : ρ}
    (hempty : RingBuffer.content ring = []) (w : Wire) (k : Sink) :
    let run := server.handleConnection handle ring w k
    ∃ actions s, Run (ServerConn.step server.mServices) (AsGiven server handle w.ending k.writes)
        { start ring with incoming := w.bytes } actions s ∧
      s.log = run.log ∧ run.sink.sent = k.sent ++ s.sent ∧ s.Finished w.ending := by
  intro run
  have hhead : ({ start ring with incoming := w.bytes } : ServerConn ρ η).AtHead w.ending k.writes
      ⟨ring, .empty, w, k⟩ 0 := ⟨rfl, rfl, rfl, rfl, rfl, fun j hfails => ⟨j, hfails⟩, rfl⟩
  have hfuel : (RingBuffer.content ring ++ w.bytes).length < w.bytes.length + 1 := by
    rw [hempty, List.nil_append]
    exact Nat.lt_succ_self _
  obtain ⟨actions, s, put, hrun, hlog, hsink, hput, hfinished⟩ :=
    rounds_run server handle w.ending k.writes (w.bytes.length + 1) 0 ⟨ring, .empty, w, k⟩ _ hhead hfuel
  refine ⟨actions, s, hrun, hlog, ?_, hfinished⟩
  rw [hput]
  exact hsink

theorem handleConnection_runs_echo :
    let w : Wire := ⟨echoThenJunk, .silent, fun i => 7 * i⟩
    let run := RpcServer.echoServer.handleConnection RpcServer.echoHandler
      (Circular.empty 40 fun _ => (0 : UInt8)) w ⟨[], fun i => .accept (i + 3)⟩
    ∃ actions s, Run (ServerConn.step RpcServer.echoServer.mServices)
        (AsGiven RpcServer.echoServer RpcServer.echoHandler .silent fun i => .accept (i + 3))
        { start (Circular.empty 40 fun _ => (0 : UInt8)) with incoming := echoThenJunk } actions s ∧
      s.log = run.log ∧ run.sink.sent = [] ++ s.sent ∧ s.Finished .silent :=
  handleConnection_runs RpcServer.echoServer RpcServer.echoHandler rfl
    ⟨echoThenJunk, .silent, fun i => 7 * i⟩ ⟨[], fun i => .accept (i + 3)⟩

end ServerConn

end GalayRpc
