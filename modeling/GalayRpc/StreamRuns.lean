/-
  The two accounts of `RpcStreamServer::handleConnection` agree.

  `StreamServer` goes from await to await, with the wire and the kernel given in advance; `StreamLink` goes
  one operation on the socket at a time.  What the first does is a run of the second:

  * `ReadConn.reads_run` — a read that is awaited, of any read state class, is a run of `readv`s and of the
    end of the wire: all but the last leave it waiting;
  * `WritevRun.writes_run` — a send that is awaited is a run of `writev`s, all but the last of which leave
    it waiting;
  * `Mirrors` — where the one is between two awaits, and where the other is then;
  * `handleConnection_mirrored` — by induction on the run.

  So whatever holds of every run of the server's end of a `StreamLink` holds of every run of
  `StreamServerConn` whose handlers write with their own stream's methods.
-/
import GalayRpc.ServerRuns
import GalayRpc.StreamTalks

namespace GalayRpc

variable {ρ η ζ : Type} [RingBuffer ρ]

/-! ## A read -/

/-- The read goes on behind this. -/
def ReadAction.Continues {M : Type} : ReadAction M → Prop
  | .read _ => False
  | .timeout => False
  | _ => True

namespace ReadConn

variable {σ M : Type} (c : ReadStateClass ρ σ M)

/-- A step behind which a read is waiting. -/
def await (s : ReadConn ρ σ M) (action : ReadAction M) : Option (ReadConn ρ σ M) :=
  (s.step c action).filter fun s' =>
    match s'.reader with
    | .suspended _ _ _ => true
    | .idle _ => false

/-- What a completed read delivers. -/
def delivery (object : M) (own : σ) : RpcAwaitableResult → List (M × M)
  | .ok true => [(object, c.leave own)]
  | _ => []

theorem proceed_of_complete {s : ReadConn ρ σ M} {m m' : RpcRingBufferReadMachine ρ σ} {object : M}
    {received : Bytes} {result : RpcAwaitableResult}
    (hadvance : m.advance c.parseFromRingBuffer = (.complete result, m')) :
    s.proceed c m object received =
      { s with
        reader := .idle m'.state.ringBuffer
        delivered := s.delivered ++ delivery c object m'.state.own result } := by
  unfold proceed
  rw [hadvance]
  rcases result with e | b
  · simp only [delivery, List.append_nil]
  · cases b with
    | true => rfl
    | false => simp only [delivery, List.append_nil]

theorem proceed_of_wait {s : ReadConn ρ σ M} {m m' : RpcRingBufferReadMachine ρ σ} {object : M}
    {received : Bytes} {windows : List Nat}
    (hadvance : m.advance c.parseFromRingBuffer = (.waitReadv windows, m')) :
    s.proceed c m object received = { s with reader := .suspended m' object received } := by
  unfold proceed
  rw [hadvance]

theorem await_eq_some {s s' : ReadConn ρ σ M} {action : ReadAction M} {m : RpcRingBufferReadMachine ρ σ}
    {object : M} {received : Bytes} (hstep : s.step c action = some s')
    (hreader : s'.reader = .suspended m object received) : s.await c action = some s' := by
  unfold await
  rw [hstep, Option.filter_some, hreader]
  rfl

/-- What an awaited read has come to: it waits on a silent wire, or its last step has ended it. -/
inductive ReadTo (s : ReadConn ρ σ M) (object : M) (machine : RpcRingBufferReadMachine ρ σ) (w : Wire)
    (first : ReadAction M) : Prop where
  | waits (actions : List (ReadAction M)) (received : Bytes) (hresult : machine.result = none)
      (hwire : w.bytes = []) (hactions : ∀ a ∈ actions, a = first ∨ a.Continues)
      (hrun : Run (ReadConn.await c) (fun _ _ => True) s actions
        { s with reader := .suspended machine object received, arriving := [] })
  | ended (actions : List (ReadAction M)) (s₁ : ReadConn ρ σ M) (last : ReadAction M)
      (m : RpcRingBufferReadMachine ρ σ) (result : RpcAwaitableResult) (hresult : machine.result = some result)
      (hactions : ∀ a ∈ actions ++ [last], a = first ∨ a.Continues)
      (hrun : Run (ReadConn.await c) (fun _ _ => True) s actions s₁)
      (hdelivered : s₁.delivered = s.delivered) (hmachine : s₁.machine? c last = some m)
      (hadvance : m.advance c.parseFromRingBuffer = (.complete result, machine))
      (htrue : result ≠ .ok false)
      (hlast : s₁.step c last = some
        { s with
          reader := .idle machine.state.ringBuffer
          arriving := w.bytes
          delivered := s.delivered ++ delivery c object machine.state.own result })

variable {c}

theorem ReadTo.cons {s s₂ : ReadConn ρ σ M} {object : M} {machine : RpcRingBufferReadMachine ρ σ} {w : Wire}
    {first a : ReadAction M} (hstep : s.await c first = some s₂) (hs₂ : s₂.delivered = s.delivered)
    (hcont : a.Continues) (h : ReadTo c s₂ object machine w a) : ReadTo c s object machine w first := by
  have hlater : ∀ b, b = a ∨ b.Continues → b = first ∨ b.Continues := by
    rintro b (rfl | hb)
    · exact Or.inr hcont
    · exact Or.inr hb
  have hall : ∀ actions : List (ReadAction M), (∀ b ∈ actions, b = a ∨ b.Continues) →
      ∀ b ∈ first :: actions, b = first ∨ b.Continues := by
    intro actions hactions b hb
    rcases List.mem_cons.mp hb with rfl | hb
    · exact Or.inl rfl
    · exact hlater b (hactions b hb)
  cases h with
  | waits actions received hresult hwire hactions hrun =>
    rw [hs₂] at hrun
    exact .waits (first :: actions) received hresult hwire (hall actions hactions) (.cons trivial hstep hrun)
  | ended actions s₁ last m result hresult hactions hrun hdelivered hmachine hadvance htrue hlast =>
    rw [hs₂] at hlast
    exact .ended (first :: actions) s₁ last m result hresult (hall _ hactions) (.cons trivial hstep hrun)
      (hdelivered.trans hs₂) hmachine hadvance htrue hlast

/-- A read returns `true` or an error. -/
theorem result_ne_false {m m' : RpcRingBufferReadMachine ρ σ} {result : RpcAwaitableResult}
    {parse : RpcRingBufferReadState ρ σ → Bool × RpcRingBufferReadState ρ σ}
    (hadvance : m.advance parse = (.complete result, m')) (htrue : m.result ≠ some (.ok false)) :
    result ≠ .ok false := by
  have htake : ∀ error, takeResult error ≠ .ok false := by
    intro error
    cases error with
    | none => nofun
    | some e => nofun
  unfold RpcRingBufferReadMachine.advance at hadvance
  split at hadvance
  · rename_i result' hresult
    cases hadvance
    rw [hresult] at htrue
    exact fun h => htrue (congrArg some h)
  · split at hadvance
    · cases hadvance
      exact htake _
    · split at hadvance
      · cases hadvance
        exact htake _
      · cases hadvance

theorem windows_of_advance {m m' : RpcRingBufferReadMachine ρ σ} {windows : List Nat}
    {parse : RpcRingBufferReadState ρ σ → Bool × RpcRingBufferReadState ρ σ}
    (h : m.advance parse = (.waitReadv windows, m')) : windows = m'.state.readIovecs := by
  unfold RpcRingBufferReadMachine.advance at h
  split at h
  · cases h
  · split at h
    · cases h
    · split at h
      · cases h
      · cases h
        rfl

/-- The machine completes without another `readv`. -/
theorem ReadTo.at_once {s : ReadConn ρ σ M} {object : M} {m m' : RpcRingBufferReadMachine ρ σ} {w : Wire}
    {received : Bytes} {first : ReadAction M} {result : RpcAwaitableResult}
    (hmachine : s.machine? c first = some m)
    (hfirst : s.step c first =
      some (({ s with arriving := w.bytes } : ReadConn ρ σ M).proceed c m object received))
    (hadvance : m.advance c.parseFromRingBuffer = (.complete result, m')) (hresult : m'.result = some result)
    (htrue : m.result ≠ some (.ok false)) : ReadTo c s object m' w first := by
  refine .ended [] s first m result hresult (fun a ha => Or.inl (List.mem_singleton.mp ha)) (.nil s) rfl
    hmachine hadvance (result_ne_false hadvance htrue) ?_
  rw [hfirst, proceed_of_complete c hadvance]

/-- **An awaited read is a run of `readv`s.** -/
theorem reads_run (object : M) (fuel : Nat) (w : Wire) (s : ReadConn ρ σ M)
    (m : RpcRingBufferReadMachine ρ σ) (received : Bytes) (first : ReadAction M)
    (hmachine : s.machine? c first = some m)
    (hfirst : s.step c first =
      some (({ s with arriving := w.bytes } : ReadConn ρ σ M).proceed c m object received))
    (htrue : m.result ≠ some (.ok false)) (hfuel : m.result = none → w.bytes.length + 2 ≤ fuel) :
    let run := runRead c.parseFromRingBuffer fuel m w
    ReadTo c s object run.machine run.wire first := by
  induction fuel generalizing w s m received first with
  | zero =>
    intro run
    obtain ⟨result, hresult⟩ : ∃ result, m.result = some result := by
      rw [← Option.ne_none_iff_exists']
      intro hnone
      have := hfuel hnone
      omega
    have hrun : run = ⟨m, w, []⟩ := runRead_of_result hresult 0 w
    rw [hrun]
    refine ReadTo.at_once hmachine hfirst ?_ hresult htrue
    unfold RpcRingBufferReadMachine.advance
    rw [hresult]
  | succ fuel ih =>
    intro run
    rcases m.advance_cases c.parseFromRingBuffer with
      ⟨result, m', hadvance, hresult⟩ | ⟨windows, m', hadvance, hnone⟩
    · have hrun : run = ⟨m', w, []⟩ := by
        show runRead c.parseFromRingBuffer (fuel + 1) m w = _
        simp only [runRead, hadvance]
      rw [hrun]
      exact .at_once hmachine hfirst hadvance hresult htrue
    · -- the read waits
      have hwindow := windows_of_advance hadvance
      have hwaits : s.step c first = some
          { s with reader := .suspended m' object received, arriving := w.bytes } :=
        hfirst.trans (congrArg some (proceed_of_wait c hadvance))
      have hawait := await_eq_some c hwaits rfl
      rcases w.readv_cases (advance_waitReadv hadvance) with
        ⟨hbytes, ⟨hreadv, -⟩ | ⟨hreadv, -⟩ | ⟨e, hreadv, -⟩⟩ | ⟨piece, w', hcut, hpiece, hlen, -, hreadv⟩
      · have hrun : run = ⟨m', w, [windows]⟩ := by
          show runRead c.parseFromRingBuffer (fuel + 1) m w = _
          simp only [runRead, hadvance, hreadv]
        rw [hrun]
        refine .waits [first] received hnone hbytes (fun a ha => Or.inl (List.mem_singleton.mp ha)) ?_
        rw [hbytes] at hawait
        exact .cons trivial hawait (.nil _)
      · have hrun : run = { runRead c.parseFromRingBuffer fuel (m'.onRead (.ok 0)) w with
            waits := windows :: (runRead c.parseFromRingBuffer fuel (m'.onRead (.ok 0)) w).waits } := by
          show runRead c.parseFromRingBuffer (fuel + 1) m w = _
          simp only [runRead, hadvance, hreadv]
        rw [hrun]
        have hrest := ih w { s with reader := .suspended m' object received, arriving := w.bytes }
          (m'.onRead (.ok 0)) received .peerCloses rfl rfl (fun h => by cases h)
          (fun hnone => by cases hnone)
        exact hrest.cons hawait rfl (by exact trivial)
      · have hrun : run = { runRead c.parseFromRingBuffer fuel (m'.onRead (.error e)) w with
            waits := windows :: (runRead c.parseFromRingBuffer fuel (m'.onRead (.error e)) w).waits } := by
          show runRead c.parseFromRingBuffer (fuel + 1) m w = _
          simp only [runRead, hadvance, hreadv]
        rw [hrun]
        have hrest := ih w { s with reader := .suspended m' object received, arriving := w.bytes }
          (m'.onRead (.error e)) received (.readvFails e) rfl rfl (fun h => by cases h)
          (fun hnone => by cases hnone)
        exact hrest.cons hawait rfl (by exact trivial)
      · have hmNone : m.result = none := by
          rw [← Option.not_isSome_iff_eq_none]
          intro hsome
          obtain ⟨result, hresult⟩ := Option.isSome_iff_exists.mp hsome
          unfold RpcRingBufferReadMachine.advance at hadvance
          rw [hresult] at hadvance
          cases hadvance
        have hcount : w.bytes.length = piece.length + w'.bytes.length := by
          rw [hcut, List.length_append]
        have hpos := List.length_pos_of_ne_nil hpiece
        have hlasts := hfuel hmNone
        have hrun : run = { runRead c.parseFromRingBuffer fuel ((m'.filled piece).onRead (.ok piece.length)) w' with
            waits := windows ::
              (runRead c.parseFromRingBuffer fuel ((m'.filled piece).onRead (.ok piece.length)) w').waits } := by
          obtain ⟨b, bs, rfl⟩ := List.exists_cons_of_ne_nil hpiece
          show runRead c.parseFromRingBuffer (fuel + 1) m w = _
          simp only [runRead, hadvance, hreadv]
        have htake : w.bytes.take piece.length = piece := by
          rw [hcut, List.take_left]
        have hdrop : w.bytes.drop piece.length = w'.bytes := by
          rw [hcut, List.drop_left]
        rw [hrun]
        have hroom : 0 < piece.length ∧ piece.length ≤ m'.state.readIovecs.sum ∧
            piece.length ≤ w.bytes.length := ⟨hpos, hwindow ▸ hlen, by omega⟩
        have hrest := ih w' { s with reader := .suspended m' object received, arriving := w.bytes }
          ((m'.filled piece).onRead (.ok piece.length)) (received ++ piece) (.readv piece.length)
          (by simp only [machine?, htake]) (by
            unfold ReadConn.step
            simp only [if_pos hroom, htake, hdrop]) (fun h => by
              rw [show ((m'.filled piece).onRead (.ok piece.length)).result = none from by
                obtain ⟨b, bs, rfl⟩ := List.exists_cons_of_ne_nil hpiece
                exact hnone] at h
              cases h) (fun _ => by omega)
        exact hrest.cons hawait rfl (by exact trivial)

end ReadConn

section Await

variable {σ M : Type} {c : ReadStateClass ρ σ M} {s s' : ReadConn ρ σ M} {action : ReadAction M}

/-- A read that waits has delivered nothing, and is not being ended. -/
theorem ReadConn.await_spec (h : s.await c action = some s') :
    s.step c action = some s' ∧ (∃ m object received, s'.reader = .suspended m object received) ∧
      s'.delivered = s.delivered ∧ ¬ action.Interrupts := by
  obtain ⟨hstep, hwaits⟩ := Option.filter_eq_some_iff.mp h
  have hsuspended : ∃ m object received, s'.reader = .suspended m object received := by
    split at hwaits
    · exact ⟨_, _, _, ‹_›⟩
    · cases hwaits
  have hproceed : ∀ (t : ReadConn ρ σ M) machine object received,
      (∃ m object' received', (t.proceed c machine object received).reader = .suspended m object' received') →
      (t.proceed c machine object received).delivered = t.delivered := by
    rintro t machine object received ⟨m, object', received', hreader⟩
    unfold ReadConn.proceed at hreader ⊢
    split
    · rename_i hadvance
      rw [hadvance] at hreader
      cases hreader
    · rfl
    · rfl
  refine ⟨hstep, hsuspended, ?_⟩
  cases ReadConn.step_cases c hstep with
  | start ring object hidle => exact ⟨hproceed _ _ _ _ hsuspended, id⟩
  | piece machine object received piece rest => exact ⟨hproceed _ _ _ _ hsuspended, id⟩
  | ended machine object received =>
    obtain ⟨m, object', received', hreader⟩ := hsuspended
    cases hreader

/-- More bytes behind those that the read takes. -/
theorem ReadConn.await_extend (h : s.await c action = some s') (t : Bytes) :
    ({ s with arriving := s.arriving ++ t } : ReadConn ρ σ M).await c action =
      some { s' with arriving := s'.arriving ++ t } := by
  obtain ⟨hstep, ⟨m, object, received, hreader⟩, -⟩ := ReadConn.await_spec h
  exact ReadConn.await_eq_some c (ReadConn.step_extend hstep t) hreader

theorem ReadConn.awaits_extend {actions : List (ReadAction M)}
    (h : Run (ReadConn.await c) (fun _ _ => True) s actions s') (t : Bytes) :
    Run (ReadConn.await c) (fun _ _ => True) { s with arriving := s.arriving ++ t } actions
      { s' with arriving := s'.arriving ++ t } :=
  h.project (fun s => { s with arriving := s.arriving ++ t }) (fun _ _ _ => trivial)
    (fun _ _ _ hstep => ReadConn.await_extend hstep t)

end Await

theorem StreamEnd.read_of_await {s : StreamEnd ρ} {action : ReadAction StreamMessage} {conn : StreamConn ρ}
    (h : s.conn.await streamMessageReadState action = some conn) :
    s.read action = some { s with conn := conn } := by
  obtain ⟨hstep, -, -, hgoes⟩ := ReadConn.await_spec h
  have hpending : HeaderPending s.conn action := fun hinterrupts => absurd hinterrupts hgoes
  unfold read
  rw [hstep, decide_eq_true hpending, Option.map_some]
  simp

/-! ## A write -/

/-- A `writev` behind which the write goes on. -/
def WritevRun.await (write : WritevRun) (event : WriteEvent) : Option WritevRun :=
  (write.step event).filter fun write' => write'.machine.result.isNone

/-- **An awaited write is a run of `writev`s**, the last of which ends it. -/
theorem WritevRun.writes_run {bytes : Bytes} (fuel : Nat) (k : Sink) (write : WritevRun)
    (hnone : write.machine.result = none) (hsending : WritevRun.Sending bytes write)
    (hfuel : bytes.length + 2 ≤ fuel + write.accepted.length) :
    let run := runWrite fuel write.machine k
    ∃ events write₁ last write₂ put, Run WritevRun.await (fun _ _ => True) write events write₁ ∧
      write₁.step last = some write₂ ∧ write₂.machine.result = run.result ∧ run.result.isSome = true ∧
      write₂.accepted = write.accepted ++ put ∧ run.sink.sent = k.sent ++ put := by
  induction fuel generalizing k write with
  | zero =>
    have hle : write.accepted.length ≤ bytes.length := by
      rw [← hsending.sends.accepted, List.length_append]
      omega
    omega
  | succ fuel ih =>
    intro run
    cases hsending with
    | done hmachine =>
      rw [hmachine] at hnone
      cases hnone
    | failed iovecs e hmachine =>
      rw [hmachine] at hnone
      cases hnone
    | writing iovecs hmachine hnil hne hbytes hlog =>
      have hsending : WritevRun.Sending bytes write := .writing iovecs hmachine hnil hne hbytes hlog
      obtain ⟨event, put, hsink, hwrite, -⟩ := ServerConn.writev_step hmachine hnil hne k
      have hrun : run = runWrite fuel (write.machine.onWrite (k.writev iovecs).1) (k.writev iovecs).2 := by
        show runWrite (fuel + 1) write.machine k = _
        rw [hmachine]
        exact runWrite_step hnil fuel k
      rw [hsink] at hrun
      generalize hmachine' : write.machine.onWrite (k.writev iovecs).1 = machine at hwrite hrun
      have hsending' := hsending.step hwrite
      cases hresult : machine.result with
      | some result =>
        have hover : run = ⟨machine, ⟨k.sent ++ put, fun i => k.writes (i + 1)⟩⟩ := by
          rw [hrun]
          exact runWrite_of_result hresult fuel _
        rw [hover]
        refine ⟨[], write, event, _, put, .nil _, hwrite, rfl, ?_, rfl, rfl⟩
        show machine.result.isSome = true
        rw [hresult]
        rfl
      | none =>
        -- the kernel has taken something, and what is left is what the fuel is for
        have hgoes : ¬ event.Fails := by
          cases hsending' with
          | writing _ _ _ _ _ hclear => exact hclear event (List.mem_append_right _ List.mem_cons_self)
          | done hmachine =>
            rw [show machine = _ from hmachine] at hresult
            cases hresult
          | failed _ e hmachine =>
            rw [show machine = _ from hmachine] at hresult
            cases hresult
        have hmore := (WritevRun.accepts_of_step hwrite hgoes).2
        obtain ⟨events, write₁, last, write₂, put', hevents, hlast, hends, hsome, haccepted, hsent⟩ :=
          ih ⟨k.sent ++ put, fun i => k.writes (i + 1)⟩
            ⟨machine, write.accepted ++ put, write.log ++ [event]⟩ hresult hsending' (by omega)
        have hawait : write.await event = some ⟨machine, write.accepted ++ put, write.log ++ [event]⟩ := by
          unfold await
          rw [hwrite, Option.filter_some, hresult]
          rfl
        rw [hrun]
        refine ⟨event :: events, write₁, last, write₂, put ++ put', .cons trivial hawait hevents, hlast,
          hends, hsome, ?_, ?_⟩
        · rw [haccepted, List.append_assoc]
        · rw [hsent, List.append_assoc]

/-! ## The server's end -/

namespace StreamServerEnd

variable (server : RpcStreamServer η ζ)

/-- A step of the server's end, with all that it has put on the connection. -/
def stepSent (t : StreamServerEnd ρ ζ × Bytes) (move : StreamServerMove) :
    Option (StreamServerEnd ρ ζ × Bytes) :=
  (t.1.step server move).map fun stepped => (stepped.1, t.2 ++ stepped.2)

/-- Where the end is when its reading side is at `conn`, or its write at `write`. -/
def withConn (e : StreamServerEnd ρ ζ) (conn : StreamConn ρ) : StreamServerEnd ρ ζ :=
  { e with side := { e.side with conn := conn } }

def withWrite (e : StreamServerEnd ρ ζ) (frame : StreamFrame) (write : WritevRun) : StreamServerEnd ρ ζ :=
  { e with side := { e.side with writer := .writing frame write } }

variable {e : StreamServerEnd ρ ζ}

/-- A read that waits is a run of moves. -/
theorem awaits_run {g : ReadAction StreamMessage → StreamServerMove} {P : ReadAction StreamMessage → Prop}
    (hg : ∀ conn a conn', P a → conn.await streamMessageReadState a = some conn' →
      (e.withConn conn).step server (g a) = some (e.withConn conn', [])) (sent : Bytes)
    {conn conn' : StreamConn ρ} {actions : List (ReadAction StreamMessage)}
    (hrun : Run (ReadConn.await streamMessageReadState) (fun _ _ => True) conn actions conn')
    (hok : ∀ a ∈ actions, P a) :
    Run (stepSent server) (fun _ _ => True) (e.withConn conn, sent) (actions.map g) (e.withConn conn', sent) := by
  induction hrun with
  | nil conn => exact .nil _
  | cons _ hstep _ ih =>
    refine .cons trivial ?_ (ih fun a ha => hok a (List.mem_cons_of_mem _ ha))
    unfold stepSent
    rw [hg _ _ _ (hok _ List.mem_cons_self) hstep, Option.map_some, List.append_nil]

theorem step_loopReads {s : StreamServerEnd ρ ζ} (hphase : s.phase = .reading)
    {a : ReadAction StreamMessage} (hok : a.ByLoop) :
    s.step server (.loopReads a) = (s.loopRead server a).map fun s' => (s', []) := by
  unfold step
  rw [hphase]
  exact if_pos hok

theorem step_loopWrites {s : StreamServerEnd ρ ζ} {stream : RpcStream} {handler : Except RpcError ζ}
    (hphase : s.phase = .answering stream handler) (event : WriteEvent) :
    s.step server (.loopWrites event) = (s.side.writev event).map fun written =>
      (s.loopWrote stream handler written.1 written.2.2, written.2.1) := by
  unfold step
  rw [hphase]

theorem step_handlerReads {s : StreamServerEnd ρ ζ} {handler : ζ} {stream : RpcStream}
    (hphase : s.phase = .handling handler stream) (a : ReadAction StreamMessage) :
    s.step server (.handlerReads a) = (s.side.read a).map fun side =>
      ({ s with
        side := side
        serving := s.serving.map fun e =>
          { e with toStreamSide := e.reads (side.messages.drop s.side.messages.length) } }, []) := by
  unfold step
  rw [hphase]

theorem step_handlerSends {s : StreamServerEnd ρ ζ} {handler : ζ} {stream : RpcStream}
    (hphase : s.phase = .handling handler stream) (send : StreamSend) :
    s.step server (.handlerSends send) = (s.side.send (stream.frame send)).map fun side =>
      ({ s with
        side := side
        serving := s.serving.map fun e =>
          { e with toStreamSide := e.writes (stream.frame send) } }, []) := by
  unfold step
  rw [hphase]

theorem step_handlerWrites {s : StreamServerEnd ρ ζ} {handler : ζ} {stream : RpcStream}
    (hphase : s.phase = .handling handler stream) (event : WriteEvent) :
    s.step server (.handlerWrites event) =
      (s.side.writev event).map fun written => ({ s with side := written.1 }, written.2.1) := by
  unfold step
  rw [hphase]

omit [RingBuffer ρ] in
theorem messages_none (side : StreamEnd ρ) {conn' : StreamConn ρ}
    (h : conn'.delivered = side.conn.delivered) :
    ({ side with conn := conn' } : StreamEnd ρ).messages.drop side.messages.length = [] := by
  unfold StreamEnd.messages
  rw [h, List.drop_length]

/-- The loop's read waits. -/
theorem loopReads_await (hphase : e.phase = .reading) (conn : StreamConn ρ) (a : ReadAction StreamMessage)
    (conn' : StreamConn ρ) (hok : a.ByLoop) (h : conn.await streamMessageReadState a = some conn') :
    (e.withConn conn).step server (.loopReads a) = some (e.withConn conn', []) := by
  obtain ⟨-, ⟨m, object, received, hreader⟩, hdelivered, -⟩ := ReadConn.await_spec h
  have hread : (e.withConn conn).side.read a = some { (e.withConn conn).side with conn := conn' } :=
    StreamEnd.read_of_await h
  have hnone := messages_none (e.withConn conn).side hdelivered
  have hloop : (e.withConn conn).loopRead server a = some (e.withConn conn') := by
    unfold loopRead
    rw [hread, Option.bind_some]
    simp only [hnone, hreader]
    rfl
  rw [step_loopReads server (s := e.withConn conn) hphase hok, hloop, Option.map_some]

/-- A handler's read waits. -/
theorem handlerReads_await {handler : ζ} {stream : RpcStream} (hphase : e.phase = .handling handler stream)
    (conn : StreamConn ρ) (a : ReadAction StreamMessage) (conn' : StreamConn ρ)
    (h : conn.await streamMessageReadState a = some conn') :
    (e.withConn conn).step server (.handlerReads a) = some (e.withConn conn', []) := by
  obtain ⟨-, -, hdelivered, -⟩ := ReadConn.await_spec h
  have hread : (e.withConn conn).side.read a = some { (e.withConn conn).side with conn := conn' } :=
    StreamEnd.read_of_await h
  have hnone := messages_none (e.withConn conn).side hdelivered
  have hsame : e.serving.map (fun e => { e with toStreamSide := e.reads [] }) = e.serving := by
    cases e.serving with
    | none => rfl
    | some e => simp only [Option.map_some, StreamSide.reads, List.append_nil]
  rw [step_handlerReads server (s := e.withConn conn) hphase, hread, Option.map_some]
  simp only [hnone]
  rw [show (e.withConn conn).serving = e.serving from rfl, hsame]
  rfl

/-- A write that goes on is a run of moves. -/
theorem writes_await {g : WriteEvent → StreamServerMove} {frame : StreamFrame}
    (hg : ∀ write event write', write.await event = some write' →
      (e.withWrite frame write).step server (g event) =
        some (e.withWrite frame write', write'.accepted.drop write.accepted.length)) (sent : Bytes)
    {write write' : WritevRun} {events : List WriteEvent}
    (hrun : Run WritevRun.await (fun _ _ => True) write events write') :
    Run (stepSent server) (fun _ _ => True) (e.withWrite frame write, sent ++ write.accepted) (events.map g)
      (e.withWrite frame write', sent ++ write'.accepted) := by
  induction hrun with
  | nil write => exact .nil _
  | @cons write write₁ write₂ event events _ hstep _ ih =>
    refine .cons trivial ?_ ih
    have haccepted := WritevRun.accepted_of_step (Option.filter_eq_some_iff.mp hstep).1
    unfold stepSent
    rw [hg _ _ _ hstep, Option.map_some]
    show some (_, sent ++ write.accepted ++ write₁.accepted.drop write.accepted.length) = some (_, _)
    rw [List.append_assoc, ← haccepted]

omit [RingBuffer ρ] in
theorem writev_withWrite {frame : StreamFrame} {write write' : WritevRun} {event : WriteEvent}
    (h : write.step event = some write') :
    (e.withWrite frame write).side.writev event =
      some ({ (e.withWrite frame write).side with writer := .after frame write' },
        write'.accepted.drop write.accepted.length, write'.machine.result) := by
  show (write.step event).map _ = _
  rw [h]
  rfl

theorem after_of_await (frame : StreamFrame) {write write' : WritevRun} {event : WriteEvent}
    (h : write.await event = some write') :
    write'.machine.result = none ∧ StreamWriter.after frame write' = .writing frame write' := by
  have hnone := Option.isNone_iff_eq_none.mp (Option.filter_eq_some_iff.mp h).2
  refine ⟨hnone, ?_⟩
  unfold StreamWriter.after
  rw [hnone]

theorem loopWrites_await {stream : RpcStream} {handler : Except RpcError ζ}
    (hphase : e.phase = .answering stream handler) (frame : StreamFrame) (write : WritevRun)
    (event : WriteEvent) (write' : WritevRun) (h : write.await event = some write') :
    (e.withWrite frame write).step server (.loopWrites event) =
      some (e.withWrite frame write', write'.accepted.drop write.accepted.length) := by
  obtain ⟨hnone, hafter⟩ := after_of_await frame h
  rw [step_loopWrites server (s := e.withWrite frame write) hphase,
    writev_withWrite (Option.filter_eq_some_iff.mp h).1, Option.map_some]
  simp only [hnone, hafter]
  rfl

theorem handlerWrites_await {handler : ζ} {stream : RpcStream} (hphase : e.phase = .handling handler stream)
    (frame : StreamFrame) (write : WritevRun) (event : WriteEvent) (write' : WritevRun)
    (h : write.await event = some write') :
    (e.withWrite frame write).step server (.handlerWrites event) =
      some (e.withWrite frame write', write'.accepted.drop write.accepted.length) := by
  obtain ⟨-, hafter⟩ := after_of_await frame h
  rw [step_handlerWrites server (s := e.withWrite frame write) hphase,
    writev_withWrite (Option.filter_eq_some_iff.mp h).1, Option.map_some]
  simp only [hafter]
  rfl

end StreamServerEnd

/-! ## The two accounts -/

/-- The message that an event is the reading of. -/
def StreamServerEvent.read? : StreamServerEvent ζ → Option StreamMessage
  | .received initFrame => some initFrame
  | .handlerRead message (.ok true) => some message
  | _ => none

/-- No write is in progress. -/
def StreamWriter.Free : StreamWriter → Prop
  | .writing _ _ => False
  | _ => True

/-- The writing side at an await: behind a read of the loop, the answer has begun. -/
def StreamServerPhase.Writer (writer : StreamWriter) : StreamServerPhase ζ → Prop
  | .answering stream handler =>
    writer = .writing (stream.frame (answerSend handler))
      (.start (stream.frame (answerSend handler)).writeState)
  | _ => writer.Free

/-- A connection between two awaits, and its socket with all it has put on the connection. -/
structure Mirrors (s : StreamServerConn ρ ζ) (t : StreamServerEnd ρ ζ × Bytes) : Prop where
  phase : t.1.phase = s.phase
  reader : t.1.side.conn.reader = .idle s.ringBuffer
  arriving : t.1.side.conn.arriving = s.wire.bytes
  lastError : t.1.lastError = s.lastError
  messages : t.1.side.messages = s.log.filterMap StreamServerEvent.read?
  writer : s.phase.Writer t.1.side.writer
  sent : t.2 = s.sink.sent

omit [RingBuffer ρ] in
theorem Mirrors.at_phase {s : StreamServerConn ρ ζ} {t : StreamServerEnd ρ ζ × Bytes} (h : Mirrors s t)
    {phase : StreamServerPhase ζ} (hphase : s.phase = phase) :
    t.1.phase = phase ∧ phase.Writer t.1.side.writer :=
  ⟨h.phase.trans hphase, hphase ▸ h.writer⟩

omit [RingBuffer ρ] in
/-- Behind events that are no reading of a message. -/
theorem Mirrors.unread {s : StreamServerConn ρ ζ} {t : StreamServerEnd ρ ζ × Bytes} (h : Mirrors s t)
    {events : List (StreamServerEvent ζ)} (hevents : events.filterMap StreamServerEvent.read? = []) :
    t.1.side.messages = (s.log ++ events).filterMap StreamServerEvent.read? := by
  rw [List.filterMap_append, hevents, List.append_nil]
  exact h.messages

namespace StreamServerConn

variable (server : RpcStreamServer η ζ) {s s' : StreamServerConn ρ ζ} {t : StreamServerEnd ρ ζ × Bytes}

/-- What `getMessage` does is a run of `readv`s. -/
theorem getMessage_run (s : StreamServerConn ρ ζ) (message : StreamMessage) (w : Wire)
    (delivered : List (StreamMessage × StreamMessage)) :
    ReadConn.ReadTo streamMessageReadState ⟨.idle s.ringBuffer, w.bytes, delivered⟩ message
      (s.getMessage message w).machine (s.getMessage message w).wire (.read message) :=
  ReadConn.reads_run message _ w _ _ (RingBuffer.content s.ringBuffer) _ rfl rfl nofun fun _ => le_rfl

/-- What an awaited send does is a run of `writev`s. -/
theorem send_run (frame : StreamFrame) (k : Sink) :
    ∃ events write₁ last write₂ result, Run WritevRun.await (fun _ _ => True) (.start frame.writeState) events write₁ ∧
      write₁.step last = some write₂ ∧ write₂.machine.result = some result ∧
      (awaitWrite frame.writeState k).result = some result ∧
      (awaitWrite frame.writeState k).sink.sent = k.sent ++ write₂.accepted := by
  obtain ⟨events, write₁, last, write₂, put, hevents, hlast, hends, hsome, haccepted, hsent⟩ :=
    WritevRun.writes_run (frame.writeState.iovecs.flatten.length + 2) k (.start frame.writeState) rfl
      frame.sending_start le_rfl
  obtain ⟨result, hresult⟩ := Option.isSome_iff_exists.mp hsome
  refine ⟨events, write₁, last, write₂, result, hevents, hlast, hends.trans hresult, hresult, ?_⟩
  rw [haccepted]
  exact hsent

/-- One move. -/
theorem one_move {e e' : StreamServerEnd ρ ζ} (sent : Bytes) {put : Bytes} {move : StreamServerMove}
    (h : e.step server move = some (e', put)) :
    Run (StreamServerEnd.stepSent server) (fun _ _ => True) (e, sent) [move] (e', sent ++ put) :=
  .cons trivial (congrArg (Option.map _) h) (.nil _)

omit [RingBuffer ρ] in
theorem send_of_free {side : StreamEnd ρ} (h : side.writer.Free) (frame : StreamFrame) :
    side.send frame = some { side with
      writer := .writing frame (.start frame.writeState)
      begun := side.begun ++ [frame] } := by
  unfold StreamEnd.send
  split
  · rename_i hwriter
    rw [hwriter] at h
    cases h
  · rfl

omit [RingBuffer ρ] in
/-- The reading side, put together again. -/
theorem conn_of_mirrors (h : Mirrors s t) :
    t.1 = t.1.withConn ⟨.idle s.ringBuffer, s.wire.bytes, t.1.side.conn.delivered⟩ := by
  have hconn : t.1.side.conn = ⟨.idle s.ringBuffer, s.wire.bytes, t.1.side.conn.delivered⟩ := by
    rw [← h.reader, ← h.arriving]
  unfold StreamServerEnd.withConn
  rw [← hconn]

omit [RingBuffer ρ] in
theorem messages_more {side side' : StreamEnd ρ} {more : List (StreamMessage × StreamMessage)}
    (h : side'.conn.delivered = side.conn.delivered ++ more) :
    side'.messages = side.messages ++ more.map Prod.snd := by
  unfold StreamEnd.messages
  rw [h, List.map_append]

omit [RingBuffer ρ] in
theorem new_messages {side side' : StreamEnd ρ} {more : List (StreamMessage × StreamMessage)}
    (h : side'.conn.delivered = side.conn.delivered ++ more) :
    side'.messages.drop side.messages.length = more.map Prod.snd := by
  rw [messages_more h, List.drop_left]

theorem read_of_last {e : StreamServerEnd ρ ζ} {conn conn' : StreamConn ρ}
    {last : ReadAction StreamMessage} (hlast : conn.step streamMessageReadState last = some conn') :
    ∃ side', (e.withConn conn).side.read last = some side' ∧ side'.conn = conn' ∧
      side'.writer = e.side.writer :=
  ⟨_, congrArg (Option.map _) hlast, rfl, rfl⟩

/-- **The loop's read.** -/
theorem mirrors_readInit (h : Mirrors s t) (hphase : s.phase = .reading)
    (hstep : s.readInit server = some s') :
    ∃ moves t', Run (StreamServerEnd.stepSent server) (fun _ _ => True) t moves t' ∧ Mirrors s' t' := by
  obtain ⟨e, sent⟩ := t
  obtain ⟨hephase, hwriter⟩ : e.phase = .reading ∧ e.side.writer.Free := h.at_phase hphase
  have hconn : e = e.withConn _ := conn_of_mirrors h
  unfold readInit at hstep
  dsimp only at hstep
  cases s.getMessage_run {} s.wire e.side.conn.delivered with
  | waits actions received hresult =>
    rw [show (s.getMessage {} s.wire).result = none from hresult] at hstep
    cases hstep
  | ended actions s₁ last m result hresult hactions hrun hdelivered hmachine hadvance htrue hlast =>
    rw [show (s.getMessage {} s.wire).result = some result from hresult] at hstep
    have hok : ∀ a ∈ actions ++ [last], a.ByLoop := by
      intro a ha
      rcases hactions a ha with rfl | hcont
      · rfl
      · cases a with
        | read message => cases hcont
        | timeout => cases hcont
        | _ => trivial
    have hwaits := StreamServerEnd.awaits_run server (e := e)
      (fun conn a conn' hok h => StreamServerEnd.loopReads_await server hephase conn a conn' hok h) sent hrun
      (fun a ha => hok a (List.mem_append_left _ ha))
    rw [← hconn] at hwaits
    obtain ⟨side', hread, hconn', hside'⟩ := read_of_last (e := e) hlast
    have hmove := StreamServerEnd.step_loopReads server (s := e.withConn s₁) hephase
      (hok last (List.mem_append_right _ List.mem_cons_self))
    have hmore : side'.conn.delivered = e.side.conn.delivered ++
        ReadConn.delivery (streamMessageReadState (ρ := ρ)) {} (s.getMessage {} s.wire).machine.state.own result :=
      congrArg ReadConn.delivered hconn'
    have hbefore : e.side.conn.delivered = (e.withConn s₁).side.conn.delivered := hdelivered.symm
    have hnew := new_messages (hbefore ▸ hmore)
    have hmsgs : side'.messages = s.log.filterMap StreamServerEvent.read? ++
        (ReadConn.delivery (streamMessageReadState (ρ := ρ)) {} (s.getMessage {} s.wire).machine.state.own result).map
          Prod.snd := by
      rw [messages_more hmore, show e.side.messages = _ from h.messages]
    unfold StreamServerEnd.loopRead at hmove
    rw [hread, Option.bind_some] at hmove
    cases result with
    | error failure =>
      obtain rfl := Option.some.inj hstep
      have hidle : side'.conn.reader = .idle (s.getMessage {} s.wire).ringBuffer := by
        rw [hconn']
        rfl
      have hfailure : (e.withConn s₁).side.conn.failure streamMessageReadState last = some failure := by
        show s₁.failure streamMessageReadState last = _
        unfold ReadConn.failure
        rw [hmachine]
        simp only [hadvance]
      simp only [hnew, ReadConn.delivery, List.map_nil, hidle, hfailure, Option.map_some] at hmove
      refine ⟨_, _, hwaits.append (one_move server _ hmove), rfl, hidle, ?_, rfl, ?_, ?_, ?_⟩
      · show side'.conn.arriving = _
        rw [hconn']
      · show side'.messages = _
        rw [hmsgs, List.filterMap_append]
        rfl
      · show side'.writer.Free
        rw [hside']
        exact hwriter
      · exact (List.append_nil sent).trans h.sent
    | ok b =>
      obtain rfl : b = true := by
        cases b with
        | true => rfl
        | false => exact absurd rfl htrue
      obtain rfl := Option.some.inj hstep
      have hfree : side'.writer.Free := by
        rw [hside']
        exact hwriter
      have hmessage : (streamMessageReadState (ρ := ρ)).leave (s.getMessage {} s.wire).machine.state.own =
          (s.getMessage {} s.wire).own.message := rfl
      simp only [hnew, ReadConn.delivery, hmessage, List.map_cons, List.map_nil, StreamServerEnd.answer,
        send_of_free hfree, Option.map_some] at hmove
      refine ⟨_, _, hwaits.append (one_move server _ hmove), rfl, ?_, ?_, ?_, ?_, rfl, ?_⟩
      · show side'.conn.reader = _
        rw [hconn']
        rfl
      · show side'.conn.arriving = _
        rw [hconn']
      · cases (server.dispatch (s.getMessage {} s.wire).own.message).2 with
        | error failure => rfl
        | ok handler => exact h.lastError
      · show side'.messages = _
        rw [hmsgs, List.filterMap_append]
        rfl
      · exact (List.append_nil sent).trans h.sent

theorem free_after (frame : StreamFrame) {write : WritevRun} {result : RpcAwaitableResult}
    (h : write.machine.result = some result) : (StreamWriter.after frame write).Free := by
  unfold StreamWriter.after
  rw [h]
  cases result with
  | error e => trivial
  | ok b => trivial

/-- A send up to its last `writev`. -/
theorem writes_mirror {e : StreamServerEnd ρ ζ} {g : WriteEvent → StreamServerMove} (frame : StreamFrame)
    (hg : ∀ write event write', write.await event = some write' →
      (e.withWrite frame write).step server (g event) =
        some (e.withWrite frame write', write'.accepted.drop write.accepted.length)) (k : Sink) :
    ∃ (events : List WriteEvent) (write₁ : WritevRun) (last : WriteEvent) (write₂ : WritevRun)
        (result : RpcAwaitableResult),
      Run (StreamServerEnd.stepSent server) (fun _ _ => True)
        (e.withWrite frame (.start frame.writeState), k.sent) (events.map g)
        (e.withWrite frame write₁, k.sent ++ write₁.accepted) ∧
      write₁.step last = some write₂ ∧ write₂.machine.result = some result ∧
      (awaitWrite frame.writeState k).result = some result ∧
      k.sent ++ write₁.accepted ++ write₂.accepted.drop write₁.accepted.length =
        (awaitWrite frame.writeState k).sink.sent := by
  obtain ⟨events, write₁, last, write₂, result, hevents, hlast, hresult, hawaited, hsent⟩ := send_run frame k
  have hwaits := StreamServerEnd.writes_await server hg k.sent hevents
  rw [show k.sent ++ (WritevRun.start frame.writeState).accepted = k.sent from List.append_nil _] at hwaits
  refine ⟨events, write₁, last, write₂, result, hwaits, hlast, hresult, hawaited, ?_⟩
  rw [List.append_assoc, ← WritevRun.accepted_of_step hlast, hsent]

/-- **The loop's answer.** -/
theorem mirrors_sendAnswer (h : Mirrors s t) {stream : RpcStream} {handler : Except RpcError ζ}
    (hphase : s.phase = .answering stream handler) (hstep : s.sendAnswer stream handler = some s') :
    ∃ moves t', Run (StreamServerEnd.stepSent server) (fun _ _ => True) t moves t' ∧ Mirrors s' t' := by
  obtain ⟨e, sent⟩ := t
  obtain rfl : sent = s.sink.sent := h.sent
  obtain ⟨hephase, hwriter⟩ : e.phase = .answering stream handler ∧
      e.side.writer = .writing (stream.frame (answerSend handler))
        (.start (stream.frame (answerSend handler)).writeState) := h.at_phase hphase
  have hself : e.withWrite (stream.frame (answerSend handler))
      (.start (stream.frame (answerSend handler)).writeState) = e := by
    unfold StreamServerEnd.withWrite
    rw [← hwriter]
  obtain ⟨events, write₁, last, write₂, result, hwaits, hlast, hresult, hawaited, hsent⟩ :=
    writes_mirror server (e := e) (stream.frame (answerSend handler))
      (fun write event write' h => StreamServerEnd.loopWrites_await server hephase _ write event write' h) s.sink
  rw [hself] at hwaits
  have hmove := StreamServerEnd.step_loopWrites server
    (s := e.withWrite (stream.frame (answerSend handler)) write₁) hephase last
  rw [StreamServerEnd.writev_withWrite hlast, Option.map_some] at hmove
  have hfree := free_after (stream.frame (answerSend handler)) hresult
  unfold sendAnswer at hstep
  dsimp only at hstep
  cases handler with
  | error failure =>
    rw [show (awaitWrite (stream.frame .sendCancel).writeState s.sink).result = some result from hawaited]
      at hstep
    cases result with
    | error failure' =>
      obtain rfl := Option.some.inj hstep
      simp only [hresult, StreamServerEnd.loopWrote] at hmove
      exact ⟨_, _, hwaits.append (one_move server _ hmove), rfl, h.reader, h.arriving, rfl, h.unread rfl, hfree,
        hsent⟩
    | ok b =>
      obtain rfl := Option.some.inj hstep
      simp only [hresult, StreamServerEnd.loopWrote] at hmove
      exact ⟨_, _, hwaits.append (one_move server _ hmove), rfl, h.reader, h.arriving, h.lastError, h.unread rfl,
        hfree, hsent⟩
  | ok handler =>
    rw [show (awaitWrite (stream.frame .sendInitAck).writeState s.sink).result = some result from hawaited]
      at hstep
    cases result with
    | error failure' =>
      obtain rfl := Option.some.inj hstep
      simp only [hresult, StreamServerEnd.loopWrote] at hmove
      exact ⟨_, _, hwaits.append (one_move server _ hmove), rfl, h.reader, h.arriving, rfl, h.unread rfl, hfree,
        hsent⟩
    | ok b =>
      obtain rfl := Option.some.inj hstep
      simp only [hresult, StreamServerEnd.loopWrote] at hmove
      exact ⟨_, _, hwaits.append (one_move server _ hmove), rfl, h.reader, h.arriving, h.lastError, h.unread rfl,
        hfree, hsent⟩

/-- **A handler's write**, with its stream's own method. -/
theorem mirrors_handlerWrite (h : Mirrors s t) {stream : RpcStream} {handler : ζ}
    (hphase : s.phase = .handling handler stream) (send : StreamSend)
    (hstep : s.handlerWrite (stream.frame send) = some s') :
    ∃ moves t', Run (StreamServerEnd.stepSent server) (fun _ _ => True) t moves t' ∧ Mirrors s' t' := by
  obtain ⟨e, sent⟩ := t
  obtain rfl : sent = s.sink.sent := h.sent
  obtain ⟨hephase, hwriter⟩ : e.phase = .handling handler stream ∧ e.side.writer.Free := h.at_phase hphase
  -- the send begins
  have hbegin := StreamServerEnd.step_handlerSends server (s := e) hephase send
  rw [send_of_free hwriter, Option.map_some] at hbegin
  generalize hbegun : ({ e with
    side := { e.side with
      writer := .writing (stream.frame send) (.start (stream.frame send).writeState)
      begun := e.side.begun ++ [stream.frame send] }
    serving := e.serving.map fun e => { e with toStreamSide := e.writes (stream.frame send) } }
      : StreamServerEnd ρ ζ) = e' at hbegin
  have hephase' : e'.phase = .handling handler stream := hbegun ▸ hephase
  have hself : e'.withWrite (stream.frame send) (.start (stream.frame send).writeState) = e' := by
    rw [← hbegun]
    rfl
  have hconn : e'.side.conn = e.side.conn := by
    rw [← hbegun]
  have herror : e'.lastError = e.lastError := by
    rw [← hbegun]
  obtain ⟨events, write₁, last, write₂, result, hwaits, hlast, hresult, hawaited, hsent⟩ :=
    writes_mirror server (e := e') (stream.frame send)
      (fun write event write' h => StreamServerEnd.handlerWrites_await server hephase' _ write event write' h) s.sink
  rw [hself] at hwaits
  have hmove := StreamServerEnd.step_handlerWrites server
    (s := e'.withWrite (stream.frame send) write₁) hephase' last
  rw [StreamServerEnd.writev_withWrite hlast, Option.map_some] at hmove
  have hfree := free_after (stream.frame send) hresult
  have hbegins := one_move server s.sink.sent hbegin
  rw [List.append_nil] at hbegins
  obtain ⟨result', -, rfl⟩ := Option.map_eq_some_iff.mp hstep
  refine ⟨_, _, hbegins.append (hwaits.append (one_move server _ hmove)), hephase'.trans hphase.symm, ?_, ?_, ?_,
    ?_, ?_, hsent⟩
  · exact (congrArg ReadConn.reader hconn).trans h.reader
  · exact (congrArg ReadConn.arriving hconn).trans h.arriving
  · exact herror.trans h.lastError
  · show e'.side.messages = _
    rw [StreamEnd.messages, hconn]
    exact h.unread rfl
  · show s.phase.Writer _
    rw [hphase]
    exact hfree

/-- **A handler's read.** -/
theorem mirrors_handlerRead (h : Mirrors s t) {stream : RpcStream} {handler : ζ}
    (hphase : s.phase = .handling handler stream) {message : StreamMessage}
    (hstep : s.handlerRead message = some s') :
    ∃ moves t', Run (StreamServerEnd.stepSent server) (fun _ _ => True) t moves t' ∧ Mirrors s' t' := by
  obtain ⟨e, sent⟩ := t
  obtain ⟨hephase, hwriter⟩ : e.phase = .handling handler stream ∧ e.side.writer.Free := h.at_phase hphase
  have hconn : e = e.withConn _ := conn_of_mirrors h
  obtain ⟨result', hawaited, rfl⟩ := Option.map_eq_some_iff.mp hstep
  cases s.getMessage_run message s.wire e.side.conn.delivered with
  | waits actions received hresult =>
    rw [show (s.getMessage message s.wire).result = none from hresult] at hawaited
    cases hawaited
  | ended actions s₁ last m result hresult hactions hrun hdelivered hmachine hadvance htrue hlast =>
    obtain rfl : result = result' := Option.some.inj (hresult.symm.trans hawaited)
    have hwaits := StreamServerEnd.awaits_run server (e := e) (P := fun _ => True)
      (fun conn a conn' _ h => StreamServerEnd.handlerReads_await server hephase conn a conn' h) sent hrun
      (fun _ _ => trivial)
    rw [← hconn] at hwaits
    obtain ⟨side', hread, hconn', hside'⟩ := read_of_last (e := e) hlast
    have hmove := StreamServerEnd.step_handlerReads server (s := e.withConn s₁) hephase last
    rw [hread, Option.map_some] at hmove
    have hmore : side'.conn.delivered = e.side.conn.delivered ++
        ReadConn.delivery (streamMessageReadState (ρ := ρ)) message
          (s.getMessage message s.wire).machine.state.own result :=
      congrArg ReadConn.delivered hconn'
    refine ⟨_, _, hwaits.append (one_move server _ hmove), h.phase, ?_, ?_, h.lastError, ?_, ?_, ?_⟩
    · show side'.conn.reader = _
      rw [hconn']
      rfl
    · show side'.conn.arriving = _
      rw [hconn']
    · show side'.messages = _
      rw [messages_more hmore, show e.side.messages = _ from h.messages, List.filterMap_append]
      rcases result with failure | b
      · rfl
      · cases b with
        | true => rfl
        | false => rfl
    · show s.phase.Writer side'.writer
      rw [hphase, hside']
      exact hwriter
    · exact (List.append_nil sent).trans h.sent

/-- **A handler's read that is given up.** -/
theorem mirrors_handlerGiveUp (h : Mirrors s t) {stream : RpcStream} {handler : ζ}
    (hphase : s.phase = .handling handler stream) {message : StreamMessage} {n : Nat}
    (hstep : s.handlerGiveUp message n = some s') :
    ∃ moves t', Run (StreamServerEnd.stepSent server) (fun _ _ => True) t moves t' ∧ Mirrors s' t' := by
  obtain ⟨e, sent⟩ := t
  obtain ⟨hephase, hwriter⟩ : e.phase = .handling handler stream ∧ e.side.writer.Free := h.at_phase hphase
  have hconn : e = e.withConn _ := conn_of_mirrors h
  unfold handlerGiveUp at hstep
  dsimp only at hstep
  cases s.getMessage_run message { s.wire with bytes := s.wire.bytes.take n, ending := .silent }
    e.side.conn.delivered with
  | ended actions s₁ last m result hresult =>
    rw [show (s.getMessage message { s.wire with bytes := s.wire.bytes.take n, ending := .silent }).result =
      some result from hresult] at hstep
    cases hstep
  | waits actions received hresult hwire hactions hrun =>
    rw [show (s.getMessage message { s.wire with bytes := s.wire.bytes.take n, ending := .silent }).result =
      none from hresult] at hstep
    obtain rfl := Option.some.inj hstep
    -- the bytes behind the first `n` are there all the time
    have hmore := ReadConn.awaits_extend hrun (s.wire.bytes.drop n)
    rw [List.take_append_drop] at hmore
    have hwaits := StreamServerEnd.awaits_run server (e := e) (P := fun _ => True)
      (fun conn a conn' _ h => StreamServerEnd.handlerReads_await server hephase conn a conn' h) sent hmore
      (fun _ _ => trivial)
    rw [← hconn] at hwaits
    generalize hwaiting : (⟨.suspended (s.getMessage message
        { s.wire with bytes := s.wire.bytes.take n, ending := .silent }).machine message received,
      [] ++ s.wire.bytes.drop n, e.side.conn.delivered⟩ : StreamConn ρ) = conn at hwaits
    have htimeout := congrArg (fun c : StreamConn ρ => c.step streamMessageReadState .timeout) hwaiting
    obtain ⟨side', hread, hconn', hside'⟩ := read_of_last (e := e) htimeout.symm
    have hmove := StreamServerEnd.step_handlerReads server (s := e.withConn conn) hephase .timeout
    rw [hread, Option.map_some] at hmove
    refine ⟨_, _, hwaits.append (one_move server _ hmove), h.phase, ?_, ?_, h.lastError, ?_, ?_, ?_⟩
    · show side'.conn.reader = _
      rw [hconn']
      rfl
    · show side'.conn.arriving = _
      rw [hconn']
      rfl
    · show side'.messages = _
      rw [StreamEnd.messages, hconn']
      exact h.unread rfl
    · show s.phase.Writer side'.writer
      rw [hphase, hside']
      exact hwriter
    · exact (List.append_nil sent).trans h.sent

end StreamServerConn

/-! ## A connection -/

/-- The frame is one that a method of the stream sends. -/
def StreamFrame.IsOf (stream : RpcStream) : StreamFrame → Prop
  | .init streamId service method => RpcStream.mk streamId service method = stream
  | .initAck streamId => streamId = stream.streamId
  | .data streamId _ => streamId = stream.streamId
  | .dataView streamId _ => streamId = stream.streamId
  | .endOfStream streamId => streamId = stream.streamId
  | .cancel streamId => streamId = stream.streamId

instance (stream : RpcStream) : (frame : StreamFrame) → Decidable (frame.IsOf stream)
  | .init _ _ _ => inferInstanceAs (Decidable (_ = _))
  | .initAck _ => inferInstanceAs (Decidable (_ = _))
  | .data _ _ => inferInstanceAs (Decidable (_ = _))
  | .dataView _ _ => inferInstanceAs (Decidable (_ = _))
  | .endOfStream _ => inferInstanceAs (Decidable (_ = _))
  | .cancel _ => inferInstanceAs (Decidable (_ = _))

theorem StreamFrame.IsOf.sends {stream : RpcStream} {frame : StreamFrame} (h : frame.IsOf stream) :
    ∃ send, frame = stream.frame send := by
  cases frame with
  | init streamId service method =>
    obtain rfl : RpcStream.mk streamId service method = stream := h
    exact ⟨.sendInit, rfl⟩
  | initAck streamId =>
    obtain rfl : streamId = stream.streamId := h
    exact ⟨.sendInitAck, rfl⟩
  | data streamId bytes =>
    obtain rfl : streamId = stream.streamId := h
    exact ⟨.sendData bytes, rfl⟩
  | dataView streamId payloadView =>
    obtain rfl : streamId = stream.streamId := h
    exact ⟨.sendDataView payloadView, rfl⟩
  | endOfStream streamId =>
    obtain rfl : streamId = stream.streamId := h
    exact ⟨.sendEnd, rfl⟩
  | cancel streamId =>
    obtain rfl : streamId = stream.streamId := h
    exact ⟨.sendCancel, rfl⟩

/-- In a handler, the frame is one of its stream. -/
def StreamServerPhase.Owns (frame : StreamFrame) : StreamServerPhase ζ → Prop
  | .handling _ stream => frame.IsOf stream
  | _ => True

instance (frame : StreamFrame) : (phase : StreamServerPhase ζ) → Decidable (phase.Owns frame)
  | .handling _ stream => inferInstanceAs (Decidable (frame.IsOf stream))
  | .testing | .reading | .answering _ _ | .closing | .ended => .isTrue trivial

namespace StreamServerConn

variable (server : RpcStreamServer η ζ) {s s' : StreamServerConn ρ ζ} {t : StreamServerEnd ρ ζ × Bytes}

/-- A handler writes with the methods of its stream. -/
def OwnFrames (s : StreamServerConn ρ ζ) : StreamServerAction → Prop
  | .handlerWrites frame => s.phase.Owns frame
  | _ => True

instance (s : StreamServerConn ρ ζ) : (a : StreamServerAction) → Decidable (s.OwnFrames a)
  | .handlerWrites frame => inferInstanceAs (Decidable (s.phase.Owns frame))
  | .test _ | .read | .answer | .close _ | .handlerReads _ | .handlerGivesUp _ _ | .handlerReturns =>
    .isTrue trivial

/-- **What happens from one await to the next is a run of `readv`s and `writev`s.** -/
theorem mirrors_step (h : Mirrors s t) {action : StreamServerAction} (hown : s.OwnFrames action)
    (hstep : s.step server action = some s') :
    ∃ moves t', Run (StreamServerEnd.stepSent server) (fun _ _ => True) t moves t' ∧ Mirrors s' t' := by
  have hphase := h.phase
  have hwriter := h.writer
  unfold step at hstep
  split at hstep
  · rename_i running hs
    obtain rfl := Option.some.inj hstep
    have hmove : t.1.step server (.test running) =
        some ({ t.1 with phase := if running then .reading else .closing }, []) := by
      unfold StreamServerEnd.step
      rw [hphase.trans hs]
    rw [hs] at hwriter
    refine ⟨_, _, one_move server _ hmove, rfl, h.reader, h.arriving, h.lastError, h.messages, ?_, ?_⟩
    · cases running with
      | true => exact hwriter
      | false => exact hwriter
    · exact (List.append_nil t.2).trans h.sent
  · exact mirrors_readInit server h ‹_› hstep
  · exact mirrors_sendAnswer server h ‹_› hstep
  · exact mirrors_handlerRead server h ‹_› hstep
  · exact mirrors_handlerGiveUp server h ‹_› hstep
  · rename_i handler stream frame hs
    have howns : s.phase.Owns frame := hown
    rw [hs] at howns
    obtain ⟨send, rfl⟩ := StreamFrame.IsOf.sends howns
    exact mirrors_handlerWrite server h hs send hstep
  · rename_i handler stream hs
    obtain rfl := Option.some.inj hstep
    rw [hs] at hwriter
    have hresumed : t.1.side.Resumed := by
      unfold StreamEnd.Resumed
      rw [h.reader]
      cases hw : t.1.side.writer with
      | idle => trivial
      | torn rest => trivial
      | writing frame run =>
        rw [hw] at hwriter
        exact hwriter
    have hmove : t.1.step server .handlerReturns = some ({ t.1 with phase := .testing }, []) := by
      unfold StreamServerEnd.step
      rw [hphase.trans hs]
      exact if_pos hresumed
    exact ⟨_, _, one_move server _ hmove, rfl, h.reader, h.arriving, h.lastError, h.unread rfl, hwriter,
      (List.append_nil t.2).trans h.sent⟩
  · rename_i result hs
    obtain rfl := Option.some.inj hstep
    rw [hs] at hwriter
    have hmove : t.1.step server (.close result) = some ({ t.1 with
        lastError := match result with
          | .error e => some (.fromIOError e .internalError)
          | .ok _ => t.1.lastError
        phase := .ended }, []) := by
      cases result with
      | error e =>
        unfold StreamServerEnd.step
        rw [hphase.trans hs]
      | ok u =>
        unfold StreamServerEnd.step
        rw [hphase.trans hs]
    refine ⟨_, _, one_move server _ hmove, rfl, h.reader, h.arriving, ?_, h.unread rfl, hwriter,
      (List.append_nil t.2).trans h.sent⟩
    cases result with
    | error e => rfl
    | ok u => exact h.lastError
  · cases hstep

/-- The end of a connection that has just been accepted, with all that its peer will send. -/
def startEnd (ring : ρ) (w : Wire) : StreamServerEnd ρ ζ := { side := StreamEnd.arrive (.start ring) w.bytes }

/-- **The two accounts of `RpcStreamServer::handleConnection` agree.**  Each run from await to await, on a
    wire and with a kernel given in advance, is a run of `readv`s and `writev`s that reads the same
    messages, puts the same bytes on the connection, and ends in the same place. -/
theorem handleConnection_mirrored (ring : ρ) (w : Wire) (k : Sink) {actions : List StreamServerAction}
    (hrun : Run (step server) OwnFrames (accept (.ok ()) ring w k) actions s) :
    ∃ moves t, Run (StreamServerEnd.stepSent server) (fun _ _ => True) (startEnd ring w, k.sent) moves t ∧
      Mirrors s t := by
  have hstart : Mirrors (accept (.ok ()) ring w k : StreamServerConn ρ ζ) (startEnd ring w, k.sent) :=
    ⟨rfl, rfl, rfl, rfl, rfl, trivial, rfl⟩
  generalize hs₀ : (accept (.ok ()) ring w k : StreamServerConn ρ ζ) = s₀ at hrun hstart
  generalize (startEnd ring w, k.sent) = t₀ at hstart
  clear hs₀
  induction hrun generalizing t₀ with
  | nil s => exact ⟨[], t₀, .nil t₀, hstart⟩
  | cons hc hstep _ ih =>
    obtain ⟨moves, t₁, hmoves, hmirrors⟩ := mirrors_step server hstart hc hstep
    obtain ⟨moves', t, hmoves', hend⟩ := ih t₁ hmirrors
    exact ⟨moves ++ moves', t, hmoves.append hmoves', hend⟩

/-- A stream that is echoed and ended, and behind it a frame of no stream, one byte at a time. -/
theorem handleConnection_mirrored_echo :
    ∃ s : StreamServerConn (Circular UInt8) Unit,
      Run (step echoStreamServer) OwnFrames
        (accept (.ok ()) (Circular.empty 24 fun _ => (0 : UInt8))
          ⟨bytesOf [.init 5 [0x45] [0x65], .data 5 [7], .endOfStream 5, .data 6 [8]], .closed, fun _ => 1⟩
          ⟨[], fun i => .accept i⟩)
        [.test true, .read, .answer, .handlerReads {}, .handlerWrites (.data 5 [7]), .handlerReads {},
          .handlerReturns, .test true, .read, .answer, .test false, .close (.ok ())] s ∧
      ∃ moves t, Run (StreamServerEnd.stepSent echoStreamServer) (fun _ _ => True)
          (startEnd (Circular.empty 24 fun _ => (0 : UInt8))
            ⟨bytesOf [.init 5 [0x45] [0x65], .data 5 [7], .endOfStream 5, .data 6 [8]], .closed, fun _ => 1⟩,
            [])
          moves t ∧
        t.2 = bytesOf [.initAck 5, .data 5 [7], .cancel 6] := by
  have hruns : ((runAll (step echoStreamServer) OwnFrames
      (accept (.ok ()) (Circular.empty 24 fun _ => (0 : UInt8))
        ⟨bytesOf [.init 5 [0x45] [0x65], .data 5 [7], .endOfStream 5, .data 6 [8]], .closed, fun _ => 1⟩
        ⟨[], fun i => .accept i⟩)
      [.test true, .read, .answer, .handlerReads {}, .handlerWrites (.data 5 [7]), .handlerReads {},
        .handlerReturns, .test true, .read, .answer, .test false, .close (.ok ())]).map fun s =>
          s.sink.sent) = some (bytesOf [.initAck 5, .data 5 [7], .cancel 6]) := by
    decide +kernel
  obtain ⟨s, hs, hsent⟩ := Option.map_eq_some_iff.mp hruns
  obtain ⟨moves, t, hmoves, hmirrors⟩ :=
    handleConnection_mirrored echoStreamServer _ _ _ (run_iff_runAll.mpr hs)
  exact ⟨s, run_iff_runAll.mpr hs, moves, t, hmoves, hmirrors.sent.trans hsent⟩

end StreamServerConn

end GalayRpc
