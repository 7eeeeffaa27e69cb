/-
  What `RpcServer::handleConnection` makes of a stream of bytes, however they come in.

  The bytes of a peer are any bytes.  They come in any pieces, each as large as the ring buffer has room
  for, and responses go out in any pieces; a handler's answer is a function of what the request says.
  Then nothing of what the connection does depends on the pieces:

  * `scan` (`Lib.Framing`) is what a reader with a ring buffer of that size finds in the bytes: requests,
    and behind them bytes that it refuses, a request it has no room for, or the beginning of one;
  * `Scanned` — what has been received and what will be found in the rest are what is found in the whole;
  * `toDo` — every step takes something off what is left to do, so the connection comes to rest;
  * at rest it has received these requests and sent the answers to them, and has failed with the code that
    the rest of the stream calls for, or waits.
-/
import GalayRpc.ServerConn

namespace GalayRpc

variable {ρ η ζ : Type} [RingBuffer ρ]

/-! ## What a stream calls for -/

/-- The surroundings of a connection: what its handlers answer in each round, and what comes behind the
    last byte that its peer sends. -/
structure Surroundings (η : Type) where
  respond : Nat → η → RequestMsg → RpcErrorCode × Bytes
  ending : WireEnd

/-- What a `readv` tells of the end: that there is one, or an error. -/
def WireEnd.hangUp : WireEnd → Option (Option IOError)
  | .closed => some none
  | .failed e => some (some e)
  | .silent => none

theorem WireEnd.result_ne_none {ending : WireEnd} {e : Option IOError} (h : ending.hangUp = some e) :
    ending.result ≠ none := by
  cases ending with
  | silent => cases h
  | _ => exact Option.some_ne_none _

/-- The code a read fails with behind the last request; `none` if it waits. -/
def WireEnd.failure (ending : WireEnd) : FrameParser.Remainder RpcErrorCode → Option RpcErrorCode
  | .refused code => some code
  | .oversize => some .internalError
  | .unfinished =>
    match ending.result with
    | some (.error e) => some e.code
    | _ => none

/-- A request that says `m`. -/
def RequestMsg.toRequest (m : RequestMsg) : RpcRequest where
  requestId := m.requestId
  callMode := m.callMode
  endOfStream := m.endOfStream
  serviceName := m.serviceName
  methodName := m.methodName
  store := .setBytes m.payload

/-- What a request is answered with in round `i`. -/
def answerMsg (services : Services η ζ) (around : Surroundings η) (i : Nat) (m : RequestMsg) : ResponseMsg :=
  let outcome := match resolveMethodHandler services m.toRequest with
    | .error code => (code, [])
    | .ok handler => around.respond i handler m
  ⟨m.requestId, m.callMode, true, outcome.1, outcome.2⟩

/-- The answers to these requests, one behind the other. -/
def answerBytes (services : Services η ζ) (around : Surroundings η) (requests : List RequestMsg) : Bytes :=
  (requests.zipIdx.map fun m => (answerMsg services around m.2 m.1).frame).flatten

/-- The calls of a handler leave in the response what the surroundings say. -/
def ServerPhase.Answers (around : Surroundings η) (i : Nat) (calls : List RpcContextCall) :
    ServerPhase η → Prop
  | .handling handler request => RpcContextCall.outcome calls = around.respond i handler request.msg
  | _ => True

instance ServerPhase.decidableAnswers (around : Surroundings η) (i : Nat) (calls : List RpcContextCall)
    (phase : ServerPhase η) :
    Decidable (phase.Answers around i calls) :=
  match phase with
  | .handling _ _ => inferInstanceAs (Decidable (_ = _))
  | .testing => .isTrue trivial
  | .reading => .isTrue trivial
  | .sending _ _ => .isTrue trivial
  | .closing => .isTrue trivial
  | .ended => .isTrue trivial

/-- The handler of a round, if it had one, has answered as the surroundings say. -/
def Round.AnswersAs (around : Surroundings η) (i : Nat) (round : Round η) : Prop :=
  ∀ handler, round.found = .ok handler →
    RpcContextCall.outcome round.calls = around.respond i handler round.request.msg

namespace ServerConn

/-- The server is not stopped, no write fails, a peer that goes away has been read to its last byte, and a
    handler answers as the surroundings say. -/
def Undisturbed (around : Surroundings η) (s : ServerConn ρ η) : ServerAction → Prop
  | .test running => running = true
  | .hangUp e => s.incoming = [] ∧ around.ending.hangUp = some e
  | .handle calls => s.phase.Answers around s.rounds.length calls
  | .writev event => ¬ event.Fails
  | _ => True

instance (around : Surroundings η) (s : ServerConn ρ η) (action : ServerAction) :
    Decidable (s.Undisturbed around action) :=
  match action with
  | .test running => inferInstanceAs (Decidable (running = true))
  | .hangUp _ => inferInstanceAs (Decidable (_ ∧ _))
  | .handle calls => inferInstanceAs (Decidable (s.phase.Answers around s.rounds.length calls))
  | .writev event => inferInstanceAs (Decidable (¬ event.Fails))
  | .readv _ => .isTrue trivial
  | .receive => .isTrue trivial
  | .close _ => .isTrue trivial

/-- Nothing can happen any more. -/
def AtRest (services : Services η ζ) (around : Surroundings η) (s : ServerConn ρ η) : Prop :=
  ∀ action s', s.Undisturbed around action → s.step services action ≠ some s'

/-! ## How a read fails -/

variable {services : Services η ζ} {around : Surroundings η} {s s' : ServerConn ρ η}

/-- A read that fails says why. -/
theorem code_of_advance {m : RpcRingBufferReadMachine ρ RpcRequest} {e : RpcError}
    (hopen : s.reader.Open) (h : s.advance = (.complete (.error e), m)) :
    s.reader.result = some (.error e) ∨
      parser.parse (RingBuffer.content s.ringBuffer) = .error e.code ∨
      (parser.parse (RingBuffer.content s.ringBuffer) = .ok none ∧ RingBuffer.free s.ringBuffer = 0 ∧
        e.code = .internalError) := by
  rcases hopen with ⟨hresult, herror⟩ | ⟨e', hresult⟩
  · refine Or.inr ?_
    have hs := request_readsFrames (ρ := ρ) {} s.reader.state
    unfold ServerConn.advance RpcRingBufferReadMachine.advance at h
    rw [hresult] at h
    simp only [] at h
    have hparser : requestParser (({} : RpcReaderSetting).maxMessageSize + 16).toNat = parser := rfl
    rw [hparser] at hs
    show parser.parse (RingBuffer.content s.reader.state.ringBuffer) = _ ∨
      parser.parse (RingBuffer.content s.reader.state.ringBuffer) = _ ∧
        RingBuffer.free s.reader.state.ringBuffer = 0 ∧ _
    rcases hp : parser.parse (RingBuffer.content s.reader.state.ringBuffer) with code | _ | ⟨n, a⟩
    all_goals rw [hp] at hs
    · obtain ⟨text, hout⟩ := hs
      rw [hout] at h
      cases h
      exact Or.inl rfl
    · have hout : RpcRequestReadState.parseFromRingBuffer {} s.reader.state = (false, s.reader.state) := hs
      simp only [hout, prepareReadWindow_eq] at h
      by_cases hfree : 0 < RingBuffer.free s.reader.state.ringBuffer
      · simp only [if_pos hfree] at h
        cases h
      · simp only [if_neg hfree] at h
        cases h
        exact Or.inr ⟨rfl, by omega, rfl⟩
    · obtain ⟨own, -, hout⟩ := hs
      rw [hout] at h
      simp only [herror] at h
      cases h
  · left
    unfold ServerConn.advance RpcRingBufferReadMachine.advance at h
    rw [hresult] at h
    cases h
    exact hresult

/-- A read that fails completes, and its error is the last one. -/
theorem receive_closing (hphase : s.phase = .reading) (hstep : s.step services .receive = some s')
    (hclosing : s'.phase = .closing) :
    ∃ e m, s.advance = (.complete (.error e), m) ∧ s'.lastError = some e := by
  rw [step_receive hphase] at hstep
  unfold receive at hstep
  split at hstep
  · rename_i e m hadvance
    obtain rfl := Option.some.inj hstep
    exact ⟨e, m, hadvance, rfl⟩
  · rename_i m _
    obtain rfl := Option.some.inj hstep
    simp only [dispatch] at hclosing
    split at hclosing
    · cases hclosing
    · cases hclosing
  · cases hstep

/-- The peer's end is told to a reader that waits. -/
theorem hangUp_spec {e : Option IOError} (hopen : s.reader.Open) (h : s.hangUp e = some s') :
    s.reader.result = none ∧ parser.parse (RingBuffer.content s.ringBuffer) = .ok none ∧
      0 < RingBuffer.free s.ringBuffer ∧ s'.unread = s.unread ∧
      ∀ ending : WireEnd, ending.hangUp = some e → s'.reader.result = ending.result := by
  have hadvanced := advanced hopen
  unfold hangUp at h
  split at h
  · rename_i windows m hwaits
    rw [hwaits] at hadvanced
    obtain rfl := Option.some.inj h
    cases hadvanced with
    | waits _ hresult hparse hsum =>
      refine ⟨hresult, hparse, (advance_waitReadv hwaits).trans_eq hsum, ?_, ?_⟩
      · cases e with
        | none => rfl
        | some e => rfl
      · intro ending hending
        cases ending with
        | closed =>
          obtain rfl := Option.some.inj hending
          rfl
        | failed e' =>
          obtain rfl := Option.some.inj hending
          rfl
        | silent => cases hending
  · cases h

/-! ## What has been found, and what is left -/

/-- This is the error that the rest of the stream calls for. -/
structure Fails (around : Surroundings η) (room : Nat) (s : ServerConn ρ η) (e : RpcError) : Prop where
  none_left : (parser.scan room s.unread).1 = []
  code : around.ending.failure (parser.scan room s.unread).2 = some e.code

/-- A connection that has failed, or is about to. -/
def FailsAsFound (around : Surroundings η) (room : Nat) (s : ServerConn ρ η) : Prop :=
  match s.phase with
  | .reading => ∀ e, s.reader.result = some (.error e) → s.Fails around room e
  | .closing =>
    ∃ log e, s.log = log ++ [.readFailed e] ∧ s.sent = responseBytes s.rounds ∧ s.Fails around room e
  | .ended =>
    ∃ log e, s.log = log ++ [.readFailed e, .closed] ∧ s.sent = responseBytes s.rounds ∧
      s.Fails around room e
  | _ => True

theorem failsAsFound_of_reading {around : Surroundings η} {room : Nat} (hphase : s.phase = .reading)
    (h : ∀ e, s.reader.result = some (.error e) → s.Fails around room e) : s.FailsAsFound around room := by
  unfold FailsAsFound
  rw [hphase]
  exact h

/-- **The invariant**: what has been received, and what a reader with a ring buffer of this size finds in
    the bytes not read, are what it finds in the stream. -/
structure Scanned (services : Services η ζ) (around : Surroundings η) (room : Nat) (stream : Bytes)
    (s : ServerConn ρ η) : Prop where
  orderly : s.Orderly services stream
  capacity : RingBuffer.capacity s.ringBuffer = room
  found : parser.scan room stream =
    (s.received.map RpcRequest.msg ++ (parser.scan room s.unread).1, (parser.scan room s.unread).2)
  answered : ∀ (i : Nat) (round : Round η), s.rounds[i]? = some round → round.AnswersAs around i
  failing : s.FailsAsFound around room

variable {room : Nat} {stream : Bytes} {action : ServerAction}

theorem scanned_start (services : Services η ζ) (around : Surroundings η) {ring : ρ}
    (hempty : RingBuffer.content ring = []) (stream : Bytes) :
    Scanned services around (RingBuffer.capacity ring) stream { start ring with incoming := stream } where
  orderly := (orderly_start services hempty).arrive stream
  capacity := rfl
  found := by
    have hunread : ({ start ring with incoming := stream } : ServerConn ρ η).unread = stream := by
      show RingBuffer.content ring ++ stream = stream
      rw [hempty, List.nil_append]
    rw [hunread]
    rfl
  answered i round hround := by cases hround
  failing := trivial

/-- A step that reads no request and starts no round. -/
theorem Scanned.keep (h : s.Scanned services around room stream) (horderly : s'.Orderly services stream)
    (hcap : RingBuffer.capacity s'.ringBuffer = RingBuffer.capacity s.ringBuffer)
    (hunread : s'.unread = s.unread) (hreceived : s'.received = s.received)
    (hrounds : s'.rounds = s.rounds) (hfailing : s'.FailsAsFound around room) :
    s'.Scanned services around room stream where
  orderly := horderly
  capacity := hcap.trans h.capacity
  found := by
    rw [hunread, hreceived]
    exact h.found
  answered := by
    rw [hrounds]
    exact h.answered
  failing := hfailing

/-- The ring buffer holds the front of what has not been read. -/
theorem Scanned.front (h : s.Scanned services around room stream) :
    RingBuffer.content s.ringBuffer <+: s.unread ∧ (RingBuffer.content s.ringBuffer).length ≤ room := by
  refine ⟨List.prefix_append _ _, ?_⟩
  rw [← h.capacity]
  exact RingBuffer.content_length_le _

/-- The reading fails as the stream calls for. -/
theorem Scanned.fails (h : s.Scanned services around room stream) (hphase : s.phase = .reading)
    {e : RpcError} {m : RpcRingBufferReadMachine ρ RpcRequest}
    (hadvance : s.advance = (.complete (.error e), m)) : s.Fails around room e := by
  obtain ⟨hfront, hlen⟩ := h.front
  rcases code_of_advance (h.orderly.reader hphase) hadvance with hresult | hparse | ⟨hparse, hfree, hcode⟩
  · have hfailing := h.failing
    rw [FailsAsFound, hphase] at hfailing
    exact hfailing e hresult
  · have hscan := FrameParser.scan_refused hfront hlen hparse
    constructor
    · rw [hscan]
    · rw [hscan]
      rfl
  · have hfull : (RingBuffer.content s.ringBuffer).length = room := by
      have hcap := h.capacity
      unfold RingBuffer.free at hfree
      omega
    have hscan := FrameParser.scan_oversize hfront hfull hparse
    constructor
    · rw [hscan]
    · rw [hscan, hcode]
      rfl

/-- The peer has gone, and no request is left of what it has sent. -/
theorem Scanned.hungUp (h : s.Scanned services around room stream) (hphase : s.phase = .reading)
    {e : Option IOError} (hnothing : s.incoming = []) (hending : around.ending.hangUp = some e)
    (hstep : s.hangUp e = some s') {e' : RpcError} (hresult : s'.reader.result = some (.error e')) :
    s'.Fails around room e' := by
  obtain ⟨-, hparse, hfree, hunread, htells⟩ := hangUp_spec (h.orderly.reader hphase) hstep
  have hall : s.unread = RingBuffer.content s.ringBuffer := by
    rw [unread, hnothing, List.append_nil]
  have hlt : s.unread.length < room := by
    have hcap := h.capacity
    unfold RingBuffer.free at hfree
    rw [hall]
    omega
  have hscan : parser.scan room s'.unread = ([], .unfinished) := by
    rw [hunread]
    exact FrameParser.scan_unfinished hlt (hall ▸ hparse)
  have hends := (htells around.ending hending).symm.trans hresult
  constructor
  · rw [hscan]
  · rw [hscan, WireEnd.failure, hends]

/-- A request is the first one that is found. -/
theorem Scanned.dispatch (h : s.Scanned services around room stream) {n : Nat} {request : RpcRequest}
    {m : RpcRingBufferReadMachine ρ RpcRequest}
    (hparse : parser.parse (RingBuffer.content s.ringBuffer) = .ok (some (n, request.msg)))
    (hring : m.state.ringBuffer = RingBuffer.consume s.ringBuffer n)
    (horderly : ({ s with reader := m }.dispatch services request).Orderly services stream) :
    ({ s with reader := m }.dispatch services request).Scanned services around room stream := by
  obtain ⟨hfront, hlen⟩ := h.front
  obtain ⟨hpos, hle⟩ := parser.consumes hparse
  have hscan := FrameParser.scan_cons hfront hlen hparse
  have hunread : RingBuffer.content m.state.ringBuffer ++ s.incoming = s.unread.drop n := by
    rw [hring, RingBuffer.content_consume _ _ hle, unread, List.drop_append_of_le_length hle]
  have hfound : parser.scan room stream =
      ((s.received ++ [request]).map RpcRequest.msg ++
          (parser.scan room (RingBuffer.content m.state.ringBuffer ++ s.incoming)).1,
        (parser.scan room (RingBuffer.content m.state.ringBuffer ++ s.incoming)).2) := by
    rw [h.found, hscan, hunread, List.map_append, List.append_assoc]
    rfl
  have hcap : RingBuffer.capacity m.state.ringBuffer = room := by
    rw [hring, RingBuffer.capacity_consume, h.capacity]
  simp only [ServerConn.dispatch] at horderly ⊢
  generalize findHandler services buildRouteHash s.cache request = found at horderly ⊢
  obtain ⟨code | handler, cache⟩ := found
  · refine ⟨horderly, hcap, hfound, ?_, trivial⟩
    -- a round without a handler
    exact forall_getElem?_concat h.answered fun _ hnone => by cases hnone
  · exact ⟨horderly, hcap, hfound, h.answered, trivial⟩

/-- **Every undisturbed step keeps the invariant.** -/
theorem Scanned.step (h : s.Scanned services around room stream) (hcalm : s.Undisturbed around action)
    (hstep : s.step services action = some s') : s'.Scanned services around room stream := by
  have horderly := h.orderly.step hstep
  have hcap := capacity_of_step h.orderly hstep
  cases stepped h.orderly.reader hstep with
  | started hphase =>
    refine h.keep horderly hcap rfl rfl rfl ?_
    intro e hnone
    cases hnone
  | stopped hphase => cases hcalm
  | @piece n m hphase hpiece hwaits hfits hring =>
    refine h.keep horderly hcap ?_ rfl rfl ?_
    · show RingBuffer.content m.state.ringBuffer ++ s.incoming.drop n = s.unread
      rw [hring, RingBuffer.content_receive hfits, List.append_assoc, List.take_append_drop]
      rfl
    · refine failsAsFound_of_reading hphase ?_
      intro e hsome
      exact absurd (hwaits.1.symm.trans hsome) (Option.some_ne_none _).symm
  | @hungUp e m hphase hopen hring =>
    rw [step_hangUp hphase] at hstep
    obtain ⟨-, -, -, hunread, -⟩ := hangUp_spec (h.orderly.reader hphase) hstep
    refine h.keep horderly hcap hunread rfl rfl (failsAsFound_of_reading hphase ?_)
    intro e' hresult
    exact h.hungUp hphase hcalm.1 hcalm.2 hstep hresult
  | readFailed e m hphase hring hwhy =>
    obtain ⟨e', m', hadvance, hlast⟩ := receive_closing hphase hstep rfl
    obtain rfl : e = e' := Option.some.inj hlast
    have hunread : RingBuffer.content m.state.ringBuffer ++ s.incoming = s.unread := by
      rw [hring]
      rfl
    have hfails := h.fails hphase hadvance
    have haccounts := h.orderly.accounts
    rw [hphase] at haccounts
    refine h.keep horderly hcap hunread rfl rfl ⟨s.log, e, rfl, haccounts.2, ?_, ?_⟩
    · show (parser.scan room (RingBuffer.content m.state.ringBuffer ++ s.incoming)).1 = []
      rw [hunread]
      exact hfails.none_left
    · show around.ending.failure
        (parser.scan room (RingBuffer.content m.state.ringBuffer ++ s.incoming)).2 = _
      rw [hunread]
      exact hfails.code
  | dispatched n request m hphase hparse hring => exact h.dispatch hparse hring horderly
  | @handled calls handler request hphase =>
    refine ⟨horderly, h.capacity, h.found, ?_, trivial⟩
    have hanswers : s.phase.Answers around s.rounds.length calls := hcalm
    rw [hphase] at hanswers
    refine forall_getElem?_concat h.answered ?_
    intro handler' hhandler
    obtain rfl := Except.ok.inj hhandler
    exact hanswers
  | @wrote event round write write' hphase hwrite =>
    obtain ⟨-, -, hreader, hincoming, hreceived, hrounds⟩ := wrote_eq s round write write'
    have hunread : (s.wrote round write write').unread = s.unread := by
      rw [unread, unread, ringBuffer, hreader, hincoming]
      rfl
    refine h.keep horderly hcap hunread hreceived hrounds ?_
    have haccounts := h.orderly.accounts
    rw [hphase] at haccounts
    obtain ⟨-, -, hsending, -⟩ := haccounts
    obtain ⟨-, -, hgoes⟩ := hsending.accepts hwrite hcalm
    rcases hgoes with hresult | ⟨hresult, -⟩
    · simp only [FailsAsFound, ServerConn.wrote, hresult]
    · simp only [FailsAsFound, ServerConn.wrote, hresult]
  | closed lastError hphase =>
    refine h.keep horderly hcap rfl rfl rfl ?_
    have hfailing := h.failing
    rw [FailsAsFound, hphase] at hfailing
    obtain ⟨log, e, hlog, hsent, hfails⟩ := hfailing
    refine ⟨log, e, ?_, hsent, hfails.none_left, hfails.code⟩
    show s.log ++ [.closed] = _
    rw [hlog, List.append_assoc]
    rfl

/-! ## What is left to do -/

/-- What is left of a round, by where the coroutine is.  A handler counts with the bytes not read: it
    decides how long the response is. -/
def toDo (s : ServerConn ρ η) : Nat × Nat :=
  match s.phase with
  | .handling _ _ => (2 * s.unread.length + 1, 0)
  | .sending round write =>
    (2 * s.unread.length,
      2 * s.incoming.length + 4 + (round.response.serialize.length - write.accepted.length))
  | .testing => (2 * s.unread.length, 2 * s.incoming.length + 4)
  | .reading =>
    (2 * s.unread.length, 2 * s.incoming.length + if s.reader.result = none then 3 else 2)
  | .closing => (2 * s.unread.length, 1)
  | .ended => (2 * s.unread.length, 0)

theorem toDo_of_reading (hphase : s.phase = .reading) :
    s.toDo = (2 * s.unread.length, 2 * s.incoming.length + if s.reader.result = none then 3 else 2) := by
  unfold toDo
  rw [hphase]

theorem toDo_fst_le (s : ServerConn ρ η) : s.toDo.1 ≤ 2 * s.unread.length + 1 := by
  unfold toDo
  split
  all_goals
    simp only []
    omega

theorem dispatch_unread (services : Services η ζ) (s : ServerConn ρ η) (request : RpcRequest) :
    (s.dispatch services request).unread = s.unread := by
  simp only [ServerConn.dispatch]
  split
  · rfl
  · rfl

/-- While a request is read. -/
theorem less_of_reading (hphase : s.phase = .reading) (hphase' : s'.phase = .reading)
    (hunread : s'.unread = s.unread) (hless : s'.incoming.length < s.incoming.length ∨
      s'.incoming = s.incoming ∧ s.reader.result = none ∧ s'.reader.result ≠ none) :
    Less s'.toDo s.toDo := by
  rw [toDo_of_reading hphase, toDo_of_reading hphase', hunread]
  refine Prod.Lex.right _ ?_
  rcases hless with hlt | ⟨hsame, hnone, hsome⟩
  · split
    · split <;> omega
    · split <;> omega
  · rw [if_pos hnone, if_neg hsome, hsame]
    omega

/-- **Every undisturbed step takes something off it.** -/
theorem Scanned.toDo_step (h : s.Scanned services around room stream)
    (hcalm : s.Undisturbed around action) (hstep : s.step services action = some s') :
    Less s'.toDo s.toDo := by
  have hopen := h.orderly.reader
  cases stepped hopen hstep with
  | started hphase =>
    have hs : s.toDo = (2 * s.unread.length, 2 * s.incoming.length + 4) := by
      unfold toDo
      rw [hphase]
    rw [hs]
    refine Prod.Lex.right _ ?_
    show 2 * s.incoming.length + 3 < 2 * s.incoming.length + 4
    omega
  | stopped hphase => cases hcalm
  | @piece n m hphase hpiece hwaits hfits hring =>
    refine less_of_reading hphase hphase ?_ (Or.inl ?_)
    · show RingBuffer.content m.state.ringBuffer ++ s.incoming.drop n = s.unread
      rw [hring, RingBuffer.content_receive hfits, List.append_assoc, List.take_append_drop]
      rfl
    · show (s.incoming.drop n).length < s.incoming.length
      have hpos := List.length_pos_of_ne_nil hpiece
      rw [List.length_take] at hpos
      rw [List.length_drop]
      omega
  | @hungUp e m hphase _ hring =>
    rw [step_hangUp hphase] at hstep
    obtain ⟨hnone, -, -, hunread, htells⟩ := hangUp_spec (hopen hphase) hstep
    refine less_of_reading hphase hphase hunread (Or.inr ⟨rfl, hnone, ?_⟩)
    rw [htells around.ending hcalm.2]
    exact around.ending.result_ne_none hcalm.2
  | readFailed e m hphase hring hwhy =>
    have hunread : RingBuffer.content m.state.ringBuffer ++ s.incoming = s.unread := by
      rw [hring]
      rfl
    have hs' : ∀ log lastError, toDo { s with
        reader := m, lastError := lastError, phase := .closing, log := log } =
        (2 * s.unread.length, 1) := by
      intro log lastError
      show (2 * (RingBuffer.content m.state.ringBuffer ++ s.incoming).length, 1) = _
      rw [hunread]
    rw [toDo_of_reading hphase, hs']
    refine Prod.Lex.right _ ?_
    split <;> omega
  | dispatched n request m hphase hparse hring =>
    obtain ⟨hpos, hle⟩ := parser.consumes hparse
    have hunread : (RingBuffer.content m.state.ringBuffer ++ s.incoming).length < s.unread.length := by
      rw [hring, RingBuffer.content_consume _ _ hle, unread, List.length_append, List.length_append,
        List.length_drop]
      omega
    rw [toDo_of_reading hphase]
    refine Prod.lex_iff.mpr (Or.inl ?_)
    have hfst := ({ s with reader := m }.dispatch services request).toDo_fst_le
    rw [dispatch_unread] at hfst
    have hstart : ({ s with reader := m } : ServerConn ρ η).unread.length < s.unread.length := hunread
    show _ < 2 * s.unread.length
    omega
  | @handled calls handler request hphase =>
    have hs : s.toDo = (2 * s.unread.length + 1, 0) := by
      unfold toDo
      rw [hphase]
    rw [hs]
    exact Prod.Lex.left _ _ (Nat.lt_succ_self _)
  | @wrote event round write write' hphase hwrite =>
    obtain ⟨-, -, hreader, hincoming, -, -⟩ := wrote_eq s round write write'
    have hunread : (s.wrote round write write').unread = s.unread := by
      rw [unread, unread, ringBuffer, hreader, hincoming]
      rfl
    have haccounts := h.orderly.accounts
    rw [hphase] at haccounts
    obtain ⟨-, -, hsending, -⟩ := haccounts
    obtain ⟨hmore, hle, hgoes⟩ := hsending.accepts hwrite hcalm
    have hs : s.toDo = (2 * s.unread.length,
        2 * s.incoming.length + 4 + (round.response.serialize.length - write.accepted.length)) := by
      unfold toDo
      rw [hphase]
    rcases hgoes with hresult | ⟨hresult, hall⟩
    · have hs' : (s.wrote round write write').toDo = (2 * s.unread.length,
          2 * s.incoming.length + 4 + (round.response.serialize.length - write'.accepted.length)) := by
        rw [← hunread, ← hincoming]
        simp only [ServerConn.wrote, hresult]
        rfl
      rw [hs, hs']
      refine Prod.Lex.right _ ?_
      omega
    · have hs' : (s.wrote round write write').toDo = (2 * s.unread.length, 2 * s.incoming.length + 4) := by
        rw [← hunread, ← hincoming]
        simp only [ServerConn.wrote, hresult]
        rfl
      rw [hs, hs']
      refine Prod.Lex.right _ ?_
      omega
  | closed lastError hphase =>
    have hs : s.toDo = (2 * s.unread.length, 1) := by
      unfold toDo
      rw [hphase]
    rw [hs]
    exact Prod.Lex.right _ Nat.one_pos

/-! ## At rest -/

/-- A connection that is not over and does not wait for its peer can go on. -/
theorem Scanned.at_rest (h : s.Scanned services around room stream) (hrest : s.AtRest services around) :
    s.phase = .ended ∨
      (s.phase = .reading ∧ s.incoming = [] ∧ around.ending.hangUp = none ∧
        parser.parse (RingBuffer.content s.ringBuffer) = .ok none ∧ 0 < RingBuffer.free s.ringBuffer) := by
  cases hphase : s.phase with
  | testing =>
    refine absurd ?_ (hrest (.test true) s.getRequest rfl)
    unfold ServerConn.step
    rw [hphase]
  | reading =>
    rcases reading_moves services hphase (h.orderly.reader hphase) with
      ⟨s', hs'⟩ | ⟨hparse, hfree, hread, hend⟩
    · exact absurd hs' (hrest .receive s' trivial)
    · have hincoming : s.incoming = [] := by
        by_contra hne
        obtain ⟨s', hs'⟩ := hread hne
        exact hrest (.readv 1) s' trivial hs'
      refine Or.inr ⟨rfl, hincoming, ?_, hparse, hfree⟩
      by_contra hne
      obtain ⟨e, he⟩ := Option.ne_none_iff_exists'.mp hne
      obtain ⟨s', hs'⟩ := hend e
      exact hrest (.hangUp e) s' ⟨hincoming, he⟩ hs'
  | handling handler request =>
    let answer := around.respond s.rounds.length handler request.msg
    have hanswers : s.Undisturbed around (.handle [.setError answer.1, .setPayload answer.2]) := by
      show s.phase.Answers around s.rounds.length _
      rw [hphase]
      rfl
    refine absurd ?_ (hrest _ (s.sendResponse ⟨request, .ok handler,
      [.setError answer.1, .setPayload answer.2]⟩) hanswers)
    unfold ServerConn.step
    rw [hphase]
  | sending round write =>
    have haccounts := h.orderly.accounts
    rw [hphase] at haccounts
    obtain ⟨-, hresult, hsending, -⟩ := haccounts
    obtain ⟨write', hwrite⟩ := hsending.moves hresult
    refine absurd ?_ (hrest (.writev (.accept 1)) (s.wrote round write write') id)
    unfold ServerConn.step
    rw [hphase]
    simp only [hwrite, Option.map_some]
  | closing =>
    refine absurd ?_ (hrest (.close (.ok ())) { s with
      lastError := s.lastError, phase := .ended, log := s.log ++ [.closed] } trivial)
    unfold ServerConn.step
    rw [hphase]
  | ended => exact Or.inl rfl

theorem atRest_of_ended (services : Services η ζ) (around : Surroundings η) (hphase : s.phase = .ended) :
    s.AtRest services around := by
  intro action s' _ hstep
  unfold ServerConn.step at hstep
  rw [hphase] at hstep
  cases action with
  | _ => cases hstep

end ServerConn

/-! ## The answers -/

variable {services : Services η ζ} {around : Surroundings η}

theorem Round.answerMsg_eq {i : Nat} {round : Round η}
    (hresolved : round.found = resolveMethodHandler services round.request)
    (hanswers : round.AnswersAs around i) :
    round.response.serialize = (answerMsg services around i round.request.msg).frame := by
  rw [RpcResponse.serialize_eq, round.response_msg]
  have hroute : resolveMethodHandler services round.request.msg.toRequest =
      resolveMethodHandler services round.request := rfl
  unfold answerMsg Round.outcome
  rw [hroute, ← hresolved]
  cases hfound : round.found with
  | error code => rfl
  | ok handler =>
    simp only []
    rw [hanswers handler hfound]
    rfl

theorem responseBytes_eq {rounds : List (Round η)}
    (hresolved : ∀ round ∈ rounds, round.found = resolveMethodHandler services round.request)
    (hanswered : ∀ (i : Nat) (round : Round η), rounds[i]? = some round → round.AnswersAs around i) :
    responseBytes rounds = answerBytes services around ((rounds.map Round.request).map RpcRequest.msg) := by
  unfold responseBytes answerBytes
  congr 1
  refine List.ext_getElem? ?_
  intro i
  rw [List.getElem?_map, List.getElem?_map, List.getElem?_zipIdx, List.getElem?_map, List.getElem?_map]
  cases hround : rounds[i]? with
  | none => rfl
  | some round =>
    have hframe := round.answerMsg_eq (hresolved round (List.mem_of_getElem? hround)) (hanswered i round hround)
    simp only [Option.map_some, Nat.zero_add]
    rw [hframe]

theorem answerBytes_mono {requests requests' : List RequestMsg} (h : requests <+: requests') :
    answerBytes services around requests <+: answerBytes services around requests' := by
  obtain ⟨more, rfl⟩ := h
  unfold answerBytes
  rw [List.zipIdx_append, List.map_append, List.flatten_append]
  exact List.prefix_append _ _

namespace ServerConn

/-- **The bytes decide what a connection does.**  Whatever bytes a peer sends, and however these come in
    and the responses go out, as long as the server is not stopped, no write fails, the peer goes away
    behind its last byte only and handlers answer as the surroundings say: the connection receives the
    requests that a reader with its ring buffer finds in the bytes and sends the answers to these, never
    anything else; it comes to rest; and at rest it has received them all and sent all the answers, and has
    failed with the code that the rest of the bytes calls for and closed, or waits for more of them. -/
theorem stream_decides (services : Services η ζ) (around : Surroundings η) {ring : ρ}
    (hempty : RingBuffer.content ring = []) (stream : Bytes) {actions : List ServerAction}
    {s : ServerConn ρ η}
    (hrun : Run (ServerConn.step services) (Undisturbed around) { start ring with incoming := stream } actions
      s) :
    let found := parser.scan (RingBuffer.capacity ring) stream
    s.received.map RpcRequest.msg <+: found.1 ∧
    s.sent <+: answerBytes services around found.1 ∧
    ¬ Endless (ServerConn.step services) (Undisturbed around) s ∧
    (s.AtRest services around →
      s.received.map RpcRequest.msg = found.1 ∧ s.sent = answerBytes services around found.1 ∧
        match around.ending.failure found.2 with
        | none => s.phase = .reading
        | some code =>
          s.phase = .ended ∧ ∃ log e, s.log = log ++ [.readFailed e, .closed] ∧ e.code = code) := by
  intro found
  have h : s.Scanned services around (RingBuffer.capacity ring) stream :=
    hrun.invariant (fun _ _ _ h hcalm hstep => h.step hcalm hstep)
      (scanned_start services around hempty stream)
  have hfound : found = _ := h.found
  have hreceived : s.received.map RpcRequest.msg <+: found.1 := by
    rw [hfound]
    exact List.prefix_append _ _
  have hresponses := responseBytes_eq h.orderly.resolved h.answered
  obtain ⟨hrounds, hsent⟩ := h.orderly.rounds_received
  refine ⟨hreceived, ?_, ?_, ?_⟩
  · rw [hresponses] at hsent
    exact hsent.trans (answerBytes_mono ((hrounds.map RpcRequest.msg).trans hreceived))
  · refine not_endless (I := fun s w => s.Scanned services around (RingBuffer.capacity ring) stream ∧
      w = s.toDo) less_wf ?_ ⟨h, rfl⟩
    rintro s _ a s' ⟨h, rfl⟩ hcalm hstep
    exact ⟨_, ⟨h.step hcalm hstep, rfl⟩, h.toDo_step hcalm hstep⟩
  · intro hrest
    have hall : (parser.scan (RingBuffer.capacity ring) s.unread).1 = [] →
        s.received = s.rounds.map Round.request → s.sent = responseBytes s.rounds →
        s.received.map RpcRequest.msg = found.1 ∧ s.sent = answerBytes services around found.1 := by
      intro hnone hdone hsame
      have hmsgs : s.received.map RpcRequest.msg = found.1 := by
        rw [hfound, hnone, List.append_nil]
      refine ⟨hmsgs, ?_⟩
      rw [hsame, hresponses, ← hdone, hmsgs]
    have haccounts := h.orderly.accounts
    rcases h.at_rest hrest with hphase | ⟨hphase, hincoming, hending, hparse, hfree⟩
    · have hfailing := h.failing
      rw [FailsAsFound, hphase] at hfailing
      rw [hphase] at haccounts
      obtain ⟨log, e, hlog, hsame, hfails⟩ := hfailing
      obtain ⟨hmsgs, hbytes⟩ := hall hfails.none_left haccounts.1 hsame
      refine ⟨hmsgs, hbytes, ?_⟩
      have hcode : around.ending.failure found.2 = some e.code := by
        rw [hfound]
        exact hfails.code
      rw [hcode]
      exact ⟨hphase, log, e, hlog, rfl⟩
    · rw [hphase] at haccounts
      have hunread : s.unread = RingBuffer.content s.ringBuffer := by
        rw [unread, hincoming, List.append_nil]
      have hscan : parser.scan (RingBuffer.capacity ring) s.unread = ([], .unfinished) := by
        refine FrameParser.scan_unfinished ?_ (hunread ▸ hparse)
        have hcap := h.capacity
        unfold RingBuffer.free at hfree
        rw [hunread]
        omega
      obtain ⟨hmsgs, hbytes⟩ := hall (congrArg Prod.fst hscan) haccounts.1 haccounts.2
      refine ⟨hmsgs, hbytes, ?_⟩
      have hsilent : around.ending.failure found.2 = none := by
        rw [hfound, hscan]
        cases hends : around.ending with
        | silent => rfl
        | closed =>
          rw [hends] at hending
          cases hending
        | failed e =>
          rw [hends] at hending
          cases hending
      rw [hsilent]
      exact hphase

/-- A request, and bytes that are no header behind it; the handler answers with the payload it is given. -/
def echoThenJunk : Bytes := echoRequest.serialize ++ List.replicate 16 0

def echoing : Surroundings Unit := ⟨fun _ _ m => (.ok, m.payload), .silent⟩

/-- They come in in three pieces, the second one across the end of the request. -/
def threePieces : List ServerAction :=
  [.test true, .readv 9, .readv 31, .receive, .handle [.setPayload [0x68, 0x69]], .writev (.accept 5),
    .writev (.accept 15), .test true, .readv 6, .receive, .close (.ok ())]

theorem stream_decides_pieces :
    ∃ s : ServerConn (Circular UInt8) Unit,
      runAll (ServerConn.step RpcServer.echoServer.mServices) (Undisturbed echoing)
          { start (Circular.empty 40 fun _ => 0) with incoming := echoThenJunk } threePieces = some s ∧
        s.received.map RpcRequest.msg = (parser.scan 40 echoThenJunk).1 ∧
        s.sent = answerBytes RpcServer.echoServer.mServices echoing (parser.scan 40 echoThenJunk).1 ∧
        ∃ log e, s.log = log ++ [.readFailed e, .closed] ∧ e.code = .invalidRequest := by
  have hruns : ((runAll (ServerConn.step RpcServer.echoServer.mServices) (Undisturbed echoing)
      { start (Circular.empty 40 fun _ => (0 : UInt8)) with incoming := echoThenJunk } threePieces).map
        fun s => s.phase.isEnded) = some true := by
    decide +kernel
  obtain ⟨s, hs, hended⟩ := Option.map_eq_some_iff.mp hruns
  have hphase : s.phase = .ended := by
    cases hp : s.phase with
    | ended => rfl
    | _ =>
      rw [hp] at hended
      cases hended
  have hempty : RingBuffer.content (Circular.empty 40 fun _ => (0 : UInt8)) = [] := rfl
  obtain ⟨-, -, -, hrest⟩ :=
    stream_decides RpcServer.echoServer.mServices echoing hempty echoThenJunk (run_iff_runAll.mpr hs)
  obtain ⟨hreceived, hsent, hfails⟩ := hrest (atRest_of_ended _ _ hphase)
  have hcode : echoing.ending.failure (parser.scan 40 echoThenJunk).2 = some .invalidRequest := by
    decide +kernel
  rw [show RingBuffer.capacity (Circular.empty 40 fun _ => (0 : UInt8)) = 40 from rfl, hcode] at hfails
  exact ⟨s, hs, hreceived, hsent, hfails.2⟩

end ServerConn

end GalayRpc
