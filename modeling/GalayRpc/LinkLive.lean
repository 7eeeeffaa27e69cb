/-
  One call after the other on a connection on which nothing goes wrong: every call is answered.

  `Calm` is what has to be granted: a call starts when the ones before have returned, its request fits the
  server's ring buffer and its response the client's, and no operation fails, is given up or cut off.
  The sizes of all pieces, and the order of the steps of the two ends, are still arbitrary.

  1. **Stages** — `Stage` lists where a call can be: its request on the way, in its handler, its response
     on the way, in the client's ring.  What either end holds and what is between them is known exactly.

  2. **Step** — a calm step leads from stage to stage, and unless it starts a call it takes something off
     the work that is left (`Stage.step`): a stage, or bytes that still have to be written or received.

  3. **Progress** — in every stage but the last some end can take a step (`Stage.progress`): neither end
     waits for bytes that do not come or have no room.

  So a run that goes on as long as it can ends, and then every call has returned its response.
-/
import GalayRpc.Link
import GalayRpc.Timeout

namespace GalayRpc

variable {ρ ρ' η ζ : Type} [RingBuffer ρ] [RingBuffer ρ']

/-! ## What is granted -/

/-- The largest frame the client's reader takes: its limit, or its ring buffer. -/
def frameRoom (setting : RpcReaderSetting) (ring : ρ) : Nat :=
  min (RingBuffer.capacity ring) (setting.maxMessageSize + 16).toNat

/-- Nothing goes wrong, and calls are made one after the other. -/
def Link.Calm (setting : RpcReaderSetting) (l : Link ρ ρ' η) : LinkAction → Prop
  | .client (.call args) =>
    (args.Admissible ∧
      (callRequest 0 args).msg.frame.length ≤ RingBuffer.capacity l.server.ringBuffer) ∧
    ∀ c ∈ l.client.calls, c.result?.isSome = true
  | .client (.write _ event) => ¬ event.Fails
  | .client (.hangUp _ _) => False
  | .client (.abandon _) => False
  | .server (.test running) => running = true
  | .server (.hangUp _) => False
  | .server (.handle calls) =>
    ResponseFits calls ∧
      18 + (RpcContextCall.outcome calls).2.length ≤ frameRoom setting l.client.mRingBuffer
  | .server (.writev event) => ¬ event.Fails
  | _ => True

instance (setting : RpcReaderSetting) (l : Link ρ ρ' η) (a : LinkAction) :
    Decidable (l.Calm setting a) :=
  match a with
  | .client (.call _) =>
    @instDecidableAnd _ _ (inferInstanceAs (Decidable (_ ∧ _ ≤ _))) (List.decidableBAll _ _)
  | .client (.write _ event) => inferInstanceAs (Decidable (¬ event.Fails))
  | .client (.hangUp _ _) => .isFalse id
  | .client (.abandon _) => .isFalse id
  | .client (.read _ _) => .isTrue trivial
  | .client (.finish _) => .isTrue trivial
  | .client (.respond _) => .isTrue trivial
  | .server (.test running) => inferInstanceAs (Decidable (running = true))
  | .server (.readv _) => .isTrue trivial
  | .server (.hangUp _) => .isFalse id
  | .server .receive => .isTrue trivial
  | .server (.handle calls) => inferInstanceAs (Decidable (ResponseFits calls ∧ _ ≤ _))
  | .server (.writev event) => inferInstanceAs (Decidable (¬ event.Fails))
  | .server (.close _) => .isTrue trivial

/-- The action starts a call. -/
def LinkAction.IsCall (a : LinkAction) : Prop := ∃ args, a = .client (.call args)

/-! ## Stages -/

/-- The call has written its request and returned a response. -/
def Call.Answered (c : Call) : Prop :=
  (∃ response, c.phase = .returned (.ok (some response))) ∧ c.emitted = c.request.serialize

/-- The call waits for its response. -/
def Call.Waiting (c : Call) : Prop := ∃ m, c.phase = .receiving m ∧ m.result = none

/-- The bytes that the server has written and the client not read. -/
def ClientConn.unread (s : ClientConn ρ) : Bytes := RingBuffer.content s.mRingBuffer ++ s.arriving

omit [RingBuffer ρ'] in
/-- The server waits for a request, `w` steps away from reading it. -/
def ServerConn.Ready (s : ServerConn ρ' η) (w : Nat) : Prop :=
  (s.phase = .testing ∧ w = 1) ∨ (s.phase = .reading ∧ s.reader.result = none ∧ w = 0)

namespace Link

omit [RingBuffer ρ] [RingBuffer ρ'] in
/-- The last call is at work, and the ones before have been answered. -/
structure AtWork (l : Link ρ ρ' η) (before : List Call) (c : Call) : Prop where
  calls : l.client.calls = before ++ [c]
  before : ∀ c ∈ before, c.Answered
  active : c.abandoned = false

/-- **Where the last call is**, with the work that is left: the part of the way, and the bytes still to
    be written and received on it, where one that is not written yet counts for the steps to come. -/
inductive Stage (setting : RpcReaderSetting) (l : Link ρ ρ' η) : Nat × Nat → Prop where
  | idle {w : Nat} (hcalls : ∀ c ∈ l.client.calls, c.Answered) (hserver : l.server.Ready w)
      (hin : l.server.unread = []) (hout : l.client.unread = []) : Stage setting l (0, w)
  | asking {w : Nat} (before : List Call) (c : Call) (hwork : l.AtWork before c)
      (hphase : (∃ m, c.phase = .sending m) ∨ c.Waiting)
      (hfits : c.request.msg.frame.length ≤ RingBuffer.capacity l.server.ringBuffer)
      (hserver : l.server.Ready w) (hin : l.server.unread = c.emitted) (hout : l.client.unread = []) :
      Stage setting l
        (3, 2 * (c.request.serialize.length - c.emitted.length) + l.server.incoming.length + w)
  | handling (before : List Call) (c : Call) (handler : η) (request : RpcRequest)
      (hwork : l.AtWork before c) (hphase : c.Waiting)
      (hserver : l.server.phase = .handling handler request) (hrequest : request.msg = c.request.msg)
      (hin : l.server.unread = []) (hout : l.client.unread = []) : Stage setting l (2, 0)
  | answering (before : List Call) (c : Call) (round : Round η) (write : WritevRun)
      (hwork : l.AtWork before c) (hphase : c.Waiting) (hserver : l.server.phase = .sending round write)
      (hrequest : round.request.msg = c.request.msg)
      (hfits : round.response.serialize.length ≤ frameRoom setting l.client.mRingBuffer)
      (hin : l.server.unread = []) (hout : l.client.unread = write.accepted) :
      Stage setting l
        (1, 3 * (round.response.serialize.length - write.accepted.length) + l.client.arriving.length)
  | answered {w : Nat} (before : List Call) (c : Call) (round : Round η) (hwork : l.AtWork before c)
      (hphase : c.Waiting) (hserver : l.server.Ready w) (hrequest : round.request.msg = c.request.msg)
      (hfits : round.response.serialize.length ≤ frameRoom setting l.client.mRingBuffer)
      (hround : round ∈ l.server.rounds)
      (hin : l.server.unread = []) (hout : l.client.unread = round.response.serialize) :
      Stage setting l (1, l.client.arriving.length + w)

omit [RingBuffer ρ] [RingBuffer ρ'] in
/-- It is the calls that matter. -/
theorem AtWork.keep {l l' : Link ρ ρ' η} {before : List Call} {c : Call} (h : l.AtWork before c)
    (hcalls : l'.client.calls = l.client.calls) : l'.AtWork before c :=
  ⟨hcalls.trans h.calls, h.before, h.active⟩

end Link

/-! ## The moves of either end -/

section ServerMoves

variable {services : Services η ζ} {s s' : ServerConn ρ' η}

/-- What a server that waits for a request can do, when it is not stopped or cut off. -/
inductive ServerConn.ReadyStep (services : Services η ζ) (s : ServerConn ρ' η) (w : Nat)
    (s' : ServerConn ρ' η) : Prop where
  | waits (w' : Nat) (hready : s'.Ready w') (hunread : s'.unread = s.unread) (hsent : s'.sent = s.sent)
      (hrounds : s'.rounds = s.rounds)
      (hcap : RingBuffer.capacity s'.ringBuffer = RingBuffer.capacity s.ringBuffer)
      (hless : s'.incoming.length + w' < s.incoming.length + w)
  | reads (n : Nat) (request : RpcRequest) (m : RpcRingBufferReadMachine ρ' RpcRequest)
      (hparse : ServerConn.parser.parse (RingBuffer.content s.ringBuffer) = .ok (some (n, request.msg)))
      (hring : m.state.ringBuffer = RingBuffer.consume s.ringBuffer n)
      (hs' : s' = { s with reader := m }.dispatch services request)
  | stuck (hwhy : (∃ code, ServerConn.parser.parse (RingBuffer.content s.ringBuffer) = .error code) ∨
      (ServerConn.parser.parse (RingBuffer.content s.ringBuffer) = .ok none ∧
        RingBuffer.free s.ringBuffer = 0))

theorem ServerConn.Ready.step {stream : Bytes} {w : Nat} (h : s.Ready w)
    (horderly : s.Orderly services stream) {action : ServerAction} (hrunning : action ≠ .test false)
    (hconnected : ∀ e, action ≠ .hangUp e) (hstep : s.step services action = some s') :
    s.ReadyStep services w s' := by
  have hreading : ∀ {phase : ServerPhase η}, s.phase = phase → phase = .testing ∨ phase = .reading := by
    rintro phase rfl
    rcases h with ⟨hphase, -⟩ | ⟨hphase, -⟩
    · exact Or.inl hphase
    · exact Or.inr hphase
  cases ServerConn.stepped horderly.reader hstep with
  | started hphase =>
    rcases h with ⟨-, rfl⟩ | ⟨hphase', -⟩
    · refine .waits 0 (Or.inr ⟨rfl, rfl, rfl⟩) rfl rfl rfl rfl ?_
      exact Nat.lt_succ_self _
    · rw [hphase] at hphase'
      cases hphase'
  | stopped hphase => exact absurd rfl hrunning
  | @piece n m hphase hpiece hwaits hfits hring =>
    rcases h with ⟨hphase', -⟩ | ⟨-, -, rfl⟩
    · rw [hphase] at hphase'
      cases hphase'
    · refine .waits 0 (Or.inr ⟨hphase, hwaits.1, rfl⟩) ?_ rfl rfl ?_ ?_
      · show RingBuffer.content m.state.ringBuffer ++ s.incoming.drop n = s.unread
        rw [hring, RingBuffer.content_receive hfits, List.append_assoc, List.take_append_drop]
        rfl
      · show RingBuffer.capacity m.state.ringBuffer = _
        rw [hring, RingBuffer.capacity_receive]
      · show (s.incoming.drop n).length + 0 < s.incoming.length + 0
        have hpos := List.length_pos_of_ne_nil hpiece
        rw [List.length_take] at hpos
        rw [List.length_drop]
        omega
  | @hungUp e m hphase => exact absurd rfl (hconnected e)
  | readFailed e m hphase hring hwhy =>
    rcases h with ⟨hphase', -⟩ | ⟨-, hresult, -⟩
    · rw [hphase] at hphase'
      cases hphase'
    · rcases hwhy with hfailed | hwhy
      · rw [hresult] at hfailed
        cases hfailed
      · exact .stuck hwhy
  | dispatched n request m hphase hparse hring => exact .reads n request m hparse hring rfl
  | handled handler request hphase =>
    rcases hreading hphase with hp | hp
    · cases hp
    · cases hp
  | wrote round write write' hphase =>
    rcases hreading hphase with hp | hp
    · cases hp
    · cases hp
  | closed lastError hphase =>
    rcases hreading hphase with hp | hp
    · cases hp
    · cases hp

end ServerMoves

section ClientMoves

variable {setting : RpcReaderSetting} {s s' : ClientConn ρ} {before : List Call} {c : Call}

/-- What the last call can do, when all others have returned and it is not given up or cut off. -/
inductive ClientConn.LastStep (setting : RpcReaderSetting) (s : ClientConn ρ) (before : List Call)
    (c : Call) : ClientConn ρ → Prop where
  | wrote {event : WriteEvent} {c' : Call} {put : Bytes} (hwrote : c.Wrote event c' put)
      (haccepts : ¬ event.Fails) :
      LastStep setting s before c { s with calls := before ++ [c'], sent := s.sent ++ put }
  | piece {n : Nat} (m m' : DetachedReader) (hphase : c.phase = .receiving m)
      (hpiece : s.arriving.take n ≠ []) (hresult : m'.result = none)
      (hfits : (s.arriving.take n).length ≤ RingBuffer.free s.mRingBuffer) :
      LastStep setting s before c { s with
        calls := before ++ [{ c with phase := .receiving m' }]
        mRingBuffer := RingBuffer.receive s.mRingBuffer (s.arriving.take n)
        arriving := s.arriving.drop n }
  | read (n : Nat) (own : RpcResponse) (m : DetachedReader) (hphase : c.phase = .receiving m)
      (hparse : (Call.parser setting).parse (RingBuffer.content s.mRingBuffer) =
        .ok (some (n, own.msg))) :
      LastStep setting s before c { s with
        calls := before ++ [{ c with phase := .returned (checkResponse c.request own) }]
        mRingBuffer := RingBuffer.consume s.mRingBuffer n }
  | stuck (later : ClientConn ρ) (m : DetachedReader) (hphase : c.phase = .receiving m)
      (hwhy : (∃ e, m.result = some (.error e)) ∨
        (∃ code, (Call.parser setting).parse (RingBuffer.content s.mRingBuffer) = .error code) ∨
        ((Call.parser setting).parse (RingBuffer.content s.mRingBuffer) = .ok none ∧
          RingBuffer.free s.mRingBuffer = 0)) : LastStep setting s before c later

theorem Call.open_of_sending {c : Call} {m : RpcWritevMachine} (hphase : c.phase = .sending m)
    (response : RpcResponse) : c.phase ≠ .returned (.ok (some response)) := by
  rw [hphase]
  nofun

theorem Call.open_of_receiving {c : Call} {m : DetachedReader} (hphase : c.phase = .receiving m)
    (response : RpcResponse) : c.phase ≠ .returned (.ok (some response)) := by
  rw [hphase]
  nofun

omit [RingBuffer ρ] in
/-- A call that is not over is the last. -/
theorem last_of_not_over (hcalls : s.calls = before ++ [c])
    (hbefore : ∀ c ∈ before, c.Answered) {i : Nat} {ci : Call} (hi : s.calls[i]? = some ci)
    (hopen : ∀ response, ci.phase ≠ .returned (.ok (some response))) :
    i = before.length ∧ ci = c := by
  rw [hcalls] at hi
  rcases Nat.lt_or_ge i before.length with hlt | hge
  · rw [List.getElem?_append_left hlt] at hi
    obtain ⟨response, hphase⟩ := (hbefore ci (List.mem_of_getElem? hi)).1
    exact absurd hphase (hopen response)
  · rw [List.getElem?_append_right hge, List.getElem?_singleton] at hi
    split at hi
    · obtain rfl := Option.some.inj hi
      exact ⟨by omega, rfl⟩
    · cases hi

theorem ClientConn.lastStep (hsound : s.Sound) (hcalls : s.calls = before ++ [c])
    (hbefore : ∀ c ∈ before, c.Answered) {a : ClientAction} (hrespond : ∀ answer, a ≠ .respond answer)
    (hcall : ∀ args, a ≠ .call args) (hevent : ∀ i event, a = .write i event → ¬ event.Fails)
    (hconnected : ∀ i e, a ≠ .hangUp i e) (hkept : ∀ i, a ≠ .abandon i)
    (hstep : s.step setting a = some s') : s.LastStep setting before c s' := by
  have hset : ∀ c' : Call, s.calls.set before.length c' = before ++ [c'] := by
    intro c'
    rw [hcalls, List.set_append_right _ _ (Nat.le_refl _), Nat.sub_self]
    rfl
  cases ClientConn.stepped hstep with
  | call args => exact absurd rfl (hcall args)
  | @write i event ci c' put hi hw =>
    have hwrote := Call.write_spec (hsound.wellSent _ _ hi) hw
    obtain ⟨m, hphase⟩ := hwrote.sending
    obtain ⟨rfl, rfl⟩ := last_of_not_over hcalls hbefore hi (Call.open_of_sending hphase)
    rw [hset]
    exact .wrote hwrote (hevent _ _ rfl)
  | @read i n ci c' ring hpiece hi hr =>
    obtain ⟨-, m, m', hphase, rfl, -, hresult, -, hfits, rfl⟩ :=
      Call.read_piece (hsound.wellSent _ _ hi) hpiece hr
    obtain ⟨rfl, rfl⟩ := last_of_not_over hcalls hbefore hi (Call.open_of_receiving hphase)
    rw [hset]
    exact .piece m m' hphase hpiece hresult hfits
  | @hangUp i e => exact absurd rfl (hconnected i e)
  | @finish i ci c' ring hi hf =>
    obtain ⟨-, m, hphase, ⟨n, own, hparse, rfl, rfl⟩ | ⟨e, rfl, rfl, hwhy⟩⟩ :=
      Call.finish_spec (hsound.wellSent _ _ hi) hf
    · obtain ⟨rfl, rfl⟩ := last_of_not_over hcalls hbefore hi (Call.open_of_receiving hphase)
      rw [hset]
      exact .read n own m hphase hparse
    · obtain ⟨rfl, rfl⟩ := last_of_not_over hcalls hbefore hi (Call.open_of_receiving hphase)
      exact .stuck _ m hphase (hwhy.imp (fun he => ⟨e, he⟩) id)
  | @abandon i => exact absurd rfl (hkept i)
  | respond answer => exact absurd rfl (hrespond answer)

end ClientMoves

/-! ## The rings -/

omit [RingBuffer ρ'] in
/-- No step of the client changes the size of its ring. -/
theorem ClientConn.capacity_of_step {setting : RpcReaderSetting} {s s' : ClientConn ρ} {a : ClientAction}
    (h : s.Sound) (hstep : s.step setting a = some s') :
    RingBuffer.capacity s'.mRingBuffer = RingBuffer.capacity s.mRingBuffer := by
  cases ClientConn.stepped hstep with
  | call args => rfl
  | write hi hw => rfl
  | read hpiece hi hr =>
    obtain ⟨-, m, m', -, -, -, -, -, -, rfl⟩ := Call.read_piece (h.wellSent _ _ hi) hpiece hr
    exact RingBuffer.capacity_receive _ _
  | hangUp hevent hi hr =>
    obtain ⟨-, m, m', e, -, -, -, rfl⟩ := Call.read_end (h.wellSent _ _ hi) hevent hr
    rfl
  | finish hi hf =>
    obtain ⟨-, m, -, ⟨n, own, -, rfl, -⟩ | ⟨e, rfl, -, -⟩⟩ := Call.finish_spec (h.wellSent _ _ hi) hf
    · exact RingBuffer.capacity_consume _ _
    · rfl
  | abandon hi ha => rfl
  | respond answer => rfl

/-! ## From stage to stage -/

theorem ServerConn.parser_nil : ServerConn.parser.parse [] = .ok none := rfl

theorem Call.parser_nil (setting : RpcReaderSetting) : (Call.parser setting).parse [] = .ok none :=
  rfl

/-- The request of a call, as far as it is written, on its way into the server's ring. -/
theorem Call.WellSent.arriving {c : Call} (h : c.WellSent) (hwf : c.request.msg.WellFormed)
    {content rest : Bytes} (hall : content ++ rest = c.emitted) :
    ServerConn.parser.Arriving c.request.serialize c.request.msg content rest where
  frame := by
    rw [RpcRequest.serialize_eq]
    refine hwf.frame ?_
    rw [RequestMsg.frame_length]
    exact Nat.add_le_add_left hwf.size _
  front := by
    rw [hall]
    exact h.emitted_front

/-- A call that has not written its whole request is not waiting for the response. -/
theorem Call.WellSent.waiting {c : Call} (h : c.WellSent)
    (hphase : (∃ m, c.phase = .sending m) ∨ c.Waiting) :
    c.emitted = c.request.serialize ↔ c.Waiting := by
  constructor
  · intro hall
    rcases hphase with ⟨m, hm⟩ | hwaiting
    · unfold Call.WellSent at h
      rw [hm] at h
      obtain ⟨iovecs, -, hnil, hne, hbytes⟩ := h
      have hpos := flatten_length_pos hnil hne
      rw [hall] at hbytes
      rw [List.append_right_eq_self.mp hbytes] at hpos
      exact absurd hpos (Nat.lt_irrefl 0)
    · exact hwaiting
  · rintro ⟨m, hm, -⟩
    unfold Call.WellSent at h
    rw [hm] at h
    exact h.1

namespace Link

variable {services : Services η ζ} {setting : RpcReaderSetting} {l l' : Link ρ ρ' η}

theorem serialize_length_of_outcome (round : Round η) :
    round.response.serialize.length = 18 + round.outcome.2.length := by
  rw [RpcResponse.serialize_eq, ResponseMsg.frame_length, ResponseMsg.body_length, Round.response_msg]
  show rpcHeaderSize + (2 + round.outcome.2.length) = _
  rw [← Nat.add_assoc]
  rfl

omit [RingBuffer ρ] in
/-- A step of the server that writes nothing. -/
theorem serverStep_quiet {a : ServerAction} (hstep : l.serverStep services a = some l')
    {server : ServerConn ρ' η} (hserver : l.server.step services a = some server)
    (hsent : server.sent = l.server.sent) : l' = { l with server := server } := by
  obtain ⟨server', hserver', rfl⟩ := serverStep_cases hstep
  rw [hserver] at hserver'
  obtain rfl := Option.some.inj hserver'
  rw [hsent, List.drop_length, List.append_nil]

/-- While there is nothing to read, the server waits. -/
theorem ready_step_nil {w : Nat} {s s' : ServerConn ρ' η} (h : s.ReadyStep services w s')
    (hcap : 0 < RingBuffer.capacity s.ringBuffer) (hnil : s.unread = []) :
    ∃ w', s'.Ready w' ∧ s'.unread = [] ∧ s'.sent = s.sent ∧ s'.rounds = s.rounds ∧
      s'.incoming.length + w' < s.incoming.length + w := by
  have hcontent : RingBuffer.content s.ringBuffer = [] := (List.append_eq_nil_iff.mp hnil).1
  cases h with
  | waits w' hready hunread hsent hrounds hcap' hless =>
    exact ⟨_, hready, hunread.trans hnil, hsent, hrounds, hless⟩
  | reads n request m hparse =>
    rw [hcontent, ServerConn.parser_nil] at hparse
    cases hparse
  | stuck hwhy =>
    rw [hcontent, ServerConn.parser_nil] at hwhy
    rcases hwhy with ⟨code, hcode⟩ | ⟨-, hfree⟩
    · cases hcode
    · rw [RingBuffer.free, hcontent] at hfree
      exact absurd hfree (Nat.ne_of_gt hcap)

/-- What a response is owed once its request has been handled. -/
theorem Stage.sendResponse (server : ServerConn ρ' η) (round : Round η) {before : List Call} {c : Call}
    (hwork : l.AtWork before c) (hphase : c.Waiting)
    (hrequest : round.request.msg = c.request.msg)
    (hfits : round.response.serialize.length ≤ frameRoom setting l.client.mRingBuffer)
    (hin : server.unread = []) (hout : l.client.unread = []) :
    ∃ w, Stage setting { l with server := server.sendResponse round } (1, w) :=
  ⟨_, .answering before c round _ (hwork.keep rfl) hphase rfl hrequest hfits hin hout⟩

/-- The server reads the request. -/
theorem Stage.dispatch (hj : Joined services l)
    (hroom : 18 ≤ frameRoom setting l.client.mRingBuffer) {before : List Call} {c : Call}
    (hwork : l.AtWork before c) (hphase : (∃ m, c.phase = .sending m) ∨ c.Waiting)
    (hin : l.server.unread = c.emitted) (hout : l.client.unread = []) {n : Nat} {request : RpcRequest}
    {m : RpcRingBufferReadMachine ρ' RpcRequest}
    (hparse : ServerConn.parser.parse (RingBuffer.content l.server.ringBuffer) =
      .ok (some (n, request.msg)))
    (hring : m.state.ringBuffer = RingBuffer.consume l.server.ringBuffer n) :
    ∃ w, Stage setting { l with server := { l.server with reader := m }.dispatch services request } w ∧
      w.1 < 3 := by
  have hc : l.client.calls[before.length]? = some c := by
    rw [hwork.calls, List.getElem?_concat_length]
  have hsent := hj.sound.wellSent _ _ hc
  have harriving := hsent.arriving (hj.requests _ _ hc) hin
  obtain ⟨hcontent, hrest, rfl, hmsg⟩ := harriving.of_some hparse
  have hall : c.emitted = c.request.serialize := by
    rw [← hin, ServerConn.unread, hcontent, hrest, List.append_nil]
  have hwaiting : c.Waiting := (hsent.waiting hphase).mp hall
  have hempty : RingBuffer.content m.state.ringBuffer ++ l.server.incoming = [] := by
    rw [hring, RingBuffer.content_consume _ _ (by rw [hcontent]), hcontent, List.drop_length, hrest]
    rfl
  have hfound := (findHandler_eq hj.server.cache buildRouteHash request).1
  simp only [ServerConn.dispatch, hfound]
  cases resolveMethodHandler services request with
  | error code =>
    have hfits : (Round.mk request (.error code) [] : Round η).response.serialize.length ≤
        frameRoom setting l.client.mRingBuffer := by
      rw [serialize_length_of_outcome]
      exact hroom
    obtain ⟨w, hw⟩ := Stage.sendResponse { l.server with
        reader := m
        cache := (findHandler services buildRouteHash l.server.cache request).2
        received := l.server.received ++ [request]
        log := l.server.log ++ [.received request] } ⟨request, .error code, []⟩ hwork hwaiting hmsg hfits
      hempty hout
    refine ⟨_, hw, ?_⟩
    show 1 < 3
    decide
  | ok handler =>
    exact ⟨_, .handling before c handler request (hwork.keep rfl) hwaiting rfl hmsg hempty hout,
      by decide⟩

/-- The server writes of its response. -/
theorem Stage.wrote (hj : Joined services l) {before : List Call} {c : Call}
    (hwork : l.AtWork before c) (hphase : c.Waiting) {round : Round η} {write write' : WritevRun}
    (hserver : l.server.phase = .sending round write) (hrequest : round.request.msg = c.request.msg)
    (hfits : round.response.serialize.length ≤ frameRoom setting l.client.mRingBuffer)
    (hin : l.server.unread = []) (hout : l.client.unread = write.accepted) {event : WriteEvent}
    (hwrite : write.step event = some write') (haccepts : ¬ event.Fails) :
    let put := write'.accepted.drop write.accepted.length
    ∃ w, Stage setting
        { client := { l.client with arriving := l.client.arriving ++ put }
          server := l.server.wrote round write write' } (1, w) ∧
      w < 3 * (round.response.serialize.length - write.accepted.length) +
        l.client.arriving.length := by
  intro put
  have haccounts := hj.server.accounts
  rw [hserver] at haccounts
  obtain ⟨-, -, hsending, before', hrounds, -⟩ := haccounts
  obtain ⟨hmore, hle, hgoes⟩ := hsending.accepts hwrite haccepts
  have hput : write'.accepted = write.accepted ++ put := WritevRun.accepted_of_step hwrite
  have hlen := congrArg List.length hput
  rw [List.length_append] at hlen
  -- what the client has not read is what has been written of the response
  have hunread : RingBuffer.content l.client.mRingBuffer ++ (l.client.arriving ++ put) =
      write'.accepted := by
    rw [← List.append_assoc, hput]
    exact congrArg (· ++ put) hout
  obtain ⟨-, hcache, hreader, hincoming, -, hrounds'⟩ := ServerConn.wrote_eq l.server round write write'
  have hin' : (l.server.wrote round write write').unread = [] := by
    rw [ServerConn.unread, ServerConn.ringBuffer, hreader, hincoming]
    exact hin
  rcases hgoes with hresult' | ⟨hresult', hbytes⟩
  · have hphase' : (l.server.wrote round write write').phase = .sending round write' := by
      simp only [ServerConn.wrote, hresult']
    refine ⟨_, .answering before c round write' (hwork.keep rfl) hphase
      hphase' hrequest hfits hin' hunread, ?_⟩
    show _ + (l.client.arriving ++ put).length < _
    rw [List.length_append]
    omega
  · have hphase' : (l.server.wrote round write write').phase = .testing := by
      simp only [ServerConn.wrote, hresult']
    refine ⟨_, .answered (w := 1) before c round (hwork.keep rfl) hphase
      (Or.inl ⟨hphase', rfl⟩) hrequest hfits ?_ hin' (hunread.trans hbytes), ?_⟩
    · show round ∈ (l.server.wrote round write write').rounds
      rw [hrounds', hrounds]
      exact List.mem_append_right _ (List.mem_singleton_self _)
    · show (l.client.arriving ++ put).length + 1 < _
      rw [List.length_append]
      omega

/-- **A calm step of the server takes something off the work.** -/
theorem Stage.server_step (hj : Joined services l) (hroom : 18 ≤ frameRoom setting l.client.mRingBuffer)
    (hcap : 0 < RingBuffer.capacity l.server.ringBuffer) {w : Nat × Nat} (h : Stage setting l w)
    {a : ServerAction} (hcalm : l.Calm setting (.server a))
    (hstep : l.serverStep services a = some l') : ∃ w', Stage setting l' w' ∧ Less w' w := by
  obtain ⟨server, hserver, hl'⟩ := serverStep_cases hstep
  have hrunning : a ≠ .test false := by
    rintro rfl
    cases hcalm
  have hconnected : ∀ e, a ≠ .hangUp e := by
    rintro e rfl
    exact hcalm
  have hquiet : server.sent = l.server.sent → l' = { l with server := server } :=
    serverStep_quiet hstep hserver
  cases h with
  | idle hcalls hready hin hout =>
    obtain ⟨w', hready', hin', hsent, -, hless⟩ :=
      ready_step_nil (hready.step hj.server hrunning hconnected hserver) hcap hin
    rw [hquiet hsent]
    refine ⟨_, .idle hcalls hready' hin' hout, .right _ ?_⟩
    have hnone : l.server.incoming = [] := (List.append_eq_nil_iff.mp hin).2
    have hnone' : server.incoming = [] := (List.append_eq_nil_iff.mp hin').2
    rw [hnone, hnone'] at hless
    omega
  | asking before c hwork hphase hfits hready hin hout =>
    cases hready.step hj.server hrunning hconnected hserver with
    | waits w' hready' hunread hsent hrounds hcap' hless =>
      rw [hquiet hsent]
      refine ⟨_, .asking before c (hwork.keep rfl) hphase (hcap' ▸ hfits) hready' (hunread.trans hin)
        hout, .right _ ?_⟩
      show _ + server.incoming.length + _ < _
      omega
    | reads n request m hparse hring hs' =>
      have hsent : server.sent = l.server.sent := by
        rw [hs']
        simp only [ServerConn.dispatch]
        split
        · rfl
        · rfl
      rw [hquiet hsent, hs']
      obtain ⟨w', hw', hless⟩ := Stage.dispatch hj hroom hwork hphase hin hout hparse hring
      exact ⟨w', hw', .left _ _ hless⟩
    | stuck hwhy =>
      -- the request fits the ring, and nothing of it is refused
      have hc : l.client.calls[before.length]? = some c := by
        rw [hwork.calls, List.getElem?_concat_length]
      have harriving := (hj.sound.wellSent _ _ hc).arriving (hj.requests _ _ hc) hin
      rcases hwhy with ⟨code, hcode⟩ | ⟨hnone, hfree⟩
      · exact absurd hcode (harriving.ne_error code)
      · have hlt := (harriving.of_none hnone).1
        rw [RpcRequest.serialize_eq] at hlt
        rw [RingBuffer.free] at hfree
        omega
  | handling before c handler request hwork hphase hserver' hrequest hin hout =>
    cases ServerConn.stepped hj.server.reader hserver with
    | @handled calls handler' request' hphase' =>
      rw [hserver'] at hphase'
      obtain ⟨rfl, rfl⟩ := ServerPhase.handling.inj hphase'
      rw [hquiet rfl]
      have hfits : (Round.mk request (.ok handler) calls : Round η).response.serialize.length ≤
          frameRoom setting l.client.mRingBuffer := by
        rw [serialize_length_of_outcome]
        exact hcalm.2
      obtain ⟨w', hw'⟩ := Stage.sendResponse l.server ⟨request, .ok handler, calls⟩ hwork hphase
        hrequest hfits hin hout
      exact ⟨_, hw', .left _ _ (by decide)⟩
    | started hp | stopped hp | piece _ hp | hungUp _ hp | readFailed _ _ hp | dispatched _ _ _ hp
    | wrote _ _ _ hp | closed _ hp =>
      rw [hserver'] at hp
      cases hp
  | answering before c round write hwork hphase hserver' hrequest hfits hin hout =>
    cases ServerConn.stepped hj.server.reader hserver with
    | @wrote event round' write₀ write' hphase' hwrite =>
      rw [hserver'] at hphase'
      obtain ⟨rfl, rfl⟩ := ServerPhase.sending.inj hphase'
      obtain ⟨w', hw', hless⟩ :=
        Stage.wrote hj hwork hphase hserver' hrequest hfits hin hout hwrite hcalm
      rw [hl', show (l.server.wrote round write write').sent.drop l.server.sent.length =
          write'.accepted.drop write.accepted.length from ?_]
      · exact ⟨_, hw', .right _ hless⟩
      · simp only [ServerConn.wrote]
        split
        all_goals exact List.drop_left
    | started hp | stopped hp | piece _ hp | hungUp _ hp | readFailed _ _ hp | dispatched _ _ _ hp
    | handled _ _ hp | closed _ hp =>
      rw [hserver'] at hp
      cases hp
  | answered before c round hwork hphase hready hrequest hfits hround hin hout =>
    obtain ⟨w', hready', hin', hsent, hrounds, hless⟩ :=
      ready_step_nil (hready.step hj.server hrunning hconnected hserver) hcap hin
    rw [hquiet hsent]
    refine ⟨_, .answered before c round (hwork.keep rfl) hphase hready' hrequest hfits
      (hrounds ▸ hround) hin' hout, .right _ ?_⟩
    have hnone : l.server.incoming = [] := (List.append_eq_nil_iff.mp hin).2
    have hnone' : server.incoming = [] := (List.append_eq_nil_iff.mp hin').2
    rw [hnone, hnone'] at hless
    show l.client.arriving.length + w' < _
    omega

omit [RingBuffer ρ'] in
/-- A response, as far as it is written, on its way into the client's ring. -/
theorem response_arriving {round : Round η} {ring : ρ} (hwf : round.response.msg.WellFormed)
    (hfits : round.response.serialize.length ≤ frameRoom setting ring) (content rest : Bytes)
    (hfront : content ++ rest <+: round.response.serialize) :
    (Call.parser setting).Arriving round.response.serialize round.response.msg content rest where
  frame := by
    rw [RpcResponse.serialize_eq] at hfits ⊢
    exact hwf.frame (hfits.trans (Nat.min_le_right _ _))
  front := hfront

omit [RingBuffer ρ'] in
/-- What the last call can do while its response is on the way: take in a piece of it, or return it. -/
theorem answer_moves {client : ClientConn ρ} {before : List Call} {c : Call} {round : Round η}
    (hmove : l.client.LastStep setting before c client) (hphase : c.Waiting)
    (hwf : round.response.msg.WellFormed)
    (hfits : round.response.serialize.length ≤ frameRoom setting l.client.mRingBuffer)
    (hfront : l.client.unread <+: round.response.serialize) :
    (∃ c', (∃ m, c' = { c with phase := .receiving m } ∧ m.result = none) ∧
        client.calls = before ++ [c'] ∧ client.sent = l.client.sent ∧
        client.unread = l.client.unread ∧ frameRoom setting client.mRingBuffer =
          frameRoom setting l.client.mRingBuffer ∧
        client.arriving.length < l.client.arriving.length) ∨
      (l.client.unread = round.response.serialize ∧ client.sent = l.client.sent ∧
        client.unread = [] ∧ ∃ own : RpcResponse, own.msg = round.response.msg ∧
          client.calls =
            before ++ [{ c with phase := .returned (checkResponse c.request own) }]) := by
  obtain ⟨m₀, hm₀, hresult₀⟩ := hphase
  have harriving :=
    response_arriving hwf hfits (RingBuffer.content l.client.mRingBuffer) l.client.arriving hfront
  cases hmove with
  | wrote hwrote haccepts =>
    obtain ⟨m, hm⟩ := hwrote.sending
    rw [hm₀] at hm
    cases hm
  | @piece n m m' hphase hpiece hresult hroom =>
    refine Or.inl ⟨_, ⟨m', rfl, hresult⟩, rfl, rfl, ?_, ?_, ?_⟩
    · show RingBuffer.content (RingBuffer.receive _ _) ++ l.client.arriving.drop n = l.client.unread
      rw [RingBuffer.content_receive hroom, List.append_assoc, List.take_append_drop]
      rfl
    · show min (RingBuffer.capacity (RingBuffer.receive _ _)) _ = _
      rw [RingBuffer.capacity_receive]
      rfl
    · show (l.client.arriving.drop n).length < _
      have hpos := List.length_pos_of_ne_nil hpiece
      rw [List.length_take] at hpos
      rw [List.length_drop]
      omega
  | read n own m hphase hparse =>
    obtain ⟨hcontent, hrest, rfl, hmsg⟩ := harriving.of_some hparse
    refine Or.inr ⟨?_, rfl, ?_, own, hmsg, rfl⟩
    · rw [ClientConn.unread, hcontent, hrest, List.append_nil]
    · show RingBuffer.content (RingBuffer.consume _ _) ++ l.client.arriving = []
      rw [RingBuffer.content_consume _ _ (by rw [hcontent]), hcontent, List.drop_length, hrest]
      rfl
  | stuck _ m hphase hwhy =>
    rw [hm₀] at hphase
    obtain rfl := CallPhase.receiving.inj hphase
    rcases hwhy with ⟨e, he⟩ | ⟨code, hcode⟩ | ⟨hnone, hfree⟩
    · rw [hresult₀] at he
      cases he
    · exact absurd hcode (harriving.ne_error code)
    · have hlt := (harriving.of_none hnone).1
      have hle := hfits.trans (Nat.min_le_left _ _)
      rw [RingBuffer.free] at hfree
      omega

omit [RingBuffer ρ'] in
/-- While no response is on the way, the last call can only write. -/
theorem ask_moves {client : ClientConn ρ} {before : List Call} {c : Call}
    (hmove : l.client.LastStep setting before c client)
    (hphase : (∃ m, c.phase = .sending m) ∨ c.Waiting) (hcap : 0 < RingBuffer.capacity l.client.mRingBuffer)
    (hout : l.client.unread = []) :
    ∃ (event : WriteEvent) (c' : Call) (put : Bytes), c.Wrote event c' put ∧ ¬ event.Fails ∧
      client = { l.client with calls := before ++ [c'], sent := l.client.sent ++ put } := by
  obtain ⟨hcontent, harriving⟩ := List.append_eq_nil_iff.mp hout
  cases hmove with
  | wrote hwrote haccepts => exact ⟨_, _, _, hwrote, haccepts, rfl⟩
  | piece m m' hp hpiece =>
    rw [harriving, List.take_nil] at hpiece
    exact absurd rfl hpiece
  | read n own m hp hparse =>
    rw [hcontent, Call.parser_nil] at hparse
    cases hparse
  | stuck _ m hp hwhy =>
    rw [hcontent, Call.parser_nil] at hwhy
    rcases hwhy with ⟨e, he⟩ | ⟨code, hcode⟩ | ⟨-, hfree⟩
    · rcases hphase with ⟨m', hm'⟩ | ⟨m', hm', hresult⟩
      · rw [hp] at hm'
        cases hm'
      · rw [hp] at hm'
        obtain rfl := CallPhase.receiving.inj hm'
        rw [he] at hresult
        cases hresult
    · cases hcode
    · rw [RingBuffer.free, hcontent] at hfree
      exact absurd hfree (Nat.ne_of_gt hcap)

/-- A response with the id and mode of its request is the call's own. -/
theorem checkResponse_of_msg {request : RpcRequest} {own : RpcResponse} {round : Round η}
    (hrequest : round.request.msg = request.msg) (hmsg : own.msg = round.response.msg) :
    checkResponse request own = .ok (some own) := by
  rw [Round.response_msg] at hmsg
  have hid : own.requestId = request.requestId :=
    (congrArg ResponseMsg.requestId hmsg).trans (congrArg RequestMsg.requestId hrequest)
  have hmode : own.callMode = request.callMode :=
    (congrArg ResponseMsg.callMode hmsg).trans (congrArg RequestMsg.callMode hrequest)
  rw [checkResponse, if_neg (not_not.mpr hid), if_neg (not_not.mpr hmode)]

/-- A call that starts. -/
theorem Stage.call {args : CallArgs} (hcalls : ∀ c ∈ l.client.calls, c.Answered) {w : Nat}
    (hready : l.server.Ready w) (hin : l.server.unread = []) (hout : l.client.unread = [])
    (hfits : (callRequest 0 args).msg.frame.length ≤ RingBuffer.capacity l.server.ringBuffer)
    {client : ClientConn ρ} (hstep : l.client.step setting (.call args) = some client) :
    ∃ w', Stage setting
      { client := client
        server := { l.server with
          incoming := l.server.incoming ++ client.sent.drop l.client.sent.length } } w' := by
  obtain rfl := Option.some.inj hstep
  have hnone : l.client.sent.drop l.client.sent.length = [] := List.drop_length
  show ∃ w', Stage setting
    { client := { l.client with
        mRequestId := l.client.mRequestId + 1
        calls := l.client.calls ++ [.start l.client.mRequestId args] }
      server := { l.server with
        incoming := l.server.incoming ++ l.client.sent.drop l.client.sent.length } } w'
  rw [hnone, List.append_nil]
  refine ⟨_, .asking l.client.calls (.start l.client.mRequestId args) ⟨rfl, hcalls, rfl⟩
    (Or.inl ⟨_, rfl⟩) ?_ hready hin hout⟩
  rw [RequestMsg.frame_length] at hfits ⊢
  exact hfits

/-- **A calm step of the client starts a call, or takes something off the work.** -/
theorem Stage.client_step (hj : Joined services l)
    (hcap : 0 < RingBuffer.capacity l.client.mRingBuffer) {w : Nat × Nat} (h : Stage setting l w)
    {a : ClientAction} (hcalm : l.Calm setting (.client a))
    (hstep : l.clientStep setting a = some l') :
    ∃ w', Stage setting l' w' ∧ ((∃ args, a = .call args) ∨ Less w' w) := by
  obtain ⟨hrespond, client, hclient, hl'⟩ := clientStep_cases hstep
  have hlast : ∀ {before : List Call} {c : Call}, l.AtWork before c →
      (∃ m, c.phase = .sending m) ∨ c.Waiting → l.client.LastStep setting before c client := by
    intro before c hwork hphase
    have hnone : c.result? = none := by
      rcases hphase with ⟨m, hm⟩ | ⟨m, hm, -⟩
      · rw [Call.result?, hm]
      · rw [Call.result?, hm]
    refine ClientConn.lastStep hj.sound hwork.calls hwork.before hrespond ?_ ?_ ?_ ?_ hclient
    · rintro args rfl
      have hsome := hcalm.2 c (by rw [hwork.calls]; exact List.mem_append_right _ (List.mem_singleton_self c))
      rw [hnone] at hsome
      cases hsome
    · rintro i event rfl
      exact hcalm
    · rintro i e rfl
      exact hcalm
    · rintro i rfl
      exact hcalm
  have hquiet : client.sent = l.client.sent → l' = { l with client := client } := by
    intro hsent
    rw [hl', hsent, List.drop_length, List.append_nil]
  cases h with
  | idle hcalls hready hin hout =>
    -- every call has returned, so only a new one can do anything
    have hover : ∀ {i : Nat} {c : Call}, l.client.calls[i]? = some c →
        ¬ ∀ response, c.phase ≠ .returned (.ok (some response)) := by
      intro i c hi hopen
      obtain ⟨response, hphase⟩ := (hcalls c (List.mem_of_getElem? hi)).1
      exact hopen response hphase
    cases ClientConn.stepped hclient with
    | call args =>
      rw [hl']
      obtain ⟨w', hw'⟩ := Stage.call hcalls hready hin hout hcalm.1.2 hclient
      exact ⟨w', hw', Or.inl ⟨args, rfl⟩⟩
    | write hi hw =>
      obtain ⟨m, hphase⟩ := (Call.write_spec (hj.sound.wellSent _ _ hi) hw).sending
      exact absurd (Call.open_of_sending hphase) (hover hi)
    | read hpiece hi hr =>
      obtain ⟨-, m, m', hphase, -⟩ := Call.read_piece (hj.sound.wellSent _ _ hi) hpiece hr
      exact absurd (Call.open_of_receiving hphase) (hover hi)
    | hangUp => exact absurd hcalm id
    | finish hi hf =>
      obtain ⟨-, m, hphase, -⟩ := Call.finish_spec (hj.sound.wellSent _ _ hi) hf
      exact absurd (Call.open_of_receiving hphase) (hover hi)
    | abandon => exact absurd hcalm id
    | respond answer => exact absurd rfl (hrespond answer)
  | asking before c hwork hphase hfits hready hin hout =>
    obtain ⟨event, c', put, hwrote, haccepts, rfl⟩ := ask_moves (hlast hwork hphase) hphase hcap hout
    have hput : (l.client.sent ++ put).drop l.client.sent.length = put := List.drop_left
    rw [hl', hput]
    obtain ⟨hnonempty, hphase'⟩ := hwrote.accepts haccepts
    have hpos := List.length_pos_of_ne_nil hnonempty
    have hle := hwrote.wellSent.emitted_front.length_le
    rw [hwrote.request, hwrote.emitted, List.length_append] at hle
    refine ⟨_, .asking (w := _) before c' ⟨rfl, hwork.before, hwrote.active.2⟩ ?_
      (by rw [hwrote.request]; exact hfits) hready ?_ hout, Or.inr (.right _ ?_)⟩
    · rcases hphase' with hsending | hreceiving
      · exact Or.inl hsending
      · exact Or.inr ⟨_, hreceiving, rfl⟩
    · show RingBuffer.content l.server.ringBuffer ++ (l.server.incoming ++ put) = c'.emitted
      rw [hwrote.emitted, ← hin, ServerConn.unread, List.append_assoc]
    · show 2 * (c'.request.serialize.length - c'.emitted.length) + (l.server.incoming ++ put).length + _ < _
      rw [hwrote.request, hwrote.emitted, List.length_append, List.length_append]
      omega
  | handling before c handler request hwork hphase hserver hrequest hin hout =>
    obtain ⟨event, c', put, hwrote, -⟩ :=
      ask_moves (hlast hwork (Or.inr hphase)) (Or.inr hphase) hcap hout
    obtain ⟨m, hm⟩ := hwrote.sending
    obtain ⟨m', hm', -⟩ := hphase
    rw [hm] at hm'
    cases hm'
  | answering before c round write hwork hphase hserver hrequest hfits hin hout =>
    have haccounts := hj.server.accounts
    rw [hserver] at haccounts
    obtain ⟨-, hresult, hsending, before', hrounds, -⟩ := haccounts
    have hround : round ∈ l.server.rounds := by
      rw [hrounds]
      exact List.mem_append_right _ (List.mem_singleton_self _)
    have hfront : l.client.unread <+: round.response.serialize := by
      rw [hout, ← hsending.sends.accepted]
      exact List.prefix_append _ _
    rcases answer_moves (hlast hwork (Or.inr hphase)) hphase (hj.responses round hround) hfits hfront with
      ⟨c', ⟨m, rfl, hm⟩, hcalls, hsent, hunread, hroom, hless⟩ | ⟨hall, -⟩
    · rw [hquiet hsent]
      refine ⟨_, .answering before { c with phase := .receiving m } round write
        ⟨hcalls, hwork.before, hwork.active⟩ ⟨m, rfl, hm⟩ hserver hrequest (hroom ▸ hfits) hin
        (hunread.trans hout), Or.inr (.right _ ?_)⟩
      show _ + client.arriving.length < _
      omega
    · -- the write is not over, so the response is not all there
      rw [hout] at hall
      have hdone := hsending.sends.accepted
      cases hsending with
      | writing iovecs hm hnil hne =>
        rw [hm] at hdone
        have hpos := flatten_length_pos hnil hne
        rw [hall] at hdone
        rw [List.append_right_eq_self.mp hdone] at hpos
        exact absurd hpos (Nat.lt_irrefl 0)
      | done hm =>
        rw [hm] at hresult
        cases hresult
      | failed iovecs e hm =>
        rw [hm] at hresult
        cases hresult
  | answered before c round hwork hphase hready hrequest hfits hround hin hout =>
    have hfront : l.client.unread <+: round.response.serialize := hout ▸ List.prefix_rfl
    rcases answer_moves (hlast hwork (Or.inr hphase)) hphase (hj.responses round hround) hfits hfront with
      ⟨c', ⟨m, rfl, hm⟩, hcalls, hsent, hunread, hroom, hless⟩ |
      ⟨-, hsent, hunread, own, hmsg, hcalls⟩
    · rw [hquiet hsent]
      refine ⟨_, .answered before { c with phase := .receiving m } round
        ⟨hcalls, hwork.before, hwork.active⟩ ⟨m, rfl, hm⟩ hready hrequest (hroom ▸ hfits) hround hin
        (hunread.trans hout), Or.inr (.right _ ?_)⟩
      show client.arriving.length + _ < _
      omega
    · rw [hquiet hsent]
      have hemitted : c.emitted = c.request.serialize := by
        have hc : l.client.calls[before.length]? = some c := by
          rw [hwork.calls, List.getElem?_concat_length]
        exact ((hj.sound.wellSent _ _ hc).waiting (Or.inr hphase)).mpr hphase
      refine ⟨_, .idle ?_ hready hin hunread, Or.inr (.left _ _ (by decide))⟩
      show ∀ c ∈ client.calls, c.Answered
      rw [hcalls]
      refine forall_mem_concat hwork.before ⟨⟨own, ?_⟩, hemitted⟩
      rw [checkResponse_of_msg hrequest hmsg]

/-! ## Progress -/

omit [RingBuffer ρ'] in
/-- A call that waits for its response returns, or can take in what has come. -/
theorem call_moves (setting : RpcReaderSetting) {s : ClientConn ρ} {before : List Call} {c : Call}
    (hcalls : s.calls = before ++ [c]) (hsound : s.Sound) (hactive : c.abandoned = false)
    (hphase : c.Waiting) :
    (∃ s', s.step setting (.finish before.length) = some s') ∨
      ((Call.parser setting).parse (RingBuffer.content s.mRingBuffer) = .ok none ∧
        (s.arriving ≠ [] → 0 < RingBuffer.free s.mRingBuffer →
          ∃ s', s.step setting (.read before.length 1) = some s')) := by
  have hc : s.calls[before.length]? = some c := by
    rw [hcalls, List.getElem?_concat_length]
  obtain ⟨m, hm, hresult⟩ := hphase
  have hadvanced := (hsound.wellSent _ _ hc).advanced hm setting s.mRingBuffer
  simp only [ClientConn.step, hc, Option.bind_some, Call.finish, Call.read, hactive, hm,
    Bool.false_eq_true, if_false]
  generalize (m.attach s.mRingBuffer).advance _ = out at hadvanced
  cases hadvanced with
  | waits windows hresult hparse hsum =>
    refine Or.inr ⟨hparse, ?_⟩
    intro harriving hfree
    obtain ⟨b, bs, hbs⟩ := List.exists_cons_of_ne_nil harriving
    have htake : s.arriving.take 1 = [b] := by
      rw [hbs]
      rfl
    rw [htake, if_neg (List.cons_ne_nil _ _)]
    have hfits : [b].length ≤ windows.sum := by
      rw [hsum]
      exact hfree
    simp only [if_pos hfits]
    exact ⟨_, rfl⟩
  | read n own hresult hparse => exact Or.inl ⟨_, rfl⟩
  | failed e m' hring hwhy => exact Or.inl ⟨_, rfl⟩

/-- Some end can take a calm step that starts no call. -/
def CanMove (services : Services η ζ) (setting : RpcReaderSetting) (l : Link ρ ρ' η) : Prop :=
  ∃ a l', ¬ a.IsCall ∧ l.Calm setting a ∧ l.step services setting a = some l'

theorem canMove_server {a : ServerAction} (hcalm : l.Calm setting (.server a))
    (hstep : ∃ s', l.server.step services a = some s') : l.CanMove services setting := by
  obtain ⟨s', hs'⟩ := hstep
  refine ⟨.server a, { client := { l.client with
    arriving := l.client.arriving ++ s'.sent.drop l.server.sent.length }, server := s' }, ?_, hcalm, ?_⟩
  · rintro ⟨args, ha⟩
    cases ha
  · show (l.server.step services a).map _ = _
    rw [hs']
    rfl

theorem canMove_client {a : ClientAction} (hcalm : l.Calm setting (.client a))
    (hcall : ∀ args, a ≠ .call args) (hrespond : ∀ answer, a ≠ .respond answer)
    (hstep : ∃ s', l.client.step setting a = some s') : l.CanMove services setting := by
  obtain ⟨s', hs'⟩ := hstep
  refine ⟨.client a, { client := s', server := { l.server with
    incoming := l.server.incoming ++ s'.sent.drop l.client.sent.length } }, ?_, hcalm, ?_⟩
  · rintro ⟨args, ha⟩
    exact hcall args (LinkAction.client.inj ha)
  · show l.clientStep setting a = _
    cases a with
    | respond answer => exact absurd rfl (hrespond answer)
    | _ => simp only [clientStep, hs', Option.map_some]

/-- The server reads the request, or takes in more of it. -/
theorem canMove_reading (hj : Joined services l) {before : List Call} {c : Call}
    (hwork : l.AtWork before c) (hphase : c.Waiting) (hserver : l.server.phase = .reading)
    (hin : l.server.unread = c.emitted) : l.CanMove services setting := by
  rcases ServerConn.reading_moves services hserver (hj.server.reader hserver) with
    hdone | ⟨hnone, -, hmore, -⟩
  · exact canMove_server (a := .receive) trivial hdone
  · have hc : l.client.calls[before.length]? = some c := by
      rw [hwork.calls, List.getElem?_concat_length]
    have hsent := hj.sound.wellSent _ _ hc
    have harriving := hsent.arriving (hj.requests _ _ hc) hin
    obtain ⟨-, hrest⟩ := harriving.of_none hnone
    have hall := (hsent.waiting (Or.inr hphase)).mpr hphase
    exact canMove_server (a := .readv 1) trivial (hmore (hrest (hin.trans hall)))

/-- The client returns the response, or takes in more of it. -/
theorem canMove_answered (hj : Joined services l) {before : List Call} {c : Call} {round : Round η}
    (hwork : l.AtWork before c) (hphase : c.Waiting) (hround : round ∈ l.server.rounds)
    (hfits : round.response.serialize.length ≤ frameRoom setting l.client.mRingBuffer)
    (hout : l.client.unread = round.response.serialize) : l.CanMove services setting := by
  rcases call_moves setting hwork.calls hj.sound hwork.active hphase with hdone | ⟨hnone, hmore⟩
  · exact canMove_client (a := .finish before.length) trivial nofun nofun hdone
  · have harriving := response_arriving (hj.responses round hround) hfits
      (RingBuffer.content l.client.mRingBuffer) l.client.arriving (hout ▸ List.prefix_rfl)
    obtain ⟨hlt, hrest⟩ := harriving.of_none hnone
    have hle := hfits.trans (Nat.min_le_left _ _)
    exact canMove_client (a := .read before.length 1) trivial nofun nofun
      (hmore (hrest hout) (RingBuffer.free_pos (hlt.trans_le hle)))

/-- **Until the last call has returned, some end can move.** -/
theorem Stage.progress (hj : Joined services l) (hroom : 18 ≤ frameRoom setting l.client.mRingBuffer)
    {w : Nat × Nat} (h : Stage setting l w) :
    (∀ c ∈ l.client.calls, c.Answered) ∨ l.CanMove services setting := by
  cases h with
  | idle hcalls => exact Or.inl hcalls
  | asking before c hwork hphase hfits hready hin hout =>
    right
    have hc : l.client.calls[before.length]? = some c := by
      rw [hwork.calls, List.getElem?_concat_length]
    rcases hphase with ⟨m, hm⟩ | hwaiting
    · -- the client writes one more byte
      have hsent := hj.sound.wellSent _ _ hc
      unfold Call.WellSent at hsent
      rw [hm] at hsent
      obtain ⟨iovecs, rfl, hnil, -, -⟩ := hsent
      refine canMove_client (a := .write before.length (.accept 1)) id nofun nofun ?_
      simp only [ClientConn.step, hc, Option.bind_some, Call.write, hwork.active, Bool.false_eq_true,
        if_false, hm, advance_waitWritev hnil, Option.map_some]
      exact ⟨_, rfl⟩
    · rcases hready with ⟨hserver, -⟩ | ⟨hserver, -⟩
      · refine canMove_server (a := .test true) rfl ⟨l.server.getRequest, ?_⟩
        unfold ServerConn.step
        rw [hserver]
      · exact canMove_reading hj hwork hwaiting hserver hin
  | handling before c handler request hwork hphase hserver =>
    refine Or.inr (canMove_server (a := .handle []) ⟨by decide, hroom⟩
      ⟨l.server.sendResponse ⟨request, .ok handler, []⟩, ?_⟩)
    unfold ServerConn.step
    rw [hserver]
  | answering before c round write hwork hphase hserver =>
    have haccounts := hj.server.accounts
    rw [hserver] at haccounts
    obtain ⟨-, hresult, hsending, -⟩ := haccounts
    obtain ⟨write', hwrite⟩ := hsending.moves hresult
    refine Or.inr (canMove_server (a := .writev (.accept 1)) id
      ⟨l.server.wrote round write write', ?_⟩)
    unfold ServerConn.step
    rw [hserver]
    show (write.step (.accept 1)).map _ = _
    rw [hwrite]
    rfl
  | answered before c round hwork hphase hready hrequest hfits hround hin hout =>
    exact Or.inr (canMove_answered hj hwork hphase hround hfits hout)

/-! ## Every run -/

/-- **The invariant**: the two ends are joined, their rings have room, and the last call is somewhere. -/
structure Serial (services : Services η ζ) (setting : RpcReaderSetting) (l : Link ρ ρ' η) (w : Nat × Nat) :
    Prop where
  joined : Joined services l
  room : 18 ≤ frameRoom setting l.client.mRingBuffer
  ring : 0 < RingBuffer.capacity l.server.ringBuffer
  stage : Stage setting l w

theorem serial_start (services : Services η ζ) (setting : RpcReaderSetting) {ring : ρ} {ring' : ρ'}
    (hempty : RingBuffer.content ring = []) (hempty' : RingBuffer.content ring' = [])
    (hroom : 18 ≤ frameRoom setting ring) (hring : 0 < RingBuffer.capacity ring') :
    Serial services setting (start ring ring' : Link ρ ρ' η) (0, 1) where
  joined := joined_start services hempty hempty'
  room := hroom
  ring := hring
  stage := by
    refine .idle ?_ (Or.inl ⟨rfl, rfl⟩) ?_ ?_
    · intro c hc
      cases hc
    · show RingBuffer.content ring' ++ [] = []
      rw [hempty', List.append_nil]
    · show RingBuffer.content ring ++ [] = []
      rw [hempty, List.append_nil]

omit [RingBuffer ρ] [RingBuffer ρ'] in
/-- Behind calls that have written their whole requests a call is free to write. -/
theorem AtWork.clear {before : List Call} {c : Call} (h : l.AtWork before c) (i : Nat)
    (event : WriteEvent) : Clear l.client (.write i event) := by
  intro ci hi _ hnil c' hc' hhalf
  have hwhole : ∀ c ∈ before, c.emitted = c.request.serialize := fun c hc => (h.before c hc).2
  have hci := List.mem_of_getElem? hi
  rw [h.calls] at hc' hci
  rcases List.mem_append.mp hc' with hc' | hc'
  · exact hhalf.2 (hwhole c' hc')
  · rcases List.mem_append.mp hci with hci | hci
    · rw [hwhole ci hci] at hnil
      exact RpcRequest.serialize_ne_nil _ hnil
    · rw [List.mem_singleton.mp hc', ← List.mem_singleton.mp hci] at hhalf
      exact hhalf.1 hnil

/-- In every stage a calm step does what the users of both ends are held to. -/
theorem Stage.duties {w : Nat × Nat} (h : Stage setting l w) {a : LinkAction} (hcalm : l.Calm setting a) :
    Duties l a := by
  have hclear : ∀ i event, Clear l.client (.write i event) := by
    intro i event
    cases h with
    | idle hcalls =>
      intro c hc _ hnil c' hc' hhalf
      exact hhalf.2 (hcalls c' hc').2
    | asking before c hwork => exact hwork.clear i event
    | handling before c handler request hwork => exact hwork.clear i event
    | answering before c round write hwork => exact hwork.clear i event
    | answered before c round hwork => exact hwork.clear i event
  cases a with
  | client a =>
    cases a with
    | call args => exact hcalm.1.1
    | write i event => exact hclear i event
    | read i n => trivial
    | hangUp i e => trivial
    | finish i => trivial
    | abandon i => trivial
    | respond answer => trivial
  | server a =>
    cases a with
    | handle calls => exact hcalm.1
    | test running => trivial
    | readv n => trivial
    | hangUp e => trivial
    | receive => trivial
    | writev event => trivial
    | close result => trivial

/-- **Every calm step keeps the invariant, and starts a call or leaves less work.** -/
theorem Serial.step {w : Nat × Nat} {a : LinkAction} (h : Serial services setting l w)
    (hcalm : l.Calm setting a) (hstep : l.step services setting a = some l') :
    ∃ w', Serial services setting l' w' ∧ (a.IsCall ∨ Less w' w) := by
  have hjoined := h.joined.step (h.stage.duties hcalm) hstep
  have hclient : 0 < RingBuffer.capacity l.client.mRingBuffer :=
    Nat.lt_of_lt_of_le (by decide) (h.room.trans (Nat.min_le_left _ _))
  cases a with
  | client a =>
    obtain ⟨w', hstage, hless⟩ := Stage.client_step h.joined hclient h.stage hcalm hstep
    obtain ⟨-, client, hc, rfl⟩ := clientStep_cases hstep
    refine ⟨w', ⟨hjoined, ?_, h.ring, hstage⟩, hless.imp (fun ⟨args, ha⟩ => ⟨args, ha ▸ rfl⟩) id⟩
    show 18 ≤ min (RingBuffer.capacity client.mRingBuffer) _
    rw [ClientConn.capacity_of_step h.joined.sound hc]
    exact h.room
  | server a =>
    obtain ⟨w', hstage, hless⟩ := Stage.server_step h.joined h.room h.ring h.stage hcalm hstep
    obtain ⟨server, hs, rfl⟩ := serverStep_cases hstep
    refine ⟨w', ⟨hjoined, h.room, ?_, hstage⟩, Or.inr hless⟩
    show 0 < RingBuffer.capacity server.ringBuffer
    rw [ServerConn.capacity_of_step h.joined.server hs]
    exact h.ring

/-- In every stage the calls that have returned are answered. -/
theorem Stage.returned {w : Nat × Nat} (h : Stage setting l w) {c : Call} (hc : c ∈ l.client.calls)
    {result : RpcCallResult} (hphase : c.phase = .returned result) :
    ∃ response, result = .ok (some response) := by
  have hanswered : ∀ {c : Call}, c.Answered → c.phase = .returned result →
      ∃ response, result = .ok (some response) := by
    rintro c ⟨⟨response, hresponse⟩, -⟩ hphase
    rw [hphase] at hresponse
    exact ⟨response, CallPhase.returned.inj hresponse⟩
  have hwork : ∀ {before : List Call} {last : Call}, l.AtWork before last →
      (∃ m, last.phase = .sending m) ∨ last.Waiting → ∃ response, result = .ok (some response) := by
    intro before last hwork hlast
    rw [hwork.calls] at hc
    rcases List.mem_append.mp hc with hc | hc
    · exact hanswered (hwork.before c hc) hphase
    · rw [← List.mem_singleton.mp hc] at hlast
      rcases hlast with ⟨m, hm⟩ | ⟨m, hm, -⟩
      · rw [hphase] at hm
        cases hm
      · rw [hphase] at hm
        cases hm
  cases h with
  | idle hcalls => exact hanswered (hcalls c hc) hphase
  | asking before last hlast hwaiting => exact hwork hlast hwaiting
  | handling before last handler request hlast hwaiting => exact hwork hlast (Or.inr hwaiting)
  | answering before last round write hlast hwaiting => exact hwork hlast (Or.inr hwaiting)
  | answered before last round hlast hwaiting => exact hwork hlast (Or.inr hwaiting)

/-- **Calls made one after the other are all answered.**  In every calm run of a client and a server on
    one connection, whatever the sizes of the pieces and the order of the steps: while a call has not
    returned, some end can move; the moves that start no call come to an end; and a call that has returned
    has returned a response, which (below 2^32 calls) is that of the round which its request was handled
    in. -/
theorem calls_complete (services : Services η ζ) (setting : RpcReaderSetting) {ring : ρ} {ring' : ρ'}
    (hempty : RingBuffer.content ring = []) (hempty' : RingBuffer.content ring' = [])
    (hroom : 18 ≤ frameRoom setting ring) (hring : 0 < RingBuffer.capacity ring')
    {actions : List LinkAction} {l : Link ρ ρ' η}
    (hrun : Run (step services setting) (Calm setting) (start ring ring') actions l) :
    ((∃ c ∈ l.client.calls, c.result? = none) → l.CanMove services setting) ∧
    ¬ Endless (step services setting) (fun l a => l.Calm setting a ∧ ¬ a.IsCall) l ∧
    ∀ (i : Nat) (c : Call) (result : RpcCallResult), l.client.calls[i]? = some c →
      c.phase = .returned result → ∃ response, result = .ok (some response) ∧
        (l.client.calls.length < 2 ^ 32 → ∃ round ∈ l.server.rounds,
          round.request.msg = c.request.msg ∧
          round.found = resolveMethodHandler services round.request ∧
          response.msg = ⟨c.request.requestId, c.request.callMode, true, round.outcome.1,
            round.outcome.2⟩) := by
  obtain ⟨w, h⟩ : ∃ w, Serial services setting l w := by
    refine hrun.invariant (I := fun l => ∃ w, Serial services setting l w) ?_
      ⟨_, serial_start services setting hempty hempty' hroom hring⟩
    rintro s a s' ⟨w, hs⟩ hcalm hstep
    obtain ⟨w', hs', -⟩ := hs.step hcalm hstep
    exact ⟨w', hs'⟩
  refine ⟨?_, ?_, ?_⟩
  · rintro ⟨c, hc, hnone⟩
    rcases h.stage.progress h.joined h.room with hall | hmove
    · obtain ⟨response, hphase⟩ := (hall c hc).1
      rw [Call.result_of_phase hphase] at hnone
      cases hnone
    · exact hmove
  · refine not_endless less_wf ?_ h
    rintro s w a s' hs ⟨hcalm, hcall⟩ hstep
    obtain ⟨w', hs', hless⟩ := hs.step hcalm hstep
    exact ⟨w', hs', hless.resolve_left hcall⟩
  · intro i c result hi hphase
    obtain ⟨response, rfl⟩ := h.stage.returned (List.mem_of_getElem? hi) hphase
    refine ⟨response, rfl, ?_⟩
    intro hfew
    obtain ⟨order, -, hlt, hreceived⟩ := h.joined.received_calls
    obtain ⟨k, round, hk, hround, hmsg⟩ := h.joined.own_round hfew hlt hreceived hi hphase
    refine ⟨round, List.mem_of_getElem? hround, ?_,
      h.joined.server.resolved round (List.mem_of_getElem? hround), hmsg⟩
    obtain ⟨j, c', hj, hc', hsame⟩ :=
      call_of_received hreceived hlt (h.joined.server.received_of_round hround)
    rw [hk] at hj
    obtain rfl := Option.some.inj hj
    rw [hi] at hc'
    rw [hsame, Option.some.inj hc']

/-- A call that is answered in pieces, and another one whose request is on its way. -/
def serialRun : List LinkAction :=
  [.client (.call echoArgs), .client (.write 0 (.accept 5)), .server (.test true), .server (.readv 3),
    .client (.write 0 (.accept 99)), .server (.readv 37), .server .receive,
    .server (.handle [.setPayload [7]]), .server (.writev (.accept 4)), .client (.read 0 3),
    .server (.writev (.accept 15)), .client (.read 0 16), .client (.finish 0),
    .client (.call echoArgs), .client (.write 1 (.accept 9)), .server (.test true)]

theorem calls_complete_serial :
    ∃ (l : Link (Circular UInt8) (Circular UInt8) Unit) (c : Call) (response : RpcResponse)
      (round : Round Unit),
      runAll (step RpcServer.echoServer.mServices {}) (Calm {})
          (start (Circular.empty 40 fun _ => 0) (Circular.empty 40 fun _ => 0)) serialRun = some l ∧
        l.CanMove RpcServer.echoServer.mServices {} ∧
        ¬ Endless (step RpcServer.echoServer.mServices {}) (fun l a => l.Calm {} a ∧ ¬ a.IsCall) l ∧
        l.client.calls[0]? = some c ∧ c.phase = .returned (.ok (some response)) ∧
        round ∈ l.server.rounds ∧ round.request.msg = c.request.msg ∧
        response.msg = ⟨c.request.requestId, c.request.callMode, true, round.outcome.1,
          round.outcome.2⟩ := by
  have hruns : ((runAll (step RpcServer.echoServer.mServices {}) (Calm {})
      (start (Circular.empty 40 fun _ => (0 : UInt8)) (Circular.empty 40 fun _ => (0 : UInt8)))
      serialRun).bind fun l =>
        if l.client.calls.length < 2 ^ 32 ∧ ∃ c ∈ l.client.calls, c.result? = none then
          l.client.calls[0]?.bind Call.result?
        else none) =
      some (.ok (some { requestId := 0, store := .setView ⟨[7], []⟩ })) := by
    decide +kernel
  obtain ⟨l, hl, hcalls⟩ := Option.bind_eq_some_iff.mp hruns
  split at hcalls
  · rename_i hstate
    obtain ⟨c, hc, hresult⟩ := Option.bind_eq_some_iff.mp hcalls
    have hphase := Call.phase_of_result hresult
    obtain ⟨hmove, hends, hreturned⟩ :=
      calls_complete RpcServer.echoServer.mServices {} rfl rfl (by decide) (by decide)
        (run_iff_runAll.mpr hl)
    obtain ⟨response, hresponse, hround⟩ := hreturned 0 c _ hc hphase
    obtain ⟨round, hmem, hrequest, -, hmsg⟩ := hround hstate.1
    rw [hresponse] at hphase
    exact ⟨l, c, response, round, hl, hmove hstate.2, hends, hc, hphase, hmem, hrequest, hmsg⟩
  · cases hcalls

end Link

end GalayRpc
