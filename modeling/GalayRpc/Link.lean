/-
  `RpcClient` and `RpcServer` on the two ends of one connection.

  What a call writes arrives at the server, and what the server writes arrives at the client, in order and
  in any pieces; otherwise the two run on their own, one operation on the socket at a time.  Calls may run
  side by side, fail, be given up or lose their connection, and so may the server's coroutine.

  The network keeps bytes in order, so either end reads what the other has written as far as it has come
  (`Joined`).  Two readings of one stream agree (`Frames.of_prefix`), hence

  * the requests the server receives are those of different calls, in the order in which they were sent:
    no call is executed twice;
  * the responses the client takes are those of the first rounds, in order, and a call only keeps one with
    its own id: what it returns is what its own execution came to.
-/
import GalayRpc.ServerConn
import GalayRpc.HalfSent
import GalayRpc.Delivery

namespace GalayRpc

variable {ρ ρ' η ζ : Type} [RingBuffer ρ] [RingBuffer ρ']

/-! ## Both ends -/

/-- A client and a server on one connection.  The client's `arriving` is what the server has written and
    the client has not received, the server's `incoming` the same the other way. -/
structure Link (ρ ρ' η : Type) where
  client : ClientConn ρ
  server : ServerConn ρ' η

/-- A step of either end. -/
inductive LinkAction where
  | client (action : ClientAction)
  | server (action : ServerAction)

namespace Link

variable (services : Services η ζ) (setting : RpcReaderSetting) (l : Link ρ ρ' η)

/-- A client that has just connected to a server that has just accepted. -/
def start (ring : ρ) (ring' : ρ') : Link ρ ρ' η := ⟨.start ring, .start ring'⟩

/-- A step of the client; the bytes it has written come in at the server. -/
def clientStep (action : ClientAction) : Option (Link ρ ρ' η) :=
  match action with
  -- what arrives at the client is what the server writes
  | .respond _ => none
  | action =>
    (l.client.step setting action).map fun client =>
      { client := client
        server := { l.server with
          incoming := l.server.incoming ++ client.sent.drop l.client.sent.length } }

/-- A step of the server; the bytes it has written arrive at the client. -/
def serverStep (action : ServerAction) : Option (Link ρ ρ' η) :=
  (l.server.step services action).map fun server =>
    { client := { l.client with
        arriving := l.client.arriving ++ server.sent.drop l.server.sent.length }
      server := server }

def step : LinkAction → Option (Link ρ ρ' η)
  | .client action => l.clientStep setting action
  | .server action => l.serverStep services action

end Link

/-- The arguments of a call make a request that the format can express. -/
def CallArgs.Admissible (args : CallArgs) : Prop := (callRequest 0 args).msg.WellFormed

instance (args : CallArgs) : Decidable args.Admissible := inferInstanceAs (Decidable (RequestMsg.WellFormed _))

/-- What the calls of a handler leave in the response fits the format. -/
def ResponseFits (calls : List RpcContextCall) : Prop :=
  (RpcContextCall.outcome calls).2.length ≤ rpcMaxBodySize - 2

instance (calls : List RpcContextCall) : Decidable (ResponseFits calls) :=
  inferInstanceAs (Decidable (_ ≤ _))

/-- What the users of both ends are held to: a call's service and method names and payload make a request
    that the format can express (`CallArgs.Admissible`), what a handler leaves in the response fits the
    format (`ResponseFits`), and no call puts its first byte behind another's half-sent request
    (`Clear`). -/
def Link.Duties (l : Link ρ ρ' η) : LinkAction → Prop
  | .client (.call args) => args.Admissible
  | .client (.write i event) => Clear l.client (.write i event)
  | .server (.handle calls) => ResponseFits calls
  | _ => True

instance (l : Link ρ ρ' η) (a : LinkAction) : Decidable (l.Duties a) := by
  unfold Link.Duties
  split
  all_goals infer_instance

/-! ## What has passed between them -/

omit [RingBuffer ρ'] in
/-- A step of the client adds to what it has written. -/
theorem ClientConn.sent_of_step {setting : RpcReaderSetting} {s s' : ClientConn ρ} {a : ClientAction}
    (h : s.Sound) (hstep : s.step setting a = some s') :
    s'.sent = s.sent ++ s'.sent.drop s.sent.length := by
  refine (List.prefix_iff_eq_append.mp ?_).symm
  cases sendStep h hstep with
  | call args nextId => exact List.prefix_rfl
  | write hi hw => exact List.prefix_append _ _
  | quiet hi hactive hrequest hemitted => exact List.prefix_rfl
  | respond answer arriving answered => exact List.prefix_rfl

/-- A call that has returned a response took it off the stream, with its own id and mode. -/
def Call.TookFrom (taken : List ResponseMsg) (c : Call) : Prop :=
  ∀ response, c.phase = .returned (.ok (some response)) →
    response.requestId = c.request.requestId ∧ response.callMode = c.request.callMode ∧
      response.msg ∈ taken

theorem Call.TookFrom.concat {taken : List ResponseMsg} {c : Call} (h : c.TookFrom taken)
    (msg : ResponseMsg) : c.TookFrom (taken ++ [msg]) := by
  intro response hphase
  obtain ⟨hid, hmode, hmem⟩ := h response hphase
  exact ⟨hid, hmode, List.mem_append_left _ hmem⟩

/-- The client has read these responses off the bytes that the server has sent. -/
structure Takes (stream : Bytes) (taken : List ResponseMsg) (s : ClientConn ρ) : Prop where
  reads : (responseParser protocolLimit).Frames stream taken
    (RingBuffer.content s.mRingBuffer ++ s.arriving)
  calls : ∀ (i : Nat) (c : Call), s.calls[i]? = some c → c.TookFrom taken

omit [RingBuffer ρ'] in
/-- The server sends more. -/
theorem Takes.arrive {stream : Bytes} {taken : List ResponseMsg} {s : ClientConn ρ}
    (h : Takes stream taken s) (more : Bytes) :
    Takes (stream ++ more) taken { s with arriving := s.arriving ++ more } where
  reads := by
    have hreads := h.reads.append more
    rwa [List.append_assoc] at hreads
  calls := h.calls

omit [RingBuffer ρ'] in
/-- **What a step of the client takes off the stream**: one response when a call completes its read with
    one, otherwise nothing. -/
theorem Takes.step {stream : Bytes} {taken : List ResponseMsg} {setting : RpcReaderSetting}
    {s s' : ClientConn ρ} {a : ClientAction} (h : Takes stream taken s) (hsound : s.Sound)
    (ha : ∀ answer, a ≠ .respond answer) (hstep : s.step setting a = some s') :
    ∃ taken', Takes stream taken' s' := by
  cases ClientConn.stepped hstep with
  | call args => exact ⟨taken, h.reads, forall_getElem?_concat h.calls nofun⟩
  | @write i event c c' put hi hw =>
    have hwrote := Call.write_spec (hsound.wellSent _ _ hi) hw
    exact ⟨taken, h.reads, forall_getElem?_set h.calls fun response hphase =>
      absurd hphase (hwrote.no_response response)⟩
  | @read i n c c' ring hpiece hi hr =>
    obtain ⟨-, m, m', -, rfl, -, -, -, hfits, rfl⟩ :=
      Call.read_piece (hsound.wellSent _ _ hi) hpiece hr
    refine ⟨taken, ?_, forall_getElem?_set h.calls nofun⟩
    show (responseParser protocolLimit).Frames stream taken
      (RingBuffer.content (RingBuffer.receive _ _) ++ s.arriving.drop n)
    rw [RingBuffer.content_receive hfits, List.append_assoc, List.take_append_drop]
    exact h.reads
  | hangUp hevent hi hr =>
    obtain ⟨-, m, m', e, -, rfl, -, rfl⟩ := Call.read_end (hsound.wellSent _ _ hi) hevent hr
    exact ⟨taken, h.reads, forall_getElem?_set h.calls nofun⟩
  | @finish i c c' ring hi hf =>
    obtain ⟨-, m, -, ⟨n, own, hparse, rfl, rfl⟩ | ⟨e, rfl, rfl, -⟩⟩ :=
      Call.finish_spec (hsound.wellSent _ _ hi) hf
    · -- a frame is taken off the stream
      have hle := ((Call.parser setting).consumes hparse).2
      have hfront : (responseParser protocolLimit).parse
          (RingBuffer.content s.mRingBuffer ++ s.arriving) = .ok (some (n, own.msg)) :=
        (responseParser protocolLimit).parse_of_front (parseFrame_of_some hparse)
      refine ⟨taken ++ [own.msg], ?_, forall_getElem?_set (fun j c hj => (h.calls j c hj).concat _) ?_⟩
      · show (responseParser protocolLimit).Frames stream _
          (RingBuffer.content (RingBuffer.consume _ _) ++ s.arriving)
        have hnext := h.reads.concat hfront
        rwa [List.drop_append_of_le_length hle, ← RingBuffer.content_consume _ _ hle] at hnext
      · intro response hphase
        obtain ⟨rfl, hid, hmode⟩ := checkResponse_eq_ok (CallPhase.returned.inj hphase)
        exact ⟨hid, hmode, List.mem_append_right _ (List.mem_singleton_self _)⟩
    · exact ⟨taken, h.reads, forall_getElem?_set h.calls nofun⟩
  | @abandon i c c' hi ha' =>
    obtain ⟨-, hactive, rfl⟩ := Call.abandon_spec ha'
    exact ⟨taken, h.reads, forall_getElem?_set h.calls fun response hphase =>
      absurd hphase (hactive _)⟩
  | respond answer => exact absurd rfl (ha answer)

/-! ## The invariant -/

/-- Both ends are in order, each reads what the other has sent, and the messages fit the format. -/
structure Link.Joined (services : Services η ζ) (l : Link ρ ρ' η) : Prop where
  sound : l.client.Sound
  ordered : ∃ done part, Ordered l.client done part
  requests : ∀ (i : Nat) (c : Call), l.client.calls[i]? = some c → c.request.msg.WellFormed
  server : l.server.Orderly services l.client.sent
  responses : ∀ round ∈ l.server.rounds, round.response.msg.WellFormed
  takes : ∃ taken, Takes l.server.sent taken l.client

namespace ServerConn

variable {services : Services η ζ} {s s' : ServerConn ρ' η} {action : ServerAction}

omit [RingBuffer ρ] in
/-- A step of the server adds to what it has written. -/
theorem sent_of_step {stream : Bytes} (h : s.Orderly services stream)
    (hstep : s.step services action = some s') : s'.sent = s.sent ++ s'.sent.drop s.sent.length := by
  refine (List.prefix_iff_eq_append.mp ?_).symm
  cases stepped h.reader hstep with
  | started hphase => exact List.prefix_rfl
  | stopped hphase => exact List.prefix_rfl
  | piece m hphase => exact List.prefix_rfl
  | hungUp m hphase => exact List.prefix_rfl
  | readFailed e m hphase => exact List.prefix_rfl
  | dispatched n request m hphase =>
    simp only [dispatch]
    split
    · exact List.prefix_rfl
    · exact List.prefix_rfl
  | handled handler request hphase => exact List.prefix_rfl
  | wrote round write write' hphase hwrite =>
    unfold ServerConn.wrote
    split
    · exact List.prefix_append _ _
    · exact List.prefix_append _ _
    · exact List.prefix_append _ _
  | closed lastError hphase => exact List.prefix_rfl

omit [RingBuffer ρ] in
/-- A round is only added when a request is not found, or by its handler. -/
theorem rounds_of_step {stream : Bytes} (h : s.Orderly services stream)
    (hstep : s.step services action = some s') :
    s'.rounds = s.rounds ∨ ∃ round, s'.rounds = s.rounds ++ [round] ∧
      (round.outcome.2 = [] ∨ ∃ calls, action = .handle calls ∧
        round.outcome = RpcContextCall.outcome calls) := by
  cases stepped h.reader hstep with
  | started hphase => exact Or.inl rfl
  | stopped hphase => exact Or.inl rfl
  | piece m hphase => exact Or.inl rfl
  | hungUp m hphase => exact Or.inl rfl
  | readFailed e m hphase => exact Or.inl rfl
  | dispatched n request m hphase =>
    simp only [dispatch]
    split
    · exact Or.inr ⟨_, rfl, Or.inl rfl⟩
    · exact Or.inl rfl
  | @handled calls handler request hphase => exact Or.inr ⟨_, rfl, Or.inr ⟨calls, rfl, rfl⟩⟩
  | wrote round write write' hphase hwrite => exact Or.inl (wrote_eq s round write write').2.2.2.2.2
  | closed lastError hphase => exact Or.inl rfl

end ServerConn

/-- A response with a payload of an admissible size. -/
theorem Round.wellFormed {round : Round η} (h : round.outcome.2.length ≤ rpcMaxBodySize - 2) :
    round.response.msg.WellFormed := by
  rw [Round.response_msg, ResponseMsg.WellFormed, ResponseMsg.body_length]
  simp only [rpcMaxBodySize] at h ⊢
  omega

/-- The request of a call is admissible if its arguments are. -/
theorem CallArgs.Admissible.wellFormed {args : CallArgs} (h : args.Admissible) (reqId : UInt32) :
    (callRequest reqId args).msg.WellFormed := by
  have hzero : (callRequest 0 args).msg.WellFormed := h
  exact ⟨hzero.service, hzero.method, hzero.size⟩

namespace Link

variable {services : Services η ζ} {setting : RpcReaderSetting} {l l' : Link ρ ρ' η}

theorem joined_start (services : Services η ζ) {ring : ρ} {ring' : ρ'}
    (hempty : RingBuffer.content ring = []) (hempty' : RingBuffer.content ring' = []) :
    Joined services (start ring ring' : Link ρ ρ' η) where
  sound := ClientConn.sound_start ring
  ordered := ⟨[], [], ordered_start ring⟩
  requests i c hi := by simp [start, ClientConn.start] at hi
  server := ServerConn.orderly_start services hempty'
  responses round hround := by cases hround
  takes := by
    refine ⟨[], ?_, fun i c hi => by simp [start, ClientConn.start] at hi⟩
    show (responseParser protocolLimit).Frames [] [] (RingBuffer.content ring ++ [])
    rw [hempty]
    exact .nil []

omit [RingBuffer ρ'] in
theorem clientStep_cases {a : ClientAction} (h : l.clientStep setting a = some l') :
    (∀ answer, a ≠ .respond answer) ∧ ∃ client, l.client.step setting a = some client ∧
      l' = { client := client
             server := { l.server with
               incoming := l.server.incoming ++ client.sent.drop l.client.sent.length } } := by
  unfold clientStep at h
  split at h
  · cases h
  · rename_i hne
    obtain ⟨client, hclient, rfl⟩ := Option.map_eq_some_iff.mp h
    exact ⟨hne, client, hclient, rfl⟩

omit [RingBuffer ρ] in
theorem serverStep_cases {a : ServerAction} (h : l.serverStep services a = some l') :
    ∃ server, l.server.step services a = some server ∧
      l' = { client := { l.client with
               arriving := l.client.arriving ++ server.sent.drop l.server.sent.length }
             server := server } := by
  obtain ⟨server, hserver, rfl⟩ := Option.map_eq_some_iff.mp h
  exact ⟨server, hserver, rfl⟩

/-- The requests stay admissible. -/
theorem requests_of_step {client : ClientConn ρ} {a : ClientAction} (h : Joined services l)
    (hduty : Duties l (.client a)) (hstep : l.client.step setting a = some client) :
    ∀ (i : Nat) (c : Call), client.calls[i]? = some c → c.request.msg.WellFormed := by
  have hset : ∀ {i : Nat} {c c' : Call}, l.client.calls[i]? = some c → c'.request = c.request →
      ∀ (j : Nat) (cj : Call), (l.client.calls.set i c')[j]? = some cj → cj.request.msg.WellFormed := by
    intro i c c' hi hrequest
    refine forall_getElem?_set h.requests ?_
    rw [hrequest]
    exact h.requests i c hi
  cases sendStep h.sound hstep with
  | call args nextId => exact forall_getElem?_concat h.requests (CallArgs.Admissible.wellFormed hduty _)
  | write hi hw => exact hset hi hw.request
  | quiet hi _ hrequest _ => exact hset hi hrequest
  | respond answer => exact h.requests

omit [RingBuffer ρ] [RingBuffer ρ'] in
theorem clear_of_duties {a : ClientAction} (h : Duties l (.client a)) : Clear l.client a := by
  cases a with
  | write i event => exact h
  | _ => trivial

/-- **Every step of either end keeps the two joined.** -/
theorem Joined.step {a : LinkAction} (h : Joined services l) (hduty : Duties l a)
    (hstep : l.step services setting a = some l') : Joined services l' := by
  obtain ⟨taken, htakes⟩ := h.takes
  cases a with
  | client a =>
    obtain ⟨ha, client, hclient, rfl⟩ := clientStep_cases hstep
    obtain ⟨hsound, hordered⟩ := ordered_step ⟨h.sound, h.ordered⟩ (clear_of_duties hduty) hclient
    refine ⟨hsound, hordered, requests_of_step h hduty hclient, ?_, h.responses,
      htakes.step h.sound ha hclient⟩
    have harrive := h.server.arrive (client.sent.drop l.client.sent.length)
    rwa [← ClientConn.sent_of_step h.sound hclient] at harrive
  | server a =>
    obtain ⟨server, hserver, rfl⟩ := serverStep_cases hstep
    have hsent := ServerConn.sent_of_step h.server hserver
    obtain ⟨done, part, hdone⟩ := h.ordered
    refine ⟨⟨h.sound.next, h.sound.ids, h.sound.wellSent⟩,
      ⟨done, part, hdone.nodup, hdone.full, hdone.sent, hdone.half⟩, h.requests,
      h.server.step hserver, ?_, taken, ?_⟩
    · show ∀ round ∈ server.rounds, round.response.msg.WellFormed
      rcases ServerConn.rounds_of_step h.server hserver with hsame | ⟨round, hadd, hfits⟩
      · rw [hsame]
        exact h.responses
      · rw [hadd]
        refine forall_mem_concat h.responses (Round.wellFormed ?_)
        rcases hfits with hnil | ⟨calls, rfl, houtcome⟩
        · rw [hnil]
          exact Nat.zero_le _
        · rw [houtcome]
          exact hduty
    · have harrive := htakes.arrive (server.sent.drop l.server.sent.length)
      rwa [← hsent] at harrive

end Link

/-! ## Who is executed, and who gets which answer -/

/-- What the request of the `i`-th call says. -/
def requestMsgOf (calls : List Call) (i : Nat) : RequestMsg :=
  match calls[i]? with
  | some c => c.request.msg
  | none => ({} : RpcRequest).msg

omit [RingBuffer ρ] in
/-- **The bytes a client has written** are, up to a last incomplete frame, the frames of different
    calls. -/
theorem Ordered.sent_prefix {s : ClientConn ρ} {done : List Nat} {part : Bytes}
    (h : Ordered s done part) (hsound : s.Sound) :
    ∃ order : List Nat, order.Nodup ∧ (∀ i ∈ order, i < s.calls.length) ∧
      s.sent <+: (order.map (frameOf s.calls)).flatten := by
  have hlt : ∀ i ∈ done, i < s.calls.length := by
    intro i hi
    obtain ⟨c, hc, -⟩ := (h.full i).mp hi
    exact (List.getElem?_eq_some_iff.mp hc).1
  rcases h.half with ⟨rfl, -⟩ | ⟨i, c, hc, hhalf, rfl, -⟩
  · have hsent := h.sent
    rw [List.append_nil] at hsent
    exact ⟨done, h.nodup, hlt, hsent ▸ List.prefix_rfl⟩
  · have hfresh : i ∉ done := by
      intro hi
      obtain ⟨c', hc', hfull⟩ := (h.full i).mp hi
      rw [hc] at hc'
      obtain rfl := Option.some.inj hc'
      exact hhalf.2 hfull
    refine ⟨done ++ [i], ?_, ?_, ?_⟩
    · rw [← List.concat_eq_append]
      exact (List.nodup_concat done i).mpr ⟨hfresh, h.nodup⟩
    · intro j hj
      rcases List.mem_append.mp hj with hj | hj
      · exact hlt j hj
      · rw [List.mem_singleton.mp hj]
        exact (List.getElem?_eq_some_iff.mp hc).1
    · rw [h.sent, List.map_append, List.flatten_append, List.map_singleton, List.flatten_singleton,
        frameOf_of_some hc]
      exact (List.prefix_append_right_inj _).mpr (hsound.wellSent i c hc).emitted_front

omit [RingBuffer ρ] in
/-- The request of a round was received in its place. -/
theorem ServerConn.Orderly.received_of_round {services : Services η ζ} {stream : Bytes}
    {s : ServerConn ρ' η} (h : s.Orderly services stream) {k : Nat} {round : Round η}
    (hround : s.rounds[k]? = some round) : s.received[k]? = some round.request := by
  obtain ⟨later, hlater⟩ := h.rounds_received.1
  have hmap : (s.rounds.map Round.request)[k]? = some round.request := by
    rw [List.getElem?_map, hround]
    rfl
  rw [← hlater, List.getElem?_append_left (List.getElem?_eq_some_iff.mp hmap).1, hmap]

namespace Link

variable {services : Services η ζ} {l : Link ρ ρ' η}

/-- **The server has received the requests of different calls**, in the order in which they were
    written. -/
theorem Joined.received_calls (h : Joined services l) :
    ∃ order : List Nat, order.Nodup ∧ (∀ i ∈ order, i < l.client.calls.length) ∧
      l.server.received.map RpcRequest.msg = order.map (requestMsgOf l.client.calls) := by
  obtain ⟨done, part, hdone⟩ := h.ordered
  obtain ⟨order, hnodup, hlt, hsent⟩ := hdone.sent_prefix h.sound
  have hframes : ServerConn.parser.Frames ((order.map (frameOf l.client.calls)).flatten)
      (order.map (requestMsgOf l.client.calls)) [] := by
    have hall := ServerConn.parser.frames_flatten (frameOf l.client.calls)
      (requestMsgOf l.client.calls) [] order ?_
    · rwa [List.append_nil] at hall
    · intro i hi
      have hc := List.getElem?_eq_getElem (hlt i hi)
      have hwf := h.requests i _ hc
      rw [frameOf_of_some hc, RpcRequest.serialize_eq, requestMsgOf, hc]
      refine hwf.frame ?_
      rw [RequestMsg.frame_length]
      exact Nat.add_le_add_left hwf.size _
  have hprefix := hframes.of_prefix h.server.reads hsent
  rw [List.prefix_iff_eq_take, List.length_map, ← List.map_take] at hprefix
  exact ⟨order.take l.server.received.length, hnodup.sublist (List.take_sublist _ _),
    fun i hi => hlt i (List.mem_of_mem_take hi), hprefix⟩

/-- **What the client has taken are the responses of the first rounds.** -/
theorem Joined.taken_rounds (h : Joined services l) {taken : List ResponseMsg}
    (htakes : Takes l.server.sent taken l.client) :
    taken <+: l.server.rounds.map fun round => round.response.msg := by
  have hframes : (responseParser protocolLimit).Frames (responseBytes l.server.rounds)
      (l.server.rounds.map fun round => round.response.msg) [] := by
    have hall := (responseParser protocolLimit).frames_flatten
      (fun round : Round η => round.response.serialize) (fun round => round.response.msg) []
      l.server.rounds ?_
    · rwa [List.append_nil] at hall
    · intro round hround
      have hwf := h.responses round hround
      show (responseParser protocolLimit).Frame round.response.serialize round.response.msg
      rw [RpcResponse.serialize_eq]
      refine hwf.frame ?_
      rw [ResponseMsg.frame_length]
      exact Nat.add_le_add_left hwf _
  exact hframes.of_prefix htakes.reads h.server.rounds_received.2

/-- The call whose request was received in place `k`. -/
theorem call_of_received {order : List Nat} {received : List RpcRequest} {calls : List Call}
    (hreceived : received.map RpcRequest.msg = order.map (requestMsgOf calls))
    (hlt : ∀ i ∈ order, i < calls.length) {k : Nat} {request : RpcRequest}
    (hk : received[k]? = some request) :
    ∃ i c, order[k]? = some i ∧ calls[i]? = some c ∧ request.msg = c.request.msg := by
  have hplace := congrArg (fun msgs : List RequestMsg => msgs[k]?) hreceived
  simp only [List.getElem?_map, hk, Option.map_some] at hplace
  obtain ⟨i, hi, hmsg⟩ := Option.map_eq_some_iff.mp hplace.symm
  have hc := List.getElem?_eq_getElem (hlt i (List.mem_of_getElem? hi))
  refine ⟨i, _, hi, hc, ?_⟩
  rw [← hmsg, requestMsgOf, hc]

/-- Below 2^32 calls, the response that a call has returned is that of its own round. -/
theorem Joined.own_round (h : Joined services l) (hfew : l.client.calls.length < 2 ^ 32)
    {order : List Nat} (hlt : ∀ i ∈ order, i < l.client.calls.length)
    (hreceived : l.server.received.map RpcRequest.msg = order.map (requestMsgOf l.client.calls))
    {i : Nat} {c : Call} {response : RpcResponse} (hi : l.client.calls[i]? = some c)
    (hphase : c.phase = .returned (.ok (some response))) :
    ∃ (k : Nat) (round : Round η), order[k]? = some i ∧ l.server.rounds[k]? = some round ∧
      response.msg = ⟨c.request.requestId, c.request.callMode, true, round.outcome.1,
        round.outcome.2⟩ := by
  obtain ⟨taken, htakes⟩ := h.takes
  obtain ⟨hid, -, htaken⟩ := htakes.calls i c hi response hphase
  obtain ⟨k, hk⟩ := List.mem_iff_getElem?.mp ((h.taken_rounds htakes).subset htaken)
  rw [List.getElem?_map] at hk
  obtain ⟨round, hround, hmsg⟩ := Option.map_eq_some_iff.mp hk
  have hrequest := h.server.received_of_round hround
  obtain ⟨j, c', hj, hc', hsame⟩ := call_of_received hreceived hlt hrequest
  rw [Round.response_msg] at hmsg
  -- the response carries the id of the call whose request was received in that place
  have hij : i = j := by
    have hlti := (List.getElem?_eq_some_iff.mp hi).1
    have hltj := (List.getElem?_eq_some_iff.mp hc').1
    refine UInt32_ofNat_inj (hlti.trans hfew) (hltj.trans hfew) ?_
    rw [← h.sound.ids i c hi, ← h.sound.ids j c' hc', ← hid]
    have hidmsg := congrArg ResponseMsg.requestId hmsg
    have hidsame := congrArg RequestMsg.requestId hsame
    exact hidmsg.symm.trans hidsame
  subst hij
  rw [hi] at hc'
  obtain rfl := Option.some.inj hc'
  refine ⟨k, round, hj, hround, ?_⟩
  rw [← hmsg]
  have hids : round.request.requestId = c.request.requestId := congrArg RequestMsg.requestId hsame
  have hmodes : round.request.callMode = c.request.callMode := congrArg RequestMsg.callMode hsame
  rw [hids, hmodes]

/-- **No call is executed twice, and a call returns what its own execution came to.**  In every run of a
    client and a server on one connection, with any number of calls side by side, any fragmentation both
    ways, and failures, timeouts and disconnections anywhere, whose users keep to `Duties`: the requests
    that the server has received are those of different calls; each is looked up in the registry and
    handled in its turn; and (below 2^32 calls) a call that has returned a response was received, and the
    response is that of its round, with its own id and mode and what its handler has set. -/
theorem calls_execute_at_most_once (services : Services η ζ) (setting : RpcReaderSetting) {ring : ρ}
    {ring' : ρ'} (hempty : RingBuffer.content ring = []) (hempty' : RingBuffer.content ring' = [])
    {actions : List LinkAction} {l : Link ρ ρ' η}
    (hrun : Run (step services setting) Duties (start ring ring') actions l) :
    ∃ order : List Nat, order.Nodup ∧ order.length = l.server.received.length ∧
      (∀ (k : Nat) (request : RpcRequest), l.server.received[k]? = some request →
        ∃ i c, order[k]? = some i ∧ l.client.calls[i]? = some c ∧ request.msg = c.request.msg) ∧
      l.server.rounds.map Round.request <+: l.server.received ∧
      (∀ round ∈ l.server.rounds, round.found = resolveMethodHandler services round.request) ∧
      (l.client.calls.length < 2 ^ 32 →
        ∀ (i : Nat) (c : Call) (response : RpcResponse), l.client.calls[i]? = some c →
          c.phase = .returned (.ok (some response)) →
          ∃ (k : Nat) (round : Round η), order[k]? = some i ∧ l.server.rounds[k]? = some round ∧
            response.msg = ⟨c.request.requestId, c.request.callMode, true, round.outcome.1,
              round.outcome.2⟩) := by
  have h : Joined services l :=
    hrun.invariant (fun _ _ _ h hduty hstep => h.step hduty hstep)
      (joined_start services hempty hempty')
  obtain ⟨order, hnodup, hlt, hreceived⟩ := h.received_calls
  refine ⟨order, hnodup, ?_, ?_, h.server.rounds_received.1, h.server.resolved, ?_⟩
  · have hlength := congrArg List.length hreceived
    rw [List.length_map, List.length_map] at hlength
    exact hlength.symm
  · intro k request hk
    exact call_of_received hreceived hlt hk
  · intro hfew i c response hi hphase
    exact h.own_round hfew hlt hreceived hi hphase

/-- Two calls side by side: the second one's request goes out behind the first one's, and the server is
    at work on it while the first response is still being read. -/
def crossingRun : List LinkAction :=
  [.client (.call echoArgs), .client (.call echoArgs), .client (.write 0 (.accept 5)),
    .server (.test true), .server (.readv 3), .client (.write 0 (.accept 99)),
    .client (.write 1 (.accept 99)), .server (.readv 37), .server .receive,
    .server (.handle [.setPayload [7]]), .server (.writev (.accept 4)), .client (.read 0 3),
    .server (.writev (.accept 15)), .server (.test true), .server (.readv 40), .server .receive,
    .client (.read 0 16), .client (.finish 0), .server (.handle [.setPayload [8, 9]]),
    .server (.writev (.accept 20)), .client (.read 1 20), .client (.finish 1)]

theorem calls_execute_at_most_once_crossing :
    ∃ (l : Link (Circular UInt8) (Circular UInt8) Unit) (c : Call) (response : RpcResponse)
      (round : Round Unit),
      runAll (step RpcServer.echoServer.mServices {}) Duties
          (start (Circular.empty 40 fun _ => 0) (Circular.empty 40 fun _ => 0)) crossingRun = some l ∧
        l.client.calls[1]? = some c ∧ c.phase = .returned (.ok (some response)) ∧
        round ∈ l.server.rounds ∧
        response.msg = ⟨c.request.requestId, c.request.callMode, true, round.outcome.1,
          round.outcome.2⟩ := by
  have hruns : ((runAll (step RpcServer.echoServer.mServices {}) Duties
      (start (Circular.empty 40 fun _ => (0 : UInt8)) (Circular.empty 40 fun _ => (0 : UInt8)))
      crossingRun).bind fun l =>
        if l.client.calls.length < 2 ^ 32 then l.client.calls[1]?.bind Call.result? else none) =
      some (.ok (some { requestId := 1, store := .setView ⟨[8, 9], []⟩ })) := by
    decide +kernel
  obtain ⟨l, hl, hcalls⟩ := Option.bind_eq_some_iff.mp hruns
  split at hcalls
  · rename_i hfew
    obtain ⟨c, hc, hresult⟩ := Option.bind_eq_some_iff.mp hcalls
    have hphase := Call.phase_of_result hresult
    obtain ⟨order, -, -, -, -, -, hown⟩ :=
      calls_execute_at_most_once RpcServer.echoServer.mServices {} rfl rfl (run_iff_runAll.mpr hl)
    obtain ⟨k, round, -, hround, hmsg⟩ := hown hfew 1 c _ hc hphase
    exact ⟨l, c, _, round, hl, hc, hphase, List.mem_of_getElem? hround, hmsg⟩
  · cases hcalls

end Link

end GalayRpc
