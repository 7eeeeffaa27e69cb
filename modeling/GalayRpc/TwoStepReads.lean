/-
  `rpc_conn.h`: reading a request in two steps, its header and then its body.

  Both steps are reads of so many bytes: they wait until those are in the ring and take them off
  (`awaitRead_fixed`).  What the caller does with header and body, `deserializeBody`, splits the names
  as the one-shot parser does; so the two ways of reading a request come to the same
  (`two_step_read_agrees`), whatever is in front of the kernel's cuts and behind the frame.
-/
import GalayRpc.Conn

namespace GalayRpc

variable {ρ : Type} [RingBuffer ρ]

/-- `RpcHeaderReadState::parseFromRingBuffer`; the derived class's own member is the header. -/
def RpcHeaderReadState.parseFromRingBuffer (s : RpcRingBufferReadState ρ RpcHeader) :
    Bool × RpcRingBufferReadState ρ RpcHeader :=
  let readIovecs := RingBuffer.getReadIovecs s.ringBuffer
  if iovecsReadableBytes readIovecs < rpcHeaderSize then (false, s)
  else
    match s.own.deserialize (copyFromIovecs readIovecs 0 rpcHeaderSize).2 with
    | (false, header) =>
      (true, { s with own := header }.setReadError (.ofText .invalidRequest "Invalid header"))
    | (true, header) =>
      (true, { s with own := header, ringBuffer := RingBuffer.consume s.ringBuffer rpcHeaderSize })

/-- The members of `RpcBodyReadState`: the caller's buffer, and how much is to be put there. -/
structure RpcBodyReadMembers where
  body : Bytes
  bodyLen : Nat
deriving DecidableEq, Repr

/-- `RpcBodyReadState::parseFromRingBuffer`. -/
def RpcBodyReadState.parseFromRingBuffer (s : RpcRingBufferReadState ρ RpcBodyReadMembers) :
    Bool × RpcRingBufferReadState ρ RpcBodyReadMembers :=
  let readIovecs := RingBuffer.getReadIovecs s.ringBuffer
  if iovecsReadableBytes readIovecs < s.own.bodyLen then (false, s)
  else
    let copied := (copyFromIovecs readIovecs 0 s.own.bodyLen).2
    (true, { s with
      own := { s.own with body := copied ++ s.own.body.drop s.own.bodyLen }
      ringBuffer := RingBuffer.consume s.ringBuffer s.own.bodyLen })

/-! ## Reads of so many bytes -/

section Fixed

variable {σ : Type}
  {parseFromRingBuffer : RpcRingBufferReadState ρ σ → Bool × RpcRingBufferReadState ρ σ}

/-- **A read of the first `n` bytes of a stream**, which makes `done` of its members once they are all in
    the ring, and takes them off. -/
theorem awaitRead_fixed {first rest : Bytes} {own done : σ}
    (hwait : ∀ s : RpcRingBufferReadState ρ σ, s.own = own →
      (RingBuffer.content s.ringBuffer).length < first.length → parseFromRingBuffer s = (false, s))
    (hdone : ∀ s : RpcRingBufferReadState ρ σ, s.own = own →
      first.length ≤ (RingBuffer.content s.ringBuffer).length →
      (RingBuffer.content s.ringBuffer).take first.length = first →
      parseFromRingBuffer s =
        (true, { s with own := done, ringBuffer := RingBuffer.consume s.ringBuffer first.length }))
    {ring : ρ} {w : Wire} (hstream : RingBuffer.content ring ++ w.bytes = first ++ rest)
    (hfits : first.length ≤ RingBuffer.capacity ring) :
    let run := awaitRead parseFromRingBuffer { ringBuffer := ring, own := own } w
    run.result = some (.ok true) ∧ run.own = done ∧ run.unread = rest ∧
      RingBuffer.capacity run.ringBuffer = RingBuffer.capacity ring := by
  -- a parse that waits has seen less than the whole, so there is room and there is more to come
  have hshort : ∀ (s s' : RpcRingBufferReadState ρ σ) (rest' : Bytes),
      Reading (first ++ rest) (RingBuffer.capacity ring) own s rest' →
      parseFromRingBuffer s = (false, s') →
      s' = s ∧ (RingBuffer.content s.ringBuffer).length < first.length := by
    intro s s' rest' hI hparse
    rcases Nat.lt_or_ge (RingBuffer.content s.ringBuffer).length first.length with hlt | hge
    · rw [hwait s hI.own hlt] at hparse
      exact ⟨(Prod.mk.inj hparse).2.symm, hlt⟩
    · have htake : (RingBuffer.content s.ringBuffer).take first.length = first := by
        have hfront := congrArg (List.take first.length) hI.stream
        rwa [List.take_append_of_le_length hge, List.take_left] at hfront
      rw [hdone s hI.own hge htake] at hparse
      cases hparse
  have hrule := runRead_rule parseFromRingBuffer
    (Reading (first ++ rest) (RingBuffer.capacity ring) own) w.ending
    (fun result s rest' => result = some (.ok true) ∧ s.own = done ∧
      RingBuffer.content s.ringBuffer ++ rest' = rest ∧
      RingBuffer.capacity s.ringBuffer = RingBuffer.capacity ring)
    (by
      intro s s' rest' hI hparse
      rcases Nat.lt_or_ge (RingBuffer.content s.ringBuffer).length first.length with hlt | hge
      · rw [hwait s hI.own hlt] at hparse
        cases hparse
      · have htake : (RingBuffer.content s.ringBuffer).take first.length = first := by
          have hfront := congrArg (List.take first.length) hI.stream
          rwa [List.take_append_of_le_length hge, List.take_left] at hfront
        rw [hdone s hI.own hge htake] at hparse
        obtain ⟨-, rfl⟩ := Prod.mk.inj hparse
        refine ⟨by rw [hI.error]; rfl, rfl, ?_, ?_⟩
        · show RingBuffer.content (RingBuffer.consume s.ringBuffer first.length) ++ rest' = rest
          rw [RingBuffer.content_consume _ _ hge, ← List.drop_append_of_le_length hge, hI.stream,
            List.drop_left]
        · show RingBuffer.capacity (RingBuffer.consume s.ringBuffer first.length) = _
          rw [RingBuffer.capacity_consume, hI.capacity])
    (by
      intro s s' rest' hI hparse hfull
      obtain ⟨rfl, hlt⟩ := hshort s s' rest' hI hparse
      rw [RingBuffer.free, hI.capacity] at hfull
      omega)
    (by
      intro s s' hI hparse
      obtain ⟨rfl, hlt⟩ := hshort s s' [] hI hparse
      have hlen := congrArg List.length hI.stream
      rw [List.append_nil, List.length_append] at hlen
      omega)
    (by
      intro s s' piece rest' hI hparse _ hlen
      obtain ⟨rfl, -⟩ := hshort s s' _ hI hparse
      exact hI.receive hlen _)
    (w.bytes.length + 2) { ringBuffer := ring, own := own } w (Nat.le_refl _) rfl
    ⟨rfl, hstream, rfl, rfl⟩
  exact hrule.1

end Fixed

/-! ## The three reads -/

/-- `getRequest`. -/
abbrev getRequest (setting : RpcReaderSetting) (ring : ρ) (request : RpcRequest) (w : Wire) :
    ReadRun ρ RpcRequest :=
  awaitRead (RpcRequestReadState.parseFromRingBuffer setting) { ringBuffer := ring, own := request } w

/-- `getHeader`. -/
abbrev getHeader (ring : ρ) (header : RpcHeader) (w : Wire) : ReadRun ρ RpcHeader :=
  awaitRead RpcHeaderReadState.parseFromRingBuffer { ringBuffer := ring, own := header } w

/-- `getBody`. -/
abbrev getBody (ring : ρ) (body : Bytes) (bodyLen : Nat) (w : Wire) : ReadRun ρ RpcBodyReadMembers :=
  awaitRead RpcBodyReadState.parseFromRingBuffer { ringBuffer := ring, own := ⟨body, bodyLen⟩ } w

/-- **A read of an accepted header.** -/
theorem getHeader_spec {first rest : Bytes} (hlen : first.length = rpcHeaderSize)
    (hacc : (RpcHeader.ofBytes first).Accepted) (header : RpcHeader) {ring : ρ} {w : Wire}
    (hstream : RingBuffer.content ring ++ w.bytes = first ++ rest)
    (hfits : rpcHeaderSize ≤ RingBuffer.capacity ring) :
    let run := getHeader ring header w
    run.result = some (.ok true) ∧ run.own = RpcHeader.ofBytes first ∧ run.unread = rest ∧
      RingBuffer.capacity run.ringBuffer = RingBuffer.capacity ring := by
  rw [← hlen] at hfits
  refine awaitRead_fixed ?_ ?_ hstream hfits
  · intro s _ hlt
    rw [hlen] at hlt
    unfold RpcHeaderReadState.parseFromRingBuffer
    simp only [iovecsReadableBytes_eq, RingBuffer.getReadIovecs_flatten, if_pos hlt]
  · intro s _ hge htake
    rw [hlen] at hge htake ⊢
    unfold RpcHeaderReadState.parseFromRingBuffer
    simp only [iovecsReadableBytes_eq, RingBuffer.getReadIovecs_flatten, if_neg (Nat.not_lt.mpr hge),
      copyFromIovecs_eq, slice_from_zero, htake, RpcHeader.deserialize_of_accepted _ hacc]

/-- **A read of a body.** -/
theorem getBody_spec {body rest buffer : Bytes} {ring : ρ} {w : Wire}
    (hstream : RingBuffer.content ring ++ w.bytes = body ++ rest)
    (hfits : body.length ≤ RingBuffer.capacity ring) :
    let run := getBody ring buffer body.length w
    run.result = some (.ok true) ∧ run.own = ⟨body ++ buffer.drop body.length, body.length⟩ ∧
      run.unread = rest ∧ RingBuffer.capacity run.ringBuffer = RingBuffer.capacity ring := by
  refine awaitRead_fixed ?_ ?_ hstream hfits
  · intro s hown hlt
    unfold RpcBodyReadState.parseFromRingBuffer
    rw [hown]
    simp only [iovecsReadableBytes_eq, RingBuffer.getReadIovecs_flatten, if_pos hlt]
  · intro s hown hge htake
    unfold RpcBodyReadState.parseFromRingBuffer
    rw [hown]
    simp only [iovecsReadableBytes_eq, RingBuffer.getReadIovecs_flatten, if_neg (Nat.not_lt.mpr hge),
      copyFromIovecs_eq, slice_from_zero, htake]

/-- **Header, then body**: both steps complete, with the frame cut behind its header. -/
theorem getHeader_getBody {f t : Bytes} (hacc : (RpcHeader.ofBytes f).Accepted)
    (hlen : f.length = rpcHeaderSize + (RpcHeader.ofBytes f).bodyLength.toNat) {ring : ρ} {w : Wire}
    (hstream : RingBuffer.content ring ++ w.bytes = f ++ t)
    (hfits : f.length ≤ RingBuffer.capacity ring) (header : RpcHeader) (buffer : Bytes) :
    let head := getHeader ring header w
    let body := getBody head.ringBuffer buffer head.own.bodyLength.toNat head.wire
    head.result = some (.ok true) ∧ head.own = RpcHeader.ofBytes f ∧ body.result = some (.ok true) ∧
      body.own.body.take head.own.bodyLength.toNat = f.drop rpcHeaderSize ∧
      head.own.bodyLength.toNat ≤ body.own.body.length ∧ body.unread = t := by
  intro head body
  have h16 : rpcHeaderSize ≤ f.length := by omega
  have hof := RpcHeader.ofBytes_take h16
  have hcut : f ++ t = f.take rpcHeaderSize ++ (f.drop rpcHeaderSize ++ t) := by
    rw [← List.append_assoc, List.take_append_drop]
  have hdrop : (f.drop rpcHeaderSize).length = (RpcHeader.ofBytes f).bodyLength.toNat := by
    rw [List.length_drop]
    omega
  obtain ⟨hok, hown, hunread, hcapacity⟩ : head.result = some (.ok true) ∧
      head.own = RpcHeader.ofBytes (f.take rpcHeaderSize) ∧
      head.unread = f.drop rpcHeaderSize ++ t ∧
      RingBuffer.capacity head.ringBuffer = RingBuffer.capacity ring :=
    getHeader_spec (by rw [List.length_take, Nat.min_eq_left h16]) (by rw [hof]; exact hacc) header
      (hstream.trans hcut) (by omega)
  have hown : head.own = RpcHeader.ofBytes f := hown.trans hof
  have hroom : (f.drop rpcHeaderSize).length ≤ RingBuffer.capacity head.ringBuffer := by
    rw [hcapacity, hdrop]
    omega
  obtain ⟨hok', hown', hunread', -⟩ :
      let run := getBody head.ringBuffer buffer (f.drop rpcHeaderSize).length head.wire
      run.result = some (.ok true) ∧ run.own = ⟨_, (f.drop rpcHeaderSize).length⟩ ∧ run.unread = t ∧ _ :=
    getBody_spec hunread hroom
  have hbody : body = getBody head.ringBuffer buffer (f.drop rpcHeaderSize).length head.wire := by
    show getBody _ _ head.own.bodyLength.toNat _ = _
    rw [hown, hdrop]
  rw [hbody, hown, ← hdrop]
  refine ⟨hok, rfl, hok', ?_, ?_, hunread'⟩
  · rw [hown']
    exact List.take_left
  · rw [hown', List.length_append]
    exact Nat.le_add_right _ _

/-- A frame the parser has counted whole is one for the abstract reader. -/
theorem frame_of_accepted {setting : RpcReaderSetting} {f : Bytes} (hpos : 0 < f.length)
    {request : RpcRequest}
    (haccepted : (tryParseRequestMessage [f] (iovecsReadableBytes [f]) setting.maxMessageSize
      request).1 = .ok f.length) :
    ∃ a, (requestParser (setting.maxMessageSize + 16).toNat).Frame f a := by
  have hspec := tryParseRequestMessage_spec (show [f].length ≤ 2 from Nat.le_succ 1) setting.maxMessageSize request
  rw [List.flatten_singleton] at hspec
  rcases hp : (requestParser (setting.maxMessageSize + 16).toNat).parse f with code | _ | ⟨n, a⟩
  all_goals rw [hp] at hspec
  · obtain ⟨text, hout⟩ := hspec
    rw [hout] at haccepted
    cases haccepted
  · have hout : tryParseRequestMessage _ _ _ _ = (.ok 0, request) := hspec
    rw [hout] at haccepted
    have hzero : 0 = f.length := Except.ok.inj haccepted
    omega
  · obtain ⟨m, hout, -⟩ := hspec
    rw [hout] at haccepted
    obtain rfl : n = f.length := Except.ok.inj haccepted
    exact ⟨a, hp⟩

/-- A frame that is refused for its body: the header is fine, and the names do not split. -/
theorem splitNames_of_rejected {setting : RpcReaderSetting} {f : Bytes}
    (hlen : f.length = rpcHeaderSize + (RpcHeader.ofBytes f).bodyLength.toNat) {request : RpcRequest}
    {text : ErrorText}
    (hrejected : (tryParseRequestMessage [f] (iovecsReadableBytes [f]) setting.maxMessageSize
      request).1 = .error ⟨.deserializationError, text⟩) :
    (RpcHeader.ofBytes f).Accepted ∧ splitNames (f.drop rpcHeaderSize) = none := by
  have hspec := tryParseRequestMessage_spec (show [f].length ≤ 2 from Nat.le_succ 1) setting.maxMessageSize request
  rw [List.flatten_singleton] at hspec
  have h16 : ¬ f.length < rpcHeaderSize := by omega
  have hparse : (requestParser (setting.maxMessageSize + 16).toNat).parse f =
      parseFrame .request .invalidRequest RequestMsg.read (setting.maxMessageSize + 16).toNat f := rfl
  rw [hparse] at hspec
  rcases refused_or_admitted .request (setting.maxMessageSize + 16).toNat (.ofBytes f) with
    hbad | ⟨hacc, htype, hlim⟩
  · rw [parseFrame_refused h16 hbad] at hspec
    obtain ⟨text', hout⟩ := hspec
    rw [hout] at hrejected
    have hcode : RpcErrorCode.invalidRequest = .deserializationError :=
      congrArg RpcError.code (Except.error.inj hrejected)
    exact absurd hcode (by decide)
  · refine ⟨hacc, ?_⟩
    have hslice : slice f rpcHeaderSize (RpcHeader.ofBytes f).bodyLength.toNat = f.drop rpcHeaderSize :=
      slice_to_end _ (by omega)
    rw [parseFrame_admitted h16 hacc htype hlim, if_neg (by omega), hslice, RequestMsg.read] at hspec
    rcases hsplit : splitNames (f.drop rpcHeaderSize) with _ | ⟨s, m, p⟩
    · rfl
    · rw [hsplit] at hspec
      obtain ⟨parsed, hout, -⟩ := hspec
      rw [hout] at hrejected
      cases hrejected

/-- **The two ways of reading a request agree.** -/
theorem two_step_read_agrees (setting : RpcReaderSetting) (f t : Bytes) (ring ring' : ρ) (w w' : Wire)
    (hfits : f.length ≤ RingBuffer.capacity ring) (hfits' : f.length ≤ RingBuffer.capacity ring')
    (hstream : RingBuffer.content ring ++ w.bytes = f ++ t)
    (hstream' : RingBuffer.content ring' ++ w'.bytes = f ++ t) (request object : RpcRequest)
    (header : RpcHeader) (buffer : Bytes) :
    let tried := tryParseRequestMessage [f] (iovecsReadableBytes [f]) setting.maxMessageSize request
    let whole := getRequest setting ring request w
    let head := getHeader ring' header w'
    let body := getBody head.ringBuffer buffer head.own.bodyLength.toNat head.wire
    let decoded := object.deserializeBody body.own.body head.own.bodyLength.toNat
    (0 < f.length → tried.1 = .ok f.length →
      whole.result = some (.ok true) ∧ head.result = some (.ok true) ∧ body.result = some (.ok true) ∧
      decoded.1 = true ∧ decoded.2.serviceName = whole.own.serviceName ∧
      decoded.2.methodName = whole.own.methodName ∧ decoded.2.payload = whole.own.payload ∧
      head.own.requestId = whole.own.requestId ∧
      rpcDecodeCallMode head.own.flags = whole.own.callMode ∧
      rpcIsEndStream head.own.flags = whole.own.endOfStream ∧ whole.unread = t ∧ body.unread = t) ∧
    (∀ text, f.length = rpcHeaderSize + (RpcHeader.ofBytes f).bodyLength.toNat →
      tried.1 = .error ⟨.deserializationError, text⟩ →
      head.result = some (.ok true) ∧ body.result = some (.ok true) ∧ decoded.1 = false) := by
  intro tried whole head body decoded
  constructor
  · intro hpos haccepted
    obtain ⟨a, hframe⟩ := frame_of_accepted hpos haccepted
    obtain ⟨hacc, -, hlen, -, -, hread⟩ := parseFrame_eq_some.mp hframe
    obtain ⟨hends, -⟩ := awaitRead_ends (request_readsFrames setting)
      (s := { ringBuffer := ring, own := request }) rfl w
    obtain ⟨hwhole, hmsg, hunread⟩ := hends.of_frame hframe hstream hfits
    obtain ⟨hhead, hheader, hbody, htake, hle, hunread'⟩ :=
      getHeader_getBody hacc hlen hstream' hfits' header buffer
    have hslice : slice f rpcHeaderSize (RpcHeader.ofBytes f).bodyLength.toNat = f.drop rpcHeaderSize :=
      slice_to_end _ (by omega)
    rw [hslice, RequestMsg.read] at hread
    obtain ⟨⟨s, m, p⟩, hsplit, rfl⟩ := Option.map_eq_some_iff.mp hread
    have hdecoded := RpcRequest.deserializeBody_spec hle object
    rw [htake, hsplit] at hdecoded
    obtain ⟨hok, hmsg'⟩ := hdecoded
    have hheader : head.own = RpcHeader.ofBytes f := hheader
    rw [hheader]
    refine ⟨hwhole, hhead, hbody, hok, ?_, ?_, ?_, ?_, ?_, ?_, hunread, hunread'⟩
    · exact (congrArg RequestMsg.serviceName hmsg').trans (congrArg RequestMsg.serviceName hmsg).symm
    · exact (congrArg RequestMsg.methodName hmsg').trans (congrArg RequestMsg.methodName hmsg).symm
    · exact (congrArg RequestMsg.payload hmsg').trans (congrArg RequestMsg.payload hmsg).symm
    · exact (congrArg RequestMsg.requestId hmsg).symm
    · exact (congrArg RequestMsg.callMode hmsg).symm
    · exact (congrArg RequestMsg.endOfStream hmsg).symm
  · intro text hlen hrejected
    obtain ⟨hacc, hsplit⟩ := splitNames_of_rejected hlen hrejected
    obtain ⟨hhead, -, hbody, htake, hle, -⟩ :=
      getHeader_getBody hacc hlen hstream' hfits' header buffer
    have hdecoded := RpcRequest.deserializeBody_spec hle object
    rw [htake, hsplit] at hdecoded
    exact ⟨hhead, hbody, hdecoded⟩

theorem two_step_read_agrees_echo :
    let head := getHeader (Circular.empty 40 fun _ => (0 : UInt8)) {}
      ⟨echoRequest.serialize ++ [0x47], .silent, fun _ => 5⟩
    let body := getBody head.ringBuffer (List.replicate 16 0) head.own.bodyLength.toNat head.wire
    let decoded := ({} : RpcRequest).deserializeBody body.own.body head.own.bodyLength.toNat
    head.result = some (.ok true) ∧ body.result = some (.ok true) ∧ decoded.1 = true ∧
      body.unread = [0x47] := by
  have h := (two_step_read_agrees {} echoRequest.serialize [0x47]
    (Circular.empty 40 fun _ => (0 : UInt8)) (Circular.empty 40 fun _ => (0 : UInt8))
    ⟨echoRequest.serialize ++ [0x47], .closed, fun _ => 40⟩
    ⟨echoRequest.serialize ++ [0x47], .silent, fun _ => 5⟩ (by decide) (by decide) rfl rfl {} {} {}
    (List.replicate 16 0)).1 (by decide) (by decide)
  obtain ⟨-, hhead, hbody, hdecoded, -, -, -, -, -, -, -, hunread⟩ := h
  exact ⟨hhead, hbody, hdecoded, hunread⟩

end GalayRpc
