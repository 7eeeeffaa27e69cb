/-
  `rpc_client.h`: receiving the response to one request, in two ways.

  `callWithMode` reads a response off the ring and then compares its id; `RecvRpcResponseChainAwaitable`
  reads with a state that compares the id before it takes the response off the ring.  The two run in
  lockstep (`runRead_lockstep`) up to the parse that ends them, and only a response with another id makes
  a difference: the first way it is gone, the second way it stays in the ring, and the next read meets it
  again (`expected_response_agrees_iff`, `expected_response_stays`).
-/
import GalayRpc.Client
import GalayRpc.Limits

namespace GalayRpc

variable {ρ : Type} [RingBuffer ρ]

/-- The error of a response with another id. -/
def mismatchedRequestId : RpcError := .ofText .invalidResponse "Mismatched response request id"

/-- `ExpectedRpcResponseReadState::parseFromRingBuffer`. -/
def ExpectedRpcResponseReadState.parseFromRingBuffer (setting : RpcReaderSetting)
    (expectedRequestId : UInt32) (s : RpcRingBufferReadState ρ RpcResponse) :
    Bool × RpcRingBufferReadState ρ RpcResponse :=
  if RingBuffer.readable s.ringBuffer = 0 then (false, s)
  else
    let readIovecs := RingBuffer.getReadIovecs s.ringBuffer
    if readIovecs.length = 0 then (false, s)
    else
      match tryParseResponseMessage readIovecs (iovecsReadableBytes readIovecs) setting.maxMessageSize
        s.own with
      | (.error e, response) => (true, { s with own := response }.setReadError e)
      | (.ok 0, response) => (false, { s with own := response })
      | (.ok n, response) =>
        -- the response is still in the ring here
        if response.requestId ≠ expectedRequestId then
          (true, { s with own := response }.setReadError mismatchedRequestId)
        else
          (true, { s with own := response, ringBuffer := RingBuffer.consume s.ringBuffer n })

/-- The id check of `callWithMode`, on what its read has come to. -/
def checkRequestId (expectedRequestId : UInt32) (run : ReadRun ρ RpcResponse) :
    Option RpcAwaitableResult :=
  match run.result with
  | some (.ok ready) =>
    if run.own.requestId ≠ expectedRequestId then some (.error mismatchedRequestId)
    else some (.ok ready)
  | result => result

/-- `callWithMode` refuses a response for its id exactly if that is not its request's. -/
theorem checkResponse_mismatched_iff (request : RpcRequest) (response : RpcResponse) :
    checkResponse request response = .error mismatchedRequestId ↔
      response.requestId ≠ request.requestId := by
  unfold checkResponse
  split
  · rename_i hid
    exact iff_of_true rfl hid
  · rename_i hid
    refine iff_of_false ?_ hid
    split
    · intro h
      exact absurd (congrArg RpcError.message (Except.error.inj h)) (by decide)
    · exact nofun

/-! ## Lockstep -/

section Lockstep

variable {σ : Type}
  {parseFromRingBuffer parseFromRingBuffer' : RpcRingBufferReadState ρ σ →
    Bool × RpcRingBufferReadState ρ σ}
  {Q : RpcRingBufferReadState ρ σ → RpcRingBufferReadState ρ σ → Prop}

/-- **Two read state classes that agree on when to wait** run in lockstep: they end alike for reasons of
    the socket, or in one and the same parse. -/
theorem runRead_lockstep
    (hfalse : ∀ s s', s.error = none → parseFromRingBuffer s = (false, s') →
      parseFromRingBuffer' s = (false, s') ∧ s'.error = none)
    (htrue : ∀ s s', s.error = none → parseFromRingBuffer s = (true, s') →
      ∃ s'', parseFromRingBuffer' s = (true, s'') ∧ Q s' s'')
    (fuel : Nat) (s : RpcRingBufferReadState ρ σ) (herror : s.error = none) (w : Wire) :
    (runRead parseFromRingBuffer' fuel ⟨s, none⟩ w = runRead parseFromRingBuffer fuel ⟨s, none⟩ w ∧
        ∀ ready, (runRead parseFromRingBuffer fuel ⟨s, none⟩ w).result ≠ some (.ok ready)) ∨
      ∃ s₁ s₂ w' waits, Q s₁ s₂ ∧
        runRead parseFromRingBuffer fuel ⟨s, none⟩ w =
          ⟨⟨s₁, some (takeResult s₁.error)⟩, w', waits⟩ ∧
        runRead parseFromRingBuffer' fuel ⟨s, none⟩ w =
          ⟨⟨s₂, some (takeResult s₂.error)⟩, w', waits⟩ := by
  induction fuel generalizing s w with
  | zero => exact Or.inl ⟨rfl, fun ready h => by cases h⟩
  | succ fuel ih =>
    unfold runRead RpcRingBufferReadMachine.advance
    rcases hparse : parseFromRingBuffer s with ⟨done, s'⟩
    cases done with
    | true =>
      obtain ⟨s'', hparse', hQ⟩ := htrue s s' herror hparse
      rw [hparse']
      exact Or.inr ⟨s', s'', w, [], hQ, rfl, rfl⟩
    | false =>
      obtain ⟨hparse', herror'⟩ := hfalse s s' herror hparse
      rw [hparse']
      simp only [prepareReadWindow_eq]
      by_cases hfree : 0 < RingBuffer.free s'.ringBuffer
      · simp only [if_pos hfree]
        rcases hreadv : w.readv (RingBuffer.getWriteIovecs s'.ringBuffer).sum with _ | ⟨e | piece, w'⟩
        · exact Or.inl ⟨rfl, fun ready h => by cases h⟩
        · simp only []
          rw [runRead_of_result rfl, runRead_of_result rfl]
          exact Or.inl ⟨rfl, fun ready h => by cases h⟩
        · cases piece with
          | nil =>
            simp only []
            rw [runRead_of_result rfl, runRead_of_result rfl]
            exact Or.inl ⟨rfl, fun ready h => by cases h⟩
          | cons b bs =>
            simp only [onRead_filled (List.cons_ne_nil b bs)]
            have hrest := ih
              { s' with
                ringBuffer := RingBuffer.receive s'.ringBuffer (b :: bs)
                readIovecs := RingBuffer.getWriteIovecs s'.ringBuffer } herror' w'
            rcases hrest with ⟨hsame, hresult⟩ | ⟨s₁, s₂, w'', waits, hQ, hrun, hrun'⟩
            · rw [hsame]
              exact Or.inl ⟨rfl, hresult⟩
            · rw [hrun, hrun']
              exact Or.inr ⟨s₁, s₂, w'', _, hQ, rfl, rfl⟩
      · simp only [if_neg hfree]
        exact Or.inl ⟨trivial, fun ready h => by cases h⟩

end Lockstep

/-! ## The two ways to receive -/

/-- The two read states at the end of one parse: alike, with the expected id if there is a response; or
    the response has another id, and it is gone from one ring and still in the other. -/
inductive BothParsed (expectedRequestId : UInt32) :
    RpcRingBufferReadState ρ RpcResponse → RpcRingBufferReadState ρ RpcResponse → Prop where
  | same (s : RpcRingBufferReadState ρ RpcResponse)
      (hid : s.error = none → s.own.requestId = expectedRequestId) : BothParsed expectedRequestId s s
  | mismatched (s : RpcRingBufferReadState ρ RpcResponse) (ring : ρ) (n : Nat)
      (hn : 0 < n ∧ n ≤ (RingBuffer.content ring).length) (herror : s.error = none)
      (hring : s.ringBuffer = RingBuffer.consume ring n)
      (hid : s.own.requestId ≠ expectedRequestId) :
      BothParsed expectedRequestId s
        { s with ringBuffer := ring, error := some mismatchedRequestId }

/-- The two classes agree on when to wait. -/
theorem expected_of_false (setting : RpcReaderSetting) (expectedRequestId : UInt32)
    {s s' : RpcRingBufferReadState ρ RpcResponse} (herror : s.error = none)
    (hparse : RpcResponseReadState.parseFromRingBuffer setting s = (false, s')) :
    ExpectedRpcResponseReadState.parseFromRingBuffer setting expectedRequestId s = (false, s') ∧
      s'.error = none := by
  unfold RpcResponseReadState.parseFromRingBuffer parseMessageFromRingBuffer at hparse
  unfold ExpectedRpcResponseReadState.parseFromRingBuffer
  split at hparse
  · rename_i hempty
    rw [if_pos hempty]
    obtain ⟨-, rfl⟩ := Prod.mk.inj hparse
    exact ⟨rfl, herror⟩
  · rename_i hreadable
    rw [if_neg hreadable]
    simp only [] at hparse ⊢
    split at hparse
    · rename_i hnone
      rw [if_pos hnone]
      obtain ⟨-, rfl⟩ := Prod.mk.inj hparse
      exact ⟨rfl, herror⟩
    · rename_i hsome
      rw [if_neg hsome]
      split at hparse
      · cases hparse
      · rename_i response htry
        rw [htry]
        obtain ⟨-, rfl⟩ := Prod.mk.inj hparse
        exact ⟨rfl, herror⟩
      · cases hparse

/-- Where one ends its read, so does the other. -/
theorem expected_of_true (setting : RpcReaderSetting) (expectedRequestId : UInt32)
    {s s' : RpcRingBufferReadState ρ RpcResponse} (herror : s.error = none)
    (hparse : RpcResponseReadState.parseFromRingBuffer setting s = (true, s')) :
    ∃ s'', ExpectedRpcResponseReadState.parseFromRingBuffer setting expectedRequestId s = (true, s'') ∧
      BothParsed expectedRequestId s' s'' := by
  unfold RpcResponseReadState.parseFromRingBuffer parseMessageFromRingBuffer at hparse
  unfold ExpectedRpcResponseReadState.parseFromRingBuffer
  split at hparse
  · cases hparse
  rename_i hreadable
  rw [if_neg hreadable]
  simp only [] at hparse ⊢
  split at hparse
  · cases hparse
  rename_i hsome
  rw [if_neg hsome]
  split at hparse
  · rename_i e response htry
    rw [htry]
    obtain ⟨-, rfl⟩ := Prod.mk.inj hparse
    exact ⟨_, rfl, .same _ nofun⟩
  · cases hparse
  · rename_i n response hzero htry
    have hn : 0 < n ∧ n ≤ (RingBuffer.content s.ringBuffer).length := by
      have hspec := tryParseResponseMessage_spec (RingBuffer.getReadIovecs_length s.ringBuffer)
        setting.maxMessageSize s.own
      rw [htry, RingBuffer.getReadIovecs_flatten] at hspec
      rcases hp : (responseParser (setting.maxMessageSize + 16).toNat).parse
        (RingBuffer.content s.ringBuffer) with code | _ | ⟨n', a⟩
      all_goals rw [hp] at hspec
      · obtain ⟨text, hout⟩ := hspec
        cases hout
      · have hout : (Except.ok n, response) = (.ok 0, s.own) := hspec
        obtain ⟨hn, -⟩ := Prod.mk.inj hout
        obtain rfl := Except.ok.inj hn
        exact absurd rfl hzero
      · obtain ⟨m, hout, -⟩ := hspec
        obtain ⟨hn, -⟩ := Prod.mk.inj hout
        obtain rfl := Except.ok.inj hn
        exact (FrameParser.consumes _ hp)
    rw [htry]
    obtain ⟨-, rfl⟩ := Prod.mk.inj hparse
    simp only []
    by_cases hid : response.requestId = expectedRequestId
    · rw [if_neg (not_not.mpr hid)]
      exact ⟨_, rfl, .same _ fun _ => hid⟩
    · rw [if_pos hid]
      exact ⟨_, rfl, .mismatched _ s.ringBuffer n hn herror rfl hid⟩

/-- Receive an expected response, in one way and in the other. -/
abbrev recvExpected (setting : RpcReaderSetting) (expectedRequestId : UInt32) (ring : ρ)
    (response : RpcResponse) (w : Wire) : ReadRun ρ RpcResponse :=
  awaitRead (ExpectedRpcResponseReadState.parseFromRingBuffer setting expectedRequestId)
    { ringBuffer := ring, own := response } w

abbrev recvAny (setting : RpcReaderSetting) (ring : ρ) (response : RpcResponse) (w : Wire) :
    ReadRun ρ RpcResponse :=
  awaitRead (RpcResponseReadState.parseFromRingBuffer setting) { ringBuffer := ring, own := response } w

/-- **How the two ways compare.**  They are the same unless the response that was read has another id;
    then they return the same error and have read the same response, but one ring still holds it. -/
theorem recvExpected_cases (setting : RpcReaderSetting) (expectedRequestId : UInt32) (ring : ρ)
    (response : RpcResponse) (w : Wire) :
    let expected := recvExpected setting expectedRequestId ring response w
    let any := recvAny setting ring response w
    expected.result = checkRequestId expectedRequestId any ∧ expected.own = any.own ∧
      expected.wire = any.wire ∧
      if any.result = some (.ok true) ∧ any.own.requestId ≠ expectedRequestId then
        ∃ n, 0 < n ∧ n ≤ (RingBuffer.content expected.ringBuffer).length ∧
          any.ringBuffer = RingBuffer.consume expected.ringBuffer n
      else expected.ringBuffer = any.ringBuffer := by
  intro expected any
  rcases runRead_lockstep (fun _ _ => expected_of_false setting expectedRequestId)
    (fun _ _ => expected_of_true setting expectedRequestId) (w.bytes.length + 2)
    { ringBuffer := ring, own := response } rfl w with
    ⟨hsame, hresult⟩ | ⟨s₁, s₂, w', waits, hboth, hrun, hrun'⟩
  · have hsame : expected = any := hsame
    have hresult : ∀ ready, any.result ≠ some (.ok ready) := hresult
    rw [hsame, if_neg fun h => hresult true h.1]
    refine ⟨?_, rfl, rfl, rfl⟩
    unfold checkRequestId
    split
    · rename_i ready hok
      exact absurd hok (hresult ready)
    · rfl
  · have hany : any = ⟨⟨s₁, some (takeResult s₁.error)⟩, w', waits⟩ := hrun
    have hexpected : expected = ⟨⟨s₂, some (takeResult s₂.error)⟩, w', waits⟩ := hrun'
    rw [hany, hexpected]
    cases hboth with
    | same hid =>
      rcases herror : s₁.error with _ | e
      · have hid := hid herror
        rw [if_neg fun h => h.2 hid]
        refine ⟨?_, rfl, rfl, rfl⟩
        show some (Except.ok true) = if s₁.own.requestId ≠ expectedRequestId then _ else _
        rw [if_neg (not_not.mpr hid)]
      · rw [if_neg fun h => by cases h.1]
        exact ⟨rfl, rfl, rfl, rfl⟩
    | mismatched ring' n hn herror hring hid =>
      rw [herror, if_pos ⟨rfl, hid⟩]
      refine ⟨?_, rfl, rfl, n, hn.1, hn.2, hring⟩
      show some (Except.error mismatchedRequestId) = if s₁.own.requestId ≠ expectedRequestId then _ else _
      rw [if_pos hid]

omit [RingBuffer ρ] in
/-- A read that succeeds has met a frame. -/
theorem ReadEnds.parse_of_ok {M α : Type} {msg : M → α} {p : FrameParser RpcErrorCode α}
    {stream unread : Bytes} {capacity : Nat} {own m : M} {ending : WireEnd}
    {result : Option RpcAwaitableResult}
    (h : ReadEnds msg p stream capacity own ending result m unread)
    (hresult : result = some (.ok true)) :
    ∃ n a, p.parse stream = .ok (some (n, a)) ∧ msg m = a := by
  cases h with
  | read hparse hmsg => exact ⟨_, _, hparse, hmsg⟩
  | refused => cases hresult
  | full => cases hresult
  | ended => exact absurd hresult ending.result_ne_ok

/-- **Which responses a read meets**: the ones in front of the stream that the ring can hold. -/
theorem recvAny_ok_iff (setting : RpcReaderSetting) (ring : ρ) (response : RpcResponse) (w : Wire)
    {n : Nat} {a : ResponseMsg}
    (hparse : (responseParser (setting.maxMessageSize + 16).toNat).parse
      (RingBuffer.content ring ++ w.bytes) = .ok (some (n, a))) :
    (n ≤ RingBuffer.capacity ring → (recvAny setting ring response w).result = some (.ok true) ∧
      (recvAny setting ring response w).own.msg = a) ∧
    ((recvAny setting ring response w).result = some (.ok true) → n ≤ RingBuffer.capacity ring) := by
  have hle := (FrameParser.consumes _ hparse).2
  have hlen : ((RingBuffer.content ring ++ w.bytes).take n).length = n := by
    rw [List.length_take, Nat.min_eq_left hle]
  have hframe : (responseParser (setting.maxMessageSize + 16).toNat).Frame
      ((RingBuffer.content ring ++ w.bytes).take n) a := by
    rw [FrameParser.Frame, FrameParser.exact _ hparse, hlen]
  have hsplit := (List.take_append_drop n (RingBuffer.content ring ++ w.bytes)).symm
  constructor
  · intro hfits
    obtain ⟨hends, -⟩ := awaitRead_ends (response_readsFrames setting)
      (s := { ringBuffer := ring, own := response }) rfl w
    obtain ⟨hresult, hmsg, -⟩ := hends.of_frame hframe hsplit (by rw [hlen]; exact hfits)
    exact ⟨hresult, hmsg⟩
  · intro hok
    by_contra hlong
    have hover := (awaitRead_overlong (response_readsFrames setting)
      (s := { ringBuffer := ring, own := response }) rfl hframe w hsplit
      (by rw [hlen]; exact Nat.lt_of_not_le hlong)).1
    have hboth := hok.symm.trans hover
    cases hboth

/-- The response a read meets, if any, has this id. -/
def MeetsOnly (setting : RpcReaderSetting) (expectedRequestId : UInt32) (ring : ρ) (w : Wire) : Prop :=
  ∀ n a, (responseParser (setting.maxMessageSize + 16).toNat).parse
      (RingBuffer.content ring ++ w.bytes) = .ok (some (n, a)) →
    n ≤ RingBuffer.capacity ring → a.requestId = expectedRequestId

/-- The two ways to receive agree. -/
structure ReceiveAlike (expectedRequestId : UInt32) (expected any : ReadRun ρ RpcResponse) : Prop where
  result : expected.result = checkRequestId expectedRequestId any
  response : expected.own = any.own
  left : RingBuffer.content expected.ringBuffer = RingBuffer.content any.ringBuffer

/-- **When the two ways to receive a response agree**: exactly when the response that is met, if any, has
    the expected id. -/
theorem expected_response_agrees_iff (setting : RpcReaderSetting) (expectedRequestId : UInt32) (ring : ρ)
    (response : RpcResponse) (w : Wire) :
    ReceiveAlike expectedRequestId (recvExpected setting expectedRequestId ring response w)
        (recvAny setting ring response w) ↔
      MeetsOnly setting expectedRequestId ring w := by
  obtain ⟨hresult, hown, -, hring⟩ := recvExpected_cases setting expectedRequestId ring response w
  constructor
  · intro halike n a hparse hfits
    obtain ⟨hok, hmsg⟩ := (recvAny_ok_iff setting ring response w hparse).1 hfits
    by_contra hid
    have hid' : (recvAny setting ring response w).own.requestId ≠ expectedRequestId := by
      rw [← hmsg] at hid
      exact hid
    rw [if_pos ⟨hok, hid'⟩] at hring
    obtain ⟨k, hpos, hle, hconsume⟩ := hring
    have hleft := congrArg List.length halike.left
    rw [hconsume, RingBuffer.content_consume _ _ hle, List.length_drop] at hleft
    omega
  · intro hmeets
    refine ⟨hresult, hown, ?_⟩
    rw [if_neg ?_] at hring
    · rw [hring]
    · rintro ⟨hok, hid⟩
      obtain ⟨hends, -⟩ := awaitRead_ends (response_readsFrames setting)
        (s := { ringBuffer := ring, own := response }) rfl w
      obtain ⟨n, a, hparse, hmsg⟩ := hends.parse_of_ok hok
      have hfits := (recvAny_ok_iff setting ring response w hparse).2 hok
      refine hid ?_
      rw [← hmeets n a hparse hfits, ← hmsg]
      rfl

/-! ## What stays in the ring -/

/-- A parse that ends the read in an error has left the ring alone. -/
theorem expected_ring_of_error {setting : RpcReaderSetting} {expectedRequestId : UInt32}
    {s s' : RpcRingBufferReadState ρ RpcResponse} (herror : s.error = none)
    (hparse : ExpectedRpcResponseReadState.parseFromRingBuffer setting expectedRequestId s = (true, s'))
    (herror' : s'.error ≠ none) : s'.ringBuffer = s.ringBuffer := by
  unfold ExpectedRpcResponseReadState.parseFromRingBuffer at hparse
  split at hparse
  · cases hparse
  simp only [] at hparse
  split at hparse
  · cases hparse
  split at hparse
  · obtain ⟨-, rfl⟩ := Prod.mk.inj hparse
    rfl
  · cases hparse
  · split at hparse
    · obtain ⟨-, rfl⟩ := Prod.mk.inj hparse
      rfl
    · obtain ⟨-, rfl⟩ := Prod.mk.inj hparse
      exact absurd herror herror'

/-- A parse that waits has changed nothing. -/
theorem expected_of_wait {setting : RpcReaderSetting} {expectedRequestId : UInt32}
    {s s' : RpcRingBufferReadState ρ RpcResponse} (herror : s.error = none)
    (hparse : ExpectedRpcResponseReadState.parseFromRingBuffer setting expectedRequestId s =
      (false, s')) : s' = s := by
  rcases hplain : RpcResponseReadState.parseFromRingBuffer setting s with ⟨done, t⟩
  cases done with
  | true =>
    obtain ⟨t', hexpected, -⟩ := expected_of_true setting expectedRequestId herror hplain
    rw [hexpected] at hparse
    cases hparse
  | false =>
    obtain ⟨hexpected, -⟩ := expected_of_false setting expectedRequestId herror hplain
    rw [hexpected] at hparse
    obtain ⟨-, rfl⟩ := Prod.mk.inj hparse
    exact ((response_readsFrames setting).of_false hplain).1

/-- **A read that does not succeed leaves everything it has received in the ring.** -/
theorem recvExpected_unread (setting : RpcReaderSetting) (expectedRequestId : UInt32) (ring : ρ)
    (response : RpcResponse) (w : Wire) :
    let run := recvExpected setting expectedRequestId ring response w
    run.result ≠ some (.ok true) →
      run.unread = RingBuffer.content ring ++ w.bytes ∧
        RingBuffer.capacity run.ringBuffer = RingBuffer.capacity ring := by
  intro run
  have hrule := runRead_rule
    (ExpectedRpcResponseReadState.parseFromRingBuffer setting expectedRequestId)
    (fun s rest => s.error = none ∧
      RingBuffer.content s.ringBuffer ++ rest = RingBuffer.content ring ++ w.bytes ∧
      RingBuffer.capacity s.ringBuffer = RingBuffer.capacity ring) w.ending
    (fun result s rest => result ≠ some (.ok true) →
      RingBuffer.content s.ringBuffer ++ rest = RingBuffer.content ring ++ w.bytes ∧
        RingBuffer.capacity s.ringBuffer = RingBuffer.capacity ring)
    (by
      rintro s s' rest ⟨herror, hI⟩ hparse hresult
      have herror' : s'.error ≠ none := by
        intro hnone
        rw [hnone] at hresult
        exact hresult rfl
      rw [expected_ring_of_error herror hparse herror']
      exact hI)
    (by
      rintro s s' rest ⟨herror, hI⟩ hparse - s'' hring - -
      obtain rfl := expected_of_wait herror hparse
      rw [hring]
      exact hI)
    (by
      rintro s s' ⟨herror, hI⟩ hparse - s'' hring - - -
      obtain rfl := expected_of_wait herror hparse
      rw [hring]
      exact hI)
    (by
      rintro s s' piece rest ⟨herror, hstream, hcapacity⟩ hparse - hlen
      obtain rfl := expected_of_wait herror hparse
      refine ⟨herror, ?_, ?_⟩
      · show RingBuffer.content (RingBuffer.receive s'.ringBuffer piece) ++ rest = _
        rw [RingBuffer.content_receive hlen, List.append_assoc, hstream]
      · show RingBuffer.capacity (RingBuffer.receive s'.ringBuffer piece) = _
        rw [RingBuffer.capacity_receive, hcapacity])
    (w.bytes.length + 2) { ringBuffer := ring, own := response } w (Nat.le_refl _) rfl ⟨rfl, rfl, rfl⟩
  exact hrule.1

/-- **A response with another id stays**: the read ends in the error, and the next one finds everything as
    this one has found it, the response in front. -/
theorem expected_response_stays (setting : RpcReaderSetting) (expectedRequestId : UInt32) (ring : ρ)
    (response : RpcResponse) (w : Wire) {n : Nat} {a : ResponseMsg}
    (hparse : (responseParser (setting.maxMessageSize + 16).toNat).parse
      (RingBuffer.content ring ++ w.bytes) = .ok (some (n, a)))
    (hfits : n ≤ RingBuffer.capacity ring) (hid : a.requestId ≠ expectedRequestId) :
    let run := recvExpected setting expectedRequestId ring response w
    run.result = some (.error mismatchedRequestId) ∧
      run.unread = RingBuffer.content ring ++ w.bytes ∧
      RingBuffer.capacity run.ringBuffer = RingBuffer.capacity ring := by
  intro run
  obtain ⟨hresult, -, -, -⟩ := recvExpected_cases setting expectedRequestId ring response w
  obtain ⟨hok, hmsg⟩ := (recvAny_ok_iff setting ring response w hparse).1 hfits
  have hid' : (recvAny setting ring response w).own.requestId ≠ expectedRequestId := by
    rw [← hmsg] at hid
    exact hid
  have hmismatched : run.result = some (.error mismatchedRequestId) := by
    rw [hresult]
    unfold checkRequestId
    simp only [hok, if_pos hid']
  refine ⟨hmismatched, recvExpected_unread setting expectedRequestId ring response w ?_⟩
  rw [hmismatched]
  exact nofun

/-- The response to request 7 is in the ring, and the one to request 1 is expected. -/
theorem stale_response_met_again :
    ¬ ∀ (setting : RpcReaderSetting) (expectedRequestId : UInt32) (ring : Circular UInt8)
      (response : RpcResponse) (w : Wire),
      ReceiveAlike expectedRequestId (recvExpected setting expectedRequestId ring response w)
        (recvAny setting ring response w) := by
  intro h
  have halike := h {} 1 (RingBuffer.receive (Circular.empty 24 fun _ => (0 : UInt8))
    ({ requestId := 7 } : RpcResponse).serialize) {} ⟨[], .silent, fun _ => 24⟩
  exact absurd halike.left (by decide)

end GalayRpc
