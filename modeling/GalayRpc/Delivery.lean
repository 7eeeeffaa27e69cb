/-
  Whose response a call returns.

  The calls of a client share one byte stream of responses, and whichever call reads next takes the next
  frame of it.  The peer may send responses late, in any order, several times or not at all; what it is
  held to is `Labels`: a response is a frame that carries the id and mode of a call it answers.

  1. **Stream** — what the ring holds and what is still to arrive is always the frames behind the first
     `k` the peer has sent (`Unread`).  A call that returns a response takes one frame; every other
     step leaves the cut where it is.

  2. **Ids** — calls are numbered by their ids, so below 2^32 calls no two share one.  A call only returns
     a response with its own id, hence one that was labelled as its own.
-/
import GalayRpc.Client

namespace GalayRpc

variable {ρ : Type} [RingBuffer ρ]

/-- An answer carries the id and mode of the call it is for. -/
def Answer.IsFor (calls : List Call) (answer : Answer) : Prop :=
  ∃ c : Call, calls[answer.origin]? = some c ∧ answer.msg.requestId = c.request.requestId ∧
    answer.msg.callMode = c.request.callMode

instance (calls : List Call) (answer : Answer) : Decidable (answer.IsFor calls) :=
  match h : calls[answer.origin]? with
  | none => .isFalse fun ⟨_, hc, _⟩ => by rw [h] at hc; nomatch hc
  | some c =>
    decidable_of_iff
      (answer.msg.requestId = c.request.requestId ∧ answer.msg.callMode = c.request.callMode)
      ⟨fun hc => ⟨c, h, hc⟩, fun ⟨c', hc', hlabel⟩ => by
        rw [h] at hc'
        obtain rfl := Option.some.inj hc'
        exact hlabel⟩

/-- The peer sends frames, and labels each with the id and mode of the call it answers. -/
def Labels (s : ClientConn ρ) : ClientAction → Prop
  | .respond answer =>
    (responseParser protocolLimit).Frame answer.frame answer.msg ∧ answer.IsFor s.calls
  | _ => True

instance (s : ClientConn ρ) : (a : ClientAction) → Decidable (Labels s a)
  | .respond answer =>
    inferInstanceAs (Decidable ((responseParser protocolLimit).parse answer.frame = _ ∧ _))
  | .call _ => .isTrue trivial
  | .write _ _ => .isTrue trivial
  | .read _ _ => .isTrue trivial
  | .hangUp _ _ => .isTrue trivial
  | .finish _ => .isTrue trivial
  | .abandon _ => .isTrue trivial

/-! ## The stream of responses -/

/-- The bytes received and to come are the frames sent, but for the first `k`. -/
def Unread (s : ClientConn ρ) (k : Nat) : Prop :=
  k ≤ s.answered.length ∧
    RingBuffer.content s.mRingBuffer ++ s.arriving = ((s.answered.drop k).map Answer.frame).flatten

/-- Every frame sent is one. -/
def AllFrames (s : ClientConn ρ) : Prop :=
  ∀ answer ∈ s.answered, (responseParser protocolLimit).Frame answer.frame answer.msg

/-- **A response is read off the front of the stream**, whatever the reader's own limit. -/
theorem Unread.front {s : ClientConn ρ} {k : Nat} (h : Unread s k) (hframes : AllFrames s)
    {setting : RpcReaderSetting} {n : Nat} {msg : ResponseMsg}
    (hparse : (Call.parser setting).parse (RingBuffer.content s.mRingBuffer) = .ok (some (n, msg))) :
    ∃ answer, s.answered[k]? = some answer ∧ answer.msg = msg ∧ k + 1 ≤ s.answered.length ∧
      RingBuffer.content (RingBuffer.consume s.mRingBuffer n) ++ s.arriving =
        ((s.answered.drop (k + 1)).map Answer.frame).flatten := by
  obtain ⟨hk, hstream⟩ := h
  obtain ⟨hn, hle⟩ := (Call.parser setting).consumes hparse
  have hall : (responseParser protocolLimit).parse (RingBuffer.content s.mRingBuffer ++ s.arriving) =
      .ok (some (n, msg)) :=
    (responseParser protocolLimit).parse_of_front (parseFrame_of_some hparse)
  rw [hstream] at hall
  rcases hdrop : s.answered.drop k with _ | ⟨answer, later⟩
  · -- nothing was sent that has not been read
    rw [hdrop] at hall
    cases hall
  have hget : s.answered[k]? = some answer := by
    have hzero : (s.answered.drop k)[0]? = s.answered[k + 0]? := List.getElem?_drop
    rw [hdrop] at hzero
    exact hzero.symm
  have hlater : s.answered.drop (k + 1) = later := by
    rw [← List.drop_drop, hdrop]
    rfl
  rw [hdrop, List.map_cons, List.flatten_cons] at hall hstream
  have hframe := hframes answer (List.mem_of_getElem? hget)
  rw [(responseParser protocolLimit).frame_append hframe] at hall
  obtain ⟨rfl, rfl⟩ := Prod.mk.inj (Option.some.inj (Except.ok.inj hall))
  refine ⟨answer, hget, rfl, (List.getElem?_eq_some_iff.mp hget).1, ?_⟩
  rw [RingBuffer.content_consume _ _ hle, hlater]
  have htail := congrArg (List.drop answer.frame.length) hstream
  rwa [List.drop_append_of_le_length hle, List.drop_left] at htail

/-- A piece moves from the wire to the ring. -/
theorem Unread.receive {s : ClientConn ρ} {k n : Nat} (h : Unread s k)
    (hfits : (s.arriving.take n).length ≤ RingBuffer.free s.mRingBuffer) (calls : List Call) :
    Unread { s with
      calls := calls
      mRingBuffer := RingBuffer.receive s.mRingBuffer (s.arriving.take n)
      arriving := s.arriving.drop n } k := by
  refine ⟨h.1, ?_⟩
  show RingBuffer.content (RingBuffer.receive _ _) ++ s.arriving.drop n = _
  rw [RingBuffer.content_receive hfits, List.append_assoc, List.take_append_drop]
  exact h.2

/-- The peer sends another frame. -/
theorem Unread.respond {s : ClientConn ρ} {k : Nat} (h : Unread s k) (answer : Answer) :
    Unread { s with arriving := s.arriving ++ answer.frame, answered := s.answered ++ [answer] } k := by
  refine ⟨?_, ?_⟩
  · show k ≤ (s.answered ++ [answer]).length
    rw [List.length_append]
    exact Nat.le_add_right_of_le h.1
  · show RingBuffer.content s.mRingBuffer ++ (s.arriving ++ answer.frame) = _
    rw [← List.append_assoc, h.2, List.drop_append_of_le_length h.1, List.map_append, List.flatten_append]
    simp

/-! ## Ids -/

/-- Later lists of calls have the same requests in the same places. -/
def Keeps (calls calls' : List Call) : Prop :=
  ∀ (j : Nat) (c : Call), calls[j]? = some c → ∃ c' : Call, calls'[j]? = some c' ∧ c'.request = c.request

theorem Keeps.refl (calls : List Call) : Keeps calls calls := fun _ c hj => ⟨c, hj, rfl⟩

theorem keeps_concat (calls : List Call) (c' : Call) : Keeps calls (calls ++ [c']) := by
  intro j c hj
  have hlt := (List.getElem?_eq_some_iff.mp hj).1
  exact ⟨c, by rw [List.getElem?_append_left hlt, hj], rfl⟩

theorem keeps_set {calls : List Call} {i : Nat} {c c' : Call} (hi : calls[i]? = some c)
    (hrequest : c'.request = c.request) : Keeps calls (calls.set i c') := by
  intro j cj hj
  refine ⟨_, getElem?_set_of_some hj, ?_⟩
  split
  · rename_i hij
    subst hij
    rw [hi] at hj
    obtain rfl := Option.some.inj hj
    exact hrequest
  · rfl

theorem Answer.IsFor.keeps {calls calls' : List Call} {answer : Answer} (h : answer.IsFor calls)
    (hcalls : Keeps calls calls') : answer.IsFor calls' := by
  obtain ⟨c, hc, hid, hmode⟩ := h
  obtain ⟨c', hc', hrequest⟩ := hcalls _ c hc
  exact ⟨c', hc', by rw [hrequest]; exact hid, by rw [hrequest]; exact hmode⟩

theorem UInt32_ofNat_inj {i j : Nat} (hi : i < 2 ^ 32) (hj : j < 2 ^ 32)
    (h : UInt32.ofNat i = UInt32.ofNat j) : i = j := by
  have hnat := congrArg UInt32.toNat h
  rwa [UInt32.toNat_ofNat_of_lt' hi, UInt32.toNat_ofNat_of_lt' hj] at hnat

/-- A call returns what it read, and only if id and mode are its own. -/
theorem checkResponse_eq_ok {request : RpcRequest} {own response : RpcResponse}
    (h : checkResponse request own = .ok (some response)) :
    own = response ∧ response.requestId = request.requestId ∧ response.callMode = request.callMode := by
  unfold checkResponse at h
  split at h
  · cases h
  · rename_i hid
    split at h
    · cases h
    · rename_i hmode
      obtain rfl := Option.some.inj (Except.ok.inj h)
      exact ⟨rfl, not_not.mp hid, not_not.mp hmode⟩

/-! ## The invariant -/

/-- What a call that has returned a response returned: an answer of the peer's with its own label. -/
def Call.ReturnedOwn (answered : List Answer) (c : Call) : Prop :=
  ∀ response, c.phase = .returned (.ok (some response)) →
    response.requestId = c.request.requestId ∧ response.callMode = c.request.callMode ∧
      ∃ answer ∈ answered, answer.msg = response.msg

structure Delivering (s : ClientConn ρ) : Prop where
  sound : s.Sound
  frames : AllFrames s
  labels : ∀ answer ∈ s.answered, answer.IsFor s.calls
  unread : ∃ k, Unread s k
  returned : ∀ (i : Nat) (c : Call), s.calls[i]? = some c → c.ReturnedOwn s.answered

theorem delivering_start {ring : ρ} (hempty : RingBuffer.content ring = []) :
    Delivering (ClientConn.start ring) where
  sound := ClientConn.sound_start ring
  frames := nofun
  labels := nofun
  unread := ⟨0, Nat.le_refl _, by simp [ClientConn.start, hempty]⟩
  returned i c hi := by simp [ClientConn.start] at hi

/-- Changing one call, when the stream is still cut at a frame. -/
theorem Delivering.set {s : ClientConn ρ} (h : Delivering s) {i : Nat} {c c' : Call} {ring : ρ}
    {sent arriving : Bytes} (hi : s.calls[i]? = some c) (hrequest : c'.request = c.request)
    (hsound : ClientConn.Sound { s with
      calls := s.calls.set i c', mRingBuffer := ring, sent := sent, arriving := arriving })
    (hunread : ∃ k, Unread { s with
      calls := s.calls.set i c', mRingBuffer := ring, sent := sent, arriving := arriving } k)
    (hreturned : c'.ReturnedOwn s.answered) :
    Delivering { s with
      calls := s.calls.set i c', mRingBuffer := ring, sent := sent, arriving := arriving } where
  sound := hsound
  frames := h.frames
  labels answer hanswer := (h.labels answer hanswer).keeps (keeps_set hi hrequest)
  unread := hunread
  returned := forall_getElem?_set h.returned hreturned

/-- **Every step of a connection with a labelling peer keeps the invariant.** -/
theorem Delivering.step {setting : RpcReaderSetting} {s s' : ClientConn ρ} {a : ClientAction}
    (h : Delivering s) (hlabels : Labels s a) (hstep : s.step setting a = some s') : Delivering s' := by
  have hsound := h.sound.step hstep
  obtain ⟨k, hk⟩ := h.unread
  cases ClientConn.stepped hstep with
  | call args =>
    exact ⟨hsound, h.frames, fun answer hanswer => (h.labels answer hanswer).keeps (keeps_concat _ _),
      ⟨k, hk⟩, forall_getElem?_concat h.returned nofun⟩
  | @write i event c c' put hi hw =>
    have hwrote := Call.write_spec (h.sound.wellSent _ _ hi) hw
    exact h.set hi hwrote.request hsound ⟨k, hk⟩ fun response hphase =>
      absurd hphase (hwrote.no_response response)
  | read hpiece hi hr =>
    obtain ⟨-, m, m', -, rfl, -, -, -, hfits, rfl⟩ :=
      Call.read_piece (h.sound.wellSent _ _ hi) hpiece hr
    exact h.set hi rfl hsound ⟨k, hk.receive hfits _⟩ nofun
  | hangUp hevent hi hr =>
    obtain ⟨-, m, m', e, -, rfl, -, rfl⟩ := Call.read_end (h.sound.wellSent _ _ hi) hevent hr
    exact h.set hi rfl hsound ⟨k, hk⟩ nofun
  | finish hi hf =>
    obtain ⟨-, m, -, ⟨n, own, hparse, rfl, rfl⟩ | ⟨e, rfl, rfl, -⟩⟩ :=
      Call.finish_spec (h.sound.wellSent _ _ hi) hf
    · -- a frame is taken off the stream
      obtain ⟨answer, hget, hmsg, hk', hrest⟩ := hk.front h.frames hparse
      refine h.set hi rfl hsound ⟨k + 1, hk', hrest⟩ ?_
      intro response hphase
      obtain ⟨rfl, hid, hmode⟩ := checkResponse_eq_ok (CallPhase.returned.inj hphase)
      exact ⟨hid, hmode, answer, List.mem_of_getElem? hget, hmsg⟩
    · exact h.set hi rfl hsound ⟨k, hk⟩ nofun
  | @abandon i c c' hi ha =>
    obtain ⟨-, hactive, rfl⟩ := Call.abandon_spec ha
    exact h.set hi rfl hsound ⟨k, hk⟩ fun response hphase => absurd hphase (hactive _)
  | respond answer =>
    obtain ⟨hframe, hfor⟩ := hlabels
    refine ⟨hsound, forall_mem_concat h.frames hframe, forall_mem_concat h.labels hfor,
      ⟨k, hk.respond answer⟩, ?_⟩
    intro i c hi response hphase
    obtain ⟨hid, hmode, answer', hmem, hmsg⟩ := h.returned i c hi response hphase
    exact ⟨hid, hmode, answer', List.mem_append_left _ hmem, hmsg⟩

/-- Below 2^32 calls, the answer a call returned is one to itself. -/
theorem Delivering.own_response {s : ClientConn ρ} (hs : Delivering s) (hfew : s.calls.length < 2 ^ 32)
    {i : Nat} {c : Call} (hi : s.calls[i]? = some c) {response : RpcResponse}
    (hreturned : c.phase = .returned (.ok (some response))) :
    response.requestId = c.request.requestId ∧ response.callMode = c.request.callMode ∧
      ∃ answer ∈ s.answered, answer.origin = i ∧ answer.msg = response.msg := by
  obtain ⟨hid, hmode, answer, hmem, hmsg⟩ := hs.returned i c hi response hreturned
  refine ⟨hid, hmode, answer, hmem, ?_, hmsg⟩
  obtain ⟨c', hc', hid', -⟩ := hs.labels answer hmem
  have hlt := (List.getElem?_eq_some_iff.mp hi).1
  have hlt' := (List.getElem?_eq_some_iff.mp hc').1
  refine UInt32_ofNat_inj (by omega) (by omega) ?_
  calc UInt32.ofNat answer.origin = c'.request.requestId := (hs.sound.ids _ c' hc').symm
    _ = response.msg.requestId := by rw [← hid', hmsg]
    _ = c.request.requestId := hid
    _ = UInt32.ofNat i := hs.sound.ids i c hi

/-- **No cross-delivery.**  In every run of fewer than 2^32 calls against a peer that labels what it sends,
    a call that returns a response returns one that was computed from its own request, with its own id
    and mode. -/
theorem no_cross_delivery (setting : RpcReaderSetting) {ring : ρ}
    (hempty : RingBuffer.content ring = []) {actions : List ClientAction} {s : ClientConn ρ}
    (hrun : Run (ClientConn.step setting) Labels (.start ring) actions s)
    (hfew : s.calls.length < 2 ^ 32) (i : Nat) (c : Call) (hi : s.calls[i]? = some c)
    (response : RpcResponse) (hreturned : c.phase = .returned (.ok (some response))) :
    response.requestId = c.request.requestId ∧ response.callMode = c.request.callMode ∧
      ∃ answer ∈ s.answered, answer.origin = i ∧ answer.msg = response.msg := by
  have hs : Delivering s := hrun.invariant (fun _ _ _ h => h.step) (delivering_start hempty)
  exact hs.own_response hfew hi hreturned

/-- Two calls at once: the first gives up, the peer answers the second, twice. -/
def lateRun : List ClientAction :=
  [.call echoArgs, .call echoArgs, .write 1 (.accept 99), .write 0 (.accept 99), .abandon 0,
    .respond (echoAnswer 1), .respond (echoAnswer 1), .read 1 7, .read 1 20, .finish 1]

theorem no_cross_delivery_late :
    ∃ (s : ClientConn (Circular UInt8)) (c : Call) (response : RpcResponse),
      runAll (ClientConn.step {}) Labels (.start (Circular.empty 40 fun _ => 0)) lateRun = some s ∧
        s.calls[1]? = some c ∧ c.phase = .returned (.ok (some response)) ∧
        (response.requestId = c.request.requestId ∧ response.callMode = c.request.callMode ∧
          ∃ answer ∈ s.answered, answer.origin = 1 ∧ answer.msg = response.msg) := by
  have hruns : ((runAll (ClientConn.step {}) Labels
      (.start (Circular.empty 40 fun _ => (0 : UInt8))) lateRun).bind fun s =>
        if s.calls.length < 2 ^ 32 then s.calls[1]?.bind Call.result? else none) =
      some (.ok (some { requestId := 1, store := .setView ⟨[0x68, 0x69], []⟩ })) := by
    decide
  obtain ⟨s, hs, hcalls⟩ := Option.bind_eq_some_iff.mp hruns
  split at hcalls
  · rename_i hfew
    obtain ⟨c, hc, hresult⟩ := Option.bind_eq_some_iff.mp hcalls
    have hphase := Call.phase_of_result hresult
    exact ⟨s, c, _, hs, hc, hphase,
      no_cross_delivery {} rfl (run_iff_runAll.mpr hs) hfew 1 c hc _ hphase⟩
  · cases hcalls

end GalayRpc
