/-
  What `.timeout()` does to the calls that come after.

  A client makes one call after the other.  `.timeout()` gives up on a call whose request is sent and
  whose response has not been read; nothing takes that response off the stream, so the next call meets
  it.  The peer here is the one the client expects (`InOrder`): it answers each request once, in order,
  under its id and mode, with a frame the client can hold.

  1. **Pairing** — a call that returns has taken one frame off the stream and an abandoned one none.  So
     with `lag` abandoned calls in front of it, the `i`-th call reads the answer to call `i - lag`
     (`Paired`, an invariant of every run).

  2. **Consequence** — with no abandoned call in front a call returns its own response; with one it
     returns `INVALID_RESPONSE`, and so does every call after it.
-/
import GalayRpc.Delivery

namespace GalayRpc

variable {ρ : Type} [RingBuffer ρ]

/-! ## Calls one after the other -/

/-- The peer answers the next request that is fully sent, under its id and mode, with a frame that the
    client's reader admits and its ring can hold. -/
structure Answers (setting : RpcReaderSetting) (s : ClientConn ρ) (k : Nat) (answer : Answer) : Prop where
  origin : answer.origin = k
  label : answer.IsFor s.calls
  asked : ∃ c ∈ s.calls[k]?, c.emitted = c.request.serialize
  frame : (Call.parser setting).Frame answer.frame answer.msg
  fits : answer.frame.length ≤ RingBuffer.capacity s.mRingBuffer

instance (setting : RpcReaderSetting) (s : ClientConn ρ) (k : Nat) (answer : Answer) :
    Decidable (Answers setting s k answer) :=
  decidable_of_iff
    (answer.origin = k ∧ answer.IsFor s.calls ∧ (∃ c ∈ s.calls[k]?, c.emitted = c.request.serialize) ∧
      (Call.parser setting).parse answer.frame = .ok (some (answer.frame.length, answer.msg)) ∧
      answer.frame.length ≤ RingBuffer.capacity s.mRingBuffer)
    ⟨fun ⟨h₁, h₂, h₃, h₄, h₅⟩ => ⟨h₁, h₂, h₃, h₄, h₅⟩,
      fun h => ⟨h.origin, h.label, h.asked, h.frame, h.fits⟩⟩

/-- Successive calls whose sends go through on a connection that stays up, abandoned only when the
    request is fully sent, and a peer that answers them in order. -/
def InOrder (setting : RpcReaderSetting) (s : ClientConn ρ) : ClientAction → Prop
  | .call _ => ∀ c ∈ s.calls, c.Over
  | .write _ event => ¬ event.Fails
  | .read _ _ => True
  | .hangUp _ _ => False
  | .finish _ => True
  | .abandon i => ∃ c ∈ s.calls[i]?, c.emitted = c.request.serialize
  | .respond answer => Answers setting s s.answered.length answer

instance (setting : RpcReaderSetting) (s : ClientConn ρ) : (a : ClientAction) →
    Decidable (InOrder setting s a)
  | .call _ => inferInstanceAs (Decidable (∀ c ∈ s.calls, c.Over))
  | .write _ event => inferInstanceAs (Decidable (¬ event.Fails))
  | .read _ _ => .isTrue trivial
  | .hangUp _ _ => .isFalse id
  | .finish _ => .isTrue trivial
  | .abandon i => inferInstanceAs (Decidable (∃ c ∈ s.calls[i]?, c.emitted = c.request.serialize))
  | .respond answer => inferInstanceAs (Decidable (Answers setting s s.answered.length answer))

/-- What a call has returned, or returns if it goes on with what has been sent to it, in any pieces. -/
def Call.outcome (setting : RpcReaderSetting) (s : ClientConn ρ) (sizes : Nat → Nat) (c : Call) :
    Option RpcCallResult :=
  match c.phase with
  | .sending _ => none
  | .returned result => some result
  | .receiving m =>
    let run := awaitRead (RpcResponseReadState.parseFromRingBuffer setting)
      (m.attach s.mRingBuffer).state ⟨s.arriving, .silent, sizes⟩
    match run.result with
    | none => none
    | some (.error e) => some (.error e)
    | some (.ok _) => some (checkResponse c.request run.own)

/-- The abandoned calls in front of the `i`-th. -/
def lag (calls : List Call) (i : Nat) : Nat := (calls.take i).countP fun c => c.abandoned

/-- The calls that have returned. -/
def returnedCount (calls : List Call) : Nat := calls.countP fun c => c.result?.isSome

/-! ## The invariant -/

/-- Every call but the last is over; a call that has returned has returned what it makes of the answer
    that many places behind its own as calls were abandoned in front of it. -/
structure Paired (setting : RpcReaderSetting) (s : ClientConn ρ) : Prop where
  sound : s.Sound
  capacity : 0 < RingBuffer.capacity s.mRingBuffer
  answers : ∀ (k : Nat) (answer : Answer), s.answered[k]? = some answer → Answers setting s k answer
  serial : ∀ (i : Nat) (c : Call), s.calls[i]? = some c → i + 1 < s.calls.length → c.Over
  disjoint : ∀ (i : Nat) (c : Call), s.calls[i]? = some c → c.abandoned = true → c.result? = none
  reading : ∀ (i : Nat) (c : Call), s.calls[i]? = some c → ∀ m, c.phase = .receiving m → m.result = none
  unread : Unread s (returnedCount s.calls)
  returned : ∀ (i : Nat) (c : Call), s.calls[i]? = some c → ∀ result, c.phase = .returned result →
    ∃ answer own, s.answered[i - lag s.calls i]? = some answer ∧ RpcResponse.msg own = answer.msg ∧
      result = checkResponse c.request own

section Lists

variable {calls : List Call} {i : Nat} {c c' : Call}

/-- The last call, and those in front of it. -/
theorem take_concat_of_last (hi : calls[i]? = some c) (hlast : i + 1 = calls.length) :
    calls = calls.take i ++ [c] := by
  have htake : calls.take (i + 1) = calls.take i ++ calls[i]?.toList := List.take_add_one
  rw [hi, hlast, List.take_length] at htake
  exact htake

theorem set_last (hi : calls[i]? = some c) (hlast : i + 1 = calls.length) (c' : Call) :
    calls.set i c' = calls.take i ++ [c'] := by
  have hlen : (calls.take i).length = i := by
    rw [List.length_take]
    omega
  conv_lhs => rw [take_concat_of_last hi hlast]
  rw [List.set_append_right _ _ (by rw [hlen]), hlen, Nat.sub_self]
  rfl

theorem returnedCount_concat (calls : List Call) (c : Call) :
    returnedCount (calls ++ [c]) = returnedCount calls + if c.result?.isSome = true then 1 else 0 := by
  rw [returnedCount, List.countP_append, List.countP_singleton]
  rfl

/-- Every call in front is abandoned or has returned, and not both. -/
theorem returnedCount_add_lag
    (hover : ∀ c ∈ calls.take i, c.Over ∧ (c.abandoned = true → c.result? = none))
    (hi : i ≤ calls.length) : returnedCount (calls.take i) + lag calls i = i := by
  have hsplit := List.length_eq_countP_add_countP (fun c : Call => c.abandoned) (l := calls.take i)
  have hcount : (calls.take i).countP (fun c => decide ¬ c.abandoned = true) =
      returnedCount (calls.take i) := by
    refine List.countP_congr fun c hc => ?_
    obtain ⟨hc, hdisjoint⟩ := hover c hc
    rw [decide_eq_true_iff]
    constructor
    · intro hactive
      exact hc.resolve_left hactive
    · intro hreturned habandoned
      rw [hdisjoint habandoned] at hreturned
      cases hreturned
  rw [hcount, List.length_take, Nat.min_eq_left hi] at hsplit
  rw [lag]
  omega

end Lists

section Invariant

variable {setting : RpcReaderSetting} {s : ClientConn ρ}

/-- A call that is not over is the last one. -/
theorem Paired.last (h : Paired setting s) {i : Nat} {c : Call} (hi : s.calls[i]? = some c)
    (hactive : ¬ c.Over) : i + 1 = s.calls.length := by
  have hlt := (List.getElem?_eq_some_iff.mp hi).1
  by_contra hne
  exact hactive (h.serial i c hi (by omega))

/-- **The count.**  The frames taken off the stream, when the last call has not returned. -/
theorem Paired.returnedCount_eq (h : Paired setting s) {i : Nat} {c : Call} (hi : s.calls[i]? = some c)
    (hactive : ¬ c.Over) : returnedCount s.calls = i - lag s.calls i := by
  have hlast := h.last hi hactive
  have hfront : ∀ c' ∈ s.calls.take i, c'.Over ∧ (c'.abandoned = true → c'.result? = none) := by
    intro c' hc'
    obtain ⟨j, hj⟩ := List.mem_iff_getElem?.mp hc'
    rw [List.getElem?_take] at hj
    split at hj
    · exact ⟨h.serial j c' hj (by omega), h.disjoint j c' hj⟩
    · cases hj
  have hcount := returnedCount_add_lag hfront (by omega)
  have hnone : ¬ c.result?.isSome = true := fun hreturned => hactive (Or.inr hreturned)
  conv_lhs => rw [take_concat_of_last hi hlast]
  rw [returnedCount_concat, if_neg hnone]
  omega

theorem Paired.frames (h : Paired setting s) : AllFrames s := by
  intro answer hanswer
  obtain ⟨k, hk⟩ := List.mem_iff_getElem?.mp hanswer
  exact parseFrame_of_some (h.answers k answer hk).frame

/-- A stream of frames that fit is never refused, and never fills the ring. -/
theorem Paired.front_ok (h : Paired setting s) :
    (∀ code, (Call.parser setting).parse (RingBuffer.content s.mRingBuffer) ≠ .error code) ∧
      ((Call.parser setting).parse (RingBuffer.content s.mRingBuffer) = .ok none →
        RingBuffer.free s.mRingBuffer ≠ 0) := by
  obtain ⟨hk, hstream⟩ := h.unread
  rcases hdrop : s.answered.drop (returnedCount s.calls) with _ | ⟨answer, later⟩
  · rw [hdrop] at hstream
    have hnil := (List.append_eq_nil_iff.mp hstream).1
    rw [RingBuffer.free, hnil]
    constructor
    · intro code hcode
      cases hcode
    · intro _
      exact Nat.pos_iff_ne_zero.mp h.capacity
  have hmem : answer ∈ s.answered := List.mem_of_mem_drop (by rw [hdrop]; exact List.mem_cons_self)
  obtain ⟨k, hk⟩ := List.mem_iff_getElem?.mp hmem
  have hanswer := h.answers k answer hk
  rw [hdrop, List.map_cons, List.flatten_cons] at hstream
  rcases Nat.lt_or_ge (RingBuffer.content s.mRingBuffer).length answer.frame.length with hlt | hge
  · -- the first frame is not complete
    rw [(Call.parser setting).parse_of_lt hanswer.frame hstream hlt]
    have hfree := RingBuffer.free_pos (Nat.lt_of_lt_of_le hlt hanswer.fits)
    constructor
    · intro code hcode
      cases hcode
    · intro _
      exact Nat.ne_of_gt hfree
  · rw [((Call.parser setting).parse_of_le hanswer.frame hstream hge).1]
    constructor
    · intro code hcode
      cases hcode
    · intro hnone
      cases hnone

theorem Answers.keeps {s' : ClientConn ρ} {k : Nat} {answer : Answer} (h : Answers setting s k answer)
    (hkeeps : Keeps s.calls s'.calls)
    (hasked : ∀ c ∈ s.calls[k]?, c.emitted = c.request.serialize →
      ∃ c' ∈ s'.calls[k]?, c'.emitted = c'.request.serialize)
    (hcap : RingBuffer.capacity s'.mRingBuffer = RingBuffer.capacity s.mRingBuffer) :
    Answers setting s' k answer where
  origin := h.origin
  label := h.label.keeps hkeeps
  asked := by
    obtain ⟨c, hc, hsent⟩ := h.asked
    exact hasked c hc hsent
  frame := h.frame
  fits := by rw [hcap]; exact h.fits

/-- **A step of the call at hand**, which is the last one. -/
theorem Paired.set (h : Paired setting s) {i : Nat} {c c' : Call} (hi : s.calls[i]? = some c)
    (hactive : ¬ c.Over) {ring : ρ} {sent arriving : Bytes}
    (hsound : ClientConn.Sound { s with
      calls := s.calls.set i c', mRingBuffer := ring, sent := sent, arriving := arriving })
    (hrequest : c'.request = c.request)
    (hsent : c.emitted = c.request.serialize → c'.emitted = c'.request.serialize)
    (hcap : RingBuffer.capacity ring = RingBuffer.capacity s.mRingBuffer)
    (hdisjoint : c'.abandoned = true → c'.result? = none)
    (hreading : ∀ m, c'.phase = .receiving m → m.result = none)
    (hunread : Unread { s with
        calls := s.calls.set i c', mRingBuffer := ring, sent := sent, arriving := arriving }
      (returnedCount s.calls + if c'.result?.isSome = true then 1 else 0))
    (hreturned : ∀ result, c'.phase = .returned result →
      ∃ answer own, s.answered[i - lag s.calls i]? = some answer ∧ RpcResponse.msg own = answer.msg ∧
        result = checkResponse c'.request own) :
    Paired setting { s with
      calls := s.calls.set i c', mRingBuffer := ring, sent := sent, arriving := arriving } := by
  have hlast := h.last hi hactive
  have hnone : ¬ c.result?.isSome = true := fun hreturned => hactive (Or.inr hreturned)
  -- the calls in front of the last are as they were, so every lag is
  have hlag : ∀ j, j ≤ i → lag (s.calls.set i c') j = lag s.calls j := by
    intro j hj
    rw [lag, lag, List.take_set_of_le hj]
  have hcount : returnedCount (s.calls.set i c') =
      returnedCount s.calls + if c'.result?.isSome = true then 1 else 0 := by
    rw [set_last hi hlast, returnedCount_concat]
    conv_rhs => rw [take_concat_of_last hi hlast, returnedCount_concat, if_neg hnone, Nat.add_zero]
  refine ⟨hsound, ?_, ?_, ?_, forall_getElem?_set h.disjoint hdisjoint,
    forall_getElem?_set h.reading hreading, ?_, ?_⟩
  · show 0 < RingBuffer.capacity ring
    rw [hcap]
    exact h.capacity
  · intro k answer hk
    refine (h.answers k answer hk).keeps (keeps_set hi hrequest) ?_ hcap
    intro ck hck hfull
    refine ⟨_, getElem?_set_of_some hck, ?_⟩
    split
    · rename_i hik
      subst hik
      rw [hi] at hck
      obtain rfl := Option.some.inj hck
      exact hsent hfull
    · exact hfull
  · intro j cj hj hlt
    simp only [List.length_set] at hlt
    have hij : i ≠ j := by omega
    rw [List.getElem?_set_ne hij] at hj
    exact h.serial j cj hj hlt
  · show Unread _ (returnedCount (s.calls.set i c'))
    rw [hcount]
    exact hunread
  · intro j cj hj result hresult
    have hle : j ≤ i := by
      have := (List.getElem?_eq_some_iff.mp hj).1
      rw [List.length_set] at this
      omega
    show ∃ answer own, s.answered[j - lag (s.calls.set i c') j]? = some answer ∧ _
    rw [hlag j hle]
    revert result
    exact forall_getElem?_set h.returned hreturned j cj hj

/-- A call is made when all calls before are over; it stands behind as many abandoned calls as there are. -/
theorem Paired.call (h : Paired setting s) (args : CallArgs) (hover : ∀ c ∈ s.calls, c.Over)
    (hsound : ClientConn.Sound { s with
      mRequestId := s.mRequestId + 1, calls := s.calls ++ [.start s.mRequestId args] }) :
    Paired setting { s with
      mRequestId := s.mRequestId + 1, calls := s.calls ++ [.start s.mRequestId args] } := by
  have hlag : ∀ j, j ≤ s.calls.length → lag (s.calls ++ [Call.start s.mRequestId args]) j = lag s.calls j := by
    intro j hj
    rw [lag, lag, List.take_append_of_le_length hj]
  refine ⟨hsound, h.capacity, ?_, ?_, ?_, ?_, ?_, ?_⟩
  · intro k answer hk
    refine (h.answers k answer hk).keeps (keeps_concat _ _) (fun c hc hfull => ⟨c, ?_, hfull⟩) rfl
    show (s.calls ++ [_])[k]? = some c
    rw [List.getElem?_append_left (List.getElem?_eq_some_iff.mp hc).1]
    exact hc
  · intro j c hj hlt
    simp only [List.length_append, List.length_singleton] at hlt
    rw [List.getElem?_append_left (by omega)] at hj
    exact hover c (List.mem_of_getElem? hj)
  · exact forall_getElem?_concat h.disjoint fun _ => rfl
  · exact forall_getElem?_concat h.reading fun _ hphase => CallPhase.noConfusion hphase
  · show Unread _ (returnedCount (s.calls ++ [Call.start s.mRequestId args]))
    rw [returnedCount_concat]
    exact h.unread
  · intro j c hj result hresult
    rcases Nat.lt_or_ge j s.calls.length with hlt | hge
    · rw [List.getElem?_append_left hlt] at hj
      show ∃ answer own, s.answered[j - lag (s.calls ++ [_]) j]? = some answer ∧ _
      rw [hlag j hlt.le]
      exact h.returned j c hj result hresult
    · -- the new call has not returned
      rw [List.getElem?_append_right hge] at hj
      rw [List.mem_singleton.mp (List.mem_of_getElem? hj)] at hresult
      cases hresult

/-- A `writev` that goes through leaves its call sending, or waiting for the response. -/
theorem Call.Wrote.unread {c c' : Call} {event : WriteEvent} {put : Bytes} (hw : c.Wrote event c' put)
    (hok : ¬ event.Fails) :
    c'.result? = none ∧ ∀ m, c'.phase = .receiving m → m.result = none := by
  obtain ⟨-, ⟨m', hm'⟩ | hm'⟩ := hw.accepts hok
  · refine ⟨by rw [Call.result?, hm'], ?_⟩
    intro m hphase
    rw [hm'] at hphase
    cases hphase
  · refine ⟨by rw [Call.result?, hm'], ?_⟩
    intro m hphase
    rw [hm'] at hphase
    obtain rfl := CallPhase.receiving.inj hphase
    rfl

theorem Paired.write (h : Paired setting s) {i : Nat} {event : WriteEvent} {c c' : Call} {put : Bytes}
    (hi : s.calls[i]? = some c) (hw : c.Wrote event c' put) (hok : ¬ event.Fails)
    (hsound : ClientConn.Sound { s with calls := s.calls.set i c', sent := s.sent ++ put }) :
    Paired setting { s with calls := s.calls.set i c', sent := s.sent ++ put } := by
  obtain ⟨m, hm⟩ := hw.sending
  obtain ⟨hnone, hreading⟩ := hw.unread hok
  refine h.set hi (Call.not_over_of_sending hw.active.1 hm) hsound hw.request
    (fun hfull => absurd hfull hw.unsent) rfl (fun _ => hnone) hreading ?_ ?_
  · rw [hnone]
    exact h.unread
  · intro result hresult
    rw [Call.result_of_phase hresult] at hnone
    cases hnone

/-- **A call returns the frame in front of the stream**, and has no other way to return. -/
theorem Paired.finish (h : Paired setting s) {i : Nat} {c c' : Call} {ring : ρ}
    (hi : s.calls[i]? = some c) (hf : c.finish setting s.mRingBuffer = some (c', ring))
    (hsound : ClientConn.Sound { s with calls := s.calls.set i c', mRingBuffer := ring }) :
    Paired setting { s with calls := s.calls.set i c', mRingBuffer := ring } := by
  have hspec := Call.finish_spec (h.sound.wellSent i c hi) hf
  obtain ⟨hactive, m, hphase, ⟨n, own, hparse, rfl, rfl⟩ | ⟨e, rfl, rfl, hwhy⟩⟩ := hspec
  · obtain ⟨answer, hget, hmsg, hk, hrest⟩ := h.unread.front h.frames hparse
    have hnotOver := Call.not_over_of_receiving hactive hphase
    refine h.set hi hnotOver hsound rfl (fun hfull => hfull) (RingBuffer.capacity_consume _ _) ?_
      (fun _ hphase => CallPhase.noConfusion hphase) ⟨hk, hrest⟩ ?_
    · intro habandoned
      have habandoned : c.abandoned = true := habandoned
      rw [hactive] at habandoned
      cases habandoned
    · intro result hresult
      rw [h.returnedCount_eq hi hnotOver] at hget
      exact ⟨answer, own, hget, hmsg.symm, (CallPhase.returned.inj hresult).symm⟩
  · -- the reader of this connection has no reason to fail
    exfalso
    rcases hwhy with hresult | ⟨code, hcode⟩ | ⟨hnone, hfull⟩
    · rw [h.reading i c hi m hphase] at hresult
      cases hresult
    · exact h.front_ok.1 code hcode
    · exact h.front_ok.2 hnone hfull

theorem Paired.respond (h : Paired setting s) {answer : Answer}
    (hanswer : Answers setting s s.answered.length answer)
    (hsound : ClientConn.Sound { s with
      arriving := s.arriving ++ answer.frame, answered := s.answered ++ [answer] }) :
    Paired setting { s with
      arriving := s.arriving ++ answer.frame, answered := s.answered ++ [answer] } := by
  refine ⟨hsound, h.capacity, ?_, h.serial, h.disjoint, h.reading, h.unread.respond answer, ?_⟩
  · intro k answer' hk
    have hall : ∀ (k : Nat) (answer' : Answer), (s.answered ++ [answer])[k]? = some answer' →
        Answers setting s k answer' :=
      forall_getElem?_concat h.answers hanswer
    exact (hall k answer' hk).keeps (Keeps.refl _) (fun c hc hfull => ⟨c, hc, hfull⟩) rfl
  · intro i c hi result hresult
    obtain ⟨answer', own, hget, hrest⟩ := h.returned i c hi result hresult
    refine ⟨answer', own, ?_, hrest⟩
    show (s.answered ++ [answer])[i - lag s.calls i]? = some answer'
    rw [List.getElem?_append_left (List.getElem?_eq_some_iff.mp hget).1, hget]

/-- **Every step in order keeps the pairing.** -/
theorem Paired.step {s' : ClientConn ρ} {a : ClientAction} (h : Paired setting s)
    (horder : InOrder setting s a) (hstep : s.step setting a = some s') : Paired setting s' := by
  have hsound := h.sound.step hstep
  cases ClientConn.stepped hstep with
  | call args => exact h.call args horder hsound
  | write hi hw => exact h.write hi (Call.write_spec (h.sound.wellSent _ _ hi) hw) horder hsound
  | @read i n c c' ring hpiece hi hr =>
    obtain ⟨hactive, m, m', hphase, rfl, -, hresult', -, hfits, rfl⟩ :=
      Call.read_piece (h.sound.wellSent i c hi) hpiece hr
    refine h.set hi (Call.not_over_of_receiving hactive hphase) hsound rfl (fun hfull => hfull)
      (RingBuffer.capacity_receive _ _) (fun _ => rfl) ?_ (h.unread.receive hfits _)
      (fun _ hresult => CallPhase.noConfusion hresult)
    intro m'' hm''
    obtain rfl := CallPhase.receiving.inj hm''
    exact hresult'
  | hangUp => exact horder.elim
  | finish hi hf => exact h.finish hi hf hsound
  | @abandon i c c' hi ha =>
    obtain ⟨hactive, hphase, rfl⟩ := Call.abandon_spec ha
    have hnone : c.result? = none := by
      rcases hresult : c.result? with _ | result
      · rfl
      · exact absurd (Call.phase_of_result hresult) (hphase result)
    refine h.set hi (Call.not_over hactive hphase) hsound rfl (fun hfull => hfull) rfl (fun _ => hnone)
      (h.reading i c hi) ?_ fun result hresult => absurd hresult (hphase result)
    have hsame : Call.result? { c with abandoned := true } = none := hnone
    rw [hsame]
    exact h.unread
  | respond answer => exact h.respond horder hsound

theorem paired_start (setting : RpcReaderSetting) {ring : ρ} (hempty : RingBuffer.content ring = [])
    (hcap : 0 < RingBuffer.capacity ring) : Paired setting (ClientConn.start ring) where
  sound := ClientConn.sound_start ring
  capacity := hcap
  answers k answer hk := by simp [ClientConn.start] at hk
  serial i c hi := by simp [ClientConn.start] at hi
  disjoint i c hi := by simp [ClientConn.start] at hi
  reading i c hi := by simp [ClientConn.start] at hi
  unread := ⟨Nat.zero_le _, by simp [ClientConn.start, hempty]⟩
  returned i c hi := by simp [ClientConn.start] at hi

/-- **What a call reads.**  The answer `lag` places in front of its own. -/
theorem Paired.outcome_eq (h : Paired setting s) {i : Nat} {c : Call} (hi : s.calls[i]? = some c)
    (hactive : c.abandoned = false) {answer : Answer} (hanswer : s.answered[i]? = some answer)
    (sizes : Nat → Nat) :
    ∃ met own, s.answered[i - lag s.calls i]? = some met ∧ RpcResponse.msg own = met.msg ∧
      c.outcome setting s sizes = some (checkResponse c.request own) := by
  have hc := h.sound.wellSent i c hi
  unfold Call.WellSent at hc
  rcases hphase : c.phase with m | m | result
  · -- the peer does not answer a request that is not fully sent
    exfalso
    rw [hphase] at hc
    obtain ⟨iovecs, -, hnil, hne, hall⟩ := hc
    obtain ⟨c', hc', hfull⟩ := (h.answers i answer hanswer).asked
    rw [hi] at hc'
    obtain rfl := Option.some.inj hc'
    rw [hfull] at hall
    have hpos := flatten_length_pos hnil hne
    rw [List.append_right_eq_self.mp hall] at hpos
    exact Nat.lt_irrefl _ hpos
  · rw [hphase] at hc
    have herror : m.state.error = none := by
      rcases hc.2 with ⟨-, herror⟩ | ⟨e, he⟩
      · exact herror
      · rw [h.reading i c hi m hphase] at he
        cases he
    have hnotOver := Call.not_over_of_receiving hactive hphase
    obtain ⟨-, hstream⟩ := h.unread
    rw [h.returnedCount_eq hi hnotOver] at hstream
    -- the answer in front of the stream is there, since the call's own, further back, is
    obtain ⟨met, hmet⟩ : ∃ met, s.answered[i - lag s.calls i]? = some met := by
      have hlt := (List.getElem?_eq_some_iff.mp hanswer).1
      exact ⟨_, List.getElem?_eq_getElem (Nat.lt_of_le_of_lt (Nat.sub_le _ _) hlt)⟩
    have hframe := h.answers _ met hmet
    have hdrop : s.answered.drop (i - lag s.calls i) =
        met :: s.answered.drop (i - lag s.calls i + 1) := by
      obtain ⟨hlt, rfl⟩ := List.getElem?_eq_some_iff.mp hmet
      exact List.drop_eq_getElem_cons hlt
    rw [hdrop, List.map_cons, List.flatten_cons] at hstream
    obtain ⟨hends, -, -, -⟩ := awaitRead_ends (response_readsFrames setting)
      (s := (m.attach s.mRingBuffer).state) herror ⟨s.arriving, .silent, sizes⟩
    obtain ⟨hresult, hmsg, -⟩ := hends.of_frame hframe.frame hstream hframe.fits
    refine ⟨met, _, hmet, hmsg, ?_⟩
    rw [Call.outcome, hphase]
    simp only [hresult]
  · obtain ⟨met, own, hmet, hmsg, rfl⟩ := h.returned i c hi result hphase
    refine ⟨met, own, hmet, hmsg, ?_⟩
    rw [Call.outcome, hphase]

end Invariant

/-! ## Which calls are poisoned -/

/-- **A call returns its own response exactly when no call was abandoned in front of it.**  In every run in
    order, of a call that is not abandoned and whose response has been sent: with no abandoned call in
    front of it, it returns that response; with one (and ids that have not wrapped around), it returns
    `INVALID_RESPONSE`. -/
theorem own_response_iff_none_abandoned (setting : RpcReaderSetting) {ring : ρ}
    (hempty : RingBuffer.content ring = []) (hcap : 0 < RingBuffer.capacity ring)
    {actions : List ClientAction} {s : ClientConn ρ}
    (hrun : Run (ClientConn.step setting) (InOrder setting) (.start ring) actions s) (i : Nat) (c : Call)
    (hi : s.calls[i]? = some c) (hactive : c.abandoned = false) (answer : Answer)
    (hanswer : s.answered[i]? = some answer) (sizes : Nat → Nat) :
    ((∀ c' ∈ s.calls.take i, c'.abandoned = false) →
      ∃ response, c.outcome setting s sizes = some (.ok (some response)) ∧
        response.msg = answer.msg) ∧
    ((∃ c' ∈ s.calls.take i, c'.abandoned = true) → s.calls.length ≤ 2 ^ 32 →
      c.outcome setting s sizes =
        some (.error (.ofText .invalidResponse "Mismatched response request id"))) := by
  have h : Paired setting s :=
    hrun.invariant (fun _ _ _ h => h.step) (paired_start setting hempty hcap)
  obtain ⟨met, own, hmet, hmsg, houtcome⟩ := h.outcome_eq hi hactive hanswer sizes
  have hlabel := h.answers _ met hmet
  obtain ⟨c₁, hc₁, hid, hmode⟩ := hlabel.label
  rw [hlabel.origin] at hc₁
  have hid' : own.requestId = c₁.request.requestId := by
    rw [← hid, ← hmsg]
    rfl
  have hmode' : own.callMode = c₁.request.callMode := by
    rw [← hmode, ← hmsg]
    rfl
  refine ⟨?_, ?_⟩
  · intro hnone
    have hlag : lag s.calls i = 0 := by
      rw [lag, List.countP_eq_zero]
      intro c' hc' habandoned
      rw [hnone c' hc'] at habandoned
      cases habandoned
    rw [hlag, Nat.sub_zero] at hmet hc₁
    rw [hi] at hc₁
    obtain rfl := Option.some.inj hc₁
    rw [hanswer] at hmet
    obtain rfl := Option.some.inj hmet
    refine ⟨own, ?_, hmsg⟩
    rw [houtcome, checkResponse, if_neg (not_not.mpr hid'), if_neg (not_not.mpr hmode')]
  · rintro ⟨c', hc', habandoned⟩ hfew
    have hlag : 0 < lag s.calls i := List.countP_pos_iff.mpr ⟨c', hc', habandoned⟩
    have hle : lag s.calls i ≤ i := by
      have := List.countP_le_length (p := fun c : Call => c.abandoned) (l := s.calls.take i)
      rw [List.length_take] at this
      exact this.trans (Nat.min_le_left _ _)
    have hlt := (List.getElem?_eq_some_iff.mp hi).1
    -- the answer it meets is to an earlier call
    have hother : own.requestId ≠ c.request.requestId := by
      rw [hid', h.sound.ids _ c₁ hc₁, h.sound.ids i c hi]
      intro heq
      have := UInt32_ofNat_inj (by omega) (by omega) heq
      omega
    rw [houtcome, checkResponse, if_pos hother]

/-- Two calls that are answered; the second is still reading. -/
def answeredRun : List ClientAction :=
  [.call echoArgs, .write 0 (.accept 99), .respond (echoAnswer 0), .read 0 99, .finish 0, .call echoArgs,
    .write 1 (.accept 99), .respond (echoAnswer 1), .read 1 7]

theorem own_response_iff_none_abandoned_echo :
    ∃ (s : ClientConn (Circular UInt8)) (c : Call) (response : RpcResponse),
      runAll (ClientConn.step {}) (InOrder {}) (.start (Circular.empty 40 fun _ => 0)) answeredRun = some s ∧
        s.calls[1]? = some c ∧ c.outcome {} s (fun i => i) = some (.ok (some response)) := by
  have hruns : ((runAll (ClientConn.step {}) (InOrder {})
      (.start (Circular.empty 40 fun _ => (0 : UInt8))) answeredRun).bind fun s =>
        s.calls[1]?.bind fun c => s.answered[1]?.map fun _ =>
          decide (c.abandoned = false ∧ ∀ c' ∈ s.calls.take 1, c'.abandoned = false)) = some true := by
    decide
  obtain ⟨s, hs, hcalls⟩ := Option.bind_eq_some_iff.mp hruns
  obtain ⟨c, hc, hanswered⟩ := Option.bind_eq_some_iff.mp hcalls
  obtain ⟨answer, hanswer, hfacts⟩ := Option.map_eq_some_iff.mp hanswered
  obtain ⟨hactive, hnone⟩ := of_decide_eq_true hfacts
  obtain ⟨response, houtcome, -⟩ := (own_response_iff_none_abandoned {} rfl (by decide)
    (run_iff_runAll.mpr hs) 1 c hc hactive answer hanswer fun i => i).1 hnone
  exact ⟨s, c, response, hs, hc, houtcome⟩

/-- Two calls that are answered; the first has given up when its request was sent. -/
def abandonedRun : List ClientAction :=
  [.call echoArgs, .write 0 (.accept 99), .abandon 0, .respond (echoAnswer 0), .call echoArgs,
    .write 1 (.accept 99), .respond (echoAnswer 1), .read 1 99, .finish 1]

theorem abandoned_response_met :
    ∃ (s : ClientConn (Circular UInt8)) (c : Call),
      Run (ClientConn.step {}) (InOrder {}) (.start (Circular.empty 40 fun _ => 0)) abandonedRun s ∧
        s.calls[1]? = some c ∧ c.abandoned = false ∧ (s.answered[1]?).isSome = true ∧
        c.phase = .returned (.error (.ofText .invalidResponse "Mismatched response request id")) := by
  have hruns : ((runAll (ClientConn.step {}) (InOrder {})
      (.start (Circular.empty 40 fun _ => (0 : UInt8))) abandonedRun).bind fun s =>
        s.calls[1]?.map fun c => decide (c.abandoned = false ∧ (s.answered[1]?).isSome = true ∧
          c.result? = some (.error (.ofText .invalidResponse "Mismatched response request id")))) =
      some true := by
    decide
  obtain ⟨s, hs, hcalls⟩ := Option.bind_eq_some_iff.mp hruns
  obtain ⟨c, hc, hfacts⟩ := Option.map_eq_some_iff.mp hcalls
  obtain ⟨hactive, hanswered, hresult⟩ := of_decide_eq_true hfacts
  exact ⟨s, c, run_iff_runAll.mpr hs, hc, hactive, hanswered, Call.phase_of_result hresult⟩

end GalayRpc
