/-
  What the calls of a client put on their connection.

  A `writev` may take any part of a request, and a send may end anywhere: the kernel refuses the rest, or
  `.timeout()` gives up on the call.  The client then returns the error and keeps the connection; the
  next call writes its request behind whatever is there.

  1. **Order** — `FramesInOrder`: the connection carries whole request frames, one of each of some calls,
     and behind them at most one incomplete one.

  2. **Condition** — `Clear`: a call puts its first byte on the connection only while no other call's
     frame is half sent; a first `writev` that fails puts none, so it is clear anywhere.  Nothing in the
     client makes it so, and a run in which a send fails inside its frame and another call follows
     breaks the order (`half_sent_overrun`).

  3. **Invariant** — `Ordered`: at most one call is half sent, its part is what stands at the end, and
     the frames in front are those of the calls that are fully sent.
-/
import GalayRpc.Client

namespace GalayRpc

variable {ρ : Type} [RingBuffer ρ]

/-! ## Order on the wire -/

/-- The request frame of the `i`-th call. -/
def frameOf (calls : List Call) (i : Nat) : Bytes :=
  match calls[i]? with
  | some c => c.request.serialize
  | none => []

/-- The bytes on the connection are frames of calls, each at most once, and behind them at most one
    incomplete frame of another. -/
def FramesInOrder (s : ClientConn ρ) : Prop :=
  ∃ (done : List Nat) (part : Bytes), done.Nodup ∧ (∀ i ∈ done, i < s.calls.length) ∧
    s.sent = (done.map (frameOf s.calls)).flatten ++ part ∧
    (part = [] ∨ ∃ i < s.calls.length, i ∉ done ∧ part <+: frameOf s.calls i ∧
      part ≠ frameOf s.calls i)

namespace Call

/-- Part of the request is on the connection. -/
def HalfSent (c : Call) : Prop := c.emitted ≠ [] ∧ c.emitted ≠ c.request.serialize

instance (c : Call) : Decidable c.HalfSent := inferInstanceAs (Decidable (_ ∧ _))

end Call

/-- A call puts its first byte only while no other call is half sent.  A `writev` that fails, or takes
    nothing, puts no byte. -/
def Clear (s : ClientConn ρ) : ClientAction → Prop
  | .write i event =>
    ∀ c ∈ s.calls[i]?, ¬ event.Fails → c.emitted = [] → ∀ c' ∈ s.calls, ¬ c'.HalfSent
  | _ => True

instance (s : ClientConn ρ) : (a : ClientAction) → Decidable (Clear s a)
  | .write i event => inferInstanceAs (Decidable
      (∀ c ∈ s.calls[i]?, ¬ event.Fails → c.emitted = [] → ∀ c' ∈ s.calls, ¬ c'.HalfSent))
  | .call _ => .isTrue trivial
  | .read _ _ => .isTrue trivial
  | .hangUp _ _ => .isTrue trivial
  | .finish _ => .isTrue trivial
  | .abandon _ => .isTrue trivial
  | .respond _ => .isTrue trivial

/-! ## The invariant -/

theorem frameOf_of_some {calls : List Call} {i : Nat} {c : Call} (h : calls[i]? = some c) :
    frameOf calls i = c.request.serialize := by
  rw [frameOf, h]

theorem RpcRequest.serialize_ne_nil (r : RpcRequest) : r.serialize ≠ [] := by
  apply List.ne_nil_of_length_pos
  rw [RpcRequest.serialize, List.length_append, RpcHeader.serialize_length]
  exact Nat.lt_of_lt_of_le (by decide) (Nat.le_add_right _ _)

/-- Everything but one call's part is frames: `done` are the calls that are fully sent, in order. -/
structure Ordered (s : ClientConn ρ) (done : List Nat) (part : Bytes) : Prop where
  nodup : done.Nodup
  full : ∀ i, i ∈ done ↔ ∃ c : Call, s.calls[i]? = some c ∧ c.emitted = c.request.serialize
  sent : s.sent = (done.map (frameOf s.calls)).flatten ++ part
  half : (part = [] ∧ ∀ (j : Nat) (c : Call), s.calls[j]? = some c → ¬ c.HalfSent) ∨
    ∃ (i : Nat) (c : Call), s.calls[i]? = some c ∧ c.HalfSent ∧ part = c.emitted ∧
      ∀ (j : Nat) (c' : Call), s.calls[j]? = some c' → c'.HalfSent → j = i

omit [RingBuffer ρ] in
theorem Ordered.framesInOrder {s : ClientConn ρ} {done : List Nat} {part : Bytes}
    (h : Ordered s done part) (hsound : s.Sound) : FramesInOrder s := by
  refine ⟨done, part, h.nodup, ?_, h.sent, ?_⟩
  · intro i hi
    obtain ⟨c, hc, -⟩ := (h.full i).mp hi
    exact (List.getElem?_eq_some_iff.mp hc).1
  · rcases h.half with ⟨hnil, -⟩ | ⟨i, c, hi, hhalf, rfl, -⟩
    · exact Or.inl hnil
    · refine Or.inr ⟨i, (List.getElem?_eq_some_iff.mp hi).1, ?_, ?_, ?_⟩
      · intro hmem
        obtain ⟨c', hc', hfull⟩ := (h.full i).mp hmem
        rw [hi] at hc'
        obtain rfl := Option.some.inj hc'
        exact hhalf.2 hfull
      · rw [frameOf_of_some hi]
        exact (hsound.wellSent i c hi).emitted_front
      · rw [frameOf_of_some hi]
        exact hhalf.2

/-- The calls of the one list stand in the other with the same request, and have sent the same. -/
def SameSent (calls calls' : List Call) : Prop :=
  ∀ (j : Nat) (c : Call), calls[j]? = some c →
    ∃ c' : Call, calls'[j]? = some c' ∧ c'.request = c.request ∧ c'.emitted = c.emitted

theorem sameSent_set {calls : List Call} {i : Nat} {c c' : Call} (hi : calls[i]? = some c)
    (hrequest : c'.request = c.request) (hemitted : c'.emitted = c.emitted) :
    SameSent calls (calls.set i c') := by
  intro j cj hj
  refine ⟨_, getElem?_set_of_some hj, ?_⟩
  split
  · rename_i hij
    subst hij
    rw [hi] at hj
    obtain rfl := Option.some.inj hj
    exact ⟨hrequest, hemitted⟩
  · exact ⟨rfl, rfl⟩

/-- Undoing the change of a call. -/
theorem set_set_of_some {calls : List Call} {i : Nat} {c c' : Call} (hi : calls[i]? = some c) :
    (calls.set i c').set i c = calls := by
  obtain ⟨hlt, rfl⟩ := List.getElem?_eq_some_iff.mp hi
  rw [List.set_set, List.set_getElem_self]

theorem sameSent_of_set {calls : List Call} {i : Nat} {c c' : Call} (hi : calls[i]? = some c)
    (hrequest : c'.request = c.request) (hemitted : c'.emitted = c.emitted) :
    SameSent (calls.set i c') calls := by
  have hi' : (calls.set i c')[i]? = some c' := by
    rw [getElem?_set_of_some hi, if_pos rfl]
  have hback := sameSent_set hi' hrequest.symm hemitted.symm
  rw [set_set_of_some hi] at hback
  exact hback

/-- Frames stay what they are when the calls keep their requests. -/
theorem map_frameOf {calls calls' : List Call} {done : List Nat}
    (h : ∀ i ∈ done, ∃ c c' : Call, calls[i]? = some c ∧ calls'[i]? = some c' ∧ c'.request = c.request) :
    done.map (frameOf calls') = done.map (frameOf calls) := by
  refine List.map_congr_left fun i hi => ?_
  obtain ⟨c, c', hc, hc', hrequest⟩ := h i hi
  rw [frameOf_of_some hc, frameOf_of_some hc', hrequest]

theorem Call.HalfSent.congr {c c' : Call} (h : c.HalfSent) (hrequest : c'.request = c.request)
    (hemitted : c'.emitted = c.emitted) : c'.HalfSent := by
  unfold HalfSent
  rw [hrequest, hemitted]
  exact h

omit [RingBuffer ρ] in
/-- The order only depends on what each call has sent. -/
theorem Ordered.congr {s s' : ClientConn ρ} {done : List Nat} {part : Bytes} (h : Ordered s done part)
    (hforth : SameSent s.calls s'.calls) (hback : SameSent s'.calls s.calls) (hsent : s'.sent = s.sent) :
    Ordered s' done part := by
  refine ⟨h.nodup, ?_, ?_, ?_⟩
  · intro j
    rw [h.full j]
    constructor
    · rintro ⟨c, hj, hfull⟩
      obtain ⟨c', hj', hrequest, hemitted⟩ := hforth j c hj
      exact ⟨c', hj', by rw [hrequest, hemitted]; exact hfull⟩
    · rintro ⟨c, hj, hfull⟩
      obtain ⟨c', hj', hrequest, hemitted⟩ := hback j c hj
      exact ⟨c', hj', by rw [hrequest, hemitted]; exact hfull⟩
  · have hframes : done.map (frameOf s'.calls) = done.map (frameOf s.calls) := by
      refine map_frameOf fun j hj => ?_
      obtain ⟨c, hc, -⟩ := (h.full j).mp hj
      obtain ⟨c', hc', hrequest, -⟩ := hforth j c hc
      exact ⟨c, c', hc, hc', hrequest⟩
    rw [hsent, hframes]
    exact h.sent
  · rcases h.half with ⟨hnil, hnone⟩ | ⟨i, c, hi, hhalf, hpart, hone⟩
    · refine Or.inl ⟨hnil, ?_⟩
      intro j c hj hhalf
      obtain ⟨c', hj', hrequest, hemitted⟩ := hback j c hj
      exact hnone j c' hj' (hhalf.congr hrequest hemitted)
    · obtain ⟨c', hi', hrequest, hemitted⟩ := hforth i c hi
      refine Or.inr ⟨i, c', hi', hhalf.congr hrequest hemitted, hpart.trans hemitted.symm, ?_⟩
      intro j cj hj hjhalf
      obtain ⟨cj', hj', hrequest', hemitted'⟩ := hback j cj hj
      exact hone j cj' hj' (hjhalf.congr hrequest' hemitted')

omit [RingBuffer ρ] in
/-- A call that may write is the one whose part stands at the end. -/
theorem Ordered.part_eq {s : ClientConn ρ} {done : List Nat} {part : Bytes} (h : Ordered s done part)
    {i : Nat} {c : Call} (hi : s.calls[i]? = some c) (hunsent : c.emitted ≠ c.request.serialize)
    (hclear : c.emitted = [] → ∀ c' ∈ s.calls, ¬ c'.HalfSent) :
    part = c.emitted ∧ ∀ (j : Nat) (c' : Call), s.calls[j]? = some c' → j ≠ i → ¬ c'.HalfSent := by
  by_cases hnil : c.emitted = []
  · -- its first bytes: the condition rules out a half-sent call
    rcases h.half with ⟨hpart, hnone⟩ | ⟨j, cj, hj, hjhalf, -⟩
    · exact ⟨hpart.trans hnil.symm, fun j c' hj _ => hnone j c' hj⟩
    · exact absurd hjhalf (hclear hnil cj (List.mem_of_getElem? hj))
  · -- it goes on with its frame, so the half-sent call is itself
    have hhalf : c.HalfSent := ⟨hnil, hunsent⟩
    rcases h.half with ⟨-, hnone⟩ | ⟨j, cj, hj, -, hpart, hone⟩
    · exact absurd hhalf (hnone i c hi)
    · obtain rfl := hone i c hi hhalf
      rw [hi] at hj
      obtain rfl := Option.some.inj hj
      exact ⟨hpart, fun j c' hj hne hjhalf => hne (hone j c' hj hjhalf)⟩

section Write

variable {s : ClientConn ρ} {done : List Nat} {part : Bytes} {i : Nat} {c c' : Call}
  {event : WriteEvent} {put : Bytes}

omit [RingBuffer ρ] in
/-- A `writev` puts the bytes of its call behind the frames and the part that stands there. -/
theorem Ordered.sent_write (h : Ordered s done c.emitted) (hi : s.calls[i]? = some c)
    (hw : c.Wrote event c' put) :
    s.sent ++ put = (done.map (frameOf (s.calls.set i c'))).flatten ++ c'.emitted := by
  have hframes : done.map (frameOf (s.calls.set i c')) = done.map (frameOf s.calls) := by
    refine map_frameOf fun j hj => ?_
    obtain ⟨cj, hcj, -⟩ := (h.full j).mp hj
    refine ⟨cj, _, hcj, getElem?_set_of_some hcj, ?_⟩
    split
    · rename_i hij
      subst hij
      rw [hi] at hcj
      obtain rfl := Option.some.inj hcj
      exact hw.request
    · rfl
  rw [hframes, h.sent, hw.emitted, List.append_assoc]

omit [RingBuffer ρ] in
/-- A `writev` that completes the frame. -/
theorem Ordered.write_full (h : Ordered s done c.emitted) (hi : s.calls[i]? = some c)
    (hw : c.Wrote event c' put) (hfresh : i ∉ done)
    (hothers : ∀ (j : Nat) (cj : Call), s.calls[j]? = some cj → j ≠ i → ¬ cj.HalfSent)
    (hfull : c'.emitted = c'.request.serialize) :
    Ordered { s with calls := s.calls.set i c', sent := s.sent ++ put } (done ++ [i]) [] := by
  have hself : (s.calls.set i c')[i]? = some c' := by
    rw [getElem?_set_of_some hi, if_pos rfl]
  refine ⟨?_, ?_, ?_, Or.inl ⟨rfl, ?_⟩⟩
  · refine List.nodup_append.mpr ⟨h.nodup, List.nodup_singleton i, ?_⟩
    rintro j hj k hk rfl
    rw [List.mem_singleton.mp hk] at hj
    exact hfresh hj
  · intro j
    show _ ↔ ∃ cj : Call, (s.calls.set i c')[j]? = some cj ∧ _
    rw [List.mem_append, List.mem_singleton]
    by_cases hj : i = j
    · subst hj
      exact ⟨fun _ => ⟨c', hself, hfull⟩, fun _ => Or.inr rfl⟩
    · rw [List.getElem?_set_ne hj, ← h.full j]
      constructor
      · rintro (hmem | hji)
        · exact hmem
        · exact absurd hji.symm hj
      · exact Or.inl
  · show s.sent ++ put = ((done ++ [i]).map (frameOf (s.calls.set i c'))).flatten ++ []
    rw [h.sent_write hi hw, hfull, List.map_append, List.flatten_append, List.append_nil]
    show _ = _ ++ ([frameOf (s.calls.set i c') i]).flatten
    rw [frameOf_of_some hself, List.flatten_singleton]
  · intro j cj hcj
    by_cases hj : i = j
    · subst hj
      obtain rfl := Option.some.inj (hself.symm.trans hcj)
      exact fun hhalf => hhalf.2 hfull
    · have hcj' : s.calls[j]? = some cj := by
        rw [← List.getElem?_set_ne hj]
        exact hcj
      exact hothers j cj hcj' fun h => hj h.symm

omit [RingBuffer ρ] in
/-- A `writev` that leaves the frame incomplete. -/
theorem Ordered.write_part (h : Ordered s done c.emitted) (hi : s.calls[i]? = some c)
    (hw : c.Wrote event c' put) (hfresh : i ∉ done)
    (hothers : ∀ (j : Nat) (cj : Call), s.calls[j]? = some cj → j ≠ i → ¬ cj.HalfSent)
    (hpart : c'.emitted ≠ c'.request.serialize) :
    Ordered { s with calls := s.calls.set i c', sent := s.sent ++ put } done c'.emitted := by
  have hself : (s.calls.set i c')[i]? = some c' := by
    rw [getElem?_set_of_some hi, if_pos rfl]
  have hnone : ∀ (j : Nat) (cj : Call), (s.calls.set i c')[j]? = some cj → j ≠ i → ¬ cj.HalfSent := by
    intro j cj hcj hj
    rw [List.getElem?_set_ne fun h => hj h.symm] at hcj
    exact hothers j cj hcj hj
  refine ⟨h.nodup, ?_, h.sent_write hi hw, ?_⟩
  · intro j
    show _ ↔ ∃ cj : Call, (s.calls.set i c')[j]? = some cj ∧ _
    by_cases hj : i = j
    · subst hj
      constructor
      · exact fun hmem => absurd hmem hfresh
      · rintro ⟨cj, hcj, hfull⟩
        rw [hself] at hcj
        obtain rfl := Option.some.inj hcj
        exact absurd hfull hpart
    · rw [List.getElem?_set_ne hj, h.full j]
  · by_cases hnil : c'.emitted = []
    · refine Or.inl ⟨hnil, ?_⟩
      intro j cj hcj
      by_cases hj : j = i
      · subst hj
        obtain rfl := Option.some.inj (hself.symm.trans hcj)
        exact fun hhalf => hhalf.1 hnil
      · exact hnone j cj hcj hj
    · refine Or.inr ⟨i, c', hself, ⟨hnil, hpart⟩, rfl, ?_⟩
      intro j cj hcj hhalf
      by_contra hj
      exact hnone j cj hcj hj hhalf

omit [RingBuffer ρ] in
/-- A `writev` that puts no byte. -/
theorem Ordered.write_nothing (h : Ordered s done part) (hi : s.calls[i]? = some c)
    (hw : c.Wrote event c' []) :
    Ordered { s with calls := s.calls.set i c', sent := s.sent ++ [] } done part := by
  have hemitted : c'.emitted = c.emitted := by
    rw [hw.emitted, List.append_nil]
  exact h.congr (sameSent_set hi hw.request hemitted) (sameSent_of_set hi hw.request hemitted)
    (List.append_nil s.sent)

omit [RingBuffer ρ] in
/-- **A `writev` keeps the order**, if it puts no byte, its call is the half-sent one or there is none. -/
theorem Ordered.write (h : Ordered s done part) (hi : s.calls[i]? = some c) (hw : c.Wrote event c' put)
    (hclear : ¬ event.Fails → c.emitted = [] → ∀ c' ∈ s.calls, ¬ c'.HalfSent) :
    ∃ done' part', Ordered { s with calls := s.calls.set i c', sent := s.sent ++ put } done' part' := by
  by_cases hfails : event.Fails
  · obtain ⟨rfl, -⟩ := hw.fails hfails
    exact ⟨done, part, h.write_nothing hi hw⟩
  have hunsent := hw.unsent
  obtain ⟨rfl, hothers⟩ := h.part_eq hi hunsent (hclear hfails)
  have hfresh : i ∉ done := by
    intro hmem
    obtain ⟨c₂, hc₂, hfull⟩ := (h.full i).mp hmem
    rw [hi] at hc₂
    obtain rfl := Option.some.inj hc₂
    exact hunsent hfull
  by_cases hfull : c'.emitted = c'.request.serialize
  · exact ⟨_, _, h.write_full hi hw hfresh hothers hfull⟩
  · exact ⟨_, _, h.write_part hi hw hfresh hothers hfull⟩

end Write

omit [RingBuffer ρ] in
theorem Ordered.call {s : ClientConn ρ} {done : List Nat} {part : Bytes} (h : Ordered s done part)
    (args : CallArgs) (nextId : UInt32) :
    Ordered { s with mRequestId := nextId, calls := s.calls ++ [.start s.mRequestId args] } done part := by
  have hnew : ∀ (j : Nat) (cj : Call), (s.calls ++ [Call.start s.mRequestId args])[j]? = some cj →
      s.calls[j]? = some cj ∨ cj = Call.start s.mRequestId args :=
    forall_getElem?_concat (fun _ _ hj => Or.inl hj) (Or.inr rfl)
  have hold : ∀ (j : Nat) (cj : Call), s.calls[j]? = some cj →
      (s.calls ++ [Call.start s.mRequestId args])[j]? = some cj := by
    intro j cj hj
    rw [List.getElem?_append_left (List.getElem?_eq_some_iff.mp hj).1, hj]
  refine ⟨h.nodup, ?_, ?_, ?_⟩
  · intro j
    rw [h.full j]
    constructor
    · rintro ⟨cj, hj, hfull⟩
      exact ⟨cj, hold j cj hj, hfull⟩
    · rintro ⟨cj, hj, hfull⟩
      rcases hnew j cj hj with hj | rfl
      · exact ⟨cj, hj, hfull⟩
      · exact absurd hfull.symm (RpcRequest.serialize_ne_nil _)
  · rw [h.sent]
    refine congrArg (fun l => List.flatten l ++ part) (map_frameOf fun j hj => ?_).symm
    obtain ⟨cj, hcj, -⟩ := (h.full j).mp hj
    exact ⟨cj, cj, hcj, hold j cj hcj, rfl⟩
  · rcases h.half with ⟨hnil, hnone⟩ | ⟨i, c, hi, hhalf, hpart, hone⟩
    · refine Or.inl ⟨hnil, fun j cj hj => ?_⟩
      rcases hnew j cj hj with hj | rfl
      · exact hnone j cj hj
      · exact fun hhalf => hhalf.1 rfl
    · refine Or.inr ⟨i, c, hold i c hi, hhalf, hpart, fun j cj hj hjhalf => ?_⟩
      rcases hnew j cj hj with hj | rfl
      · exact hone j cj hj hjhalf
      · exact absurd rfl hjhalf.1

/-! ## Runs -/

/-- The steps as the sending direction sees them: a new call, a `writev`, the peer, or a step of a call
    that is not over which leaves its request and what it has sent alone. -/
inductive SendStep (s : ClientConn ρ) : ClientAction → ClientConn ρ → Prop
  | call (args : CallArgs) (nextId : UInt32) :
      SendStep s (.call args) { s with
        mRequestId := nextId, calls := s.calls ++ [.start s.mRequestId args] }
  | write {i : Nat} {event : WriteEvent} {c c' : Call} {put : Bytes} (hi : s.calls[i]? = some c)
      (hw : c.Wrote event c' put) :
      SendStep s (.write i event) { s with calls := s.calls.set i c', sent := s.sent ++ put }
  | quiet {a : ClientAction} {i : Nat} {c c' : Call} {ring : ρ} {arriving : Bytes}
      (hi : s.calls[i]? = some c) (hactive : ¬ c.Over) (hrequest : c'.request = c.request)
      (hemitted : c'.emitted = c.emitted) :
      SendStep s a { s with calls := s.calls.set i c', mRingBuffer := ring, arriving := arriving }
  | respond (answer : Answer) (arriving : Bytes) (answered : List Answer) :
      SendStep s (.respond answer) { s with arriving := arriving, answered := answered }

theorem sendStep {setting : RpcReaderSetting} {s s' : ClientConn ρ} {a : ClientAction} (h : s.Sound)
    (hstep : s.step setting a = some s') : SendStep s a s' := by
  cases ClientConn.stepped hstep with
  | call args => exact .call args _
  | write hi hw => exact .write hi (Call.write_spec (h.wellSent _ _ hi) hw)
  | read hpiece hi hr =>
    obtain ⟨hactive, m, m', hphase, rfl, -⟩ := Call.read_piece (h.wellSent _ _ hi) hpiece hr
    exact .quiet hi (Call.not_over_of_receiving hactive hphase) (by rfl) (by rfl)
  | hangUp hevent hi hr =>
    obtain ⟨hactive, m, m', e, hphase, rfl, -⟩ := Call.read_end (h.wellSent _ _ hi) hevent hr
    exact .quiet hi (Call.not_over_of_receiving hactive hphase) (by rfl) (by rfl)
  | finish hi hf =>
    obtain ⟨hactive, m, hphase, ⟨n, own, -, -, rfl⟩ | ⟨e, -, rfl, -⟩⟩ :=
      Call.finish_spec (h.wellSent _ _ hi) hf
    · exact .quiet hi (Call.not_over_of_receiving hactive hphase) (by rfl) (by rfl)
    · exact .quiet hi (Call.not_over_of_receiving hactive hphase) (by rfl) (by rfl)
  | abandon hi ha =>
    obtain ⟨hactive, hphase, rfl⟩ := Call.abandon_spec ha
    exact .quiet hi (Call.not_over hactive hphase) (by rfl) (by rfl)
  | respond answer => exact .respond answer _ _

/-- **Every clear step keeps the order.** -/
theorem ordered_step {setting : RpcReaderSetting} {s s' : ClientConn ρ} {a : ClientAction}
    (h : s.Sound ∧ ∃ done part, Ordered s done part) (hclear : Clear s a)
    (hstep : s.step setting a = some s') : s'.Sound ∧ ∃ done part, Ordered s' done part := by
  obtain ⟨hsound, done, part, hord⟩ := h
  refine ⟨hsound.step hstep, ?_⟩
  cases sendStep hsound hstep with
  | call args nextId => exact ⟨done, part, hord.call args nextId⟩
  | write hi hw => exact hord.write hi hw (hclear _ hi)
  | quiet hi _ hrequest hemitted =>
    exact ⟨done, part, hord.congr (sameSent_set hi hrequest hemitted)
      (sameSent_of_set hi hrequest hemitted) rfl⟩
  | respond answer _ _ => exact ⟨done, part, hord.nodup, hord.full, hord.sent, hord.half⟩

omit [RingBuffer ρ] in
theorem ordered_start (ring : ρ) : Ordered (ClientConn.start ring) [] [] where
  nodup := List.nodup_nil
  full i := by simp [ClientConn.start]
  sent := rfl
  half := Or.inl ⟨rfl, fun j c hj => by simp [ClientConn.start] at hj⟩

/-- A call that is over inside its frame stays there, and bars the connection. -/
theorem stuck_step {setting : RpcReaderSetting} {s s' : ClientConn ρ} {a : ClientAction} {i : Nat}
    {c : Call} {sent : Bytes} (hhalf : c.HalfSent) (hover : c.Over)
    (h : (s.Sound ∧ ∃ done part, Ordered s done part) ∧ s.calls[i]? = some c ∧ s.sent = sent)
    (hclear : Clear s a) (hstep : s.step setting a = some s') :
    (s'.Sound ∧ ∃ done part, Ordered s' done part) ∧ s'.calls[i]? = some c ∧ s'.sent = sent := by
  obtain ⟨hord, hi, hsent⟩ := h
  refine ⟨ordered_step hord hclear hstep, ?_⟩
  obtain ⟨hsound, done, part, hord⟩ := hord
  cases sendStep hsound hstep with
  | call args nextId =>
    refine ⟨?_, hsent⟩
    rw [List.getElem?_append_left (List.getElem?_eq_some_iff.mp hi).1, hi]
  | @write j event cj cj' put hj hw =>
    have hji : j ≠ i := by
      rintro rfl
      rw [hi] at hj
      obtain rfl := Option.some.inj hj
      obtain ⟨m, hm⟩ := hw.sending
      exact Call.not_over_of_sending hw.active.1 hm hover
    by_cases hfails : event.Fails
    · obtain ⟨rfl, -⟩ := hw.fails hfails
      constructor
      · show (s.calls.set j cj')[i]? = some c
        rw [getElem?_set_of_some hi, if_neg hji]
      · show s.sent ++ [] = sent
        rw [List.append_nil, hsent]
    · -- the writer is another call, and the order leaves it no room
      exfalso
      exact (hord.part_eq hj hw.unsent (hclear _ hj hfails)).2 i c hi hji.symm hhalf
  | @quiet _ j cj cj' ring arriving hj hactive hrequest hemitted =>
    refine ⟨?_, hsent⟩
    have hji : j ≠ i := by
      rintro rfl
      rw [hi] at hj
      obtain rfl := Option.some.inj hj
      exact hactive hover
    show (s.calls.set j cj')[i]? = some c
    rw [getElem?_set_of_some hi, if_neg hji]
  | respond answer _ _ => exact ⟨hi, hsent⟩

/-- **Frames stay in order while no call puts its first byte behind a half-sent one.**  In every run whose
    steps are all clear, what is on the connection is request frames and at most one incomplete one behind
    them; and once a call is over inside its frame, the connection carries no further bytes. -/
theorem frames_in_order_of_clear (setting : RpcReaderSetting) (ring : ρ) {actions : List ClientAction}
    {s : ClientConn ρ} (hrun : Run (ClientConn.step setting) Clear (.start ring) actions s) :
    FramesInOrder s ∧
      ∀ (i : Nat) (c : Call), s.calls[i]? = some c → c.HalfSent → c.Over →
        ∀ (later : List ClientAction) (s' : ClientConn ρ),
          Run (ClientConn.step setting) Clear s later s' → s'.sent = s.sent := by
  have hord : s.Sound ∧ ∃ done part, Ordered s done part :=
    hrun.invariant (fun _ _ _ h => ordered_step h)
      ⟨ClientConn.sound_start ring, [], [], ordered_start ring⟩
  refine ⟨?_, ?_⟩
  · obtain ⟨hsound, done, part, h⟩ := hord
    exact h.framesInOrder hsound
  · intro i c hi hhalf hover later s' hlater
    exact (hlater.invariant (fun _ _ _ h => stuck_step hhalf hover h) ⟨hord, hi, rfl⟩).2.2

/-- The first call is half sent, then sent; the second fails inside its frame, the third before its
    first byte. -/
def clearRun : List ClientAction :=
  [.call echoArgs, .write 0 (.accept 5), .write 0 (.accept 99), .call echoArgs, .write 1 (.accept 7),
    .write 1 .zero, .call echoArgs, .write 2 .zero]

theorem frames_in_order_of_clear_echo :
    ∃ s : ClientConn (Circular UInt8),
      runAll (ClientConn.step {}) Clear (.start (Circular.empty 40 fun _ => 0)) clearRun = some s ∧
        FramesInOrder s := by
  have hruns : (runAll (ClientConn.step {}) Clear
      (.start (Circular.empty 40 fun _ => (0 : UInt8))) clearRun).isSome = true := by
    decide
  obtain ⟨s, hs⟩ := Option.isSome_iff_exists.mp hruns
  exact ⟨s, hs, (frames_in_order_of_clear {} _ (run_iff_runAll.mpr hs)).1⟩

/-- The first call fails inside its frame and returns; the second call sends its request. -/
def overrun : List ClientAction :=
  [.call echoArgs, .write 0 (.accept 5), .write 0 .zero, .call echoArgs, .write 1 (.accept 99)]

omit [RingBuffer ρ] in
/-- More bytes than any frame has, which start like no frame, are not in order. -/
theorem not_framesInOrder {s : ClientConn ρ} (hne : s.sent ≠ []) (n : Nat)
    (h : ∀ c ∈ s.calls, n < c.request.serialize.length ∧
      c.request.serialize.length < s.sent.length ∧ c.request.serialize[n]? ≠ s.sent[n]?) :
    ¬ FramesInOrder s := by
  rintro ⟨done, part, -, hcalls, hsent, hpart⟩
  have hframe : ∀ i < s.calls.length, ∃ c ∈ s.calls, frameOf s.calls i = c.request.serialize := by
    intro i hi
    exact ⟨s.calls[i], List.getElem_mem hi, frameOf_of_some (List.getElem?_eq_getElem hi)⟩
  cases done with
  | nil =>
    rw [List.map_nil, List.flatten_nil, List.nil_append] at hsent
    rcases hpart with rfl | ⟨i, hi, -, hle, -⟩
    · exact hne hsent
    · obtain ⟨c, hc, hf⟩ := hframe i hi
      have hshort := hle.length_le
      rw [hf, ← hsent] at hshort
      have := (h c hc).2.1
      omega
  | cons i rest =>
    obtain ⟨c, hc, hf⟩ := hframe i (hcalls i List.mem_cons_self)
    obtain ⟨hn, -, hbyte⟩ := h c hc
    apply hbyte
    rw [hsent, List.map_cons, List.flatten_cons, hf, List.append_assoc, List.getElem?_append_left hn]

theorem half_sent_overrun :
    ∃ s : ClientConn (Circular UInt8),
      Run (ClientConn.step {}) (fun _ _ => True) (.start (Circular.empty 40 fun _ => 0)) overrun s ∧
        s.sent = (frameOf s.calls 0).take 5 ++ frameOf s.calls 1 ∧ ¬ FramesInOrder s := by
  have hruns : ((runAll (ClientConn.step {}) (fun _ _ => True)
      (.start (Circular.empty 40 fun _ => (0 : UInt8))) overrun).map fun s =>
        decide (s.sent = (frameOf s.calls 0).take 5 ++ frameOf s.calls 1 ∧ s.sent ≠ [] ∧
          ∀ c ∈ s.calls, 5 < c.request.serialize.length ∧
            c.request.serialize.length < s.sent.length ∧ c.request.serialize[5]? ≠ s.sent[5]?)) =
      some true := by
    decide
  obtain ⟨s, hs, hfacts⟩ := Option.map_eq_some_iff.mp hruns
  obtain ⟨hsent, hne, hbytes⟩ := of_decide_eq_true hfacts
  exact ⟨s, run_iff_runAll.mpr hs, hsent, not_framesInOrder hne 5 hbytes⟩

end GalayRpc
