/-
  `RpcWritevMachine` against every kernel: what is on the connection after each single `writev`.

  `runWrite` drives a machine to its end; here the machine is watched on the way.  One step is one
  `writev` of what `advance` offers: the kernel takes some of it, at least one byte, or takes none, or
  fails.  A machine that has completed offers nothing, so it takes no step.

  * `Sending.step` — one `writev` keeps the invariant: what the kernel has taken and what is still
    offered make up the bytes that were to be written;
  * `writev_sends_serialization` — for the write state of every request, response, stream data frame and
    `STREAM_INIT`, these bytes are its serialization, and the machine succeeds when they are gone and
    fails when a `writev` does.
-/
import GalayRpc.Stream
import GalayRpc.Lib.Run

namespace GalayRpc

/-! ## The machine, one `writev` at a time -/

/-- A write in progress: the machine, the bytes the kernel has taken, and what has become of each
    `writev` so far. -/
structure WritevRun where
  machine : RpcWritevMachine
  accepted : Bytes := []
  log : List WriteEvent := []

namespace WritevRun

/-- The write of a state that has just been built. -/
def start (state : RpcWriteState) : WritevRun := { machine := ⟨state, none⟩ }

/-- `advance` completes with this. -/
def Completes (s : WritevRun) (result : RpcAwaitableResult) : Prop :=
  ∃ machine, s.machine.advance = (.complete result, machine)

/-- One `writev` of what `advance` offers. -/
def step (s : WritevRun) (event : WriteEvent) : Option WritevRun :=
  match s.machine.advance with
  | (.waitWritev iovecs, machine) =>
    match event with
    | .accept n =>
      if 0 < n ∧ n ≤ iovecs.flatten.length then
        some ⟨machine.onWrite (.ok n), s.accepted ++ iovecs.flatten.take n, s.log ++ [event]⟩
      else none
    | .zero => some ⟨machine.onWrite (.ok 0), s.accepted, s.log ++ [event]⟩
    | .failed e => some ⟨machine.onWrite (.error e), s.accepted, s.log ++ [event]⟩
  | _ => none

/-- What becomes of a write of `bytes`: the machine still has buffers to offer, or it is done, or a
    `writev` has failed. -/
inductive Sending (bytes : Bytes) (s : WritevRun) : Prop where
  | writing (iovecs : List Bytes) (hmachine : s.machine = ⟨⟨iovecs, none⟩, none⟩) (hnil : iovecs ≠ [])
      (hne : ∀ iov ∈ iovecs, iov ≠ []) (hbytes : s.accepted ++ iovecs.flatten = bytes)
      (hlog : ∀ event ∈ s.log, ¬ event.Fails)
  | done (hmachine : s.machine = ⟨⟨[], none⟩, some (.ok true)⟩) (hbytes : s.accepted = bytes)
      (hlog : ∀ event ∈ s.log, ¬ event.Fails)
  | failed (iovecs : List Bytes) (e : RpcError)
      (hmachine : s.machine = ⟨⟨iovecs, some e⟩, some (.error e)⟩) (hnil : iovecs ≠ [])
      (hne : ∀ iov ∈ iovecs, iov ≠ []) (hbytes : s.accepted ++ iovecs.flatten = bytes)
      (hlog : ∃ event ∈ s.log, event.Fails)

theorem Sending.start {state : RpcWriteState} (herror : state.error = none) (hnil : state.iovecs ≠ [])
    (hne : ∀ iov ∈ state.iovecs, iov ≠ []) : Sending state.iovecs.flatten (start state) := by
  obtain ⟨iovecs, error⟩ := state
  obtain rfl : error = none := herror
  refine .writing iovecs rfl hnil hne rfl ?_
  intro event hmem
  cases hmem

/-- A machine that has its result makes no more writes. -/
theorem step_of_result {s : WritevRun} {result : RpcAwaitableResult}
    (h : s.machine.result = some result) (event : WriteEvent) : s.step event = none := by
  unfold step RpcWritevMachine.advance
  rw [h]

/-- A `writev` adds to what the kernel has taken. -/
theorem accepted_of_step {s s' : WritevRun} {event : WriteEvent} (h : s.step event = some s') :
    s'.accepted = s.accepted ++ s'.accepted.drop s.accepted.length := by
  refine (List.prefix_iff_eq_append.mp ?_).symm
  unfold WritevRun.step at h
  split at h
  · split at h
    · simp only [Option.ite_none_right_eq_some, Option.some.injEq] at h
      obtain ⟨-, rfl⟩ := h
      exact List.prefix_append _ _
    · obtain rfl := Option.some.inj h
      exact List.prefix_rfl
    · obtain rfl := Option.some.inj h
      exact List.prefix_rfl
  · cases h

/-- A `writev` that does not fail takes something. -/
theorem accepts_of_step {s s' : WritevRun} {event : WriteEvent} (h : s.step event = some s')
    (haccepts : ¬ event.Fails) :
    s'.log = s.log ++ [event] ∧ s.accepted.length < s'.accepted.length := by
  unfold WritevRun.step at h
  split at h
  · split at h
    · simp only [Option.ite_none_right_eq_some, Option.some.injEq] at h
      obtain ⟨⟨hpos, hle⟩, rfl⟩ := h
      refine ⟨rfl, ?_⟩
      show s.accepted.length < (s.accepted ++ List.take _ _).length
      rw [List.length_append, List.length_take]
      omega
    · exact absurd trivial haccepts
    · exact absurd trivial haccepts
  · cases h

/-- **One `writev`.** -/
theorem Sending.step {bytes : Bytes} {s s' : WritevRun} {event : WriteEvent} (h : Sending bytes s)
    (hstep : s.step event = some s') : Sending bytes s' := by
  cases h with
  | writing iovecs hmachine hnil hne hbytes hlog =>
    have hclear : ∀ ev, ¬ ev.Fails → ∀ event' ∈ s.log ++ [ev], ¬ event'.Fails :=
      fun _ => forall_mem_concat hlog
    unfold WritevRun.step at hstep
    rw [hmachine, advance_waitWritev hnil] at hstep
    cases event with
    | accept n =>
      simp only [Option.ite_none_right_eq_some, Option.some.injEq] at hstep
      obtain ⟨⟨hpos, hle⟩, rfl⟩ := hstep
      have hdrop := consumeWritevIovecs_flatten iovecs n
      have hsplit : s.accepted ++ iovecs.flatten.take n ++ (consumeWritevIovecs iovecs n).flatten =
          bytes := by
        rw [hdrop, List.append_assoc, List.take_append_drop, hbytes]
      rw [onWrite_accepted iovecs hpos]
      by_cases hc : consumeWritevIovecs iovecs n = []
      · -- the last piece
        rw [if_pos hc]
        rw [hc, List.flatten_nil, List.append_nil] at hsplit
        exact .done rfl hsplit (hclear _ id)
      · rw [if_neg hc]
        exact .writing _ rfl hc (ne_nil_of_mem_consumeWritevIovecs hne n) hsplit (hclear _ id)
    | zero =>
      obtain rfl := Option.some.inj hstep
      exact .failed iovecs _ rfl hnil hne hbytes
        ⟨.zero, List.mem_append_right _ (List.mem_singleton_self _), trivial⟩
    | failed e =>
      obtain rfl := Option.some.inj hstep
      exact .failed iovecs _ rfl hnil hne hbytes
        ⟨.failed e, List.mem_append_right _ (List.mem_singleton_self _), trivial⟩
  | done hmachine =>
    rw [step_of_result (by rw [hmachine])] at hstep
    cases hstep
  | failed iovecs e hmachine =>
    rw [step_of_result (by rw [hmachine])] at hstep
    cases hstep

/-- A write that is not over can put one more byte on the connection. -/
theorem Sending.moves {bytes : Bytes} {s : WritevRun} (h : Sending bytes s)
    (hresult : s.machine.result = none) : ∃ s', s.step (.accept 1) = some s' := by
  cases h with
  | writing iovecs hmachine hnil hne =>
    have hpos := flatten_length_pos hnil hne
    unfold WritevRun.step
    rw [hmachine, advance_waitWritev hnil]
    exact ⟨_, if_pos ⟨Nat.one_pos, hpos⟩⟩
  | done hmachine =>
    rw [hmachine] at hresult
    cases hresult
  | failed iovecs e hmachine =>
    rw [hmachine] at hresult
    cases hresult

/-- A `writev` that does not fail takes some of what is left; the write goes on, or is over with all of it
    taken. -/
theorem Sending.accepts {bytes : Bytes} {s s' : WritevRun} {event : WriteEvent} (h : Sending bytes s)
    (hstep : s.step event = some s') (haccepts : ¬ event.Fails) :
    s.accepted.length < s'.accepted.length ∧ s'.accepted.length ≤ bytes.length ∧
      (s'.machine.result = none ∨ s'.machine.result = some (.ok true) ∧ s'.accepted = bytes) := by
  obtain ⟨hlog, hmore⟩ := accepts_of_step hstep haccepts
  have hnofail : ∀ event ∈ s'.log, ¬ event.Fails := by
    rw [hlog]
    cases h with
    | writing iovecs _ _ _ _ hclear => exact forall_mem_concat hclear haccepts
    | done hmachine =>
      rw [step_of_result (by rw [hmachine])] at hstep
      cases hstep
    | failed iovecs e hmachine =>
      rw [step_of_result (by rw [hmachine])] at hstep
      cases hstep
  cases h.step hstep with
  | writing iovecs hmachine hnil hne hbytes =>
    refine ⟨hmore, ?_, Or.inl (by rw [hmachine])⟩
    rw [← hbytes, List.length_append]
    omega
  | done hmachine hbytes => exact ⟨hmore, (congrArg List.length hbytes).le, Or.inr ⟨by rw [hmachine], hbytes⟩⟩
  | failed iovecs e hmachine hnil hne hbytes hfailed =>
    obtain ⟨event', hmem, hfails⟩ := hfailed
    exact absurd hfails (hnofail event' hmem)

/-- A write of `bytes`, as it can be seen: what the kernel has taken is followed by the segments that are
    left, none of them empty; as long as the machine is not over it offers these to the next `writev`; it
    succeeds exactly when everything has been taken, fails exactly when a `writev` has, and makes no write
    after either. -/
structure Sends (bytes : Bytes) (s : WritevRun) : Prop where
  accepted : s.accepted ++ s.machine.state.iovecs.flatten = bytes
  segments : ∀ iov ∈ s.machine.state.iovecs, iov ≠ []
  offers : (∀ result, ¬ s.Completes result) → s.machine.state.iovecs ≠ [] ∧
    s.machine.advance = (.waitWritev s.machine.state.iovecs, s.machine)
  succeeds_iff : s.Completes (.ok true) ↔ s.accepted = bytes
  fails_iff : (∃ e, s.Completes (.error e)) ↔ ∃ event ∈ s.log, event.Fails
  stops : ∀ result, s.Completes result → ∀ event, s.step event = none

theorem completes_of_result {s : WritevRun} {result : RpcAwaitableResult}
    (h : s.machine.result = some result) (result' : RpcAwaitableResult) :
    s.Completes result' ↔ result' = result := by
  unfold Completes RpcWritevMachine.advance
  rw [h]
  constructor
  · rintro ⟨machine, heq⟩
    exact (MachineAction.complete.inj (Prod.mk.inj heq).1).symm
  · rintro rfl
    exact ⟨_, rfl⟩

theorem Sending.sends {bytes : Bytes} {s : WritevRun} (h : Sending bytes s) : Sends bytes s := by
  cases h with
  | writing iovecs hmachine hnil hne hbytes hlog =>
    have hwaits : ∀ result, ¬ s.Completes result := by
      rintro result ⟨machine, heq⟩
      rw [hmachine, advance_waitWritev hnil] at heq
      cases heq
    have hpos := flatten_length_pos hnil hne
    refine ⟨by rw [hmachine, hbytes], by rwa [hmachine], ?_, ?_, ?_, ?_⟩
    · intro _
      rw [hmachine]
      exact ⟨hnil, advance_waitWritev hnil⟩
    · constructor
      · intro hdone
        exact absurd hdone (hwaits _)
      · intro hall
        rw [hall] at hbytes
        rw [List.append_right_eq_self.mp hbytes] at hpos
        exact absurd hpos (Nat.lt_irrefl 0)
    · constructor
      · rintro ⟨e, hfailed⟩
        exact absurd hfailed (hwaits _)
      · rintro ⟨event, hmem, hfails⟩
        exact absurd hfails (hlog event hmem)
    · intro result hdone
      exact absurd hdone (hwaits _)
  | done hmachine hbytes hlog =>
    have hresult : s.machine.result = some (.ok true) := by rw [hmachine]
    refine ⟨?_, ?_, ?_, ?_, ?_, fun _ _ => step_of_result hresult⟩
    · rw [hmachine, hbytes]
      exact List.append_nil _
    · intro iov hmem
      rw [hmachine] at hmem
      cases hmem
    · intro hgoes
      exact absurd ((completes_of_result hresult _).mpr rfl) (hgoes _)
    · rw [completes_of_result hresult]
      exact ⟨fun _ => hbytes, fun _ => rfl⟩
    · constructor
      · rintro ⟨e, hfailed⟩
        cases (completes_of_result hresult _).mp hfailed
      · rintro ⟨event, hmem, hfails⟩
        exact absurd hfails (hlog event hmem)
  | failed iovecs e hmachine hnil hne hbytes hlog =>
    have hresult : s.machine.result = some (.error e) := by rw [hmachine]
    have hpos := flatten_length_pos hnil hne
    refine ⟨by rw [hmachine, hbytes], by rwa [hmachine], ?_, ?_, ?_, fun _ _ => step_of_result hresult⟩
    · intro hgoes
      exact absurd ((completes_of_result hresult _).mpr rfl) (hgoes _)
    · rw [completes_of_result hresult]
      constructor
      · intro heq
        cases heq
      · intro hall
        rw [hall] at hbytes
        rw [List.append_right_eq_self.mp hbytes] at hpos
        exact absurd hpos (Nat.lt_irrefl 0)
    · exact ⟨fun _ => hlog, fun _ => ⟨e, (completes_of_result hresult _).mpr rfl⟩⟩

/-- **Every moment of a write.** -/
theorem sends_of_run {state : RpcWriteState} (herror : state.error = none) (hnil : state.iovecs ≠ [])
    (hne : ∀ iov ∈ state.iovecs, iov ≠ []) {events : List WriteEvent} {s : WritevRun}
    (hrun : Run step (fun _ _ => True) (start state) events s) : Sends state.iovecs.flatten s :=
  (hrun.invariant (fun _ _ _ h _ hstep => h.step hstep) (Sending.start herror hnil hne)).sends

end WritevRun

/-! ## What is written -/

/-- A message that is written segment by segment; a data frame is built from a copy of the payload or
    over the payload where it lies. -/
inductive WritevMessage where
  | request (request : RpcRequest)
  | response (response : RpcResponse)
  | dataCopied (message : StreamMessage)
  | dataBorrowed (message : StreamMessage)
  | streamInit (init : StreamInitRequest)

namespace WritevMessage

/-- The write state the sender builds. -/
def writeState : WritevMessage → RpcWriteState
  | request r => RpcRequestWriteState r
  | response r => RpcResponseWriteState r
  | dataCopied m => StreamFrameWriteState.data m.streamId m.payload
  | dataBorrowed m => StreamFrameWriteState.buildDataFrame m.streamId m.payloadView
  | streamInit i => StreamFrameWriteState.init i.streamId i.serviceName i.methodName

/-- The message in one piece. -/
def serialize : WritevMessage → Bytes
  | request r => r.serialize
  | response r => r.serialize
  | dataCopied m => m.serialize .streamData
  | dataBorrowed m => m.serialize .streamData
  | streamInit i => i.serialize

end WritevMessage

/-- A frame is written as the message it carries is serialized. -/
theorem StreamFrame.bytes_of_message (m : StreamMessage) {f : StreamFrame}
    (hmsg : f.msg = ⟨.streamData, m.streamId, m.payload, false⟩) :
    f.bytes = m.serialize .streamData := by
  have hsize : m.payloadView.size = m.payload.length := PayloadStore.view_size m.store
  rw [StreamFrame.bytes_eq, StreamMessage.serialize_eq, StreamFrame.header, StreamMessage.header, hmsg,
    hsize]

theorem WritevMessage.writeState_flatten (m : WritevMessage) :
    m.writeState.iovecs.flatten = m.serialize := by
  cases m with
  | request r => exact RpcRequestWriteState_flatten r
  | response r => exact RpcResponseWriteState_flatten r
  | dataCopied m =>
    show (StreamFrame.data m.streamId m.payload).bytes = m.serialize .streamData
    exact StreamFrame.bytes_of_message m rfl
  | dataBorrowed m =>
    show (StreamFrame.dataView m.streamId m.payloadView).bytes = m.serialize .streamData
    refine StreamFrame.bytes_of_message m ?_
    show (⟨_, _, m.store.view.cells, _⟩ : StreamMsg) = ⟨_, _, m.store.bytes, _⟩
    rw [PayloadStore.view_cells]
  | streamInit i => exact StreamInitRequest.serialize_eq i

/-- The segments of a frame with one size word. -/
theorem ne_nil_of_mem_dataFrame {streamId : UInt32} {view : RpcPayloadView UInt8} {iov : Bytes}
    (h : iov ∈ (StreamFrameWriteState.buildDataFrame streamId view).iovecs) : iov ≠ [] := by
  simp only [StreamFrameWriteState.buildDataFrame, List.mem_append] at h
  rcases h with (h | h) | h
  · rw [List.mem_singleton.mp h]
    exact List.ne_nil_of_length_pos (by rw [RpcHeader.serialize_length]; decide)
  · exact ne_nil_of_mem_optionalIovec h
  · exact ne_nil_of_mem_optionalIovec h

theorem ne_nil_of_mem_initFrame {streamId : UInt32} {service method iov : Bytes}
    (h : iov ∈ (StreamFrameWriteState.init streamId service method).iovecs) : iov ≠ [] := by
  simp only [StreamFrameWriteState.init, List.mem_append] at h
  rcases h with ((h | h) | h) | h
  · exact ne_nil_of_mem_headerIovecs h
  · exact ne_nil_of_mem_optionalIovec h
  · rw [List.mem_singleton.mp h]
    exact List.ne_nil_of_length_pos (by rw [rpcHtons_length]; decide)
  · exact ne_nil_of_mem_optionalIovec h

theorem StreamFrame.writeState_ne_nil (f : StreamFrame) : ∀ iov ∈ f.writeState.iovecs, iov ≠ [] := by
  have hcontrol : ∀ streamId type, ∀ iov ∈ (StreamFrameWriteState.control streamId type).iovecs,
      iov ≠ [] := by
    intro streamId type iov hmem
    rw [List.mem_singleton.mp hmem]
    exact List.ne_nil_of_length_pos (by rw [RpcHeader.serialize_length]; decide)
  cases f with
  | init streamId service method => exact fun _ => ne_nil_of_mem_initFrame
  | initAck streamId => exact hcontrol streamId .streamInitAck
  | data streamId bytes => exact fun _ => ne_nil_of_mem_dataFrame
  | dataView streamId payloadView => exact fun _ => ne_nil_of_mem_dataFrame
  | endOfStream streamId => exact hcontrol streamId .streamEnd
  | cancel streamId => exact hcontrol streamId .streamCancel

theorem WritevMessage.writeState_ne_nil (m : WritevMessage) :
    ∀ iov ∈ m.writeState.iovecs, iov ≠ [] := by
  cases m with
  | request r => exact RpcRequestWriteState_ne_nil r
  | response r => exact RpcResponseWriteState_ne_nil r
  | dataCopied m => exact (StreamFrame.data m.streamId m.payload).writeState_ne_nil
  | dataBorrowed m => exact (StreamFrame.dataView m.streamId m.payloadView).writeState_ne_nil
  | streamInit i => exact (StreamFrame.init i.streamId i.serviceName i.methodName).writeState_ne_nil

/-- **Vectored writing sends exactly the serialized message**: of every message, after every sequence of
    `writev`s. -/
theorem writev_sends_serialization (m : WritevMessage) (events : List WriteEvent) (s : WritevRun)
    (hrun : Run WritevRun.step (fun _ _ => True) (WritevRun.start m.writeState) events s) :
    WritevRun.Sends m.serialize s := by
  rw [← m.writeState_flatten]
  refine WritevRun.sends_of_run ?_ ?_ m.writeState_ne_nil hrun
  · cases m with
    | request r => rfl
    | response r => rfl
    | dataCopied m => rfl
    | dataBorrowed m => rfl
    | streamInit i => rfl
  · cases m with
    | request r => exact List.cons_ne_nil _ _
    | response r => exact List.cons_ne_nil _ _
    | dataCopied m => exact List.cons_ne_nil _ _
    | dataBorrowed m => exact List.cons_ne_nil _ _
    | streamInit i => exact List.cons_ne_nil _ _

/-- A data frame of a wrapped payload that goes out in two pieces, the first one cut inside a segment. -/
theorem writev_sends_serialization_data :
    WritevRun.Sends
      (WritevMessage.dataBorrowed { streamId := 7, store := .setView ⟨[1, 2], [3]⟩ }).serialize
      ⟨⟨⟨[], none⟩, some (.ok true)⟩,
        (WritevMessage.dataBorrowed { streamId := 7, store := .setView ⟨[1, 2], [3]⟩ }).serialize,
        [.accept 17, .accept 2]⟩ :=
  writev_sends_serialization (.dataBorrowed { streamId := 7, store := .setView ⟨[1, 2], [3]⟩ })
    [.accept 17, .accept 2] _ (run_iff_runAll.mpr rfl)

end GalayRpc
