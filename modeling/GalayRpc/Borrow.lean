/-
  Payloads borrowed from the ring buffer, and how long they are what was received.

  `tryParseResponseMessage` copies no payload: the response holds a view into the ring's memory, and
  `payload()` copies what is there when it is first called.  By then the frame is consumed, and the
  kernel may have filled its cells again.

  1. **Views** — the code that builds a view never looks at the memory, so over the addresses of the
     readable cells it gives the addresses the view points at (`borrowedPayload`).

  2. **Loans** — `LendingClient` is a client connection on a circular buffer, with the view of every
     response a call has returned.  The bytes received are recorded, for the statements only.

  3. **Invariant** — the memory holds what was received last (`Circular.Holds`), and each view covers
     the cells of its payload's positions in it (`Loan.Of`).  `payload()` then gives what has gone to
     these cells last (`Loan.Reads`).
-/
import GalayRpc.Delivery

namespace GalayRpc

/-! ## Views -/

/-- `materializePayloadIfNeeded` of a borrowed payload: the two segments are copied, as they are. -/
def RpcPayloadView.materialize (view : RpcPayloadView Nat) (memory : Nat → UInt8) : Bytes :=
  view.segment1.map memory ++ view.segment2.map memory

theorem RpcPayloadView.materialize_eq (view : RpcPayloadView Nat) (memory : Nat → UInt8) :
    view.materialize memory = view.cells.map memory := (List.map_append ..).symm

/-- The view `tryParseResponseMessage` takes of the payload, in addresses. -/
def borrowedPayload (ring : Circular UInt8) : RpcPayloadView Nat :=
  let iovecs := RingBuffer.getReadIovecs ring
  let header := (({} : RpcHeader).deserialize (copyFromIovecs iovecs 0 rpcHeaderSize).2).2
  let msgLen := rpcHeaderSize + header.bodyLength.toNat
  let cursor := rpcHeaderSize + 2
  (payloadViewFromIovecs ring.readRuns cursor (msgLen - cursor)).2

/-! ## Loans -/

/-- A payload that has been lent to the caller of a call: the view, and where in the bytes received the
    payload starts. -/
structure Loan where
  call : Nat
  view : RpcPayloadView Nat
  start : Nat

/-- `payload()`, called for the first time with the ring's memory as it is. -/
def Loan.payload (loan : Loan) (ring : Circular UInt8) : Bytes := loan.view.materialize ring.cells

/-- A client connection, and what it has lent. -/
structure LendingClient where
  conn : ClientConn (Circular UInt8)
  received : Bytes := []
  loans : List Loan := []

namespace LendingClient

/-- A client that has just connected. -/
def start (ring : Circular UInt8) : LendingClient := { conn := .start ring }

/-- The payload of the frame in front, for a call. -/
def borrow (s : LendingClient) (i : Nat) : Loan where
  call := i
  view := borrowedPayload s.conn.mRingBuffer
  start := s.received.length - (RingBuffer.content s.conn.mRingBuffer).length + (rpcHeaderSize + 2)

/-- What the step to `conn` lends: a call that returns a response gives its view away. -/
def lent (s : LendingClient) (conn : ClientConn (Circular UInt8)) : ClientAction → List Loan
  | .finish i =>
    match conn.calls[i]?.bind Call.result? with
    | some (.ok (some _)) => [s.borrow i]
    | _ => []
  | _ => []

/-- What a step brings in. -/
def receives (s : LendingClient) : ClientAction → Bytes
  | .read _ n => s.conn.arriving.take n
  | _ => []

def step (setting : RpcReaderSetting) (s : LendingClient) (action : ClientAction) :
    Option LendingClient :=
  (s.conn.step setting action).map fun conn =>
    ⟨conn, s.received ++ s.receives action, s.loans ++ s.lent conn action⟩

end LendingClient

/-! ## What a view covers -/

/-- Where the payload of the frame in front is, and what the view of it covers. -/
theorem borrowedPayload_spec {ring : Circular UInt8} {setting : RpcReaderSetting} {n : Nat}
    {msg : ResponseMsg}
    (hparse : (Call.parser setting).parse (RingBuffer.content ring) = .ok (some (n, msg))) :
    rpcHeaderSize + 2 + msg.payload.length = n ∧ n ≤ ring.content.length ∧
      slice ring.content (rpcHeaderSize + 2) msg.payload.length = msg.payload ∧
      (borrowedPayload ring).cells =
        slice ring.readRuns.flatten (rpcHeaderSize + 2) msg.payload.length := by
  obtain ⟨hacc, -, hn, -, hle, hread⟩ := parseFrame_eq_some.mp hparse
  have hle : n ≤ ring.content.length := hle
  have h16 : rpcHeaderSize ≤ ring.content.length := by omega
  -- the code's header is the one of the frame
  have hcopy : (copyFromIovecs (RingBuffer.getReadIovecs ring) 0 rpcHeaderSize).2 =
      ring.content.take rpcHeaderSize := by
    rw [copyFromIovecs_eq, RingBuffer.getReadIovecs_flatten, slice_from_zero]
    rfl
  have hof := RpcHeader.ofBytes_take h16
  have hheader : (({} : RpcHeader).deserialize
      (copyFromIovecs (RingBuffer.getReadIovecs ring) 0 rpcHeaderSize).2).2 =
        .ofBytes ring.content := by
    rw [hcopy, RpcHeader.deserialize_of_accepted _ (by rw [hof]; exact hacc), hof]
  have hn : n = rpcHeaderSize + (RpcHeader.ofBytes ring.content).bodyLength.toNat := hn
  have hlen : (slice ring.content rpcHeaderSize
      (RpcHeader.ofBytes ring.content).bodyLength.toNat).length =
        (RpcHeader.ofBytes ring.content).bodyLength.toNat :=
    slice_length_of_le _ (by omega)
  unfold ResponseMsg.read at hread
  split at hread
  · cases hread
  · rename_i hbody
    have hpayload := congrArg ResponseMsg.payload (Option.some.inj hread)
    have hpayload : msg.payload = slice ring.content (rpcHeaderSize + 2)
        ((RpcHeader.ofBytes ring.content).bodyLength.toNat - 2) :=
      hpayload.symm.trans (drop_slice _ _ _ _)
    have hbody : ¬ (slice ring.content rpcHeaderSize
        (RpcHeader.ofBytes ring.content).bodyLength.toNat).length < 2 := hbody
    rw [hlen] at hbody
    have hsize : msg.payload.length = (RpcHeader.ofBytes ring.content).bodyLength.toNat - 2 := by
      rw [hpayload]
      exact slice_length_of_le _ (by omega)
    refine ⟨by omega, hle, ?_, ?_⟩
    · rw [hsize, ← hpayload]
    · have hcount : rpcHeaderSize + (RpcHeader.ofBytes ring.content).bodyLength.toNat -
          (rpcHeaderSize + 2) = msg.payload.length := by omega
      show (payloadViewFromIovecs ring.readRuns (rpcHeaderSize + 2) (rpcHeaderSize +
        (({} : RpcHeader).deserialize (copyFromIovecs (RingBuffer.getReadIovecs ring) 0
          rpcHeaderSize).2).2.bodyLength.toNat - (rpcHeaderSize + 2))).2.cells = _
      rw [hheader, hcount]
      exact (payloadViewFromIovecs_spec (ring.runs_length 0 ring.size) _ _).2

/-- In a memory that holds what was received, the view covers the payload's positions. -/
theorem borrowedPayload_cells {ring : Circular UInt8} {history : Bytes} {taken : Nat}
    (h : ring.Holds history taken) {setting : RpcReaderSetting} {n : Nat} {msg : ResponseMsg}
    (hparse : (Call.parser setting).parse (RingBuffer.content ring) = .ok (some (n, msg))) :
    (borrowedPayload ring).cells = (List.range msg.payload.length).map fun i =>
      (taken + (rpcHeaderSize + 2) + i) % ring.capacity := by
  obtain ⟨hn, hle, -, hcells⟩ := borrowedPayload_spec hparse
  have hsize := ring.size_le
  rw [ring.content_length] at hle
  rw [hcells, Circular.readRuns, h.runs_eq (by omega), slice_map_range _ (by omega)]
  apply List.map_congr_left
  intro i _
  rw [Nat.add_zero, Nat.add_assoc taken]

/-- The loan is of a payload that was received from its start on, and its view covers the cells where
    that went. -/
structure Loan.Of (loan : Loan) (capacity : Nat) (received payload : Bytes) : Prop where
  room : 0 < capacity
  within : loan.start + payload.length ≤ received.length
  bytes : slice received loan.start payload.length = payload
  cells : loan.view.cells = (List.range payload.length).map fun i => (loan.start + i) % capacity

/-- Nothing that comes in later changes what a loan is of. -/
theorem Loan.Of.append {loan : Loan} {capacity : Nat} {received payload : Bytes}
    (h : loan.Of capacity received payload) (data : Bytes) :
    loan.Of capacity (received ++ data) payload where
  room := h.room
  within := by
    have hwithin := h.within
    rw [List.length_append]
    omega
  bytes := by
    rw [slice_append _ _ h.within]
    exact h.bytes
  cells := h.cells

/-- **The frame in front is lent as it was received.** -/
theorem LendingClient.borrow_of {s : LendingClient} {taken : Nat}
    (h : s.conn.mRingBuffer.Holds s.received taken) {setting : RpcReaderSetting} {n : Nat}
    {msg : ResponseMsg}
    (hparse : (Call.parser setting).parse (RingBuffer.content s.conn.mRingBuffer) =
      .ok (some (n, msg))) (i : Nat) :
    (s.borrow i).Of s.conn.mRingBuffer.capacity s.received msg.payload := by
  obtain ⟨hn, hle, hbytes, -⟩ := borrowedPayload_spec hparse
  have hsize := h.size
  rw [Circular.content_length] at hle
  have hstart : (s.borrow i).start = taken + (rpcHeaderSize + 2) := by
    show s.received.length - s.conn.mRingBuffer.content.length + (rpcHeaderSize + 2) = _
    rw [Circular.content_length]
    omega
  refine ⟨?_, ?_, ?_, ?_⟩
  · have hfits := s.conn.mRingBuffer.size_le
    omega
  · rw [hstart]
    omega
  · rw [hstart]
    rw [h.content_eq, slice, List.drop_drop] at hbytes
    exact hbytes
  · rw [hstart]
    exact borrowedPayload_cells h hparse

/-- What `payload()` gives, byte by byte: the last one received where the payload's own went. -/
theorem Loan.Of.payload_getElem? {loan : Loan} {ring : Circular UInt8} {received payload : Bytes}
    {taken : Nat} (h : loan.Of ring.capacity received payload) (hring : ring.Holds received taken)
    {i : Nat} (hi : i < payload.length) :
    (loan.payload ring)[i]? =
      received[Circular.lastPosition ring.capacity received.length (loan.start + i)]? := by
  have hwithin := h.within
  rw [Loan.payload, RpcPayloadView.materialize_eq, h.cells, List.getElem?_map, List.getElem?_map,
    List.getElem?_range hi]
  exact (hring.cell h.room (by omega)).symm

theorem Loan.Of.payload_length {loan : Loan} {capacity : Nat} {received payload : Bytes}
    (h : loan.Of capacity received payload) (ring : Circular UInt8) :
    (loan.payload ring).length = payload.length := by
  rw [Loan.payload, RpcPayloadView.materialize_eq, h.cells, List.length_map, List.length_map,
    List.length_range]

/-- Until a ring's length has come from the payload's start on, `payload()` is the payload. -/
theorem Loan.Of.payload_eq {loan : Loan} {ring : Circular UInt8} {received payload : Bytes}
    {taken : Nat} (h : loan.Of ring.capacity received payload) (hring : ring.Holds received taken)
    (hfew : received.length ≤ loan.start + ring.capacity) :
    loan.payload ring = payload := by
  have hwithin := h.within
  apply List.ext_getElem?
  intro i
  rcases Nat.lt_or_ge i payload.length with hi | hi
  · have hbyte := congrArg (fun l => l[i]?) h.bytes
    simp only [slice, List.getElem?_take_of_lt hi, List.getElem?_drop] at hbyte
    rw [h.payload_getElem? hring hi, Circular.lastPosition_of_le (by omega) (by omega)]
    exact hbyte
  · rw [List.getElem?_eq_none hi, List.getElem?_eq_none (by rw [h.payload_length]; exact hi)]

/-- A call that finishes lends exactly if it returns a response. -/
theorem LendingClient.mem_lent_finish {s : LendingClient} {conn : ClientConn (Circular UInt8)} {i : Nat}
    {c : Call} {loan : Loan} (hi : conn.calls[i]? = some c) :
    loan ∈ s.lent conn (.finish i) ↔
      loan = s.borrow i ∧ ∃ response, c.phase = .returned (.ok (some response)) := by
  simp only [lent, hi, Option.bind_some]
  split
  · rename_i response hresult
    rw [List.mem_singleton]
    exact ⟨fun h => ⟨h, response, Call.phase_of_result hresult⟩, fun h => h.1⟩
  · rename_i hnone
    constructor
    · intro h
      cases h
    · rintro ⟨-, response, hphase⟩
      exact absurd (Call.result_of_phase hphase) (hnone response)

/-! ## The invariant -/

/-- A loan backs the call it is for: the call has returned a response, and the loan is of its payload. -/
def Loan.Backs (loan : Loan) (capacity : Nat) (received : Bytes) (c : Call) : Prop :=
  ∃ response, c.phase = .returned (.ok (some response)) ∧
    loan.Of capacity received response.msg.payload

/-- A client between two steps: its memory holds what was received last, and its loans are those of the
    responses its calls have returned. -/
structure Lending (capacity : Nat) (s : LendingClient) : Prop where
  sound : s.conn.Sound
  ring : s.conn.mRingBuffer.capacity = capacity
  memory : ∃ taken, s.conn.mRingBuffer.Holds s.received taken
  backs : ∀ loan ∈ s.loans, ∃ c : Call, s.conn.calls[loan.call]? = some c ∧
    loan.Backs capacity s.received c
  lends : ∀ (i : Nat) (c : Call), s.conn.calls[i]? = some c → ∀ response,
    c.phase = .returned (.ok (some response)) → ∃ loan ∈ s.loans, loan.call = i

theorem lending_start (capacity : Nat) (cells : Nat → UInt8) :
    Lending capacity (.start (.empty capacity cells)) where
  sound := ClientConn.sound_start _
  ring := rfl
  memory := ⟨0, Circular.holds_empty capacity cells⟩
  backs loan hloan := by cases hloan
  lends i c hi := by cases hi

/-- Changing one call that has not returned, with what comes in and what is lent by it. -/
theorem Lending.set {capacity : Nat} {s : LendingClient} (h : Lending capacity s) {i : Nat}
    {c c' : Call} {ring : Circular UInt8} {sent arriving data : Bytes} {loans : List Loan}
    (hi : s.conn.calls[i]? = some c) (hopen : ∀ result, c.phase ≠ .returned result)
    (hsound : ClientConn.Sound { s.conn with
      calls := s.conn.calls.set i c', mRingBuffer := ring, sent := sent, arriving := arriving })
    (hring : ring.capacity = capacity) (hmemory : ∃ taken, ring.Holds (s.received ++ data) taken)
    (hbacks : ∀ loan ∈ loans, loan.call = i ∧ loan.Backs capacity (s.received ++ data) c')
    (hlends : ∀ response, c'.phase = .returned (.ok (some response)) → ∃ loan ∈ loans, loan.call = i) :
    Lending capacity ⟨{ s.conn with
      calls := s.conn.calls.set i c', mRingBuffer := ring, sent := sent, arriving := arriving },
      s.received ++ data, s.loans ++ loans⟩ where
  sound := hsound
  ring := hring
  memory := hmemory
  backs loan hloan := by
    rcases List.mem_append.mp hloan with hold | hnew
    · -- a call that backs a loan has returned, so it is another one
      obtain ⟨cl, hcl, response, hphase, hof⟩ := h.backs loan hold
      have hne : i ≠ loan.call := by
        rintro rfl
        rw [hi] at hcl
        obtain rfl := Option.some.inj hcl
        exact hopen _ hphase
      refine ⟨cl, ?_, response, hphase, hof.append data⟩
      show (s.conn.calls.set i c')[loan.call]? = some cl
      rw [getElem?_set_of_some hcl, if_neg hne]
    · obtain ⟨rfl, hback⟩ := hbacks loan hnew
      refine ⟨c', ?_, hback⟩
      show (s.conn.calls.set loan.call c')[loan.call]? = some c'
      rw [getElem?_set_of_some hi, if_pos rfl]
  lends := by
    refine forall_getElem?_set ?_ ?_
    · intro j cj hj response hphase
      obtain ⟨loan, hloan, hcall⟩ := h.lends j cj hj response hphase
      exact ⟨loan, List.mem_append_left _ hloan, hcall⟩
    · intro response hphase
      obtain ⟨loan, hloan, hcall⟩ := hlends response hphase
      exact ⟨loan, List.mem_append_right _ hloan, hcall⟩

/-- A step of a call that brings no response leaves the loans as they are. -/
theorem Lending.set_open {capacity : Nat} {s : LendingClient} (h : Lending capacity s) {i : Nat}
    {c c' : Call} {ring : Circular UInt8} {sent arriving data : Bytes}
    (hi : s.conn.calls[i]? = some c) (hopen : ∀ result, c.phase ≠ .returned result)
    (hsound : ClientConn.Sound { s.conn with
      calls := s.conn.calls.set i c', mRingBuffer := ring, sent := sent, arriving := arriving })
    (hring : ring.capacity = capacity) (hmemory : ∃ taken, ring.Holds (s.received ++ data) taken)
    (hnone : ∀ response, c'.phase ≠ .returned (.ok (some response))) :
    Lending capacity ⟨{ s.conn with
      calls := s.conn.calls.set i c', mRingBuffer := ring, sent := sent, arriving := arriving },
      s.received ++ data, s.loans ++ []⟩ := by
  refine h.set hi hopen hsound hring hmemory ?_ ?_
  · intro loan hloan
    cases hloan
  · intro response hphase
    exact absurd hphase (hnone response)

/-- A step that brings nothing in and lends nothing. -/
theorem Lending.append_nil {capacity : Nat} {conn : ClientConn (Circular UInt8)} {received : Bytes}
    {loans : List Loan} (h : Lending capacity ⟨conn, received, loans⟩) :
    Lending capacity ⟨conn, received ++ [], loans ++ []⟩ := by
  rw [List.append_nil, List.append_nil]
  exact h

/-- What the memory holds, when nothing comes in. -/
theorem Lending.memory_nil {capacity : Nat} {s : LendingClient} (h : Lending capacity s) :
    ∃ taken, s.conn.mRingBuffer.Holds (s.received ++ []) taken := by
  rw [List.append_nil]
  exact h.memory

/-- **Every step of a client keeps the invariant.** -/
theorem Lending.step {capacity : Nat} {setting : RpcReaderSetting} {s s' : LendingClient}
    {a : ClientAction} (h : Lending capacity s) (hstep : s.step setting a = some s') :
    Lending capacity s' := by
  obtain ⟨conn, hconn, rfl⟩ := Option.map_eq_some_iff.mp hstep
  have hsound := h.sound.step hconn
  cases ClientConn.stepped hconn with
  | call args =>
    refine Lending.append_nil ⟨hsound, h.ring, h.memory, ?_, ?_⟩
    · intro loan hloan
      obtain ⟨c, hc, hback⟩ := h.backs loan hloan
      refine ⟨c, ?_, hback⟩
      show (s.conn.calls ++ [_])[loan.call]? = some c
      rw [List.getElem?_append_left (List.getElem?_eq_some_iff.mp hc).1, hc]
    · refine forall_getElem?_concat h.lends ?_
      intro response hphase
      cases hphase
  | @write i event c c' put hi hw =>
    have hwrote := Call.write_spec (h.sound.wellSent _ _ hi) hw
    obtain ⟨m, hm⟩ := hwrote.sending
    exact h.set_open hi (Call.not_returned hm nofun) hsound h.ring h.memory_nil hwrote.no_response
  | read hpiece hi hr =>
    obtain ⟨-, m, m', hm, rfl, -, -, -, hfits, rfl⟩ :=
      Call.read_piece (h.sound.wellSent _ _ hi) hpiece hr
    obtain ⟨taken, hholds⟩ := h.memory
    refine h.set_open hi (Call.not_returned hm nofun) hsound h.ring ⟨taken, hholds.receive ?_⟩ nofun
    rw [← Circular.content_length]
    exact hfits
  | hangUp hevent hi hr =>
    obtain ⟨-, m, m', e, hm, rfl, -, rfl⟩ := Call.read_end (h.sound.wellSent _ _ hi) hevent hr
    exact h.set_open hi (Call.not_returned hm nofun) hsound h.ring h.memory_nil nofun
  | @finish i c c' ring hi hf =>
    obtain ⟨taken, hholds⟩ := h.memory
    have hi' : (s.conn.calls.set i c')[i]? = some c' := by
      rw [getElem?_set_of_some hi, if_pos rfl]
    obtain ⟨-, m, hm, ⟨n, own, hparse, rfl, rfl⟩ | ⟨e, rfl, rfl, -⟩⟩ :=
      Call.finish_spec (h.sound.wellSent _ _ hi) hf
    · -- the frame in front is taken, and lent if the call returns it
      have hsize : n ≤ s.conn.mRingBuffer.size := by
        rw [← Circular.content_length]
        exact ((Call.parser setting).consumes hparse).2
      have hmemory : ∃ taken, (RingBuffer.consume s.conn.mRingBuffer n).Holds (s.received ++ []) taken := by
        rw [List.append_nil]
        exact ⟨_, hholds.consume hsize⟩
      refine h.set hi (Call.not_returned hm nofun) hsound h.ring hmemory ?_ ?_
      · intro loan hloan
        obtain ⟨rfl, response, hphase⟩ := (LendingClient.mem_lent_finish hi').mp hloan
        obtain ⟨rfl, -, -⟩ := checkResponse_eq_ok (CallPhase.returned.inj hphase)
        refine ⟨rfl, own, hphase, ?_⟩
        rw [← h.ring]
        exact (LendingClient.borrow_of hholds hparse i).append _
      · intro response hphase
        exact ⟨s.borrow i, (LendingClient.mem_lent_finish hi').mpr ⟨rfl, response, hphase⟩, rfl⟩
    · refine h.set hi (Call.not_returned hm nofun) hsound h.ring h.memory_nil ?_ ?_
      · intro loan hloan
        obtain ⟨-, response, hphase⟩ := (LendingClient.mem_lent_finish hi').mp hloan
        cases hphase
      · intro response hphase
        cases hphase
  | @abandon i c c' hi ha =>
    obtain ⟨-, hopen, rfl⟩ := Call.abandon_spec ha
    exact h.set_open hi hopen hsound h.ring h.memory_nil fun response => hopen _
  | respond answer => exact Lending.append_nil ⟨hsound, h.ring, h.memory, h.backs, h.lends⟩

theorem LendingClient.conn_step {setting : RpcReaderSetting} {s s' : LendingClient} {a : ClientAction}
    (h : s.step setting a = some s') : s.conn.step setting a = some s'.conn := by
  obtain ⟨conn, hconn, rfl⟩ := Option.map_eq_some_iff.mp h
  exact hconn

/-- What `payload()` gives of a loan when it is called now: as many bytes as the payload has, each the
    last one received where the payload's own went; so the payload itself, as long as no more than a
    ring's length has been received from its first byte on. -/
structure Loan.Reads (loan : Loan) (s : LendingClient) (capacity : Nat) (payload : Bytes) : Prop where
  received : slice s.received loan.start payload.length = payload
  length : (loan.payload s.conn.mRingBuffer).length = payload.length
  bytes : ∀ i < payload.length, (loan.payload s.conn.mRingBuffer)[i]? =
    s.received[Circular.lastPosition capacity s.received.length (loan.start + i)]?
  intact : s.received.length ≤ loan.start + capacity → loan.payload s.conn.mRingBuffer = payload

/-- **What `payload()` of a returned response gives, whenever it is called first.**  In every run of
    fewer than 2^32 calls against a peer that labels what it sends, a call that has returned a response
    has lent the payload of an answer to it, and `payload()` gives what `Loan.Reads` says. -/
theorem payload_last_received (setting : RpcReaderSetting) (capacity : Nat) (cells : Nat → UInt8)
    {actions : List ClientAction} {s : LendingClient}
    (hrun : Run (LendingClient.step setting) (fun s a => Labels s.conn a)
      (.start (.empty capacity cells)) actions s)
    (hfew : s.conn.calls.length < 2 ^ 32) (i : Nat) (c : Call) (hi : s.conn.calls[i]? = some c)
    (response : RpcResponse) (hreturned : c.phase = .returned (.ok (some response))) :
    (∃ loan ∈ s.loans, loan.call = i) ∧
      ∃ answer ∈ s.conn.answered, answer.origin = i ∧ answer.msg = response.msg ∧
        ∀ loan ∈ s.loans, loan.call = i → loan.Reads s capacity answer.msg.payload := by
  have hs : Lending capacity s :=
    hrun.invariant (I := Lending capacity) (fun _ _ _ h _ hstep => h.step hstep) (lending_start _ _)
  have hconn : Run (ClientConn.step setting) Labels _ actions s.conn :=
    hrun.project LendingClient.conn (fun _ _ h => h) fun _ _ _ => LendingClient.conn_step
  have hempty : RingBuffer.content (Circular.empty capacity cells) = [] :=
    (Circular.holds_empty capacity cells).content_eq
  have hdelivering : Delivering s.conn :=
    hconn.invariant (fun _ _ _ h => h.step) (delivering_start hempty)
  obtain ⟨-, -, answer, hmem, horigin, hmsg⟩ := hdelivering.own_response hfew hi hreturned
  obtain ⟨taken, hholds⟩ := hs.memory
  refine ⟨hs.lends i c hi response hreturned, answer, hmem, horigin, hmsg, ?_⟩
  rintro loan hloan rfl
  -- the loan is of what the call returned
  obtain ⟨c', hc', response', hphase, hof⟩ := hs.backs loan hloan
  obtain rfl := Option.some.inj (hi.symm.trans hc')
  rw [hreturned] at hphase
  obtain rfl := Option.some.inj (Except.ok.inj (CallPhase.returned.inj hphase))
  rw [hmsg]
  rw [← hs.ring] at hof ⊢
  exact ⟨hof.bytes, hof.payload_length _, fun i hi => hof.payload_getElem? hholds hi,
    hof.payload_eq hholds⟩

/-- Another answer to the second call. -/
def secondAnswer : Answer :=
  let msg : ResponseMsg := ⟨1, .unary, true, .ok, [0x79, 0x6F]⟩
  ⟨1, msg.frame, msg⟩

/-- Two calls, one after the other. -/
def twoCalls : List ClientAction :=
  [.call echoArgs, .write 0 (.accept 99), .respond (echoAnswer 0), .read 0 20, .finish 0,
    .call echoArgs, .write 1 (.accept 99), .respond secondAnswer, .read 1 20, .finish 1]

theorem payload_last_received_twoCalls :
    ∃ (s : LendingClient) (c : Call) (response : RpcResponse),
      runAll (LendingClient.step {}) (fun s a => Labels s.conn a) (.start (.empty 24 fun _ => 0))
          twoCalls = some s ∧
        s.conn.calls[0]? = some c ∧ c.phase = .returned (.ok (some response)) ∧
        ((∃ loan ∈ s.loans, loan.call = 0) ∧
          ∃ answer ∈ s.conn.answered, answer.origin = 0 ∧ answer.msg = response.msg ∧
            ∀ loan ∈ s.loans, loan.call = 0 → loan.Reads s 24 answer.msg.payload) := by
  have hruns : ((runAll (LendingClient.step {}) (fun s a => Labels s.conn a)
      (.start (.empty 24 fun _ => 0)) twoCalls).bind fun s =>
        if s.conn.calls.length < 2 ^ 32 then s.conn.calls[0]?.bind Call.result? else none) =
      some (.ok (some { requestId := 0, store := .setView ⟨[0x68, 0x69], []⟩ })) := by
    decide
  obtain ⟨s, hs, hcalls⟩ := Option.bind_eq_some_iff.mp hruns
  split at hcalls
  · rename_i hfew
    obtain ⟨c, hc, hresult⟩ := Option.bind_eq_some_iff.mp hcalls
    have hphase := Call.phase_of_result hresult
    exact ⟨s, c, _, hs, hc, hphase,
      payload_last_received {} 24 _ (run_iff_runAll.mpr hs) hfew 0 c hc _ hphase⟩
  · cases hcalls

/-- On a ring that one response fills, the first call's `payload()` gives the second's. -/
theorem payload_overwritten :
    ¬ ∀ (setting : RpcReaderSetting) (capacity : Nat) (cells : Nat → UInt8)
        (actions : List ClientAction) (s : LendingClient),
      Run (LendingClient.step setting) (fun s a => Labels s.conn a) (.start (.empty capacity cells))
          actions s →
        s.conn.calls.length < 2 ^ 32 → ∀ loan ∈ s.loans, ∃ answer ∈ s.conn.answered,
          answer.origin = loan.call ∧ loan.payload s.conn.mRingBuffer = answer.msg.payload := by
  intro h
  have hruns : ((runAll (LendingClient.step {}) (fun s a => Labels s.conn a)
      (.start (.empty 20 fun _ => 0)) twoCalls).map fun s =>
        (decide (s.conn.calls.length < 2 ^ 32),
          s.loans.map fun loan => (loan.call, loan.payload s.conn.mRingBuffer),
          s.conn.answered.map fun answer => (answer.origin, answer.msg.payload))) =
      some (true, [(0, [0x79, 0x6F]), (1, [0x79, 0x6F])], [(0, [0x68, 0x69]), (1, [0x79, 0x6F])]) := by
    decide
  obtain ⟨s, hs, hout⟩ := Option.map_eq_some_iff.mp hruns
  obtain ⟨hfew, hrest⟩ := Prod.mk.inj hout
  obtain ⟨hloans, hanswers⟩ := Prod.mk.inj hrest
  obtain ⟨loan, hloan, hpayload⟩ : ∃ loan ∈ s.loans,
      (loan.call, loan.payload s.conn.mRingBuffer) = (0, [0x79, 0x6F]) := by
    refine List.mem_map.mp ?_
    rw [hloans]
    exact List.mem_cons_self
  obtain ⟨hcall, hread⟩ := Prod.mk.inj hpayload
  obtain ⟨answer, hanswer, horigin, hsame⟩ :=
    h {} 20 _ twoCalls s (run_iff_runAll.mpr hs) (of_decide_eq_true hfew) loan hloan
  -- the only answer to the first call says something else
  have hmem : (answer.origin, answer.msg.payload) ∈
      s.conn.answered.map fun answer => (answer.origin, answer.msg.payload) :=
    List.mem_map.mpr ⟨answer, hanswer, rfl⟩
  rw [hanswers, horigin, hcall, ← hsame, hread] at hmem
  simp at hmem

end GalayRpc
