/-
  One end of a connection that carries streams.

  `RpcStream` is a reader and a writer on a connection's ring buffer and socket, and both ends use it: a
  client directly, a server in `handleConnection` and in the handlers it runs.  Here an end does one
  operation on its socket at a time.  A read or a write may fail or be given up wherever it is; what it
  leaves behind is what the code leaves behind: a ring buffer without the header of the frame it is in
  (`lost`), or half a frame on the connection (`torn`).

  * `Carried` — from one end to the other: the messages that have been read are the first frames that the
    other end has begun to write, and the reader is somewhere in the frames that are left, with the bytes
    that have not been sent yet behind those that have come in;
  * `Carried.read`, `Carried.send`, `Carried.writev`, `Carried.giveUp` — what each operation makes of that.
-/
import GalayRpc.StreamServer

namespace GalayRpc

variable {ρ ρ' : Type} [RingBuffer ρ] [RingBuffer ρ']

/-! ## An end -/

/-- The writing side of an end: nothing is being written, or a frame is, or the last write has ended
    somewhere in its frame. -/
inductive StreamWriter where
  | idle
  | writing (frame : StreamFrame) (run : WritevRun)
  | torn (rest : Bytes)

def StreamWriter.isIdle : StreamWriter → Bool
  | .idle => true
  | _ => false

theorem StreamWriter.eq_idle {w : StreamWriter} (h : w.isIdle = true) : w = .idle := by
  cases w with
  | idle => rfl
  | _ => cases h

/-- What of the frames begun is not on the connection. -/
def StreamWriter.unsent : StreamWriter → Bytes
  | .idle => []
  | .writing frame run => frame.bytes.drop run.accepted.length
  | .torn rest => rest

/-- The writing side behind a `writev`. -/
def StreamWriter.after (frame : StreamFrame) (run : WritevRun) : StreamWriter :=
  match run.machine.result with
  | none => .writing frame run
  | some (.ok _) => .idle
  | some (.error _) => .torn (frame.bytes.drop run.accepted.length)

/-- An end: its reading side, whether a read has ended behind its header without a message, its writing
    side, and the frames whose write it has begun. -/
structure StreamEnd (ρ : Type) where
  conn : StreamConn ρ
  lost : Bool := false
  writer : StreamWriter := .idle
  begun : List StreamFrame := []

namespace ReadConn

variable {σ M : Type} (c : ReadStateClass ρ σ M) (s : ReadConn ρ σ M)

/-- The machine a read goes on with; a timeout drops it. -/
def machine? (action : ReadAction M) : Option (RpcRingBufferReadMachine ρ σ) :=
  match s.reader, action with
  | .idle ring, .read object => some ⟨{ ringBuffer := ring, own := c.enter object }, none⟩
  | .suspended machine _ _, .readv n => some ((machine.filled (s.arriving.take n)).onRead (.ok n))
  | .suspended machine _ _, .readvFails e => some (machine.onRead (.error e))
  | .suspended machine _ _, .peerCloses => some (machine.onRead (.ok 0))
  | _, _ => none

/-- The error a read completes with. -/
def failure (action : ReadAction M) : Option RpcError :=
  match s.machine? c action with
  | none => none
  | some machine =>
    match machine.advance c.parseFromRingBuffer with
    | (.complete (.error e), _) => some e
    | _ => none

end ReadConn

namespace StreamEnd

/-- A new connection. -/
def start (ring : ρ) : StreamEnd ρ := { conn := { reader := .idle ring, arriving := [] } }

variable (s : StreamEnd ρ)

/-- The messages read so far. -/
def messages : List StreamMessage := s.conn.delivered.map Prod.snd

/-- `stream.read(message)`, one completion at a time. -/
def read (action : ReadAction StreamMessage) : Option (StreamEnd ρ) :=
  (s.conn.step streamMessageReadState action).map fun conn =>
    { s with conn := conn, lost := s.lost || !decide (HeaderPending s.conn action) }

/-- One of the send methods is awaited; a new write begins whatever has become of the last one. -/
def send (frame : StreamFrame) : Option (StreamEnd ρ) :=
  match s.writer with
  | .writing _ _ => none
  | _ =>
    some { s with
      writer := .writing frame (.start frame.writeState)
      begun := s.begun ++ [frame] }

/-- One `writev`: the end behind it, the bytes it has put on the connection, and what the send returns. -/
def writev (event : WriteEvent) : Option (StreamEnd ρ × Bytes × Option RpcAwaitableResult) :=
  match s.writer with
  | .writing frame run =>
    (run.step event).map fun run' =>
      ({ s with writer := .after frame run' }, run'.accepted.drop run.accepted.length,
        run'.machine.result)
  | _ => none

/-- A write that is given up. -/
def giveUp : Option (StreamEnd ρ) :=
  match s.writer with
  | .writing frame run => some { s with writer := .torn (frame.bytes.drop run.accepted.length) }
  | _ => none

/-- More bytes come in. -/
def arrive (put : Bytes) : StreamEnd ρ := { s with conn := { s.conn with arriving := s.conn.arriving ++ put } }

@[simp] theorem arrive_nil : s.arrive [] = s := by
  unfold arrive
  rw [List.append_nil]

end StreamEnd

/-! ## From one end to the other -/

/-- A write in progress is on its way through its frame. -/
def StreamWriter.Sending : StreamWriter → Prop
  | .writing frame run => run.machine.result = none ∧ WritevRun.Sending frame.bytes run
  | _ => True

/-- What `a` writes comes in at `b`. -/
structure Carried (capacity : Nat) (a : StreamEnd ρ) (b : StreamEnd ρ') : Prop where
  fits : ∀ f ∈ a.begun, f.Fits capacity
  writer : a.writer.Sending
  carries : List.Forall₂ StreamClient.Carries b.messages (a.begun.take b.messages.length)
  lost : b.lost = true → ∃ ring, b.conn.reader = .idle ring
  tracks : b.lost = false →
    Tracks capacity a.begun { b.conn with arriving := b.conn.arriving ++ a.writer.unsent }

/-! ### Reads -/

section ReadConn

variable {σ M : Type} {c : ReadStateClass ρ σ M}

theorem ReadConn.proceed_eq {s t : ReadConn ρ σ M} (h : t.delivered = s.delivered)
    (machine : RpcRingBufferReadMachine ρ σ) (object : M) (received : Bytes) :
    t.proceed c machine object received =
      ⟨(s.proceed c machine object received).reader, t.arriving,
        (s.proceed c machine object received).delivered⟩ := by
  unfold ReadConn.proceed
  split
  · rw [h]
  · rw [h]
  · rw [h]

theorem ReadConn.arriving_proceed (s : ReadConn ρ σ M) (machine : RpcRingBufferReadMachine ρ σ)
    (object : M) (received : Bytes) :
    (s.proceed c machine object received).arriving = s.arriving := by
  unfold ReadConn.proceed
  split
  · rfl
  · rfl
  · rfl

/-- A step of a read does not see what comes in behind the bytes it takes. -/
theorem ReadConn.step_extend {s s' : ReadConn ρ σ M} {action : ReadAction M}
    (h : s.step c action = some s') (t : Bytes) :
    ({ s with arriving := s.arriving ++ t } : ReadConn ρ σ M).step c action =
      some { s' with arriving := s'.arriving ++ t } := by
  unfold ReadConn.step at h
  split at h
  · rename_i ring object hidle
    obtain rfl := Option.some.inj h
    unfold ReadConn.step
    simp only [hidle, ReadConn.arriving_proceed]
    refine congrArg some (ReadConn.proceed_eq ?_ _ _ _)
    rfl
  · rename_i machine object received n hsuspended
    simp only [Option.ite_none_right_eq_some, Option.some.injEq] at h
    obtain ⟨⟨hpos, hroom, hle⟩, rfl⟩ := h
    have hle' : n ≤ (s.arriving ++ t).length := by
      rw [List.length_append]
      omega
    unfold ReadConn.step
    simp only [hsuspended, if_pos (And.intro hpos (And.intro hroom hle')),
      List.take_append_of_le_length hle, List.drop_append_of_le_length hle, ReadConn.arriving_proceed]
    refine congrArg some (ReadConn.proceed_eq ?_ _ _ _)
    rfl
  · rename_i machine object received e hsuspended
    obtain rfl := Option.some.inj h
    unfold ReadConn.step
    simp only [hsuspended, ReadConn.arriving_proceed]
    refine congrArg some (ReadConn.proceed_eq ?_ _ _ _)
    rfl
  · rename_i machine object received hsuspended
    obtain rfl := Option.some.inj h
    unfold ReadConn.step
    simp only [hsuspended, ReadConn.arriving_proceed]
    refine congrArg some (ReadConn.proceed_eq ?_ _ _ _)
    rfl
  · rename_i machine object received hsuspended
    obtain rfl := Option.some.inj h
    unfold ReadConn.step
    simp only [hsuspended]
  · cases h

end ReadConn

/-- A step of a read delivers at most one message. -/
theorem ReadConn.delivered_of_step {σ M : Type} {c : ReadStateClass ρ σ M} {s s' : ReadConn ρ σ M}
    {action : ReadAction M} (h : s.step c action = some s') :
    s'.delivered = s.delivered ∨ ∃ r, s'.delivered = s.delivered ++ [r] := by
  have hproceed : ∀ (t : ReadConn ρ σ M) machine object received,
      (t.proceed c machine object received).delivered = t.delivered ∨
        ∃ r, (t.proceed c machine object received).delivered = t.delivered ++ [r] := by
    intro t machine object received
    unfold ReadConn.proceed
    split
    · exact Or.inr ⟨_, rfl⟩
    · exact Or.inl rfl
    · exact Or.inl rfl
  cases ReadConn.step_cases c h with
  | start ring object hidle => exact hproceed s _ _ _
  | piece machine object received piece rest => exact hproceed { s with arriving := rest } _ _ _
  | ended machine object received => exact Or.inl rfl

theorem StreamEnd.messages_of_read {s s' : StreamEnd ρ} {action : ReadAction StreamMessage}
    (h : s.read action = some s') :
    s'.messages = s.messages ∨ ∃ m, s'.messages = s.messages ++ [m] := by
  obtain ⟨conn, hstep, rfl⟩ := Option.map_eq_some_iff.mp h
  rcases ReadConn.delivered_of_step hstep with hsame | ⟨r, hone⟩
  · exact Or.inl (congrArg (List.map Prod.snd) hsame)
  · refine Or.inr ⟨r.2, ?_⟩
    show conn.delivered.map Prod.snd = _
    rw [hone, List.map_append]
    rfl

namespace StreamEnd

variable {s s' : StreamEnd ρ}

/-- What a read has added. -/
theorem messages_append {action : ReadAction StreamMessage} (h : s.read action = some s') :
    s'.messages = s.messages ++ s'.messages.drop s.messages.length := by
  refine (List.prefix_iff_eq_append.mp ?_).symm
  rcases messages_of_read h with hsame | ⟨m, hone⟩
  · exact hsame ▸ List.prefix_rfl
  · exact hone ▸ List.prefix_append _ _

/-- A read keeps out of the writing side. -/
theorem kept_of_read {action : ReadAction StreamMessage} (h : s.read action = some s') :
    s'.begun = s.begun ∧ s'.writer = s.writer := by
  obtain ⟨conn, -, rfl⟩ := Option.map_eq_some_iff.mp h
  exact ⟨rfl, rfl⟩

omit [RingBuffer ρ] in
/-- A send keeps out of the reading side. -/
theorem kept_of_send {frame : StreamFrame} (h : s.send frame = some s') :
    s'.conn = s.conn ∧ s'.lost = s.lost ∧ s'.begun = s.begun ++ [frame] := by
  unfold send at h
  split at h
  · cases h
  · obtain rfl := Option.some.inj h
    exact ⟨rfl, rfl, rfl⟩

omit [RingBuffer ρ] in
theorem kept_of_writev {event : WriteEvent} {put : Bytes} {result : Option RpcAwaitableResult}
    (h : s.writev event = some (s', put, result)) :
    s'.conn = s.conn ∧ s'.lost = s.lost ∧ s'.begun = s.begun := by
  unfold writev at h
  split at h
  · rename_i frame run hwriter
    obtain ⟨run', -, heq⟩ := Option.map_eq_some_iff.mp h
    obtain ⟨rfl, -⟩ := Prod.mk.inj heq
    exact ⟨rfl, rfl, rfl⟩
  · cases h

omit [RingBuffer ρ] in
theorem kept_of_giveUp (h : s.giveUp = some s') :
    s'.conn = s.conn ∧ s'.lost = s.lost ∧ s'.begun = s.begun := by
  unfold giveUp at h
  split at h
  · obtain rfl := Option.some.inj h
    exact ⟨rfl, rfl, rfl⟩
  · cases h

end StreamEnd

/-- The messages that have been read are the first frames. -/
theorem Tracks.carries {capacity : Nat} {frames : List StreamFrame} {s : StreamConn ρ}
    (h : Tracks capacity frames s) :
    List.Forall₂ StreamClient.Carries (s.delivered.map Prod.snd) (frames.take s.delivered.length) := by
  obtain ⟨done, todo, rfl, hdone, -⟩ := h.split
  rw [hdone.length_eq, List.take_left, List.forall₂_map_left_iff]
  refine hdone.imp ?_
  intro r f hdelivers
  obtain ⟨htype, hid, hpayload, -⟩ := StreamMsg.mk.inj hdelivers
  exact ⟨htype, hid, hpayload⟩

/-! ### Writes -/

/-- The write of a frame that has just begun. -/
theorem StreamFrame.sending_start (f : StreamFrame) :
    WritevRun.Sending f.bytes (WritevRun.start f.writeState) := by
  refine WritevRun.Sending.start ?_ ?_ f.writeState_ne_nil
  · cases f with
    | _ => rfl
  · cases f with
    | init | data | dataView => exact List.cons_ne_nil _ _
    | initAck | endOfStream | cancel => exact List.cons_ne_nil _ _

/-- What a write has put on the connection, and what is left of its frame. -/
theorem WritevRun.Sending.split {bytes : Bytes} {run run' : WritevRun} {event : WriteEvent}
    (h : WritevRun.Sending bytes run) (hstep : run.step event = some run') :
    bytes.drop run.accepted.length =
      run'.accepted.drop run.accepted.length ++ bytes.drop run'.accepted.length := by
  have haccepted := WritevRun.accepted_of_step hstep
  obtain ⟨rest, hrest⟩ : ∃ rest, run'.accepted ++ rest = bytes := ⟨_, (h.step hstep).sends.accepted⟩
  have hle : run.accepted.length ≤ run'.accepted.length := by
    rw [haccepted, List.length_append]
    omega
  rw [← hrest, List.drop_append_of_le_length hle, List.drop_left]

/-- Behind a `writev`, what is unsent is what is left of the frame. -/
theorem StreamWriter.unsent_after {frame : StreamFrame} {run : WritevRun}
    (h : WritevRun.Sending frame.bytes run) :
    (StreamWriter.after frame run).unsent = frame.bytes.drop run.accepted.length := by
  unfold StreamWriter.after
  cases hresult : run.machine.result with
  | none => rfl
  | some result =>
    cases result with
    | error e => rfl
    | ok b =>
      cases h with
      | writing iovecs hmachine =>
        rw [hmachine] at hresult
        cases hresult
      | done hmachine hbytes =>
        rw [hbytes, List.drop_length]
        rfl
      | failed iovecs e hmachine =>
        rw [hmachine] at hresult
        cases hresult

theorem StreamWriter.sending_after {frame : StreamFrame} {run : WritevRun}
    (h : WritevRun.Sending frame.bytes run) : (StreamWriter.after frame run).Sending := by
  unfold StreamWriter.after
  split
  · exact ⟨‹_›, h⟩
  · trivial
  · trivial

namespace Carried

variable {capacity : Nat} {a a' : StreamEnd ρ} {b b' : StreamEnd ρ'}

omit [RingBuffer ρ] in
/-- The other directions of the two ends do not matter. -/
theorem congr (h : Carried capacity a b) (hbegun : a'.begun = a.begun) (hwriter : a'.writer = a.writer)
    (hconn : b'.conn = b.conn) (hlost : b'.lost = b.lost) : Carried capacity a' b' := by
  obtain ⟨hfits, hsending, hcarries, hidle, htracks⟩ := h
  constructor
  · rwa [hbegun]
  · rwa [hwriter]
  · rwa [hbegun, StreamEnd.messages, hconn]
  · rwa [hlost, hconn]
  · rwa [hlost, hconn, hbegun, hwriter]

omit [RingBuffer ρ] in
theorem length_le (h : Carried capacity a b) : b.messages.length ≤ a.begun.length := by
  have hlen := h.carries.length_eq
  rw [List.length_take] at hlen
  omega

omit [RingBuffer ρ] in
/-- **A step of a read.** -/
theorem read (h : Carried capacity a b) (hcap : rpcHeaderSize ≤ capacity)
    {action : ReadAction StreamMessage} (hstart : action.Starts → b.lost = false)
    (hread : b.read action = some b') : Carried capacity a b' := by
  obtain ⟨conn, hstep, rfl⟩ := Option.map_eq_some_iff.mp hread
  cases hlost : b.lost with
  | true =>
    -- nobody reads, and no read is started
    obtain ⟨ring, hidle⟩ := h.lost hlost
    exfalso
    cases action with
    | read m =>
      have := hstart trivial
      rw [hlost] at this
      cases this
    | _ =>
      unfold ReadConn.step at hstep
      rw [hidle] at hstep
      cases hstep
  | false =>
    have hextended := ReadConn.step_extend hstep a.writer.unsent
    by_cases hpending : HeaderPending b.conn action
    · have htracks := (h.tracks hlost).step hcap h.fits hpending hextended
      have hkept : (false || !decide (HeaderPending b.conn action)) = false := by
        rw [decide_eq_true hpending]
        rfl
      refine ⟨h.fits, h.writer, ?_, ?_, fun _ => htracks⟩
      · have hcarries := htracks.carries
        rw [StreamEnd.messages, List.length_map]
        exact hcarries
      · intro hlost'
        have hlost' : (false || !decide (HeaderPending b.conn action)) = true := hlost'
        rw [hkept] at hlost'
        cases hlost'
    · -- the read ends behind its header
      have hinterrupts : action.Interrupts := by
        by_contra hnot
        exact hpending fun hinterrupts => absurd hinterrupts hnot
      have hgone : (false || !decide (HeaderPending b.conn action)) = true := by
        rw [decide_eq_false hpending]
        rfl
      cases ReadConn.step_cases streamMessageReadState hstep with
      | start ring object hidle => exact hinterrupts.elim
      | piece machine object received piece rest => exact hinterrupts.elim
      | ended machine object received hsuspended =>
        refine ⟨h.fits, h.writer, h.carries, fun _ => ⟨_, rfl⟩, ?_⟩
        intro hlost'
        have hlost' : (false || !decide (HeaderPending b.conn action)) = false := hlost'
        rw [hgone] at hlost'
        cases hlost'

omit [RingBuffer ρ] in
/-- **A write begins** behind frames that are all on the connection. -/
theorem send (h : Carried capacity a b) {frame : StreamFrame} (hidle : a.writer = .idle)
    (hfits : frame.Fits capacity) (hsend : a.send frame = some a') : Carried capacity a' b := by
  unfold StreamEnd.send at hsend
  rw [hidle] at hsend
  obtain rfl := Option.some.inj hsend
  refine ⟨forall_mem_concat h.fits hfits, ⟨rfl, frame.sending_start⟩, ?_, h.lost, ?_⟩
  · show List.Forall₂ _ b.messages ((a.begun ++ [frame]).take b.messages.length)
    rw [List.take_append_of_le_length h.length_le]
    exact h.carries
  · intro hlost
    have htracks := (h.tracks hlost).extend frame
    rw [hidle] at htracks
    show Tracks capacity (a.begun ++ [frame])
      { b.conn with arriving := b.conn.arriving ++ frame.bytes.drop 0 }
    simpa only [StreamWriter.unsent, List.append_nil, List.drop_zero] using htracks

omit [RingBuffer ρ] in
/-- **One `writev`** moves bytes onto the connection. -/
theorem writev (h : Carried capacity a b) {event : WriteEvent} {put : Bytes}
    {result : Option RpcAwaitableResult} (hwritev : a.writev event = some (a', put, result)) :
    Carried capacity a' (b.arrive put) := by
  unfold StreamEnd.writev at hwritev
  split at hwritev
  · rename_i frame run hwriter
    obtain ⟨run', hstep, heq⟩ := Option.map_eq_some_iff.mp hwritev
    obtain ⟨rfl, hrest⟩ := Prod.mk.inj heq
    obtain ⟨rfl, -⟩ := Prod.mk.inj hrest
    have hsending := h.writer
    rw [hwriter] at hsending
    have hsending' := hsending.2.step hstep
    refine ⟨h.fits, StreamWriter.sending_after hsending', h.carries, h.lost, ?_⟩
    intro hlost
    have htracks := h.tracks hlost
    rw [hwriter, StreamWriter.unsent, hsending.2.split hstep, ← StreamWriter.unsent_after hsending',
      ← List.append_assoc] at htracks
    exact htracks
  · cases hwritev

omit [RingBuffer ρ] in
/-- A write is given up where it is. -/
theorem giveUp (h : Carried capacity a b) (hgive : a.giveUp = some a') : Carried capacity a' b := by
  unfold StreamEnd.giveUp at hgive
  split at hgive
  · rename_i frame run hwriter
    obtain rfl := Option.some.inj hgive
    have htracks := h.tracks
    rw [hwriter] at htracks
    exact ⟨h.fits, trivial, h.carries, h.lost, htracks⟩
  · cases hgive

end Carried

end GalayRpc
