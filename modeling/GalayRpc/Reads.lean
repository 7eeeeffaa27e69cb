/-
  Reads on one connection, one completion of a `readv` at a time, and reads that are given up.

  `awaitRead` runs a read to its end; here it can be stopped on the way.  Between two completions a read
  is suspended in its machine, which dies with the awaitable: a timeout drops it, and all that is left is
  the ring buffer, as the machine has left it, and the object it has been reading into.  The next read
  starts on both.

  `step_cases` is all that a step can do: start a read, take in a piece, end the read in an error, or drop
  it.  It is stated for any read state class (`ReadStateClass`).
-/
import GalayRpc.Await
import GalayRpc.Lib.Run

namespace GalayRpc

/-- A read state class: its `parseFromRingBuffer`, its members at the start of a read into an object, and
    the object as the members hold it. -/
structure ReadStateClass (ρ σ M : Type) where
  parseFromRingBuffer : RpcRingBufferReadState ρ σ → Bool × RpcRingBufferReadState ρ σ
  enter : M → σ
  leave : σ → M

/-- The reading side of a connection: nobody reads, or a read is suspended.  Of a suspended read we keep
    the object it was given and the bytes it has had to do with: what was in the ring at its start, and
    what it has received since. -/
inductive Reader (ρ σ M : Type) where
  | idle (ring : ρ)
  | suspended (machine : RpcRingBufferReadMachine ρ σ) (object : M) (received : Bytes)

/-- A connection: its reader, the bytes that are still to be received, and for each read that succeeded
    the object it was given and what it made of it. -/
structure ReadConn (ρ σ M : Type) where
  reader : Reader ρ σ M
  arriving : Bytes
  delivered : List (M × M) := []

/-- What can happen to the reading side of a connection. -/
inductive ReadAction (M : Type) where
  | read (object : M)
  | readv (n : Nat)
  | readvFails (e : IOError)
  | peerCloses
  | timeout
deriving DecidableEq, Repr

/-- A read begins. -/
def ReadAction.Starts {M : Type} : ReadAction M → Prop
  | .read _ => True
  | _ => False

instance {M : Type} (action : ReadAction M) : Decidable action.Starts :=
  match action with
  | .read _ => .isTrue trivial
  | .readv _ => .isFalse id
  | .readvFails _ => .isFalse id
  | .peerCloses => .isFalse id
  | .timeout => .isFalse id

/-- An action that ends a suspended read without success. -/
def ReadAction.Interrupts {M : Type} : ReadAction M → Prop
  | .read _ => False
  | .readv _ => False
  | .readvFails _ => True
  | .peerCloses => True
  | .timeout => True

instance {M : Type} (action : ReadAction M) : Decidable action.Interrupts :=
  match action with
  | .read _ => .isFalse id
  | .readv _ => .isFalse id
  | .readvFails _ => .isTrue trivial
  | .peerCloses => .isTrue trivial
  | .timeout => .isTrue trivial

namespace ReadConn

variable {ρ σ M : Type} [RingBuffer ρ] (c : ReadStateClass ρ σ M)

/-- Advance the machine of a read: it suspends the read, or it completes it. -/
def proceed (s : ReadConn ρ σ M) (machine : RpcRingBufferReadMachine ρ σ) (object : M)
    (received : Bytes) : ReadConn ρ σ M :=
  match machine.advance c.parseFromRingBuffer with
  | (.complete (.ok true), machine) =>
    { s with
      reader := .idle machine.state.ringBuffer
      delivered := s.delivered ++ [(object, c.leave machine.state.own)] }
  | (.complete _, machine) => { s with reader := .idle machine.state.ringBuffer }
  | (_, machine) => { s with reader := .suspended machine object received }

def step (s : ReadConn ρ σ M) (action : ReadAction M) : Option (ReadConn ρ σ M) :=
  match s.reader, action with
  | .idle ring, .read object =>
    some (s.proceed c ⟨{ ringBuffer := ring, own := c.enter object }, none⟩ object
      (RingBuffer.content ring))
  | .suspended machine object received, .readv n =>
    if 0 < n ∧ n ≤ machine.state.readIovecs.sum ∧ n ≤ s.arriving.length then
      some ({ s with arriving := s.arriving.drop n }.proceed c
        ((machine.filled (s.arriving.take n)).onRead (.ok n)) object (received ++ s.arriving.take n))
    else none
  | .suspended machine object received, .readvFails e =>
    some (s.proceed c (machine.onRead (.error e)) object received)
  | .suspended machine object received, .peerCloses =>
    some (s.proceed c (machine.onRead (.ok 0)) object received)
  -- the machine is dropped, the ring buffer stays
  | .suspended machine _ _, .timeout => some { s with reader := .idle machine.state.ringBuffer }
  | _, _ => none

/-- What a step can do. -/
inductive Stepped (s : ReadConn ρ σ M) : ReadAction M → ReadConn ρ σ M → Prop where
  | start (ring : ρ) (object : M) (hidle : s.reader = .idle ring) :
      Stepped s (.read object)
        (s.proceed c ⟨{ ringBuffer := ring, own := c.enter object }, none⟩ object
          (RingBuffer.content ring))
  | piece (machine : RpcRingBufferReadMachine ρ σ) (object : M) (received piece rest : Bytes)
      (hsuspended : s.reader = .suspended machine object received) (hne : piece ≠ [])
      (hroom : piece.length ≤ machine.state.readIovecs.sum) (harriving : s.arriving = piece ++ rest) :
      Stepped s (.readv piece.length)
        ({ s with arriving := rest }.proceed c
          { machine with state := { machine.state with
              ringBuffer := RingBuffer.receive machine.state.ringBuffer piece } } object
          (received ++ piece))
  | ended (machine : RpcRingBufferReadMachine ρ σ) (object : M) (received : Bytes)
      (hsuspended : s.reader = .suspended machine object received) {action : ReadAction M}
      (hinterrupts : action.Interrupts) :
      Stepped s action { s with reader := .idle machine.state.ringBuffer }

theorem step_cases {s s' : ReadConn ρ σ M} {action : ReadAction M}
    (h : s.step c action = some s') : Stepped c s action s' := by
  unfold step at h
  split at h
  · rename_i ring object hidle
    obtain rfl := Option.some.inj h
    exact .start ring object hidle
  · rename_i machine object received n hsuspended
    simp only [Option.ite_none_right_eq_some, Option.some.injEq] at h
    obtain ⟨⟨hpos, hroom, hle⟩, rfl⟩ := h
    have hlen : (s.arriving.take n).length = n := by
      rw [List.length_take, Nat.min_eq_left hle]
    have hne : s.arriving.take n ≠ [] := List.ne_nil_of_length_pos (by omega)
    have hstep := Stepped.piece (c := c) machine object received (s.arriving.take n) (s.arriving.drop n)
      hsuspended hne (by rwa [hlen]) (List.take_append_drop n s.arriving).symm
    rw [← onRead_filled hne, hlen] at hstep
    exact hstep
  · rename_i machine object received e hsuspended
    obtain rfl := Option.some.inj h
    exact .ended machine object received hsuspended trivial
  · rename_i machine object received hsuspended
    obtain rfl := Option.some.inj h
    exact .ended machine object received hsuspended trivial
  · rename_i machine object received hsuspended
    obtain rfl := Option.some.inj h
    exact .ended machine object received hsuspended trivial
  · cases h

/-- A parse that completes without an error delivers the object. -/
theorem proceed_of_true {s : ReadConn ρ σ M} {machine : RpcRingBufferReadMachine ρ σ} {object : M}
    {received : Bytes} {state : RpcRingBufferReadState ρ σ} (hresult : machine.result = none)
    (hparse : c.parseFromRingBuffer machine.state = (true, state)) (herror : state.error = none) :
    s.proceed c machine object received =
      { s with
        reader := .idle state.ringBuffer
        delivered := s.delivered ++ [(object, c.leave state.own)] } := by
  unfold proceed RpcRingBufferReadMachine.advance
  simp only [hresult, hparse, herror, takeResult]

/-- A parse that waits suspends the read, if the ring has room. -/
theorem proceed_of_false {s : ReadConn ρ σ M} {machine : RpcRingBufferReadMachine ρ σ} {object : M}
    {received : Bytes} {state : RpcRingBufferReadState ρ σ} (hresult : machine.result = none)
    (hparse : c.parseFromRingBuffer machine.state = (false, state))
    (hroom : 0 < RingBuffer.free state.ringBuffer) :
    s.proceed c machine object received =
      { s with
        reader := .suspended
          ⟨{ state with readIovecs := RingBuffer.getWriteIovecs state.ringBuffer }, none⟩
          object received } := by
  unfold proceed RpcRingBufferReadMachine.advance
  simp only [hresult, hparse, prepareReadWindow_eq, if_pos hroom]

end ReadConn

end GalayRpc
