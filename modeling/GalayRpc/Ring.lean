/-
  galay-kernel's `RingBuffer`, as far as this code relies on it.

  The class is not part of this repository.  Everything here is stated for any type with its
  operations that is a FIFO of fixed capacity and shows its content and its free space as at most two
  segments.  Of a free segment only the length is of interest: the kernel's `readv` fills the window
  from the front (`fill`) and `produce` claims what it filled.

  `Circular` buffers are such a type.
-/
import GalayRpc.Base
import GalayRpc.Lib.Circular

namespace GalayRpc

/-- What is used of `RingBuffer`, and what is assumed of it; `content` is the bytes it holds, oldest
    first. -/
class RingBuffer (ρ : Type) where
  capacity : ρ → Nat
  content : ρ → Bytes
  readable : ρ → Nat
  getReadIovecs : ρ → List Bytes
  getWriteIovecs : ρ → List Nat
  fill : ρ → Bytes → ρ
  produce : ρ → Nat → ρ
  consume : ρ → Nat → ρ
  content_length_le : ∀ r, (content r).length ≤ capacity r
  readable_eq : ∀ r, readable r = (content r).length
  getReadIovecs_length : ∀ r, (getReadIovecs r).length ≤ 2
  getReadIovecs_flatten : ∀ r, (getReadIovecs r).flatten = content r
  getWriteIovecs_length : ∀ r, (getWriteIovecs r).length ≤ 2
  getWriteIovecs_sum : ∀ r, (getWriteIovecs r).sum = capacity r - (content r).length
  capacity_produce : ∀ r data n, capacity (produce (fill r data) n) = capacity r
  content_produce : ∀ r data, data.length ≤ capacity r - (content r).length →
    content (produce (fill r data) data.length) = content r ++ data
  capacity_consume : ∀ r n, capacity (consume r n) = capacity r
  content_consume : ∀ r n, n ≤ (content r).length → content (consume r n) = (content r).drop n

namespace RingBuffer

variable {ρ : Type} [RingBuffer ρ]

/-- The free space. -/
def free (r : ρ) : Nat := capacity r - (content r).length

/-- The ring after a `readv` completion has been taken in. -/
def receive (r : ρ) (data : Bytes) : ρ := produce (fill r data) data.length

@[simp] theorem capacity_receive (r : ρ) (data : Bytes) : capacity (receive r data) = capacity r :=
  capacity_produce r data data.length

theorem content_receive {r : ρ} {data : Bytes} (h : data.length ≤ free r) :
    content (receive r data) = content r ++ data :=
  content_produce r data h

/-- A ring with less than its capacity in it has room. -/
theorem free_pos {r : ρ} (h : (content r).length < capacity r) : 0 < free r := by
  unfold free
  omega

end RingBuffer

instance : RingBuffer (Circular UInt8) where
  capacity b := b.capacity
  content b := b.content
  readable b := b.size
  getReadIovecs b := b.readRuns.map fun run => run.map b.cells
  getWriteIovecs b := b.writeRuns.map List.length
  fill b data := b.fill data
  produce b n := b.produce n
  consume b n := b.consume n
  content_length_le b := by rw [b.content_length]; exact b.size_le
  readable_eq b := b.content_length.symm
  getReadIovecs_length b := by rw [List.length_map]; exact b.runs_length _ _
  getReadIovecs_flatten b := List.map_flatten.symm
  getWriteIovecs_length b := by rw [List.length_map]; exact b.runs_length _ _
  getWriteIovecs_sum b := b.writeRuns_sum
  capacity_produce _ _ _ := rfl
  content_produce b data h := by
    rw [b.content_length] at h
    exact b.content_produce h
  capacity_consume _ _ := rfl
  content_consume b n h := by
    rw [b.content_length] at h
    exact b.content_consume h

end GalayRpc
