/-
  A circular buffer in explicit memory.

  `Circular α` is `capacity` cells at addresses `0, …, capacity - 1`, of which `size` from `head` on
  (around the end) are occupied.  Reading and writing go through lists of addresses: the occupied cells
  and the free ones are each at most two runs of consecutive addresses, and a reader or a writer is
  handed these runs.  Moving `head` or `size` writes no cell; only `fill` does, and only free ones.

  The one computation is `runs_flatten`: the two runs from offset `off` list the addresses of the
  offsets `off, off + 1, …` in order.  What is in the buffer (`content`) then behaves as a queue:
  filling and claiming appends (`content_produce`), consuming drops from the front
  (`content_consume`).

  Consumed cells keep what they hold until they are filled again.  `Holds` relates the memory to all that
  has ever been claimed: what is read at the address of an old position is the last one to have gone
  there (`Holds.cell`), so the position itself until `capacity` more have come.
-/
import Mathlib.Algebra.Order.Ring.Nat
import Mathlib.Data.List.Basic
import Mathlib.Data.List.Nodup
import Mathlib.Data.List.Range
import Mathlib.Tactic.Common

namespace GalayRpc

/-- Memory after writing `data` to the addresses `as`, as far as both go. -/
def store {α : Type} (cells : Nat → α) : List Nat → List α → Nat → α
  | a :: as, d :: data, x => if x = a then d else store cells as data x
  | _, _, x => cells x

theorem store_of_not_mem {α : Type} (cells : Nat → α) {x : Nat} {as : List Nat} (data : List α)
    (h : x ∉ as) : store cells as data x = cells x := by
  induction as generalizing data with
  | nil => rfl
  | cons a as ih =>
    cases data with
    | nil => rfl
    | cons d data =>
      rw [List.mem_cons, not_or] at h
      rw [store, if_neg h.1, ih data h.2]

/-- Only as many addresses are written as there is data. -/
theorem store_take {α : Type} (cells : Nat → α) (as : List Nat) (data : List α) :
    store cells (as.take data.length) data = store cells as data := by
  induction as generalizing data with
  | nil => rw [List.take_nil]
  | cons a as ih =>
    cases data with
    | nil => rfl
    | cons d data =>
      funext x
      rw [List.length_cons, List.take_succ_cons, store, store, ih data]

/-- Distinct addresses read back what was written to them. -/
theorem map_store {α : Type} (cells : Nat → α) {as : List Nat} {data : List α} (hnodup : as.Nodup)
    (hlen : data.length ≤ as.length) : (as.take data.length).map (store cells as data) = data := by
  induction as generalizing data with
  | nil =>
    obtain rfl := List.eq_nil_of_length_eq_zero (Nat.le_zero.mp hlen)
    rfl
  | cons a as ih =>
    cases data with
    | nil => rfl
    | cons d data =>
      obtain ⟨ha, hnodup'⟩ := List.nodup_cons.mp hnodup
      have hrest : (as.take data.length).map (store cells (a :: as) (d :: data)) =
          (as.take data.length).map (store cells as data) := by
        apply List.map_congr_left
        intro x hx
        have hne : x ≠ a := fun h => ha (h ▸ List.mem_of_mem_take hx)
        rw [store, if_neg hne]
      rw [List.length_cons, List.take_succ_cons, List.map_cons, hrest,
        ih hnodup' (Nat.le_of_succ_le_succ hlen), store, if_pos rfl]

structure Circular (α : Type) where
  capacity : Nat
  cells : Nat → α
  head : Nat
  size : Nat
  head_le : head ≤ capacity
  size_le : size ≤ capacity

namespace Circular

variable {α : Type}

/-- A buffer with nothing in it. -/
def empty (capacity : Nat) (cells : Nat → α) : Circular α where
  capacity := capacity
  cells := cells
  head := 0
  size := 0
  head_le := Nat.zero_le _
  size_le := Nat.zero_le _

variable (b : Circular α)

/-- Where the cell at offset `i` from the head is. -/
def address (i : Nat) : Nat := if b.head + i < b.capacity then b.head + i else b.head + i - b.capacity

/-- The addresses of `n` cells from offset `off` on, as runs without a gap; empty runs are left out. -/
def runs (off n : Nat) : List (List Nat) :=
  let start := b.address off
  [List.range' start (min n (b.capacity - start)), List.range' 0 (n - (b.capacity - start))].filter
    fun run => !run.isEmpty

/-- The runs of occupied cells. -/
def readRuns : List (List Nat) := b.runs 0 b.size

/-- The runs of free cells. -/
def writeRuns : List (List Nat) := b.runs b.size (b.capacity - b.size)

/-- What is in the buffer, oldest first. -/
def content : List α := b.readRuns.flatten.map b.cells

/-- Write `data` to the free cells, without claiming them. -/
def fill (data : List α) : Circular α := { b with cells := store b.cells b.writeRuns.flatten data }

/-- Claim `n` free cells. -/
def produce (n : Nat) : Circular α :=
  { b with size := min (b.size + n) b.capacity, size_le := Nat.min_le_right .. }

/-- Release the `n` oldest cells. -/
def consume (n : Nat) : Circular α where
  capacity := b.capacity
  cells := b.cells
  head := b.address (min n b.size)
  size := b.size - n
  head_le := by
    have h1 := b.head_le
    have h2 := b.size_le
    unfold address
    split <;> omega
  size_le := Nat.le_trans (Nat.sub_le ..) b.size_le

theorem runs_length (off n : Nat) : (b.runs off n).length ≤ 2 :=
  List.length_filter_le ..

/-- The runs list the addresses in the order of their offsets. -/
theorem runs_flatten {off n : Nat} (h : off + n ≤ b.capacity) :
    (b.runs off n).flatten = (List.range n).map fun i => b.address (off + i) := by
  have hhead := b.head_le
  have hstart : b.address off ≤ b.capacity := by
    unfold address
    split <;> omega
  rw [runs, List.flatten_filter_not_isEmpty, List.flatten_cons, List.flatten_cons, List.flatten_nil,
    List.append_nil]
  apply List.ext_getElem
  · simp only [List.length_append, List.length_range', List.length_map, List.length_range]
    omega
  · intro i h1 h2
    simp only [List.length_map, List.length_range] at h2
    rw [List.getElem_append, List.getElem_map, List.getElem_range]
    simp only [List.length_range', List.getElem_range', Nat.one_mul, Nat.zero_add]
    -- the first run ends where the addresses wrap around
    unfold address at hstart ⊢
    split <;> split <;> split <;> omega

theorem runs_length_flatten {off n : Nat} (h : off + n ≤ b.capacity) :
    (b.runs off n).flatten.length = n := by
  rw [b.runs_flatten h, List.length_map, List.length_range]

theorem address_inj {i j : Nat} (hi : i < b.capacity) (hj : j < b.capacity)
    (h : b.address i = b.address j) : i = j := by
  have hhead := b.head_le
  unfold address at h
  split at h <;> split at h <;> omega

theorem runs_nodup {off n : Nat} (h : off + n ≤ b.capacity) : (b.runs off n).flatten.Nodup := by
  rw [b.runs_flatten h]
  refine List.Nodup.map_on ?_ List.nodup_range
  intro i hi j hj heq
  rw [List.mem_range] at hi hj
  have := b.address_inj (by omega) (by omega) heq
  omega

theorem runs_append (off n m : Nat) (h : off + (n + m) ≤ b.capacity) :
    (b.runs off (n + m)).flatten = (b.runs off n).flatten ++ (b.runs (off + n) m).flatten := by
  rw [b.runs_flatten h, b.runs_flatten (by omega), b.runs_flatten (by omega), List.range_add,
    List.map_append, List.map_map]
  congr 1
  apply List.map_congr_left
  intro i _
  rw [Function.comp_apply, Nat.add_assoc]

theorem content_length : b.content.length = b.size := by
  rw [content, List.length_map, readRuns, b.runs_length_flatten (by have := b.size_le; omega)]

/-- The free runs cover what the content leaves. -/
theorem writeRuns_sum : (b.writeRuns.map List.length).sum = b.capacity - b.content.length := by
  have hsize := b.size_le
  rw [← List.length_flatten, b.content_length, writeRuns, b.runs_length_flatten (by omega)]

/-- **Filling and claiming appends.** -/
theorem content_produce {data : List α} (h : data.length ≤ b.capacity - b.size) :
    ((b.fill data).produce data.length).content = b.content ++ data := by
  have hsize := b.size_le
  have hmin : min (b.size + data.length) b.capacity = b.size + data.length := by omega
  have hruns : ∀ off n, ((b.fill data).produce data.length).runs off n = b.runs off n :=
    fun _ _ => rfl
  have hsplit := b.runs_append 0 b.size data.length (by omega)
  have hwrite : b.writeRuns.flatten =
      (b.runs b.size data.length).flatten ++
        (b.runs (b.size + data.length) (b.capacity - b.size - data.length)).flatten := by
    rw [writeRuns, ← b.runs_append _ _ _ (by omega)]
    congr 2
    omega
  have htake : b.writeRuns.flatten.take data.length = (b.runs b.size data.length).flatten := by
    rw [hwrite, List.take_left' (b.runs_length_flatten (by omega))]
  have hall := b.runs_append 0 b.size (b.capacity - b.size) (by omega)
  have hnodup := b.runs_nodup (show 0 + (b.size + (b.capacity - b.size)) ≤ b.capacity by omega)
  rw [hall, Nat.zero_add] at hnodup
  obtain ⟨-, hwnodup, hdisj⟩ := List.nodup_append.mp hnodup
  -- occupied cells keep what they hold, the first free ones hold the data
  have hold : (b.runs 0 b.size).flatten.map (store b.cells b.writeRuns.flatten data) =
      (b.runs 0 b.size).flatten.map b.cells := by
    apply List.map_congr_left
    intro x hx
    exact store_of_not_mem _ _ fun hx' => hdisj x hx x hx' rfl
  have hnew : (b.runs b.size data.length).flatten.map (store b.cells b.writeRuns.flatten data) =
      data := by
    rw [← htake]
    refine map_store _ hwnodup ?_
    rw [writeRuns, b.runs_length_flatten (by omega)]
    exact h
  show (((b.fill data).produce data.length).runs 0 (min (b.size + data.length) b.capacity)).flatten.map
    (store b.cells b.writeRuns.flatten data) = _
  rw [hmin, hruns, hsplit, Nat.zero_add, List.map_append, hold, hnew]
  rfl

/-- **Consuming drops from the front.** -/
theorem content_consume {n : Nat} (h : n ≤ b.size) : (b.consume n).content = b.content.drop n := by
  have hsize := b.size_le
  have hhead := b.head_le
  have hmin : min n b.size = n := by omega
  have haddr : ∀ i, i < b.size - n → (b.consume n).address i = b.address (n + i) := by
    intro i hi
    show (if b.address (min n b.size) + i < b.capacity then b.address (min n b.size) + i
      else b.address (min n b.size) + i - b.capacity) = b.address (n + i)
    rw [hmin]
    unfold address
    split <;> split <;> split <;> omega
  have hruns : ((b.consume n).runs 0 (b.size - n)).flatten = (b.runs n (b.size - n)).flatten := by
    rw [(b.consume n).runs_flatten (show 0 + (b.size - n) ≤ b.capacity by omega),
      b.runs_flatten (by omega)]
    apply List.map_congr_left
    intro i hi
    rw [Nat.zero_add]
    exact haddr i (List.mem_range.mp hi)
  have hsplit := b.runs_append 0 n (b.size - n) (by omega)
  have hsum : n + (b.size - n) = b.size := by omega
  rw [hsum, Nat.zero_add] at hsplit
  show ((b.consume n).runs 0 (b.size - n)).flatten.map b.cells = _
  rw [hruns, content, readRuns, hsplit, List.map_append,
    List.drop_left' (by rw [List.length_map, b.runs_length_flatten (by omega)])]

/-! ## What the memory remembers -/

/-- All that has ever been claimed is `history`, and `taken` of it have been consumed: position `x` of
    it went to the address `x % capacity`, and is there until `capacity` more have come. -/
structure Holds (b : Circular α) (history : List α) (taken : Nat) : Prop where
  head : b.head = taken % b.capacity
  size : taken + b.size = history.length
  cells : ∀ (x : Nat) (hx : x < history.length), history.length ≤ x + b.capacity →
    b.cells (x % b.capacity) = history[x]

variable {b}

theorem holds_empty (capacity : Nat) (cells : Nat → α) : (empty capacity cells).Holds [] 0 where
  head := (Nat.zero_mod capacity).symm
  size := rfl
  cells x hx := absurd hx (Nat.not_lt_zero x)

section Holds

variable {history data : List α} {taken : Nat}

/-- The cell at an offset from the head is that of a position. -/
theorem Holds.address_eq (h : b.Holds history taken) {i : Nat} (hi : i ≤ b.capacity) :
    b.address i = (taken + i) % b.capacity := by
  have hhead := h.head
  have hle := b.head_le
  rcases Nat.eq_zero_or_pos b.capacity with hzero | hpos
  · obtain rfl : i = 0 := by omega
    have hnil : taken % b.capacity = 0 := by omega
    unfold address
    rw [hhead, Nat.add_zero, Nat.add_zero, hnil]
    split
    · rfl
    · exact Nat.zero_sub _
  · have hlt : taken % b.capacity < b.capacity := Nat.mod_lt _ hpos
    have hmod : (taken + i) % b.capacity = (b.head + i) % b.capacity := by
      rw [hhead, Nat.mod_add_mod]
    rw [hmod]
    unfold address
    split
    · rename_i hfront
      exact (Nat.mod_eq_of_lt hfront).symm
    · rw [Nat.mod_eq_sub_mod (by omega), Nat.mod_eq_of_lt (by omega)]

/-- The addresses of a row of cells are those of a row of positions. -/
theorem Holds.runs_eq (h : b.Holds history taken) {off n : Nat} (hle : off + n ≤ b.capacity) :
    (b.runs off n).flatten = (List.range n).map fun i => (taken + off + i) % b.capacity := by
  rw [b.runs_flatten hle]
  apply List.map_congr_left
  intro i hi
  have := List.mem_range.mp hi
  rw [h.address_eq (by omega), Nat.add_assoc]

theorem Holds.content_eq (h : b.Holds history taken) : b.content = history.drop taken := by
  have hsize := b.size_le
  have hlen := h.size
  rw [content, readRuns, h.runs_eq (by omega), List.map_map]
  apply List.ext_getElem
  · rw [List.length_map, List.length_range, List.length_drop]
    omega
  · intro i hi hi'
    rw [List.length_map, List.length_range] at hi
    rw [List.getElem_map, List.getElem_range, List.getElem_drop]
    exact h.cells (taken + i) (by omega) (by omega)

theorem Holds.consume (h : b.Holds history taken) {n : Nat} (hn : n ≤ b.size) :
    (b.consume n).Holds history (taken + n) where
  head := by
    have hsize := b.size_le
    show b.address (min n b.size) = _
    rw [Nat.min_eq_left hn, h.address_eq (by omega)]
    rfl
  size := by
    have hlen := h.size
    show taken + n + (b.size - n) = _
    omega
  cells := h.cells

/-- **What is received goes behind the history**, over what was received `capacity` before. -/
theorem Holds.receive (h : b.Holds history taken) (hdata : data.length ≤ b.capacity - b.size) :
    ((b.fill data).produce data.length).Holds (history ++ data) taken where
  head := h.head
  size := by
    have hsize := b.size_le
    have hlen := h.size
    show taken + min (b.size + data.length) b.capacity = _
    rw [List.length_append]
    omega
  cells := by
    intro x hx hlast
    have hsize := b.size_le
    have hlen := h.size
    have hlast : (history ++ data).length ≤ x + b.capacity := hlast
    rw [List.length_append] at hx hlast
    show store b.cells b.writeRuns.flatten data (x % b.capacity) = _
    have hfree : b.size + (b.capacity - b.size) ≤ b.capacity := by omega
    have hlength : b.writeRuns.flatten.length = b.capacity - b.size := b.runs_length_flatten hfree
    have hruns : b.writeRuns.flatten =
        (List.range (b.capacity - b.size)).map fun i => (history.length + i) % b.capacity := by
      rw [writeRuns, h.runs_eq hfree, hlen]
    rcases Nat.lt_or_ge x history.length with hold | hnew
    · -- the cell of an old position is none of those written
      rw [List.getElem_append_left hold, ← store_take, store_of_not_mem]
      · exact h.cells x hold (by omega)
      · rw [hruns, ← List.map_take, List.take_range, List.mem_map]
        rintro ⟨i, hi, heq⟩
        rw [List.mem_range] at hi
        have hzero := Nat.sub_mod_eq_zero_of_mod_eq heq
        rw [Nat.mod_eq_of_lt (by omega)] at hzero
        omega
    · have hx' : x - history.length < data.length := by omega
      have haddr : b.writeRuns.flatten[x - history.length]? = some (x % b.capacity) := by
        rw [hruns, List.getElem?_map, List.getElem?_range (by omega), Option.map_some,
          Nat.add_sub_cancel' hnew]
      have hread : (b.writeRuns.flatten.take data.length).map (store b.cells b.writeRuns.flatten data) =
          data := map_store b.cells (b.runs_nodup hfree) (by omega)
      have hcell := congrArg (fun l => l[x - history.length]?) hread
      simp only [List.getElem?_map, List.getElem?_take_of_lt hx', haddr, Option.map_some,
        List.getElem?_eq_getElem hx'] at hcell
      rw [List.getElem_append_right hnew]
      exact Option.some.inj hcell

end Holds

/-- The last of `length` positions that goes where position `x` went. -/
def lastPosition (capacity length x : Nat) : Nat := x + capacity * ((length - 1 - x) / capacity)

theorem lastPosition_lt (capacity : Nat) {length x : Nat} (h : x < length) :
    lastPosition capacity length x < length := by
  have hle := Nat.mul_div_le (length - 1 - x) capacity
  unfold lastPosition
  omega

/-- Until `capacity` more have come, a position is the last one in its place. -/
theorem lastPosition_of_le {capacity length x : Nat} (h : x < length) (hle : length ≤ x + capacity) :
    lastPosition capacity length x = x := by
  rw [lastPosition, Nat.div_eq_of_lt (by omega), Nat.mul_zero, Nat.add_zero]

/-- **What is read where a position went** is the last position that went there. -/
theorem Holds.cell {history : List α} {taken : Nat} (h : b.Holds history taken) (hpos : 0 < b.capacity)
    {x : Nat} (hx : x < history.length) :
    history[lastPosition b.capacity history.length x]? = some (b.cells (x % b.capacity)) := by
  have hlt := lastPosition_lt b.capacity hx
  have hlast : history.length ≤ lastPosition b.capacity history.length x + b.capacity := by
    have hdiv := Nat.lt_mul_div_succ (history.length - 1 - x) hpos
    rw [Nat.mul_add, Nat.mul_one] at hdiv
    unfold lastPosition
    omega
  have hcell := h.cells _ hlt hlast
  have hmod : lastPosition b.capacity history.length x % b.capacity = x % b.capacity :=
    Nat.add_mul_mod_self_left _ _ _
  rw [hmod] at hcell
  rw [hcell, List.getElem?_eq_getElem hlt]

end Circular
end GalayRpc
