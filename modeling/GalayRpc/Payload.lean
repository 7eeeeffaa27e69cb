/-
  The payload members of `RpcRequest`, `RpcResponse` and `StreamMessage`, by what their pointers point at.

  1. **Members** — `m_payload`, `m_payload_view` and `m_payload_owned`, with the view given by the places
     its bytes are at: in the message's own buffer, or in memory that somebody has lent
     (`PayloadCell`).  Reading a place of the buffer that is not there has no result.  `const` observers
     write all three members (`materialize`).

  2. **Simulation** — members read as a `PayloadStore`, which knows bytes and no places
     (`PayloadMembers.Reads`).  Each setter makes members that do, each observer answers as the store
     does and keeps it, and lent memory that is not read any more may change.
-/
import GalayRpc.Message

namespace GalayRpc

/-! ## Members -/

/-- Where a byte of a payload is: in the message's buffer `m_payload`, or in lent memory. -/
inductive PayloadCell where
  | buffer (i : Nat)
  | lent (address : Nat)
deriving DecidableEq, Repr

/-- The members `m_payload`, `m_payload_view` and `m_payload_owned` of a message. -/
structure PayloadMembers where
  mPayload : Bytes := []
  mPayloadView : RpcPayloadView PayloadCell := {}
  mPayloadOwned : Bool := true
deriving DecidableEq, Repr

/-- `std::vector::resize`. -/
def resize (v : Bytes) (n : Nat) : Bytes := v.take n ++ List.replicate (n - v.length) 0

namespace PayloadMembers

variable (memory : Nat → UInt8) (p : PayloadMembers)

/-- The view `{m_payload.data(), m_payload.size(), nullptr, 0}`. -/
def ownView : RpcPayloadView PayloadCell := ⟨(List.range p.mPayload.length).map .buffer, []⟩

/-- The byte at a place. -/
def read : PayloadCell → Option UInt8
  | .buffer i => p.mPayload[i]?
  | .lent address => some (memory address)

/-- A view as it reads. -/
def readView (view : RpcPayloadView PayloadCell) : Option (RpcPayloadView UInt8) := do
  let segment1 ← view.segment1.mapM (p.read memory)
  let segment2 ← view.segment2.mapM (p.read memory)
  some ⟨segment1, segment2⟩

/-- `payload(data, len)`, `payload(vector&&)` and `payload(const std::string&)`. -/
def setBytes (data : Bytes) : PayloadMembers where
  mPayload := data
  mPayloadView := ⟨(List.range data.length).map .buffer, []⟩
  mPayloadOwned := true

/-- `payloadView(view)`. -/
def setView (view : RpcPayloadView Nat) : PayloadMembers where
  mPayload := []
  mPayloadView := ⟨view.segment1.map .lent, view.segment2.map .lent⟩
  mPayloadOwned := false

/-- What a `deserializeBody` leaves that finds no payload. -/
def cleared : PayloadMembers where
  mPayload := []
  mPayloadView := {}
  mPayloadOwned := true

/-- A `memcpy` to `m_payload.data() + offset`, made for a segment that is not empty. -/
def copySegment (offset : Nat) (segment : List PayloadCell) : Option PayloadMembers :=
  if segment.length > 0 then do
    let bytes ← segment.mapM (p.read memory)
    if offset + bytes.length ≤ p.mPayload.length then
      some { p with
        mPayload := p.mPayload.take offset ++ bytes ++ p.mPayload.drop (offset + bytes.length) }
    else none
  else some p

/-- `materializePayloadIfNeeded()`. -/
def materialize : Option PayloadMembers :=
  if p.mPayloadOwned then some p
  else do
    let view := p.mPayloadView
    let p := { p with mPayload := resize p.mPayload view.size }
    let p ← p.copySegment memory 0 view.segment1
    let p ← p.copySegment memory view.segment1.length view.segment2
    some { p with mPayloadView := p.ownView, mPayloadOwned := true }

/-- `payloadSize()`. -/
def payloadSize : Nat := if p.mPayloadOwned then p.mPayload.length else p.mPayloadView.size

/-- `payloadView()`. -/
def payloadView : RpcPayloadView PayloadCell :=
  if p.mPayloadOwned then p.ownView else p.mPayloadView

/-- `payload()`; `payloadStr()` copies the same bytes. -/
def payload : Option (Bytes × PayloadMembers) :=
  (p.materialize memory).map fun p => (p.mPayload, p)

/-- `payloadEquals(expected)`, a `memcmp` for each segment that is not empty. -/
def payloadEquals (expected : Bytes) : Option Bool :=
  let view := p.payloadView
  if view.size ≠ expected.length then some false
  else do
    let segment1 ← view.segment1.mapM (p.read memory)
    if segment1.length > 0 ∧ segment1 ≠ slice expected 0 segment1.length then some false
    else do
      let segment2 ← view.segment2.mapM (p.read memory)
      if segment2.length > 0 ∧ segment2 ≠ slice expected segment1.length segment2.length then some false
      else some true

end PayloadMembers

/-! ## What the members read as -/

/-- Copying a payload does not change it. -/
theorem PayloadStore.bytes_materialize (store : PayloadStore) : store.materialize.bytes = store.bytes := by
  unfold bytes
  cases howned : store.mPayloadOwned with
  | true => simp only [materialize, howned, if_true]
  | false =>
    simp only [materialize, howned, Bool.false_eq_true, if_false]
    rfl

/-- A list read place by place. -/
theorem mapM_eq_some_map {α β : Type} {f : α → Option β} {g : α → β} {l : List α}
    (h : ∀ a ∈ l, f a = some (g a)) : l.mapM f = some (l.map g) := by
  induction l with
  | nil => rfl
  | cons a l ih =>
    rw [List.mapM_cons, h a List.mem_cons_self, ih fun b hb => h b (List.mem_cons_of_mem _ hb)]
    rfl

namespace PayloadMembers

variable {memory memory' : Nat → UInt8} {p : PayloadMembers} {store : PayloadStore}

/-- Places in lent memory. -/
def AllLent (cells : List PayloadCell) : Prop := ∀ cell ∈ cells, ∃ address, cell = .lent address

/-- They read the same whatever the buffer is. -/
theorem mapM_read_of_allLent {cells : List PayloadCell} (h : AllLent cells) (p p' : PayloadMembers) :
    cells.mapM (p.read memory) = cells.mapM (p'.read memory) := by
  induction cells with
  | nil => rfl
  | cons cell cells ih =>
    obtain ⟨address, rfl⟩ := h _ List.mem_cons_self
    rw [List.mapM_cons, List.mapM_cons, ih fun c hc => h c (List.mem_cons_of_mem _ hc)]
    rfl

theorem mapM_read_lent (p : PayloadMembers) (addresses : List Nat) :
    (addresses.map PayloadCell.lent).mapM (p.read memory) = some (addresses.map memory) := by
  rw [List.mapM_map]
  exact mapM_eq_some_map fun address _ => rfl

/-- The buffer's own view reads as the buffer. -/
theorem mapM_read_buffer (p : PayloadMembers) :
    ((List.range p.mPayload.length).map PayloadCell.buffer).mapM (p.read memory) = some p.mPayload := by
  rw [List.mapM_map]
  have hread : ∀ i ∈ List.range p.mPayload.length,
      (p.read memory ∘ PayloadCell.buffer) i = some (p.mPayload.getD i 0) := by
    intro i hi
    have hlt := List.mem_range.mp hi
    show p.mPayload[i]? = _
    rw [List.getD_eq_getElem?_getD, List.getElem?_eq_getElem hlt, Option.getD_some]
  refine (mapM_eq_some_map hread).trans (congrArg some ?_)
  apply List.ext_getElem
  · rw [List.length_map, List.length_range]
  · intro i hi hi'
    rw [List.getElem_map, List.getElem_range, List.getD_eq_getElem?_getD, List.getElem?_eq_getElem hi',
      Option.getD_some]

/-- The members read as a store: owned bytes are its own, and while they are not owned the view is one of
    lent memory that reads as the store's. -/
structure Reads (memory : Nat → UInt8) (p : PayloadMembers) (store : PayloadStore) : Prop where
  owned : p.mPayloadOwned = store.mPayloadOwned
  buffer : p.mPayload = store.mPayload
  lent : p.mPayloadOwned = false → AllLent (p.mPayloadView.segment1 ++ p.mPayloadView.segment2)
  view : p.mPayloadOwned = false → p.readView memory p.mPayloadView = some store.mPayloadView

/-! ### Setters -/

theorem reads_setBytes (memory : Nat → UInt8) (data : Bytes) : (setBytes data).Reads memory (.setBytes data) where
  owned := rfl
  buffer := rfl
  lent := fun h => absurd h Bool.false_ne_true.symm
  view := fun h => absurd h Bool.false_ne_true.symm

theorem reads_cleared (memory : Nat → UInt8) : cleared.Reads memory .cleared where
  owned := rfl
  buffer := rfl
  lent := fun h => absurd h Bool.false_ne_true.symm
  view := fun h => absurd h Bool.false_ne_true.symm

theorem reads_setView (memory : Nat → UInt8) (view : RpcPayloadView Nat) :
    (setView view).Reads memory (.setView ⟨view.segment1.map memory, view.segment2.map memory⟩) where
  owned := rfl
  buffer := rfl
  lent := by
    intro _ cell hcell
    rcases List.mem_append.mp hcell with hcell | hcell
    · obtain ⟨address, -, rfl⟩ := List.mem_map.mp hcell
      exact ⟨address, rfl⟩
    · obtain ⟨address, -, rfl⟩ := List.mem_map.mp hcell
      exact ⟨address, rfl⟩
  view := by
    intro _
    show ((view.segment1.map PayloadCell.lent).mapM _ >>= fun s1 =>
      (view.segment2.map PayloadCell.lent).mapM _ >>= fun s2 => some (RpcPayloadView.mk s1 s2)) = _
    rw [mapM_read_lent, mapM_read_lent]
    rfl

/-- Lent memory may change where it is not lent to this message. -/
theorem Reads.write (h : p.Reads memory store)
    (hkeep : p.mPayloadOwned = false → ∀ address,
      .lent address ∈ p.mPayloadView.segment1 ++ p.mPayloadView.segment2 →
        memory' address = memory address) : p.Reads memory' store := by
  refine ⟨h.owned, h.buffer, h.lent, ?_⟩
  intro howned
  have hsame : ∀ cells : List PayloadCell,
      (∀ cell ∈ cells, cell ∈ p.mPayloadView.segment1 ++ p.mPayloadView.segment2) →
        cells.mapM (p.read memory') = cells.mapM (p.read memory) := by
    intro cells hcells
    induction cells with
    | nil => rfl
    | cons cell cells ih =>
      have hmem := hcells _ List.mem_cons_self
      obtain ⟨address, rfl⟩ := h.lent howned cell hmem
      have hread : p.read memory' (.lent address) = p.read memory (.lent address) :=
        congrArg some (hkeep howned address hmem)
      rw [List.mapM_cons, List.mapM_cons, hread, ih fun c hc => hcells c (List.mem_cons_of_mem _ hc)]
  have hview := h.view howned
  rw [readView] at hview ⊢
  rw [hsame _ fun _ => List.mem_append_left _, hsame _ fun _ => List.mem_append_right _]
  exact hview

/-! ### Observers -/

/-- A view that reads, segment by segment. -/
theorem readView_eq_some {view : RpcPayloadView PayloadCell} {read : RpcPayloadView UInt8} :
    p.readView memory view = some read ↔
      view.segment1.mapM (p.read memory) = some read.segment1 ∧
        view.segment2.mapM (p.read memory) = some read.segment2 := by
  constructor
  · intro h
    obtain ⟨s1, h1, h⟩ := Option.bind_eq_some_iff.mp h
    obtain ⟨s2, h2, h⟩ := Option.bind_eq_some_iff.mp h
    obtain rfl := Option.some.inj h
    exact ⟨h1, h2⟩
  · rintro ⟨h1, h2⟩
    rw [readView, h1, Option.bind_eq_bind, Option.bind_some, h2]
    rfl

theorem length_of_mapM {α β : Type} {f : α → Option β} {l : List α} {l' : List β}
    (h : l.mapM f = some l') : l'.length = l.length := by
  induction l generalizing l' with
  | nil =>
    obtain rfl := Option.some.inj h
    rfl
  | cons a l ih =>
    rw [List.mapM_cons] at h
    obtain ⟨b, -, h⟩ := Option.bind_eq_some_iff.mp h
    obtain ⟨bs, hbs, h⟩ := Option.bind_eq_some_iff.mp h
    obtain rfl := Option.some.inj h
    rw [List.length_cons, List.length_cons, ih hbs]

/-- **`payloadView()` reads as the store's view**, wherever it points. -/
theorem Reads.payloadView (h : p.Reads memory store) :
    p.readView memory p.payloadView = some store.view := by
  unfold PayloadMembers.payloadView PayloadStore.view
  rw [← h.owned]
  cases howned : p.mPayloadOwned with
  | true =>
    rw [if_pos rfl, if_pos rfl, ← h.buffer]
    exact readView_eq_some.mpr ⟨mapM_read_buffer p, rfl⟩
  | false =>
    rw [if_neg Bool.false_ne_true, if_neg Bool.false_ne_true]
    exact h.view howned

/-- Its lengths are those of what it reads as. -/
theorem Reads.payloadView_lengths (h : p.Reads memory store) :
    store.view.segment1.length = p.payloadView.segment1.length ∧
      store.view.segment2.length = p.payloadView.segment2.length := by
  obtain ⟨h1, h2⟩ := readView_eq_some.mp h.payloadView
  exact ⟨length_of_mapM h1, length_of_mapM h2⟩

theorem Reads.payloadView_size (h : p.Reads memory store) : p.payloadView.size = store.view.size := by
  obtain ⟨h1, h2⟩ := h.payloadView_lengths
  rw [RpcPayloadView.size, RpcPayloadView.size, h1, h2]

/-- What is made of its two segments. -/
theorem Reads.bind_segments {β : Type} (h : p.Reads memory store) (f : Bytes → Bytes → β) :
    (p.payloadView.segment1.mapM (p.read memory) >>= fun segment1 =>
      p.payloadView.segment2.mapM (p.read memory) >>= fun segment2 => some (f segment1 segment2)) =
        some (f store.view.segment1 store.view.segment2) := by
  obtain ⟨h1, h2⟩ := readView_eq_some.mp h.payloadView
  rw [h1, Option.bind_eq_bind, Option.bind_some, h2]
  rfl

theorem Reads.payloadSize (h : p.Reads memory store) : p.payloadSize = store.bytes.length := by
  have hsize : p.payloadSize = p.payloadView.size := by
    unfold PayloadMembers.payloadSize PayloadMembers.payloadView
    split
    · show p.mPayload.length = ((List.range p.mPayload.length).map PayloadCell.buffer).length + 0
      rw [List.length_map, List.length_range, Nat.add_zero]
    · rfl
  rw [hsize, h.payloadView_size, store.view_size]

/-- A `memcpy` into the buffer. -/
theorem copySegment_eq {offset : Nat} {segment : List PayloadCell} {bytes : Bytes}
    (hread : segment.mapM (p.read memory) = some bytes)
    (hroom : offset + bytes.length ≤ p.mPayload.length) :
    p.copySegment memory offset segment =
      some { p with
        mPayload := p.mPayload.take offset ++ bytes ++ p.mPayload.drop (offset + bytes.length) } := by
  have hlen := length_of_mapM hread
  unfold copySegment
  by_cases hpos : segment.length > 0
  · rw [if_pos hpos, hread, Option.bind_eq_bind, Option.bind_some, if_pos hroom]
  · obtain rfl : bytes = [] := List.eq_nil_of_length_eq_zero (by omega)
    rw [if_neg hpos, List.append_nil, List.length_nil, Nat.add_zero, List.take_append_drop]

theorem resize_length (v : Bytes) (n : Nat) : (resize v n).length = n := by
  rw [resize, List.length_append, List.length_take, List.length_replicate]
  omega

/-- **A borrowed payload is copied whole**, and owned from then on. -/
theorem Reads.materialize (h : p.Reads memory store) :
    ∃ p', p.materialize memory = some p' ∧ p'.Reads memory store.materialize := by
  unfold PayloadMembers.materialize PayloadStore.materialize
  rw [← h.owned]
  rcases Bool.eq_false_or_eq_true p.mPayloadOwned with howned | howned
  · rw [if_pos howned, if_pos howned]
    exact ⟨p, rfl, h⟩
  · have hnot : ¬ p.mPayloadOwned = true := Bool.eq_false_iff.mp howned
    rw [if_neg hnot, if_neg hnot]
    obtain ⟨h1, h2⟩ := readView_eq_some.mp (h.view howned)
    have hlent1 : AllLent p.mPayloadView.segment1 :=
      fun cell hcell => h.lent howned cell (List.mem_append_left _ hcell)
    have hlent2 : AllLent p.mPayloadView.segment2 :=
      fun cell hcell => h.lent howned cell (List.mem_append_right _ hcell)
    have hlen1 := length_of_mapM h1
    have hlen2 := length_of_mapM h2
    have hsize : (resize p.mPayload p.mPayloadView.size).length =
        store.mPayloadView.segment1.length + store.mPayloadView.segment2.length := by
      rw [resize_length, hlen1, hlen2, RpcPayloadView.size]
    dsimp only
    generalize resize p.mPayload p.mPayloadView.size = buffer at hsize ⊢
    generalize store.mPayloadView.segment1 = s1 at h1 hlen1 hsize ⊢
    generalize store.mPayloadView.segment2 = s2 at h2 hlen2 hsize ⊢
    -- what is lent reads the same while the buffer fills
    rw [mapM_read_of_allLent hlent1 p { p with mPayload := buffer }] at h1
    rw [mapM_read_of_allLent hlent2 p { p with mPayload := s1 ++ buffer.drop s1.length }] at h2
    have hcopy1 : ({ p with mPayload := buffer } : PayloadMembers).copySegment memory 0
        p.mPayloadView.segment1 = some { p with mPayload := s1 ++ buffer.drop s1.length } := by
      have hroom : 0 + s1.length ≤ buffer.length := by omega
      rw [copySegment_eq h1 hroom, List.take_zero, List.nil_append, Nat.zero_add]
    have hcopy2 : ({ p with mPayload := s1 ++ buffer.drop s1.length } : PayloadMembers).copySegment memory
        p.mPayloadView.segment1.length p.mPayloadView.segment2 = some { p with mPayload := s1 ++ s2 } := by
      have hlength : (s1 ++ buffer.drop s1.length).length = s1.length + s2.length := by
        rw [List.length_append, List.length_drop]
        omega
      have hroom : s1.length + s2.length ≤ (s1 ++ buffer.drop s1.length).length := by omega
      have hdrop : (s1 ++ buffer.drop s1.length).drop (s1.length + s2.length) = [] :=
        List.drop_of_length_le (by omega)
      rw [← hlen1, copySegment_eq h2 hroom, List.take_left, hdrop, List.append_nil]
    rw [hcopy1, Option.bind_eq_bind, Option.bind_some, hcopy2, Option.bind_some]
    exact ⟨_, rfl, rfl, rfl, fun h => absurd h Bool.false_ne_true.symm,
      fun h => absurd h Bool.false_ne_true.symm⟩

/-- `payload()` and `payloadStr()`. -/
theorem Reads.payload (h : p.Reads memory store) :
    ∃ p', p.payload memory = some (store.bytes, p') ∧ p'.Reads memory store.materialize := by
  obtain ⟨p', hp', hreads⟩ := h.materialize
  refine ⟨p', ?_, hreads⟩
  rw [PayloadMembers.payload, hp', Option.map_some, hreads.buffer, PayloadStore.bytes]

example : ((setView ⟨[3, 4], [1]⟩).payload UInt8.ofNat).map Prod.fst = some [3, 4, 1] := by decide

/-- `payloadEquals` compares with the whole payload. -/
theorem Reads.payloadEquals (h : p.Reads memory store) (expected : Bytes) :
    p.payloadEquals memory expected = some (decide (expected = store.bytes)) := by
  obtain ⟨h1, h2⟩ := readView_eq_some.mp h.payloadView
  obtain ⟨hlen1, hlen2⟩ := h.payloadView_lengths
  rw [← store.view_cells, RpcPayloadView.cells]
  unfold PayloadMembers.payloadEquals
  simp only [h1, h2, Option.bind_eq_bind, Option.bind_some, RpcPayloadView.size]
  rw [← hlen1, ← hlen2]
  generalize store.view.segment1 = s1
  generalize store.view.segment2 = s2
  by_cases hsize : s1.length + s2.length = expected.length
  · rw [if_neg (not_not.mpr hsize)]
    -- an empty segment is not compared, and need not be
    have hskip : ∀ (s : Bytes) (off : Nat), (s.length > 0 ∧ s ≠ slice expected off s.length) ↔
        s ≠ slice expected off s.length := by
      intro s off
      apply and_iff_right_of_imp
      intro hne
      rcases Nat.eq_zero_or_pos s.length with hzero | hpos
      · refine absurd ?_ hne
        rw [hzero, slice_zero, List.eq_nil_of_length_eq_zero hzero]
      · exact hpos
    simp only [hskip, eq_append_iff_slice hsize]
    by_cases he1 : s1 = slice expected 0 s1.length
    · rw [if_neg (not_not.mpr he1)]
      by_cases he2 : s2 = slice expected s1.length s2.length
      · rw [if_neg (not_not.mpr he2), decide_eq_true ⟨he1, he2⟩]
      · rw [if_pos he2, decide_eq_false fun h => he2 h.2]
    · rw [if_pos he1, decide_eq_false fun h => he1 h.1]
  · have hne : expected ≠ s1 ++ s2 := by
      rintro rfl
      exact hsize List.length_append.symm
    rw [if_pos hsize, decide_eq_false hne]

end PayloadMembers

end GalayRpc
