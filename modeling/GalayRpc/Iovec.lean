/-
  `iovec` arithmetic of `rpc_conn.h` and `rpc_await.h`: scattered memory as a list of segments.

  A span of `iovec`s is the list of the segments it points at; none of these functions looks at the
  addresses.  Each loop is written with the variables of the source (`src_offset` running down to
  zero, the bytes copied or taken so far) and then characterised by the concatenation of the segments:

  * `copyFromIovecs` copies a slice of it, and succeeds when the slice is all there;
  * `payloadViewFromIovecs` covers a slice of it with at most two segments, and fails where the slice
    meets more (`metSegments`), as it cannot in the two segments a ring buffer shows;
  * `consumeWritevIovecs` drops a prefix of it.

  The view builder never reads the memory, so its cells may be anything.
-/
import GalayRpc.Message

namespace GalayRpc

/-- `iovecsReadableBytes`. -/
def iovecsReadableBytes {α : Type} (iovecs : List (List α)) : Nat :=
  iovecs.foldl (fun total iov => total + iov.length) 0

/-- The loop of `copyFromIovecs`; `out` holds what has been copied. -/
def copyFromIovecsLoop : List Bytes → Nat → Nat → Bytes → Bytes
  | [], _, _, out => out
  | iov :: iovecs, offset, bytes, out =>
    if out.length ≥ bytes then out
    else if offset ≥ iov.length then copyFromIovecsLoop iovecs (offset - iov.length) bytes out
    else
      let toCopy := min (iov.length - offset) (bytes - out.length)
      copyFromIovecsLoop iovecs 0 bytes (out ++ slice iov offset toCopy)

/-- `copyFromIovecs`: its result, and the bytes it wrote to `out`. -/
def copyFromIovecs (iovecs : List Bytes) (srcOffset bytes : Nat) : Bool × Bytes :=
  let out := copyFromIovecsLoop iovecs srcOffset bytes []
  (out.length = bytes, out)

/-- The loop of `payloadViewFromIovecs`. -/
def payloadViewFromIovecsLoop {α : Type} :
    List (List α) → Nat → Nat → RpcPayloadView α → Bool × RpcPayloadView α
  | [], _, remaining, view => (remaining = 0, view)
  | iov :: iovecs, offset, remaining, view =>
    if remaining = 0 then (true, view)
    else if offset ≥ iov.length then
      payloadViewFromIovecsLoop iovecs (offset - iov.length) remaining view
    else
      let take := min (iov.length - offset) remaining
      if view.segment1.length = 0 then
        payloadViewFromIovecsLoop iovecs 0 (remaining - take)
          { view with segment1 := slice iov offset take }
      else if view.segment2.length = 0 then
        payloadViewFromIovecsLoop iovecs 0 (remaining - take)
          { view with segment2 := slice iov offset take }
      -- a view has two segments, so a third piece does not fit
      else (false, view)

/-- `payloadViewFromIovecs`: its result, and the view it built. -/
def payloadViewFromIovecs {α : Type} (iovecs : List (List α)) (srcOffset bytes : Nat) :
    Bool × RpcPayloadView α :=
  if bytes = 0 then (true, {}) else payloadViewFromIovecsLoop iovecs srcOffset bytes {}

/-- The `while` loop of `consumeWritevIovecs`: segments written whole are erased, the first one that
    is not is advanced. -/
def consumeWritevIovecsLoop : List Bytes → Nat → List Bytes
  | [], _ => []
  | iov :: iovecs, consumed =>
    if consumed ≥ iov.length then consumeWritevIovecsLoop iovecs (consumed - iov.length)
    else iov.drop consumed :: iovecs

/-- `consumeWritevIovecs`. -/
def consumeWritevIovecs (iovecs : List Bytes) (consumed : Nat) : List Bytes :=
  if consumed = 0 ∨ iovecs = [] then iovecs else consumeWritevIovecsLoop iovecs consumed

/-! ## Segments and their concatenation -/

theorem iovecsReadableBytes_eq {α : Type} (iovecs : List (List α)) :
    iovecsReadableBytes iovecs = iovecs.flatten.length := by
  have hfold : ∀ (l : List (List α)) (n : Nat),
      l.foldl (fun total iov => total + iov.length) n = n + l.flatten.length := by
    intro l
    induction l with
    | nil => intro n; rfl
    | cons iov l ih =>
      intro n
      rw [List.foldl_cons, ih, List.flatten_cons, List.length_append, Nat.add_assoc]
  rw [iovecsReadableBytes, hfold, Nat.zero_add]

/-- The loop copies on from where it stands. -/
theorem copyFromIovecsLoop_eq (iovecs : List Bytes) (offset : Nat) {bytes : Nat} {out : Bytes}
    (hle : out.length ≤ bytes) :
    copyFromIovecsLoop iovecs offset bytes out =
      out ++ slice iovecs.flatten offset (bytes - out.length) := by
  induction iovecs generalizing offset out with
  | nil => simp [copyFromIovecsLoop, slice]
  | cons iov iovecs ih =>
    unfold copyFromIovecsLoop
    by_cases hdone : out.length ≥ bytes
    · have hzero : bytes - out.length = 0 := by omega
      rw [if_pos hdone, hzero, slice_zero, List.append_nil]
    rw [if_neg hdone, List.flatten_cons]
    by_cases hskip : offset ≥ iov.length
    · rw [if_pos hskip, ih _ hle, slice_append_right _ _ hskip]
    · -- this segment gives what it has, the rest comes from offset 0 of the next ones
      have hcount : (slice iov offset (min (iov.length - offset) (bytes - out.length))).length =
          min (iov.length - offset) (bytes - out.length) := slice_length_of_le _ (by omega)
      have hrest : bytes - (out.length + min (iov.length - offset) (bytes - out.length)) =
          bytes - out.length - (iov.length - offset) := by omega
      rw [if_neg hskip]
      simp only []
      rw [ih 0 (by rw [List.length_append, hcount]; omega),
        slice_append_split _ _ _ (by omega), List.length_append, hcount, hrest, List.append_assoc]

/-- **`copyFromIovecs` copies a slice of the concatenation**, and succeeds if it is all there. -/
theorem copyFromIovecs_eq (iovecs : List Bytes) (srcOffset bytes : Nat) :
    copyFromIovecs iovecs srcOffset bytes =
      (decide (bytes = 0 ∨ srcOffset + bytes ≤ iovecs.flatten.length),
        slice iovecs.flatten srcOffset bytes) := by
  rw [copyFromIovecs, copyFromIovecsLoop_eq iovecs srcOffset (Nat.zero_le _), List.nil_append]
  simp only [List.length_nil, Nat.sub_zero, slice_length, Prod.mk.injEq, and_true, decide_eq_decide]
  omega

theorem copyFromIovecs_of_le {iovecs : List Bytes} {srcOffset bytes : Nat}
    (h : srcOffset + bytes ≤ iovecs.flatten.length) :
    copyFromIovecs iovecs srcOffset bytes = (true, slice iovecs.flatten srcOffset bytes) := by
  rw [copyFromIovecs_eq, decide_eq_true (Or.inr h)]

namespace RpcPayloadView

variable {α : Type}

/-- How many segments a view under construction can still take. -/
def room (v : RpcPayloadView α) : Nat :=
  if v.segment1.length = 0 then 2 else if v.segment2.length = 0 then 1 else 0

/-- Segment 2 is only used when segment 1 is. -/
def Packed (v : RpcPayloadView α) : Prop := v.segment1.length = 0 → v.segment2 = []

end RpcPayloadView

namespace RpcPayloadView

variable {α : Type} {v : RpcPayloadView α} {part : List α}

/-- A part opens a view that is empty. -/
theorem room_open (h1 : v.segment1.length = 0) (hpacked : v.Packed) (hpart : part ≠ []) :
    v.room = ({ v with segment1 := part } : RpcPayloadView α).room + 1 ∧
      ({ v with segment1 := part } : RpcPayloadView α).cells = v.cells ++ part := by
  have h2 : v.segment2 = [] := hpacked h1
  have hlen : part.length ≠ 0 := fun h => hpart (List.eq_nil_of_length_eq_zero h)
  constructor
  · show (if v.segment1.length = 0 then _ else _) =
      (if part.length = 0 then 2 else if v.segment2.length = 0 then 1 else 0) + 1
    rw [if_pos h1, if_neg hlen, h2, if_pos List.length_nil]
  · rw [cells, cells, List.eq_nil_of_length_eq_zero h1, h2, List.append_nil, List.nil_append,
      List.nil_append]

/-- A part closes a view that has been opened. -/
theorem room_close (h1 : v.segment1.length ≠ 0) (h2 : v.segment2.length = 0) (hpart : part ≠ []) :
    v.room = ({ v with segment2 := part } : RpcPayloadView α).room + 1 ∧
      ({ v with segment2 := part } : RpcPayloadView α).cells = v.cells ++ part := by
  have hlen : part.length ≠ 0 := fun h => hpart (List.eq_nil_of_length_eq_zero h)
  constructor
  · show (if v.segment1.length = 0 then _ else if v.segment2.length = 0 then _ else _) =
      (if v.segment1.length = 0 then 2 else if part.length = 0 then 1 else 0) + 1
    rw [if_neg h1, if_pos h2, if_neg h1, if_neg hlen]
  · rw [cells, cells, List.eq_nil_of_length_eq_zero h2, List.append_nil]

theorem room_full (h1 : v.segment1.length ≠ 0) (h2 : v.segment2.length ≠ 0) : v.room = 0 := by
  rw [room, if_neg h1, if_neg h2]

end RpcPayloadView

/-! ## The segments a range meets -/

section Meets

variable {α : Type}

/-- Where segment `k` starts in the concatenation. -/
def segmentStart (iovecs : List (List α)) (k : Nat) : Nat := (iovecs.take k).flatten.length

/-- Segment `k` and the range `[offset, offset + bytes)` have a non-empty part in common. -/
def Meets (iovecs : List (List α)) (offset bytes k : Nat) : Prop :=
  max offset (segmentStart iovecs k) < min (offset + bytes) (segmentStart iovecs (k + 1))

instance (iovecs : List (List α)) (offset bytes k : Nat) : Decidable (Meets iovecs offset bytes k) :=
  inferInstanceAs (Decidable (_ < _))

/-- The segments that the range meets. -/
def metSegments (iovecs : List (List α)) (offset bytes : Nat) : List Nat :=
  (List.range iovecs.length).filter fun k => Meets iovecs offset bytes k

theorem metSegments_length_le (iovecs : List (List α)) (offset bytes : Nat) :
    (metSegments iovecs offset bytes).length ≤ iovecs.length := by
  have hle := List.length_filter_le (fun k => decide (Meets iovecs offset bytes k))
    (List.range iovecs.length)
  rwa [List.length_range] at hle

/-- An empty range meets none. -/
theorem metSegments_zero (iovecs : List (List α)) (offset : Nat) : metSegments iovecs offset 0 = [] := by
  refine List.filter_eq_nil_iff.mpr fun k _ hmeets => ?_
  have hlt : max offset (segmentStart iovecs k) < min (offset + 0) (segmentStart iovecs (k + 1)) :=
    of_decide_eq_true hmeets
  omega

/-- Behind the first segment the range goes on from where that ends. -/
theorem meets_succ (iov : List α) (iovecs : List (List α)) (offset bytes k : Nat) :
    Meets (iov :: iovecs) offset bytes (k + 1) ↔
      Meets iovecs (offset - iov.length) (bytes - (iov.length - offset)) k := by
  have hstart : ∀ j, segmentStart (iov :: iovecs) (j + 1) = iov.length + segmentStart iovecs j := by
    intro j
    rw [segmentStart, List.take_succ_cons, List.flatten_cons, List.length_append, segmentStart]
  unfold Meets
  rw [hstart, hstart]
  omega

theorem metSegments_cons (iov : List α) (iovecs : List (List α)) (offset bytes : Nat) :
    (metSegments (iov :: iovecs) offset bytes).length =
      (if offset < iov.length ∧ 0 < bytes then 1 else 0) +
        (metSegments iovecs (offset - iov.length) (bytes - (iov.length - offset))).length := by
  have hfirst : Meets (iov :: iovecs) offset bytes 0 ↔ offset < iov.length ∧ 0 < bytes := by
    have hzero : segmentStart (iov :: iovecs) 0 = 0 := rfl
    have hone : segmentStart (iov :: iovecs) 1 = iov.length := by
      rw [segmentStart, List.take_succ_cons, List.take_zero, List.flatten_singleton]
    unfold Meets
    rw [hzero, hone]
    omega
  have hrest : ((List.range iovecs.length).map Nat.succ).filter
      (fun k => decide (Meets (iov :: iovecs) offset bytes k)) =
        (metSegments iovecs (offset - iov.length) (bytes - (iov.length - offset))).map Nat.succ := by
    rw [List.filter_map, metSegments]
    congr 1
    exact List.filter_congr fun k _ => decide_eq_decide.mpr (meets_succ iov iovecs offset bytes k)
  rw [metSegments, List.length_cons, List.range_succ_eq_map, List.filter_cons, hrest]
  by_cases hmeets : offset < iov.length ∧ 0 < bytes
  · rw [if_pos (decide_eq_true (hfirst.mpr hmeets)), if_pos hmeets, List.length_cons, List.length_map,
      Nat.add_comm]
  · rw [if_neg (by simpa using fun h => hmeets (hfirst.mp h)), if_neg hmeets, List.length_map,
      Nat.zero_add]

end Meets

/-- **The loop finds the rest of the slice exactly if it is all there and there is a slot for each segment
    that it meets**; where there is one for each, it covers what there is. -/
theorem payloadViewFromIovecsLoop_spec {α : Type} (iovecs : List (List α)) (offset remaining : Nat)
    {view : RpcPayloadView α} (hpacked : view.Packed) :
    (payloadViewFromIovecsLoop iovecs offset remaining view).1 =
        decide (remaining = 0 ∨ offset + remaining ≤ iovecs.flatten.length ∧
          (metSegments iovecs offset remaining).length ≤ view.room) ∧
      ((metSegments iovecs offset remaining).length ≤ view.room →
        (payloadViewFromIovecsLoop iovecs offset remaining view).2.cells =
            view.cells ++ slice iovecs.flatten offset remaining ∧
          (payloadViewFromIovecsLoop iovecs offset remaining view).2.Packed) := by
  induction iovecs generalizing offset remaining view with
  | nil =>
    simp only [payloadViewFromIovecsLoop, List.flatten_nil, List.length_nil, decide_eq_decide]
    exact ⟨by omega, fun _ => ⟨by simp [slice], hpacked⟩⟩
  | cons iov iovecs ih =>
    unfold payloadViewFromIovecsLoop
    by_cases hdone : remaining = 0
    · rw [if_pos hdone, hdone, slice_zero, List.append_nil]
      exact ⟨(decide_eq_true (Or.inl rfl)).symm, fun _ => ⟨rfl, hpacked⟩⟩
    rw [if_neg hdone, List.flatten_cons, metSegments_cons]
    by_cases hskip : offset ≥ iov.length
    · -- nothing of this segment
      have hfirst : ¬ (offset < iov.length ∧ 0 < remaining) := by omega
      have hsame : remaining - (iov.length - offset) = remaining := by omega
      obtain ⟨hok, hcells⟩ := ih (offset - iov.length) remaining hpacked
      rw [if_pos hskip, if_neg hfirst, Nat.zero_add, hsame, hok, slice_append_right _ _ hskip,
        List.length_append]
      exact ⟨decide_eq_decide.mpr (by omega), hcells⟩
    · -- it gives what it has, and the rest is looked for from offset 0 of the next ones
      have hfirst : offset < iov.length ∧ 0 < remaining := by omega
      have hzero : offset - iov.length = 0 := by omega
      have hrest : remaining - min (iov.length - offset) remaining =
          remaining - (iov.length - offset) := by omega
      have hnone : remaining - (iov.length - offset) = 0 →
          (metSegments iovecs 0 (remaining - (iov.length - offset))).length = 0 := by
        intro h
        rw [h, metSegments_zero, List.length_nil]
      have hpart : slice iov offset (min (iov.length - offset) remaining) ≠ [] := by
        refine List.ne_nil_of_length_pos ?_
        rw [slice_length]
        omega
      rw [if_neg hskip, if_pos hfirst, hzero, slice_append_split _ _ _ (by omega), ← List.append_assoc,
        List.length_append]
      simp only [hrest]
      by_cases h1 : view.segment1.length = 0
      · obtain ⟨hroom, hopen⟩ := RpcPayloadView.room_open h1 hpacked hpart
        obtain ⟨hok, hcells⟩ := @ih 0 (remaining - (iov.length - offset))
          { view with segment1 := slice iov offset (min (iov.length - offset) remaining) }
          fun _ => hpacked h1
        rw [if_pos h1, hok, ← hopen, hroom]
        exact ⟨decide_eq_decide.mpr (by omega), fun hmet => hcells (by omega)⟩
      · rw [if_neg h1]
        by_cases h2 : view.segment2.length = 0
        · obtain ⟨hroom, hclose⟩ := RpcPayloadView.room_close h1 h2 hpart
          obtain ⟨hok, hcells⟩ := @ih 0 (remaining - (iov.length - offset))
            { view with segment2 := slice iov offset (min (iov.length - offset) remaining) }
            fun h => absurd h h1
          rw [if_pos h2, hok, ← hclose, hroom]
          exact ⟨decide_eq_decide.mpr (by omega), fun hmet => hcells (by omega)⟩
        · -- no slot is left
          rw [if_neg h2, RpcPayloadView.room_full h1 h2]
          refine ⟨(decide_eq_false ?_).symm, fun hmet => absurd hmet (by omega)⟩
          omega

/-- **`payloadViewFromIovecs` covers a slice of at most two segments**, and succeeds if it is all
    there. -/
theorem payloadViewFromIovecs_spec {α : Type} {iovecs : List (List α)} (h2 : iovecs.length ≤ 2)
    (srcOffset bytes : Nat) :
    (payloadViewFromIovecs iovecs srcOffset bytes).1 =
        decide (bytes = 0 ∨ srcOffset + bytes ≤ iovecs.flatten.length) ∧
      (payloadViewFromIovecs iovecs srcOffset bytes).2.cells =
        slice iovecs.flatten srcOffset bytes := by
  have hmet : (metSegments iovecs srcOffset bytes).length ≤ 2 :=
    (metSegments_length_le iovecs srcOffset bytes).trans h2
  unfold payloadViewFromIovecs
  by_cases h0 : bytes = 0
  · rw [if_pos h0, h0, slice_zero]
    simp [RpcPayloadView.cells]
  · obtain ⟨hok, hcells⟩ := @payloadViewFromIovecsLoop_spec α iovecs srcOffset bytes {} fun _ => rfl
    rw [if_neg h0, hok]
    exact ⟨decide_eq_decide.mpr (or_congr_right (and_iff_left hmet)), (hcells hmet).1⟩

/-- **Slicing segments is slicing their concatenation.**  Whatever the segments, the offset and the count,
    `copyFromIovecs` succeeds exactly if the bytes are all there, and writes these; and
    `payloadViewFromIovecs` succeeds exactly if they are, and meet at most two segments, and then its view
    covers them, the second segment used only behind a first one. -/
theorem segment_slicing_exact :
    (∀ (iovecs : List Bytes) (srcOffset bytes : Nat),
      ((copyFromIovecs iovecs srcOffset bytes).1 = true ↔
        bytes = 0 ∨ srcOffset + bytes ≤ iovecs.flatten.length) ∧
      (copyFromIovecs iovecs srcOffset bytes).2 = slice iovecs.flatten srcOffset bytes) ∧
    ∀ (α : Type) (iovecs : List (List α)) (srcOffset bytes : Nat),
      ((payloadViewFromIovecs iovecs srcOffset bytes).1 = true ↔
        bytes = 0 ∨ srcOffset + bytes ≤ iovecs.flatten.length ∧
          (metSegments iovecs srcOffset bytes).length ≤ 2) ∧
      ((payloadViewFromIovecs iovecs srcOffset bytes).1 = true →
        (payloadViewFromIovecs iovecs srcOffset bytes).2.cells =
            slice iovecs.flatten srcOffset bytes ∧
          ((payloadViewFromIovecs iovecs srcOffset bytes).2.segment2 ≠ [] →
            (payloadViewFromIovecs iovecs srcOffset bytes).2.segment1 ≠ [])) := by
  refine ⟨fun iovecs srcOffset bytes => ?_, fun α iovecs srcOffset bytes => ?_⟩
  · rw [copyFromIovecs_eq]
    exact ⟨decide_eq_true_iff, rfl⟩
  · unfold payloadViewFromIovecs
    by_cases h0 : bytes = 0
    · rw [if_pos h0, h0, slice_zero]
      exact ⟨iff_of_true rfl (Or.inl rfl), fun _ => ⟨rfl, fun h => absurd rfl h⟩⟩
    · obtain ⟨hok, hcells⟩ := @payloadViewFromIovecsLoop_spec α iovecs srcOffset bytes {} fun _ => rfl
      rw [if_neg h0, hok, decide_eq_true_iff]
      refine ⟨Iff.rfl, fun hfound => ?_⟩
      have hmet := (hfound.resolve_left h0).2
      obtain ⟨hslice, hpacked⟩ := hcells hmet
      refine ⟨hslice, fun h2 h1 => h2 (hpacked ?_)⟩
      rw [h1, List.length_nil]

-- the empty segment takes no slot, the fourth one finds none
example : payloadViewFromIovecs [[1], [], [2, 3], [4]] 0 4 = (false, ⟨[1], [2, 3]⟩) := rfl

/-- Writing part of the segments leaves the rest of their concatenation. -/
theorem consumeWritevIovecs_flatten (iovecs : List Bytes) (consumed : Nat) :
    (consumeWritevIovecs iovecs consumed).flatten = iovecs.flatten.drop consumed := by
  have hloop : ∀ (iovecs : List Bytes) (consumed : Nat),
      (consumeWritevIovecsLoop iovecs consumed).flatten = iovecs.flatten.drop consumed := by
    intro iovecs
    induction iovecs with
    | nil => intro consumed; simp [consumeWritevIovecsLoop]
    | cons iov iovecs ih =>
      intro consumed
      unfold consumeWritevIovecsLoop
      by_cases hwhole : consumed ≥ iov.length
      · rw [if_pos hwhole, ih, List.flatten_cons, List.drop_append, List.drop_eq_nil_of_le hwhole,
          List.nil_append]
      · rw [if_neg hwhole, List.flatten_cons, List.flatten_cons,
          List.drop_append_of_le_length (by omega)]
  unfold consumeWritevIovecs
  split
  · rename_i hid
    rcases hid with rfl | rfl
    · rw [List.drop_zero]
    · simp
  · exact hloop iovecs consumed

/-- No segment is left empty. -/
theorem ne_nil_of_mem_consumeWritevIovecs {iovecs : List Bytes} (h : ∀ iov ∈ iovecs, iov ≠ [])
    (consumed : Nat) : ∀ iov ∈ consumeWritevIovecs iovecs consumed, iov ≠ [] := by
  have hloop : ∀ (iovecs : List Bytes) (consumed : Nat), (∀ iov ∈ iovecs, iov ≠ []) →
      ∀ iov ∈ consumeWritevIovecsLoop iovecs consumed, iov ≠ [] := by
    intro iovecs
    induction iovecs with
    | nil => nofun
    | cons iov iovecs ih =>
      intro consumed hne
      have hrest : ∀ iov ∈ iovecs, iov ≠ [] := fun iov' hmem => hne iov' (List.mem_cons_of_mem _ hmem)
      unfold consumeWritevIovecsLoop
      by_cases hwhole : consumed ≥ iov.length
      · rw [if_pos hwhole]
        exact ih _ hrest
      · rw [if_neg hwhole]
        intro iov' hmem
        rcases List.mem_cons.mp hmem with rfl | hmem
        · rw [← List.length_pos_iff, List.length_drop]
          omega
        · exact hrest iov' hmem
  unfold consumeWritevIovecs
  split
  · exact h
  · exact hloop iovecs consumed h

end GalayRpc
