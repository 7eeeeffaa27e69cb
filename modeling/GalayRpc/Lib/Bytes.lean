/-
  Byte strings: fixed-width big-endian numbers, slices, and length-prefixed fields.

  Everything a binary wire format is made of, over plain lists and with no format in sight:

  1. **Numbers** — `beBytes k n` writes `n` in `k` bytes, most significant first, dropping what
     does not fit (the unsigned cast a C encoder makes); `beNat` reads any number of bytes back.
     The two are inverse on `k`-byte strings and on numbers below `256 ^ k`.

  2. **Slices** — `slice l off n` is `l[off, off + n)`, cut short at the end of `l`.  The one fact
     incremental parsers live on is `slice_append`: a slice that lies inside `l` does not change
     when bytes arrive behind `l`.

  3. **Fields** — `takeField` splits a two-byte length and that many bytes off a string.  It is
     characterised as a relation (`takeField_eq_some`): what it accepts is exactly an encoded
     field followed by the rest.
-/
import Mathlib.Algebra.Order.Ring.Nat
import Mathlib.Data.List.Basic
import Mathlib.Tactic.Common

namespace GalayRpc

/-- A byte string. -/
abbrev Bytes := List UInt8

/-! ## Big-endian numbers -/

/-- The `k` low bytes of `n`, most significant byte first. -/
def beBytes : Nat → Nat → Bytes
  | 0, _ => []
  | k + 1, n => UInt8.ofNat (n / 256 ^ k) :: beBytes k n

/-- The number a byte string denotes, most significant byte first. -/
def beNat : Bytes → Nat
  | [] => 0
  | b :: bs => b.toNat * 256 ^ bs.length + beNat bs

@[simp] theorem beBytes_length (k n : Nat) : (beBytes k n).length = k := by
  induction k with
  | zero => rfl
  | succ k ih => rw [beBytes, List.length_cons, ih]

theorem beNat_lt (bs : Bytes) : beNat bs < 256 ^ bs.length := by
  induction bs with
  | nil => decide
  | cons b bs ih =>
    have hb : b.toNat + 1 ≤ 256 := b.toNat_lt
    have hmul := Nat.mul_le_mul_right (256 ^ bs.length) hb
    rw [Nat.add_mul, Nat.one_mul, Nat.mul_comm 256, ← Nat.pow_succ] at hmul
    rw [beNat, List.length_cons]
    omega

/-- Reading back what was written loses exactly the bits that did not fit. -/
theorem beNat_beBytes (k n : Nat) : beNat (beBytes k n) = n % 256 ^ k := by
  induction k with
  | zero => rw [beBytes, beNat, Nat.pow_zero, Nat.mod_one]
  | succ k ih =>
    have hb : (UInt8.ofNat (n / 256 ^ k)).toNat = n / 256 ^ k % 256 := UInt8.toNat_ofNat'
    rw [beBytes, beNat, ih, hb, beBytes_length, Nat.pow_succ, Nat.mod_mul, Nat.add_comm,
      Nat.mul_comm (256 ^ k)]

theorem beNat_beBytes_of_lt {k n : Nat} (h : n < 256 ^ k) : beNat (beBytes k n) = n := by
  rw [beNat_beBytes, Nat.mod_eq_of_lt h]

/-- Only the low bytes of a number are written. -/
theorem beBytes_mod (k n j : Nat) (hj : j ≤ k) : beBytes j (n % 256 ^ k) = beBytes j n := by
  induction j with
  | zero => rfl
  | succ j ih =>
    have hpow : 256 ^ k = 256 ^ j * (256 * 256 ^ (k - (j + 1))) := by
      rw [← Nat.mul_assoc, ← Nat.pow_succ, ← Nat.pow_add]
      congr 1
      omega
    have hbyte : UInt8.ofNat (n % 256 ^ k / 256 ^ j) = UInt8.ofNat (n / 256 ^ j) := by
      apply UInt8.toNat_inj.mp
      rw [UInt8.toNat_ofNat', UInt8.toNat_ofNat', hpow, Nat.mod_mul_right_div_self,
        Nat.mod_mul_right_mod]
    rw [beBytes, beBytes, hbyte, ih (by omega)]

/-- Writing back what was read reproduces the bytes. -/
theorem beBytes_beNat (bs : Bytes) : beBytes bs.length (beNat bs) = bs := by
  induction bs with
  | nil => rfl
  | cons b bs ih =>
    have hlt := beNat_lt bs
    have hpos : 0 < 256 ^ bs.length := Nat.pow_pos (by decide)
    have hhead : (b.toNat * 256 ^ bs.length + beNat bs) / 256 ^ bs.length = b.toNat := by
      rw [Nat.add_comm, Nat.add_mul_div_right _ _ hpos, Nat.div_eq_of_lt hlt, Nat.zero_add]
    have htail : beBytes bs.length (b.toNat * 256 ^ bs.length + beNat bs) = bs := by
      rw [← beBytes_mod bs.length _ _ (Nat.le_refl _), Nat.mul_add_mod_self_right,
        Nat.mod_eq_of_lt hlt, ih]
    rw [List.length_cons, beNat, beBytes, hhead, htail, UInt8.ofNat_toNat]

/-! ## Slices -/

/-- The part of `l` from `off` on, at most `n` elements of it. -/
def slice {α : Type} (l : List α) (off n : Nat) : List α := (l.drop off).take n

section Slice

variable {α : Type} (l t : List α)

@[simp] theorem slice_length (off n : Nat) : (slice l off n).length = min n (l.length - off) := by
  simp [slice]

theorem slice_length_of_le {off n : Nat} (h : off + n ≤ l.length) : (slice l off n).length = n := by
  rw [slice_length]; omega

@[simp] theorem slice_zero (off : Nat) : slice l off 0 = [] := by simp [slice]

/-- A slice that lies inside `l` is not disturbed by what follows `l`. -/
theorem slice_append {off n : Nat} (h : off + n ≤ l.length) : slice (l ++ t) off n = slice l off n := by
  rw [slice, slice, List.drop_append_of_le_length (by omega),
    List.take_append_of_le_length (by rw [List.length_drop]; omega)]

/-- A slice that starts behind `l` is a slice of what follows. -/
theorem slice_append_right {off n : Nat} (h : l.length ≤ off) :
    slice (l ++ t) off n = slice t (off - l.length) n := by
  have hdrop : (l ++ t).drop off = t.drop (off - l.length) := by
    rw [List.drop_append, List.drop_eq_nil_of_le h, List.nil_append]
  rw [slice, slice, hdrop]

/-- A slice that starts inside `l` is what is left of `l` and the rest from what follows. -/
theorem slice_append_split {off : Nat} (n : Nat) (h : off ≤ l.length) :
    slice (l ++ t) off n =
      slice l off (min (l.length - off) n) ++ slice t 0 (n - (l.length - off)) := by
  have hmin : min (l.length - off) n = min n (l.drop off).length := by
    rw [List.length_drop, Nat.min_comm]
  rw [slice, slice, slice, List.drop_append_of_le_length h, List.take_append, List.length_drop,
    List.drop_zero, hmin, ← List.take_eq_take_min]

theorem slice_from_zero (n : Nat) : slice l 0 n = l.take n := by simp [slice]

/-- A slice that reaches the end. -/
theorem slice_to_end {off n : Nat} (h : l.length ≤ off + n) : slice l off n = l.drop off := by
  rw [slice, List.take_of_length_le]
  rw [List.length_drop]
  omega

/-- Consecutive slices concatenate. -/
theorem slice_add (off n m : Nat) : slice l off (n + m) = slice l off n ++ slice l (off + n) m := by
  rw [slice, slice, slice, List.take_add, List.drop_drop]

/-- A slice of a slice is a slice, cut at the end of the outer one. -/
theorem slice_slice (off n off' m : Nat) :
    slice (slice l off n) off' m = slice l (off + off') (min m (n - off')) := by
  simp only [slice, List.drop_take, List.take_take, List.drop_drop]

/-- The back of a slice. -/
theorem drop_slice (off n k : Nat) : (slice l off n).drop k = slice l (off + k) (n - k) := by
  rw [slice, slice, List.drop_take, List.drop_drop]

/-- A list in two parts, each a slice of it. -/
theorem eq_append_iff_slice {l a b : List α} (h : a.length + b.length = l.length) :
    l = a ++ b ↔ a = slice l 0 a.length ∧ b = slice l a.length b.length := by
  constructor
  · rintro rfl
    rw [slice_from_zero, List.take_left, slice, List.drop_left, List.take_length]
    exact ⟨rfl, rfl⟩
  · rintro ⟨ha, hb⟩
    have hwhole := slice_add l 0 a.length b.length
    rw [slice_from_zero, List.take_of_length_le (by omega), Nat.zero_add] at hwhole
    rw [hwhole, ← ha, ← hb]

/-- A slice of a numbered row. -/
theorem slice_map_range (f : Nat → α) {off n m : Nat} (h : off + n ≤ m) :
    slice ((List.range m).map f) off n = (List.range n).map fun i => f (off + i) := by
  apply List.ext_getElem
  · rw [slice_length_of_le _ (by rw [List.length_map, List.length_range]; exact h), List.length_map,
      List.length_range]
  · intro i hi hi'
    simp [slice]

end Slice

/-! ## Length-prefixed fields -/

/-- A field behind its two-byte length; a longer field is written behind its truncated length. -/
def putField (s : Bytes) : Bytes := beBytes 2 s.length ++ s

/-- Split a field off the front: two length bytes and that many bytes, or `none` if the string is
    too short for either. -/
def takeField (b : Bytes) : Option (Bytes × Bytes) :=
  if b.length < 2 then none
  else if b.length < 2 + beNat (b.take 2) then none
  else some (slice b 2 (beNat (b.take 2)), b.drop (2 + beNat (b.take 2)))

@[simp] theorem putField_length (s : Bytes) : (putField s).length = 2 + s.length := by
  simp [putField]

theorem beNat_take_putField {s : Bytes} (hs : s.length < 65536) (t : Bytes) :
    beNat ((putField s ++ t).take 2) = s.length := by
  rw [putField, List.append_assoc, List.take_left' (beBytes_length 2 _)]
  exact beNat_beBytes_of_lt hs

theorem takeField_putField {s : Bytes} (hs : s.length < 65536) (t : Bytes) :
    takeField (putField s ++ t) = some (s, t) := by
  have hn := beNat_take_putField hs t
  have hslice : slice (putField s ++ t) 2 s.length = s := by
    rw [putField, List.append_assoc, slice_append_right _ _ (by simp), beBytes_length,
      slice_append _ _ (by omega), slice_from_zero, List.take_length]
  have hdrop : (putField s ++ t).drop (2 + s.length) = t :=
    List.drop_left' (putField_length s)
  unfold takeField
  rw [hn, if_neg (by simp; omega), if_neg (by simp), hslice, hdrop]

/-- **Fields are read exactly.**  What `takeField` accepts is an encoded field followed by the rest. -/
theorem takeField_eq_some {b s t : Bytes} :
    takeField b = some (s, t) ↔ s.length < 65536 ∧ b = putField s ++ t := by
  constructor
  · intro h
    unfold takeField at h
    split at h
    · cases h
    · split at h
      · cases h
      · rename_i h2 hn
        obtain ⟨rfl, rfl⟩ := Prod.mk.inj (Option.some.inj h)
        have hlen2 : (b.take 2).length = 2 := by rw [List.length_take]; omega
        have hlt : beNat (b.take 2) < 65536 := by
          have := beNat_lt (b.take 2)
          rwa [hlen2] at this
        have hlen : (slice b 2 (beNat (b.take 2))).length = beNat (b.take 2) :=
          slice_length_of_le b (by omega)
        refine ⟨by rw [hlen]; exact hlt, ?_⟩
        have hbe : beBytes 2 (beNat (b.take 2)) = b.take 2 := by
          have := beBytes_beNat (b.take 2)
          rwa [hlen2] at this
        rw [putField, hlen, hbe, List.append_assoc, slice, ← List.drop_drop, List.take_append_drop,
          List.take_append_drop]
  · rintro ⟨hs, rfl⟩
    exact takeField_putField hs t

/-- `takeField` on a slice, in terms of the whole string: the two tests and the three cuts a parser
    working with offsets makes. -/
theorem takeField_slice {l : Bytes} {off n : Nat} (h : off + n ≤ l.length) :
    takeField (slice l off n) =
      if 2 + beNat (slice l off 2) ≤ n then
        some (slice l (off + 2) (beNat (slice l off 2)),
          slice l (off + 2 + beNat (slice l off 2)) (n - (2 + beNat (slice l off 2))))
      else none := by
  have hlen : (slice l off n).length = n := slice_length_of_le l h
  by_cases h2 : n < 2
  · rw [takeField, if_pos (by omega), if_neg (by omega)]
  · have htake : (slice l off n).take 2 = slice l off 2 := by
      rw [slice, slice, List.take_take, Nat.min_eq_left (by omega)]
    rw [takeField, htake, hlen, if_neg h2]
    by_cases hk : 2 + beNat (slice l off 2) ≤ n
    · have hdrop : (slice l off n).drop (2 + beNat (slice l off 2)) =
          slice l (off + 2 + beNat (slice l off 2)) (n - (2 + beNat (slice l off 2))) := by
        generalize beNat (slice l off 2) = k
        rw [slice, slice, List.drop_take, List.drop_drop, Nat.add_assoc]
      rw [if_neg (by omega), if_pos hk, hdrop, slice_slice, Nat.min_eq_left (by omega)]
    · rw [if_pos (by omega), if_neg hk]

end GalayRpc
