/-
  A store of at most `n` keys that forgets the oldest one.

  Requests come one after the other.  One whose key is in the store is answered from it, which moves
  nothing; any other goes to the source, and if the source knows it, its key is put behind the ones that
  are kept.

  * `serve_store` — the store is the last `n` keys that have been put into it;
  * `asked_nodup` — as long as the known requests have no more than `n` keys among them, nothing is
    forgotten: the source is asked once for each;
  * `rotate_advance` — an array that is written round robin, read from the cursor on, is such a store.
-/
import Mathlib.Data.List.Nodup
import Mathlib.Data.List.Perm.Subperm
import Mathlib.Data.List.Rotate

namespace GalayRpc.Fifo

variable {κ α : Type}

/-- The last `n`. -/
def newest (n : Nat) (keys : List κ) : List κ := keys.drop (keys.length - n)

/-- Put a key behind the ones that are kept. -/
def push (n : Nat) (kept : List κ) (key : κ) : List κ := newest n (kept ++ [key])

/-- The keys of those that the source knows. -/
def knownKeys (key : α → κ) (known : α → Bool) (asked : List α) : List κ := (asked.filter known).map key

theorem newest_of_le {n : Nat} {keys : List κ} (h : keys.length ≤ n) : newest n keys = keys := by
  rw [newest, Nat.sub_eq_zero_of_le h, List.drop_zero]

/-- What has been forgotten does not come back. -/
theorem newest_append (n : Nat) (keys more : List κ) :
    newest n (newest n keys ++ more) = newest n (keys ++ more) := by
  unfold newest
  have hle : keys.length - n ≤ keys.length := Nat.sub_le _ _
  rw [← List.drop_append_of_le_length hle, List.drop_drop, List.length_drop, List.length_append]
  congr 1
  omega

theorem push_of_room {n : Nat} {kept : List κ} {key : κ} (h : kept.length < n) :
    push n kept key = kept ++ [key] := by
  refine newest_of_le ?_
  rw [List.length_append, List.length_singleton]
  exact h

variable [DecidableEq κ]

/-- The requests that go to the source, and the store behind all of them. -/
def serve (n : Nat) (key : α → κ) (known : α → Bool) : List κ → List α → List α × List κ
  | kept, [] => ([], kept)
  | kept, a :: as =>
    if key a ∈ kept then serve n key known kept as
    else
      let rest := serve n key known (if known a then push n kept (key a) else kept) as
      (a :: rest.1, rest.2)

/-- **The store is the newest keys.** -/
theorem serve_store (n : Nat) (key : α → κ) (known : α → Bool) (as : List α) :
    ∀ kept : List κ, kept.length ≤ n →
      (serve n key known kept as).2 =
        newest n (kept ++ knownKeys key known (serve n key known kept as).1) := by
  induction as with
  | nil =>
    intro kept hle
    rw [serve, knownKeys, List.filter_nil, List.map_nil, List.append_nil, newest_of_le hle]
  | cons a as ih =>
    intro kept hle
    rw [serve]
    by_cases hmem : key a ∈ kept
    · rw [if_pos hmem]
      exact ih kept hle
    · rw [if_neg hmem]
      by_cases hknown : known a = true
      · have hlength : (push n kept (key a)).length ≤ n := by
          rw [push, newest, List.length_drop]
          omega
        simp only [if_pos hknown]
        rw [ih _ hlength, push, newest_append, List.append_assoc]
        simp only [knownKeys, List.filter_cons_of_pos hknown, List.map_cons, List.singleton_append]
      · simp only [hknown, Bool.false_eq_true, if_false]
        rw [ih kept hle, knownKeys, knownKeys, List.filter_cons_of_neg hknown]

/-- **Few keys are asked for once.** -/
theorem asked_nodup {n : Nat} {key : α → κ} {known : α → Bool} {keys : List κ} (hfew : keys.length ≤ n)
    (as : List α) (hkeys : ∀ a ∈ as, known a = true → key a ∈ keys) :
    ∀ kept : List κ, kept.Nodup → kept ⊆ keys →
      (knownKeys key known (serve n key known kept as).1).Nodup ∧
        ∀ k ∈ knownKeys key known (serve n key known kept as).1, k ∉ kept := by
  induction as with
  | nil =>
    intro kept _ _
    exact ⟨List.nodup_nil, fun k hk => by cases hk⟩
  | cons a as ih =>
    intro kept hnodup hsub
    have ih := ih fun b hb => hkeys b (List.mem_cons_of_mem _ hb)
    rw [serve]
    by_cases hmem : key a ∈ kept
    · rw [if_pos hmem]
      exact ih kept hnodup hsub
    · rw [if_neg hmem]
      by_cases hknown : known a = true
      · -- the store and the new key are among `keys`, so there is room
        have hnodup' : (kept ++ [key a]).Nodup := by
          rw [← List.concat_eq_append]
          exact (List.nodup_concat kept (key a)).mpr ⟨hmem, hnodup⟩
        have hsub' : kept ++ [key a] ⊆ keys := by
          refine List.append_subset.mpr ⟨hsub, ?_⟩
          intro k hk
          rw [List.mem_singleton.mp hk]
          exact hkeys a List.mem_cons_self hknown
        have hlength := (List.subperm_of_subset hnodup' hsub').length_le
        rw [List.length_append, List.length_singleton] at hlength
        simp only [if_pos hknown]
        rw [push_of_room (Nat.lt_of_lt_of_le hlength hfew)]
        obtain ⟨hrest, hnew⟩ := ih _ hnodup' hsub'
        simp only [knownKeys, List.filter_cons_of_pos hknown, List.map_cons]
        refine ⟨List.nodup_cons.mpr ⟨?_, hrest⟩, ?_⟩
        · intro hagain
          exact hnew _ hagain (List.mem_append_right _ (List.mem_singleton_self _))
        · intro k hk
          rcases List.mem_cons.mp hk with rfl | hk
          · exact hmem
          · intro hkept
            exact hnew k hk (List.mem_append_left _ hkept)
      · simp only [hknown, Bool.false_eq_true, if_false]
        rw [knownKeys, List.filter_cons_of_neg hknown]
        exact ih kept hnodup hsub

omit [DecidableEq κ] in
/-- Writing at the cursor and moving it on takes the oldest key away and puts the new one behind. -/
theorem rotate_advance (keys : List κ) {cursor : Nat} (h : cursor < keys.length) (key : κ) :
    (keys.set cursor key).rotate ((cursor + 1) % keys.length) = (keys.rotate cursor).tail ++ [key] := by
  have hset : cursor < (keys.set cursor key).length := by
    rw [List.length_set]
    exact h
  have hmod := List.rotate_mod (keys.set cursor key) (cursor + 1)
  rw [List.length_set] at hmod
  have hcons := List.drop_eq_getElem_cons h
  rw [hmod, List.rotate_eq_drop_append_take hset, List.rotate_eq_drop_append_take (Nat.le_of_lt h),
    List.drop_set_of_lt (Nat.lt_succ_self _), List.take_add_one, List.getElem?_eq_getElem hset,
    List.getElem_set_self, Option.toList_some, List.take_set_of_le (Nat.le_refl _), hcons,
    List.cons_append, List.tail_cons, List.append_assoc]

end GalayRpc.Fifo
