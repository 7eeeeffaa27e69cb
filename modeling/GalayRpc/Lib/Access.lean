/-
  Programs that read a memory, and where they read it.

  A memory holds a `β` at each index; an `Access` is a program that may look at it, given by its result
  and by the indices it looks at, in order.  No index is out of reach: a program that reads where it
  should not goes on with what it finds there, as the code does that it models.

  `Inside P memory x` says of a run of `x` that it has read nowhere but where `P` holds, `Within P memory
  x a` also that its result is `a`.  Both are proved in one go, since where a program reads depends on
  what it has read before: the rule for `>>=` (`Within.bind`) knows the result of the first part.
  `ExceptT` over it has the rule that follows `>>=` of `Except` (`Within.exceptBind`), so a program that
  can fail is compared with the one that has the whole input as a list, statement by statement.
-/
import Mathlib.Data.List.Basic

namespace GalayRpc

/-- What a program makes of a memory, and the indices it looks at. -/
structure Access (ι β α : Type) where
  run : (ι → β) → α × List ι

namespace Access

variable {ι β α γ ε : Type}

instance : Monad (Access ι β) where
  pure a := ⟨fun _ => (a, [])⟩
  bind x f := ⟨fun memory =>
    (((f (x.run memory).1).run memory).1, (x.run memory).2 ++ ((f (x.run memory).1).run memory).2)⟩

/-- Look at one index. -/
def read (i : ι) : Access ι β β := ⟨fun memory => (memory i, [i])⟩

/-- Look at some indices, in order. -/
def readAll (indices : List ι) : Access ι β (List β) := ⟨fun memory => (indices.map memory, indices)⟩

/-- A run reads only where `P` holds. -/
def Inside (P : ι → Prop) (memory : ι → β) (x : Access ι β α) : Prop := ∀ i ∈ (x.run memory).2, P i

/-- The result of a run that reads only where `P` holds. -/
structure Within (P : ι → Prop) (memory : ι → β) (x : Access ι β α) (a : α) : Prop where
  result : (x.run memory).1 = a
  inside : Inside P memory x

variable {P Q : ι → Prop} {memory : ι → β}

theorem within_pure (a : α) : Within P memory (pure a : Access ι β α) a where
  result := rfl
  inside := fun _ h => absurd h List.not_mem_nil

theorem inside_pure (a : α) : Inside P memory (pure a : Access ι β α) := (within_pure a).inside

theorem within_read {i : ι} (h : P i) : Within P memory (read i) (memory i) where
  result := rfl
  inside := fun j hj => by
    obtain rfl := List.mem_singleton.mp hj
    exact h

theorem within_readAll {indices : List ι} (h : ∀ i ∈ indices, P i) :
    Within P memory (readAll indices) (indices.map memory) where
  result := rfl
  inside := h

/-- Where two programs in a row read: the second one starts from the result of the first. -/
theorem Within.bind_inside {x : Access ι β α} {f : α → Access ι β γ} {a : α} (hx : Within P memory x a)
    (hf : Inside P memory (f a)) : Inside P memory (x >>= f) := by
  intro i hi
  rcases List.mem_append.mp hi with hi | hi
  · exact hx.inside i hi
  · rw [hx.result] at hi
    exact hf i hi

/-- **The rule for two programs in a row.** -/
theorem Within.bind {x : Access ι β α} {f : α → Access ι β γ} {a : α} {c : γ}
    (hx : Within P memory x a) (hf : Within P memory (f a) c) : Within P memory (x >>= f) c where
  result := by
    show ((f (x.run memory).1).run memory).1 = c
    rw [hx.result, hf.result]
  inside := hx.bind_inside hf.inside

theorem Inside.mono {x : Access ι β α} (h : Inside P memory x) (himp : ∀ i, P i → Q i) :
    Inside Q memory x :=
  fun i hi => himp i (h i hi)

theorem Within.mono {x : Access ι β α} {a : α} (h : Within P memory x a) (himp : ∀ i, P i → Q i) :
    Within Q memory x a :=
  ⟨h.result, h.inside.mono himp⟩

/-- **The rule for two programs in a row, the first of which may fail.** -/
theorem Within.exceptBind {x : ExceptT ε (Access ι β) α} {f : α → ExceptT ε (Access ι β) γ}
    {r : Except ε α} {g : α → Except ε γ} (hx : Within P memory (ExceptT.run x) r)
    (hf : ∀ a, Within P memory (ExceptT.run (f a)) (g a)) :
    Within P memory (ExceptT.run (x >>= f)) (r >>= g) := by
  cases r with
  | error e => exact Within.bind hx (within_pure (Except.error e))
  | ok a => exact Within.bind hx (hf a)

theorem within_throw (e : ε) :
    Within P memory (ExceptT.run (throw e : ExceptT ε (Access ι β) α)) (Except.error e) :=
  within_pure (Except.error e)

theorem within_exceptPure (a : α) :
    Within P memory (ExceptT.run (pure a : ExceptT ε (Access ι β) α)) (Except.ok a) :=
  within_pure (Except.ok a)

end Access

end GalayRpc
