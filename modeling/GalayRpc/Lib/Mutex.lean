/-
  Coroutines that share a state behind a lock, and what any interleaving of them amounts to.

  1. **Routines** — a `Routine` is the code of a coroutine, one step at a time: an attempt at the lock
     with a continuation for either end of it, a release, a step on the shared state.  A step may emit
     entries for a log; what it does, what it emits and what comes after it depend on the state it finds.

  2. **Pool** — the shared state, the holder of the lock and the routines started so far, each of which
     can be at any point of its code.  The lock is granted only while nobody holds it; an attempt can be
     refused at any time; anyone can release.  The order of grants, that of releases and the log are
     history, read by no step.

  3. **Discipline** — `CriticalSection`: steps that take the part `abs` of the state from one value to
     another, the release, and nothing more.  `Idle`: steps that leave that part alone, and no release.
     `Locking` says that every operation makes one attempt, and goes on with the one or with the other.

  4. **The crux (`Serialized`)** — then the state and the log of those who got the lock are what their
     effects, one after the other in the order of the grants, make of the first state, except for what
     the holder still has to do; and the releases are the grants, the holder's excepted.
     `Serialized.step` keeps this over each kind of step, and `Locking.serialized` has it for every run.
-/
import Mathlib.Data.List.Nodup
import GalayRpc.Lib.Run

namespace GalayRpc

/-! ## Routines and the pool -/

/-- The code of a coroutine on a shared state `σ` that emits `ω`. -/
inductive Routine (σ ω : Type) where
  | done
  | lock (granted refused : Routine σ ω)
  | unlock (next : Routine σ ω)
  | act (update : σ → σ) (emit : σ → List ω) (next : σ → Routine σ ω)

/-- The shared state, the lock and the coroutines; each has the operation it was started for. -/
structure Pool (σ ω ι : Type) where
  shared : σ
  holder : Option Nat := none
  routines : List (ι × Routine σ ω) := []
  log : List (Nat × ω) := []
  grants : List (Nat × ι) := []
  releases : List Nat := []

/-- What happens next. -/
inductive PoolAction (ι : Type) where
  | start (op : ι)
  | run (i : Nat)
  | grant (i : Nat)
  | refuse (i : Nat)

variable {σ ω ι τ : Type} {program : ι → Routine σ ω}

namespace Pool

variable (p : Pool σ ω ι)

/-- A coroutine is started. -/
def started (op : ι) (r : Routine σ ω) : Pool σ ω ι := { p with routines := p.routines ++ [(op, r)] }

/-- Coroutine `i` releases the lock and goes on with `next`. -/
def released (i : Nat) (op : ι) (next : Routine σ ω) : Pool σ ω ι :=
  { p with
    holder := none
    routines := p.routines.set i (op, next)
    releases := p.releases ++ [i] }

/-- Coroutine `i` leaves the state `s`, emits `out` and goes on with `next`. -/
def acted (i : Nat) (op : ι) (s : σ) (out : List ω) (next : Routine σ ω) : Pool σ ω ι :=
  { p with
    shared := s
    routines := p.routines.set i (op, next)
    log := p.log ++ out.map fun e => (i, e) }

/-- Coroutine `i` has got the lock. -/
def granted (i : Nat) (op : ι) (next : Routine σ ω) : Pool σ ω ι :=
  { p with
    holder := some i
    routines := p.routines.set i (op, next)
    grants := p.grants ++ [(i, op)] }

/-- The attempt of coroutine `i` has failed. -/
def refused (i : Nat) (op : ι) (next : Routine σ ω) : Pool σ ω ι :=
  { p with routines := p.routines.set i (op, next) }

/-- One step. -/
def step (program : ι → Routine σ ω) (p : Pool σ ω ι) : PoolAction ι → Option (Pool σ ω ι)
  | .start op => some (p.started op (program op))
  | .run i =>
    match p.routines[i]? with
    | some (op, .unlock next) => some (p.released i op next)
    | some (op, .act update emit next) =>
      some (p.acted i op (update p.shared) (emit p.shared) (next p.shared))
    | _ => none
  | .grant i =>
    match p.holder, p.routines[i]? with
    | none, some (op, .lock next _) => some (p.granted i op next)
    | _, _ => none
  | .refuse i =>
    match p.routines[i]? with
    | some (op, .lock _ next) => some (p.refused i op next)
    | _ => none

/-- What a step can do. -/
inductive Stepped (program : ι → Routine σ ω) (p : Pool σ ω ι) : Pool σ ω ι → Prop where
  | start (op : ι) : Stepped program p (p.started op (program op))
  | unlock {i : Nat} {op : ι} {next : Routine σ ω} (h : p.routines[i]? = some (op, .unlock next)) :
      Stepped program p (p.released i op next)
  | act {i : Nat} {op : ι} {update : σ → σ} {emit : σ → List ω} {next : σ → Routine σ ω}
      (h : p.routines[i]? = some (op, .act update emit next)) :
      Stepped program p (p.acted i op (update p.shared) (emit p.shared) (next p.shared))
  | grant {i : Nat} {op : ι} {next other : Routine σ ω} (hfree : p.holder = none)
      (h : p.routines[i]? = some (op, .lock next other)) : Stepped program p (p.granted i op next)
  | refuse {i : Nat} {op : ι} {other next : Routine σ ω}
      (h : p.routines[i]? = some (op, .lock other next)) : Stepped program p (p.refused i op next)

theorem stepped {p p' : Pool σ ω ι} {a : PoolAction ι} (h : p.step program a = some p') :
    Stepped program p p' := by
  cases a with
  | start op =>
    obtain rfl := Option.some.inj h
    exact .start op
  | run i =>
    unfold step at h
    dsimp only at h
    split at h
    · rename_i hi
      obtain rfl := Option.some.inj h
      exact .unlock hi
    · rename_i hi
      obtain rfl := Option.some.inj h
      exact .act hi
    · cases h
  | grant i =>
    unfold step at h
    dsimp only at h
    split at h
    · rename_i hfree hi
      obtain rfl := Option.some.inj h
      exact .grant hfree hi
    · cases h
  | refuse i =>
    unfold step at h
    dsimp only at h
    split at h
    · rename_i hi
      obtain rfl := Option.some.inj h
      exact .refuse hi
    · cases h

/-- The lock free, nothing started. -/
def initial (s : σ) : Pool σ ω ι := { shared := s }

/-- Who has got the lock so far, in that order. -/
def lockOrder : List Nat := p.grants.map Prod.fst

end Pool

namespace Pool

/-- A coroutine that is done stays done. -/
theorem done_step {p p' : Pool σ ω ι} {a : PoolAction ι} (h : p.step program a = some p') {i : Nat}
    {op : ι} (hi : p.routines[i]? = some (op, .done)) : p'.routines[i]? = some (op, .done) := by
  -- a step of `j` finds it at something else than its end
  have hset : ∀ {j : Nat} {b : ι × Routine σ ω} (b' : ι × Routine σ ω), p.routines[j]? = some b →
      b ≠ (op, .done) → (p.routines.set j b')[i]? = some (op, .done) := by
    intro j b b' hj hb
    have hij : j ≠ i := by
      rintro rfl
      exact hb (Option.some.inj (hj.symm.trans hi))
    rw [List.getElem?_set_ne hij]
    exact hi
  cases stepped h with
  | start op' =>
    show (p.routines ++ _)[i]? = _
    rw [List.getElem?_append_left (List.getElem?_eq_some_iff.mp hi).1]
    exact hi
  | unlock hj => exact hset _ hj fun h => by cases h
  | act hj => exact hset _ hj fun h => by cases h
  | grant _ hj => exact hset _ hj fun h => by cases h
  | refuse hj => exact hset _ hj fun h => by cases h

/-- **The order of the grants is that of time**: who gets the lock later is not done now. -/
theorem later_grants {C : Pool σ ω ι → PoolAction ι → Prop} {p p' : Pool σ ω ι}
    {actions : List (PoolAction ι)} (h : Run (step program) C p actions p') :
    ∃ later, p'.grants = p.grants ++ later ∧
      ∀ i op, (i, op) ∈ later → ∀ op', p.routines[i]? ≠ some (op', .done) := by
  induction h with
  | nil p => exact ⟨[], (List.append_nil _).symm, fun i op h => absurd h List.not_mem_nil⟩
  | @cons p p₁ p' a actions _ hstep _ ih =>
    obtain ⟨later, hgrants, hlater⟩ := ih
    have hrest : ∀ i op, (i, op) ∈ later → ∀ op', p.routines[i]? ≠ some (op', .done) :=
      fun i op hmem op' hi => hlater i op hmem op' (done_step hstep hi)
    cases stepped hstep with
    | start op => exact ⟨later, hgrants, hrest⟩
    | unlock hi => exact ⟨later, hgrants, hrest⟩
    | act hi => exact ⟨later, hgrants, hrest⟩
    | refuse hi => exact ⟨later, hgrants, hrest⟩
    | @grant j op next other hfree hj =>
      refine ⟨(j, op) :: later, ?_, ?_⟩
      · show p'.grants = p.grants ++ ([(j, op)] ++ later)
        rw [← List.append_assoc]
        exact hgrants
      · intro i op' hmem op'' hi
        rcases List.mem_cons.mp hmem with heq | hmem
        · obtain ⟨rfl, rfl⟩ := Prod.mk.inj heq
          cases hj.symm.trans hi
        · exact hrest i op' hmem op'' hi

end Pool

/-! ## Logs -/

/-- What `i` has emitted. -/
def ownLog (log : List (Nat × ω)) (i : Nat) : List ω :=
  (log.filter fun e => e.1 == i).map Prod.snd

/-- What those among `ids` have emitted. -/
def jointLog (ids : List Nat) (log : List (Nat × ω)) : List (Nat × ω) :=
  log.filter fun e => decide (e.1 ∈ ids)

theorem ownLog_append_self (log : List (Nat × ω)) (i : Nat) (out : List ω) :
    ownLog (log ++ out.map fun e => (i, e)) i = ownLog log i ++ out := by
  rw [ownLog, List.filter_append, List.map_append, ← ownLog]
  congr 1
  rw [List.filter_eq_self.mpr]
  · rw [List.map_map]
    exact List.map_id out
  · intro e he
    obtain ⟨e', -, rfl⟩ := List.mem_map.mp he
    exact beq_self_eq_true i

theorem ownLog_append_ne (log : List (Nat × ω)) {i j : Nat} (h : j ≠ i) (out : List ω) :
    ownLog (log ++ out.map fun e => (j, e)) i = ownLog log i := by
  rw [ownLog, List.filter_append, List.map_append, ← ownLog]
  have hnone : (out.map fun e => (j, e)).filter (fun e => e.1 == i) = [] := by
    refine List.filter_eq_nil_iff.mpr fun e he => ?_
    obtain ⟨e', -, rfl⟩ := List.mem_map.mp he
    simpa using h
  rw [hnone, List.map_nil, List.append_nil]

theorem ownLog_eq_nil {log : List (Nat × ω)} {i : Nat} : ownLog log i = [] ↔ ∀ e ∈ log, e.1 ≠ i := by
  rw [ownLog, List.map_eq_nil_iff, List.filter_eq_nil_iff]
  constructor
  · intro h e he
    simpa using h e he
  · intro h e he
    simpa using h e he

theorem mem_ownLog {log : List (Nat × ω)} {i : Nat} {e : ω} : e ∈ ownLog log i ↔ (i, e) ∈ log := by
  rw [ownLog, List.mem_map]
  constructor
  · rintro ⟨⟨j, e'⟩, hmem, rfl⟩
    obtain ⟨hlog, hj⟩ := List.mem_filter.mp hmem
    obtain rfl : j = i := by simpa using hj
    exact hlog
  · intro h
    exact ⟨(i, e), List.mem_filter.mpr ⟨h, beq_self_eq_true i⟩, rfl⟩

theorem jointLog_append_mem {ids : List Nat} (log : List (Nat × ω)) {i : Nat} (h : i ∈ ids)
    (out : List ω) :
    jointLog ids (log ++ out.map fun e => (i, e)) = jointLog ids log ++ out.map fun e => (i, e) := by
  rw [jointLog, List.filter_append, ← jointLog]
  congr 1
  refine List.filter_eq_self.mpr fun e he => ?_
  obtain ⟨e', -, rfl⟩ := List.mem_map.mp he
  exact decide_eq_true h

theorem jointLog_append_not_mem {ids : List Nat} (log : List (Nat × ω)) {i : Nat} (h : i ∉ ids)
    (out : List ω) : jointLog ids (log ++ out.map fun e => (i, e)) = jointLog ids log := by
  rw [jointLog, List.filter_append, ← jointLog]
  have hnone : (out.map fun e => (i, e)).filter (fun e => decide (e.1 ∈ ids)) = [] := by
    refine List.filter_eq_nil_iff.mpr fun e he => ?_
    obtain ⟨e', -, rfl⟩ := List.mem_map.mp he
    simpa using h
  rw [hnone, List.append_nil]

/-- One more who has emitted nothing yet. -/
theorem jointLog_concat {ids : List Nat} {log : List (Nat × ω)} {i : Nat} (h : ownLog log i = []) :
    jointLog (ids ++ [i]) log = jointLog ids log := by
  refine List.filter_congr fun e he => ?_
  have hne := ownLog_eq_nil.mp h e he
  simp [hne]

/-! ## The discipline -/

/-- **A critical section**: steps that take `abs` of the state from `t` to `t'` and emit `out`, whatever
    else is in the state; then the release; then nothing. -/
inductive CriticalSection (abs : σ → τ) : Routine σ ω → τ → τ → List ω → Prop where
  | unlock (t : τ) : CriticalSection abs (.unlock .done) t t []
  | act {update : σ → σ} {emit : σ → List ω} {next : σ → Routine σ ω} {t t₁ t' : τ} {out rest : List ω}
      (hupdate : ∀ s, abs s = t → abs (update s) = t₁) (hemit : ∀ s, abs s = t → emit s = out)
      (hnext : ∀ s, abs s = t → CriticalSection abs (next s) t₁ t' rest) :
      CriticalSection abs (.act update emit next) t t' (out ++ rest)

/-- Steps that leave `abs` of the state alone and emit `out`, and no release. -/
inductive Idle (abs : σ → τ) : Routine σ ω → List ω → Prop where
  | done : Idle abs .done []
  | act {update : σ → σ} {emit : σ → List ω} {next : σ → Routine σ ω} {out rest : List ω}
      (hupdate : ∀ s, abs (update s) = abs s) (hemit : ∀ s, emit s = out)
      (hnext : ∀ s, Idle abs (next s) rest) : Idle abs (.act update emit next) (out ++ rest)

/-- **Operations that keep the discipline**: each attempts the lock once; granted, it has its effect on
    `abs` of the state; refused, it has none. -/
structure Locking (program : ι → Routine σ ω) (τ : Type) where
  abs : σ → τ
  granted : ι → Routine σ ω
  refused : ι → Routine σ ω
  program_eq : ∀ op, program op = .lock (granted op) (refused op)
  effect : ι → τ → τ × List ω
  granted_section : ∀ op t, CriticalSection abs (granted op) t (effect op t).1 (effect op t).2
  refusal : ι → List ω
  refused_idle : ∀ op, Idle abs (refused op) (refusal op)

namespace Locking

variable (L : Locking program τ)

/-- The effects one after the other. -/
def serialState (t : τ) (grants : List (Nat × ι)) : τ :=
  grants.foldl (fun t g => (L.effect g.2 t).1) t

/-- What they emit, each for its owner. -/
def serialLog : τ → List (Nat × ι) → List (Nat × ω)
  | _, [] => []
  | t, g :: grants =>
    ((L.effect g.2 t).2.map fun e => (g.1, e)) ++ serialLog (L.effect g.2 t).1 grants

theorem serialState_concat (t : τ) (grants : List (Nat × ι)) (g : Nat × ι) :
    L.serialState t (grants ++ [g]) = (L.effect g.2 (L.serialState t grants)).1 :=
  List.foldl_concat ..

theorem serialLog_append (t : τ) (grants grants' : List (Nat × ι)) :
    L.serialLog t (grants ++ grants') =
      L.serialLog t grants ++ L.serialLog (L.serialState t grants) grants' := by
  induction grants generalizing t with
  | nil => rfl
  | cons g grants ih =>
    show _ ++ L.serialLog (L.effect g.2 t).1 (grants ++ grants') = _ ++ L.serialLog _ grants ++ _
    rw [ih, List.append_assoc]
    rfl

theorem serialLog_concat (t : τ) (grants : List (Nat × ι)) (g : Nat × ι) :
    L.serialLog t (grants ++ [g]) =
      L.serialLog t grants ++ (L.effect g.2 (L.serialState t grants)).2.map fun e => (g.1, e) := by
  rw [serialLog_append, serialLog, serialLog, List.append_nil]

end Locking

/-! ## Every interleaving -/

/-- How far coroutine `i` can be, with its attempt at the lock ahead of it, granted, finished or refused;
    `ids` are those who have got the lock so far, and `out` is what `i` has emitted. -/
inductive Stage (L : Locking program τ) (holder : Option Nat) (ids : List Nat) (i : Nat)
    (out : List ω) : ι × Routine σ ω → Prop where
  | waiting {op : ι} (hid : i ∉ ids) (hout : out = []) : Stage L holder ids i out (op, program op)
  | inside {op : ι} {r : Routine σ ω} (hholder : holder = some i) : Stage L holder ids i out (op, r)
  | finished {op : ι} (hid : i ∈ ids) (hholder : holder ≠ some i) : Stage L holder ids i out (op, .done)
  | refused {op : ι} {r : Routine σ ω} {rest : List ω} (hid : i ∉ ids) (hidle : Idle L.abs r rest)
      (hout : out ++ rest = L.refusal op) : Stage L holder ids i out (op, r)

/-- What the holder still has to do, if there is one: the rest of its critical section makes up the
    effects of all grants. -/
def Locking.Pending (L : Locking program τ) (t : τ) (p : Pool σ ω ι) : Prop :=
  match p.holder with
  | none =>
    L.abs p.shared = L.serialState t p.grants ∧ jointLog p.lockOrder p.log = L.serialLog t p.grants
  | some i => ∃ op r rest, p.routines[i]? = some (op, r) ∧
    CriticalSection L.abs r (L.abs p.shared) (L.serialState t p.grants) rest ∧
    (jointLog p.lockOrder p.log ++ rest.map fun e => (i, e)) = L.serialLog t p.grants

/-- **Effects in the order of the grants**, but for what the holder still has to do. -/
structure Serialized (L : Locking program τ) (t : τ) (p : Pool σ ω ι) : Prop where
  releases_eq : p.lockOrder = p.releases ++ p.holder.toList
  once : p.lockOrder.Nodup
  owned : ∀ i op, (i, op) ∈ p.grants → ∃ r, p.routines[i]? = some (op, r)
  logged : ∀ e ∈ p.log, e.1 < p.routines.length
  stages : ∀ i b, p.routines[i]? = some b → Stage L p.holder p.lockOrder i (ownLog p.log i) b
  pending : L.Pending t p

namespace Serialized

variable {L : Locking program τ} {t : τ} {p : Pool σ ω ι}

theorem initial (L : Locking program τ) (s : σ) : Serialized L (L.abs s) (Pool.initial s) where
  releases_eq := rfl
  once := List.nodup_nil
  owned := fun i op h => absurd h List.not_mem_nil
  logged := fun e h => absurd h List.not_mem_nil
  stages := fun i b h => by cases h
  pending := ⟨rfl, rfl⟩

/-- Who has got the lock has been started. -/
theorem lt_length (hp : Serialized L t p) {i : Nat} (h : i ∈ p.lockOrder) : i < p.routines.length := by
  obtain ⟨⟨j, op⟩, hmem, rfl⟩ := List.mem_map.mp h
  obtain ⟨r, hr⟩ := hp.owned j op hmem
  exact (List.getElem?_eq_some_iff.mp hr).1

theorem holder_mem (hp : Serialized L t p) {i : Nat} (h : p.holder = some i) : i ∈ p.lockOrder := by
  rw [hp.releases_eq, h]
  exact List.mem_append_right _ (List.mem_singleton_self i)

/-- The operations of the coroutines stay what they are. -/
theorem owned_set (hp : Serialized L t p) {i : Nat} {op : ι} {r r' : Routine σ ω}
    (hi : p.routines[i]? = some (op, r)) {j : Nat} {op' : ι} (h : (j, op') ∈ p.grants) :
    ∃ r'', (p.routines.set i (op, r'))[j]? = some (op', r'') := by
  obtain ⟨r'', hr''⟩ := hp.owned j op' h
  rw [getElem?_set_of_some hr'']
  by_cases hij : i = j
  · subst hij
    obtain ⟨rfl, rfl⟩ := Prod.mk.inj (Option.some.inj (hi.symm.trans hr''))
    exact ⟨r', congrArg some (if_pos rfl)⟩
  · exact ⟨r'', congrArg some (if_neg hij)⟩

/-- The log is of those who have been started. -/
theorem logged_set (hp : Serialized L t p) (i : Nat) (b : ι × Routine σ ω) :
    ∀ e ∈ p.log, e.1 < (p.routines.set i b).length := by
  intro e he
  rw [List.length_set]
  exact hp.logged e he

/-- While nobody holds the lock, nothing is pending. -/
theorem of_free (hp : Serialized L t p) (hfree : p.holder = none) :
    L.abs p.shared = L.serialState t p.grants ∧ jointLog p.lockOrder p.log = L.serialLog t p.grants := by
  have hpending := hp.pending
  rw [Locking.Pending, hfree] at hpending
  exact hpending

/-- While somebody does, the rest of its code is a critical section that makes up the effects. -/
theorem of_holder (hp : Serialized L t p) {i : Nat} (hholder : p.holder = some i) {op : ι}
    {r : Routine σ ω} (hi : p.routines[i]? = some (op, r)) :
    ∃ rest, CriticalSection L.abs r (L.abs p.shared) (L.serialState t p.grants) rest ∧
      (jointLog p.lockOrder p.log ++ rest.map fun e => (i, e)) = L.serialLog t p.grants := by
  have hpending := hp.pending
  rw [Locking.Pending, hholder] at hpending
  obtain ⟨op', r', rest, hr, hsection, hlog⟩ := hpending
  obtain ⟨rfl, rfl⟩ := Prod.mk.inj (Option.some.inj (hi.symm.trans hr))
  exact ⟨rest, hsection, hlog⟩

/-- Where a coroutine can be. -/
theorem stage_cases (hp : Serialized L t p) {i : Nat} {op : ι} {r : Routine σ ω}
    (hi : p.routines[i]? = some (op, r)) :
    (i ∉ p.lockOrder ∧ ownLog p.log i = [] ∧ r = .lock (L.granted op) (L.refused op)) ∨
      p.holder = some i ∨ (i ∈ p.lockOrder ∧ r = .done) ∨
      i ∉ p.lockOrder ∧ ∃ rest, Idle L.abs r rest ∧ ownLog p.log i ++ rest = L.refusal op := by
  generalize hb : (op, r) = b at hi
  cases hp.stages i b hi with
  | waiting hid hout =>
    obtain ⟨rfl, rfl⟩ := Prod.mk.inj hb
    exact Or.inl ⟨hid, hout, L.program_eq _⟩
  | inside hholder => exact Or.inr (Or.inl hholder)
  | finished hid _ =>
    obtain ⟨-, rfl⟩ := Prod.mk.inj hb
    exact Or.inr (Or.inr (Or.inl ⟨hid, rfl⟩))
  | refused hid hidle hout =>
    obtain ⟨rfl, rfl⟩ := Prod.mk.inj hb
    exact Or.inr (Or.inr (Or.inr ⟨hid, _, hidle, hout⟩))

/-- A coroutine at an attempt at the lock has made none before. -/
theorem at_lock (hp : Serialized L t p) {i : Nat} {op : ι} {next other : Routine σ ω}
    (hi : p.routines[i]? = some (op, .lock next other)) :
    i ∉ p.lockOrder ∧ ownLog p.log i = [] ∧ next = L.granted op ∧ other = L.refused op := by
  rcases hp.stage_cases hi with ⟨hid, hout, hr⟩ | hholder | ⟨-, hr⟩ | ⟨-, rest, hidle, -⟩
  · obtain ⟨rfl, rfl⟩ := Routine.lock.inj hr
    exact ⟨hid, hout, rfl, rfl⟩
  · -- nothing in a critical section is an attempt
    obtain ⟨rest, hsection, -⟩ := hp.of_holder hholder hi
    cases hsection
  · cases hr
  · cases hidle

/-- Only the holder releases. -/
theorem at_unlock (hp : Serialized L t p) {i : Nat} {op : ι} {next : Routine σ ω}
    (hi : p.routines[i]? = some (op, .unlock next)) : p.holder = some i := by
  rcases hp.stage_cases hi with ⟨-, -, hr⟩ | hholder | ⟨-, hr⟩ | ⟨-, rest, hidle, -⟩
  · cases hr
  · exact hholder
  · cases hr
  · cases hidle

/-- Only the holder acts on the state, and those who have been refused, who do not touch it. -/
theorem at_act (hp : Serialized L t p) {i : Nat} {op : ι} {update : σ → σ} {emit : σ → List ω}
    {next : σ → Routine σ ω} (hi : p.routines[i]? = some (op, .act update emit next)) :
    p.holder = some i ∨ i ∉ p.lockOrder ∧ ∃ rest, Idle L.abs (.act update emit next) rest ∧
      ownLog p.log i ++ rest = L.refusal op := by
  rcases hp.stage_cases hi with ⟨-, -, hr⟩ | hholder | ⟨-, hr⟩ | hrefused
  · cases hr
  · exact Or.inl hholder
  · cases hr
  · exact Or.inr hrefused

/-- What is pending is the holder's, so that a step of somebody else who leaves `abs` of the state and
    the joint log alone does not change it. -/
theorem pending_set (hp : Serialized L t p) {i : Nat} (hi : p.holder ≠ some i) (b : ι × Routine σ ω)
    {s : σ} {log : List (Nat × ω)} (hs : L.abs s = L.abs p.shared)
    (hlog : jointLog p.lockOrder log = jointLog p.lockOrder p.log) :
    L.Pending t { p with shared := s, routines := p.routines.set i b, log := log } := by
  have hpending := hp.pending
  unfold Locking.Pending at hpending ⊢
  show match p.holder with
    | none => L.abs s = _ ∧ jointLog p.lockOrder log = _
    | some j => ∃ op r rest, (p.routines.set i b)[j]? = some (op, r) ∧
      CriticalSection L.abs r (L.abs s) _ rest ∧ (jointLog p.lockOrder log ++ _) = _
  rw [hs, hlog]
  split at hpending
  · exact hpending
  · rename_i j hj
    obtain ⟨op, r, rest, hr, hsection, hmap⟩ := hpending
    have hij : i ≠ j := by
      rintro rfl
      exact hi hj
    refine ⟨op, r, rest, ?_, hsection, hmap⟩
    rw [getElem?_set_of_some hr, if_neg hij]

theorem started (hp : Serialized L t p) (op : ι) : Serialized L t (p.started op (program op)) where
  releases_eq := hp.releases_eq
  once := hp.once
  owned := fun i op' h => by
    obtain ⟨r, hr⟩ := hp.owned i op' h
    exact ⟨r, List.getElem?_append_left (List.getElem?_eq_some_iff.mp hr).1 ▸ hr⟩
  logged := fun e he => by
    have hlt := hp.logged e he
    show e.1 < (p.routines ++ [(op, program op)]).length
    rw [List.length_append]
    omega
  stages := by
    refine forall_getElem?_concat hp.stages (.waiting ?_ ?_)
    · intro hmem
      exact Nat.lt_irrefl _ (hp.lt_length hmem)
    · refine ownLog_eq_nil.mpr fun e he => ?_
      exact Nat.ne_of_lt (hp.logged e he)
  pending := by
    have hpending := hp.pending
    unfold Locking.Pending at hpending ⊢
    show match p.holder with
      | none => L.abs p.shared = _ ∧ _
      | some j => ∃ op' r rest, (p.routines ++ [(op, program op)])[j]? = some (op', r) ∧ _ ∧ _
    split at hpending
    · exact hpending
    · obtain ⟨op', r, rest, hr, hrest⟩ := hpending
      refine ⟨op', r, rest, ?_, hrest⟩
      rw [List.getElem?_append_left (List.getElem?_eq_some_iff.mp hr).1, hr]

theorem refused (hp : Serialized L t p) {i : Nat} {op : ι} {other next : Routine σ ω}
    (hi : p.routines[i]? = some (op, .lock other next)) : Serialized L t (p.refused i op next) := by
  obtain ⟨hid, hout, rfl, rfl⟩ := hp.at_lock hi
  constructor
  · exact hp.releases_eq
  · exact hp.once
  · exact fun j op' h => hp.owned_set hi h
  · exact hp.logged_set i _
  · refine forall_getElem?_set hp.stages (.refused hid (L.refused_idle op) ?_)
    show ownLog p.log i ++ L.refusal op = _
    rw [hout, List.nil_append]
  · exact hp.pending_set (fun h => hid (hp.holder_mem h)) _ rfl rfl

theorem granted (hp : Serialized L t p) {i : Nat} {op : ι} {next other : Routine σ ω}
    (hfree : p.holder = none) (hi : p.routines[i]? = some (op, .lock next other)) :
    Serialized L t (p.granted i op next) := by
  obtain ⟨hid, hout, rfl, rfl⟩ := hp.at_lock hi
  have horder : (p.granted i op (L.granted op)).lockOrder = p.lockOrder ++ [i] := List.map_append
  have hreleases : p.lockOrder = p.releases := by
    rw [hp.releases_eq, hfree]
    exact List.append_nil _
  constructor
  · rw [horder, hreleases]
    rfl
  · rw [horder]
    refine List.nodup_append.mpr ⟨hp.once, List.nodup_singleton i, ?_⟩
    intro j hj k hk hjk
    rw [hjk, List.mem_singleton.mp hk] at hj
    exact hid hj
  · intro j op' h
    rcases List.mem_append.mp h with h | h
    · exact hp.owned_set hi h
    · obtain ⟨rfl, rfl⟩ := Prod.mk.inj (List.mem_singleton.mp h)
      exact ⟨_, (getElem?_set_of_some hi).trans (congrArg some (if_pos rfl))⟩
  · exact hp.logged_set i _
  · rw [horder]
    show ∀ j b, (p.routines.set i (op, L.granted op))[j]? = some b →
      Stage L (some i) (p.lockOrder ++ [i]) j (ownLog p.log j) b
    intro j b hj
    by_cases hij : j = i
    · subst hij
      exact .inside rfl
    · rw [List.getElem?_set_ne (Ne.symm hij)] at hj
      have hne : some i ≠ some j := fun h => hij (Option.some.inj h).symm
      have hnot : j ∉ p.lockOrder → j ∉ p.lockOrder ++ [i] := by
        intro hnot hmem
        rcases List.mem_append.mp hmem with hmem | hmem
        · exact hnot hmem
        · exact hij (List.mem_singleton.mp hmem)
      cases hp.stages j b hj with
      | waiting hjid hjout => exact .waiting (hnot hjid) hjout
      | inside hholder =>
        rw [hfree] at hholder
        cases hholder
      | finished hjid _ => exact .finished (List.mem_append_left _ hjid) hne
      | refused hjid hidle hjout => exact .refused (hnot hjid) hidle hjout
  · obtain ⟨hstate, hlog⟩ := hp.of_free hfree
    refine ⟨op, L.granted op, (L.effect op (L.abs p.shared)).2, ?_, ?_, ?_⟩
    · show (p.routines.set i (op, L.granted op))[i]? = _
      rw [getElem?_set_of_some hi, if_pos rfl]
    · show CriticalSection L.abs _ (L.abs p.shared) (L.serialState t (p.grants ++ [(i, op)])) _
      rw [L.serialState_concat, ← hstate]
      exact L.granted_section op (L.abs p.shared)
    · rw [horder]
      show jointLog (p.lockOrder ++ [i]) p.log ++ _ = L.serialLog t (p.grants ++ [(i, op)])
      rw [jointLog_concat hout, L.serialLog_concat, hlog, ← hstate]

theorem released (hp : Serialized L t p) {i : Nat} {op : ι} {next : Routine σ ω}
    (hi : p.routines[i]? = some (op, .unlock next)) : Serialized L t (p.released i op next) := by
  have hholder := hp.at_unlock hi
  obtain ⟨rest, hsection, hlog⟩ := hp.of_holder hholder hi
  -- the release is the end of the critical section
  generalize hfinal : L.serialState t p.grants = t' at hsection
  cases hsection
  have hmem := hp.holder_mem hholder
  constructor
  · show p.lockOrder = (p.releases ++ [i]) ++ []
    rw [hp.releases_eq, hholder, List.append_nil]
    rfl
  · exact hp.once
  · exact fun j op'' h => hp.owned_set hi h
  · exact hp.logged_set i _
  · show ∀ j b, (p.routines.set i (op, Routine.done))[j]? = some b →
      Stage L none p.lockOrder j (ownLog p.log j) b
    intro j b hj
    by_cases hij : j = i
    · subst hij
      rw [getElem?_set_of_some hi, if_pos rfl] at hj
      obtain rfl := Option.some.inj hj
      exact .finished hmem (Option.some_ne_none j).symm
    · rw [List.getElem?_set_ne (Ne.symm hij)] at hj
      cases hp.stages j b hj with
      | waiting hid hout => exact .waiting hid hout
      | inside hj' => exact absurd (Option.some.inj (hholder.symm.trans hj')).symm hij
      | finished hid _ => exact .finished hid (Option.some_ne_none j).symm
      | refused hid hidle hout => exact .refused hid hidle hout
  · constructor
    · show L.abs p.shared = L.serialState t p.grants
      exact hfinal.symm
    · show jointLog p.lockOrder p.log = L.serialLog t p.grants
      rw [← hlog, List.map_nil, List.append_nil]

theorem acted (hp : Serialized L t p) {i : Nat} {op : ι} {update : σ → σ} {emit : σ → List ω}
    {next : σ → Routine σ ω} (hi : p.routines[i]? = some (op, .act update emit next)) :
    Serialized L t (p.acted i op (update p.shared) (emit p.shared) (next p.shared)) := by
  have hlogged : ∀ e ∈ p.log ++ (emit p.shared).map (fun e => (i, e)),
      e.1 < (p.routines.set i (op, next p.shared)).length := by
    intro e he
    rw [List.length_set]
    rcases List.mem_append.mp he with he | he
    · exact hp.logged e he
    · obtain ⟨e', -, rfl⟩ := List.mem_map.mp he
      exact (List.getElem?_eq_some_iff.mp hi).1
  -- the others are where they were
  have hothers : ∀ j b, j ≠ i → (p.routines.set i (op, next p.shared))[j]? = some b →
      Stage L p.holder p.lockOrder j (ownLog (p.log ++ (emit p.shared).map fun e => (i, e)) j) b := by
    intro j b hji hj
    rw [List.getElem?_set_ne (Ne.symm hji)] at hj
    rw [ownLog_append_ne _ (Ne.symm hji)]
    exact hp.stages j b hj
  rcases hp.at_act hi with hholder | ⟨hid, rest, hidle, hout⟩
  · have hmem := hp.holder_mem hholder
    obtain ⟨rest, hsection, hlog⟩ := hp.of_holder hholder hi
    refine ⟨hp.releases_eq, hp.once, fun j op' h => hp.owned_set hi h, hlogged, ?_, ?_⟩
    · intro j b hj
      by_cases hji : j = i
      · subst hji
        exact .inside hholder
      · exact hothers j b hji hj
    · generalize hbefore : L.abs p.shared = t₀ at hsection
      cases hsection with
      | act hupdate hemit hnext =>
        rename_i t₁ out rest
        show match p.holder with
          | none => _
          | some j => ∃ op r rest, (p.routines.set i _)[j]? = some (op, r) ∧
            CriticalSection L.abs r (L.abs (update p.shared)) (L.serialState t p.grants) rest ∧
            (jointLog p.lockOrder (p.log ++ _) ++ rest.map fun e => (j, e)) = L.serialLog t p.grants
        rw [hholder]
        refine ⟨op, next p.shared, rest, ?_, ?_, ?_⟩
        · rw [getElem?_set_of_some hi, if_pos rfl]
        · rw [hupdate _ hbefore]
          exact hnext _ hbefore
        · rw [hemit _ hbefore, jointLog_append_mem _ hmem, List.append_assoc, ← List.map_append]
          exact hlog
  · cases hidle with
    | act hupdate hemit hnext =>
      rename_i out rest
      refine ⟨hp.releases_eq, hp.once, fun j op' h => hp.owned_set hi h, hlogged, ?_, ?_⟩
      · intro j b hj
        by_cases hji : j = i
        · subst hji
          have hb : (p.routines.set j (op, next p.shared))[j]? = some b := hj
          rw [getElem?_set_of_some hi, if_pos rfl] at hb
          obtain rfl := Option.some.inj hb
          refine .refused hid (hnext _) ?_
          show ownLog (p.log ++ _) j ++ rest = _
          rw [ownLog_append_self, hemit, List.append_assoc]
          exact hout
        · exact hothers j b hji hj
      · exact hp.pending_set (fun h => hid (hp.holder_mem h)) _ (hupdate _)
          (jointLog_append_not_mem _ hid _)

/-- **The step lemma.** -/
theorem step (hp : Serialized L t p) {a : PoolAction ι} {p' : Pool σ ω ι}
    (h : p.step program a = some p') : Serialized L t p' := by
  cases Pool.stepped h with
  | start op => exact hp.started op
  | unlock hi => exact hp.released hi
  | act hi => exact hp.acted hi
  | grant hfree hi => exact hp.granted hfree hi
  | refuse hi => exact hp.refused hi

end Serialized

/-- **The run lemma.** -/
theorem Locking.serialized (L : Locking program τ) {C : Pool σ ω ι → PoolAction ι → Prop} {s : σ}
    {actions : List (PoolAction ι)} {p : Pool σ ω ι}
    (h : Run (Pool.step program) C (Pool.initial s) actions p) : Serialized L (L.abs s) p :=
  h.invariant (fun _ _ _ hp _ hstep => hp.step hstep) (Serialized.initial L s)

/-- What is in the serial log is of one of the effects. -/
theorem Locking.mem_serialLog (L : Locking program τ) {t : τ} {grants : List (Nat × ι)} {i : Nat}
    {e : ω} : (i, e) ∈ L.serialLog t grants ↔
      ∃ pre op post, grants = pre ++ (i, op) :: post ∧ e ∈ (L.effect op (L.serialState t pre)).2 := by
  constructor
  · intro h
    induction grants generalizing t with
    | nil => cases h
    | cons g grants ih =>
      rcases List.mem_append.mp h with h | h
      · obtain ⟨e', he', heq⟩ := List.mem_map.mp h
        obtain ⟨rfl, rfl⟩ := Prod.mk.inj heq
        exact ⟨[], g.2, grants, rfl, he'⟩
      · obtain ⟨pre, op, post, rfl, he⟩ := ih h
        exact ⟨g :: pre, op, post, rfl, he⟩
  · rintro ⟨pre, op, post, rfl, he⟩
    rw [L.serialLog_append]
    refine List.mem_append_right _ (List.mem_append_left _ ?_)
    exact List.mem_map_of_mem he

namespace Serialized

variable {L : Locking program τ} {t : τ} {p : Pool σ ω ι}

/-- What has been emitted so far is a beginning of what the effects emit; what is missing is the
    holder's. -/
theorem jointLog_prefix (hp : Serialized L t p) :
    ∃ rest, jointLog p.lockOrder p.log ++ rest = L.serialLog t p.grants ∧
      ∀ e ∈ rest, p.holder = some e.1 := by
  have hpending := hp.pending
  unfold Locking.Pending at hpending
  split at hpending
  · exact ⟨[], by rw [List.append_nil, hpending.2], fun e he => absurd he List.not_mem_nil⟩
  · rename_i i hholder
    obtain ⟨op, r, rest, -, -, hlog⟩ := hpending
    refine ⟨_, hlog, fun e he => ?_⟩
    obtain ⟨e', -, rfl⟩ := List.mem_map.mp he
    exact hholder

/-- A coroutine that is done does not hold the lock. -/
theorem holder_ne (hp : Serialized L t p) {i : Nat} {op : ι} (hi : p.routines[i]? = some (op, .done)) :
    p.holder ≠ some i := by
  intro hholder
  obtain ⟨rest, hsection, -⟩ := hp.of_holder hholder hi
  cases hsection

/-- The lock has been released at most once by everybody, and by nobody who has not got it. -/
theorem releases_nodup (hp : Serialized L t p) : p.releases.Nodup := by
  have honce := hp.once
  rw [hp.releases_eq] at honce
  exact (List.nodup_append.mp honce).1

theorem mem_releases (hp : Serialized L t p) {i : Nat} :
    i ∈ p.releases ↔ i ∈ p.lockOrder ∧ p.holder ≠ some i := by
  have honce := hp.once
  rw [hp.releases_eq] at honce ⊢
  rw [List.mem_append, Option.mem_toList]
  constructor
  · intro h
    refine ⟨Or.inl h, fun hholder => ?_⟩
    exact (List.nodup_append.mp honce).2.2 i h i (Option.mem_toList.mpr hholder) rfl
  · rintro ⟨h | h, hne⟩
    · exact h
    · exact absurd h hne

/-- **Released exactly once**: a coroutine that is done has released the lock as often as it has got it,
    which is once or never. -/
theorem released_once (hp : Serialized L t p) {i : Nat} {op : ι}
    (hi : p.routines[i]? = some (op, .done)) :
    p.releases.count i = p.lockOrder.count i ∧ p.lockOrder.count i ≤ 1 := by
  have hmem := hp.mem_releases (i := i)
  refine ⟨?_, List.nodup_iff_count_le_one.mp hp.once i⟩
  by_cases h : i ∈ p.lockOrder
  · rw [List.count_eq_one_of_mem hp.once h]
    exact List.count_eq_one_of_mem hp.releases_nodup (hmem.mpr ⟨h, hp.holder_ne hi⟩)
  · rw [List.count_eq_zero_of_not_mem h]
    exact List.count_eq_zero_of_not_mem fun h' => h (hmem.mp h').1

/-- Who has not got the lock has emitted nothing but what a refusal does; all of it, if done. -/
theorem refused_log (hp : Serialized L t p) {i : Nat} (hid : i ∉ p.lockOrder) {op : ι}
    {r : Routine σ ω} (hi : p.routines[i]? = some (op, r)) :
    ownLog p.log i <+: L.refusal op ∧ (r = .done → ownLog p.log i = L.refusal op) := by
  rcases hp.stage_cases hi with ⟨-, hout, rfl⟩ | hholder | ⟨hid', -⟩ | ⟨-, rest, hidle, hout⟩
  · exact ⟨hout ▸ List.nil_prefix, fun hdone => by cases hdone⟩
  · exact absurd (hp.holder_mem hholder) hid
  · exact absurd hid' hid
  · refine ⟨⟨rest, hout⟩, fun hdone => ?_⟩
    subst hdone
    cases hidle
    rw [List.append_nil] at hout
    exact hout

/-- **Every entry of the log is of an effect, at its place in the order of the grants, or of a
    refusal.** -/
theorem mem_log (hp : Serialized L t p) {i : Nat} {e : ω} (h : (i, e) ∈ p.log) :
    (∃ pre op post, p.grants = pre ++ (i, op) :: post ∧ e ∈ (L.effect op (L.serialState t pre)).2) ∨
      i ∉ p.lockOrder ∧ ∃ op r, p.routines[i]? = some (op, r) ∧ e ∈ L.refusal op := by
  by_cases hid : i ∈ p.lockOrder
  · left
    obtain ⟨rest, hlog, -⟩ := hp.jointLog_prefix
    refine L.mem_serialLog.mp (hlog ▸ List.mem_append_left _ ?_)
    exact List.mem_filter.mpr ⟨h, decide_eq_true hid⟩
  · right
    have hlt := hp.logged _ h
    have hi : p.routines[i]? = some (p.routines[i].1, p.routines[i].2) := List.getElem?_eq_getElem hlt
    exact ⟨hid, _, _, hi, (hp.refused_log hid hi).1.subset (mem_ownLog.mpr h)⟩

/-- A coroutine that got the lock and is done has emitted all that its effect does. -/
theorem mem_log_of_done (hp : Serialized L t p) {i : Nat} {op op' : ι} {pre post : List (Nat × ι)}
    {e : ω} (hi : p.routines[i]? = some (op, .done)) (hgrants : p.grants = pre ++ (i, op') :: post)
    (he : e ∈ (L.effect op' (L.serialState t pre)).2) : (i, e) ∈ p.log := by
  obtain ⟨rest, hlog, hrest⟩ := hp.jointLog_prefix
  have hmem : (i, e) ∈ L.serialLog t p.grants := L.mem_serialLog.mpr ⟨pre, op', post, hgrants, he⟩
  rw [← hlog] at hmem
  rcases List.mem_append.mp hmem with hmem | hmem
  · exact (List.mem_filter.mp hmem).1
  · exact absurd (hrest _ hmem) (hp.holder_ne hi)

end Serialized

/-- **The holder gets there by itself**: its own steps lead to the release, with the state and the log
    that it owes. -/
theorem CriticalSection.finishes {abs : σ → τ} {r : Routine σ ω} {t t' : τ} {rest : List ω}
    (h : CriticalSection abs r t t' rest) {p : Pool σ ω ι} {i : Nat} {op : ι}
    (ht : abs p.shared = t) (hi : p.routines[i]? = some (op, r)) :
    ∃ n p', Run (Pool.step program) (fun _ _ => True) p (List.replicate n (.run i)) p' ∧
      p'.holder = none ∧ p'.grants = p.grants ∧ p'.routines[i]? = some (op, .done) ∧
      abs p'.shared = t' := by
  induction h generalizing p with
  | unlock t =>
    refine ⟨1, p.released i op .done, .cons trivial ?_ (.nil _), rfl, rfl, ?_, ht⟩
    · show p.step program (.run i) = _
      simp only [Pool.step, hi]
    · show (p.routines.set i (op, .done))[i]? = _
      rw [getElem?_set_of_some hi, if_pos rfl]
  | @act update emit next t t₁ t' out rest hupdate hemit hnext ih =>
    obtain ⟨n, p', hrun, hfree, hgrants, hdone, hstate⟩ := ih p.shared ht
      (p := p.acted i op (update p.shared) (emit p.shared) (next p.shared)) (hupdate _ ht) (by
        show (p.routines.set i (op, next p.shared))[i]? = _
        rw [getElem?_set_of_some hi, if_pos rfl])
    refine ⟨n + 1, p', .cons trivial ?_ hrun, hfree, hgrants, hdone, hstate⟩
    simp only [Pool.step, hi]

theorem Serialized.holder_finishes {L : Locking program τ} {t : τ} {p : Pool σ ω ι}
    (hp : Serialized L t p) {i : Nat} (hholder : p.holder = some i) :
    ∃ n p', Run (Pool.step program) (fun _ _ => True) p (List.replicate n (.run i)) p' ∧
      p'.holder = none ∧ p'.grants = p.grants := by
  have hpending := hp.pending
  rw [Locking.Pending, hholder] at hpending
  obtain ⟨op, r, rest, hr, hsection, -⟩ := hpending
  have hfinishes : ∃ n p', Run (Pool.step program) (fun _ _ => True) p (List.replicate n (.run i)) p' ∧
      p'.holder = none ∧ p'.grants = p.grants ∧ p'.routines[i]? = some (op, .done) ∧
      L.abs p'.shared = L.serialState t p.grants := hsection.finishes rfl hr
  obtain ⟨n, p', hrun, hfree, hgrants, -⟩ := hfinishes
  exact ⟨n, p', hrun, hfree, hgrants⟩

/-! ## What every step of the routines does -/

/-- Every step on the state, wherever it is in the code, has `P`. -/
def Routine.All (P : (σ → σ) → (σ → List ω) → Prop) : Routine σ ω → Prop
  | .done => True
  | .lock granted refused => granted.All P ∧ refused.All P
  | .unlock next => next.All P
  | .act update emit next => P update emit ∧ ∀ s, (next s).All P

/-- So it is with all coroutines. -/
def Pool.All (P : (σ → σ) → (σ → List ω) → Prop) (p : Pool σ ω ι) : Prop :=
  ∀ (i : Nat) (b : ι × Routine σ ω), p.routines[i]? = some b → b.2.All P

/-- What those steps preserve, of the state and the log, holds wherever a run leads, lock or no lock. -/
theorem Pool.acts_invariant {P : (σ → σ) → (σ → List ω) → Prop} {I : σ → List (Nat × ω) → Prop}
    (hprogram : ∀ op, (program op).All P)
    (hI : ∀ s log i update emit, I s log → P update emit →
      I (update s) (log ++ (emit s).map fun e => (i, e)))
    {C : Pool σ ω ι → PoolAction ι → Prop} {s : σ} {actions : List (PoolAction ι)} {p : Pool σ ω ι}
    (h : Run (step program) C (initial s) actions p) (hs : I s []) : I p.shared p.log := by
  have hstep : ∀ (p : Pool σ ω ι) (a : PoolAction ι) (p' : Pool σ ω ι), p.All P ∧ I p.shared p.log →
      C p a → p.step program a = some p' → p'.All P ∧ I p'.shared p'.log := by
    rintro p a p' ⟨hall, hlog⟩ - hstep
    cases stepped hstep with
    | start op => exact ⟨forall_getElem?_concat hall (hprogram op), hlog⟩
    | unlock hi =>
      have hnext := hall _ _ hi
      exact ⟨forall_getElem?_set hall hnext, hlog⟩
    | act hi =>
      obtain ⟨hact, hnext⟩ := hall _ _ hi
      exact ⟨forall_getElem?_set hall (hnext p.shared), hI _ _ _ _ _ hlog hact⟩
    | grant _ hi => exact ⟨forall_getElem?_set hall (hall _ _ hi).1, hlog⟩
    | refuse hi => exact ⟨forall_getElem?_set hall (hall _ _ hi).2, hlog⟩
  have hinitial : (initial s : Pool σ ω ι).All P := by
    intro i b hi
    cases hi
  exact (h.invariant hstep ⟨hinitial, hs⟩).2

end GalayRpc
