/-
  Runs of a transition system, under a condition on the steps.

  `step s a` is the state an action leads to, or `none` where it cannot be taken.  `Run step C s as s'`
  is a run from `s` to `s'` by the actions `as`, each taken in a state where `C` admits it.  With a `C`
  that admits everything these are all runs; the environment's duties, and the condition under which a
  property is stated, are both such a `C`.

  * `Run.invariant` — what every admitted step preserves holds wherever a run leads;
  * `Run.countP_le` — what each step spends of a budget the whole run does not overspend;
  * `Run.and_mem` — a run whose actions have a property is a run under that condition too;
  * `Run.only` — a run that leaves no choice is a beginning of every other, or the other of it;
  * `not_endless` — steps that each take something off a measure do not go on for ever;
  * `run_iff_runAll` — for a decidable `C`, runs are what `runAll` computes.
-/
import Mathlib.Data.List.Basic
import Mathlib.Order.RelClasses

namespace GalayRpc

variable {σ α : Type} {step : σ → α → Option σ} {C : σ → α → Prop}

/-- A run whose steps all meet `C`. -/
inductive Run (step : σ → α → Option σ) (C : σ → α → Prop) : σ → List α → σ → Prop where
  | nil (s : σ) : Run step C s [] s
  | cons {s s' s'' : σ} {a : α} {as : List α} (hc : C s a) (hstep : step s a = some s')
      (h : Run step C s' as s'') : Run step C s (a :: as) s''

namespace Run

/-- **The run rule.**  An invariant of the admitted steps holds at the end of a run that starts in it. -/
theorem invariant {I : σ → Prop} (hI : ∀ s a s', I s → C s a → step s a = some s' → I s') {s s' : σ}
    {as : List α} (h : Run step C s as s') (hs : I s) : I s' := by
  induction h with
  | nil s => exact hs
  | cons hc hstep _ ih => exact ih (hI _ _ _ hs hc hstep)

/-- **The budget rule.**  Where every admitted step that counts takes one off a budget and no other adds to
    it, no run counts more than the budget it starts with. -/
theorem countP_le (budget : σ → Nat) (p : α → Bool) {I : σ → Prop}
    (hI : ∀ s a s', I s → C s a → step s a = some s' → I s' ∧ budget s' + (p a).toNat ≤ budget s)
    {s s' : σ} {as : List α} (h : Run step C s as s') (hs : I s) : budget s' + as.countP p ≤ budget s := by
  induction h with
  | nil s => exact Nat.le_refl _
  | @cons s s₁ s'' a as hc hstep _ ih =>
    obtain ⟨hs₁, hspent⟩ := hI _ _ _ hs hc hstep
    have hrest := ih hs₁
    rw [List.countP_cons]
    cases hp : p a with
    | true =>
      rw [hp, Bool.toNat_true] at hspent
      rw [if_pos rfl]
      omega
    | false =>
      rw [hp, Bool.toNat_false] at hspent
      rw [if_neg Bool.false_ne_true]
      omega

/-- A run meets every condition that its steps meet, each for its own action. -/
theorem and_mem {P : α → Prop} {s s' : σ} {as : List α} (h : Run step C s as s')
    (hP : ∀ a ∈ as, P a) : Run step (fun s a => C s a ∧ P a) s as s' := by
  induction h with
  | nil s => exact .nil s
  | cons hc hstep _ ih =>
    exact .cons ⟨hc, hP _ List.mem_cons_self⟩ hstep
      (ih fun a ha => hP a (List.mem_cons_of_mem _ ha))

theorem imp {C' : σ → α → Prop} (himp : ∀ s a, C s a → C' s a) {s s' : σ} {as : List α}
    (h : Run step C s as s') : Run step C' s as s' := by
  induction h with
  | nil s => exact .nil s
  | cons hc hstep _ ih => exact .cons (himp _ _ hc) hstep ih

theorem append {s s' s'' : σ} {as bs : List α} (h : Run step C s as s') (h' : Run step C s' bs s'') :
    Run step C s (as ++ bs) s'' := by
  induction h with
  | nil s => exact h'
  | cons hc hstep _ ih => exact .cons hc hstep (ih h')

/-- A system that keeps books on another one runs as it does. -/
theorem project {τ : Type} {step' : τ → α → Option τ} {C' : τ → α → Prop} (f : σ → τ)
    (hC : ∀ s a, C s a → C' (f s) a)
    (hf : ∀ s a s', step s a = some s' → step' (f s) a = some (f s')) {s s' : σ} {as : List α}
    (h : Run step C s as s') : Run step' C' (f s) as (f s') := by
  induction h with
  | nil s => exact .nil (f s)
  | cons hc hstep _ ih => exact .cons (hC _ _ hc) (hf _ _ _ hstep) ih

/-- A run can be cut anywhere: its steps are determined by its actions. -/
theorem of_append {s s' s'' : σ} {as bs : List α} (h : Run step C s as s')
    (hboth : Run step C s (as ++ bs) s'') : Run step C s' bs s'' := by
  induction h with
  | nil s => exact hboth
  | cons _ hstep _ ih =>
    cases hboth with
    | cons _ hstep' hrest =>
      obtain rfl := Option.some.inj (hstep.symm.trans hstep')
      exact ih hrest

end Run

/-! ## Runs that leave no choice -/

/-- The action is admitted, and no other one that is can be taken. -/
def Only (step : σ → α → Option σ) (C : σ → α → Prop) (s : σ) (a : α) : Prop :=
  C s a ∧ ∀ b s', C s b → step s b = some s' → b = a

/-- **A run that leaves no choice is the only one**: every admitted run from where it starts is a
    beginning of it, or goes on from its end. -/
theorem Run.only {s s' s'' : σ} {as bs : List α} (h : Run step (Only step C) s as s')
    (h' : Run step C s bs s'') : bs <+: as ∨ as <+: bs := by
  induction h generalizing bs with
  | nil s => exact Or.inr List.nil_prefix
  | cons hc hstep _ ih =>
    cases h' with
    | nil => exact Or.inl List.nil_prefix
    | cons hc' hstep' hrest =>
      obtain rfl := hc.2 _ _ hc' hstep'
      obtain rfl := Option.some.inj (hstep.symm.trans hstep')
      rcases ih hrest with hpre | hpre
      · exact Or.inl (List.cons_prefix_cons.mpr ⟨rfl, hpre⟩)
      · exact Or.inr (List.cons_prefix_cons.mpr ⟨rfl, hpre⟩)

/-! ## Runs that end -/

/-- There is a run of admitted steps that does not end. -/
def Endless (step : σ → α → Option σ) (C : σ → α → Prop) (s : σ) : Prop :=
  ∃ (states : Nat → σ) (actions : Nat → α), states 0 = s ∧
    ∀ k, C (states k) (actions k) ∧ step (states k) (actions k) = some (states (k + 1))

/-- **The measure rule.**  Where every admitted step leads to less of a well-founded measure, each run of
    them ends. -/
theorem not_endless {μ : Type} {less : μ → μ → Prop} (hless : WellFounded less) {I : σ → μ → Prop}
    (hI : ∀ s w a s', I s w → C s a → step s a = some s' → ∃ w', I s' w' ∧ less w' w) {s : σ} {w : μ}
    (hs : I s w) : ¬ Endless step C s := by
  induction w using hless.induction generalizing s with
  | h w ih =>
    rintro ⟨states, actions, rfl, hsteps⟩
    obtain ⟨hc, hstep⟩ := hsteps 0
    obtain ⟨w', hs', hw'⟩ := hI _ _ _ _ hs hc hstep
    exact ih w' hw' hs' ⟨fun k => states (k + 1), fun k => actions (k + 1), rfl,
      fun k => hsteps (k + 1)⟩

/-- Less of the first, or as much of the first and less of the second. -/
abbrev Less : Nat × Nat → Nat × Nat → Prop := Prod.Lex (· < ·) (· < ·)

theorem less_wf : WellFounded Less := WellFounded.prod_lex Nat.lt_wfRel.wf Nat.lt_wfRel.wf

/-- Take the actions one after the other, as long as they are admitted. -/
def runAll (step : σ → α → Option σ) (C : σ → α → Prop) [∀ s a, Decidable (C s a)] :
    σ → List α → Option σ
  | s, [] => some s
  | s, a :: as => if C s a then (step s a).bind fun s' => runAll step C s' as else none

/-- A run can be computed. -/
theorem run_iff_runAll [∀ s a, Decidable (C s a)] {s s' : σ} {as : List α} :
    Run step C s as s' ↔ runAll step C s as = some s' := by
  constructor
  · intro h
    induction h with
    | nil s => rfl
    | cons hc hstep _ ih => rw [runAll, if_pos hc, hstep, Option.bind_some, ih]
  · intro h
    induction as generalizing s with
    | nil =>
      obtain rfl := Option.some.inj h
      exact .nil s
    | cons a as ih =>
      rw [runAll] at h
      split at h
      · rename_i hc
        obtain ⟨s₁, hstep, hrest⟩ := Option.bind_eq_some_iff.mp h
        exact .cons hc hstep (ih hrest)
      · cases h

/-! ## Families indexed by position

  A transition system over a list of processes changes one of them or starts a new one. -/

variable {β : Type} {P : Nat → β → Prop} {l : List β}

theorem forall_getElem?_set (h : ∀ j b, l[j]? = some b → P j b) {i : Nat} {b' : β} (hb : P i b') :
    ∀ j b, (l.set i b')[j]? = some b → P j b := by
  intro j b hj
  rw [List.getElem?_set] at hj
  split at hj
  · rename_i hij
    subst hij
    split at hj
    · obtain rfl := Option.some.inj hj
      exact hb
    · cases hj
  · exact h j b hj

theorem forall_getElem?_concat (h : ∀ j b, l[j]? = some b → P j b) {b' : β} (hb : P l.length b') :
    ∀ j b, (l ++ [b'])[j]? = some b → P j b := by
  intro j b hj
  rcases Nat.lt_or_ge j l.length with hlt | hge
  · rw [List.getElem?_append_left hlt] at hj
    exact h j b hj
  · rw [List.getElem?_append_right hge] at hj
    obtain ⟨hzero, rfl⟩ := List.getElem?_eq_some_iff.mp hj
    have hj' : j = l.length := by
      rw [List.length_singleton] at hzero
      omega
    subst hj'
    simpa using hb

theorem forall_mem_concat {P : β → Prop} (h : ∀ b ∈ l, P b) {b' : β} (hb : P b') :
    ∀ b ∈ l ++ [b'], P b :=
  List.forall_mem_append.mpr ⟨h, List.forall_mem_singleton.mpr hb⟩

/-- A member with what is in front of it and behind it, and what it is replaced by. -/
theorem split_of_getElem? {i : Nat} {b : β} (h : l[i]? = some b) :
    ∃ front back, l = front ++ b :: back ∧ ∀ b', l.set i b' = front ++ b' :: back := by
  obtain ⟨hlt, rfl⟩ := List.getElem?_eq_some_iff.mp h
  refine ⟨l.take i, l.drop (i + 1), ?_, ?_⟩
  · rw [← List.drop_eq_getElem_cons hlt, List.take_append_drop]
  · intro b'
    rw [List.set_eq_take_append_cons_drop, if_pos hlt]

theorem getElem?_set_of_some {i j : Nat} {b b' : β} (h : l[j]? = some b) :
    (l.set i b')[j]? = some (if i = j then b' else b) := by
  rw [List.getElem?_set]
  have hj : j < l.length := (List.getElem?_eq_some_iff.mp h).1
  by_cases hij : i = j
  · subst hij
    rw [if_pos rfl, if_pos hj, if_pos rfl]
  · rw [if_neg hij, if_neg hij, h]

end GalayRpc
