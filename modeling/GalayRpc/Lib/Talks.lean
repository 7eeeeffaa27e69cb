/-
  Talks between two parties, one after the other on the same two channels.

  A talk is opened by the first party; the other one accepts or refuses it with its first word.  In an
  accepted talk each says what it likes and then its last word; a refused one is over at once.  Nothing on
  the channels says where a talk begins: the words of all talks stand one behind the other.

  * `Talk` — what one party knows of a talk: the words up, to the second party, and the words down;
  * `Words.Shaped`, `Words.Over` — what a party keeps to by itself, and when a talk is over for it;
  * `Words.meet` — if both keep to that, and begin no talk before the last one is over for them, then each
    party's share of a talk is the other one's: no word strays into another talk.
-/
import Mathlib.Data.List.Infix

namespace GalayRpc

variable {α : Type}

/-! ## Last words -/

/-- A word of this kind has nothing behind it. -/
def OnlyLast (p : α → Prop) (l : List α) : Prop := ∀ pre x post, l = pre ++ x :: post → p x → post = []

def EndsIn (p : α → Prop) (l : List α) : Prop := ∃ x ∈ l.getLast?, p x

instance (p : α → Prop) [DecidablePred p] (l : List α) : Decidable (EndsIn p l) :=
  inferInstanceAs (Decidable (∃ x ∈ l.getLast?, p x))

theorem onlyLast_nil (p : α → Prop) : OnlyLast p [] :=
  fun pre x post h _ => absurd h.symm (List.append_ne_nil_of_right_ne_nil pre (List.cons_ne_nil x post))

/-- A word is added behind words that are not last ones. -/
theorem onlyLast_concat {p : α → Prop} {l : List α} (h : ∀ x ∈ l, ¬ p x) (y : α) :
    OnlyLast p (l ++ [y]) := by
  intro pre x post heq hx
  rcases List.append_eq_append_iff.mp heq with ⟨mid, hpre, hrest⟩ | ⟨mid, hl, hrest⟩
  · cases mid with
    | nil => exact (List.cons.inj hrest).2.symm
    | cons z mid =>
      exact absurd (List.cons.inj hrest).2.symm
        (List.append_ne_nil_of_right_ne_nil mid (List.cons_ne_nil x post))
  · cases mid with
    | nil =>
      rw [List.nil_append] at hrest
      exact (List.cons.inj hrest).2
    | cons z mid =>
      obtain ⟨rfl, -⟩ := List.cons.inj hrest
      exact absurd hx (h x (hl ▸ List.mem_append_right pre List.mem_cons_self))

theorem EndsIn.split {p : α → Prop} {l : List α} (h : EndsIn p l) : ∃ pre x, l = pre ++ [x] ∧ p x := by
  obtain ⟨x, hlast, hx⟩ := h
  obtain ⟨pre, rfl⟩ := List.getLast?_eq_some_iff.mp hlast
  exact ⟨pre, x, rfl, hx⟩

theorem EndsIn.ne_nil {p : α → Prop} {l : List α} (h : EndsIn p l) : l ≠ [] := by
  obtain ⟨pre, x, rfl, -⟩ := h.split
  exact List.append_ne_nil_of_right_ne_nil pre (List.cons_ne_nil x [])

/-- **A last word ends both.** -/
theorem EndsIn.eq_of_front {p : α → Prop} {l l' : List α} (h : EndsIn p l) (hpre : l <+: l')
    (honly : OnlyLast p l') : l = l' := by
  obtain ⟨pre, x, rfl, hx⟩ := h.split
  obtain ⟨rest, rfl⟩ := hpre
  have hrest := honly pre x rest (by rw [List.append_assoc]; rfl) hx
  rw [hrest, List.append_nil]

/-- Two beginnings of one list that are not empty begin alike. -/
theorem same_head {l l' rest rest' : List α} (h : l ++ rest <+: l' ++ rest') (hne : l' ≠ []) {x : α}
    (hx : l.head? = some x) : l'.head? = some x := by
  obtain ⟨tail, htail⟩ := h
  cases l with
  | nil => cases hx
  | cons y l =>
    cases l' with
    | nil => exact absurd rfl hne
    | cons z l' => exact (List.cons.inj htail).1 ▸ hx

/-! ## Talks -/

/-- What one party knows of a talk. -/
structure Talk (α : Type) where
  up : List α
  down : List α

/-- The words that matter to where a talk ends. -/
structure Words (α : Type) where
  accepts : α → Prop
  refuses : α → Prop
  ends : α → Prop
  accepts_not_refuses : ∀ x, accepts x → ¬ refuses x

namespace Words

variable (v : Words α)

/-- Nothing is said behind a last word, only the opening before the answer, and no answer before that. -/
structure Shaped (t : Talk α) : Prop where
  up : OnlyLast v.ends t.up
  down : OnlyLast v.ends t.down
  accepted : 2 ≤ t.up.length → ∃ x ∈ t.down.head?, v.accepts x
  opened : t.down ≠ [] → t.up ≠ []

/-- The second party's last word has been said, and the first one's too unless the talk was refused. -/
structure Over (t : Talk α) : Prop where
  down : EndsIn v.ends t.down
  up : EndsIn v.ends t.up ∨ ∃ x ∈ t.down.head?, v.refuses x

instance [DecidablePred v.ends] [DecidablePred v.refuses] (t : Talk α) : Decidable (v.Over t) :=
  decidable_of_iff (EndsIn v.ends t.down ∧ (EndsIn v.ends t.up ∨ ∃ x ∈ t.down.head?, v.refuses x))
    ⟨fun h => ⟨h.1, h.2⟩, fun h => ⟨h.down, h.up⟩⟩

/-- The talks of the first party and those of the second one: the second hears what the first says, and
    the first what the second says, talk by talk; of a talk that is behind it, a party knows all. -/
inductive Met : List (Talk α) → List (Talk α) → Prop
  | nil : Met [] []
  | opening {t : Talk α} (hdown : t.down = []) : Met [t] []
  | cons {t s : Talk α} {ts ss : List (Talk α)} (hup : s.up <+: t.up) (hdown : t.down <+: s.down)
      (hall : ts ≠ [] → t.down = s.down) (hall' : ss ≠ [] → s.up = t.up) (h : Met ts ss) :
      Met (t :: ts) (s :: ss)

variable {v} {t s : Talk α} {up up' down down' : List α}

theorem shaped_nil : v.Shaped ⟨[], []⟩ :=
  ⟨onlyLast_nil _, onlyLast_nil _, nofun, fun h => absurd rfl h⟩

/-- The first party says a word, behind its opening only when that has been accepted. -/
theorem Shaped.say_up (h : v.Shaped t) (hopen : ∀ x ∈ t.up, ¬ v.ends x)
    (haccepted : t.up ≠ [] → ∃ x ∈ t.down.head?, v.accepts x) (x : α) :
    v.Shaped ⟨t.up ++ [x], t.down⟩ := by
  refine ⟨onlyLast_concat hopen x, h.down, ?_, fun _ => List.append_ne_nil_of_right_ne_nil _ nofun⟩
  intro hlong
  refine haccepted ?_
  rintro hnil
  rw [hnil] at hlong
  exact absurd hlong (Nat.not_succ_le_self 1)

/-- The second party says a word. -/
theorem Shaped.say_down (h : v.Shaped t) (hopened : t.up ≠ []) (hopen : ∀ x ∈ t.down, ¬ v.ends x) (x : α) :
    v.Shaped ⟨t.up, t.down ++ [x]⟩ := by
  refine ⟨h.up, onlyLast_concat hopen x, ?_, fun _ => hopened⟩
  intro hlong
  obtain ⟨y, hy, haccepts⟩ := h.accepted hlong
  refine ⟨y, ?_, haccepts⟩
  rw [Option.mem_def, List.head?_append, hy]
  rfl

/-- Only the opening is said to one who refuses. -/
theorem Shaped.length_of_refused (h : v.Shaped t) {x : α}
    (hx : ∀ y, t.down.head? = some y → y = x) (hrefuses : v.refuses x) : t.up.length ≤ 1 := by
  by_contra hlong
  obtain ⟨y, hy, haccepts⟩ := h.accepted (by omega)
  exact v.accepts_not_refuses y haccepts (hx y hy ▸ hrefuses)

theorem one_le_length {l : List α} (h : l ≠ []) : 1 ≤ l.length := List.length_pos_of_ne_nil h

/-- What the second party hears in a talk, the first has said in it. -/
theorem up_prefix (ht : v.Shaped t) (hs : v.Shaped s) (hanswered : s.down ≠ [])
    (hup : s.up ++ up <+: t.up ++ up') (hdown : t.down ++ down <+: s.down ++ down')
    (hnext : v.Over t ∨ up' = []) : s.up <+: t.up := by
  have hheard : s.up <+: t.up ++ up' := (List.prefix_append _ _).trans hup
  rcases hnext with hover | rfl
  · rcases List.prefix_or_prefix_of_prefix hheard (List.prefix_append t.up up') with hpre | hpre
    · exact hpre
    · rcases hover.up with hends | ⟨x, hx, hrefuses⟩
      · exact hends.eq_of_front hpre hs.up ▸ List.prefix_rfl
      · have hhead := same_head hdown hanswered hx
        have hshort := hs.length_of_refused
          (fun y hy => Option.some.inj (hy.symm.trans hhead)) hrefuses
        have hsaid := one_le_length (ht.opened hover.down.ne_nil)
        exact hpre.eq_of_length_le (by omega) ▸ List.prefix_rfl
  · rwa [List.append_nil] at hheard

/-- What the first party hears in a talk, the second has said in it. -/
theorem down_prefix (ht : v.Shaped t) (hdown : t.down ++ down <+: s.down ++ down')
    (hnext : v.Over s ∨ down' = []) : t.down <+: s.down := by
  have hheard : t.down <+: s.down ++ down' := (List.prefix_append _ _).trans hdown
  rcases hnext with hover | rfl
  · rcases List.prefix_or_prefix_of_prefix hheard (List.prefix_append s.down down') with hpre | hpre
    · exact hpre
    · exact hover.down.eq_of_front hpre ht.down ▸ List.prefix_rfl
  · rwa [List.append_nil] at hheard

/-- When a talk is over for the second party, it has heard all that is said in it. -/
theorem up_eq (ht : v.Shaped t) (hs : v.Shaped s) (hover : v.Over s) (hup : s.up <+: t.up)
    (hdown : t.down <+: s.down) : s.up = t.up := by
  rcases hover.up with hends | ⟨x, hx, hrefuses⟩
  · exact hends.eq_of_front hup ht.up
  · refine hup.eq_of_length_le ?_
    have hbegin : t.down ++ [] <+: s.down ++ [] := by
      rwa [List.append_nil, List.append_nil]
    have hshort := ht.length_of_refused
      (fun y hy => Option.some.inj ((same_head hbegin hover.down.ne_nil hy).symm.trans hx)) hrefuses
    have hsaid := one_le_length (hs.opened hover.down.ne_nil)
    omega

/-- **The talks of the two parties are the same ones.** -/
theorem meet {ts ss : List (Talk α)} (ht : ∀ t ∈ ts, v.Shaped t) (hs : ∀ s ∈ ss, v.Shaped s)
    (hanswered : ∀ s ∈ ss, s.down ≠ []) (hover : ∀ t ∈ ts.dropLast, v.Over t)
    (hover' : ∀ s ∈ ss.dropLast, v.Over s)
    (hup : ss.flatMap Talk.up <+: ts.flatMap Talk.up)
    (hdown : ts.flatMap Talk.down <+: ss.flatMap Talk.down) : Met ts ss := by
  induction ss generalizing ts with
  | nil =>
    cases ts with
    | nil => exact .nil
    | cons t ts =>
      have hsilent : t.down = [] := (List.append_eq_nil_iff.mp (List.prefix_nil.mp hdown)).1
      cases ts with
      | nil => exact .opening hsilent
      | cons t' ts => exact absurd hsilent (hover t List.mem_cons_self).down.ne_nil
  | cons s ss ih =>
    have hsaid := (hs s List.mem_cons_self).opened (hanswered s List.mem_cons_self)
    cases ts with
    | nil => exact absurd (List.append_eq_nil_iff.mp (List.prefix_nil.mp hup)).1 hsaid
    | cons t ts =>
      rw [List.flatMap_cons, List.flatMap_cons] at hup hdown
      have hnext : ts ≠ [] → v.Over t := by
        intro hne
        refine hover t ?_
        rw [List.dropLast_cons_of_ne_nil hne]
        exact List.mem_cons_self
      have hnext' : ss ≠ [] → v.Over s := by
        intro hne
        refine hover' s ?_
        rw [List.dropLast_cons_of_ne_nil hne]
        exact List.mem_cons_self
      have hshaped := ht t List.mem_cons_self
      have hshaped' := hs s List.mem_cons_self
      have hheard : s.up <+: t.up := by
        refine up_prefix hshaped hshaped' (hanswered s List.mem_cons_self) hup hdown ?_
        rcases eq_or_ne ts [] with rfl | hne
        · exact Or.inr rfl
        · exact Or.inl (hnext hne)
      have hheard' : t.down <+: s.down := by
        refine down_prefix hshaped hdown ?_
        rcases eq_or_ne ss [] with rfl | hne
        · exact Or.inr rfl
        · exact Or.inl (hnext' hne)
      have hall : ts ≠ [] → t.down = s.down :=
        fun hne => (hnext hne).down.eq_of_front hheard' hshaped'.down
      have hall' : ss ≠ [] → s.up = t.up :=
        fun hne => up_eq hshaped hshaped' (hnext' hne) hheard hheard'
      refine .cons hheard hheard' hall hall' (ih ?_ ?_ ?_ ?_ ?_ ?_ ?_)
      · exact fun t' h => ht t' (List.mem_cons_of_mem t h)
      · exact fun s' h => hs s' (List.mem_cons_of_mem s h)
      · exact fun s' h => hanswered s' (List.mem_cons_of_mem s h)
      · intro t' h
        refine hover t' ?_
        rw [List.dropLast_cons_of_ne_nil (List.ne_nil_of_mem (List.mem_of_mem_dropLast h))]
        exact List.mem_cons_of_mem t h
      · intro s' h
        refine hover' s' ?_
        rw [List.dropLast_cons_of_ne_nil (List.ne_nil_of_mem (List.mem_of_mem_dropLast h))]
        exact List.mem_cons_of_mem s h
      · rcases eq_or_ne ss [] with rfl | hne
        · exact List.nil_prefix
        · rw [hall' hne] at hup
          exact (List.prefix_append_right_inj t.up).mp hup
      · rcases eq_or_ne ts [] with rfl | hne
        · exact List.nil_prefix
        · rw [hall hne] at hdown
          exact (List.prefix_append_right_inj s.down).mp hdown

/-- The second party is behind by one talk at most. -/
theorem Met.length {ts ss : List (Talk α)} (h : Met ts ss) :
    ss.length ≤ ts.length ∧ ts.length ≤ ss.length + 1 := by
  induction h with
  | nil => exact ⟨le_rfl, Nat.zero_le _⟩
  | opening => exact ⟨Nat.zero_le _, le_rfl⟩
  | cons _ _ _ _ _ ih => exact ⟨Nat.succ_le_succ ih.1, Nat.succ_le_succ ih.2⟩

/-- Talk by talk. -/
theorem Met.get {ts ss : List (Talk α)} (h : Met ts ss) (i : Nat) (ht : ts[i]? = some t)
    (hs : ss[i]? = some s) :
    s.up <+: t.up ∧ t.down <+: s.down ∧ (i + 1 < ts.length → t.down = s.down) ∧
      (i + 1 < ss.length → s.up = t.up) := by
  induction h generalizing i with
  | nil => cases ht
  | opening => cases hs
  | cons hup hdown hall hall' _ ih =>
    cases i with
    | zero =>
      obtain rfl := Option.some.inj ht
      obtain rfl := Option.some.inj hs
      refine ⟨hup, hdown, fun hlt => hall ?_, fun hlt => hall' ?_⟩
      · exact List.ne_nil_of_length_pos (Nat.lt_of_succ_lt_succ hlt)
      · exact List.ne_nil_of_length_pos (Nat.lt_of_succ_lt_succ hlt)
    | succ i =>
      obtain ⟨hup', hdown', hwhole, hwhole'⟩ := ih i ht hs
      exact ⟨hup', hdown', fun hlt => hwhole (Nat.lt_of_succ_lt_succ hlt),
        fun hlt => hwhole' (Nat.lt_of_succ_lt_succ hlt)⟩

end Words

end GalayRpc
