/-
  Incremental frame parsers.

  A reader of a byte stream sees longer and longer prefixes of it and must decide, each time, whether
  the first frame is complete.  A `FrameParser` is such a decision procedure: on the bytes so far it
  answers "not yet" (`ok none`), "the first `n` bytes are a frame and it says `a`", or an error.  Two
  laws make the answers independent of how the stream was cut:

  * `stable` — a decided answer is not changed by bytes that arrive behind it;
  * `exact`  — a frame is recognised from its own bytes alone.

  From these: every proper prefix of a frame is undecided (`parse_of_lt`), every longer prefix shows
  the frame (`parse_of_le`), and a frame in front of a stream determines where the next one starts
  (`frame_append`).  `Arriving` is a frame of which a buffer holds a part, and `Frames p b as t` reads a
  whole stream: `b` is the frames of `as` followed by `t`.  `scan` is what a reader with a bounded buffer
  finds in a stream; by `stable` it may look at any part of the stream that decides.
-/
import GalayRpc.Lib.Bytes

namespace GalayRpc

/-- A prefix-deciding parser with answers in `α` and errors in `ε`. -/
structure FrameParser (ε α : Type) where
  parse : Bytes → Except ε (Option (Nat × α))
  consumes : ∀ {b n a}, parse b = .ok (some (n, a)) → 0 < n ∧ n ≤ b.length
  stable : ∀ {b} t, parse b ≠ .ok none → parse (b ++ t) = parse b
  exact : ∀ {b n a}, parse b = .ok (some (n, a)) → parse (b.take n) = .ok (some (n, a))

namespace FrameParser

variable {ε α : Type} (p : FrameParser ε α)

/-- `f` is the frame that says `a`. -/
def Frame (f : Bytes) (a : α) : Prop := p.parse f = .ok (some (f.length, a))

theorem Frame.pos {p : FrameParser ε α} {f : Bytes} {a : α} (h : p.Frame f a) : 0 < f.length :=
  (p.consumes h).1

/-- Whatever follows a frame, it is the first frame of the stream. -/
theorem frame_append {f : Bytes} {a : α} (h : p.Frame f a) (t : Bytes) :
    p.parse (f ++ t) = .ok (some (f.length, a)) := by
  have hne : p.parse f ≠ .ok none := by
    rw [h]
    nofun
  rw [p.stable t hne, h]

/-- A proper prefix of the first frame is undecided: were it decided, the answer would stay and
    consume more bytes than the prefix has. -/
theorem parse_of_lt {f t : Bytes} {a : α} (h : p.Frame f a) {c w : Bytes} (hc : c ++ w = f ++ t)
    (hlt : c.length < f.length) : p.parse c = .ok none := by
  by_contra hne
  have hst := p.stable w hne
  rw [hc, p.frame_append h] at hst
  have hle := (p.consumes hst.symm).2
  omega

/-- Once a whole frame is there, it is recognised. -/
theorem parse_of_le {f t : Bytes} {a : α} (h : p.Frame f a) {c w : Bytes} (hc : c ++ w = f ++ t)
    (hle : f.length ≤ c.length) : p.parse c = .ok (some (f.length, a)) ∧ c.drop f.length ++ w = t := by
  have hpre : c = f ++ c.drop f.length := by
    have htake := congrArg (List.take f.length) hc
    rw [List.take_append_of_le_length hle, List.take_left] at htake
    conv_lhs => rw [← List.take_append_drop f.length c, htake]
  refine ⟨?_, ?_⟩
  · rw [hpre]
    exact p.frame_append h _
  · rw [hpre, List.append_assoc] at hc
    exact List.append_cancel_left hc

/-- No prefix of a stream shows a frame that the stream does not start with. -/
theorem parse_of_front {c w : Bytes} {n : Nat} {a : α} (h : p.parse c = .ok (some (n, a))) :
    p.parse (c ++ w) = .ok (some (n, a)) := by
  have hne : p.parse c ≠ .ok none := by
    rw [h]
    nofun
  rw [p.stable w hne, h]

/-- A frame on its way into a buffer: `content` is there, and `rest` behind it. -/
structure Arriving (f : Bytes) (a : α) (content rest : Bytes) : Prop where
  frame : p.Frame f a
  front : content ++ rest <+: f

section Arriving

variable {p : FrameParser ε α} {f content rest : Bytes} {a : α}

/-- The frame is recognised when all of it is in the buffer, and not before. -/
theorem Arriving.parse_eq (h : p.Arriving f a content rest) :
    p.parse content = if content = f then .ok (some (f.length, a)) else .ok none := by
  obtain ⟨later, hlater⟩ := h.front
  rw [List.append_assoc] at hlater
  by_cases hall : content = f
  · rw [if_pos hall, hall]
    exact h.frame
  · rw [if_neg hall]
    have hne : rest ++ later ≠ [] := by
      intro hnil
      rw [hnil, List.append_nil] at hlater
      exact hall hlater
    have hlen := congrArg List.length hlater
    rw [List.length_append] at hlen
    have hpos := List.length_pos_of_ne_nil hne
    exact p.parse_of_lt h.frame (t := []) (by rw [hlater, List.append_nil]) (by omega)

/-- A frame that is recognised is all there, and nothing is behind it. -/
theorem Arriving.of_some (h : p.Arriving f a content rest) {n : Nat} {b : α}
    (hparse : p.parse content = .ok (some (n, b))) : content = f ∧ rest = [] ∧ n = f.length ∧ b = a := by
  rw [h.parse_eq] at hparse
  split at hparse
  · rename_i hall
    obtain ⟨rfl, rfl⟩ := Prod.mk.inj (Option.some.inj (Except.ok.inj hparse))
    have hlen := h.front.length_le
    rw [List.length_append, hall] at hlen
    exact ⟨hall, List.length_eq_zero_iff.mp (by omega), rfl, rfl⟩
  · cases hparse

/-- A frame on its way is not refused. -/
theorem Arriving.ne_error (h : p.Arriving f a content rest) (e : ε) : p.parse content ≠ .error e := by
  intro hparse
  rw [h.parse_eq] at hparse
  split at hparse
  · cases hparse
  · cases hparse

/-- As long as it is not recognised, a buffer that can hold it has room, and there is more of it to
    come. -/
theorem Arriving.of_none (h : p.Arriving f a content rest) (hparse : p.parse content = .ok none) :
    content.length < f.length ∧ (content ++ rest = f → rest ≠ []) := by
  rw [h.parse_eq] at hparse
  split at hparse
  · cases hparse
  · rename_i hpart
    have hle := (List.prefix_append content rest).trans h.front |>.length_le
    have hne : content.length ≠ f.length := fun hlen =>
      hpart (((List.prefix_append content rest).trans h.front).eq_of_length hlen)
    refine ⟨Nat.lt_of_le_of_ne hle hne, ?_⟩
    rintro hall rfl
    rw [List.append_nil] at hall
    exact hpart hall

end Arriving

/-- `b` is the frames of `as`, in order, followed by `t`. -/
inductive Frames : Bytes → List α → Bytes → Prop where
  | nil (t : Bytes) : Frames t [] t
  | cons {f a b as t} (h : p.Frame f a) (hs : Frames b as t) : Frames (f ++ b) (a :: as) t

/-- A stream holds no more frames than bytes. -/
theorem Frames.length_le {p : FrameParser ε α} {b t : Bytes} {as : List α} (h : p.Frames b as t) :
    as.length ≤ b.length := by
  induction h with
  | nil t => exact Nat.zero_le _
  | cons h hs ih =>
    have := h.pos
    rw [List.length_cons, List.length_append]
    omega

/-- Bytes that arrive behind the frames. -/
theorem Frames.append {p : FrameParser ε α} {b t : Bytes} {as : List α} (h : p.Frames b as t)
    (w : Bytes) : p.Frames (b ++ w) as (t ++ w) := by
  induction h with
  | nil t => exact .nil _
  | cons hf hs ih =>
    rw [List.append_assoc]
    exact .cons hf ih

/-- One more frame is taken off what is left. -/
theorem Frames.concat {p : FrameParser ε α} {b t : Bytes} {as : List α} (h : p.Frames b as t)
    {n : Nat} {a : α} (hparse : p.parse t = .ok (some (n, a))) : p.Frames b (as ++ [a]) (t.drop n) := by
  induction h with
  | nil t =>
    have hle := (p.consumes hparse).2
    have hframe : p.Frame (t.take n) a := by
      have hexact := p.exact hparse
      rw [Frame, hexact, List.length_take, Nat.min_eq_left hle]
    have hcons : p.Frames (t.take n ++ t.drop n) [a] (t.drop n) := .cons hframe (.nil _)
    rwa [List.take_append_drop] at hcons
  | cons hf hs ih => exact .cons hf (ih hparse)

/-- Where the frame of each answer is: behind the frames of those before it. -/
theorem Frames.getElem? {p : FrameParser ε α} {b t : Bytes} {as : List α} (h : p.Frames b as t) {i : Nat}
    {a : α} (hi : as[i]? = some a) :
    ∃ before f after, b = before ++ (f ++ after) ∧ p.Frames before (as.take i) [] ∧ p.Frame f a := by
  induction h generalizing i with
  | nil t => cases hi
  | @cons f a' b as t hf hs ih =>
    cases i with
    | zero =>
      obtain rfl := Option.some.inj hi
      exact ⟨[], f, b, rfl, .nil [], hf⟩
    | succ i =>
      obtain ⟨before, f', after, rfl, hbefore, hf'⟩ := ih hi
      exact ⟨f ++ before, f', after, (List.append_assoc ..).symm, .cons hf hbefore, hf'⟩

/-- Two readings of one stream: one has got further than the other. -/
theorem Frames.comparable {p : FrameParser ε α} {b t t' : Bytes} {as as' : List α}
    (h : p.Frames b as t) (h' : p.Frames b as' t') : as <+: as' ∨ as' <+: as := by
  induction h generalizing as' t' with
  | nil t => exact Or.inl List.nil_prefix
  | @cons f a b as t hf hs ih =>
    generalize hstream : f ++ b = stream at h'
    cases h' with
    | nil => exact Or.inr List.nil_prefix
    | @cons f' a' b' as' _ hf' hs' =>
      have hsame := p.frame_append hf' b'
      rw [← hstream, p.frame_append hf b] at hsame
      obtain ⟨hlen, rfl⟩ := Prod.mk.inj (Option.some.inj (Except.ok.inj hsame))
      obtain rfl := (List.append_inj hstream hlen).2
      rcases ih hs' with hpre | hpre
      · exact Or.inl (List.cons_prefix_cons.mpr ⟨rfl, hpre⟩)
      · exact Or.inr (List.cons_prefix_cons.mpr ⟨rfl, hpre⟩)

/-- What is left behind some of the frames holds the others. -/
theorem Frames.rest {p : FrameParser ε α} {b t t' : Bytes} {as bs : List α} (h : p.Frames b as t)
    (h' : p.Frames b (as ++ bs) t') : p.Frames t bs t' := by
  induction h with
  | nil t => exact h'
  | @cons f a b as t hf hs ih =>
    generalize hstream : f ++ b = stream at h'
    rw [List.cons_append] at h'
    cases h' with
    | @cons f' a' b' as' _ hf' hs' =>
      have hsame := p.frame_append hf' b'
      rw [← hstream, p.frame_append hf b] at hsame
      obtain ⟨hlen, -⟩ := Prod.mk.inj (Option.some.inj (Except.ok.inj hsame))
      obtain rfl := (List.append_inj hstream hlen).2
      exact ih hs'

/-- A stream that is frames and nothing else: what is read off a prefix of it are the first of them. -/
theorem Frames.of_prefix {p : FrameParser ε α} {b c t : Bytes} {as cs : List α} (h : p.Frames b as [])
    (h' : p.Frames c cs t) (hc : c <+: b) : cs <+: as := by
  obtain ⟨w, rfl⟩ := hc
  rcases h.comparable (h'.append w) with ⟨more, hmore⟩ | hpre
  · have hmore' : p.Frames (c ++ w) (as ++ more) (t ++ w) := by
      rw [hmore]
      exact h'.append w
    obtain rfl := List.length_eq_zero_iff.mp (Nat.le_zero.mp (h.rest hmore').length_le)
    rw [List.append_nil] at hmore
    exact hmore ▸ List.prefix_rfl
  · exact hpre

/-- Frames put one behind the other read as what they say. -/
theorem frames_flatten {β : Type} (frame : β → Bytes) (msg : β → α) (t : Bytes) (bs : List β)
    (h : ∀ b ∈ bs, p.Frame (frame b) (msg b)) :
    p.Frames ((bs.map frame).flatten ++ t) (bs.map msg) t := by
  induction bs with
  | nil => exact .nil t
  | cons b bs ih =>
    rw [List.map_cons, List.flatten_cons, List.append_assoc]
    exact .cons (h b List.mem_cons_self) (ih fun b' hb' => h b' (List.mem_cons_of_mem _ hb'))

/-! ## A reader with a bounded buffer -/

/-- How a stream goes on behind the frames in front of it: with bytes that are refused, with a frame that
    the reader has no room for, or with the beginning of a frame. -/
inductive Remainder (ε : Type) where
  | refused (e : ε)
  | oversize
  | unfinished
deriving DecidableEq

def scanFor (room : Nat) : Nat → Bytes → List α × Remainder ε
  | 0, _ => ([], .unfinished)
  | fuel + 1, b =>
    match p.parse (b.take room) with
    | .error e => ([], .refused e)
    | .ok (some (n, a)) =>
      let rest := scanFor room fuel (b.drop n)
      (a :: rest.1, rest.2)
    | .ok none => ([], if room ≤ b.length then .oversize else .unfinished)

/-- The frames that a reader with room for `room` bytes finds in a stream, and how it goes on. -/
def scan (room : Nat) (b : Bytes) : List α × Remainder ε := p.scanFor room (b.length + 1) b

section Scan

variable {p : FrameParser ε α} {room : Nat} {b c : Bytes}

/-- Every frame takes something off the stream, so the fuel lasts. -/
theorem scanFor_eq {fuel : Nat} (hfuel : b.length < fuel) : p.scanFor room fuel b = p.scan room b := by
  unfold scan
  induction fuel using Nat.strong_induction_on generalizing b with
  | h fuel ih =>
    obtain ⟨fuel, rfl⟩ := Nat.exists_eq_succ_of_ne_zero (Nat.ne_zero_of_lt hfuel)
    unfold scanFor
    rcases hparse : p.parse (b.take room) with e | _ | ⟨n, a⟩
    · rfl
    · rfl
    · obtain ⟨hpos, hle⟩ := p.consumes hparse
      have hdrop : (b.drop n).length < b.length := by
        rw [List.length_take] at hle
        rw [List.length_drop]
        omega
      have hrest : p.scanFor room fuel (b.drop n) = p.scanFor room b.length (b.drop n) := by
        rw [ih fuel (Nat.lt_succ_self _) (by omega)]
        rcases Nat.lt_or_ge b.length (fuel + 1) with hlt | hge
        · exact (ih b.length hlt hdrop).symm
        · omega
      simp only [hrest]

/-- What a part of the stream decides is what the reader finds. -/
theorem scan_of_decided (hc : c <+: b) (hroom : c.length ≤ room) (hne : p.parse c ≠ .ok none) :
    p.parse (b.take room) = p.parse c := by
  have hfront : c <+: b.take room := List.prefix_take_iff.mpr ⟨hc, hroom⟩
  obtain ⟨w, hw⟩ := hfront
  rw [← hw, p.stable w hne]

theorem scan_cons {n : Nat} {a : α} (hc : c <+: b) (hroom : c.length ≤ room)
    (hparse : p.parse c = .ok (some (n, a))) :
    p.scan room b = (a :: (p.scan room (b.drop n)).1, (p.scan room (b.drop n)).2) := by
  have hne : p.parse c ≠ .ok none := by
    rw [hparse]
    exact fun h => by cases h
  have htake := (scan_of_decided hc hroom hne).trans hparse
  obtain ⟨hpos, hle⟩ := p.consumes hparse
  have hlen := hc.length_le
  rw [scan, scanFor, htake]
  simp only []
  rw [scanFor_eq (by rw [List.length_drop]; omega)]

theorem scan_refused {e : ε} (hc : c <+: b) (hroom : c.length ≤ room) (hparse : p.parse c = .error e) :
    p.scan room b = ([], .refused e) := by
  have hne : p.parse c ≠ .ok none := by
    rw [hparse]
    exact fun h => by cases h
  rw [scan, scanFor, (scan_of_decided hc hroom hne).trans hparse]

theorem scan_oversize (hc : c <+: b) (hroom : c.length = room) (hparse : p.parse c = .ok none) :
    p.scan room b = ([], .oversize) := by
  have htake : b.take room = c := by
    rw [← hroom]
    exact (List.prefix_iff_eq_take.mp hc).symm
  rw [scan, scanFor, htake, hparse]
  simp only []
  rw [if_pos (hroom ▸ hc.length_le)]

theorem scan_unfinished (hroom : b.length < room) (hparse : p.parse b = .ok none) :
    p.scan room b = ([], .unfinished) := by
  rw [scan, scanFor, List.take_of_length_le hroom.le, hparse]
  simp only []
  rw [if_neg (Nat.not_le.mpr hroom)]

end Scan

end FrameParser
end GalayRpc
