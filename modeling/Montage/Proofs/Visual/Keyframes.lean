import Mathlib.Data.List.TakeWhile
import Montage.Proofs.Frames
import Montage.Proofs.Visual.Progress
import Montage.Visual.Keyframe

/-!
What keyframes give at a frame, said without a search.

A list in order of its frames falls into the keyframes up to a frame and those after it, and in one
way only. The last of the former and the first of the latter decide what is given: on a keyframe the
last one there is, before all of them the first one, after all of them the last one, and anywhere
else a point of the way between the two neighbours, which are not on one frame. In exact numbers no
field leaves the range between the neighbours.
-/

namespace Montage

namespace Keyframe

variable {α : Type} {keys past rest : List (Keyframe α)} {frame : Frame} {a b k : Keyframe α}

/-- In order of their frames, which may come repeatedly. -/
def Sorted (keys : List (Keyframe α)) : Prop := keys.Pairwise fun a b => a.frame ≤ b.frame

instance (keys : List (Keyframe α)) : Decidable (Sorted keys) := by
  unfold Sorted
  infer_instance

lemma Sorted.head_le (sorted : Sorted keys) (h : keys.head? = some a) (hk : k ∈ keys) :
    a.frame ≤ k.frame := by
  obtain ⟨rest, rfl⟩ := List.head?_eq_some_iff.mp h
  rcases List.mem_cons.mp hk with rfl | hk
  · exact UInt64.le_refl _
  · exact List.rel_of_pairwise_cons sorted hk

lemma Sorted.le_getLast (sorted : Sorted keys) (h : keys.getLast? = some b) (hk : k ∈ keys) :
    k.frame ≤ b.frame := by
  obtain ⟨past, rfl⟩ := List.getLast?_eq_some_iff.mp h
  rcases List.mem_append.mp hk with hk | hk
  · exact (List.pairwise_append.mp sorted).2.2 k hk b (List.mem_singleton_self b)
  · rw [List.mem_singleton.mp hk]
    exact UInt64.le_refl _

/-- No keyframe is on the frame; `b` is the last one before it, and `a` the first one after it. -/
structure Around (keys : List (Keyframe α)) (frame : Frame) (b a : Keyframe α) : Prop where
  off : ∀ k ∈ keys, k.frame ≠ frame
  before : (keys.filter fun k => k.frame < frame).getLast? = some b
  after : (keys.filter fun k => frame < k.frame).head? = some a

lemma Around.lt (h : Around keys frame b a) : b.frame < frame ∧ frame < a.frame := by
  have hb := List.mem_of_getLast? h.before
  have ha := List.mem_of_head? h.after
  rw [List.mem_filter, decide_eq_true_eq] at hb ha
  exact ⟨hb.2, ha.2⟩

/-! The two parts of a list -/

/-- The keyframes up to a frame, and those after it. -/
structure Splits (keys past rest : List (Keyframe α)) (frame : Frame) : Prop where
  append : keys = past ++ rest
  past : ∀ k ∈ past, k.frame ≤ frame
  rest : ∀ k ∈ rest, frame < k.frame

lemma Sorted.exists_splits (sorted : Sorted keys) (frame : Frame) :
    ∃ past rest, Splits keys past rest frame := by
  refine ⟨keys.takeWhile fun k => k.frame ≤ frame, keys.dropWhile fun k => k.frame ≤ frame,
    List.takeWhile_append_dropWhile.symm, fun k hk => ?_, fun k hk => ?_⟩
  · simpa using List.mem_takeWhile_imp hk
  · -- The first one that is left is after the frame, and the others are not before that one.
    obtain ⟨a, rest, hrest⟩ := List.exists_cons_of_ne_nil (List.ne_nil_of_mem hk)
    have hsorted : (a :: rest).Pairwise fun a b => a.frame ≤ b.frame :=
      hrest ▸ sorted.sublist (List.dropWhile_sublist _)
    have ha : frame < a.frame := by
      have hnot := List.head_dropWhile_not (fun k : Keyframe α => decide (k.frame ≤ frame))
        (List.ne_nil_of_mem hk)
      simpa [hrest, UInt64.not_le] using hnot
    rcases List.mem_cons.mp (hrest ▸ hk) with rfl | hk
    · exact ha
    · exact UInt64.lt_of_lt_of_le ha (List.rel_of_pairwise_cons hsorted hk)

namespace Splits

lemma sorted_past (h : Splits keys past rest frame) (sorted : Sorted keys) : Sorted past := by
  rw [h.append] at sorted
  exact sorted.sublist (List.sublist_append_left past rest)

lemma takeWhile_eq (h : Splits keys past rest frame) :
    keys.takeWhile (fun k => k.frame ≤ frame) = past := by
  have hrest : rest.takeWhile (fun k => k.frame ≤ frame) = [] := by
    cases rest with
    | nil => rfl
    | cons a rest =>
      exact List.takeWhile_cons_of_neg (by simpa [UInt64.not_le] using h.rest a List.mem_cons_self)
  rw [h.append, List.takeWhile_append_of_pos fun k hk => by simpa using h.past k hk, hrest,
    List.append_nil]

lemma drop_eq (h : Splits keys past rest frame) : keys.drop past.length = rest := by
  rw [h.append, List.drop_left]

lemma filter_on (h : Splits keys past rest frame) :
    (keys.filter fun k => k.frame = frame) = past.filter fun k => k.frame = frame := by
  have hrest : (rest.filter fun k => k.frame = frame) = [] :=
    List.filter_eq_nil_iff.mpr fun k hk => by simpa using (UInt64.ne_of_lt (h.rest k hk)).symm
  rw [h.append, List.filter_append, hrest, List.append_nil]

lemma filter_after (h : Splits keys past rest frame) :
    (keys.filter fun k => frame < k.frame) = rest := by
  have hpast : (past.filter fun k => frame < k.frame) = [] :=
    List.filter_eq_nil_iff.mpr fun k hk => by simpa [UInt64.not_lt] using h.past k hk
  rw [h.append, List.filter_append, hpast, List.nil_append, List.filter_eq_self]
  exact fun k hk => by simpa using h.rest k hk

lemma filter_before (h : Splits keys past rest frame) (hoff : ∀ k ∈ past, k.frame ≠ frame) :
    (keys.filter fun k => k.frame < frame) = past := by
  have hrest : (rest.filter fun k => k.frame < frame) = [] :=
    List.filter_eq_nil_iff.mpr fun k hk => by
      simpa [UInt64.not_lt] using UInt64.le_of_lt (h.rest k hk)
  rw [h.append, List.filter_append, hrest, List.append_nil, List.filter_eq_self]
  exact fun k hk => by simpa using UInt64.lt_of_le_of_ne (h.past k hk) (hoff k hk)

/-- In a list in order, nothing is on the frame if the last keyframe up to it is not. -/
lemma around (h : Splits keys (past ++ [b]) (a :: rest) frame) (sorted : Sorted keys)
    (hb : b.frame ≠ frame) : Around keys frame b a := by
  have hlt : b.frame < frame := UInt64.lt_of_le_of_ne (h.past b (by simp)) hb
  have hpast : ∀ k ∈ past ++ [b], k.frame ≠ frame := fun k hk => by
    have hle := (h.sorted_past sorted).le_getLast List.getLast?_concat hk
    exact UInt64.ne_of_lt (UInt64.lt_of_le_of_lt hle hlt)
  refine ⟨fun k hk => ?_, ?_, ?_⟩
  · rw [h.append] at hk
    rcases List.mem_append.mp hk with hk | hk
    · exact hpast k hk
    · exact (UInt64.ne_of_lt (h.rest k hk)).symm
  · rw [h.filter_before hpast, List.getLast?_concat]
  · rw [h.filter_after, List.head?_cons]

end Splits

/-- A keyframe merged over the base: of each field the value that the keyframe has for it, or else
that of the base. -/
structure Merges (base : Transform α) (k : Keyframe α) (t : Transform α) : Prop where
  positionX : t.position.x = k.override.positionX.getD base.position.x
  positionY : t.position.y = k.override.positionY.getD base.position.y
  scaleX : t.scale.x = k.override.scaleX.getD base.scale.x
  scaleY : t.scale.y = k.override.scaleY.getD base.scale.y
  rotation : t.rotation = k.override.rotation.getD base.rotation
  opacity : t.opacity = k.override.opacity.getD base.opacity

lemma merges_iff {base t : Transform α} : Merges base k t ↔ k.override.onto base = t := by
  constructor
  · rintro ⟨hpx, hpy, hsx, hsy, hr, ho⟩
    obtain ⟨⟨px, py⟩, ⟨sx, sy⟩, r, o⟩ := t
    dsimp only at hpx hpy hsx hsy hr ho
    rw [hpx, hpy, hsx, hsy, hr, ho]
    rfl
  · rintro rfl
    exact ⟨rfl, rfl, rfl, rfl, rfl, rfl⟩

lemma merges_onto (base : Transform α) (k : Keyframe α) : Merges base k (k.override.onto base) :=
  merges_iff.mpr rfl

section
variable [Scalar α] {base t : Transform α}

/-- The part of the way from one keyframe to another that has passed at a frame. -/
def passed (b a : Keyframe α) (frame : Frame) : α :=
  Scalar.ofFrame (frame - b.frame) / Scalar.ofFrame (a.frame - b.frame)

/-- The transform that a list of keyframes should give at a frame, told without a search. -/
inductive Gives (base : Transform α) (keys : List (Keyframe α)) (frame : Frame) :
    Transform α → Prop
  | empty (h : keys = []) : Gives base keys frame base
  | hit {k : Keyframe α} {t : Transform α}
      (h : (keys.filter fun k => k.frame = frame).getLast? = some k) (merges : Merges base k t) :
      Gives base keys frame t
  | early {k : Keyframe α} {t : Transform α} (h : keys.head? = some k) (lt : frame < k.frame)
      (merges : Merges base k t) : Gives base keys frame t
  | late {k : Keyframe α} {t : Transform α} (h : keys.getLast? = some k) (lt : k.frame < frame)
      (merges : Merges base k t) : Gives base keys frame t
  | between {b a : Keyframe α} {s t : Transform α} (h : Around keys frame b a)
      (before : Merges base b s) (after : Merges base a t) :
      Gives base keys frame (s.lerp t (a.easing.apply (passed b a frame)))

/-! However a list is split, the two keyframes at the split decide -/

namespace Splits

lemma resolve_of_nil (h : Splits keys [] (a :: rest) frame) :
    resolve base keys frame = a.override.onto base := by
  simp only [resolve, h.takeWhile_eq, h.drop_eq, List.getLast?_nil]

lemma resolve_of_rest_nil (h : Splits keys (past ++ [b]) [] frame) :
    resolve base keys frame = b.override.onto base := by
  simp only [resolve, h.takeWhile_eq, h.drop_eq, List.getLast?_concat]

lemma resolve_of_hit (h : Splits keys (past ++ [b]) rest frame) (hit : b.frame = frame) :
    resolve base keys frame = b.override.onto base := by
  cases rest with
  | nil => exact h.resolve_of_rest_nil
  | cons a rest =>
    simp only [resolve, h.takeWhile_eq, h.drop_eq, List.getLast?_concat, if_pos hit]

lemma resolve_of_between (h : Splits keys (past ++ [b]) (a :: rest) frame) (hb : b.frame ≠ frame) :
    resolve base keys frame =
      (b.override.onto base).lerp (a.override.onto base) (a.easing.apply (passed b a frame)) := by
  simp only [resolve, h.takeWhile_eq, h.drop_eq, List.getLast?_concat, if_neg hb]
  rfl

end Splits

lemma resolve_of_early (sorted : Sorted keys) (h : keys.head? = some a) (lt : frame < a.frame) :
    resolve base keys frame = a.override.onto base := by
  obtain ⟨rest, rfl⟩ := List.head?_eq_some_iff.mp h
  refine Splits.resolve_of_nil ⟨rfl, nofun, fun k hk => ?_⟩
  exact UInt64.lt_of_lt_of_le lt (sorted.head_le h hk)

lemma resolve_of_late (sorted : Sorted keys) (h : keys.getLast? = some b) (le : b.frame ≤ frame) :
    resolve base keys frame = b.override.onto base := by
  obtain ⟨past, rfl⟩ := List.getLast?_eq_some_iff.mp h
  refine Splits.resolve_of_rest_nil ⟨(List.append_nil _).symm, fun k hk => ?_, nofun⟩
  exact UInt64.le_trans (sorted.le_getLast h hk) le

lemma resolve_of_hit (sorted : Sorted keys)
    (h : (keys.filter fun k => k.frame = frame).getLast? = some k) :
    resolve base keys frame = k.override.onto base := by
  obtain ⟨past, rest, hsplits⟩ := sorted.exists_splits frame
  have hk := List.mem_of_getLast? h
  rw [hsplits.filter_on, List.mem_filter, decide_eq_true_eq] at hk
  rcases List.eq_nil_or_concat past with rfl | ⟨past, b, rfl⟩
  · cases hk.1
  rw [List.concat_eq_append] at *
  -- The last keyframe up to the frame is on it, as one of them is.
  have hb : b.frame = frame := by
    refine UInt64.le_antisymm (hsplits.past b (by simp)) ?_
    rw [← hk.2]
    exact (hsplits.sorted_past sorted).le_getLast List.getLast?_concat hk.1
  have hlast : (keys.filter fun k => k.frame = frame).getLast? = some b := by
    rw [hsplits.filter_on, List.filter_append, List.filter_cons_of_pos (by simpa using hb),
      List.filter_nil, List.getLast?_concat]
  obtain rfl : b = k := Option.some.inj (hlast.symm.trans h)
  exact hsplits.resolve_of_hit hb

lemma resolve_of_around (sorted : Sorted keys) (h : Around keys frame b a) :
    resolve base keys frame =
      (b.override.onto base).lerp (a.override.onto base) (a.easing.apply (passed b a frame)) := by
  obtain ⟨past, rest, hsplits⟩ := sorted.exists_splits frame
  have hpast : ∀ k ∈ past, k.frame ≠ frame := fun k hk =>
    h.off k (hsplits.append ▸ List.mem_append_left rest hk)
  have hbefore := h.before
  have hafter := h.after
  rw [hsplits.filter_before hpast] at hbefore
  rw [hsplits.filter_after] at hafter
  obtain ⟨past, rfl⟩ := List.getLast?_eq_some_iff.mp hbefore
  obtain ⟨rest, rfl⟩ := List.head?_eq_some_iff.mp hafter
  exact hsplits.resolve_of_between (hpast b (by simp))

lemma resolve_of_gives (sorted : Sorted keys) (h : Gives base keys frame t) :
    resolve base keys frame = t := by
  cases h with
  | empty h =>
    rw [h]
    rfl
  | hit h merges =>
    rw [← merges_iff.mp merges]
    exact resolve_of_hit sorted h
  | early h lt merges =>
    rw [← merges_iff.mp merges]
    exact resolve_of_early sorted h lt
  | late h lt merges =>
    rw [← merges_iff.mp merges]
    exact resolve_of_late sorted h (UInt64.le_of_lt lt)
  | between h before after =>
    rw [← merges_iff.mp before, ← merges_iff.mp after]
    exact resolve_of_around sorted h

lemma exists_gives (sorted : Sorted keys) (base : Transform α) (frame : Frame) :
    ∃ t, Gives base keys frame t := by
  obtain ⟨past, rest, hsplits⟩ := sorted.exists_splits frame
  rcases List.eq_nil_or_concat past with rfl | ⟨past, b, rfl⟩
  · cases rest with
    | nil => exact ⟨_, .empty hsplits.append⟩
    | cons a rest =>
      have hfirst : keys.head? = some a := by
        rw [hsplits.append]
        rfl
      exact ⟨_, .early hfirst (hsplits.rest a List.mem_cons_self) (merges_onto base a)⟩
  rw [List.concat_eq_append] at hsplits
  by_cases hb : b.frame = frame
  · refine ⟨_, .hit (k := b) ?_ (merges_onto base b)⟩
    rw [hsplits.filter_on, List.filter_append, List.filter_cons_of_pos (by simpa using hb),
      List.filter_nil, List.getLast?_concat]
  cases rest with
  | nil =>
    have hlt := UInt64.lt_of_le_of_ne (hsplits.past b (by simp)) hb
    refine ⟨_, .late (k := b) ?_ hlt (merges_onto base b)⟩
    rw [hsplits.append, List.append_nil, List.getLast?_concat]
  | cons a rest =>
    exact ⟨_, .between (hsplits.around sorted hb) (merges_onto base b) (merges_onto base a)⟩

lemma resolve_eq_iff_gives (sorted : Sorted keys) :
    resolve base keys frame = t ↔ Gives base keys frame t := by
  refine ⟨?_, resolve_of_gives sorted⟩
  rintro rfl
  obtain ⟨t, ht⟩ := exists_gives sorted base frame
  rwa [resolve_of_gives sorted ht]

end

/-! In exact numbers -/

lemma Around.toNat_span (h : Around keys frame b a) :
    (a.frame - b.frame).toNat = a.frame.toNat - b.frame.toNat :=
  Frame.toNat_sub (UInt64.lt_iff_toNat_lt.mp (UInt64.lt_trans h.lt.1 h.lt.2)).le

lemma Around.span_ne_zero (h : Around keys frame b a) : a.frame - b.frame ≠ 0 := by
  have hlt := UInt64.lt_iff_toNat_lt.mp (UInt64.lt_trans h.lt.1 h.lt.2)
  have hspan := h.toNat_span
  intro hzero
  rw [hzero, UInt64.toNat_zero] at hspan
  omega

lemma ofFrame_eq_natCast (f : Frame) : (Scalar.ofFrame f : Rat) = f.toNat := Int.cast_natCast _

/-- How far the frame is on the way, with frames counted in exact numbers. -/
def part (b a : Keyframe Rat) (frame : Frame) : Rat :=
  (frame.toNat - b.frame.toNat) / (a.frame.toNat - b.frame.toNat)

section
variable {keys : List (Keyframe Rat)} {base : Transform Rat} {b a : Keyframe Rat}

lemma Around.passed_eq_part (h : Around keys frame b a) : passed b a frame = part b a frame := by
  have hb := UInt64.lt_iff_toNat_lt.mp h.lt.1
  have ha := UInt64.lt_iff_toNat_lt.mp h.lt.2
  rw [passed, ofFrame_eq_natCast, ofFrame_eq_natCast, h.toNat_span, Frame.toNat_sub hb.le,
    Nat.cast_sub hb.le, Nat.cast_sub (hb.trans ha).le, part]

lemma Around.part_mem (h : Around keys frame b a) : part b a frame ∈ Set.Icc (0 : Rat) 1 := by
  have hb : (b.frame.toNat : Rat) < frame.toNat := by
    exact_mod_cast UInt64.lt_iff_toNat_lt.mp h.lt.1
  have ha : (frame.toNat : Rat) < a.frame.toNat := by
    exact_mod_cast UInt64.lt_iff_toNat_lt.mp h.lt.2
  exact ⟨div_nonneg (by linarith) (by linarith), div_le_one_of_le₀ (by linarith) (by linarith)⟩

lemma Around.isPartway (sorted : Sorted keys) (h : Around keys frame b a) {s t : Transform Rat}
    (before : Merges base b s) (after : Merges base a t) :
    Transform.IsPartway (a.easing.curve (part b a frame)) s t (resolve base keys frame) := by
  rw [resolve_of_around sorted h, merges_iff.mp before, merges_iff.mp after, h.passed_eq_part,
    a.easing.apply_eq_curve h.part_mem]
  exact Transform.isPartway_lerp _ s t

end

/-- **Keyframes give what they should.** Of a list in order, the cases of `Gives` leave no frame out
and say what the transform is. Between two keyframes there is a span to divide by, and in exact
numbers each field is the eased part of the way from the one to the other, and lies between the two,
as every easing leads from 0 to 1 and never back. -/
theorem resolve_by_neighbours :
    (∀ {α : Type} [Scalar α] (base t : Transform α) (keys : List (Keyframe α)) (frame : Frame),
      Sorted keys → (resolve base keys frame = t ↔ Gives base keys frame t)) ∧
    (∀ {α : Type} (keys : List (Keyframe α)) (frame : Frame) (b a : Keyframe α),
      Around keys frame b a → a.frame - b.frame ≠ 0) ∧
    (∀ (base s t : Transform Rat) (keys : List (Keyframe Rat)) (frame : Frame)
      (b a : Keyframe Rat), Sorted keys → Around keys frame b a →
      Merges base b s → Merges base a t →
      Transform.IsPartway (a.easing.curve (part b a frame)) s t (resolve base keys frame) ∧
        s.IsBetween t (resolve base keys frame)) ∧
    ∀ e : Easing, Easing.IsProgress e.apply ∧
      ∀ t ∈ Set.Icc (0 : Rat) 1, e.apply t = e.curve t := by
  refine ⟨fun _ _ _ _ => resolve_eq_iff_gives, fun _ _ _ _ => Around.span_ne_zero, ?_,
    fun e => ⟨e.isProgress_apply, fun _ => e.apply_eq_curve⟩⟩
  intro base s t keys frame b a sorted h before after
  have hway := h.isPartway sorted before after
  have hpart := (a.easing.isProgress_apply).mapsTo h.part_mem
  rw [a.easing.apply_eq_curve h.part_mem] at hpart
  exact ⟨hway, hway.isBetween hpart⟩

/-- It is turned a little, and off its place. -/
def turnedBase : Transform Rat := ⟨⟨2, 3⟩, ⟨1, 1⟩, 10, 1⟩

def droppingFrom : Keyframe Rat := ⟨4, { positionX := some 4, opacity := some 0 }, .linear⟩

def droppingTo : Keyframe Rat := ⟨14, { rotation := some 90, opacity := some 1 }, .easeIn⟩

/-- Opacity goes up to full at frame 14, where it drops by half. -/
def droppingKeys : List (Keyframe Rat) :=
  [droppingFrom, droppingTo, ⟨14, .ofOpacity (1 / 2), .linear⟩]

/-- Halfway, at frame 9, the way goes to the first keyframe on frame 14, and a quarter of it is
done. On that frame and after it the last keyframe counts, and up to frame 4 the first one. What a
keyframe leaves open is as in the base. -/
theorem resolve_by_neighbours_dropping :
    resolve turnedBase droppingKeys 0 = ⟨⟨4, 3⟩, ⟨1, 1⟩, 10, 0⟩ ∧
    resolve turnedBase droppingKeys 9 = ⟨⟨7 / 2, 3⟩, ⟨1, 1⟩, 30, 1 / 4⟩ ∧
    resolve turnedBase droppingKeys 14 = ⟨⟨2, 3⟩, ⟨1, 1⟩, 10, 1 / 2⟩ ∧
    resolve turnedBase droppingKeys 20 = ⟨⟨2, 3⟩, ⟨1, 1⟩, 10, 1 / 2⟩ ∧
    (resolve turnedBase droppingKeys 9).rotation ∈ Set.uIcc (10 : Rat) 90 := by
  obtain ⟨hgives, -, hways, -⟩ := resolve_by_neighbours
  have hsorted : Sorted droppingKeys := by decide
  have hlast : Merges turnedBase ⟨14, .ofOpacity (1 / 2), .linear⟩
      ⟨⟨2, 3⟩, ⟨1, 1⟩, 10, 1 / 2⟩ := ⟨rfl, rfl, rfl, rfl, rfl, rfl⟩
  have hfrom : Merges turnedBase droppingFrom ⟨⟨4, 3⟩, ⟨1, 1⟩, 10, 0⟩ :=
    ⟨rfl, rfl, rfl, rfl, rfl, rfl⟩
  have hto : Merges turnedBase droppingTo ⟨⟨2, 3⟩, ⟨1, 1⟩, 90, 1⟩ :=
    ⟨rfl, rfl, rfl, rfl, rfl, rfl⟩
  have haround : Around droppingKeys 9 droppingFrom droppingTo := ⟨by decide, rfl, rfl⟩
  obtain ⟨hway, hbetween⟩ := hways turnedBase _ _ _ _ _ _ hsorted haround hfrom hto
  have hquarter : Easing.easeIn.curve (part droppingFrom droppingTo 9) = 1 / 4 := by
    show (((9 : Nat) - (4 : Nat)) / ((14 : Nat) - (4 : Nat)) : Rat) ^ 2 = 1 / 4
    norm_num
  refine ⟨(hgives _ _ _ _ hsorted).mpr (.early rfl (by decide) hfrom), ?_,
    (hgives _ _ _ _ hsorted).mpr (.hit rfl hlast),
    (hgives _ _ _ _ hsorted).mpr (.late rfl (by decide) hlast), hbetween.rotation⟩
  rw [hway.eq_lerp, show droppingTo.easing = Easing.easeIn from rfl, hquarter]
  norm_num [Transform.lerp, Vec2.lerp]

end Keyframe

end Montage
