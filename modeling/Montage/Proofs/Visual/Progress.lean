import Mathlib.Data.Set.Monotone
import Mathlib.Order.Interval.Set.UnorderedInterval
import Mathlib.Tactic.Linarith
import Mathlib.Tactic.NormNum
import Mathlib.Tactic.Ring
import Montage.Visual.Easing
import Montage.Visual.Transform

/-!
Easings and ways between transforms, in exact numbers.

An easing goes from 0 to 1 and never back, whichever of the curves it is; the curve that eases in
and out is made of two pieces, which meet halfway. So what lies the eased part of the way from one
transform to another has each field between those of the two.
-/

namespace Montage

namespace Easing

variable {s t : Rat}

/-- The curves as they are drawn. -/
def curve : Easing → Rat → Rat
  | linear, t => t
  | easeIn, t => t ^ 2
  | easeOut, t => 1 - (1 - t) ^ 2
  | easeInOut, t => if t < 1 / 2 then 2 * t ^ 2 else 1 - 2 * (1 - t) ^ 2

/-- A curve that goes from 0 at 0 to 1 at 1 and never back. -/
structure IsProgress (curve : Rat → Rat) : Prop where
  zero : curve 0 = 0
  one : curve 1 = 1
  monotone : MonotoneOn curve (Set.Icc 0 1)
  mapsTo : Set.MapsTo curve (Set.Icc 0 1) (Set.Icc 0 1)

lemma IsProgress.of_monotone {curve : Rat → Rat} (zero : curve 0 = 0) (one : curve 1 = 1)
    (monotone : MonotoneOn curve (Set.Icc 0 1)) : IsProgress curve := by
  refine ⟨zero, one, monotone, fun t ht => ⟨?_, ?_⟩⟩
  · calc (0 : Rat) = curve 0 := zero.symm
      _ ≤ curve t := monotone ⟨le_rfl, zero_le_one⟩ ht ht.1
  · calc curve t ≤ curve 1 := monotone ht ⟨zero_le_one, le_rfl⟩ ht.2
      _ = 1 := one

lemma clamp_of_mem (ht : t ∈ Set.Icc (0 : Rat) 1) : Scalar.clamp t (0.0 : Rat) 1.0 = t := by
  have hzero : ¬t < (0.0 : Rat) := by norm_num [ht.1]
  have hone : ¬(1.0 : Rat) < t := by norm_num [ht.2]
  exact (if_neg hzero).trans (if_neg hone)

/-! The curves -/

/-- The last curve as it is computed, and as it is drawn. -/
lemma curve_easeInOut (t : Rat) : easeInOut.curve t =
    if t < 1 / 2 then 2 * t * t else -1 + (4 - 2 * t) * t := by
  rw [curve]
  split <;> ring

lemma apply_eq_curve (e : Easing) (ht : t ∈ Set.Icc (0 : Rat) 1) : e.apply t = e.curve t := by
  cases e with
  | linear => exact clamp_of_mem ht
  | easeIn =>
    rw [apply, clamp_of_mem ht, curve, pow_two]
  | easeOut =>
    rw [apply, clamp_of_mem ht, curve]
    norm_num
    ring
  | easeInOut =>
    rw [apply, clamp_of_mem ht, curve_easeInOut]
    norm_num

lemma curve_mono_easeInOut (hs : 0 ≤ s) (ht : t ≤ 1) (h : s ≤ t) :
    easeInOut.curve s ≤ easeInOut.curve t := by
  rw [curve, curve]
  -- The two pieces meet at a half, and each is a square.
  rcases lt_or_ge t (1 / 2) with htlow | hthigh
  · rw [if_pos (h.trans_lt htlow), if_pos htlow]
    gcongr
  rw [if_neg hthigh.not_gt]
  have hrest : (1 - t) ^ 2 ≤ (1 / 2) ^ 2 := pow_le_pow_left₀ (by linarith) (by linarith) 2
  rcases lt_or_ge s (1 / 2) with hslow | hshigh
  · rw [if_pos hslow]
    have hpart : s ^ 2 ≤ (1 / 2) ^ 2 := pow_le_pow_left₀ hs hslow.le 2
    linarith
  · rw [if_neg hshigh.not_gt]
    have hless : (1 - t) ^ 2 ≤ (1 - s) ^ 2 := pow_le_pow_left₀ (by linarith) (by linarith) 2
    linarith

lemma monotoneOn_curve (e : Easing) : MonotoneOn e.curve (Set.Icc 0 1) := by
  intro s hs t ht h
  cases e with
  | linear => exact h
  | easeIn => exact pow_le_pow_left₀ hs.1 h 2
  | easeOut =>
    have hless : (1 - t) ^ 2 ≤ (1 - s) ^ 2 :=
      pow_le_pow_left₀ (by linarith [ht.2]) (by linarith) 2
    exact sub_le_sub_left hless 1
  | easeInOut => exact curve_mono_easeInOut hs.1 ht.2 h

lemma isProgress_apply (e : Easing) : IsProgress e.apply := by
  have hzero : (0 : Rat) ∈ Set.Icc (0 : Rat) 1 := ⟨le_rfl, zero_le_one⟩
  have hone : (1 : Rat) ∈ Set.Icc (0 : Rat) 1 := ⟨zero_le_one, le_rfl⟩
  refine .of_monotone ?_ ?_ (MonotoneOn.congr e.monotoneOn_curve fun t ht =>
    (e.apply_eq_curve ht).symm)
  · rw [e.apply_eq_curve hzero]
    cases e <;> norm_num [curve]
  · rw [e.apply_eq_curve hone]
    cases e <;> norm_num [curve]

end Easing

/-! Ways -/

lemma way_mem_uIcc {t : Rat} (ht : t ∈ Set.Icc (0 : Rat) 1) (a b : Rat) :
    a + (b - a) * t ∈ Set.uIcc a b := by
  rcases le_total a b with h | h
  · have hway : 0 ≤ (b - a) * t := mul_nonneg (sub_nonneg.mpr h) ht.1
    have hrest : (b - a) * t ≤ b - a := mul_le_of_le_one_right (sub_nonneg.mpr h) ht.2
    exact Set.mem_uIcc_of_le (by linarith) (by linarith)
  · have hway : 0 ≤ (a - b) * t := mul_nonneg (sub_nonneg.mpr h) ht.1
    have hrest : (a - b) * t ≤ a - b := mul_le_of_le_one_right (sub_nonneg.mpr h) ht.2
    exact Set.mem_uIcc_of_ge (by linarith) (by linarith)

lemma blend_eq_way (a b t : Rat) : a * (1.0 - t) + b * t = a + (b - a) * t := by
  norm_num
  ring

namespace Transform

/-- Each field of the third transform lies between those of the first and the second. -/
structure IsBetween (a b c : Transform Rat) : Prop where
  positionX : c.position.x ∈ Set.uIcc a.position.x b.position.x
  positionY : c.position.y ∈ Set.uIcc a.position.y b.position.y
  scaleX : c.scale.x ∈ Set.uIcc a.scale.x b.scale.x
  scaleY : c.scale.y ∈ Set.uIcc a.scale.y b.scale.y
  rotation : c.rotation ∈ Set.uIcc a.rotation b.rotation
  opacity : c.opacity ∈ Set.uIcc a.opacity b.opacity

/-- Each field of the third transform lies the part `t` of the way from the first to the second. -/
structure IsPartway (t : Rat) (a b c : Transform Rat) : Prop where
  positionX : c.position.x = a.position.x + (b.position.x - a.position.x) * t
  positionY : c.position.y = a.position.y + (b.position.y - a.position.y) * t
  scaleX : c.scale.x = a.scale.x + (b.scale.x - a.scale.x) * t
  scaleY : c.scale.y = a.scale.y + (b.scale.y - a.scale.y) * t
  rotation : c.rotation = a.rotation + (b.rotation - a.rotation) * t
  opacity : c.opacity = a.opacity + (b.opacity - a.opacity) * t

lemma isPartway_lerp (t : Rat) (a b : Transform Rat) : IsPartway t a b (a.lerp b t) where
  positionX := blend_eq_way _ _ t
  positionY := blend_eq_way _ _ t
  scaleX := blend_eq_way _ _ t
  scaleY := blend_eq_way _ _ t
  rotation := rfl
  opacity := rfl

lemma IsPartway.eq_lerp {t : Rat} {a b c : Transform Rat} (h : IsPartway t a b c) :
    c = a.lerp b t := by
  obtain ⟨⟨px, py⟩, ⟨sx, sy⟩, r, o⟩ := c
  obtain ⟨hpx, hpy, hsx, hsy, hr, ho⟩ := h
  dsimp only at hpx hpy hsx hsy hr ho
  rw [hpx, hpy, hsx, hsy, hr, ho]
  simp only [lerp, Vec2.lerp, blend_eq_way]

lemma IsPartway.isBetween {t : Rat} {a b c : Transform Rat} (h : IsPartway t a b c)
    (ht : t ∈ Set.Icc (0 : Rat) 1) : IsBetween a b c where
  positionX := h.positionX ▸ way_mem_uIcc ht _ _
  positionY := h.positionY ▸ way_mem_uIcc ht _ _
  scaleX := h.scaleX ▸ way_mem_uIcc ht _ _
  scaleY := h.scaleY ▸ way_mem_uIcc ht _ _
  rotation := h.rotation ▸ way_mem_uIcc ht _ _
  opacity := h.opacity ▸ way_mem_uIcc ht _ _

end Transform

end Montage
