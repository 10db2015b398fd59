import Mathlib.Algebra.Order.Round
import Mathlib.Data.Rat.Floor
import Mathlib.RingTheory.Coprime.Lemmas
import Mathlib.Tactic.FieldSimp
import Mathlib.Tactic.Linarith
import Mathlib.Tactic.Ring
import Montage.Proofs.Frames
import Montage.Proofs.Time.Quotients

/-!
Frames and seconds, there and back.

The seconds at which a frame starts are exact, but on the way back they are first rounded to whole
microseconds, and then the frame is cut down to a whole number. A start that is rounded up, or not
at all, leads to its own frame, as half a microsecond is far less than a frame. A start that is
rounded down lies in the frame before.
-/

namespace Montage

namespace Rounding

/-- When ties go up, half of the lower number is added before the division. -/
lemma nearest_tieUp (num : Nat) {den : Nat} (h : 0 < den) :
    nearest num den (fun _ => true) = (2 * num + den) / (2 * den) := by
  obtain ⟨whole, hwhole⟩ : ∃ whole, whole = num / den := ⟨_, rfl⟩
  have hnum : num = den * whole + num % den := by rw [hwhole, Nat.div_add_mod]
  have hrest := Nat.mod_lt num h
  have hdouble : 2 * num + den = 2 * den * whole + (2 * (num % den) + den) := by
    conv_lhs => rw [hnum]
    ring
  rw [hdouble, Nat.mul_add_div (by omega)]
  simp only [nearest, ← hwhole, and_true]
  split
  · rw [Nat.div_eq_of_lt_le (k := 1) (by omega) (by omega)]
  · rw [Nat.div_eq_of_lt (by omega), Nat.add_zero]

lemma apply_halfAway_of_nonneg {x : Rat} (h : 0 ≤ x) :
    halfAway.apply x.num x.den = round x := by
  obtain ⟨num, hnum⟩ := Int.eq_ofNat_of_zero_le (Rat.num_nonneg.mpr h)
  obtain ⟨den, hden⟩ : ∃ den, den = x.den := ⟨_, rfl⟩
  have hpos : 0 < den := hden ▸ x.pos
  have hx : x = num / den := by rw [← Rat.num_div_den x, hnum, hden, Int.cast_natCast]
  have hsum : x + 1 / 2 = ((2 * num + den : Nat) : Rat) / (2 * den : Nat) := by
    have hne : (den : Rat) ≠ 0 := by exact_mod_cast hpos.ne'
    rw [hx]
    push_cast
    field_simp
  rw [apply, if_neg (not_lt.mpr (Rat.num_nonneg.mpr h)), round_eq, hsum,
    Rat.floor_natCast_div_natCast, hnum, ← hden]
  exact congrArg _ (nearest_tieUp num hpos)

lemma apply_towardZero_one (n : Int) : towardZero.apply n 1 = n := by
  simp only [apply, size, Nat.div_one]
  split <;> omega

end Rounding

namespace RationalTime

open Fault (word)

variable {a b t : RationalTime} {n d : Int}

lemma toSeconds_nonneg_iff (h : 0 < t.denom) : 0 ≤ (t.toSeconds : Rat) ↔ 0 ≤ t.numer := by
  rw [toSeconds_eq, le_div_iff₀ (by exact_mod_cast h), zero_mul, Int.cast_nonneg_iff]

lemma ofSeconds_of_nonneg {s : Rat} (h : 0 ≤ s)
    (hword : round (s * 1000000) ≤ 9223372036854775807) :
    ofSeconds s = ofTerms (round (s * 1000000)) 1000000 := by
  have hmicros : s * (1000000.0 : Rat) = s * 1000000 := by norm_num
  have hnonneg : 0 ≤ s * 1000000 := mul_nonneg h (by norm_num)
  have hround : 0 ≤ round (s * 1000000) := by
    rw [round_eq]
    exact Int.floor_nonneg.mpr (by linarith)
  have hwhole : Scalar.round (s * (1000000.0 : Rat)) = ((round (s * 1000000) : Int) : Rat) := by
    rw [hmicros, ← Rounding.apply_halfAway_of_nonneg hnonneg]
    rfl
  rw [ofSeconds, hwhole]
  show ofTerms (max _ (min _ (Rounding.towardZero.apply (Rat.num _) (Rat.den _)))) _ = _
  rw [Rat.num_intCast, Rat.den_intCast, Rounding.apply_towardZero_one]
  congr 1
  omega

lemma exists_gcd (hpos : 0 < d) (hword : d ≤ 9223372036854775807) : ∃ g, gcd n d = .ok g := by
  have hle : (Int.gcd n d : Int) ≤ d := Int.le_of_dvd hpos (Int.gcd_dvd_right n d)
  exact ⟨_, word_of_mem (by omega) (by omega)⟩

/-- What the terms of two quotients have in common crosswise, `g` and `h`, and what is left of
them. -/
structure Crossed (a b : RationalTime) (g h x y u v : Int) : Prop where
  gcd : gcd a.numer b.denom = .ok g
  gcd' : RationalTime.gcd a.denom b.numer = .ok h
  pos : 0 < g
  pos' : 0 < h
  numer : a.numer = g * x
  denom : a.denom = h * u
  numer' : b.numer = h * y
  denom' : b.denom = g * v
  coprime : Int.gcd x v = 1
  coprime' : Int.gcd y u = 1

lemma exists_crossed (ha : 0 < a.denom) (hb : 0 < b.denom) (haword : a.denom ≤ 9223372036854775807)
    (hbword : b.denom ≤ 9223372036854775807) : ∃ g h x y u v, Crossed a b g h x y u v := by
  obtain ⟨g, hg⟩ := exists_gcd (n := a.numer) hb hbword
  obtain ⟨h, hh⟩ := exists_gcd (n := b.numer) ha haword
  obtain ⟨hgpos, han, hbd, hcross⟩ := exists_of_gcd hg (.inr hb.ne')
  obtain ⟨hhpos, hbn, had, hcross'⟩ := exists_of_gcd hh (.inr ha.ne')
  exact ⟨g, h, _, _, _, _, hg, by rwa [gcd, Int.gcd_comm], hgpos, hhpos, han, had, hbn, hbd, hcross,
    hcross'⟩

namespace Crossed

variable {g h x y u v : Int}

lemma mul_eq (c : Crossed a b g h x y u v) :
    a.mul b = word (x * y) >>= fun n => word (u * v) >>= fun d => ofTerms n d := by
  rw [RationalTime.mul_eq, c.gcd, c.gcd']
  show (word (a.numer.tdiv g * b.numer.tdiv h) >>= fun n =>
    word (a.denom.tdiv h * b.denom.tdiv g) >>= fun d => ofTerms n d) = _
  rw [c.numer, c.denom, c.numer', c.denom', Int.mul_tdiv_cancel_left _ c.pos.ne',
    Int.mul_tdiv_cancel_left _ c.pos'.ne', Int.mul_tdiv_cancel_left _ c.pos'.ne',
    Int.mul_tdiv_cancel_left _ c.pos.ne']

lemma left (c : Crossed a b g h x y u v) (ha : 0 < a.denom) (hb : 0 < b.denom) :
    (0 < u ∧ u ≤ a.denom) ∧ 0 < v ∧ v ≤ b.denom := by
  have hu : 0 < u := pos_of_mul_pos_right (c.denom ▸ ha) c.pos'.le
  have hv : 0 < v := pos_of_mul_pos_right (c.denom' ▸ hb) c.pos.le
  exact ⟨⟨hu, c.denom ▸ le_mul_of_one_le_left hu.le c.pos'⟩,
    hv, c.denom' ▸ le_mul_of_one_le_left hv.le c.pos⟩

/-- Of quotients in lowest terms, nothing is left to reduce in the product. -/
lemma isCoprime (c : Crossed a b g h x y u v) (ha : a.IsReduced) (hb : b.IsReduced) :
    IsCoprime (x * y) (u * v) := by
  have hxu : IsCoprime (g * x) (h * u) := by
    rw [← c.numer, ← c.denom]
    exact Int.isCoprime_iff_gcd_eq_one.mpr ha.coprime
  have hyv : IsCoprime (h * y) (g * v) := by
    rw [← c.numer', ← c.denom']
    exact Int.isCoprime_iff_gcd_eq_one.mpr hb.coprime
  have hxv := Int.isCoprime_iff_gcd_eq_one.mpr c.coprime
  have hyu := Int.isCoprime_iff_gcd_eq_one.mpr c.coprime'
  exact (hxu.of_mul_left_right.of_mul_right_right.mul_left hyu).mul_right
    (hxv.mul_left hyv.of_mul_left_right.of_mul_right_right)

lemma toSeconds_mul (c : Crossed a b g h x y u v) :
    (a.toSeconds * b.toSeconds : Rat) = (x * y : Int) / (u * v : Int) := by
  have hg : (g : Rat) ≠ 0 := by exact_mod_cast c.pos.ne'
  have hh : (h : Rat) ≠ 0 := by exact_mod_cast c.pos'.ne'
  rw [toSeconds_eq, toSeconds_eq, c.numer, c.denom, c.numer', c.denom']
  push_cast
  field_simp

end Crossed

/-- The upper term of a product is that of the exact product in lowest terms, which may be too great
for a word. -/
lemma mul_of_isReduced (ha : a.IsReduced) (hb : b.IsReduced)
    (hden : a.denom * b.denom ≤ 9223372036854775807) :
    ∃ d, 0 < d ∧ d ≤ 9223372036854775807 ∧
      a.mul b = word (a.toSeconds * b.toSeconds : Rat).num >>= fun n => ofTerms n d := by
  have hale : a.denom ≤ a.denom * b.denom := le_mul_of_one_le_right ha.denom.le hb.denom
  have hble : b.denom ≤ a.denom * b.denom := le_mul_of_one_le_left hb.denom.le ha.denom
  obtain ⟨g, h, x, y, u, v, hcrossed⟩ :=
    exists_crossed ha.denom hb.denom (hale.trans hden) (hble.trans hden)
  obtain ⟨⟨hu, hule⟩, hv, hvle⟩ := hcrossed.left ha.denom hb.denom
  have hpos := mul_pos hu hv
  have hle : u * v ≤ 9223372036854775807 := (mul_le_mul hule hvle hv.le ha.denom.le).trans hden
  have hnum : (a.toSeconds * b.toSeconds : Rat).num = x * y := by
    rw [hcrossed.toSeconds_mul]
    exact Rat.num_div_eq_of_coprime hpos
      (Int.isCoprime_iff_gcd_eq_one.mp (hcrossed.isCoprime ha hb))
  refine ⟨u * v, hpos, hle, ?_⟩
  rw [hcrossed.mul_eq, hnum, word_of_mem (by omega) hle]
  rfl

end RationalTime

namespace FrameRate

variable {r : FrameRate} {f g : Frame} {t : RationalTime}

/-- The frame of a time is told just when the upper term of the exact quotient is a word. -/
lemma frameAt_of_isReduced (hr : r.isValid = true) (ht : t.IsReduced) (hnumer : 0 ≤ t.numer)
    (hdenom : t.denom ≤ 1000000) {n : Int}
    (hn : (t.toSeconds * (r.numerator.toNat / r.denominator.toNat) : Rat).num = n) :
    (n ≤ 9223372036854775807 → ∃ f, r.frameAt t = .ok f) ∧
      (9223372036854775807 < n → r.frameAt t = .error .overflow) := by
  obtain ⟨hnum, hden⟩ := pos_of_isValid hr
  have hdenlt := r.denominator.toNat_lt
  obtain ⟨q, hq, -⟩ := RationalTime.ofTerms_of_pos
    r.numerator.toNat (d := r.denominator.toNat) (by omega) (by omega)
  obtain ⟨hqreduced, l, hl, -, hld⟩ := RationalTime.isReduced_of_ofTerms hq
  have hqle : q.denom ≤ r.denominator.toNat :=
    Int.le_of_dvd (by omega) ⟨l, by rw [hld, mul_comm]⟩
  have hproduct : t.denom * q.denom ≤ 9223372036854775807 :=
    (mul_le_mul hdenom hqle hqreduced.denom.le (by omega)).trans (by omega)
  have hqvalue : (q.toSeconds : Rat) = r.numerator.toNat / r.denominator.toNat := by
    rw [RationalTime.toSeconds_of_ofTerms hq, Int.cast_natCast, Int.cast_natCast]
  have hnonneg : 0 ≤ n := by
    rw [← hn, Rat.num_nonneg]
    exact mul_nonneg ((RationalTime.toSeconds_nonneg_iff ht.denom).mpr hnumer) (by positivity)
  obtain ⟨d, hdpos, hdword, hmul⟩ := RationalTime.mul_of_isReduced ht hqreduced hproduct
  rw [hqvalue, hn] at hmul
  have hframe : r.frameAt t = (Fault.word n >>= fun n => RationalTime.ofTerms n d) >>= fun c =>
      .ok (UInt64.ofNat (c.numer.tdiv c.denom).toNat) := by
    rw [← hmul, frameAt, hq]
    rfl
  constructor
  · intro hle
    obtain ⟨c, hc, -⟩ := RationalTime.ofTerms_of_pos n hdpos hdword
    refine ⟨UInt64.ofNat (c.numer.tdiv c.denom).toNat, ?_⟩
    rw [hframe, RationalTime.word_of_mem (by omega) hle]
    show (RationalTime.ofTerms n d >>= _) = _
    rw [hc]
    rfl
  · intro hlt
    have hword : Fault.word n = .error .overflow := if_neg (by omega)
    rw [hframe, hword]
    rfl

/-! Starts of frames -/

/-- The seconds at which a frame starts. -/
def startOf (r : FrameRate) (f : Frame) : Rat :=
  f.toNat * r.denominator.toNat / r.numerator.toNat

/-- The whole microsecond nearest to the start of a frame, a half going up. -/
def startMicros (r : FrameRate) (f : Frame) : Int := round (r.startOf f * 1000000)

lemma startOf_nonneg (r : FrameRate) (f : Frame) : 0 ≤ r.startOf f := by
  unfold startOf
  positivity

lemma startMicros_nonneg (r : FrameRate) (f : Frame) : 0 ≤ r.startMicros f := by
  have hstart := mul_nonneg (r.startOf_nonneg f) (by norm_num : (0 : Rat) ≤ 1000000)
  rw [startMicros, round_eq]
  exact Int.floor_nonneg.mpr (by linarith)

lemma abs_startMicros_sub_le (r : FrameRate) (f : Frame) :
    |(r.startMicros f : Rat) - r.startOf f * 1000000| ≤ 1 / 2 := by
  rw [abs_sub_comm]
  exact abs_sub_round _

lemma secondsOf_eq_startOf (hr : r.isValid = true) (hf : r.Reaches f) :
    r.secondsOf f = .ok (r.startOf f) := by
  obtain ⟨t, ht, hstart, -⟩ := Reaches.exists_timeOf hr hf
  rw [secondsOf, ht]
  exact congrArg Except.ok hstart

lemma startOf_mul (hr : r.isValid = true) (f : Frame) :
    r.startOf f * r.numerator.toNat = f.toNat * r.denominator.toNat := by
  have hnum : (r.numerator.toNat : Rat) ≠ 0 := by exact_mod_cast (pos_of_isValid hr).1.ne'
  exact div_mul_cancel₀ _ hnum

lemma le_micros_mul_iff (hr : r.isValid = true) (f : Frame) :
    (f.toNat : Rat) * r.denominator.toNat ≤ r.startMicros f / 1000000 * r.numerator.toNat ↔
      r.startOf f * 1000000 ≤ r.startMicros f := by
  have hnum : (0 : Rat) < r.numerator.toNat := by exact_mod_cast (pos_of_isValid hr).1
  rw [← startOf_mul hr f, mul_le_mul_iff_left₀ hnum, le_div_iff₀ (by norm_num)]

lemma abs_micros_mul_sub_lt (hr : r.isValid = true)
    (slow : r.numerator.toNat ≤ 1000 * r.denominator.toNat) (f : Frame) :
    |(r.startMicros f : Rat) / 1000000 * r.numerator.toNat - f.toNat * r.denominator.toNat| <
      (r.denominator.toNat : Rat) := by
  have hden : (0 : Rat) < r.denominator.toNat := by exact_mod_cast (pos_of_isValid hr).2
  have hslow : (r.numerator.toNat : Rat) ≤ 1000 * r.denominator.toNat := by exact_mod_cast slow
  have hfactor : (0 : Rat) ≤ r.numerator.toNat / 1000000 := by positivity
  calc |(r.startMicros f : Rat) / 1000000 * r.numerator.toNat - f.toNat * r.denominator.toNat|
      = |((r.startMicros f : Rat) - r.startOf f * 1000000) * (r.numerator.toNat / 1000000)| := by
        rw [← startOf_mul hr f]
        congr 1
        ring
    _ = |(r.startMicros f : Rat) - r.startOf f * 1000000| * (r.numerator.toNat / 1000000) := by
        rw [abs_mul, abs_of_nonneg hfactor]
    _ ≤ 1 / 2 * (1000 * r.denominator.toNat / 1000000) := by
        refine mul_le_mul (r.abs_startMicros_sub_le f) ?_ hfactor (by norm_num)
        exact div_le_div_of_nonneg_right hslow (by norm_num)
    _ < r.denominator.toNat := by linarith

/-- Rounding a start down leads to the frame before, and no further. -/
lemma eq_of_frameAt (hr : r.isValid = true)
    (slow : r.numerator.toNat ≤ 1000 * r.denominator.toNat) (ht : 0 < t.denom)
    (htime : (t.toSeconds : Rat) = r.startMicros f / 1000000) (h : r.frameAt t = .ok g) :
    g = if r.startOf f * 1000000 ≤ r.startMicros f then f else f - 1 := by
  have hstart : (0 : Rat) ≤ t.toSeconds := by
    rw [htime]
    exact div_nonneg (by exact_mod_cast r.startMicros_nonneg f) (by norm_num)
  have hle := le_frameAt_iff ht hstart h
  rw [htime] at hle
  obtain ⟨hlow, hhigh⟩ := abs_lt.mp (abs_micros_mul_sub_lt hr slow f)
  split
  · next hup =>
    have hreach : f.toNat ≤ g.toNat := (hle _).mpr ((le_micros_mul_iff hr f).mpr hup)
    have hshort : ¬f.toNat + 1 ≤ g.toNat := fun hk => by
      have := (hle _).mp hk
      push_cast at this
      linarith
    exact UInt64.toNat_inj.mp (by omega)
  · next hdown =>
    have hshort : ¬f.toNat ≤ g.toNat := fun hk =>
      hdown ((le_micros_mul_iff hr f).mp ((hle _).mp hk))
    have hpos : 1 ≤ f.toNat := by omega
    have hreach : f.toNat - 1 ≤ g.toNat := (hle _).mpr (by
      push_cast [hpos]
      linarith)
    have hprevious : (f - 1).toNat = f.toNat - 1 := Frame.toNat_sub hpos
    exact UInt64.toNat_inj.mp (by omega)

/-- **From a frame to its seconds and back,** at up to 1000 frames per second. The seconds are those
of the start of the frame. The way back leads to the frame itself if its start is not rounded down
to a whole microsecond, and to the frame before if it is; it only fails where the number of frames,
as an exact quotient, has an upper term that is no word. -/
theorem frameAtSeconds_startOf (r : FrameRate) (f : Frame) (valid : r.isValid = true)
    (slow : r.numerator.toNat ≤ 1000 * r.denominator.toNat)
    (product : f.toNat * r.denominator.toNat ≤ 9223372036854775807)
    (micros : r.startMicros f ≤ 9223372036854775807) :
    r.secondsOf f = .ok (r.startOf f) ∧
      r.frameAtSeconds (r.startOf f) =
        if ((r.startMicros f / 1000000 : Rat) * (r.numerator.toNat / r.denominator.toNat)).num ≤
            9223372036854775807 then
          .ok (if r.startOf f * 1000000 ≤ r.startMicros f then f else f - 1)
        else .error .overflow := by
  refine ⟨secondsOf_eq_startOf valid (Nat.lt_succ_of_le product), ?_⟩
  obtain ⟨t, ht, hdenom, -⟩ := RationalTime.ofTerms_of_pos (r.startMicros f) (d := 1000000)
    (by decide) (by decide)
  have htime : (t.toSeconds : Rat) = r.startMicros f / 1000000 :=
    RationalTime.toSeconds_of_ofTerms ht
  obtain ⟨hreduced, k, hk, -, hkd⟩ := RationalTime.isReduced_of_ofTerms ht
  have hnumer : 0 ≤ t.numer := by
    rw [← RationalTime.toSeconds_nonneg_iff hdenom, htime]
    exact div_nonneg (by exact_mod_cast r.startMicros_nonneg f) (by norm_num)
  have hdenomle : t.denom ≤ 1000000 := Int.le_of_dvd (by decide) ⟨k, by rw [hkd, mul_comm]⟩
  have hback : r.frameAtSeconds (r.startOf f) = r.frameAt t := by
    rw [frameAtSeconds, RationalTime.ofSeconds_of_nonneg (r.startOf_nonneg f) micros]
    show (RationalTime.ofTerms (r.startMicros f) 1000000 >>= r.frameAt) = _
    rw [ht]
    rfl
  obtain ⟨htold, hfault⟩ := frameAt_of_isReduced valid hreduced hnumer hdenomle rfl
  rw [htime] at htold hfault
  rw [hback]
  split
  · next hle =>
    obtain ⟨g, hg⟩ := htold hle
    rw [hg, eq_of_frameAt valid slow hdenom htime hg]
  · next hlt => exact hfault (not_le.mp hlt)

/-- At 30000/1001, the start of the first frame is rounded up, and that of the second one down. -/
theorem frameAtSeconds_startOf_fps2997 :
    fps2997.startMicros 1 = 33367 ∧ fps2997.frameAtSeconds (fps2997.startOf 1) = .ok 1 ∧
      fps2997.startMicros 2 = 66733 ∧ fps2997.frameAtSeconds (fps2997.startOf 2) = .ok 1 := by
  have hup : fps2997.startMicros 1 = 33367 := by decide +kernel
  have hdown : fps2997.startMicros 2 = 66733 := by decide +kernel
  refine ⟨hup, ?_, hdown, ?_⟩
  · rw [(frameAtSeconds_startOf fps2997 1 (by decide) (by decide) (by decide) (by omega)).2]
    decide +kernel
  · rw [(frameAtSeconds_startOf fps2997 2 (by decide) (by decide) (by decide) (by omega)).2]
    decide +kernel

/-- At 30 frames per second, the seconds at which frame 7 starts fall in frame 6. -/
theorem frameAtSeconds_before_startOf :
    (fps30.secondsOf 7 : Except Fault Rat) = .ok (7 / 30) ∧
      fps30.frameAtSeconds (7 / 30 : Rat) = .ok 6 ∧
      (fps30.secondsOf 7 >>= fun s : Float => fps30.frameAtSeconds s) = .ok 6 :=
  ⟨by decide +kernel, by decide +kernel, by decide +kernel⟩

end FrameRate

end Montage
