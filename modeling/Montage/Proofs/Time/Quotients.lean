import Mathlib.Data.Int.GCD
import Mathlib.Data.Rat.Floor
import Mathlib.Order.Bounds.Basic
import Mathlib.Tactic.FieldSimp
import Mathlib.Tactic.Ring
import Montage.Proofs.Timeline.Seconds

/-!
Frames and times, there and back.

Times and rates are quotients in lowest terms. A product takes out beforehand what the terms of the
one have in common with those of the other, so that what is multiplied is no greater than the terms
of the result. The time of a frame times the rate is the frame again, a whole number; so nothing on
the way back is greater than the frame, and it is exact wherever the time was. Other times lie
between two frames, and the quotient of the product is cut down to the frame before.
-/

namespace Montage

namespace RationalTime

open Fault (word)

variable {a b t u : RationalTime} {n d g : Int}

/-- In lowest terms, with a positive denominator. -/
structure IsReduced (t : RationalTime) : Prop where
  denom : 0 < t.denom
  coprime : Int.gcd t.numer t.denom = 1

lemma word_eq_ok {m : Int} (h : word n = .ok m) :
    m = n ∧ -9223372036854775808 ≤ n ∧ n ≤ 9223372036854775807 := by
  unfold word at h
  split at h
  · next hin =>
    cases h
    exact ⟨rfl, hin⟩
  · cases h

lemma ofTerms_eq (n d : Int) : ofTerms n d =
    if d = 0 then .error .zeroDenominator
    else if n = 0 then .ok zero
    else if n = d then .ok ⟨1, 1⟩
    else gcd n d >>= fun g =>
      if d.tdiv g < 0 then word (-n.tdiv g) >>= fun x => word (-d.tdiv g) >>= fun y => .ok ⟨x, y⟩
      else .ok ⟨n.tdiv g, d.tdiv g⟩ := by
  unfold ofTerms
  split_ifs <;> rfl

/-- What two numbers have in common goes out of both of them. -/
lemma exists_of_gcd (h : gcd n d = .ok g) (hne : n ≠ 0 ∨ d ≠ 0) :
    0 < g ∧ n = g * n.tdiv g ∧ d = g * d.tdiv g ∧ Int.gcd (n.tdiv g) (d.tdiv g) = 1 := by
  obtain ⟨hg, -⟩ := word_eq_ok h
  have hpos : 0 < g := by
    rw [hg]
    exact_mod_cast Int.gcd_pos_iff.mpr hne
  have hn : n = g * n.tdiv g := (Int.mul_tdiv_cancel' (hg ▸ Int.gcd_dvd_left n d)).symm
  have hd' : d = g * d.tdiv g := (Int.mul_tdiv_cancel' (hg ▸ Int.gcd_dvd_right n d)).symm
  refine ⟨hpos, hn, hd', ?_⟩
  have hmul : g.natAbs * Int.gcd (n.tdiv g) (d.tdiv g) = g.natAbs * 1 := by
    rw [← Int.gcd_mul_left, ← hn, ← hd']
    omega
  exact Nat.eq_of_mul_eq_mul_left (by omega) hmul

/-- **Lowest terms:** the two numbers are those of the quotient, times what they have in common. -/
lemma isReduced_of_ofTerms (h : ofTerms n d = .ok t) :
    t.IsReduced ∧ ∃ k, k ≠ 0 ∧ n = k * t.numer ∧ d = k * t.denom := by
  rw [ofTerms_eq] at h
  split_ifs at h with hd hn hnd
  · cases h
    exact ⟨⟨by decide, by decide⟩, d, hd, by simp [zero, hn], by simp [zero]⟩
  · cases h
    exact ⟨⟨by decide, by decide⟩, d, hd, by simp [hnd], by simp⟩
  · obtain ⟨g, hg, h⟩ := bind_eq_ok.mp h
    obtain ⟨hpos, hn', hd', hcoprime⟩ := exists_of_gcd hg (.inr hd)
    split at h
    · next hneg =>
      obtain ⟨x, hx, h⟩ := bind_eq_ok.mp h
      obtain ⟨y, hy, h⟩ := bind_eq_ok.mp h
      cases h
      obtain ⟨rfl, -⟩ := word_eq_ok hx
      obtain ⟨rfl, -⟩ := word_eq_ok hy
      refine ⟨⟨?_, ?_⟩, -g, by omega, ?_, ?_⟩
      · show 0 < -d.tdiv g
        omega
      · simpa [Int.gcd_neg, Int.neg_gcd] using hcoprime
      · simpa using hn'
      · simpa using hd'
    · next hnonneg =>
      cases h
      have hne : d.tdiv g ≠ 0 := fun hzero => hd (by rw [hd', hzero, mul_zero])
      refine ⟨⟨?_, hcoprime⟩, g, hpos.ne', hn', hd'⟩
      show 0 < d.tdiv g
      omega

lemma toSeconds_eq (t : RationalTime) : (t.toSeconds : Rat) = t.numer / t.denom := rfl

lemma toSeconds_of_ofTerms (h : ofTerms n d = .ok t) : (t.toSeconds : Rat) = n / d := by
  obtain ⟨-, k, hk, rfl, rfl⟩ := isReduced_of_ofTerms h
  rw [toSeconds_eq, Int.cast_mul, Int.cast_mul, mul_div_mul_left _ _ (by exact_mod_cast hk)]

lemma ofTerms_one (n : Int) : ofTerms n 1 = .ok ⟨n, 1⟩ := by
  have hgcd : gcd n 1 = .ok 1 := by
    rw [gcd, Int.gcd_one_right]
    rfl
  rw [ofTerms_eq, if_neg one_ne_zero, hgcd]
  split_ifs with hzero hone
  · rw [hzero]
    rfl
  · rw [hone]
  · simp [bind, Except.bind]

lemma mul_eq (a b : RationalTime) : a.mul b =
    gcd a.numer b.denom >>= fun g => gcd a.denom b.numer >>= fun h =>
      word (a.numer.tdiv g * b.numer.tdiv h) >>= fun n =>
        word (a.denom.tdiv h * b.denom.tdiv g) >>= fun d => ofTerms n d := rfl

/-- The product of two quotients, in lowest terms. -/
lemma isReduced_of_mul (ha : 0 < a.denom) (hb : 0 < b.denom) (h : a.mul b = .ok t) :
    t.IsReduced ∧ (t.toSeconds : Rat) = a.toSeconds * b.toSeconds ∧
      t.numer ≤ 9223372036854775808 := by
  rw [mul_eq] at h
  obtain ⟨g, hg, h⟩ := bind_eq_ok.mp h
  obtain ⟨g', hg', h⟩ := bind_eq_ok.mp h
  obtain ⟨n, hn, h⟩ := bind_eq_ok.mp h
  obtain ⟨d, hd, h⟩ := bind_eq_ok.mp h
  obtain ⟨rfl, hlo, hhi⟩ := word_eq_ok hn
  obtain ⟨rfl, -⟩ := word_eq_ok hd
  obtain ⟨-, han, hbd, -⟩ := exists_of_gcd hg (.inr hb.ne')
  obtain ⟨-, had, hbn, -⟩ := exists_of_gcd hg' (.inl ha.ne')
  obtain ⟨hreduced, k, hk, hn, hd⟩ := isReduced_of_ofTerms h
  have hcross : t.numer * (a.denom * b.denom) = a.numer * b.numer * t.denom := by
    refine mul_left_cancel₀ hk ?_
    calc k * (t.numer * (a.denom * b.denom))
        = k * t.numer * (a.denom * b.denom) := by ring
      _ = a.numer.tdiv g * b.numer.tdiv g' *
            (g' * a.denom.tdiv g' * (g * b.denom.tdiv g)) := by rw [← hn, ← had, ← hbd]
      _ = g * a.numer.tdiv g * (g' * b.numer.tdiv g') *
            (a.denom.tdiv g' * b.denom.tdiv g) := by ring
      _ = a.numer * b.numer * (k * t.denom) := by rw [← han, ← hbn, hd]
      _ = k * (a.numer * b.numer * t.denom) := by ring
  refine ⟨hreduced, ?_, ?_⟩
  · rw [toSeconds_eq, toSeconds_eq, toSeconds_eq, div_mul_div_comm, div_eq_div_iff]
    · exact_mod_cast hcross
    · exact_mod_cast hreduced.denom.ne'
    · exact_mod_cast (mul_pos ha hb).ne'
  · have habs : t.numer.natAbs ≤ (a.numer.tdiv g * b.numer.tdiv g').natAbs := by
      rw [hn, Int.natAbs_mul]
      exact Nat.le_mul_of_pos_left _ (Int.natAbs_pos.mpr hk)
    omega

/-- **Nothing is too great on the way** to a product that is a whole number. -/
lemma mul_eq_whole {f : Int} (ha : a.IsReduced) (hb : b.IsReduced) (hf : word f = .ok f)
    (haword : a.denom ≤ 9223372036854775807) (hbword : b.denom ≤ 9223372036854775807)
    (hwhole : a.numer * b.numer = f * (a.denom * b.denom)) : a.mul b = .ok ⟨f, 1⟩ := by
  have hword : ∀ {x : Int}, 0 < x → x ≤ 9223372036854775807 → word x = .ok x := fun hx hx' =>
    word_of_mem (by omega) hx'
  -- The lower term of each divides the upper term of the other.
  have hab : a.denom ∣ b.numer := by
    refine Int.dvd_of_dvd_mul_right_of_gcd_one ?_ (Int.gcd_comm _ _ ▸ ha.coprime)
    exact ⟨f * b.denom, by rw [hwhole]; ring⟩
  have hba : b.denom ∣ a.numer := by
    refine Int.dvd_of_dvd_mul_left_of_gcd_one ?_ (Int.gcd_comm _ _ ▸ hb.coprime)
    exact ⟨f * a.denom, by rw [hwhole]; ring⟩
  obtain ⟨x, hx⟩ := hba
  obtain ⟨y, hy⟩ := hab
  have hxy : x * y = f := by
    refine mul_right_cancel₀ (mul_pos ha.denom hb.denom).ne' ?_
    rw [← hwhole, hx, hy]
    ring
  have hg : gcd a.numer b.denom = .ok b.denom := by
    rw [gcd, hx, Int.gcd_mul_right_left, Int.natAbs_of_nonneg hb.denom.le]
    exact hword hb.denom hbword
  have hg' : gcd a.denom b.numer = .ok a.denom := by
    rw [gcd, hy, Int.gcd_mul_right_right, Int.natAbs_of_nonneg ha.denom.le]
    exact hword ha.denom haword
  have hn : word (a.numer.tdiv b.denom * b.numer.tdiv a.denom) = .ok f := by
    rw [hx, hy, Int.mul_tdiv_cancel_left _ hb.denom.ne', Int.mul_tdiv_cancel_left _ ha.denom.ne',
      hxy, hf]
  have hd : word (a.denom.tdiv a.denom * b.denom.tdiv b.denom) = .ok 1 := by
    rw [Int.tdiv_self ha.denom.ne', Int.tdiv_self hb.denom.ne']
    rfl
  simp only [mul_eq, hg, hg', hn, hd, bind, Except.bind, ofTerms_one]

end RationalTime

namespace FrameRate

variable {r : FrameRate} {t : RationalTime} {f : Frame}

lemma frameAt_eq_ok : r.frameAt t = .ok f ↔ ∃ q c,
    RationalTime.ofTerms r.numerator.toNat r.denominator.toNat = .ok q ∧ t.mul q = .ok c ∧
      UInt64.ofNat (c.numer.tdiv c.denom).toNat = f := by
  constructor
  · intro h
    obtain ⟨q, hq, h⟩ := bind_eq_ok.mp h
    obtain ⟨c, hc, h⟩ := bind_eq_ok.mp h
    cases h
    exact ⟨q, c, hq, hc, rfl⟩
  · rintro ⟨q, c, hq, hc, rfl⟩
    rw [frameAt, hq]
    show (t.mul q >>= _) = _
    rw [hc]
    rfl

/-- A frame is not after the one of a time just when it starts by then. -/
lemma le_frameAt_iff (ht : 0 < t.denom) (hstart : 0 ≤ (t.toSeconds : Rat))
    (h : r.frameAt t = .ok f) (k : Nat) : k ≤ f.toNat ↔
      (k : Rat) * r.denominator.toNat ≤ t.toSeconds * r.numerator.toNat := by
  obtain ⟨q, c, hq, hc, rfl⟩ := frameAt_eq_ok.mp h
  obtain ⟨hqreduced, l, hl, -, hden⟩ := RationalTime.isReduced_of_ofTerms hq
  obtain ⟨hcreduced, hproduct, hsmall⟩ := RationalTime.isReduced_of_mul ht hqreduced.denom hc
  have hdenpos : (0 : Rat) < r.denominator.toNat := by
    have hne : (r.denominator.toNat : Int) ≠ 0 := hden ▸ mul_ne_zero hl hqreduced.denom.ne'
    exact_mod_cast Nat.pos_of_ne_zero (by exact_mod_cast hne)
  have hcpos : (0 : Rat) < c.denom := by exact_mod_cast hcreduced.denom
  rw [RationalTime.toSeconds_of_ofTerms hq, Int.cast_natCast, Int.cast_natCast,
    ← mul_div_assoc] at hproduct
  have hnonneg : 0 ≤ c.numer := by
    have hc0 : (0 : Rat) ≤ c.numer / c.denom := by
      rw [← RationalTime.toSeconds_eq, hproduct]
      positivity
    rw [le_div_iff₀ hcpos, zero_mul] at hc0
    exact_mod_cast hc0
  have hquot : c.numer.tdiv c.denom = c.numer / c.denom := Int.tdiv_eq_ediv_of_nonneg hnonneg
  have hle : c.numer / c.denom ≤ c.numer := Int.ediv_le_self _ hnonneg
  have hge : 0 ≤ c.numer / c.denom := Int.ediv_nonneg hnonneg hcreduced.denom.le
  have hword : (UInt64.ofNat (c.numer / c.denom).toNat).toNat = (c.numer / c.denom).toNat :=
    UInt64.toNat_ofNat_of_lt' (by simp; omega)
  calc k ≤ (UInt64.ofNat (c.numer.tdiv c.denom).toNat).toNat
      ↔ (k : Int) ≤ c.numer / c.denom := by rw [hquot, hword]; omega
    _ ↔ (k : Int) * c.denom ≤ c.numer := Int.le_ediv_iff_mul_le hcreduced.denom
    _ ↔ (k : Rat) ≤ c.numer / c.denom := by rw [le_div_iff₀ hcpos]; exact_mod_cast Iff.rfl
    _ ↔ (k : Rat) * r.denominator.toNat ≤ t.toSeconds * r.numerator.toNat := by
      rw [← RationalTime.toSeconds_eq, hproduct, le_div_iff₀ hdenpos]

/-- **From a frame to its time and back** leads to the same frame. -/
lemma Reaches.exists_timeOf (hr : r.isValid = true) (h : r.Reaches f) :
    ∃ t, r.timeOf f = .ok t ∧
      (t.toSeconds : Rat) = f.toNat * r.denominator.toNat / r.numerator.toNat ∧
      r.frameAt t = .ok f := by
  obtain ⟨hnum, hden⟩ := pos_of_isValid hr
  have hnumlt := r.numerator.toNat_lt
  have hdenlt := r.denominator.toNat_lt
  have hfle : f.toNat ≤ f.toNat * r.denominator.toNat := Nat.le_mul_of_pos_right _ hden
  unfold Reaches at h
  have htime : r.timeOf f =
      RationalTime.ofTerms ((f.toNat * r.denominator.toNat : Nat) : Int) r.numerator.toNat := by
    refine timeOf_of_word ?_ (by omega) (by omega)
    rw [if_pos (by omega)]
    push_cast
    rfl
  obtain ⟨t, ht, -⟩ := RationalTime.ofTerms_of_pos
    ((f.toNat * r.denominator.toNat : Nat) : Int) (d := r.numerator.toNat) (by omega) (by omega)
  obtain ⟨q, hq, -⟩ := RationalTime.ofTerms_of_pos
    r.numerator.toNat (d := r.denominator.toNat) (by omega) (by omega)
  obtain ⟨htreduced, k, hk, hkn, hkd⟩ := RationalTime.isReduced_of_ofTerms ht
  obtain ⟨hqreduced, l, hl, hln, hld⟩ := RationalTime.isReduced_of_ofTerms hq
  have hle : t.denom ≤ r.numerator.toNat := Int.le_of_dvd (by omega) ⟨k, by rw [hkd, mul_comm]⟩
  have hle' : q.denom ≤ r.denominator.toNat := Int.le_of_dvd (by omega) ⟨l, by rw [hld, mul_comm]⟩
  have hwhole : t.numer * q.numer = f.toNat * (t.denom * q.denom) := by
    refine mul_left_cancel₀ (mul_ne_zero hk hl) ?_
    calc k * l * (t.numer * q.numer) = k * t.numer * (l * q.numer) := by ring
      _ = f.toNat * (l * q.denom) * (k * t.denom) := by
        rw [← hkn, ← hln, ← hld, ← hkd]
        push_cast
        rfl
      _ = k * l * (f.toNat * (t.denom * q.denom)) := by ring
  have hproduct := RationalTime.mul_eq_whole htreduced hqreduced
    (RationalTime.word_of_mem (by omega) (by omega)) (by omega) (by omega) hwhole
  refine ⟨t, htime.trans ht, ?_, frameAt_eq_ok.mpr ⟨q, _, hq, hproduct, ?_⟩⟩
  · rw [RationalTime.toSeconds_of_ofTerms ht]
    push_cast
    rfl
  · rw [Int.tdiv_one, Int.toNat_natCast, UInt64.ofNat_toNat]

/-- **Frames and times.** A frame whose time can be worked out is the frame of its time, which is
exact; nothing on the way there and back is too great for a word. At any rate, the frame of a time
that is not before the start is the last one that starts by then, and so a later time has no earlier
frame. -/
theorem frameAt_timeOf (r : FrameRate) :
    (r.isValid = true → ∀ f : Frame, f.toNat * r.denominator.toNat ≤ 9223372036854775807 →
      ∃ t, r.timeOf f = .ok t ∧
        (t.toSeconds : Rat) = f.toNat * r.denominator.toNat / r.numerator.toNat ∧
        r.frameAt t = .ok f) ∧
    (∀ (n d : Int) (t : RationalTime) (f : Frame), RationalTime.ofTerms n d = .ok t →
      0 ≤ (t.toSeconds : Rat) → r.frameAt t = .ok f →
      IsGreatest {k : Nat | (k : Rat) * r.denominator.toNat ≤ t.toSeconds * r.numerator.toNat}
        f.toNat ∧
      (r.numerator ≠ 0 → IsGreatest
        {k : Nat | (k : Rat) * r.denominator.toNat / r.numerator.toNat ≤ t.toSeconds} f.toNat)) ∧
    ∀ (n d n' d' : Int) (t t' : RationalTime) (f f' : Frame), RationalTime.ofTerms n d = .ok t →
      RationalTime.ofTerms n' d' = .ok t' → 0 ≤ (t.toSeconds : Rat) →
      (t.toSeconds : Rat) ≤ t'.toSeconds → r.frameAt t = .ok f → r.frameAt t' = .ok f' →
      f ≤ f' := by
  refine ⟨fun hr f hf => Reaches.exists_timeOf hr (Nat.lt_succ_of_le hf), ?_, ?_⟩
  · intro n d t f ht hstart hframe
    have hle := le_frameAt_iff (RationalTime.isReduced_of_ofTerms ht).1.denom hstart hframe
    have hgreatest : IsGreatest {k : Nat | (k : Rat) * r.denominator.toNat ≤
        t.toSeconds * r.numerator.toNat} f.toNat :=
      ⟨(hle _).mp le_rfl, fun k hk => (hle k).mpr hk⟩
    refine ⟨hgreatest, fun hnum => ?_⟩
    have hpos : (0 : Rat) < r.numerator.toNat := by
      exact_mod_cast Nat.pos_of_ne_zero fun h => hnum (UInt32.toNat_inj.mp h)
    simpa only [div_le_iff₀ hpos] using hgreatest
  · intro n d n' d' t t' f f' ht ht' hstart hle hframe hframe'
    have hreduced := RationalTime.isReduced_of_ofTerms ht
    have hreduced' := RationalTime.isReduced_of_ofTerms ht'
    rw [UInt64.le_iff_toNat_le, le_frameAt_iff hreduced'.1.denom (hstart.trans hle) hframe']
    calc (f.toNat : Rat) * r.denominator.toNat
        ≤ t.toSeconds * r.numerator.toNat :=
          (le_frameAt_iff hreduced.1.denom hstart hframe _).mp le_rfl
      _ ≤ t'.toSeconds * r.numerator.toNat :=
          mul_le_mul_of_nonneg_right hle (Nat.cast_nonneg _)

/-- The last frame whose time can be told at 30000/1001 is the frame of its time. At ten seconds the
300th frame is shown, and it has not come by nine and a half. -/
theorem frameAt_timeOf_fps2997 :
    (∃ t, fps2997.timeOf 9214157878975800 = .ok t ∧ fps2997.frameAt t = .ok 9214157878975800) ∧
      IsGreatest {k : Nat | (k : Rat) * 1001 / 30000 ≤ 10} 299 ∧
      ∃ f, fps2997.frameAt ⟨19, 2⟩ = .ok f ∧ f ≤ 299 := by
  obtain ⟨hback, hgreatest, hmono⟩ := frameAt_timeOf fps2997
  have hten : RationalTime.ofTerms (-20) (-2) = .ok ⟨10, 1⟩ := rfl
  have hless : RationalTime.ofTerms 19 2 = .ok ⟨19, 2⟩ := rfl
  have hframe : fps2997.frameAt ⟨10, 1⟩ = .ok 299 := rfl
  have hframe' : fps2997.frameAt ⟨19, 2⟩ = .ok 284 := rfl
  have hseconds : ((⟨10, 1⟩ : RationalTime).toSeconds : Rat) = 10 := by
    rw [RationalTime.toSeconds_eq]
    norm_num
  have hseconds' : ((⟨19, 2⟩ : RationalTime).toSeconds : Rat) = 19 / 2 := by
    rw [RationalTime.toSeconds_eq]
    norm_num
  refine ⟨?_, ?_, 284, hframe', ?_⟩
  · obtain ⟨t, ht, -, hf⟩ := hback (by decide) 9214157878975800 (by decide)
    exact ⟨t, ht, hf⟩
  · have h := (hgreatest _ _ _ _ hten (by rw [hseconds]; norm_num) hframe).2 (by decide)
    rw [hseconds] at h
    exact_mod_cast h
  · exact hmono _ _ _ _ _ _ _ _ hless hten (by rw [hseconds']; norm_num)
      (by rw [hseconds, hseconds']; norm_num) hframe' hframe

end FrameRate

end Montage
