import Mathlib.Tactic.Common
import Montage.Frame

/-!
Frames as numbers: sums and differences that stay in range, and stretches of frames.
-/

namespace Montage

namespace Frame

variable {a b f k : Frame}

lemma toNat_add (h : a.toNat + k.toNat ≤ last.toNat) : (a + k).toNat = a.toNat + k.toNat := by
  rw [toNat_last] at h
  rw [UInt64.toNat_add]
  omega

lemma toNat_succ (h : f < last) : (f + 1).toNat = f.toNat + 1 :=
  toNat_add (UInt64.lt_iff_toNat_lt.mp h)

lemma toNat_sub (h : b.toNat ≤ a.toNat) : (a - b).toNat = a.toNat - b.toNat :=
  UInt64.toNat_sub_of_le a b (UInt64.le_iff_toNat_le.mpr h)

lemma add_le_add_iff (ha : a.toNat + k.toNat ≤ last.toNat) (hb : b.toNat + k.toNat ≤ last.toNat) :
    a + k ≤ b + k ↔ a ≤ b := by
  rw [UInt64.le_iff_toNat_le, UInt64.le_iff_toNat_le, toNat_add ha, toNat_add hb]
  omega

lemma add_sub_add (a b k : Frame) : a + k - (b + k) = a - b := by grind

lemma le_last (f : Frame) : f ≤ last := by
  rw [UInt64.le_iff_toNat_le, toNat_last]
  exact Nat.le_of_lt_succ f.toNat_lt

lemma lt_last (h : a < b) : a < last := UInt64.lt_of_lt_of_le h b.le_last

/-- What no step along a stretch changes is the same all along. -/
lemma eq_of_steps {β : Type} {value : Frame → β} {first final : Frame}
    (steps : ∀ f, first ≤ f → f < final → value f = value (f + 1)) (f : Frame) (hfirst : first ≤ f)
    (hfinal : f ≤ final) : value f = value first := by
  obtain ⟨n, hn⟩ := Nat.exists_eq_add_of_le (UInt64.le_iff_toNat_le.mp hfirst)
  clear hfirst
  induction n generalizing f with
  | zero => rw [UInt64.toNat_inj.mp hn]
  | succ n ih =>
    have hone : (1 : Frame).toNat = 1 := rfl
    have hbefore : (f - 1).toNat = f.toNat - 1 := toNat_sub (by omega)
    have hlt : f - 1 < final :=
      UInt64.lt_of_lt_of_le (UInt64.lt_iff_toNat_lt.mpr (by omega)) hfinal
    have hstep := steps (f - 1) (UInt64.le_iff_toNat_le.mpr (by omega)) hlt
    rw [UInt64.sub_add_cancel] at hstep
    rw [← hstep]
    exact ih (f - 1) (UInt64.le_of_lt hlt) (by omega)

end Frame

end Montage
