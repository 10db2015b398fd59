import Mathlib.Tactic.Common
import Montage.Scalar

/-!
The order of floats.

Of two floats one is at most the other, unless one of them is not a number: that is in no order with
any float, and not with itself either. So `x ≤ x` says of `x` that it is a number.
-/

namespace Montage

open Float.Model (UnpackedFloat)

section

open Float.Model.UnpackedFloat

lemma compare_swap (a b : UnpackedFloat) : b.compare a = (a.compare b).map Ordering.swap := by
  have hsigns : ∀ s t : Sign, compare t s = (compare s t).swap := by
    intro s t
    cases s <;> cases t <;> rfl
  have hfinite : ∀ (e f : Int) (m n : Nat),
      (compare f e).then (compare n m) = ((compare e f).then (compare m n)).swap := by
    intro e f m n
    rw [Ordering.swap_then, Int.compare_swap, Nat.compare_swap]
  cases a with
  | notANumber => cases b <;> rfl
  | infinity s =>
    cases b with
    | infinity t => exact congrArg some (hsigns s t)
    | _ => cases s <;> rfl
  | zero =>
    cases b with
    | infinity t | finite t => cases t <;> rfl
    | _ => rfl
  | finite s m e =>
    cases b with
    | infinity t => cases s <;> cases t <;> rfl
    | finite t n f =>
      have hthen := hfinite e f m n
      cases s with
      | negative =>
        cases t with
        | negative => exact congrArg (some ·.swap) hthen
        | positive => rfl
      | positive =>
        cases t with
        | negative => rfl
        | positive => exact congrArg some hthen
    | _ => cases s <;> rfl

lemma compare_eq_none_iff (a b : UnpackedFloat) :
    a.compare b = none ↔ a = .notANumber ∨ b = .notANumber := by
  constructor
  · intro h
    cases a with
    | notANumber => exact .inl rfl
    | zero =>
      cases b with
      | notANumber => exact .inr rfl
      | infinity t | finite t => cases t <;> cases h
      | zero => cases h
    | infinity s | finite s =>
      cases b with
      | notANumber => exact .inr rfl
      | infinity t | finite t => cases s <;> cases t <;> cases h
      | zero => cases s <;> cases h
  · rintro (rfl | rfl)
    · cases b <;> rfl
    · cases a <;> rfl

lemma compare_self {a : UnpackedFloat} (h : a ≠ .notANumber) : a.compare a = some .eq := by
  cases a with
  | notANumber => exact absurd rfl h
  | zero => rfl
  | infinity s => cases s <;> rfl
  | finite s m e =>
    have hself : (compare e e).then (compare m m) = .eq := by
      rw [Std.compare_self, Std.compare_self]
      rfl
    cases s with
    | negative => exact congrArg (some ·.swap) hself
    | positive => exact congrArg some hself

end

variable {x y lo hi : Float}

lemma float_lt_iff : x < y ↔ x.toModel.unpack.lt y.toModel.unpack = true := by
  show decide (x.toModel < y.toModel) = true ↔ _
  exact decide_eq_true_iff

lemma float_le_iff : x ≤ y ↔ x.toModel.unpack.le y.toModel.unpack = true := by
  show decide (x.toModel ≤ y.toModel) = true ↔ _
  exact decide_eq_true_iff

lemma float_le_self_iff : x ≤ x ↔ x.toModel.unpack ≠ .notANumber := by
  rw [float_le_iff, UnpackedFloat.le]
  refine ⟨fun hle hnan => ?_, fun hne => by rw [compare_self hne]; rfl⟩
  rw [(compare_eq_none_iff _ _).mpr (.inl hnan)] at hle
  cases hle

lemma float_le_self_of_isFinite (h : x.isFinite = true) : x ≤ x := by
  refine float_le_self_iff.mpr fun hnan => ?_
  have hfinite : x.toModel.unpack.isFinite = true := h
  rw [hnan] at hfinite
  cases hfinite

lemma float_le_self_of_le (h : x ≤ y) : x ≤ x ∧ y ≤ y := by
  rw [float_le_self_iff, float_le_self_iff, ← not_or, ← compare_eq_none_iff]
  intro hnone
  rw [float_le_iff, UnpackedFloat.le, hnone] at h
  cases h

lemma float_le_of_not_lt (hx : x ≤ x) (hy : y ≤ y) (h : ¬x < y) : y ≤ x := by
  have hne : x.toModel.unpack.compare y.toModel.unpack ≠ none := by
    rw [Ne, compare_eq_none_iff, not_or]
    exact ⟨float_le_self_iff.mp hx, float_le_self_iff.mp hy⟩
  obtain ⟨o, ho⟩ := Option.ne_none_iff_exists'.mp hne
  rw [float_lt_iff, UnpackedFloat.lt, ho] at h
  rw [float_le_iff, UnpackedFloat.le, compare_swap, ho]
  cases o with
  | lt => exact absurd rfl h
  | eq | gt => rfl

lemma clamp_mem (h : lo ≤ hi) (hx : x ≤ x) :
    lo ≤ Scalar.clamp x lo hi ∧ Scalar.clamp x lo hi ≤ hi := by
  obtain ⟨hlo, hhi⟩ := float_le_self_of_le h
  unfold Scalar.clamp
  split
  · exact ⟨hlo, h⟩
  · next hbelow =>
    split
    · exact ⟨h, hhi⟩
    · next habove => exact ⟨float_le_of_not_lt hx hlo hbelow, float_le_of_not_lt hhi hx habove⟩

end Montage
