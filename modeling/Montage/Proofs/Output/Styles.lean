import Mathlib.Tactic.Common
import Montage.Output.Style

/-!
Equality of styles, field by field as floats compare.

It is symmetric and transitive. It is not reflexive, for what is not a number differs from itself,
and it takes the two zeros for one.
-/

namespace Montage

open Float.Model UnpackedFloat in
/-- What floats that compare equal have in common; what is not a number has nothing in common with
any. -/
def comparand? : UnpackedFloat → Option (Sign ⊕ Option (Sign × Nat × Int))
  | .notANumber => none
  | .infinity s => some (.inl s)
  | .zero _ => some (.inr none)
  | .finite s m e _ => some (.inr (some (s, m, e)))

open Float.Model UnpackedFloat in
lemma compare_eq_eq_iff (a b : UnpackedFloat) :
    a.compare b = some .eq ↔ comparand? a = comparand? b ∧ comparand? a ≠ none := by
  have hsigns : ∀ s t : Sign, compare s t = .eq ↔ s = t := by
    intro s t
    cases s <;> cases t <;> exact ⟨fun h => by cases h <;> rfl, fun h => by cases h <;> rfl⟩
  have hfinite : ∀ (e f : Int) (m n : Nat),
      (compare e f).then (compare m n) = .eq ↔ m = n ∧ e = f := by
    intro e f m n
    rw [Ordering.then_eq_eq, Std.LawfulEqOrd.compare_eq_iff_eq, Nat.compare_eq_eq, and_comm]
  cases a with
  | notANumber => cases b <;> dsimp only [UnpackedFloat.compare, comparand?] <;> simp
  | infinity s =>
    cases s <;> cases b <;> dsimp only [UnpackedFloat.compare, comparand?] <;> simp [hsigns]
  | zero s =>
    cases b with
    | finite t => cases t <;> dsimp only [UnpackedFloat.compare, comparand?] <;> simp
    | infinity t => cases t <;> dsimp only [UnpackedFloat.compare, comparand?] <;> simp
    | _ =>
      dsimp only [UnpackedFloat.compare, comparand?]
      simp
  | finite s =>
    cases b with
    | finite t =>
      cases s <;> cases t <;> dsimp only [UnpackedFloat.compare, comparand?] <;> simp [hfinite]
    | infinity t =>
      cases s <;> cases t <;> dsimp only [UnpackedFloat.compare, comparand?] <;> simp
    | _ => cases s <;> dsimp only [UnpackedFloat.compare, comparand?] <;> simp

namespace Float32

open Float.Model.UnpackedFloat in
def comparand? (x : Float32) : Option (Sign ⊕ Option (Sign × Nat × Int)) :=
  Montage.comparand? x.toModel.unpack

lemma beq_iff (x y : Float32) :
    (x == y) = true ↔ comparand? x = comparand? y ∧ comparand? x ≠ none := by
  have hbeq : (x == y) = (x.toModel.unpack.compare y.toModel.unpack == some .eq) := rfl
  rw [hbeq, beq_iff_eq, compare_eq_eq_iff]
  rfl

lemma beq_symm {x y : Float32} (h : (x == y) = true) : (y == x) = true := by
  obtain ⟨heq, hne⟩ := (beq_iff x y).mp h
  exact (beq_iff y x).mpr ⟨heq.symm, heq ▸ hne⟩

lemma beq_trans {x y z : Float32} (h : (x == y) = true) (k : (y == z) = true) :
    (x == z) = true := by
  obtain ⟨hxy, hne⟩ := (beq_iff x y).mp h
  exact (beq_iff x z).mpr ⟨hxy.trans ((beq_iff y z).mp k).1, hne⟩

end Float32

namespace LayerStyle

variable {s t u : LayerStyle}

/-- Styles that are equal, or compare equal field by field. -/
def Same (s t : LayerStyle) : Prop := s = t ∨ (s == t) = true

lemma beq_iff (s t : LayerStyle) : (s == t) = true ↔
    ((s.translate.x == t.translate.x) = true ∧ (s.translate.y == t.translate.y) = true) ∧
      ((s.scale.x == t.scale.x) = true ∧ (s.scale.y == t.scale.y) = true) ∧
        (s.rotation == t.rotation) = true ∧ (s.opacity == t.opacity) = true ∧
          s.zIndex = t.zIndex ∧ s.willChange = t.willChange := by
  have hbeq : (s == t) = ((s.translate.x == t.translate.x && s.translate.y == t.translate.y) &&
      ((s.scale.x == t.scale.x && s.scale.y == t.scale.y) && (s.rotation == t.rotation &&
        (s.opacity == t.opacity && (s.zIndex == t.zIndex && s.willChange == t.willChange))))) := rfl
  rw [hbeq]
  simp only [Bool.and_eq_true, beq_iff_eq]

lemma beq_symm (h : (s == t) = true) : (t == s) = true := by
  obtain ⟨⟨h1, h2⟩, ⟨h3, h4⟩, h5, h6, h7, h8⟩ := (beq_iff s t).mp h
  exact (beq_iff t s).mpr ⟨⟨Float32.beq_symm h1, Float32.beq_symm h2⟩,
    ⟨Float32.beq_symm h3, Float32.beq_symm h4⟩, Float32.beq_symm h5, Float32.beq_symm h6, h7.symm,
    h8.symm⟩

lemma beq_trans (h : (s == t) = true) (k : (t == u) = true) : (s == u) = true := by
  obtain ⟨⟨h1, h2⟩, ⟨h3, h4⟩, h5, h6, h7, h8⟩ := (beq_iff s t).mp h
  obtain ⟨⟨k1, k2⟩, ⟨k3, k4⟩, k5, k6, k7, k8⟩ := (beq_iff t u).mp k
  exact (beq_iff s u).mpr ⟨⟨Float32.beq_trans h1 k1, Float32.beq_trans h2 k2⟩,
    ⟨Float32.beq_trans h3 k3, Float32.beq_trans h4 k4⟩, Float32.beq_trans h5 k5,
    Float32.beq_trans h6 k6, h7.trans k7, h8.trans k8⟩

@[refl] lemma Same.refl (s : LayerStyle) : s.Same s := .inl rfl

lemma Same.of_beq (h : s.Same u) (k : (s == t) = true) : t.Same u := by
  rcases h with rfl | h
  · exact .inr (beq_symm k)
  · exact .inr (beq_trans (beq_symm k) h)

lemma Same.beq (h : s.Same t) (k : (t == u) = true) : (s == u) = true := by
  rcases h with rfl | h
  · exact k
  · exact beq_trans h k

lemma Same.zIndex (h : s.Same t) : s.zIndex = t.zIndex := by
  rcases h with rfl | h
  · rfl
  · exact ((beq_iff s t).mp h).2.2.2.2.1

end LayerStyle

end Montage
