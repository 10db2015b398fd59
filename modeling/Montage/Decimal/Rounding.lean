/-!
Rounding a quotient of integers to a whole number. Every rounding in the library is one of these
four, done exactly on the quotient.
-/

namespace Montage

inductive Rounding where
  | down
  | towardZero
  /-- To the nearest whole number, a half away from zero. -/
  | halfAway
  /-- To the nearest whole number, a half to the even neighbour. -/
  | halfEven
  deriving DecidableEq

namespace Rounding

/-- The quotient `num / den` of naturals, rounded to nearest; a tie goes up when `tieUp`. -/
def nearest (num den : Nat) (tieUp : Nat → Bool) : Nat :=
  let whole := num / den
  let twice := 2 * (num % den)
  if den < twice ∨ (twice = den ∧ tieUp whole) then whole + 1 else whole

/-- Rounds the size of a quotient; the sign is put back by `apply`. -/
def size (r : Rounding) (num den : Nat) (negative : Bool) : Nat :=
  match r with
  | down => if negative then (num + den - 1) / den else num / den
  | towardZero => num / den
  | halfAway => nearest num den fun _ => true
  | halfEven => nearest num den fun whole => whole % 2 == 1

/-- The quotient `num / den` as a whole number; `den` is positive. -/
def apply (r : Rounding) (num : Int) (den : Nat) : Int :=
  if num < 0 then -(r.size num.natAbs den true : Int) else (r.size num.natAbs den false : Int)

theorem nearest_mul (n den : Nat) (h : 0 < den) (tieUp : Nat → Bool) :
    nearest (n * den) den tieUp = n := by
  unfold nearest
  simp only [Nat.mul_mod_left, Nat.mul_div_cancel n h, Nat.mul_zero]
  split
  · omega
  · rfl

theorem nearest_le (num den : Nat) (tieUp : Nat → Bool) :
    nearest num den tieUp ≤ num / den + 1 := by
  unfold nearest
  dsimp only
  split <;> omega

end Rounding

end Montage
