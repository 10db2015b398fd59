import Montage.Decimal.Binary
import Montage.Frame

/-!
The numbers that transforms, fades, rates and clocks are computed with.

Each formula of the library is written once, over a scalar. Programs run it on binary floats; over
the rationals the same formula is exact, and that reading is the one its laws speak of.
-/

namespace Montage

class Scalar (α : Type) extends Add α, Sub α, Mul α, Div α, Neg α, LE α, LT α, OfScientific α where
  decLe : DecidableLE α
  decLt : DecidableLT α
  /-- The scalar nearest to an integer. -/
  ofInt : Int → α
  /-- The nearest whole number, a half away from zero. -/
  round : α → α
  /-- The greatest whole number that is not above. -/
  floor : α → α
  /-- The whole part as an integer, brought into the range from the first to the second. -/
  wholeIn : Int → Int → α → Int
  isFinite : α → Bool

instance scalarDecidableLE {α : Type} [Scalar α] : DecidableLE α := Scalar.decLe

instance scalarDecidableLT {α : Type} [Scalar α] : DecidableLT α := Scalar.decLt

instance : Scalar Float where
  decLe := inferInstance
  decLt := inferInstance
  ofInt := Float.nearestInt
  round x := x.toWhole .halfAway
  floor x := x.toWhole .down
  wholeIn lo hi x := x.reading.toIntIn .towardZero 1 lo hi
  isFinite := Float.isFinite

instance : Scalar Float32 where
  decLe := inferInstance
  decLt := inferInstance
  ofInt := Float32.nearestInt
  round x := x.toWhole .halfAway
  floor x := x.toWhole .down
  wholeIn lo hi x := x.reading.toIntIn .towardZero 1 lo hi
  isFinite := Float32.isFinite

instance : Scalar Rat where
  decLe := inferInstance
  decLt := inferInstance
  ofInt n := n
  round x := (Rounding.halfAway.apply x.num x.den : Int)
  floor x := (Rounding.down.apply x.num x.den : Int)
  wholeIn lo hi x := max lo (min hi (Rounding.towardZero.apply x.num x.den))
  isFinite _ := true

namespace Scalar

variable {α : Type} [Scalar α]

def ofFrame (f : Frame) : α := ofInt f.toNat

def abs (x : α) : α := if x < 0.0 then -x else x

/-- The nearer end for a number outside of the range; what is not a number stays as it is. -/
def clamp (x lo hi : α) : α := if x < lo then lo else if hi < x then hi else x

/-- The number, or nought if it is not above nought. -/
def positivePart (x : α) : α := if 0.0 < x then x else 0.0

end Scalar

end Montage
