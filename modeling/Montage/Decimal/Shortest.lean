import Montage.Decimal.Binary

/-!
The fewest decimal digits that read back as a float.

The decimals that read back form an interval around the float, ends included when its significand
is even. On the grid of decimals with a given number of digits one of the float's two neighbours
lies in the interval if any point does, so the grids are tried from the coarsest on.
-/

namespace Montage

/-- The number `digits * 10 ^ exponent`. -/
structure Decimal where
  digits : Nat
  exponent : Int
  deriving DecidableEq

namespace Decimal

/-- The unit `10 ^ k` is the quotient of `tens k` and `tens (-k)`. -/
def tens (k : Int) : Nat := Nat.pow 10 k.toNat

/-- How many decimal digits a number is written with. -/
def width (n : Nat) : Nat := (Nat.toDigits 10 n).length

/-- Drops the noughts at the end of the digits, at most `fuel` of them. -/
def strip : Nat → Decimal → Decimal
  | 0, d => d
  | fuel + 1, d =>
    if d.digits % 10 = 0 ∧ d.digits ≠ 0 then strip fuel ⟨d.digits / 10, d.exponent + 1⟩ else d

/-- The exponent of the first digit: the number is `d.ddd * 10 ^ leading`. -/
def leading (d : Decimal) : Int := d.exponent + width d.digits - 1

end Decimal

/-- The decimals that read back as one float, as quotients over one denominator. -/
structure Span where
  low : Nat
  value : Nat
  high : Nat
  den : Nat
  closed : Bool

namespace Span

open Binary (twos)
open Decimal (tens)

/-- Half the way to each neighbouring float; below a power of two the neighbour is half as far,
save for the smallest floats. -/
def ofBinary (f : BinaryFormat) (b : Binary) : Span :=
  let up := twos (b.exponent - 2)
  let below := if b.significand = Nat.pow 2 f.storedBits ∧ f.leastExponent < b.exponent then 1 else 2
  { low := (4 * b.significand - below) * up
    value := 4 * b.significand * up
    high := (4 * b.significand + 2) * up
    den := twos (2 - b.exponent)
    closed := b.significand % 2 == 0 }

/-- Whether `point * 10 ^ k` lies in the span. -/
def contains (s : Span) (point : Nat) (k : Int) : Bool :=
  let p := point * tens k * s.den
  let scale := tens (-k)
  if s.closed then s.low * scale ≤ p && p ≤ s.high * scale
  else s.low * scale < p && p < s.high * scale

/-- The floor of the decimal logarithm of the value. -/
def logTen (s : Span) : Int :=
  let guess : Int := (Decimal.width s.value : Int) - Decimal.width s.den
  if s.value * tens (-guess) < s.den * tens guess then guess - 1 else guess

/-- The neighbour of the value on the grid of multiples of `10 ^ k` that lies in the span, the
nearer of two, the even one of two as near. -/
def onGrid? (s : Span) (k : Int) : Option Nat :=
  let num := s.value * tens (-k)
  let den := s.den * tens k
  let floor := num / den
  match s.contains floor k, s.contains (floor + 1) k with
  | true, true => some (Rounding.halfEven.size num den false)
  | true, false => some floor
  | false, true => some (floor + 1)
  | false, false => none

/-- The first hit on a grid of one digit, two digits and so on. -/
def search (s : Span) : Nat → Int → Decimal
  | 0, k => ⟨Rounding.halfEven.size (s.value * tens (-k)) (s.den * tens k) false, k⟩
  | fuel + 1, k =>
    match s.onGrid? k with
    | some point => ⟨point, k⟩
    | none => search s fuel (k - 1)

end Span

/-- The shortest decimal that reads back as the size of `b`; of those the nearest to it. -/
def Binary.shortest (f : BinaryFormat) (b : Binary) : Decimal :=
  if b.significand = 0 then ⟨0, 0⟩
  else
    let s := Span.ofBinary f b
    (s.search 16 s.logTen).strip 17

end Montage

/-- The double nearest to a decimal: nought far below the least and an infinity far above the
greatest, which the place of the first digit tells. -/
def Float.ofDecimal (negative : Bool) (d : Montage.Decimal) : Float :=
  if d.digits = 0 ∨ d.leading < -400 then Float.ofQuotient negative 0 1
  else if 400 < d.leading then Float.ofQuotient negative (Montage.Decimal.tens 400) 1
  else Float.ofQuotient negative (d.digits * Montage.Decimal.tens d.exponent)
    (Montage.Decimal.tens (-d.exponent))
