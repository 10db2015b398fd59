import Montage.Decimal.Numeral
import Montage.Fault
import Montage.Scalar

/-!
Points in time as exact quotients of seconds.

Numerator and denominator are signed 64-bit words. Sums, differences and products reduce as they
go, and a step whose exact result is no such word is a fault.
-/

namespace Montage

/-- An integer that fits a signed 64-bit word. -/
def Fault.word (n : Int) : Except Fault Int :=
  if -9223372036854775808 ≤ n ∧ n ≤ 9223372036854775807 then .ok n else .error .overflow

structure RationalTime where
  numer : Int
  denom : Int
  deriving DecidableEq

namespace RationalTime

open Fault (word)

def zero : RationalTime := ⟨0, 1⟩

/-- The greatest common divisor; it may just fail to be a word. -/
def gcd (a b : Int) : Except Fault Int := word (Int.gcd a b)

/-- The quotient in lowest terms, with a positive denominator. -/
def ofTerms (n d : Int) : Except Fault RationalTime := do
  if d = 0 then throw .zeroDenominator
  if n = 0 then return zero
  if n = d then return ⟨1, 1⟩
  let g ← gcd n d
  let n := n.tdiv g
  let d := d.tdiv g
  if d < 0 then return ⟨← word (-n), ← word (-d)⟩
  return ⟨n, d⟩

def lcm (a b : Int) : Except Fault Int := do
  let g ← gcd a b
  word (a * b.tdiv g).natAbs

def add (a b : RationalTime) : Except Fault RationalTime := do
  if a.denom = b.denom then ofTerms (← word (a.numer + b.numer)) b.denom
  else
    let l ← lcm a.denom b.denom
    let x ← word (a.numer * l.tdiv a.denom)
    let y ← word (b.numer * l.tdiv b.denom)
    ofTerms (← word (x + y)) l

def sub (a b : RationalTime) : Except Fault RationalTime := do
  if a.denom = b.denom then ofTerms (← word (a.numer - b.numer)) b.denom
  else
    let l ← lcm a.denom b.denom
    let x ← word (a.numer * l.tdiv a.denom)
    let y ← word (b.numer * l.tdiv b.denom)
    ofTerms (← word (x - y)) l

/-- The product; common divisors across the two quotients go first. -/
def mul (a b : RationalTime) : Except Fault RationalTime := do
  let g ← gcd a.numer b.denom
  let h ← gcd a.denom b.numer
  let n ← word (a.numer.tdiv g * b.numer.tdiv h)
  let d ← word (a.denom.tdiv h * b.denom.tdiv g)
  ofTerms n d

/-- The exact order of two quotients with positive denominators. -/
def compare (a b : RationalTime) : Ordering :=
  Ord.compare (a.numer * b.denom) (b.numer * a.denom)

section
variable {α : Type} [Scalar α]

def toSeconds (t : RationalTime) : α := Scalar.ofInt t.numer / Scalar.ofInt t.denom

/-- The nearest whole microsecond, as far as a word reaches. -/
def ofSeconds (seconds : α) : Except Fault RationalTime :=
  ofTerms (Scalar.wholeIn (-9223372036854775808) 9223372036854775807
    (Scalar.round (seconds * (1000000.0 : α)))) 1000000

end

/-- Seconds with three places. -/
def text (t : RationalTime) : String := (t.toSeconds : Float).fixedText 3 ++ "s"

end RationalTime

end Montage
