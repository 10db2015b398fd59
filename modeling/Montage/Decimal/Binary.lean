import Montage.Decimal.Rounding

/-!
Binary floating point as exact numbers: a float is read into a sign, a significand and a power of
two, and any quotient of naturals is rounded back to the nearest float of a format, a tie going to
the even significand.
-/

namespace Montage

/-- The number `significand * 2 ^ exponent`, negated when `negative`. -/
structure Binary where
  negative : Bool
  significand : Nat
  exponent : Int
  deriving DecidableEq

/-- The unit `2 ^ k` is the quotient of `twos k` and `twos (-k)`. -/
def Binary.twos (k : Int) : Nat := Nat.pow 2 k.toNat

/-- What the bits of a float stand for. -/
inductive Reading where
  | finite (b : Binary)
  | infinite (negative : Bool)
  | notANumber
  deriving DecidableEq

/-- A binary format: how many bits a significand and the exponent field have. -/
structure BinaryFormat where
  precision : Nat
  exponentBits : Nat

namespace BinaryFormat

open Binary (twos)

def single : BinaryFormat := ⟨24, 8⟩

def double : BinaryFormat := ⟨53, 11⟩

/-- Bits kept of a significand; a normal one has one more in front. -/
def storedBits (f : BinaryFormat) : Nat := f.precision - 1

/-- The power of two that the last bit of the smallest floats stands for. -/
def leastExponent (f : BinaryFormat) : Int :=
  3 - Nat.pow 2 (f.exponentBits - 1) - f.precision

/-- The exponent field of infinities and of what is not a number. -/
def specialField (f : BinaryFormat) : Nat := Nat.pow 2 f.exponentBits - 1

def read (f : BinaryFormat) (bits : Nat) : Reading :=
  let stored := bits % Nat.pow 2 f.storedBits
  let field := bits / Nat.pow 2 f.storedBits % Nat.pow 2 f.exponentBits
  let negative := bits / Nat.pow 2 (f.storedBits + f.exponentBits) % 2 == 1
  if field = f.specialField then
    if stored = 0 then .infinite negative else .notANumber
  else if field = 0 then .finite ⟨negative, stored, f.leastExponent⟩
  else .finite ⟨negative, Nat.pow 2 f.storedBits + stored, f.leastExponent + (field - 1 : Nat)⟩

/-- The floor of the binary logarithm of `num / den`, both positive. -/
def logTwo (num den : Nat) : Int :=
  let guess : Int := (Nat.log2 num : Int) - Nat.log2 den
  if num * twos (-guess) < den * twos guess then guess - 1 else guess

/-- The bits, less the sign, of the float nearest to `num / den`; `den` is positive. -/
def nearestBits (f : BinaryFormat) (num den : Nat) : Nat :=
  if num = 0 then 0
  else
    let q := max f.leastExponent (logTwo num den - f.storedBits)
    let m := Rounding.halfEven.size (num * twos (-q)) (den * twos q) false
    let bits := (q - f.leastExponent).toNat * Nat.pow 2 f.storedBits + m
    min bits (f.specialField * Nat.pow 2 f.storedBits)

/-- The bit that marks a negative float. -/
def signBit (f : BinaryFormat) : Nat := Nat.pow 2 (f.storedBits + f.exponentBits)

end BinaryFormat

namespace Binary

/-- The value as a quotient of an integer and a power of two. -/
def toQuotient (b : Binary) : Int × Nat :=
  let size : Int := b.significand * twos b.exponent
  (if b.negative then -size else size, twos (-b.exponent))

/-- The value times `scale`, as a whole number. -/
def toInt (b : Binary) (r : Rounding) (scale : Nat) : Int :=
  let (num, den) := b.toQuotient
  r.apply (num * scale) den

end Binary

namespace Reading

/-- The whole number that stands for a float in the range from `lo` to `hi`: outside of it the
nearer end, and nought for what is not a number. -/
def toIntIn (r : Reading) (rounding : Rounding) (scale : Nat) (lo hi : Int) : Int :=
  match r with
  | .finite b => max lo (min hi (b.toInt rounding scale))
  | .infinite negative => if negative then lo else hi
  | .notANumber => 0

end Reading

end Montage

namespace Float

open Montage

def reading (x : Float) : Reading := BinaryFormat.double.read x.toBits.toNat

/-- A total order of all bits: below nought by falling size, `-0` before `0`, and what is not a
number at the ends. -/
def rank (x : Float) : Int :=
  let bits := x.toBits.toNat
  if bits < 9223372036854775808 then bits else 9223372036854775807 - (bits : Int)

/-- The double nearest to `num / den`, with the given sign; `den` is positive. -/
def ofQuotient (negative : Bool) (num den : Nat) : Float :=
  let size := BinaryFormat.double.nearestBits num den
  Float.ofBits (UInt64.ofNat (if negative then size + BinaryFormat.double.signBit else size))

/-- The double nearest to an integer. -/
def nearestInt (n : Int) : Float := ofQuotient (n < 0) n.natAbs 1

/-- Rounds to a whole number, keeping the sign of a nought; infinities and what is not a number
stay as they are. -/
def toWhole (x : Float) (r : Rounding) : Float :=
  match x.reading with
  | .finite b => ofQuotient b.negative (b.toInt r 1).natAbs 1
  | _ => x

end Float

namespace Float32

open Montage

def reading (x : Float32) : Reading := BinaryFormat.single.read x.toBits.toNat

/-- The single nearest to `num / den`, with the given sign; `den` is positive. -/
def ofQuotient (negative : Bool) (num den : Nat) : Float32 :=
  let size := BinaryFormat.single.nearestBits num den
  Float32.ofBits (UInt32.ofNat (if negative then size + BinaryFormat.single.signBit else size))

/-- The single nearest to an integer. -/
def nearestInt (n : Int) : Float32 := ofQuotient (n < 0) n.natAbs 1

/-- Rounds to a whole number, keeping the sign of a nought; infinities and what is not a number
stay as they are. -/
def toWhole (x : Float32) (r : Rounding) : Float32 :=
  match x.reading with
  | .finite b => ofQuotient b.negative (b.toInt r 1).natAbs 1
  | _ => x

/-- The single nearest to a double. -/
def ofDouble (x : Float) : Float32 :=
  match x.reading with
  | .finite b => ofQuotient b.negative (b.toQuotient.1.natAbs) b.toQuotient.2
  | .infinite negative => if negative then -(1.0 / 0.0) else 1.0 / 0.0
  | .notANumber => 0.0 / 0.0

end Float32

/-- The double equal to a single. -/
def Float.ofSingle (x : Float32) : Float :=
  match x.reading with
  | .finite b => Float.ofQuotient b.negative (b.toQuotient.1.natAbs) b.toQuotient.2
  | .infinite negative => if negative then -(1.0 / 0.0) else 1.0 / 0.0
  | .notANumber => 0.0 / 0.0
