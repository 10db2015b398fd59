import Montage.Decimal.Shortest

/-!
The text of a float. A `Numeral` says how the shortest digits are laid out; `fixed` writes a given
number of places instead, rounded on the exact value.
-/

namespace Montage

/-- Where the point goes, and what a whole number ends in. -/
structure Numeral where
  /-- The exponents of the first digit that are written out; all of them when `none`. -/
  positional : Option (Int × Int)
  /-- Ends a number without a fraction. -/
  wholeEnding : String
  positiveMark : String

namespace Numeral

/-- Text for a reader: no exponent, no empty fraction. -/
def plain : Numeral := ⟨none, "", ""⟩

def isPositional (n : Numeral) (leading : Int) : Bool :=
  match n.positional with
  | none => true
  | some (least, greatest) => least ≤ leading && leading ≤ greatest

/-- Decimal digits of a number, most significant first. -/
def digits (n : Nat) : String := String.ofList (Nat.toDigits 10 n)

/-- `count` noughts. -/
def noughts (count : Nat) : String := String.ofList (List.replicate count '0')

/-- The decimal with its point in place. -/
def spread (n : Numeral) (d : Decimal) : String :=
  let text := Nat.toDigits 10 d.digits
  if 0 ≤ d.exponent then
    String.ofList text ++ noughts d.exponent.toNat ++ n.wholeEnding
  else
    let places := (-d.exponent).toNat
    if places < text.length then
      String.ofList (text.take (text.length - places)) ++ "."
        ++ String.ofList (text.drop (text.length - places))
    else "0." ++ noughts (places - text.length) ++ String.ofList text

/-- One digit, the point and the others, and the exponent. -/
def scientific (n : Numeral) (d : Decimal) : String :=
  let mantissa := match Nat.toDigits 10 d.digits with
    | [] => "0"
    | [c] => String.ofList [c]
    | c :: rest => String.ofList (c :: '.' :: rest)
  let e := d.leading
  mantissa ++ "e" ++ (if e < 0 then "-" else n.positiveMark) ++ digits e.natAbs

def write (n : Numeral) (negative : Bool) (d : Decimal) : String :=
  (if negative then "-" else "")
    ++ if n.isPositional d.leading then n.spread d else n.scientific d

/-- Names what is no number; a finite float is written from its shortest digits. -/
def text (n : Numeral) (f : BinaryFormat) : Reading → String
  | .finite b => n.write b.negative (b.shortest f)
  | .infinite negative => if negative then "-inf" else "inf"
  | .notANumber => "NaN"

end Numeral

namespace Reading

/-- `places` digits after the point, the exact value rounded with ties to even. The sign stays
also when all digits round to nought. -/
def fixed (places : Nat) : Reading → String
  | .finite b =>
    let scaled := (b.toInt .halfEven (Decimal.tens places)).natAbs
    let text := Nat.toDigits 10 scaled
    let padded := List.replicate (places + 1 - text.length) '0' ++ text
    (if b.negative then "-" else "") ++ String.ofList (padded.take (padded.length - places))
      ++ (if places = 0 then "" else "." ++ String.ofList (padded.drop (padded.length - places)))
  | .infinite negative => if negative then "-inf" else "inf"
  | .notANumber => "NaN"

end Reading

end Montage

namespace Float

open Montage

/-- The shortest digits that read back, for a reader. -/
def plainText (x : Float) : String := Numeral.plain.text .double x.reading

def fixedText (x : Float) (places : Nat) : String := x.reading.fixed places

end Float

namespace Float32

open Montage

def fixedText (x : Float32) (places : Nat) : String := x.reading.fixed places

end Float32
