import Montage.Decimal.Reader

/-!
Values of options: what texts stand for numbers, and for which.
-/

namespace Montage.CommandLine

def natural? (cs : List Char) : Option Nat :=
  if !cs.isEmpty && cs.all Char.isDigit then some (Decimal.digitsValue cs) else none

/-- A number without a sign, or with a plus. -/
def unsigned? : List Char → Option Nat
  | '+' :: rest => natural? rest
  | cs => natural? cs

def signed? : List Char → Option Int
  | '-' :: rest => (natural? rest).map fun n => -(n : Int)
  | cs => (unsigned? cs).map fun n => (n : Int)

def word64? (text : String) : Option UInt64 := do
  let n ← unsigned? text.toList
  if n < 18446744073709551616 then some (UInt64.ofNat n) else none

/-- Nought may have a minus. -/
def word32? (text : String) : Option UInt32 := do
  let n ← signed? text.toList
  if 0 ≤ n ∧ n < 4294967296 then some (UInt32.ofNat n.toNat) else none

/-- Digits with or without a point among them, and an exponent. One digit is needed. -/
def decimal? (negative : Bool) (cs : List Char) : Option Float := do
  let (whole, rest) := Decimal.takeDigits cs
  let (places, rest) := match rest with
    | '.' :: rest => Decimal.takeDigits rest
    | rest => ([], rest)
  if whole.isEmpty && places.isEmpty then none
  let (power, rest) ← Decimal.takeExponent rest
  if !rest.isEmpty then none
  return Float.ofDecimal negative
    ⟨Decimal.digitsValue (whole ++ places), power.getD 0 - places.length⟩

/-- A number, an infinity, or what is not a number; these two in letters of either case. -/
def double? (text : String) : Option Float :=
  let (negative, cs) := match text.toList with
    | '-' :: rest => (true, rest)
    | '+' :: rest => (false, rest)
    | cs => (false, cs)
  match String.ofList (cs.map Char.toLower) with
  | "inf" | "infinity" => some (if negative then -(1.0 / 0.0) else 1.0 / 0.0)
  | "nan" => some (0.0 / 0.0)
  | _ => decimal? negative cs

/-- A path is any text but the empty one. -/
def path? (text : String) : Option String := if text.isEmpty then none else some text

end Montage.CommandLine
