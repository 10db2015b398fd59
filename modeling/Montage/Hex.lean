/-!
Hexadecimal digits, in either case.
-/

namespace Montage.Hex

def value? (c : Char) : Option Nat :=
  if '0' ≤ c ∧ c ≤ '9' then some (c.toNat - 48)
  else if 'a' ≤ c ∧ c ≤ 'f' then some (c.toNat - 87)
  else if 'A' ≤ c ∧ c ≤ 'F' then some (c.toNat - 55)
  else none

/-- `width` digits, in lower case, most significant first. -/
def digits (width n : Nat) : List Char :=
  let ds := Nat.toDigits 16 n
  List.replicate (width - ds.length) '0' ++ ds

/-- The number that digits stand for. -/
def number? (cs : List Char) : Option Nat :=
  (cs.mapM value?).map fun ds => ds.foldl (fun n d => n * 16 + d) 0

/-- Bytes of two digits each. -/
def bytes? : List Char → Option (List UInt8)
  | [] => some []
  | high :: low :: rest => do return UInt8.ofNat (← number? [high, low]) :: (← bytes? rest)
  | _ => none

end Montage.Hex
