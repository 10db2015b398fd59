/-!
Frame numbers. A frame is a 64-bit word, and sums and differences of frames stop at the ends of
that range instead of wrapping.
-/

namespace Montage

/-- A position on the timeline or in a source, in whole frames. -/
abbrev Frame := UInt64

namespace Frame

/-- The last frame there is. -/
def last : Frame := 18446744073709551615

def addSat (a b : Frame) : Frame :=
  if a.toNat + b.toNat < 18446744073709551616 then a + b else last

def subSat (a b : Frame) : Frame :=
  if b ≤ a then a - b else 0

theorem toNat_last : last.toNat = 18446744073709551615 := rfl

theorem toNat_addSat (a b : Frame) :
    (addSat a b).toNat = min (a.toNat + b.toNat) 18446744073709551615 := by
  unfold addSat
  split
  · rw [UInt64.toNat_add, Nat.mod_eq_of_lt (by assumption)]
    omega
  · rw [toNat_last]
    omega

theorem toNat_subSat (a b : Frame) : (subSat a b).toNat = a.toNat - b.toNat := by
  unfold subSat
  split
  · next h => exact UInt64.toNat_sub_of_le a b h
  · next h =>
    have : a.toNat < b.toNat := by simpa [UInt64.le_iff_toNat_le] using h
    show 0 = a.toNat - b.toNat
    omega

end Frame

end Montage
