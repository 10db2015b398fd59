import Montage.Json.Record
import Montage.Time.Rate

/-!
Frame rates and points in time as JSON. A quotient is kept as it is written, reduced or not.
-/

namespace Montage

namespace FrameRate

def toJson (r : FrameRate) : Json :=
  .obj [("numerator", .ofWord r.numerator), ("denominator", .ofWord r.denominator)]

def ofJson? (v : Json) : Option FrameRate := do
  let r ← Json.Record.ofJson? ["numerator", "denominator"] v
  return {
    numerator := ← r.required "numerator" Json.word32?
    denominator := ← r.required "denominator" Json.word32? }

instance : Json.Codec FrameRate := ⟨toJson, ofJson?⟩

end FrameRate

namespace RationalTime

def toJson (t : RationalTime) : Json := .obj [("value", .arr [.int t.numer, .int t.denom])]

def terms? : Json → Option RationalTime
  | .arr [n, d] => do
    let t : RationalTime := ⟨← Json.int64? n, ← Json.int64? d⟩
    if t.denom = 0 then none else some t
  | _ => none

def ofJson? (v : Json) : Option RationalTime := do
  let r ← Json.Record.ofJson? ["value"] v
  r.required "value" terms?

instance : Json.Codec RationalTime := ⟨toJson, ofJson?⟩

end RationalTime

end Montage
