import Montage.Json.Record
import Montage.Scalar

/-!
Easings: how the progress between two keyframes is bent. Progress and result run from 0 to 1.
-/

namespace Montage

inductive Easing where
  | linear
  | easeIn
  | easeOut
  | easeInOut
  deriving DecidableEq

namespace Easing

def apply {α : Type} [Scalar α] (e : Easing) (progress : α) : α :=
  let t := Scalar.clamp progress 0.0 1.0
  match e with
  | linear => t
  | easeIn => t * t
  | easeOut => t * (2.0 - t)
  | easeInOut => if t < 0.5 then 2.0 * t * t else -1.0 + (4.0 - 2.0 * t) * t

def name : Easing → String
  | linear => "linear"
  | easeIn => "easeIn"
  | easeOut => "easeOut"
  | easeInOut => "easeInOut"

/-- Three spellings a name; any other name is linear. -/
def ofName (name : String) : Easing :=
  if ["easeIn", "ease-in", "ease_in"].contains name then easeIn
  else if ["easeOut", "ease-out", "ease_out"].contains name then easeOut
  else if ["easeInOut", "ease-in-out", "ease_in_out"].contains name then easeInOut
  else linear

def toJson (e : Easing) : Json := .str e.name

def ofJson? (v : Json) : Option Easing := v.string?.map ofName

instance : Json.Codec Easing := ⟨toJson, ofJson?⟩

theorem ofName_name (e : Easing) : ofName e.name = e := by cases e <;> decide

end Easing

end Montage
