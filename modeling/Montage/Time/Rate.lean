import Montage.Time.Rational

/-!
Frame rates, and the way between frames and seconds. Rates are exact, so that a rate such as
30000/1001 does not drift over a long timeline.
-/

namespace Montage

/-- Frames per second, `numerator / denominator`. -/
structure FrameRate where
  numerator : UInt32
  denominator : UInt32
  deriving DecidableEq

namespace FrameRate

def fps23976 : FrameRate := ⟨24000, 1001⟩
def fps24 : FrameRate := ⟨24, 1⟩
def fps25 : FrameRate := ⟨25, 1⟩
def fps2997 : FrameRate := ⟨30000, 1001⟩
def fps30 : FrameRate := ⟨30, 1⟩
def fps50 : FrameRate := ⟨50, 1⟩
def fps60 : FrameRate := ⟨60, 1⟩

instance : Inhabited FrameRate := ⟨fps30⟩

/-- A rate is of use for timing when neither term is nought. -/
def isValid (r : FrameRate) : Bool := r.numerator != 0 && r.denominator != 0

section
variable {α : Type} [Scalar α]

def fps (r : FrameRate) : α := Scalar.ofInt r.numerator.toNat / Scalar.ofInt r.denominator.toNat

/-- Seconds that one frame lasts. -/
def interval (r : FrameRate) : α :=
  Scalar.ofInt r.denominator.toNat / Scalar.ofInt r.numerator.toNat

/-- Milliseconds that one frame lasts at normal speed. -/
def intervalMs (r : FrameRate) : α := (1000.0 : α) / r.fps

end

def frameDuration (r : FrameRate) : Except Fault RationalTime :=
  RationalTime.ofTerms r.denominator.toNat r.numerator.toNat

/-- The instant a frame starts. Frame numbers of more than 63 bits count as negative. -/
def timeOf (r : FrameRate) (f : Frame) : Except Fault RationalTime := do
  let count : Int :=
    if f.toNat < 9223372036854775808 then f.toNat else f.toNat - 18446744073709551616
  RationalTime.ofTerms (← Fault.word (count * r.denominator.toNat)) r.numerator.toNat

/-- The frame an instant falls in; the first one for instants before the start. -/
def frameAt (r : FrameRate) (t : RationalTime) : Except Fault Frame := do
  let frames ← t.mul (← RationalTime.ofTerms r.numerator.toNat r.denominator.toNat)
  return UInt64.ofNat (frames.numer.tdiv frames.denom).toNat

section
variable {α : Type} [Scalar α]

def secondsOf (r : FrameRate) (f : Frame) : Except Fault α := do
  return (← r.timeOf f).toSeconds

def frameAtSeconds (r : FrameRate) (seconds : α) : Except Fault Frame := do
  r.frameAt (← RationalTime.ofSeconds seconds)

end

/-- A whole number of frames per second, or three places. -/
def text (r : FrameRate) : String :=
  let fps : Float := r.fps
  let whole := Scalar.round fps
  if Scalar.abs (fps - whole) < 0.001 then
    Numeral.digits (Scalar.wholeIn 0 4294967295 whole).toNat ++ " fps"
  else fps.fixedText 3 ++ " fps"

end FrameRate

end Montage
