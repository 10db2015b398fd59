import Montage.Visual.Easing
import Montage.Visual.Transform

/-!
Keyframes: overrides tied to frames of the timeline, and the transform they give at each frame.
Lists of keyframes are in order of their frames.
-/

namespace Montage

structure Keyframe (α : Type) where
  frame : Frame
  override : TransformOverride α
  /-- Bends the way into this keyframe. -/
  easing : Easing := .linear

namespace Keyframe

variable {α : Type}

/-- The transform at a frame: on a keyframe and outside of all of them the nearest keyframe over
the base, between two of them a point of the way from the one to the other. -/
def resolve [Scalar α] (base : Transform α) (keys : List (Keyframe α)) (frame : Frame) :
    Transform α :=
  let past := keys.takeWhile fun k => k.frame ≤ frame
  match past.getLast?, keys.drop past.length with
  | none, [] => base
  | none, after :: _ => after.override.onto base
  | some before, [] => before.override.onto base
  | some before, after :: _ =>
    if before.frame = frame then before.override.onto base
    else
      let span : α := Scalar.ofFrame (after.frame - before.frame)
      let progress := Scalar.ofFrame (frame - before.frame) / span
      (before.override.onto base).lerp (after.override.onto base) (after.easing.apply progress)

/-- Whether a frame lies from the first to the last of at least two keyframes. -/
def isAnimating (keys : List (Keyframe α)) (frame : Frame) : Bool :=
  match keys.head?, keys.getLast? with
  | some first, some final => 1 < keys.length && first.frame ≤ frame && frame ≤ final.frame
  | _, _ => false

def toJson (k : Keyframe Float32) : Json :=
  .obj [("frame", .ofFrame k.frame), ("transform", k.override.toJson), ("easing", k.easing.toJson)]

def ofJson? (v : Json) : Option (Keyframe Float32) := do
  let r ← Json.Record.ofJson? ["frame", "transform", "easing"] v
  return {
    frame := ← r.required "frame" Json.word64?
    override := ← r.required "transform" TransformOverride.ofJson?
    easing := ← r.withDefault "easing" .linear Easing.ofJson? }

instance : Json.Codec (Keyframe Float32) := ⟨toJson, ofJson?⟩

end Keyframe

end Montage
