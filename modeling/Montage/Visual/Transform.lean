import Montage.Json.Record
import Montage.Scalar

/-!
Where a layer is put and how it looks: position, scale, rotation and opacity. An override gives
some of these fields anew and leaves the others to the transform it is merged over.
-/

namespace Montage

structure Vec2 (α : Type) where
  x : α
  y : α
  deriving BEq, DecidableEq

structure Transform (α : Type) where
  /-- Offset in parts of the output size. -/
  position : Vec2 α
  scale : Vec2 α
  /-- Degrees, clockwise. -/
  rotation : α
  /-- From 0, unseen, to 1. -/
  opacity : α
  deriving BEq, DecidableEq

structure TransformOverride (α : Type) where
  positionX : Option α := none
  positionY : Option α := none
  scaleX : Option α := none
  scaleY : Option α := none
  rotation : Option α := none
  opacity : Option α := none
  deriving BEq, DecidableEq

section
variable {α : Type} [Scalar α]

namespace Vec2

def lerp (a b : Vec2 α) (t : α) : Vec2 α :=
  let s := 1.0 - t
  ⟨a.x * s + b.x * t, a.y * s + b.y * t⟩

def mul (a b : Vec2 α) : Vec2 α := ⟨a.x * b.x, a.y * b.y⟩

end Vec2

namespace Transform

def identity : Transform α := ⟨⟨0.0, 0.0⟩, ⟨1.0, 1.0⟩, 0.0, 1.0⟩

/-- Each field on its own way from `a` to `b`, the part `t` of it. -/
def lerp (a b : Transform α) (t : α) : Transform α where
  position := a.position.lerp b.position t
  scale := a.scale.lerp b.scale t
  rotation := a.rotation + (b.rotation - a.rotation) * t
  opacity := a.opacity + (b.opacity - a.opacity) * t

def fade (a : Transform α) (factor : α) : Transform α :=
  { a with opacity := a.opacity * factor }

end Transform
end

namespace TransformOverride

variable {α : Type}

def none : TransformOverride α := {}

def ofOpacity (value : α) : TransformOverride α := { opacity := some value }

def ofPosition (x y : α) : TransformOverride α := { positionX := some x, positionY := some y }

def ofScale (value : α) : TransformOverride α := { scaleX := some value, scaleY := some value }

def ofRotation (degrees : α) : TransformOverride α := { rotation := some degrees }

def isEmpty (o : TransformOverride α) : Bool :=
  o.positionX.isNone && o.positionY.isNone && o.scaleX.isNone && o.scaleY.isNone
    && o.rotation.isNone && o.opacity.isNone

/-- The fields of the override where it has them, those of the base elsewhere. -/
def onto (o : TransformOverride α) (base : Transform α) : Transform α where
  position := ⟨o.positionX.getD base.position.x, o.positionY.getD base.position.y⟩
  scale := ⟨o.scaleX.getD base.scale.x, o.scaleY.getD base.scale.y⟩
  rotation := o.rotation.getD base.rotation
  opacity := o.opacity.getD base.opacity

@[simp] theorem onto_none (base : Transform α) : (none : TransformOverride α).onto base = base :=
  rfl

end TransformOverride

section
open Json

def Vec2.toJson (v : Vec2 Float32) : Json := .arr [.single v.x, .single v.y]

def Vec2.ofJson? : Json → Option (Vec2 Float32)
  | .arr [x, y] => do return ⟨← single? x, ← single? y⟩
  | _ => none

instance : Json.Codec (Vec2 Float32) := ⟨Vec2.toJson, Vec2.ofJson?⟩

def Transform.toJson (t : Transform Float32) : Json :=
  .obj [("position", t.position.toJson), ("scale", t.scale.toJson),
    ("rotation", .single t.rotation), ("opacity", .single t.opacity)]

def Transform.ofJson? (v : Json) : Option (Transform Float32) := do
  let r ← Record.ofJson? ["position", "scale", "rotation", "opacity"] v
  return {
    position := ← r.required "position" Vec2.ofJson?
    scale := ← r.required "scale" Vec2.ofJson?
    rotation := ← r.required "rotation" single?
    opacity := ← r.required "opacity" single? }

instance : Json.Codec (Transform Float32) := ⟨Transform.toJson, Transform.ofJson?⟩

def TransformOverride.toJson (o : TransformOverride Float32) : Json :=
  .obj [("position_x", ofOption .single o.positionX), ("position_y", ofOption .single o.positionY),
    ("scale_x", ofOption .single o.scaleX), ("scale_y", ofOption .single o.scaleY),
    ("rotation", ofOption .single o.rotation), ("opacity", ofOption .single o.opacity)]

def TransformOverride.ofJson? (v : Json) : Option (TransformOverride Float32) := do
  let r ← Record.ofJson?
    ["position_x", "position_y", "scale_x", "scale_y", "rotation", "opacity"] v
  let field (name : String) := r.withDefault name Option.none (orNull? single?)
  return {
    positionX := ← field "position_x"
    positionY := ← field "position_y"
    scaleX := ← field "scale_x"
    scaleY := ← field "scale_y"
    rotation := ← field "rotation"
    opacity := ← field "opacity" }

instance : Json.Codec (TransformOverride Float32) :=
  ⟨TransformOverride.toJson, TransformOverride.ofJson?⟩

end

end Montage
