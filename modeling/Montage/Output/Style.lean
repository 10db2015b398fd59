import Montage.Decimal.Numeral
import Montage.Visual.Transform

/-!
How a layer is drawn: a resolved transform brought into the pixels of the output.
-/

namespace Montage

/-- The size of the output in pixels. -/
structure Viewport where
  width : UInt32
  height : UInt32
  deriving DecidableEq

namespace Viewport

def standard : Viewport := ⟨1920, 1080⟩

def size (v : Viewport) : Vec2 Float32 :=
  ⟨Scalar.ofInt v.width.toNat, Scalar.ofInt v.height.toNat⟩

def toJson (v : Viewport) : Json := .obj [("width", .ofWord v.width), ("height", .ofWord v.height)]

def ofJson? (v : Json) : Option Viewport := do
  let r ← Json.Record.ofJson? ["width", "height"] v
  return {
    width := ← r.required "width" Json.word32?
    height := ← r.required "height" Json.word32? }

instance : Json.Codec Viewport := ⟨toJson, ofJson?⟩

end Viewport

structure LayerStyle where
  /-- Offset in pixels. -/
  translate : Vec2 Float32
  scale : Vec2 Float32
  rotation : Float32
  opacity : Float32
  /-- A higher layer is drawn over a lower one. -/
  zIndex : Int
  /-- A hint that the layer is about to change. -/
  willChange : Bool
  deriving BEq

/-- The number of a place in the stack, counted from the bottom. It has 32 bits, one of them for the
sign. -/
def stackIndex (place : Nat) : Int := (place : Int).bmod 4294967296

namespace LayerStyle

def project (t : Transform Float32) (v : Viewport) (zIndex : Int) (animating : Bool) :
    LayerStyle where
  translate := t.position.mul v.size
  scale := t.scale
  rotation := t.rotation
  opacity := Scalar.clamp t.opacity 0.0 1.0
  zIndex := zIndex
  willChange := animating

/-- The transform in the notation of style sheets. -/
def css (s : LayerStyle) : String :=
  "translate(" ++ s.translate.x.fixedText 2 ++ "px, " ++ s.translate.y.fixedText 2 ++ "px) scale("
    ++ s.scale.x.fixedText 4 ++ ", " ++ s.scale.y.fixedText 4 ++ ") rotate("
    ++ s.rotation.fixedText 2 ++ "deg)"

def toJson (s : LayerStyle) : Json :=
  .obj [("translate", s.translate.toJson), ("scale", s.scale.toJson),
    ("rotation", .single s.rotation), ("opacity", .single s.opacity), ("z_index", .int s.zIndex),
    ("will_change", .bool s.willChange)]

def ofJson? (v : Json) : Option LayerStyle := do
  let r ← Json.Record.ofJson?
    ["translate", "scale", "rotation", "opacity", "z_index", "will_change"] v
  return {
    translate := ← r.required "translate" Vec2.ofJson?
    scale := ← r.required "scale" Vec2.ofJson?
    rotation := ← r.required "rotation" Json.single?
    opacity := ← r.required "opacity" Json.single?
    zIndex := ← r.required "z_index" Json.int32?
    willChange := ← r.required "will_change" Json.bool? }

instance : Json.Codec LayerStyle := ⟨toJson, ofJson?⟩

end LayerStyle

end Montage
